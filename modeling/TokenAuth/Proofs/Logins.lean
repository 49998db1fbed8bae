import TokenAuth.Proofs.Handouts
import TokenAuth.Proofs.PasswordText
import TokenAuth.Proofs.ServerRuns

/-!
Who can log in. A stored user logs in with the email address and the password at any later time, as
long as the store is open and the lifetimes do not lead out of the range of instants, provided that the
email address holds no colon. With a colon in it the address is cut there, and whoever logs in then, it
is not this user.
-/
namespace TokenAuth

namespace Instant

/-- What is a second or more later is so also without its fraction. -/
theorem lt_wholeSecond_of_add? {t u : Instant} {d : Duration} (h : t.add? d = some u)
    (hd : 1000000000 ≤ d.nanoseconds) : t < u.wholeSecond := by
  have hseconds : t.seconds < u.seconds := by
    have hnanos := t.nanos_lt
    unfold add? at h
    dsimp only at h
    split at h
    · next hleap =>
      have hfull : (1000000000 : Int) ≤ t.nanos := by
        have : 1000000000 ≤ t.nanos := hleap.1
        omega
      split at h
      · omega
      · have := (ofParts?_eq_some h).1
        omega
    · have := (ofParts?_eq_some h).1
      omega
  rw [lt_iff]
  exact Or.inl hseconds

end Instant

theorem Password.ofText_text (p : Password) : ofText p.text = .ok p := by
  simp [ofText, p.text_ne]

theorem Password.text_of_ofText {s : String} {p : Password} (h : ofText s = .ok p) : p.text = s := by
  unfold ofText at h
  split at h
  · simp at h
  · rw [← Except.ok.inj h]

namespace Service.Server

open Headers

variable {s : Server} {r : Request} {h : Headers} {i : Identity}

/-- The token speaks for an identity up to this instant and not longer. -/
def SpeaksFor (g : Issuer) (t : SignedToken) (kind : TokenKind) (i : Identity) (e : Instant) : Prop :=
  ∀ now, g.verify now t kind = if e < now then .error .expired else .ok ⟨i, e⟩

theorem speaksFor_create (g : Issuer) (i : Identity) (e : Instant) (kind : TokenKind) :
    SpeaksFor g (g.create i e kind) kind i e.wholeSecond := fun now => g.verify_create i e kind now

theorem SpeaksFor.unique {g : Issuer} {t : SignedToken} {kind : TokenKind} {i i' : Identity}
    {e e' : Instant} (h : SpeaksFor g t kind i e) (h' : SpeaksFor g t kind i' e') : i = i' := by
  have hverify := h e
  rw [h' e, if_neg Std.lt_irrefl] at hverify
  split at hverify
  · simp at hverify
  · simpa using (congrArg VerifiedToken.identity (Except.ok.inj hverify)).symm

/-- The request is answered with two tokens for this identity. They are good for now if they are made
to last for a second or longer. -/
def LogsIn (s : Server) (r : Request) (i : Identity) : Prop :=
  ∃ t, HandsOut s r t ∧ ∃ access refresh : Instant,
    SpeaksFor s.issuer t.accessToken .access i access ∧
    SpeaksFor s.issuer t.refreshToken .refresh i refresh ∧
    (Duration.ofSeconds 1 ≤ s.issuer.policy.accessLifetime → s.now < access) ∧
    (Duration.ofSeconds 1 ≤ s.issuer.policy.refreshLifetime → s.now < refresh)

/-- Whoever logs in has a password that is not empty, and is recognised in the table while it is open. -/
theorem login_eq_ok_iff : s.login h = .ok i ↔ ∃ (c : BasicCredentials) (p : Password),
    h.basicCredentials = .ok c ∧ p.text = c.password ∧ s.store.isOpen = true ∧
      s.store.table.authenticate c.username p = .ok (some i) := by
  constructor
  · intro hlogin
    unfold login at hlogin
    split at hlogin
    · simp at hlogin
    · next c hcredentials =>
      split at hlogin
      · simp at hlogin
      · next p hp =>
        split at hlogin
        · simp at hlogin
        · simp at hlogin
        · next i' hfound =>
          rw [Except.ok.inj hlogin] at hfound
          unfold Store.authenticate at hfound
          split at hfound
          · simp at hfound
          · split at hfound
            · next hopen =>
              exact ⟨c, p, hcredentials, Password.text_of_ofText hp, hopen, hfound⟩
            · simp at hfound
  · rintro ⟨c, p, hcredentials, hp, hopen, hfound⟩
    obtain ⟨r, u, haccepted, -⟩ := UserTable.authenticate_eq_some_iff.1 hfound
    simp only [login, hcredentials, ← hp, Password.ofText_text, Store.authenticate, Email.ofText,
      dif_pos haccepted, hopen, if_true, hfound]

theorem login_of_row? {e : Email} {p : Password} {row : UserRow} {u : StoredUser}
    (hcredentials : h.basicCredentials = .ok ⟨e.text, p.text⟩) (hopen : s.store.isOpen = true)
    (hrow : s.store.table.row? e.text = some row) (huser : row.toUser = .ok u)
    (hpassword : p.verify u.hash = .ok true) : s.login h = .ok u.identity :=
  login_eq_ok_iff.2 ⟨_, p, hcredentials, rfl, hopen,
    UserTable.authenticate_eq_some_iff.2 ⟨row, u, e.accepted, hrow, huser, hpassword, rfl⟩⟩

theorem email_of_login {c : BasicCredentials} (hcredentials : h.basicCredentials = .ok c)
    (hlogin : s.login h = .ok i) : i.email.text = c.username := by
  obtain ⟨c', p, hcredentials', -, -, hfound⟩ := login_eq_ok_iff.1 hlogin
  rw [hcredentials, Except.ok.injEq] at hcredentials'
  rw [hcredentials']
  exact UserTable.email_of_authenticate hfound

/-- Whoever logs in is handed tokens, if the lifetimes do not lead out of range. -/
theorem logsIn_of_login {access refresh : Instant}
    (hpath : pathOf r.target = Call.authenticateUser.path) (hmethod : r.method = "POST")
    (hlogin : s.login r.headers = .ok i)
    (haccess : s.now.add? s.issuer.policy.accessLifetime = some access)
    (hrefresh : s.now.add? s.issuer.policy.refreshLifetime = some refresh) : LogsIn s r i := by
  have hok : s.authenticateUser r.headers =
      .ok (tokens ⟨s.issuer.create i access.floor .access, access.floor⟩
        (s.issuer.create i refresh.floor .refresh)) :=
    authenticateUser_eq_ok_iff.2 ⟨i, access, refresh, hlogin, haccess, hrefresh, rfl⟩
  refine ⟨_, handsOut_of_login hpath hmethod hok, access.wholeSecond, refresh.wholeSecond,
    ?_, ?_, ?_, ?_⟩
  · rw [← access.wholeSecond_floor]
    exact speaksFor_create _ _ _ _
  · rw [← refresh.wholeSecond_floor]
    exact speaksFor_create _ _ _ _
  · exact fun hlong => Instant.lt_wholeSecond_of_add? haccess hlong
  · exact fun hlong => Instant.lt_wholeSecond_of_add? hrefresh hlong

/-- The tokens of a login speak for nobody but who has logged in. -/
theorem login_of_logsIn (hpath : pathOf r.target = Call.authenticateUser.path)
    (hlogs : LogsIn s r i) : s.login r.headers = .ok i := by
  obtain ⟨t, hands, access, refresh, haccess, -, -, -⟩ := hlogs
  obtain ⟨t', hok, hands'⟩ := authenticateUser_of_status_ok hpath hands.2.1
  obtain ⟨i', hlogin, ⟨e, htoken, -⟩, -⟩ := authenticateUser_eq_ok hok
  rw [hands.unique hands', htoken] at haccess
  rw [haccess.unique (speaksFor_create s.issuer i' e .access)]
  exact hlogin

/-- An email address with a colon in it is not the name that its user logs in with. -/
theorem username_ne_of_colon {email : Email} {password : Password}
    (hvalue : h.get? "authorization" = some (basicValue email.text password.text))
    (hcolon : ':' ∈ email.text.toList) :
    ∃ c, h.basicCredentials = .ok c ∧ c.username ≠ email.text := by
  cases hcut : Text.cutFirst ':' email.text.toList with
  | none => exact absurd hcolon (Text.cutFirst_eq_none_iff.1 hcut)
  | some cut =>
    obtain ⟨front, back⟩ := cut
    obtain ⟨hsplit, hfront⟩ := Text.cutFirst_eq_some hcut
    have hemail : email.text = String.ofList front ++ ":" ++ String.ofList back := by
      rw [← String.toList_inj, hsplit]
      simp
    rw [hemail, basicValue_colon] at hvalue
    refine ⟨_, basicCredentials_basicValue hvalue (by simpa using hfront), ?_⟩
    intro hsame
    rw [← hsame] at hcolon
    exact hfront (by simpa using hcolon)

/-- A user that has been added is recognised after any further steps, by an email address without a
colon. -/
theorem login_of_added {name : Username} {email : Email} {password : Password}
    {salt : List UInt8} (hsalt : salt.length = PasswordHash.saltSize) {created : Instant}
    {store : Store} (hadd : s.store.add (NewUser.ofPassword name email password salt created) =
      .ok (i, store))
    {steps : List Step} {later : Server} (hlater : later = ({ s with store } : Server).run steps)
    (hopen : later.store.isOpen = true)
    (hvalue : h.get? "authorization" = some (basicValue email.text password.text))
    (hcolon : ':' ∉ email.text.toList) :
    later.login h = .ok ⟨i.id, name, email, created.wholeSecond⟩ := by
  have hcredentials := basicCredentials_basicValue hvalue hcolon
  have hrow : later.store.table.row? email.text = some ⟨i.id, name.text, email.text,
      (password.hash salt).text, Int64.ofInt created.floor.seconds⟩ := by
    obtain ⟨-, -, htable⟩ := Store.add_eq_ok hadd
    obtain ⟨-, hinsert⟩ := UserTable.add_eq_ok htable
    rw [hlater]
    exact run_row? steps (UserTable.row?_insert_self hinsert)
  have huser := UserRow.toUser_ofNewUser
    (NewUser.ofPassword name email password salt created) i.id
  have hpassword : password.verify (password.hash salt) = .ok true := by
    apply Password.verify_hash
    rw [hsalt]
    decide
  have hlogin := login_of_row? hcredentials hopen hrow huser hpassword
  rw [NewUser.ofPassword, created.wholeSecond_floor] at hlogin
  exact hlogin

def samplePassword : Password := ⟨"secret", by decide⟩

/-- The first user of the sample server, under some email address. -/
def sampleNewUser (email : Email) : NewUser :=
  .ofPassword sampleUser.name email samplePassword (List.replicate 32 0) sample.now

def sampleStore (email : Email) : Store :=
  ⟨⟨[⟨1, "user", email.text, (sampleNewUser email).hash.text, 0⟩], 1⟩, true⟩

theorem add_sampleNewUser (email : Email) : sample.store.add (sampleNewUser email) =
    .ok (⟨1, sampleUser.name, email, sample.now⟩, sampleStore email) := by
  have hempty : sample.store = ⟨⟨[], 0⟩, true⟩ := rfl
  have hnext : (⟨[], 0⟩ : UserTable).nextId? = some 1 := by decide
  have hcreated : Int64.ofInt (sampleNewUser email).created.seconds = 0 := rfl
  rw [hempty]
  simp only [Store.add, UserTable.add, UserTable.insert, hnext, hcreated]
  rfl

def sampleLogin (email : Email) : Request :=
  callWith .authenticateUser "Authorization" (basicValue email.text samplePassword.text)

theorem authorization_sampleLogin (email : Email) :
    (sampleLogin email).headers.get? "authorization" =
      some (basicValue email.text samplePassword.text) :=
  get?_callWith _ _ (by decide)

theorem authenticate_sampleStore {email : Email} {username : String} (hother : username ≠ email.text)
    (p : Password) : (sampleStore email).authenticate username p = .ok none := by
  unfold Store.authenticate
  split
  · rfl
  · next e he =>
    have hopen : (sampleStore email).isOpen = true := rfl
    have hrow : (sampleStore email).table.row? username = none := by
      rw [UserTable.row?, List.find?_eq_none]
      simp [sampleStore, hother.symm]
    have hfind : (sampleStore email).table.find e = .ok none := by
      rw [UserTable.find, Email.text_of_ofText he, hrow]
    simp only [hopen, if_true, UserTable.authenticate, he, hfind]

/-- With a colon in the address, the login fails as if the password were wrong. -/
theorem answer_sampleLogin_of_colon {email : Email} (hcolon : ':' ∈ email.text.toList) :
    ({ sample with store := sampleStore email } : Server).answer (sampleLogin email) =
      .refused .invalidCredentials := by
  obtain ⟨c, hcredentials, hother⟩ :=
    username_ne_of_colon (authorization_sampleLogin email) hcolon
  have hlogin : ({ sample with store := sampleStore email } : Server).login
      (sampleLogin email).headers = .error .invalidCredentials := by
    simp only [login, hcredentials]
    cases Password.ofText c.password with
    | error e => rfl
    | ok p => simp only [authenticate_sampleStore hother p]
  rw [answer_of_post (c := .authenticateUser) (by decide) rfl rfl]
  simp only [handle, authenticateUser, hlogin]
  rfl

/-- A user that has been added logs in after any further steps if and only if the email address holds
no colon. -/
theorem logsIn_iff_no_colon {name : Username} {email : Email} {password : Password}
    {salt : List UInt8} (hsalt : salt.length = PasswordHash.saltSize) {created : Instant}
    {store : Store} (hadd : s.store.add (NewUser.ofPassword name email password salt created) =
      .ok (i, store))
    {steps : List Step} {later : Server} (hlater : later = ({ s with store } : Server).run steps)
    (hopen : later.store.isOpen = true)
    (haccess : (later.now.add? later.issuer.policy.accessLifetime).isSome)
    (hrefresh : (later.now.add? later.issuer.policy.refreshLifetime).isSome)
    (hpath : pathOf r.target = Call.authenticateUser.path) (hmethod : r.method = "POST")
    (hvalue : r.headers.get? "authorization" = some (basicValue email.text password.text)) :
    LogsIn later r ⟨i.id, name, email, created.wholeSecond⟩ ↔ ':' ∉ email.text.toList := by
  constructor
  · intro hlogs hcolon
    obtain ⟨c, hcredentials, hother⟩ := username_ne_of_colon hvalue hcolon
    have hlogin := login_of_logsIn hpath hlogs
    exact hother (email_of_login hcredentials hlogin).symm
  · intro hcolon
    have hlogin := login_of_added hsalt hadd hlater hopen hvalue hcolon
    obtain ⟨access, haccess⟩ := Option.isSome_iff_exists.1 haccess
    obtain ⟨refresh, hrefresh⟩ := Option.isSome_iff_exists.1 hrefresh
    exact logsIn_of_login hpath hmethod hlogin haccess hrefresh

theorem logsIn_iff_no_colon_sample :
    (List.replicate 32 (0 : UInt8)).length = PasswordHash.saltSize ∧
    sample.store.add (sampleNewUser sampleUser.email) =
      .ok (sampleUser, sampleStore sampleUser.email) ∧
    (sample.now.add? sample.issuer.policy.accessLifetime).isSome ∧
    (sample.now.add? sample.issuer.policy.refreshLifetime).isSome ∧
    LogsIn { sample with store := sampleStore sampleUser.email } (sampleLogin sampleUser.email)
      sampleUser := by
  have hadd := add_sampleNewUser sampleUser.email
  have haccess : (sample.now.add? sample.issuer.policy.accessLifetime).isSome := by decide
  have hrefresh : (sample.now.add? sample.issuer.policy.refreshLifetime).isSome := by decide
  have hlater : ({ sample with store := sampleStore sampleUser.email } : Server) =
      ({ sample with store := sampleStore sampleUser.email } : Server).run [] := rfl
  refine ⟨by decide, hadd, haccess, hrefresh, ?_⟩
  exact (logsIn_iff_no_colon (by decide) hadd hlater rfl haccess hrefresh rfl rfl
    (authorization_sampleLogin _)).2 (by decide)

theorem run_addSample (email : Email) : sample.run [.add (sampleNewUser email)] =
    { sample with store := sampleStore email } := by
  simp only [run, List.foldl_cons, List.foldl_nil, step, add_sampleNewUser]

theorem login_sample : (sample.run [.add (sampleNewUser sampleUser.email)]).login
    (sampleLogin sampleUser.email).headers = .ok sampleUser := by
  have hlater : ({ sample with store := sampleStore sampleUser.email } : Server) =
      ({ sample with store := sampleStore sampleUser.email } : Server).run [] := rfl
  rw [run_addSample]
  exact login_of_added (by decide) (add_sampleNewUser sampleUser.email) hlater rfl
    (authorization_sampleLogin _) (by decide)

/-- A user may have an email address at an IPv6 address, and then cannot log in with it. -/
theorem not_logsIn_of_address :
    ∃ email : Email, email.text = "user@[::1]" ∧
      sample.store.add (sampleNewUser email) =
        .ok (⟨1, sampleUser.name, email, sample.now⟩, sampleStore email) ∧
      ({ sample with store := sampleStore email } : Server).answer (sampleLogin email) =
        .refused .invalidCredentials ∧
      ¬ LogsIn { sample with store := sampleStore email } (sampleLogin email)
        ⟨1, sampleUser.name, email, sample.now⟩ := by
  obtain ⟨email, hemail⟩ : ∃ email : Email, email.text = "user@[::1]" :=
    ⟨⟨"user@[::1]", by decide⟩, rfl⟩
  have hcolon : ':' ∈ email.text.toList := by
    rw [hemail]
    decide
  have hanswer := answer_sampleLogin_of_colon hcolon
  refine ⟨email, hemail, add_sampleNewUser email, hanswer, ?_⟩
  rintro ⟨t, ⟨-, hstatus, -⟩, -⟩
  rw [hanswer] at hstatus
  exact absurd hstatus (by decide)

end Service.Server

end TokenAuth
