import TokenAuth.Proofs.Logins
import TokenAuth.Proofs.TableHistory

/-!
Which row a login depends on. Whoever logs in is recognised by the one row with their email address, and
by everything in it: the row has to become a user, and the password has to match the hash of that row.
Other rows, whatever is in them, make no difference.
-/
namespace TokenAuth.Service.Server

open Headers

variable {s s' : Server} {r : Request} {h : Headers} {c : BasicCredentials} {username : String}

/-- All that makes a row recognise a name and a password. -/
structure Recognises (s : Server) (c : BasicCredentials) (row : UserRow) (u : StoredUser) : Prop where
  isOpen : s.store.isOpen = true
  password_ne : c.password ≠ ""
  accepted : Email.accepts c.username.toList = true
  mem : row ∈ s.store.table.rows
  email : row.email = c.username
  user : row.toUser = .ok u
  verifies : ∀ p : Password, p.text = c.password → p.verify u.hash = .ok true

/-- In a table without double email addresses, a login is the work of one row. -/
theorem login_eq_ok_iff_recognises (ht : s.store.table.WellFormed) {i : Identity} :
    s.login h = .ok i ↔ ∃ c row u, h.basicCredentials = .ok c ∧ s.Recognises c row u ∧
      u.identity = i := by
  rw [login_eq_ok_iff]
  constructor
  · rintro ⟨c, p, hcredentials, hp, hopen, hfound⟩
    obtain ⟨row, u, haccepted, hrow, huser, hverify, hidentity⟩ :=
      UserTable.authenticate_eq_some_iff.1 hfound
    obtain ⟨hmem, hemail⟩ := ht.row?_eq_some_iff.1 hrow
    refine ⟨c, row, u, hcredentials, ⟨hopen, ?_, haccepted, hmem, hemail, huser, ?_⟩, hidentity⟩
    · rw [← hp]
      exact p.text_ne
    · intro p' hp'
      have hsame : Password.ofText p'.text = Password.ofText p.text := by rw [hp', hp]
      rw [Password.ofText_text, Password.ofText_text, Except.ok.injEq] at hsame
      rw [hsame]
      exact hverify
  · rintro ⟨c, row, u, hcredentials, hrow, hidentity⟩
    refine ⟨c, ⟨c.password, hrow.password_ne⟩, hcredentials, rfl, hrow.isOpen, ?_⟩
    exact UserTable.authenticate_eq_some_iff.2 ⟨row, u, hrow.accepted,
      ht.row?_eq_some_iff.2 ⟨hrow.mem, hrow.email⟩, hrow.user, hrow.verifies _ rfl, hidentity⟩

theorem authenticateUser_isOk_iff : (∃ t, s.authenticateUser h = .ok t) ↔
    (∃ i, s.login h = .ok i) ∧ (s.now.add? s.issuer.policy.accessLifetime).isSome ∧
      (s.now.add? s.issuer.policy.refreshLifetime).isSome := by
  simp only [authenticateUser_eq_ok_iff, Option.isSome_iff_exists]
  constructor
  · rintro ⟨t, i, access, refresh, hlogin, haccess, hrefresh, -⟩
    exact ⟨⟨i, hlogin⟩, ⟨access, haccess⟩, ⟨refresh, hrefresh⟩⟩
  · rintro ⟨⟨i, hlogin⟩, ⟨access, haccess⟩, ⟨refresh, hrefresh⟩⟩
    exact ⟨_, i, access, refresh, hlogin, haccess, hrefresh, rfl⟩

theorem status_ok_iff_of_login (hpath : pathOf r.target = Call.authenticateUser.path) :
    (s.answer r).status = 200 ↔ r.method = "POST" ∧ ∃ t, s.authenticateUser r.headers = .ok t := by
  constructor
  · intro hstatus
    obtain ⟨t, hok, -⟩ := authenticateUser_of_status_ok hpath hstatus
    exact ⟨method_of_status_ok (by decide) hpath hstatus, t, hok⟩
  · rintro ⟨hmethod, t, hok⟩
    exact (handsOut_of_login hpath hmethod hok).2.1

/-- For whoever logs in under this name, the two servers are the same. -/
structure SameFor (username : String) (s s' : Server) : Prop where
  issuer : s'.issuer = s.issuer
  now : s'.now = s.now
  isOpen : s'.store.isOpen = s.store.isOpen
  row : s'.store.table.row? username = s.store.table.row? username

theorem SameFor.login (hsame : SameFor c.username s s') (hcredentials : h.basicCredentials = .ok c) :
    s'.login h = s.login h := by
  simp only [Server.login, hcredentials, Store.authenticate, hsame.isOpen,
    UserTable.authenticate_congr hsame.row]

/-- What a login is answered depends on the table only through who logs in. -/
theorem answer_congr_of_login (hpath : pathOf r.target = Call.authenticateUser.path)
    (hissuer : s'.issuer = s.issuer) (hnow : s'.now = s.now)
    (hlogin : s'.login r.headers = s.login r.headers) : s'.answer r = s.answer r := by
  have hissue : ∀ i kind, s'.issue i kind = s.issue i kind := by
    intro i kind
    simp only [issue, hissuer, hnow]
  have hhandle : s'.handle .authenticateUser r.headers none =
      s.handle .authenticateUser r.headers none := by
    simp only [handle, authenticateUser, hlogin, hissue]
  have hpass : isBypassed (pathOf r.target) = true :=
    isBypassed_eq_true_iff.2 ⟨.authenticateUser, by decide, hpath⟩
  rw [answer_of_gate_ok (gate_of_bypassed s r.headers hpass),
    answer_of_gate_ok (gate_of_bypassed s' r.headers hpass)]
  simp only [route, hpath, ofPath?_path, hhandle]

/-- The steps insert users under other names, or fail to insert any. -/
def Bystanders (username : String) (s : Server) (steps : List Step) : Prop :=
  ∀ before x after, steps = before ++ x :: after → ∃ email, x.email? = some email ∧
    (email ≠ username ∨ ∃ e, ((s.run before).step x).2.error? = some e)

/-- A step that is to insert a row changes nothing but the rows. -/
theorem step_of_email? {x : Step} {email : String} (hx : x.email? = some email) :
    ∃ store : Store, (s.step x).1 = { s with store } ∧ store.isOpen = s.store.isOpen := by
  obtain ⟨s', o, hstep, heffect⟩ := s.step_effect x
  rw [hstep]
  cases heffect with
  | wrote hrow herror hemail hopen => exact ⟨_, rfl, hopen.symm⟩
  | failed => exact ⟨s.store, rfl, rfl⟩
  | setClock t => simp [Step.email?] at hx
  | closeStore => simp [Step.email?] at hx
  | request r => simp [Step.email?] at hx

theorem row?_step_of_ne {x : Step} (hx : x.email? ≠ some username) :
    (s.step x).1.store.table.row? username = s.store.table.row? username := by
  rcases s.step_row x with ⟨-, hsame⟩ | ⟨row, -, hemail, hinsert⟩
  · rw [hsame]
  · apply UserTable.row?_insert_of_ne hinsert
    rintro rfl
    exact hx hemail

theorem SameFor.step {x : Step} {email : String} (hx : x.email? = some email)
    (hother : email ≠ username ∨ ∃ e, (s.step x).2.error? = some e) :
    SameFor username s (s.step x).1 := by
  rcases hother with hne | ⟨e, he⟩
  · have hrow : (s.step x).1.store.table.row? username = s.store.table.row? username := by
      apply row?_step_of_ne
      rw [hx]
      simpa using hne
    obtain ⟨store, hstep, hopen⟩ := step_of_email? (s := s) hx
    rw [hstep] at hrow ⊢
    exact ⟨rfl, rfl, hopen, hrow⟩
  · rw [(step_error he).1]
    exact ⟨rfl, rfl, rfl, rfl⟩

theorem SameFor.trans {s'' : Server} (h : SameFor username s s') (h' : SameFor username s' s'') :
    SameFor username s s'' :=
  ⟨h'.issuer.trans h.issuer, h'.now.trans h.now, h'.isOpen.trans h.isOpen, h'.row.trans h.row⟩

theorem Bystanders.sameFor {steps : List Step} (h : Bystanders username s steps) :
    SameFor username s (s.run steps) := by
  induction steps generalizing s with
  | nil => exact ⟨rfl, rfl, rfl, rfl⟩
  | cons x xs ih =>
    obtain ⟨email, hx, hother⟩ := h [] x xs rfl
    have hrest : Bystanders username (s.step x).1 xs := by
      rintro before y after rfl
      exact h (x :: before) y after rfl
    exact (SameFor.step hx hother).trans (ih hrest)

/-- A login succeeds if and only if the store is open and its table, whatever was written into it, holds
a row under exactly the name given, in which everything is accepted and whose hash matches the password,
and the lifetimes do not lead out of range. The tokens are for the user of that row. No insert of anyone
else, and no insert that fails, changes the answer. -/
theorem login_by_own_row (g : Issuer) (now : Instant) (steps : List Step) (r : Request)
    (hpath : pathOf r.target = Call.authenticateUser.path) :
    let s := (start g now).run steps
    ((s.answer r).status = 200 ↔ r.method = "POST" ∧
      (∃ c row u, r.headers.basicCredentials = .ok c ∧ s.Recognises c row u) ∧
      (s.now.add? s.issuer.policy.accessLifetime).isSome ∧
      (s.now.add? s.issuer.policy.refreshLifetime).isSome) ∧
    (∀ c row u, r.headers.basicCredentials = .ok c → s.Recognises c row u →
      (s.answer r).status = 200 → LogsIn s r u.identity ∧ row.Keeps u) ∧
    (∀ c more, r.headers.basicCredentials = .ok c → Bystanders c.username s more →
      (s.run more).answer r = s.answer r) := by
  intro s
  have hwell : s.store.table.WellFormed :=
    run_wellFormed (s := start g now) UserTable.empty_wellFormed steps
  refine ⟨?_, ?_, ?_⟩
  · rw [status_ok_iff_of_login hpath, authenticateUser_isOk_iff]
    have hlogin : (∃ i, s.login r.headers = .ok i) ↔
        ∃ c row u, r.headers.basicCredentials = .ok c ∧ s.Recognises c row u := by
      simp only [login_eq_ok_iff_recognises hwell]
      constructor
      · rintro ⟨i, c, row, u, hcredentials, hrow, -⟩
        exact ⟨c, row, u, hcredentials, hrow⟩
      · rintro ⟨c, row, u, hcredentials, hrow⟩
        exact ⟨u.identity, c, row, u, hcredentials, hrow, rfl⟩
    rw [hlogin]
  · intro c row u hcredentials hrow hstatus
    have hlogin := (login_eq_ok_iff_recognises hwell).2 ⟨c, row, u, hcredentials, hrow, rfl⟩
    obtain ⟨hmethod, hok⟩ := (status_ok_iff_of_login hpath).1 hstatus
    obtain ⟨-, haccess, hrefresh⟩ := authenticateUser_isOk_iff.1 hok
    obtain ⟨access, haccess⟩ := Option.isSome_iff_exists.1 haccess
    obtain ⟨refresh, hrefresh⟩ := Option.isSome_iff_exists.1 hrefresh
    exact ⟨logsIn_of_login hpath hmethod hlogin haccess hrefresh,
      UserRow.toUser_eq_ok_iff.1 hrow.user⟩
  · intro c more hcredentials hothers
    have hsame := hothers.sameFor
    exact answer_congr_of_login hpath hsame.issuer hsame.now (hsame.login hcredentials)

theorem bystanders_lastRow (hname : username ≠ "") : Bystanders username s [lastRow] := by
  intro before x after hsplit
  cases before with
  | nil =>
    obtain ⟨rfl, -⟩ := List.cons.inj hsplit
    exact ⟨"", rfl, Or.inl hname.symm⟩
  | cons y before => simp at hsplit

/-- A user is added and logs in, and a row that stands for no one changes nothing in the answer. -/
theorem login_by_own_row_sample :
    pathOf (sampleLogin sampleUser.email).target = Call.authenticateUser.path ∧
    (∃ c row u, (sampleLogin sampleUser.email).headers.basicCredentials = .ok c ∧
      (sample.run [.add (sampleNewUser sampleUser.email)]).Recognises c row u ∧
      u.identity = sampleUser) ∧
    LogsIn (sample.run [.add (sampleNewUser sampleUser.email)]) (sampleLogin sampleUser.email)
      sampleUser ∧
    ((sample.run [.add (sampleNewUser sampleUser.email)]).run [lastRow]).answer
        (sampleLogin sampleUser.email) =
      (sample.run [.add (sampleNewUser sampleUser.email)]).answer
        (sampleLogin sampleUser.email) := by
  have hstart : start sample.issuer sample.now = sample := rfl
  have hrule := login_by_own_row sample.issuer sample.now
    [.add (sampleNewUser sampleUser.email)] (sampleLogin sampleUser.email) rfl
  rw [hstart] at hrule
  obtain ⟨hiff, htokens, hsame⟩ := hrule
  have hwell : (sample.run [.add (sampleNewUser sampleUser.email)]).store.table.WellFormed :=
    run_wellFormed UserTable.empty_wellFormed _
  obtain ⟨c, row, u, hcredentials, hrow, hidentity⟩ :=
    (login_eq_ok_iff_recognises hwell).1 login_sample
  have hstatus := hiff.2 ⟨rfl, ⟨c, row, u, hcredentials, hrow⟩, by
    rw [run_addSample]
    decide, by
    rw [run_addSample]
    decide⟩
  have hname : c.username ≠ "" := by
    intro hempty
    have haccepted := hrow.accepted
    rw [hempty] at haccepted
    exact absurd haccepted (by decide)
  refine ⟨rfl, ⟨c, row, u, hcredentials, hrow, hidentity⟩, ?_, ?_⟩
  · have hlogs := (htokens c row u hcredentials hrow hstatus).1
    rw [hidentity] at hlogs
    exact hlogs
  · exact hsame c [lastRow] hcredentials (bystanders_lastRow hname)

end TokenAuth.Service.Server
