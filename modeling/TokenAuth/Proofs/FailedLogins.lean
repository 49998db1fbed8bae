import TokenAuth.Proofs.RecognisedRows

/-!
What a failed login gives away about the users: nothing, if every row was written for a new user. Such a
row becomes a user again, and verifying a password against its hash comes to a verdict, so nothing goes
wrong inside. What is left to say is in the headers, or it is the same for all whose name and password
do not belong together.
-/
namespace TokenAuth

/-- Tables of users that were added with a password, and of nobody else. -/
inductive UserTable.Registered : UserTable → Prop
  | empty : Registered .empty
  | add {t t' : UserTable} {name : Username} {email : Email} {password : Password}
      {salt : List UInt8} {now : Instant} {i : Identity} (h : t.Registered)
      (hsalt : salt.length = PasswordHash.saltSize)
      (hadd : t.add (.ofPassword name email password salt now) = .ok (i, t')) : Registered t'

namespace UserTable.Registered

variable {t : UserTable}

/-- The invariant of such a table: each row becomes a user, whose hash was made from a password. -/
theorem row (h : t.Registered) {r : UserRow} (hr : r ∈ t.rows) :
    ∃ (u : StoredUser) (password : Password) (salt : List UInt8),
      r.toUser = .ok u ∧ u.hash = password.hash salt ∧ 8 ≤ salt.length := by
  induction h with
  | empty => simp [UserTable.empty] at hr
  | @add t t' name email password salt now i h hsalt hadd ih =>
    obtain ⟨-, hinsert⟩ := add_eq_ok hadd
    obtain ⟨-, -, -, rfl⟩ := insert_eq_ok hinsert
    rcases List.mem_append.1 hr with hold | hnew
    · exact ih hold
    · rw [List.mem_singleton.1 hnew]
      refine ⟨_, password, salt, UserRow.toUser_ofNewUser _ _, rfl, ?_⟩
      rw [hsalt]
      decide

/-- No name and no password make a lookup go wrong. -/
theorem authenticate (h : t.Registered) (username : String) (p : Password) :
    ∃ who, t.authenticate username p = .ok who := by
  cases he : Email.ofText username with
  | error e => exact ⟨none, by simp only [UserTable.authenticate, he]⟩
  | ok e =>
    cases hrow : t.row? e.text with
    | none => exact ⟨none, by simp only [UserTable.authenticate, he, find, hrow]⟩
    | some r =>
      obtain ⟨u, password, salt, huser, hhash, hsalt⟩ := h.row (List.mem_of_find?_eq_some hrow)
      obtain ⟨verdict, hverify⟩ : ∃ verdict, p.verify u.hash = .ok verdict := by
        rw [hhash]
        exact ⟨_, Password.verify_hash_eq hsalt p password⟩
      cases verdict with
      | false =>
        exact ⟨none, by simp only [UserTable.authenticate, he, find, hrow, huser, hverify]⟩
      | true =>
        exact ⟨some u.identity,
          by simp only [UserTable.authenticate, he, find, hrow, huser, hverify]⟩

end UserTable.Registered

namespace Service

/-- Why a login with these headers is refused, if it is and nothing goes wrong inside. -/
def Headers.loginRefusal (h : Headers) : Refusal :=
  match h.basicCredentials with
  | .error e => e
  | .ok _ => .invalidCredentials

theorem Headers.loginRefusal_of_credentials {h : Headers} {c : BasicCredentials}
    (hcredentials : h.basicCredentials = .ok c) : h.loginRefusal = .invalidCredentials := by
  simp only [loginRefusal, hcredentials]

theorem Headers.loginRefusal_cases (h : Headers) :
    h.loginRefusal ∈ [Refusal.noAuthorizationHeader, .noBasicScheme, .malformedCredentialPair,
      .invalidCredentials] := by
  unfold loginRefusal
  split
  · next e herror =>
    rcases basicCredentials_eq_error herror with rfl | rfl | rfl <;> simp
  · simp

namespace Server

open Headers

variable {s : Server} {r : Request} {h : Headers}

/-- A login with nothing wrong inside: somebody is recognised, or the headers say how it is refused. -/
theorem login_of_registered (hopen : s.store.isOpen = true) (ht : s.store.table.Registered)
    (h : Headers) : (∃ i, s.login h = .ok i) ∨ s.login h = .error h.loginRefusal := by
  cases hcredentials : h.basicCredentials with
  | error e =>
    right
    simp only [login, loginRefusal, hcredentials]
  | ok c =>
    rw [loginRefusal_of_credentials hcredentials]
    cases hp : Password.ofText c.password with
    | error e => exact Or.inr (by simp only [login, hcredentials, hp])
    | ok p =>
      have hlookup : ∃ who, s.store.authenticate c.username p = .ok who := by
        cases he : Email.ofText c.username with
        | error e => exact ⟨none, by simp only [Store.authenticate, he]⟩
        | ok e =>
          obtain ⟨who, hwho⟩ := ht.authenticate c.username p
          exact ⟨who, by simp only [Store.authenticate, he, hopen, if_true, hwho]⟩
      obtain ⟨who, hwho⟩ := hlookup
      cases who with
      | none => exact Or.inr (by simp only [login, hcredentials, hp, hwho])
      | some i => exact Or.inl ⟨i, by simp only [login, hcredentials, hp, hwho]⟩

/-- What a login that fails is answered, whoever is in the table. -/
def failedLogin (r : Request) : Response :=
  if r.method = "POST" then .refused r.headers.loginRefusal else finishResponse r .methodNotAllowed

theorem answer_of_failed (hopen : s.store.isOpen = true) (ht : s.store.table.Registered)
    (haccess : (s.now.add? s.issuer.policy.accessLifetime).isSome)
    (hrefresh : (s.now.add? s.issuer.policy.refreshLifetime).isSome)
    (hpath : pathOf r.target = Call.authenticateUser.path) (hfailed : (s.answer r).status ≠ 200) :
    s.answer r = failedLogin r := by
  unfold failedLogin
  by_cases hmethod : r.method = "POST"
  · have hnobody : ¬ ∃ i, s.login r.headers = .ok i := fun hlogin => hfailed <|
      (status_ok_iff_of_login hpath).2 ⟨hmethod, authenticateUser_isOk_iff.2
        ⟨hlogin, haccess, hrefresh⟩⟩
    have hrefused := (login_of_registered hopen ht r.headers).resolve_left hnobody
    rw [if_pos hmethod, answer_of_post (by decide) hpath hmethod]
    simp only [handle, authenticateUser, hrefused, Response.ofResult]
  · have hpass : isBypassed (pathOf r.target) = true :=
      isBypassed_eq_true_iff.2 ⟨.authenticateUser, by decide, hpath⟩
    rw [if_neg hmethod, answer_of_gate_ok (gate_of_bypassed s r.headers hpass)]
    simp only [route, hpath, ofPath?_path, if_neg hmethod]

/-- Nothing in the answer says that something went wrong inside. -/
theorem failedLogin_ne {e : Refusal} (he : e = .internal ∨ e = .tokenCreationFailed) (r : Request) :
    (failedLogin r).status ≠ e.status ∧ (failedLogin r).body ≠ e.body := by
  unfold failedLogin
  split
  · have hrefusal := r.headers.loginRefusal_cases
    generalize r.headers.loginRefusal = refusal at hrefusal
    rcases he with rfl | rfl <;> revert refusal <;> decide
  · have hempty : (finishResponse r .methodNotAllowed).body = [] := by
      rw [finishResponse_body]
      exact ite_self _
    rw [finishResponse_status, hempty]
    rcases he with rfl | rfl <;> decide

/-- The server with another table of users, which is open. -/
def serving (s : Server) (t : UserTable) : Server := { s with store := ⟨t, true⟩ }

/-- If a login fails whoever is in the table, the answer does not tell which of two tables of added
users it was, and it never says that something went wrong inside. If the headers hold a name and a
password, it is the same for all names and passwords. -/
theorem failed_login_reveals_nothing (s : Server) (r : Request) {t t' : UserTable}
    (ht : t.Registered) (ht' : t'.Registered)
    (haccess : (s.now.add? s.issuer.policy.accessLifetime).isSome)
    (hrefresh : (s.now.add? s.issuer.policy.refreshLifetime).isSome)
    (hpath : pathOf r.target = Call.authenticateUser.path)
    (hfailed : ((s.serving t).answer r).status ≠ 200)
    (hfailed' : ((s.serving t').answer r).status ≠ 200) :
    (s.serving t).answer r = (s.serving t').answer r ∧
    (∀ e : Refusal, e = .internal ∨ e = .tokenCreationFailed →
      ((s.serving t).answer r).status ≠ e.status ∧ ((s.serving t).answer r).body ≠ e.body) ∧
    (r.method = "POST" → ∀ c, r.headers.basicCredentials = .ok c →
      (s.serving t).answer r = .refused .invalidCredentials) := by
  have hanswer := answer_of_failed (s := s.serving t) rfl ht haccess hrefresh hpath hfailed
  have hanswer' := answer_of_failed (s := s.serving t') rfl ht' haccess hrefresh hpath hfailed'
  rw [hanswer, hanswer']
  refine ⟨rfl, fun e he => failedLogin_ne he r, ?_⟩
  intro hmethod c hcredentials
  rw [failedLogin, if_pos hmethod, loginRefusal_of_credentials hcredentials]

def sampleTable : UserTable := (sampleStore sampleUser.email).table

theorem registered_sampleTable : sampleTable.Registered := by
  obtain ⟨-, -, hadd⟩ := Store.add_eq_ok (add_sampleNewUser sampleUser.email)
  exact UserTable.Registered.empty.add (by decide) hadd

/-- A login of the first user without the password. -/
def sampleBlankLogin : Request :=
  callWith .authenticateUser "Authorization" (basicValue sampleUser.email.text "")

theorem basicCredentials_sampleBlankLogin :
    sampleBlankLogin.headers.basicCredentials = .ok ⟨sampleUser.email.text, ""⟩ :=
  basicCredentials_basicValue (get?_callWith _ _ (by decide)) (by decide)

theorem sampleBlankLogin_failed (s : Server) : (s.answer sampleBlankLogin).status ≠ 200 := by
  intro hstatus
  obtain ⟨-, hok⟩ := (status_ok_iff_of_login rfl).1 hstatus
  obtain ⟨⟨i, hlogin⟩, -⟩ := authenticateUser_isOk_iff.1 hok
  obtain ⟨c, p, hcredentials, hp, -⟩ := login_eq_ok_iff.1 hlogin
  rw [basicCredentials_sampleBlankLogin, Except.ok.injEq] at hcredentials
  rw [← hcredentials] at hp
  exact p.text_ne hp

/-- The first user is in one of the tables and not in the other. -/
theorem failed_login_reveals_nothing_sample :
    sampleTable.Registered ∧ UserTable.empty.Registered ∧
    (sample.now.add? sample.issuer.policy.accessLifetime).isSome ∧
    (sample.now.add? sample.issuer.policy.refreshLifetime).isSome ∧
    pathOf sampleBlankLogin.target = Call.authenticateUser.path ∧
    ((sample.serving sampleTable).answer sampleBlankLogin).status ≠ 200 ∧
    ((sample.serving .empty).answer sampleBlankLogin).status ≠ 200 ∧
    (sample.serving sampleTable).answer sampleBlankLogin = .refused .invalidCredentials ∧
    (sample.serving .empty).answer sampleBlankLogin = .refused .invalidCredentials := by
  obtain ⟨hsame, -, hblank⟩ := failed_login_reveals_nothing sample sampleBlankLogin
    registered_sampleTable .empty (by decide) (by decide) rfl (sampleBlankLogin_failed _)
    (sampleBlankLogin_failed _)
  have hanswer := hblank rfl _ basicCredentials_sampleBlankLogin
  exact ⟨registered_sampleTable, .empty, by decide, by decide, rfl, sampleBlankLogin_failed _,
    sampleBlankLogin_failed _, hanswer, hsame.symm.trans hanswer⟩

end Server

end Service

end TokenAuth
