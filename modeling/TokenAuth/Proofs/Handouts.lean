import TokenAuth.Proofs.GateVerdicts
import TokenAuth.Proofs.TokensText

/-!
What an answer with tokens in it says about them. A login makes both tokens for whoever logged in. A
refresh makes the access token for the identity in the refresh token that was presented, and hands out
that one again or a new one for the same identity.
-/
namespace TokenAuth

theorem Instant.wholeSecond_floor (t : Instant) : t.floor.wholeSecond = t.wholeSecond := by
  unfold floor
  split <;> rfl

namespace Service

theorem Refusal.status_ne_ok (e : Refusal) : e.status ≠ 200 := by
  cases e <;> decide

namespace Server

variable {s : Server} {r : Request} {h : Headers} {i : Identity} {t : Tokens}

/-- The access token of an answer was made for this identity and for the second that the answer
gives. -/
def GrantsAccess (g : Issuer) (i : Identity) (t : Tokens) : Prop :=
  ∃ e : Instant, t.accessToken = g.create i e .access ∧ t.expiresIn = Int64.ofInt e.seconds

def GrantsRefresh (g : Issuer) (i : Identity) (t : SignedToken) : Prop :=
  ∃ e : Instant, t = g.create i e .refresh

/-- A token is issued if its lifetime does not lead out of range. -/
theorem issue_eq_ok_iff {kind : TokenKind} {made : IssuedToken} :
    s.issue i kind = .ok made ↔ ∃ e, s.now.add? (s.issuer.policy.lifetime kind) = some e ∧
      made = ⟨s.issuer.create i e.floor kind, e.floor⟩ := by
  cases hadd : s.now.add? (s.issuer.policy.lifetime kind) with
  | none => simp [issue, Issuer.issue, Issuer.expiry, hadd, Except.mapError]
  | some e => simp [issue, Issuer.issue, Issuer.expiry, hadd, Except.mapError, eq_comm]

theorem authenticateUser_eq_ok_iff : s.authenticateUser h = .ok t ↔ ∃ i access refresh,
    s.login h = .ok i ∧ s.now.add? s.issuer.policy.accessLifetime = some access ∧
      s.now.add? s.issuer.policy.refreshLifetime = some refresh ∧
      t = tokens ⟨s.issuer.create i access.floor .access, access.floor⟩
        (s.issuer.create i refresh.floor .refresh) := by
  constructor
  · intro hok
    unfold authenticateUser at hok
    split at hok
    · simp at hok
    · next i hlogin =>
      split at hok
      · next issued issued' hissued hissued' =>
        obtain ⟨access, haccess, rfl⟩ := issue_eq_ok_iff.1 hissued
        obtain ⟨refresh, hrefresh, rfl⟩ := issue_eq_ok_iff.1 hissued'
        exact ⟨i, access, refresh, hlogin, haccess, hrefresh, (Except.ok.inj hok).symm⟩
      · simp at hok
  · rintro ⟨i, access, refresh, hlogin, haccess, hrefresh, rfl⟩
    have hissued : s.issue i .access = .ok _ := issue_eq_ok_iff.2 ⟨access, haccess, rfl⟩
    have hissued' : s.issue i .refresh = .ok _ := issue_eq_ok_iff.2 ⟨refresh, hrefresh, rfl⟩
    simp only [authenticateUser, hlogin, hissued, hissued']

theorem authenticateUser_eq_ok (hok : s.authenticateUser h = .ok t) :
    ∃ i, s.login h = .ok i ∧ GrantsAccess s.issuer i t ∧
      GrantsRefresh s.issuer i t.refreshToken := by
  obtain ⟨i, access, refresh, hlogin, -, -, rfl⟩ := authenticateUser_eq_ok_iff.1 hok
  exact ⟨i, hlogin, ⟨access.floor, rfl, rfl⟩, ⟨refresh.floor, rfl⟩⟩

/-- The refresh token that is handed out is a new one, or the one presented. -/
theorem renewed_eq_ok_iff {presented refresh : SignedToken} {v : VerifiedToken} :
    s.renewed presented v = .ok refresh ↔
      v.remaining s.now < s.issuer.policy.renewalThreshold ∧
        (∃ e, s.now.add? s.issuer.policy.refreshLifetime = some e ∧
          refresh = s.issuer.create v.identity e.floor .refresh) ∨
      ¬ v.remaining s.now < s.issuer.policy.renewalThreshold ∧ refresh = presented := by
  unfold renewed
  by_cases hdue : v.remaining s.now < s.issuer.policy.renewalThreshold
  · rw [if_pos hdue]
    cases hissue : s.issue v.identity .refresh with
    | error e =>
      have hnone : ∀ e, s.now.add? s.issuer.policy.refreshLifetime ≠ some e := by
        intro e he
        rw [issue_eq_ok_iff.2 ⟨e, he, rfl⟩] at hissue
        simp at hissue
      simp [Except.map, hdue, hnone]
    | ok made =>
      obtain ⟨e, he, rfl⟩ := issue_eq_ok_iff.1 hissue
      have he : s.now.add? s.issuer.policy.refreshLifetime = some e := he
      simp [Except.map, hdue, he, eq_comm]
  · simp [hdue, eq_comm]

theorem refreshToken_ok_iff : s.refreshToken h = .ok t ↔ ∃ presented v access refresh,
    h.refreshToken = .ok presented ∧ s.issuer.verify s.now presented .refresh = .ok v ∧
      s.renewed presented v = .ok refresh ∧
      s.now.add? s.issuer.policy.accessLifetime = some access ∧
      t = tokens ⟨s.issuer.create v.identity access.floor .access, access.floor⟩ refresh := by
  constructor
  · intro hok
    unfold refreshToken at hok
    split at hok
    · simp at hok
    · next presented hpresented =>
      split at hok
      · simp at hok
      · next v hv =>
        split at hok
        · next refresh issued hrefresh hissued =>
          obtain ⟨access, haccess, rfl⟩ := issue_eq_ok_iff.1 hissued
          exact ⟨presented, v, access, refresh, hpresented, hv, hrefresh, haccess,
            (Except.ok.inj hok).symm⟩
        · simp at hok
  · rintro ⟨presented, v, access, refresh, hpresented, hv, hrefresh, haccess, rfl⟩
    have hissued : s.issue v.identity .access = .ok _ := issue_eq_ok_iff.2 ⟨access, haccess, rfl⟩
    simp only [refreshToken, hpresented, hv, hrefresh, hissued]

theorem refreshToken_eq_ok (hok : s.refreshToken h = .ok t) :
    ∃ presented v, h.refreshToken = .ok presented ∧
      s.issuer.verify s.now presented .refresh = .ok v ∧ GrantsAccess s.issuer v.identity t ∧
      (t.refreshToken = presented ∨ GrantsRefresh s.issuer v.identity t.refreshToken) := by
  obtain ⟨presented, v, access, refresh, hpresented, hv, hrefresh, -, rfl⟩ :=
    refreshToken_ok_iff.1 hok
  refine ⟨presented, v, hpresented, hv, ⟨access.floor, rfl, rfl⟩, ?_⟩
  rcases renewed_eq_ok_iff.1 hrefresh with ⟨-, e, -, hmade⟩ | ⟨-, hsame⟩
  · exact Or.inr ⟨e.floor, hmade⟩
  · exact Or.inl hsame

/-- An answer to a login or a refresh that has these tokens in its body. -/
def HandsOut (s : Server) (r : Request) (t : Tokens) : Prop :=
  (pathOf r.target = Call.authenticateUser.path ∨ pathOf r.target = Call.refreshToken.path) ∧
    (s.answer r).status = 200 ∧ Json.readAll Tokens.readJson (s.answer r).body = .ok t

theorem answer_of_post {c : Call} (hc : c ∈ Call.bypassed) (hpath : pathOf r.target = c.path)
    (hmethod : r.method = "POST") : s.answer r = s.handle c r.headers none := by
  have hpass := isBypassed_eq_true_iff.2 ⟨c, hc, hpath⟩
  rw [answer_of_gate_ok (gate_of_bypassed s r.headers hpass), finishResponse_of_post hmethod]
  simp only [route, hpath, ofPath?_path, if_pos hmethod]

theorem method_of_status_ok {c : Call} (hc : c ∈ Call.bypassed) (hpath : pathOf r.target = c.path)
    (hstatus : (s.answer r).status = 200) : r.method = "POST" := by
  have hpass := isBypassed_eq_true_iff.2 ⟨c, hc, hpath⟩
  rw [answer_of_gate_ok (gate_of_bypassed s r.headers hpass), finishResponse_status] at hstatus
  by_contra hmethod
  simp only [route, hpath, ofPath?_path, if_neg hmethod] at hstatus
  exact absurd hstatus (by decide)

theorem ofResult_status_ok {α : Type} {body : α → List Char} {result : Except Refusal α}
    (hstatus : (Response.ofResult body result).status = 200) : ∃ a, result = .ok a := by
  cases result with
  | ok a => exact ⟨a, rfl⟩
  | error e => exact absurd hstatus e.status_ne_ok

/-- Tokens that a call succeeds with can be read in the body of its answer. -/
theorem readAll_of_answer (hanswer : s.answer r = Response.ofResult Tokens.render (.ok t)) :
    (s.answer r).status = 200 ∧ Json.readAll Tokens.readJson (s.answer r).body = .ok t := by
  rw [hanswer]
  exact ⟨rfl, t.readAll_render⟩

theorem handsOut_of_login (hpath : pathOf r.target = Call.authenticateUser.path)
    (hmethod : r.method = "POST") (hok : s.authenticateUser r.headers = .ok t) : HandsOut s r t := by
  have hanswer := answer_of_post (s := s) (by decide) hpath hmethod
  simp only [handle, hok] at hanswer
  exact ⟨Or.inl hpath, readAll_of_answer hanswer⟩

theorem handsOut_of_refresh (hpath : pathOf r.target = Call.refreshToken.path)
    (hmethod : r.method = "POST") (hok : s.refreshToken r.headers = .ok t) : HandsOut s r t := by
  have hanswer := answer_of_post (s := s) (by decide) hpath hmethod
  simp only [handle, hok] at hanswer
  exact ⟨Or.inr hpath, readAll_of_answer hanswer⟩

/-- A login that is answered with success has tokens to hand out. -/
theorem authenticateUser_of_status_ok (hpath : pathOf r.target = Call.authenticateUser.path)
    (hstatus : (s.answer r).status = 200) :
    ∃ t, s.authenticateUser r.headers = .ok t ∧ HandsOut s r t := by
  have hmethod := method_of_status_ok (by decide) hpath hstatus
  rw [answer_of_post (by decide) hpath hmethod] at hstatus
  obtain ⟨t, ht⟩ := ofResult_status_ok hstatus
  exact ⟨t, ht, handsOut_of_login hpath hmethod ht⟩

theorem refreshToken_of_status_ok (hpath : pathOf r.target = Call.refreshToken.path)
    (hstatus : (s.answer r).status = 200) :
    ∃ t, s.refreshToken r.headers = .ok t ∧ HandsOut s r t := by
  have hmethod := method_of_status_ok (by decide) hpath hstatus
  rw [answer_of_post (by decide) hpath hmethod] at hstatus
  obtain ⟨t, ht⟩ := ofResult_status_ok hstatus
  exact ⟨t, ht, handsOut_of_refresh hpath hmethod ht⟩

theorem exists_handsOut
    (hpath : pathOf r.target = Call.authenticateUser.path ∨
      pathOf r.target = Call.refreshToken.path)
    (hstatus : (s.answer r).status = 200) : ∃ t, HandsOut s r t := by
  rcases hpath with hpath | hpath
  · obtain ⟨t, -, hands⟩ := authenticateUser_of_status_ok hpath hstatus
    exact ⟨t, hands⟩
  · obtain ⟨t, -, hands⟩ := refreshToken_of_status_ok hpath hstatus
    exact ⟨t, hands⟩

theorem HandsOut.unique {t' : Tokens} (ht : HandsOut s r t) (ht' : HandsOut s r t') : t = t' := by
  obtain ⟨-, -, hread⟩ := ht
  obtain ⟨-, -, hread'⟩ := ht'
  rw [hread] at hread'
  exact Except.ok.inj hread'

/-- Whoever it is for, an access token that is handed out is one of the issuer's own. -/
theorem HandsOut.grantsAccess (hands : HandsOut s r t) : ∃ i, GrantsAccess s.issuer i t := by
  rcases hands.1 with hpath | hpath
  · obtain ⟨t', hok, hands'⟩ := authenticateUser_of_status_ok hpath hands.2.1
    obtain ⟨i, -, haccess, -⟩ := authenticateUser_eq_ok hok
    rw [hands.unique hands']
    exact ⟨i, haccess⟩
  · obtain ⟨t', hok, hands'⟩ := refreshToken_of_status_ok hpath hands.2.1
    obtain ⟨-, v, -, -, haccess, -⟩ := refreshToken_eq_ok hok
    rw [hands.unique hands']
    exact ⟨v.identity, haccess⟩

end Server

end Service

end TokenAuth
