import TokenAuth.Proofs.Logins

/-!
An access token lasts until the second that was given with it, whatever the server goes through in the
meantime. It speaks for whoever has logged in, also at the end of any chain of refreshes.
-/
namespace TokenAuth.Service.Server

open Text Headers

variable {s : Server} {r : Request} {i : Identity} {t : Tokens} {steps : List Step}

/-- A call that ends a session, made as the bearer of a token. -/
def Presents (r : Request) (t : SignedToken) : Prop :=
  r.method = "POST" ∧ pathOf r.target = Call.logoutUser.path ∧
    r.headers.get? "authorization" = some (utf8 ("Bearer " ++ t.text))

/-- Tokens that go back to a login: those of the login itself, and those of a refresh at any later time
in which a refresh token that goes back to the same login is presented. A request leaves the server as
it was, so it makes no difference whether it is counted among the steps. -/
inductive Session (s : Server) : List Step → Identity → Tokens → Prop
  | login {steps : List Step} {r : Request} {i : Identity} {t : Tokens}
      (hpath : pathOf r.target = Call.authenticateUser.path)
      (hlogin : (s.run steps).login r.headers = .ok i) (hands : HandsOut (s.run steps) r t) :
      Session s steps i t
  | refresh {steps : List Step} {i : Identity} {t t' : Tokens} (h : Session s steps i t)
      (more : List Step) {r : Request} (hpath : pathOf r.target = Call.refreshToken.path)
      (hpresents : r.headers.refreshToken = .ok t.refreshToken)
      (hands : HandsOut (s.run (steps ++ more)) r t') : Session s (steps ++ more) i t'

theorem gate_of_presents {access : SignedToken} {e : Instant}
    (hmade : access = s.issuer.create i e .access) (hr : Presents r access) :
    s.gate (pathOf r.target) r.headers =
      if e.wholeSecond < s.now then .error .tokenInvalid else .ok (some i) := by
  obtain ⟨-, hpath, hvalue⟩ := hr
  have hbearer : r.headers.bearerToken = .ok access := by
    apply bearerToken_eq_ok_iff.2
    refine ⟨_, hvalue, bearerText_utf8 access ?_⟩
    rw [hmade]
    exact fun _ => Compact.isPrintable_of_mem_encode
  simp only [gate, not_bypassed_of_logout hpath, Bool.false_eq_true, if_false, hbearer]
  rw [hmade, Issuer.verify_create]
  by_cases hlate : e.wholeSecond < s.now
  · simp only [if_pos hlate]
  · simp only [if_neg hlate]

theorem answer_of_presents {access : SignedToken} {e : Instant}
    (hmade : access = s.issuer.create i e .access) (hr : Presents r access) :
    s.answer r =
      if e.wholeSecond < s.now then .refused .tokenInvalid else .ok (Json.renderObject []) := by
  have hgate := gate_of_presents hmade hr
  obtain ⟨hmethod, hpath, -⟩ := hr
  have hguarded := not_bypassed_of_logout hpath
  by_cases hlate : e.wholeSecond < s.now
  · rw [if_pos hlate] at hgate
    rw [answer_of_gate_error hgate, finishResponse_of_post hmethod, if_pos hlate]
  · rw [if_neg hlate] at hgate
    rw [answer_of_gate_ok hgate, finishResponse_of_post hmethod,
      route_of_not_bypassed hguarded, if_pos hpath, if_pos hmethod, if_neg hlate]

/-- The invariant of a session: both tokens were made for who has logged in. -/
theorem Session.granted (h : Session s steps i t) :
    GrantsAccess s.issuer i t ∧ GrantsRefresh s.issuer i t.refreshToken := by
  induction h with
  | @login steps r i t hpath hlogin hands =>
    obtain ⟨t', hok, hands'⟩ := authenticateUser_of_status_ok hpath hands.2.1
    obtain ⟨i', hlogin', haccess, hrefresh⟩ := authenticateUser_eq_ok hok
    rw [hlogin] at hlogin'
    rw [run_issuer] at haccess hrefresh
    rw [hands.unique hands', Except.ok.inj hlogin']
    exact ⟨haccess, hrefresh⟩
  | @refresh steps i t t' h more r hpath hpresents hands ih =>
    obtain ⟨-, hold⟩ := ih
    obtain ⟨t'', hok, hands'⟩ := refreshToken_of_status_ok hpath hands.2.1
    obtain ⟨presented, v, hpresented, hverify, haccess, hrefresh⟩ := refreshToken_eq_ok hok
    rw [hpresents] at hpresented
    rw [← Except.ok.inj hpresented] at hverify hrefresh
    rw [run_issuer] at hverify haccess hrefresh
    -- The issuer made the token that is presented, so it finds in it the identity it put there.
    have hsame : v.identity = i := by
      obtain ⟨e, hmade⟩ := hold
      rw [hmade, Issuer.verify_create] at hverify
      split at hverify
      · simp at hverify
      · rw [← Except.ok.inj hverify]
    rw [hsame] at haccess hrefresh
    rw [hands.unique hands']
    refine ⟨haccess, ?_⟩
    rcases hrefresh with hrefresh | hrefresh
    · rw [hrefresh]
      exact hold
    · exact hrefresh

theorem GrantsAccess.unique {g : Issuer} {i' : Identity} (h : GrantsAccess g i t)
    (h' : GrantsAccess g i' t) : i = i' := by
  obtain ⟨e, hmade, -⟩ := h
  obtain ⟨e', hmade', -⟩ := h'
  have hspeaks : SpeaksFor g t.accessToken .access i e.wholeSecond := by
    rw [hmade]
    exact speaksFor_create g i e .access
  have hspeaks' : SpeaksFor g t.accessToken .access i' e'.wholeSecond := by
    rw [hmade']
    exact speaksFor_create g i' e' .access
  exact hspeaks.unique hspeaks'

def earliest : Instant := (Instant.ofSeconds? (-8334601228800)).get rfl

theorem earliest_le (t : Instant) : earliest ≤ t := by
  have hfirst := t.first_le
  have hseconds : earliest.seconds = -8334601228800 := rfl
  have hnanos : earliest.nanos = 0 := rfl
  rw [Instant.le_iff]
  omega

/-- Every successful login or refresh hands out an access token that expires at the second given with
it. At any later time the token opens the gate up to that very instant and not afterwards, for an
identity that stays the same; in a session that is the identity of the login. -/
theorem access_token_lasts (g : Issuer) (now : Instant) (steps : List Step) (r : Request)
    (hpath : pathOf r.target = Call.authenticateUser.path ∨
      pathOf r.target = Call.refreshToken.path)
    (hstatus : (((start g now).run steps).answer r).status = 200) :
    ∃ t i e, HandsOut ((start g now).run steps) r t ∧
      e.seconds = t.expiresIn.toInt ∧ e.nanos = 0 ∧
      (∃ c, Compact.decode t.accessToken .access g.keys.access = .ok c ∧ c.expires = e ∧
        c.body.user = i) ∧
      (∀ later s' r', s' = (start g now).run (steps ++ later) → Presents r' t.accessToken →
        (s'.now ≤ e → s'.gate (pathOf r'.target) r'.headers = .ok (some i) ∧
          s'.answer r' = .ok (Json.renderObject [])) ∧
        (e < s'.now → s'.answer r' = .refused .tokenInvalid)) ∧
      (∀ i', Session (start g now) steps i' t → i' = i ∧
        ∀ h : Headers, h.get? "x-refresh-token" = some (utf8 t.refreshToken.text) →
          h.refreshToken = .ok t.refreshToken) := by
  obtain ⟨t, hands⟩ := exists_handsOut hpath hstatus
  obtain ⟨i, hgrants⟩ := hands.grantsAccess
  rw [run_issuer] at hgrants
  have hgranted := hgrants
  obtain ⟨e, hmade, hexpires⟩ := hgranted
  have hdecode : Compact.decode t.accessToken .access g.keys.access =
      .ok { Claims.ofIdentity i e .access with expires := e.wholeSecond } := by
    rw [hmade]
    exact Compact.decode_encode_claims (Claims.ofIdentity i e .access) g.keys.access
  refine ⟨t, i, e.wholeSecond, hands, ?_, rfl, ⟨_, hdecode, rfl, rfl⟩, ?_, ?_⟩
  · rw [hexpires, Instant.toInt_ofInt_seconds]
    rfl
  · intro later s' r' hs' hr'
    have hmade' : t.accessToken = s'.issuer.create i e .access := by
      rw [hs', run_issuer]
      exact hmade
    have hgate := gate_of_presents hmade' hr'
    have hanswer := answer_of_presents hmade' hr'
    constructor
    · intro hgood
      have hlate : ¬ e.wholeSecond < s'.now := hgood
      rw [if_neg hlate] at hgate hanswer
      exact ⟨hgate, hanswer⟩
    · intro hlate
      rw [if_pos hlate] at hanswer
      exact hanswer
  · intro i' hsession
    obtain ⟨hgrants', e', hrefresh⟩ := hsession.granted
    constructor
    · exact hgrants'.unique hgrants
    · intro h hvalue
      apply refreshToken_of_printable _ hvalue
      rw [hrefresh]
      exact fun _ => Compact.isPrintable_of_mem_encode

/-- A user is added and logs in; then the store is closed and the clock is set back, and the access
token is as good as before. -/
theorem access_token_lasts_sample :
    pathOf (sampleLogin sampleUser.email).target = Call.authenticateUser.path ∧
    ((sample.run [.add (sampleNewUser sampleUser.email)]).answer
      (sampleLogin sampleUser.email)).status = 200 ∧
    ∃ t, Session sample [.add (sampleNewUser sampleUser.email)] sampleUser t ∧
      Presents (callWith .logoutUser "Authorization" (utf8 ("Bearer " ++ t.accessToken.text)))
        t.accessToken ∧
      (sample.run ([.add (sampleNewUser sampleUser.email)] ++
          [.closeStore, .setClock earliest])).answer
        (callWith .logoutUser "Authorization" (utf8 ("Bearer " ++ t.accessToken.text))) =
          .ok (Json.renderObject []) := by
  obtain ⟨t, hands, -⟩ : LogsIn (sample.run [.add (sampleNewUser sampleUser.email)])
      (sampleLogin sampleUser.email) sampleUser := by
    have haccess : (sample.now.add? sample.issuer.policy.accessLifetime).isSome := by decide
    have hrefresh : (sample.now.add? sample.issuer.policy.refreshLifetime).isSome := by decide
    obtain ⟨access, haccess⟩ := Option.isSome_iff_exists.1 haccess
    obtain ⟨refresh, hrefresh⟩ := Option.isSome_iff_exists.1 hrefresh
    have hlogin := login_sample
    rw [run_addSample] at hlogin ⊢
    exact logsIn_of_login rfl rfl hlogin haccess hrefresh
  obtain ⟨t', i, e, hands', -, -, -, hlasts, -⟩ :=
    access_token_lasts sample.issuer sample.now [.add (sampleNewUser sampleUser.email)]
      (sampleLogin sampleUser.email) (Or.inl rfl) hands.2.1
  have hsame : t' = t := hands'.unique hands
  subst hsame
  have hpresents : Presents
      (callWith .logoutUser "Authorization" (utf8 ("Bearer " ++ t'.accessToken.text)))
      t'.accessToken := ⟨rfl, rfl, get?_callWith _ _ (by decide)⟩
  refine ⟨rfl, hands.2.1, t', .login rfl login_sample hands, hpresents, ?_⟩
  obtain ⟨hgood, -⟩ := hlasts [.closeStore, .setClock earliest] _ _ rfl hpresents
  exact (hgood (earliest_le e)).2

end TokenAuth.Service.Server
