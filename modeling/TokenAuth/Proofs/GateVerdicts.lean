import TokenAuth.Proofs.HeaderText
import TokenAuth.Service.Run

/-!
The gate of the service. Outside of the three calls that it lets pass, its verdict is a matter of the
first authorization header, the clock and the issuer alone; the path, the method and the users have no
part in it. On those three calls it is the other way round: no access token has any effect.
-/
namespace TokenAuth.Service

open Text Headers

/-- The header carries a token that is good at this instant and speaks for this identity. -/
def Admits (g : Issuer) (now : Instant) (header : Option (List UInt8)) (i : Identity) : Prop :=
  ∃ value t v, header = some value ∧ BearerText value t ∧ g.verify now t .access = .ok v ∧
    v.identity = i

/-- Why a header is turned away. All reasons for which a token fails are one. -/
inductive Denies (g : Issuer) (now : Instant) : Option (List UInt8) → Refusal → Prop
  | absent : Denies g now none .noAuthorizationHeader
  | other {value : List UInt8} (h : ∀ t, ¬ BearerText value t) :
      Denies g now (some value) .noBearerScheme
  | failed {value : List UInt8} {t : SignedToken} {e : TokenError} (ht : BearerText value t)
      (he : g.verify now t .access = .error e) : Denies g now (some value) .tokenInvalid

theorem Denies.status {g : Issuer} {now : Instant} {header : Option (List UInt8)} {e : Refusal}
    (h : Denies g now header e) : e.status = 401 := by
  cases h <;> rfl

/-- What a call can tell apart in the headers. -/
def SameReading : Call → Headers → Headers → Prop
  | .authenticateUser, h, h' => h.basicCredentials = h'.basicCredentials
  | .refreshToken, h, h' => h.refreshToken = h'.refreshToken
  | .logoutUser, _, _ => True
  | .health, _, _ => True

theorem Refusal.eq_unauthenticated_of_body {e : Refusal}
    (h : e.body = Refusal.unauthenticated.body) : e = .unauthenticated := by
  revert h
  cases e <;> decide

theorem Denies.ne_unauthenticated {g : Issuer} {now : Instant} {header : Option (List UInt8)}
    {e : Refusal} (h : Denies g now header e) : e ≠ .unauthenticated := by
  cases h <;> simp

theorem isBypassed_eq_true_iff {path : List Char} :
    isBypassed path = true ↔ ∃ c ∈ Call.bypassed, path = c.path := by
  simp only [isBypassed, List.any_eq_true, decide_eq_true_eq, @eq_comm _ path]

theorem isBypassed_eq_false_iff {path : List Char} :
    isBypassed path = false ↔ ∀ c ∈ Call.bypassed, path ≠ c.path := by
  rw [← Bool.not_eq_true, isBypassed_eq_true_iff]
  constructor
  · intro h c hc heq
    exact h ⟨c, hc, heq⟩
  · rintro h ⟨c, hc, heq⟩
    exact h c hc heq

theorem ofPath?_path (c : Call) : Call.ofPath? c.path = some c := by
  cases c <;> decide

theorem not_bypassed_of_logout {path : List Char} (h : path = Call.logoutUser.path) :
    isBypassed path = false := by
  rw [h]
  decide

/-- The only call that the gate guards. -/
theorem ofPath?_of_not_bypassed {path : List Char} (h : isBypassed path = false) :
    Call.ofPath? path = if path = Call.logoutUser.path then some .logoutUser else none := by
  rw [isBypassed_eq_false_iff] at h
  by_cases hlogout : path = Call.logoutUser.path
  · rw [if_pos hlogout, hlogout, ofPath?_path]
  · rw [if_neg hlogout, Call.ofPath?, List.find?_eq_none]
    intro c _ hc
    have hpath : path = c.path := (of_decide_eq_true hc).symm
    cases c with
    | logoutUser => exact hlogout hpath
    | authenticateUser => exact h .authenticateUser (by decide) hpath
    | refreshToken => exact h .refreshToken (by decide) hpath
    | health => exact h .health (by decide) hpath

namespace Server

variable {s : Server} {r : Request} {path : List Char} {h : Headers} {i : Identity}

theorem finishResponse_status (r : Request) (a : Response) :
    (finishResponse r a).status = a.status := by
  unfold finishResponse
  dsimp only
  split <;> split <;> rfl

theorem finishResponse_body (r : Request) (a : Response) :
    (finishResponse r a).body = if r.method = "HEAD" then [] else a.body := by
  unfold finishResponse
  dsimp only
  split <;> split <;> rfl

theorem finishResponse_of_post (hmethod : r.method = "POST") (a : Response) :
    finishResponse r a = a := by
  simp [finishResponse, hmethod]

theorem gate_of_bypassed (s : Server) (h : Headers) (hpath : isBypassed path = true) :
    s.gate path h = .ok none := by
  simp [gate, hpath]

theorem gate_eq_ok_iff (hpath : isBypassed path = false) {who : Option Identity} :
    s.gate path h = .ok who ↔
      ∃ i, who = some i ∧ Admits s.issuer s.now (h.get? "authorization") i := by
  simp only [gate, hpath, Bool.false_eq_true, if_false]
  constructor
  · intro hgate
    split at hgate
    · simp at hgate
    · next t hbearer =>
      obtain ⟨value, hvalue, ht⟩ := bearerToken_eq_ok_iff.1 hbearer
      split at hgate
      · simp at hgate
      · next v hv => exact ⟨v.identity, (Except.ok.inj hgate).symm, value, t, v, hvalue, ht, hv, rfl⟩
  · rintro ⟨i, rfl, value, t, v, hvalue, ht, hv, rfl⟩
    simp only [bearerToken_eq_ok_iff.2 ⟨value, hvalue, ht⟩, hv]

theorem gate_eq_error_iff (hpath : isBypassed path = false) {e : Refusal} :
    s.gate path h = .error e ↔ Denies s.issuer s.now (h.get? "authorization") e := by
  simp only [gate, hpath, Bool.false_eq_true, if_false]
  constructor
  · intro hgate
    split at hgate
    · next e' hbearer =>
      have he : e' = e := Except.error.inj hgate
      subst he
      cases hvalue : h.get? "authorization" with
      | none =>
        rw [bearerToken_of_absent hvalue] at hbearer
        rw [← Except.error.inj hbearer]
        exact .absent
      | some value =>
        have hno : ¬ ∃ t, BearerText value t := by
          rintro ⟨t, ht⟩
          rw [bearerToken_eq_ok_iff.2 ⟨value, hvalue, ht⟩] at hbearer
          simp at hbearer
        rw [bearerToken_of_other hvalue hno] at hbearer
        rw [← Except.error.inj hbearer]
        exact .other fun t ht => hno ⟨t, ht⟩
    · next t hbearer =>
      obtain ⟨value, hvalue, ht⟩ := bearerToken_eq_ok_iff.1 hbearer
      split at hgate
      · next e' hverify =>
        rw [hvalue, ← Except.error.inj hgate]
        exact .failed ht hverify
      · simp at hgate
  · intro hdenies
    generalize hvalue : h.get? "authorization" = header at hdenies
    cases hdenies with
    | absent => simp only [bearerToken_of_absent hvalue]
    | other hno =>
      simp only [bearerToken_of_other hvalue fun ⟨t, ht⟩ => hno t ht]
    | failed ht hverify =>
      simp only [bearerToken_eq_ok_iff.2 ⟨_, hvalue, ht⟩, hverify]

theorem answer_of_gate_ok {who : Option Identity}
    (hgate : s.gate (pathOf r.target) r.headers = .ok who) :
    s.answer r = finishResponse r (s.route r who) := by
  simp only [answer, hgate]

theorem answer_of_gate_error {e : Refusal}
    (hgate : s.gate (pathOf r.target) r.headers = .error e) :
    s.answer r = finishResponse r (.refused e) := by
  simp only [answer, hgate]

/-- Behind the gate there is one call. -/
theorem route_of_not_bypassed (hpath : isBypassed (pathOf r.target) = false) :
    s.route r (some i) =
      if pathOf r.target = Call.logoutUser.path then
        if r.method = "POST" then .ok (Json.renderObject []) else .methodNotAllowed
      else .notFound := by
  rw [route, ofPath?_of_not_bypassed hpath]
  by_cases hlogout : pathOf r.target = Call.logoutUser.path
  · simp only [if_pos hlogout]
    rfl
  · simp only [if_neg hlogout]

/-- On a path that the gate lets pass, answers differ only with the method and with what the call of
the path reads. -/
theorem answer_congr_of_bypassed {c : Call} (hc : c ∈ Call.bypassed) (hpath : pathOf r.target = c.path)
    {r' : Request} (hmethod : r'.method = r.method) (htarget : r'.target = r.target)
    (hread : SameReading c r'.headers r.headers) : s.answer r' = s.answer r := by
  have hpass : isBypassed (pathOf r.target) = true := isBypassed_eq_true_iff.2 ⟨c, hc, hpath⟩
  have hhandle : s.handle c r'.headers none = s.handle c r.headers none := by
    cases c with
    | authenticateUser =>
      have hsame : r'.headers.basicCredentials = r.headers.basicCredentials := hread
      simp only [handle, authenticateUser, login, hsame]
    | refreshToken =>
      have hsame : r'.headers.refreshToken = r.headers.refreshToken := hread
      simp only [handle, refreshToken, hsame]
    | logoutUser => rfl
    | health => rfl
  rw [answer_of_gate_ok (gate_of_bypassed s r.headers hpass),
    answer_of_gate_ok (gate_of_bypassed s r'.headers (by rw [htarget]; exact hpass))]
  simp only [finishResponse, route, hmethod, htarget, hpath, ofPath?_path, hhandle]

theorem login_eq_error {e : Refusal} (heq : s.login h = .error e) :
    e ∈ [Refusal.noAuthorizationHeader, .noBasicScheme, .malformedCredentialPair,
      .invalidCredentials, .internal] := by
  unfold login at heq
  split at heq
  · next e' herror =>
    rw [← Except.error.inj heq]
    rcases basicCredentials_eq_error herror with rfl | rfl | rfl <;> simp
  · split at heq
    · simp [← Except.error.inj heq]
    · split at heq
      · simp [← Except.error.inj heq]
      · simp [← Except.error.inj heq]
      · simp at heq

/-- A login fails for what is presented, or because one of the tokens cannot be made. -/
theorem authenticateUser_eq_error {e : Refusal} (heq : s.authenticateUser h = .error e) :
    s.login h = .error e ∨
      e = .tokenCreationFailed ∧ ∃ i kind cause, s.issue i kind = .error cause := by
  unfold authenticateUser at heq
  split at heq
  · next e' herror =>
    rw [← Except.error.inj heq]
    exact Or.inl herror
  · next i _ =>
    split at heq
    · simp at heq
    · next hnot =>
      refine Or.inr ⟨(Except.error.inj heq).symm, i, ?_⟩
      cases haccess : s.issue i .access with
      | error cause => exact ⟨.access, cause, haccess⟩
      | ok access =>
        cases hrefresh : s.issue i .refresh with
        | error cause => exact ⟨.refresh, cause, hrefresh⟩
        | ok refresh => exact absurd hrefresh (hnot access refresh haccess)

theorem renewed_eq_error {presented : SignedToken} {v : VerifiedToken} {e : Refusal}
    (heq : s.renewed presented v = .error e) : s.issue v.identity .refresh = .error e := by
  unfold renewed at heq
  split at heq
  · cases hissue : s.issue v.identity .refresh with
    | error cause => simpa [hissue, Except.map] using heq
    | ok made => simp [hissue, Except.map] at heq
  · simp at heq

/-- A refresh fails likewise. -/
theorem refreshToken_eq_error {e : Refusal} (heq : s.refreshToken h = .error e) :
    e ∈ [Refusal.noRefreshHeader, .tokenInvalid] ∨
      e = .tokenCreationFailed ∧ ∃ i kind cause, s.issue i kind = .error cause := by
  unfold refreshToken at heq
  split at heq
  · next e' herror =>
    unfold Headers.refreshToken at herror
    split at herror
    · simp at herror
    · left
      simp [← Except.error.inj heq, ← Except.error.inj herror]
  · next presented _ =>
    split at heq
    · left
      simp [← Except.error.inj heq]
    · next v _ =>
      split at heq
      · simp at heq
      · next hnot =>
        refine Or.inr ⟨(Except.error.inj heq).symm, v.identity, ?_⟩
        cases hrefresh : s.renewed presented v with
        | error cause => exact ⟨.refresh, cause, renewed_eq_error hrefresh⟩
        | ok refresh =>
          cases haccess : s.issue v.identity .access with
          | error cause => exact ⟨.access, cause, haccess⟩
          | ok access => exact absurd haccess (hnot refresh access hrefresh)

theorem authenticateUser_ne_unauthenticated (s : Server) (h : Headers) :
    s.authenticateUser h ≠ .error .unauthenticated := by
  intro heq
  rcases authenticateUser_eq_error heq with hlogin | ⟨hother, -⟩
  · simpa using login_eq_error hlogin
  · simp at hother

theorem refreshToken_ne_unauthenticated (s : Server) (h : Headers) :
    s.refreshToken h ≠ .error .unauthenticated := by
  intro heq
  rcases refreshToken_eq_error heq with hother | ⟨hother, -⟩ <;> simp at hother

/-- An answer that does not say that the identity is missing. -/
def Identified (a : Response) : Prop :=
  ¬ (a.status = 401 ∧ a.body = Refusal.unauthenticated.body)

theorem identified_refused {e : Refusal} (h : e ≠ .unauthenticated) :
    Identified (.refused e) := by
  rintro ⟨-, hbody⟩
  exact h (Refusal.eq_unauthenticated_of_body hbody)

theorem identified_ofResult {α : Type} {body : α → List Char} {result : Except Refusal α}
    (h : result ≠ .error .unauthenticated) : Identified (.ofResult body result) := by
  cases result with
  | ok a =>
    rintro ⟨hstatus, -⟩
    exact absurd hstatus (by simp [Response.ofResult, Response.ok, Response.json])
  | error e =>
    apply identified_refused
    rintro rfl
    exact h rfl

theorem identified_finishResponse {a : Response} (h : Identified a) :
    Identified (finishResponse r a) := by
  rintro ⟨hstatus, hbody⟩
  rw [finishResponse_status] at hstatus
  rw [finishResponse_body] at hbody
  split at hbody
  · revert hbody
    decide
  · exact h ⟨hstatus, hbody⟩

/-- The only call that asks for an identity lies behind the gate. -/
theorem identified_route {who : Option Identity}
    (hwho : pathOf r.target = Call.logoutUser.path → who ≠ none) : Identified (s.route r who) := by
  unfold route
  split
  · rintro ⟨hstatus, -⟩
    exact absurd hstatus (by decide)
  · next c hc =>
    split
    · cases c with
      | authenticateUser => exact identified_ofResult (s.authenticateUser_ne_unauthenticated _)
      | refreshToken => exact identified_ofResult (s.refreshToken_ne_unauthenticated _)
      | logoutUser =>
        have hfound := List.find?_some hc
        cases who with
        | none => exact absurd rfl (hwho (of_decide_eq_true hfound).symm)
        | some i => exact identified_ofResult (by simp [attached])
      | health =>
        rintro ⟨hstatus, -⟩
        exact absurd hstatus (by simp [handle, Response.ok, Response.json])
    · rintro ⟨hstatus, -⟩
      exact absurd hstatus (by decide)

theorem identified_answer (s : Server) (r : Request) : Identified (s.answer r) := by
  cases hpath : isBypassed (pathOf r.target) with
  | true =>
    rw [answer_of_gate_ok (gate_of_bypassed s r.headers hpath)]
    apply identified_finishResponse
    apply identified_route
    intro hlogout
    rw [hlogout] at hpath
    exact absurd hpath (by decide)
  | false =>
    cases hgate : s.gate (pathOf r.target) r.headers with
    | ok who =>
      obtain ⟨i, rfl, -⟩ := (gate_eq_ok_iff hpath).1 hgate
      rw [answer_of_gate_ok hgate]
      exact identified_finishResponse (identified_route fun _ => by simp)
    | error e =>
      rw [answer_of_gate_error hgate]
      apply identified_finishResponse
      apply identified_refused
      exact ((gate_eq_error_iff hpath).1 hgate).ne_unauthenticated

/-- A call with one header. -/
def callWith (c : Call) (name : String) (value : List UInt8) : Request :=
  ⟨"POST", c.path, [(name, value)], ""⟩

theorem get?_callWith (c : Call) (value : List UInt8) {name asked : String}
    (hname : sameName name asked = true) :
    (callWith c name value).headers.get? asked = some value := by
  simp [callWith, Headers.get?, hname]

/-- A server on which statements are tried out, and an identity that it may speak for. -/
def sample : Server :=
  start ⟨⟨⟨"access", by decide⟩, ⟨"refresh", by decide⟩⟩, .standard⟩
    ((Instant.ofSeconds? 0).get rfl)

def sampleUser : Identity := ⟨1, ⟨"user", by decide⟩, ⟨"user@host", by decide⟩, sample.now⟩

def sampleToken : SignedToken := sample.issuer.create sampleUser sample.now .access

def sampleValue : List UInt8 := utf8 ("Bearer " ++ sampleToken.text)

theorem bearerText_sampleValue : BearerText sampleValue sampleToken :=
  bearerText_utf8 _ fun _ => Compact.isPrintable_of_mem_encode

theorem admits_sampleValue :
    Admits sample.issuer sample.now (some sampleValue) sampleUser := by
  refine ⟨sampleValue, sampleToken, ⟨sampleUser, sample.now⟩, rfl, bearerText_sampleValue, ?_, rfl⟩
  rw [sampleToken, Issuer.verify_create]
  exact if_neg (by decide)

/-- Outside of the calls that need no token, a request gets through to what lies there if and only if
the first authorization header admits someone, and then as that identity; otherwise the header and the
clock alone say how it is refused. On the other calls no token of a bearer has any effect, and no
request at all gets through without an identity where one is needed. -/
theorem answer_sound_complete (s : Server) (r : Request) :
    ((∀ c ∈ Call.bypassed, pathOf r.target ≠ c.path) →
      (∀ who, s.gate (pathOf r.target) r.headers = .ok who ↔
        ∃ i, who = some i ∧ Admits s.issuer s.now (r.headers.get? "authorization") i) ∧
      (∀ e, s.gate (pathOf r.target) r.headers = .error e ↔
        Denies s.issuer s.now (r.headers.get? "authorization") e) ∧
      (∀ i, Admits s.issuer s.now (r.headers.get? "authorization") i →
        s.answer r = finishResponse r (s.route r (some i)) ∧
        s.route r (some i) =
          if pathOf r.target = Call.logoutUser.path then
            if r.method = "POST" then s.handle .logoutUser r.headers (some i) else .methodNotAllowed
          else .notFound) ∧
      (∀ e, Denies s.issuer s.now (r.headers.get? "authorization") e →
        (s.answer r).status = 401 ∧
        (s.answer r).body = if r.method = "HEAD" then [] else e.body)) ∧
    (∀ c ∈ Call.bypassed, pathOf r.target = c.path →
      s.gate (pathOf r.target) r.headers = .ok none ∧
      (∀ r' : Request, r'.method = r.method → r'.target = r.target →
        SameReading c r'.headers r.headers → s.answer r' = s.answer r) ∧
      (∀ value t, r.headers.get? "authorization" = some value → BearerText value t →
        r.headers.basicCredentials = .error .noBasicScheme)) ∧
    ¬ ((s.answer r).status = 401 ∧ (s.answer r).body = Refusal.unauthenticated.body) := by
  refine ⟨?_, ?_, s.identified_answer r⟩
  · intro hguarded
    have hpath := isBypassed_eq_false_iff.2 hguarded
    refine ⟨fun _ => gate_eq_ok_iff hpath, fun _ => gate_eq_error_iff hpath, ?_, ?_⟩
    · intro i hi
      exact ⟨answer_of_gate_ok ((gate_eq_ok_iff hpath).2 ⟨i, rfl, hi⟩),
        route_of_not_bypassed hpath⟩
    · intro e he
      rw [answer_of_gate_error ((gate_eq_error_iff hpath).2 he), finishResponse_status,
        finishResponse_body]
      exact ⟨he.status, rfl⟩
  · intro c hc hpath
    refine ⟨gate_of_bypassed s r.headers (isBypassed_eq_true_iff.2 ⟨c, hc, hpath⟩), ?_, ?_⟩
    · intro r' hmethod htarget hread
      exact answer_congr_of_bypassed hc hpath hmethod htarget hread
    · intro value t hvalue ht
      exact basicCredentials_of_bearerText hvalue ht

/-- A good token opens the way to the call behind the gate, an unknown path is not even looked up
without one, and where a name and a password are asked for the same token has no effect. -/
theorem answer_sound_complete_sample :
    ((∀ c ∈ Call.bypassed,
        pathOf (callWith .logoutUser "Authorization" sampleValue).target ≠ c.path) ∧
      Admits sample.issuer sample.now
        ((callWith .logoutUser "Authorization" sampleValue).headers.get? "authorization")
        sampleUser ∧
      (sample.answer (callWith .logoutUser "Authorization" sampleValue)).status = 200) ∧
    ((∀ c ∈ Call.bypassed, pathOf "/nowhere".toList ≠ c.path) ∧
      Denies sample.issuer sample.now none .noAuthorizationHeader ∧
      (sample.answer ⟨"HEAD", "/nowhere".toList, [], ""⟩).status = 401 ∧
      (sample.answer ⟨"HEAD", "/nowhere".toList, [], ""⟩).body = []) ∧
    (Call.authenticateUser ∈ Call.bypassed ∧
      (callWith .authenticateUser "authorization" sampleValue).headers.basicCredentials =
        .error .noBasicScheme) := by
  refine ⟨?_, ?_, ?_⟩
  · have hguarded : ∀ c ∈ Call.bypassed,
        pathOf (callWith .logoutUser "Authorization" sampleValue).target ≠ c.path := by
      decide
    obtain ⟨-, -, hadmitted, -⟩ := (answer_sound_complete sample
      (callWith .logoutUser "Authorization" sampleValue)).1 hguarded
    obtain ⟨hanswer, -⟩ := hadmitted sampleUser admits_sampleValue
    exact ⟨hguarded, admits_sampleValue, by rw [hanswer]; rfl⟩
  · have hguarded : ∀ c ∈ Call.bypassed, pathOf "/nowhere".toList ≠ c.path := by decide
    obtain ⟨-, -, -, hdenied⟩ := (answer_sound_complete sample
      ⟨"HEAD", "/nowhere".toList, [], ""⟩).1 hguarded
    exact ⟨hguarded, .absent, hdenied _ .absent⟩
  · obtain ⟨-, -, hignored⟩ := (answer_sound_complete sample
      (callWith .authenticateUser "authorization" sampleValue)).2.1 .authenticateUser (by decide) rfl
    exact ⟨by decide, hignored _ _ rfl bearerText_sampleValue⟩

end Server

end TokenAuth.Service
