import TokenAuth.Proofs.CommandLines
import TokenAuth.Proofs.KindIsolation

/-!
What the service is started with, and what follows from it. The keys are the texts given for them, and
not empty; lifetimes and threshold are whole minutes up to ten years, as given on the line or by default.
So no lifetime leads out of the range of instants except in its last ten years, and before them no login
and no refresh fails because a token could not be made.
-/
namespace TokenAuth

namespace Instant

variable {t : Instant} {seconds nanos n : Int}

/-- The range of instants ends ten years later than this, or after that. -/
def TenYearsLeft (t : Instant) : Prop := t.seconds + 10 * 365 * 86400 ≤ 8210266876799

theorem isSome_carry? (hfirst : -8334601228800 ≤ seconds + nanos / 1000000000)
    (hlast : seconds + nanos / 1000000000 ≤ 8210266876799) : (carry? seconds nanos).isSome = true := by
  have hparts : -8334601228800 ≤ seconds + nanos / 1000000000 ∧
      seconds + nanos / 1000000000 ≤ 8210266876799 ∧ (nanos % 1000000000).toNat < 2000000000 ∧
      (1000000000 ≤ (nanos % 1000000000).toNat →
        (seconds + nanos / 1000000000) % 60 = 59) := by omega
  rw [carry?, ofParts?, dif_pos hparts]
  rfl

/-- Minutes can be added as long as the second that they lead to is in range. -/
theorem isSome_add?_ofMinutes (hn : 1 ≤ n) (hlast : t.seconds + n * 60 ≤ 8210266876799) :
    (t.add? (.ofMinutes n)).isSome = true := by
  have hfirst := t.first_le
  have hnanos := t.nanos_lt
  unfold add?
  dsimp only
  rw [Duration.nanoseconds_ofMinutes]
  split
  · next hleap =>
    have hfull : 1000000000 ≤ t.nanos := hleap.1
    rw [if_neg (by omega)]
    apply isSome_carry? <;> omega
  · next hleap =>
    have hshort : t.nanos < 1000000000 := by
      unfold IsLeap at hleap
      omega
    apply isSome_carry? <;> omega

end Instant

theorem SigningKey.text_of_ofText {s : String} {kind : TokenKind} {key : SigningKey}
    (h : ofText s kind = .ok key) : key.text = s := by
  unfold ofText at h
  split at h
  · simp at h
  · rw [← Except.ok.inj h]

theorem Keys.texts_of_ofTexts {access refresh : String} {keys : Keys}
    (h : ofTexts access refresh = .ok keys) :
    keys.access.text = access ∧ keys.refresh.text = refresh := by
  unfold ofTexts at h
  split at h
  · simp at h
  · next a haccess =>
    split at h
    · simp at h
    · next r hrefresh =>
      rw [← Except.ok.inj h]
      exact ⟨SigningKey.text_of_ofText haccess, SigningKey.text_of_ofText hrefresh⟩

namespace CommandLine.Run

variable {environment : List (String × String)} {args : List String} {values : Values}
  {c : Configuration} {long : String}

def minutesNames : List String := ["access-token-mins", "refresh-token-mins", "renewal-threshold-mins"]

/-- The number of minutes given on the line, or the standard one if none is given. -/
def IsSetTo (values : Values) (long : String) (standard n : Int) : Prop :=
  values.lookup long = none ∧ n = standard ∨ ∃ s, values.lookup long = some s ∧ minutes? s = some n

theorem bounds_of_minutes? {s : String} {n : Int} (h : minutes? s = some n) :
    1 ≤ n ∧ n ≤ largestMinutes := by
  obtain ⟨m, -, hm⟩ := Option.bind_eq_some_iff.1 h
  split at hm
  · next hbounds =>
    rw [← Option.some.inj hm]
    exact hbounds
  · simp at hm

/-- Minutes are given on the line alone, and within their bounds. -/
theorem minutes_of_parse (hparse : parse spec environment args = .ok values)
    (hlong : long ∈ minutesNames) {s : String} (hs : values.lookup long = some s) :
    ∃ n, minutes? s = some n := by
  obtain ⟨o, ho, rfl, hgiven⟩ := given_of_parse hparse hs
  have hoption : o.fromEnvironment = none ∧ ∀ s, o.accepts s = (minutes? s).isSome := by
    simp only [spec, List.mem_cons, List.not_mem_nil, or_false] at ho
    rcases ho with rfl | rfl | rfl | rfl | rfl | rfl | rfl | rfl
    · exact absurd hlong (by decide)
    · exact absurd hlong (by decide)
    · exact absurd hlong (by decide)
    · exact absurd hlong (by decide)
    · exact ⟨rfl, fun _ => rfl⟩
    · exact ⟨rfl, fun _ => rfl⟩
    · exact ⟨rfl, fun _ => rfl⟩
    · exact absurd hlong (by decide)
  rcases hgiven with haccepts | ⟨name, hname, -⟩
  · rw [hoption.2] at haccepts
    exact Option.isSome_iff_exists.1 haccepts
  · rw [hoption.1] at hname
    simp at hname

theorem exists_isSetTo (hparse : parse spec environment args = .ok values)
    (hlong : long ∈ minutesNames) (standard : Int) (hfirst : 1 ≤ standard)
    (hlast : standard ≤ largestMinutes) :
    ∃ n, IsSetTo values long standard n ∧ 1 ≤ n ∧ n ≤ largestMinutes ∧
      minutesOf values long standard = .ofMinutes n := by
  cases hlookup : values.lookup long with
  | none => exact ⟨standard, Or.inl ⟨hlookup, rfl⟩, hfirst, hlast, by simp [minutesOf, hlookup]⟩
  | some s =>
    obtain ⟨n, hn⟩ := minutes_of_parse hparse hlong hlookup
    obtain ⟨hone, hten⟩ := bounds_of_minutes? hn
    exact ⟨n, Or.inr ⟨s, hlookup, hn⟩, hone, hten, by simp [minutesOf, hlookup, hn]⟩

/-- The keys that the service is started with are those given. -/
theorem keys_of_configure (hparse : parse spec environment args = .ok values)
    (hconfigure : configure values = .ok c) :
    values.lookup "access-token-key" = some c.issuer.keys.access.text ∧
      values.lookup "refresh-token-key" = some c.issuer.keys.refresh.text := by
  obtain ⟨access, haccess⟩ := exists_of_required hparse
    (o := keyOption "access-token-key" accessKeyVariable) (by simp [spec]) rfl
  obtain ⟨refresh, hrefresh⟩ := exists_of_required hparse
    (o := keyOption "refresh-token-key" refreshKeyVariable) (by simp [spec]) rfl
  have haccess : values.lookup "access-token-key" = some access := haccess
  have hrefresh : values.lookup "refresh-token-key" = some refresh := hrefresh
  obtain ⟨-, hkeys, -⟩ := configure_eq_ok hconfigure
  rw [haccess, hrefresh, Option.getD_some, Option.getD_some] at hkeys
  obtain ⟨haccess', hrefresh'⟩ := Keys.texts_of_ofTexts hkeys
  rw [haccess, hrefresh, haccess', hrefresh']
  exact ⟨rfl, rfl⟩

/-- Lifetimes and threshold are numbers of minutes as they are set, within their bounds. -/
theorem policy_of_configure (hparse : parse spec environment args = .ok values)
    (hconfigure : configure values = .ok c) : ∃ access refresh threshold : Int,
      IsSetTo values "access-token-mins" Policy.accessMinutes access ∧
      IsSetTo values "refresh-token-mins" Policy.refreshMinutes refresh ∧
      IsSetTo values "renewal-threshold-mins" Policy.thresholdMinutes threshold ∧
      (∀ n ∈ [access, refresh, threshold], 1 ≤ n ∧ n ≤ largestMinutes) ∧ threshold < refresh ∧
      c.issuer.policy = ⟨.ofMinutes access, .ofMinutes refresh, .ofMinutes threshold⟩ := by
  obtain ⟨access, haccess, hfirst, hlast, heq⟩ := exists_isSetTo hparse
    (by decide : "access-token-mins" ∈ minutesNames) Policy.accessMinutes (by decide) (by decide)
  obtain ⟨refresh, hrefresh, hfirst', hlast', heq'⟩ := exists_isSetTo hparse
    (by decide : "refresh-token-mins" ∈ minutesNames) Policy.refreshMinutes (by decide) (by decide)
  obtain ⟨threshold, hthreshold, hfirst'', hlast'', heq''⟩ := exists_isSetTo hparse
    (by decide : "renewal-threshold-mins" ∈ minutesNames) Policy.thresholdMinutes (by decide) (by decide)
  obtain ⟨-, -, hpolicy, hless⟩ := configure_eq_ok hconfigure
  have hvalues : policyOf values = ⟨.ofMinutes access, .ofMinutes refresh, .ofMinutes threshold⟩ := by
    rw [policyOf, heq, heq', heq'']
  rw [hvalues] at hless
  refine ⟨access, refresh, threshold, haccess, hrefresh, hthreshold, ?_,
    Duration.ofMinutes_lt_iff.1 hless, hpolicy.trans hvalues⟩
  simp only [List.forall_mem_cons, List.not_mem_nil, false_imp_iff, implies_true, and_true]
  exact ⟨⟨hfirst, hlast⟩, ⟨hfirst', hlast'⟩, hfirst'', hlast''⟩

/-- No lifetime leads out of range before the last ten years. -/
theorem isSome_add?_lifetime (hparse : parse spec environment args = .ok values)
    (hconfigure : configure values = .ok c) {now : Instant} (hnow : now.TenYearsLeft)
    (kind : TokenKind) : (now.add? (c.issuer.policy.lifetime kind)).isSome = true := by
  obtain ⟨access, refresh, threshold, -, -, -, hbounds, -, hpolicy⟩ :=
    policy_of_configure hparse hconfigure
  have hminutes : ∃ n, 1 ≤ n ∧ n ≤ largestMinutes ∧
      c.issuer.policy.lifetime kind = .ofMinutes n := by
    rw [hpolicy]
    cases kind with
    | access => exact ⟨access, (hbounds access (by simp)).1, (hbounds access (by simp)).2, rfl⟩
    | refresh => exact ⟨refresh, (hbounds refresh (by simp)).1, (hbounds refresh (by simp)).2, rfl⟩
  obtain ⟨n, hone, hten, hlifetime⟩ := hminutes
  rw [hlifetime]
  apply Instant.isSome_add?_ofMinutes hone
  unfold Instant.TenYearsLeft at hnow
  unfold largestMinutes at hten
  omega

end CommandLine.Run

/-- Under such a policy a token that is made is good now, and as long as its expiry says. -/
theorem Issuer.issue_of_inMinutes {g : Issuer} (hpolicy : g.policy.InMinutes) {now e : Instant}
    {kind : TokenKind} (he : now.add? (g.policy.lifetime kind) = some e) (i : Identity) :
    ∃ made, g.issue now i kind = .ok made ∧ now < made.expires ∧
      g.verify now made.token kind = .ok ⟨i, made.expires⟩ := by
  have hfloor := hpolicy.floor_expiry kind he
  have hgood := hpolicy.lt_expiry kind he
  have hlate : ¬ e.wholeSecond < now := Std.not_gt_of_lt hgood
  refine ⟨⟨g.create i e.floor kind, e.floor⟩, ?_, ?_, ?_⟩
  · simp only [issue, expiry, he]
  · rw [hfloor]
    exact hgood
  · rw [verify_create, e.wholeSecond_floor, if_neg hlate, hfloor]

namespace Service

open CommandLine

/-- An answer that gives this reason. -/
def Reports (a : Response) (e : Refusal) : Prop := a.status = e.status ∧ a.body = e.body

theorem Refusal.eq_tokenCreationFailed_of_body {e : Refusal}
    (h : e.body = Refusal.tokenCreationFailed.body) : e = .tokenCreationFailed := by
  revert h
  cases e <;> decide

theorem error_of_reports {α : Type} {body : α → List Char} {result : Except Refusal α}
    (h : Reports (.ofResult body result) .tokenCreationFailed) :
    result = .error .tokenCreationFailed := by
  obtain ⟨hstatus, hbody⟩ := h
  cases result with
  | ok a =>
    exact absurd hstatus (by simp [Response.ofResult, Response.ok, Response.json, Refusal.status])
  | error e => rw [Refusal.eq_tokenCreationFailed_of_body hbody]

namespace Server

variable {s : Server} {r : Request} {h : Headers}

theorem authenticateUser_ne_tokenCreationFailed
    (hissue : ∀ i kind, ∃ made, s.issue i kind = .ok made) (h : Headers) :
    s.authenticateUser h ≠ .error .tokenCreationFailed := by
  intro heq
  rcases authenticateUser_eq_error heq with hlogin | ⟨-, i, kind, cause, hcause⟩
  · simpa using login_eq_error hlogin
  · obtain ⟨made, hmade⟩ := hissue i kind
    simp [hmade] at hcause

theorem refreshToken_ne_tokenCreationFailed
    (hissue : ∀ i kind, ∃ made, s.issue i kind = .ok made) (h : Headers) :
    s.refreshToken h ≠ .error .tokenCreationFailed := by
  intro heq
  rcases refreshToken_eq_error heq with hother | ⟨-, i, kind, cause, hcause⟩
  · simp at hother
  · obtain ⟨made, hmade⟩ := hissue i kind
    simp [hmade] at hcause

theorem status_ne_of_guarded (hpath : isBypassed (pathOf r.target) = false) :
    (s.answer r).status ≠ 500 := by
  cases hgate : s.gate (pathOf r.target) r.headers with
  | error e =>
    rw [answer_of_gate_error hgate, finishResponse_status]
    have hdenied : e.status = 401 := ((gate_eq_error_iff hpath).1 hgate).status
    simp [Response.refused, Response.json, hdenied]
  | ok who =>
    obtain ⟨i, rfl, -⟩ := (gate_eq_ok_iff hpath).1 hgate
    rw [answer_of_gate_ok hgate, finishResponse_status, route_of_not_bypassed hpath]
    split
    · split <;> decide
    · decide

/-- Tokens are made for a login or a refresh, and for nothing else. -/
theorem error_of_reports_answer (h : Reports (s.answer r) .tokenCreationFailed) :
    s.authenticateUser r.headers = .error .tokenCreationFailed ∨
      s.refreshToken r.headers = .error .tokenCreationFailed := by
  cases hpath : isBypassed (pathOf r.target) with
  | false => exact absurd h.1 (status_ne_of_guarded hpath)
  | true =>
    obtain ⟨c, hc, hcall⟩ := isBypassed_eq_true_iff.1 hpath
    have hmethod : r.method = "POST" := by
      by_contra hother
      obtain ⟨hstatus, -⟩ := h
      rw [answer_of_gate_ok (gate_of_bypassed s r.headers hpath), finishResponse_status, route,
        hcall, ofPath?_path] at hstatus
      simp only [if_neg hother] at hstatus
      exact absurd hstatus (by decide)
    rw [answer_of_post hc hcall hmethod] at h
    cases c with
    | authenticateUser => exact Or.inl (error_of_reports h)
    | refreshToken => exact Or.inr (error_of_reports h)
    | logoutUser => exact absurd hc (by decide)
    | health => exact absurd h.1 (by simp [handle, Response.ok, Response.json, Refusal.status])

/-- The service starts with the keys that are given, which are not empty, and with lifetimes and a
threshold of whole minutes, as they are set and within their bounds. Except in the last ten years before
the end of the range of instants, tokens of both kinds can then be made for everybody, and are good; so
no login and no refresh fails because they cannot be made. -/
theorem issues_of_configure {environment : List (String × String)} {args : List String}
    {values : Values} {c : Configuration} (hparse : parse Run.spec environment args = .ok values)
    (hconfigure : Run.configure values = .ok c) :
    (values.lookup "access-token-key" = some c.issuer.keys.access.text ∧
      values.lookup "refresh-token-key" = some c.issuer.keys.refresh.text ∧
      c.issuer.keys.access.text ≠ "" ∧ c.issuer.keys.refresh.text ≠ "") ∧
    (∃ access refresh threshold : Int,
      Run.IsSetTo values "access-token-mins" Policy.accessMinutes access ∧
      Run.IsSetTo values "refresh-token-mins" Policy.refreshMinutes refresh ∧
      Run.IsSetTo values "renewal-threshold-mins" Policy.thresholdMinutes threshold ∧
      (∀ n ∈ [access, refresh, threshold], 1 ≤ n ∧ n ≤ largestMinutes) ∧ threshold < refresh ∧
      c.issuer.policy = ⟨.ofMinutes access, .ofMinutes refresh, .ofMinutes threshold⟩) ∧
    ∀ now : Instant, now.TenYearsLeft →
      (∀ i kind, ∃ made, c.issuer.issue now i kind = .ok made ∧ now < made.expires ∧
        c.issuer.verify now made.token kind = .ok ⟨i, made.expires⟩) ∧
      ∀ (store : Store) (r : Request),
        ¬ Reports ((⟨c.issuer, store, now⟩ : Server).answer r) .tokenCreationFailed := by
  obtain ⟨haccess, hrefresh⟩ := Run.keys_of_configure hparse hconfigure
  refine ⟨⟨haccess, hrefresh, c.issuer.keys.access.text_ne, c.issuer.keys.refresh.text_ne⟩,
    Run.policy_of_configure hparse hconfigure, ?_⟩
  intro now hnow
  have hmade : ∀ i kind, ∃ made, c.issuer.issue now i kind = .ok made ∧ now < made.expires ∧
      c.issuer.verify now made.token kind = .ok ⟨i, made.expires⟩ := by
    intro i kind
    obtain ⟨e, he⟩ := Option.isSome_iff_exists.1
      (Run.isSome_add?_lifetime hparse hconfigure hnow kind)
    exact Issuer.issue_of_inMinutes (Run.inMinutes_of_configure hconfigure) he i
  refine ⟨hmade, ?_⟩
  intro store r hreports
  have hissue : ∀ i kind, ∃ made, (⟨c.issuer, store, now⟩ : Server).issue i kind = .ok made := by
    intro i kind
    obtain ⟨made, hok, -⟩ := hmade i kind
    exact ⟨made, by simp only [issue, hok]; rfl⟩
  rcases error_of_reports_answer hreports with hlogin | hrefreshed
  · exact authenticateUser_ne_tokenCreationFailed hissue _ hlogin
  · exact refreshToken_ne_tokenCreationFailed hissue _ hrefreshed

/-- The last instant that is ten years before the end of the range. -/
def lastTenYears : Instant := (Instant.ofSeconds? (8210266876799 - 10 * 365 * 86400)).get rfl

/-- One key from the environment and one from the line, and the longest lifetime that there is. -/
theorem issues_of_configure_sample : ∃ (values : Values) (c : Configuration),
    parse Run.spec [("ACCESS_TOKEN_KEY", "access")]
      ["--refresh-token-mins", "5256000", "--refresh-token-key=refresh"] = .ok values ∧
    Run.configure values = .ok c ∧ values.lookup "access-token-key" = some c.issuer.keys.access.text ∧
    lastTenYears.TenYearsLeft ∧
    ∃ made, c.issuer.issue lastTenYears sampleUser .refresh = .ok made ∧
      lastTenYears < made.expires ∧
      c.issuer.verify lastTenYears made.token .refresh = .ok ⟨sampleUser, made.expires⟩ := by
  have hparse : parse Run.spec [("ACCESS_TOKEN_KEY", "access")]
      ["--refresh-token-mins", "5256000", "--refresh-token-key=refresh"] =
        .ok [("access-token-key", "access"), ("refresh-token-key", "refresh"),
          ("refresh-token-mins", "5256000")] := rfl
  obtain ⟨c, hconfigure⟩ : ∃ c, Run.configure [("access-token-key", "access"),
      ("refresh-token-key", "refresh"), ("refresh-token-mins", "5256000")] = .ok c := ⟨_, rfl⟩
  have hleft : lastTenYears.TenYearsLeft := by
    unfold Instant.TenYearsLeft
    decide
  obtain ⟨⟨hkey, -⟩, -, hissues⟩ := issues_of_configure hparse hconfigure
  exact ⟨_, c, hparse, hconfigure, hkey, hleft, (hissues lastTenYears hleft).1 sampleUser .refresh⟩

end Server

end Service

end TokenAuth
