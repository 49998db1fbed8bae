import TokenAuth.CommandLine.Commands
import TokenAuth.Proofs.Logins

/-!
Lifetimes as the service is started with them: whole minutes, and a renewal threshold that is shorter
than the lifetime of refresh tokens by a minute or more. What an expiry loses to fractions and to leap
seconds is less than that, so a new refresh token is never one that would be renewed at once.
-/
namespace TokenAuth

theorem Duration.nanoseconds_ofMinutes (n : Int) :
    (ofMinutes n).nanoseconds = n * 60 * 1000000000 := rfl

theorem Duration.ofMinutes_lt_iff {n m : Int} : ofMinutes n < ofMinutes m ↔ n < m := by
  rw [lt_iff, nanoseconds_ofMinutes, nanoseconds_ofMinutes]
  omega

namespace Instant

theorem not_isLeap_of_carry? {seconds nanos : Int} {t : Instant} (h : carry? seconds nanos = some t) :
    t.seconds = seconds + nanos / 1000000000 ∧ ¬ t.IsLeap := by
  obtain ⟨hseconds, hnanos⟩ := ofParts?_eq_some h
  refine ⟨hseconds, ?_⟩
  unfold IsLeap
  omega

/-- A minute or more leads out of a leap second. -/
theorem add?_ofMinutes {t u : Instant} {n : Int} (hn : 1 ≤ n) (h : t.add? (.ofMinutes n) = some u) :
    u.seconds = t.seconds + n * 60 ∧ ¬ u.IsLeap := by
  have hnanos := t.nanos_lt
  unfold add? at h
  dsimp only at h
  rw [Duration.nanoseconds_ofMinutes] at h
  split at h
  · next hleap =>
    -- The sum passes the end of the leap second, which is not counted.
    have hfull : 1000000000 ≤ t.nanos := hleap.1
    rw [if_neg (by omega)] at h
    obtain ⟨hseconds, hno⟩ := not_isLeap_of_carry? h
    exact ⟨by omega, hno⟩
  · next hleap =>
    have hshort : t.nanos < 1000000000 := by
      unfold IsLeap at hleap
      omega
    obtain ⟨hseconds, hno⟩ := not_isLeap_of_carry? h
    exact ⟨by omega, hno⟩

theorem floor_of_not_isLeap {t : Instant} (h : ¬ t.IsLeap) : t.floor = t.wholeSecond := dif_neg h

/-- Fractions and leap seconds make a difference of less than three seconds. -/
theorem since_near (a b : Instant) :
    (a.seconds - b.seconds - 3) * 1000000000 < (a.since b).nanoseconds ∧
      (a.since b).nanoseconds < (a.seconds - b.seconds + 3) * 1000000000 := by
  have hleap : -1 ≤ leapBetween a b ∧ leapBetween a b ≤ 1 := by
    unfold leapBetween
    split_ifs <;> omega
  have hsince : (a.since b).nanoseconds =
    (a.seconds - b.seconds + leapBetween a b) * 1000000000 + (a.nanos - b.nanos) := rfl
  have ha := a.nanos_lt
  have hb := b.nanos_lt
  rw [hsince]
  omega

end Instant

/-- Whole minutes, with the threshold below the lifetime of refresh tokens. -/
def Policy.InMinutes (p : Policy) : Prop :=
  ∃ access refresh threshold : Int, 1 ≤ access ∧ 1 ≤ threshold ∧ threshold < refresh ∧
    p = ⟨.ofMinutes access, .ofMinutes refresh, .ofMinutes threshold⟩

namespace Policy.InMinutes

variable {p : Policy} {now e : Instant}

theorem exists_ofMinutes (h : p.InMinutes) (kind : TokenKind) :
    ∃ n, 1 ≤ n ∧ p.lifetime kind = .ofMinutes n := by
  obtain ⟨access, refresh, threshold, haccess, hthreshold, hless, rfl⟩ := h
  cases kind with
  | access => exact ⟨access, haccess, rfl⟩
  | refresh => exact ⟨refresh, by omega, rfl⟩

/-- A new token of either kind is good for now. -/
theorem lt_expiry (h : p.InMinutes) (kind : TokenKind) (he : now.add? (p.lifetime kind) = some e) :
    now < e.wholeSecond := by
  obtain ⟨n, hn, hlifetime⟩ := h.exists_ofMinutes kind
  apply Instant.lt_wholeSecond_of_add? he
  rw [hlifetime, Duration.nanoseconds_ofMinutes]
  omega

theorem floor_expiry (h : p.InMinutes) (kind : TokenKind)
    (he : now.add? (p.lifetime kind) = some e) : e.floor = e.wholeSecond := by
  obtain ⟨n, hn, hlifetime⟩ := h.exists_ofMinutes kind
  rw [hlifetime] at he
  obtain ⟨-, hleap⟩ := Instant.add?_ofMinutes hn he
  exact Instant.floor_of_not_isLeap hleap

theorem floor_refresh (h : p.InMinutes) (he : now.add? p.refreshLifetime = some e) :
    e.floor = e.wholeSecond := h.floor_expiry .refresh he

/-- A new refresh token has more time left than the threshold asks for. -/
theorem threshold_le_since (h : p.InMinutes) (he : now.add? p.refreshLifetime = some e) :
    p.renewalThreshold ≤ e.wholeSecond.since now := by
  obtain ⟨access, refresh, threshold, -, hthreshold, hless, rfl⟩ := h
  obtain ⟨hseconds, -⟩ := Instant.add?_ofMinutes (by omega) he
  have hwhole : e.wholeSecond.seconds = e.seconds := rfl
  obtain ⟨hnear, -⟩ := e.wholeSecond.since_near now
  rw [Duration.le_iff]
  dsimp only [Duration.nanoseconds_ofMinutes]
  omega

/-- What is due for renewal expires before what takes its place. -/
theorem lt_of_due (h : p.InMinutes) (he : now.add? p.refreshLifetime = some e) {old : Instant}
    (hdue : old.since now < p.renewalThreshold) : old < e.wholeSecond := by
  obtain ⟨access, refresh, threshold, -, hthreshold, hless, rfl⟩ := h
  obtain ⟨hseconds, -⟩ := Instant.add?_ofMinutes (by omega) he
  have hwhole : e.wholeSecond.seconds = e.seconds := rfl
  obtain ⟨hnear, -⟩ := old.since_near now
  rw [Duration.lt_iff] at hdue
  dsimp only [Duration.nanoseconds_ofMinutes] at hdue
  rw [Instant.lt_iff]
  omega

end Policy.InMinutes

namespace CommandLine.Run

theorem minutesOf_eq (v : Values) (long : String) (default : Int) (hdefault : 1 ≤ default) :
    ∃ n, 1 ≤ n ∧ minutesOf v long default = .ofMinutes n := by
  unfold minutesOf
  cases hgiven : (v.lookup long).bind minutes? with
  | none => exact ⟨default, hdefault, rfl⟩
  | some n =>
    refine ⟨n, ?_, rfl⟩
    obtain ⟨s, -, hs⟩ := Option.bind_eq_some_iff.1 hgiven
    obtain ⟨m, -, hm⟩ := Option.bind_eq_some_iff.1 hs
    split at hm
    · next hbounds =>
      rw [← Option.some.inj hm]
      exact hbounds.1
    · simp at hm

/-- All that the service asks for and is started with. -/
theorem configure_eq_ok {v : Values} {c : Configuration} (h : configure v = .ok c) :
    listen? v = some c.listen ∧
      Keys.ofTexts ((v.lookup "access-token-key").getD "") ((v.lookup "refresh-token-key").getD "") =
        .ok c.issuer.keys ∧
      c.issuer.policy = policyOf v ∧
      (policyOf v).renewalThreshold < (policyOf v).refreshLifetime := by
  unfold configure at h
  split at h
  · simp at h
  · next listen hlisten =>
    split at h
    · simp at h
    · next keys hkeys =>
      dsimp only at h
      split at h
      · next hless =>
        rw [← Except.ok.inj h]
        exact ⟨hlisten, hkeys, rfl, hless⟩
      · simp at h

/-- The service does not start with any other policy. -/
theorem inMinutes_of_configure {v : Values} {c : Configuration} (h : configure v = .ok c) :
    c.issuer.policy.InMinutes := by
  obtain ⟨-, -, hsame, hless⟩ := configure_eq_ok h
  obtain ⟨access, haccess, heq⟩ :=
    minutesOf_eq v "access-token-mins" Policy.accessMinutes (by decide)
  obtain ⟨refresh, -, heq'⟩ :=
    minutesOf_eq v "refresh-token-mins" Policy.refreshMinutes (by decide)
  obtain ⟨threshold, hthreshold, heq''⟩ :=
    minutesOf_eq v "renewal-threshold-mins" Policy.thresholdMinutes (by decide)
  have hvalues : policyOf v = ⟨.ofMinutes access, .ofMinutes refresh, .ofMinutes threshold⟩ := by
    rw [policyOf, heq, heq', heq'']
  rw [hvalues] at hless
  exact ⟨access, refresh, threshold, haccess, hthreshold, Duration.ofMinutes_lt_iff.1 hless,
    hsame.trans hvalues⟩

end CommandLine.Run

end TokenAuth
