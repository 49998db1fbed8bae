import TokenAuth.Proofs.Startup

/-!
Expiries as sums. Every instant has its place on the line of nanoseconds, on which a leap second takes
the places of the second before it. An instant that is no leap second and a duration of any length and
sign have an expiry if and only if the place that the sum leads to is in range, and the expiry is the
whole second at that place or just before it. Leap seconds differ only over durations that may end
within them, which are shorter than a second.
-/
namespace TokenAuth

namespace Instant

variable {t u : Instant} {seconds nanos : Int} {d : Duration}

/-- Nanoseconds since 1970. -/
def place (t : Instant) : Int := t.seconds * 1000000000 + (t.nanos % 1000000000 : Nat)

/-- The places from the first nanosecond that an instant can have to the last one. -/
def InRange (n : Int) : Prop :=
  -8334601228800 * 1000000000 ≤ n ∧ n ≤ 8210266876799 * 1000000000 + 999999999

instance (n : Int) : Decidable (InRange n) := inferInstanceAs (Decidable (_ ∧ _))

theorem inRange_place (t : Instant) : InRange t.place := by
  have hfirst := t.first_le
  have hlast := t.le_last
  unfold InRange place
  omega

theorem nanos_lt_of_not_isLeap (h : ¬ t.IsLeap) : t.nanos < 1000000000 := by
  unfold IsLeap at h
  omega

theorem place_of_not_isLeap (h : ¬ t.IsLeap) : t.place = t.seconds * 1000000000 + t.nanos := by
  have hshort := nanos_lt_of_not_isLeap h
  unfold place
  omega

theorem ofParts?_self (t : Instant) : ofParts? t.seconds t.nanos = some t :=
  dif_pos ⟨t.first_le, t.le_last, t.nanos_lt, t.leap_closes_minute⟩

/-- Carrying over finds the one instant at a place that is no leap second. -/
theorem carry?_eq_some_iff :
    carry? seconds nanos = some t ↔ t.place = seconds * 1000000000 + nanos ∧ ¬ t.IsLeap := by
  constructor
  · intro h
    obtain ⟨hseconds, hplain⟩ := not_isLeap_of_carry? h
    have hnanos := (ofParts?_eq_some h).2
    rw [place_of_not_isLeap hplain]
    exact ⟨by omega, hplain⟩
  · rintro ⟨hplace, hplain⟩
    have hshort := nanos_lt_of_not_isLeap hplain
    rw [place_of_not_isLeap hplain] at hplace
    have hseconds : seconds + nanos / 1000000000 = t.seconds := by omega
    have hnanos : (nanos % 1000000000).toNat = t.nanos := by omega
    rw [carry?, hseconds, hnanos, ofParts?_self]

theorem exists_carry?_iff :
    (∃ t, carry? seconds nanos = some t) ↔ InRange (seconds * 1000000000 + nanos) := by
  constructor
  · rintro ⟨t, ht⟩
    rw [← (carry?_eq_some_iff.1 ht).1]
    exact t.inRange_place
  · intro h
    unfold InRange at h
    apply Option.isSome_iff_exists.1
    apply isSome_carry? <;> omega

/-- A sum that does not end within a leap second is carried over from the two places. -/
theorem add?_eq_carry? (h : ¬ t.IsLeap ∨ 1000000000 ≤ d.nanoseconds) :
    ∃ seconds nanos, t.add? d = carry? seconds nanos ∧
      seconds * 1000000000 + nanos = t.place + d.nanoseconds := by
  have hnanos := t.nanos_lt
  by_cases hleap : t.IsLeap
  · have hlong : 1000000000 ≤ d.nanoseconds := h.resolve_left (not_not_intro hleap)
    have hfull : 1000000000 ≤ t.nanos := hleap
    refine ⟨t.seconds, t.nanos + d.nanoseconds - 1000000000, ?_, ?_⟩
    · unfold add?
      dsimp only
      rw [if_pos ⟨hleap, by omega⟩, if_neg (by omega)]
    · unfold place
      omega
  · refine ⟨t.seconds, t.nanos + d.nanoseconds, ?_, ?_⟩
    · unfold add?
      dsimp only
      rw [if_neg fun hboth => hleap hboth.1]
    · rw [place_of_not_isLeap hleap]
      omega

theorem add?_eq_some_iff (h : ¬ t.IsLeap ∨ 1000000000 ≤ d.nanoseconds) :
    t.add? d = some u ↔ u.place = t.place + d.nanoseconds ∧ ¬ u.IsLeap := by
  obtain ⟨seconds, nanos, hadd, hsum⟩ := add?_eq_carry? h
  rw [hadd, carry?_eq_some_iff, hsum]

theorem exists_add?_iff (h : ¬ t.IsLeap ∨ 1000000000 ≤ d.nanoseconds) :
    (∃ u, t.add? d = some u) ↔ InRange (t.place + d.nanoseconds) := by
  obtain ⟨seconds, nanos, hadd, hsum⟩ := add?_eq_carry? h
  rw [hadd, exists_carry?_iff, hsum]

theorem place_wholeSecond (t : Instant) : t.wholeSecond.place = t.seconds * 1000000000 := by
  have hplace : t.wholeSecond.place = t.seconds * 1000000000 + (0 % 1000000000 : Nat) := rfl
  omega

theorem not_isLeap_wholeSecond (t : Instant) : ¬ t.wholeSecond.IsLeap := by
  have hnanos : t.wholeSecond.nanos = 0 := rfl
  unfold IsLeap
  omega

/-- Taking away the fraction leads out of range nowhere, and not out of a leap second either. -/
theorem add?_neg_fraction (t : Instant) :
    t.add? ⟨-(t.nanos % 1000000000 : Nat)⟩ = some t.floor := by
  have hnanos := t.nanos_lt
  by_cases hleap : t.IsLeap
  · have hfull : 1000000000 ≤ t.nanos := hleap
    have hstart : (t.nanos : Int) + -(t.nanos % 1000000000 : Nat) = 1000000000 := by omega
    have hfloor : t.floor.seconds = t.seconds ∧ t.floor.nanos = 1000000000 := by
      unfold floor
      rw [dif_pos hleap]
      exact ⟨rfl, rfl⟩
    have hparts := ofParts?_self t.floor
    rw [hfloor.1, hfloor.2] at hparts
    unfold add?
    dsimp only
    rw [hstart, if_pos ⟨hleap, by omega⟩, if_pos (by omega)]
    exact hparts
  · have hshort := nanos_lt_of_not_isLeap hleap
    rw [add?_eq_some_iff (Or.inl hleap), floor_of_not_isLeap hleap, place_wholeSecond,
      place_of_not_isLeap hleap]
    refine ⟨?_, t.not_isLeap_wholeSecond⟩
    dsimp only
    omega

/-- Between instants that are no leap seconds there lies none. -/
theorem since_of_not_isLeap (ht : ¬ t.IsLeap) (hu : ¬ u.IsLeap) :
    t.since u = ⟨t.place - u.place⟩ := by
  have hnone : leapBetween t u = 0 := by
    unfold leapBetween
    rw [if_neg hu, if_neg ht]
    split_ifs <;> rfl
  unfold since
  rw [hnone, place_of_not_isLeap ht, place_of_not_isLeap hu]
  congr 1
  omega

end Instant

namespace Issuer

variable {now r : Instant} {d : Duration} {e : TokenError}

theorem expiry_eq_ok_iff : expiry now d = .ok r ↔ ∃ u, now.add? d = some u ∧ r = u.floor := by
  unfold expiry
  cases now.add? d <;> simp [eq_comm]

theorem expiry_eq_error_iff :
    expiry now d = .error e ↔ now.add? d = none ∧ e = .unreachableExpiry d := by
  unfold expiry
  cases now.add? d <;> simp [eq_comm]

theorem exists_expiry_iff (h : ¬ now.IsLeap ∨ 1000000000 ≤ d.nanoseconds) :
    (∃ r, expiry now d = .ok r) ↔ Instant.InRange (now.place + d.nanoseconds) := by
  rw [← Instant.exists_add?_iff h]
  constructor
  · rintro ⟨r, hr⟩
    obtain ⟨u, hu, -⟩ := expiry_eq_ok_iff.1 hr
    exact ⟨u, hu⟩
  · rintro ⟨u, hu⟩
    exact ⟨u.floor, expiry_eq_ok_iff.2 ⟨u, hu, rfl⟩⟩

/-- The expiry is the one whole second that is at the sum or less than a second before it. -/
theorem expiry_eq_ok_iff_place (h : ¬ now.IsLeap ∨ 1000000000 ≤ d.nanoseconds) :
    expiry now d = .ok r ↔ r.nanos = 0 ∧ r.place ≤ now.place + d.nanoseconds ∧
      now.place + d.nanoseconds - r.place < 1000000000 := by
  have hfloor : ∀ u, now.add? d = some u → u.floor = u.wholeSecond ∧
      u.place = now.place + d.nanoseconds ∧ u.place = u.seconds * 1000000000 + u.nanos ∧
      u.nanos < 1000000000 := by
    intro u hu
    obtain ⟨hplace, hplain⟩ := (Instant.add?_eq_some_iff h).1 hu
    exact ⟨Instant.floor_of_not_isLeap hplain, hplace, Instant.place_of_not_isLeap hplain,
      Instant.nanos_lt_of_not_isLeap hplain⟩
  rw [expiry_eq_ok_iff]
  constructor
  · rintro ⟨u, hu, rfl⟩
    obtain ⟨hwhole, hplace, hparts, hshort⟩ := hfloor u hu
    rw [hwhole, Instant.place_wholeSecond]
    exact ⟨rfl, by omega, by omega⟩
  · rintro ⟨hnanos, hlow, hhigh⟩
    have hr : r.place = r.seconds * 1000000000 := by
      rw [← Instant.wholeSecond_of_nanos hnanos, Instant.place_wholeSecond]
      rfl
    have hrange := r.inRange_place
    obtain ⟨u, hu⟩ := (Instant.exists_add?_iff h).2 (by unfold Instant.InRange at hrange ⊢; omega)
    obtain ⟨hwhole, hplace, hparts, hshort⟩ := hfloor u hu
    have hseconds : u.seconds = r.seconds := by omega
    have hsame := u.ofSeconds?_seconds
    rw [hseconds, r.ofSeconds?_seconds, Instant.wholeSecond_of_nanos hnanos] at hsame
    exact ⟨u, hu, by rw [hwhole, Option.some.inj hsame]⟩

/-- A second or more leads to a later second, out of a leap second too. -/
theorem lt_of_expiry (hlong : 1000000000 ≤ d.nanoseconds) (hr : expiry now d = .ok r) : now < r := by
  obtain ⟨hnanos, -⟩ := (expiry_eq_ok_iff_place (Or.inr hlong)).1 hr
  obtain ⟨u, hu, rfl⟩ := expiry_eq_ok_iff.1 hr
  rw [← Instant.wholeSecond_of_nanos hnanos, u.wholeSecond_floor]
  exact Instant.lt_wholeSecond_of_add? hu hlong

theorem verify_create_expiry (g : Issuer) (hlong : 1000000000 ≤ d.nanoseconds)
    (hr : expiry now d = .ok r) (i : Identity) (kind : TokenKind) :
    g.verify now (g.create i r kind) kind = .ok ⟨i, r⟩ := by
  obtain ⟨hnanos, -⟩ := (expiry_eq_ok_iff_place (Or.inr hlong)).1 hr
  have hgood : ¬ r < now := Std.not_gt_of_lt (lt_of_expiry hlong hr)
  rw [verify_create, Instant.wholeSecond_of_nanos hnanos, if_neg hgood]

/-- Except at a leap second, there is an expiry if and only if the exact sum is in range. It is the sum
without its fraction, also before 1970, and taking the fraction away stays in range. The time left until
then is exact. At any instant, a lifetime of a second or more whose sum is in range leads to a later
second, and a token that is made to expire then is good and gives back just this expiry. -/
theorem expiry_floors_sum (g : Issuer) (now : Instant) (d : Duration) :
    (¬ now.IsLeap →
      ((∃ r, expiry now d = .ok r) ↔ Instant.InRange (now.place + d.nanoseconds)) ∧
      (¬ Instant.InRange (now.place + d.nanoseconds) →
        expiry now d = .error (.unreachableExpiry d)) ∧
      ∀ r, expiry now d = .ok r →
        r.nanos = 0 ∧ r.place ≤ now.place + d.nanoseconds ∧
          now.place + d.nanoseconds - r.place < 1000000000 ∧
        (∃ u, now.add? d = some u ∧ u.add? ⟨-(u.nanos % 1000000000 : Nat)⟩ = some r) ∧
        ∀ v : VerifiedToken, v.expires = r → v.remaining now = ⟨r.place - now.place⟩) ∧
    (Duration.ofSeconds 1 ≤ d → Instant.InRange (now.place + d.nanoseconds) →
      ∃ r, expiry now d = .ok r ∧ now < r ∧
        ∀ i kind, g.verify now (g.create i r kind) kind = .ok ⟨i, r⟩) := by
  refine ⟨?_, ?_⟩
  · intro hplain
    have hexists := exists_expiry_iff (d := d) (Or.inl hplain)
    refine ⟨hexists, ?_, ?_⟩
    · intro hout
      rw [← Instant.exists_add?_iff (Or.inl hplain), not_exists] at hout
      exact expiry_eq_error_iff.2 ⟨Option.eq_none_iff_forall_ne_some.2 hout, rfl⟩
    · intro r hr
      obtain ⟨hnanos, hlow, hhigh⟩ := (expiry_eq_ok_iff_place (Or.inl hplain)).1 hr
      obtain ⟨u, hu, hfloor⟩ := expiry_eq_ok_iff.1 hr
      refine ⟨hnanos, hlow, hhigh, ⟨u, hu, by rw [u.add?_neg_fraction, hfloor]⟩, ?_⟩
      rintro v rfl
      apply Instant.since_of_not_isLeap _ hplain
      unfold Instant.IsLeap
      omega
  · intro hlong hrange
    obtain ⟨r, hr⟩ := (exists_expiry_iff (Or.inr hlong)).2 hrange
    exact ⟨r, hr, lt_of_expiry hlong hr, verify_create_expiry g hlong hr⟩

open Service.Server in
/-- Half a second back from the middle of a second before 1970, a step out of range, and a lifetime of
one second that starts in the leap second at the end of 2016. -/
theorem expiry_floors_sum_sample : ∃ early leap r : Instant,
    Instant.ofParts? (-2) 250000000 = some early ∧ Instant.ofSeconds? (-3) = some r ∧
    Instant.ofParts? 1483228799 1500000000 = some leap ∧ ¬ early.IsLeap ∧ leap.IsLeap ∧
    expiry early ⟨-500000000⟩ = .ok r ∧
    (⟨sampleUser, r⟩ : VerifiedToken).remaining early = ⟨-1250000000⟩ ∧
    (∀ e, expiry early ⟨1000000000000000000000000⟩ ≠ .ok e) ∧
    ∃ e, expiry leap (.ofSeconds 1) = .ok e ∧ leap < e ∧
      sample.issuer.verify leap (sample.issuer.create sampleUser e .refresh) .refresh =
        .ok ⟨sampleUser, e⟩ := by
  obtain ⟨early, hearly⟩ : ∃ t, Instant.ofParts? (-2) 250000000 = some t := ⟨_, rfl⟩
  obtain ⟨leap, hleap⟩ : ∃ t, Instant.ofParts? 1483228799 1500000000 = some t := ⟨_, rfl⟩
  obtain ⟨r, hr⟩ : ∃ t, Instant.ofSeconds? (-3) = some t := ⟨_, rfl⟩
  obtain ⟨hseconds, hnanos⟩ := Instant.ofParts?_eq_some hearly
  obtain ⟨hseconds', hnanos'⟩ := Instant.ofParts?_eq_some hleap
  obtain ⟨hseconds'', hnanos''⟩ := Instant.ofParts?_eq_some hr
  have hplain : ¬ early.IsLeap := by
    unfold Instant.IsLeap
    omega
  have hplaces : early.place = -1750000000 ∧ r.place = -3000000000 ∧
      leap.place = 1483228799500000000 := by
    unfold Instant.place
    omega
  obtain ⟨hplace, hplace', hplace''⟩ := hplaces
  have hback : expiry early ⟨-500000000⟩ = .ok r := by
    rw [expiry_eq_ok_iff_place (Or.inl hplain), hplace, hplace']
    exact ⟨hnanos'', by decide, by decide⟩
  have hleft := (((expiry_floors_sum sample.issuer early ⟨-500000000⟩).1 hplain).2.2 r hback).2.2.2.2
    ⟨sampleUser, r⟩ rfl
  have hout := ((expiry_floors_sum sample.issuer early ⟨1000000000000000000000000⟩).1 hplain).2.1 (by
    rw [hplace]
    decide)
  obtain ⟨e, he, hlater, hverify⟩ := (expiry_floors_sum sample.issuer leap (.ofSeconds 1)).2
    (by decide) (by
      rw [hplace'']
      decide)
  refine ⟨early, leap, r, hearly, hr, hleap, hplain, ?_, hback, ?_, ?_, e, he, hlater,
    hverify sampleUser .refresh⟩
  · unfold Instant.IsLeap
    omega
  · rw [hleft, hplace, hplace']
    rfl
  · intro e he
    rw [hout] at he
    simp at he

end Issuer

end TokenAuth
