import TokenAuth.Duration

/-!
Instants of UTC, from the year -262143 to the year 262142, exact to the nanosecond. An instant is a
whole second since 1970 and the nanoseconds that have passed in it, which count upwards also before
1970. The last second of a minute may last two seconds: its second half is a leap second.
-/
namespace TokenAuth

@[ext]
structure Instant where
  seconds : Int
  nanos : Nat
  first_le : -8334601228800 ≤ seconds
  le_last : seconds ≤ 8210266876799
  nanos_lt : nanos < 2000000000
  leap_closes_minute : 1000000000 ≤ nanos → seconds % 60 = 59
  deriving DecidableEq

namespace Instant

/-- The instant with these parts, if there is one. -/
def ofParts? (seconds : Int) (nanos : Nat) : Option Instant :=
  if h : -8334601228800 ≤ seconds ∧ seconds ≤ 8210266876799 ∧ nanos < 2000000000 ∧
      (1000000000 ≤ nanos → seconds % 60 = 59) then
    some ⟨seconds, nanos, h.1, h.2.1, h.2.2.1, h.2.2.2⟩
  else none

def ofSeconds? (seconds : Int) : Option Instant := ofParts? seconds 0

def IsLeap (t : Instant) : Prop := 1000000000 ≤ t.nanos

instance (t : Instant) : Decidable t.IsLeap := inferInstanceAs (Decidable (_ ≤ _))

/-- The order of the seconds, and within one second that of the nanoseconds. -/
instance : LT Instant :=
  ⟨fun a b => a.seconds < b.seconds ∨ a.seconds = b.seconds ∧ a.nanos < b.nanos⟩

instance : LE Instant := ⟨fun a b => ¬ b < a⟩

instance (a b : Instant) : Decidable (a < b) :=
  inferInstanceAs (Decidable (_ ∨ _))

instance (a b : Instant) : Decidable (a ≤ b) := inferInstanceAs (Decidable (¬ _))

/-- Nanoseconds of any number and sign, carried over into whole seconds. -/
def carry? (seconds nanos : Int) : Option Instant :=
  ofParts? (seconds + nanos / 1000000000) (nanos % 1000000000).toNat

/-- The instant a duration later, unless it is out of range. A sum that stays within a leap second
stays a leap second, one that passes its end has not counted it. -/
def add? (t : Instant) (d : Duration) : Option Instant :=
  let n : Int := t.nanos + d.nanoseconds
  if t.IsLeap ∧ 1000000000 ≤ n then
    if n < 2000000000 then ofParts? t.seconds n.toNat else carry? t.seconds (n - 1000000000)
  else carry? t.seconds n

/-- The start of the second, or of the leap second. -/
def floor (t : Instant) : Instant :=
  if h : t.IsLeap then
    ⟨t.seconds, 1000000000, t.first_le, t.le_last, by decide, fun _ => t.leap_closes_minute h⟩
  else
    ⟨t.seconds, 0, t.first_le, t.le_last, by decide, fun h => absurd h (by decide)⟩

/-- The instant of the whole second alone. A leap second counts with the second before it. -/
def wholeSecond (t : Instant) : Instant :=
  ⟨t.seconds, 0, t.first_le, t.le_last, by decide, fun h => absurd h (by decide)⟩

def timeOfDay (t : Instant) : Int := t.seconds % 86400

/-- The leap second that lies between the two, judged by their times of day alone. -/
def leapBetween (a b : Instant) : Int :=
  if b.timeOfDay < a.timeOfDay then (if b.IsLeap then 1 else 0)
  else if a.timeOfDay < b.timeOfDay then (if a.IsLeap then -1 else 0)
  else 0

/-- How long after `b` the instant `a` is. -/
def since (a b : Instant) : Duration :=
  ⟨(a.seconds - b.seconds + leapBetween a b) * 1000000000 + (a.nanos - b.nanos)⟩

theorem lt_iff {a b : Instant} :
    a < b ↔ a.seconds < b.seconds ∨ a.seconds = b.seconds ∧ a.nanos < b.nanos := Iff.rfl

theorem le_iff {a b : Instant} :
    a ≤ b ↔ a.seconds < b.seconds ∨ a.seconds = b.seconds ∧ a.nanos ≤ b.nanos := by
  have : a ≤ b ↔ ¬ (b.seconds < a.seconds ∨ b.seconds = a.seconds ∧ b.nanos < a.nanos) := Iff.rfl
  rw [this]
  omega

instance : Std.IsLinearOrder Instant where
  le_refl a := by
    rw [le_iff]
    omega
  le_trans a b c h h' := by
    rw [le_iff] at h h' ⊢
    omega
  le_antisymm a b h h' := by
    rw [le_iff] at h h'
    exact Instant.ext (by omega) (by omega)
  le_total a b := by
    rw [le_iff, le_iff]
    omega

instance : Std.LawfulOrderLT Instant where
  lt_iff a b := by
    rw [lt_iff, le_iff, le_iff]
    omega

end Instant

end TokenAuth
