/-!
Signed spans of time, exact to the nanosecond.
-/
namespace TokenAuth

@[ext]
structure Duration where
  nanoseconds : Int
  deriving DecidableEq, Repr

namespace Duration

def ofSeconds (n : Int) : Duration := ⟨n * 1000000000⟩

def ofMinutes (n : Int) : Duration := ofSeconds (n * 60)

/-- The whole seconds, cut toward zero. -/
def wholeSeconds (d : Duration) : Int := d.nanoseconds.tdiv 1000000000

/-- What the whole seconds leave. It has the sign of the duration. -/
def restNanoseconds (d : Duration) : Int := d.nanoseconds.tmod 1000000000

instance : LT Duration := ⟨fun a b => a.nanoseconds < b.nanoseconds⟩

instance : LE Duration := ⟨fun a b => a.nanoseconds ≤ b.nanoseconds⟩

instance (a b : Duration) : Decidable (a < b) := inferInstanceAs (Decidable (_ < (_ : Int)))

instance (a b : Duration) : Decidable (a ≤ b) := inferInstanceAs (Decidable (_ ≤ (_ : Int)))

theorem lt_iff {a b : Duration} : a < b ↔ a.nanoseconds < b.nanoseconds := Iff.rfl

theorem le_iff {a b : Duration} : a ≤ b ↔ a.nanoseconds ≤ b.nanoseconds := Iff.rfl

instance : Std.IsLinearOrder Duration where
  le_refl a := Int.le_refl a.nanoseconds
  le_trans _ _ _ := Int.le_trans
  le_antisymm _ _ h h' := Duration.ext (Int.le_antisymm h h')
  le_total a b := Int.le_total a.nanoseconds b.nanoseconds

instance : Std.LawfulOrderLT Duration where
  lt_iff _ _ := Int.lt_iff_le_and_not_ge

end Duration

end TokenAuth
