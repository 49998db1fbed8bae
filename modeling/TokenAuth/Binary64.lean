/-!
Magnitudes in double precision, in exact arithmetic: a whole number of at most 53 bits times a power
of two. Results that are no such number are rounded to the nearest one, a tie to the even one.
-/
namespace TokenAuth

structure Binary64 where
  mantissa : Nat
  exponent : Int
  deriving DecidableEq, Repr

namespace Binary64

def zero : Binary64 := ⟨0, 0⟩

/-- A power of two as a quotient. -/
def shifted (m : Nat) (e : Int) : Nat × Nat := (m * Nat.pow 2 e.toNat, Nat.pow 2 (-e).toNat)

/-- The value as a quotient. -/
def ratio (x : Binary64) : Nat × Nat := shifted x.mantissa x.exponent

/-- The nearest whole number to a quotient. -/
def roundQuotient (n d : Nat) : Nat :=
  let r := n % d
  if d < 2 * r ∨ (2 * r = d ∧ n / d % 2 = 1) then n / d + 1 else n / d

/-- The power of two of the last bit that a quotient can have. -/
def lastBit (n d : Nat) : Int :=
  let e : Int := n.log2 - d.log2 - 53
  let (p, q) := shifted d e
  let e := if 9007199254740992 ≤ n * q / p then e + 1 else e
  max e (-1074)

/-- The nearest magnitude to a quotient, unless that is beyond the largest. -/
def round? (n d : Nat) : Option Binary64 :=
  if n = 0 then some zero
  else
    let e := lastBit n d
    let (p, q) := shifted d e
    let m := roundQuotient (n * q) p
    let (top, bottom) := shifted m e
    if Nat.pow 2 1024 * bottom ≤ top then none else some ⟨m, e⟩

def mul? (x y : Binary64) : Option Binary64 :=
  round? (x.ratio.1 * y.ratio.1) (x.ratio.2 * y.ratio.2)

def div? (x y : Binary64) : Option Binary64 :=
  round? (x.ratio.1 * y.ratio.2) (x.ratio.2 * y.ratio.1)

def pow10? (n : Nat) : Option Binary64 := round? (Nat.pow 10 n) 1

/-- The value without its fraction. -/
def truncate (x : Binary64) : Nat := x.ratio.1 / x.ratio.2

end Binary64

end TokenAuth
