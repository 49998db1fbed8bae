import TokenAuth.Binary64
import TokenAuth.Json.Fault
import TokenAuth.Text.Decimal

/-!
Numbers. A number without fraction and exponent that fits into 64 bits is whole, every other one is
taken in double precision from its first digits and its power of ten. A number beyond the largest
double is no number.
-/
namespace TokenAuth.Json

open Text

structure NumberText where
  isNegative : Bool
  whole : List Char
  fraction : List Char
  /-- Sign and digits. -/
  exponent : Option (Bool × List Char)

inductive Number
  | whole (n : Int)
  | real (isNegative : Bool) (magnitude : Binary64)
  deriving DecidableEq

/-- Whether a character starts a number. -/
def startsNumber (c : Char) : Bool := c == '-' || isDigit c

/-- Digits, at least one. -/
def readDigits (cs : List Char) : Except Fault (List Char × List Char) :=
  match cs.takeWhile isDigit with
  | [] => .error (if cs = [] then .truncated else .malformed)
  | ds => .ok (ds, cs.drop ds.length)

/-- A first zero stands alone. -/
def readWhole (cs : List Char) : Except Fault (List Char × List Char) :=
  match cs with
  | '0' :: c :: r => if isDigit c then .error .malformed else .ok (['0'], c :: r)
  | _ => readDigits cs

def readFraction (cs : List Char) : Except Fault (List Char × List Char) :=
  match cs with
  | '.' :: r => readDigits r
  | _ => .ok ([], cs)

def readExponent (cs : List Char) : Except Fault (Option (Bool × List Char) × List Char) :=
  match cs with
  | c :: r =>
    if c = 'e' ∨ c = 'E' then
      let (isNegative, r) := match r with
        | '+' :: r => (false, r)
        | '-' :: r => (true, r)
        | r => (false, r)
      (readDigits r).map fun p => (some (isNegative, p.1), p.2)
    else .ok (none, cs)
  | [] => .ok (none, [])

def readNumberText : Reader NumberText := fun cs => do
  let (isNegative, cs) := match cs with
    | '-' :: r => (true, r)
    | r => (false, r)
  let (whole, cs) ← readWhole cs
  let (fraction, cs) ← readFraction cs
  let (exponent, cs) ← readExponent cs
  pure (⟨isNegative, whole, fraction, exponent⟩, cs)

/-- Takes in digits as long as the number fits into 64 bits. The other digits are left. -/
def accumulate (n : Nat) : List Char → Nat × List Char
  | [] => (n, [])
  | c :: r =>
    if 18446744073709551615 < 10 * n + digitValue c then (n, c :: r)
    else accumulate (10 * n + digitValue c) r

/-- A magnitude times a power of ten, unless it is too large. Powers below the least double are
divided by in steps of 308. -/
def scaleBy (step x : Binary64) (power : Int) : Option Binary64 :=
  if power.natAbs ≤ 308 then
    match Binary64.pow10? power.natAbs with
    | none => none
    | some p => if 0 ≤ power then x.mul? p else x.div? p
  else if x.mantissa = 0 then some x
  else if 0 ≤ power then none
  else
    match x.div? step with
    | none => none
    | some y => scaleBy step y (power + 308)
termination_by power.natAbs

def scale? (x : Binary64) (power : Int) : Option Binary64 :=
  match Binary64.pow10? 308 with
  | none => none
  | some step => scaleBy step x power

namespace NumberText

/-- The magnitude in double precision. -/
def magnitude? (t : NumberText) : Option Binary64 := do
  let (n, left) := accumulate 0 t.whole
  let (n, unused) := accumulate n t.fraction
  let power : Int := left.length - (t.fraction.length - unused.length)
  let x ← Binary64.round? n 1
  match t.exponent with
  | none => scale? x power
  | some (isNegative, ds) =>
    let e := numberOf ds
    if 2147483647 < e then (if n = 0 ∨ isNegative then some Binary64.zero else none)
    else scale? x (if isNegative then power - e else power + e)

def value? (t : NumberText) : Option Number :=
  let n := numberOf t.whole
  if t.fraction = [] ∧ t.exponent.isNone ∧ n ≤ 18446744073709551615 ∧
      (t.isNegative → n ≠ 0 ∧ n ≤ 9223372036854775808) then
    some (.whole (if t.isNegative then -n else n))
  else t.magnitude?.map (.real t.isNegative)

end NumberText

def readNumber : Reader Number := fun cs =>
  match readNumberText cs with
  | .error f => .error f
  | .ok (t, r) =>
    match t.value? with
    | some n => .ok (n, r)
    | none => .error .malformed

/-- Skips a number of any size. One that is cut off by the end of the text is no number either. -/
def skipNumber (cs : List Char) : Except Fault (List Char) :=
  match readNumberText cs with
  | .error _ => .error .malformed
  | .ok (_, r) => .ok r

end TokenAuth.Json
