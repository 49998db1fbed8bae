import TokenAuth.Domain.DirectionTable

/-!
The rule for labels written from right to left. If a name has such a label, each of its labels must
be written in one direction, start with a letter of that direction, and end with a letter or a number.
-/
namespace TokenAuth.Domain

inductive Direction
  | left
  | right
  | arabicNumber
  | europeanNumber
  | nonspacing
  | neutral
  | forbidden
  deriving DecidableEq

namespace Direction

def ofChar (c : Char) : Direction :=
  match directionTable.find? c.toNat with
  | none => left
  | some e =>
    match e.mark with
    | some 'r' => right
    | some 'n' => arabicNumber
    | some 'u' => europeanNumber
    | some 'm' => nonspacing
    | some 'o' => neutral
    | _ => forbidden

def isRightToLeft (label : List Char) : Bool :=
  label.any fun c => ofChar c == right || ofChar c == arabicNumber

/-- The direction of the last character that is no nonspacing mark. -/
def lastOf (directions : List Direction) : Option Direction :=
  (directions.reverse.dropWhile (· = nonspacing)).head?

/-- Whether a label may stand in a name that has a label from right to left. -/
def allows (label : List Char) : Bool :=
  let directions := label.map ofChar
  match directions with
  | [] => true
  | left :: rest =>
    rest.all (· ∈ [left, europeanNumber, neutral, nonspacing]) &&
      lastOf directions ∈ [some left, some europeanNumber]
  | right :: rest =>
    rest.all (· ∈ [right, arabicNumber, europeanNumber, neutral, nonspacing]) &&
      lastOf directions ∈ [some right, some arabicNumber, some europeanNumber] &&
      !(rest.contains arabicNumber && rest.contains europeanNumber)
  | _ => false

end Direction

end TokenAuth.Domain
