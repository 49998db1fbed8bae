import TokenAuth.Domain.Direction
import TokenAuth.Domain.MappingTable
import TokenAuth.Domain.MarkTable
import TokenAuth.Domain.Normal
import TokenAuth.Domain.Punycode

/-!
Internationalised domain names and their ASCII form. A name is mapped character by character and
normalised; each label must then be valid, and labels with other than ASCII characters are encoded.
-/
namespace TokenAuth.Domain

open Text

/-- What a character becomes in a domain name; nothing if it may not stand in one. -/
def mapChar (c : Char) : Option (List Char) :=
  let n := c.toNat
  match mappingTable.find? n with
  | none => none
  | some e =>
    let target := e.points.headD n
    match e.mark with
    | none => some [c]
    | some '~' => some []
    | some '=' => some (e.points.map Char.ofNat)
    | some '/' => some [if (n - e.first) % 2 = 0 then Char.ofNat (target + (n - e.first)) else c]
    | _ => some [Char.ofNat (target + (n - e.first))]

/-- A label does not start with a mark and holds only characters that are mapped to themselves. -/
def isValidLabel (label : List Char) : Bool :=
  match label with
  | [] => true
  | c :: _ => (markTable.find? c.toNat).isNone && label.all fun d => mapChar d == some [d]

/-- The label behind an encoded one, which must be normalised and valid. -/
def decodeLabel (cs : List Char) : Option (List Char) :=
  match Punycode.decode cs with
  | none => none
  | some label => if Normal.normalize label = label ∧ isValidLabel label then some label else none

def readLabel (label : List Char) : Option (List Char) :=
  match label with
  | 'x' :: 'n' :: '-' :: '-' :: r => decodeLabel r
  | _ => if isValidLabel label then some label else none

def asciiLabel (label : List Char) : List Char :=
  if label.all (·.toNat < 128) then label else "xn--".toList ++ Punycode.encode label

def joinLabels : List (List Char) → List Char
  | [] => []
  | [l] => l
  | l :: ls => l ++ '.' :: joinLabels ls

/-- The ASCII form of a domain name. -/
def toAscii? (name : List Char) : Option (List Char) := do
  let mapped ← name.mapM mapChar
  let labels ← (parts '.' (Normal.normalize mapped.flatten)).mapM readLabel
  if labels.any Direction.isRightToLeft && !(labels.all Direction.allows) then none
  else pure (joinLabels (labels.map asciiLabel))

end TokenAuth.Domain
