import TokenAuth.Text.Cut
import TokenAuth.Text.Hex

/-!
Tables of properties of code points. A table is written as a text of entries in ascending order,
separated by blanks or line ends: one code point or a range, in hexadecimal, then a mark, then further
code points with plus signs between them. Mark and code points may be missing.
-/
namespace TokenAuth.Domain

open Text

structure TableEntry where
  first : Nat
  last : Nat
  mark : Option Char
  points : List Nat
  deriving Repr

abbrev CodePointTable := Array TableEntry

namespace CodePointTable

def readPoint (cs : List Char) : Nat := (hexNumber? cs).getD 0

def readEntry (cs : List Char) : TableEntry :=
  let first := cs.takeWhile isHexDigit
  let rest := cs.dropWhile isHexDigit
  let (last, rest) := match rest with
    | '-' :: r => (r.takeWhile isHexDigit, r.dropWhile isHexDigit)
    | r => (first, r)
  let (mark, points) := match rest with
    | [] => (none, [])
    | [m] => (some m, [])
    | m :: r => (some m, (parts '+' r).map readPoint)
  ⟨readPoint first, readPoint last, mark, points⟩

def ofText (s : String) : CodePointTable :=
  (((parts ' ' (s.toList.map fun c => if c = '\n' then ' ' else c)).filter (· ≠ [])).map
    readEntry).toArray

/-- Halves the stretch from `low` up to `high`, which is where the entry of `n` can be. -/
def search (t : CodePointTable) (n : Nat) : Nat → Nat → Nat → Option TableEntry
  | 0, _, _ => none
  | fuel + 1, low, high =>
    match t[(low + high) / 2]? with
    | none => none
    | some e =>
      if high ≤ low then none
      else if n < e.first then search t n fuel low ((low + high) / 2)
      else if e.last < n then search t n fuel ((low + high) / 2 + 1) high
      else some e

/-- The entry that a code point falls under. -/
def find? (t : CodePointTable) (n : Nat) : Option TableEntry := t.search n (t.size + 1) 0 t.size

end CodePointTable

end TokenAuth.Domain
