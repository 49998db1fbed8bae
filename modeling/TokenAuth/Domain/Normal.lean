import TokenAuth.Domain.DecompositionTable

/-!
Normalization Form C: characters are decomposed, marks put into the order of their classes, and what
belongs together is composed again.
-/
namespace TokenAuth.Domain.Normal

def combiningClass (n : Nat) : Nat :=
  match combiningClassTable.find? n with
  | some e => e.points.headD 0
  | none => 0

/-- Syllables are counted from the last of three kinds of letters to the first. -/
def decomposeHangul (n : Nat) : List Nat :=
  let s := n - 0xAC00
  let lead := 0x1100 + s / 588
  let vowel := 0x1161 + s % 588 / 28
  if s % 28 = 0 then [lead, vowel] else [lead, vowel, 0x11A7 + s % 28]

/-- Decompositions are followed through at most `depth` steps; no code point has more than four. -/
def decompose : Nat → Nat → List Nat
  | 0, n => [n]
  | depth + 1, n =>
    if 0xAC00 ≤ n ∧ n ≤ 0xD7A3 then decomposeHangul n
    else
      match decompositionTable.find? n with
      | some e => e.points.flatMap (decompose depth)
      | none => [n]

/-- Puts a code point behind those of a class that is not larger. -/
def insertByClass (n : Nat) : List Nat → List Nat
  | [] => [n]
  | m :: r =>
    if combiningClass n < combiningClass m then n :: m :: r else m :: insertByClass n r

/-- Sorts the marks after each starter by their classes and keeps the order of equal ones. -/
def order (marks : List Nat) : List Nat → List Nat
  | [] => marks
  | n :: r =>
    if combiningClass n = 0 then marks ++ n :: order [] r else order (insertByClass n marks) r

def composeHangul? (a b : Nat) : Option Nat :=
  if 0x1100 ≤ a ∧ a ≤ 0x1112 ∧ 0x1161 ≤ b ∧ b ≤ 0x1175 then
    some (0xAC00 + ((a - 0x1100) * 21 + (b - 0x1161)) * 28)
  else if 0xAC00 ≤ a ∧ a ≤ 0xD7A3 ∧ (a - 0xAC00) % 28 = 0 ∧ 0x11A8 ≤ b ∧ b ≤ 0x11C2 then
    some (a + (b - 0x11A7))
  else none

def compose? (a b : Nat) : Option Nat :=
  match composeHangul? a b with
  | some n => some n
  | none => (Array.find? (fun e => e.mark = some '=' ∧ e.points = [a, b]) decompositionTable).map (·.first)

/-- Composes a starter with what follows. A mark behind one of its own or a larger class stays. -/
def composeFrom (starter : Nat) (skipped : List Nat) : List Nat → List Nat
  | [] => starter :: skipped.reverse
  | n :: r =>
    let blocked : Bool :=
      match skipped with
      | [] => false
      | m :: _ => combiningClass n ≤ combiningClass m
    match if blocked then none else compose? starter n with
    | some c => composeFrom c skipped r
    | none =>
      if combiningClass n = 0 then starter :: (skipped.reverse ++ composeFrom n [] r)
      else composeFrom starter (n :: skipped) r

def compose : List Nat → List Nat
  | [] => []
  | n :: r => if combiningClass n = 0 then composeFrom n [] r else n :: compose r

/-- The Normalization Form C of a text. -/
def normalize (cs : List Char) : List Char :=
  (compose (order [] (cs.flatMap fun c => decompose 8 c.toNat))).map Char.ofNat

end TokenAuth.Domain.Normal
