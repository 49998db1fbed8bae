import TokenAuth.Text.Cut

/-!
Punycode: a label of any characters as a label of ASCII characters. The ASCII characters come first,
then a hyphen, then the others in ascending order as numbers of digits with weights that adapt.
-/
namespace TokenAuth.Domain.Punycode

open Text

def digitChar (n : Nat) : Char := if n < 26 then Char.ofNat (97 + n) else Char.ofNat (22 + n)

def digitValue? (c : Char) : Option Nat :=
  if '0' ≤ c ∧ c ≤ '9' then some (c.toNat - 22)
  else if 'A' ≤ c ∧ c ≤ 'Z' then some (c.toNat - 65)
  else if 'a' ≤ c ∧ c ≤ 'z' then some (c.toNat - 97)
  else none

/-- The least digit that does not end a number at the place `k`. -/
def threshold (k bias : Nat) : Nat := if k ≤ bias then 1 else if bias + 26 ≤ k then 26 else k - bias

theorem threshold_bounds (k bias : Nat) : 1 ≤ threshold k bias ∧ threshold k bias ≤ 26 := by
  unfold threshold
  split
  · omega
  · split <;> omega

def adaptFrom (delta k : Nat) : Nat :=
  if 455 < delta then adaptFrom (delta / 35) (k + 36) else k + 36 * delta / (delta + 38)
termination_by delta

/-- The bias after a number `delta`, when `count` characters are known. -/
def adapt (delta count : Nat) (isFirst : Bool) : Nat :=
  let d := if isFirst then delta / 700 else delta / 2
  adaptFrom (d + d / count) 0

def encodeNumber (bias k q : Nat) : List Char :=
  let t := threshold k bias
  if q < t then [digitChar q]
  else digitChar (t + (q - t) % (36 - t)) :: encodeNumber bias (k + 36) ((q - t) / (36 - t))
termination_by q
decreasing_by
  have := threshold_bounds k bias
  exact Nat.lt_of_le_of_lt (Nat.div_le_self _ _) (by omega)

structure EncodeState where
  written : List Char
  delta : Nat
  bias : Nat
  count : Nat

/-- Takes one character of the label into account while the character `m` is written. -/
def encodeStep (basic m : Nat) (s : EncodeState) (c : Char) : EncodeState :=
  if c.toNat < m then { s with delta := s.delta + 1 }
  else if c.toNat = m then
    { written := s.written ++ encodeNumber s.bias 36 s.delta
      delta := 0
      bias := adapt s.delta (s.count + 1) (s.count == basic)
      count := s.count + 1 }
  else s

/-- The least code point of the label from `n` on. -/
def leastFrom (n : Nat) (cs : List Char) : Option Nat :=
  ((cs.map Char.toNat).filter (n ≤ ·)).min?

def encodeFrom (label : List Char) (basic : Nat) : Nat → Nat → EncodeState → List Char
  | 0, _, s => s.written
  | rounds + 1, n, s =>
    match leastFrom n label with
    | none => s.written
    | some m =>
      let s := label.foldl (encodeStep basic m) { s with delta := s.delta + (m - n) * (s.count + 1) }
      encodeFrom label basic rounds (m + 1) { s with delta := s.delta + 1 }

def encode (label : List Char) : List Char :=
  let basic := label.filter (·.toNat < 128)
  basic ++ (if basic = [] then [] else ['-']) ++
    encodeFrom label basic.length label.length 128 ⟨[], 0, 72, basic.length⟩

/-- Reads one number and adds it to `i`; every value must fit into 32 bits. -/
def decodeNumber (bias : Nat) : Nat → Nat → Nat → List Char → Option (Nat × List Char)
  | _, _, _, [] => none
  | k, weight, i, c :: r =>
    match digitValue? c with
    | none => none
    | some d =>
      let i := i + d * weight
      let t := threshold k bias
      if 4294967295 < i then none
      else if d < t then some (i, r)
      else if 4294967295 < weight * (36 - t) then none
      else decodeNumber bias (k + 36) (weight * (36 - t)) i r

def decodeFrom : Nat → Nat → Nat → Nat → List Char → List Char → Option (List Char)
  | _, _, _, _, known, [] => some known
  | 0, _, _, _, known, _ => some known
  | fuel + 1, n, i, bias, known, cs =>
    match decodeNumber bias 36 1 i cs with
    | none => none
    | some (j, r) =>
      let count := known.length + 1
      let m := n + j / count
      if m < 0xD800 ∨ 0xDFFF < m ∧ m < 0x110000 then
        decodeFrom fuel m (j % count + 1) (adapt (j - i) count (i == 0))
          (known.insertIdx (j % count) (Char.ofNat m)) r
      else none

/-- The label behind an encoded one. A hyphen at the very start separates nothing. -/
def decode (cs : List Char) : Option (List Char) :=
  match cutLast '-' cs with
  | some (b :: basic, rest) =>
    if (b :: basic).all (·.toNat < 128) then decodeFrom rest.length 128 0 72 (b :: basic) rest
    else none
  | _ => decodeFrom cs.length 128 0 72 [] cs

end TokenAuth.Domain.Punycode
