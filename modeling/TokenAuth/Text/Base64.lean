import TokenAuth.Text.Blank

/-!
Base64 text of bytes, in the standard and the URL-safe alphabet, without padding and with it. Each
byte string has exactly one written form: left-over bits must be zero and padding must be complete,
so two texts that are read as the same bytes are the same text.
-/
namespace TokenAuth.Text.Base64

inductive Alphabet
  | standard
  | urlSafe
  deriving DecidableEq

namespace Alphabet

/-- The characters for 62 and 63. -/
def extra : Alphabet → Char × Char
  | standard => ('+', '/')
  | urlSafe => ('-', '_')

def symbol (a : Alphabet) (n : Nat) : Char :=
  if n < 26 then Char.ofNat (65 + n)
  else if n < 52 then Char.ofNat (71 + n)
  else if n < 62 then Char.ofNat (n - 4)
  else if n = 62 then a.extra.1
  else a.extra.2

def value? (a : Alphabet) (c : Char) : Option Nat :=
  if 'A' ≤ c ∧ c ≤ 'Z' then some (c.toNat - 65)
  else if 'a' ≤ c ∧ c ≤ 'z' then some (c.toNat - 71)
  else if '0' ≤ c ∧ c ≤ '9' then some (c.toNat + 4)
  else if c = a.extra.1 then some 62
  else if c = a.extra.2 then some 63
  else none

theorem value?_symbol (a : Alphabet) {n : Nat} (h : n < 64) : a.value? (a.symbol n) = some n := by
  have : ∀ k : Fin 64, a.value? (a.symbol k.val) = some k.val := by cases a <;> decide
  exact this ⟨n, h⟩

theorem isBlank_symbol (a : Alphabet) (n : Nat) : isBlank (a.symbol n) = false := by
  by_cases h : n < 63
  · have : ∀ k : Fin 63, isBlank (a.symbol k.val) = false := by cases a <;> decide
    exact this ⟨n, h⟩
  · have h₁ : ¬ n < 26 := by omega
    have h₂ : ¬ n < 52 := by omega
    have h₃ : ¬ n < 62 := by omega
    have h₄ : ¬ n = 62 := by omega
    simp only [symbol, h₁, h₂, h₃, h₄, if_false]
    cases a <;> decide

theorem value?_facts {a : Alphabet} {c : Char} {n : Nat} (h : a.value? c = some n) :
    n < 64 ∧ a.symbol n = c := by
  have key : ∀ k : Fin 128, a.value? (Char.ofNat k.val) = some n →
      n < 64 ∧ a.symbol n = Char.ofNat k.val := by
    intro k hk
    have := (by cases a <;> decide : ∀ k : Fin 128, ∀ m ∈ a.value? (Char.ofNat k.val),
      m < 64 ∧ a.symbol m = Char.ofNat k.val)
    exact this k n hk
  by_cases hc : c.toNat < 128
  · have := key ⟨c.toNat, hc⟩
    simp only [Char.ofNat_toNat] at this
    exact this h
  · exfalso
    have hz : ∀ d : Char, d.toNat < 128 → ¬ c ≤ d := by
      intro d hd hle
      have : c.toNat ≤ d.toNat := by simpa [Char.le_def, UInt32.le_iff_toNat_le] using hle
      omega
    have he : ∀ d : Char, d.toNat < 128 → c ≠ d := by
      rintro d hd rfl
      exact hc hd
    unfold value? at h
    rw [if_neg (fun p => hz 'Z' (by decide) p.2), if_neg (fun p => hz 'z' (by decide) p.2),
      if_neg (fun p => hz '9' (by decide) p.2), if_neg (he _ (by cases a <;> decide)),
      if_neg (he _ (by cases a <;> decide))] at h
    simp at h

end Alphabet

/-- Three bytes make four characters, a last one or two bytes make two or three. -/
def encode (a : Alphabet) : List UInt8 → List Char
  | [] => []
  | [x] => [a.symbol (x.toNat / 4), a.symbol (x.toNat % 4 * 16)]
  | [x, y] =>
    [a.symbol (x.toNat / 4), a.symbol (x.toNat % 4 * 16 + y.toNat / 16),
      a.symbol (y.toNat % 16 * 4)]
  | x :: y :: z :: r =>
    a.symbol (x.toNat / 4) :: a.symbol (x.toNat % 4 * 16 + y.toNat / 16) ::
      a.symbol (y.toNat % 16 * 4 + z.toNat / 64) :: a.symbol (z.toNat % 64) :: encode a r

theorem isBlank_of_mem_encode {a : Alphabet} {bs : List UInt8} {c : Char} (h : c ∈ encode a bs) :
    isBlank c = false := by
  induction bs using encode.induct with
  | case1 => simp [encode] at h
  | case2 x =>
    simp only [encode, List.mem_cons, List.not_mem_nil, or_false] at h
    rcases h with rfl | rfl <;> exact a.isBlank_symbol _
  | case3 x y =>
    simp only [encode, List.mem_cons, List.not_mem_nil, or_false] at h
    rcases h with rfl | rfl | rfl <;> exact a.isBlank_symbol _
  | case4 x y z r ih =>
    simp only [encode, List.mem_cons] at h
    rcases h with rfl | rfl | rfl | rfl | h
    · exact a.isBlank_symbol _
    · exact a.isBlank_symbol _
    · exact a.isBlank_symbol _
    · exact a.isBlank_symbol _
    · exact ih h

def decode (a : Alphabet) : List Char → Option (List UInt8)
  | [] => some []
  | [_] => none
  | [c, d] =>
    match a.value? c, a.value? d with
    | some m, some n => if n % 16 = 0 then some [UInt8.ofNat (m * 4 + n / 16)] else none
    | _, _ => none
  | [c, d, e] =>
    match a.value? c, a.value? d, a.value? e with
    | some m, some n, some p =>
      if p % 4 = 0 then some [UInt8.ofNat (m * 4 + n / 16), UInt8.ofNat (n % 16 * 16 + p / 4)]
      else none
    | _, _, _ => none
  | c :: d :: e :: f :: r =>
    match a.value? c, a.value? d, a.value? e, a.value? f with
    | some m, some n, some p, some q =>
      (decode a r).map fun bs =>
        UInt8.ofNat (m * 4 + n / 16) :: UInt8.ofNat (n % 16 * 16 + p / 4) ::
          UInt8.ofNat (p % 4 * 64 + q) :: bs
    | _, _, _, _ => none

theorem decode_encode (a : Alphabet) (bs : List UInt8) : decode a (encode a bs) = some bs := by
  induction bs using encode.induct with
  | case1 => rfl
  | case2 x =>
    have hx := x.toNat_lt
    have e : x.toNat / 4 * 4 + x.toNat % 4 * 16 / 16 = x.toNat := by omega
    simp only [encode, decode, a.value?_symbol (show x.toNat / 4 < 64 by omega),
      a.value?_symbol (show x.toNat % 4 * 16 < 64 by omega)]
    rw [if_pos (by omega), e, UInt8.ofNat_toNat]
  | case3 x y =>
    have hx := x.toNat_lt
    have hy := y.toNat_lt
    have e : x.toNat / 4 * 4 + (x.toNat % 4 * 16 + y.toNat / 16) / 16 = x.toNat := by omega
    have f : (x.toNat % 4 * 16 + y.toNat / 16) % 16 * 16 + y.toNat % 16 * 4 / 4 = y.toNat := by omega
    simp only [encode, decode, a.value?_symbol (show x.toNat / 4 < 64 by omega),
      a.value?_symbol (show x.toNat % 4 * 16 + y.toNat / 16 < 64 by omega),
      a.value?_symbol (show y.toNat % 16 * 4 < 64 by omega)]
    rw [if_pos (by omega), e, f, UInt8.ofNat_toNat, UInt8.ofNat_toNat]
  | case4 x y z r ih =>
    have hx := x.toNat_lt
    have hy := y.toNat_lt
    have hz := z.toNat_lt
    have e : x.toNat / 4 * 4 + (x.toNat % 4 * 16 + y.toNat / 16) / 16 = x.toNat := by omega
    have f : (x.toNat % 4 * 16 + y.toNat / 16) % 16 * 16 + (y.toNat % 16 * 4 + z.toNat / 64) / 4 =
        y.toNat := by omega
    have g : (y.toNat % 16 * 4 + z.toNat / 64) % 4 * 64 + z.toNat % 64 = z.toNat := by omega
    simp only [encode, decode, a.value?_symbol (show x.toNat / 4 < 64 by omega),
      a.value?_symbol (show x.toNat % 4 * 16 + y.toNat / 16 < 64 by omega),
      a.value?_symbol (show y.toNat % 16 * 4 + z.toNat / 64 < 64 by omega),
      a.value?_symbol (show z.toNat % 64 < 64 by omega), ih, Option.map_some, e, f, g,
      UInt8.ofNat_toNat]

/-- The characters that fill the last group of four. -/
def padding (n : Nat) : List Char := List.replicate ((4 - n % 4) % 4) '='

def encodePadded (a : Alphabet) (bs : List UInt8) : List Char :=
  encode a bs ++ padding (encode a bs).length

/-- Reads padded text. The padding is neither left out nor longer than needed. -/
def decodePadded (a : Alphabet) (cs : List Char) : Option (List UInt8) :=
  let body := cs.takeWhile (· ≠ '=')
  if cs = body ++ padding body.length then decode a body else none

end TokenAuth.Text.Base64
