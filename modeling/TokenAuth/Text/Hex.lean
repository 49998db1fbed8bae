/-!
Hexadecimal digits. Both cases are read, lower case is written.
-/
namespace TokenAuth.Text

def hexValue? (c : Char) : Option Nat :=
  if '0' ≤ c ∧ c ≤ '9' then some (c.toNat - 48)
  else if 'a' ≤ c ∧ c ≤ 'f' then some (c.toNat - 87)
  else if 'A' ≤ c ∧ c ≤ 'F' then some (c.toNat - 55)
  else none

def isHexDigit (c : Char) : Bool := (hexValue? c).isSome

def hexDigit (n : Nat) : Char :=
  if n < 10 then Char.ofNat (48 + n) else Char.ofNat (87 + n)

/-- The hexadecimal digits of a number, without leading zeros. -/
def hex (n : Nat) : List Char :=
  if n < 16 then [hexDigit n] else hex (n / 16) ++ [hexDigit (n % 16)]

/-- The number whose hexadecimal digits these are. -/
def hexNumber? (cs : List Char) : Option Nat :=
  cs.foldlM (fun n c => (hexValue? c).map (16 * n + ·)) 0

theorem hexValue?_hexDigit {n : Nat} (h : n < 16) : hexValue? (hexDigit n) = some n := by
  have : ∀ k : Fin 16, hexValue? (hexDigit k.val) = some k.val := by decide
  exact this ⟨n, h⟩

theorem isHexDigit_of_mem_hex {n : Nat} {c : Char} (h : c ∈ hex n) : isHexDigit c = true := by
  have hdigit : ∀ {k : Nat}, k < 16 → isHexDigit (hexDigit k) = true := by
    intro k hk
    rw [isHexDigit, hexValue?_hexDigit hk]
    rfl
  induction n using Nat.strongRecOn with
  | _ n ih =>
    rw [hex] at h
    split at h
    · next hn => rw [List.mem_singleton.1 h]; exact hdigit hn
    · next hn =>
      rcases List.mem_append.1 h with h | h
      · exact ih (n / 16) (by omega) h
      · rw [List.mem_singleton.1 h]; exact hdigit (Nat.mod_lt n (by omega))

theorem hex_ne_nil (n : Nat) : hex n ≠ [] := by
  rw [hex]
  split <;> simp

theorem length_hex_le (width n : Nat) (h : n < Nat.pow 16 (width + 1)) :
    (hex n).length ≤ width + 1 := by
  induction width generalizing n with
  | zero =>
    rw [hex, if_pos (by simpa using h)]
    exact Nat.le_refl 1
  | succ k ih =>
    rw [hex]
    split
    · simp
    · have hdiv : n / 16 < Nat.pow 16 (k + 1) := by
        rw [Nat.div_lt_iff_lt_mul (by decide)]
        exact h
      have := ih (n / 16) hdiv
      simp only [List.length_append, List.length_singleton]
      omega

theorem hexNumber?_append_digit (ds : List Char) (c : Char) :
    hexNumber? (ds ++ [c]) = (hexNumber? ds).bind fun n => (hexValue? c).map (16 * n + ·) := by
  simp [hexNumber?, List.foldlM_append]

theorem hexNumber?_hex (n : Nat) : hexNumber? (hex n) = some n := by
  induction n using Nat.strongRecOn with
  | _ n ih =>
    rw [hex]
    split
    · next h => simp [hexNumber?, hexValue?_hexDigit h]
    · next h =>
      rw [hexNumber?_append_digit, ih (n / 16) (by omega), Option.bind_some,
        hexValue?_hexDigit (Nat.mod_lt n (by omega)), Option.map_some, Nat.div_add_mod]

end TokenAuth.Text
