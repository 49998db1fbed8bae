/-!
Decimal text of numbers: the fewest digits, a minus sign for negative numbers, and fields of a fixed
width filled with zeros. Reading the digits of a written number gives the number back.
-/
namespace TokenAuth.Text

def isDigit (c : Char) : Bool := '0' ≤ c && c ≤ '9'

def digitValue (c : Char) : Nat := c.toNat - 48

def digit (n : Nat) : Char := Char.ofNat (48 + n)

/-- The decimal digits of a number, without leading zeros. -/
def decimal (n : Nat) : List Char :=
  if n < 10 then [digit n] else decimal (n / 10) ++ [digit (n % 10)]

def decimalInt : Int → List Char
  | .ofNat n => decimal n
  | .negSucc n => '-' :: decimal (n + 1)

/-- At least `width` digits, filled with zeros on the left. -/
def padded (width n : Nat) : List Char :=
  List.replicate (width - (decimal n).length) '0' ++ decimal n

/-- The number whose decimal digits these are. -/
def numberOf (ds : List Char) : Nat := ds.foldl (fun n c => 10 * n + digitValue c) 0

theorem digit_facts {n : Nat} (h : n < 10) : isDigit (digit n) = true ∧ digitValue (digit n) = n := by
  have : ∀ k : Fin 10, isDigit (digit k.val) = true ∧ digitValue (digit k.val) = k.val := by decide
  exact this ⟨n, h⟩

theorem numberOf_append_digit (ds : List Char) (c : Char) :
    numberOf (ds ++ [c]) = 10 * numberOf ds + digitValue c := by
  simp [numberOf]

theorem numberOf_decimal (n : Nat) : numberOf (decimal n) = n := by
  induction n using Nat.strongRecOn with
  | _ n ih =>
    rw [decimal]
    split
    · next h => simp [numberOf, (digit_facts h).2]
    · next h =>
      rw [numberOf_append_digit, ih (n / 10) (by omega), (digit_facts (Nat.mod_lt n (by omega))).2]
      omega

theorem isDigit_of_mem_decimal {n : Nat} {c : Char} (h : c ∈ decimal n) : isDigit c = true := by
  induction n using Nat.strongRecOn with
  | _ n ih =>
    rw [decimal] at h
    split at h
    · next hn => rw [List.mem_singleton.1 h]; exact (digit_facts hn).1
    · next hn =>
      rcases List.mem_append.1 h with h | h
      · exact ih (n / 10) (by omega) h
      · rw [List.mem_singleton.1 h]; exact (digit_facts (Nat.mod_lt n (by omega))).1

theorem decimal_ne_nil (n : Nat) : decimal n ≠ [] := by
  rw [decimal]
  split <;> simp

theorem decimal_injective {m n : Nat} (h : decimal m = decimal n) : m = n := by
  rw [← numberOf_decimal m, h, numberOf_decimal]

theorem not_mem_decimal {c : Char} (hc : isDigit c = false) (n : Nat) : c ∉ decimal n := by
  intro h
  rw [isDigit_of_mem_decimal h] at hc
  simp at hc

/-- Only zero has a zero for its first digit. -/
theorem head?_decimal_ne_zero (n : Nat) (h : 0 < n) : (decimal n).head? ≠ some '0' := by
  induction n using Nat.strongRecOn with
  | _ n ih =>
    rw [decimal]
    split
    · next hn =>
      intro hhead
      have hdigit : digit n = '0' := by simpa using hhead
      have hvalue := (digit_facts hn).2
      rw [hdigit] at hvalue
      have : digitValue '0' = 0 := by decide
      omega
    · next hn =>
      have hrest := ih (n / 10) (by omega) (by omega)
      cases hd : decimal (n / 10) with
      | nil => exact absurd hd (decimal_ne_nil _)
      | cons c ds =>
        rw [hd] at hrest
        simpa using hrest

theorem length_decimal_le (width n : Nat) (hw : 0 < width) (h : n < Nat.pow 10 width) :
    (decimal n).length ≤ width := by
  induction width generalizing n with
  | zero => omega
  | succ k ih =>
    rw [decimal]
    split
    · simp
    · next hn =>
      have hk : 0 < k := by
        rcases Nat.eq_zero_or_pos k with rfl | hk
        · simp at h
          omega
        · exact hk
      have hdiv : n / 10 < Nat.pow 10 k := by
        rw [Nat.div_lt_iff_lt_mul (by decide)]
        exact h
      have := ih (n / 10) hk hdiv
      simp only [List.length_append, List.length_singleton]
      omega

theorem decimalInt_injective {m n : Int} (h : decimalInt m = decimalInt n) : m = n := by
  have hminus : ∀ k, '-' ∉ decimal k := not_mem_decimal (by decide)
  cases m with
  | ofNat m =>
    cases n with
    | ofNat n => rw [decimal_injective (show decimal m = decimal n from h)]
    | negSucc n =>
      have hmem : '-' ∈ decimalInt (.negSucc n) := List.mem_cons_self
      rw [← h] at hmem
      exact absurd hmem (hminus m)
  | negSucc m =>
    cases n with
    | ofNat n =>
      have hmem : '-' ∈ decimalInt (.negSucc m) := List.mem_cons_self
      rw [h] at hmem
      exact absurd hmem (hminus n)
    | negSucc n =>
      have hdigits : decimal (m + 1) = decimal (n + 1) := (List.cons.inj h).2
      rw [Nat.succ.inj (decimal_injective hdigits)]

theorem not_mem_decimalInt {c : Char} (hc : isDigit c = false) (hminus : c ≠ '-') (n : Int) :
    c ∉ decimalInt n := by
  cases n with
  | ofNat n => exact not_mem_decimal hc n
  | negSucc n =>
    intro h
    rcases List.mem_cons.1 h with h | h
    · exact hminus h
    · exact not_mem_decimal hc _ h

end TokenAuth.Text
