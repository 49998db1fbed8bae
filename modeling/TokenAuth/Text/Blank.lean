/-!
White space in the sense of the Unicode property White_Space, and texts freed of it at their ends.
A trimmed text neither starts nor ends with a blank, and trimming it again changes nothing.
-/
namespace TokenAuth.Text

/-- The characters with the Unicode property White_Space. -/
def isBlank (c : Char) : Bool :=
  let n := c.toNat
  (0x09 ≤ n && n ≤ 0x0D) || n == 0x20 || n == 0x85 || n == 0xA0 || n == 0x1680 ||
    (0x2000 ≤ n && n ≤ 0x200A) || n == 0x2028 || n == 0x2029 || n == 0x202F ||
    n == 0x205F || n == 0x3000

def trimStart (cs : List Char) : List Char := cs.dropWhile isBlank

def trimEnd (cs : List Char) : List Char := (trimStart cs.reverse).reverse

def trim (cs : List Char) : List Char := trimEnd (trimStart cs)

/-- The text without the blanks at its two ends. -/
def trimmed (s : String) : String := String.ofList (trim s.toList)

theorem trimStart_eq_nil_or (cs : List Char) :
    trimStart cs = [] ∨ ∃ c r, trimStart cs = c :: r ∧ isBlank c = false := by
  induction cs with
  | nil => exact Or.inl rfl
  | cons c r ih =>
    by_cases hc : isBlank c = true
    · simpa [trimStart, hc] using ih
    · exact Or.inr ⟨c, r, by simp [trimStart, hc], by simpa using hc⟩

theorem trimStart_trimStart (cs : List Char) : trimStart (trimStart cs) = trimStart cs := by
  rcases trimStart_eq_nil_or cs with h | ⟨c, r, h, hc⟩
  · rw [h]; rfl
  · rw [h]; simp [trimStart, hc]

theorem trimEnd_trimEnd (cs : List Char) : trimEnd (trimEnd cs) = trimEnd cs := by
  simp [trimEnd, trimStart_trimStart]

/-- A text that starts with a visible character keeps that start when its end is trimmed. -/
theorem trimEnd_cons {c : Char} (r : List Char) (hc : isBlank c = false) :
    trimEnd (c :: r) = c :: trimEnd r := by
  simp only [trimEnd, trimStart, List.reverse_cons]
  generalize r.reverse = l
  induction l with
  | nil => simp [hc]
  | cons d l ih =>
    by_cases hd : isBlank d = true
    · simpa [hd] using ih
    · simp [hd]

theorem trim_trim (cs : List Char) : trim (trim cs) = trim cs := by
  unfold trim
  rcases trimStart_eq_nil_or cs with h | ⟨c, r, h, hc⟩
  · rw [h]; rfl
  · rw [h, trimEnd_cons r hc]
    have : trimStart (c :: trimEnd r) = c :: trimEnd r := by
      simp [trimStart, hc]
    rw [this, trimEnd_cons _ hc, trimEnd_trimEnd]

theorem trimStart_of_no_blank {cs : List Char} (h : ∀ c ∈ cs, isBlank c = false) :
    trimStart cs = cs := by
  cases cs with
  | nil => rfl
  | cons c r => simp [trimStart, h c (by simp)]

theorem trim_of_no_blank {cs : List Char} (h : ∀ c ∈ cs, isBlank c = false) : trim cs = cs := by
  have hr : trimStart cs.reverse = cs.reverse :=
    trimStart_of_no_blank fun c hc => h c (List.mem_reverse.1 hc)
  simp [trim, trimEnd, trimStart_of_no_blank h, hr]

theorem trimmed_trimmed (s : String) : trimmed (trimmed s) = trimmed s := by
  simp [trimmed, trim_trim]

end TokenAuth.Text
