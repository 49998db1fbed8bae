/-!
Texts cut at a separator: at its first place, at its last place, or at every place.
-/
namespace TokenAuth.Text

/-- What stands before and after the first `d`. -/
def cutFirst (d : Char) : List Char → Option (List Char × List Char)
  | [] => none
  | c :: r => if c = d then some ([], r) else (cutFirst d r).map fun p => (c :: p.1, p.2)

/-- What stands before and after the last `d`. -/
def cutLast (d : Char) : List Char → Option (List Char × List Char)
  | [] => none
  | c :: r =>
    match cutLast d r with
    | some (a, b) => some (c :: a, b)
    | none => if c = d then some ([], r) else none

/-- The parts between the separators. There is one part more than there are separators. -/
def parts (d : Char) : List Char → List (List Char)
  | [] => [[]]
  | c :: r =>
    if c = d then [] :: parts d r
    else
      match parts d r with
      | [] => [[c]]
      | p :: ps => (c :: p) :: ps

theorem cutFirst_append (d : Char) (a b : List Char) (h : d ∉ a) :
    cutFirst d (a ++ d :: b) = some (a, b) := by
  induction a with
  | nil => simp [cutFirst]
  | cons c r ih =>
    simp only [List.mem_cons, not_or] at h
    simp [cutFirst, Ne.symm h.1, ih h.2]

theorem cutFirst_eq_some {d : Char} {cs a b : List Char} (h : cutFirst d cs = some (a, b)) :
    cs = a ++ d :: b ∧ d ∉ a := by
  induction cs generalizing a b with
  | nil => simp [cutFirst] at h
  | cons c r ih =>
    by_cases hc : c = d
    · simp only [cutFirst, hc, if_true, Option.some.injEq, Prod.mk.injEq] at h
      obtain ⟨rfl, rfl⟩ := h
      simp [hc]
    · simp only [cutFirst, hc, if_false, Option.map_eq_some_iff] at h
      obtain ⟨⟨a', b'⟩, hr, he⟩ := h
      simp only [Prod.mk.injEq] at he
      obtain ⟨rfl, rfl⟩ := he
      obtain ⟨h1, h2⟩ := ih hr
      exact ⟨by simp [h1], by simp [h2, Ne.symm hc]⟩

theorem cutFirst_eq_none_iff {d : Char} {cs : List Char} : cutFirst d cs = none ↔ d ∉ cs := by
  induction cs with
  | nil => simp [cutFirst]
  | cons c r ih =>
    by_cases hc : c = d
    · simp [cutFirst, hc]
    · simp [cutFirst, hc, ih, Ne.symm hc]

theorem cutLast_eq_none_iff {d : Char} {cs : List Char} : cutLast d cs = none ↔ d ∉ cs := by
  induction cs with
  | nil => simp [cutLast]
  | cons c r ih =>
    unfold cutLast
    cases hr : cutLast d r with
    | some p => simp [hr] at ih ⊢; simp [ih]
    | none =>
      simp only [hr, true_iff] at ih
      by_cases hc : c = d
      · simp [hc]
      · simp [hc, ih, Ne.symm hc]

theorem cutLast_append (d : Char) (a b : List Char) (h : d ∉ b) :
    cutLast d (a ++ d :: b) = some (a, b) := by
  induction a with
  | nil => simp [cutLast, cutLast_eq_none_iff.2 h]
  | cons c r ih => simp [cutLast, ih]

theorem cutLast_eq_some {d : Char} {cs a b : List Char} (h : cutLast d cs = some (a, b)) :
    cs = a ++ d :: b ∧ d ∉ b := by
  induction cs generalizing a b with
  | nil => simp [cutLast] at h
  | cons c r ih =>
    unfold cutLast at h
    cases hr : cutLast d r with
    | some p =>
      simp only [hr, Option.some.injEq, Prod.mk.injEq] at h
      obtain ⟨rfl, rfl⟩ := h
      obtain ⟨h1, h2⟩ := ih hr
      exact ⟨by rw [h1]; rfl, h2⟩
    | none =>
      by_cases hc : c = d
      · simp only [hr, hc, if_true, Option.some.injEq, Prod.mk.injEq] at h
        obtain ⟨rfl, rfl⟩ := h
        exact ⟨by simp [hc], cutLast_eq_none_iff.1 hr⟩
      · simp [hr, hc] at h

theorem parts_ne_nil (d : Char) (cs : List Char) : parts d cs ≠ [] := by
  cases cs with
  | nil => simp [parts]
  | cons c r =>
    unfold parts
    split
    · simp
    · split <;> simp

theorem parts_of_not_mem {d : Char} {cs : List Char} (h : d ∉ cs) : parts d cs = [cs] := by
  induction cs with
  | nil => rfl
  | cons c r ih =>
    simp only [List.mem_cons, not_or] at h
    simp [parts, Ne.symm h.1, ih h.2]

theorem parts_append (d : Char) (a b : List Char) (h : d ∉ a) :
    parts d (a ++ d :: b) = a :: parts d b := by
  induction a with
  | nil => simp [parts]
  | cons c r ih =>
    simp only [List.mem_cons, not_or] at h
    simp [parts, Ne.symm h.1, ih h.2]

/-- What is taken ends where the next character is not to be taken. -/
theorem takeWhile_append_of_head {p : Char → Bool} {a b : List Char} (ha : ∀ c ∈ a, p c = true)
    (hb : ∀ c ∈ b.head?, p c = false) : (a ++ b).takeWhile p = a := by
  rw [List.takeWhile_append_of_pos ha]
  cases b with
  | nil => simp
  | cons c b => simp [hb c (by simp)]

end TokenAuth.Text
