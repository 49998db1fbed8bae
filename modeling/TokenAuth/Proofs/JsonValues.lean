import Mathlib.Data.List.Forall2
import TokenAuth.Json.Content
import TokenAuth.Json.Writer

/-!
Texts and whole numbers that are written as JSON are read back as the values they were. A text may hold
any characters; a number has to fit into 64 bits, with a sign or without. Every lemma leaves open what
follows the value.
-/
namespace TokenAuth

namespace Text

theorem hexNumber?_four (a b : Nat) (ha : a < 16) (hb : b < 16) :
    hexNumber? ['0', '0', hexDigit a, hexDigit b] = some (16 * a + b) := by
  have hzero : hexValue? '0' = some 0 := by decide
  simp [hexNumber?, hzero, hexValue?_hexDigit ha, hexValue?_hexDigit hb]

theorem utf8Size_hexDigit (n : Nat) (h : n < 16) : (hexDigit n).utf8Size = 1 := by
  have : ∀ k : Fin 16, (hexDigit k.val).utf8Size = 1 := by decide
  exact this ⟨n, h⟩

end Text

namespace Json

open Text

theorem skipSpaces_cons {c : Char} (r : List Char) (h : isSpace c = false) :
    skipSpaces (c :: r) = c :: r := by
  simp [skipSpaces, h]

theorem readHex4_control (n : Nat) (h : n < 32) (r : List Char) :
    readHex4 ('0' :: '0' :: hexDigit (n / 16) :: hexDigit (n % 16) :: r) = .ok (n, r) := by
  have hbytes : ('0').utf8Size = 1 := by decide
  have hnumber := hexNumber?_four (n / 16) (n % 16) (by omega) (by omega)
  simp only [readHex4, List.take_succ_cons, List.take_zero, List.foldl_cons, List.foldl_nil, hbytes,
    utf8Size_hexDigit (n / 16) (by omega), utf8Size_hexDigit (n % 16) (by omega), hnumber]
  rw [if_neg (by decide), Nat.div_add_mod]

/-- A character that needs no escape is read as itself. -/
theorem readQuoted_plain {c : Char} (r : List Char) (hquote : c ≠ '"') (hslash : c ≠ '\\')
    (hcontrol : ¬ c.toNat < 32) :
    readQuoted (c :: r) = (readQuoted r).map fun p => (c :: p.1, p.2) := by
  rw [readQuoted.eq_def]
  split
  · next heq => simp at heq
  · next heq => exact absurd (List.cons.inj heq).1 hquote
  · next heq => exact absurd (List.cons.inj heq).1 hslash
  · next heq =>
    obtain ⟨rfl, rfl⟩ := List.cons.inj heq
    rw [if_neg hcontrol]

theorem readQuoted_backslash {c : Char} {cs r : List Char} (h : readEscape cs = .ok (c, r)) :
    readQuoted ('\\' :: cs) = (readQuoted r).map fun p => (c :: p.1, p.2) := by
  rw [readQuoted.eq_def]
  simp only
  split
  · next f hf =>
    rw [h] at hf
    exact absurd hf (by simp)
  · next c' r' hr =>
    rw [h] at hr
    obtain ⟨rfl, rfl⟩ : c = c' ∧ r = r' := by simpa using hr
    rfl

/-- However a character is written between quotes, it is read as itself. -/
theorem readQuoted_escape (c : Char) (r : List Char) :
    readQuoted (escape c ++ r) = (readQuoted r).map fun p => (c :: p.1, p.2) := by
  unfold escape
  split
  · next h => subst h; exact readQuoted_backslash rfl
  split
  · next h => subst h; exact readQuoted_backslash rfl
  split
  · next h => subst h; exact readQuoted_backslash rfl
  split
  · next h => subst h; exact readQuoted_backslash rfl
  split
  · next h => subst h; exact readQuoted_backslash rfl
  split
  · next h => subst h; exact readQuoted_backslash rfl
  split
  · next h => subst h; exact readQuoted_backslash rfl
  split
  · next h =>
    apply readQuoted_backslash
    show readEscape ('u' :: '0' :: '0' :: hexDigit (c.toNat / 16) :: hexDigit (c.toNat % 16) :: r) = _
    simp only [readEscape, readHex4_control c.toNat h]
    rw [if_pos (by omega), Char.ofNat_toNat]
  · next hquote hslash _ _ _ _ _ hcontrol => exact readQuoted_plain r hquote hslash hcontrol

theorem readQuoted_flatMap_escape (cs r : List Char) :
    readQuoted (cs.flatMap escape ++ '"' :: r) = .ok (cs, r) := by
  induction cs with
  | nil => simp [readQuoted]
  | cons c cs ih =>
    rw [List.flatMap_cons, List.append_assoc, readQuoted_escape, ih]
    rfl

/-- What can neither continue a number nor be missed after one. -/
def EndsNumber (r : List Char) : Prop :=
  ∃ c t, r = c :: t ∧ isDigit c = false ∧ c ≠ '.' ∧ c ≠ 'e' ∧ c ≠ 'E'

theorem readDigits_append {ds r : List Char} (hne : ds ≠ []) (hd : ∀ c ∈ ds, isDigit c = true)
    (hr : EndsNumber r) : readDigits (ds ++ r) = .ok (ds, r) := by
  obtain ⟨c, t, rfl, hc, -⟩ := hr
  have htake : (ds ++ c :: t).takeWhile isDigit = ds := by
    rw [List.takeWhile_append_of_pos hd]
    simp [hc]
  unfold readDigits
  rw [htake]
  cases ds with
  | nil => exact absurd rfl hne
  | cons d ds => simp

/-- Written numbers have no zeros in front. -/
theorem readWhole_decimal (n : Nat) {r : List Char} (hr : EndsNumber r) :
    readWhole (decimal n ++ r) = .ok (decimal n, r) := by
  have hread := readDigits_append (decimal_ne_nil n) (fun _ => isDigit_of_mem_decimal) hr
  unfold readWhole
  split
  · next c t heq =>
    rcases Nat.eq_zero_or_pos n with rfl | hn
    · obtain ⟨c', t', rfl, hc', -⟩ := hr
      have hzero : decimal 0 = ['0'] := by rw [decimal]; rfl
      rw [hzero] at heq ⊢
      obtain ⟨rfl, rfl⟩ : c' = c ∧ t' = t := by simpa using heq
      rw [hc']
      rfl
    · have hhead := head?_decimal_ne_zero n hn
      cases hd : decimal n with
      | nil => exact absurd hd (decimal_ne_nil n)
      | cons d ds =>
        rw [hd] at heq hhead
        have : d = '0' := (List.cons.inj heq).1
        simp [this] at hhead
  · exact hread

theorem readFraction_none {r : List Char} (hr : EndsNumber r) : readFraction r = .ok ([], r) := by
  obtain ⟨c, t, rfl, -, hpoint, -⟩ := hr
  unfold readFraction
  split
  · next heq => exact absurd (List.cons.inj heq).1 hpoint
  · rfl

theorem readExponent_none {r : List Char} (hr : EndsNumber r) : readExponent r = .ok (none, r) := by
  obtain ⟨c, t, rfl, -, -, hlower, hupper⟩ := hr
  simp [readExponent, hlower, hupper]

theorem head_decimal_isDigit {n : Nat} {c : Char} {ds : List Char} (h : decimal n = c :: ds) :
    isDigit c = true :=
  isDigit_of_mem_decimal (n := n) (by simp [h])

/-- Neither a digit nor a minus sign starts a value of another kind. -/
theorem startsNumber_facts {c : Char} (h : startsNumber c = true) :
    isSpace c = false ∧ c ≠ 'n' ∧ c ≠ 't' ∧ c ≠ 'f' ∧ c ≠ '"' ∧ c ≠ '[' ∧ c ≠ '{' := by
  refine ⟨?_, ?_⟩
  · by_contra hspace
    simp only [isSpace, Bool.not_eq_false, Bool.or_eq_true, beq_iff_eq] at hspace
    rcases hspace with ((rfl | rfl) | rfl) | rfl <;> exact absurd h (by decide)
  · refine ⟨?_, ?_, ?_, ?_, ?_, ?_⟩ <;> (rintro rfl; exact absurd h (by decide))

theorem exists_renderInt (n : Int) :
    ∃ c r, renderInt n = c :: r ∧ startsNumber c = true := by
  cases n with
  | ofNat n =>
    cases hd : decimal n with
    | nil => exact absurd hd (decimal_ne_nil n)
    | cons c ds => exact ⟨c, ds, hd, by simp [startsNumber, head_decimal_isDigit hd]⟩
  | negSucc n => exact ⟨'-', decimal (n + 1), rfl, by decide⟩

theorem readNumber_renderInt (n : Int) {r : List Char} (hlow : -9223372036854775808 ≤ n)
    (hhigh : n ≤ 18446744073709551615) (hr : EndsNumber r) :
    readNumber (renderInt n ++ r) = .ok (.whole n, r) := by
  cases n with
  | ofNat n =>
    have htext : readNumberText (decimal n ++ r) = .ok (⟨false, decimal n, [], none⟩, r) := by
      cases hd : decimal n with
      | nil => exact absurd hd (decimal_ne_nil n)
      | cons c ds =>
        have hc := head_decimal_isDigit hd
        have hsign : c ≠ '-' := by
          rintro rfl
          exact absurd hc (by decide)
        have hwhole := readWhole_decimal n hr
        rw [hd, List.cons_append] at hwhole
        simp [readNumberText, bind, Except.bind, hsign, hwhole, readFraction_none hr,
          readExponent_none hr, pure, Except.pure]
    have hvalue : (⟨false, decimal n, [], none⟩ : NumberText).value? = some (.whole n) := by
      have hn : n ≤ 18446744073709551615 := Int.ofNat_le.1 hhigh
      simp [NumberText.value?, numberOf_decimal, hn]
    show readNumber (decimal n ++ r) = _
    simp [readNumber, htext, hvalue]
  | negSucc n =>
    have htext : readNumberText ('-' :: (decimal (n + 1) ++ r)) =
        .ok (⟨true, decimal (n + 1), [], none⟩, r) := by
      simp [readNumberText, bind, Except.bind, readWhole_decimal (n + 1) hr, readFraction_none hr,
        readExponent_none hr, pure, Except.pure]
    have hvalue : (⟨true, decimal (n + 1), [], none⟩ : NumberText).value? =
        some (.whole (Int.negSucc n)) := by
      have hn : n + 1 ≤ 9223372036854775808 := by omega
      have hn' : n + 1 ≤ 18446744073709551615 := by omega
      simp [NumberText.value?, numberOf_decimal, hn, hn', Int.negSucc_eq]
    show readNumber ('-' :: (decimal (n + 1) ++ r)) = _
    simp [readNumber, htext, hvalue]

end Json

end TokenAuth
