import TokenAuth.Proofs.CalendarDates
import TokenAuth.Rfc3339
import TokenAuth.Text.Cut

/-!
An instant that is written as text is read back as the same instant: in every year of the calendar, with
a fraction of any length and in leap seconds. The lemmas follow the text from left to right; each reader
takes what the writer put there and leaves the rest.
-/
namespace TokenAuth

namespace Text

theorem isBlank_of_isDigit {c : Char} (h : isDigit c = true) : isBlank c = false := by
  simp only [isDigit, Bool.and_eq_true, decide_eq_true_eq, Char.le_def,
    UInt32.le_iff_toNat_le] at h
  have hlow : 48 ≤ c.toNat := h.1
  have hhigh : c.toNat ≤ 57 := h.2
  simp only [isBlank, Bool.or_eq_false_iff, Bool.and_eq_false_iff, decide_eq_false_iff_not,
    beq_eq_false_iff_ne]
  omega

theorem isDigit_of_mem_padded {width n : Nat} {c : Char} (h : c ∈ padded width n) :
    isDigit c = true := by
  rcases List.mem_append.1 h with hzero | hdigit
  · rw [List.eq_of_mem_replicate hzero]
    decide
  · exact isDigit_of_mem_decimal hdigit

theorem padded_ne_nil (width n : Nat) : padded width n ≠ [] := by
  simp [padded, decimal_ne_nil]

theorem length_padded (width n : Nat) (hw : 0 < width) (h : n < Nat.pow 10 width) :
    (padded width n).length = width := by
  have := length_decimal_le width n hw h
  simp only [padded, List.length_append, List.length_replicate]
  omega

theorem numberOf_zeros_append (k : Nat) (ds : List Char) :
    numberOf (List.replicate k '0' ++ ds) = numberOf ds := by
  induction k with
  | zero => rfl
  | succ k ih => simpa [numberOf, List.replicate_succ, digitValue] using ih

theorem numberOf_padded (width n : Nat) : numberOf (padded width n) = n := by
  rw [padded, numberOf_zeros_append, numberOf_decimal]

theorem trimStart_of_head {c : Char} (r : List Char) (h : isBlank c = false) :
    trimStart (c :: r) = c :: r := by
  simp [trimStart, h]

theorem trimStart_digits_append {ds : List Char} (r : List Char) (hne : ds ≠ [])
    (hd : ∀ c ∈ ds, isDigit c = true) : trimStart (ds ++ r) = ds ++ r := by
  cases ds with
  | nil => exact absurd rfl hne
  | cons c ds => exact trimStart_of_head (ds ++ r) (isBlank_of_isDigit (hd c (by simp)))

end Text

namespace Rfc3339

open Text

/-- A number of full width is read whatever follows it. -/
theorem readNumber_full (ds r : List Char) (hne : ds ≠ []) (hd : ∀ c ∈ ds, isDigit c = true) :
    readNumber ds.length (ds ++ r) = some (numberOf ds, r) := by
  have htake : ((ds ++ r).take ds.length).takeWhile isDigit = ds := by
    rw [List.take_left]
    simpa using takeWhile_append_of_head (b := []) hd (by simp)
  unfold readNumber
  rw [htake]
  cases ds with
  | nil => exact absurd rfl hne
  | cons c ds => simp

/-- A number of any width is read if no digit follows it. -/
theorem readNumber_any (ds r : List Char) (hne : ds ≠ []) (hd : ∀ c ∈ ds, isDigit c = true)
    (hr : ∀ c ∈ r.head?, isDigit c = false) :
    readNumber (ds ++ r).length (ds ++ r) = some (numberOf ds, r) := by
  have htake : ((ds ++ r).take (ds ++ r).length).takeWhile isDigit = ds := by
    rw [List.take_length]
    exact takeWhile_append_of_head hd hr
  unfold readNumber
  rw [htake]
  cases ds with
  | nil => exact absurd rfl hne
  | cons c ds => simp

theorem readNumber_padded (width n : Nat) (r : List Char) (hw : 0 < width)
    (h : n < Nat.pow 10 width) : readNumber width (padded width n ++ r) = some (n, r) := by
  have hread := readNumber_full (padded width n) r (padded_ne_nil width n)
    (fun _ => isDigit_of_mem_padded)
  rwa [length_padded width n hw h, numberOf_padded] at hread

theorem trimStart_padded_append (width n : Nat) (r : List Char) :
    trimStart (padded width n ++ r) = padded width n ++ r :=
  trimStart_digits_append r (padded_ne_nil width n) (fun _ => isDigit_of_mem_padded)

/-- No digit is a sign, so that the first digit of a year is not taken for one. -/
theorem readYear_digits (ds r : List Char) (hne : ds ≠ []) (hd : ∀ c ∈ ds, isDigit c = true)
    (hlen : ds.length = 4) : readYear (ds ++ r) = some ((numberOf ds : Int), r) := by
  have hread := readNumber_full ds r hne hd
  rw [hlen] at hread
  cases ds with
  | nil => exact absurd rfl hne
  | cons c ds =>
    have hc := hd c (by simp)
    unfold readYear
    split
    · next heq =>
      have : c = '-' := (List.cons.inj heq).1
      subst this
      exact absurd hc (by decide)
    · next heq =>
      have : c = '+' := (List.cons.inj heq).1
      subst this
      exact absurd hc (by decide)
    · rw [hread]
      rfl

theorem readYear_render (year : Int) (r : List Char) (hr : ∀ c ∈ r.head?, isDigit c = false) :
    readYear (renderYear year ++ r) = some (year, r) := by
  unfold renderYear
  split
  · next h =>
    rw [readYear_digits _ r (padded_ne_nil 4 _) (fun _ => isDigit_of_mem_padded)
      (length_padded 4 _ (by decide) (by norm_num; omega)), numberOf_padded]
    congr 2
    omega
  · next h =>
    have hread := readNumber_any (padded 4 year.natAbs) r (padded_ne_nil 4 _)
      (fun _ => isDigit_of_mem_padded) hr
    rw [numberOf_padded] at hread
    split
    · simp only [List.cons_append, readYear, hread, Option.map_some, Option.some.injEq,
        Prod.mk.injEq, and_true]
      omega
    · simp only [List.cons_append, readYear, hread, Option.map_some, Option.some.injEq,
        Prod.mk.injEq, and_true]
      omega

theorem trimStart_renderYear_append (year : Int) (r : List Char) :
    trimStart (renderYear year ++ r) = renderYear year ++ r := by
  unfold renderYear
  split
  · exact trimStart_padded_append 4 _ r
  · split
    · exact trimStart_of_head _ (by decide)
    · exact trimStart_of_head _ (by decide)

theorem readDate_append (d : CalendarDate) (r : List Char) (hmonth : d.month < 100)
    (hday : d.day < 100) :
    readDate (renderYear d.year ++ '-' :: (padded 2 d.month ++ '-' :: (padded 2 d.day ++ r))) =
      some (d, r) := by
  have hyear : readYear (trimStart (renderYear d.year ++
      '-' :: (padded 2 d.month ++ '-' :: (padded 2 d.day ++ r)))) =
        some (d.year, '-' :: (padded 2 d.month ++ '-' :: (padded 2 d.day ++ r))) := by
    rw [trimStart_renderYear_append]
    exact readYear_render d.year _ (by simp; decide)
  have hdash : ∀ cs, readChar '-' (trimStart ('-' :: cs)) = some cs := fun _ => rfl
  have htwo : ∀ n cs, n < 100 → readNumber 2 (trimStart (padded 2 n ++ cs)) = some (n, cs) := by
    intro n cs hn
    rw [trimStart_padded_append]
    exact readNumber_padded 2 n cs (by decide) hn
  simp only [readDate, hyear, Option.bind_eq_bind, Option.bind_some, hdash,
    htwo d.month _ hmonth, htwo d.day _ hday]
  rfl

theorem readFraction_point (k n : Nat) (r : List Char) (hk : 0 < k) (hk' : k ≤ 9)
    (hn : n < Nat.pow 10 k) (hr : ∀ c ∈ r.head?, isDigit c = false) :
    readFraction ('.' :: padded k n ++ r) = some (n * Nat.pow 10 (9 - k), r) := by
  have htake : (padded k n ++ r).takeWhile isDigit = padded k n :=
    takeWhile_append_of_head (fun _ => isDigit_of_mem_padded) hr
  have hlen := length_padded k n hk hn
  simp only [List.cons_append, readFraction, htake]
  split
  · next hnil => exact absurd hnil (padded_ne_nil k n)
  · rw [List.take_of_length_le (by omega), numberOf_padded, List.drop_left, hlen]

/-- Three, six or nine places show the nanoseconds exactly. -/
theorem readFraction_render (nanos : Nat) (r : List Char) (h : nanos < 1000000000)
    (hr : ∀ c ∈ r.head?, isDigit c = false) (hpoint : ∀ c ∈ r.head?, c ≠ '.') :
    readFraction (renderFraction nanos ++ r) = some (nanos, r) := by
  unfold renderFraction
  split
  · next hzero =>
    subst hzero
    cases r with
    | nil => rfl
    | cons c r =>
      have hc := hpoint c (by simp)
      unfold readFraction
      split
      · next heq => exact absurd (List.cons.inj heq).1 hc
      · rfl
  · split
    · next hmilli =>
      rw [readFraction_point 3 (nanos / 1000000) r (by decide) (by decide) (by norm_num; omega) hr]
      congr 2
      norm_num
      omega
    · split
      · next hmicro =>
        rw [readFraction_point 6 (nanos / 1000) r (by decide) (by decide) (by norm_num; omega) hr]
        congr 2
        norm_num
        omega
      · rw [readFraction_point 9 nanos r (by decide) (by decide) (by norm_num; omega) hr]
        congr 2
        norm_num

theorem readClock_append (c : ClockReading) (r : List Char) (hhour : c.hour < 100)
    (hminute : c.minute < 100) (hsecond : c.second < 100) (hnanos : c.nanos < 1000000000)
    (hr : ∀ x ∈ r.head?, isDigit x = false) (hpoint : ∀ x ∈ r.head?, x ≠ '.') :
    readClock (padded 2 c.hour ++ ':' :: (padded 2 c.minute ++ ':' :: (padded 2 c.second ++
      (renderFraction c.nanos ++ r)))) = some (c, r) := by
  have hcolon : ∀ cs, readChar ':' (trimStart (':' :: cs)) = some cs := fun _ => rfl
  have htwo : ∀ n cs, n < 100 → readNumber 2 (trimStart (padded 2 n ++ cs)) = some (n, cs) := by
    intro n cs hn
    rw [trimStart_padded_append]
    exact readNumber_padded 2 n cs (by decide) hn
  simp only [readClock, htwo _ _ hhour, Option.bind_eq_bind, Option.bind_some, hcolon,
    htwo _ _ hminute, htwo _ _ hsecond, readFraction_render c.nanos r hnanos hr hpoint]
  rfl

/-- What the clock shows at an instant. In a leap second it shows second 60. -/
def clockAt (t : Instant) : ClockReading where
  hour := (t.seconds % 86400).toNat / 3600
  minute := (t.seconds % 86400).toNat / 60 % 60
  second := (t.seconds % 86400).toNat % 60 + t.nanos / 1000000000
  nanos := t.nanos % 1000000000

theorem instantOf?_clockAt (t : Instant) :
    instantOf? (CalendarDate.ofDayNumber (t.seconds / 86400)) (clockAt t) 0 = some t := by
  have hfirst := t.first_le
  have hlast := t.le_last
  have hnanos := t.nanos_lt
  have hleap := t.leap_closes_minute
  obtain ⟨hyear, hyear'⟩ := CalendarDate.year_ofDayNumber_bounds (t.seconds / 86400)
    (by omega) (by omega)
  have hclock : (clockAt t).Exists := by
    refine ⟨?_, ?_, ?_⟩ <;> simp only [clockAt] <;> omega
  have hseconds : (t.seconds / 86400) * 86400 + (clockAt t).secondOfDay - 0 = t.seconds := by
    simp only [clockAt, ClockReading.secondOfDay]
    omega
  have hparts : (clockAt t).nanosOfSecond = t.nanos := by
    have hsixty : (clockAt t).second = 60 ↔ 1000000000 ≤ t.nanos := by
      simp only [clockAt]
      omega
    have hrest : (clockAt t).nanos = t.nanos % 1000000000 := rfl
    simp only [ClockReading.nanosOfSecond, hsixty, hrest]
    split <;> omega
  unfold instantOf?
  rw [if_pos ⟨CalendarDate.exists_ofDayNumber _, hyear, hyear', hclock, by decide, by decide⟩,
    CalendarDate.dayNumber_ofDayNumber, hseconds, hparts]
  exact dif_pos ⟨hfirst, hlast, hnanos, hleap⟩

theorem read?_render (t : Instant) : read? (render t) = some t := by
  have hnanos := t.nanos_lt
  obtain ⟨-, hmonth, -, hday⟩ := CalendarDate.exists_ofDayNumber (t.seconds / 86400)
  have hdate := fun r => readDate_append (CalendarDate.ofDayNumber (t.seconds / 86400)) r
    (by omega) (lt_of_le_of_lt hday (CalendarDate.daysInMonth_lt _ _))
  have hclock := readClock_append (clockAt t) ['Z'] (by simp only [clockAt]; omega)
    (by simp only [clockAt]; omega) (by simp only [clockAt]; omega)
    (by simp only [clockAt]; omega) (by simp; decide) (by simp)
  have hrender : render t = renderYear (CalendarDate.ofDayNumber (t.seconds / 86400)).year ++
      '-' :: (padded 2 (CalendarDate.ofDayNumber (t.seconds / 86400)).month ++
      '-' :: (padded 2 (CalendarDate.ofDayNumber (t.seconds / 86400)).day ++
      'T' :: (padded 2 (clockAt t).hour ++ ':' :: (padded 2 (clockAt t).minute ++
      ':' :: (padded 2 (clockAt t).second ++ (renderFraction (clockAt t).nanos ++ ['Z'])))))) := by
    simp [render, clockAt]
  have hoffset : readOffset (trimStart ['Z']) = some (0, []) := by decide
  rw [hrender]
  simp only [read?, hdate, Option.bind_eq_bind, Option.bind_some, true_or, if_true, hclock, hoffset]
  exact instantOf?_clockAt t

end Rfc3339

end TokenAuth
