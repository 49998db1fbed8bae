import TokenAuth.Json.Record

/-!
Readers of JSON take what they read from the front of their text and leave a tail of it. So a record is
read from places within one text, and what each field keeps there the whole record keeps.
-/
namespace TokenAuth.Json

open Text

variable {α β σ δ : Type}

theorem map_eq_ok_iff {e : Except Fault α} {f : α → β} {b : β} :
    e.map f = .ok b ↔ ∃ a, e = .ok a ∧ f a = b := by
  cases e <;> simp [Except.map]

theorem bind_eq_ok_iff {e : Except Fault α} {f : α → Except Fault β} {b : β} :
    e >>= f = .ok b ↔ ∃ a, e = .ok a ∧ f a = .ok b := by
  cases e <;> simp [bind, Except.bind]

theorem skipSpaces_suffix (cs : List Char) : skipSpaces cs <:+ cs := List.dropWhile_suffix _

/-- What follows the first character that is no space. -/
theorem suffix_of_skipSpaces {cs r : List Char} {c : Char} (h : skipSpaces cs = c :: r) : r <:+ cs := by
  have hskip := skipSpaces_suffix cs
  rw [h] at hskip
  exact (List.suffix_cons c r).trans hskip

theorem readLiteral_suffix {es cs r : List Char} (h : readLiteral es cs = .ok ((), r)) : r <:+ cs := by
  fun_induction readLiteral es cs with
  | case1 cs =>
    obtain rfl : cs = r := by simpa using h
    exact List.suffix_refl _
  | case2 => simp at h
  | case3 e es cs' ih => exact (ih h).trans (List.suffix_cons _ _)
  | case4 => simp at h

theorem readColon_suffix {cs r : List Char} (h : readColon cs = .ok r) : r <:+ cs := by
  unfold readColon at h
  split at h
  · simp at h
  · next c r' hskip =>
    split at h
    · rw [← Except.ok.inj h]
      exact suffix_of_skipSpaces hskip
    · simp at h

theorem readHex4_suffix {cs r : List Char} {n : Nat} (h : readHex4 cs = .ok (n, r)) : r <:+ cs := by
  unfold readHex4 at h
  split at h
  · simp at h
  · split at h
    · next a b c d r' _ =>
      split at h
      · rw [← (Prod.mk.inj (Except.ok.inj h)).2]
        exact List.suffix_append [a, b, c, d] r'
      · simp at h
    · simp at h

theorem readLowSurrogate_suffix {high : Nat} {cs r : List Char} {c : Char}
    (h : readLowSurrogate high cs = .ok (c, r)) : r <:+ cs := by
  unfold readLowSurrogate at h
  split at h
  · simp at h
  · simp at h
  · next r' =>
    split at h
    · simp at h
    · next low r'' hlow =>
      split at h
      · rw [← (Prod.mk.inj (Except.ok.inj h)).2]
        exact (readHex4_suffix hlow).trans (List.suffix_append ['\\', 'u'] r')
      · simp at h
  · simp at h

theorem readEscape_suffix {cs r : List Char} {c : Char} (h : readEscape cs = .ok (c, r)) :
    r <:+ cs := by
  unfold readEscape at h
  split at h
  case h_1 => simp at h
  case h_11 => simp at h
  case h_10 r' =>
    split at h
    · simp at h
    · next n r'' hn =>
      have htail : r'' <:+ 'u' :: r' := (readHex4_suffix hn).trans (List.suffix_cons _ _)
      split at h
      · rw [← (Prod.mk.inj (Except.ok.inj h)).2]
        exact htail
      · split at h
        · exact (readLowSurrogate_suffix h).trans htail
        · simp at h
  all_goals
    rw [← (Prod.mk.inj (Except.ok.inj h)).2]
    exact List.suffix_cons _ _

theorem skipEscape_suffix {cs r : List Char} (h : skipEscape cs = .ok r) : r <:+ cs := by
  unfold skipEscape at h
  split at h
  · simp at h
  · next r' =>
    obtain ⟨⟨n, r''⟩, hn, rfl⟩ := map_eq_ok_iff.1 h
    exact (readHex4_suffix hn).trans (List.suffix_cons _ _)
  · split at h
    · rw [← Except.ok.inj h]
      exact List.suffix_cons _ _
    · simp at h

theorem readQuoted_suffix {cs t r : List Char} (h : readQuoted cs = .ok (t, r)) : r <:+ cs := by
  fun_induction readQuoted cs generalizing t r with
  | case1 => simp at h
  | case2 cs =>
    rw [← (Prod.mk.inj (Except.ok.inj h)).2]
    exact List.suffix_cons _ _
  | case3 => simp at h
  | case4 cs c r' hescape ih =>
    obtain ⟨⟨t', r''⟩, hrest, hsame⟩ := map_eq_ok_iff.1 h
    rw [← (Prod.mk.inj hsame).2]
    exact ((ih hrest).trans (readEscape_suffix hescape)).trans (List.suffix_cons _ _)
  | case5 => simp at h
  | case6 c cs _ _ _ ih =>
    obtain ⟨⟨t', r''⟩, hrest, hsame⟩ := map_eq_ok_iff.1 h
    rw [← (Prod.mk.inj hsame).2]
    exact (ih hrest).trans (List.suffix_cons _ _)

theorem skipQuoted_suffix {cs r : List Char} (h : skipQuoted cs = .ok r) : r <:+ cs := by
  fun_induction skipQuoted cs with
  | case1 => simp at h
  | case2 cs =>
    rw [← Except.ok.inj h]
    exact List.suffix_cons _ _
  | case3 => simp at h
  | case4 cs r' hescape ih =>
    exact ((ih h).trans (skipEscape_suffix hescape)).trans (List.suffix_cons _ _)
  | case5 => simp at h
  | case6 c cs _ _ _ ih => exact (ih h).trans (List.suffix_cons _ _)

theorem readDigits_suffix {cs ds r : List Char} (h : readDigits cs = .ok (ds, r)) : r <:+ cs := by
  unfold readDigits at h
  split at h
  · simp at h
  · rw [← (Prod.mk.inj (Except.ok.inj h)).2]
    exact List.drop_suffix _ _

theorem readWhole_suffix {cs ds r : List Char} (h : readWhole cs = .ok (ds, r)) : r <:+ cs := by
  unfold readWhole at h
  split at h
  · split at h
    · simp at h
    · rw [← (Prod.mk.inj (Except.ok.inj h)).2]
      exact List.suffix_cons _ _
  · exact readDigits_suffix h

theorem readFraction_suffix {cs ds r : List Char} (h : readFraction cs = .ok (ds, r)) : r <:+ cs := by
  unfold readFraction at h
  split at h
  · exact (readDigits_suffix h).trans (List.suffix_cons _ _)
  · obtain ⟨-, rfl⟩ := Prod.mk.inj (Except.ok.inj h)
    exact List.suffix_refl _

theorem readExponent_suffix {cs r : List Char} {e : Option (Bool × List Char)}
    (h : readExponent cs = .ok (e, r)) : r <:+ cs := by
  unfold readExponent at h
  split at h
  · next c r' =>
    split at h
    · obtain ⟨⟨ds, r''⟩, hdigits, hsame⟩ := map_eq_ok_iff.1 h
      rw [← (Prod.mk.inj hsame).2]
      refine (readDigits_suffix hdigits).trans (List.IsSuffix.trans ?_ (List.suffix_cons c r'))
      split
      · exact List.suffix_cons _ _
      · exact List.suffix_cons _ _
      · exact List.suffix_refl _
    · obtain ⟨-, rfl⟩ := Prod.mk.inj (Except.ok.inj h)
      exact List.suffix_refl _
  · obtain ⟨-, rfl⟩ := Prod.mk.inj (Except.ok.inj h)
    exact List.suffix_refl _

theorem readNumberText_suffix {cs r : List Char} {t : NumberText}
    (h : readNumberText cs = .ok (t, r)) : r <:+ cs := by
  unfold readNumberText at h
  obtain ⟨⟨whole, r₁⟩, hwhole, h⟩ := bind_eq_ok_iff.1 h
  obtain ⟨⟨fraction, r₂⟩, hfraction, h⟩ := bind_eq_ok_iff.1 h
  obtain ⟨⟨exponent, r₃⟩, hexponent, h⟩ := bind_eq_ok_iff.1 h
  rw [← (Prod.mk.inj (Except.ok.inj h)).2]
  have htail := ((readExponent_suffix hexponent).trans (readFraction_suffix hfraction)).trans
    (readWhole_suffix hwhole)
  refine htail.trans ?_
  split
  · exact List.suffix_cons _ _
  · exact List.suffix_refl _

theorem readNumber_suffix {cs r : List Char} {n : Number} (h : readNumber cs = .ok (n, r)) :
    r <:+ cs := by
  unfold readNumber at h
  split at h
  · simp at h
  · next t r' ht =>
    split at h
    · rw [← (Prod.mk.inj (Except.ok.inj h)).2]
      exact readNumberText_suffix ht
    · simp at h

theorem skipNumber_suffix {cs r : List Char} (h : skipNumber cs = .ok r) : r <:+ cs := by
  unfold skipNumber at h
  split at h
  · simp at h
  · next t r' ht =>
    rw [← Except.ok.inj h]
    exact readNumberText_suffix ht

theorem skipScalar_suffix {cs r : List Char} (h : skipScalar cs = .ok r) : r <:+ cs := by
  have hliteral : ∀ {es c r'}, (readLiteral es r').map (·.2) = .ok r → r <:+ c :: r' := by
    intro es c r' hmap
    obtain ⟨⟨⟨⟩, r''⟩, hread, rfl⟩ := map_eq_ok_iff.1 hmap
    exact (readLiteral_suffix hread).trans (List.suffix_cons _ _)
  unfold skipScalar at h
  split at h
  · simp at h
  · exact hliteral h
  · exact hliteral h
  · exact hliteral h
  · exact (skipQuoted_suffix h).trans (List.suffix_cons _ _)
  · split at h
    · exact skipNumber_suffix h
    · simp at h

/-- Wherever in the text it stands, the reader leaves a tail and keeps what holds of its state. -/
def Keeps (text : List Char) (P : σ → Prop) (read : σ → Reader σ) : Prop :=
  ∀ ⦃s s' : σ⦄ ⦃cs r : List Char⦄, cs <:+ text → P s → read s cs = .ok (s', r) → r <:+ cs ∧ P s'

section

variable {text : List Char} {P : σ → Prop} {read : σ → Reader σ}

/-- A field takes what its reader has read into the state. -/
theorem keeps_field {value : Reader β} {set : σ → β × List Char → σ}
    (h : ∀ {s b cs r}, cs <:+ text → P s → value cs = .ok (b, r) → r <:+ cs ∧ P (set s (b, r))) :
    Keeps text P fun s cs => (value cs).map fun p => (set s p, p.2) := by
  intro s s' cs r hcs hs hread
  obtain ⟨⟨b, r'⟩, hvalue, hsame⟩ := map_eq_ok_iff.1 hread
  obtain ⟨rfl, rfl⟩ := Prod.mk.inj hsame
  exact h hcs hs hvalue

theorem readElementsFrom_keeps (h : Keeps text P read) (fuel : Nat) :
    Keeps text P (readElementsFrom read fuel) := by
  intro s s' cs r hcs hs hread
  fun_induction readElementsFrom read fuel s cs with
  | case1 => simp at hread
  | case2 => simp at hread
  | case3 fuel s cs r' hskip =>
    obtain ⟨rfl, rfl⟩ := Prod.mk.inj (Except.ok.inj hread)
    exact ⟨suffix_of_skipSpaces hskip, hs⟩
  | case4 => simp at hread
  | case5 => simp at hread
  | case6 => simp at hread
  | case7 fuel s cs r' hskip hnil hclose s₁ r₁ hfirst ih =>
    have hafter := (skipSpaces_suffix r').trans (suffix_of_skipSpaces hskip)
    obtain ⟨htail, hs₁⟩ := h (hafter.trans hcs) hs hfirst
    obtain ⟨htail', hs'⟩ := ih ((htail.trans hafter).trans hcs) hs₁ hread
    exact ⟨(htail'.trans htail).trans hafter, hs'⟩
  | case8 => simp at hread

theorem readElements_keeps (h : Keeps text P read) : Keeps text P (readElements read) := by
  intro s s' cs r hcs hs hread
  unfold readElements at hread
  split at hread
  · simp at hread
  · next r' hskip =>
    obtain ⟨rfl, rfl⟩ := Prod.mk.inj (Except.ok.inj hread)
    exact ⟨suffix_of_skipSpaces hskip, hs⟩
  · split at hread
    · simp at hread
    · next s₁ r₁ hfirst =>
      have hskip := skipSpaces_suffix cs
      obtain ⟨htail, hs₁⟩ := h (hskip.trans hcs) hs hfirst
      obtain ⟨htail', hs'⟩ := readElementsFrom_keeps h _ ((htail.trans hskip).trans hcs) hs₁ hread
      exact ⟨(htail'.trans htail).trans hskip, hs'⟩

theorem readMembersFrom_keeps (h : Keeps text P read) (fuel : Nat) :
    Keeps text P (readMembersFrom read fuel) := by
  intro s s' cs r hcs hs hread
  fun_induction readMembersFrom read fuel s cs with
  | case1 => simp at hread
  | case2 => simp at hread
  | case3 fuel s cs r' hskip =>
    obtain ⟨rfl, rfl⟩ := Prod.mk.inj (Except.ok.inj hread)
    exact ⟨suffix_of_skipSpaces hskip, hs⟩
  | case4 => simp at hread
  | case5 => simp at hread
  | case6 fuel s cs r' hskip r'' hquote s₁ r₁ hfirst ih =>
    have hafter := (suffix_of_skipSpaces hquote).trans (suffix_of_skipSpaces hskip)
    obtain ⟨htail, hs₁⟩ := h (hafter.trans hcs) hs hfirst
    obtain ⟨htail', hs'⟩ := ih ((htail.trans hafter).trans hcs) hs₁ hread
    exact ⟨(htail'.trans htail).trans hafter, hs'⟩
  | case7 => simp at hread
  | case8 => simp at hread

theorem readMembers_keeps (h : Keeps text P read) : Keeps text P (readMembers read) := by
  intro s s' cs r hcs hs hread
  unfold readMembers at hread
  split at hread
  · simp at hread
  · next r' hskip =>
    obtain ⟨rfl, rfl⟩ := Prod.mk.inj (Except.ok.inj hread)
    exact ⟨suffix_of_skipSpaces hskip, hs⟩
  · next r' hskip =>
    split at hread
    · simp at hread
    · next s₁ r₁ hfirst =>
      have hafter := suffix_of_skipSpaces hskip
      obtain ⟨htail, hs₁⟩ := h (hafter.trans hcs) hs hfirst
      obtain ⟨htail', hs'⟩ := readMembersFrom_keeps h _ ((htail.trans hafter).trans hcs) hs₁ hread
      exact ⟨(htail'.trans htail).trans hafter, hs'⟩
  · simp at hread

end

theorem skipTo_suffix (depth : Nat) {cs r : List Char} (h : skipTo depth cs = .ok ((), r)) :
    r <:+ cs := by
  induction depth generalizing cs r with
  | zero => simp [skipTo] at h
  | succ depth ih =>
    unfold skipTo at h
    split at h
    · next r' hskip =>
      have hkeeps : Keeps r' (fun _ => True) fun _ : Unit => skipTo depth :=
        fun _ _ _ _ _ _ hread => ⟨ih hread, trivial⟩
      obtain ⟨htail, -⟩ := readElements_keeps hkeeps (List.suffix_refl _) trivial h
      exact htail.trans (suffix_of_skipSpaces hskip)
    · next r' hskip =>
      have hkeeps : Keeps r' (fun _ => True) (fun (_ : Unit) r => do
          let r ← skipQuoted r
          let r ← readColon r
          skipTo depth r) := by
        intro _ _ _ _ _ _ hread
        obtain ⟨r₁, hname, hread⟩ := bind_eq_ok_iff.1 hread
        obtain ⟨r₂, hcolon, hread⟩ := bind_eq_ok_iff.1 hread
        exact ⟨((ih hread).trans (readColon_suffix hcolon)).trans (skipQuoted_suffix hname), trivial⟩
      obtain ⟨htail, -⟩ := readMembers_keeps hkeeps (List.suffix_refl _) trivial h
      exact htail.trans (suffix_of_skipSpaces hskip)
    · obtain ⟨r', hscalar, hsame⟩ := map_eq_ok_iff.1 h
      rw [← (Prod.mk.inj hsame).2]
      exact (skipScalar_suffix hscalar).trans (skipSpaces_suffix cs)

theorem skipValue_suffix {cs r : List Char} (h : skipValue cs = .ok r) : r <:+ cs := by
  obtain ⟨⟨⟨⟩, r'⟩, hread, rfl⟩ := map_eq_ok_iff.1 h
  exact skipTo_suffix _ hread

/-- What is of the wrong type is not read. -/
theorem refuse_ne_ok (cs : List Char) (a : α) : refuse cs ≠ .ok a := by
  unfold refuse
  split
  · simp
  · split
    · simp
    · split <;> simp

/-- A string stands in the text: behind one of its quotes it is read. -/
def Quotes (text : List Char) (s : String) : Prop :=
  ∃ r r', '"' :: r <:+ text ∧ readQuoted r = .ok (s.toList, r')

theorem Quotes.of_suffix {cs text : List Char} {s : String} (h : Quotes cs s) (hcs : cs <:+ text) :
    Quotes text s := by
  obtain ⟨r, r', hr, hread⟩ := h
  exact ⟨r, r', hr.trans hcs, hread⟩

/-- A value that is made of a string in the text. -/
def Made (construct : String → Option α) (text : List Char) (a : α) : Prop :=
  ∃ s, Quotes text s ∧ construct s = some a

theorem Made.of_suffix {construct : String → Option α} {cs text : List Char} {a : α}
    (h : Made construct cs a) (hcs : cs <:+ text) : Made construct text a := by
  obtain ⟨s, hquotes, hmade⟩ := h
  exact ⟨s, hquotes.of_suffix hcs, hmade⟩

section

variable {text cs r : List Char} {s : String} {construct : String → Option α} {a : α}

theorem quotes_of_readText (hcs : cs <:+ text) (h : readText cs = .ok (s, r)) :
    r <:+ cs ∧ Quotes text s := by
  unfold readText at h
  split at h
  · next r' hskip =>
    obtain ⟨⟨t, r''⟩, hread, hsame⟩ := map_eq_ok_iff.1 h
    obtain ⟨rfl, rfl⟩ := Prod.mk.inj hsame
    refine ⟨(readQuoted_suffix hread).trans (suffix_of_skipSpaces hskip), r', r'', ?_, ?_⟩
    · rw [← hskip]
      exact (skipSpaces_suffix cs).trans hcs
    · rw [hread, String.toList_ofList]
  · exact absurd h (refuse_ne_ok _ _)

theorem quotes_of_readOptionalText {s : Option String} (hcs : cs <:+ text)
    (h : readOptionalText cs = .ok (s, r)) : r <:+ cs ∧ ∀ t, s = some t → Quotes text t := by
  have hskip := skipSpaces_suffix cs
  unfold readOptionalText at h
  split at h
  · next r' heq =>
    obtain ⟨⟨⟨⟩, r''⟩, hread, hsame⟩ := map_eq_ok_iff.1 h
    obtain ⟨rfl, rfl⟩ := Prod.mk.inj hsame
    exact ⟨(readLiteral_suffix hread).trans (suffix_of_skipSpaces heq), by simp⟩
  · obtain ⟨⟨t, r''⟩, hread, hsame⟩ := map_eq_ok_iff.1 h
    obtain ⟨rfl, rfl⟩ := Prod.mk.inj hsame
    obtain ⟨htail, hquotes⟩ := quotes_of_readText (hskip.trans hcs) hread
    refine ⟨htail.trans hskip, ?_⟩
    rintro _ ⟨⟩
    exact hquotes

theorem made_of_readVia (hcs : cs <:+ text) (h : readVia construct cs = .ok (a, r)) :
    r <:+ cs ∧ Made construct text a := by
  unfold readVia at h
  split at h
  · simp at h
  · next s r' hread =>
    obtain ⟨htail, hquotes⟩ := quotes_of_readText hcs hread
    split at h
    · next a' hmade =>
      obtain ⟨rfl, rfl⟩ := Prod.mk.inj (Except.ok.inj h)
      exact ⟨htail, s, hquotes, hmade⟩
    · simp at h

/-- A name is made of a string, whether it stands alone or as the member of an object. -/
theorem made_of_readName (h : readName construct text = .ok (a, r)) : Made construct text a := by
  unfold readName at h
  split at h
  · simp at h
  · next r' hskip =>
    have hquote := skipSpaces_suffix text
    rw [hskip] at hquote
    exact (made_of_readVia hquote h).2
  · next r' hskip =>
    split at h
    · simp at h
    · next a' r'' hvia =>
      obtain ⟨-, hmade⟩ := made_of_readVia (suffix_of_skipSpaces hskip) hvia
      obtain ⟨r₁, -, h⟩ := bind_eq_ok_iff.1 h
      obtain ⟨r₂, -, h⟩ := bind_eq_ok_iff.1 h
      split at h
      · simp at h
      · split at h
        · rw [← (Prod.mk.inj (Except.ok.inj h)).1]
          exact hmade
        · simp at h
  · simp at h

end

theorem readInt64_suffix {cs r : List Char} {n : Int64} (h : readInt64 cs = .ok (n, r)) :
    r <:+ cs := by
  unfold readInt64 at h
  split at h
  · simp at h
  · next c r' hskip =>
    split at h
    · split at h
      · simp at h
      · next m r'' hnumber =>
        split at h
        · rw [← (Prod.mk.inj (Except.ok.inj h)).2]
          refine (readNumber_suffix hnumber).trans ?_
          rw [← hskip]
          exact skipSpaces_suffix cs
        · simp at h
      · simp at h
    · exact absurd h (refuse_ne_ok _ _)

section

variable {text : List Char} {P : δ → Prop} {fields : List (Field δ)}

theorem readMember_keeps (h : ∀ f ∈ fields, Keeps text P f.read) :
    Keeps text P (readMember fields) := by
  intro d d' cs r hcs hd hread
  unfold readMember at hread
  split at hread
  · simp at hread
  · next name r₁ hname =>
    have hbehind := readQuoted_suffix hname
    split at hread
    · next f hf =>
      split at hread
      · simp at hread
      · obtain ⟨r₂, hcolon, hread⟩ := bind_eq_ok_iff.1 hread
        have hvalue := (readColon_suffix hcolon).trans hbehind
        obtain ⟨htail, hd'⟩ := h f (List.mem_of_find?_eq_some hf) (hvalue.trans hcs) hd hread
        exact ⟨htail.trans hvalue, hd'⟩
    · obtain ⟨r₂, hcolon, hread⟩ := bind_eq_ok_iff.1 hread
      obtain ⟨r₃, hskip, hread⟩ := bind_eq_ok_iff.1 hread
      obtain ⟨rfl, rfl⟩ := Prod.mk.inj (Except.ok.inj hread)
      exact ⟨((skipValue_suffix hskip).trans (readColon_suffix hcolon)).trans hbehind, hd⟩

theorem readInOrder_keeps (isFirst : Bool) (h : ∀ f ∈ fields, Keeps text P f.read) :
    Keeps text P (readInOrder isFirst fields) := by
  intro d d' cs r hcs hd hread
  induction fields generalizing isFirst d cs with
  | nil =>
    obtain ⟨rfl, rfl⟩ := Prod.mk.inj (Except.ok.inj hread)
    exact ⟨List.suffix_refl _, hd⟩
  | cons f fs ih =>
    -- With or without a comma before it, the field is read first and then those after it.
    have hnext : ∀ {r₁}, r₁ <:+ cs →
        (f.read d r₁ >>= fun p => readInOrder false fs p.1 p.2) = .ok (d', r) →
          r <:+ cs ∧ P d' := by
      intro r₁ hr₁ hread
      obtain ⟨⟨d₁, r₂⟩, hfirst, hread⟩ := bind_eq_ok_iff.1 hread
      obtain ⟨htail, hd₁⟩ := h f List.mem_cons_self (hr₁.trans hcs) hd hfirst
      have hr₂ := htail.trans hr₁
      obtain ⟨htail', hd'⟩ := ih false (fun g hg => h g (List.mem_cons_of_mem f hg))
        (hr₂.trans hcs) hd₁ hread
      exact ⟨htail'.trans hr₂, hd'⟩
    unfold readInOrder at hread
    have hskip := skipSpaces_suffix cs
    split at hread
    · simp at hread
    · next c r₁ heq =>
      rw [heq] at hskip
      split at hread
      · obtain ⟨rfl, rfl⟩ := Prod.mk.inj (Except.ok.inj hread)
        exact ⟨hskip, hd⟩
      · split at hread
        · exact hnext hskip hread
        · split at hread
          · split at hread
            · simp at hread
            · simp at hread
            · exact hnext ((skipSpaces_suffix r₁).trans (suffix_of_skipSpaces heq)) hread
          · simp at hread

theorem closeArray_suffix {cs r : List Char} (h : closeArray cs = .ok r) : r <:+ cs := by
  unfold closeArray at h
  split at h
  · simp at h
  · next c r' hskip =>
    split at h
    · rw [← Except.ok.inj h]
      exact suffix_of_skipSpaces hskip
    · simp at h

/-- A record is finished from a draft that has what the first one had and every field keeps. -/
theorem readRecord_keeps {finish : δ → Option α} {d : δ} {r : List Char} {a : α}
    (h : ∀ f ∈ fields, Keeps text P f.read) (hd : P d)
    (hread : readRecord fields d finish text = .ok (a, r)) :
    r <:+ text ∧ ∃ d', P d' ∧ finish d' = some a := by
  unfold readRecord at hread
  split at hread
  · next r' hskip =>
    have hopen := suffix_of_skipSpaces hskip
    split at hread
    · simp at hread
    · next d' r'' hmembers =>
      obtain ⟨htail, hd'⟩ := readMembers_keeps (readMember_keeps h) hopen hd hmembers
      split at hread
      · next a' hfinish =>
        obtain ⟨rfl, rfl⟩ := Prod.mk.inj (Except.ok.inj hread)
        exact ⟨htail.trans hopen, d', hd', hfinish⟩
      · simp at hread
  · next r' hskip =>
    have hopen := suffix_of_skipSpaces hskip
    split at hread
    · simp at hread
    · next d' r'' hfields =>
      obtain ⟨htail, hd'⟩ := readInOrder_keeps true h hopen hd hfields
      split at hread
      · next a' hfinish =>
        obtain ⟨r₃, hclose, hsame⟩ := map_eq_ok_iff.1 hread
        obtain ⟨rfl, rfl⟩ := Prod.mk.inj hsame
        exact ⟨((closeArray_suffix hclose).trans htail).trans hopen, d', hd', hfinish⟩
      · simp at hread
  · exact absurd hread (refuse_ne_ok _ _)

end

end TokenAuth.Json
