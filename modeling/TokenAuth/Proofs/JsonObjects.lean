import TokenAuth.Content.Record
import TokenAuth.Json.Record
import TokenAuth.Proofs.JsonValues

/-!
Objects that are written are read back member by member. Each member takes the state of the reader one
step further, whatever comes after it; the steps of all members together are the reading of the object.
Reading with no type in mind gives the members in their order, and a record of them takes each field.
-/
namespace TokenAuth.Json

open Text

variable {σ : Type}

/-- What may follow the value of a member: the next member or the end of the object. -/
def EndsMember (r : List Char) : Prop := ∃ c t, r = c :: t ∧ (c = ',' ∨ c = '}')

theorem EndsMember.endsNumber {r : List Char} (h : EndsMember r) : EndsNumber r := by
  obtain ⟨c, t, rfl, rfl | rfl⟩ := h
  · exact ⟨',', t, rfl, by decide, by decide, by decide, by decide⟩
  · exact ⟨'}', t, rfl, by decide, by decide, by decide, by decide⟩

/-- The members lead a reader from one state to another. A reader of members starts behind the opening
quote of the name. -/
inductive Leads (member : σ → Reader σ) : σ → List (String × List Char) → σ → Prop
  | done (s : σ) : Leads member s [] s
  | next {s t u : σ} {m : String × List Char} {ms : List (String × List Char)}
      (hread : ∀ r, EndsMember r →
        member s (m.1.toList.flatMap escape ++ '"' :: ':' :: (m.2 ++ r)) = .ok (t, r))
      (hrest : Leads member t ms u) : Leads member s (m :: ms) u

/-- The members after the first one, as they stand in the text. -/
def renderRest : List (String × List Char) → List Char
  | [] => []
  | m :: ms => ',' :: renderMember m ++ renderRest ms

theorem renderMembers_cons (m : String × List Char) (ms : List (String × List Char)) :
    renderMembers (m :: ms) = renderMember m ++ renderRest ms := by
  induction ms generalizing m with
  | nil => simp [renderMembers, renderRest]
  | cons n ms ih => simp [renderMembers, renderRest, ih]

theorem length_le_renderRest (ms : List (String × List Char)) :
    ms.length ≤ (renderRest ms).length := by
  induction ms with
  | nil => simp [renderRest]
  | cons m ms ih =>
    simp only [renderRest, List.length_cons, List.length_append]
    omega

theorem endsMember_renderRest (ms : List (String × List Char)) (r : List Char) :
    EndsMember (renderRest ms ++ '}' :: r) := by
  cases ms with
  | nil => exact ⟨'}', r, rfl, Or.inr rfl⟩
  | cons m ms => exact ⟨',', renderMember m ++ renderRest ms ++ '}' :: r, rfl, Or.inl rfl⟩

theorem renderMember_append (m : String × List Char) (r : List Char) :
    renderMember m ++ r = '"' :: (m.1.toList.flatMap escape ++ '"' :: ':' :: (m.2 ++ r)) := by
  simp [renderMember, quoted]

theorem renderText_append (s : String) (r : List Char) :
    renderText s ++ r = '"' :: (s.toList.flatMap escape ++ '"' :: r) := by
  simp [renderText, quoted]

theorem readMembersFrom_renderRest (member : σ → Reader σ) {s t : σ}
    {ms : List (String × List Char)} (h : Leads member s ms t) (fuel : Nat) (r : List Char)
    (hfuel : ms.length < fuel) :
    readMembersFrom member fuel s (renderRest ms ++ '}' :: r) = .ok (t, r) := by
  induction h generalizing fuel with
  | done s =>
    cases fuel with
    | zero => exact absurd hfuel (by simp)
    | succ fuel => rfl
  | @next s t u m ms hread _ ih =>
    cases fuel with
    | zero => exact absurd hfuel (by simp)
    | succ fuel =>
      have hm := hread (renderRest ms ++ '}' :: r) (endsMember_renderRest ms r)
      have hrest := ih fuel (by simpa using hfuel)
      have hcomma : ∀ cs, skipSpaces (',' :: cs) = ',' :: cs := fun _ => rfl
      have hquote : ∀ cs, skipSpaces ('"' :: cs) = '"' :: cs := fun _ => rfl
      simp only [renderRest, List.cons_append, List.append_assoc, renderMember_append,
        readMembersFrom, hcomma, hquote, hm, hrest]

/-- An object is read back if its members lead from the first state to the last. -/
theorem readMembers_renderMembers (member : σ → Reader σ) {s t : σ}
    {ms : List (String × List Char)} (h : Leads member s ms t) (r : List Char) :
    readMembers member s (renderMembers ms ++ '}' :: r) = .ok (t, r) := by
  cases h with
  | done => rfl
  | @next _ t' _ m ms hread hrest =>
    have hm := hread (renderRest ms ++ '}' :: r) (endsMember_renderRest ms r)
    have hquote : ∀ cs, skipSpaces ('"' :: cs) = '"' :: cs := fun _ => rfl
    rw [renderMembers_cons, List.append_assoc, renderMember_append]
    simp only [readMembers, hquote, hm]
    apply readMembersFrom_renderRest member hrest
    have := length_le_renderRest ms
    simp only [List.length_cons, List.length_append]
    omega

theorem readColon_cons (r : List Char) : readColon (':' :: r) = .ok r := rfl

/-- A text is written for this value: it is read as the value at a depth, whatever ends the member. -/
def Writes (depth : Nat) (text : List Char) (c : Content) : Prop :=
  ∀ r, EndsMember r → readContent depth (text ++ r) = .ok (c, r)

/-- Where no array and no object begins, a value is read as a scalar. -/
theorem readContent_scalar (depth : Nat) {c : Char} (r : List Char) (hspace : isSpace c = false)
    (hlist : c ≠ '[') (hmap : c ≠ '{') : readContent depth (c :: r) = readScalar (c :: r) := by
  cases depth with
  | zero => simp only [readContent, skipSpaces_cons r hspace]
  | succ depth =>
    simp only [readContent, skipSpaces_cons r hspace]
    split
    · next heq => exact absurd (List.cons.inj heq).1 hlist
    · next heq => exact absurd (List.cons.inj heq).1 hmap
    · rfl

theorem writes_text (depth : Nat) (s : String) : Writes depth (renderText s) (.text s) := by
  intro r _
  have hread := readQuoted_flatMap_escape s.toList r
  rw [renderText_append, readContent_scalar depth _ (by decide) (by decide) (by decide)]
  simp [readScalar, hread, Except.map]

theorem readScalar_number {c : Char} (r : List Char) (h : startsNumber c = true) :
    readScalar (c :: r) = (readNumber (c :: r)).map fun p => (p.1.content, p.2) := by
  obtain ⟨-, hn, ht, hf, hquote, -, -⟩ := startsNumber_facts h
  unfold readScalar
  split
  · next heq => simp at heq
  · next heq => exact absurd (List.cons.inj heq).1 hn
  · next heq => exact absurd (List.cons.inj heq).1 ht
  · next heq => exact absurd (List.cons.inj heq).1 hf
  · next heq => exact absurd (List.cons.inj heq).1 hquote
  · next heq =>
    obtain ⟨rfl, rfl⟩ := List.cons.inj heq
    rw [if_pos h]

theorem writes_int (depth : Nat) (n : Int) (hlow : -9223372036854775808 ≤ n)
    (hhigh : n ≤ 18446744073709551615) : Writes depth (renderInt n) (.whole n) := by
  intro r hr
  have hread := readNumber_renderInt n hlow hhigh hr.endsNumber
  obtain ⟨c, t, htext, hstart⟩ := exists_renderInt n
  obtain ⟨hspace, -, -, -, -, hlist, hmap⟩ := startsNumber_facts hstart
  rw [htext, List.cons_append] at hread ⊢
  rw [readContent_scalar depth _ hspace hlist hmap, readScalar_number _ hstart, hread]
  rfl

/-- Members and the values they are written for. -/
def WritesMembers (depth : Nat) (ms : List (String × List Char))
    (entries : List (String × Content)) : Prop :=
  List.Forall₂ (fun m e => m.1 = e.1 ∧ Writes depth m.2 e.2) ms entries

theorem WritesMembers.leads {depth : Nat} {ms : List (String × List Char)}
    {entries : List (String × Content)} (h : WritesMembers depth ms entries)
    (before : List (String × Content)) :
    Leads (readEntry (readContent depth)) before ms (entries.reverse ++ before) := by
  induction h generalizing before with
  | nil => exact Leads.done before
  | @cons m e ms entries hm _ ih =>
    obtain ⟨hname, hvalue⟩ := hm
    have hnext := ih (e :: before)
    rw [List.reverse_cons, List.append_assoc]
    refine Leads.next ?_ hnext
    intro r hr
    have hread := readQuoted_flatMap_escape e.1.toList (':' :: (m.2 ++ r))
    rw [hname]
    simp only [readEntry, bind, Except.bind, hread, readColon_cons, hvalue r hr, pure, Except.pure,
      String.ofList_toList]

theorem writes_object {depth : Nat} {ms : List (String × List Char)}
    {entries : List (String × Content)} (h : WritesMembers depth ms entries) :
    Writes (depth + 1) (renderObject ms) (.map (entries.map fun e => (.text e.1, e.2))) := by
  intro r _
  have hread := readMembers_renderMembers _ (h.leads []) r
  have htext : renderObject ms ++ r = '{' :: (renderMembers ms ++ '}' :: r) := by
    simp [renderObject]
  have hbrace : ∀ cs, skipSpaces ('{' :: cs) = '{' :: cs := fun _ => rfl
  rw [htext]
  simp only [readContent, hbrace, bind, Except.bind, hread, pure, Except.pure, List.append_nil,
    List.reverse_reverse]

/-- An object alone in its text gives its members. -/
theorem entries?_renderObject {ms : List (String × List Char)} {entries : List (String × Content)}
    (h : WritesMembers (depthLimit - 1) ms entries) : entries? (renderObject ms) = some entries := by
  have hread := readMembers_renderMembers _ (h.leads []) []
  have htext : renderObject ms = '{' :: (renderMembers ms ++ ['}']) := rfl
  have hbrace : ∀ cs, skipSpaces ('{' :: cs) = '{' :: cs := fun _ => rfl
  have hnil : skipSpaces [] = [] := rfl
  rw [htext]
  simp only [entries?, readAll, hbrace, hread, hnil, if_true, List.append_nil, List.reverse_reverse]

end TokenAuth.Json
