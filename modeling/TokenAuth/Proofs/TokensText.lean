import TokenAuth.Proofs.JsonObjects
import TokenAuth.Tokens

/-!
Objects that are read as records of a known type. Each written member sets the field of its name, and
the draft in which all fields are set is the record. So a client reads from the body of an answer the
very tokens that were handed out.
-/
namespace TokenAuth

namespace Json

theorem readText_renderText (s : String) (r : List Char) :
    readText (renderText s ++ r) = .ok (s, r) := by
  have hread := readQuoted_flatMap_escape s.toList r
  have hspaces : ∀ cs, skipSpaces ('"' :: cs) = '"' :: cs := fun _ => rfl
  rw [renderText_append]
  simp [readText, hspaces, hread, Except.map]

theorem readVia_renderText {α : Type} (construct : String → Option α) {s : String} {a : α}
    (h : construct s = some a) (r : List Char) :
    readVia construct (renderText s ++ r) = .ok (a, r) := by
  simp only [readVia, readText_renderText, h]

theorem readInt64_renderInt (n : Int64) {r : List Char} (hr : EndsMember r) :
    readInt64 (renderInt n.toInt ++ r) = .ok (n, r) := by
  have hlow := n.le_toInt
  have hhigh := n.toInt_lt
  have hread := readNumber_renderInt n.toInt (by omega) (by omega) hr.endsNumber
  obtain ⟨c, t, htext, hstart⟩ := exists_renderInt n.toInt
  obtain ⟨hspace, -⟩ := startsNumber_facts hstart
  rw [htext, List.cons_append] at hread ⊢
  simp only [readInt64, skipSpaces_cons _ hspace, hstart, if_true, hread]
  rw [if_pos ⟨by omega, by omega⟩, Int64.ofInt_toInt]

variable {δ : Type}

theorem find?_name {fields : List (Field δ)} (hnames : (fields.map Field.name).Nodup)
    {f : Field δ} (hf : f ∈ fields) :
    fields.find? (fun g => g.name.toList == f.name.toList) = some f := by
  induction fields with
  | nil => simp at hf
  | cons g fields ih =>
    obtain ⟨hg, hrest⟩ := List.nodup_cons.1 hnames
    rcases List.mem_cons.1 hf with rfl | hf
    · simp
    · have hne : g.name ≠ f.name := by
        intro h
        apply hg
        rw [h]
        exact List.mem_map_of_mem hf
      have hfalse : (g.name.toList == f.name.toList) = false := by
        rw [beq_eq_false_iff_ne]
        exact fun h => hne (String.toList_inj.1 h)
      rw [List.find?_cons, hfalse]
      exact ih hrest hf

/-- A member sets the field of its name. -/
theorem readMember_field {fields : List (Field δ)} (hnames : (fields.map Field.name).Nodup)
    {f : Field δ} (hf : f ∈ fields) {d d' : δ} {name : String} {text : List Char}
    (hname : f.name = name) (hset : f.isSet d = false)
    (hread : ∀ r, EndsMember r → f.read d (text ++ r) = .ok (d', r)) :
    ∀ r, EndsMember r →
      readMember fields d (name.toList.flatMap escape ++ '"' :: ':' :: (text ++ r)) =
        .ok (d', r) := by
  intro r hr
  subst hname
  have hquoted := readQuoted_flatMap_escape f.name.toList (':' :: (text ++ r))
  simp only [readMember, hquoted, find?_name hnames hf, hset, bind, Except.bind, readColon_cons,
    hread r hr]
  rfl

theorem readRecord_renderObject {α : Type} (fields : List (Field δ)) {d d' : δ}
    (finish : δ → Option α) {a : α} {ms : List (String × List Char)}
    (h : Leads (readMember fields) d ms d') (hfinish : finish d' = some a) (r : List Char) :
    readRecord fields d finish (renderObject ms ++ r) = .ok (a, r) := by
  have hread := readMembers_renderMembers _ h r
  have htext : renderObject ms ++ r = '{' :: (renderMembers ms ++ '}' :: r) := by
    simp [renderObject]
  have hbrace : ∀ cs, skipSpaces ('{' :: cs) = '{' :: cs := fun _ => rfl
  rw [htext]
  simp only [readRecord, hbrace, hread, hfinish]

end Json

open Json

theorem SignedToken.readJson_renderText (t : SignedToken) (r : List Char) :
    readJson (renderText t.text ++ r) = .ok (t, r) := by
  apply readVia_renderText
  simp [ofText_text, Except.toOption]

namespace Tokens

theorem readJson_render (t : Tokens) (r : List Char) : readJson (t.render ++ r) = .ok (t, r) := by
  have hleads : Leads (readMember jsonFields) Draft.empty [
      ("token_type", renderText t.tokenType), ("access_token", renderText t.accessToken.text),
      ("expires_in", renderInt t.expiresIn.toInt), ("refresh_token", renderText t.refreshToken.text)]
      ⟨some t.tokenType, some t.accessToken, some t.expiresIn, some t.refreshToken⟩ := by
    have hnames : (jsonFields.map Field.name).Nodup := by decide
    refine .next (t := ⟨some t.tokenType, none, none, none⟩)
        (readMember_field hnames (.head _) rfl rfl ?_)
      (.next (t := ⟨some t.tokenType, some t.accessToken, none, none⟩)
        (readMember_field hnames (.tail _ (.head _)) rfl rfl ?_)
      (.next (t := ⟨some t.tokenType, some t.accessToken, some t.expiresIn, none⟩)
        (readMember_field hnames (.tail _ (.tail _ (.head _))) rfl rfl ?_)
      (.next (readMember_field hnames (.tail _ (.tail _ (.tail _ (.head _)))) rfl rfl ?_)
        (.done _))))
    · intro r _
      simp only [readText_renderText, Except.map]
      rfl
    · intro r _
      simp only [SignedToken.readJson_renderText, Except.map]
    · intro r hr
      simp only [readInt64_renderInt t.expiresIn hr, Except.map]
    · intro r _
      simp only [SignedToken.readJson_renderText, Except.map]
  exact readRecord_renderObject jsonFields Draft.finish hleads rfl r

theorem readAll_render (t : Tokens) : readAll readJson t.render = .ok t := by
  have hread := t.readJson_render []
  rw [List.append_nil] at hread
  simp only [readAll, hread]
  rfl

end Tokens

end TokenAuth
