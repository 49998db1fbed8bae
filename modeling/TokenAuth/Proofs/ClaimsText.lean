import TokenAuth.ClaimsFormat
import TokenAuth.Proofs.InstantText
import TokenAuth.Proofs.JsonObjects
import TokenAuth.TokenHeader

/-!
The records in a token, identities, claims and headers, are read back from their text as they were
written. Only the expiry changes: its whole second is written.
-/
namespace TokenAuth

open Json

theorem Instant.ofSeconds?_seconds (t : Instant) : ofSeconds? t.seconds = some t.wholeSecond :=
  dif_pos ⟨t.first_le, t.le_last, by decide, fun h => absurd h (by decide)⟩

namespace Identity

theorem name?_text (u : Username) : name? u.text = some u := by
  simp [name?, Username.ofText_text, Except.toOption]

theorem email?_text (e : Email) : email? e.text = some e := by
  simp [email?, Email.ofText_text, Except.toOption]

theorem created?_render (t : Instant) : created? (String.ofList (Rfc3339.render t)) = some t := by
  rw [created?, String.toList_ofList, Rfc3339.read?_render]

theorem quoted_render (t : Instant) :
    quoted (Rfc3339.render t) = renderText (String.ofList (Rfc3339.render t)) := by
  rw [renderText, String.toList_ofList]

/-- The members of a written identity and what they are read as. -/
def entries (i : Identity) : List (String × Content) := [
  ("id", .whole i.id.toInt),
  ("name", .text i.name.text),
  ("email", .text i.email.text),
  ("created", .text (String.ofList (Rfc3339.render i.created)))]

def content (i : Identity) : Content := .map (i.entries.map fun e => (.text e.1, e.2))

theorem writes_render (depth : Nat) (i : Identity) : Writes (depth + 1) i.render i.content := by
  have hlow := i.id.le_toInt
  have hhigh := i.id.toInt_lt
  unfold render
  rw [quoted_render]
  apply writes_object
  refine .cons ⟨rfl, writes_int depth _ ?_ ?_⟩ (.cons ⟨rfl, writes_text depth _⟩
    (.cons ⟨rfl, writes_text depth _⟩ (.cons ⟨rfl, writes_text depth _⟩ .nil)))
  · omega
  · omega

theorem ofContent?_content (i : Identity) : ofContent? i.content = some i := by
  have hlow := i.id.le_toInt
  have hhigh := i.id.toInt_lt
  have hid : id? (.whole i.id.toInt) = some i.id := by
    simp only [id?]
    rw [if_pos ⟨by omega, by omega⟩, Int64.ofInt_toInt]
  simp [ofContent?, content, entries, Content.record?, contentFields, Content.storeMember,
    Content.fieldNamed, List.foldlM, Draft.empty, Draft.finish, Content.text?, hid, name?_text,
    email?_text, created?_render]

end Identity

namespace ClaimsBody

def entries (b : ClaimsBody) : List (String × Content) :=
  [("user", b.user.content), ("sub", .text b.subject)] ++
    match b.idHash with
    | some h => [("jti", .text h)]
    | none => []

theorem writes_members (depth : Nat) (b : ClaimsBody) :
    WritesMembers (depth + 1) b.members b.entries := by
  unfold members entries
  cases b.idHash with
  | none =>
    exact .cons ⟨rfl, b.user.writes_render depth⟩ (.cons ⟨rfl, writes_text _ _⟩ .nil)
  | some h =>
    exact .cons ⟨rfl, b.user.writes_render depth⟩ (.cons ⟨rfl, writes_text _ _⟩
      (.cons ⟨rfl, writes_text _ _⟩ .nil))

theorem ofEntries?_entries (b : ClaimsBody) : ofEntries? b.entries = some b := by
  have huser := b.user.ofContent?_content
  obtain ⟨user, subject, idHash⟩ := b
  cases idHash with
  | none =>
    simp [ofEntries?, entries, Content.record?, contentFields, Content.storeMember,
      Content.fieldNamed, List.foldlM, Draft.empty, Draft.finish, Content.text?, huser]
  | some h =>
    simp [ofEntries?, entries, Content.record?, contentFields, Content.storeMember,
      Content.fieldNamed, List.foldlM, Draft.empty, Draft.finish, Content.text?,
      Content.optionalText?, huser]

end ClaimsBody

namespace ClaimsFormat

/-- No member of the body is taken for an instant. -/
theorem foldlM_addEntry_entries (d : Draft) (b : ClaimsBody) :
    b.entries.foldlM addEntry d = some { d with others := b.entries.reverse ++ d.others } := by
  unfold ClaimsBody.entries
  cases b.idHash with
  | none => simp [List.foldlM, addEntry, Draft.isTime, Draft.addOther]
  | some h => simp [List.foldlM, addEntry, Draft.isTime, Draft.addOther]

theorem readJson_render (c : Claims) :
    readJson (render c) = some ⟨some c.expires.wholeSecond, c.body⟩ := by
  have hfirst := c.expires.first_le
  have hlast := c.expires.le_last
  have hentries : entries? (render c) =
      some (("exp", .whole c.expires.seconds) :: c.body.entries) := by
    apply entries?_renderObject
    refine .cons ⟨rfl, writes_int _ _ ?_ ?_⟩ (c.body.writes_members _)
    · omega
    · omega
  have hexp : addEntry Draft.empty ("exp", .whole c.expires.seconds) =
      some ⟨[("exp", c.expires.wholeSecond)], []⟩ := by
    simp [addEntry, Draft.isTime, Draft.addTime, Draft.empty, timeOf?, Instant.ofSeconds?_seconds]
  simp [readJson, hentries, List.foldlM, hexp, foldlM_addEntry_entries, Draft.finish,
    c.body.ofEntries?_entries]

end ClaimsFormat

namespace TokenHeader

theorem read?_render (kind : TokenKind) :
    read? (render kind) = some ⟨hs256, none, some kind.tag⟩ := by
  have hentries : entries? (render kind) = some [("alg", .text hs256), ("typ", .text kind.tag)] := by
    apply entries?_renderObject
    exact .cons ⟨rfl, writes_text _ _⟩ (.cons ⟨rfl, writes_text _ _⟩ .nil)
  simp [read?, hentries, Content.record?, contentFields, Content.storeMember, Content.fieldNamed,
    List.foldlM, Draft.empty, Draft.finish, Content.text?, Content.optionalText?]

end TokenHeader

end TokenAuth
