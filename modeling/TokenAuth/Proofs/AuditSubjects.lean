import TokenAuth.Claims
import TokenAuth.Text.Cut

/-!
The subject that audit records and tokens name a user by. A user name may hold underscores, digits and
minus signs of its own. The number holds no underscore, so the last one of a subject always parts the
name from the number.
-/
namespace TokenAuth.Identity

open Text

theorem cutLast_subject (i : Identity) : cutLast '_' i.subject.toList =
    some ("user_".toList ++ i.name.text.toList, decimalInt i.id.toInt) := by
  have hnumber : '_' ∉ decimalInt i.id.toInt := not_mem_decimalInt (by decide) (by decide) _
  have hcut := cutLast_append '_' ("user_".toList ++ i.name.text.toList) _ hnumber
  unfold subject
  rw [String.toList_ofList]
  exact hcut

theorem name_eq_of_subject {i j : Identity} (h : i.subject = j.subject) :
    i.name = j.name ∧ i.id = j.id := by
  have hparts := cutLast_subject i
  rw [h, cutLast_subject j, Option.some.injEq, Prod.mk.injEq] at hparts
  obtain ⟨hname, hid⟩ := hparts
  have htext : j.name.text.toList = i.name.text.toList := List.append_cancel_left hname
  exact ⟨(Username.ext (String.toList_inj.1 htext)).symm,
    (Int64.toInt_inj.1 (decimalInt_injective hid)).symm⟩

/-- Two users have the same subject if and only if they have the same name and the same number, and so
have two tokens, of whatever kinds and whenever they expire. -/
theorem subject_eq_iff (i j : Identity) :
    (i.subject = j.subject ↔ i.name = j.name ∧ i.id = j.id) ∧
    ∀ (e e' : Instant) (kind kind' : TokenKind),
      (Claims.ofIdentity i e kind).body.subject = (Claims.ofIdentity j e' kind').body.subject ↔
        i.name = j.name ∧ i.id = j.id := by
  have hsubject : i.subject = j.subject ↔ i.name = j.name ∧ i.id = j.id := by
    constructor
    · exact name_eq_of_subject
    · rintro ⟨hname, hid⟩
      unfold subject
      rw [hname, hid]
  have hclaims : ∀ (k : Identity) (e : Instant) (kind : TokenKind),
      (Claims.ofIdentity k e kind).body.subject = k.subject := by
    intro k e kind
    rfl
  refine ⟨hsubject, ?_⟩
  intro e e' kind kind'
  rw [hclaims, hclaims]
  exact hsubject

end TokenAuth.Identity
