import TokenAuth.Content

/-!
Values of data formats taken as records: maps with each field at most once and other members among
them, or lists of all fields in their order.
-/
namespace TokenAuth.Content

/-- A field of a record: its name, whether a draft has it, and how a value is put into a draft. -/
structure Field (δ : Type) where
  name : String
  isSet : δ → Bool
  store : δ → Content → Option δ

/-- The field that the name of a member means, if it means one. Fields may be named by their place.
Names that are neither texts, bytes nor places are refused. -/
def fieldNamed (fields : List (Field δ)) : Content → Option (Option (Field δ))
  | text s => some (fields.find? fun f => f.name == s)
  | bytes bs => some (fields.find? fun f => Text.utf8 f.name == bs)
  | whole (.ofNat n) => some fields[n]?
  | _ => none

def storeMember (fields : List (Field δ)) (draft : δ) (member : Content × Content) : Option δ :=
  match fieldNamed fields member.1 with
  | none => none
  | some none => some draft
  | some (some f) => if f.isSet draft then none else f.store draft member.2

def record? (fields : List (Field δ)) (draft : δ) (finish : δ → Option α) : Content → Option α
  | map ms => (ms.foldlM (storeMember fields) draft).bind finish
  | list xs =>
    if xs.length = fields.length then
      ((fields.zip xs).foldlM (fun d (p : Field δ × Content) => p.1.store d p.2) draft).bind finish
    else none
  | _ => none

end TokenAuth.Content
