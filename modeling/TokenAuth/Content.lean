import TokenAuth.Text.Utf8

/-!
Values of data formats before it is known what they should be. Names of members may be any values.
-/
namespace TokenAuth

inductive Content
  | null
  | bool (b : Bool)
  | whole (n : Int)
  /-- A number in floating point, cut toward zero; nothing for infinities and for what is no number. -/
  | real (cut : Option Int)
  | text (s : String)
  | bytes (bs : List UInt8)
  | list (xs : List Content)
  | map (ms : List (Content × Content))

namespace Content

/-- A text, or bytes that are one. -/
def text? : Content → Option String
  | text s => some s
  | bytes bs => Text.ofUtf8? bs
  | _ => none

/-- A text, or nothing. -/
def optionalText? : Content → Option (Option String)
  | null => some none
  | c => c.text?.map some

end Content

end TokenAuth
