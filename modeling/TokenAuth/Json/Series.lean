import TokenAuth.Json.Number
import TokenAuth.Json.Quoted

/-!
The elements of arrays and the members of objects, one after the other, threaded through a state; and
values that are skipped, however deep they are.
-/
namespace TokenAuth.Json

/-- What follows an element: a comma and the next element, or the closing bracket. -/
def readElementsFrom (element : σ → Reader σ) : Nat → σ → Reader σ
  | 0, _, _ => .error .truncated
  | fuel + 1, s, cs =>
    match skipSpaces cs with
    | [] => .error .truncated
    | ']' :: r => .ok (s, r)
    | ',' :: r =>
      match skipSpaces r with
      | [] => .error .truncated
      | ']' :: _ => .error .malformed
      | r =>
        match element s r with
        | .error f => .error f
        | .ok (s, r) => readElementsFrom element fuel s r
    | _ => .error .malformed

/-- Reads the elements of an array, after its opening bracket. -/
def readElements (element : σ → Reader σ) (s : σ) : Reader σ := fun cs =>
  match skipSpaces cs with
  | [] => .error .truncated
  | ']' :: r => .ok (s, r)
  | r =>
    match element s r with
    | .error f => .error f
    | .ok (s, r) => readElementsFrom element cs.length s r

/-- What follows a member: a comma and the next member, or the closing brace. -/
def readMembersFrom (member : σ → Reader σ) : Nat → σ → Reader σ
  | 0, _, _ => .error .truncated
  | fuel + 1, s, cs =>
    match skipSpaces cs with
    | [] => .error .truncated
    | '}' :: r => .ok (s, r)
    | ',' :: r =>
      match skipSpaces r with
      | [] => .error .truncated
      | '"' :: r =>
        match member s r with
        | .error f => .error f
        | .ok (s, r) => readMembersFrom member fuel s r
      | _ => .error .malformed
    | _ => .error .malformed

/-- Reads the members of an object, after its opening brace. A member is read after the opening quote
of its name. -/
def readMembers (member : σ → Reader σ) (s : σ) : Reader σ := fun cs =>
  match skipSpaces cs with
  | [] => .error .truncated
  | '}' :: r => .ok (s, r)
  | '"' :: r =>
    match member s r with
    | .error f => .error f
    | .ok (s, r) => readMembersFrom member cs.length s r
  | _ => .error .malformed

/-- Skips a value that is no array and no object. -/
def skipScalar (cs : List Char) : Except Fault (List Char) :=
  match cs with
  | [] => .error .truncated
  | 'n' :: r => (readLiteral ['u', 'l', 'l'] r).map (·.2)
  | 't' :: r => (readLiteral ['r', 'u', 'e'] r).map (·.2)
  | 'f' :: r => (readLiteral ['a', 'l', 's', 'e'] r).map (·.2)
  | '"' :: r => skipQuoted r
  | c :: r => if startsNumber c then skipNumber (c :: r) else .error .malformed

/-- Skips a value of at most the given depth; no text is deeper than it is long. -/
def skipTo : Nat → Reader Unit
  | 0 => fun _ => .error .truncated
  | depth + 1 => fun cs =>
    match skipSpaces cs with
    | '[' :: r => readElements (fun _ => skipTo depth) () r
    | '{' :: r =>
      readMembers
        (fun _ r => do
          let r ← skipQuoted r
          let r ← readColon r
          skipTo depth r) () r
    | r => (skipScalar r).map fun r => ((), r)

def skipValue (cs : List Char) : Except Fault (List Char) := (skipTo (cs.length + 1) cs).map (·.2)

end TokenAuth.Json
