import TokenAuth.Content
import TokenAuth.Json.Series

/-!
JSON texts as values of no particular type. Arrays and objects are read to a given depth only, and a
number has to be one in double precision at least.
-/
namespace TokenAuth.Json

def Number.content : Number → Content
  | .whole n => .whole n
  | .real isNegative x => .real (some (if isNegative then -x.truncate else x.truncate))

def readScalar (cs : List Char) : Except Fault (Content × List Char) :=
  match cs with
  | [] => .error .truncated
  | 'n' :: r => (readLiteral ['u', 'l', 'l'] r).map fun p => (.null, p.2)
  | 't' :: r => (readLiteral ['r', 'u', 'e'] r).map fun p => (.bool true, p.2)
  | 'f' :: r => (readLiteral ['a', 'l', 's', 'e'] r).map fun p => (.bool false, p.2)
  | '"' :: r => (readQuoted r).map fun p => (.text (String.ofList p.1), p.2)
  | c :: r =>
    if startsNumber c then (readNumber (c :: r)).map fun p => (p.1.content, p.2)
    else .error .malformed

/-- A member after the opening quote of its name, put in front of those before it. -/
def readEntry (value : Reader α) (before : List (String × α)) : Reader (List (String × α)) :=
  fun cs => do
    let (name, cs) ← readQuoted cs
    let cs ← readColon cs
    let (a, cs) ← value cs
    pure ((String.ofList name, a) :: before, cs)

def readContent : Nat → Reader Content
  | 0 => fun cs => readScalar (skipSpaces cs)
  | depth + 1 => fun cs =>
    match skipSpaces cs with
    | '[' :: r => do
      let (xs, r) ← readElements
        (fun xs r => (readContent depth r).map fun p => (p.1 :: xs, p.2)) [] r
      pure (.list xs.reverse, r)
    | '{' :: r => do
      let (ms, r) ← readMembers (readEntry (readContent depth)) [] r
      pure (.map (ms.reverse.map fun m => (.text m.1, m.2)), r)
    | r => readScalar r

/-- How deep arrays and objects may be nested. -/
def depthLimit : Nat := 127

/-- The members of a text that is one object, in their order. -/
def entries? (cs : List Char) : Option (List (String × Content)) :=
  let read : Reader (List (String × Content)) := fun cs =>
    match skipSpaces cs with
    | '{' :: r => readMembers (readEntry (readContent (depthLimit - 1))) [] r
    | _ => .error .unsuitable
  match readAll read cs with
  | .ok ms => some ms.reverse
  | .error _ => none

end TokenAuth.Json
