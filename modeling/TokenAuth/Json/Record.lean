import TokenAuth.Json.Content

/-!
JSON texts read as values of a known type. A record is an object with each of its fields at most once,
in any order and among others, or an array of its fields in their order.
-/
namespace TokenAuth.Json

open Text

/-- Refuses a value of the wrong type. A scalar has to be written correctly to count as one. -/
def refuse (cs : List Char) : Except Fault α :=
  match cs with
  | [] => .error .truncated
  | c :: _ =>
    if c = '[' ∨ c = '{' then .error .unsuitable
    else
      match readScalar cs with
      | .error f => .error f
      | .ok _ => .error .unsuitable

def readText : Reader String := fun cs =>
  match skipSpaces cs with
  | '"' :: r => (readQuoted r).map fun p => (String.ofList p.1, p.2)
  | r => refuse r

/-- A text that a constructor accepts. -/
def readVia (construct : String → Option α) : Reader α := fun cs =>
  match readText cs with
  | .error f => .error f
  | .ok (s, r) =>
    match construct s with
    | some a => .ok (a, r)
    | none => .error .unsuitable

/-- A text, or null. -/
def readOptionalText : Reader (Option String) := fun cs =>
  match skipSpaces cs with
  | 'n' :: r => (readLiteral ['u', 'l', 'l'] r).map fun p => (none, p.2)
  | r => (readText r).map fun p => (some p.1, p.2)

/-- A whole number of 64 bits with its sign. -/
def readInt64 : Reader Int64 := fun cs =>
  match skipSpaces cs with
  | [] => .error .truncated
  | c :: r =>
    if startsNumber c then
      match readNumber (c :: r) with
      | .error f => .error f
      | .ok (.whole n, r) =>
        if -9223372036854775808 ≤ n ∧ n ≤ 9223372036854775807 then .ok (Int64.ofInt n, r)
        else .error .unsuitable
      | .ok (.real _ _, _) => .error .unsuitable
    else refuse (c :: r)

def readNull (cs : List Char) : Except Fault (List Char) :=
  match skipSpaces cs with
  | 'n' :: r => (readLiteral ['u', 'l', 'l'] r).map (·.2)
  | r => refuse r

/-- A field of a record: its name, whether a draft has it, and how it is read into a draft. -/
structure Field (δ : Type) where
  name : String
  isSet : δ → Bool
  read : δ → Reader δ

/-- One member of an object that is read as a record. Members of other names are skipped. -/
def readMember (fields : List (Field δ)) (draft : δ) : Reader δ := fun cs =>
  match readQuoted cs with
  | .error f => .error f
  | .ok (name, cs) =>
    match fields.find? fun f => f.name.toList == name with
    | some f =>
      if f.isSet draft then .error .unsuitable
      else do
        let cs ← readColon cs
        f.read draft cs
    | none => do
      let cs ← readColon cs
      let cs ← skipValue cs
      pure (draft, cs)

/-- The fields in their order, each after a comma but the first. Stops before the closing bracket. -/
def readInOrder (isFirst : Bool) : List (Field δ) → δ → Reader δ
  | [], draft, cs => .ok (draft, cs)
  | f :: fs, draft, cs =>
    match skipSpaces cs with
    | [] => .error .truncated
    | c :: r =>
      if c = ']' then .ok (draft, c :: r)
      else if isFirst then do
        let (draft, r) ← f.read draft (c :: r)
        readInOrder false fs draft r
      else if c = ',' then
        match skipSpaces r with
        | [] => .error .truncated
        | ']' :: _ => .error .malformed
        | r => do
          let (draft, r) ← f.read draft r
          readInOrder false fs draft r
      else .error .malformed

def closeArray (cs : List Char) : Except Fault (List Char) :=
  match skipSpaces cs with
  | [] => .error .truncated
  | c :: r => if c = ']' then .ok r else .error .malformed

def readRecord (fields : List (Field δ)) (draft : δ) (finish : δ → Option α) : Reader α := fun cs =>
  match skipSpaces cs with
  | '{' :: r =>
    match readMembers (readMember fields) draft r with
    | .error f => .error f
    | .ok (d, r) =>
      match finish d with
      | some a => .ok (a, r)
      | none => .error .unsuitable
  | '[' :: r =>
    match readInOrder true fields draft r with
    | .error f => .error f
    | .ok (d, r) =>
      match finish d with
      | some a => (closeArray r).map fun r => (a, r)
      | none => .error .unsuitable
  | r => refuse r

/-- One of several names: a text, or the only member of an object, whose value is null. -/
def readName (ofName : String → Option α) : Reader α := fun cs =>
  match skipSpaces cs with
  | [] => .error .truncated
  | '"' :: r => readVia ofName ('"' :: r)
  | '{' :: r =>
    match readVia ofName r with
    | .error f => .error f
    | .ok (a, r) => do
      let r ← readColon r
      let r ← readNull r
      match skipSpaces r with
      | [] => .error .truncated
      | c :: r => if c = '}' then .ok (a, r) else .error .malformed
  | _ => .error .malformed

end TokenAuth.Json
