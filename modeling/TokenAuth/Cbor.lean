import TokenAuth.Content

/-!
Values in the binary format CBOR. An item starts with its type and an argument; strings, arrays and
maps have their length as argument or are closed by a break. Tags are passed over where a plain text
or a whole number is expected and refused elsewhere.
-/
namespace TokenAuth.Cbor

inductive Kind
  | unsigned
  | negative
  | bytes
  | text
  | array
  | map
  | tag
  | simple
  deriving DecidableEq

/-- What an item starts with. No argument means a length that is open, or a break. -/
structure Head where
  kind : Kind
  argument : Option Nat
  /-- How many bytes the argument takes. -/
  width : Nat
  deriving DecidableEq

def kindOf (b : UInt8) : Kind :=
  match (b >>> 5).toNat with
  | 0 => .unsigned
  | 1 => .negative
  | 2 => .bytes
  | 3 => .text
  | 4 => .array
  | 5 => .map
  | 6 => .tag
  | _ => .simple

def numberOfBytes (bs : List UInt8) : Nat := bs.foldl (fun n b => 256 * n + b.toNat) 0

def take? (n : Nat) (bs : List UInt8) : Option (List UInt8 × List UInt8) :=
  if n ≤ bs.length then some (bs.take n, bs.drop n) else none

/-- Whole numbers and tags need an argument. -/
def mayBeOpen : Kind → Bool
  | .bytes | .text | .array | .map | .simple => true
  | _ => false

def readHead : List UInt8 → Option (Head × List UInt8)
  | [] => none
  | b :: r =>
    let kind := kindOf b
    let info := (b &&& 31).toNat
    let wide (n : Nat) := (take? n r).map fun p => (⟨kind, some (numberOfBytes p.1), n⟩, p.2)
    if info < 24 then some (⟨kind, some info, 0⟩, r)
    else if info = 24 then wide 1
    else if info = 25 then wide 2
    else if info = 26 then wide 4
    else if info = 27 then wide 8
    else if info = 31 ∧ mayBeOpen kind then some (⟨kind, none, 0⟩, r)
    else none

def isBreak (h : Head) : Bool := h.kind == .simple && h.argument.isNone

/-- The pieces of a string of open length up to the break that closes it. Pieces may be open in turn;
`nested` counts the breaks that are due. -/
def readPieces (kind : Kind) : Nat → Nat → List UInt8 → Option (List (List UInt8) × List UInt8)
  | 0, _, _ => none
  | fuel + 1, nested, bs =>
    match readHead bs with
    | none => none
    | some (h, r) =>
      if isBreak h then
        if nested ≤ 1 then some ([], r) else readPieces kind fuel (nested - 1) r
      else if h.kind = kind then
        match h.argument with
        | none => readPieces kind fuel (nested + 1) r
        | some n =>
          match take? n r with
          | none => none
          | some (piece, r) => (readPieces kind fuel nested r).map fun p => (piece :: p.1, p.2)
      else none

/-- The pieces of a string after its head. -/
def readString (h : Head) (bs : List UInt8) : Option (List (List UInt8) × List UInt8) :=
  match h.argument with
  | some n => (take? n bs).map fun p => ([p.1], p.2)
  | none => readPieces h.kind (bs.length + 1) 1 bs

/-- Each piece of a text has to be a text. -/
def textOf? (pieces : List (List UInt8)) : Option String :=
  (pieces.mapM Text.ofUtf8?).map String.join

/-- The items of an array or map after its head, threaded through a state. -/
def readItems (item : σ → List UInt8 → Option (σ × List UInt8)) :
    Nat → Option Nat → σ → List UInt8 → Option (σ × List UInt8)
  | _, some 0, s, bs => some (s, bs)
  | 0, _, _, _ => none
  | fuel + 1, some (n + 1), s, bs =>
    match item s bs with
    | none => none
    | some (s, r) => readItems item fuel (some n) s r
  | fuel + 1, none, s, bs =>
    match readHead bs with
    | none => none
    | some (h, r) =>
      if isBreak h then some (s, r)
      else
        match item s bs with
        | none => none
        | some (s, r) => readItems item fuel none s r

/-- A floating point number of `bits` mantissa bits and the rest exponent, cut toward zero. -/
def cutFloat (width bits raw : Nat) : Option Int :=
  let exponentBits := 8 * width - 1 - bits
  let fraction := raw % Nat.pow 2 bits
  let exponent := raw / Nat.pow 2 bits % Nat.pow 2 exponentBits
  let isNegative := raw / Nat.pow 2 (8 * width - 1) % 2 = 1
  let bias := Nat.pow 2 (exponentBits - 1) - 1 + bits
  if exponent = Nat.pow 2 exponentBits - 1 then none
  else
    let mantissa := if exponent = 0 then fraction else fraction + Nat.pow 2 bits
    let place := max exponent 1
    let cut : Nat :=
      if bias ≤ place then mantissa * Nat.pow 2 (place - bias)
      else mantissa / Nat.pow 2 (bias - place)
    some (if isNegative then -cut else cut)

/-- A value without parts, given its head. -/
def readPlain (h : Head) (bs : List UInt8) : Option (Content × List UInt8) :=
  match h.kind, h.argument with
  | .unsigned, some n => some (.whole n, bs)
  | .negative, some n => if n ≤ 9223372036854775807 then some (.whole (-1 - n), bs) else none
  | .bytes, _ => (readString h bs).map fun p => (.bytes p.1.flatten, p.2)
  | .text, _ => (readString h bs).bind fun p => (textOf? p.1).map fun s => (.text s, p.2)
  | .simple, some n =>
    if h.width = 2 then some (.real (cutFloat 2 10 n), bs)
    else if h.width = 4 then some (.real (cutFloat 4 23 n), bs)
    else if h.width = 8 then some (.real (cutFloat 8 52 n), bs)
    else if n = 20 then some (.bool false, bs)
    else if n = 21 then some (.bool true, bs)
    else if n = 22 ∨ n = 23 then some (.null, bs)
    else none
  | _, _ => none

/-- Arrays and maps are read to the given depth only. -/
def readContent : Nat → List UInt8 → Option (Content × List UInt8)
  | 0 => fun bs => (readHead bs).bind fun p => readPlain p.1 p.2
  | depth + 1 => fun bs =>
    match readHead bs with
    | none => none
    | some (h, r) =>
      if h.kind = .array then
        (readItems (fun xs b => (readContent depth b).map fun p => (p.1 :: xs, p.2))
          (r.length + 1) h.argument [] r).map fun p => (.list p.1.reverse, p.2)
      else if h.kind = .map then
        (readItems
          (fun ms b => do
            let (name, b) ← readContent depth b
            let (value, b) ← readContent depth b
            pure ((name, value) :: ms, b))
          (r.length + 1) h.argument [] r).map fun p => (.map p.1.reverse, p.2)
      else readPlain h r

/-- The head of the item behind any tags. -/
def skipTags : Nat → List UInt8 → Option (Head × List UInt8)
  | 0, _ => none
  | fuel + 1, bs =>
    match readHead bs with
    | none => none
    | some (h, r) => if h.kind = .tag then skipTags fuel r else some (h, r)

/-- A name of a known member: a text of known length, of 4096 bytes at most, behind any tags. -/
def readName (bs : List UInt8) : Option (String × List UInt8) := do
  let (h, r) ← skipTags (bs.length + 1) bs
  match h.kind, h.argument with
  | .text, some n =>
    if n ≤ 4096 then do
      let (piece, r) ← take? n r
      let s ← Text.ofUtf8? piece
      pure (s, r)
    else none
  | _, _ => none

/-- The bytes of a large number, of which sixteen may be other than leading zeros. -/
def readLarge (bs : List UInt8) : Option (Nat × List UInt8) := do
  let (h, r) ← readHead bs
  if h.kind ≠ .bytes then none
  else do
    let (pieces, r) ← readString h r
    let digits := pieces.flatten.dropWhile (· = 0)
    if digits.length ≤ 16 then pure (numberOfBytes digits, r) else none

/-- A whole number behind any tags; tags 2 and 3 mark large numbers. -/
def readWhole : Nat → List UInt8 → Option (Int × List UInt8)
  | 0, _ => none
  | fuel + 1, bs =>
    match readHead bs with
    | none => none
    | some (h, r) =>
      match h.kind, h.argument with
      | .unsigned, some n => some (n, r)
      | .negative, some n => some (-1 - (n : Int), r)
      | .tag, some 2 => (readLarge r).map fun p => (p.1, p.2)
      | .tag, some 3 => (readLarge r).map fun p => (-1 - (p.1 : Int), p.2)
      | .tag, some _ => readWhole fuel r
      | _, _ => none

end TokenAuth.Cbor
