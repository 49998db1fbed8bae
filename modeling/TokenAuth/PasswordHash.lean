import TokenAuth.Crypto.Argon2
import TokenAuth.Text.Base64
import TokenAuth.Text.Cut
import TokenAuth.Text.Decimal

/-!
Hashed passwords: an Argon2 output with the parameters and the salt it was made with. The text form
has dollar signs before the variant, the version, the costs, the salt and the output; a text without a
version means the earlier one. A password matches if hashing it again gives the same output.
-/
namespace TokenAuth

open Crypto Text

inductive HashError
  | undecodable
  | tooFewLanes
  | tooManyLanes
  | memoryTooSmall
  | timeTooSmall
  | saltTooShort
  | outputTooShort
  deriving DecidableEq

def HashError.message : HashError → String
  | undecodable => "Decoding failed"
  | tooFewLanes => "Too few lanes"
  | tooManyLanes => "Too many lanes"
  | memoryTooSmall => "Memory cost is too small"
  | timeTooSmall => "Time cost is too small"
  | saltTooShort => "Salt is too short"
  | outputTooShort => "Output is too short"

structure PasswordHash where
  parameters : Argon2.Parameters
  salt : List UInt8
  output : List UInt8
  deriving DecidableEq

namespace PasswordHash

/-- The parameters for new passwords. -/
def standard : Argon2.Parameters := ⟨.hybrid, .combining, 4096, 3, 4⟩

def saltSize : Nat := 32

def outputSize : Nat := 32

/-- Hashes a password for storage. -/
def make (password salt : List UInt8) : PasswordHash :=
  ⟨standard, salt, Argon2.hash standard outputSize password salt⟩

def variantName : Argon2.Variant → List Char
  | .dataDependent => "argon2d".toList
  | .dataIndependent => "argon2i".toList
  | .hybrid => "argon2id".toList

/-- The name of a variant may start with a capital letter. -/
def variant? (cs : List Char) : Option Argon2.Variant :=
  if cs = "argon2d".toList ∨ cs = "Argon2d".toList then some .dataDependent
  else if cs = "argon2i".toList ∨ cs = "Argon2i".toList then some .dataIndependent
  else if cs = "argon2id".toList ∨ cs = "Argon2id".toList then some .hybrid
  else none

def version? (cs : List Char) : Option Argon2.Version :=
  if cs = "v=16".toList then some .overwriting
  else if cs = "v=19".toList then some .combining
  else none

/-- Decimal digits after an optional plus sign, for a number of 32 bits. -/
def number? (cs : List Char) : Option Nat :=
  let ds := match cs with
    | '+' :: r => r
    | r => r
  if ds ≠ [] ∧ ds.all isDigit ∧ numberOf ds < 4294967296 then some (numberOf ds) else none

def cost? (letter : Char) : List Char → Option Nat
  | c :: '=' :: r => if c = letter then number? r else none
  | _ => none

/-- The costs: memory, passes and lanes, in this order. -/
def costs? (cs : List Char) : Option (Nat × Nat × Nat) :=
  match parts ',' cs with
  | [m, t, p] => do
    let m ← cost? 'm' m
    let t ← cost? 't' t
    let p ← cost? 'p' p
    pure (m, t, p)
  | _ => none

/-- Reads the parts of a text between the dollar signs. -/
def ofParts? (variant version costs salt output : List Char) : Option PasswordHash := do
  let variant ← variant? variant
  let version ← version? version
  let (m, t, p) ← costs? costs
  let salt ← Base64.decode .standard salt
  let output ← Base64.decode .standard output
  pure ⟨⟨variant, version, m, t, p⟩, salt, output⟩

def read? (cs : List Char) : Option PasswordHash :=
  match parts '$' cs with
  | [[], variant, version, costs, salt, output] => ofParts? variant version costs salt output
  | [[], variant, costs, salt, output] => ofParts? variant "v=16".toList costs salt output
  | _ => none

def render (h : PasswordHash) : List Char :=
  let p := h.parameters
  '$' :: variantName p.variant ++ "$v=".toList ++ decimal p.version.number ++
    "$m=".toList ++ decimal p.memory ++ ",t=".toList ++ decimal p.passes ++
    ",p=".toList ++ decimal p.lanes ++
    '$' :: Base64.encode .standard h.salt ++ '$' :: Base64.encode .standard h.output

/-- What keeps a hash from being computed again, if anything. Passwords and salts are taken to be shorter
than 2^32 bytes; that longer ones are refused is left out. -/
def obstacle? (h : PasswordHash) : Option HashError :=
  let p := h.parameters
  if p.lanes < 1 then some .tooFewLanes
  else if 0xFFFFFF < p.lanes then some .tooManyLanes
  else if p.memory < 8 ∨ p.memory < 8 * p.lanes then some .memoryTooSmall
  else if p.passes < 1 then some .timeTooSmall
  else if h.salt.length < 8 then some .saltTooShort
  else if h.output.length < 4 then some .outputTooShort
  else none

def matches? (h : PasswordHash) (password : List UInt8) : Except HashError Bool :=
  match h.obstacle? with
  | some e => .error e
  | none => .ok (Argon2.hash h.parameters h.output.length password h.salt == h.output)

end PasswordHash

end TokenAuth
