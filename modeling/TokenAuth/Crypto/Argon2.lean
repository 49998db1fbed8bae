import TokenAuth.Crypto.Argon2.Block
import TokenAuth.Crypto.Blake2b

/-!
The password hashing function Argon2 in its three variants and two versions. A matrix of blocks, one
row a lane, is filled in several passes; each pass has four slices, and a lane may refer to another
one only up to the slices that are finished.
-/
namespace TokenAuth.Crypto.Argon2

/-- How a lane picks the block it refers to: by the data, by the position, or by the position in the
first half of the first pass and by the data after it. -/
inductive Variant
  | dataDependent
  | dataIndependent
  | hybrid
  deriving DecidableEq

/-- In the later version a later pass combines a block with what it overwrites. -/
inductive Version
  | overwriting
  | combining
  deriving DecidableEq

def Variant.number : Variant → Nat
  | .dataDependent => 0
  | .dataIndependent => 1
  | .hybrid => 2

def Version.number : Version → Nat
  | .overwriting => 16
  | .combining => 19

structure Parameters where
  variant : Variant
  version : Version
  /-- Memory in blocks. -/
  memory : Nat
  passes : Nat
  lanes : Nat
  deriving DecidableEq

def le32 (n : Nat) : List UInt8 := bytes32 n.toUInt32

/-- Pieces of 32 bytes from a chain of digests, the last digest in full length. -/
def chain : Nat → Nat → List UInt8 → List UInt8
  | 0, rest, v => Blake2b.digest rest v
  | n + 1, rest, v =>
    let w := Blake2b.digest 64 v
    w.take 32 ++ chain n rest w

/-- A hash of any size: one digest up to 64 bytes, a chain of digests above. -/
def longHash (size : Nat) (bs : List UInt8) : List UInt8 :=
  let links := if size ≤ 64 then 0 else (size + 31) / 32 - 2
  chain links (size - 32 * links) (le32 size ++ bs)

namespace Parameters

def segmentLength (p : Parameters) : Nat := p.memory / (4 * p.lanes)

def laneLength (p : Parameters) : Nat := 4 * p.segmentLength

def blockCount (p : Parameters) : Nat := p.lanes * p.laneLength

/-- The digest of the parameters and the inputs, from which all blocks descend. -/
def seed (p : Parameters) (size : Nat) (password salt : List UInt8) : List UInt8 :=
  Blake2b.digest 64 <|
    le32 p.lanes ++ le32 size ++ le32 p.memory ++ le32 p.passes ++ le32 p.version.number ++
      le32 p.variant.number ++ le32 password.length ++ password ++ le32 salt.length ++ salt ++
      le32 0 ++ le32 0

def firstBlock (seed : List UInt8) (lane column : Nat) : Block :=
  Block.ofBytes (longHash 1024 (seed ++ le32 column ++ le32 lane))

/-- The empty matrix but for the first two columns. -/
def start (p : Parameters) (seed : List UInt8) : Array Block :=
  (List.range p.lanes).foldl
    (fun m lane =>
      (m.setIfInBounds (lane * p.laneLength) (firstBlock seed lane 0)).setIfInBounds
        (lane * p.laneLength + 1) (firstBlock seed lane 1))
    (Array.replicate p.blockCount Block.zero)

/-- Where a segment is filled. -/
structure Segment where
  pass : Nat
  slice : Nat
  lane : Nat

/-- Whether the positions alone decide what a segment refers to. -/
def picksByPosition (p : Parameters) (s : Segment) : Bool :=
  match p.variant with
  | .dataDependent => false
  | .dataIndependent => true
  | .hybrid => s.pass == 0 && s.slice < 2

/-- The pseudo-random words of a segment, 128 for each value of the counter. -/
def addressBlock (p : Parameters) (s : Segment) (counter : Nat) : Block :=
  let input := Block.ofBytes ((
    [s.pass, s.lane, s.slice, p.blockCount, p.passes, p.variant.number, counter].flatMap
      fun n => bytes64 n.toUInt64) ++ List.replicate 968 0)
  Block.zero.compress (Block.zero.compress input)

def addressBlocks (p : Parameters) (s : Segment) : Array Block :=
  ((List.range ((p.segmentLength + 127) / 128)).map fun i => p.addressBlock s (i + 1)).toArray

/-- How many blocks may be referred to from place `index` of a segment. -/
def reach (p : Parameters) (s : Segment) (index : Nat) (sameLane : Bool) : Nat :=
  let finished := if s.pass = 0 then s.slice * p.segmentLength else 3 * p.segmentLength
  if sameLane then finished + index - 1 else finished - (if index = 0 then 1 else 0)

/-- The place in its lane that a pseudo-random word refers to. Near places are likelier. -/
def referredPlace (p : Parameters) (s : Segment) (index : Nat) (sameLane : Bool) (random : UInt64) :
    Nat :=
  let low := (random &&& 0xffffffff).toNat
  let area := p.reach s index sameLane
  let back := area * (low * low / 4294967296) / 4294967296
  let first := if s.pass = 0 then 0 else (s.slice + 1) * p.segmentLength
  (first + (area - 1 - back)) % p.laneLength

/-- Fills place `index` of a segment from the block before it and the one it refers to. -/
def fillBlock (p : Parameters) (s : Segment) (addresses : Array Block) (m : Array Block)
    (index : Nat) : Array Block :=
  let laneStart := s.lane * p.laneLength
  let place := s.slice * p.segmentLength + index
  let before := laneStart + (if place = 0 then p.laneLength else place) - 1
  let previous := m.getD before Block.zero
  let random :=
    if p.picksByPosition s then (addresses.getD (index / 128) Block.zero).get (index % 128)
    else previous.r0.w0
  let lane :=
    if s.pass = 0 ∧ s.slice = 0 then s.lane else (random >>> 32).toNat % p.lanes
  let other := m.getD (lane * p.laneLength + p.referredPlace s index (lane == s.lane) random)
    Block.zero
  let made := previous.compress other
  let made :=
    if p.version = .combining ∧ s.pass ≠ 0 then made.xor (m.getD (laneStart + place) Block.zero)
    else made
  m.setIfInBounds (laneStart + place) made

def fillSegment (p : Parameters) (m : Array Block) (s : Segment) : Array Block :=
  let addresses := if p.picksByPosition s then p.addressBlocks s else #[]
  let first := if s.pass = 0 ∧ s.slice = 0 then 2 else 0
  (List.range' first (p.segmentLength - first)).foldl (p.fillBlock s addresses) m

/-- All segments, slice by slice in every pass. -/
def segments (p : Parameters) : List Segment :=
  (List.range p.passes).flatMap fun pass =>
    (List.range 4).flatMap fun slice => (List.range p.lanes).map fun lane => ⟨pass, slice, lane⟩

/-- The sum of the last blocks of the lanes. -/
def lastColumn (p : Parameters) (m : Array Block) : Block :=
  (List.range p.lanes).foldl
    (fun b lane => b.xor (m.getD (lane * p.laneLength + p.laneLength - 1) Block.zero)) Block.zero

end Parameters

/-- The raw hash of a password under a salt, of `size` bytes. -/
def hash (p : Parameters) (size : Nat) (password salt : List UInt8) : List UInt8 :=
  longHash size
    (p.lastColumn (p.segments.foldl p.fillSegment (p.start (p.seed size password salt)))).bytes

end TokenAuth.Crypto.Argon2
