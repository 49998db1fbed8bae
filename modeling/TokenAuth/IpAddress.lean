import TokenAuth.Text.Decimal
import TokenAuth.Text.Hex

/-!
IP addresses and socket addresses as text. An IPv6 address is written with its first longest run of
two or more zero groups left out, and a mapped IPv4 address with its last part in decimal. An IPv6
address stands in brackets before a port, so the colons of both do not mix.
-/
namespace TokenAuth

open Text

structure Ipv4 where
  a : UInt8
  b : UInt8
  c : UInt8
  d : UInt8
  deriving DecidableEq

structure Ipv6 where
  groups : List UInt16
  length_groups : groups.length = 8
  deriving DecidableEq

/-- The two IPv6 groups that the address stands for. -/
def Ipv4.groups (x : Ipv4) : List UInt16 :=
  [x.a.toUInt16 <<< 8 ||| x.b.toUInt16, x.c.toUInt16 <<< 8 ||| x.d.toUInt16]

def Ipv6.ofGroups? (gs : List UInt16) : Option Ipv6 :=
  if h : gs.length = 8 then some ⟨gs, h⟩ else none

inductive IpAddress
  | v4 (address : Ipv4)
  | v6 (address : Ipv6)
  deriving DecidableEq

/-- An address and a port. An IPv6 address may name a zone by its number. -/
structure SocketAddress where
  address : IpAddress
  zone : UInt32
  port : UInt16
  deriving DecidableEq

namespace IpAddress

/-- One to four hexadecimal digits. -/
def readGroup (cs : List Char) : Option (UInt16 × List Char) :=
  let ds := cs.takeWhile isHexDigit
  if ds = [] ∨ 4 < ds.length then none
  else (hexNumber? ds).map fun n => (n.toUInt16, cs.drop ds.length)

/-- One of the four numbers of an IPv4 address, without leading zeros. -/
def readByte (cs : List Char) : Option (UInt8 × List Char) :=
  let ds := cs.takeWhile isDigit
  if ds = [] ∨ 3 < ds.length ∨ (1 < ds.length ∧ ds.head? = some '0') ∨ 255 < numberOf ds then none
  else some ((numberOf ds).toUInt8, cs.drop ds.length)

/-- Decimal digits with any number of leading zeros, up to `most`. -/
def readNumber (most : Nat) (cs : List Char) : Option (Nat × List Char) :=
  let ds := cs.takeWhile isDigit
  if ds = [] ∨ most < numberOf ds then none else some (numberOf ds, cs.drop ds.length)

def readChar (c : Char) : List Char → Option (List Char)
  | [] => none
  | d :: r => if d = c then some r else none

def readIpv4 (cs : List Char) : Option (Ipv4 × List Char) := do
  let (a, cs) ← readByte cs
  let cs ← readChar '.' cs
  let (b, cs) ← readByte cs
  let cs ← readChar '.' cs
  let (c, cs) ← readByte cs
  let cs ← readChar '.' cs
  let (d, cs) ← readByte cs
  pure (⟨a, b, c, d⟩, cs)

structure GroupsRead where
  groups : List UInt16
  endsInIpv4 : Bool
  rest : List Char

/-- Reads up to `room` groups with colons between them. An IPv4 address may stand for the last two. -/
def readGroups : Nat → Bool → List Char → GroupsRead
  | 0, _, cs => ⟨[], false, cs⟩
  | room + 1, isFirst, cs =>
    match if isFirst then some cs else readChar ':' cs with
    | none => ⟨[], false, cs⟩
    | some inner =>
      match if 0 < room then readIpv4 inner else none with
      | some (x, rest) => ⟨x.groups, true, rest⟩
      | none =>
        match readGroup inner with
        | none => ⟨[], false, cs⟩
        | some (g, rest) =>
          let more := readGroups room false rest
          ⟨g :: more.groups, more.endsInIpv4, more.rest⟩

/-- Eight groups, or a double colon for at least one group of zeros. -/
def readIpv6 (cs : List Char) : Option (Ipv6 × List Char) :=
  let head := readGroups 8 true cs
  if head.groups.length = 8 then (Ipv6.ofGroups? head.groups).map (·, head.rest)
  else if head.endsInIpv4 then none
  else
    match head.rest with
    | ':' :: ':' :: rest =>
      let tail := readGroups (7 - head.groups.length) true rest
      let zeros := List.replicate (8 - head.groups.length - tail.groups.length) 0
      (Ipv6.ofGroups? (head.groups ++ zeros ++ tail.groups)).map (·, tail.rest)
    | _ => none

/-- The address that a text is, as a whole. -/
def read? (cs : List Char) : Option IpAddress :=
  match readIpv4 cs with
  | some (x, []) => some (.v4 x)
  | _ =>
    match readIpv6 cs with
    | some (x, []) => some (.v6 x)
    | _ => none

def renderIpv4 (x : Ipv4) : List Char :=
  decimal x.a.toNat ++ '.' :: decimal x.b.toNat ++ '.' :: decimal x.c.toNat ++ '.' :: decimal x.d.toNat

/-- How many groups from the start on are zero. -/
def zeroRun (gs : List UInt16) : Nat := (gs.takeWhile (· = 0)).length

/-- Start and length of the first longest run of zero groups. -/
def longestZeroRun : Nat → List UInt16 → Nat × Nat
  | _, [] => (0, 0)
  | at0, g :: gs =>
    let here := zeroRun (g :: gs)
    let later := longestZeroRun (at0 + 1) gs
    if later.2 ≤ here then (at0, here) else later

def renderGroups : List UInt16 → List Char
  | [] => []
  | [g] => hex g.toNat
  | g :: gs => hex g.toNat ++ ':' :: renderGroups gs

def renderIpv6 (x : Ipv6) : List Char :=
  match x.groups with
  | [0, 0, 0, 0, 0, 0xffff, g, h] =>
    "::ffff:".toList ++ renderIpv4 ⟨(g >>> 8).toUInt8, g.toUInt8, (h >>> 8).toUInt8, h.toUInt8⟩
  | gs =>
    let run := longestZeroRun 0 gs
    if 1 < run.2 then
      renderGroups (gs.take run.1) ++ "::".toList ++ renderGroups (gs.drop (run.1 + run.2))
    else renderGroups gs

def render : IpAddress → List Char
  | v4 x => renderIpv4 x
  | v6 x => renderIpv6 x

end IpAddress

namespace SocketAddress

open IpAddress

def readPort (cs : List Char) : Option (UInt16 × List Char) := do
  let cs ← readChar ':' cs
  let (n, cs) ← readNumber 65535 cs
  pure (n.toUInt16, cs)

/-- A zone after a percent sign. Without one, or with one that is no number, nothing is read. -/
def readZone (cs : List Char) : UInt32 × List Char :=
  match cs with
  | '%' :: r =>
    match readNumber 4294967295 r with
    | some (n, r) => (n.toUInt32, r)
    | none => (0, cs)
  | _ => (0, cs)

def readV4 (cs : List Char) : Option SocketAddress := do
  let (x, cs) ← readIpv4 cs
  let (port, cs) ← readPort cs
  if cs = [] then pure ⟨.v4 x, 0, port⟩ else none

def readV6 (cs : List Char) : Option SocketAddress := do
  let cs ← readChar '[' cs
  let (x, cs) ← readIpv6 cs
  let (zone, cs) := readZone cs
  let cs ← readChar ']' cs
  let (port, cs) ← readPort cs
  if cs = [] then pure ⟨.v6 x, zone, port⟩ else none

def read? (cs : List Char) : Option SocketAddress :=
  match readV4 cs with
  | some s => some s
  | none => readV6 cs

def render (s : SocketAddress) : List Char :=
  let port := ':' :: decimal s.port.toNat
  match s.address with
  | .v4 x => renderIpv4 x ++ port
  | .v6 x =>
    let zone := if s.zone = 0 then [] else '%' :: decimal s.zone.toNat
    '[' :: renderIpv6 x ++ zone ++ ']' :: port

end SocketAddress

end TokenAuth
