import TokenAuth.Crypto.Words

/-!
The hash function BLAKE2b without a key, with digests of 1 to 64 bytes.
-/
namespace TokenAuth.Crypto.Blake2b

def startWords : List UInt64 :=
  [0x6a09e667f3bcc908, 0xbb67ae8584caa73b, 0x3c6ef372fe94f82b, 0xa54ff53a5f1d36f1,
    0x510e527fade682d1, 0x9b05688c2b3e6c1f, 0x1f83d9abfb41bd6b, 0x5be0cd19137e2179]

/-- The order in which a round takes the words of the message. -/
def messageOrders : List (List Nat) := [
  [0, 1, 2, 3, 4, 5, 6, 7, 8, 9, 10, 11, 12, 13, 14, 15],
  [14, 10, 4, 8, 9, 15, 13, 6, 1, 12, 0, 2, 11, 7, 5, 3],
  [11, 8, 12, 0, 5, 2, 15, 13, 10, 14, 3, 6, 7, 1, 9, 4],
  [7, 9, 3, 1, 13, 12, 11, 14, 2, 6, 5, 10, 4, 0, 15, 8],
  [9, 0, 5, 7, 2, 4, 10, 15, 14, 1, 11, 12, 6, 8, 3, 13],
  [2, 12, 6, 10, 0, 11, 8, 3, 4, 13, 7, 5, 15, 14, 1, 9],
  [12, 5, 1, 15, 14, 13, 4, 10, 0, 7, 6, 3, 9, 2, 8, 11],
  [13, 11, 7, 14, 12, 1, 3, 9, 5, 0, 15, 4, 8, 6, 2, 10],
  [6, 15, 14, 9, 11, 3, 0, 8, 12, 2, 13, 7, 1, 4, 10, 5],
  [10, 2, 8, 4, 7, 6, 1, 5, 15, 11, 9, 14, 3, 12, 13, 0],
  [0, 1, 2, 3, 4, 5, 6, 7, 8, 9, 10, 11, 12, 13, 14, 15],
  [14, 10, 4, 8, 9, 15, 13, 6, 1, 12, 0, 2, 11, 7, 5, 3]]

@[inline] def rotate (w : UInt64) (n : UInt64) : UInt64 := w >>> n ||| w <<< (64 - n)

/-- The four places that one mixing step works on: the columns, then the diagonals. -/
def places : List (Nat × Nat × Nat × Nat) := [
  (0, 4, 8, 12), (1, 5, 9, 13), (2, 6, 10, 14), (3, 7, 11, 15),
  (0, 5, 10, 15), (1, 6, 11, 12), (2, 7, 8, 13), (3, 4, 9, 14)]

def mix (v : Array UInt64) (at4 : Nat × Nat × Nat × Nat) (x y : UInt64) : Array UInt64 :=
  let (i, j, k, l) := at4
  let a := v.getD i 0 + v.getD j 0 + x
  let d := rotate (v.getD l 0 ^^^ a) 32
  let c := v.getD k 0 + d
  let b := rotate (v.getD j 0 ^^^ c) 24
  let a := a + b + y
  let d := rotate (d ^^^ a) 16
  let c := c + d
  let b := rotate (b ^^^ c) 63
  (((v.setIfInBounds i a).setIfInBounds j b).setIfInBounds k c).setIfInBounds l d

def round (message : Array UInt64) (v : Array UInt64) (order : List Nat) : Array UInt64 :=
  (places.zip (pieces 2 order)).foldl (fun v p =>
    match p.2 with
    | [x, y] => mix v p.1 (message.getD x 0) (message.getD y 0)
    | _ => v) v

/-- Takes in one block. `total` counts the message bytes up to and with this block. -/
def compress (state : List UInt64) (block : List UInt8) (total : Nat) (isLast : Bool) :
    List UInt64 :=
  let filled := block ++ List.replicate (128 - block.length) 0
  let message := ((pieces 8 filled).map word64).toArray
  let start := startWords.take 4 ++
    [(0x510e527fade682d1 : UInt64) ^^^ total.toUInt64,
      0x9b05688c2b3e6c1f ^^^ (total / 18446744073709551616).toUInt64,
      if isLast then ~~~0x1f83d9abfb41bd6b else 0x1f83d9abfb41bd6b, 0x5be0cd19137e2179]
  let v := messageOrders.foldl (round message) (state ++ start).toArray
  (List.range 8).map fun i => state.getD i 0 ^^^ v.getD i 0 ^^^ v.getD (i + 8) 0

/-- Takes in the blocks of a message of which `before` bytes have been taken in. -/
def absorb (state : List UInt64) (before : Nat) : List (List UInt8) → List UInt64
  | [] => compress state [] before true
  | [b] => compress state b (before + b.length) true
  | b :: bs => absorb (compress state b (before + b.length) false) (before + b.length) bs

/-- The digest of `size` bytes. -/
def digest (size : Nat) (bs : List UInt8) : List UInt8 :=
  let start := startWords.modifyHead (· ^^^ 0x01010000 ^^^ size.toUInt64)
  ((absorb start 0 (pieces 128 bs)).flatMap bytes64).take size

end TokenAuth.Crypto.Blake2b
