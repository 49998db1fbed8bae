import TokenAuth.Crypto.Words

/-!
Memory blocks of Argon2: 1024 bytes in eight rows of sixteen words, and the compression of two
blocks into one. The words of a row are fields, so that the compiled program keeps them unboxed.
-/
namespace TokenAuth.Crypto.Argon2

structure Row where
  w0 : UInt64
  w1 : UInt64
  w2 : UInt64
  w3 : UInt64
  w4 : UInt64
  w5 : UInt64
  w6 : UInt64
  w7 : UInt64
  w8 : UInt64
  w9 : UInt64
  w10 : UInt64
  w11 : UInt64
  w12 : UInt64
  w13 : UInt64
  w14 : UInt64
  w15 : UInt64

namespace Row

def zero : Row := ⟨0, 0, 0, 0, 0, 0, 0, 0, 0, 0, 0, 0, 0, 0, 0, 0⟩

def get (r : Row) : Nat → UInt64
  | 0 => r.w0
  | 1 => r.w1
  | 2 => r.w2
  | 3 => r.w3
  | 4 => r.w4
  | 5 => r.w5
  | 6 => r.w6
  | 7 => r.w7
  | 8 => r.w8
  | 9 => r.w9
  | 10 => r.w10
  | 11 => r.w11
  | 12 => r.w12
  | 13 => r.w13
  | 14 => r.w14
  | _ => r.w15

def xor (x y : Row) : Row :=
  ⟨x.w0 ^^^ y.w0, x.w1 ^^^ y.w1, x.w2 ^^^ y.w2, x.w3 ^^^ y.w3, x.w4 ^^^ y.w4, x.w5 ^^^ y.w5,
    x.w6 ^^^ y.w6, x.w7 ^^^ y.w7, x.w8 ^^^ y.w8, x.w9 ^^^ y.w9, x.w10 ^^^ y.w10, x.w11 ^^^ y.w11,
    x.w12 ^^^ y.w12, x.w13 ^^^ y.w13, x.w14 ^^^ y.w14, x.w15 ^^^ y.w15⟩

def words (r : Row) : List UInt64 := (List.range 16).map r.get

/-- The row of the first sixteen of these words, filled with zeros. -/
def ofWords (ws : List UInt64) : Row :=
  let w (i : Nat) := ws.getD i 0
  ⟨w 0, w 1, w 2, w 3, w 4, w 5, w 6, w 7, w 8, w 9, w 10, w 11, w 12, w 13, w 14, w 15⟩

end Row

/-- The sum of two words and of twice the product of their low halves. -/
@[inline] def addProduct (x y : UInt64) : UInt64 :=
  x + y + 2 * (x &&& 0xffffffff) * (y &&& 0xffffffff)

@[inline] def rotate (w : UInt64) (n : UInt64) : UInt64 := w >>> n ||| w <<< (64 - n)

/-- Mixes four words and passes them on. -/
@[inline] def mix (a b c d : UInt64) (next : UInt64 → UInt64 → UInt64 → UInt64 → α) : α :=
  let a := addProduct a b
  let d := rotate (d ^^^ a) 32
  let c := addProduct c d
  let b := rotate (b ^^^ c) 24
  let a := addProduct a b
  let d := rotate (d ^^^ a) 16
  let c := addProduct c d
  let b := rotate (b ^^^ c) 63
  next a b c d

/-- Mixes a row seen as a four by four square: its columns, then its diagonals. -/
def Row.permute (r : Row) : Row :=
  mix r.w0 r.w4 r.w8 r.w12 fun x0 x4 x8 x12 =>
  mix r.w1 r.w5 r.w9 r.w13 fun x1 x5 x9 x13 =>
  mix r.w2 r.w6 r.w10 r.w14 fun x2 x6 x10 x14 =>
  mix r.w3 r.w7 r.w11 r.w15 fun x3 x7 x11 x15 =>
  mix x0 x5 x10 x15 fun y0 y5 y10 y15 =>
  mix x1 x6 x11 x12 fun y1 y6 y11 y12 =>
  mix x2 x7 x8 x13 fun y2 y7 y8 y13 =>
  mix x3 x4 x9 x14 fun y3 y4 y9 y14 =>
  ⟨y0, y1, y2, y3, y4, y5, y6, y7, y8, y9, y10, y11, y12, y13, y14, y15⟩

structure Block where
  r0 : Row
  r1 : Row
  r2 : Row
  r3 : Row
  r4 : Row
  r5 : Row
  r6 : Row
  r7 : Row

namespace Block

def zero : Block := ⟨Row.zero, Row.zero, Row.zero, Row.zero, Row.zero, Row.zero, Row.zero, Row.zero⟩

def row (b : Block) : Nat → Row
  | 0 => b.r0
  | 1 => b.r1
  | 2 => b.r2
  | 3 => b.r3
  | 4 => b.r4
  | 5 => b.r5
  | 6 => b.r6
  | _ => b.r7

/-- Word `i` of the 128. -/
def get (b : Block) (i : Nat) : UInt64 := (b.row (i / 16)).get (i % 16)

def xor (x y : Block) : Block :=
  ⟨x.r0.xor y.r0, x.r1.xor y.r1, x.r2.xor y.r2, x.r3.xor y.r3, x.r4.xor y.r4, x.r5.xor y.r5,
    x.r6.xor y.r6, x.r7.xor y.r7⟩

@[inline] def map (f : Row → Row) (b : Block) : Block :=
  ⟨f b.r0, f b.r1, f b.r2, f b.r3, f b.r4, f b.r5, f b.r6, f b.r7⟩

/-- The words `2 * i` and `2 * i + 1` of every row. -/
def column (b : Block) (i : Nat) : Row :=
  ⟨b.r0.get (2 * i), b.r0.get (2 * i + 1), b.r1.get (2 * i), b.r1.get (2 * i + 1),
    b.r2.get (2 * i), b.r2.get (2 * i + 1), b.r3.get (2 * i), b.r3.get (2 * i + 1),
    b.r4.get (2 * i), b.r4.get (2 * i + 1), b.r5.get (2 * i), b.r5.get (2 * i + 1),
    b.r6.get (2 * i), b.r6.get (2 * i + 1), b.r7.get (2 * i), b.r7.get (2 * i + 1)⟩

/-- Exchanges rows and columns, a column being two words wide. -/
def transpose (b : Block) : Block :=
  ⟨b.column 0, b.column 1, b.column 2, b.column 3, b.column 4, b.column 5, b.column 6,
    b.column 7⟩

/-- Compresses two blocks: their difference, mixed by rows and by columns, differs from it. -/
def compress (x y : Block) : Block :=
  let d := x.xor y
  d.xor ((d.map Row.permute).transpose.map Row.permute).transpose

def bytes (b : Block) : List UInt8 :=
  (List.range 8).flatMap fun i => (b.row i).words.flatMap bytes64

/-- The block with these 1024 bytes. -/
def ofBytes (bs : List UInt8) : Block :=
  let rows := (pieces 128 bs).map fun r => Row.ofWords ((pieces 8 r).map word64)
  let r (i : Nat) := rows.getD i Row.zero
  ⟨r 0, r 1, r 2, r 3, r 4, r 5, r 6, r 7⟩

end Block

end TokenAuth.Crypto.Argon2
