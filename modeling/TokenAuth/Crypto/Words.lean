/-!
Machine words as bytes, least or most significant byte first.
-/
namespace TokenAuth.Crypto

def bytes32 (w : UInt32) : List UInt8 :=
  [w.toUInt8, (w >>> 8).toUInt8, (w >>> 16).toUInt8, (w >>> 24).toUInt8]

def bytes64 (w : UInt64) : List UInt8 :=
  [w.toUInt8, (w >>> 8).toUInt8, (w >>> 16).toUInt8, (w >>> 24).toUInt8,
    (w >>> 32).toUInt8, (w >>> 40).toUInt8, (w >>> 48).toUInt8, (w >>> 56).toUInt8]

/-- The word with these bytes, the least significant byte first. -/
def word64 (bs : List UInt8) : UInt64 := bs.foldr (fun b w => w <<< 8 ||| b.toUInt64) 0

/-- The word with these bytes, the most significant byte first. -/
def wordOfBig32 (bs : List UInt8) : UInt32 := bs.foldl (fun w b => w <<< 8 ||| b.toUInt32) 0

/-- Consecutive pieces of `n` elements; the last one may be shorter. -/
def pieces (n : Nat) (xs : List α) : List (List α) :=
  if _h : 0 < n ∧ 0 < xs.length then xs.take n :: pieces n (xs.drop n) else []
termination_by xs.length
decreasing_by simp only [List.length_drop]; omega

theorem length_bytes64 (w : UInt64) : (bytes64 w).length = 8 := rfl

end TokenAuth.Crypto
