import TokenAuth.Crypto.Sha256

/-!
Keyed authentication codes, HMAC with SHA-256. A code has 32 bytes.
-/
namespace TokenAuth.Crypto.Hmac

/-- The key filled with zeros to a block; a key longer than a block is hashed first. -/
def keyBlock (key : List UInt8) : List UInt8 :=
  let short := if 64 < key.length then Sha256.digest key else key
  short ++ List.replicate (64 - short.length) 0

def code (key message : List UInt8) : List UInt8 :=
  let block := keyBlock key
  Sha256.digest (block.map (· ^^^ 0x5c) ++ Sha256.digest (block.map (· ^^^ 0x36) ++ message))

theorem length_code (key message : List UInt8) : (code key message).length = 32 :=
  Sha256.length_digest _

end TokenAuth.Crypto.Hmac
