import WolandGuard.Data.Sha256

/-!
# HMAC

`hmac.new(key, message, sha256)` over lists of bytes.
-/

set_option autoImplicit false

namespace WolandGuard

namespace Sha256

/-- `hashlib.sha256(message).digest()`. -/
def digestBytes (message : List Nat) : List Nat :=
  (digest message).flatMap fun word =>
    [word.toNat / 2 ^ 24 % 256, word.toNat / 2 ^ 16 % 256, word.toNat / 2 ^ 8 % 256,
      word.toNat % 256]

/-- The key of a block: hashed when it is longer, and filled up with zeros. -/
def blockKey (key : List Nat) : List Nat :=
  let short := if 64 < key.length then digestBytes key else key
  short ++ List.replicate (64 - short.length) 0

end Sha256

/-- `hmac.new(key, message, sha256).hexdigest()`. -/
def hmacHex (key message : List Nat) : String :=
  let block := Sha256.blockKey key
  let inner := Sha256.digestBytes (block.map (· ^^^ 0x36) ++ message)
  let outer := Sha256.digest (block.map (· ^^^ 0x5c) ++ inner)
  String.join (outer.map fun word => hexText 8 word.toNat)

example : hmacHex (utf8 "key") (utf8 "The quick brown fox jumps over the lazy dog") =
    "f7bc83f430538424b13298e6aa6fb143ef4d59a14946175997479dbc2d1a3cd8" := by decide +kernel

end WolandGuard
