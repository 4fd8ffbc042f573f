import WolandGuard.Data.Sha256

/-!
# SHA-1 and name-based UUIDs

`uuid.uuid5`: the SHA-1 digest of a namespace and a name, with the bits of the
version and the variant set. The agent derives its event ids so.
-/

set_option autoImplicit false

namespace WolandGuard.Sha1

open Sha256 (Word wordsOf)

def initialState : List Word := [0x67452301, 0xefcdab89, 0x98badcfe, 0x10325476, 0xc3d2e1f0]

/-- One more word of the message schedule, from the last sixteen, newest
first. -/
def scheduled (recent : List Word) : Word :=
  (recent.getD 2 0 ^^^ recent.getD 7 0 ^^^ recent.getD 13 0 ^^^ recent.getD 15 0).rotateLeft 1

/-- The schedule of a block, newest word first. -/
def schedule (block : List Word) : List Word :=
  (List.range 64).foldl (fun words _ => scheduled words :: words) block.reverse

/-- The function and the constant of a round. -/
def mixed (number : Nat) (b c d : Word) : Word × Word :=
  if number < 20 then ((b &&& c) ||| (~~~b &&& d), 0x5a827999)
  else if number < 40 then (b ^^^ c ^^^ d, 0x6ed9eba1)
  else if number < 60 then ((b &&& c) ||| (b &&& d) ||| (c &&& d), 0x8f1bbcdc)
  else (b ^^^ c ^^^ d, 0xca62c1d6)

def round (state : List Word) (numbered : Word × Nat) : List Word :=
  match state with
  | [a, b, c, d, e] =>
      let (function, constant) := mixed numbered.2 b c d
      [a.rotateLeft 5 + function + e + constant + numbered.1, a, b.rotateLeft 30, c, d]
  | other => other

/-- Fold one block of sixteen words into the chaining value. -/
def compress (state block : List Word) : List Word :=
  List.zipWith (· + ·) state ((schedule block).reverse.zipIdx.foldl round state)

/-- The chaining value after a number of blocks. -/
def absorb : Nat → List Word → List Word → List Word
  | 0, _, state => state
  | blocks + 1, words, state => absorb blocks (words.drop 16) (compress state (words.take 16))

/-- The five words of the digest. -/
def digest (message : List Nat) : List Word :=
  let words := wordsOf (Sha256.padded message)
  absorb (words.length / 16) words initialState

end WolandGuard.Sha1

namespace WolandGuard

/-- `uuid.UUID.bytes`. -/
def Uuid.bytes (id : Uuid) : List Nat :=
  (List.range 16).map fun place => id.toNat / 256 ^ (15 - place) % 256

/-- `uuid.uuid5`. -/
def uuid5 (name_space : Uuid) (name : String) : Uuid :=
  match Sha1.digest (name_space.bytes ++ utf8 name) with
  | a :: b :: c :: d :: _ =>
      let hash : Uuid := a ++ b ++ c ++ d
      let variant := (hash &&& ~~~((0xc000 : Uuid) <<< 48)) ||| ((0x8000 : Uuid) <<< 48)
      (variant &&& ~~~((0xf000 : Uuid) <<< 64)) ||| ((5 : Uuid) <<< 76)
  | _ => 0

example : uuid5 0x6ba7b8109dad11d180b400c04fd430c8 "python.org" =
    0x886313e13b8a53729b900c9aee199e5d := by decide +kernel

end WolandGuard
