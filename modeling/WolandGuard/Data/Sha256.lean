import WolandGuard.Data.Values

/-!
# SHA-256

`hashlib.sha256` over the UTF-8 bytes of a text. Correlation hashes, request
hashes and the keys of advisory locks are digests of canonical texts.
-/

set_option autoImplicit false

namespace WolandGuard.Sha256

/-- One 32-bit word. -/
abbrev Word := BitVec 32

/-- The words of the chaining value, first to last. -/
def initialState : List Word :=
  [0x6a09e667, 0xbb67ae85, 0x3c6ef372, 0xa54ff53a, 0x510e527f, 0x9b05688c, 0x1f83d9ab, 0x5be0cd19]

def roundConstants : List Word :=
  [0x428a2f98, 0x71374491, 0xb5c0fbcf, 0xe9b5dba5, 0x3956c25b, 0x59f111f1, 0x923f82a4, 0xab1c5ed5,
   0xd807aa98, 0x12835b01, 0x243185be, 0x550c7dc3, 0x72be5d74, 0x80deb1fe, 0x9bdc06a7, 0xc19bf174,
   0xe49b69c1, 0xefbe4786, 0x0fc19dc6, 0x240ca1cc, 0x2de92c6f, 0x4a7484aa, 0x5cb0a9dc, 0x76f988da,
   0x983e5152, 0xa831c66d, 0xb00327c8, 0xbf597fc7, 0xc6e00bf3, 0xd5a79147, 0x06ca6351, 0x14292967,
   0x27b70a85, 0x2e1b2138, 0x4d2c6dfc, 0x53380d13, 0x650a7354, 0x766a0abb, 0x81c2c92e, 0x92722c85,
   0xa2bfe8a1, 0xa81a664b, 0xc24b8b70, 0xc76c51a3, 0xd192e819, 0xd6990624, 0xf40e3585, 0x106aa070,
   0x19a4c116, 0x1e376c08, 0x2748774c, 0x34b0bcb5, 0x391c0cb3, 0x4ed8aa4a, 0x5b9cca4f, 0x682e6ff3,
   0x748f82ee, 0x78a5636f, 0x84c87814, 0x8cc70208, 0x90befffa, 0xa4506ceb, 0xbef9a3f7, 0xc67178f2]

/-- The message followed by a one bit, zeros and its length in bits. -/
def padded (message : List Nat) : List Nat :=
  let zeros := (119 - message.length % 64) % 64
  let bits := message.length * 8
  message ++ 0x80 :: List.replicate zeros 0 ++
    (List.range 8).map fun i => bits / 256 ^ (7 - i) % 256

/-- Big-endian words. -/
def wordsOf : List Nat → List Word
  | a :: b :: c :: d :: rest =>
      BitVec.ofNat 32 (a * 2 ^ 24 + b * 2 ^ 16 + c * 2 ^ 8 + d) :: wordsOf rest
  | _ => []

/-- One more word of the message schedule, from the last sixteen, newest
first. -/
def scheduled (recent : List Word) : Word :=
  let w15 := recent.getD 14 0
  let w2 := recent.getD 1 0
  let s0 := w15.rotateRight 7 ^^^ w15.rotateRight 18 ^^^ (w15 >>> 3)
  let s1 := w2.rotateRight 17 ^^^ w2.rotateRight 19 ^^^ (w2 >>> 10)
  recent.getD 15 0 + s0 + recent.getD 6 0 + s1

/-- The schedule of a block, newest word first. -/
def schedule (block : List Word) : List Word :=
  (List.range 48).foldl (fun words _ => scheduled words :: words) block.reverse

def round (state : List Word) (key : Word × Word) : List Word :=
  match state with
  | [a, b, c, d, e, f, g, h] =>
      let s1 := e.rotateRight 6 ^^^ e.rotateRight 11 ^^^ e.rotateRight 25
      let choice := (e &&& f) ^^^ (~~~e &&& g)
      let first := h + s1 + choice + key.1 + key.2
      let s0 := a.rotateRight 2 ^^^ a.rotateRight 13 ^^^ a.rotateRight 22
      let majority := (a &&& b) ^^^ (a &&& c) ^^^ (b &&& c)
      [first + s0 + majority, a, b, c, d + first, e, f, g]
  | other => other

/-- Fold one block of sixteen words into the chaining value. -/
def compress (state block : List Word) : List Word :=
  let rounds := roundConstants.zip (schedule block).reverse
  List.zipWith (· + ·) state (rounds.foldl round state)

/-- The chaining value after a number of blocks. -/
def absorb : Nat → List Word → List Word → List Word
  | 0, _, state => state
  | blocks + 1, words, state => absorb blocks (words.drop 16) (compress state (words.take 16))

/-- The eight words of the digest. -/
def digest (message : List Nat) : List Word :=
  let words := wordsOf (padded message)
  absorb (words.length / 16) words initialState

theorem round_length {state : List Word} (key : Word × Word) (eight : state.length = 8) :
    (round state key).length = 8 := by
  match state, eight with
  | [_, _, _, _, _, _, _, _], _ => rfl

theorem foldl_round_length {state : List Word} (keys : List (Word × Word))
    (eight : state.length = 8) : (keys.foldl round state).length = 8 := by
  induction keys generalizing state with
  | nil => exact eight
  | cons key rest ih => exact ih (round_length key eight)

theorem absorb_length {state : List Word} (blocks : Nat) (words : List Word)
    (eight : state.length = 8) : (absorb blocks words state).length = 8 := by
  induction blocks generalizing words state with
  | zero => exact eight
  | succ blocks ih =>
      refine ih _ ?_
      simp only [compress, List.length_zipWith, foldl_round_length _ eight, eight, Nat.min_self]

/-- A digest has eight words. -/
theorem digest_length (message : List Nat) : (digest message).length = 8 :=
  absorb_length _ _ rfl

end Sha256

/-- The UTF-8 bytes of a text. -/
def utf8 (text : String) : List Nat :=
  text.toList.flatMap fun c =>
    let n := c.toNat
    if n < 0x80 then [n]
    else if n < 0x800 then [0xC0 + n / 64, 0x80 + n % 64]
    else if n < 0x10000 then [0xE0 + n / 4096, 0x80 + n / 64 % 64, 0x80 + n % 64]
    else [0xF0 + n / 262144, 0x80 + n / 4096 % 64, 0x80 + n / 64 % 64, 0x80 + n % 64]

/-- `hashlib.sha256(text.encode("utf-8")).hexdigest()`. -/
def sha256Hex (text : String) : String :=
  String.join ((Sha256.digest (utf8 text)).map fun word => hexText 8 word.toNat)

example : sha256Hex "abc" =
    "ba7816bf8f01cfea414140de5dae2223b00361a396177a9cb410ff61f20015ad" := by decide +kernel

/-- `int.from_bytes(hashlib.sha256(text.encode()).digest()[:8], "big", signed=True)`, the key of
an advisory lock. -/
def lockKey (material : String) : Int :=
  match Sha256.digest (utf8 material) with
  | first :: second :: _ => (first ++ second).toInt
  | _ => 0

end WolandGuard
