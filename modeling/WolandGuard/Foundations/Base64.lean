import Mathlib.Data.List.Basic

/-!
# Base64 without padding

The URL-safe alphabet, three bytes in four characters, and the last one or two
bytes in two or three. Decoding takes the bits of whole bytes and drops what is
left, so several texts may decode to the same bytes; encoding again shows which of
them is the canonical one.
-/

set_option autoImplicit false

namespace WolandGuard.Foundations

/-- The alphabet of `urlsafe_b64encode`. -/
def base64Alphabet : List Char :=
  "ABCDEFGHIJKLMNOPQRSTUVWXYZabcdefghijklmnopqrstuvwxyz0123456789-_".toList

/-- The character of six bits. -/
def base64Char (n : Nat) : Char := base64Alphabet.getD n 'A'

/-- The six bits of a character. -/
def base64Value (c : Char) : Option Nat :=
  if base64Alphabet.contains c then some (base64Alphabet.idxOf c) else none

/-- `urlsafe_b64encode(bytes).rstrip("=")`. -/
def base64Encode : List Nat → List Char
  | [] => []
  | [a] => [base64Char (a / 4), base64Char (a % 4 * 16)]
  | [a, b] => [base64Char (a / 4), base64Char (a % 4 * 16 + b / 16), base64Char (b % 16 * 4)]
  | a :: b :: c :: rest =>
      base64Char (a / 4) :: base64Char (a % 4 * 16 + b / 16) ::
        base64Char (b % 16 * 4 + c / 64) :: base64Char (c % 64) :: base64Encode rest

/-- `b64decode(text + padding, altchars=b"-_", validate=True)`. -/
def base64Decode : List Char → Option (List Nat)
  | [] => some []
  | [_] => none
  | [w, x] => do
      let w ← base64Value w
      let x ← base64Value x
      return [w * 4 + x / 16]
  | [w, x, y] => do
      let w ← base64Value w
      let x ← base64Value x
      let y ← base64Value y
      return [w * 4 + x / 16, x % 16 * 16 + y / 4]
  | w :: x :: y :: z :: rest => do
      let w ← base64Value w
      let x ← base64Value x
      let y ← base64Value y
      let z ← base64Value z
      let bytes ← base64Decode rest
      return (w * 4 + x / 16) :: (x % 16 * 16 + y / 4) :: (y % 4 * 64 + z) :: bytes

/-! ## Round trip -/

theorem base64Value_base64Char {n : Nat} (small : n < 64) :
    base64Value (base64Char n) = some n := by
  have every : ∀ n < 64, base64Value (base64Char n) = some n := by decide +kernel
  exact every n small

/-- **Decoding gives the encoded bytes back.** -/
theorem base64Decode_base64Encode {bytes : List Nat} (small : ∀ byte ∈ bytes, byte < 256) :
    base64Decode (base64Encode bytes) = some bytes := by
  induction bytes using base64Encode.induct with
  | case1 => rfl
  | case2 a =>
      have a_small := small a (by simp)
      have first := @base64Value_base64Char (a / 4) (by omega)
      have second := @base64Value_base64Char (a % 4 * 16) (by omega)
      rw [base64Encode, base64Decode, first, second]
      refine congrArg some (congrArg (· :: []) ?_)
      omega
  | case3 a b =>
      have a_small := small a (by simp)
      have b_small := small b (by simp)
      have first := @base64Value_base64Char (a / 4) (by omega)
      have second := @base64Value_base64Char (a % 4 * 16 + b / 16) (by omega)
      have third := @base64Value_base64Char (b % 16 * 4) (by omega)
      rw [base64Encode, base64Decode, first, second, third]
      refine congrArg some (List.cons_eq_cons.mpr ⟨?_, congrArg (· :: []) ?_⟩)
      · omega
      · omega
  | case4 a b c rest ih =>
      have a_small := small a (by simp)
      have b_small := small b (by simp)
      have c_small := small c (by simp)
      have first := @base64Value_base64Char (a / 4) (by omega)
      have second := @base64Value_base64Char (a % 4 * 16 + b / 16) (by omega)
      have third := @base64Value_base64Char (b % 16 * 4 + c / 64) (by omega)
      have fourth := @base64Value_base64Char (c % 64) (by omega)
      have others := ih fun byte member => small byte (by simp [member])
      rw [base64Encode, base64Decode, first, second, third, fourth, others]
      refine congrArg some (List.cons_eq_cons.mpr ⟨?_, List.cons_eq_cons.mpr ⟨?_,
        congrArg (· :: rest) ?_⟩⟩)
      · omega
      · omega
      · omega

/-! ## Characters and length -/

theorem base64Char_mem (n : Nat) : base64Char n ∈ base64Alphabet := by
  rw [base64Char, List.getD_eq_getElem?_getD]
  cases found : base64Alphabet[n]? with
  | none =>
      have first : 'A' ∈ base64Alphabet := by decide
      exact first
  | some c => exact List.mem_of_getElem? found

theorem mem_base64Encode {bytes : List Nat} {c : Char} (member : c ∈ base64Encode bytes) :
    c ∈ base64Alphabet := by
  induction bytes using base64Encode.induct with
  | case1 => cases member
  | case2 a =>
      simp only [base64Encode, List.mem_cons, List.not_mem_nil, or_false] at member
      rcases member with rfl | rfl
      · exact base64Char_mem _
      · exact base64Char_mem _
  | case3 a b =>
      simp only [base64Encode, List.mem_cons, List.not_mem_nil, or_false] at member
      rcases member with rfl | rfl | rfl
      · exact base64Char_mem _
      · exact base64Char_mem _
      · exact base64Char_mem _
  | case4 a b c rest ih =>
      simp only [base64Encode, List.mem_cons] at member
      rcases member with rfl | rfl | rfl | rfl | later
      · exact base64Char_mem _
      · exact base64Char_mem _
      · exact base64Char_mem _
      · exact base64Char_mem _
      · exact ih later

/-- Four characters for three bytes. -/
theorem length_base64Encode (bytes : List Nat) :
    (base64Encode bytes).length = (4 * bytes.length + 2) / 3 := by
  induction bytes using base64Encode.induct with
  | case1 => rfl
  | case2 a => simp [base64Encode]
  | case3 a b => simp [base64Encode]
  | case4 a b c rest ih =>
      simp only [base64Encode, List.length_cons, ih]
      omega

end WolandGuard.Foundations
