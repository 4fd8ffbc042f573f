import WolandGuard.Data.Sha256
import WolandGuard.Foundations.Codes

/-!
# Reading UTF-8

`bytes.decode("utf-8")`: each character from its shortest form, and neither
surrogates nor values beyond the last code point.
-/

set_option autoImplicit false

namespace WolandGuard

open Foundations

/-- The bytes of one character. -/
def utf8Char (c : Char) : List Nat :=
  let n := c.toNat
  if n < 0x80 then [n]
  else if n < 0x800 then [0xC0 + n / 64, 0x80 + n % 64]
  else if n < 0x10000 then [0xE0 + n / 4096, 0x80 + n / 64 % 64, 0x80 + n % 64]
  else [0xF0 + n / 262144, 0x80 + n / 4096 % 64, 0x80 + n / 64 % 64, 0x80 + n % 64]

theorem utf8_eq (text : String) : utf8 text = text.toList.flatMap utf8Char := rfl

/-- The six bits of a continuation byte. -/
def continuation (byte : Nat) : Option Nat :=
  if 0x80 ≤ byte ∧ byte < 0xC0 then some (byte - 0x80) else none

/-- A character of at least `least`, from its value. -/
def codePoint (least value : Nat) : Option Char :=
  if least ≤ value ∧ value.isValidChar then some (Char.ofNat value) else none

/-- A character whose first byte is `a`, of two bytes. -/
def utf8Two (a : Nat) : List Nat → Option (Char × List Nat)
  | b :: rest => do
      let b ← continuation b
      let c ← codePoint 0x80 ((a - 0xC0) * 64 + b)
      return (c, rest)
  | _ => none

/-- Of three bytes. -/
def utf8Three (a : Nat) : List Nat → Option (Char × List Nat)
  | b :: d :: rest => do
      let b ← continuation b
      let d ← continuation d
      let c ← codePoint 0x800 (((a - 0xE0) * 64 + b) * 64 + d)
      return (c, rest)
  | _ => none

/-- Of four bytes. -/
def utf8Four (a : Nat) : List Nat → Option (Char × List Nat)
  | b :: d :: e :: rest => do
      let b ← continuation b
      let d ← continuation d
      let e ← continuation e
      let c ← codePoint 0x10000 ((((a - 0xF0) * 64 + b) * 64 + d) * 64 + e)
      return (c, rest)
  | _ => none

/-- The first character of some bytes, and the rest. -/
def utf8Step : List Nat → Option (Char × List Nat)
  | [] => none
  | a :: rest =>
      if a < 0x80 then some (Char.ofNat a, rest)
      else if a < 0xC0 then none
      else if a < 0xE0 then utf8Two a rest
      else if a < 0xF0 then utf8Three a rest
      else utf8Four a rest

/-- The characters of some bytes. -/
def utf8Decode (bytes : List Nat) : Option (List Char) := readAll utf8Step bytes.length bytes

/-! ## Round trip -/

theorem codePoint_toNat {c : Char} {least : Nat} (enough : least ≤ c.toNat) :
    codePoint least c.toNat = some c := by
  rw [codePoint, if_pos ⟨enough, c.valid⟩, Char.ofNat_toNat]

theorem continuation_add {n : Nat} (small : n < 64) : continuation (0x80 + n) = some n := by
  rw [continuation, if_pos (by omega), Nat.add_sub_cancel_left]

theorem toNat_lt_codePoints (c : Char) : c.toNat < 0x110000 := by
  have valid : c.toNat.isValidChar := c.valid
  rcases valid with low | high
  · omega
  · exact high.2

section Continuations

variable {a x y z : Nat}

/-- A character from the six bits of each continuation byte. -/
theorem utf8Two_add (x_small : x < 64) (rest : List Nat) :
    utf8Two a ((0x80 + x) :: rest) =
      (codePoint 0x80 ((a - 0xC0) * 64 + x)).bind fun c => some (c, rest) := by
  rw [utf8Two, continuation_add x_small]
  simp only [Option.bind_eq_bind, Option.bind_some, Option.pure_def]

theorem utf8Three_add (x_small : x < 64) (y_small : y < 64) (rest : List Nat) :
    utf8Three a ((0x80 + x) :: (0x80 + y) :: rest) =
      (codePoint 0x800 (((a - 0xE0) * 64 + x) * 64 + y)).bind fun c => some (c, rest) := by
  rw [utf8Three, continuation_add x_small, continuation_add y_small]
  simp only [Option.bind_eq_bind, Option.bind_some, Option.pure_def]

theorem utf8Four_add (x_small : x < 64) (y_small : y < 64) (z_small : z < 64) (rest : List Nat) :
    utf8Four a ((0x80 + x) :: (0x80 + y) :: (0x80 + z) :: rest) =
      (codePoint 0x10000 ((((a - 0xF0) * 64 + x) * 64 + y) * 64 + z)).bind fun c =>
        some (c, rest) := by
  rw [utf8Four, continuation_add x_small, continuation_add y_small, continuation_add z_small]
  simp only [Option.bind_eq_bind, Option.bind_some, Option.pure_def]

end Continuations

/-- **Each character is read back**, in front of any bytes. -/
theorem utf8Step_utf8Char (c : Char) (rest : List Nat) :
    utf8Step (utf8Char c ++ rest) = some (c, rest) := by
  have top := toNat_lt_codePoints c
  have bits : ∀ n : Nat, n % 64 < 64 := fun n => Nat.mod_lt n (by decide)
  unfold utf8Char
  dsimp only
  split
  next one => rw [List.singleton_append, utf8Step, if_pos one, Char.ofNat_toNat]
  split
  next many two =>
    have value : (0xC0 + c.toNat / 64 - 0xC0) * 64 + c.toNat % 64 = c.toNat := by omega
    rw [List.cons_append, List.singleton_append, utf8Step, if_neg (by omega), if_neg (by omega),
      if_pos (by omega), utf8Two_add (bits _), value, codePoint_toNat (by omega), Option.bind_some]
  split
  next _ many three =>
    have value : ((0xE0 + c.toNat / 4096 - 0xE0) * 64 + c.toNat / 64 % 64) * 64 + c.toNat % 64 =
        c.toNat := by omega
    rw [List.cons_append, List.cons_append, List.singleton_append, utf8Step, if_neg (by omega),
      if_neg (by omega), if_neg (by omega), if_pos (by omega), utf8Three_add (bits _) (bits _), value,
      codePoint_toNat (by omega), Option.bind_some]
  next many =>
    have value : (((0xF0 + c.toNat / 262144 - 0xF0) * 64 + c.toNat / 4096 % 64) * 64 +
        c.toNat / 64 % 64) * 64 + c.toNat % 64 = c.toNat := by omega
    rw [List.cons_append, List.cons_append, List.cons_append, List.singleton_append, utf8Step,
      if_neg (by omega), if_neg (by omega), if_neg (by omega), if_neg (by omega),
      utf8Four_add (bits _) (bits _) (bits _), value, codePoint_toNat (by omega), Option.bind_some]

theorem utf8Char_ne_nil (c : Char) : utf8Char c ≠ [] := by
  unfold utf8Char
  dsimp only
  split
  · simp
  split
  · simp
  split
  · simp
  · simp

/-- **Decoding gives the encoded text back.** -/
theorem utf8Decode_utf8 (text : String) : utf8Decode (utf8 text) = some text.toList := by
  rw [utf8Decode, utf8_eq]
  exact readAll_flatMap utf8Char_ne_nil utf8Step_utf8Char text.toList le_rfl

/-- The encoding determines the text. -/
theorem utf8_inj {left right : String} (same : utf8 left = utf8 right) : left = right := by
  have read := congrArg utf8Decode same
  rw [utf8Decode_utf8, utf8Decode_utf8] at read
  exact String.toList_inj.mp (Option.some.inj read)

theorem utf8_small (text : String) : ∀ byte ∈ utf8 text, byte < 256 := by
  intro byte member
  rw [utf8_eq] at member
  obtain ⟨c, _, here⟩ := List.mem_flatMap.mp member
  have top := toNat_lt_codePoints c
  unfold utf8Char at here
  dsimp only at here
  split at here
  next one =>
    rw [List.mem_singleton] at here
    omega
  split at here
  next two =>
    simp only [List.mem_cons, List.not_mem_nil, or_false] at here
    omega
  split at here
  next three =>
    simp only [List.mem_cons, List.not_mem_nil, or_false] at here
    omega
  next four =>
    simp only [List.mem_cons, List.not_mem_nil, or_false] at here
    omega

theorem utf8_append (left right : String) : utf8 (left ++ right) = utf8 left ++ utf8 right := by
  rw [utf8_eq, utf8_eq, utf8_eq, String.toList_append, List.flatMap_append]

/-! ## Replacing what is not UTF-8 -/

/-- The second bytes of a sequence that `a` begins: neither forms that are too long nor
surrogates nor values beyond the last code point. -/
def mayFollow (a b : Nat) : Bool :=
  if a = 0xE0 then 0xA0 ≤ b && b < 0xC0
  else if a = 0xED then 0x80 ≤ b && b < 0xA0
  else if a = 0xF0 then 0x90 ≤ b && b < 0xC0
  else if a = 0xF4 then 0x80 ≤ b && b < 0x90
  else 0x80 ≤ b && b < 0xC0

/-- How many bytes at the beginning of a malformed text are replaced together: those that
could have begun a character. -/
def malformedLength : List Nat → Nat
  | a :: b :: rest =>
      if 0xE0 ≤ a ∧ a < 0xF5 ∧ mayFollow a b then
        match rest with
        | d :: _ => if 0xF0 ≤ a ∧ (continuation d).isSome then 3 else 2
        | [] => 2
      else 1
  | _ => 1

/-- The loop of `decodeReplacing`. -/
def replaceMalformed : Nat → List Nat → List Char
  | 0, _ => []
  | _, [] => []
  | fuel + 1, bytes =>
      match utf8Step bytes with
      | some (c, rest) => c :: replaceMalformed fuel rest
      | none => '\uFFFD' :: replaceMalformed fuel (bytes.drop (malformedLength bytes))

/-- `bytes.decode("utf-8", errors="replace")`. -/
def decodeReplacing (bytes : List Nat) : List Char := replaceMalformed bytes.length bytes

example : decodeReplacing [0x61, 0xE2, 0x82, 0x62, 0xED, 0xA0, 0x80, 0xC3, 0xA4] =
    ['a', '\uFFFD', 'b', '\uFFFD', '\uFFFD', '\uFFFD', 'ä'] := by decide

theorem continuation_spec {byte bits : Nat} (continues : continuation byte = some bits) :
    0x80 ≤ byte := by
  unfold continuation at continues
  split at continues
  next range => exact range.1
  · cases continues

theorem codePoint_spec {least value : Nat} {c : Char} (coded : codePoint least value = some c) :
    least ≤ c.toNat := by
  unfold codePoint at coded
  split at coded
  next valid =>
    obtain rfl := Option.some.inj coded
    have value_eq : (Char.ofNat value).toNat = value := by
      unfold Char.ofNat
      rw [dif_pos valid.2]
      rfl
    rw [value_eq]
    exact valid.1
  · cases coded

/-- What a step reads: bytes with NUL among them exactly if the character is. -/
def ReadsCharacter (bytes : List Nat) (c : Char) (rest : List Nat) : Prop :=
  ∃ used, bytes = used ++ rest ∧ used ≠ [] ∧ (c = '\x00' ↔ 0 ∈ used)

/-- A character beyond ASCII is read from bytes beyond ASCII. -/
theorem readsCharacter_of_high {used rest : List Nat} {c : Char} (nonempty : used ≠ [])
    (high : ∀ byte ∈ used, 0x80 ≤ byte) (large : 0x80 ≤ c.toNat) :
    ReadsCharacter (used ++ rest) c rest := by
  refine ⟨used, rfl, nonempty, ?_⟩
  constructor
  · rintro rfl
    exact absurd large (by decide)
  · intro member
    exact absurd (high 0 member) (by decide)

theorem utf8Step_spec {bytes rest : List Nat} {c : Char} (step : utf8Step bytes = some (c, rest)) :
    ReadsCharacter bytes c rest := by
  cases bytes with
  | nil => cases step
  | cons a bytes =>
      rw [utf8Step] at step
      by_cases one : a < 0x80
      · rw [if_pos one] at step
        obtain ⟨rfl, rfl⟩ := Prod.mk.inj (Option.some.inj step)
        refine ⟨[a], rfl, List.cons_ne_nil _ _, ?_⟩
        have table : ∀ n < 0x80, Char.ofNat n = '\x00' ↔ n = 0 := by decide
        rw [table a one, List.mem_singleton, eq_comm]
      rw [if_neg one] at step
      have first : 0x80 ≤ a := Nat.le_of_not_lt one
      split at step
      · cases step
      split at step
      · -- two bytes
        unfold utf8Two at step
        split at step
        next b rest' =>
          simp only [Option.bind_eq_bind, Option.bind_eq_some_iff] at step
          obtain ⟨second, continues, d, coded, same⟩ := step
          obtain ⟨rfl, rfl⟩ := Prod.mk.inj (Option.some.inj same)
          refine readsCharacter_of_high (List.cons_ne_nil a [b]) ?_ (codePoint_spec coded)
          simpa using ⟨first, continuation_spec continues⟩
        · cases step
      split at step
      · -- three bytes
        unfold utf8Three at step
        split at step
        next b d rest' =>
          simp only [Option.bind_eq_bind, Option.bind_eq_some_iff] at step
          obtain ⟨second, continues, third, continues', e, coded, same⟩ := step
          obtain ⟨rfl, rfl⟩ := Prod.mk.inj (Option.some.inj same)
          have large : 0x80 ≤ e.toNat := Nat.le_trans (by decide) (codePoint_spec coded)
          refine readsCharacter_of_high (List.cons_ne_nil a [b, d]) ?_ large
          simpa using ⟨first, continuation_spec continues, continuation_spec continues'⟩
        · cases step
      · -- four bytes
        unfold utf8Four at step
        split at step
        next b d e rest' =>
          simp only [Option.bind_eq_bind, Option.bind_eq_some_iff] at step
          obtain ⟨second, continues, third, continues', fourth, continues'', f, coded, same⟩ := step
          obtain ⟨rfl, rfl⟩ := Prod.mk.inj (Option.some.inj same)
          have large : 0x80 ≤ f.toNat := Nat.le_trans (by decide) (codePoint_spec coded)
          refine readsCharacter_of_high (List.cons_ne_nil a [b, d, e]) ?_ large
          simpa using ⟨first, continuation_spec continues, continuation_spec continues',
            continuation_spec continues''⟩
        · cases step

theorem le_of_mayFollow {a b : Nat} (follows : mayFollow a b = true) : 0x80 ≤ b := by
  unfold mayFollow at follows
  split at follows
  · simp only [Bool.and_eq_true, decide_eq_true_eq] at follows
    omega
  split at follows
  · simp only [Bool.and_eq_true, decide_eq_true_eq] at follows
    omega
  split at follows
  · simp only [Bool.and_eq_true, decide_eq_true_eq] at follows
    omega
  split at follows
  · simp only [Bool.and_eq_true, decide_eq_true_eq] at follows
    omega
  · simp only [Bool.and_eq_true, decide_eq_true_eq] at follows
    omega

/-- What is replaced is not NUL. -/
theorem malformed_spec {bytes : List Nat} (nonempty : bytes ≠ []) (step : utf8Step bytes = none) :
    bytes.take (malformedLength bytes) ≠ [] ∧ 0 ∉ bytes.take (malformedLength bytes) := by
  cases bytes with
  | nil => exact absurd rfl nonempty
  | cons a bytes =>
      have first : a ≠ 0 := by
        rintro rfl
        cases step
      cases bytes with
      | nil => simpa [malformedLength] using first.symm
      | cons b rest =>
          unfold malformedLength
          dsimp only
          split
          next follows =>
            have second : b ≠ 0 := by
              have := le_of_mayFollow follows.2.2
              omega
            split
            · split
              next third =>
                obtain ⟨bits, continues⟩ := Option.isSome_iff_exists.mp third.2
                have := continuation_spec continues
                simp only [List.take_succ_cons, List.take_zero, ne_eq, List.cons_ne_nil, not_false_eq_true,
                  List.mem_cons, List.not_mem_nil, or_false, not_or, true_and]
                omega
              · simpa using ⟨first.symm, second.symm⟩
            · simpa using ⟨first.symm, second.symm⟩
          · simpa using first.symm

theorem nul_mem_replaceMalformed {fuel : Nat} {bytes : List Nat} (enough : bytes.length ≤ fuel) :
    '\x00' ∈ replaceMalformed fuel bytes ↔ 0 ∈ bytes := by
  induction fuel generalizing bytes with
  | zero =>
      obtain rfl := List.length_eq_zero_iff.mp (Nat.le_zero.mp enough)
      simp [replaceMalformed]
  | succ fuel ih =>
      by_cases nonempty : bytes = []
      · rw [nonempty]
        simp [replaceMalformed]
      · rw [replaceMalformed]
        · cases step : utf8Step bytes with
          | none =>
              obtain ⟨some_taken, other⟩ := malformed_spec nonempty step
              have shorter : (bytes.drop (malformedLength bytes)).length ≤ fuel := by
                have taken := List.length_pos_of_ne_nil some_taken
                rw [List.length_take] at taken
                rw [List.length_drop]
                omega
              have split : 0 ∈ bytes ↔ 0 ∈ bytes.drop (malformedLength bytes) := by
                conv_lhs => rw [← List.take_append_drop (malformedLength bytes) bytes]
                rw [List.mem_append]
                exact or_iff_right other
              rw [List.mem_cons, ih shorter, split]
              exact or_iff_right (by decide)
          | some read =>
              obtain ⟨c, left⟩ := read
              obtain ⟨used, split, consumed, nul⟩ := utf8Step_spec step
              have shorter : left.length ≤ fuel := by
                have := List.length_pos_of_ne_nil consumed
                rw [split, List.length_append] at enough
                omega
              rw [split, List.mem_cons, List.mem_append, ih shorter, ← nul, eq_comm]
        · exact nonempty

/-- **NUL is read where it is written.** -/
theorem nul_mem_decodeReplacing (bytes : List Nat) : '\x00' ∈ decodeReplacing bytes ↔ 0 ∈ bytes :=
  nul_mem_replaceMalformed (Nat.le_refl _)

/-! ## Strictness -/

theorem continuation_eq_some {byte bits : Nat} (continues : continuation byte = some bits) :
    byte = 0x80 + bits ∧ bits < 64 := by
  unfold continuation at continues
  split at continues
  next range =>
    obtain rfl := Option.some.inj continues
    omega
  · cases continues

theorem toNat_ofNat_of_valid {n : Nat} (valid : n.isValidChar) : (Char.ofNat n).toNat = n := by
  unfold Char.ofNat
  rw [dif_pos valid]
  rfl

theorem codePoint_eq_some {least value : Nat} {c : Char} (coded : codePoint least value = some c) :
    c.toNat = value ∧ least ≤ value := by
  unfold codePoint at coded
  split at coded
  next valid =>
    obtain rfl := Option.some.inj coded
    exact ⟨toNat_ofNat_of_valid valid.2, valid.1⟩
  · cases coded

/-- **A character is read from its own bytes alone.** -/
theorem eq_utf8Char_of_utf8Step {bytes rest : List Nat} {c : Char}
    (step : utf8Step bytes = some (c, rest)) : bytes = utf8Char c ++ rest := by
  cases bytes with
  | nil => cases step
  | cons a bytes =>
      have top := toNat_lt_codePoints c
      rw [utf8Step] at step
      unfold utf8Char
      dsimp only
      split at step
      next one =>
        obtain ⟨rfl, rfl⟩ := Prod.mk.inj (Option.some.inj step)
        have value : (Char.ofNat a).toNat = a := toNat_ofNat_of_valid (.inl (by omega))
        rw [value, if_pos one, List.singleton_append]
      split at step
      · cases step
      next first =>
        split at step
        · -- two bytes
          unfold utf8Two at step
          split at step
          next b _ =>
            simp only [Option.bind_eq_bind, Option.bind_eq_some_iff] at step
            obtain ⟨second, continues, d, coded, same⟩ := step
            obtain ⟨rfl, rfl⟩ := Prod.mk.inj (Option.some.inj same)
            obtain ⟨rfl, _⟩ := continuation_eq_some continues
            obtain ⟨value, _⟩ := codePoint_eq_some coded
            have high : 0xC0 + d.toNat / 64 = a := by omega
            have low : d.toNat % 64 = second := by omega
            rw [if_neg (by omega), if_pos (by omega), high, low]
            rfl
          · cases step
        split at step
        · -- three bytes
          unfold utf8Three at step
          split at step
          next b e _ =>
            simp only [Option.bind_eq_bind, Option.bind_eq_some_iff] at step
            obtain ⟨second, continues, third, continues', d, coded, same⟩ := step
            obtain ⟨rfl, rfl⟩ := Prod.mk.inj (Option.some.inj same)
            obtain ⟨rfl, _⟩ := continuation_eq_some continues
            obtain ⟨rfl, _⟩ := continuation_eq_some continues'
            obtain ⟨value, _⟩ := codePoint_eq_some coded
            have high : 0xE0 + d.toNat / 4096 = a := by omega
            have middle : d.toNat / 64 % 64 = second := by omega
            have low : d.toNat % 64 = third := by omega
            rw [if_neg (by omega), if_neg (by omega), if_pos (by omega), high, middle, low]
            rfl
          · cases step
        · -- four bytes
          unfold utf8Four at step
          split at step
          next b e f _ =>
            simp only [Option.bind_eq_bind, Option.bind_eq_some_iff] at step
            obtain ⟨second, continues, third, continues', fourth, continues'', d, coded, same⟩ :=
              step
            obtain ⟨rfl, rfl⟩ := Prod.mk.inj (Option.some.inj same)
            obtain ⟨rfl, _⟩ := continuation_eq_some continues
            obtain ⟨rfl, _⟩ := continuation_eq_some continues'
            obtain ⟨rfl, _⟩ := continuation_eq_some continues''
            obtain ⟨value, _⟩ := codePoint_eq_some coded
            have high : 0xF0 + d.toNat / 262144 = a := by omega
            have upper : d.toNat / 4096 % 64 = second := by omega
            have middle : d.toNat / 64 % 64 = third := by omega
            have low : d.toNat % 64 = fourth := by omega
            rw [if_neg (by omega), if_neg (by omega), if_neg (by omega), high, upper, middle, low]
            rfl
          · cases step

/-- **Decoding undoes nothing but encoding.** -/
theorem utf8Decode_eq_some {bytes : List Nat} {text : List Char} :
    utf8Decode bytes = some text ↔ bytes = utf8 (String.ofList text) := by
  constructor
  · intro decoded
    rw [utf8_eq, String.toList_ofList]
    exact eq_flatMap_of_readAll (fun _ _ _ => eq_utf8Char_of_utf8Step) decoded
  · rintro rfl
    rw [utf8Decode_utf8, String.toList_ofList]

end WolandGuard
