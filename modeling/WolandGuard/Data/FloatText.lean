import Mathlib.Data.List.DropRight
import Mathlib.Tactic.Linarith
import Mathlib.Tactic.Ring
import WolandGuard.Data.JsonCompact

/-!
# Texts of floats

`float.__repr__` writes two floats alike only if they are one float
(`repr_injective`). The text gives back the decimal that was written (`numberOf`),
the decimal rounds to the float, and no decimal rounds to two floats: the intervals
that round to neighbours share an end at most, and an end belongs to the even one of
the two. The text has only characters of numbers, and a mark that no integer has.
-/

set_option autoImplicit false

namespace WolandGuard.JsonFloat

/-! ## Odd numbers times powers of two -/

theorem odd_mul_two_pow_le {m n j k : Nat} (odd : n % 2 = 1) (same : m * 2 ^ j = n * 2 ^ k) :
    j ≤ k := by
  by_contra more
  obtain ⟨d, rfl⟩ := Nat.exists_eq_add_of_lt (Nat.lt_of_not_le more)
  have cancelled : m * 2 ^ (d + 1) = n := by
    refine Nat.eq_of_mul_eq_mul_right (Nat.two_pow_pos k) ?_
    rw [← same, Nat.mul_assoc, ← Nat.pow_add]
    congr 2
    omega
  rw [← cancelled, Nat.pow_succ, ← Nat.mul_assoc, Nat.mul_mod_left] at odd
  cases odd

theorem odd_mul_two_pow_inj {m n j k : Nat} (odd : m % 2 = 1) (odd' : n % 2 = 1)
    (same : m * 2 ^ j = n * 2 ^ k) : m = n ∧ j = k := by
  have powers : j = k :=
    Nat.le_antisymm (odd_mul_two_pow_le odd' same) (odd_mul_two_pow_le odd same.symm)
  subst powers
  exact ⟨Nat.eq_of_mul_eq_mul_right (Nat.two_pow_pos j) same, rfl⟩

/-! ## The format of a double -/

/-- A positive double in its own format: 53 bits, or fewer at the least exponent. -/
structure Formatted (significand : Nat) (exponent : Int) : Prop where
  positive : 0 < significand
  small : significand < 2 ^ 53
  least : -1074 ≤ exponent
  full : exponent = -1074 ∨ 2 ^ 52 ≤ significand

theorem mantissa_odd {f : JsonFloat} (nonzero : f.mantissa ≠ 0) :
    f.mantissa % 2 = 1 ∧ f.mantissa < 2 ^ 53 ∧ -1074 ≤ f.exponent := by
  rcases f.normal with zero | ⟨odd, small, least, _⟩
  · exact absurd zero.1 nonzero
  · exact ⟨odd, small, least⟩

theorem formatted_shift {f : JsonFloat} (nonzero : f.mantissa ≠ 0) :
    ∃ shift : Nat, f.formatted = (f.mantissa * 2 ^ shift, f.exponent - shift) ∧
      Formatted (f.mantissa * 2 ^ shift) (f.exponent - shift) := by
  obtain ⟨_, small, least⟩ := mantissa_odd nonzero
  have size_le : Nat.size f.mantissa ≤ 53 := Nat.size_le.mpr small
  have size_pos : 0 < Nat.size f.mantissa := Nat.size_pos.mpr (Nat.pos_of_ne_zero nonzero)
  have below : f.mantissa < 2 ^ Nat.size f.mantissa := Nat.lt_size_self f.mantissa
  have above : 2 ^ (Nat.size f.mantissa - 1) ≤ f.mantissa := Nat.lt_size.mp (by omega)
  generalize shift_eq : min (53 - Nat.size f.mantissa : Int) (f.exponent + 1074) = shift
  have shift_nonneg : 0 ≤ shift := by omega
  obtain ⟨n, rfl⟩ := Int.eq_ofNat_of_zero_le shift_nonneg
  refine ⟨n, ?_, ?_⟩
  · rw [formatted, shift_eq]
    rfl
  refine ⟨Nat.mul_pos (Nat.pos_of_ne_zero nonzero) (Nat.two_pow_pos n), ?_, by omega, ?_⟩
  · calc f.mantissa * 2 ^ n < 2 ^ Nat.size f.mantissa * 2 ^ n :=
          Nat.mul_lt_mul_of_pos_right below (Nat.two_pow_pos n)
      _ = 2 ^ (Nat.size f.mantissa + n) := (Nat.pow_add ..).symm
      _ ≤ 2 ^ 53 := Nat.pow_le_pow_right (by decide) (by omega)
  · rcases min_choice (53 - Nat.size f.mantissa : Int) (f.exponent + 1074) with all | end_of_range
    · right
      calc 2 ^ 52 = 2 ^ (Nat.size f.mantissa - 1 + n) := by congr 1; omega
        _ = 2 ^ (Nat.size f.mantissa - 1) * 2 ^ n := Nat.pow_add ..
        _ ≤ f.mantissa * 2 ^ n := Nat.mul_le_mul_right _ above
    · left
      omega

/-- The formats of two floats with different values differ. -/
theorem eq_of_formatted {f g : JsonFloat} (nonzero : f.mantissa ≠ 0) (nonzero' : g.mantissa ≠ 0)
    (same : f.formatted = g.formatted) : f.mantissa = g.mantissa ∧ f.exponent = g.exponent := by
  obtain ⟨shift, format, _⟩ := formatted_shift nonzero
  obtain ⟨shift', format', _⟩ := formatted_shift nonzero'
  rw [format, format', Prod.mk.injEq] at same
  obtain ⟨mantissas, shifts⟩ :=
    odd_mul_two_pow_inj (mantissa_odd nonzero).1 (mantissa_odd nonzero').1 same.1
  exact ⟨mantissas, by omega⟩

/-! ## What rounds to a double -/

/-- The least decimal that can round to a double. -/
def lowerEnd (significand : Nat) (exponent : Int) : Rat :=
  if significand = 2 ^ 52 ∧ -1074 < exponent then (significand - 1 / 4) * (2 : Rat) ^ exponent
  else (significand - 1 / 2) * (2 : Rat) ^ exponent

/-- The greatest decimal that can round to a double. -/
def upperEnd (significand : Nat) (exponent : Int) : Rat :=
  (significand + 1 / 2) * (2 : Rat) ^ exponent

/-- A decimal that rounds to a double. The ends belong to even significands. -/
structure Within (significand : Nat) (exponent : Int) (x : Rat) : Prop where
  lower : lowerEnd significand exponent ≤ x
  upper : x ≤ upperEnd significand exponent
  strict : significand % 2 = 1 →
    lowerEnd significand exponent < x ∧ x < upperEnd significand exponent

theorem within_of_rounds {f : JsonFloat} {significand : Nat} {exponent : Int} {x : Rat}
    (format : f.formatted = (significand, exponent)) (rounds : f.rounds x = true) :
    Within significand exponent x := by
  rw [JsonFloat.rounds, format] at rounds
  dsimp only at rounds
  split at rounds
  next even =>
    obtain ⟨lower, upper⟩ := (Bool.and_eq_true ..).mp rounds
    exact ⟨of_decide_eq_true lower, of_decide_eq_true upper, fun odd => by omega⟩
  · obtain ⟨lower, upper⟩ := (Bool.and_eq_true ..).mp rounds
    have lower : lowerEnd significand exponent < x := of_decide_eq_true lower
    have upper : x < upperEnd significand exponent := of_decide_eq_true upper
    exact ⟨le_of_lt lower, le_of_lt upper, fun _ => ⟨lower, upper⟩⟩

theorem half_le_lowerEnd (significand : Nat) (exponent : Int) :
    ((significand : Rat) - 1 / 2) * 2 ^ exponent ≤ lowerEnd significand exponent := by
  have unit : (0 : Rat) < 2 ^ exponent := zpow_pos two_pos _
  rw [lowerEnd]
  split
  · refine mul_le_mul_of_nonneg_right ?_ (le_of_lt unit)
    linarith
  · exact le_refl _

theorem pos_of_within {significand : Nat} {exponent : Int} {x : Rat}
    (positive : 0 < significand) (within : Within significand exponent x) : 0 < x := by
  have unit : (0 : Rat) < 2 ^ exponent := zpow_pos two_pos _
  have one_le : (1 : Rat) ≤ significand := by exact_mod_cast positive
  have above : (0 : Rat) < (significand - 1 / 2) * 2 ^ exponent := mul_pos (by linarith) unit
  exact lt_of_lt_of_le (lt_of_lt_of_le above (half_le_lowerEnd ..)) within.lower

/-- At one exponent the intervals meet only at the ends. -/
theorem significand_le {s t : Nat} {exponent : Int} {x : Rat} (within : Within s exponent x)
    (within' : Within t exponent x) : t ≤ s := by
  by_contra more
  have unit : (0 : Rat) < 2 ^ exponent := zpow_pos two_pos _
  have next : (s : Rat) + 1 ≤ t := by exact_mod_cast Nat.lt_of_not_le more
  have meet : upperEnd s exponent ≤ ((t : Rat) - 1 / 2) * 2 ^ exponent :=
    mul_le_mul_of_nonneg_right (by linarith) (le_of_lt unit)
  have apart := le_trans meet (half_le_lowerEnd t exponent)
  rcases Nat.mod_two_eq_zero_or_one s with even | odd
  · rcases Nat.mod_two_eq_zero_or_one t with even' | odd'
    · -- two even significands have another between them
      have further : (s : Rat) + 2 ≤ t := by exact_mod_cast (by omega : s + 2 ≤ t)
      have before : upperEnd s exponent < ((t : Rat) - 1 / 2) * 2 ^ exponent :=
        mul_lt_mul_of_pos_right (by linarith) unit
      exact absurd (lt_of_lt_of_le before (half_le_lowerEnd t exponent))
        (not_lt.mpr (le_trans within'.lower within.upper))
    · exact absurd (within'.strict odd').1 (not_lt.mpr (le_trans within.upper apart))
  · exact absurd (within.strict odd).2 (not_lt.mpr (le_trans apart within'.lower))

/-- Below a greater exponent the significands of a lesser one end. -/
theorem exponent_le {s t : Nat} {e h : Int} {x : Rat} (formatted : Formatted s e)
    (formatted' : Formatted t h) (within : Within s e x) (within' : Within t h x) : h ≤ e := by
  by_contra more
  have unit : (0 : Rat) < 2 ^ e := zpow_pos two_pos _
  have doubled : 2 * (2 : Rat) ^ e ≤ 2 ^ h := by
    calc 2 * (2 : Rat) ^ e = 2 ^ (e + 1) := by rw [zpow_add_one₀ (by norm_num), mul_comm]
      _ ≤ 2 ^ h := zpow_le_zpow_right₀ (by norm_num) (by omega)
  have full : 2 ^ 52 ≤ t := by
    rcases formatted'.full with least | full
    · have := formatted.least
      omega
    · exact full
  -- the interval of the greater exponent begins a quarter below a power of two
  have start : ((2 : Rat) ^ 52 - 1 / 4) * 2 ^ h ≤ lowerEnd t h := by
    have wider : (0 : Rat) ≤ 2 ^ h := zpow_nonneg zero_le_two _
    rw [lowerEnd]
    split
    next bottom => rw [bottom.1]; push_cast; exact le_refl _
    next above =>
      have beyond : 2 ^ 52 + 1 ≤ t := by
        have := formatted.least
        omega
      have beyond : (2 : Rat) ^ 52 + 1 ≤ t := by exact_mod_cast beyond
      exact mul_le_mul_of_nonneg_right (by linarith) wider
  have last : (s : Rat) + 1 ≤ 2 ^ 53 := by exact_mod_cast formatted.small
  have before : upperEnd s e ≤ lowerEnd t h := by
    refine le_trans ?_ start
    calc ((s : Rat) + 1 / 2) * 2 ^ e ≤ ((2 : Rat) ^ 52 - 1 / 4) * (2 * 2 ^ e) := by
          rw [← mul_assoc]
          refine mul_le_mul_of_nonneg_right ?_ (le_of_lt unit)
          linarith
      _ ≤ ((2 : Rat) ^ 52 - 1 / 4) * 2 ^ h := mul_le_mul_of_nonneg_left doubled (by norm_num)
  rcases Nat.mod_two_eq_zero_or_one s with even | odd
  · have further : (s : Rat) + 2 ≤ 2 ^ 53 := by
      have := formatted.small
      exact_mod_cast (by omega : s + 2 ≤ 2 ^ 53)
    have apart : upperEnd s e < lowerEnd t h := by
      refine lt_of_lt_of_le ?_ start
      calc ((s : Rat) + 1 / 2) * 2 ^ e < ((2 : Rat) ^ 52 - 1 / 4) * (2 * 2 ^ e) := by
            rw [← mul_assoc]
            refine mul_lt_mul_of_pos_right ?_ unit
            linarith
        _ ≤ ((2 : Rat) ^ 52 - 1 / 4) * 2 ^ h := mul_le_mul_of_nonneg_left doubled (by norm_num)
    exact absurd apart (not_lt.mpr (le_trans within'.lower within.upper))
  · exact absurd (within.strict odd).2 (not_lt.mpr (le_trans before within'.lower))

/-- **No decimal rounds to two floats.** -/
theorem eq_of_rounds {f g : JsonFloat} (nonzero : f.mantissa ≠ 0) (nonzero' : g.mantissa ≠ 0)
    {x : Rat} (rounds : f.rounds x = true) (rounds' : g.rounds x = true) :
    f.mantissa = g.mantissa ∧ f.exponent = g.exponent := by
  obtain ⟨shift, format, formatted⟩ := formatted_shift nonzero
  obtain ⟨shift', format', formatted'⟩ := formatted_shift nonzero'
  have within := within_of_rounds format rounds
  have within' := within_of_rounds format' rounds'
  have exponents : f.exponent - shift = g.exponent - shift' :=
    le_antisymm (exponent_le formatted' formatted within' within)
      (exponent_le formatted formatted' within within')
  rw [← exponents] at within'
  have significands := Nat.le_antisymm (significand_le within' within)
    (significand_le within within')
  exact eq_of_formatted nonzero nonzero' (by rw [format, format', significands, exponents])

theorem pos_of_rounds {f : JsonFloat} (nonzero : f.mantissa ≠ 0) {x : Rat}
    (rounds : f.rounds x = true) : 0 < x := by
  obtain ⟨_, format, formatted⟩ := formatted_shift nonzero
  exact pos_of_within formatted.positive (within_of_rounds format rounds)

theorem rounds_of_decimalWith {f : JsonFloat} {precision digits : Nat} {scale : Int}
    (found : f.decimalWith precision = some (digits, scale)) :
    f.rounds (digits * (10 : Rat) ^ scale) = true := by
  rw [decimalWith] at found
  dsimp only at found
  split at found
  next lower upper =>
    obtain ⟨rfl, rfl⟩ := Prod.mk.inj (Option.some.inj found)
    split
    · exact lower
    · exact upper
  next lower _ =>
    obtain ⟨rfl, rfl⟩ := Prod.mk.inj (Option.some.inj found)
    exact lower
  next _ upper =>
    obtain ⟨rfl, rfl⟩ := Prod.mk.inj (Option.some.inj found)
    exact upper
  next => cases found

theorem rounds_of_shortest {f : JsonFloat} {digits : Nat} {scale : Int}
    (found : f.shortest = some (digits, scale)) :
    f.rounds (digits * (10 : Rat) ^ scale) = true := by
  obtain ⟨_, _, found⟩ := List.exists_of_findSome?_eq_some found
  exact rounds_of_decimalWith found

/-! ## The number of a decimal text -/

/-- The exponent of a text in scientific layout. -/
def exponentOf : List Char → Int
  | '-' :: digits => -(Nat.ofDigitChars 10 digits 0 : Int)
  | '+' :: digits => Nat.ofDigitChars 10 digits 0
  | _ => 0

/-- The number that an unsigned decimal text stands for. -/
def numberOf (text : List Char) : Rat :=
  let body := text.takeWhile (· ≠ 'e')
  let whole := body.takeWhile (· ≠ '.')
  let fraction := body.drop (whole.length + 1)
  Nat.ofDigitChars 10 (whole ++ fraction) 0 *
    (10 : Rat) ^ (exponentOf (text.drop (body.length + 1)) - fraction.length)

theorem takeWhile_ne_append {mark : Char} {left : List Char} (without : mark ∉ left)
    (right : List Char) : (left ++ mark :: right).takeWhile (· ≠ mark) = left := by
  have each : ∀ c ∈ left, decide (c ≠ mark) = true := by
    rintro c member
    exact decide_eq_true fun same => without (same ▸ member)
  rw [List.takeWhile_append_of_pos each, List.takeWhile_cons_of_neg, List.append_nil]
  simp

theorem takeWhile_ne_self {mark : Char} {text : List Char} (without : mark ∉ text) :
    text.takeWhile (· ≠ mark) = text := by
  refine List.takeWhile_eq_self_iff.mpr fun c member => ?_
  exact decide_eq_true fun same => without (same ▸ member)

theorem drop_length_succ (left right : List Char) (mark : Char) :
    (left ++ mark :: right).drop (left.length + 1) = right := by
  rw [List.drop_append, List.drop_eq_nil_of_le (Nat.le_succ _), Nat.add_sub_cancel_left]
  rfl

/-- A positional text. -/
theorem numberOf_positional {whole fraction : List Char} (without_e : 'e' ∉ whole ++ fraction)
    (without_point : '.' ∉ whole) :
    numberOf (whole ++ '.' :: fraction) =
      Nat.ofDigitChars 10 (whole ++ fraction) 0 * (10 : Rat) ^ (-(fraction.length : Int)) := by
  have without : 'e' ∉ whole ++ '.' :: fraction := by
    intro member
    rcases List.mem_append.mp member with left | right
    · exact without_e (List.mem_append_left _ left)
    · exact without_e (List.mem_append_right _ (List.mem_of_ne_of_mem (by decide) right))
  rw [numberOf, takeWhile_ne_self without, takeWhile_ne_append without_point, drop_length_succ,
    List.drop_eq_nil_of_le (Nat.le_succ _)]
  have none : exponentOf [] = 0 := rfl
  rw [none, zero_sub]

/-- A scientific text with a fraction. -/
theorem numberOf_scientific {whole fraction exponent : List Char}
    (without_e : 'e' ∉ whole ++ fraction) (without_point : '.' ∉ whole) :
    numberOf (whole ++ '.' :: (fraction ++ 'e' :: exponent)) =
      Nat.ofDigitChars 10 (whole ++ fraction) 0 *
        (10 : Rat) ^ (exponentOf exponent - fraction.length) := by
  have without : 'e' ∉ whole ++ '.' :: fraction := by
    intro member
    rcases List.mem_append.mp member with left | right
    · exact without_e (List.mem_append_left _ left)
    · exact without_e (List.mem_append_right _ (List.mem_of_ne_of_mem (by decide) right))
  have split : whole ++ '.' :: (fraction ++ 'e' :: exponent) =
      (whole ++ '.' :: fraction) ++ 'e' :: exponent := by
    rw [List.append_assoc, List.cons_append]
  rw [numberOf, split, takeWhile_ne_append without, takeWhile_ne_append without_point, drop_length_succ,
    drop_length_succ]

/-- A scientific text without a fraction. -/
theorem numberOf_whole {whole exponent : List Char} (without_e : 'e' ∉ whole)
    (without_point : '.' ∉ whole) :
    numberOf (whole ++ 'e' :: exponent) =
      Nat.ofDigitChars 10 whole 0 * (10 : Rat) ^ exponentOf exponent := by
  rw [numberOf, takeWhile_ne_append without_e, takeWhile_ne_self without_point,
    List.drop_eq_nil_of_le (Nat.le_succ _), List.append_nil, List.length_nil, drop_length_succ,
    Nat.cast_zero, sub_zero]

theorem exponentOf_exponentText (e : Int) : exponentOf (exponentText e).toList = e := by
  have digits : ∀ n : Nat, Nat.ofDigitChars 10 (((if n < 10 then "0" else "") ++
      toString n : String).toList) 0 = n := by
    intro n
    rw [String.toList_append, Nat.ofDigitChars_append, Nat.toString_eq_repr, Nat.toList_repr]
    split
    all_goals exact Nat.ofDigitChars_ten_toDigits
  rw [exponentText, String.append_assoc, String.toList_append]
  split
  next negative =>
    change -(Nat.ofDigitChars 10 ((if e.natAbs < 10 then "0" else "") ++ toString e.natAbs).toList 0
      : Int) = e
    rw [digits]
    omega
  next nonneg =>
    change (Nat.ofDigitChars 10 ((if e.natAbs < 10 then "0" else "") ++ toString e.natAbs).toList 0
      : Int) = e
    rw [digits]
    omega

/-! ## The layout -/

/-- The forms that the text of some digits around a decimal point has. -/
inductive LaidOut (digits : List Char) (point : Int) : List Char → Prop where
  | whole (first : Char) (only : digits = [first]) :
      LaidOut digits point ([first] ++ 'e' :: (exponentText (point - 1)).toList)
  | scientific (first : Char) (others : List Char) (all : digits = first :: others) :
      LaidOut digits point
        ([first] ++ '.' :: (others ++ 'e' :: (exponentText (point - 1)).toList))
  | small (nonpos : point ≤ 0) :
      LaidOut digits point (['0'] ++ '.' :: (List.replicate point.natAbs '0' ++ digits))
  | past (positive : 0 < point) (few : digits.length ≤ point.toNat) :
      LaidOut digits point
        ((digits ++ List.replicate (point.toNat - digits.length) '0') ++ '.' :: ['0'])
  | inside (positive : 0 < point) (many : point.toNat < digits.length) :
      LaidOut digits point (digits.take point.toNat ++ '.' :: digits.drop point.toNat)

theorem laidOut_layout {digits : List Char} (some_digit : digits ≠ []) (point : Int) :
    LaidOut digits point (layout (String.ofList digits) point).toList := by
  rw [layout]
  dsimp only
  rw [String.toList_ofList]
  split
  next scientific =>
    obtain ⟨first, others, rfl⟩ := List.exists_cons_of_ne_nil some_digit
    rw [List.take_one, List.head?_cons, Option.toList_some, List.drop_one, List.tail_cons]
    split
    next none =>
      have none : others = [] := by
        rw [← String.toList_ofList (l := others), none]
        rfl
      have text : (String.ofList [first] ++ "" ++ "e" ++ exponentText (point - 1)).toList =
          [first] ++ 'e' :: (exponentText (point - 1)).toList := by
        simp
      rw [text]
      exact .whole first (none ▸ rfl)
    · have text : (String.ofList [first] ++ ("." ++ String.ofList others) ++ "e" ++
          exponentText (point - 1)).toList =
          [first] ++ '.' :: (others ++ 'e' :: (exponentText (point - 1)).toList) := by
        simp
      rw [text]
      exact .scientific first others rfl
  next positional =>
  split
  next nonpos =>
    have text : ("0." ++ String.ofList (List.replicate point.natAbs '0') ++
        String.ofList digits).toList =
        ['0'] ++ '.' :: (List.replicate point.natAbs '0' ++ digits) := by
      simp
    rw [text]
    exact .small nonpos
  next positive =>
  split
  next few =>
    have text : (String.ofList digits ++
        String.ofList (List.replicate (point.toNat - digits.length) '0') ++ ".0").toList =
        (digits ++ List.replicate (point.toNat - digits.length) '0') ++ '.' :: ['0'] := by
      simp
    rw [text]
    exact .past (by omega) few
  next many =>
    have text : (String.ofList (digits.take point.toNat) ++ "." ++
        String.ofList (digits.drop point.toNat)).toList =
        digits.take point.toNat ++ '.' :: digits.drop point.toNat := by
      simp
    rw [text]
    exact .inside (by omega) (by omega)

theorem not_mem_of_digits {mark : Char} (mark_not : mark.isDigit = false) {digits : List Char}
    (each : ∀ c ∈ digits, c.isDigit = true) : mark ∉ digits := by
  intro member
  rw [each mark member] at mark_not
  cases mark_not

theorem isDigit_replicate (n : Nat) : ∀ c ∈ List.replicate n '0', c.isDigit = true := by
  intro c member
  rw [List.eq_of_mem_replicate member]
  rfl

theorem isDigit_append {left right : List Char} (each : ∀ c ∈ left, c.isDigit = true)
    (each' : ∀ c ∈ right, c.isDigit = true) : ∀ c ∈ left ++ right, c.isDigit = true :=
  fun c member => (List.mem_append.mp member).elim (each c) (each' c)

theorem isDigit_zero : ∀ c ∈ ['0'], c.isDigit = true := List.all_eq_true.mp (by decide)

/-- **The layout keeps the number.** -/
theorem numberOf_laidOut {digits text : List Char} {point : Int} (laid : LaidOut digits point text)
    (each : ∀ c ∈ digits, c.isDigit = true) :
    numberOf text = Nat.ofDigitChars 10 digits 0 * (10 : Rat) ^ (point - digits.length) := by
  have no_e : ∀ {part : List Char}, (∀ c ∈ part, c.isDigit = true) → 'e' ∉ part :=
    not_mem_of_digits rfl
  have no_point : ∀ {part : List Char}, (∀ c ∈ part, c.isDigit = true) → '.' ∉ part :=
    not_mem_of_digits rfl
  cases laid with
  | whole first only =>
      subst only
      rw [numberOf_whole (no_e each) (no_point each), exponentOf_exponentText]
      rfl
  | scientific first others all =>
      subst all
      have first_digit : ∀ c ∈ [first], c.isDigit = true := by
        intro c member
        exact each c (List.mem_singleton.mp member ▸ List.mem_cons_self)
      have without_e : 'e' ∉ [first] ++ others := no_e each
      rw [numberOf_scientific without_e (no_point first_digit), exponentOf_exponentText,
        List.singleton_append, List.length_cons]
      congr 2
      push_cast
      ring
  | small nonpos =>
      -- zeros stand before the digits
      have all := isDigit_append isDigit_zero (isDigit_append (isDigit_replicate point.natAbs) each)
      have none_before : Nat.ofDigitChars 10 ['0'] 0 = 0 := rfl
      rw [numberOf_positional (no_e all) (no_point isDigit_zero), Nat.ofDigitChars_append,
        Nat.ofDigitChars_append, Nat.ofDigitChars_replicate_zero, none_before, Nat.mul_zero,
        List.length_append, List.length_replicate, Nat.cast_add, Int.ofNat_natAbs_of_nonpos nonpos]
      congr 2
      omega
  | past positive few =>
      have before := isDigit_append each (isDigit_replicate (point.toNat - digits.length))
      have all := isDigit_append before isDigit_zero
      have tenth : ∀ n, Nat.ofDigitChars 10 ['0'] n = 10 * n := fun _ => rfl
      have exponent : point - digits.length = (point.toNat - digits.length : Nat) := by omega
      rw [numberOf_positional (no_e all) (no_point before), Nat.ofDigitChars_append,
        Nat.ofDigitChars_append, Nat.ofDigitChars_replicate_zero, tenth, exponent, zpow_natCast,
        List.length_singleton, Nat.cast_one, zpow_neg_one]
      push_cast
      ring
  | inside positive many =>
      have before : ∀ c ∈ digits.take point.toNat, c.isDigit = true :=
        fun c member => each c (List.mem_of_mem_take member)
      have whole : digits.take point.toNat ++ digits.drop point.toNat = digits :=
        List.take_append_drop ..
      have without_e : 'e' ∉ digits.take point.toNat ++ digits.drop point.toNat := by
        rw [whole]
        exact no_e each
      rw [numberOf_positional without_e (no_point before), whole, List.length_drop]
      congr 2
      omega

/-! ## Numeric characters -/

/-- A character of the text of a number. -/
def isNumeric (c : Char) : Bool := c.isDigit || ['-', '+', '.', 'e', 'p'].contains c

/-- A character of the text of a float that no text of an integer has. -/
def isMark (c : Char) : Bool := ['.', 'e', 'p'].contains c

theorem isNumeric_of_isDigit {c : Char} (digit : c.isDigit = true) : isNumeric c = true := by
  rw [isNumeric, digit]
  rfl

/-- The characters of a text of digits around a point. -/
def isLayoutChar (c : Char) : Bool := c.isDigit || ['-', '+', '.', 'e'].contains c

theorem isLayoutChar_of_isDigit {c : Char} (digit : c.isDigit = true) :
    isLayoutChar c = true := by
  rw [isLayoutChar, digit]
  rfl

theorem isDigit_natText {n : Nat} {c : Char} (member : c ∈ (toString n).toList) :
    c.isDigit = true := by
  rw [Nat.toString_eq_repr, Nat.toList_repr] at member
  exact Nat.isDigit_of_mem_toDigits (by decide) (by decide) member

theorem isLayoutChar_exponentText (e : Int) :
    ∀ c ∈ (exponentText e).toList, isLayoutChar c = true := by
  intro c member
  rw [exponentText, String.toList_append, String.toList_append, List.append_assoc] at member
  rcases List.mem_append.mp member with sign | member
  · split at sign
    all_goals
      obtain rfl := List.mem_singleton.mp sign
      rfl
  rcases List.mem_append.mp member with pad | digit
  · split at pad
    · obtain rfl := List.mem_singleton.mp pad
      rfl
    · cases pad
  · exact isLayoutChar_of_isDigit (isDigit_natText digit)

theorem isLayoutChar_laidOut {digits text : List Char} {point : Int}
    (laid : LaidOut digits point text) (each : ∀ c ∈ digits, c.isDigit = true) :
    ∀ c ∈ text, isLayoutChar c = true := by
  have of_digits : ∀ {part : List Char}, (∀ c ∈ part, c.isDigit = true) →
      ∀ c ∈ part, isLayoutChar c = true :=
    fun all c member => isLayoutChar_of_isDigit (all c member)
  have around : ∀ {left right : List Char} {mark : Char}, isLayoutChar mark = true →
      (∀ c ∈ left, isLayoutChar c = true) → (∀ c ∈ right, isLayoutChar c = true) →
      ∀ c ∈ left ++ mark :: right, isLayoutChar c = true := by
    intro left right mark numeric before behind
    exact List.forall_mem_append.mpr ⟨before, List.forall_mem_cons.mpr ⟨numeric, behind⟩⟩
  cases laid with
  | whole first only =>
      subst only
      exact around rfl (of_digits each) (isLayoutChar_exponentText _)
  | scientific first others all =>
      subst all
      obtain ⟨first_digit, others_digits⟩ := List.forall_mem_cons.mp each
      have before : ∀ c ∈ [first], c.isDigit = true :=
        List.forall_mem_cons.mpr ⟨first_digit, fun _ none => absurd none List.not_mem_nil⟩
      exact around rfl (of_digits before)
        (around rfl (of_digits others_digits) (isLayoutChar_exponentText _))
  | small nonpos =>
      exact around rfl (of_digits isDigit_zero)
        (of_digits (isDigit_append (isDigit_replicate _) each))
  | past positive few =>
      exact around rfl (of_digits (isDigit_append each (isDigit_replicate _)))
        (of_digits isDigit_zero)
  | inside positive many =>
      exact around rfl (of_digits fun c member => each c (List.mem_of_mem_take member))
        (of_digits fun c member => each c (List.mem_of_mem_drop member))

theorem isMark_laidOut {digits text : List Char} {point : Int} (laid : LaidOut digits point text) :
    ∃ c ∈ text, isMark c = true := by
  cases laid with
  | whole first only => exact ⟨'e', List.mem_append_right _ List.mem_cons_self, rfl⟩
  | _ => exact ⟨'.', List.mem_append_right _ List.mem_cons_self, rfl⟩

/-- The text begins with a digit. -/
theorem head_laidOut {digits text : List Char} {point : Int} (laid : LaidOut digits point text)
    (each : ∀ c ∈ digits, c.isDigit = true) (some_digit : digits ≠ []) :
    ∃ first others, text = first :: others ∧ first.isDigit = true := by
  cases laid with
  | whole first only => exact ⟨first, _, rfl, each first (only ▸ List.mem_cons_self)⟩
  | scientific first others all => exact ⟨first, _, rfl, each first (all ▸ List.mem_cons_self)⟩
  | small nonpos => exact ⟨'0', _, rfl, rfl⟩
  | past positive few =>
      obtain ⟨first, others, rfl⟩ := List.exists_cons_of_ne_nil some_digit
      exact ⟨first, _, rfl, each first List.mem_cons_self⟩
  | inside positive many =>
      obtain ⟨n, natural⟩ : ∃ n, point.toNat = n + 1 := ⟨point.toNat - 1, by omega⟩
      obtain ⟨first, others, rfl⟩ := List.exists_cons_of_ne_nil some_digit
      rw [natural]
      exact ⟨first, _, rfl, each first List.mem_cons_self⟩

/-! ## The text of a float -/

/-- The text of a float without its sign. -/
def magnitude (f : JsonFloat) : List Char :=
  if f.mantissa = 0 then ['0', '.', '0']
  else
    match f.shortest with
    | some (digits, scale) =>
        (layout (String.ofList ((toString digits).toList.rdropWhile (· = '0')))
          ((toString digits).toList.length + scale)).toList
    | none => (toString f.mantissa).toList ++ 'p' :: (toString f.exponent).toList

theorem repr_toList (f : JsonFloat) :
    f.repr.toList = (if f.negative then ['-'] else []) ++ f.magnitude := by
  rw [JsonFloat.repr, magnitude]
  dsimp only
  have sign : (if f.negative then "-" else "" : String).toList = if f.negative then ['-'] else [] := by
    split
    all_goals rfl
  split
  · rw [String.toList_append, sign]
    rfl
  · cases f.shortest with
    | some found => rw [String.toList_append, sign, ← List.rdropWhile]
    | none =>
        rw [String.toList_append, String.toList_append, String.toList_append, List.append_assoc,
          List.append_assoc, sign]
        rfl

/-- Dropping the zeros at the end of a number keeps some digit, and the zeros are a
power of ten. -/
theorem rdropWhile_zeros {digits : Nat} (positive : 0 < digits) :
    ∃ kept zeros, (toString digits).toList.rdropWhile (· = '0') = kept ∧ kept ≠ [] ∧
      (∀ c ∈ kept, c.isDigit = true) ∧ (toString digits).toList.length = kept.length + zeros ∧
      digits = 10 ^ zeros * Nat.ofDigitChars 10 kept 0 := by
  have value : Nat.ofDigitChars 10 (toString digits).toList 0 = digits := by
    rw [Nat.toString_eq_repr, Nat.toList_repr, Nat.ofDigitChars_ten_toDigits]
  have each : ∀ c ∈ (toString digits).toList, c.isDigit = true := fun c => isDigit_natText
  generalize (toString digits).toList = text at value each
  have parts := List.rdropWhile_append_rtakeWhile (p := (· = '0')) (l := text)
  have zeros : text.rtakeWhile (· = '0') =
      List.replicate (text.rtakeWhile (· = '0')).length '0' := by
    refine List.eq_replicate_of_mem fun c member => ?_
    have zero := List.mem_rtakeWhile_imp member
    exact of_decide_eq_true zero
  generalize text.rtakeWhile (· = '0') = ending at parts zeros
  generalize text.rdropWhile (· = '0') = kept at parts
  rw [zeros] at parts
  have scaled : digits = 10 ^ ending.length * Nat.ofDigitChars 10 kept 0 := by
    rw [← value, ← parts, Nat.ofDigitChars_append, Nat.ofDigitChars_replicate_zero]
  refine ⟨kept, ending.length, rfl, ?_, ?_, ?_, scaled⟩
  · rintro rfl
    rw [Nat.ofDigitChars_nil, Nat.mul_zero] at scaled
    exact absurd scaled (Nat.ne_of_gt positive)
  · intro c member
    exact each c (parts ▸ List.mem_append_left _ member)
  · rw [← parts, List.length_append, List.length_replicate]

/-- What the text of a float without its sign is. -/
inductive Magnitude (f : JsonFloat) : List Char → Prop where
  | zero (zero : f.mantissa = 0) : Magnitude f ['0', '.', '0']
  | decimal {kept text : List Char} {point : Int} (nonzero : f.mantissa ≠ 0)
      (laid : LaidOut kept point text) (each : ∀ c ∈ kept, c.isDigit = true)
      (some_digit : kept ≠ []) (rounds : f.rounds (numberOf text) = true) : Magnitude f text
  | binary (nonzero : f.mantissa ≠ 0) :
      Magnitude f ((toString f.mantissa).toList ++ 'p' :: (toString f.exponent).toList)

theorem magnitude_spec (f : JsonFloat) : Magnitude f f.magnitude := by
  rw [magnitude]
  split
  next zero => exact .zero zero
  next nonzero =>
  split
  next digits scale found =>
    have rounds := rounds_of_shortest found
    have positive : 0 < digits := by
      have positive := pos_of_rounds nonzero rounds
      rcases Nat.eq_zero_or_pos digits with rfl | positive'
      · rw [Nat.cast_zero, zero_mul] at positive
        exact absurd positive (lt_irrefl 0)
      · exact positive'
    obtain ⟨kept, zeros, stripped, some_digit, each, length, value⟩ := rdropWhile_zeros positive
    rw [stripped, length]
    have laid := laidOut_layout some_digit ((kept.length + zeros : Nat) + scale)
    refine .decimal nonzero laid each some_digit ?_
    have number : numberOf (layout (String.ofList kept) ((kept.length + zeros : Nat) + scale)).toList
        = digits * (10 : Rat) ^ scale := by
      rw [numberOf_laidOut laid each]
      have exponent : ((kept.length + zeros : Nat) : Int) + scale - kept.length = zeros + scale := by
        omega
      rw [exponent, zpow_add₀ (by norm_num), zpow_natCast, value]
      push_cast
      ring
    rw [number]
    exact rounds
  · exact .binary nonzero

theorem isNumeric_of_isLayoutChar {c : Char} (layout_char : isLayoutChar c = true) :
    isNumeric c = true := by
  rw [isLayoutChar, Bool.or_eq_true] at layout_char
  rcases layout_char with digit | mark
  · exact isNumeric_of_isDigit digit
  · simp only [List.contains_eq_mem, List.mem_cons, List.not_mem_nil, or_false,
      decide_eq_true_eq] at mark
    rcases mark with rfl | rfl | rfl | rfl
    all_goals rfl

theorem isNumeric_intText (i : Int) : ∀ c ∈ (toString i).toList, isNumeric c = true := by
  intro c member
  rw [Int.toString_eq_repr, Int.repr_eq_if] at member
  split at member
  · exact isNumeric_of_isDigit (isDigit_natText (by rwa [Nat.toString_eq_repr]))
  · rcases List.mem_append.mp (String.toList_append ▸ member) with sign | digit
    · obtain rfl := List.mem_singleton.mp sign
      rfl
    · exact isNumeric_of_isDigit (isDigit_natText (by rwa [Nat.toString_eq_repr]))

theorem isNumeric_magnitude {f : JsonFloat} {text : List Char} (spec : Magnitude f text) :
    ∀ c ∈ text, isNumeric c = true := by
  cases spec with
  | zero => exact List.all_eq_true.mp (by decide)
  | decimal nonzero laid each =>
      exact fun c member => isNumeric_of_isLayoutChar (isLayoutChar_laidOut laid each c member)
  | binary nonzero =>
      refine List.forall_mem_append.mpr ⟨?_, List.forall_mem_cons.mpr ⟨rfl, isNumeric_intText _⟩⟩
      exact fun c member => isNumeric_of_isDigit (isDigit_natText member)

theorem isMark_magnitude {f : JsonFloat} {text : List Char} (spec : Magnitude f text) :
    ∃ c ∈ text, isMark c = true := by
  cases spec with
  | zero => exact ⟨'.', by decide, rfl⟩
  | decimal nonzero laid => exact isMark_laidOut laid
  | binary nonzero => exact ⟨'p', List.mem_append_right _ List.mem_cons_self, rfl⟩

theorem head_magnitude {f : JsonFloat} {text : List Char} (spec : Magnitude f text) :
    ∃ first others, text = first :: others ∧ first.isDigit = true := by
  cases spec with
  | zero => exact ⟨_, _, rfl, rfl⟩
  | decimal nonzero laid each some_digit => exact head_laidOut laid each some_digit
  | binary nonzero =>
      cases digits : (toString f.mantissa).toList with
      | nil =>
          rw [Nat.toString_eq_repr, Nat.toList_repr] at digits
          exact absurd digits Nat.toDigits_ne_nil
      | cons first others =>
          exact ⟨first, _, rfl, isDigit_natText (n := f.mantissa) (digits ▸ List.mem_cons_self)⟩

theorem natText_injective {m n : Nat} (same : (toString m).toList = (toString n).toList) :
    m = n := by
  rw [Nat.toString_eq_repr, Nat.toString_eq_repr, Nat.toList_repr, Nat.toList_repr] at same
  have values := congrArg (Nat.ofDigitChars 10 · 0) same
  simpa only [Nat.ofDigitChars_ten_toDigits] using values

theorem intText_injective {i j : Int} (same : (toString i).toList = (toString j).toList) :
    i = j := by
  have read := JsonValue.readInteger_toString i (.inl rfl : JsonValue.Terminated [])
  rw [same, JsonValue.readInteger_toString j (.inl rfl : JsonValue.Terminated [])] at read
  exact (Prod.mk.inj (Option.some.inj read)).1.symm

/-- A decimal text is not the text of a mantissa and an exponent. -/
theorem decimal_ne_binary {kept text digits others : List Char} {point : Int}
    (laid : LaidOut kept point text) (each : ∀ c ∈ kept, c.isDigit = true) :
    text ≠ digits ++ 'p' :: others := by
  rintro rfl
  have layout_char := isLayoutChar_laidOut laid each 'p'
    (List.mem_append_right _ List.mem_cons_self)
  exact absurd layout_char (by decide)

theorem zero_ne_binary {digits others : List Char} : ['0', '.', '0'] ≠ digits ++ 'p' :: others := by
  intro same
  have member : 'p' ∈ ['0', '.', '0'] := same ▸ List.mem_append_right _ List.mem_cons_self
  exact absurd member (by decide)

/-- **Floats with one text up to the sign have one value up to the sign.** -/
theorem eq_of_magnitude {f g : JsonFloat} {text : List Char} (spec : Magnitude f text)
    (spec' : Magnitude g text) : f.mantissa = g.mantissa ∧ f.exponent = g.exponent := by
  have zero_number : numberOf ['0', '.', '0'] = 0 := by
    have number : numberOf (['0'] ++ '.' :: ['0']) = _ :=
      numberOf_positional (by decide) (by decide)
    exact number.trans (zero_mul _)
  generalize text_eq : text = text' at spec'
  cases spec with
  | zero zero =>
      cases spec' with
      | zero zero' =>
          have exponent_zero : ∀ {h : JsonFloat}, h.mantissa = 0 → h.exponent = 0 := by
            intro h zero
            rcases h.normal with both | ⟨odd, _⟩
            · exact both.2
            · rw [zero] at odd
              cases odd
          exact ⟨zero.trans zero'.symm, (exponent_zero zero).trans (exponent_zero zero').symm⟩
      | decimal nonzero' laid each some_digit rounds =>
          have positive := pos_of_rounds nonzero' rounds
          rw [← text_eq, zero_number] at positive
          exact absurd positive (lt_irrefl 0)
      | binary nonzero' => exact absurd text_eq zero_ne_binary
  | decimal nonzero laid each some_digit rounds =>
      cases spec' with
      | zero zero' =>
          have positive := pos_of_rounds nonzero rounds
          rw [text_eq, zero_number] at positive
          exact absurd positive (lt_irrefl 0)
      | decimal nonzero' _ _ _ rounds' => exact eq_of_rounds nonzero nonzero' rounds (text_eq ▸ rounds')
      | binary nonzero' => exact absurd text_eq (decimal_ne_binary laid each)
  | binary nonzero =>
      cases spec' with
      | zero zero' => exact absurd text_eq.symm zero_ne_binary
      | decimal nonzero' laid each => exact absurd text_eq.symm (decimal_ne_binary laid each)
      | binary nonzero' =>
          have without : ∀ n : Nat, 'p' ∉ (toString n).toList := by
            intro n member
            exact absurd (isDigit_natText member) (by decide)
          obtain ⟨mantissas, exponents⟩ : (toString f.mantissa).toList = (toString g.mantissa).toList ∧
              (toString f.exponent).toList = (toString g.exponent).toList := by
            have before := congrArg (List.takeWhile (· ≠ 'p')) text_eq
            rw [takeWhile_ne_append (without _), takeWhile_ne_append (without _)] at before
            rw [before] at text_eq
            exact ⟨before, (List.cons.inj (List.append_cancel_left text_eq)).2⟩
          exact ⟨natText_injective mantissas, intText_injective exponents⟩

/-- **`float.__repr__` writes different floats differently.** -/
theorem repr_injective : Function.Injective repr := by
  intro f g same
  have texts := congrArg String.toList same
  rw [repr_toList, repr_toList] at texts
  obtain ⟨first, others, shape, digit⟩ := head_magnitude (magnitude_spec f)
  obtain ⟨first', others', shape', digit'⟩ := head_magnitude (magnitude_spec g)
  have not_sign : ∀ {c : Char}, c.isDigit = true → c ≠ '-' := by
    rintro c digit rfl
    cases digit
  obtain ⟨signs, magnitudes⟩ : f.negative = g.negative ∧ f.magnitude = g.magnitude := by
    cases left : f.negative with
    | true =>
        cases right : g.negative with
        | true =>
            rw [left, right] at texts
            exact ⟨rfl, (List.cons.inj texts).2⟩
        | false =>
            rw [left, right, shape'] at texts
            exact absurd (List.cons.inj texts).1.symm (not_sign digit')
    | false =>
        cases right : g.negative with
        | true =>
            rw [left, right, shape] at texts
            exact absurd (List.cons.inj texts).1 (not_sign digit)
        | false =>
            rw [left, right] at texts
            exact ⟨rfl, texts⟩
  obtain ⟨mantissas, exponents⟩ :=
    eq_of_magnitude (magnitude_spec f) (magnitudes.symm ▸ magnitude_spec g)
  cases f
  cases g
  cases signs
  cases mantissas
  cases exponents
  rfl

theorem isNumeric_repr (f : JsonFloat) : ∀ c ∈ f.repr.toList, isNumeric c = true := by
  rw [repr_toList]
  refine List.forall_mem_append.mpr ⟨?_, isNumeric_magnitude (magnitude_spec f)⟩
  split
  all_goals exact List.all_eq_true.mp (by decide)

/-- **The text of a float is not that of an integer.** -/
theorem repr_ne_intText (f : JsonFloat) (i : Int) : f.repr ≠ toString i := by
  intro same
  obtain ⟨c, member, mark⟩ := isMark_magnitude (magnitude_spec f)
  have inside : c ∈ (toString i).toList := by
    rw [← same, repr_toList]
    exact List.mem_append_right _ member
  have plain : c.isDigit = true ∨ c = '-' := by
    rw [Int.toString_eq_repr, Int.repr_eq_if] at inside
    split at inside
    · exact .inl (isDigit_natText (by rwa [Nat.toString_eq_repr]))
    · rcases List.mem_append.mp (String.toList_append ▸ inside) with sign | digit
      · exact .inr (List.mem_singleton.mp sign)
      · exact .inl (isDigit_natText (by rwa [Nat.toString_eq_repr]))
  simp only [isMark, List.contains_eq_mem, List.mem_cons, List.not_mem_nil, or_false,
    decide_eq_true_eq] at mark
  rcases mark with rfl | rfl | rfl
  all_goals exact absurd plain (by decide)

/-! ## Values -/

/-- A float that is not zero, in units of the least power of two. -/
theorem units_eq {f : JsonFloat} (nonzero : f.mantissa ≠ 0) :
    ∃ units : Nat, f.exponent = units - 1074 ∧
      (f.mantissa : Rat) * 2 ^ f.exponent = (f.mantissa * 2 ^ units : Nat) * 2 ^ (-1074 : Int) := by
  have least := (mantissa_odd nonzero).2.2
  refine ⟨(f.exponent + 1074).toNat, by omega, ?_⟩
  have exponent : f.exponent = ((f.exponent + 1074).toNat : Int) + -1074 := by omega
  conv_lhs => rw [exponent, zpow_add₀ two_ne_zero, zpow_natCast, ← mul_assoc]
  rw [Nat.cast_mul, Nat.cast_pow, Nat.cast_ofNat]

/-- **Floats of one value that is not zero are the same.** -/
theorem toRat_injective {f g : JsonFloat} (nonzero : f.mantissa ≠ 0) (same : f.toRat = g.toRat) :
    f = g := by
  have positive : ∀ {h : JsonFloat}, h.mantissa ≠ 0 → (0 : Rat) < h.mantissa * 2 ^ h.exponent :=
    fun nonzero => mul_pos (Nat.cast_pos.mpr (Nat.pos_of_ne_zero nonzero)) (zpow_pos two_pos _)
  have sign : ∀ h : JsonFloat, h.toRat =
      (if h.negative then -1 else 1) * (h.mantissa * 2 ^ h.exponent) :=
    fun h => mul_assoc _ _ _
  have nonzero' : g.mantissa ≠ 0 := by
    intro zero
    have left := positive nonzero
    rw [sign, sign g, zero, Nat.cast_zero, zero_mul, mul_zero] at same
    rcases mul_eq_zero.mp same with signs | value
    · split at signs
      all_goals norm_num at signs
    · exact absurd value (ne_of_gt left)
  have left := positive nonzero
  have right := positive nonzero'
  obtain ⟨signs, values⟩ : f.negative = g.negative ∧
      (f.mantissa : Rat) * 2 ^ f.exponent = g.mantissa * 2 ^ g.exponent := by
    rw [sign, sign g] at same
    cases negative : f.negative with
    | true =>
        cases negative' : g.negative with
        | true =>
            rw [negative, negative', if_pos rfl] at same
            exact ⟨rfl, by linarith⟩
        | false =>
            rw [negative, negative', if_pos rfl, if_neg Bool.false_ne_true] at same
            linarith
    | false =>
        cases negative' : g.negative with
        | true =>
            rw [negative, negative', if_pos rfl, if_neg Bool.false_ne_true] at same
            linarith
        | false =>
            rw [negative, negative', if_neg Bool.false_ne_true] at same
            exact ⟨rfl, by linarith⟩
  obtain ⟨units, exponent, scaled⟩ := units_eq nonzero
  obtain ⟨units', exponent', scaled'⟩ := units_eq nonzero'
  rw [scaled, scaled'] at values
  have naturals : f.mantissa * 2 ^ units = g.mantissa * 2 ^ units' :=
    Nat.cast_injective (mul_right_cancel₀ (zpow_ne_zero _ two_ne_zero) values)
  obtain ⟨mantissas, powers⟩ :=
    odd_mul_two_pow_inj (mantissa_odd nonzero).1 (mantissa_odd nonzero').1 naturals
  have exponents : f.exponent = g.exponent := by omega
  cases f
  cases g
  cases signs
  cases mantissas
  cases exponents
  rfl

end WolandGuard.JsonFloat
