import Mathlib.Data.List.GetD
import Mathlib.Data.List.Nodup
import WolandGuard.IpBlocks.Address

/-!
# Texts of addresses

The text of a parsed address is parsed as the same address
(`parseAddress_text`). An IPv6 text leaves out a run of zeros; the parts before and
behind the double colon say how many they were.
-/

set_option autoImplicit false

namespace WolandGuard.IpBlocks

/-! ## Digits of a number -/

/-- The digits of a number in a base give the number back. -/
theorem spelled_digits (base n : Nat) : ∀ count : Nat,
    spelled base ((List.range count).map fun place => n / base ^ (count - 1 - place) % base) =
      n % base ^ count
  | 0 => by rw [Nat.pow_zero, Nat.mod_one]; rfl
  | count + 1 => by
      have earlier : (List.range count).map (fun place => n / base ^ (count - place) % base) =
          (List.range count).map fun place => n / base / base ^ (count - 1 - place) % base := by
        refine List.map_congr_left fun place member => ?_
        have small := List.mem_range.mp member
        have exponent : count - place = (count - 1 - place) + 1 := by omega
        rw [Nat.div_div_eq_div_mul, exponent, Nat.pow_succ']
      have last : n / base ^ (count - count) % base = n % base := by
        rw [Nat.sub_self, Nat.pow_zero, Nat.div_one]
      rw [List.range_succ, List.map_append, Nat.add_sub_cancel, earlier, spelled, List.foldl_append]
      have digits := spelled_digits base (n / base) count
      rw [spelled] at digits
      rw [digits, List.map_singleton, List.foldl_cons, List.foldl_nil, last, Nat.pow_succ',
        Nat.mod_mul, Nat.add_comm, Nat.mul_comm]

theorem mapM_some_of_forall {α β : Type} {f : α → Option β} {g : β → α} {values : List β}
    (each : ∀ value ∈ values, f (g value) = some value) : (values.map g).mapM f = some values := by
  induction values with
  | nil => rfl
  | cons value values ih =>
      obtain ⟨first, others⟩ := List.forall_mem_cons.mp each
      rw [List.map_cons, List.mapM_cons, first, ih others]
      rfl

/-! ## IPv4 -/

theorem parseOctet_toDigits : ∀ n < 256, parseOctet (Nat.toDigits 10 n) = some n := by
  decide +kernel

/-- The octets of an address. -/
def octetsOf (value : BitVec 32) : List Nat :=
  (List.range 4).map fun place => value.toNat / 256 ^ (3 - place) % 256

theorem text_v4 (value : BitVec 32) :
    (IpAddress.v4 value).text.toList = ['.'].intercalate ((octetsOf value).map (Nat.toDigits 10)) := by
  rw [IpAddress.text, String.toList_intercalate, octetsOf, List.map_map, List.map_map]
  congr 1
  refine List.map_congr_left fun place _ => ?_
  exact Nat.toList_repr

theorem parseIPv4_text (value : BitVec 32) :
    parseIPv4 (IpAddress.v4 value).text.toList = some value := by
  have small : ∀ octet ∈ octetsOf value, octet < 256 := by
    intro octet member
    obtain ⟨place, _, rfl⟩ := List.mem_map.mp member
    exact Nat.mod_lt _ (by decide)
  have split : (IpAddress.v4 value).text.toList.splitOn '.' =
      (octetsOf value).map (Nat.toDigits 10) := by
    rw [text_v4]
    refine List.splitOn_intercalate '.' ?_ (by simp [octetsOf])
    intro digits member point
    obtain ⟨octet, _, rfl⟩ := List.mem_map.mp member
    exact absurd (Nat.isDigit_of_mem_toDigits (by decide) (by decide) point) (by decide)
  have length : ((octetsOf value).map (Nat.toDigits 10)).length = 4 := by simp [octetsOf]
  rw [parseIPv4, split, if_neg (by rw [length]; decide),
    mapM_some_of_forall fun octet member => parseOctet_toDigits octet (small octet member),
    Option.map_some, octetsOf, spelled_digits 256 value.toNat 4]
  have whole : value.toNat % 256 ^ 4 = value.toNat := Nat.mod_eq_of_lt value.isLt
  rw [whole, BitVec.ofNat_toNat, BitVec.setWidth_eq]

/-! ## Hextets -/

theorem hexValue_digitChar : ∀ n < 16, hexValue n.digitChar = some n := by decide

theorem mapM_hexNumber (n : Nat) :
    ∃ digits, (hexNumber n).mapM hexValue = some digits ∧ spelled 16 digits = n := by
  induction n using Nat.strong_induction_on with
  | _ n ih =>
      by_cases small : n < 16
      · refine ⟨[n], ?_, ?_⟩
        · rw [hexNumber, Nat.toDigits_of_lt_base small, List.mapM_cons, hexValue_digitChar n small]
          rfl
        · exact Nat.zero_add n
      · obtain ⟨digits, parsed, value⟩ := ih (n / 16) (by omega)
        rw [hexNumber] at parsed
        refine ⟨digits ++ [n % 16], ?_, ?_⟩
        · rw [hexNumber, Nat.toDigits_of_base_le (by decide) (Nat.le_of_not_lt small),
            List.mapM_append, parsed, List.mapM_cons,
            hexValue_digitChar (n % 16) (Nat.mod_lt n (by decide))]
          rfl
        · rw [spelled, List.foldl_append]
          rw [spelled] at value
          rw [value]
          exact Nat.div_add_mod' n 16

theorem hexNumber_ne_nil (n : Nat) : hexNumber n ≠ [] := Nat.toDigits_ne_nil

/-- The characters of a hexadecimal number. -/
theorem isSome_hexValue {n : Nat} {c : Char} (member : c ∈ hexNumber n) :
    (hexValue c).isSome = true := by
  induction n using Nat.strong_induction_on with
  | _ n ih =>
      rw [hexNumber] at member
      by_cases small : n < 16
      · rw [Nat.toDigits_of_lt_base small, List.mem_singleton] at member
        rw [member, hexValue_digitChar n small]
        rfl
      · rw [Nat.toDigits_of_base_le (by decide) (Nat.le_of_not_lt small), List.mem_append,
          List.mem_singleton] at member
        rcases member with earlier | rfl
        · exact ih (n / 16) (by omega) earlier
        · rw [hexValue_digitChar (n % 16) (Nat.mod_lt n (by decide))]
          rfl

theorem not_mem_hexNumber {mark : Char} (no_digit : hexValue mark = none) (n : Nat) :
    mark ∉ hexNumber n := by
  intro member
  have digit := isSome_hexValue member
  rw [no_digit] at digit
  cases digit

theorem parseHextet_hexNumber {n : Nat} (small : n < 65536) :
    parseHextet (hexNumber n) = some n := by
  obtain ⟨digits, parsed, value⟩ := mapM_hexNumber n
  have short : (hexNumber n).length ≤ 4 :=
    (Nat.length_toDigits_le_iff (by decide) (by decide)).mpr small
  rw [parseHextet, if_neg, parsed, Option.map_some, value]
  rintro (empty | long)
  · exact hexNumber_ne_nil n empty
  · omega

/-! ## Runs of zeros -/

/-- Some places of a list, all of them zero. -/
def IsZeroRun (hextets : List Nat) (found : Nat × Nat) : Prop :=
  found.1 + found.2 ≤ hextets.length ∧
    ∀ place, found.1 ≤ place → place < found.1 + found.2 → hextets[place]? = some 0

theorem isZeroRun_nothing (hextets : List Nat) : IsZeroRun hextets (0, 0) :=
  ⟨Nat.zero_le _, fun _ least most => absurd (Nat.lt_of_le_of_lt least most) (Nat.lt_irrefl 0)⟩

theorem isZeroRun_longestZeroRun {hextets : List Nat} : ∀ (seen rest : List Nat)
    (current best : Nat × Nat), hextets = seen ++ rest → IsZeroRun hextets current →
    IsZeroRun hextets best → (current.2 ≠ 0 → current.1 + current.2 = seen.length) →
    IsZeroRun hextets (longestZeroRun rest seen.length current best)
  | _, [], _, _, _, _, good, _ => good
  | seen, hextet :: rest, (start, length), best, shape, run, good, here => by
      have next : hextets = (seen ++ [hextet]) ++ rest := by
        rw [shape, List.append_assoc, List.singleton_append]
      have place : (seen ++ [hextet]).length = seen.length + 1 := List.length_append
      rw [longestZeroRun]
      split
      next zero =>
        -- the run goes on, or begins here
        have longer : IsZeroRun hextets (if length = 0 then seen.length else start, length + 1) := by
          have present : hextets[seen.length]? = some 0 := by
            rw [shape, List.getElem?_append_right (Nat.le_refl _), Nat.sub_self, zero]
            rfl
          have inside : seen.length < hextets.length := by
            rw [shape, List.length_append, List.length_cons]
            omega
          split
          next begins =>
            subst begins
            refine ⟨inside, fun at_place least most => ?_⟩
            have same : at_place = seen.length := by
              dsimp only at least most
              omega
            rw [same, present]
          next goes_on =>
            have reached : start + length = seen.length := here goes_on
            refine ⟨by dsimp only; omega, fun at_place least most => ?_⟩
            dsimp only at least most
            by_cases last : at_place = seen.length
            · rw [last, present]
            · exact run.2 at_place least (by dsimp only; omega)
        have reached : (if length = 0 then seen.length else start) + (length + 1) =
            (seen ++ [hextet]).length := by
          split
          · omega
          next goes_on =>
            have reached : start + length = seen.length := here goes_on
            omega
        rw [← place]
        refine isZeroRun_longestZeroRun (seen ++ [hextet]) rest _ _ next longer ?_
          fun _ => reached
        split
        · exact longer
        · exact good
      next =>
        rw [← place]
        exact isZeroRun_longestZeroRun (seen ++ [hextet]) rest _ _ next
          (isZeroRun_nothing hextets) good fun some_length => absurd rfl some_length

/-- A list is what stands before a run of zeros, the zeros, and what stands behind. -/
theorem eq_of_isZeroRun {hextets : List Nat} {start length : Nat}
    (run : IsZeroRun hextets (start, length)) :
    hextets = hextets.take start ++ List.replicate length 0 ++ hextets.drop (start + length) := by
  obtain ⟨inside, zeros⟩ := run
  dsimp only at inside zeros
  have middle : (hextets.drop start).take length = List.replicate length 0 := by
    refine List.ext_getElem? fun place => ?_
    by_cases small : place < length
    · rw [List.getElem?_take_of_lt small, List.getElem?_drop,
        zeros (start + place) (by omega) (by omega), List.getElem?_replicate_of_lt small]
    · rw [List.getElem?_eq_none, List.getElem?_eq_none]
      · rw [List.length_replicate]
        omega
      · rw [List.length_take]
        omega
  rw [← middle, ← List.drop_drop, List.append_assoc, List.take_append_drop, List.take_append_drop]

/-! ## The parts of an IPv6 text -/

/-- What `split(":")` makes of some hextets: an empty part where there is none. -/
def partsOf (hextets : List Nat) : List (List Char) :=
  if hextets = [] then [[]] else hextets.map hexNumber

theorem splitOn_joinHextets (hextets : List Nat) :
    (joinHextets hextets).toList.splitOn ':' = partsOf hextets := by
  have text : (joinHextets hextets).toList = [':'].intercalate (hextets.map hexNumber) := by
    rw [joinHextets, String.toList_intercalate, List.map_map]
    congr 1
    exact List.map_congr_left fun hextet _ => String.toList_ofList
  rw [text, partsOf]
  split
  next none =>
    rw [none]
    rfl
  next some =>
    refine List.splitOn_intercalate ':' ?_ (by simpa using some)
    intro part member
    obtain ⟨hextet, _, rfl⟩ := List.mem_map.mp member
    exact not_mem_hexNumber (by decide) hextet

theorem filter_partsOf (hextets : List Nat) :
    (partsOf hextets).filter (· ≠ []) = hextets.map hexNumber := by
  rw [partsOf]
  split
  next none =>
    rw [none]
    rfl
  · refine List.filter_eq_self.mpr fun part member => ?_
    obtain ⟨hextet, _, rfl⟩ := List.mem_map.mp member
    exact decide_eq_true (hexNumber_ne_nil hextet)

theorem length_partsOf (hextets : List Nat) :
    0 < (partsOf hextets).length ∧ (partsOf hextets).length ≤ hextets.length + 1 := by
  rw [partsOf]
  split
  next none => simp [none]
  next some =>
    rw [List.length_map]
    exact ⟨List.length_pos_of_ne_nil some, Nat.le_succ _⟩

/-- The only empty part among those of some hextets is the only part. -/
theorem getD_partsOf {hextets : List Nat} {place : Nat} (inside : place < (partsOf hextets).length)
    (empty : (partsOf hextets).getD place [] = []) : hextets = [] := by
  by_contra some
  rw [partsOf, if_neg some] at inside empty
  rw [List.getD_eq_getElem _ _ inside, List.getElem_map] at empty
  exact hexNumber_ne_nil _ empty

theorem no_point_partsOf {hextets : List Nat} {part : List Char} (member : part ∈ partsOf hextets) :
    '.' ∉ part := by
  rw [partsOf] at member
  split at member
  · rw [List.mem_singleton.mp member]
    exact List.not_mem_nil
  · obtain ⟨hextet, _, rfl⟩ := List.mem_map.mp member
    exact not_mem_hexNumber (by decide) hextet

theorem expandSuffix_eq {parts : List (List Char)} (no_point : ∀ part ∈ parts, '.' ∉ part) :
    expandSuffix parts = some parts := by
  rw [expandSuffix]
  split
  · rfl
  next last found => rw [if_neg (no_point last (List.mem_of_getLast? found))]

theorem mapM_parseHextet {hextets : List Nat} (small : ∀ hextet ∈ hextets, hextet < 65536) :
    (hextets.map hexNumber).mapM parseHextet = some hextets :=
  mapM_some_of_forall fun hextet member => parseHextet_hexNumber (small hextet member)

/-- The one place that a condition picks. -/
theorem filter_range_eq {condition : Nat → Bool} {count place : Nat} (inside : place < count)
    (only : ∀ other < count, condition other = true ↔ other = place) :
    (List.range count).filter condition = [place] := by
  have same : (List.range count).filter condition = (List.range count).filter (· = place) := by
    refine List.filter_congr fun other member => ?_
    rw [Bool.eq_iff_iff, decide_eq_true_iff]
    exact only other (List.mem_range.mp member)
  have once : (List.range count).count place = 1 :=
    List.count_eq_one_of_mem List.nodup_range (List.mem_range.mpr inside)
  rw [same, List.filter_eq, once]
  rfl

theorem skipPlaces_whole (hextets : List Nat) : skipPlaces (hextets.map hexNumber) = [] := by
  refine List.filter_eq_nil_iff.mpr fun place member => ?_
  have inside := List.mem_range.mp member
  rw [List.getD_eq_getElem _ _ inside, List.getElem_map]
  simp [hexNumber_ne_nil]

/-- The double colon is the one empty part inside. -/
theorem skipPlaces_compressed (high low : List Nat) :
    skipPlaces (partsOf high ++ [] :: partsOf low) = [(partsOf high).length] := by
  obtain ⟨high_pos, _⟩ := length_partsOf high
  obtain ⟨low_pos, _⟩ := length_partsOf low
  have length : (partsOf high ++ [] :: partsOf low).length =
      (partsOf high).length + ((partsOf low).length + 1) := by
    rw [List.length_append, List.length_cons]
  refine filter_range_eq (by omega) fun place inside => ?_
  rw [length] at inside ⊢
  simp only [Bool.and_eq_true, decide_eq_true_eq, beq_iff_eq]
  constructor
  · rintro ⟨⟨least, most⟩, empty⟩
    rcases Nat.lt_trichotomy place (partsOf high).length with before | same | behind
    · rw [List.getD_append _ _ _ _ before] at empty
      have none := getD_partsOf before empty
      rw [none] at before
      exact absurd before (by simp [partsOf]; omega)
    · exact same
    · obtain ⟨place', rfl⟩ := Nat.exists_eq_add_of_lt behind
      rw [List.getD_append_right _ _ _ _ (by omega)] at empty
      have offset : (partsOf high).length + place' + 1 - (partsOf high).length = place' + 1 := by
        omega
      rw [offset, List.getD_cons_succ] at empty
      have none := getD_partsOf (by omega) empty
      have only : (partsOf low).length = 1 := by simp [none, partsOf]
      omega
  · rintro rfl
    refine ⟨⟨high_pos, by omega⟩, ?_⟩
    rw [List.getD_append_right _ _ _ _ (Nat.le_refl _), Nat.sub_self, List.getD_cons_zero]

theorem hextetsOf_whole {hextets : List Nat} (small : ∀ hextet ∈ hextets, hextet < 65536)
    (eight : hextets.length = 8) : hextetsOf (hextets.map hexNumber) = some hextets := by
  rw [hextetsOf, skipPlaces_whole]
  dsimp only
  rw [List.length_map, if_pos eight, mapM_parseHextet small]

theorem hextetsOf_compressed {high low : List Nat} (small : ∀ hextet ∈ high, hextet < 65536)
    (small' : ∀ hextet ∈ low, hextet < 65536) (few : high.length + low.length < 8) :
    hextetsOf (partsOf high ++ [] :: partsOf low) =
      some (high ++ List.replicate (8 - (high.length + low.length)) 0 ++ low) := by
  have first : ¬ ((partsOf high).head? = some [] ∧ partsOf high ≠ [[]]) := by
    rintro ⟨empty, some⟩
    cases high with
    | nil => exact some rfl
    | cons hextet high => exact hexNumber_ne_nil hextet (Option.some.inj empty)
  have last : ¬ ((partsOf low).getLast? = some [] ∧ partsOf low ≠ [[]]) := by
    rintro ⟨empty, some⟩
    by_cases none : low = []
    · rw [none] at some
      exact some rfl
    · rw [partsOf, if_neg none, List.getLast?_map] at empty
      obtain ⟨hextet, _, same⟩ := Option.map_eq_some_iff.mp empty
      exact hexNumber_ne_nil hextet same
  have before : (partsOf high ++ [] :: partsOf low).take (partsOf high).length = partsOf high :=
    List.take_left
  have after : (partsOf high ++ [] :: partsOf low).drop ((partsOf high).length + 1) =
      partsOf low := by
    rw [List.drop_append, List.drop_eq_nil_of_le (Nat.le_succ _), Nat.add_sub_cancel_left]
    rfl
  rw [hextetsOf, skipPlaces_compressed]
  dsimp only
  rw [before, after, if_neg (not_or.mpr ⟨first, last⟩), filter_partsOf, filter_partsOf,
    List.length_map, List.length_map, if_neg (Nat.not_le_of_lt few), mapM_parseHextet small,
    mapM_parseHextet small']
  rfl

/-! ## IPv6 -/

/-- The hextets of an address. -/
def hextetsOfValue (value : BitVec 128) : List Nat :=
  (List.range 8).map fun place => value.toNat / 65536 ^ (7 - place) % 65536

theorem hextet_lt {value : BitVec 128} {hextet : Nat} (member : hextet ∈ hextetsOfValue value) :
    hextet < 65536 := by
  obtain ⟨place, _, rfl⟩ := List.mem_map.mp member
  exact Nat.mod_lt _ (by decide)

theorem ofNat_hextets (value : BitVec 128) :
    BitVec.ofNat 128 (spelled 65536 (hextetsOfValue value)) = value := by
  have whole : value.toNat % 65536 ^ 8 = value.toNat := Nat.mod_eq_of_lt value.isLt
  rw [hextetsOfValue, spelled_digits 65536 value.toNat 8, whole, BitVec.ofNat_toNat,
    BitVec.setWidth_eq]

/-- Parts that stand for the hextets of an address are parsed as the address. -/
theorem parseIPv6_of_parts {value : BitVec 128} {chars : List Char} {parts : List (List Char)}
    (split : chars.splitOn ':' = parts) (least : 3 ≤ parts.length) (most : parts.length ≤ 9)
    (no_point : ∀ part ∈ parts, '.' ∉ part)
    (hextets : hextetsOf parts = some (hextetsOfValue value)) : parseIPv6 chars = some value := by
  rw [parseIPv6, split, if_neg (Nat.not_lt_of_le least), expandSuffix_eq no_point]
  change (if 9 < parts.length then none
    else (hextetsOf parts).map fun values => BitVec.ofNat 128 (spelled 65536 values)) = some value
  rw [if_neg (Nat.not_lt_of_le most), hextets, Option.map_some, ofNat_hextets]

theorem parseIPv6_ipv6Text (value : BitVec 128) :
    parseIPv6 (ipv6Text value).toList = some value := by
  have run : IsZeroRun (hextetsOfValue value)
      (longestZeroRun (hextetsOfValue value) 0 (0, 0) (0, 0)) :=
    isZeroRun_longestZeroRun [] (hextetsOfValue value) (0, 0) (0, 0) rfl (isZeroRun_nothing _)
      (isZeroRun_nothing _) fun some_length => absurd rfl some_length
  have eight : (hextetsOfValue value).length = 8 := by simp [hextetsOfValue]
  have text : ipv6Text value =
      if 1 < (longestZeroRun (hextetsOfValue value) 0 (0, 0) (0, 0)).2 then
        joinHextets ((hextetsOfValue value).take
            (longestZeroRun (hextetsOfValue value) 0 (0, 0) (0, 0)).1) ++ "::" ++
          joinHextets ((hextetsOfValue value).drop
            ((longestZeroRun (hextetsOfValue value) 0 (0, 0) (0, 0)).1 +
              (longestZeroRun (hextetsOfValue value) 0 (0, 0) (0, 0)).2))
      else joinHextets (hextetsOfValue value) := rfl
  rw [text]
  generalize longestZeroRun (hextetsOfValue value) 0 (0, 0) (0, 0) = found at run
  obtain ⟨start, length⟩ := found
  have whole := eq_of_isZeroRun run
  have inside := run.1
  rw [eight] at inside
  dsimp only at inside
  generalize high_eq : (hextetsOfValue value).take start = high at whole
  generalize low_eq : (hextetsOfValue value).drop (start + length) = low at whole
  have high_length : high.length = start := by
    rw [← high_eq, List.length_take, eight]
    omega
  have low_length : low.length = 8 - (start + length) := by
    rw [← low_eq, List.length_drop, eight]
  dsimp only
  split
  next long =>
    have split : (joinHextets high ++ "::" ++ joinHextets low).toList.splitOn ':' =
        partsOf high ++ [] :: partsOf low := by
      have text : (joinHextets high ++ "::" ++ joinHextets low).toList =
          (joinHextets high).toList ++ ':' :: ([] ++ ':' :: (joinHextets low).toList) := by
        simp
      rw [text, List.splitOn_append_cons_self, List.splitOn_append_cons_self, splitOn_joinHextets,
        splitOn_joinHextets]
      rfl
    have parts_length : (partsOf high ++ [] :: partsOf low).length =
        (partsOf high).length + ((partsOf low).length + 1) := by
      rw [List.length_append, List.length_cons]
    have high_parts := length_partsOf high
    have low_parts := length_partsOf low
    refine parseIPv6_of_parts split (by omega) (by omega) ?_ ?_
    · intro part member
      rcases List.mem_append.mp member with before | behind
      · exact no_point_partsOf before
      · rcases List.mem_cons.mp behind with rfl | after
        · exact List.not_mem_nil
        · exact no_point_partsOf after
    · have small : ∀ hextet ∈ high, hextet < 65536 := by
        intro hextet member
        have within : hextet ∈ hextetsOfValue value := by
          rw [whole]
          exact List.mem_append_left _ (List.mem_append_left _ member)
        exact hextet_lt within
      have small' : ∀ hextet ∈ low, hextet < 65536 := by
        intro hextet member
        have within : hextet ∈ hextetsOfValue value := by
          rw [whole]
          exact List.mem_append_right _ member
        exact hextet_lt within
      have zeros : 8 - (high.length + low.length) = length := by omega
      rw [hextetsOf_compressed small small' (by omega), zeros, ← whole]
  next short =>
    have some : hextetsOfValue value ≠ [] := by
      intro none
      rw [none] at eight
      cases eight
    have split := splitOn_joinHextets (hextetsOfValue value)
    rw [partsOf, if_neg some] at split
    refine parseIPv6_of_parts split ?_ ?_ ?_ (hextetsOf_whole (fun _ => hextet_lt) eight)
    · rw [List.length_map, eight]
      decide
    · rw [List.length_map, eight]
      decide
    · intro part member
      obtain ⟨hextet, _, rfl⟩ := List.mem_map.mp member
      exact not_mem_hexNumber (by decide) hextet

theorem mem_joinHextets {hextets : List Nat} {c : Char} (member : c ∈ (joinHextets hextets).toList) :
    c = ':' ∨ (hexValue c).isSome = true := by
  induction hextets with
  | nil => cases member
  | cons hextet rest ih =>
      cases rest with
      | nil =>
          rw [joinHextets, List.map_singleton, String.intercalate_singleton, String.toList_ofList]
            at member
          exact .inr (isSome_hexValue member)
      | cons next others =>
          rw [joinHextets, List.map_cons, List.map_cons, String.intercalate_cons_cons,
            String.toList_append, String.toList_append, String.toList_ofList, List.append_assoc]
            at member
          rcases List.mem_append.mp member with here | there
          · exact .inr (isSome_hexValue here)
          · rcases List.mem_cons.mp there with rfl | behind
            · exact .inl rfl
            · exact ih behind

/-- The characters of an IPv6 text. -/
theorem mem_ipv6Text {value : BitVec 128} {c : Char} (member : c ∈ (ipv6Text value).toList) :
    c = ':' ∨ (hexValue c).isSome = true := by
  rw [ipv6Text] at member
  dsimp only at member
  split at member
  · rw [String.toList_append, String.toList_append] at member
    rcases List.mem_append.mp member with either | behind
    · rcases List.mem_append.mp either with before | colons
      · exact mem_joinHextets before
      · simp only [String.reduceToList, List.mem_cons, List.not_mem_nil, or_false, or_self] at colons
        exact .inl colons
    · exact mem_joinHextets behind
  · exact mem_joinHextets member

theorem not_mem_ipv6Text {mark : Char} (no_colon : mark ≠ ':') (no_digit : hexValue mark = none)
    (value : BitVec 128) : mark ∉ (ipv6Text value).toList := by
  intro member
  rcases mem_ipv6Text member with colon | digit
  · exact no_colon colon
  · rw [no_digit] at digit
    cases digit

theorem colon_mem_ipv6Text (value : BitVec 128) : ':' ∈ (ipv6Text value).toList := by
  by_contra none
  have parsed := parseIPv6_ipv6Text value
  have few : [(ipv6Text value).toList].length < 3 := Nat.lt_of_sub_eq_succ rfl
  rw [parseIPv6, List.splitOn_eq_singleton none, if_pos few] at parsed
  cases parsed

/-- The parts of a split text do not have the mark. -/
theorem mark_not_mem_part {mark : Char} {chars part : List Char}
    (member : part ∈ chars.splitOn mark) : mark ∉ part := by
  induction chars generalizing part with
  | nil =>
      rw [List.splitOn_nil, List.mem_singleton] at member
      rw [member]
      exact List.not_mem_nil
  | cons c rest ih =>
      rw [List.splitOn_cons_eq_if_modifyHead] at member
      split at member
      · rcases List.mem_cons.mp member with rfl | later
        · exact List.not_mem_nil
        · exact ih later
      next other =>
        obtain ⟨head, tail, parts⟩ := List.exists_cons_of_ne_nil (List.splitOn_ne_nil mark rest)
        rw [parts] at member ih
        rcases List.mem_cons.mp member with rfl | later
        · intro inside
          rcases List.mem_cons.mp inside with same | deeper
          · exact other (beq_iff_eq.mpr same.symm)
          · exact ih List.mem_cons_self deeper
        · exact ih (List.mem_cons_of_mem _ later)

/-- Every other character of a text is in one of its parts. -/
theorem exists_part {mark c : Char} {chars : List Char} (unequal : c ≠ mark) (member : c ∈ chars) :
    ∃ part ∈ chars.splitOn mark, c ∈ part := by
  induction chars with
  | nil => cases member
  | cons d rest ih =>
      rw [List.splitOn_cons_eq_if_modifyHead]
      split
      next same =>
        rcases List.mem_cons.mp member with rfl | later
        · exact absurd (beq_iff_eq.mp same) unequal
        · obtain ⟨part, inside, within⟩ := ih later
          exact ⟨part, List.mem_cons_of_mem _ inside, within⟩
      · obtain ⟨head, tail, parts⟩ := List.exists_cons_of_ne_nil (List.splitOn_ne_nil mark rest)
        rw [parts] at ih ⊢
        rcases List.mem_cons.mp member with rfl | later
        · exact ⟨c :: head, List.mem_cons_self, List.mem_cons_self⟩
        · obtain ⟨part, inside, within⟩ := ih later
          rcases List.mem_cons.mp inside with rfl | behind
          · exact ⟨d :: part, List.mem_cons_self, List.mem_cons_of_mem _ within⟩
          · exact ⟨part, List.mem_cons_of_mem _ behind, within⟩

/-- A text with a colon is no IPv4 address. -/
theorem parseIPv4_of_colon {chars : List Char} (colon : ':' ∈ chars) : parseIPv4 chars = none := by
  obtain ⟨part, member, within⟩ := exists_part (by decide : ':' ≠ '.') colon
  have refused : parseOctet part = none := by
    rw [parseOctet, if_pos]
    exact .inr (.inl (List.any_eq_true.mpr ⟨':', within, rfl⟩))
  rw [parseIPv4]
  split
  · rfl
  · have all_refused : ∀ parts : List (List Char), part ∈ parts → parts.mapM parseOctet = none := by
      intro parts
      induction parts with
      | nil => exact fun none => absurd none List.not_mem_nil
      | cons first rest ih =>
          intro member
          rw [List.mapM_cons]
          rcases List.mem_cons.mp member with rfl | later
          · rw [refused]
            rfl
          · rw [ih later]
            cases parseOctet first <;> rfl
    rw [all_refused _ member]
    rfl

/-! ## Addresses -/

/-- A scope that a text can have. -/
structure IsScope (scope : String) : Prop where
  nonempty : scope.toList ≠ []
  no_slash : '/' ∉ scope.toList
  no_percent : '%' ∉ scope.toList

/-- An address that a text can stand for. -/
def IpAddress.Scoped : IpAddress → Prop
  | .v4 _ => True
  | .v6 _ scopeId => ∀ scope ∈ scopeId, IsScope scope

theorem scoped_of_parseAddress {text : String} {address : IpAddress}
    (parsed : parseAddress text = some address) : address.Scoped := by
  rw [parseAddress] at parsed
  split at parsed
  · cases parsed
    trivial
  split at parsed
  · cases parsed
  next no_slash =>
  split at parsed
  · obtain ⟨value, _, rfl⟩ := Option.map_eq_some_iff.mp parsed
    exact fun _ none => nomatch none
  next address_part scope parts =>
    split at parsed
    · cases parsed
    next nonempty =>
      obtain ⟨value, _, rfl⟩ := Option.map_eq_some_iff.mp parsed
      intro scope' member
      obtain rfl := Option.some.inj member
      have joined : ['%'].intercalate (text.toList.splitOn '%') = text.toList :=
        List.intercalate_splitOn '%'
      rw [parts, List.intercalate_cons_cons, List.intercalate_singleton] at joined
      refine ⟨?_, ?_, ?_⟩
      · rw [String.toList_ofList]
        exact nonempty
      · rw [String.toList_ofList]
        intro slash
        refine no_slash ?_
        rw [← joined]
        exact List.mem_append_right _ slash
      · rw [String.toList_ofList]
        have member : scope ∈ text.toList.splitOn '%' := by
          rw [parts]
          exact List.mem_cons_of_mem _ List.mem_cons_self
        exact mark_not_mem_part member
  · cases parsed

/-- **The text of an address is parsed as the address.** -/
theorem parseAddress_text_of_scoped {address : IpAddress} (scopes : address.Scoped) :
    parseAddress address.text = some address := by
  cases address with
  | v4 value => rw [parseAddress, parseIPv4_text]
  | v6 value scopeId =>
      have no_slash := not_mem_ipv6Text (by decide : '/' ≠ ':') (by decide) value
      have no_percent := not_mem_ipv6Text (by decide : '%' ≠ ':') (by decide) value
      cases scopeId with
      | none =>
          have text : (IpAddress.v6 value none).text = ipv6Text value := String.append_empty
          rw [parseAddress, text, parseIPv4_of_colon (colon_mem_ipv6Text value)]
          dsimp only
          rw [if_neg no_slash, List.splitOn_eq_singleton no_percent]
          dsimp only
          rw [parseIPv6_ipv6Text]
          rfl
      | some scope =>
          obtain ⟨nonempty, scope_no_slash, scope_no_percent⟩ := scopes scope rfl
          have text : (IpAddress.v6 value (some scope)).text.toList =
              (ipv6Text value).toList ++ '%' :: scope.toList := by
            simp [IpAddress.text]
          have colon : ':' ∈ (IpAddress.v6 value (some scope)).text.toList := by
            rw [text]
            exact List.mem_append_left _ (colon_mem_ipv6Text value)
          have no_slash' : '/' ∉ (IpAddress.v6 value (some scope)).text.toList := by
            rw [text]
            intro member
            rcases List.mem_append.mp member with before | behind
            · exact no_slash before
            · rcases List.mem_cons.mp behind with same | inside
              · exact absurd same (by decide)
              · exact scope_no_slash inside
          rw [parseAddress, parseIPv4_of_colon colon]
          dsimp only
          rw [if_neg no_slash', text, List.splitOn_append_cons_self,
            List.splitOn_eq_singleton no_percent, List.splitOn_eq_singleton scope_no_percent]
          dsimp only [List.cons_append, List.nil_append]
          rw [if_neg nonempty, parseIPv6_ipv6Text, Option.map_some, String.ofList_toList]

/-- **The text of a parsed address is parsed as the same address.** -/
theorem parseAddress_text {text : String} {address : IpAddress}
    (parsed : parseAddress text = some address) : parseAddress address.text = some address :=
  parseAddress_text_of_scoped (scoped_of_parseAddress parsed)

end WolandGuard.IpBlocks
