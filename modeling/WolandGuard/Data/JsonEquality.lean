import WolandGuard.Data.FloatText
import WolandGuard.Data.JsonCanonical
import WolandGuard.Foundations.DeterministicRegex

/-!
# Two equalities of values

Two values have one canonical text exactly when they agree up to the order of keys
(`canonicalValue_eq_iff_sorted`), floats included: what follows a value ends its
text, and the first character tells the kind of the value. Two values are equal to
Python exactly when they agree up to the order of keys and the forms of numbers
(`pyEq_iff`), of which there are three: truth values, integers and floats.
-/

set_option autoImplicit false

namespace WolandGuard.JsonValue

open Foundations

/-! ## Values that Python can hold -/

mutual

/-- No key twice in an object. -/
def UniqueKeys : JsonValue → Prop
  | .arr items => UniqueKeysItems items
  | .obj members => (members.map Prod.fst).Nodup ∧ UniqueKeysMembers members
  | _ => True

def UniqueKeysItems : List JsonValue → Prop
  | [] => True
  | item :: rest => item.UniqueKeys ∧ UniqueKeysItems rest

def UniqueKeysMembers : List (String × JsonValue) → Prop
  | [] => True
  | (_, value) :: rest => value.UniqueKeys ∧ UniqueKeysMembers rest

end

mutual

/-- The keys of every object in ascending order. -/
def Ascending : JsonValue → Prop
  | .arr items => AscendingItems items
  | .obj members => (members.map Prod.fst).Pairwise (· < ·) ∧ AscendingMembers members
  | _ => True

def AscendingItems : List JsonValue → Prop
  | [] => True
  | item :: rest => item.Ascending ∧ AscendingItems rest

def AscendingMembers : List (String × JsonValue) → Prop
  | [] => True
  | (_, value) :: rest => value.Ascending ∧ AscendingMembers rest

end

theorem ascendingMembers_iff {members : List (String × JsonValue)} :
    AscendingMembers members ↔ ∀ member ∈ members, Ascending member.2 := by
  induction members with
  | nil => exact ⟨fun _ _ none => absurd none List.not_mem_nil, fun _ => trivial⟩
  | cons member rest ih =>
      obtain ⟨key, value⟩ := member
      rw [AscendingMembers, ih, List.forall_mem_cons]

mutual

theorem ascending_sorted : ∀ value : JsonValue, UniqueKeys value → Ascending value.sorted
  | .null, _ => trivial
  | .bool _, _ => trivial
  | .int _, _ => trivial
  | .float _, _ => trivial
  | .str _, _ => trivial
  | .arr items, unique => ascendingItems_sorted items unique
  | .obj members, unique => by
      have each := ascendingMembers_iff.mp (ascendingMembers_sorted members unique.2)
      rw [sorted]
      refine ⟨ascending_insertionSort ((keys_sortedMembers members).symm ▸ unique.1), ?_⟩
      refine ascendingMembers_iff.mpr fun member present => each member ?_
      exact (List.mem_insertionSort memberOrder).mp present

theorem ascendingItems_sorted :
    ∀ items : List JsonValue, UniqueKeysItems items → AscendingItems (sortedItems items)
  | [], _ => trivial
  | item :: rest, unique =>
      ⟨ascending_sorted item unique.1, ascendingItems_sorted rest unique.2⟩

theorem ascendingMembers_sorted :
    ∀ members : List (String × JsonValue), UniqueKeysMembers members →
      AscendingMembers (sortedMembers members)
  | [], _ => trivial
  | (_, value) :: rest, unique =>
      ⟨ascending_sorted value unique.1, ascendingMembers_sorted rest unique.2⟩

end

/-! ## The first character of a text -/

/-- The kinds of values that texts tell apart at once. -/
inductive Kind where
  | null | bool | number | str | arr | obj
  deriving DecidableEq

def kind : JsonValue → Kind
  | .null => .null
  | .bool _ => .bool
  | .int _ => .number
  | .float _ => .number
  | .str _ => .str
  | .arr _ => .arr
  | .obj _ => .obj

/-- The kind of value that a text with this first character is of. -/
def kindOf (c : Char) : Option Kind :=
  if c = 'n' then some .null
  else if c = 't' ∨ c = 'f' then some .bool
  else if JsonFloat.isNumeric c then some .number
  else if c = '"' then some .str
  else if c = '[' then some .arr
  else if c = '\x7b' then some .obj
  else none

theorem kindOf_numeric {c : Char} (numeric : JsonFloat.isNumeric c = true) :
    kindOf c = some .number := by
  have not_n : c ≠ 'n' := by
    rintro rfl
    cases numeric
  have not_truth : ¬ (c = 't' ∨ c = 'f') := by
    rintro (rfl | rfl)
    all_goals cases numeric
  rw [kindOf, if_neg not_n, if_neg not_truth, if_pos numeric]

/-- The text of a number has numeric characters only, and at least one. -/
theorem exists_numeric {text : List Char} (nonempty : text ≠ [])
    (each : ∀ c ∈ text, JsonFloat.isNumeric c = true) :
    ∃ first others, text = first :: others ∧ kindOf first = some .number := by
  obtain ⟨first, others, rfl⟩ := List.exists_cons_of_ne_nil nonempty
  exact ⟨first, others, rfl, kindOf_numeric (each first List.mem_cons_self)⟩

theorem repr_ne_nil (f : JsonFloat) : f.repr.toList ≠ [] := by
  obtain ⟨first, others, shape, _⟩ := JsonFloat.head_magnitude (JsonFloat.magnitude_spec f)
  rw [JsonFloat.repr_toList, shape]
  exact List.append_ne_nil_of_right_ne_nil _ (List.cons_ne_nil _ _)

theorem intText_ne_nil (i : Int) : (toString i).toList ≠ [] := by
  obtain ⟨first, others, shape, _⟩ := toString_int_starts i
  rw [shape]
  exact List.cons_ne_nil _ _

/-- **The first character of a text tells the kind of the value.** -/
theorem kindOf_canonicalValue (value : JsonValue) :
    ∃ first others, (canonicalValue value).toList = first :: others ∧
      kindOf first = some value.kind := by
  cases value with
  | null => exact ⟨_, _, rfl, rfl⟩
  | bool value =>
      cases value with
      | true => exact ⟨_, _, rfl, rfl⟩
      | false => exact ⟨_, _, rfl, rfl⟩
  | int i => exact exists_numeric (intText_ne_nil i) (JsonFloat.isNumeric_intText i)
  | float f => exact exists_numeric (repr_ne_nil f) (JsonFloat.isNumeric_repr f)
  | str text => exact ⟨_, _, by rw [canonicalValue, quote_toList], rfl⟩
  | arr items => exact ⟨_, _, canonicalValue_arr items, rfl⟩
  | obj members =>
      rw [canonicalValue, String.toList_append, String.toList_append, List.append_assoc]
      exact ⟨_, _, rfl, rfl⟩

theorem kind_eq {left right : JsonValue} {rest more : List Char}
    (same : (canonicalValue left).toList ++ rest = (canonicalValue right).toList ++ more) :
    left.kind = right.kind := by
  obtain ⟨first, others, shape, kind⟩ := kindOf_canonicalValue left
  obtain ⟨first', others', shape', kind'⟩ := kindOf_canonicalValue right
  rw [shape, shape'] at same
  rw [(List.cons.inj same).1] at kind
  exact Option.some.inj (kind.symm.trans kind')

/-! ## Numbers -/

/-- What follows a number ends its text. -/
theorem not_numeric_of_terminated {rest : List Char} (terminated : Terminated rest) :
    ∀ c ∈ rest.head?, JsonFloat.isNumeric c = false := by
  rcases terminated with rfl | ⟨c, others, rfl, rfl | rfl | rfl⟩
  · exact fun _ none => nomatch none
  all_goals
    intro c head
    obtain rfl := Option.some.inj head
    rfl

theorem numeric_unique {left right rest more : List Char}
    (each : ∀ c ∈ left, JsonFloat.isNumeric c = true)
    (each' : ∀ c ∈ right, JsonFloat.isNumeric c = true) (terminated : Terminated rest)
    (terminated' : Terminated more) (same : left ++ rest = right ++ more) : left = right :=
  Regex.run_unique each each' (not_numeric_of_terminated terminated)
    (not_numeric_of_terminated terminated') same

/-! ## Lists and objects -/

/-- What stands behind the first item of a list. -/
def itemsTail : List JsonValue → List Char
  | [] => []
  | next :: rest => ',' :: itemsText (next :: rest)

/-- What stands behind the first member of an object. -/
def membersTail : List (String × JsonValue) → List Char
  | [] => []
  | next :: rest => ',' :: membersText (next :: rest)

theorem itemsText_cons (item : JsonValue) (rest : List JsonValue) :
    itemsText (item :: rest) = (canonicalValue item).toList ++ itemsTail rest := by
  cases rest with
  | nil => rw [itemsText_singleton, itemsTail, List.append_nil]
  | cons next rest => rw [itemsText_cons_cons, itemsTail]

theorem membersText_cons (key : String) (value : JsonValue) (rest : List (String × JsonValue)) :
    membersText ((key, value) :: rest) =
      (quote key).toList ++ ':' :: ((canonicalValue value).toList ++ membersTail rest) := by
  rw [quote_toList]
  cases rest with
  | nil => simp [membersText_singleton, membersTail]
  | cons next rest => simp [membersText_cons_cons, membersTail]

theorem terminated_itemsTail (items : List JsonValue) (rest : List Char) :
    Terminated (itemsTail items ++ ']' :: rest) := by
  cases items with
  | nil => exact terminated_bracket rest
  | cons next others => exact terminated_comma _

theorem terminated_membersTail (members : List (String × JsonValue)) (rest : List Char) :
    Terminated (membersTail members ++ '\x7d' :: rest) := by
  cases members with
  | nil => exact terminated_brace rest
  | cons next others => exact terminated_comma _

/-- A list that ends at once is no other list. -/
theorem itemsText_ne_nil (item : JsonValue) (items : List JsonValue) {rest more : List Char} :
    itemsText (item :: items) ++ rest ≠ ']' :: more := by
  obtain ⟨first, others, shape, kind⟩ := kindOf_canonicalValue item
  rw [itemsText_cons, shape]
  intro same
  rw [(List.cons.inj same).1] at kind
  cases kind

theorem membersText_ne_nil (member : String × JsonValue) (members : List (String × JsonValue))
    {rest more : List Char} : membersText (member :: members) ++ rest ≠ '\x7d' :: more := by
  obtain ⟨key, value⟩ := member
  rw [membersText_cons, quote_toList]
  intro same
  exact absurd (List.cons.inj same).1 (by decide)

/-- Equal tails are those of lists of equal texts. -/
theorem itemsTail_cancel {items others : List JsonValue} {rest more : List Char}
    (same : itemsTail items ++ ']' :: rest = itemsTail others ++ ']' :: more) :
    itemsText items ++ ']' :: rest = itemsText others ++ ']' :: more := by
  cases items with
  | nil =>
      cases others with
      | nil => exact same
      | cons next others => exact absurd (List.cons.inj same).1 (by decide)
  | cons item items =>
      cases others with
      | nil => exact absurd (List.cons.inj same).1 (by decide)
      | cons next others => exact (List.cons.inj same).2

theorem membersTail_cancel {members others : List (String × JsonValue)} {rest more : List Char}
    (same : membersTail members ++ '\x7d' :: rest = membersTail others ++ '\x7d' :: more) :
    membersText members ++ '\x7d' :: rest = membersText others ++ '\x7d' :: more := by
  cases members with
  | nil =>
      cases others with
      | nil => exact same
      | cons next others => exact absurd (List.cons.inj same).1 (by decide)
  | cons member members =>
      cases others with
      | nil => exact absurd (List.cons.inj same).1 (by decide)
      | cons next others => exact (List.cons.inj same).2

/-! ## Texts determine values -/

mutual

/-- **A text in front of its end determines the value**, when the keys ascend. -/
theorem value_unique : ∀ (left right : JsonValue) {rest more : List Char}, Ascending left →
    Ascending right → Terminated rest → Terminated more →
    (canonicalValue left).toList ++ rest = (canonicalValue right).toList ++ more → left = right
  | .null, right, rest, more, _, _, _, _, same => by
      have kinds := kind_eq same
      cases right with
      | null => rfl
      | _ => cases kinds
  | .bool value, right, rest, more, _, _, _, _, same => by
      have kinds := kind_eq same
      cases right with
      | bool other =>
          have first := congrArg List.head? same
          cases value with
          | true => cases other with
            | true => rfl
            | false => cases first
          | false => cases other with
            | true => cases first
            | false => rfl
      | _ => cases kinds
  | .int i, right, rest, more, _, _, terminated, terminated', same => by
      have kinds := kind_eq same
      cases right with
      | int j =>
          exact congrArg JsonValue.int (JsonFloat.intText_injective (numeric_unique
            (JsonFloat.isNumeric_intText i) (JsonFloat.isNumeric_intText j) terminated terminated'
            same))
      | float g =>
          have texts := numeric_unique (JsonFloat.isNumeric_intText i) (JsonFloat.isNumeric_repr g)
            terminated terminated' same
          exact absurd (String.toList_inj.mp texts.symm) (JsonFloat.repr_ne_intText g i)
      | _ => cases kinds
  | .float f, right, rest, more, _, _, terminated, terminated', same => by
      have kinds := kind_eq same
      cases right with
      | int j =>
          have texts := numeric_unique (JsonFloat.isNumeric_repr f) (JsonFloat.isNumeric_intText j)
            terminated terminated' same
          exact absurd (String.toList_inj.mp texts) (JsonFloat.repr_ne_intText f j)
      | float g =>
          have texts := numeric_unique (JsonFloat.isNumeric_repr f) (JsonFloat.isNumeric_repr g)
            terminated terminated' same
          exact congrArg JsonValue.float (JsonFloat.repr_injective (String.toList_inj.mp texts))
      | _ => cases kinds
  | .str text, right, rest, more, _, _, _, _, same => by
      have kinds := kind_eq same
      cases right with
      | str other =>
          rw [canonicalValue, canonicalValue] at same
          exact congrArg JsonValue.str (quote_append_inj same).1
      | _ => cases kinds
  | .arr items, right, rest, more, ascending, ascending', _, _, same => by
      have kinds := kind_eq same
      cases right with
      | arr others =>
          rw [canonicalValue_arr, canonicalValue_arr, List.cons_append, List.cons_append,
            List.append_assoc, List.append_assoc] at same
          exact congrArg JsonValue.arr
            (items_unique items others ascending ascending' (List.cons.inj same).2)
      | _ => cases kinds
  | .obj members, right, rest, more, ascending, ascending', _, _, same => by
      have kinds := kind_eq same
      cases right with
      | obj others =>
          rw [canonicalValue_obj_toList ascending.1, canonicalValue_obj_toList ascending'.1,
            List.cons_append, List.cons_append, List.append_assoc, List.append_assoc] at same
          exact congrArg JsonValue.obj
            (members_unique members others ascending.2 ascending'.2 (List.cons.inj same).2)
      | _ => cases kinds

theorem items_unique : ∀ (items others : List JsonValue) {rest more : List Char},
    AscendingItems items → AscendingItems others →
    itemsText items ++ ']' :: rest = itemsText others ++ ']' :: more → items = others
  | [], [], _, _, _, _, _ => rfl
  | [], other :: others, _, _, _, _, same => absurd same.symm (itemsText_ne_nil other others)
  | item :: items, [], _, _, _, _, same => absurd same (itemsText_ne_nil item items)
  | item :: items, other :: others, rest, more, ascending, ascending', same => by
      rw [itemsText_cons, itemsText_cons, List.append_assoc, List.append_assoc] at same
      obtain rfl := value_unique item other ascending.1 ascending'.1 (terminated_itemsTail items rest)
        (terminated_itemsTail others more) same
      rw [items_unique items others ascending.2 ascending'.2
        (itemsTail_cancel (List.append_cancel_left same))]

theorem members_unique : ∀ (members others : List (String × JsonValue)) {rest more : List Char},
    AscendingMembers members → AscendingMembers others →
    membersText members ++ '\x7d' :: rest = membersText others ++ '\x7d' :: more → members = others
  | [], [], _, _, _, _, _ => rfl
  | [], other :: others, _, _, _, _, same => absurd same.symm (membersText_ne_nil other others)
  | member :: members, [], _, _, _, _, same => absurd same (membersText_ne_nil member members)
  | (key, value) :: members, (other_key, other) :: others, rest, more, ascending, ascending',
      same => by
      rw [membersText_cons, membersText_cons, List.append_assoc, List.append_assoc,
        List.cons_append, List.cons_append, List.append_assoc, List.append_assoc] at same
      obtain ⟨rfl, behind⟩ := quote_append_inj same
      have texts := (List.cons.inj behind).2
      obtain rfl := value_unique value other ascending.1 ascending'.1
        (terminated_membersTail members rest) (terminated_membersTail others more) texts
      rw [members_unique members others ascending.2 ascending'.2
        (membersTail_cancel (List.append_cancel_left texts))]

end

/-- **Values with one canonical text agree up to the order of keys.** -/
theorem canonicalValue_eq_iff_sorted {left right : JsonValue} (unique : UniqueKeys left)
    (unique' : UniqueKeys right) :
    canonicalValue left = canonicalValue right ↔ left.sorted = right.sorted := by
  constructor
  · intro same
    rw [← canonicalValue_sorted left, ← canonicalValue_sorted right] at same
    exact value_unique left.sorted right.sorted (ascending_sorted left unique)
      (ascending_sorted right unique') (.inl rfl) (.inl rfl)
      (congrArg (fun text => text.toList ++ []) same)
  · intro same
    rw [← canonicalValue_sorted left, same, canonicalValue_sorted right]

/-! ## Python's equality -/

theorem pyEqMembers_iff {left right : List (String × JsonValue)} :
    pyEqMembers left right = true ↔
      ∀ entry ∈ left, ∃ found, right.lookup entry.1 = some found ∧ entry.2.pyEq found = true := by
  induction left with
  | nil => simp [pyEqMembers]
  | cons entry rest ih =>
      obtain ⟨key, value⟩ := entry
      rw [pyEqMembers, Bool.and_eq_true, ih, List.forall_mem_cons]
      refine and_congr_left fun _ => ?_
      cases found : right.lookup key with
      | none => simp
      | some other => simp

theorem lookup_of_mem {members : List (String × JsonValue)}
    (different : (members.map Prod.fst).Nodup) {key : String} {value : JsonValue}
    (member : (key, value) ∈ members) : members.lookup key = some value := by
  induction members with
  | nil => cases member
  | cons entry rest ih =>
      obtain ⟨first, other⟩ := entry
      rw [List.map_cons, List.nodup_cons] at different
      rcases List.mem_cons.mp member with same | later
      · cases same
        rw [List.lookup_cons, beq_self_eq_true]
      · have unequal : (key == first) = false := by
          rw [beq_eq_false_iff_ne]
          rintro rfl
          exact different.1 (List.mem_map.mpr ⟨_, later, rfl⟩)
        rw [List.lookup_cons, unequal]
        exact ih different.2 later

theorem mem_of_lookup {members : List (String × JsonValue)} {key : String} {value : JsonValue}
    (found : members.lookup key = some value) : (key, value) ∈ members := by
  induction members with
  | nil => cases found
  | cons entry rest ih =>
      obtain ⟨first, other⟩ := entry
      rw [List.lookup_cons] at found
      split at found
      next same =>
        cases found
        rw [beq_iff_eq.mp same]
        exact List.mem_cons_self
      next => exact List.mem_cons_of_mem _ (ih found)

mutual

/-- The value with every number that is an integer written as one. -/
def plain : JsonValue → JsonValue
  | .null => .null
  | .bool value => .int (if value then 1 else 0)
  | .int value => .int value
  | .float value => if value.toRat.den = 1 then .int value.toRat.num else .float value
  | .str text => .str text
  | .arr items => .arr (plainItems items)
  | .obj members => .obj (plainMembers members)

def plainItems : List JsonValue → List JsonValue
  | [] => []
  | item :: rest => item.plain :: plainItems rest

def plainMembers : List (String × JsonValue) → List (String × JsonValue)
  | [] => []
  | (key, value) :: rest => (key, value.plain) :: plainMembers rest

end

/-- What is left of a value when neither the forms of numbers nor the order of keys
count. -/
def content (value : JsonValue) : JsonValue := value.plain.sorted

theorem plainMembers_eq (members : List (String × JsonValue)) :
    plainMembers members = members.map fun member => (member.1, member.2.plain) := by
  induction members with
  | nil => rfl
  | cons member rest ih =>
      obtain ⟨key, value⟩ := member
      rw [plainMembers, ih, List.map_cons]

theorem content_obj (members : List (String × JsonValue)) :
    content (.obj members) =
      .obj ((members.map fun member => (member.1, member.2.content)).insertionSort memberOrder) := by
  rw [content, plain, sorted, sortedMembers_eq, plainMembers_eq, List.map_map]
  rfl

/-- The content of a number. -/
theorem content_number {value : JsonValue} {x : Rat} (number : value.number? = some x) :
    (x.den = 1 ∧ value.content = .int x.num) ∨
      (x.den ≠ 1 ∧ ∃ f : JsonFloat, f.toRat = x ∧ value.content = .float f) := by
  cases value with
  | bool value =>
      obtain rfl := Option.some.inj number
      cases value with
      | true => exact .inl ⟨rfl, rfl⟩
      | false => exact .inl ⟨rfl, rfl⟩
  | int i =>
      obtain rfl := Option.some.inj number
      exact .inl ⟨rfl, rfl⟩
  | float f =>
      obtain rfl := Option.some.inj number
      rw [content, plain]
      split
      next whole => exact .inl ⟨whole, rfl⟩
      next fraction => exact .inr ⟨fraction, f, rfl, rfl⟩
  | _ => cases number

theorem mantissa_ne_zero {f : JsonFloat} (fraction : f.toRat.den ≠ 1) : f.mantissa ≠ 0 := by
  intro zero
  have value : f.toRat = 0 := by
    rw [JsonFloat.toRat, zero, Nat.cast_zero, mul_zero, zero_mul]
  rw [value] at fraction
  exact fraction rfl

/-- Numbers have one content exactly when they are equal. -/
theorem content_eq_iff_number {left right : JsonValue} {x y : Rat} (number : left.number? = some x)
    (number' : right.number? = some y) : left.content = right.content ↔ x = y := by
  rcases content_number number with ⟨whole, shape⟩ | ⟨fraction, f, rfl, shape⟩
  · rcases content_number number' with ⟨whole', shape'⟩ | ⟨fraction', g, rfl, shape'⟩
    · rw [shape, shape', JsonValue.int.injEq]
      constructor
      · intro numerators
        exact Rat.ext numerators (whole.trans whole'.symm)
      · intro same
        rw [same]
    · rw [shape, shape']
      constructor
      · intro same
        cases same
      · rintro rfl
        exact absurd whole fraction'
  · rcases content_number number' with ⟨whole', shape'⟩ | ⟨fraction', g, rfl, shape'⟩
    · rw [shape, shape']
      constructor
      · intro same
        cases same
      · rintro rfl
        exact absurd whole' fraction
    · rw [shape, shape', JsonValue.float.injEq]
      constructor
      · intro same
        rw [same]
      · exact JsonFloat.toRat_injective (mantissa_ne_zero fraction)

/-- The content of a value is a number exactly when the value is. -/
theorem number?_content (value : JsonValue) : value.content.number? = value.number? := by
  cases value with
  | float f =>
      have number : number? (.float f) = some f.toRat := rfl
      rcases content_number number with ⟨whole, shape⟩ | ⟨_, g, same, shape⟩
      · rw [shape, number, number?, Option.some.injEq]
        exact Rat.ext rfl whole.symm
      · rw [shape, number, number?, same]
  | bool value => cases value <;> rfl
  | _ => rfl

theorem pyEq_number {left right : JsonValue} {x : Rat} (number : left.number? = some x) :
    left.pyEq right = true ↔ left.content = right.content := by
  have compares : left.pyEq right = (right.number? == some x) := by
    cases left with
    | bool value =>
        rw [← number]
        cases right <;> rfl
    | int i =>
        rw [← number]
        cases right <;> rfl
    | float f =>
        rw [← number]
        cases right <;> rfl
    | _ => cases number
  rw [compares, beq_iff_eq]
  constructor
  · intro number'
    exact (content_eq_iff_number number number').mpr rfl
  · intro same
    rw [← number?_content, ← same, number?_content, number]

/-- Objects are equal when the values at their keys are. -/
theorem pyEq_obj {left right : List (String × JsonValue)} (different : (left.map Prod.fst).Nodup)
    (different' : (right.map Prod.fst).Nodup)
    (each : ∀ entry ∈ left, ∀ other, (entry.1, other) ∈ right →
      (entry.2.pyEq other = true ↔ entry.2.content = other.content)) :
    (JsonValue.obj left).pyEq (.obj right) = true ↔
      content (.obj left) = content (.obj right) := by
  rw [content_obj, content_obj, JsonValue.obj.injEq, pyEq, Bool.and_eq_true, beq_iff_eq,
    pyEqMembers_iff]
  generalize contents_eq :
    (fun member : String × JsonValue => (member.1, member.2.content)) = contents
  have sorted_perm : ∀ members : List (String × JsonValue),
      ((members.map contents).insertionSort memberOrder).Perm (members.map contents) :=
    fun members => List.perm_insertionSort memberOrder _
  constructor
  · rintro ⟨length, found⟩
    have inside : left.map contents ⊆ right.map contents := by
      intro mapped mapped_in
      obtain ⟨entry, member, rfl⟩ := List.mem_map.mp mapped_in
      obtain ⟨other, looked, same⟩ := found entry member
      have present := mem_of_lookup looked
      have values := (each entry member other present).mp same
      refine List.mem_map.mpr ⟨_, present, ?_⟩
      rw [← contents_eq]
      exact Prod.ext rfl values.symm
    have keys : ∀ members : List (String × JsonValue),
        (members.map contents).map Prod.fst = members.map Prod.fst := by
      intro members
      rw [List.map_map, ← contents_eq]
      rfl
    have ascending : ∀ {members : List (String × JsonValue)}, (members.map Prod.fst).Nodup →
        ((members.map contents).insertionSort memberOrder).Pairwise fun first second =>
          first.1 < second.1 :=
      fun once => List.pairwise_map.mp (ascending_insertionSort ((keys _).symm ▸ once))
    have reorder : (left.map contents).Perm (right.map contents) := by
      have once : (left.map contents).Nodup := List.Nodup.of_map Prod.fst ((keys _).symm ▸ different)
      refine (List.subperm_of_subset once inside).perm_of_length_le ?_
      rw [List.length_map, List.length_map, length]
    refine List.Perm.eq_of_pairwise ?_ (ascending different) (ascending different')
      ((sorted_perm left).trans (reorder.trans (sorted_perm right).symm))
    intro first second _ _ less greater
    exact absurd greater (Std.not_gt_of_lt less)
  · intro same
    have reorder : (left.map contents).Perm (right.map contents) :=
      (sorted_perm left).symm.trans (same ▸ sorted_perm right)
    refine ⟨?_, fun entry member => ?_⟩
    · have lengths := reorder.length_eq
      rwa [List.length_map, List.length_map] at lengths
    · have present : contents entry ∈ right.map contents :=
        reorder.mem_iff.mp (List.mem_map_of_mem member)
      obtain ⟨⟨key, other⟩, present, equal⟩ := List.mem_map.mp present
      rw [← contents_eq] at equal
      obtain ⟨rfl, contents⟩ := Prod.mk.inj equal
      exact ⟨other, lookup_of_mem different' present,
        (each entry member other present).mpr contents.symm⟩

theorem both_fail {left right : JsonValue} (unequal : left.pyEq right = false)
    (different : left.content ≠ right.content) :
    left.pyEq right = true ↔ left.content = right.content :=
  iff_of_false (Bool.eq_false_iff.mp unequal) different

/-- A value that is no number has not the content of a number. -/
theorem other_kind {left right : JsonValue} (no_number : left.number? = none)
    (number : right.number?.isSome = true) (unequal : left.pyEq right = false) :
    left.pyEq right = true ↔ left.content = right.content := by
  refine both_fail unequal fun same => ?_
  rw [← number?_content, ← same, number?_content, no_number] at number
  cases number

theorem uniqueKeys_of_mem {members : List (String × JsonValue)} (unique : UniqueKeysMembers members)
    {key : String} {value : JsonValue} (member : (key, value) ∈ members) : UniqueKeys value := by
  induction members with
  | nil => cases member
  | cons entry rest ih =>
      obtain ⟨first, other⟩ := entry
      rcases List.mem_cons.mp member with same | later
      · cases same
        exact unique.1
      · exact ih unique.2 later

theorem content_arr (items : List JsonValue) :
    content (.arr items) = .arr (sortedItems (plainItems items)) := rfl

mutual

/-- **Python's equality is equality up to the forms of numbers and the order of
keys.** -/
theorem pyEq_iff : ∀ (left right : JsonValue), UniqueKeys left → UniqueKeys right →
    (left.pyEq right = true ↔ left.content = right.content)
  | .bool _, _, _, _ => pyEq_number rfl
  | .int _, _, _, _ => pyEq_number rfl
  | .float _, _, _, _ => pyEq_number rfl
  | .null, right, _, _ => by
      cases right with
      | null => exact ⟨fun _ => rfl, fun _ => rfl⟩
      | str text => exact both_fail rfl nofun
      | arr items => exact both_fail rfl nofun
      | obj members => exact both_fail rfl nofun
      | _ => exact other_kind rfl rfl rfl
  | .str text, right, _, _ => by
      cases right with
      | str other =>
          rw [pyEq, beq_iff_eq]
          exact ⟨fun same => congrArg JsonValue.str same, fun same => JsonValue.str.inj same⟩
      | null => exact both_fail rfl nofun
      | arr items => exact both_fail rfl nofun
      | obj members => exact both_fail rfl nofun
      | _ => exact other_kind rfl rfl rfl
  | .arr items, right, unique, unique' => by
      cases right with
      | arr others =>
          rw [pyEq, content_arr, content_arr, JsonValue.arr.injEq]
          exact pyEqItems_iff items others unique unique'
      | null => exact both_fail rfl nofun
      | str text => exact both_fail rfl nofun
      | obj members => exact both_fail rfl nofun
      | _ => exact other_kind rfl rfl rfl
  | .obj members, right, unique, unique' => by
      cases right with
      | obj others =>
          refine pyEq_obj unique.1 unique'.1 ?_
          intro entry member other present
          exact pyEqMembers_each members unique.2 entry member other
            (uniqueKeys_of_mem unique'.2 present)
      | null => exact both_fail rfl nofun
      | str text => exact both_fail rfl nofun
      | arr items => exact both_fail rfl nofun
      | _ => exact other_kind rfl rfl rfl

theorem pyEqItems_iff : ∀ (items others : List JsonValue), UniqueKeysItems items →
    UniqueKeysItems others →
    (pyEqItems items others = true ↔
      sortedItems (plainItems items) = sortedItems (plainItems others))
  | [], [], _, _ => ⟨fun _ => rfl, fun _ => rfl⟩
  | [], _ :: _, _, _ => ⟨nofun, nofun⟩
  | _ :: _, [], _, _ => ⟨nofun, nofun⟩
  | item :: items, other :: others, unique, unique' => by
      rw [pyEqItems, Bool.and_eq_true, pyEq_iff item other unique.1 unique'.1,
        pyEqItems_iff items others unique.2 unique'.2, plainItems, plainItems, sortedItems,
        sortedItems, List.cons.injEq]
      rfl

theorem pyEqMembers_each : ∀ (members : List (String × JsonValue)), UniqueKeysMembers members →
    ∀ entry ∈ members, ∀ other : JsonValue, UniqueKeys other →
      (entry.2.pyEq other = true ↔ entry.2.content = other.content)
  | [], _, _, member, _, _ => absurd member List.not_mem_nil
  | (key, value) :: rest, unique, entry, member, other, unique' => by
      rcases List.mem_cons.mp member with rfl | later
      · exact pyEq_iff value other unique.1 unique'
      · exact pyEqMembers_each rest unique.2 entry later other unique'

end

mutual

/-- The order of keys leaves no trace in the content. -/
theorem content_sorted : ∀ value : JsonValue, content value.sorted = content value
  | .null => rfl
  | .bool _ => rfl
  | .int _ => rfl
  | .float _ => rfl
  | .str _ => rfl
  | .arr items => by
      rw [sorted, content_arr, content_arr, contentItems_sorted items]
  | .obj members => by
      have comm := List.map_insertionSort (r := memberOrder) (s := memberOrder)
        (fun member => (member.1, content member.2)) (sortedMembers members)
        fun _ _ _ _ => Iff.rfl
      rw [sorted, content_obj, content_obj, comm, contentMembers_sorted members,
        List.Pairwise.insertionSort_eq (List.pairwise_insertionSort memberOrder _)]

theorem contentItems_sorted : ∀ items : List JsonValue,
    sortedItems (plainItems (sortedItems items)) = sortedItems (plainItems items)
  | [] => rfl
  | item :: rest => by
      rw [sortedItems, plainItems, plainItems, sortedItems, sortedItems, contentItems_sorted rest]
      exact congrArg (· :: _) (content_sorted item)

theorem contentMembers_sorted : ∀ members : List (String × JsonValue),
    (sortedMembers members).map (fun member => (member.1, content member.2)) =
      members.map fun member => (member.1, content member.2)
  | [] => rfl
  | (key, value) :: rest => by
      rw [sortedMembers, List.map_cons, List.map_cons, contentMembers_sorted rest,
        content_sorted value]

end

/-! ## Values that differ in the forms of numbers only -/

/-- The two values agree but for the forms of numbers: at some place one has `true`,
`1` or `1.0` where the other has another of these. -/
def DifferInNumberForms (left right : JsonValue) : Prop :=
  left.content = right.content ∧ left.sorted ≠ right.sorted

/-- **The two equalities agree on two values exactly when these do not differ in the
forms of numbers only.** -/
theorem pyEq_iff_canonicalValue_iff {left right : JsonValue} (unique : UniqueKeys left)
    (unique' : UniqueKeys right) :
    (left.pyEq right = true ↔ canonicalValue left = canonicalValue right) ↔
      ¬ DifferInNumberForms left right := by
  rw [pyEq_iff left right unique unique', canonicalValue_eq_iff_sorted unique unique']
  constructor
  · rintro agree ⟨alike, different⟩
    exact different (agree.mp alike)
  · intro not_forms
    constructor
    · intro alike
      by_contra different
      exact not_forms ⟨alike, different⟩
    · intro same
      rw [← content_sorted left, same, content_sorted right]

end WolandGuard.JsonValue
