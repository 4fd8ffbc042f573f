import Mathlib.Data.List.Basic

/-!
# Texts of symbols

A text is written symbol by symbol, and read by a step that takes the first symbol
and leaves the rest. Where the step undoes the code of every symbol, reading undoes
writing (`readAll_flatMap`), and where it takes nothing else, what is read was written
(`eq_flatMap_of_readAll`).
-/

set_option autoImplicit false

namespace WolandGuard.Foundations

universe u v

variable {α : Type u} {β : Type v}

/-- Read symbols until the input is empty. -/
def readAll (step : List α → Option (β × List α)) : Nat → List α → Option (List β)
  | _, [] => some []
  | 0, _ :: _ => none
  | fuel + 1, first :: others =>
      match step (first :: others) with
      | none => none
      | some (symbol, rest) => (readAll step fuel rest).map (symbol :: ·)

/-- Read symbols up to a mark, and leave what follows it. -/
def readUntil [DecidableEq α] (mark : α) (step : List α → Option (β × List α)) :
    Nat → List α → Option (List β × List α)
  | _, [] => none
  | 0, first :: others => if first = mark then some ([], others) else none
  | fuel + 1, first :: others =>
      if first = mark then some ([], others)
      else
        match step (first :: others) with
        | none => none
        | some (symbol, rest) =>
            (readUntil mark step fuel rest).map fun read => (symbol :: read.1, read.2)

variable {step : List α → Option (β × List α)} {code : β → List α}

/-- **Reading undoes writing.** -/
theorem readAll_flatMap (nonempty : ∀ symbol, code symbol ≠ [])
    (undoes : ∀ symbol rest, step (code symbol ++ rest) = some (symbol, rest)) (symbols : List β)
    {fuel : Nat} (enough : (symbols.flatMap code).length ≤ fuel) :
    readAll step fuel (symbols.flatMap code) = some symbols := by
  induction symbols generalizing fuel with
  | nil =>
      cases fuel
      · rfl
      · rfl
  | cons symbol symbols ih =>
      have read := undoes symbol (symbols.flatMap code)
      rw [List.flatMap_cons] at enough ⊢
      cases shape : code symbol with
      | nil => exact absurd shape (nonempty symbol)
      | cons first others =>
          rw [shape, List.cons_append, List.length_cons, List.length_append] at enough
          rw [shape, List.cons_append] at read
          cases fuel with
          | zero => exact absurd enough (by omega)
          | succ fuel =>
              rw [List.cons_append, readAll, read]
              dsimp only
              rw [ih (by omega)]
              rfl

/-- **What is read was written**, when the step takes the code of a symbol. -/
theorem eq_flatMap_of_readAll
    (takes : ∀ input symbol rest, step input = some (symbol, rest) → input = code symbol ++ rest)
    {input : List α} {symbols : List β} {fuel : Nat} (read : readAll step fuel input = some symbols) :
    input = symbols.flatMap code := by
  induction fuel generalizing input symbols with
  | zero =>
      cases input with
      | nil =>
          obtain rfl := Option.some.inj read
          rfl
      | cons first others => cases read
  | succ fuel ih =>
      cases input with
      | nil =>
          obtain rfl := Option.some.inj read
          rfl
      | cons first others =>
          rw [readAll] at read
          split at read
          · cases read
          next symbol rest taken =>
            obtain ⟨more, later, rfl⟩ := Option.map_eq_some_iff.mp read
            rw [takes _ _ _ taken, ih later, List.flatMap_cons]

/-- **Reading up to the mark undoes writing**, when no code begins with the mark. -/
theorem readUntil_flatMap [DecidableEq α] {mark : α}
    (starts : ∀ symbol, ∃ first others, code symbol = first :: others ∧ first ≠ mark)
    (undoes : ∀ symbol rest, step (code symbol ++ rest) = some (symbol, rest)) (symbols : List β)
    (more : List α) {fuel : Nat} (enough : (symbols.flatMap code).length ≤ fuel) :
    readUntil mark step fuel (symbols.flatMap code ++ mark :: more) = some (symbols, more) := by
  induction symbols generalizing fuel with
  | nil =>
      rw [List.flatMap_nil, List.nil_append]
      cases fuel with
      | zero => rw [readUntil, if_pos rfl]
      | succ fuel => rw [readUntil, if_pos rfl]
  | cons symbol symbols ih =>
      obtain ⟨first, others, shape, different⟩ := starts symbol
      have read := undoes symbol (symbols.flatMap code ++ mark :: more)
      rw [shape, List.cons_append] at read
      rw [List.flatMap_cons, shape, List.cons_append, List.length_cons, List.length_append] at enough
      rw [List.flatMap_cons, shape, List.cons_append, List.cons_append, List.append_assoc]
      cases fuel with
      | zero => exact absurd enough (by omega)
      | succ fuel =>
          rw [readUntil, if_neg different, read]
          dsimp only
          rw [ih (by omega)]
          rfl

end WolandGuard.Foundations
