/-!
# Computations that may fail

What a mapped computation says about the one inside it: a step of a chain
succeeds with the chain, and fails with it.
-/

set_option autoImplicit false

namespace WolandGuard.Foundations

universe u v

variable {ε : Type u} {α β : Type v} {computed : Except ε α} {f : α → β}

/-- A mapped computation succeeded. -/
theorem ok_of_map_ok {result : β} (mapped : computed.map f = .ok result) :
    ∃ value, computed = .ok value ∧ f value = result := by
  cases computed with
  | error failure => cases mapped
  | ok value => exact ⟨value, rfl, Except.ok.inj mapped⟩

/-- A mapped computation failed. -/
theorem error_of_map_error {failure : ε} (mapped : computed.map f = .error failure) :
    computed = .error failure := by
  cases computed with
  | error other => exact congrArg Except.error (Except.error.inj mapped)
  | ok value => cases mapped

end WolandGuard.Foundations
