import WolandGuard.Foundations.Transactions

/-!
# Schedules

A schedule says which transaction takes the next step. It names transactions by
their places among those under way; a step that has to wait is refused. Every
schedule that is not refused is a run (`run_of_schedule`).
-/

set_option autoImplicit false

namespace WolandGuard.Foundations

variable {σ κ ω α : Type}

/-- What happens next. -/
inductive Command (α : Type) where
  | start (request : α)
  | step (place : Nat)
  | abort (place : Nat)

/-- The request that a command starts. -/
def Command.request? : Command α → Option α
  | .start request => some request
  | _ => none

namespace Transactions

variable [DecidableEq κ]

/-- One step of a transaction in front of and behind others, unless it has to
wait. -/
def stepOf (committed : σ) (before after : List (Transaction α σ κ ω)) (request : α)
    (held : List κ) : Program σ κ ω → Option (Move α ω × Transactions α σ κ ω)
  | .lock key next =>
      if (before ++ after).all (key ∉ ·.held) then
        some (.advance, ⟨committed, before ++ ⟨request, next, key :: held⟩ :: after⟩)
      else none
  | .claim key taken free used =>
      if taken committed then some (.advance, ⟨committed, before ++ ⟨request, used, held⟩ :: after⟩)
      else if (before ++ after).all (key ∉ ·.held) then
        some (.advance, ⟨committed, before ++ ⟨request, free, key :: held⟩ :: after⟩)
      else none
  | .read next => some (.advance, ⟨committed, before ++ ⟨request, next committed, held⟩ :: after⟩)
  | .peek next => some (.advance, ⟨committed, before ++ ⟨request, next committed, held⟩ :: after⟩)
  | .commit write outcome => some (.commit request outcome, ⟨write committed, before ++ after⟩)
  | .rollback => some (.abort, ⟨committed, before ++ after⟩)

/-- The step of a command. -/
def next (code : α → Program σ κ ω) (system : Transactions α σ κ ω) :
    Command α → Option (Move α ω × Transactions α σ κ ω)
  | .start request =>
      some (.start request, ⟨system.committed, system.active ++ [⟨request, code request, []⟩]⟩)
  | .step place =>
      match system.active.drop place with
      | [] => none
      | transaction :: after =>
          stepOf system.committed (system.active.take place) after transaction.request
            transaction.held transaction.rest
  | .abort place =>
      match system.active.drop place with
      | [] => none
      | _ :: after => some (.abort, ⟨system.committed, system.active.take place ++ after⟩)

variable {code : α → Program σ κ ω} {system after : Transactions α σ κ ω} {move : Move α ω}

theorem available_of_all {key : κ} {others : List (Transaction α σ κ ω)}
    (free : others.all (key ∉ ·.held) = true) : Available key others := by
  intro other member
  simpa using List.all_eq_true.mp free other member

theorem step_of_stepOf {committed : σ} {before behind : List (Transaction α σ κ ω)} {request : α}
    {held : List κ} {rest : Program σ κ ω}
    (taken : stepOf committed before behind request held rest = some (move, after)) :
    Step code ⟨committed, before ++ ⟨request, rest, held⟩ :: behind⟩ move after := by
  cases rest with
  | lock key next =>
      simp only [stepOf] at taken
      split at taken
      next free =>
        obtain ⟨rfl, rfl⟩ := Prod.mk.inj (Option.some.inj taken)
        exact .lock (available_of_all free)
      · cases taken
  | claim key is_taken free used =>
      simp only [stepOf] at taken
      split at taken
      next used_key =>
        obtain ⟨rfl, rfl⟩ := Prod.mk.inj (Option.some.inj taken)
        exact .claimUsed used_key
      next unused_key =>
        split at taken
        next available =>
          obtain ⟨rfl, rfl⟩ := Prod.mk.inj (Option.some.inj taken)
          exact .claimFree (available_of_all available) (by simpa using unused_key)
        · cases taken
  | read next =>
      obtain ⟨rfl, rfl⟩ := Prod.mk.inj (Option.some.inj taken)
      exact .read
  | peek next =>
      obtain ⟨rfl, rfl⟩ := Prod.mk.inj (Option.some.inj taken)
      exact .peek
  | commit write outcome =>
      obtain ⟨rfl, rfl⟩ := Prod.mk.inj (Option.some.inj taken)
      exact .commit
  | rollback =>
      obtain ⟨rfl, rfl⟩ := Prod.mk.inj (Option.some.inj taken)
      exact .abort

/-- A command that is not refused is a step. -/
theorem step_of_next {command : Command α} (taken : next code system command = some (move, after)) :
    Step code system move after := by
  obtain ⟨committed, active⟩ := system
  cases command with
  | start request =>
      obtain ⟨rfl, rfl⟩ := Prod.mk.inj (Option.some.inj taken)
      exact .start request
  | step place =>
      simp only [next] at taken
      split at taken
      · cases taken
      next transaction behind cut =>
        have split_here : active = active.take place ++ transaction :: behind := by
          rw [← cut, List.take_append_drop]
        rw [split_here]
        exact step_of_stepOf taken
  | abort place =>
      simp only [next] at taken
      split at taken
      · cases taken
      next transaction behind cut =>
        have split_here : active = active.take place ++ transaction :: behind := by
          rw [← cut, List.take_append_drop]
        obtain ⟨rfl, rfl⟩ := Prod.mk.inj (Option.some.inj taken)
        have step : Step code ⟨committed, active.take place ++ transaction :: behind⟩ .abort
            ⟨committed, active.take place ++ behind⟩ := .abort
        rwa [← split_here] at step

/-- The move of a command that starts a request, and of one that does not. -/
theorem request?_of_next {command : Command α} (taken : next code system command = some (move, after)) :
    (match move with
      | .start request => some request
      | _ => none) = command.request? := by
  cases command with
  | start request =>
      obtain ⟨rfl, rfl⟩ := Prod.mk.inj (Option.some.inj taken)
      rfl
  | step place =>
      simp only [next] at taken
      split at taken
      · cases taken
      next transaction behind cut =>
        generalize transaction.rest = rest at taken
        cases rest with
        | lock key next =>
            simp only [stepOf] at taken
            split at taken
            · obtain ⟨rfl, rfl⟩ := Prod.mk.inj (Option.some.inj taken)
              rfl
            · cases taken
        | claim key is_taken free used =>
            simp only [stepOf] at taken
            split at taken
            · obtain ⟨rfl, rfl⟩ := Prod.mk.inj (Option.some.inj taken)
              rfl
            · split at taken
              · obtain ⟨rfl, rfl⟩ := Prod.mk.inj (Option.some.inj taken)
                rfl
              · cases taken
        | read | peek | commit | rollback =>
            obtain ⟨rfl, rfl⟩ := Prod.mk.inj (Option.some.inj taken)
            rfl
  | abort place =>
      simp only [next] at taken
      split at taken
      · cases taken
      · obtain ⟨rfl, rfl⟩ := Prod.mk.inj (Option.some.inj taken)
        rfl

/-- The recorded steps of a schedule and the state it leads to. -/
def schedule (code : α → Program σ κ ω) (system : Transactions α σ κ ω) :
    List (Command α) →
      Option (List (Taken (Transactions α σ κ ω) (Move α ω)) × Transactions α σ κ ω)
  | [] => some ([], system)
  | command :: rest =>
      match next code system command with
      | none => none
      | some (move, after) =>
          (schedule code after rest).map fun (path, finish) =>
            (⟨system, move, after⟩ :: path, finish)

/-- **A schedule that is not refused is a run.** -/
theorem run_of_schedule {commands : List (Command α)}
    {path : List (Taken (Transactions α σ κ ω) (Move α ω))} {finish : Transactions α σ κ ω}
    (scheduled : schedule code system commands = some (path, finish)) :
    Run (Step code) system path finish := by
  induction commands generalizing system path with
  | nil =>
      obtain ⟨rfl, rfl⟩ := Prod.mk.inj (Option.some.inj scheduled)
      exact .nil system
  | cons command rest ih =>
      unfold schedule at scheduled
      split at scheduled
      · cases scheduled
      next move after taken =>
        obtain ⟨⟨path, finish⟩, rest_scheduled, same⟩ := Option.map_eq_some_iff.mp scheduled
        obtain ⟨rfl, rfl⟩ := Prod.mk.inj same
        exact .cons (step_of_next taken) (ih rest_scheduled)

end Transactions

end WolandGuard.Foundations
