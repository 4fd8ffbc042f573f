import Mathlib.Data.List.Basic
import Mathlib.Data.List.Induction

/-!
# Runs of a labelled transition relation

A run records every step it takes: the state before, the label and the state
after. An invariant is a property of states that every step preserves, and it
then holds at both ends of every recorded step (`Run.invariant_at`). A
relation between states that is reflexive, transitive and kept by every step
relates the two ends of a run (`Run.relates`).

The third rule is about steps that may happen only once. A mark is a property
of states that no step removes. When a step of a certain kind needs the mark
to be absent and sets it, a run contains at most one such step
(`Run.count_le_one`), and none when the mark is there from the start
(`Run.count_eq_zero`).
-/

set_option autoImplicit false

namespace WolandGuard.Foundations

universe u v

/-- One recorded step of a run. -/
structure Taken (σ : Type u) (α : Type v) where
  before : σ
  label : α
  after : σ

/-- `Run step start path finish`: the steps of `path`, oldest first, lead from
`start` to `finish`. -/
inductive Run {σ : Type u} {α : Type v} (step : σ → α → σ → Prop) :
    σ → List (Taken σ α) → σ → Prop where
  | nil (state : σ) : Run step state [] state
  | cons {start middle finish : σ} {label : α} {path : List (Taken σ α)} :
      step start label middle → Run step middle path finish →
        Run step start (⟨start, label, middle⟩ :: path) finish

namespace Run

variable {σ : Type u} {α : Type v} {step : σ → α → σ → Prop}
variable {start middle finish : σ} {path earlier later : List (Taken σ α)}

theorem single {label : α} (taken : step start label finish) :
    Run step start [⟨start, label, finish⟩] finish :=
  .cons taken (.nil finish)

theorem trans (first : Run step start earlier middle) (second : Run step middle later finish) :
    Run step start (earlier ++ later) finish := by
  induction first with
  | nil state => exact second
  | cons taken _ ih => exact .cons taken (ih second)

/-- A run can be cut at any place of its path. -/
theorem split (run : Run step start (earlier ++ later) finish) :
    ∃ middle, Run step start earlier middle ∧ Run step middle later finish := by
  induction earlier generalizing start with
  | nil => exact ⟨start, .nil start, run⟩
  | cons head earlier ih =>
      cases run with
      | cons taken rest =>
          obtain ⟨middle, first, second⟩ := ih rest
          exact ⟨middle, .cons taken first, second⟩

/-- Every recorded step is a step of the relation. -/
theorem taken_step (run : Run step start path finish) {taken : Taken σ α}
    (member : taken ∈ path) : step taken.before taken.label taken.after := by
  induction run with
  | nil state => cases member
  | cons head _ ih =>
      rcases List.mem_cons.mp member with rfl | rest
      · exact head
      · exact ih rest

/-- Cutting a run around one of its steps. -/
theorem around {taken : Taken σ α}
    (run : Run step start (earlier ++ taken :: later) finish) :
    Run step start earlier taken.before ∧ step taken.before taken.label taken.after ∧
      Run step taken.after later finish := by
  obtain ⟨middle, first, second⟩ := run.split
  cases second with
  | cons head rest => exact ⟨first, head, rest⟩

/-- **Induction from the start of a run**, one step at its end at a time. -/
theorem extend {motive : List (Taken σ α) → σ → Prop} (run : Run step start path finish)
    (base : motive [] start)
    (extended : ∀ earlier state label after, Run step start earlier state → motive earlier state →
      step state label after → motive (earlier ++ [⟨state, label, after⟩]) after) :
    motive path finish := by
  induction path using List.reverseRecOn generalizing finish with
  | nil =>
      cases run with
      | nil => exact base
  | append_singleton earlier taken ih =>
      obtain ⟨first, step, last⟩ := run.around
      cases last with
      | nil => exact extended earlier taken.before taken.label taken.after first (ih first) step

/-! ## Deterministic steps -/

/-- The recorded steps of a list of labels, where `next` is the state after
each. -/
def trace (next : σ → α → σ) (state : σ) : List α → List (Taken σ α)
  | [] => []
  | label :: rest => ⟨state, label, next state label⟩ :: trace next (next state label) rest

/-- **Deterministic steps always run.** -/
theorem of_trace (next : σ → α → σ) (start : σ) (labels : List α) :
    Run (fun s a t => t = next s a) start (trace next start labels) (labels.foldl next start) := by
  induction labels generalizing start with
  | nil => exact .nil start
  | cons label rest ih => exact .cons rfl (ih (next start label))

/-- The recorded steps of a list of labels, where a step may be refused. -/
def tracePartial (next : σ → α → Option σ) (state : σ) : List α → Option (List (Taken σ α))
  | [] => some []
  | label :: rest =>
      match next state label with
      | none => none
      | some after => (tracePartial next after rest).map (⟨state, label, after⟩ :: ·)

/-- The state that a path from `state` ends in. -/
def endOf (state : σ) : List (Taken σ α) → σ
  | [] => state
  | taken :: rest => endOf taken.after rest

/-- Steps none of which is refused run. -/
theorem of_tracePartial {next : σ → α → Option σ} {labels : List α}
    (traced : tracePartial next start labels = some path) :
    Run (fun s a t => next s a = some t) start path (endOf start path) := by
  induction labels generalizing start path with
  | nil =>
      obtain rfl := Option.some.inj traced
      exact .nil start
  | cons label rest ih =>
      unfold tracePartial at traced
      split at traced
      · cases traced
      next after taken =>
        obtain ⟨tail, tail_traced, rfl⟩ := Option.map_eq_some_iff.mp traced
        exact .cons taken (ih tail_traced)

/-- The recorded steps of a list of commands and the state they lead to, where
`next` says what a command does, unless it is refused. -/
def scheduled {γ : Type v} (next : σ → γ → Option (α × σ)) (state : σ) :
    List γ → Option (List (Taken σ α) × σ)
  | [] => some ([], state)
  | command :: rest =>
      match next state command with
      | none => none
      | some (label, after) =>
          (scheduled next after rest).map fun (path, finish) =>
            (⟨state, label, after⟩ :: path, finish)

/-- **Commands none of which is refused run.** -/
theorem of_scheduled {γ : Type v} {next : σ → γ → Option (α × σ)} {commands : List γ}
    (sound : ∀ state command label after, next state command = some (label, after) →
      step state label after)
    (taken : scheduled next start commands = some (path, finish)) :
    Run step start path finish := by
  induction commands generalizing start path with
  | nil =>
      obtain ⟨rfl, rfl⟩ := Prod.mk.inj (Option.some.inj taken)
      exact .nil start
  | cons command rest ih =>
      unfold scheduled at taken
      split at taken
      · cases taken
      next label after here =>
        obtain ⟨⟨path, finish⟩, rest_taken, same⟩ := Option.map_eq_some_iff.mp taken
        obtain ⟨rfl, rfl⟩ := Prod.mk.inj same
        exact .cons (sound _ _ _ _ here) (ih rest_taken)

/-! ## Invariants -/

/-- **An invariant of the steps holds at the end of a run.** -/
theorem invariant {inv : σ → Prop} (run : Run step start path finish)
    (preserved : ∀ s a t, inv s → step s a t → inv t) (holds : inv start) : inv finish := by
  induction run with
  | nil state => exact holds
  | cons taken _ ih => exact ih (preserved _ _ _ holds taken)

/-- An invariant of the steps holds before and after every step of a run. -/
theorem invariant_at {inv : σ → Prop} (run : Run step start path finish)
    (preserved : ∀ s a t, inv s → step s a t → inv t) (holds : inv start)
    {taken : Taken σ α} (member : taken ∈ path) : inv taken.before ∧ inv taken.after := by
  induction run with
  | nil state => cases member
  | cons head _ ih =>
      have next := preserved _ _ _ holds head
      rcases List.mem_cons.mp member with rfl | rest
      · exact ⟨holds, next⟩
      · exact ih next rest

/-- **A preorder kept by every step relates the two ends of a run**, where the
steps may use an invariant. -/
theorem relates {inv : σ → Prop} {related : σ → σ → Prop} (run : Run step start path finish)
    (refl : ∀ s, related s s)
    (transitive : ∀ r s t, related r s → related s t → related r t)
    (preserved : ∀ s a t, inv s → step s a t → inv t)
    (kept : ∀ s a t, inv s → step s a t → related s t) (holds : inv start) :
    related start finish := by
  induction run with
  | nil state => exact refl state
  | cons taken _ ih =>
      exact transitive _ _ _ (kept _ _ _ holds taken) (ih (preserved _ _ _ holds taken))

/-- A run whose every step satisfies a guard is a run of the guarded relation. -/
theorem guarded {guard : σ → α → Prop} (run : Run step start path finish)
    (admissible : ∀ taken ∈ path, guard taken.before taken.label) :
    Run (fun s a t => guard s a ∧ step s a t) start path finish := by
  induction run with
  | nil state => exact .nil state
  | cons taken _ ih =>
      refine .cons ⟨admissible _ List.mem_cons_self, taken⟩ (ih fun other member => ?_)
      exact admissible other (List.mem_cons_of_mem _ member)

/-! ## Steps that happen at most once -/

section Marks

variable {mark inv : σ → Prop} {kind : Taken σ α → Bool}

/-- A kind of step that needs the mark to be absent does not occur once the
mark is there. -/
theorem count_eq_zero (run : Run step start path finish)
    (preserved : ∀ s a t, inv s → step s a t → inv t)
    (stable : ∀ s a t, inv s → step s a t → mark s → mark t)
    (needs : ∀ s a t, inv s → step s a t → kind ⟨s, a, t⟩ = true → ¬ mark s)
    (holds : inv start) (marked : mark start) : path.countP kind = 0 := by
  induction run with
  | nil state => rfl
  | @cons s m t a path taken _ ih =>
      have rest := ih (preserved _ _ _ holds taken) (stable _ _ _ holds taken marked)
      have not_kind : kind ⟨s, a, m⟩ ≠ true := fun is_kind =>
        needs _ _ _ holds taken is_kind marked
      rw [List.countP_cons_of_neg not_kind, rest]

/-- **A kind of step that needs the mark to be absent and sets it occurs at
most once in a run.** -/
theorem count_le_one (run : Run step start path finish)
    (preserved : ∀ s a t, inv s → step s a t → inv t)
    (stable : ∀ s a t, inv s → step s a t → mark s → mark t)
    (needs : ∀ s a t, inv s → step s a t → kind ⟨s, a, t⟩ = true → ¬ mark s)
    (sets : ∀ s a t, inv s → step s a t → kind ⟨s, a, t⟩ = true → mark t)
    (holds : inv start) : path.countP kind ≤ 1 := by
  induction run with
  | nil state => exact Nat.zero_le 1
  | @cons s m t a path taken rest ih =>
      have holds_next := preserved _ _ _ holds taken
      cases is_kind : kind ⟨s, a, m⟩ with
      | false =>
          rw [List.countP_cons_of_neg (by simp [is_kind])]
          exact ih holds_next
      | true =>
          have later :=
            rest.count_eq_zero preserved stable needs holds_next (sets _ _ _ holds taken is_kind)
          rw [List.countP_cons_of_pos is_kind]
          omega

end Marks

end Run

end WolandGuard.Foundations
