import WolandGuard.Data.Sha256
import WolandGuard.Foundations.Runs
import WolandGuard.IpBlocks.Plans

/-!
# Concurrent plans

Any number of propose, approve and reject transactions at READ COMMITTED, one
statement at a time. A statement reads the rows that are committed when it
runs. A proposal holds its advisory lock, and a transaction the row lock of the
plan it has locked or written, until it ends.

A proposal reads an expired plan without locking it and refreshes the row by
its id. Where every refresh finds the row still open, a decided plan never
changes and every approval is by a second operator
(`four_eyes_of_open_refreshes`). A refresh that waits for an approval finds it
decided (`late_refresh_breaks_four_eyes`).
-/

set_option autoImplicit false

namespace WolandGuard.IpBlocks.Concurrent

open Foundations

/-! ## Transactions -/

abbrev TransactionId := Nat

/-- How far a transaction has come. -/
inductive Phase where
  | idle
  | proposing (request : ProposeRequest)
  | addressed (request : ProposeRequest) (incident : Incident) (rawAddress : String)
  | serialized (request : ProposeRequest) (incident : Incident) (rawAddress : String)
  | targeted (request : ProposeRequest) (incident : Incident) (address : IpAddress)
  | expired (request : ProposeRequest) (address : IpAddress) (existing : IpBlockPlan)
  | absent (request : ProposeRequest) (incident : Incident) (address : IpAddress)
  | deciding (request : DecideRequest)
  | locked (request : DecideRequest) (plan : IpBlockPlan)
  | wrote (row : IpBlockPlan)

/-- The committed rows, the transactions and the locks they hold. -/
structure Shared where
  incidents : List Incident
  allowlist : List IpBlockAllowlistEntry
  plans : List IpBlockPlan
  phase : TransactionId → Phase
  proposalLock : Int → Option TransactionId
  rowLock : Uuid → Option TransactionId

inductive Label where
  | propose (transaction : TransactionId) (request : ProposeRequest)
  | decide (transaction : TransactionId) (request : DecideRequest)
  | advance (transaction : TransactionId)
  | abort (transaction : TransactionId)
  | configure (incidents : List Incident) (allowlist : List IpBlockAllowlistEntry)

namespace Shared

/-- No plans and no transactions. -/
def initial (incidents : List Incident) (allowlist : List IpBlockAllowlistEntry) : Shared where
  incidents := incidents
  allowlist := allowlist
  plans := []
  phase := fun _ => .idle
  proposalLock := fun _ => none
  rowLock := fun _ => none

variable (s : Shared) (t : TransactionId)

def enter (phase : Phase) : Shared := { s with phase := Function.update s.phase t phase }

/-- The transaction ends and its locks are released. -/
def finish : Shared :=
  { s.enter t .idle with
    proposalLock := fun key => if s.proposalLock key = some t then none else s.proposalLock key
    rowLock := fun id => if s.rowLock id = some t then none else s.rowLock id }

/-- The transaction writes a row, which it has locked. -/
def writeRow (row : IpBlockPlan) : Shared :=
  { s.enter t (.wrote row) with rowLock := Function.update s.rowLock row.id (some t) }

end Shared

/-- The key of `_acquire_proposal_lock`. -/
def proposalKey (incidentId : Uuid) (rawAddress : String) : Int :=
  lockKey (Uuid.text incidentId ++ ":" ++ rawAddress)

/-! ## Statements -/

/-- The next statement of a transaction, unless it has to wait. -/
def advance (settings : IpBlockRuntimeSettings) (s : Shared) (t : TransactionId) :
    Option Shared :=
  match s.phase t with
  | .idle => none
  | .proposing request =>
      match rowOf Incident.id s.incidents request.incidentId with
      | none => some (s.finish t)
      | some incident =>
          match extractSourceIp incident.correlation with
          | none => some (s.finish t)
          | some rawAddress => some (s.enter t (.addressed request incident rawAddress))
  | .addressed request incident rawAddress =>
      let key := proposalKey incident.id rawAddress
      if (s.proposalLock key).isSome then none
      else
        some { s.enter t (.serialized request incident rawAddress) with
          proposalLock := Function.update s.proposalLock key (some t) }
  | .serialized request incident rawAddress =>
      let decision := classifyBlockTarget s.allowlist rawAddress
      match decision.allowed, decision.address with
      | true, some address => some (s.enter t (.targeted request incident address))
      | _, _ => some (s.finish t)
  | .targeted request incident address =>
      match proposedPlan s.plans incident.id address.text with
      | some existing =>
          if request.now < existing.expiresAt then some (s.finish t)
          else some (s.enter t (.expired request address existing))
      | none => some (s.enter t (.absent request incident address))
  | .expired request address existing =>
      -- the update names the row by its id alone
      if (s.rowLock existing.id).isSome then none
      else
        match rowOf IpBlockPlan.id s.plans existing.id with
        | none => some (s.finish t)
        | some current =>
            some (s.writeRow t
              (refreshedPlan settings request (buildNftBlockCommand settings address) current))
  | .absent request incident address =>
      let row := newPlan settings request incident address.text
        (buildNftBlockCommand settings address)
      if (s.rowLock row.id).isSome then none
      else if (rowOf IpBlockPlan.id s.plans row.id).isSome ∨
          (proposedPlan s.plans incident.id address.text).isSome then some (s.finish t)
      else some (s.writeRow t row)
  | .deciding request =>
      if (s.rowLock request.planId).isSome then none
      else
        match rowOf IpBlockPlan.id s.plans request.planId with
        | none => some (s.finish t)
        | some plan =>
            some { s.enter t (.locked request plan) with
              rowLock := Function.update s.rowLock plan.id (some t) }
  | .locked request plan =>
      match (decidePlan settings.requireSecondOperator s.allowlist request plan).plan with
      | none => some (s.finish t)
      | some row =>
          -- the row is locked already
          if row = plan then some (s.finish t) else some (s.enter t (.wrote row))
  | .wrote row => some ({ s with plans := putRow IpBlockPlan.id row s.plans }.finish t)

/-- One step of the installation. -/
def next (settings : IpBlockRuntimeSettings) (s : Shared) : Label → Option Shared
  | .propose t request =>
      match s.phase t with
      | .idle => some (s.enter t (.proposing request))
      | _ => none
  | .decide t request =>
      match s.phase t with
      | .idle => some (s.enter t (.deciding request))
      | _ => none
  | .advance t => advance settings s t
  | .abort t => some (s.finish t)
  | .configure incidents allowlist =>
      some { s with incidents := incidents, allowlist := allowlist }

def Step (settings : IpBlockRuntimeSettings) (s : Shared) (label : Label) (after : Shared) : Prop :=
  next settings s label = some after

/-! ## What a step does -/

/-- A phase without a locked row. -/
def Phase.isPassive : Phase → Bool
  | .locked _ _ => false
  | .wrote _ => false
  | _ => true

/-- The other transactions keep their phases and their row locks. -/
structure Others (t : TransactionId) (s after : Shared) : Prop where
  phase : ∀ other, other ≠ t → after.phase other = s.phase other
  rowLock : ∀ other, other ≠ t → ∀ id, s.rowLock id = some other → after.rowLock id = some other

/-- The row that a refresh or an insertion writes. -/
inductive Opens (settings : IpBlockRuntimeSettings) (s : Shared) (phase : Phase) :
    IpBlockPlan → Prop where
  | refresh (request : ProposeRequest) (address : IpAddress) (existing current : IpBlockPlan)
      (reached : phase = .expired request address existing)
      (found : rowOf IpBlockPlan.id s.plans existing.id = some current) :
      Opens settings s phase
        (refreshedPlan settings request (buildNftBlockCommand settings address) current)
  | insert (row : IpBlockPlan) (opened : row.status = .proposed)
      (unused : ∀ plan ∈ s.plans, plan.id ≠ row.id) : Opens settings s phase row

/-- What the steps of a transaction can do. -/
inductive Does (settings : IpBlockRuntimeSettings) (s after : Shared) (t : TransactionId) : Prop where
  | silent (others : Others t s after) (plans : after.plans = s.plans)
      (passive : (after.phase t).isPassive = true)
  | lock (request : DecideRequest) (plan : IpBlockPlan) (member : plan ∈ s.plans)
      (others : Others t s after) (plans : after.plans = s.plans)
      (phase : after.phase t = .locked request plan) (held : after.rowLock plan.id = some t)
  | write (row : IpBlockPlan) (opens : Opens settings s (s.phase t) row)
      (others : Others t s after) (plans : after.plans = s.plans)
      (phase : after.phase t = .wrote row) (held : after.rowLock row.id = some t)
  | decide (request : DecideRequest) (plan row : IpBlockPlan)
      (locked : s.phase t = .locked request plan) (changed : row ≠ plan)
      (decides : Decides settings.requireSecondOperator request plan (some row))
      (others : Others t s after) (plans : after.plans = s.plans)
      (phase : after.phase t = .wrote row) (rowLock : after.rowLock = s.rowLock)
  | commit (row : IpBlockPlan) (wrote : s.phase t = .wrote row) (others : Others t s after)
      (plans : after.plans = putRow IpBlockPlan.id row s.plans)
      (passive : (after.phase t).isPassive = true)

section Effects

variable {settings : IpBlockRuntimeSettings} {s after : Shared} {t : TransactionId}

theorem Others.enter (phase : Phase) : Others t s (s.enter t phase) where
  phase := fun _ different => Function.update_of_ne different _ _
  rowLock := fun _ _ _ held => held

theorem Others.finish : Others t s (s.finish t) where
  phase := fun _ different => Function.update_of_ne different _ _
  rowLock := by
    intro other different id held
    have kept : ¬ some other = some t := fun same => different (Option.some.inj same)
    simp only [Shared.finish, held, kept, if_false]

/-- Taking a lock that nobody holds. -/
theorem Others.lock {id : Uuid} {phase : Phase} (free : ¬ (s.rowLock id).isSome = true) :
    Others t s { s.enter t phase with rowLock := Function.update s.rowLock id (some t) } where
  phase := fun _ different => Function.update_of_ne different _ _
  rowLock := by
    intro other _ key held
    have different : key ≠ id := by
      rintro rfl
      simp [held] at free
    exact (Function.update_of_ne different _ _).trans held

theorem does_finish : Does settings s (s.finish t) t :=
  .silent .finish rfl (by simp [Shared.finish, Shared.enter, Phase.isPassive])

theorem does_enter {phase : Phase} (passive : phase.isPassive = true) :
    Does settings s (s.enter t phase) t :=
  .silent (.enter phase) rfl (by simpa [Shared.enter] using passive)

/-- **What one statement does.** -/
theorem does_advance (taken : advance settings s t = some after) : Does settings s after t := by
  unfold advance at taken
  split at taken
  · cases taken
  · -- proposing
    split at taken
    · exact Option.some.inj taken ▸ does_finish
    split at taken
    · exact Option.some.inj taken ▸ does_finish
    · exact Option.some.inj taken ▸ does_enter rfl
  · -- addressed
    dsimp only at taken
    split at taken
    · cases taken
    · obtain rfl := Option.some.inj taken
      exact .silent ⟨fun _ different => Function.update_of_ne different _ _,
        fun _ _ _ held => held⟩ rfl (by simp [Shared.enter, Phase.isPassive])
  · -- serialized
    dsimp only at taken
    split at taken
    · exact Option.some.inj taken ▸ does_enter rfl
    · exact Option.some.inj taken ▸ does_finish
  · -- targeted
    split at taken
    · split at taken
      · exact Option.some.inj taken ▸ does_finish
      · exact Option.some.inj taken ▸ does_enter rfl
    · exact Option.some.inj taken ▸ does_enter rfl
  · -- expired
    next request address existing phase =>
      split at taken
      · cases taken
      next free =>
        split at taken
        · exact Option.some.inj taken ▸ does_finish
        next current found =>
          obtain rfl := Option.some.inj taken
          have same_id : current.id = existing.id := (rowOf_mem found).2
          exact .write _ (.refresh request address existing current phase found)
            (.lock (by rwa [← same_id] at free)) rfl (Function.update_self _ _ _)
            (Function.update_self _ _ _)
  · -- absent
    dsimp only at taken
    split at taken
    · cases taken
    next free =>
      split at taken
      · exact Option.some.inj taken ▸ does_finish
      next unused =>
        obtain rfl := Option.some.inj taken
        have absent := Option.not_isSome_iff_eq_none.mp fun found => unused (.inl found)
        exact .write _ (.insert _ rfl (rowOf_eq_none.mp absent)) (.lock free) rfl
          (Function.update_self _ _ _) (Function.update_self _ _ _)
  · -- deciding
    next request phase =>
      split at taken
      · cases taken
      next free =>
        split at taken
        · exact Option.some.inj taken ▸ does_finish
        next plan found =>
          obtain rfl := Option.some.inj taken
          obtain ⟨member, same_id⟩ := rowOf_mem found
          exact .lock request plan member (.lock (by rwa [← same_id] at free)) rfl
            (Function.update_self _ _ _) (Function.update_self _ _ _)
  · -- locked
    next request plan phase =>
      split at taken
      · exact Option.some.inj taken ▸ does_finish
      next row decided =>
        split at taken
        · exact Option.some.inj taken ▸ does_finish
        next changed =>
          obtain rfl := Option.some.inj taken
          have decides := decidePlan_decides settings.requireSecondOperator s.allowlist request plan
          rw [decided] at decides
          exact .decide request plan row phase changed decides (.enter _) rfl
            (Function.update_self _ _ _) rfl
  · -- wrote
    next row phase =>
      obtain rfl := Option.some.inj taken
      exact .commit row phase ⟨fun _ different => Function.update_of_ne different _ _,
        Others.finish.rowLock⟩ rfl (by simp [Shared.finish, Shared.enter, Phase.isPassive])

end Effects

/-! ## The invariant -/

/-- An approval is by someone other than the proposer. -/
def FourEyes (plan : IpBlockPlan) : Prop :=
  plan.status = .approved →
    ∃ decider, plan.decidedByOperatorId = some decider ∧ decider ≠ plan.proposedByOperatorId

/-- Locked rows are the committed ones, and the row that a transaction is about
to commit replaces an open plan. -/
structure Coherent (s : Shared) : Prop where
  planIds : (s.plans.map IpBlockPlan.id).Nodup
  fourEyes : ∀ plan ∈ s.plans, FourEyes plan
  locked : ∀ t request plan, s.phase t = .locked request plan →
    s.rowLock plan.id = some t ∧ plan ∈ s.plans
  wrote : ∀ t row, s.phase t = .wrote row →
    s.rowLock row.id = some t ∧ FourEyes row ∧
      ∀ old ∈ s.plans, old.id = row.id → old.status = .proposed

/-- Decided plans stay as they are. -/
def Frozen (s after : Shared) : Prop :=
  ∀ plan ∈ s.plans, plan.status ≠ .proposed → plan ∈ after.plans

/-- The step is not a refresh of a plan that was decided since the proposal
read it. -/
def refreshesOpen (s : Shared) : Label → Bool
  | .advance t =>
      match s.phase t with
      | .expired _ _ existing =>
          (rowOf IpBlockPlan.id s.plans existing.id).all (·.status = .proposed)
      | _ => true
  | _ => true

section Steps

variable {settings : IpBlockRuntimeSettings} {s after : Shared} {t : TransactionId}

theorem FourEyes.of_proposed {plan : IpBlockPlan} (opened : plan.status = .proposed) :
    FourEyes plan := by
  intro approved
  rw [opened] at approved
  cases approved

theorem FourEyes.of_decides {request : DecideRequest} {plan row : IpBlockPlan}
    (decides : Decides true request plan (some row)) (changed : row ≠ plan) : FourEyes row := by
  cases decides with
  | nothing => exact absurd rfl changed
  | reject =>
      intro approved
      cases approved
  | approve _ second =>
      exact fun _ => ⟨request.actor.operatorId, rfl, (second rfl).symm⟩

/-- What a decision keeps of the row. -/
theorem opened_of_decides {required : Bool} {request : DecideRequest} {plan row : IpBlockPlan}
    (decides : Decides required request plan (some row)) (changed : row ≠ plan) :
    plan.status = .proposed ∧ row.id = plan.id := by
  cases decides with
  | nothing => exact absurd rfl changed
  | reject opened => exact ⟨opened, rfl⟩
  | approve opened _ => exact ⟨opened, rfl⟩

/-- A step that commits nothing has to justify its own phase only. -/
theorem Coherent.of_others (coherent : Coherent s) (others : Others t s after)
    (plans : after.plans = s.plans)
    (locked : ∀ request plan, after.phase t = .locked request plan →
      after.rowLock plan.id = some t ∧ plan ∈ s.plans)
    (wrote : ∀ row, after.phase t = .wrote row → after.rowLock row.id = some t ∧ FourEyes row ∧
      ∀ old ∈ s.plans, old.id = row.id → old.status = .proposed) : Coherent after where
  planIds := plans ▸ coherent.planIds
  fourEyes := plans ▸ coherent.fourEyes
  locked := by
    intro other request plan phase
    rw [plans]
    by_cases same : other = t
    · subst same
      exact locked request plan phase
    · rw [others.phase other same] at phase
      obtain ⟨held, member⟩ := coherent.locked other request plan phase
      exact ⟨others.rowLock other same _ held, member⟩
  wrote := by
    intro other row phase
    rw [plans]
    by_cases same : other = t
    · subst same
      exact wrote row phase
    · rw [others.phase other same] at phase
      obtain ⟨held, eyes, opened⟩ := coherent.wrote other row phase
      exact ⟨others.rowLock other same _ held, eyes, opened⟩

/-- **A commit replaces an open plan, and nobody else has locked it.** -/
theorem Coherent.commit (coherent : Coherent s) {row : IpBlockPlan}
    (wrote : s.phase t = .wrote row) (others : Others t s after)
    (plans : after.plans = putRow IpBlockPlan.id row s.plans)
    (passive : (after.phase t).isPassive = true) : Coherent after ∧ Frozen s after := by
  obtain ⟨held, eyes, opened⟩ := coherent.wrote t row wrote
  have apart : ∀ other id, other ≠ t → s.rowLock id = some other → id ≠ row.id := by
    rintro other id different other_held rfl
    exact different (Option.some.inj (other_held.symm.trans held))
  refine ⟨⟨plans ▸ nodup_putRow coherent.planIds, ?_, ?_, ?_⟩, ?_⟩
  · intro plan member
    rw [plans] at member
    rcases mem_putRow.mp member with rfl | ⟨old, _⟩
    · exact eyes
    · exact coherent.fourEyes plan old
  · intro other request plan phase
    have different : other ≠ t := by
      rintro rfl
      simp [phase, Phase.isPassive] at passive
    rw [others.phase other different] at phase
    obtain ⟨other_held, member⟩ := coherent.locked other request plan phase
    refine ⟨others.rowLock other different _ other_held, ?_⟩
    rw [plans]
    exact mem_putRow.mpr (.inr ⟨member, apart other plan.id different other_held⟩)
  · intro other written phase
    have different : other ≠ t := by
      rintro rfl
      simp [phase, Phase.isPassive] at passive
    rw [others.phase other different] at phase
    obtain ⟨other_held, other_eyes, other_opened⟩ := coherent.wrote other written phase
    refine ⟨others.rowLock other different _ other_held, other_eyes, fun old member same => ?_⟩
    rw [plans] at member
    rcases mem_putRow.mp member with rfl | ⟨old_member, _⟩
    · exact absurd same.symm (apart other written.id different other_held)
    · exact other_opened old old_member same
  · intro plan member decided
    rw [plans]
    refine mem_putRow.mpr (.inr ⟨member, fun same => decided (opened plan member same)⟩)

/-- **The invariant is kept by every statement, if refreshes find open
plans.** -/
theorem Coherent.does (coherent : Coherent s)
    (required : settings.requireSecondOperator = true) (does : Does settings s after t)
    (refreshes : refreshesOpen s (.advance t) = true) : Coherent after ∧ Frozen s after := by
  have frozen : after.plans = s.plans → Frozen s after := fun plans plan member _ => plans ▸ member
  cases does with
  | silent others plans passive =>
      refine ⟨coherent.of_others others plans ?_ ?_, frozen plans⟩
      · intro request plan phase
        simp [phase, Phase.isPassive] at passive
      · intro row phase
        simp [phase, Phase.isPassive] at passive
  | lock request plan member others plans phase held =>
      refine ⟨coherent.of_others others plans ?_ ?_, frozen plans⟩
      · intro _ locked_plan locked
        cases phase.symm.trans locked
        exact ⟨held, member⟩
      · intro row wrote
        cases phase.symm.trans wrote
  | write row opens others plans phase held =>
      refine ⟨coherent.of_others others plans ?_ ?_, frozen plans⟩
      · intro _ _ locked
        cases phase.symm.trans locked
      · intro written wrote
        cases phase.symm.trans wrote
        cases opens with
        | refresh request address existing current reached found =>
            have opened : current.status = .proposed := by
              simpa [refreshesOpen, reached, found] using refreshes
            refine ⟨held, .of_proposed opened, fun old member same => ?_⟩
            have same_row : old = current :=
              List.inj_on_of_nodup_map coherent.planIds member (rowOf_mem found).1 same
            exact same_row ▸ opened
        | insert row opened unused =>
            exact ⟨held, .of_proposed opened, fun old member same => absurd same (unused old member)⟩
  | decide request plan row locked changed decides others plans phase rowLock =>
      refine ⟨coherent.of_others others plans ?_ ?_, frozen plans⟩
      · intro _ _ other_locked
        cases phase.symm.trans other_locked
      · intro written wrote
        cases phase.symm.trans wrote
        obtain ⟨held, member⟩ := coherent.locked t request plan locked
        obtain ⟨opened, same_id⟩ := opened_of_decides decides changed
        rw [required] at decides
        refine ⟨by rw [rowLock, same_id, held], .of_decides decides changed, ?_⟩
        intro old old_member same
        have same_row : old = plan :=
          List.inj_on_of_nodup_map coherent.planIds old_member member (same.trans same_id)
        exact same_row ▸ opened
  | commit row wrote others plans passive => exact coherent.commit wrote others plans passive

/-- **Every step keeps the invariant and the decided plans.** -/
theorem Coherent.step (coherent : Coherent s) {label : Label}
    (required : settings.requireSecondOperator = true) (taken : Step settings s label after)
    (refreshes : refreshesOpen s label = true) : Coherent after ∧ Frozen s after := by
  have passive : ∀ t, (after.phase t).isPassive = true → after.plans = s.plans →
      Others t s after → Coherent after ∧ Frozen s after := by
    intro t is_passive plans others
    refine ⟨coherent.of_others others plans ?_ ?_, fun plan member _ => plans ▸ member⟩ <;>
      intros <;> simp_all [Phase.isPassive]
  cases label with
  | propose t request =>
      simp only [Step, next] at taken
      split at taken
      · obtain rfl := Option.some.inj taken
        exact passive t (by simp [Shared.enter, Phase.isPassive]) rfl (.enter _)
      · cases taken
  | decide t request =>
      simp only [Step, next] at taken
      split at taken
      · obtain rfl := Option.some.inj taken
        exact passive t (by simp [Shared.enter, Phase.isPassive]) rfl (.enter _)
      · cases taken
  | advance t => exact coherent.does required (does_advance taken) refreshes
  | abort t =>
      obtain rfl := Option.some.inj taken
      exact passive t (by simp [Shared.finish, Shared.enter, Phase.isPassive]) rfl .finish
  | configure incidents allowlist =>
      obtain rfl := Option.some.inj taken
      exact ⟨⟨coherent.planIds, coherent.fourEyes, coherent.locked, coherent.wrote⟩,
        fun plan member _ => member⟩

end Steps

theorem Coherent.initial (incidents : List Incident) (allowlist : List IpBlockAllowlistEntry) :
    Coherent (.initial incidents allowlist) where
  planIds := List.nodup_nil
  fourEyes := by simp [Shared.initial]
  locked := by simp [Shared.initial]
  wrote := by simp [Shared.initial]

/-- **Four eyes and immutability.** In every run in which each refresh finds
its plan still open, every approved plan was approved by a second operator and
a plan stays as it is from its decision on. -/
theorem four_eyes_of_open_refreshes (settings : IpBlockRuntimeSettings)
    (required : settings.requireSecondOperator = true) (incidents : List Incident)
    (allowlist : List IpBlockAllowlistEntry) (path : List (Taken Shared Label)) (finish : Shared)
    (run : Run (Step settings) (.initial incidents allowlist) path finish)
    (refreshes : ∀ taken ∈ path, refreshesOpen taken.before taken.label = true) :
    (∀ plan ∈ finish.plans, plan.status = .approved →
      ∃ decider, plan.decidedByOperatorId = some decider ∧ decider ≠ plan.proposedByOperatorId) ∧
    (finish.plans.map IpBlockPlan.id).Nodup ∧
    ∀ taken ∈ path, ∀ plan ∈ taken.after.plans, plan.status ≠ .proposed → plan ∈ finish.plans := by
  let guarded (s : Shared) (label : Label) (after : Shared) : Prop :=
    refreshesOpen s label = true ∧ Step settings s label after
  have kept : ∀ s label after, Coherent s → guarded s label after → Coherent after :=
    fun _ _ _ coherent step => (coherent.step required step.2 step.1).1
  have frozen : ∀ s label after, Coherent s → guarded s label after → Frozen s after :=
    fun _ _ _ coherent step => (coherent.step required step.2 step.1).2
  have guarded_run : Run guarded (.initial incidents allowlist) path finish :=
    run.guarded refreshes
  have coherent : Coherent finish := guarded_run.invariant kept (.initial incidents allowlist)
  refine ⟨coherent.fourEyes, coherent.planIds, fun taken member => ?_⟩
  obtain ⟨earlier, later, rfl⟩ := List.append_of_mem member
  obtain ⟨before, step, after⟩ := guarded_run.around
  have coherent_before := before.invariant kept (.initial incidents allowlist)
  have transitive : ∀ r s t : Shared, Frozen r s → Frozen s t → Frozen r t :=
    fun _ _ _ first second plan present decided =>
      second plan (first plan present decided) decided
  exact after.relates (fun _ _ present _ => present) transitive kept frozen
    (kept _ _ _ coherent_before step)

/-! ## A refresh that waits for an approval -/

def sampleSettings : IpBlockRuntimeSettings :=
  { IpBlockRuntimeSettings.defaults with
    enabled := true
    planTtlSeconds := 600
    planTtlSeconds_pos := by decide }

/-- An administrator by number. -/
def administrator (number : Nat) : OperatorPrincipal where
  operatorId := BitVec.ofNat 128 number
  username := "admin"
  role := .admin
  authMethodType := .telegram
  authMethodId := BitVec.ofNat 128 number

/-- The first administrator proposes at 0, the second approves one second
before the plan expires. -/
def proposeThenApprove : List Label :=
  .propose 1 ⟨administrator 10, 1, "propose", 7, 0⟩ :: List.replicate 6 (.advance 1) ++
    [.decide 2 ⟨administrator 11, 7, true, seconds 599⟩, .advance 2, .advance 2]

/-- While the approval is not committed, the second administrator proposes the
expired plan again. -/
def lateRefresh : List Label :=
  proposeThenApprove ++
    [.propose 3 ⟨administrator 11, 1, "again", 8, seconds 600⟩, .advance 3, .advance 3, .advance 3,
      .advance 3, .advance 2, .advance 3, .advance 3]

/-- The recorded steps of labels from an installation with the incident. -/
def sampleTrace (labels : List Label) : Option (List (Taken Shared Label)) :=
  Run.tracePartial (next sampleSettings) (.initial [sampleIncident] []) labels

def sampleEnd (path : List (Taken Shared Label)) : Shared :=
  Run.endOf (.initial [sampleIncident] []) path

/-- The refresh rewrites the approved plan, which then names one operator for
both. -/
theorem late_refresh_breaks_four_eyes :
    ∃ path finish, Run (Step sampleSettings) (.initial [sampleIncident] []) path finish ∧
      (∃ plan ∈ finish.plans, plan.status = .approved ∧
        plan.decidedByOperatorId = some plan.proposedByOperatorId) ∧
      ∃ taken ∈ path, ∃ plan ∈ taken.after.plans, plan.status = .approved ∧
        plan ∉ finish.plans := by
  have evaluated : ((sampleTrace lateRefresh).any fun path =>
      ((sampleEnd path).plans.any fun plan => plan.status = .approved &&
        plan.decidedByOperatorId = some plan.proposedByOperatorId) &&
      path.any fun taken => taken.after.plans.any fun plan => plan.status = .approved &&
        (sampleEnd path).plans.all (plan ≠ ·)) = true := by decide +kernel
  obtain ⟨path, traced, holds⟩ := (Option.any_eq_true _ _).mp evaluated
  simp only [Bool.and_eq_true, List.any_eq_true, List.all_eq_true, decide_eq_true_eq] at holds
  obtain ⟨⟨plan, member, approved, same⟩, taken, taken_member, old, old_member, decided, gone⟩ :=
    holds
  exact ⟨path, sampleEnd path, Run.of_tracePartial traced, ⟨plan, member, approved, same⟩, taken,
    taken_member, old, old_member, decided, fun present => gone old present rfl⟩

/-- Without the second proposal the approval stands. -/
theorem four_eyes_of_open_refreshes_approved :
    ∃ path finish, Run (Step sampleSettings) (.initial [sampleIncident] []) path finish ∧
      ∃ plan ∈ finish.plans, plan.status = .approved ∧
        ∃ decider, plan.decidedByOperatorId = some decider ∧ decider ≠ plan.proposedByOperatorId := by
  have evaluated : ((sampleTrace (proposeThenApprove ++ [.advance 2])).any fun path =>
      ((sampleEnd path).plans.any fun plan => plan.status = .approved) &&
      path.all fun taken => refreshesOpen taken.before taken.label) = true := by decide +kernel
  obtain ⟨path, traced, holds⟩ := (Option.any_eq_true _ _).mp evaluated
  simp only [Bool.and_eq_true, List.any_eq_true, List.all_eq_true, decide_eq_true_eq] at holds
  obtain ⟨⟨plan, member, approved⟩, refreshes⟩ := holds
  have run := Run.of_tracePartial traced
  exact ⟨path, sampleEnd path, run, plan, member, approved,
    (four_eyes_of_open_refreshes sampleSettings rfl [sampleIncident] [] path _ run refreshes).1 plan
      member approved⟩

end WolandGuard.IpBlocks.Concurrent
