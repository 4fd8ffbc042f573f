import WolandGuard.Foundations.Runs
import WolandGuard.IpBlocks.Allowlist
import WolandGuard.IpBlocks.Plans

/-!
# Plans and the allowlist over time

Proposals, decisions and changes of the allowlist, one after another and at any
clocks. The policy is asked when a plan is proposed and again when it is
approved; in between the allowlist may change and the plan may expire. A
decided plan never changes again, and one plan is open for an incident and an
address.
-/

set_option autoImplicit false

namespace WolandGuard.IpBlocks

open Foundations

/-- The rows that the operations read and write. -/
structure PolicyTables where
  incidents : List Incident
  allowlist : List IpBlockAllowlistEntry
  plans : List IpBlockPlan

/-- One operation. The names of the tables and sets and the lifetime of a plan
are those of the process that serves it. -/
inductive PolicyOperation where
  | propose (settings : IpBlockRuntimeSettings) (request : ProposeRequest)
  | decide (requireSecondOperator : Bool) (request : DecideRequest)
  | addAllowlistEntry (request : AllowlistRequest)
  | revokeAllowlistEntry (entryId : Uuid) (now : Int)
  | writeIncidents (incidents : List Incident)

/-- The rows after a transaction, which is rolled back if two of them have one
primary key. -/
def committedRows {ρ : Type} (key : ρ → Uuid) (before after : List ρ) : List ρ :=
  if (after.map key).Nodup then after else before

namespace PolicyTables

variable (state : PolicyTables)

/-- The tables after an operation. -/
def serve : PolicyOperation → PolicyTables
  | .propose settings request =>
      { state with
        plans := committedRows IpBlockPlan.id state.plans
          (proposeIpBlock settings request (rowOf Incident.id state.incidents request.incidentId)
            state.allowlist state.plans).2 }
  | .decide requireSecondOperator request =>
      { state with
        plans := (decideIpBlock requireSecondOperator state.allowlist request state.plans).2 }
  | .addAllowlistEntry request =>
      match addAllowlistEntry request state.allowlist with
      | .error _ => state
      | .ok allowlist =>
          { state with
            allowlist := committedRows IpBlockAllowlistEntry.id state.allowlist allowlist }
  | .revokeAllowlistEntry entryId now =>
      match revokeAllowlistEntry entryId now state.allowlist with
      | .error _ => state
      | .ok allowlist => { state with allowlist := allowlist }
  | .writeIncidents incidents => { state with incidents := incidents }

/-- One operation of a serial run. -/
def Step (before : PolicyTables) (operation : PolicyOperation) (after : PolicyTables) : Prop :=
  after = before.serve operation

end PolicyTables

/-! ## What an operation does to a plan -/

/-- A plan that a proposal has opened or renewed. -/
structure Proposed (settings : IpBlockRuntimeSettings) (request : ProposeRequest)
    (allowlist : List IpBlockAllowlistEntry) (plan : IpBlockPlan) (address : IpAddress) :
    Prop where
  status : plan.status = .proposed
  canonical : IsCanonical plan.ipAddress address
  blockable : isNeverBlock address = false
  unlisted : isAllowlisted allowlist address = false
  command : plan.commandArgv = buildNftBlockCommand settings address
  expiresAt : plan.expiresAt = request.now + seconds settings.planTtlSeconds

/-- An approval by the policy as it is now. -/
structure Approves (requireSecondOperator : Bool) (request : DecideRequest)
    (allowlist : List IpBlockAllowlistEntry) (old : IpBlockPlan) (address : IpAddress) :
    Prop where
  approve : request.approve = true
  live : request.now < old.expiresAt
  second : requireSecondOperator = true → old.proposedByOperatorId ≠ request.actor.operatorId
  canonical : IsCanonical old.ipAddress address
  blockable : isNeverBlock address = false
  unlisted : isAllowlisted allowlist address = false

/-- The ways an operation changes the plans. -/
inductive Changes (state : PolicyTables) : PolicyOperation → List IpBlockPlan → Prop where
  | nothing (operation : PolicyOperation) : Changes state operation state.plans
  | renew (settings : IpBlockRuntimeSettings) (request : ProposeRequest)
      (old plan : IpBlockPlan) (address : IpAddress) :
      old ∈ state.plans → old.status = .proposed → plan.id = old.id →
      plan.incidentId = old.incidentId → plan.ipAddress = old.ipAddress →
      Proposed settings request state.allowlist plan address →
      Changes state (.propose settings request)
        (updateWhere (·.id = old.id) (fun _ => plan) state.plans)
  | insert (settings : IpBlockRuntimeSettings) (request : ProposeRequest)
      (plan : IpBlockPlan) (address : IpAddress) : (∀ old ∈ state.plans, old.id ≠ plan.id) →
      proposedPlan state.plans plan.incidentId plan.ipAddress = none →
      Proposed settings request state.allowlist plan address →
      Changes state (.propose settings request) (state.plans ++ [plan])
  | reject (requireSecondOperator : Bool) (request : DecideRequest) (old : IpBlockPlan) :
      rowOf IpBlockPlan.id state.plans request.planId = some old → old.status = .proposed →
      Changes state (.decide requireSecondOperator request)
        (updateWhere (·.id = old.id) (fun _ => decidedPlan .rejected request old) state.plans)
  | approve (requireSecondOperator : Bool) (request : DecideRequest) (old : IpBlockPlan)
      (address : IpAddress) :
      rowOf IpBlockPlan.id state.plans request.planId = some old → old.status = .proposed →
      Approves requireSecondOperator request state.allowlist old address →
      Changes state (.decide requireSecondOperator request)
        (updateWhere (·.id = old.id) (fun _ => decidedPlan .approved request old) state.plans)

theorem proposedPlan_some {plans : List IpBlockPlan} {incidentId : Uuid} {ipAddress : String}
    {plan : IpBlockPlan} (found : proposedPlan plans incidentId ipAddress = some plan) :
    plan ∈ plans ∧ plan.incidentId = incidentId ∧ plan.ipAddress = ipAddress ∧
      plan.status = .proposed := by
  have holds := List.find?_some found
  simp only [Bool.and_eq_true, decide_eq_true_eq, beq_iff_eq] at holds
  exact ⟨List.mem_of_find?_eq_some found, holds.1.1, holds.1.2, holds.2⟩

section Inversion

variable {state : PolicyTables} {settings : IpBlockRuntimeSettings}

theorem proposeAllowed_changes {request : ProposeRequest} {incident : Incident}
    {rawAddress : String} {address : IpAddress} (canonical : IsCanonical rawAddress address)
    (blockable : isNeverBlock address = false)
    (unlisted : isAllowlisted state.allowlist address = false)
    (unique : (state.plans.map IpBlockPlan.id).Nodup) :
    Changes state (.propose settings request)
      (committedRows IpBlockPlan.id state.plans
        (proposeAllowed settings request incident address state.plans).2) := by
  unfold proposeAllowed
  dsimp only
  split
  next existing found =>
    obtain ⟨member, _, same_address, opened⟩ := proposedPlan_some found
    split
    · rw [committedRows, if_pos unique]
      exact .nothing _
    · unfold committedRows
      rw [map_updateWhere fun row same => (of_decide_eq_true same).symm, if_pos unique]
      refine .renew settings request existing _ address member opened rfl rfl rfl ?_
      exact ⟨opened, by simpa [refreshedPlan, same_address, canonical.text] using canonical,
        blockable, unlisted, rfl, rfl⟩
  next absent =>
    unfold committedRows
    split
    next fresh =>
      refine .insert settings request _ address ?_ absent
        ⟨rfl, by simpa [newPlan, canonical.text] using canonical, blockable, unlisted, rfl, rfl⟩
      rw [List.map_append, List.nodup_append] at fresh
      exact fun old member => fresh.2.2 old.id (List.mem_map_of_mem member) _ (by simp)
    · exact .nothing _

theorem propose_changes (request : ProposeRequest)
    (unique : (state.plans.map IpBlockPlan.id).Nodup) :
    Changes state (.propose settings request)
      (state.serve (.propose settings request)).plans := by
  have unchanged : Changes state (.propose settings request)
      (committedRows IpBlockPlan.id state.plans state.plans) := by
    rw [committedRows, if_pos unique]
    exact .nothing _
  simp only [PolicyTables.serve]
  unfold proposeIpBlock
  split
  · exact unchanged
  split
  · exact unchanged
  next incident _ rawAddress _ =>
    dsimp only
    split
    next address allowed same_address =>
      obtain ⟨decided, canonical, blockable, unlisted⟩ := classifyBlockTarget_of_allowed allowed
      have decision := classifyBlockTarget_eq_allowed.mpr ⟨canonical, blockable, unlisted⟩
      rw [decision] at same_address
      obtain rfl := Option.some.inj same_address
      exact proposeAllowed_changes canonical blockable unlisted unique
    · exact unchanged

/-- What a decision makes of the row that it has locked. -/
theorem decidePlan_cases (requireSecondOperator : Bool) (allowlist : List IpBlockAllowlistEntry)
    (request : DecideRequest) (plan : IpBlockPlan) :
    (decidePlan requireSecondOperator allowlist request plan).plan = some plan ∨
      (plan.status = .proposed ∧
        (decidePlan requireSecondOperator allowlist request plan).plan =
          some (decidedPlan .rejected request plan)) ∨
      ∃ address, plan.status = .proposed ∧
        Approves requireSecondOperator request allowlist plan address ∧
        (decidePlan requireSecondOperator allowlist request plan).plan =
          some (decidedPlan .approved request plan) := by
  unfold decidePlan
  split
  next approve =>
    unfold approvePlan
    split
    · exact .inl rfl
    next opened =>
      have opened := not_not.mp opened
      split
      · exact .inl rfl
      next live =>
        split
        · exact .inl rfl
        next second =>
          dsimp only
          split
          next allowed =>
            obtain ⟨address, canonical, blockable, unlisted⟩ :=
              classifyBlockTarget_of_allowed allowed
            exact .inr (.inr ⟨address, opened, ⟨approve, by omega,
              fun required same => second ⟨required, same⟩, canonical, blockable, unlisted⟩, rfl⟩)
          · exact .inr (.inl ⟨opened, rfl⟩)
  next reject =>
    unfold rejectPlan
    split
    · exact .inl rfl
    next opened =>
      split
      · exact .inl rfl
      · exact .inr (.inl ⟨not_not.mp opened, rfl⟩)

/-- Writing the row that is there changes nothing. -/
theorem updateWhere_self {plans : List IpBlockPlan}
    (unique : (plans.map IpBlockPlan.id).Nodup) {plan : IpBlockPlan} (member : plan ∈ plans) :
    updateWhere (·.id = plan.id) (fun _ => plan) plans = plans := by
  unfold updateWhere
  refine (List.map_congr_left fun row row_member => ?_).trans (List.map_id plans)
  by_cases same : row.id = plan.id
  · simp [List.inj_on_of_nodup_map unique row_member member same]
  · simp [same]

theorem decide_changes (requireSecondOperator : Bool) (request : DecideRequest)
    (unique : (state.plans.map IpBlockPlan.id).Nodup) :
    Changes state (.decide requireSecondOperator request)
      (state.serve (.decide requireSecondOperator request)).plans := by
  simp only [PolicyTables.serve, decideIpBlock]
  split
  · exact .nothing _
  next plan found =>
    dsimp only
    rcases decidePlan_cases requireSecondOperator state.allowlist request plan with
      same | ⟨opened, rejected⟩ | ⟨address, opened, approves, approved⟩
    · simp only [same, Option.getD_some]
      rw [updateWhere_self unique (rowOf_mem found).1]
      exact .nothing _
    · simp only [rejected, Option.getD_some]
      exact .reject requireSecondOperator request plan found opened
    · simp only [approved, Option.getD_some]
      exact .approve requireSecondOperator request plan address found opened approves

/-- **What an operation does to the plans.** -/
theorem serve_changes (operation : PolicyOperation)
    (unique : (state.plans.map IpBlockPlan.id).Nodup) :
    Changes state operation (state.serve operation).plans := by
  cases operation with
  | propose settings request => exact propose_changes request unique
  | decide requireSecondOperator request => exact decide_changes requireSecondOperator request unique
  | addAllowlistEntry request =>
      unfold PolicyTables.serve
      dsimp only
      split
      · exact .nothing _
      · exact .nothing _
  | revokeAllowlistEntry entryId now =>
      unfold PolicyTables.serve
      dsimp only
      split
      · exact .nothing _
      · exact .nothing _
  | writeIncidents incidents => exact .nothing _

end Inversion

/-! ## One step -/

section Steps

variable {state : PolicyTables} {operation : PolicyOperation} {after : List IpBlockPlan}
variable {plan : IpBlockPlan}

/-- A row in place of the row with its id. -/
theorem mem_replaced {plans : List IpBlockPlan} {old row : IpBlockPlan} (member : old ∈ plans) :
    plan ∈ updateWhere (·.id = old.id) (fun _ => row) plans ↔
      plan = row ∨ plan ∈ plans ∧ plan.id ≠ old.id := by
  rw [mem_updateWhere]
  constructor
  · rintro ⟨other, other_member, rfl⟩
    by_cases same : other.id = old.id
    · simp [same]
    · simp [same, other_member]
  · rintro (rfl | ⟨plan_member, different⟩)
    · exact ⟨old, member, by simp⟩
    · exact ⟨plan, plan_member, by simp [different]⟩

theorem nodup_replaced {plans : List IpBlockPlan} {old row : IpBlockPlan} (same : row.id = old.id)
    (unique : (plans.map IpBlockPlan.id).Nodup) :
    ((updateWhere (·.id = old.id) (fun _ => row) plans).map IpBlockPlan.id).Nodup := by
  rw [map_updateWhere fun other here => same.trans (of_decide_eq_true here).symm]
  exact unique

theorem Changes.ids (changes : Changes state operation after)
    (unique : (state.plans.map IpBlockPlan.id).Nodup) : (after.map IpBlockPlan.id).Nodup := by
  cases changes with
  | nothing => exact unique
  | renew settings request old plan address _ _ same_id _ _ _ => exact nodup_replaced same_id unique
  | insert settings request plan address fresh _ _ =>
      rw [List.map_append, List.nodup_append]
      refine ⟨unique, by simp, ?_⟩
      rintro id member other other_member rfl
      obtain ⟨old, old_member, rfl⟩ := List.mem_map.mp member
      exact fresh old old_member (by simpa using other_member)
  | reject requireSecondOperator request old _ _ => exact nodup_replaced rfl unique
  | approve requireSecondOperator request old address _ _ _ => exact nodup_replaced rfl unique

/-- **A decided plan stays as it is.** -/
theorem Changes.closed (changes : Changes state operation after)
    (unique : (state.plans.map IpBlockPlan.id).Nodup) (member : plan ∈ state.plans)
    (decided : plan.status ≠ .proposed) : plan ∈ after := by
  have other : ∀ old ∈ state.plans, old.status = .proposed → plan.id ≠ old.id :=
    fun old old_member opened same =>
      decided (List.inj_on_of_nodup_map unique member old_member same ▸ opened)
  cases changes with
  | nothing => exact member
  | renew settings request old row address old_member opened _ _ _ _ =>
      exact (mem_replaced old_member).mpr (.inr ⟨member, other old old_member opened⟩)
  | insert => exact List.mem_append_left _ member
  | reject requireSecondOperator request old found opened =>
      have old_member := (rowOf_mem found).1
      exact (mem_replaced old_member).mpr (.inr ⟨member, other old old_member opened⟩)
  | approve requireSecondOperator request old address found opened _ =>
      have old_member := (rowOf_mem found).1
      exact (mem_replaced old_member).mpr (.inr ⟨member, other old old_member opened⟩)

/-- Where the address and the command of a plan come from. -/
theorem Changes.command (changes : Changes state operation after) (member : plan ∈ after) :
    (∃ old ∈ state.plans, old.ipAddress = plan.ipAddress ∧ old.commandArgv = plan.commandArgv) ∨
      ∃ settings request address, operation = .propose settings request ∧
        IsCanonical plan.ipAddress address ∧
        plan.commandArgv = buildNftBlockCommand settings address := by
  cases changes with
  | nothing => exact .inl ⟨plan, member, rfl, rfl⟩
  | renew settings request old row address old_member _ _ _ _ proposed =>
      rcases (mem_replaced old_member).mp member with rfl | ⟨kept, _⟩
      · exact .inr ⟨settings, request, address, rfl, proposed.canonical, proposed.command⟩
      · exact .inl ⟨plan, kept, rfl, rfl⟩
  | insert settings request row address _ _ proposed =>
      rcases List.mem_append.mp member with kept | added
      · exact .inl ⟨plan, kept, rfl, rfl⟩
      · obtain rfl := List.mem_singleton.mp added
        exact .inr ⟨settings, request, address, rfl, proposed.canonical, proposed.command⟩
  | reject requireSecondOperator request old found _ =>
      have old_member := (rowOf_mem found).1
      rcases (mem_replaced old_member).mp member with rfl | ⟨kept, _⟩
      · exact .inl ⟨old, old_member, rfl, rfl⟩
      · exact .inl ⟨plan, kept, rfl, rfl⟩
  | approve requireSecondOperator request old address found _ _ =>
      have old_member := (rowOf_mem found).1
      rcases (mem_replaced old_member).mp member with rfl | ⟨kept, _⟩
      · exact .inl ⟨old, old_member, rfl, rfl⟩
      · exact .inl ⟨plan, kept, rfl, rfl⟩

/-- **A plan is approved by a decision that the policy allows.** -/
theorem Changes.approved (changes : Changes state operation after) (member : plan ∈ after)
    (approved : plan.status = .approved) :
    plan ∈ state.plans ∨
      ∃ requireSecondOperator request old address,
        operation = .decide requireSecondOperator request ∧ old ∈ state.plans ∧
        old.id = request.planId ∧ old.status = .proposed ∧
        plan = decidedPlan .approved request old ∧
        Approves requireSecondOperator request state.allowlist old address := by
  cases changes with
  | nothing => exact .inl member
  | renew settings request old row address old_member _ _ _ _ proposed =>
      rcases (mem_replaced old_member).mp member with rfl | ⟨kept, _⟩
      · rw [proposed.status] at approved
        cases approved
      · exact .inl kept
  | insert settings request row address _ _ proposed =>
      rcases List.mem_append.mp member with kept | added
      · exact .inl kept
      · obtain rfl := List.mem_singleton.mp added
        rw [proposed.status] at approved
        cases approved
  | reject requireSecondOperator request old found _ =>
      rcases (mem_replaced (rowOf_mem found).1).mp member with rfl | ⟨kept, _⟩
      · cases approved
      · exact .inl kept
  | approve requireSecondOperator request old address found opened approves =>
      obtain ⟨old_member, same_id⟩ := rowOf_mem found
      rcases (mem_replaced old_member).mp member with rfl | ⟨kept, _⟩
      · exact .inr ⟨requireSecondOperator, request, old, address, rfl, old_member, same_id, opened,
          rfl, approves⟩
      · exact .inl kept

/-- One plan is open for an incident and an address. -/
def OneOpen (plans : List IpBlockPlan) : Prop :=
  ∀ left ∈ plans, ∀ right ∈ plans, left.status = .proposed → right.status = .proposed →
    left.incidentId = right.incidentId → left.ipAddress = right.ipAddress → left.id = right.id

/-- A row that is open only where the row before it was keeps the plans
apart. -/
theorem OneOpen.replaced {plans : List IpBlockPlan} {old row : IpBlockPlan} (one : OneOpen plans)
    (member : old ∈ plans) (same_id : row.id = old.id)
    (opened : row.status = .proposed → old.status = .proposed ∧
      row.incidentId = old.incidentId ∧ row.ipAddress = old.ipAddress) :
    OneOpen (updateWhere (·.id = old.id) (fun _ => row) plans) := by
  intro left left_member right right_member left_open right_open incidents addresses
  rcases (mem_replaced member).mp left_member with rfl | ⟨left_kept, _⟩
  · obtain ⟨old_open, old_incident, old_address⟩ := opened left_open
    rcases (mem_replaced member).mp right_member with rfl | ⟨right_kept, _⟩
    · rfl
    · exact same_id.trans (one old member right right_kept old_open right_open
        (old_incident.symm.trans incidents) (old_address.symm.trans addresses))
  · rcases (mem_replaced member).mp right_member with rfl | ⟨right_kept, _⟩
    · obtain ⟨old_open, old_incident, old_address⟩ := opened right_open
      exact (one left left_kept old member left_open old_open (incidents.trans old_incident)
        (addresses.trans old_address)).trans same_id.symm
    · exact one left left_kept right right_kept left_open right_open incidents addresses

theorem Changes.oneOpen (changes : Changes state operation after) (one : OneOpen state.plans) :
    OneOpen after := by
  cases changes with
  | nothing => exact one
  | renew settings request old row address member opened same_id incidents addresses _ =>
      exact one.replaced member same_id fun _ => ⟨opened, incidents, addresses⟩
  | insert settings request row address _ absent _ =>
      have alone : ∀ old ∈ state.plans, old.status = .proposed →
          old.incidentId = row.incidentId → old.ipAddress ≠ row.ipAddress := by
        intro old member opened incidents addresses
        have missed := List.find?_eq_none.mp absent old member
        simp [incidents, addresses, opened] at missed
      intro left left_member right right_member left_open right_open incidents addresses
      rcases List.mem_append.mp left_member with left_kept | left_added
      · rcases List.mem_append.mp right_member with right_kept | right_added
        · exact one left left_kept right right_kept left_open right_open incidents addresses
        · obtain rfl := List.mem_singleton.mp right_added
          exact absurd addresses (alone left left_kept left_open incidents)
      · obtain rfl := List.mem_singleton.mp left_added
        rcases List.mem_append.mp right_member with right_kept | right_added
        · exact absurd addresses.symm (alone right right_kept right_open incidents.symm)
        · obtain rfl := List.mem_singleton.mp right_added
          rfl
  | reject requireSecondOperator request old found _ =>
      exact one.replaced (rowOf_mem found).1 rfl fun impossible => by cases impossible
  | approve requireSecondOperator request old address found _ _ =>
      exact one.replaced (rowOf_mem found).1 rfl fun impossible => by cases impossible

/-- **An approval that fails the policy rejects the plan.** -/
theorem rejected_of_failed {requireSecondOperator : Bool} {request : DecideRequest}
    (unique : (state.plans.map IpBlockPlan.id).Nodup) (member : plan ∈ state.plans)
    (asked : plan.id = request.planId) (approve : request.approve = true)
    (opened : plan.status = .proposed) (live : request.now < plan.expiresAt)
    (second : requireSecondOperator = true →
      plan.proposedByOperatorId ≠ request.actor.operatorId)
    (failed : (classifyBlockTarget state.allowlist plan.ipAddress).allowed = false) :
    decidedPlan .rejected request plan ∈
      (state.serve (.decide requireSecondOperator request)).plans := by
  have found : rowOf IpBlockPlan.id state.plans request.planId = some plan :=
    asked ▸ rowOf_of_mem unique member
  have decided : (decidePlan requireSecondOperator state.allowlist request plan).plan =
      some (decidedPlan .rejected request plan) := by
    unfold decidePlan approvePlan
    rw [if_pos approve, if_neg (not_not.mpr opened), if_neg (by omega),
      if_neg (fun same => second same.1 same.2)]
    simp [failed]
  simp only [PolicyTables.serve, decideIpBlock, found, decided, Option.getD_some]
  exact (mem_replaced member).mpr (.inl rfl)

end Steps

/-! ## Whole runs -/

/-- What holds of the plans in every state. -/
structure PlansInvariant (plans : List IpBlockPlan) : Prop where
  ids : (plans.map IpBlockPlan.id).Nodup
  oneOpen : OneOpen plans

section Runs

variable {start finish : PolicyTables} {path : List (Taken PolicyTables PolicyOperation)}

theorem PlansInvariant.step {before after : PolicyTables} {operation : PolicyOperation}
    (inv : PlansInvariant before.plans) (step : before.Step operation after) :
    PlansInvariant after.plans := by
  obtain rfl := step
  have changes : Changes before operation _ := serve_changes operation inv.ids
  exact ⟨changes.ids inv.ids, changes.oneOpen inv.oneOpen⟩

/-- The command of every plan is that of a proposal. -/
theorem command_of_run (run : Run PolicyTables.Step start path finish)
    (inv : PlansInvariant start.plans) {plan : IpBlockPlan} (member : plan ∈ finish.plans) :
    (∃ old ∈ start.plans, old.ipAddress = plan.ipAddress ∧ old.commandArgv = plan.commandArgv) ∨
      ∃ taken ∈ path, ∃ settings request address, taken.label = .propose settings request ∧
        IsCanonical plan.ipAddress address ∧
        plan.commandArgv = buildNftBlockCommand settings address := by
  induction run with
  | nil state => exact .inl ⟨plan, member, rfl, rfl⟩
  | @cons before middle finish operation path step _ ih =>
      rcases ih (inv.step step) member with ⟨old, old_member, addresses, commands⟩ |
        ⟨taken, taken_member, named⟩
      · obtain rfl := step
        rcases (serve_changes operation inv.ids).command old_member with
          ⟨older, older_member, older_address, older_command⟩ | ⟨settings, request, address, named⟩
        · exact .inl ⟨older, older_member, older_address.trans addresses,
            older_command.trans commands⟩
        · rw [addresses, commands] at named
          exact .inr ⟨_, List.mem_cons_self, settings, request, address, named⟩
      · exact .inr ⟨taken, List.mem_cons_of_mem _ taken_member, named⟩

/-- A decided plan stays to the end. -/
theorem closed_of_run (run : Run PolicyTables.Step start path finish)
    (inv : PlansInvariant start.plans) {plan : IpBlockPlan} (member : plan ∈ start.plans)
    (decided : plan.status ≠ .proposed) : plan ∈ finish.plans := by
  have both : PlansInvariant finish.plans ∧ plan ∈ finish.plans := by
    have preserved : ∀ (before : PolicyTables) (operation : PolicyOperation) (after : PolicyTables),
        PlansInvariant before.plans ∧ plan ∈ before.plans → before.Step operation after →
          PlansInvariant after.plans ∧ plan ∈ after.plans := by
      rintro before operation after ⟨inv_before, kept⟩ step
      refine ⟨inv_before.step step, ?_⟩
      obtain rfl := step
      exact (serve_changes operation inv_before.ids).closed inv_before.ids kept decided
    exact run.invariant preserved ⟨inv, member⟩
  exact both.2

/-- The open plans of an incident and an address. -/
def openPlans (plans : List IpBlockPlan) (incidentId : Uuid) (ipAddress : String) :
    List IpBlockPlan :=
  plans.filter fun plan =>
    plan.status = .proposed && plan.incidentId = incidentId && plan.ipAddress == ipAddress

theorem PlansInvariant.openPlans_length {plans : List IpBlockPlan} (inv : PlansInvariant plans)
    (incidentId : Uuid) (ipAddress : String) :
    (openPlans plans incidentId ipAddress).length ≤ 1 := by
  have distinct : ((openPlans plans incidentId ipAddress).map IpBlockPlan.id).Nodup :=
    (List.filter_sublist.map IpBlockPlan.id).nodup inv.ids
  have alike : ∀ left ∈ openPlans plans incidentId ipAddress,
      ∀ right ∈ openPlans plans incidentId ipAddress, left.id = right.id := by
    simp only [openPlans, List.mem_filter, Bool.and_eq_true, decide_eq_true_eq, beq_iff_eq]
    rintro left ⟨left_member, ⟨left_open, left_incident⟩, left_address⟩ right
      ⟨right_member, ⟨right_open, right_incident⟩, right_address⟩
    exact inv.oneOpen left left_member right right_member left_open right_open
      (left_incident.trans right_incident.symm) (left_address.trans right_address.symm)
  match rows : openPlans plans incidentId ipAddress with
  | [] => exact Nat.zero_le 1
  | [_] => exact Nat.le_refl 1
  | first :: second :: rest =>
      rw [rows] at distinct alike
      simp only [List.map_cons, List.nodup_cons, List.mem_cons, not_or] at distinct
      exact absurd (alike first (by simp) second (by simp)) distinct.1.1

end Runs

/-- **The policy holds when a plan is decided.** In every serial run: a plan is
approved by a decision before it expires, and its address is then canonical, in
no never-block range and in no active network. The command of a plan adds its own
address to the set of the address's family, as its proposal was configured, and
has visible tokens only. One plan at most is open for an incident and an address.
A plan whose approval fails the policy is rejected for good. -/
theorem ip_block_policy_at_decision {incidents : List Incident}
    {allowlist : List IpBlockAllowlistEntry} {path : List (Taken PolicyTables PolicyOperation)}
    {finish : PolicyTables} (run : Run PolicyTables.Step ⟨incidents, allowlist, []⟩ path finish) :
    (∀ taken ∈ path, ∀ plan ∈ taken.after.plans, plan.status = .approved →
      plan ∈ taken.before.plans ∨
        ∃ requireSecondOperator request address,
          taken.label = .decide requireSecondOperator request ∧ request.approve = true ∧
          plan.id = request.planId ∧ plan.decidedAt = some request.now ∧
          request.now < plan.expiresAt ∧ IsCanonical plan.ipAddress address ∧
          isNeverBlock address = false ∧ isAllowlisted taken.before.allowlist address = false) ∧
    (∀ plan ∈ finish.plans,
      (∃ taken ∈ path, ∃ settings request address nftSet,
        taken.label = .propose settings request ∧ IsCanonical plan.ipAddress address ∧
        plan.commandArgv =
          ["nft", "add", "element", "inet", settings.nftTable, nftSet, "\x7b", plan.ipAddress,
            "\x7d"] ∧
        ((∃ value, address = .v4 value ∧ nftSet = settings.nftSetV4) ∨
          ∃ value, address = .v6 value none ∧ nftSet = settings.nftSetV6)) ∧
      ∀ token ∈ plan.commandArgv, Visible token) ∧
    (∀ incidentId ipAddress, (openPlans finish.plans incidentId ipAddress).length ≤ 1) ∧
    ∀ taken ∈ path, ∀ requireSecondOperator request,
      taken.label = .decide requireSecondOperator request → request.approve = true →
        ∀ plan ∈ taken.before.plans, plan.id = request.planId → plan.status = .proposed →
          request.now < plan.expiresAt →
          (requireSecondOperator = true →
            plan.proposedByOperatorId ≠ request.actor.operatorId) →
          (classifyBlockTarget taken.before.allowlist plan.ipAddress).allowed = false →
          (∃ rejected ∈ finish.plans, rejected.id = plan.id) ∧
            ∀ later ∈ finish.plans, later.id = plan.id → later.status = .rejected := by
  have start : PlansInvariant [] :=
    ⟨List.nodup_nil, fun left member => absurd member List.not_mem_nil⟩
  have inv : PlansInvariant finish.plans :=
    run.invariant (fun before operation after holds step => PlansInvariant.step holds step) start
  have inv_at {taken : Taken PolicyTables PolicyOperation} (member : taken ∈ path) :=
    run.invariant_at (fun before operation after holds step => PlansInvariant.step holds step) start
      member
  refine ⟨fun taken member plan plan_member approved => ?_, fun plan plan_member => ?_,
    inv.openPlans_length, ?_⟩
  · have step := run.taken_step member
    rw [step] at plan_member
    rcases (serve_changes taken.label (inv_at member).1.ids).approved plan_member approved with
      kept | ⟨required, request, old, address, label, _, asked, _, rfl, approves⟩
    · exact .inl kept
    · exact .inr ⟨required, request, address, label, approves.approve, asked, rfl, approves.live,
        approves.canonical, approves.blockable, approves.unlisted⟩
  · rcases command_of_run run start plan_member with ⟨_, nothing, _⟩ | proposed
    · cases nothing
    · obtain ⟨taken, member, settings, request, address, label, canonical, command⟩ := proposed
      obtain ⟨nftSet, built, family⟩ := buildNftBlockCommand_of_canonical settings canonical
      refine ⟨⟨taken, member, settings, request, address, nftSet, label, canonical,
        command.trans built, family⟩, ?_⟩
      rw [command]
      exact visible_buildNftBlockCommand settings canonical.unscoped
  · intro taken member required request label approve plan plan_member asked opened live second
      failed
    have step := run.taken_step member
    rw [label] at step
    have rejected := rejected_of_failed (inv_at member).1.ids plan_member asked approve opened live
      second failed
    rw [← step] at rejected
    obtain ⟨earlier, later, rfl⟩ := List.append_of_mem member
    obtain ⟨_, _, remaining⟩ := run.around
    have kept := closed_of_run remaining (inv_at member).2 rejected (by simp [decidedPlan])
    refine ⟨⟨_, kept, rfl⟩, fun other other_member same => ?_⟩
    rw [List.inj_on_of_nodup_map inv.ids other_member kept same]
    rfl

/-! ## A run -/

/-- An administrator with an API key. -/
def policyOperator (number : Uuid) : OperatorPrincipal :=
  ⟨number, "administrator", .admin, .operatorApiKey, number⟩

/-- A plan whose network is listed before its approval, and one that is
proposed and approved after the network is revoked. -/
def listedMeanwhile : List PolicyOperation :=
  [.propose .defaults ⟨policyOperator 10, 1, "first", 7, 0⟩,
    .addAllowlistEntry ⟨50, "8.8.8.0/24", "resolver", "used by the servers"⟩,
    .decide true ⟨policyOperator 11, 7, true, 1⟩,
    .revokeAllowlistEntry 50 2,
    .propose .defaults ⟨policyOperator 10, 1, "second", 8, 3⟩,
    .decide true ⟨policyOperator 11, 7, true, 4⟩,
    .decide true ⟨policyOperator 11, 8, true, 4⟩]

def listedMeanwhileTables : PolicyTables :=
  listedMeanwhile.foldl PolicyTables.serve ⟨[sampleIncident], [], []⟩

/-- The first plan ends rejected, the second approved. Both commands name the
address and the table. -/
theorem ip_block_policy_at_decision_listed_meanwhile :
    (listedMeanwhileTables.plans.map fun plan => (plan.id, plan.status)) =
        [(7, .rejected), (8, .approved)] ∧
      ∀ plan ∈ listedMeanwhileTables.plans,
        (∃ table nftSet, plan.commandArgv =
          ["nft", "add", "element", "inet", table, nftSet, "\x7b", "8.8.8.8", "\x7d"]) ∧
        ∀ token ∈ plan.commandArgv, Visible token := by
  have addresses : (listedMeanwhileTables.plans.all fun plan => plan.ipAddress == "8.8.8.8") =
      true := by decide +kernel
  refine ⟨by decide +kernel, fun plan member => ?_⟩
  have run := Run.of_trace PolicyTables.serve ⟨[sampleIncident], [], []⟩ listedMeanwhile
  obtain ⟨⟨_, _, settings, _, _, nftSet, _, _, command, _⟩, visible⟩ :=
    (ip_block_policy_at_decision run).2.1 plan member
  have address : plan.ipAddress = "8.8.8.8" := by
    simpa using List.all_eq_true.mp addresses plan member
  exact ⟨⟨settings.nftTable, nftSet, address ▸ command⟩, visible⟩

end WolandGuard.IpBlocks
