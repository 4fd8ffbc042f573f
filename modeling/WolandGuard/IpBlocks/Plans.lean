import WolandGuard.Foundations.Rows
import WolandGuard.Incidents.Database
import WolandGuard.IpBlocks.Policy

/-!
# Block plans

`application/ip_blocks.py`: proposing, approving and rejecting a plan. Each
operation is one transaction over the table of plans; what it computes from the
rows it has read is a function of its own, which the concurrent model shares.
-/

set_option autoImplicit false

namespace WolandGuard.IpBlocks

open Foundations

inductive PlanStatus where
  | proposed
  | approved
  | rejected
  deriving DecidableEq, Repr

structure IpBlockPlan where
  id : Uuid
  incidentId : Uuid
  serverId : Uuid
  ipAddress : String
  status : PlanStatus
  commandArgv : List String
  proposedByOperatorId : Uuid
  proposedAt : Int
  expiresAt : Int
  proposalRequestId : String
  decidedByOperatorId : Option Uuid
  decidedAt : Option Int
  deriving DecidableEq, Repr

inductive ProposeIpBlockStatus where
  | created
  | reused
  | incidentNotFound
  | noSourceAddress
  | rejected
  deriving DecidableEq, Repr

inductive DecideIpBlockStatus where
  | approved
  | rejected
  | planNotFound
  | alreadyDecided
  | expired
  | sameOperator
  | nowBlocked
  deriving DecidableEq, Repr

structure ProposeIpBlockResult where
  status : ProposeIpBlockStatus
  plan : Option IpBlockPlan
  rejectionReason : Option BlockTargetRejectionReason
  deriving DecidableEq, Repr

structure DecideIpBlockResult where
  status : DecideIpBlockStatus
  plan : Option IpBlockPlan
  rejectionReason : Option BlockTargetRejectionReason
  deriving DecidableEq, Repr

/-! ## Proposing -/

/-- `_extract_source_ip`. -/
def extractSourceIp (correlation : Correlation) : Option String :=
  match correlation.find? fun (path, _) => path == ["source_ip"] with
  | some (_, .str text) => if text = "" then none else some text
  | _ => none

/-- One request to propose a plan. -/
structure ProposeRequest where
  actor : OperatorPrincipal
  incidentId : Uuid
  requestId : String
  planId : Uuid
  now : Int
  deriving DecidableEq, Repr

/-- The open plan of an incident and an address. -/
def proposedPlan (plans : List IpBlockPlan) (incidentId : Uuid) (ipAddress : String) :
    Option IpBlockPlan :=
  plans.find? fun plan =>
    plan.incidentId = incidentId && plan.ipAddress == ipAddress && plan.status = .proposed

/-- The new cycle of an expired plan. -/
def refreshedPlan (settings : IpBlockRuntimeSettings) (request : ProposeRequest)
    (argv : List String) (plan : IpBlockPlan) : IpBlockPlan :=
  { plan with
    commandArgv := argv
    proposedByOperatorId := request.actor.operatorId
    proposedAt := request.now
    expiresAt := request.now + seconds settings.planTtlSeconds
    proposalRequestId := request.requestId }

def newPlan (settings : IpBlockRuntimeSettings) (request : ProposeRequest) (incident : Incident)
    (ipAddress : String) (argv : List String) : IpBlockPlan where
  id := request.planId
  incidentId := incident.id
  serverId := incident.serverId
  ipAddress := ipAddress
  status := .proposed
  commandArgv := argv
  proposedByOperatorId := request.actor.operatorId
  proposedAt := request.now
  expiresAt := request.now + seconds settings.planTtlSeconds
  proposalRequestId := request.requestId
  decidedByOperatorId := none
  decidedAt := none

/-- The part of `propose_ip_block` after the policy has allowed an address. -/
def proposeAllowed (settings : IpBlockRuntimeSettings) (request : ProposeRequest)
    (incident : Incident) (address : IpAddress) (plans : List IpBlockPlan) :
    ProposeIpBlockResult × List IpBlockPlan :=
  let argv := buildNftBlockCommand settings address
  match proposedPlan plans incident.id address.text with
  | some existing =>
      if request.now < existing.expiresAt then (⟨.reused, some existing, none⟩, plans)
      else
        let plan := refreshedPlan settings request argv existing
        (⟨.created, some plan, none⟩,
          updateWhere (·.id = existing.id) (fun _ => plan) plans)
  | none =>
      let plan := newPlan settings request incident address.text argv
      (⟨.created, some plan, none⟩, plans ++ [plan])

/-- `propose_ip_block`, given the incident with the requested id. -/
def proposeIpBlock (settings : IpBlockRuntimeSettings) (request : ProposeRequest)
    (incident : Option Incident) (allowlist : List IpBlockAllowlistEntry)
    (plans : List IpBlockPlan) : ProposeIpBlockResult × List IpBlockPlan :=
  match incident with
  | none => (⟨.incidentNotFound, none, none⟩, plans)
  | some incident =>
      match extractSourceIp incident.correlation with
      | none => (⟨.noSourceAddress, none, none⟩, plans)
      | some rawAddress =>
          let decision := classifyBlockTarget allowlist rawAddress
          match decision.allowed, decision.address with
          | true, some address => proposeAllowed settings request incident address plans
          | _, _ => (⟨.rejected, none, decision.rejectionReason⟩, plans)

/-! ## Deciding -/

/-- One request to approve or to reject a plan. -/
structure DecideRequest where
  actor : OperatorPrincipal
  planId : Uuid
  approve : Bool
  now : Int
  deriving DecidableEq, Repr

/-- `_decide`. -/
def decidedPlan (status : PlanStatus) (request : DecideRequest) (plan : IpBlockPlan) :
    IpBlockPlan :=
  { plan with
    status := status
    decidedByOperatorId := some request.actor.operatorId
    decidedAt := some request.now }

/-- `approve_ip_block` on the row that it has locked. -/
def approvePlan (requireSecondOperator : Bool) (allowlist : List IpBlockAllowlistEntry)
    (request : DecideRequest) (plan : IpBlockPlan) : DecideIpBlockResult :=
  if plan.status ≠ .proposed then ⟨.alreadyDecided, some plan, none⟩
  else if plan.expiresAt ≤ request.now then ⟨.expired, some plan, none⟩
  else if requireSecondOperator ∧ plan.proposedByOperatorId = request.actor.operatorId then
    ⟨.sameOperator, some plan, none⟩
  else
    let decision := classifyBlockTarget allowlist plan.ipAddress
    if decision.allowed then ⟨.approved, some (decidedPlan .approved request plan), none⟩
    else ⟨.nowBlocked, some (decidedPlan .rejected request plan), decision.rejectionReason⟩

/-- `reject_ip_block` on the row that it has locked. -/
def rejectPlan (request : DecideRequest) (plan : IpBlockPlan) : DecideIpBlockResult :=
  if plan.status ≠ .proposed then ⟨.alreadyDecided, some plan, none⟩
  else if plan.expiresAt ≤ request.now then ⟨.expired, some plan, none⟩
  else ⟨.rejected, some (decidedPlan .rejected request plan), none⟩

/-- The decision on a locked row. -/
def decidePlan (requireSecondOperator : Bool) (allowlist : List IpBlockAllowlistEntry)
    (request : DecideRequest) (plan : IpBlockPlan) : DecideIpBlockResult :=
  if request.approve then approvePlan requireSecondOperator allowlist request plan
  else rejectPlan request plan

/-- `approve_ip_block` or `reject_ip_block`. -/
def decideIpBlock (requireSecondOperator : Bool) (allowlist : List IpBlockAllowlistEntry)
    (request : DecideRequest) (plans : List IpBlockPlan) :
    DecideIpBlockResult × List IpBlockPlan :=
  match rowOf IpBlockPlan.id plans request.planId with
  | none => (⟨.planNotFound, none, none⟩, plans)
  | some plan =>
      let result := decidePlan requireSecondOperator allowlist request plan
      (result, updateWhere (·.id = plan.id) (fun row => result.plan.getD row) plans)

/-- What a decision can do to a row: nothing, or decide an open plan, and an
approval comes from a second operator where one is required. -/
inductive Decides (requireSecondOperator : Bool) (request : DecideRequest) (plan : IpBlockPlan) :
    Option IpBlockPlan → Prop where
  | nothing : Decides requireSecondOperator request plan (some plan)
  | reject (opened : plan.status = .proposed) :
      Decides requireSecondOperator request plan (some (decidedPlan .rejected request plan))
  | approve (opened : plan.status = .proposed)
      (second : requireSecondOperator = true →
        plan.proposedByOperatorId ≠ request.actor.operatorId) :
      Decides requireSecondOperator request plan (some (decidedPlan .approved request plan))

theorem approvePlan_decides (requireSecondOperator : Bool)
    (allowlist : List IpBlockAllowlistEntry) (request : DecideRequest) (plan : IpBlockPlan) :
    Decides requireSecondOperator request plan
      (approvePlan requireSecondOperator allowlist request plan).plan := by
  unfold approvePlan
  split
  · exact .nothing
  next opened =>
    have opened := not_not.mp opened
    split
    · exact .nothing
    split
    · exact .nothing
    next second =>
      dsimp only
      split
      · exact .approve opened fun required same => second ⟨required, same⟩
      · exact .reject opened

theorem rejectPlan_decides (requireSecondOperator : Bool) (request : DecideRequest)
    (plan : IpBlockPlan) :
    Decides requireSecondOperator request plan (rejectPlan request plan).plan := by
  unfold rejectPlan
  split
  · exact .nothing
  next opened =>
    split
    · exact .nothing
    · exact .reject (not_not.mp opened)

theorem decidePlan_decides (requireSecondOperator : Bool) (allowlist : List IpBlockAllowlistEntry)
    (request : DecideRequest) (plan : IpBlockPlan) :
    Decides requireSecondOperator request plan
      (decidePlan requireSecondOperator allowlist request plan).plan := by
  unfold decidePlan
  split
  · exact approvePlan_decides requireSecondOperator allowlist request plan
  · exact rejectPlan_decides requireSecondOperator request plan

end WolandGuard.IpBlocks
