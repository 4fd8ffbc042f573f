import WolandGuard.Administration.Operations

/-!
# What the administration has granted

The standing of an installation: the roles of its operators, whose keys and
whose Telegram links are still good, where notifications go, and which networks
are exempt from blocks. It is an abstract state: events change it (`apply`), and
the tables have one (`AdministrationTables.standing`).

Every operation of the administration tells its entry: the standing after it is
the standing before it with the event of the entry applied.
-/

set_option autoImplicit false

namespace WolandGuard.Administration

open Detection (Severity)
open Foundations Incidents IpBlocks Outbox Sessions Telegram

/-! ## The standing -/

/-- A key or a link: whose it is, and whether it is revoked. -/
structure Holding where
  operatorId : Uuid
  revoked : Bool
  deriving DecidableEq, Repr

/-- Where notifications go from some severity on. -/
structure Routing where
  enabled : Bool
  minimumSeverity : Severity
  deriving DecidableEq, Repr

/-- A network of the allowlist. -/
structure Exemption where
  cidr : IpNetwork
  revoked : Bool
  deriving DecidableEq, Repr

@[ext]
structure Standing where
  roles : Uuid → Option OperatorRole
  keys : Uuid → Option Holding
  links : Uuid → Option Holding
  destinations : Uuid → Option Routing
  networks : Uuid → Option Exemption

namespace Standing

/-- Nothing has been granted. -/
def empty : Standing where
  roles _ := none
  keys _ := none
  links _ := none
  destinations _ := none
  networks _ := none

def granted (operatorId : Uuid) : Holding := ⟨operatorId, false⟩

def withdrawn (holding : Holding) : Holding := { holding with revoked := true }

/-- What an event changes. -/
def apply (standing : Standing) : AdministrativeEvent → Standing
  | .operatorCreated operatorId role =>
      { standing with roles := Function.update standing.roles operatorId (some role) }
  | .keyIssued keyId operatorId =>
      { standing with keys := Function.update standing.keys keyId (some (granted operatorId)) }
  | .keyRotated keyId operatorId replacedKeyId =>
      { standing with
        keys := adjust (Function.update standing.keys keyId (some (granted operatorId))) replacedKeyId
          withdrawn }
  | .keyRevoked keyId _ => { standing with keys := adjust standing.keys keyId withdrawn }
  | .linkCreated linkId operatorId =>
      { standing with links := Function.update standing.links linkId (some (granted operatorId)) }
  | .linkRevoked linkId _ => { standing with links := adjust standing.links linkId withdrawn }
  | .destinationCreated destinationId severity =>
      { standing with
        destinations := Function.update standing.destinations destinationId (some ⟨false, severity⟩) }
  | .destinationUpdated destinationId _ severity _ _
  | .severityChangedByOperator destinationId _ severity =>
      { standing with
        destinations := adjust standing.destinations destinationId fun routing =>
          { routing with minimumSeverity := severity } }
  | .destinationEnabled destinationId _ =>
      { standing with
        destinations := adjust standing.destinations destinationId fun routing =>
          { routing with enabled := true } }
  | .destinationDisabled destinationId _ | .destinationDisabledByOperator destinationId _ =>
      { standing with
        destinations := adjust standing.destinations destinationId fun routing =>
          { routing with enabled := false } }
  | .networkAllowed entryId cidr =>
      { standing with
        networks := Function.update standing.networks entryId
          ((validateCidr cidr).map fun network => ⟨network, false⟩) }
  | .networkRevoked entryId _ =>
      { standing with
        networks := adjust standing.networks entryId fun exemption =>
          { exemption with revoked := true } }

/-- What an entry of the audit log changes: nothing, unless it is one of the
administration. -/
def read (standing : Standing) (entry : AuditLogEntry) : Standing :=
  (readEvent entry).elim standing standing.apply

end Standing

/-! ## The standing of the tables -/

def holdingOfKey (key : OperatorApiKey) : Holding := ⟨key.operatorId, key.revokedAt.isSome⟩

def holdingOfLink (link : OperatorTelegramLink) : Holding := ⟨link.operatorId, link.revokedAt.isSome⟩

def routingOf (destination : DestinationRow) : Routing :=
  ⟨destination.enabled, destination.minimumSeverity⟩

def exemptionOf (entry : IpBlockAllowlistEntry) : Exemption := ⟨entry.cidr, entry.revokedAt.isSome⟩

def AdministrationTables.standing (tables : AdministrationTables) : Standing where
  roles := viewOf Operator.id Operator.role tables.identity.operators
  keys := viewOf OperatorApiKey.id holdingOfKey tables.identity.keys
  links := viewOf OperatorTelegramLink.id holdingOfLink tables.links
  destinations := viewOf (fun row : DestinationRow => row.id) routingOf tables.destinations
  networks := viewOf IpBlockAllowlistEntry.id exemptionOf tables.allowlist

/-- The audit log of a change of the tables tells the change of the standing. -/
abbrev TellsStanding (before after : AdministrationTables) : Prop :=
  Told AdministrationTables.auditLog AdministrationTables.standing Standing.read before after

/-- A change that keeps the routes of notifications. -/
structure SameRoutes (before after : AdministrationTables) : Prop where
  destinations : after.destinations = before.destinations
  configs : after.configs = before.configs

section Entries

variable {tables changed after : AdministrationTables}
variable {recorded : Except AuditValidationError AuditLogEntry} {event : AdministrativeEvent}

theorem tell_ok : tables.tell recorded = .ok after ↔
    ∃ entry, recorded = .ok entry ∧ after = tables.log entry := by
  unfold AdministrationTables.tell
  constructor
  · intro told
    split at told
    · cases told
    next entry => exact ⟨entry, rfl, (Except.ok.inj told).symm⟩
  · rintro ⟨entry, rfl, rfl⟩
    rfl

@[simp] theorem standing_log (entry : AuditLogEntry) : (tables.log entry).standing = tables.standing :=
  rfl

@[simp] theorem auditLog_log (entry : AuditLogEntry) :
    (tables.log entry).auditLog = tables.auditLog ++ [entry] := rfl

/-- A recorded event is read from its entry. -/
def ReadAs (recorded : Except AuditValidationError AuditLogEntry) (event : AdministrativeEvent) : Prop :=
  ∀ entry, recorded = .ok entry → readEvent entry = some event

theorem tellLocally_readAs {id : Uuid} {now : Int} : ReadAs (tellLocally id now event) event := by
  intro entry recorded
  obtain ⟨own, _, rfl⟩ := tellLocally_ok.mp recorded
  exact readEvent_localEntry own id now

theorem tellAsOperator_readAs {id : Uuid} {now : Int} {actor : OperatorPrincipal}
    {requestId : String} : ReadAs (tellAsOperator id now actor requestId event) event := by
  intro entry recorded
  obtain ⟨by_operator, session, rfl⟩ := tellAsOperator_ok.mp recorded
  exact readEvent_operatorEntry by_operator session id now requestId

/-- **A change that is told by the entry of its event.** -/
theorem told_of_tell (told : changed.tell recorded = .ok after) (read_as : ReadAs recorded event)
    (same_log : changed.auditLog = tables.auditLog)
    (applied : changed.standing = tables.standing.apply event) : TellsStanding tables after := by
  obtain ⟨entry, rfl, rfl⟩ := tell_ok.mp told
  have appended : (changed.log entry).auditLog = tables.auditLog ++ [entry] := by
    rw [auditLog_log, same_log]
  refine .of_entry appended ?_
  rw [standing_log, applied, Standing.read, read_as entry rfl]
  rfl

end Entries

end WolandGuard.Administration
