import WolandGuard.Incidents.Database
import WolandGuard.IpBlocks.Policy

/-!
# The audit log

`application/audit.py`: the registry of the actions that operators take, and
`record_operator_action`, which refuses an entry that its action does not
describe.
-/

set_option autoImplicit false

namespace WolandGuard.Incidents

/-! ## The registry -/

inductive AuditActorType where
  | operator
  | localCli
  deriving DecidableEq, Repr

inductive AuditDetailType where
  | uuid
  | incidentStatus
  | positiveInteger
  | notificationAdapterKind
  | notificationSeverity
  | ipAddress
  deriving DecidableEq, Repr

inductive IncidentHistoryPolicy where
  | required
  | forbidden
  deriving DecidableEq, Repr

structure AuditActionSpec where
  actorType : AuditActorType
  targetType : String
  detailFields : List (String × AuditDetailType)
  allowedAuthMethods : List OperatorAuthMethodType
  incidentHistoryPolicy : IncidentHistoryPolicy

/-- Every way an operator comes in. -/
def everyAuthMethod : List OperatorAuthMethodType := [.operatorApiKey, .webSession, .telegram]

/-- `AUDIT_ACTION_REGISTRY`, for the actions of operators. -/
def auditActionRegistry : List (String × AuditActionSpec) :=
  [("incident.status_changed",
      ⟨.operator, "incident",
        [("from_status", .incidentStatus), ("from_version", .positiveInteger),
          ("history_id", .uuid), ("to_status", .incidentStatus), ("to_version", .positiveInteger)],
        everyAuthMethod, .required⟩),
    ("incident.comment_added",
      ⟨.operator, "incident_comment", [("incident_id", .uuid)], everyAuthMethod, .forbidden⟩),
    ("operator_web_session.started",
      ⟨.operator, "operator_web_session", [], [.operatorApiKey], .forbidden⟩),
    ("operator_web_session.ended",
      ⟨.operator, "operator_web_session", [], [.webSession], .forbidden⟩),
    ("notification_destination.disabled_by_operator",
      ⟨.operator, "notification_destination",
        [("adapter_kind", .notificationAdapterKind), ("minimum_severity", .notificationSeverity)],
        [.webSession], .forbidden⟩),
    ("notification_destination.minimum_severity_changed_by_operator",
      ⟨.operator, "notification_destination",
        [("adapter_kind", .notificationAdapterKind),
          ("from_minimum_severity", .notificationSeverity),
          ("to_minimum_severity", .notificationSeverity)],
        [.webSession], .forbidden⟩),
    ("ip_block_plan.proposed",
      ⟨.operator, "ip_block_plan", [("incident_id", .uuid), ("ip_address", .ipAddress)],
        everyAuthMethod, .forbidden⟩),
    ("ip_block_plan.approved",
      ⟨.operator, "ip_block_plan", [("ip_address", .ipAddress), ("proposed_by_operator_id", .uuid)],
        everyAuthMethod, .forbidden⟩),
    ("ip_block_plan.rejected",
      ⟨.operator, "ip_block_plan", [("ip_address", .ipAddress), ("proposed_by_operator_id", .uuid)],
        everyAuthMethod, .forbidden⟩)]

/-! ## Validation -/

inductive AuditValidationError where
  | actionNotAllowed
  | actorNotAllowed
  | authMethodNotAllowed
  | targetTypeNotAllowed
  | schemaMismatch
  | invalidDetail
  | historyMismatch
  | historyNotAllowed
  deriving DecidableEq, Repr

def AuditValidationError.message : AuditValidationError → String
  | .actionNotAllowed => "audit action is not allowed"
  | .actorNotAllowed => "audit actor is not allowed for action"
  | .authMethodNotAllowed => "audit authentication method is not allowed for action"
  | .targetTypeNotAllowed => "audit target type is not allowed for action"
  | .schemaMismatch => "audit details do not match action schema"
  | .invalidDetail => "audit detail value is invalid"
  | .historyMismatch => "audit history reference does not match action schema"
  | .historyNotAllowed => "audit history reference is not allowed for action"

/-- The number that lower-case hexadecimal digits spell. -/
def lowerHex (chars : List Char) : Option Nat :=
  if chars.any (·.isUpper) then none
  else (chars.mapM IpBlocks.hexValue).map (IpBlocks.spelled 16)

/-- `str(UUID(text)) == text`. -/
def isCanonicalUuid (text : String) : Bool :=
  match lowerHex (text.toList.filter (· ≠ '-')) with
  | none => false
  | some number => Uuid.text (BitVec.ofNat 128 number) == text

/-- `str(ip_address(text)) == text`, and not an IPv4-mapped address. -/
def isCanonicalIpAddress (text : String) : Bool :=
  match IpBlocks.parseAddress text with
  | none => false
  | some address => !address.isIPv4Mapped && address.text == text

/-- `_validate_detail_value`. -/
def isValidDetail (value : JsonValue) (detailType : AuditDetailType) : Bool :=
  match detailType, value with
  | .uuid, .str text => isCanonicalUuid text
  | .incidentStatus, .str text =>
      ["new", "investigating", "resolved", "false_positive"].contains text
  | .notificationAdapterKind, .str text => ["telegram"].contains text
  | .notificationSeverity, .str text => ["low", "medium", "high", "critical"].contains text
  | .ipAddress, .str text => isCanonicalIpAddress text
  | .positiveInteger, .int number => 1 ≤ number && number ≤ 2147483647
  | _, _ => false

/-- The details in the order of the schema. -/
def validatedDetails (details : List (String × JsonValue)) :
    List (String × AuditDetailType) → Except AuditValidationError (List (String × JsonValue))
  | [] => .ok []
  | (field, detailType) :: rest =>
      match details.lookup field with
      | none => .error .schemaMismatch
      | some value =>
          if !isValidDetail value detailType then .error .invalidDetail
          else (validatedDetails details rest).map ((field, value) :: ·)

/-- `validate_audit_action`. The fields that are forbidden everywhere are in no
schema, and the schema check refuses them with the same error. -/
def validateAuditAction (action : String) (actorType : AuditActorType)
    (authMethodType : Option OperatorAuthMethodType) (targetType : String)
    (details : List (String × JsonValue)) :
    Except AuditValidationError (List (String × JsonValue)) :=
  match auditActionRegistry.lookup action with
  | none => .error .actionNotAllowed
  | some spec =>
      if actorType ≠ spec.actorType then .error .actorNotAllowed
      else if actorType = .operator ∧ ¬ authMethodType.any spec.allowedAuthMethods.contains then
        .error .authMethodNotAllowed
      else if actorType ≠ .operator ∧ authMethodType.isSome then .error .authMethodNotAllowed
      else if targetType ≠ spec.targetType then .error .targetTypeNotAllowed
      else if ¬ (details.map Prod.fst).Perm (spec.detailFields.map Prod.fst) then
        .error .schemaMismatch
      else validatedDetails details spec.detailFields

/-! ## Entries -/

structure AuditLogEntry where
  id : Uuid
  actorType : AuditActorType
  operatorId : Option Uuid
  actorUsernameSnapshot : Option String
  authMethodType : Option OperatorAuthMethodType
  authMethodId : Option Uuid
  action : String
  targetType : String
  targetId : Uuid
  incidentHistoryId : Option Uuid
  requestId : Option String
  details : List (String × JsonValue)
  createdAt : Int

/-- The entry of an action of an operator. -/
def operatorEntry (id : Uuid) (now : Int) (actor : OperatorPrincipal) (action targetType : String)
    (targetId : Uuid) (requestId : String) (incidentHistoryId : Option Uuid)
    (details : List (String × JsonValue)) : AuditLogEntry where
  id := id
  actorType := .operator
  operatorId := some actor.operatorId
  actorUsernameSnapshot := some actor.username
  authMethodType := some actor.authMethodType
  authMethodId := some actor.authMethodId
  action := action
  targetType := targetType
  targetId := targetId
  incidentHistoryId := incidentHistoryId
  requestId := some requestId
  details := details
  createdAt := now

/-- The relation of an action to the history of incidents. -/
def checkHistoryReference (policy : IncidentHistoryPolicy) (incidentHistoryId : Option Uuid)
    (details : List (String × JsonValue)) : Option AuditValidationError :=
  match policy, incidentHistoryId with
  | .required, none => some .historyMismatch
  | .required, some historyId =>
      match details.lookup "history_id" with
      | some (.str text) => if text == Uuid.text historyId then none else some .historyMismatch
      | _ => some .historyMismatch
  | .forbidden, none => none
  | .forbidden, some _ => some .historyNotAllowed

/-- `record_operator_action`. -/
def recordOperatorAction (id : Uuid) (now : Int) (actor : OperatorPrincipal)
    (action targetType : String) (targetId : Uuid) (requestId : String)
    (incidentHistoryId : Option Uuid) (details : List (String × JsonValue)) :
    Except AuditValidationError AuditLogEntry :=
  match validateAuditAction action .operator (some actor.authMethodType) targetType details with
  | .error error => .error error
  | .ok validated =>
      let policy := (auditActionRegistry.lookup action).elim .forbidden (·.incidentHistoryPolicy)
      match checkHistoryReference policy incidentHistoryId validated with
      | some error => .error error
      | none =>
          .ok (operatorEntry id now actor action targetType targetId requestId incidentHistoryId
            validated)

/-- **A recorded action is linked to the history it was given.** -/
theorem recordOperatorAction_ok {id targetId : Uuid} {now : Int} {actor : OperatorPrincipal}
    {action targetType requestId : String} {incidentHistoryId : Option Uuid}
    {details : List (String × JsonValue)} {entry : AuditLogEntry}
    (recorded : recordOperatorAction id now actor action targetType targetId requestId
      incidentHistoryId details = .ok entry) :
    entry.incidentHistoryId = incidentHistoryId ∧ entry.action = action ∧
      entry.operatorId = some actor.operatorId := by
  unfold recordOperatorAction at recorded
  split at recorded
  · cases recorded
  · dsimp only at recorded
    split at recorded
    · cases recorded
    · obtain rfl := Except.ok.inj recorded
      exact ⟨rfl, rfl, rfl⟩

end WolandGuard.Incidents
