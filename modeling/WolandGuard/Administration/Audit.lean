import WolandGuard.Foundations.EventLogs
import WolandGuard.Incidents.Audit
import WolandGuard.IpBlocks.Allowlist
import WolandGuard.Outbox.Message
import WolandGuard.Telegram.CallbackCodec

/-!
# The audit log of the administration

The actions of the local command line in `application/audit.py`, and
`record_local_cli_action`. An administrative event is what one entry says: its
action, its target and its details. An entry that is recorded for an event is
read as that event (`readEvent`), whatever else is in the log.
-/

set_option autoImplicit false

namespace WolandGuard.Administration

open Detection (Severity)
open Incidents IpBlocks
open Telegram (hexDigitValue parseCanonicalUuid parseCanonicalUuid_text)

/-! ## The registry -/

/-- `AuditDetailType`: the types that actions of operators have, and those that
only the local command line uses. -/
inductive LocalDetailType where
  | shared (detailType : AuditDetailType)
  | operatorRole
  | boolean
  | ipNetwork
  deriving DecidableEq, Repr

/-- The fields of an action of the local command line. -/
structure LocalActionSpec where
  targetType : String
  detailFields : List (String × LocalDetailType)

/-- `AUDIT_ACTION_REGISTRY`, for the actions of the local command line. -/
def localCliRegistry : List (String × LocalActionSpec) :=
  let destinationFields : List (String × LocalDetailType) :=
    [("adapter_kind", .shared .notificationAdapterKind),
      ("minimum_severity", .shared .notificationSeverity)]
  [("operator.created", ⟨"operator", [("role", .operatorRole)]⟩),
    ("operator_api_key.issued", ⟨"operator_api_key", [("operator_id", .shared .uuid)]⟩),
    ("operator_api_key.rotated",
      ⟨"operator_api_key", [("operator_id", .shared .uuid), ("replaced_key_id", .shared .uuid)]⟩),
    ("operator_api_key.revoked", ⟨"operator_api_key", [("operator_id", .shared .uuid)]⟩),
    ("operator_telegram_link.created",
      ⟨"operator_telegram_link", [("operator_id", .shared .uuid)]⟩),
    ("operator_telegram_link.revoked",
      ⟨"operator_telegram_link", [("operator_id", .shared .uuid)]⟩),
    ("outbox.failed_requeued",
      ⟨"outbox_message",
        [("from_attempt_count", .shared .positiveInteger),
          ("from_max_attempts", .shared .positiveInteger),
          ("to_max_attempts", .shared .positiveInteger)]⟩),
    ("notification_destination.created", ⟨"notification_destination", destinationFields⟩),
    ("notification_destination.updated",
      ⟨"notification_destination",
        [("adapter_kind", .shared .notificationAdapterKind),
          ("from_minimum_severity", .shared .notificationSeverity),
          ("to_minimum_severity", .shared .notificationSeverity),
          ("chat_id_changed", .boolean), ("token_file_changed", .boolean)]⟩),
    ("notification_destination.enabled", ⟨"notification_destination", destinationFields⟩),
    ("notification_destination.disabled", ⟨"notification_destination", destinationFields⟩),
    ("ip_block_allowlist.created", ⟨"ip_block_allowlist_entry", [("cidr", .ipNetwork)]⟩),
    ("ip_block_allowlist.revoked", ⟨"ip_block_allowlist_entry", [("cidr", .ipNetwork)]⟩)]

/-! ## Recording -/

/-- `OperatorRole(role).value`. -/
def roleValue : OperatorRole → String
  | .viewer => "viewer"
  | .analyst => "analyst"
  | .admin => "admin"

/-- `_validate_detail_value`. -/
def isValidLocalDetail (value : JsonValue) (detailType : LocalDetailType) : Bool :=
  match detailType, value with
  | .shared detailType, value => isValidDetail value detailType
  | .operatorRole, .str text => ["viewer", "analyst", "admin"].contains text
  | .boolean, .bool _ => true
  | .ipNetwork, .str text => (validateCidr text).isSome
  | _, _ => false

/-- The details in the order of the schema. -/
def validatedLocalDetails (details : List (String × JsonValue)) :
    List (String × LocalDetailType) → Except AuditValidationError (List (String × JsonValue))
  | [] => .ok []
  | (field, detailType) :: rest =>
      match details.lookup field with
      | none => .error .schemaMismatch
      | some value =>
          if !isValidLocalDetail value detailType then .error .invalidDetail
          else (validatedLocalDetails details rest).map ((field, value) :: ·)

/-- `validate_audit_action` for the local command line, which has no method of
authentication. An action of operators has another actor. -/
def validateLocalAction (action targetType : String) (details : List (String × JsonValue)) :
    Except AuditValidationError (List (String × JsonValue)) :=
  match localCliRegistry.lookup action with
  | none =>
      if (auditActionRegistry.lookup action).isSome then .error .actorNotAllowed
      else .error .actionNotAllowed
  | some spec =>
      if targetType ≠ spec.targetType then .error .targetTypeNotAllowed
      else if ¬ (details.map Prod.fst).Perm (spec.detailFields.map Prod.fst) then
        .error .schemaMismatch
      else validatedLocalDetails details spec.detailFields

/-- The entry of an action of the local command line: nothing in it tells who
ran the command. -/
def localEntry (id : Uuid) (now : Int) (action targetType : String) (targetId : Uuid)
    (details : List (String × JsonValue)) : AuditLogEntry where
  id := id
  actorType := .localCli
  operatorId := none
  actorUsernameSnapshot := none
  authMethodType := none
  authMethodId := none
  action := action
  targetType := targetType
  targetId := targetId
  incidentHistoryId := none
  requestId := none
  details := details
  createdAt := now

/-- `record_local_cli_action`. -/
def recordLocalCliAction (id : Uuid) (now : Int) (action targetType : String) (targetId : Uuid)
    (details : List (String × JsonValue)) : Except AuditValidationError AuditLogEntry :=
  (validateLocalAction action targetType details).map (localEntry id now action targetType targetId)

/-! ## Events -/

/-- What one entry says. -/
inductive AdministrativeEvent where
  | operatorCreated (operatorId : Uuid) (role : OperatorRole)
  | keyIssued (keyId operatorId : Uuid)
  | keyRotated (keyId operatorId replacedKeyId : Uuid)
  | keyRevoked (keyId operatorId : Uuid)
  | linkCreated (linkId operatorId : Uuid)
  | linkRevoked (linkId operatorId : Uuid)
  | destinationCreated (destinationId : Uuid) (minimumSeverity : Severity)
  | destinationUpdated (destinationId : Uuid) (fromSeverity toSeverity : Severity)
      (chatIdChanged tokenFileChanged : Bool)
  | destinationEnabled (destinationId : Uuid) (minimumSeverity : Severity)
  | destinationDisabled (destinationId : Uuid) (minimumSeverity : Severity)
  | destinationDisabledByOperator (destinationId : Uuid) (minimumSeverity : Severity)
  | severityChangedByOperator (destinationId : Uuid) (fromSeverity toSeverity : Severity)
  | networkAllowed (entryId : Uuid) (cidr : String)
  | networkRevoked (entryId : Uuid) (cidr : String)
  deriving DecidableEq, Repr

namespace AdministrativeEvent

def action : AdministrativeEvent → String
  | .operatorCreated .. => "operator.created"
  | .keyIssued .. => "operator_api_key.issued"
  | .keyRotated .. => "operator_api_key.rotated"
  | .keyRevoked .. => "operator_api_key.revoked"
  | .linkCreated .. => "operator_telegram_link.created"
  | .linkRevoked .. => "operator_telegram_link.revoked"
  | .destinationCreated .. => "notification_destination.created"
  | .destinationUpdated .. => "notification_destination.updated"
  | .destinationEnabled .. => "notification_destination.enabled"
  | .destinationDisabled .. => "notification_destination.disabled"
  | .destinationDisabledByOperator .. => "notification_destination.disabled_by_operator"
  | .severityChangedByOperator .. =>
      "notification_destination.minimum_severity_changed_by_operator"
  | .networkAllowed .. => "ip_block_allowlist.created"
  | .networkRevoked .. => "ip_block_allowlist.revoked"

def targetType : AdministrativeEvent → String
  | .operatorCreated .. => "operator"
  | .keyIssued .. | .keyRotated .. | .keyRevoked .. => "operator_api_key"
  | .linkCreated .. | .linkRevoked .. => "operator_telegram_link"
  | .destinationCreated .. | .destinationUpdated .. | .destinationEnabled ..
  | .destinationDisabled .. | .destinationDisabledByOperator .. | .severityChangedByOperator .. =>
      "notification_destination"
  | .networkAllowed .. | .networkRevoked .. => "ip_block_allowlist_entry"

def targetId : AdministrativeEvent → Uuid
  | .operatorCreated operatorId _ => operatorId
  | .keyIssued keyId _ | .keyRotated keyId _ _ | .keyRevoked keyId _ => keyId
  | .linkCreated linkId _ | .linkRevoked linkId _ => linkId
  | .destinationCreated destinationId _ | .destinationUpdated destinationId _ _ _ _
  | .destinationEnabled destinationId _ | .destinationDisabled destinationId _
  | .destinationDisabledByOperator destinationId _
  | .severityChangedByOperator destinationId _ _ => destinationId
  | .networkAllowed entryId _ | .networkRevoked entryId _ => entryId

/-- `NotificationAdapterKind.TELEGRAM`. -/
def telegramAdapter : String × JsonValue := ("adapter_kind", .str "telegram")

/-- The details of an entry, as the operations of the administration give
them. -/
def details : AdministrativeEvent → List (String × JsonValue)
  | .operatorCreated _ role => [("role", .str (roleValue role))]
  | .keyIssued _ operatorId | .keyRevoked _ operatorId
  | .linkCreated _ operatorId | .linkRevoked _ operatorId =>
      [("operator_id", .str (Uuid.text operatorId))]
  | .keyRotated _ operatorId replacedKeyId =>
      [("operator_id", .str (Uuid.text operatorId)),
        ("replaced_key_id", .str (Uuid.text replacedKeyId))]
  | .destinationCreated _ severity | .destinationEnabled _ severity
  | .destinationDisabled _ severity | .destinationDisabledByOperator _ severity =>
      [telegramAdapter, ("minimum_severity", .str severity.value)]
  | .destinationUpdated _ fromSeverity toSeverity chatIdChanged tokenFileChanged =>
      [telegramAdapter, ("from_minimum_severity", .str fromSeverity.value),
        ("to_minimum_severity", .str toSeverity.value),
        ("chat_id_changed", .bool chatIdChanged), ("token_file_changed", .bool tokenFileChanged)]
  | .severityChangedByOperator _ fromSeverity toSeverity =>
      [telegramAdapter, ("from_minimum_severity", .str fromSeverity.value),
        ("to_minimum_severity", .str toSeverity.value)]
  | .networkAllowed _ cidr | .networkRevoked _ cidr => [("cidr", .str cidr)]

/-- The two actions that operators take from the dashboard. -/
def isOfOperator : AdministrativeEvent → Bool
  | .destinationDisabledByOperator .. | .severityChangedByOperator .. => true
  | _ => false

/-- The details that the event cannot vouch for by itself. -/
def Describes : AdministrativeEvent → Prop
  | .networkAllowed _ cidr | .networkRevoked _ cidr => (validateCidr cidr).isSome = true
  | _ => True

end AdministrativeEvent

/-- Record what the local command line did. -/
def tellLocally (id : Uuid) (now : Int) (event : AdministrativeEvent) :
    Except AuditValidationError AuditLogEntry :=
  recordLocalCliAction id now event.action event.targetType event.targetId event.details

/-- Record what an operator did. -/
def tellAsOperator (id : Uuid) (now : Int) (actor : OperatorPrincipal) (requestId : String)
    (event : AdministrativeEvent) : Except AuditValidationError AuditLogEntry :=
  recordOperatorAction id now actor event.action event.targetType event.targetId requestId none
    event.details

/-! ## Reading -/

/-- `OperatorRole(text)`. -/
def readRole : String → Option OperatorRole
  | "viewer" => some .viewer
  | "analyst" => some .analyst
  | "admin" => some .admin
  | _ => none

/-- `NotificationSeverity(text)`. -/
def readSeverity : String → Option Severity
  | "low" => some .low
  | "medium" => some .medium
  | "high" => some .high
  | "critical" => some .critical
  | _ => none

theorem readRole_roleValue (role : OperatorRole) : readRole (roleValue role) = some role := by
  cases role <;> rfl

theorem readSeverity_value (severity : Severity) : readSeverity severity.value = some severity := by
  cases severity <;> rfl

section Reading

variable (details : List (String × JsonValue))

/-- The text under a field of the details. -/
def detailText (field : String) : Option String :=
  match details.lookup field with
  | some (.str text) => some text
  | _ => none

def detailFlag (field : String) : Option Bool :=
  match details.lookup field with
  | some (.bool flag) => some flag
  | _ => none

def detailUuid (field : String) : Option Uuid :=
  (detailText details field).bind parseCanonicalUuid

def detailSeverity (field : String) : Option Severity :=
  (detailText details field).bind readSeverity

end Reading

/-- What the action, the target and the details of an entry say. -/
def readDetails (entry : AuditLogEntry) : Option AdministrativeEvent :=
  let target := entry.targetId
  let details := entry.details
  match entry.action with
  | "operator.created" =>
      ((detailText details "role").bind readRole).map (.operatorCreated target)
  | "operator_api_key.issued" => (detailUuid details "operator_id").map (.keyIssued target)
  | "operator_api_key.rotated" =>
      (detailUuid details "operator_id").bind fun operatorId =>
        (detailUuid details "replaced_key_id").map (.keyRotated target operatorId)
  | "operator_api_key.revoked" => (detailUuid details "operator_id").map (.keyRevoked target)
  | "operator_telegram_link.created" => (detailUuid details "operator_id").map (.linkCreated target)
  | "operator_telegram_link.revoked" => (detailUuid details "operator_id").map (.linkRevoked target)
  | "notification_destination.created" =>
      (detailSeverity details "minimum_severity").map (.destinationCreated target)
  | "notification_destination.updated" =>
      (detailSeverity details "from_minimum_severity").bind fun fromSeverity =>
        (detailSeverity details "to_minimum_severity").bind fun toSeverity =>
          (detailFlag details "chat_id_changed").bind fun chatIdChanged =>
            (detailFlag details "token_file_changed").map
              (.destinationUpdated target fromSeverity toSeverity chatIdChanged)
  | "notification_destination.enabled" =>
      (detailSeverity details "minimum_severity").map (.destinationEnabled target)
  | "notification_destination.disabled" =>
      (detailSeverity details "minimum_severity").map (.destinationDisabled target)
  | "notification_destination.disabled_by_operator" =>
      (detailSeverity details "minimum_severity").map (.destinationDisabledByOperator target)
  | "notification_destination.minimum_severity_changed_by_operator" =>
      (detailSeverity details "from_minimum_severity").bind fun fromSeverity =>
        (detailSeverity details "to_minimum_severity").map
          (.severityChangedByOperator target fromSeverity)
  | "ip_block_allowlist.created" => (detailText details "cidr").map (.networkAllowed target)
  | "ip_block_allowlist.revoked" => (detailText details "cidr").map (.networkRevoked target)
  | _ => none

/-- The actor of an event: nobody by name for the local command line, and an
operator with a web session for the dashboard. -/
def isAttributed (entry : AuditLogEntry) (event : AdministrativeEvent) : Bool :=
  if event.isOfOperator then
    entry.actorType = .operator && entry.operatorId.isSome && entry.authMethodType = some .webSession
  else entry.actorType = .localCli && entry.operatorId.isNone && entry.authMethodType.isNone

/-- What an entry says, if it is one of the administration and has the actor of
its action. -/
def readEvent (entry : AuditLogEntry) : Option AdministrativeEvent :=
  (readDetails entry).filter (isAttributed entry)

/-- An entry with the action, the target and the details of an event. -/
theorem readDetails_of_event {entry : AuditLogEntry} {event : AdministrativeEvent}
    (action : entry.action = event.action) (target : entry.targetId = event.targetId)
    (details : entry.details = event.details) : readDetails entry = some event := by
  unfold readDetails
  rw [action, target, details]
  cases event <;>
    simp [AdministrativeEvent.action, AdministrativeEvent.targetId, AdministrativeEvent.details,
      AdministrativeEvent.telegramAdapter, detailUuid, detailText, detailFlag, detailSeverity,
      List.lookup_cons, parseCanonicalUuid_text, readRole_roleValue,
      readSeverity_value]

/-! ## The text of a UUID -/

theorem hexValue_of_hexDigitValue {c : Char} {digit : Nat} (read : hexDigitValue c = some digit) :
    hexValue c = some digit ∧ c.isUpper = false := by
  unfold hexDigitValue at read
  unfold hexValue
  split at read
  next decimal =>
    rw [if_pos decimal]
    have range : 48 ≤ c.toNat ∧ c.toNat ≤ 57 := Char.isDigit_iff_toNat.mp decimal
    refine ⟨read, ?_⟩
    rw [← Bool.not_eq_true, isUpper_iff]
    omega
  next decimal =>
    rw [if_neg decimal]
    split at read
    next letter =>
      rw [if_pos letter]
      have range : 97 ≤ c.toNat ∧ c.toNat ≤ 102 := by
        simpa [Char.le_def, UInt32.le_iff_toNat_le] using letter
      refine ⟨read, ?_⟩
      rw [← Bool.not_eq_true, isUpper_iff]
      omega
    · cases read

/-- Digits that are read without a capital letter are lower-case digits. -/
theorem lowerHex_of_mapM {chars : List Char} {digits : List Nat}
    (read : chars.mapM hexDigitValue = some digits) :
    chars.any (·.isUpper) = false ∧ chars.mapM hexValue = some digits := by
  induction chars generalizing digits with
  | nil => exact ⟨rfl, read⟩
  | cons c chars ih =>
      rw [List.mapM_cons] at read
      obtain ⟨digit, first, read⟩ := Option.bind_eq_some_iff.mp read
      obtain ⟨rest, others, same⟩ := Option.bind_eq_some_iff.mp read
      obtain ⟨none_upper, read_rest⟩ := ih others
      obtain ⟨value, lower⟩ := hexValue_of_hexDigitValue first
      refine ⟨by simp [lower, none_upper], ?_⟩
      rw [List.mapM_cons, value, read_rest]
      exact same

/-- **The text of a UUID is canonical.** -/
theorem isCanonicalUuid_text (id : Uuid) : isCanonicalUuid (Uuid.text id) = true := by
  have parsed := parseCanonicalUuid_text id
  unfold parseCanonicalUuid at parsed
  split at parsed
  · cases parsed
  next digits read =>
    dsimp only at parsed
    split at parsed
    next canonical =>
      obtain ⟨none_upper, values⟩ := lowerHex_of_mapM read
      rw [isCanonicalUuid, lowerHex, none_upper, if_neg Bool.false_ne_true, values]
      simpa [spelled] using canonical
    · cases parsed

open AdministrativeEvent

/-! ## Details that are valid -/

section Valid

@[simp] theorem isValidLocalDetail_uuid (id : Uuid) :
    isValidLocalDetail (.str (Uuid.text id)) (.shared .uuid) = true :=
  isCanonicalUuid_text id

@[simp] theorem isValidDetail_severity (severity : Severity) :
    isValidDetail (.str severity.value) .notificationSeverity = true := by
  cases severity <;> rfl

@[simp] theorem isValidLocalDetail_severity (severity : Severity) :
    isValidLocalDetail (.str severity.value) (.shared .notificationSeverity) = true :=
  isValidDetail_severity severity

@[simp] theorem isValidLocalDetail_adapter :
    isValidLocalDetail (.str "telegram") (.shared .notificationAdapterKind) = true := rfl

@[simp] theorem isValidLocalDetail_role (role : OperatorRole) :
    isValidLocalDetail (.str (roleValue role)) .operatorRole = true := by
  cases role <;> rfl

@[simp] theorem isValidLocalDetail_flag (flag : Bool) :
    isValidLocalDetail (.bool flag) .boolean = true := rfl

@[simp] theorem isValidLocalDetail_network (cidr : String) :
    isValidLocalDetail (.str cidr) .ipNetwork = (validateCidr cidr).isSome := rfl

end Valid

/-- The details of an event of the local command line pass its schema. -/
theorem validateLocalAction_details {event : AdministrativeEvent}
    (own : event.isOfOperator = false) (describes : event.Describes) :
    validateLocalAction event.action event.targetType event.details = .ok event.details := by
  cases event with
  | destinationDisabledByOperator => cases own
  | severityChangedByOperator => cases own
  | networkAllowed | networkRevoked =>
      simp only [Describes] at describes
      simp [validateLocalAction, localCliRegistry, action, targetType, details, List.lookup_cons,
        validatedLocalDetails, Except.map, describes]
  | _ =>
      simp [validateLocalAction, localCliRegistry, action, targetType, details, telegramAdapter,
        List.lookup_cons, validatedLocalDetails, Except.map]

/-- An entry of the local command line describes its event. -/
theorem describes_of_validated {event : AdministrativeEvent} {validated : List (String × JsonValue)}
    (accepted : validateLocalAction event.action event.targetType event.details = .ok validated) :
    event.isOfOperator = false ∧ event.Describes := by
  cases event with
  | destinationDisabledByOperator | severityChangedByOperator =>
      simp [validateLocalAction, localCliRegistry, auditActionRegistry, action, List.lookup_cons] at accepted
  | networkAllowed entryId cidr | networkRevoked entryId cidr =>
      refine ⟨rfl, ?_⟩
      cases valid : validateCidr cidr with
      | some network => simp [Describes, valid]
      | none =>
          simp [validateLocalAction, localCliRegistry, action, targetType, details, List.lookup_cons,
            validatedLocalDetails, valid] at accepted
  | _ => exact ⟨rfl, trivial⟩

/-- **What the local command line records is read back**, and names no
operator. -/
theorem tellLocally_ok {id : Uuid} {now : Int} {event : AdministrativeEvent}
    {entry : AuditLogEntry} :
    tellLocally id now event = .ok entry ↔
      event.isOfOperator = false ∧ event.Describes ∧
        entry = localEntry id now event.action event.targetType event.targetId event.details := by
  unfold tellLocally recordLocalCliAction
  constructor
  · intro recorded
    cases accepted : validateLocalAction event.action event.targetType event.details with
    | error error =>
        rw [accepted] at recorded
        cases recorded
    | ok validated =>
        obtain ⟨own, describes⟩ := describes_of_validated accepted
        rw [validateLocalAction_details own describes] at recorded
        exact ⟨own, describes, (Except.ok.inj recorded).symm⟩
  · rintro ⟨own, describes, rfl⟩
    rw [validateLocalAction_details own describes]
    rfl

/-- The details of an event of operators pass its schema. -/
theorem validateAuditAction_details {event : AdministrativeEvent}
    (by_operator : event.isOfOperator = true) :
    validateAuditAction event.action .operator (some .webSession) event.targetType event.details =
      .ok event.details := by
  cases event with
  | destinationDisabledByOperator | severityChangedByOperator =>
      have telegram : isValidDetail (.str "telegram") .notificationAdapterKind = true := rfl
      simp [validateAuditAction, auditActionRegistry, action, targetType, details, telegramAdapter,
        List.lookup_cons, validatedDetails, Except.map, telegram]
  | _ => cases by_operator

/-- The registry lets operators tell two events, from the dashboard. -/
theorem isOfOperator_of_validated {event : AdministrativeEvent} {method : OperatorAuthMethodType}
    {validated : List (String × JsonValue)}
    (accepted : validateAuditAction event.action .operator (some method) event.targetType
      event.details = .ok validated) :
    event.isOfOperator = true ∧ method = .webSession := by
  cases event with
  | destinationDisabledByOperator | severityChangedByOperator =>
      refine ⟨rfl, ?_⟩
      cases method with
      | webSession => rfl
      | operatorApiKey | telegram =>
          simp [validateAuditAction, auditActionRegistry, action, List.lookup_cons] at accepted
  | _ => simp [validateAuditAction, auditActionRegistry, action, List.lookup_cons] at accepted

/-- The events of operators have no history of an incident. -/
theorem historyPolicy_of_operator {event : AdministrativeEvent}
    (by_operator : event.isOfOperator = true) :
    (auditActionRegistry.lookup event.action).elim .forbidden (·.incidentHistoryPolicy) =
      IncidentHistoryPolicy.forbidden := by
  cases event with
  | destinationDisabledByOperator | severityChangedByOperator =>
      simp [auditActionRegistry, action, List.lookup_cons]
  | _ => cases by_operator

/-- **What an operator does is recorded from the dashboard only**, under the
name of the operator. -/
theorem tellAsOperator_ok {id : Uuid} {now : Int} {actor : OperatorPrincipal} {requestId : String}
    {event : AdministrativeEvent} {entry : AuditLogEntry} :
    tellAsOperator id now actor requestId event = .ok entry ↔
      event.isOfOperator = true ∧ actor.authMethodType = .webSession ∧
        entry = operatorEntry id now actor event.action event.targetType event.targetId requestId
          none event.details := by
  unfold tellAsOperator recordOperatorAction
  constructor
  · intro recorded
    split at recorded
    · cases recorded
    next validated accepted =>
      obtain ⟨by_operator, session⟩ := isOfOperator_of_validated accepted
      rw [session, validateAuditAction_details by_operator] at accepted
      obtain rfl := Except.ok.inj accepted
      rw [historyPolicy_of_operator by_operator] at recorded
      exact ⟨by_operator, session, (Except.ok.inj recorded).symm⟩
  · rintro ⟨by_operator, session, rfl⟩
    rw [session, validateAuditAction_details by_operator, historyPolicy_of_operator by_operator]
    rfl

/-- **An entry that is recorded says its event.** -/
theorem readEvent_localEntry {event : AdministrativeEvent} (own : event.isOfOperator = false)
    (id : Uuid) (now : Int) :
    readEvent (localEntry id now event.action event.targetType event.targetId event.details) =
      some event := by
  have attributed : isAttributed (localEntry id now event.action event.targetType event.targetId
      event.details) event = true := by
    simp [isAttributed, own, localEntry]
  rw [readEvent, readDetails_of_event rfl rfl rfl, Option.filter_some, if_pos attributed]

theorem readEvent_operatorEntry {event : AdministrativeEvent} {actor : OperatorPrincipal}
    (by_operator : event.isOfOperator = true) (session : actor.authMethodType = .webSession)
    (id : Uuid) (now : Int) (requestId : String) :
    readEvent (operatorEntry id now actor event.action event.targetType event.targetId requestId
      none event.details) = some event := by
  have attributed : isAttributed (operatorEntry id now actor event.action event.targetType
      event.targetId requestId none event.details) event = true := by
    simp [isAttributed, by_operator, operatorEntry, session]
  rw [readEvent, readDetails_of_event rfl rfl rfl, Option.filter_some, if_pos attributed]

end WolandGuard.Administration
