import WolandGuard.Administration.Audit
import WolandGuard.Incidents.Comments
import WolandGuard.Sessions.Effects
import WolandGuard.Telegram.TokenFile

/-!
# The operations of the administration

`application/operators.py`, `application/telegram_identity.py`,
`application/notification_destinations.py` and the allowlist of
`application/ip_blocks.py`, each as one transaction of the local command line
that commits or leaves the tables as they are. Two operations on destinations
are also open to operators from the dashboard.

The keys and sessions are those of the transactions in `Sessions`, which are run
here by themselves.
-/

set_option autoImplicit false

namespace WolandGuard.Administration

open Detection (Severity)
open Foundations Incidents IpBlocks Outbox Sessions Telegram

/-! ## Tables -/

/-- A row of `notification_destinations`, with the CHECK constraint on its
kind. -/
structure DestinationRow extends NotificationDestination where
  createdAt : Int
  updatedAt : Int
  adapterKind_allowed : adapterKind = "telegram"
  deriving DecidableEq

structure TelegramDestinationConfig where
  destinationId : Uuid
  chatId : Int
  tokenFileName : String
  createdAt : Int
  updatedAt : Int
  deriving DecidableEq, Repr

/-- `_validate_chat_id`. -/
def isChatId (value : Int) : Bool := value ≠ 0 && -(2 ^ 52 - 1) ≤ value && value ≤ 2 ^ 52 - 1

/-- The CHECK constraints of `telegram_destination_configs`. -/
structure TelegramDestinationConfig.Checked (config : TelegramDestinationConfig) : Prop where
  chatIdSafeRange : isChatId config.chatId = true
  tokenFileNameSafe : validTokenFileName config.tokenFileName = true
  timestampsOrdered : config.createdAt ≤ config.updatedAt

instance (config : TelegramDestinationConfig) : Decidable config.Checked :=
  decidable_of_iff
    (isChatId config.chatId = true ∧ validTokenFileName config.tokenFileName = true ∧
      config.createdAt ≤ config.updatedAt)
    ⟨fun ⟨chat, name, ordered⟩ => ⟨chat, name, ordered⟩,
      fun checked => ⟨checked.1, checked.2, checked.3⟩⟩

/-- The two columns of `uq_telegram_destination_configs_chat_token_file`. -/
def TelegramDestinationConfig.route (config : TelegramDestinationConfig) : Int × String :=
  (config.chatId, config.tokenFileName)

structure AdministrationTables where
  identity : IdentityTables
  links : List OperatorTelegramLink
  destinations : List DestinationRow
  configs : List TelegramDestinationConfig
  allowlist : List IpBlockAllowlistEntry

/-- Why an operation is rolled back. -/
inductive AdministrationError where
  | refused (message : String)
  | audit (error : AuditValidationError)
  | database
  deriving DecidableEq, Repr

namespace AdministrationTables

/-- The tables of a new installation. -/
def installed : AdministrationTables where
  identity := .installed
  links := []
  destinations := []
  configs := []
  allowlist := []

variable (tables : AdministrationTables)

def auditLog : List AuditLogEntry := tables.identity.auditLog

def directory : Directory := ⟨tables.identity.operators, tables.links⟩

def destination? (destinationId : Uuid) : Option DestinationRow :=
  rowOf (·.id) tables.destinations destinationId

def config? (destinationId : Uuid) : Option TelegramDestinationConfig :=
  rowOf TelegramDestinationConfig.destinationId tables.configs destinationId

/-- Append an entry to the audit log. -/
def log (entry : AuditLogEntry) : AdministrationTables :=
  { tables with identity := { tables.identity with auditLog := tables.identity.auditLog ++ [entry] } }

/-- Change the row of a destination. -/
def updateDestination (destinationId : Uuid) (change : DestinationRow → DestinationRow) :
    AdministrationTables :=
  { tables with destinations := updateWhere (·.id = destinationId) change tables.destinations }

/-- Change the configuration of a destination. -/
def updateConfig (destinationId : Uuid)
    (change : TelegramDestinationConfig → TelegramDestinationConfig) : AdministrationTables :=
  { tables with configs := updateWhere (·.destinationId = destinationId) change tables.configs }

/-- The end of an operation: its entry, and the commit. -/
def tell (entry : Except AuditValidationError AuditLogEntry) :
    Except AdministrationError AdministrationTables :=
  match entry with
  | .error error => .error (.audit error)
  | .ok entry => .ok (tables.log entry)

end AdministrationTables

/-- What every operation is given: the id of its entry and the time. -/
structure Moment where
  auditId : Uuid
  now : Int
  deriving DecidableEq, Repr

section Operations

variable (unicode : UnicodeData) (moment : Moment) (tables : AdministrationTables)

/-! ## Operators and keys -/

/-- `_USERNAME_PATTERN`. -/
def isUsername (username : String) : Bool :=
  3 ≤ username.toList.length && username.toList.length ≤ 64 &&
    username.toList.head?.any (fun c => 'a' ≤ c && c ≤ 'z') &&
    username.toList.all fun c =>
      ('a' ≤ c && c ≤ 'z') || c.isDigit || c = '_' || c = '.' || c = '-'

/-- `create_operator`. -/
def createOperator (operatorId : Uuid) (username : String) (role : OperatorRole) :
    Except AdministrationError AdministrationTables :=
  if !isUsername username then
    .error (.refused "username must match ^[a-z][a-z0-9_.-]\x7b2,63\x7d$")
  else if tables.identity.operators.any fun operator =>
      operator.id = operatorId || operator.username == username then .error .database
  else
    let operator : Operator := ⟨operatorId, username, role, true⟩
    { tables with
      identity := { tables.identity with
        operators := tables.identity.operators ++ [operator] } }.tell
      (tellLocally moment.auditId moment.now (.operatorCreated operatorId role))

/-- `_normalize_label` accepts the label. -/
def isKeyLabel (label : Option String) : Bool :=
  label.all fun text =>
    Incidents.strip unicode text ≠ "" && (Incidents.strip unicode text).length ≤ 100

def labelError : AdministrationError := .refused "key label must contain 1 to 100 characters"

/-- The operator of a key, as an entry names it. -/
def keyOwner (identity : IdentityTables) (keyId : Uuid) : Option Uuid :=
  (identity.key? keyId).map OperatorApiKey.operatorId

/-- The end of an operation on a key. -/
def tellKey (identity : IdentityTables) (keyId : Uuid) (event : Uuid → AdministrativeEvent) :
    Except AdministrationError AdministrationTables :=
  match keyOwner identity keyId with
  | none => .error .database
  | some operatorId =>
      { tables with identity := identity }.tell
        (tellLocally moment.auditId moment.now (event operatorId))

/-- `issue_operator_api_key`. -/
def issueOperatorApiKey (label : Option String) (request : IssueRequest) :
    Except AdministrationError AdministrationTables :=
  if !isKeyLabel unicode label && !request.expiresAt.any (· ≤ request.now) then .error labelError
  else
    match (Sessions.issueOperatorApiKey request).alone tables.identity with
    | (identity, some (.keyIssued keyId)) => tellKey moment tables identity keyId (.keyIssued keyId)
    | (_, some (.refused message)) => .error (.refused message)
    | _ => .error .database

/-- `rotate_operator_api_key`. Its label is read after the checks that refuse
the rotation. -/
def rotateOperatorApiKey (label : Option String) (request : RotateRequest) :
    Except AdministrationError AdministrationTables :=
  match (Sessions.rotateOperatorApiKey request).alone tables.identity with
  | (_, some (.refused message)) => .error (.refused message)
  | (identity, answer) =>
      if !isKeyLabel unicode label then .error labelError
      else
        match answer with
        | some (.rotated keyId) =>
            tellKey moment tables identity keyId (.keyRotated keyId · request.keyId)
        | _ => .error .database

/-- `revoke_operator_api_key`. A key that is revoked already leaves no entry. -/
def revokeOperatorApiKey (request : RevokeRequest) :
    Except AdministrationError AdministrationTables :=
  match (Sessions.revokeOperatorApiKey request).alone tables.identity with
  | (identity, some (.revoked true)) =>
      tellKey moment tables identity request.keyId (.keyRevoked request.keyId)
  | (_, some (.revoked false)) => .ok tables
  | (_, some (.refused message)) => .error (.refused message)
  | _ => .error .database

/-! ## Telegram links -/

def identityErrorText : TelegramIdentityError → String
  | .invalidUserId => "telegram user id must be a positive integer"
  | .operatorDoesNotExist => "operator does not exist"
  | .operatorInactive => "operator is inactive"
  | .operatorAlreadyLinked => "operator already has an active telegram link"
  | .accountAlreadyLinked => "telegram account is already linked"
  | .linkDoesNotExist => "telegram link does not exist"
  | .linkAlreadyRevoked => "telegram link is already revoked"

/-- `link_telegram_user`. -/
def linkTelegramUser (linkId operatorId : Uuid) (telegramUserId : Int) :
    Except AdministrationError AdministrationTables :=
  match tables.directory.linkTelegramUser linkId moment.now operatorId telegramUserId with
  | .error error => .error (.refused (identityErrorText error))
  | .ok directory =>
      if (rowOf OperatorTelegramLink.id tables.links linkId).isSome then .error .database
      else
        { tables with links := directory.links }.tell
          (tellLocally moment.auditId moment.now (.linkCreated linkId operatorId))

/-- `revoke_telegram_link`. -/
def revokeTelegramLink (linkId : Uuid) : Except AdministrationError AdministrationTables :=
  match tables.directory.revokeTelegramLink moment.now linkId,
      rowOf OperatorTelegramLink.id tables.links linkId with
  | .ok directory, some link =>
      { tables with links := directory.links }.tell
        (tellLocally moment.auditId moment.now (.linkRevoked linkId link.operatorId))
  | .error error, _ => .error (.refused (identityErrorText error))
  | _, none => .error .database

/-! ## Notification destinations -/

structure DestinationSummary where
  destinationId : Uuid
  adapterKind : String
  enabled : Bool
  minimumSeverity : Severity
  configured : Bool
  stagingFileReady : Bool
  createdAt : Int
  updatedAt : Int
  deriving DecidableEq, Repr

/-- `_summary`. -/
def summary (destination : DestinationRow) (config : Option TelegramDestinationConfig)
    (ready : String → Bool) : DestinationSummary where
  destinationId := destination.id
  adapterKind := destination.adapterKind
  enabled := destination.enabled
  minimumSeverity := destination.minimumSeverity
  configured := config.isSome
  stagingFileReady := config.any fun row => ready row.tokenFileName
  createdAt := destination.createdAt
  updatedAt := destination.updatedAt

/-- What an operation on a destination commits and answers. -/
abbrev DestinationOutcome := Except AdministrationError (AdministrationTables × DestinationSummary)

/-- `_load_pair`. -/
def loadPair (destinationId : Uuid) :
    Except AdministrationError (DestinationRow × Option TelegramDestinationConfig) :=
  match tables.destination? destinationId with
  | none => .error (.refused "Notification destination was not found.")
  | some destination => .ok (destination, tables.config? destinationId)

def tokenFileNameError : AdministrationError := .refused "Telegram token file name is invalid."

def chatIdError : AdministrationError := .refused "Telegram chat identifier is invalid."

def notReadyError : AdministrationError := .refused "Telegram destination staging file is not ready."

def notConfiguredError : AdministrationError := .refused "Telegram destination is not configured."

/-- `create_telegram_destination`. -/
def createTelegramDestination (destinationId : Uuid) (chatId : Int) (tokenFileName : String)
    (minimumSeverity : Severity) (ready : String → Bool) : DestinationOutcome :=
  if !isChatId chatId then .error chatIdError
  else if !validTokenFileName tokenFileName then .error tokenFileNameError
  else if (tables.destination? destinationId).isSome ∨ (tables.config? destinationId).isSome ∨
      tables.configs.any (·.route = (chatId, tokenFileName)) then .error .database
  else
    let destination : DestinationRow :=
      { id := destinationId
        adapterKind := "telegram"
        enabled := false
        minimumSeverity := minimumSeverity
        createdAt := moment.now
        updatedAt := moment.now
        adapterKind_allowed := rfl }
    let config : TelegramDestinationConfig :=
      ⟨destinationId, chatId, tokenFileName, moment.now, moment.now⟩
    ({ tables with
      destinations := tables.destinations ++ [destination]
      configs := tables.configs ++ [config] }.tell
        (tellLocally moment.auditId moment.now
          (.destinationCreated destinationId minimumSeverity))).map
      (·, summary destination config ready)

/-- `set_notification_destination_enabled`. -/
def setNotificationDestinationEnabled (destinationId : Uuid) (enabled : Bool)
    (ready : String → Bool) : DestinationOutcome :=
  match loadPair tables destinationId with
  | .error error => .error error
  | .ok (destination, config) =>
      if enabled && !config.any (fun row => ready row.tokenFileName) then .error notReadyError
      else if destination.enabled = enabled then .ok (tables, summary destination config ready)
      else
        let change : DestinationRow → DestinationRow := fun row =>
          { row with enabled := enabled, updatedAt := moment.now }
        let event : AdministrativeEvent :=
          if enabled then .destinationEnabled destinationId destination.minimumSeverity
          else .destinationDisabled destinationId destination.minimumSeverity
        ((tables.updateDestination destinationId change).tell
          (tellLocally moment.auditId moment.now event)).map
          (·, summary (change destination) config ready)

/-- What `update_telegram_destination` is asked to change. -/
structure DestinationChanges where
  chatId : Option Int
  tokenFileName : Option String
  minimumSeverity : Option Severity
  deriving DecidableEq, Repr

/-- `update_telegram_destination`. -/
def updateTelegramDestination (destinationId : Uuid) (changes : DestinationChanges)
    (ready : String → Bool) : DestinationOutcome :=
  if changes = ⟨none, none, none⟩ then .error (.refused "No destination update was requested.")
  else
    match loadPair tables destinationId with
    | .error error => .error error
    | .ok (_, none) => .error notConfiguredError
    | .ok (destination, some config) =>
        let proposedChatId := changes.chatId.getD config.chatId
        let proposedName := changes.tokenFileName.getD config.tokenFileName
        let proposedSeverity := changes.minimumSeverity.getD destination.minimumSeverity
        if destination.adapterKind ≠ "telegram" then .error notConfiguredError
        else if changes.tokenFileName.any (!validTokenFileName ·) then .error tokenFileNameError
        else if !isChatId proposedChatId then .error chatIdError
        else if destination.enabled && !ready proposedName then .error notReadyError
        else
          let configChange : TelegramDestinationConfig → TelegramDestinationConfig := fun row =>
            { row with
              chatId := proposedChatId, tokenFileName := proposedName, updatedAt := moment.now }
          let change : DestinationRow → DestinationRow := fun row =>
            { row with minimumSeverity := proposedSeverity, updatedAt := moment.now }
          -- the constraints of the configurations, at the flush
          if ¬ (configChange config).Checked ∨ tables.configs.any fun other =>
              other.destinationId ≠ destinationId && other.route = (proposedChatId, proposedName) then
            .error .database
          else
            (((tables.updateConfig destinationId configChange).updateDestination destinationId
              change).tell
                (tellLocally moment.auditId moment.now
                  (.destinationUpdated destinationId destination.minimumSeverity proposedSeverity
                    (config.chatId != proposedChatId)
                    (config.tokenFileName != proposedName)))).map
              (·, summary (change destination) (configChange config) ready)

/-- `disable_notification_destination_by_operator`. -/
def disableNotificationDestinationByOperator (actor : OperatorPrincipal) (destinationId : Uuid)
    (requestId : String) : DestinationOutcome :=
  match loadPair tables destinationId with
  | .error error => .error error
  | .ok (destination, config) =>
      if destination.adapterKind ≠ "telegram" then .error notConfiguredError
      else if destination.enabled = false then
        .ok (tables, summary destination config fun _ => false)
      else
        let change : DestinationRow → DestinationRow := fun row =>
          { row with enabled := false, updatedAt := moment.now }
        ((tables.updateDestination destinationId change).tell
          (tellAsOperator moment.auditId moment.now actor requestId
            (.destinationDisabledByOperator destinationId destination.minimumSeverity))).map
          (·, summary (change destination) config fun _ => false)

/-- `update_notification_destination_severity_by_operator`. -/
def updateNotificationDestinationSeverityByOperator (actor : OperatorPrincipal)
    (destinationId : Uuid) (minimumSeverity : Severity) (requestId : String) : DestinationOutcome :=
  match loadPair tables destinationId with
  | .error error => .error error
  | .ok (destination, config) =>
      if destination.adapterKind ≠ "telegram" then .error notConfiguredError
      else if destination.minimumSeverity = minimumSeverity then
        .ok (tables, summary destination config fun _ => false)
      else
        let change : DestinationRow → DestinationRow := fun row =>
          { row with minimumSeverity := minimumSeverity, updatedAt := moment.now }
        ((tables.updateDestination destinationId change).tell
          (tellAsOperator moment.auditId moment.now actor requestId
            (.severityChangedByOperator destinationId destination.minimumSeverity
              minimumSeverity))).map
          (·, summary (change destination) config fun _ => false)

/-! ## The allowlist -/

/-- `add_allowlist_entry`. -/
def addAllowlistEntry (request : AllowlistRequest) :
    Except AdministrationError AdministrationTables :=
  match IpBlocks.addAllowlistEntry request tables.allowlist with
  | .error message => .error (.refused message)
  | .ok allowlist =>
      if (rowOf IpBlockAllowlistEntry.id tables.allowlist request.entryId).isSome then
        .error .database
      else
        { tables with allowlist := allowlist }.tell
          (tellLocally moment.auditId moment.now (.networkAllowed request.entryId request.cidr))

/-- `revoke_allowlist_entry`, where `cidrText` is how the database spells a
network that it has stored. -/
def revokeAllowlistEntry (cidrText : IpNetwork → String) (entryId : Uuid) :
    Except AdministrationError AdministrationTables :=
  match IpBlocks.revokeAllowlistEntry entryId moment.now tables.allowlist,
      rowOf IpBlockAllowlistEntry.id tables.allowlist entryId with
  | .ok allowlist, some entry =>
      { tables with allowlist := allowlist }.tell
        (tellLocally moment.auditId moment.now (.networkRevoked entryId (cidrText entry.cidr)))
  | .error message, _ => .error (.refused message)
  | _, none => .error .database

end Operations

end WolandGuard.Administration
