import WolandGuard.Dashboard.Contexts
import WolandGuard.Dashboard.Search
import WolandGuard.Foundations.Pagination
import WolandGuard.Incidents.Audit
import WolandGuard.Incidents.Comments
import WolandGuard.Telegram.Formatting

/-!
# List queries

The list functions of `incident_queries.py`, `audit_queries.py` and
`server_queries.py`, each as the `SELECT` that it sends: the tables and joins, the
conditions of the filters and of the cursor, the order and the limit.
-/

set_option autoImplicit false

namespace WolandGuard.Dashboard

open Foundations JsonValue Incidents
open Detection (Severity)
open Telegram (Server)

/-! ## What the queries read -/

/-- A row of `servers`. -/
structure StoredServer extends Server where
  description : Option String
  createdAt : Int
  updatedAt : Int

structure QueriedTables where
  servers : List StoredServer
  events : List Event
  incidents : List Incident
  incidentEvents : List IncidentEvent
  history : List IncidentHistoryEntry
  comments : List IncidentComment
  auditLog : List AuditLogEntry

/-- What the database does with texts: `lower()`, and the order of its collation,
in which different texts differ. -/
structure TextFunctions where
  lower : String → String
  order : LinearOrder String

/-- Encoder and decoder of the cursors of a context. -/
structure CursorCodec (χ κ : Type) where
  encode : χ → κ → String
  decode : χ → String → Option κ

/-- The keys `(created_at, id)` and `(linked_at, event_id)`. -/
abbrev InstantKeys := Int × Uuid

/-- The keys `(lower(name), id)`. -/
abbrev NameKeys := String × Uuid

/-- `left < right`: the first keys differ that way, or they are equal and the ids
differ that way. -/
def instantLt (left right : InstantKeys) : Bool :=
  left.1 < right.1 || (left.1 == right.1 && left.2 < right.2)

def nameLt (text : TextFunctions) (left right : NameKeys) : Bool :=
  (text.order.toDecidableLT left.1 right.1).decide || (left.1 == right.1 && left.2 < right.2)

def nameLe (text : TextFunctions) (left right : NameKeys) : Bool :=
  nameLt text left right || left == right

/-- `left JOIN right ON …`. -/
def innerJoin {α β : Type} (on : α → β → Bool) (left : List α) (right : List β) : List (α × β) :=
  left.flatMap fun row => (right.filter (on row)).map (row, ·)

/-- The rows that meet the condition of the cursor, as a page. A cursor that does
not decode raises. -/
def selectPage {ρ ι κ : Type} (decode : String → Option κ) (encode : κ → String) (keys : ρ → κ)
    (before : ρ → ρ → Bool) (after : κ → ρ → Bool) (item : ρ → ι) (limit : Nat) (rows : List ρ)
    (cursor : Option String) : Option (Page ι String) :=
  match cursor with
  | none => some (keysetPage before limit (fun row => encode (keys row)) item rows)
  | some value =>
      match decode value with
      | none => none
      | some start =>
          some (keysetPage before limit (fun row => encode (keys row)) item
            (rows.filter fun row => after start row))

/-! ## Incidents over REST -/

structure IncidentFilters where
  statuses : List String
  severities : List String
  serverId : Option Uuid
  ruleKey : Option String
  createdFrom : Option Int
  createdTo : Option Int

namespace IncidentFilters

def normalized (filters : IncidentFilters) : IncidentFilters :=
  { filters with
    statuses := sortedSet filters.statuses
    severities := sortedSet filters.severities }

def hash (filters : IncidentFilters) : String :=
  normalizedFilterHash [
    ("created_from", ofInstant filters.normalized.createdFrom),
    ("created_to", ofInstant filters.normalized.createdTo),
    ("rule_key", ofOption filters.normalized.ruleKey),
    ("server_id", ofUuid filters.normalized.serverId),
    ("severities", .arr (filters.normalized.severities.map .str)),
    ("statuses", .arr (filters.normalized.statuses.map .str))]

/-- The conditions of the filters. -/
def conditions (filters : IncidentFilters) (row : Incident) : Bool :=
  (filters.statuses.isEmpty || filters.statuses.contains row.status.value) &&
    (filters.severities.isEmpty || filters.severities.contains row.severity.value) &&
    filters.serverId.all (row.serverId == ·) && filters.ruleKey.all (row.ruleKey == ·) &&
    filters.createdFrom.all (· ≤ row.createdAt) && filters.createdTo.all (row.createdAt < ·)

end IncidentFilters

/-- `incident_summary`. -/
structure IncidentSummary where
  createdAt : Int
  eventCount : Nat
  firstSeenAt : Int
  id : Uuid
  lastSeenAt : Int
  ruleKey : String
  ruleVersion : Nat
  serverId : Uuid
  severity : Severity
  status : IncidentStatus
  title : String
  updatedAt : Int
  version : Nat

def incidentSummary (incident : Incident) : IncidentSummary where
  createdAt := incident.createdAt
  eventCount := incident.eventCount
  firstSeenAt := incident.firstSeenAt
  id := incident.id
  lastSeenAt := incident.lastSeenAt
  ruleKey := incident.ruleKey
  ruleVersion := incident.ruleVersion
  serverId := incident.serverId
  severity := incident.severity
  status := incident.status
  title := incident.title
  updatedAt := incident.updatedAt
  version := incident.lockVersion

def incidentKeys (incident : Incident) : InstantKeys := (incident.createdAt, incident.id)

/-- `list_incidents`: newest first. -/
def listIncidents (cursors : CursorCodec String InstantKeys) (filters : IncidentFilters)
    (limit : Nat) (tables : QueriedTables) (cursor : Option String) :
    Option (Page IncidentSummary String) :=
  let filterHash := filters.normalized.hash
  selectPage (cursors.decode filterHash) (cursors.encode filterHash) incidentKeys
    (fun first second => keyLe (incidentKeys second) (incidentKeys first))
    (fun start row => instantLt (incidentKeys row) start) incidentSummary limit
    (tables.incidents.filter filters.normalized.conditions) cursor

/-! ## The audit log over REST -/

structure AuditFilters where
  operatorId : Option Uuid
  action : Option String
  targetType : Option String
  targetId : Option Uuid
  createdFrom : Option Int
  createdTo : Option Int

namespace AuditFilters

def hash (filters : AuditFilters) : String :=
  normalizedFilterHash [
    ("action", ofOption filters.action),
    ("created_from", ofInstant filters.createdFrom),
    ("created_to", ofInstant filters.createdTo),
    ("operator_id", ofUuid filters.operatorId),
    ("target_id", ofUuid filters.targetId),
    ("target_type", ofOption filters.targetType)]

/-- The conditions of the filters; a missing operator equals none. -/
def conditions (filters : AuditFilters) (row : AuditLogEntry) : Bool :=
  filters.operatorId.all (row.operatorId == some ·) && filters.action.all (row.action == ·) &&
    filters.targetType.all (row.targetType == ·) && filters.targetId.all (row.targetId == ·) &&
    filters.createdFrom.all (· ≤ row.createdAt) && filters.createdTo.all (row.createdAt < ·)

end AuditFilters

/-- `audit_summary`. -/
structure AuditSummary where
  action : String
  actorType : AuditActorType
  actorUsername : Option String
  createdAt : Int
  details : List (String × JsonValue)
  id : Uuid
  operatorId : Option Uuid
  requestId : Option String
  targetId : Uuid
  targetType : String

def auditSummary (entry : AuditLogEntry) : AuditSummary where
  action := entry.action
  actorType := entry.actorType
  actorUsername := entry.actorUsernameSnapshot
  createdAt := entry.createdAt
  details := entry.details
  id := entry.id
  operatorId := entry.operatorId
  requestId := entry.requestId
  targetId := entry.targetId
  targetType := entry.targetType

def auditKeys (entry : AuditLogEntry) : InstantKeys := (entry.createdAt, entry.id)

/-- `list_audit_entries`: newest first. -/
def listAuditEntries (cursors : CursorCodec String InstantKeys) (filters : AuditFilters)
    (limit : Nat) (tables : QueriedTables) (cursor : Option String) :
    Option (Page AuditSummary String) :=
  selectPage (cursors.decode filters.hash) (cursors.encode filters.hash) auditKeys
    (fun first second => keyLe (auditKeys second) (auditKeys first))
    (fun start row => instantLt (auditKeys row) start) auditSummary limit
    (tables.auditLog.filter filters.conditions) cursor

/-! ## Dashboard lists -/

/-- A Dashboard list checks its context first, and takes the page size from it. -/
def dashboardPage {ρ ι κ : Type} (cursors : CursorCodec DashboardCursorContext κ)
    (context : DashboardCursorContext) (keys : ρ → κ) (before : ρ → ρ → Bool)
    (after : κ → ρ → Bool) (item : ρ → ι) (rows : List ρ) (cursor : Option String) :
    Option (Page ι String) :=
  if context.validate.isSome then none
  else
    selectPage (cursors.decode context) (cursors.encode context) keys before after item
      context.pageSize rows cursor

/-! ### Incidents -/

inductive IncidentDashboardSort where
  | createdAsc
  | createdDesc
  deriving DecidableEq, Repr

def IncidentDashboardSort.value : IncidentDashboardSort → String
  | .createdAsc => "created_asc"
  | .createdDesc => "created_desc"

structure IncidentDashboardFilters where
  statuses : List String
  severities : List String
  serverId : Option Uuid
  ruleKey : Option String
  incidentId : Option Uuid
  search : Option String

namespace IncidentDashboardFilters

def normalized (filters : IncidentDashboardFilters) : IncidentDashboardFilters :=
  { filters with
    statuses := sortedSet filters.statuses
    severities := sortedSet filters.severities }

def cursorFilters (filters : IncidentDashboardFilters) : List (String × JsonValue) :=
  [("id", ofUuid filters.normalized.incidentId),
    ("rule_key", ofOption filters.normalized.ruleKey),
    ("server_id", ofUuid filters.normalized.serverId),
    ("severities", .arr (filters.normalized.severities.map .str)),
    ("statuses", .arr (filters.normalized.statuses.map .str))]

/-- `_dashboard_incident_conditions`. -/
def conditions (text : TextFunctions) (filters : IncidentDashboardFilters) (row : Incident) :
    Bool :=
  (filters.statuses.isEmpty || filters.statuses.contains row.status.value) &&
    (filters.severities.isEmpty || filters.severities.contains row.severity.value) &&
    filters.serverId.all (row.serverId == ·) && filters.ruleKey.all (row.ruleKey == ·) &&
    filters.incidentId.all (row.id == ·) &&
    filters.search.all fun search =>
      let parameter := (text.lower (literalPrefixPattern search)).toList
      like parameter (text.lower row.ruleKey).toList ||
        like parameter (text.lower row.title).toList ||
        row.titleEn.any fun title => like parameter (text.lower title).toList

end IncidentDashboardFilters

structure DashboardIncidentSummary where
  id : Uuid
  serverId : Uuid
  serverName : String
  ruleKey : String
  ruleVersion : Nat
  severity : Severity
  status : IncidentStatus
  title : String
  titleEn : Option String
  firstSeenAt : Int
  lastSeenAt : Int
  eventCount : Nat
  version : Nat
  createdAt : Int
  updatedAt : Int

/-- `_dashboard_incident_summary` of a row of `_dashboard_incident_statement`. -/
def dashboardIncidentSummary (row : Incident × StoredServer) : DashboardIncidentSummary where
  id := row.1.id
  serverId := row.1.serverId
  serverName := row.2.name
  ruleKey := row.1.ruleKey
  ruleVersion := row.1.ruleVersion
  severity := row.1.severity
  status := row.1.status
  title := row.1.title
  titleEn := row.1.titleEn
  firstSeenAt := row.1.firstSeenAt
  lastSeenAt := row.1.lastSeenAt
  eventCount := row.1.eventCount
  version := row.1.lockVersion
  createdAt := row.1.createdAt
  updatedAt := row.1.updatedAt

/-- `_dashboard_incident_statement`. -/
def dashboardIncidentRows (tables : QueriedTables) : List (Incident × StoredServer) :=
  innerJoin (fun incident server => server.id == incident.serverId) tables.incidents tables.servers

/-- The order and the condition of the cursor of a sort by `created_at`. -/
def createdBefore (sort : IncidentDashboardSort) (first second : InstantKeys) : Bool :=
  match sort with
  | .createdAsc => keyLe first second
  | .createdDesc => keyLe second first

def createdAfter (sort : IncidentDashboardSort) (start keys : InstantKeys) : Bool :=
  match sort with
  | .createdAsc => instantLt start keys
  | .createdDesc => instantLt keys start

def incidentsContext (filters : IncidentDashboardFilters) (sort : IncidentDashboardSort)
    (pageSize : Nat) : DashboardCursorContext where
  listType := .incidents
  filters := filters.normalized.cursorFilters
  search := filters.normalized.search
  sort := sort.value
  pageSize := pageSize

/-- `list_dashboard_incidents`. -/
def listDashboardIncidents (text : TextFunctions)
    (cursors : CursorCodec DashboardCursorContext InstantKeys) (filters : IncidentDashboardFilters)
    (sort : IncidentDashboardSort) (pageSize : Nat) (tables : QueriedTables)
    (cursor : Option String) : Option (Page DashboardIncidentSummary String) :=
  dashboardPage cursors (incidentsContext filters sort pageSize) (fun row => incidentKeys row.1)
    (fun first second => createdBefore sort (incidentKeys first.1) (incidentKeys second.1))
    (fun start row => createdAfter sort start (incidentKeys row.1)) dashboardIncidentSummary
    ((dashboardIncidentRows tables).filter fun row => filters.normalized.conditions text row.1)
    cursor

/-! ### Audit entries -/

/-- `AuditDashboardSort` has the values of `IncidentDashboardSort`. -/
abbrev AuditDashboardSort := IncidentDashboardSort

structure AuditDashboardFilters where
  actorType : Option String
  action : Option String
  targetType : Option String
  targetId : Option Uuid
  createdFrom : Option Int
  createdTo : Option Int

namespace AuditDashboardFilters

def cursorFilters (filters : AuditDashboardFilters) : List (String × JsonValue) :=
  [("action", ofOption filters.action),
    ("actor_type", ofOption filters.actorType),
    ("created_from", ofInstant filters.createdFrom),
    ("created_to", ofInstant filters.createdTo),
    ("target_id", ofUuid filters.targetId),
    ("target_type", ofOption filters.targetType)]

def actorTypeValue : AuditActorType → String
  | .operator => "operator"
  | .localCli => "local_cli"

def conditions (filters : AuditDashboardFilters) (row : AuditLogEntry) : Bool :=
  filters.actorType.all (actorTypeValue row.actorType == ·) &&
    filters.action.all (row.action == ·) && filters.targetType.all (row.targetType == ·) &&
    filters.targetId.all (row.targetId == ·) && filters.createdFrom.all (· ≤ row.createdAt) &&
    filters.createdTo.all (row.createdAt < ·)

end AuditDashboardFilters

structure AuditDashboardEntry where
  id : Uuid
  actorType : AuditActorType
  operatorId : Option Uuid
  actorUsername : Option String
  authMethodType : Option OperatorAuthMethodType
  action : String
  targetType : String
  targetId : Uuid
  requestId : Option String
  details : List (String × JsonValue)
  createdAt : Int

def auditDashboardEntry (row : AuditLogEntry) : AuditDashboardEntry where
  id := row.id
  actorType := row.actorType
  operatorId := row.operatorId
  actorUsername := row.actorUsernameSnapshot
  authMethodType := row.authMethodType
  action := row.action
  targetType := row.targetType
  targetId := row.targetId
  requestId := row.requestId
  details := row.details
  createdAt := row.createdAt

def auditContext (filters : AuditDashboardFilters) (sort : AuditDashboardSort) (pageSize : Nat) :
    DashboardCursorContext where
  listType := .audit
  filters := filters.cursorFilters
  search := none
  sort := sort.value
  pageSize := pageSize

/-- `list_dashboard_audit_entries`. -/
def listDashboardAuditEntries (cursors : CursorCodec DashboardCursorContext InstantKeys)
    (filters : AuditDashboardFilters) (sort : AuditDashboardSort) (pageSize : Nat)
    (tables : QueriedTables) (cursor : Option String) : Option (Page AuditDashboardEntry String) :=
  dashboardPage cursors (auditContext filters sort pageSize) auditKeys
    (fun first second => createdBefore sort (auditKeys first) (auditKeys second))
    (fun start row => createdAfter sort start (auditKeys row)) auditDashboardEntry
    (tables.auditLog.filter filters.conditions) cursor

/-! ### Status history -/

/-- The context of a list of one incident. -/
def childContext (listType : DashboardListType) (sort : String) (incidentId : Uuid)
    (pageSize : Nat) : DashboardCursorContext where
  listType := listType
  filters := [("incident_id", .str incidentId.text)]
  search := none
  sort := sort
  pageSize := pageSize

structure DashboardIncidentHistory where
  id : Uuid
  version : Nat
  entryType : HistoryEntryType
  fromStatus : Option IncidentStatus
  toStatus : IncidentStatus
  reason : Option String
  operatorUsername : Option String
  createdAt : Int

def dashboardIncidentHistory (row : IncidentHistoryEntry) : DashboardIncidentHistory where
  id := row.id
  version := row.version
  entryType := row.entryType
  fromStatus := row.fromStatus
  toStatus := row.toStatus
  reason := row.reason
  operatorUsername := row.actorUsernameSnapshot
  createdAt := row.createdAt

/-- `list_dashboard_incident_history`: by version. -/
def listDashboardIncidentHistory (cursors : CursorCodec DashboardCursorContext Nat)
    (incidentId : Uuid) (pageSize : Nat) (tables : QueriedTables) (cursor : Option String) :
    Option (Page DashboardIncidentHistory String) :=
  dashboardPage cursors (childContext .incidentHistory "version_asc" incidentId pageSize)
    IncidentHistoryEntry.version (fun first second => first.version ≤ second.version)
    (fun start row => start < row.version) dashboardIncidentHistory
    (tables.history.filter (·.incidentId == incidentId)) cursor

/-! ### Comments -/

structure DashboardIncidentComment where
  id : Uuid
  body : String
  operatorUsername : String
  createdAt : Int

def dashboardIncidentComment (row : IncidentComment) : DashboardIncidentComment where
  id := row.id
  body := row.body
  operatorUsername := row.actorUsernameSnapshot
  createdAt := row.createdAt

def commentKeys (row : IncidentComment) : InstantKeys := (row.createdAt, row.id)

/-- `list_dashboard_incident_comments`: newest first. -/
def listDashboardIncidentComments (cursors : CursorCodec DashboardCursorContext InstantKeys)
    (incidentId : Uuid) (pageSize : Nat) (tables : QueriedTables) (cursor : Option String) :
    Option (Page DashboardIncidentComment String) :=
  dashboardPage cursors (childContext .incidentComments "created_desc" incidentId pageSize)
    commentKeys (fun first second => keyLe (commentKeys second) (commentKeys first))
    (fun start row => instantLt (commentKeys row) start) dashboardIncidentComment
    (tables.comments.filter (·.incidentId == incidentId)) cursor

/-! ### Evidence -/

structure DashboardEvidence where
  eventId : Uuid
  eventType : String
  source : EventSource
  occurredAt : Int
  collectedAt : Int
  linkedAt : Int

def dashboardEvidence (row : IncidentEvent × Event) : DashboardEvidence where
  eventId := row.1.eventId
  eventType := row.2.eventType
  source := row.2.normalized.source
  occurredAt := row.2.occurredAt
  collectedAt := row.2.normalized.collectedAt
  linkedAt := row.1.linkedAt

/-- `dashboard_evidence_statement`. -/
def dashboardEvidenceRows (incidentId : Uuid) (tables : QueriedTables) :
    List (IncidentEvent × Event) :=
  (innerJoin (fun link event => event.id == link.eventId) tables.incidentEvents
    tables.events).filter fun row => row.1.incidentId == incidentId

def linkKeys (link : IncidentEvent) : InstantKeys := (link.linkedAt, link.eventId)

/-- `list_dashboard_evidence`: in the order in which the events were linked. -/
def listDashboardEvidence (cursors : CursorCodec DashboardCursorContext InstantKeys)
    (incidentId : Uuid) (pageSize : Nat) (tables : QueriedTables) (cursor : Option String) :
    Option (Page DashboardEvidence String) :=
  dashboardPage cursors (childContext .evidence "linked_asc" incidentId pageSize)
    (fun row => linkKeys row.1) (fun first second => keyLe (linkKeys first.1) (linkKeys second.1))
    (fun start row => instantLt start (linkKeys row.1)) dashboardEvidence
    (dashboardEvidenceRows incidentId tables) cursor

/-! ### Servers -/

inductive ServerStateFilter where
  | all
  | active
  | inactive
  deriving DecidableEq, Repr

def ServerStateFilter.value : ServerStateFilter → String
  | .all => "all"
  | .active => "active"
  | .inactive => "inactive"

inductive ServerSort where
  | nameAsc
  | nameDesc
  deriving DecidableEq, Repr

def ServerSort.value : ServerSort → String
  | .nameAsc => "name_asc"
  | .nameDesc => "name_desc"

structure ServerFilters where
  state : ServerStateFilter
  serverId : Option Uuid
  search : Option String

namespace ServerFilters

def cursorFilters (filters : ServerFilters) : List (String × JsonValue) :=
  [("id", ofUuid filters.serverId), ("state", .str filters.state.value)]

def conditions (text : TextFunctions) (filters : ServerFilters) (row : StoredServer) : Bool :=
  (match filters.state with
    | .all => true
    | .active => row.isActive
    | .inactive => !row.isActive) &&
    filters.serverId.all (row.id == ·) &&
    filters.search.all fun search =>
      let parameter := (text.lower (literalPrefixPattern search)).toList
      like parameter (text.lower row.name).toList || like parameter (text.lower row.hostname).toList

end ServerFilters

structure ServerSummary where
  id : Uuid
  name : String
  hostname : String
  description : Option String
  isActive : Bool
  lastEventAt : Option Int
  incidentCount : Nat
  activeIncidentCount : Nat
  criticalActiveIncidentCount : Nat
  createdAt : Int
  updatedAt : Int

/-- A server with its last event and its incident counts. -/
def serverSummary (tables : QueriedTables) (row : StoredServer) : ServerSummary where
  id := row.id
  name := row.name
  hostname := row.hostname
  description := row.description
  isActive := row.isActive
  lastEventAt := ((tables.events.filter (·.serverId == row.id)).map (·.occurredAt)).max?
  incidentCount := tables.incidents.countP (·.serverId == row.id)
  activeIncidentCount := tables.incidents.countP fun incident =>
    incident.serverId == row.id && incident.status.isActive
  criticalActiveIncidentCount := tables.incidents.countP fun incident =>
    incident.serverId == row.id && incident.status.isActive && incident.severity == .critical
  createdAt := row.createdAt
  updatedAt := row.updatedAt

def serverKeys (text : TextFunctions) (row : StoredServer) : NameKeys := (text.lower row.name, row.id)

def nameBefore (text : TextFunctions) (sort : ServerSort) (first second : NameKeys) : Bool :=
  match sort with
  | .nameAsc => nameLe text first second
  | .nameDesc => nameLe text second first

def nameAfter (text : TextFunctions) (sort : ServerSort) (start keys : NameKeys) : Bool :=
  match sort with
  | .nameAsc => nameLt text start keys
  | .nameDesc => nameLt text keys start

def serversContext (filters : ServerFilters) (sort : ServerSort) (pageSize : Nat) :
    DashboardCursorContext where
  listType := .servers
  filters := filters.cursorFilters
  search := filters.search
  sort := sort.value
  pageSize := pageSize

/-- `list_servers`. -/
def listServers (text : TextFunctions) (cursors : CursorCodec DashboardCursorContext NameKeys)
    (filters : ServerFilters) (sort : ServerSort) (pageSize : Nat) (tables : QueriedTables)
    (cursor : Option String) : Option (Page ServerSummary String) :=
  dashboardPage cursors (serversContext filters sort pageSize) (serverKeys text)
    (fun first second => nameBefore text sort (serverKeys text first) (serverKeys text second))
    (fun start row => nameAfter text sort start (serverKeys text row)) (serverSummary tables)
    (tables.servers.filter (filters.conditions text)) cursor

end WolandGuard.Dashboard
