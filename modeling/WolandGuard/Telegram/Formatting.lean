import Mathlib.Data.List.Sort
import WolandGuard.Incidents.Workflow
import WolandGuard.IpBlocks.Plans
import WolandGuard.Telegram.Callbacks
import WolandGuard.Telegram.Catalog

/-!
# Replies

`telegram_bot/formatting.py`, and the queries whose rows the replies show. A
reply is made of strings of the catalogue and of named columns.
-/

set_option autoImplicit false

namespace WolandGuard.Telegram

open Incidents IpBlocks Outbox

/-! ## Fields -/

/-- `text.strip()`. -/
def strip (unicode : UnicodeData) (text : List Char) : List Char :=
  ((text.dropWhile unicode.isSpace).reverse.dropWhile unicode.isSpace).reverse

/-- `safe_field` of a text. -/
def safeField (unicode : UnicodeData) (limit : Nat) (text : String) : String :=
  let cleaned := strip unicode (text.toList.filter fun char =>
    !(["Cc", "Cf", "Cs", "Zl", "Zp"].contains (unicode.category char)))
  if cleaned = [] then "-"
  else if limit < cleaned.length then String.ofList (cleaned.take (limit - 1) ++ ['…'])
  else String.ofList cleaned

/-- `FIELD_MAX_CHARS`. -/
def fieldMaxChars : Nat := 80

/-- `format_timestamp`. `%Y` does not pad a year. -/
def formatTimestamp : Option Int → String
  | none => "-"
  | some instant =>
      let (year, month, day) := civilDate (instant / 86400000000)
      let minutes := (instant % 86400000000).toNat / 60000000
      toString year.toNat ++ "-" ++ padded 2 month ++ "-" ++ padded 2 day ++ " " ++
        padded 2 (minutes / 60) ++ ":" ++ padded 2 (minutes % 60) ++ " UTC"

/-- `_bounded`. -/
def bounded (text : String) : String :=
  if text.length ≤ 3500 then text else String.ofList (text.toList.take 3499 ++ ['…'])

def joinLines (lines : List String) : String := "\n".intercalate lines

/-! ## Statuses and outcomes -/

/-- `_STATUS_LABEL_KEYS`. -/
def statusLabelKey : IncidentStatus → StringKey
  | .new => .statusNew
  | .investigating => .statusInvestigating
  | .resolved => .statusResolved
  | .falsePositive => .statusFalsePositive

/-- `format_reason_prompt`. -/
def formatReasonPrompt (language : Language) (targetStatus : IncidentStatus) : String :=
  formatField (tg language .reasonPrompt) "label" (tg language (statusLabelKey targetStatus))

/-- `format_transition_outcome`. -/
def formatTransitionOutcome (language : Language) (outcome : TransitionOutcome)
    (targetStatus : IncidentStatus) : String :=
  let label := tg language (statusLabelKey targetStatus)
  if outcome.httpStatus = 200 then
    if outcome.replayed then formatField (tg language .incidentAlreadyApplied) "label" label
    else formatField (tg language .incidentStatusChanged) "label" label
  else if outcome.httpStatus = 404 then tg language .incidentNotFound
  else if outcome.conflictType = some "stale_version" then tg language .incidentStaleVersion
  else if outcome.conflictType = some "transition_not_allowed" then
    tg language .incidentTransitionNotAllowed
  else if outcome.conflictType = some "idempotency_key_reused" then
    tg language .incidentInProgress
  else tg language .incidentTransitionFailed

/-- `format_block_rejection`, with `_BLOCK_REJECTION_KEYS`. -/
def formatBlockRejection (language : Language) : BlockTargetRejectionReason → String
  | .notAnAddress => tg language .ipBlockRejectNotAnAddress
  | .notCanonical => tg language .ipBlockRejectNotAnAddress
  | .neverBlock => tg language .ipBlockRejectNeverBlock
  | .allowlisted => tg language .ipBlockRejectAllowlisted

/-- `format_block_decision_outcome`, with `_DECIDE_OUTCOME_KEYS`. -/
def formatBlockDecisionOutcome (language : Language) : DecideIpBlockStatus → String
  | .approved => tg language .ipBlockApproved
  | .rejected => tg language .ipBlockRejected
  | .planNotFound => tg language .ipBlockPlanNotFound
  | .alreadyDecided => tg language .ipBlockAlreadyDecided
  | .expired => tg language .ipBlockExpired
  | .sameOperator => tg language .ipBlockSameOperator
  | .nowBlocked => tg language .ipBlockNowBlocked

/-- `format_block_proposal_message`. -/
def formatBlockProposalMessage (language : Language) (plan : IpBlockPlan) : String :=
  bounded (joinLines [
    tg language .proposalHeading,
    "",
    tg language .proposalAddress ++ " " ++ plan.ipAddress,
    tg language .proposalIncident ++ " " ++ Uuid.text plan.incidentId,
    tg language .proposalCommand ++ " " ++ " ".intercalate plan.commandArgv,
    tg language .proposalExpires ++ " " ++ formatTimestamp (some plan.expiresAt),
    "",
    tg language .proposalApprovalNote])

/-- One button of an inline keyboard. -/
structure KeyboardButton where
  text : String
  callbackData : String
  deriving DecidableEq, Repr

/-- `build_block_decision_keyboard`. -/
def buildBlockDecisionKeyboard (language : Language) (planId : Uuid) :
    Except CallbackDataError (List (List KeyboardButton)) := do
  let approve ← encodeDecideBlock planId true
  let reject ← encodeDecideBlock planId false
  return [[⟨tg language .buttonApprove, approve⟩, ⟨tg language .buttonReject, reject⟩]]

/-! ## Overview -/

structure Server where
  id : Uuid
  name : String
  hostname : String
  isActive : Bool
  deriving DecidableEq, Repr

/-- The counters that `/status` shows. -/
structure DashboardOverview where
  serversTotal : Nat
  serversActive : Nat
  serversInactive : Nat
  incidentsActive : Nat
  incidentsCriticalActive : Nat
  pending : Nat
  processing : Nat
  delivered : Nat
  failed : Nat
  deriving DecidableEq, Repr

/-- `get_dashboard_overview`. -/
def getDashboardOverview (tables : Database) (servers : List Server) : DashboardOverview :=
  let outboxCount (status : OutboxStatus) : Nat := tables.outbox.countP (·.status = status)
  { serversTotal := servers.length
    serversActive := servers.countP (·.isActive)
    serversInactive := servers.countP (!·.isActive)
    incidentsActive := tables.incidents.countP (·.status.isActive)
    incidentsCriticalActive := tables.incidents.countP fun incident =>
      incident.status.isActive && incident.severity = .critical
    pending := outboxCount .pending
    processing := outboxCount .processing
    delivered := outboxCount .delivered
    failed := outboxCount .failed }

/-- `format_overview`. -/
def formatOverview (language : Language) (overview : DashboardOverview) : String :=
  let detail := formatField (formatField (tg language .overviewServersDetail) "active"
    (toString overview.serversActive)) "inactive" (toString overview.serversInactive)
  let counter (key : StringKey) (count : Nat) : String := tg language key ++ " " ++ toString count
  bounded (joinLines [
    tg language .overviewHeading,
    "",
    counter .overviewServers overview.serversTotal ++ " (" ++ detail ++ ")",
    counter .overviewOpenIncidents overview.incidentsActive,
    counter .overviewCritical overview.incidentsCriticalActive,
    "",
    tg language .overviewQueue,
    "  " ++ counter .overviewPending overview.pending,
    "  " ++ counter .overviewProcessing overview.processing,
    "  " ++ counter .overviewDelivered overview.delivered,
    "  " ++ counter .overviewFailed overview.failed])

/-! ## Servers -/

/-- The columns of a server that `/servers` shows. -/
structure ServerSummary where
  name : String
  hostname : String
  isActive : Bool
  lastEventAt : Option Int
  activeIncidentCount : Nat
  deriving DecidableEq, Repr

/-- A page of a list and whether there are more rows. -/
structure DashboardPage (α : Type) where
  items : List α
  hasNext : Bool

/-- The first page of ordered rows. -/
def firstPage {ρ α : Type} (pageSize : Nat) (summary : ρ → α) (rows : List ρ) :
    DashboardPage α where
  items := (rows.take pageSize).map summary
  hasNext := pageSize < rows.length

/-- `_QUERY_PAGE_SIZE`. -/
def queryPageSize : Nat := 25

/-- `list_servers` without filters, by name and id. The order of names is the
collation of the database. -/
def listServers (nameOrder : String → String → Ordering) (tables : Database)
    (servers : List Server) : DashboardPage ServerSummary :=
  let order (left right : Server) : Bool :=
    match nameOrder left.name right.name with
    | .lt => true
    | .eq => left.id.toNat ≤ right.id.toNat
    | .gt => false
  firstPage queryPageSize (fun server =>
    { name := server.name
      hostname := server.hostname
      isActive := server.isActive
      lastEventAt :=
        ((tables.events.filter (·.serverId = server.id)).map Event.occurredAt).max?
      activeIncidentCount := tables.incidents.countP fun incident =>
        incident.serverId = server.id && incident.status.isActive })
    (servers.insertionSort (order · ·))

/-- Whether a shortened list says so. -/
def isTruncated {α : Type} (page : DashboardPage α) (shown : List α) : Bool :=
  shown.length < page.items.length || page.hasNext

/-- `format_servers`. -/
def formatServers (unicode : UnicodeData) (language : Language) (servers : List ServerSummary)
    (truncated : Bool) : String :=
  if servers = [] then tg language .serversEmpty
  else
    let lines (server : ServerSummary) : List String :=
      [ "• " ++ safeField unicode fieldMaxChars server.name ++ " (" ++
          tg language (if server.isActive then .serversActive else .serversInactive) ++ ")",
        "  " ++ tg language .serversHost ++ " " ++
          safeField unicode fieldMaxChars server.hostname,
        "  " ++ tg language .serversOpenIncidents ++ " " ++
          toString server.activeIncidentCount,
        "  " ++ tg language .serversLastEvent ++ " " ++ formatTimestamp server.lastEventAt,
        ""]
    let text := joinLines ([tg language .serversHeading, ""] ++ servers.flatMap lines ++
      (if truncated then [tg language .listTruncated] else []))
    bounded (String.ofList (strip unicode text.toList))

/-! ## Incidents -/

/-- The columns of an incident that `/incidents` and `/critical` show. -/
structure DashboardIncidentSummary where
  id : Uuid
  serverName : String
  severity : String
  status : String
  title : String
  titleEn : Option String
  lastSeenAt : Int
  eventCount : Nat
  deriving DecidableEq, Repr

/-- The row of an incident, joined with its server. -/
def dashboardIncidentSummary (servers : List Server) (incident : Incident) :
    Option DashboardIncidentSummary :=
  (servers.find? (·.id = incident.serverId)).map fun server =>
    { id := incident.id
      serverName := server.name
      severity := incident.severity.value
      status := incident.status.value
      title := incident.title
      titleEn := incident.titleEn
      lastSeenAt := incident.lastSeenAt
      eventCount := incident.eventCount }

/-- `ORDER BY created_at DESC, id DESC`. -/
def newestIncidentFirst (left right : Incident) : Bool :=
  keyLe (right.createdAt, right.id) (left.createdAt, left.id)

/-- `list_dashboard_incidents`, newest first, where `wanted` are the filters. -/
def listDashboardIncidents (tables : Database) (servers : List Server)
    (wanted : Incident → Bool) : DashboardPage DashboardIncidentSummary :=
  firstPage queryPageSize id (((tables.incidents.filter wanted).insertionSort
    (newestIncidentFirst · ·)).filterMap (dashboardIncidentSummary servers))

/-- `format_incidents`. -/
def formatIncidents (unicode : UnicodeData) (language : Language)
    (incidents : List DashboardIncidentSummary) (truncated : Bool) (emptyText : String) : String :=
  if incidents = [] then emptyText
  else
    let title (incident : DashboardIncidentSummary) : String :=
      match language, incident.titleEn with
      | .en, some titleEn => if titleEn = "" then incident.title else titleEn
      | _, _ => incident.title
    let lines (incident : DashboardIncidentSummary) : List String :=
      [ "• [" ++ safeField unicode 16 incident.severity ++ "] " ++
          safeField unicode fieldMaxChars (title incident),
        "  " ++ tg language .incidentsServer ++ " " ++
          safeField unicode fieldMaxChars incident.serverName,
        "  " ++ tg language .incidentsStatus ++ " " ++ safeField unicode 32 incident.status,
        "  " ++ tg language .incidentsEvents ++ " " ++ toString incident.eventCount,
        "  " ++ tg language .incidentsLast ++ " " ++ formatTimestamp (some incident.lastSeenAt),
        "  " ++ tg language .incidentsId ++ " " ++ Uuid.text incident.id,
        ""]
    let text := joinLines ([tg language .incidentsHeading, ""] ++ incidents.flatMap lines ++
      (if truncated then [tg language .listTruncated] else []))
    bounded (String.ofList (strip unicode text.toList))

end WolandGuard.Telegram
