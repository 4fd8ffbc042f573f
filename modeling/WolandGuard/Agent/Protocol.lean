import WolandGuard.Agent.Delivery
import WolandGuard.Agent.Normalization
import WolandGuard.Detection.Insertion
import WolandGuard.Incidents.Transactions

/-!
# One agent and the control plane

The state of a deployment has what the agent keeps on disk (the spool), what it
has in memory (the records that its collectors still have to persist, and the
batch that it waits for), the batches that it has ever sent, and the control
plane with its transactions under way. A step is one durable step of one side,
or the loss of what is in memory. A batch that was sent may reach the control
plane at any later time and any number of times, and a transaction may be rolled
back at any point. A reply may be lost, or reach the agent while it waits for
that request; nobody but the control plane answers 200.
-/

set_option autoImplicit false

namespace WolandGuard.Agent

open Foundations Incidents
open Incidents.Concurrent (Operation)

/-! ## Requests -/

/-- A request to the control plane, with the number that the agent has sent it
under if it is one of the agent's. -/
structure Submission (unicode : UnicodeData) where
  request : Option Nat
  operation : Operation unicode

def Submission.code {unicode : UnicodeData} (submission : Submission unicode) : WorkflowProgram :=
  submission.operation.code

/-- Who may send what: only the agent has a key of its server. -/
inductive Genuine {unicode : UnicodeData} (serverId : Uuid) (sent : List (List NormalizedEventV1)) :
    Submission unicode → Prop where
  | own {number : Nat} {draws : Detection.Draws} {maxAttempts : Nat} {now : Int}
      {batch : List NormalizedEventV1} : sent[number]? = some batch →
      Genuine serverId sent ⟨some number, .ingest draws maxAttempts serverId now batch⟩
  | other {operation : Operation unicode} :
      (∀ draws maxAttempts now batch, operation ≠ .ingest draws maxAttempts serverId now batch) →
      Genuine serverId sent ⟨none, operation⟩

/-- A batch that was sent keeps its number. -/
theorem sent_later {sent more : List (List NormalizedEventV1)} {number : Nat}
    {batch : List NormalizedEventV1} (stored : sent[number]? = some batch) (grown : sent <+: more) :
    more[number]? = some batch := by
  obtain ⟨rest, rfl⟩ := grown
  exact List.getElem?_append_left (List.getElem?_eq_some_iff.mp stored).1 ▸ stored

theorem Genuine.mono {unicode : UnicodeData} {serverId : Uuid}
    {sent more : List (List NormalizedEventV1)} {submission : Submission unicode}
    (genuine : Genuine serverId sent submission) (grown : sent <+: more) :
    Genuine serverId more submission := by
  cases genuine with
  | own stored => exact .own (sent_later stored grown)
  | other foreign => exact .other foreign

/-- A 200 of the control plane: the number of the request, `accepted` and
`existing`. -/
structure Response where
  request : Nat
  accepted : Nat
  existing : Nat
  deriving DecidableEq

/-- The response that a commit gives rise to. -/
def responsesOf {unicode : UnicodeData} : Move (Submission unicode) Answer → List Response
  | .commit ⟨some number, .ingest _ _ _ _ batch⟩ (.ingested accepted) =>
      [⟨number, accepted, batch.length - accepted⟩]
  | _ => []

/-- A 200 is one of the control plane's responses to the request. -/
def Authentic (responses : List Response) (number : Nat) (reply : Reply) : Prop :=
  ∀ counts retryAfter, reply = .response 200 counts retryAfter →
    ∃ response ∈ responses, response.request = number ∧
      counts = some ((response.accepted : Int), (response.existing : Int))

/-! ## The agent -/

/-- The configuration of the agent. `yields source cursor found` are the records
of a source that is read from a cursor and finds `found` in its files, until it
is stopped. -/
structure AgentSettings (ε : Type) where
  serverId : Uuid
  maxEvents : Nat
  delivery : DeliverySettings
  parsers : Parsers
  unicode : UnicodeTables
  eventSource : String → EventSource
  yields : String → Option String → ε → List JournalRecord

inductive PersistFailure where
  | normalization (failure : NormalizationError)
  | spool (failure : SpoolError)
  deriving DecidableEq, Repr

/-- When a record is persisted: the time of collection, and the two readings of
the clock by the spool. -/
structure PersistTimes where
  collectedAt : Int
  enqueuedAt : Rat
  updatedAt : Rat

namespace AgentSettings

variable {ε : Type} (settings : AgentSettings ε)

/-- The event of a record. -/
def normalized (source : String) (times : PersistTimes) (record : JournalRecord) :
    Except NormalizationError (Option NormalizedEventV1) :=
  normalizeRecord settings.parsers settings.unicode (settings.eventSource source)
    times.collectedAt record

/-- `_persist_record`. -/
def persistRecord (source : String) (times : PersistTimes) (record : JournalRecord)
    (spool : Spool) : Except PersistFailure (Option EnqueueResult × Spool) :=
  match settings.normalized source times record with
  | .error failure => .error (.normalization failure)
  | .ok none =>
      match spool.advanceCursor times.updatedAt source record.cursor with
      | .error failure => .error (.spool failure)
      | .ok after => .ok (none, after)
  | .ok (some event) =>
      match spool.enqueueWithCursor settings.maxEvents times.enqueuedAt times.updatedAt source
        record.cursor event with
      | .error failure => .error (.spool failure)
      | .ok (result, after) => .ok (some result, after)

/-- The three ways to persist a record, by what they do to the rows. -/
inductive Persisted (source : String) (times : PersistTimes) (record : JournalRecord)
    (spool after : Spool) : Option EnqueueResult → Prop where
  | skipped : settings.normalized source times record = .ok none →
      after.events = spool.events → Persisted source times record spool after none
  | duplicate {event : NormalizedEventV1} :
      settings.normalized source times record = .ok (some event) →
      event.eventId ∈ spool.queued.map (·.eventId) → after.events = spool.events →
      Persisted source times record spool after (some .duplicate)
  | inserted {event : NormalizedEventV1} :
      settings.normalized source times record = .ok (some event) →
      event.eventId ∉ spool.queued.map (·.eventId) →
      spool.events.length < settings.maxEvents →
      after.events = spool.events ++ [Spool.newRow times.enqueuedAt event] →
      Persisted source times record spool after (some .inserted)

variable {settings} {source : String} {times : PersistTimes} {record : JournalRecord}
variable {spool after : Spool} {result : Option EnqueueResult}

/-- **A record that was persisted has moved the cursor of its source.** -/
theorem persistRecord_spec
    (persisted : settings.persistRecord source times record spool = .ok (result, after)) :
    settings.Persisted source times record spool after result ∧
      (after.cursor source = some record.cursor ∧
        ∀ other, other ≠ source → after.cursor other = spool.cursor other) ∧
      after.diagnostics = spool.diagnostics := by
  unfold persistRecord at persisted
  split at persisted
  · cases persisted
  next ignored =>
    split at persisted
    · cases persisted
    next written =>
      cases persisted
      obtain ⟨rows, moved⟩ := Spool.upsertCursor_spec written
      exact ⟨.skipped ignored rows, moved, Spool.diagnostics_upsertCursor written⟩
  next event recognised =>
    split at persisted
    · cases persisted
    next enqueued =>
      cases persisted
      obtain ⟨⟨rfl, known, same⟩ | ⟨rfl, unknown, room, appended⟩, moved⟩ :=
        Spool.enqueueWithCursor_spec enqueued
      · exact ⟨.duplicate recognised known same, moved⟩
      · exact ⟨.inserted recognised unknown room appended, moved⟩

/-- **A record is refused with its event, by a full spool, or with its cursor.** -/
theorem persistRecord_error {failure : PersistFailure} {event : NormalizedEventV1}
    (normalized : settings.normalized source times record = .ok (some event))
    (refused : settings.persistRecord source times record spool = .error failure) :
    failure = .spool .spoolFull ∧ event.eventId ∉ spool.queued.map (·.eventId) ∧
        settings.maxEvents ≤ spool.events.length ∨
      failure = .spool .integrityError ∧ Spool.cursorFits record.cursor = false := by
  unfold persistRecord at refused
  rw [normalized] at refused
  dsimp only at refused
  split at refused
  next other refusal =>
    cases refused
    rcases Spool.enqueueWithCursor_error refusal with ⟨rfl, full⟩ | ⟨rfl, unfit⟩
    · exact .inl ⟨rfl, full⟩
    · exact .inr ⟨rfl, unfit⟩
  · cases refused

/-- Persisting a record leaves the rows that are there. -/
theorem Persisted.events_grow (persisted : settings.Persisted source times record spool after result) :
    spool.events <+: after.events := by
  cases persisted with
  | skipped _ same => exact same ▸ List.prefix_rfl
  | duplicate _ _ same => exact same ▸ List.prefix_rfl
  | inserted _ _ _ appended => exact appended ▸ List.prefix_append _ _

theorem Persisted.queued_subset
    (persisted : settings.Persisted source times record spool after result) :
    spool.queued ⊆ after.queued :=
  (persisted.events_grow.map _).subset

/-- The id of the event of a persisted record is in the queue. -/
theorem Persisted.id_queued
    (persisted : settings.Persisted source times record spool after result)
    {event : NormalizedEventV1}
    (normalized : settings.normalized source times record = .ok (some event)) :
    event.eventId ∈ after.queued.map (·.eventId) := by
  cases persisted with
  | skipped ignored _ =>
      rw [ignored] at normalized
      cases normalized
  | duplicate recognised known same =>
      rw [recognised] at normalized
      cases normalized
      rwa [Spool.queued, same]
  | inserted recognised _ _ appended =>
      rw [recognised] at normalized
      cases normalized
      simp [Spool.queued, appended, Spool.newRow]

end AgentSettings

/-! ## Deployments -/

section System

variable {unicode : UnicodeData} {ε : Type}

/-- The agent, the network and the control plane. -/
structure Deployment (unicode : UnicodeData) where
  spool : Spool
  currentBatchSize : Nat
  /-- For each source being read, the records to persist next. -/
  collecting : List (String × List JournalRecord)
  /-- The sources whose gap is recorded and whose cursor is cleared next. -/
  gaps : List String
  /-- The number of the request that `deliver_once` waits for, and its batch. -/
  sending : Option (Nat × QueuedEvents)
  /-- The batches sent, by the number of their request. -/
  sent : List (List NormalizedEventV1)
  server : Transactions (Submission unicode) WorkflowTables LockKey Answer
  responses : List Response

/-- A new agent with a new installation. -/
def Deployment.installed (settings : AgentSettings ε) (ruleVersions : List DetectionRuleVersion)
    (destinations : List Outbox.NotificationDestination) : Deployment unicode where
  spool := .initialized
  currentBatchSize := settings.delivery.configuredBatchSize
  collecting := []
  gaps := []
  sending := none
  sent := []
  server := .idle (.installed ruleVersions destinations)
  responses := []

/-- What happens in a step. -/
inductive Action (unicode : UnicodeData) (ε : Type) where
  /-- `backlog` or `follow` of a source begins. -/
  | collect (source : String) (found : ε)
  /-- `_drain` persists the next record of a source. -/
  | persist (source : String) (record : JournalRecord) (times : PersistTimes)
  /-- A record is not persisted, because the spool is full or for another error. -/
  | refuse (source : String) (record : JournalRecord) (times : PersistTimes)
  /-- `_drain` ends, for instance at a stop. -/
  | abandon (source : String)
  /-- The two transactions of `_record_journal_gap`. -/
  | recordGap (source : String) (now : Rat)
  | clearCursor (source : String)
  /-- `deliver_once` up to the request. -/
  | deliver (now : Rat)
  /-- `deliver_once` from the reply on. -/
  | receive (reply : Reply) (now random : Rat)
  | crash
  /-- The commands of the operator. -/
  | requeue (eventId : Uuid)
  | delete (eventId : Uuid)
  | server (move : Move (Submission unicode) Answer)

/-- Only genuine requests reach the control plane. -/
def Admissible (serverId : Uuid) (sent : List (List NormalizedEventV1)) :
    Move (Submission unicode) Answer → Prop
  | .start submission => Genuine serverId sent submission
  | _ => True

inductive Deployment.Step (settings : AgentSettings ε) :
    Deployment unicode → Action unicode ε → Deployment unicode → Prop where
  | collect {state : Deployment unicode} {source : String} {found : ε} :
      source ∉ state.collecting.map Prod.fst →
      Step settings state (.collect source found)
        { state with
          collecting := state.collecting ++
            [(source, settings.yields source (state.spool.cursor source) found)] }
  | persist {state : Deployment unicode} {source : String} {record : JournalRecord}
      {times : PersistTimes} {rest : List JournalRecord}
      {before after : List (String × List JournalRecord)} {result : Option EnqueueResult}
      {spool : Spool} :
      state.collecting = before ++ (source, record :: rest) :: after →
      settings.persistRecord source times record state.spool = .ok (result, spool) →
      Step settings state (.persist source record times)
        { state with spool := spool, collecting := before ++ (source, rest) :: after }
  | refuse {state : Deployment unicode} {source : String} {record : JournalRecord}
      {times : PersistTimes} {rest : List JournalRecord}
      {before after : List (String × List JournalRecord)} {failure : PersistFailure} :
      state.collecting = before ++ (source, record :: rest) :: after →
      settings.persistRecord source times record state.spool = .error failure →
      Step settings state (.refuse source record times)
        { state with collecting := before ++ after }
  | abandon {state : Deployment unicode} {source : String} {records : List JournalRecord}
      {before after : List (String × List JournalRecord)} :
      state.collecting = before ++ (source, records) :: after →
      Step settings state (.abandon source) { state with collecting := before ++ after }
  | recordGap {state : Deployment unicode} {source : String} {now : Rat} {spool : Spool} :
      state.spool.recordDiagnostic now "journal_gap" = .ok spool →
      Step settings state (.recordGap source now)
        { state with spool := spool, gaps := state.gaps ++ [source] }
  | clearCursor {state : Deployment unicode} {source : String} : source ∈ state.gaps →
      Step settings state (.clearCursor source)
        { state with
          spool := state.spool.clearCursor source
          gaps := state.gaps.erase source }
  | deliver {state : Deployment unicode} {now : Rat} {queued : QueuedEvents} :
      state.sending = none → state.spool.readyBatch state.currentBatchSize now = .ok queued →
      queued ≠ [] →
      Step settings state (.deliver now)
        { state with
          sending := some (state.sent.length, queued)
          sent := state.sent ++ [queued.map Prod.fst] }
  | receive {state : Deployment unicode} {number : Nat} {queued : QueuedEvents} {reply : Reply}
      {now random : Rat} {left : DeliveryState} {action : DeliveryAction} :
      state.sending = some (number, queued) → Authentic state.responses number reply →
      afterSend settings.delivery now queued random (transportResult queued.length reply)
        ⟨state.spool, state.currentBatchSize⟩ = (left, action) →
      Step settings state (.receive reply now random)
        { state with
          spool := left.spool
          currentBatchSize := left.currentBatchSize
          sending := none }
  | crash {state : Deployment unicode} :
      Step settings state .crash
        { state with
          currentBatchSize := settings.delivery.configuredBatchSize
          collecting := []
          gaps := []
          sending := none }
  | requeue {state : Deployment unicode} (eventId : Uuid) :
      Step settings state (.requeue eventId) { state with spool := state.spool.requeue eventId }
  | delete {state : Deployment unicode} (eventId : Uuid) :
      Step settings state (.delete eventId) { state with spool := state.spool.delete eventId }
  | server {state : Deployment unicode} {move : Move (Submission unicode) Answer}
      {server : Transactions (Submission unicode) WorkflowTables LockKey Answer} :
      Admissible settings.serverId state.sent move →
      Transactions.Step Submission.code state.server move server →
      Step settings state (.server move)
        { state with server := server, responses := state.responses ++ responsesOf move }

/-- A recorded step. -/
abbrev Moved (unicode : UnicodeData) (ε : Type) := Taken (Deployment unicode) (Action unicode ε)

/-- A run of a new agent with a new installation. -/
abbrev DeploymentRun (settings : AgentSettings ε) (ruleVersions : List DetectionRuleVersion)
    (destinations : List Outbox.NotificationDestination) (path : List (Moved unicode ε))
    (finish : Deployment unicode) : Prop :=
  Run (Deployment.Step settings) (.installed settings ruleVersions destinations) path finish

/-! ## The control plane's part of a run -/

/-- A recorded step of the control plane. -/
abbrev Handled (unicode : UnicodeData) :=
  Transactions.Recorded (Submission unicode) WorkflowTables LockKey Answer

/-- The control plane's step, if it is one. -/
def handledOf (taken : Moved unicode ε) : Option (Handled unicode) :=
  match taken.label with
  | .server move => some ⟨taken.before.server, move, taken.after.server⟩
  | _ => none

/-- The steps of the control plane. -/
def handled (path : List (Moved unicode ε)) : List (Handled unicode) := path.filterMap handledOf

section Steps

variable {settings : AgentSettings ε} {state after start finish : Deployment unicode}
variable {action : Action unicode ε} {path : List (Moved unicode ε)}

/-- Only its own steps move the control plane. -/
theorem Deployment.Step.server_cases (step : Deployment.Step settings state action after) :
    (∃ move, action = .server move ∧
        Transactions.Step Submission.code state.server move after.server) ∨
      (∀ move, action ≠ .server move) ∧ after.server = state.server := by
  cases step with
  | @server move server admissible taken => exact .inl ⟨move, rfl, taken⟩
  | _ =>
      refine .inr ⟨?_, rfl⟩
      intro move same
      cases same

/-- **The control plane's steps are a run of its transactions.** -/
theorem handled_run (run : Run (Deployment.Step settings) start path finish) :
    Run (Transactions.Step Submission.code) start.server (handled path) finish.server := by
  induction run with
  | nil state => exact .nil _
  | @cons start middle finish action path step _ ih =>
      rcases step.server_cases with ⟨move, rfl, taken⟩ | ⟨other, same⟩
      · exact .cons taken ih
      · have skipped : handled (⟨start, action, middle⟩ :: path) = handled path := by
          cases action with
          | server move => exact absurd rfl (other move)
          | _ => rfl
        rw [skipped, ← same]
        exact ih

/-- **A cursor moves only with a record that is persisted**, or is cleared. -/
theorem Deployment.Step.cursor_cases (step : Deployment.Step settings state action after)
    (source : String) :
    after.spool.cursor source = state.spool.cursor source ∨ action = .clearCursor source ∨
      ∃ record times, action = .persist source record times ∧
        after.spool.cursor source = some record.cursor := by
  cases step with
  | @persist other record times rest before behind result spool collecting persisted =>
      obtain ⟨_, ⟨moved, others⟩, _⟩ := AgentSettings.persistRecord_spec persisted
      by_cases same : source = other
      · subst same
        exact .inr (.inr ⟨record, times, rfl, moved⟩)
      · exact .inl (others source same)
  | recordGap recorded => exact .inl (Spool.cursor_recordDiagnostic recorded source)
  | @clearCursor other recorded =>
      by_cases same : source = other
      · exact .inr (.inl (by rw [same]))
      · exact .inl (Spool.cursor_clearCursor same)
  | @receive number batch reply now random left done sending authentic sent =>
      have onRows := onRows_afterSend settings.delivery now random batch
        (transportResult batch.length reply) ⟨state.spool, state.currentBatchSize⟩
      rw [sent] at onRows
      exact .inl (onRows.same_cursor source)
  | _ => exact .inl rfl

/-- Batches that were sent stay sent. -/
theorem Deployment.Step.sent_grows (step : Deployment.Step settings state action after) :
    state.sent <+: after.sent := by
  cases step with
  | deliver idle ready nonempty => exact List.prefix_append _ _
  | _ => exact List.prefix_rfl

theorem sent_grows_of_run (run : Run (Deployment.Step settings) start path finish) :
    start.sent <+: finish.sent := by
  induction run with
  | nil state => exact List.prefix_rfl
  | cons step _ ih => exact step.sent_grows.trans ih

end Steps

end System

end WolandGuard.Agent
