import Mathlib.Algebra.Order.Ring.Rat
import Mathlib.Data.List.Sort
import WolandGuard.Foundations.Outcomes
import WolandGuard.Foundations.Rows
import WolandGuard.Incidents.Tables

/-!
# The spool of the agent

The transactions of `spool.py`, with instants as seconds. An event is inserted together with the cursor of
the record it comes from. The rows are listed in the order of their `rowid`, and
every method below is one SQLite transaction. `queued` are the events of the
rows in whatever status: only an acknowledgement and an operator's deletion take
events away from them.
-/

set_option autoImplicit false

namespace WolandGuard.Agent

open Foundations

/-! ## Rows -/

inductive SpoolStatus where
  | pending
  | quarantined
  | oversized
  deriving DecidableEq, Repr

/-- One row of `spool_events`. -/
structure SpoolEvent where
  event : NormalizedEventV1
  enqueuedAt : Rat
  attempts : Nat
  nextAttemptAt : Rat
  status : SpoolStatus
  lastError : Option String

abbrev SpoolEvent.eventId (row : SpoolEvent) : Uuid := row.event.eventId

/-- One row of `source_cursors`. -/
structure SourceCursor where
  sourceName : String
  cursor : String
  updatedAt : Rat
  deriving DecidableEq, Repr

/-- One row of `agent_diagnostics`. -/
structure DiagnosticState where
  code : String
  firstSeenAt : Rat
  lastSeenAt : Rat
  occurrences : Nat
  deriving DecidableEq, Repr

/-- The database of the spool. -/
structure Spool where
  events : List SpoolEvent
  cursors : List SourceCursor
  diagnostics : List DiagnosticState

/-- The database that `initialize` creates. -/
def Spool.initialized : Spool := ⟨[], [], []⟩

inductive SpoolError where
  | spoolFull
  | integrityError
  | unsafeDiagnosticCode
  | batchLimit
  | unsupportedTerminalStatus
  deriving DecidableEq, Repr

def SpoolError.message : SpoolError → String
  | .spoolFull => "spool capacity reached; cursor was not advanced"
  | .integrityError => "CHECK constraint failed"
  | .unsafeDiagnosticCode => "diagnostic code has an unsafe format"
  | .batchLimit => "batch limit must be between 1 and 100"
  | .unsupportedTerminalStatus => "unsupported terminal spool status"

inductive EnqueueResult where
  | inserted
  | duplicate
  deriving DecidableEq, Repr

namespace Spool

/-- The events of all rows, in the order of arrival. -/
def queued (spool : Spool) : List NormalizedEventV1 := spool.events.map (·.event)

/-! ## Cursors -/

/-- `cursor`. -/
def cursor (spool : Spool) (sourceName : String) : Option String :=
  (rowOf SourceCursor.sourceName spool.cursors sourceName).map (·.cursor)

/-- `CHECK (length(cursor) BETWEEN 1 AND 4096)`. SQLite counts up to the first
U+0000. -/
def cursorFits (cursor : String) : Bool :=
  let length := (cursor.toList.takeWhile (· ≠ '\x00')).length
  1 ≤ length && length ≤ 4096

/-- `_upsert_cursor`. -/
def upsertCursor (now : Rat) (sourceName cursor : String) (spool : Spool) :
    Except SpoolError Spool :=
  if cursorFits cursor then
    .ok { spool with
      cursors := putRow SourceCursor.sourceName ⟨sourceName, cursor, now⟩ spool.cursors }
  else .error .integrityError

/-- `advance_cursor`. -/
def advanceCursor (now : Rat) (sourceName cursor : String) (spool : Spool) :
    Except SpoolError Spool :=
  upsertCursor now sourceName cursor spool

/-- `clear_cursor`. -/
def clearCursor (sourceName : String) (spool : Spool) : Spool :=
  { spool with cursors := spool.cursors.filter fun row => row.sourceName ≠ sourceName }

/-! ## Events -/

/-- The row of a new event, with the defaults of the schema. -/
def newRow (now : Rat) (event : NormalizedEventV1) : SpoolEvent where
  event := event
  enqueuedAt := now
  attempts := 0
  nextAttemptAt := 0
  status := .pending
  lastError := none

/-- `enqueue_with_cursor`, where the clock is read for the row and then for the
cursor. -/
def enqueueWithCursor (maxEvents : Nat) (enqueuedAt updatedAt : Rat) (sourceName cursor : String)
    (event : NormalizedEventV1) (spool : Spool) : Except SpoolError (EnqueueResult × Spool) :=
  if spool.events.any fun row => row.eventId = event.eventId then
    (spool.upsertCursor updatedAt sourceName cursor).map (.duplicate, ·)
  else if maxEvents ≤ spool.events.length then .error .spoolFull
  else
    ({ spool with events := spool.events ++ [newRow enqueuedAt event] }.upsertCursor updatedAt
      sourceName cursor).map (.inserted, ·)

/-- `ready_batch`: the pending events that are due, oldest first. -/
def readyBatch (limit : Nat) (now : Rat) (spool : Spool) :
    Except SpoolError (List (NormalizedEventV1 × Nat)) :=
  if 1 ≤ limit ∧ limit ≤ 100 then
    let due := spool.events.filter fun row => row.status = .pending && row.nextAttemptAt ≤ now
    let ordered := due.insertionSort fun left right => left.enqueuedAt ≤ right.enqueuedAt
    .ok ((ordered.take limit).map fun row => (row.event, row.attempts))
  else .error .batchLimit

/-- `acknowledge`. -/
def acknowledge (eventIds : List Uuid) (spool : Spool) : Spool :=
  { spool with events := spool.events.filter fun row => !eventIds.contains row.eventId }

/-- `defer`. -/
def defer (now : Rat) (eventIds : List Uuid) (delay : Rat) (errorCode : String) (spool : Spool) :
    Spool :=
  { spool with
    events := updateWhere
      (fun row => eventIds.contains row.eventId && row.status = .pending)
      (fun row => { row with
        attempts := row.attempts + 1
        nextAttemptAt := now + max 0 delay
        lastError := some errorCode })
      spool.events }

/-- `quarantine`. -/
def quarantine (eventId : Uuid) (status : SpoolStatus) (errorCode : String) (spool : Spool) :
    Except SpoolError Spool :=
  if status = .pending then .error .unsupportedTerminalStatus
  else
    .ok { spool with
      events := updateWhere
        (fun row => row.eventId = eventId && row.status = .pending)
        (fun row => { row with
          status := status
          attempts := row.attempts + 1
          lastError := some errorCode })
        spool.events }

/-- `requeue`. -/
def requeue (eventId : Uuid) (spool : Spool) : Spool :=
  { spool with
    events := updateWhere
      (fun row => row.eventId = eventId && row.status ≠ .pending)
      (fun row => { row with
        status := .pending
        attempts := 0
        nextAttemptAt := 0
        lastError := none })
      spool.events }

/-- `delete`. -/
def delete (eventId : Uuid) (spool : Spool) : Spool :=
  { spool with events := spool.events.filter fun row => row.eventId ≠ eventId }

/-! ## Diagnostics -/

/-- `record_diagnostic`, for the codes of the source, which are ASCII. -/
def recordDiagnostic (now : Rat) (code : String) (spool : Spool) : Except SpoolError Spool :=
  let letters := code.toList.filter (· ≠ '_')
  if 1 ≤ code.length && code.length ≤ 100 && !letters.isEmpty && letters.all Char.isAlphanum then
    let row : DiagnosticState :=
      match rowOf DiagnosticState.code spool.diagnostics code with
      | none => ⟨code, now, now, 1⟩
      | some old => { old with lastSeenAt := now, occurrences := old.occurrences + 1 }
    .ok { spool with diagnostics := putRow DiagnosticState.code row spool.diagnostics }
  else .error .unsafeDiagnosticCode

/-! ## What each transaction does to the queue and to the cursors -/

section Effects

variable {spool after : Spool} {now : Rat} {sourceName cursor : String}

/-- A row has the id of an event. -/
theorem any_eventId {eventId : Uuid} :
    (spool.events.any fun row => row.eventId = eventId) = true ↔
      eventId ∈ spool.queued.map (·.eventId) := by
  simp [queued]

/-- A cursor is written under its source; the rows stay. -/
theorem upsertCursor_spec (written : spool.upsertCursor now sourceName cursor = .ok after) :
    after.events = spool.events ∧ after.cursor sourceName = some cursor ∧
      ∀ other, other ≠ sourceName → after.cursor other = spool.cursor other := by
  unfold upsertCursor at written
  split at written
  · cases written
    refine ⟨rfl, ?_, ?_⟩
    · simp [Spool.cursor, rowOf_putRow]
    · intro other different
      simp [Spool.cursor, rowOf_putRow, Ne.symm different]
  · cases written

/-- A cursor is refused by its length alone. -/
theorem upsertCursor_error {failure : SpoolError}
    (refused : spool.upsertCursor now sourceName cursor = .error failure) :
    failure = .integrityError ∧ cursorFits cursor = false := by
  unfold upsertCursor at refused
  split at refused
  · cases refused
  next unfit =>
    cases refused
    exact ⟨rfl, by simpa using unfit⟩

theorem diagnostics_upsertCursor
    (written : spool.upsertCursor now sourceName cursor = .ok after) :
    after.diagnostics = spool.diagnostics := by
  unfold upsertCursor at written
  split at written
  · cases written
    rfl
  · cases written

/-- **The two ways to enqueue.** An event whose id is queued already is dropped,
any other one is queued last; the cursor moves in both cases. -/
theorem enqueueWithCursor_spec {maxEvents : Nat} {enqueuedAt updatedAt : Rat}
    {event : NormalizedEventV1} {result : EnqueueResult}
    (enqueued : spool.enqueueWithCursor maxEvents enqueuedAt updatedAt sourceName cursor event =
      .ok (result, after)) :
    (result = .duplicate ∧ event.eventId ∈ spool.queued.map (·.eventId) ∧
        after.events = spool.events ∨
      result = .inserted ∧ event.eventId ∉ spool.queued.map (·.eventId) ∧
        spool.events.length < maxEvents ∧
        after.events = spool.events ++ [newRow enqueuedAt event]) ∧
      (after.cursor sourceName = some cursor ∧
        ∀ other, other ≠ sourceName → after.cursor other = spool.cursor other) ∧
      after.diagnostics = spool.diagnostics := by
  unfold enqueueWithCursor at enqueued
  split at enqueued
  next present =>
    obtain ⟨written, upserted, pair⟩ := ok_of_map_ok enqueued
    cases pair
    obtain ⟨rows, moved⟩ := upsertCursor_spec upserted
    exact ⟨.inl ⟨rfl, any_eventId.mp present, rows⟩, moved, diagnostics_upsertCursor upserted⟩
  next absent =>
    split at enqueued
    · cases enqueued
    next room =>
      obtain ⟨written, upserted, pair⟩ := ok_of_map_ok enqueued
      cases pair
      obtain ⟨rows, moved⟩ := upsertCursor_spec upserted
      have kept := diagnostics_upsertCursor upserted
      exact ⟨.inr ⟨rfl, fun member => absent (any_eventId.mpr member), by omega, rows⟩, moved, kept⟩

/-- **An event is refused by a full spool, or with its cursor.** -/
theorem enqueueWithCursor_error {maxEvents : Nat} {enqueuedAt updatedAt : Rat}
    {event : NormalizedEventV1} {failure : SpoolError}
    (refused : spool.enqueueWithCursor maxEvents enqueuedAt updatedAt sourceName cursor event =
      .error failure) :
    failure = .spoolFull ∧ event.eventId ∉ spool.queued.map (·.eventId) ∧
        maxEvents ≤ spool.events.length ∨
      failure = .integrityError ∧ cursorFits cursor = false := by
  unfold enqueueWithCursor at refused
  split at refused
  · exact .inr (upsertCursor_error (error_of_map_error refused))
  next absent =>
    split at refused
    next full =>
      cases refused
      exact .inl ⟨rfl, fun member => absent (any_eventId.mpr member), full⟩
    · exact .inr (upsertCursor_error (error_of_map_error refused))

@[simp]
theorem queued_clearCursor : (spool.clearCursor sourceName).queued = spool.queued := rfl

@[simp]
theorem queued_acknowledge (eventIds : List Uuid) :
    (spool.acknowledge eventIds).queued =
      spool.queued.filter fun event => !eventIds.contains event.eventId := by
  simp [queued, acknowledge, List.filter_map, Function.comp_def]

@[simp]
theorem queued_delete (eventId : Uuid) :
    (spool.delete eventId).queued = spool.queued.filter fun event => event.eventId ≠ eventId := by
  simp [queued, delete, List.filter_map, Function.comp_def]

@[simp]
theorem queued_defer (eventIds : List Uuid) (delay : Rat) (errorCode : String) :
    (spool.defer now eventIds delay errorCode).queued = spool.queued := by
  refine map_updateWhere ?_ spool.events
  exact fun _ _ => rfl

@[simp]
theorem queued_requeue (eventId : Uuid) : (spool.requeue eventId).queued = spool.queued := by
  refine map_updateWhere ?_ spool.events
  exact fun _ _ => rfl

theorem queued_quarantine {eventId : Uuid} {status : SpoolStatus} {errorCode : String}
    (quarantined : spool.quarantine eventId status errorCode = .ok after) :
    after.queued = spool.queued := by
  unfold quarantine at quarantined
  split at quarantined
  · cases quarantined
  · cases quarantined
    refine map_updateWhere ?_ spool.events
    exact fun _ _ => rfl

theorem events_recordDiagnostic {code : String}
    (recorded : spool.recordDiagnostic now code = .ok after) : after.events = spool.events := by
  simp only [recordDiagnostic] at recorded
  split at recorded
  · cases recorded
    rfl
  · cases recorded

theorem queued_recordDiagnostic {code : String}
    (recorded : spool.recordDiagnostic now code = .ok after) : after.queued = spool.queued := by
  rw [queued, queued, events_recordDiagnostic recorded]

theorem cursor_recordDiagnostic {code : String}
    (recorded : spool.recordDiagnostic now code = .ok after) (source : String) :
    after.cursor source = spool.cursor source := by
  simp only [recordDiagnostic] at recorded
  split at recorded
  · cases recorded
    rfl
  · cases recorded

/-- A recorded diagnostic is there. -/
theorem diagnostics_recordDiagnostic {code : String}
    (recorded : spool.recordDiagnostic now code = .ok after) :
    ∃ row ∈ after.diagnostics, row.code = code ∧ 1 ≤ row.occurrences := by
  simp only [recordDiagnostic] at recorded
  split at recorded
  · cases recorded
    refine ⟨_, mem_putRow.mpr (.inl rfl), ?_⟩
    cases found : rowOf DiagnosticState.code spool.diagnostics code with
    | none => exact ⟨rfl, Nat.le_refl 1⟩
    | some old => exact ⟨(rowOf_mem found).2, Nat.le_add_left 1 _⟩
  · cases recorded

theorem cursor_clearCursor {source : String} (other : source ≠ sourceName) :
    (spool.clearCursor sourceName).cursor source = spool.cursor source := by
  unfold Spool.cursor clearCursor rowOf
  rw [List.find?_filter]
  congr 2
  funext row
  by_cases same : row.sourceName = source
  · simp [same, other]
  · simp [same]

/-- A transaction works on rows that are there: it adds none, and leaves the
cursors and the diagnostics. -/
structure OnRows (spool after : Spool) : Prop where
  cursors : after.cursors = spool.cursors
  diagnostics : after.diagnostics = spool.diagnostics
  length_le : after.events.length ≤ spool.events.length

theorem OnRows.refl (spool : Spool) : OnRows spool spool := ⟨rfl, rfl, Nat.le_refl _⟩

theorem OnRows.same_cursor (onRows : OnRows spool after) (source : String) :
    after.cursor source = spool.cursor source := by
  unfold Spool.cursor
  rw [onRows.cursors]

theorem onRows_acknowledge (eventIds : List Uuid) : OnRows spool (spool.acknowledge eventIds) :=
  ⟨rfl, rfl, List.length_filter_le _ _⟩

theorem onRows_delete (eventId : Uuid) : OnRows spool (spool.delete eventId) :=
  ⟨rfl, rfl, List.length_filter_le _ _⟩

theorem onRows_defer (eventIds : List Uuid) (delay : Rat) (errorCode : String) :
    OnRows spool (spool.defer now eventIds delay errorCode) :=
  ⟨rfl, rfl, by simp [defer, updateWhere]⟩

theorem onRows_requeue (eventId : Uuid) : OnRows spool (spool.requeue eventId) :=
  ⟨rfl, rfl, by simp [requeue, updateWhere]⟩

theorem onRows_quarantine {eventId : Uuid} {status : SpoolStatus} {errorCode : String}
    (quarantined : spool.quarantine eventId status errorCode = .ok after) :
    OnRows spool after := by
  unfold quarantine at quarantined
  split at quarantined
  · cases quarantined
  · cases quarantined
    exact ⟨rfl, rfl, by simp [updateWhere]⟩

/-- A batch consists of queued events. -/
theorem mem_queued_of_readyBatch {limit : Nat} {batch : List (NormalizedEventV1 × Nat)}
    (ready : spool.readyBatch limit now = .ok batch) {event : NormalizedEventV1}
    (member : event ∈ batch.map Prod.fst) : event ∈ spool.queued := by
  unfold readyBatch at ready
  split at ready
  · cases ready
    simp only [List.map_map, List.mem_map, Function.comp_apply] at member
    obtain ⟨row, taken, rfl⟩ := member
    have sorted := List.mem_of_mem_take taken
    rw [List.mem_insertionSort, List.mem_filter] at sorted
    exact List.mem_map_of_mem sorted.1
  · cases ready

end Effects

end Spool

end WolandGuard.Agent
