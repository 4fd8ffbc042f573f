import WolandGuard.Agent.Spool
import WolandGuard.Foundations.Runs

/-!
# The order of delivery

The table `spool_events` with the `rowid` that SQLite gives to each row, and the
`SELECT` of `ready_batch` with its two sort keys. An insertion takes the `rowid`
above all rows that are present, so a `rowid` comes back when the last rows were
deleted. Beside each row stands the number of its arrival, which no operation
reads: the rows present are always in one order by arrival, by `rowid` and by
time (`Ordered`), whatever was deleted in between, and so a batch is the first due
rows in the order of arrival (`ready_batch_fifo`). The list of rows of the spool
is this table without the keys (`spool_perform`, `readyBatch_spool`).
-/

set_option autoImplicit false

namespace WolandGuard.Agent

open Foundations

/-! ## The table -/

/-- A row with its `rowid`. The arrival counts the insertions before the one of the
row; it is not stored. -/
structure StoredRow where
  rowid : Nat
  arrival : Nat
  row : SpoolEvent

/-- The database, the number of insertions so far, and the clock at its last
reading. -/
structure SpoolTable where
  rows : List StoredRow
  cursors : List SourceCursor
  diagnostics : List DiagnosticState
  arrivals : Nat
  clock : Rat

/-- The `rowid` of the next row: one more than the greatest, from 1. -/
def nextRowid (rows : List StoredRow) : Nat :=
  rows.foldr (fun stored greatest => max stored.rowid greatest) 0 + 1

namespace SpoolTable

/-- The table that `initialize` creates. -/
def initialized (clock : Rat) : SpoolTable := ⟨[], [], [], 0, clock⟩

/-- The spool without the keys of its rows. -/
def spool (table : SpoolTable) : Spool :=
  ⟨table.rows.map (·.row), table.cursors, table.diagnostics⟩

/-- `enqueue_with_cursor`. -/
def enqueueWithCursor (maxEvents : Nat) (enqueuedAt updatedAt : Rat) (sourceName cursor : String)
    (event : NormalizedEventV1) (table : SpoolTable) :
    Except SpoolError (EnqueueResult × SpoolTable) :=
  let written := table.spool.upsertCursor updatedAt sourceName cursor
  if table.rows.any fun stored => stored.row.eventId = event.eventId then
    written.map fun spool => (.duplicate, { table with cursors := spool.cursors })
  else if maxEvents ≤ table.rows.length then .error .spoolFull
  else
    written.map fun spool => (.inserted,
      { table with
        cursors := spool.cursors
        rows := table.rows ++
          [⟨nextRowid table.rows, table.arrivals, Spool.newRow enqueuedAt event⟩]
        arrivals := table.arrivals + 1 })

/-- `UPDATE spool_events SET .. WHERE ..`. -/
def update (condition : SpoolEvent → Bool) (change : SpoolEvent → SpoolEvent)
    (table : SpoolTable) : SpoolTable :=
  { table with
    rows := updateWhere (fun stored => condition stored.row)
      (fun stored => { stored with row := change stored.row }) table.rows }

/-- `DELETE FROM spool_events WHERE ..`. -/
def remove (condition : SpoolEvent → Bool) (table : SpoolTable) : SpoolTable :=
  { table with rows := table.rows.filter fun stored => !condition stored.row }

/-- `acknowledge`. -/
def acknowledge (eventIds : List Uuid) (table : SpoolTable) : SpoolTable :=
  table.remove fun row => eventIds.contains row.eventId

/-- `defer`. -/
def defer (now : Rat) (eventIds : List Uuid) (delay : Rat) (errorCode : String)
    (table : SpoolTable) : SpoolTable :=
  table.update (fun row => eventIds.contains row.eventId && row.status = .pending) fun row =>
    { row with
      attempts := row.attempts + 1
      nextAttemptAt := now + max 0 delay
      lastError := some errorCode }

/-- `quarantine`. -/
def quarantine (eventId : Uuid) (status : SpoolStatus) (errorCode : String) (table : SpoolTable) :
    Except SpoolError SpoolTable :=
  if status = .pending then .error .unsupportedTerminalStatus
  else
    .ok <| table.update (fun row => row.eventId = eventId && row.status = .pending) fun row =>
      { row with
        status := status
        attempts := row.attempts + 1
        lastError := some errorCode }

/-- `requeue`. -/
def requeue (eventId : Uuid) (table : SpoolTable) : SpoolTable :=
  table.update (fun row => row.eventId = eventId && row.status ≠ .pending) fun row =>
    { row with
      status := .pending
      attempts := 0
      nextAttemptAt := 0
      lastError := none }

/-- `delete`. -/
def delete (eventId : Uuid) (table : SpoolTable) : SpoolTable :=
  table.remove fun row => row.eventId = eventId

/-- `status = 'pending' AND next_attempt_at <= ?`. -/
def isDue (now : Rat) (stored : StoredRow) : Bool :=
  stored.row.status = .pending && stored.row.nextAttemptAt ≤ now

/-- `ORDER BY enqueued_at, rowid`. -/
def deliveryOrder (left right : StoredRow) : Prop :=
  left.row.enqueuedAt < right.row.enqueuedAt ∨
    left.row.enqueuedAt = right.row.enqueuedAt ∧ left.rowid ≤ right.rowid

instance (left right : StoredRow) : Decidable (deliveryOrder left right) :=
  inferInstanceAs (Decidable (_ ∨ _))

/-- `ready_batch`. -/
def readyBatch (limit : Nat) (now : Rat) (table : SpoolTable) :
    Except SpoolError (List (NormalizedEventV1 × Nat)) :=
  if 1 ≤ limit ∧ limit ≤ 100 then
    let ordered := (table.rows.filter (isDue now)).insertionSort deliveryOrder
    .ok ((ordered.take limit).map fun stored => (stored.row.event, stored.row.attempts))
  else .error .batchLimit

end SpoolTable

/-! ## Runs -/

/-- A call with the readings of the clock inside it. -/
inductive SpoolCommand where
  | enqueue (enqueuedAt updatedAt : Rat) (sourceName cursor : String) (event : NormalizedEventV1)
  | acknowledge (eventIds : List Uuid)
  | defer (now : Rat) (eventIds : List Uuid) (delay : Rat) (errorCode : String)
  | quarantine (eventId : Uuid) (status : SpoolStatus) (errorCode : String)
  | requeue (eventId : Uuid)
  | delete (eventId : Uuid)

/-- What the call reads off the clock, in order. -/
def SpoolCommand.readings : SpoolCommand → List Rat
  | enqueue enqueuedAt updatedAt _ _ _ => [enqueuedAt, updatedAt]
  | defer now _ _ _ => [now]
  | _ => []

/-- The clock after readings of which none lies before an earlier one. -/
def clockAfter (clock : Rat) : List Rat → Option Rat
  | [] => some clock
  | reading :: rest => if clock ≤ reading then clockAfter reading rest else none

/-- A call on the table: one that raises leaves it as it was. -/
def SpoolTable.perform (maxEvents : Nat) (command : SpoolCommand) (table : SpoolTable) :
    SpoolTable :=
  match command with
  | .enqueue enqueuedAt updatedAt sourceName cursor event =>
      match table.enqueueWithCursor maxEvents enqueuedAt updatedAt sourceName cursor event with
      | .ok (_, after) => after
      | .error _ => table
  | .acknowledge eventIds => table.acknowledge eventIds
  | .defer now eventIds delay errorCode => table.defer now eventIds delay errorCode
  | .quarantine eventId status errorCode =>
      match table.quarantine eventId status errorCode with
      | .ok after => after
      | .error _ => table
  | .requeue eventId => table.requeue eventId
  | .delete eventId => table.delete eventId

/-- A call under a clock that does not go back. -/
def SpoolTable.Step (maxEvents : Nat) (table : SpoolTable) (command : SpoolCommand)
    (after : SpoolTable) : Prop :=
  ∃ clock, clockAfter table.clock command.readings = some clock ∧
    after = { table.perform maxEvents command with clock := clock }

/-! ## The order of the rows -/

/-- What a row is ordered by, and no call changes. -/
structure Place where
  rowid : Nat
  arrival : Nat
  enqueuedAt : Rat

def StoredRow.place (stored : StoredRow) : Place :=
  ⟨stored.rowid, stored.arrival, stored.row.enqueuedAt⟩

/-- One place lies before another by all three keys. -/
structure Place.Before (left right : Place) : Prop where
  rowid : left.rowid < right.rowid
  arrival : left.arrival < right.arrival
  enqueuedAt : left.enqueuedAt ≤ right.enqueuedAt

namespace SpoolTable

variable {maxEvents : Nat} {table after : SpoolTable}

def places (table : SpoolTable) : List Place := table.rows.map (·.place)

/-- **The rows present stand in one order**, and none of them lies in the future. -/
structure Ordered (table : SpoolTable) : Prop where
  before : table.places.Pairwise Place.Before
  arrived : ∀ place ∈ table.places, place.arrival < table.arrivals
  past : ∀ place ∈ table.places, place.enqueuedAt ≤ table.clock

theorem ordered_initialized (clock : Rat) : (initialized clock).Ordered where
  before := List.Pairwise.nil
  arrived := fun _ member => nomatch member
  past := fun _ member => nomatch member

theorem rowid_lt_nextRowid {rows : List StoredRow} {stored : StoredRow} (member : stored ∈ rows) :
    stored.rowid < nextRowid rows := by
  induction rows with
  | nil => cases member
  | cons first rest ih =>
      rw [nextRowid, List.foldr_cons]
      rcases List.mem_cons.mp member with rfl | later
      · omega
      · have below := ih later
        rw [nextRowid] at below
        omega

/-- What a call does to the places: it drops some, or adds one behind all others. -/
theorem places_perform (command : SpoolCommand) :
    (table.perform maxEvents command).places.Sublist table.places ∧
        (table.perform maxEvents command).arrivals = table.arrivals ∨
      ∃ enqueuedAt ∈ command.readings,
        (table.perform maxEvents command).places =
          table.places ++ [⟨nextRowid table.rows, table.arrivals, enqueuedAt⟩] ∧
        (table.perform maxEvents command).arrivals = table.arrivals + 1 := by
  have updated : ∀ (condition : SpoolEvent → Bool) (change : SpoolEvent → SpoolEvent),
      (∀ row, (change row).enqueuedAt = row.enqueuedAt) →
        (table.update condition change).places.Sublist table.places := by
    intro condition change keeps
    have same : (table.update condition change).places = table.places := by
      refine map_updateWhere ?_ table.rows
      intro stored _
      rw [StoredRow.place, StoredRow.place, keeps]
    rw [same]
  have removed : ∀ condition : SpoolEvent → Bool,
      (table.remove condition).places.Sublist table.places :=
    fun condition => List.filter_sublist.map _
  cases command with
  | enqueue enqueuedAt updatedAt sourceName cursor event =>
      rw [perform, enqueueWithCursor]
      cases table.spool.upsertCursor updatedAt sourceName cursor with
      | error failure =>
          left
          split_ifs
          all_goals exact ⟨List.Sublist.refl _, rfl⟩
      | ok written =>
          split_ifs
          · exact .inl ⟨List.Sublist.refl _, rfl⟩
          · exact .inl ⟨List.Sublist.refl _, rfl⟩
          · refine .inr ⟨enqueuedAt, List.mem_cons_self .., ?_, rfl⟩
            rw [places, places]
            exact List.map_append
  | acknowledge eventIds => exact .inl ⟨removed _, rfl⟩
  | defer now eventIds delay errorCode =>
      exact .inl ⟨updated _ _ fun _ => rfl, rfl⟩
  | quarantine eventId status errorCode =>
      left
      rw [perform, quarantine]
      split_ifs
      · exact ⟨List.Sublist.refl _, rfl⟩
      · exact ⟨updated _ _ fun _ => rfl, rfl⟩
  | requeue eventId => exact .inl ⟨updated _ _ fun _ => rfl, rfl⟩
  | delete eventId => exact .inl ⟨removed _, rfl⟩

/-- The clock goes up to each of its readings. -/
theorem clockAfter_spec {clock later : Rat} {readings : List Rat}
    (read : clockAfter clock readings = some later) :
    clock ≤ later ∧ ∀ reading ∈ readings, clock ≤ reading ∧ reading ≤ later := by
  induction readings generalizing clock with
  | nil =>
      obtain rfl := Option.some.inj read
      exact ⟨le_refl _, fun _ member => nomatch member⟩
  | cons first rest ih =>
      rw [clockAfter] at read
      split at read
      next advanced =>
        obtain ⟨onward, others⟩ := ih read
        refine ⟨le_trans advanced onward, ?_⟩
        intro reading member
        rcases List.mem_cons.mp member with rfl | later_one
        · exact ⟨advanced, onward⟩
        · obtain ⟨from_first, to_last⟩ := others reading later_one
          exact ⟨le_trans advanced from_first, to_last⟩
      · cases read

/-- **Every call keeps the order.** A new row has the greatest `rowid` of those
present, also when a deleted row had it before. -/
theorem ordered_step {command : SpoolCommand} (ordered : table.Ordered)
    (step : Step maxEvents table command after) : after.Ordered := by
  obtain ⟨clock, read, rfl⟩ := step
  obtain ⟨advanced, readings⟩ := clockAfter_spec read
  rcases places_perform command with ⟨dropped, same⟩ | ⟨enqueuedAt, reading, appended, counted⟩
  · refine ⟨ordered.before.sublist dropped, ?_, ?_⟩
    · intro place member
      change place.arrival < (table.perform maxEvents command).arrivals
      rw [same]
      exact ordered.arrived place (dropped.subset member)
    · intro place member
      exact le_trans (ordered.past place (dropped.subset member)) advanced
  · obtain ⟨after_clock, until_clock⟩ := readings enqueuedAt reading
    have cases_of : ∀ place ∈ (table.perform maxEvents command).places,
        place ∈ table.places ∨ place = ⟨nextRowid table.rows, table.arrivals, enqueuedAt⟩ := by
      intro place member
      rw [appended, List.mem_append, List.mem_singleton] at member
      exact member
    refine ⟨?_, ?_, ?_⟩
    · change (table.perform maxEvents command).places.Pairwise Place.Before
      rw [appended]
      refine List.pairwise_append.mpr ⟨ordered.before, List.pairwise_singleton _ _, ?_⟩
      intro old present new last
      obtain rfl := List.mem_singleton.mp last
      obtain ⟨stored, member, rfl⟩ := List.mem_map.mp present
      exact
        { rowid := rowid_lt_nextRowid member
          arrival := ordered.arrived _ present
          enqueuedAt := le_trans (ordered.past _ present) after_clock }
    · intro place member
      change place.arrival < (table.perform maxEvents command).arrivals
      rw [counted]
      rcases cases_of place member with old | rfl
      · exact Nat.lt_succ_of_lt (ordered.arrived place old)
      · exact Nat.lt_succ_self _
    · intro place member
      rcases cases_of place member with old | rfl
      · exact le_trans (ordered.past place old) advanced
      · exact until_clock

theorem ordered_of_run {clock : Rat} {path : List (Taken SpoolTable SpoolCommand)}
    (run : Run (Step maxEvents) (initialized clock) path table) : table.Ordered :=
  run.invariant (fun _ _ _ ordered step => ordered_step ordered step) (ordered_initialized clock)

/-! ## Batches -/

/-- Due rows that stand in order are sorted already. -/
theorem due_in_order (ordered : table.Ordered) (now : Rat) :
    (table.rows.filter (isDue now)).insertionSort deliveryOrder = table.rows.filter (isDue now) := by
  refine List.Pairwise.insertionSort_eq ?_
  refine List.Pairwise.sublist List.filter_sublist ?_
  refine (List.pairwise_map.mp ordered.before).imp ?_
  intro left right before
  rcases lt_or_eq_of_le before.enqueuedAt with earlier | tie
  · exact .inl earlier
  · exact .inr ⟨tie, Nat.le_of_lt before.rowid⟩

/-- **Delivery is first in, first out**: a batch has the first due rows in the order
of their arrival, also among rows of one instant and with a `rowid` used again. -/
theorem ready_batch_fifo {clock : Rat} {path : List (Taken SpoolTable SpoolCommand)}
    (run : Run (Step maxEvents) (initialized clock) path table) {limit : Nat} (now : Rat)
    (least : 1 ≤ limit) (most : limit ≤ 100) :
    ∃ arrived : List StoredRow, arrived.Perm (table.rows.filter (isDue now)) ∧
      arrived.Pairwise (fun left right => left.arrival < right.arrival) ∧
      table.readyBatch limit now =
        .ok ((arrived.take limit).map fun stored => (stored.row.event, stored.row.attempts)) := by
  have ordered := ordered_of_run run
  refine ⟨table.rows.filter (isDue now), List.Perm.refl _, ?_, ?_⟩
  · refine List.Pairwise.sublist List.filter_sublist ?_
    refine (List.pairwise_map.mp ordered.before).imp ?_
    intro left right before
    exact before.arrival
  · rw [readyBatch, if_pos ⟨least, most⟩, due_in_order ordered]

/-- The step of a call, unless the clock went back. -/
def next (maxEvents : Nat) (table : SpoolTable) (command : SpoolCommand) :
    Option (SpoolCommand × SpoolTable) :=
  (clockAfter table.clock command.readings).map fun clock =>
    (command, { table.perform maxEvents command with clock := clock })

theorem step_of_next (before : SpoolTable) (command label : SpoolCommand) (after : SpoolTable)
    (taken : next maxEvents before command = some (label, after)) :
    Step maxEvents before label after := by
  obtain ⟨clock, read, same⟩ := Option.map_eq_some_iff.mp taken
  obtain ⟨rfl, rfl⟩ := Prod.mk.inj same
  exact ⟨clock, read, rfl⟩

/-- An event with a number for an id. -/
def numberedEvent (id : Uuid) : NormalizedEventV1 :=
  ⟨id, 1, .journald, "linux.file.changed", 0, 0, .null⟩

/-- Three events at one instant, of which the second is deleted before the third
comes. -/
def reusedRowid : List SpoolCommand :=
  [.enqueue 1 1 "journald" "a" (numberedEvent 30), .enqueue 1 1 "journald" "b" (numberedEvent 20),
    .delete 20, .enqueue 1 1 "journald" "c" (numberedEvent 10)]

/-- The third event has the `rowid` of the deleted one, and is delivered last. -/
theorem ready_batch_fifo_reused_rowid : ∃ path table,
    Run (Step 10) (initialized 0) path table ∧ table.rows.map (·.rowid) = [1, 2] ∧
      ∃ arrived : List StoredRow, arrived.Perm (table.rows.filter (isDue 2)) ∧
        arrived.Pairwise (fun left right => left.arrival < right.arrival) ∧
        table.readyBatch 5 2 =
          .ok ((arrived.take 5).map fun stored => (stored.row.event, stored.row.attempts)) := by
  obtain ⟨⟨path, table⟩, taken⟩ : ∃ ran, Run.scheduled (next 10) (initialized 0) reusedRowid =
    some ran := Option.isSome_iff_exists.mp (by decide +kernel)
  have rowids : ((Run.scheduled (next 10) (initialized 0) reusedRowid).map fun ran =>
      ran.2.rows.map (·.rowid)) = some [1, 2] := by decide +kernel
  rw [taken] at rowids
  have run : Run (Step 10) (initialized 0) path table := Run.of_scheduled step_of_next taken
  exact ⟨path, table, run, Option.some.inj rowids,
    ready_batch_fifo run 2 (by decide) (by decide)⟩

/-! ## The spool without the keys -/

/-- A call on the spool, which keeps its rows in the order of `rowid`. -/
def onSpool (maxEvents : Nat) (command : SpoolCommand) (spool : Spool) : Spool :=
  match command with
  | .enqueue enqueuedAt updatedAt sourceName cursor event =>
      match spool.enqueueWithCursor maxEvents enqueuedAt updatedAt sourceName cursor event with
      | .ok (_, after) => after
      | .error _ => spool
  | .acknowledge eventIds => spool.acknowledge eventIds
  | .defer now eventIds delay errorCode => spool.defer now eventIds delay errorCode
  | .quarantine eventId status errorCode =>
      match spool.quarantine eventId status errorCode with
      | .ok after => after
      | .error _ => spool
  | .requeue eventId => spool.requeue eventId
  | .delete eventId => spool.delete eventId

theorem spool_update (condition : SpoolEvent → Bool) (change : SpoolEvent → SpoolEvent) :
    (table.update condition change).spool =
      { table.spool with events := updateWhere condition change table.spool.events } := by
  rw [spool, spool, update, updateWhere, updateWhere, List.map_map, List.map_map]
  congr 2
  funext stored
  dsimp only [Function.comp_apply]
  split
  all_goals rfl

theorem spool_remove (condition : SpoolEvent → Bool) :
    (table.remove condition).spool =
      { table.spool with events := table.spool.events.filter fun row => !condition row } := by
  rw [spool, spool, remove, List.filter_map]
  rfl

/-- **Every call does to the table what it does to the spool.** -/
theorem spool_perform (command : SpoolCommand) :
    (table.perform maxEvents command).spool = onSpool maxEvents command table.spool := by
  cases command with
  | enqueue enqueuedAt updatedAt sourceName cursor event =>
      have present : (table.spool.events.any fun row => decide (row.eventId = event.eventId)) =
          table.rows.any fun stored => decide (stored.row.eventId = event.eventId) :=
        List.any_map
      have length : table.spool.events.length = table.rows.length := List.length_map _
      rw [perform, onSpool, enqueueWithCursor, Spool.enqueueWithCursor, present, length]
      dsimp only [Spool.upsertCursor]
      split_ifs
      · rfl
      · rfl
      · rfl
      · rw [spool, Except.map]
        dsimp only
        rw [List.map_append]
        rfl
      · rfl
  | acknowledge eventIds => exact spool_remove _
  | defer now eventIds delay errorCode => exact spool_update _ _
  | quarantine eventId status errorCode =>
      rw [perform, onSpool, quarantine, Spool.quarantine]
      split_ifs
      · rfl
      · exact spool_update _ _
  | requeue eventId => exact spool_update _ _
  | delete eventId =>
      rw [perform, delete, spool_remove, onSpool, Spool.delete]
      simp

/-- **The batches of an ordered table are those of the spool.** -/
theorem readyBatch_spool (ordered : table.Ordered) (limit : Nat) (now : Rat) :
    table.spool.readyBatch limit now = table.readyBatch limit now := by
  have due : table.spool.events.filter
      (fun row => decide (row.status = .pending) && decide (row.nextAttemptAt ≤ now)) =
        (table.rows.filter (isDue now)).map (·.row) := List.filter_map
  have sorted : ((table.rows.filter (isDue now)).map (·.row)).insertionSort
      (fun left right => left.enqueuedAt ≤ right.enqueuedAt) =
        (table.rows.filter (isDue now)).map (·.row) := by
    refine List.Pairwise.insertionSort_eq (List.pairwise_map.mpr ?_)
    refine List.Pairwise.sublist List.filter_sublist ?_
    refine (List.pairwise_map.mp ordered.before).imp ?_
    intro left right before
    exact before.enqueuedAt
  rw [Spool.readyBatch, readyBatch, due, due_in_order ordered]
  dsimp only
  rw [sorted, ← List.map_take, List.map_map]
  rfl

end SpoolTable

end WolandGuard.Agent
