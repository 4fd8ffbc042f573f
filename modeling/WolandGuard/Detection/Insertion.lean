import WolandGuard.Detection.Transactions
import WolandGuard.Foundations.Sightings

/-!
# What an ingestion inserts

A committed ingestion appends rows under unique keys that no committed row has,
and hands exactly these to the detection. Every other event of its batch was
stored already when the insertion met it. Events are never deleted, so it still
is when the ingestion commits.
-/

set_option autoImplicit false

namespace WolandGuard

/-- `uq_events_server_id_agent_event_id`. -/
def Event.deliveryKey (event : Event) : Uuid × Uuid := (event.serverId, event.agentEventId)

namespace Detection.Concurrent

open Foundations Outbox Incidents

theorem hasEvent_iff {events : List Event} {serverId agentEventId : Uuid} :
    hasEvent events serverId agentEventId = true ↔
      (serverId, agentEventId) ∈ events.map Event.deliveryKey := by
  simp [hasEvent, Event.deliveryKey]

section Insert

variable {visible : WorkflowTables → Prop} {held : List LockKey} {state after : WorkflowTables}
variable {answer : Answer}

/-- An execution that has seen visible states. -/
abbrev Sees (visible : WorkflowTables → Prop) (program : WorkflowProgram) (held : List LockKey)
    (state after : WorkflowTables) (answer : Answer) : Prop :=
  program.PerformsSeeing SameUnder visible held state after answer

/-- A key that a transaction does not see as new has been seen stored. -/
def SeenStored (visible : WorkflowTables → Prop) (key : Uuid × Uuid) : Prop :=
  ∃ seen, visible seen ∧ key ∈ seen.tables.events.map Event.deliveryKey

/-- The rows that a batch inserts are new, and the others were seen stored. -/
theorem insertEventBatch_sees {rows inserted : List Event} {next : List Event → WorkflowProgram}
    (sees : Sees visible (insertEventBatch rows inserted next) held state after answer) :
    ∃ fresh more, Sees visible (next (inserted ++ fresh)) more state after answer ∧
      fresh.Sublist rows ∧ (fresh.map Event.deliveryKey).Nodup ∧
      (∀ key ∈ fresh.map Event.deliveryKey, key ∉ (state.tables.events ++ inserted).map Event.deliveryKey) ∧
      ∀ row ∈ rows, row.deliveryKey ∈ (inserted ++ fresh).map Event.deliveryKey ∨ SeenStored visible row.deliveryKey := by
  induction rows generalizing inserted held with
  | nil => exact ⟨[], held, by simpa [insertEventBatch] using sees, .slnil, List.nodup_nil, by simp, by simp⟩
  | cons row rest ih =>
      unfold insertEventBatch at sees
      cases sees with
      | claimUsed seen shown stored sees =>
          obtain ⟨fresh, more, continued, sublist, unique, unknown, accounted⟩ := ih sees
          refine ⟨fresh, more, continued, sublist.cons row, unique, unknown, ?_⟩
          intro other member
          rcases List.mem_cons.mp member with rfl | later
          · rw [hasEvent_iff, List.map_append, List.mem_append] at stored
            rcases stored with before | own
            · exact .inr ⟨seen, shown, before⟩
            · exact .inl (by rw [List.map_append]; exact List.mem_append_left _ own)
          · exact accounted other later
      | claimFree free sees =>
          cases sees with
          | peek seen shown agree sees =>
              dsimp only at sees
              split at sees
              · cases sees
              · obtain ⟨fresh, more, continued, sublist, unique, unknown, accounted⟩ := ih sees
                have new_key : row.deliveryKey ∉ (state.tables.events ++ inserted).map Event.deliveryKey := by
                  intro known
                  exact Bool.false_ne_true (free.symm.trans (hasEvent_iff.mpr known))
                simp only [List.append_assoc, List.singleton_append] at continued accounted unknown
                refine ⟨row :: fresh, more, continued, sublist.cons_cons row, ?_, ?_, ?_⟩
                · refine List.nodup_cons.mpr ⟨fun repeated => ?_, unique⟩
                  exact unknown _ repeated (by simp)
                · intro key member
                  rcases List.mem_cons.mp member with rfl | later
                  · exact new_key
                  · intro known
                    refine unknown key later ?_
                    simp only [List.map_append, List.map_cons, List.mem_append] at known ⊢
                    tauto
                · intro other member
                  rcases List.mem_cons.mp member with rfl | later
                  · exact .inl (by simp)
                  · exact accounted other later

end Insert

section Detect

variable {draws : Draws} {maxAttempts : Nat} {own : List Writes}
variable {state after : WorkflowTables} {answer : Answer}

/-- The turns of the detection insert no events. -/
theorem runTurns_events {items : List (Event × DetectionRuleVersion)}
    {next : List Writes → WorkflowProgram}
    (performs : (runTurns draws maxAttempts items own next).Performs state after answer) :
    ∃ all, (seenBy all state.tables).events = (seenBy own state.tables).events ∧
      (next all).Performs state after answer := by
  induction items generalizing own with
  | nil => exact ⟨own, rfl, performs⟩
  | cons item rest ih =>
      rcases detectOne_performs performs with unmatched | ⟨writes, matched, performs⟩
      · exact ih unmatched
      · obtain ⟨all, same, performs⟩ := ih performs
        refine ⟨all, same.trans ?_, performs⟩
        cases matched <;> simp [linkWrites]

/-- What `run_detection` does with the new events of a batch. -/
def detection (draws : Draws) (maxAttempts : Nat) (newEvents : List Event) : WorkflowProgram :=
  .peek fun state =>
    runTurns draws maxAttempts (turns (activeRules state.tables) newEvents) [.ofEvents newEvents]
      fun own =>
        .commit (fun state => { state with tables := seenBy own state.tables })
          (.ingested newEvents.length)

theorem detection_events {newEvents : List Event}
    (performs : (detection draws maxAttempts newEvents).Performs state after answer) :
    after.tables.events = state.tables.events ++ newEvents ∧
      answer = .ingested newEvents.length := by
  cases performs with
  | peek seen performs =>
      obtain ⟨all, same, performs⟩ := runTurns_events performs
      cases performs with
      | commit => exact ⟨by simpa [Writes.ofEvents] using same, rfl⟩

/-- A committed ingestion of a batch, with the rows it inserted. -/
structure Ingested (draws : Draws) (maxAttempts : Nat) (rows newEvents : List Event)
    (visible : WorkflowTables → Prop) (state after : WorkflowTables) (answer : Answer) : Prop where
  appended : after.tables.events = state.tables.events ++ newEvents
  answered : answer = .ingested newEvents.length
  fromBatch : newEvents.Sublist rows
  unique : (newEvents.map Event.deliveryKey).Nodup
  unknown : ∀ key ∈ newEvents.map Event.deliveryKey, key ∉ state.tables.events.map Event.deliveryKey
  accounted : ∀ row ∈ rows, row.deliveryKey ∈ newEvents.map Event.deliveryKey ∨ SeenStored visible row.deliveryKey
  /-- The detection runs on the new events, when there are any. -/
  detected : newEvents ≠ [] → (detection draws maxAttempts newEvents).Performs state after answer
  /-- Otherwise nothing is written. -/
  undetected : newEvents = [] → after = state

/-- **A committed ingestion stores its new events and detects on them.** -/
theorem ingestEvents_sees {visible : WorkflowTables → Prop} {held : List LockKey} {serverId : Uuid}
    {now : Int} {batch : List NormalizedEventV1}
    (sees : Sees visible (ingestEvents draws maxAttempts serverId now batch) held state after
      answer) :
    ∃ newEvents, Ingested draws maxAttempts (batch.map (eventRow draws serverId now)) newEvents
      visible state after answer := by
  obtain ⟨fresh, more, continued, sublist, unique, unknown, accounted⟩ := insertEventBatch_sees sees
  simp only [List.nil_append, List.append_nil] at continued unknown accounted
  refine ⟨fresh, ?_⟩
  cases fresh with
  | nil =>
      cases continued with
      | commit =>
          exact ⟨by simp, rfl, sublist, unique, unknown, accounted, fun nonempty =>
            absurd rfl nonempty, fun _ => rfl⟩
  | cons row rest =>
      have detects : (detection draws maxAttempts (row :: rest)).Performs state after answer :=
        continued.performs
      obtain ⟨appended, answered⟩ := detection_events detects
      exact ⟨appended, answered, sublist, unique, unknown, accounted, fun _ => detects,
        fun empty => absurd empty (List.cons_ne_nil row rest)⟩

end Detect

end Detection.Concurrent

end WolandGuard
