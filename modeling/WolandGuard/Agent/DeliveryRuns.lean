import WolandGuard.Agent.Normalization
import WolandGuard.Agent.Rounds
import WolandGuard.Foundations.Runs

/-!
# Runs of deliveries

The delivery loop calls `deliver_once` again and again, while the collectors and
the operator work on the same spool. A run is any sequence of these; what the
calls meet is left to their type `κ`.
-/

set_option autoImplicit false

namespace WolandGuard.Agent

open Foundations

/-- `event_id` is the primary key of `spool_events`. -/
def Spool.UniqueIds (spool : Spool) : Prop := (spool.events.map (·.eventId)).Nodup

theorem Spool.uniqueIds_iff {spool : Spool} :
    spool.UniqueIds ↔ (spool.queued.map (·.eventId)).Nodup := by
  simp [UniqueIds, queued, Function.comp_def]

/-- Two rows with one id are one row. -/
theorem Spool.UniqueIds.eq {spool : Spool} (unique : spool.UniqueIds) {left right : SpoolEvent}
    (first : left ∈ spool.events) (second : right ∈ spool.events)
    (same : left.eventId = right.eventId) : left = right :=
  List.inj_on_of_nodup_map unique first second same

/-- What happens to the spool and to the delivery manager. -/
inductive Activity (κ : Type) where
  | deliver (call : κ)
  | enqueue (event : NormalizedEventV1)
  | requeue (eventId : Uuid)
  | delete (eventId : Uuid)
  /-- A transaction on cursors or diagnostics. -/
  | note
  | restart

section System

variable {κ : Type} (settings : DeliverySettings)
variable (moment : κ → Moment) (send : κ → List NormalizedEventV1 → TransportResult)

inductive DeliveryState.Step : DeliveryState → Activity κ → DeliveryState → Prop where
  | deliver {state : DeliveryState} (call : κ) :
      Step state (.deliver call) (deliverOnce settings (send call) (moment call) state).1
  | enqueue {state : DeliveryState} {maxEvents : Nat} {enqueuedAt updatedAt : Rat}
      {source cursor : String} {event : NormalizedEventV1} {result : EnqueueResult}
      {spool : Spool} :
      state.spool.enqueueWithCursor maxEvents enqueuedAt updatedAt source cursor event =
        .ok (result, spool) →
      Step state (.enqueue event) { state with spool := spool }
  | requeue {state : DeliveryState} (eventId : Uuid) :
      Step state (.requeue eventId) { state with spool := state.spool.requeue eventId }
  | delete {state : DeliveryState} (eventId : Uuid) :
      Step state (.delete eventId) { state with spool := state.spool.delete eventId }
  | note {state : DeliveryState} {spool : Spool} : spool.events = state.spool.events →
      Step state .note { state with spool := spool }
  | restart {state : DeliveryState} :
      Step state .restart { state with currentBatchSize := settings.configuredBatchSize }

variable {settings moment send}

/-- A call deletes rows of the queue or leaves them. -/
theorem queued_deliverOnce (request : List NormalizedEventV1 → TransportResult) (moment : Moment)
    (state : DeliveryState) :
    (deliverOnce settings request moment state).1.spool.queued.Sublist state.spool.queued := by
  by_cases silent : transmitted moment state = []
  · rw [deliverOnce_idle silent]
  · rw [deliverOnce_transmits silent]
    rcases afterSend_spec settings moment.deferredAt moment.random (transmitted moment state)
      (request ((transmitted moment state).map Prod.fst)) state with ⟨_, filtered⟩ | same
    · rw [filtered]
      exact List.filter_sublist
    · rw [same]

/-- A call transmits no more than the batch size. -/
theorem length_transmitted_le (moment : Moment) (state : DeliveryState) :
    (transmitted moment state).length ≤ state.currentBatchSize := by
  by_cases silent : transmitted moment state = []
  · rw [silent]
    exact Nat.zero_le _
  · obtain ⟨rows, batch, _, sent⟩ := transmitted_spec silent
    rw [sent, List.length_map]
    exact batch.length_le

/-- The result for a batch keeps the batch size between 1 and the configured size. -/
theorem currentBatchSize_afterSend {queued : QueuedEvents} {now random : Rat}
    {result : TransportResult} (state : DeliveryState) (sent : queued ≠ [])
    (positive : 1 ≤ settings.configuredBatchSize)
    (within : 1 ≤ state.currentBatchSize ∧ state.currentBatchSize ≤ settings.configuredBatchSize)
    (short : queued.length ≤ settings.configuredBatchSize) :
    1 ≤ (afterSend settings now queued random result state).1.currentBatchSize ∧
      (afterSend settings now queued random result state).1.currentBatchSize ≤
        settings.configuredBatchSize := by
  have cases := afterSend_cases settings queued random result now state sent
  generalize afterSend settings now queued random result state = answered at cases ⊢
  cases cases with
  | delivered success => exact ⟨positive, Nat.le_refl _⟩
  | deferred delay =>
      dsimp only [sizeAfterFailure]
      split
      · omega
      · exact within
  | setAside => exact within

/-- A call keeps the batch size between 1 and the configured size. -/
theorem currentBatchSize_deliverOnce (request : List NormalizedEventV1 → TransportResult)
    (moment : Moment) {state : DeliveryState} (positive : 1 ≤ settings.configuredBatchSize)
    (within : 1 ≤ state.currentBatchSize ∧ state.currentBatchSize ≤ settings.configuredBatchSize) :
    1 ≤ (deliverOnce settings request moment state).1.currentBatchSize ∧
      (deliverOnce settings request moment state).1.currentBatchSize ≤
        settings.configuredBatchSize := by
  by_cases silent : transmitted moment state = []
  · rw [deliverOnce_idle silent]
    exact within
  rw [deliverOnce_transmits silent]
  exact currentBatchSize_afterSend state silent positive within
    ((length_transmitted_le moment state).trans within.2)

/-- **The batch size stays between 1 and the configured size.** -/
theorem DeliveryState.Step.currentBatchSize {state after : DeliveryState} {activity : Activity κ}
    (step : DeliveryState.Step settings moment send state activity after)
    (positive : 1 ≤ settings.configuredBatchSize)
    (within : 1 ≤ state.currentBatchSize ∧ state.currentBatchSize ≤ settings.configuredBatchSize) :
    1 ≤ after.currentBatchSize ∧ after.currentBatchSize ≤ settings.configuredBatchSize := by
  cases step with
  | deliver call => exact currentBatchSize_deliverOnce _ _ positive within
  | restart => exact ⟨positive, Nat.le_refl _⟩
  | _ => exact within

theorem uniqueIds_deliverOnce (request : List NormalizedEventV1 → TransportResult)
    (moment : Moment) {state : DeliveryState} (unique : state.spool.UniqueIds) :
    (deliverOnce settings request moment state).1.spool.UniqueIds := by
  rw [Spool.uniqueIds_iff] at unique ⊢
  exact unique.sublist ((queued_deliverOnce request moment state).map (·.eventId))

/-- **The ids of the rows stay unique.** -/
theorem DeliveryState.Step.uniqueIds {state after : DeliveryState} {activity : Activity κ}
    (step : DeliveryState.Step settings moment send state activity after)
    (unique : state.spool.UniqueIds) : after.spool.UniqueIds := by
  rw [Spool.uniqueIds_iff] at unique ⊢
  cases step with
  | deliver call =>
      exact Spool.uniqueIds_iff.mp (uniqueIds_deliverOnce _ _ (Spool.uniqueIds_iff.mpr unique))
  | enqueue enqueued =>
      obtain ⟨⟨_, _, same⟩ | ⟨_, unknown, _, appended⟩, _⟩ := Spool.enqueueWithCursor_spec enqueued
      · rwa [Spool.queued, same]
      · rw [Spool.queued, appended, List.map_append, List.map_append]
        refine List.nodup_append.mpr ⟨unique, List.nodup_singleton _, ?_⟩
        rintro left known right fresh rfl
        obtain rfl := List.mem_singleton.mp fresh
        exact unknown known
  | requeue eventId => rwa [Spool.queued_requeue]
  | delete eventId =>
      rw [Spool.queued_delete]
      have kept : (state.spool.queued.filter fun event => event.eventId ≠ eventId).Sublist
        state.spool.queued := List.filter_sublist
      exact unique.sublist (kept.map (·.eventId))
  | note same => rwa [Spool.queued, same]
  | restart => exact unique

/-- In a run they are unique around every step. -/
theorem uniqueIds_at {start finish : DeliveryState}
    {path : List (Taken DeliveryState (Activity κ))}
    (run : Run (DeliveryState.Step settings moment send) start path finish)
    (unique : start.spool.UniqueIds) {taken : Taken DeliveryState (Activity κ)}
    (member : taken ∈ path) : taken.before.spool.UniqueIds ∧ taken.after.spool.UniqueIds :=
  run.invariant_at (fun _ _ _ unique step => step.uniqueIds unique) unique member

end System

/-! ## One queued event -/

/-- A failed login, collected at an instant. -/
def failedLogin (collectedAt : Int) : NormalizedEventV1 where
  eventId := 7
  schemaVersion := 1
  source := .journald
  eventType := "linux.ssh.login_failed"
  occurredAt := collectedAt
  collectedAt := collectedAt
  payload := .obj
    [("schema_version", .int 1), ("event_id", .str (Uuid.text 7)),
      ("occurred_at", .str (instantText collectedAt)),
      ("collected_at", .str (instantText collectedAt)), ("source", .str "journald"),
      ("event_type", .str "linux.ssh.login_failed"), ("actor", .str "root"),
      ("source_ip", .str "203.0.113.7"), ("summary", .str "SSH login failed"),
      ("attributes", .obj [])]

/-- The defaults of the agent. -/
def defaultDelivery : DeliverySettings := ⟨100, 1, 300, 300⟩

/-- A spool with one event to be sent. -/
def oneQueued (event : NormalizedEventV1) : DeliveryState where
  spool := ⟨[Spool.newRow 0 event], [], []⟩
  currentBatchSize := 100

theorem uniqueIds_oneQueued (event : NormalizedEventV1) : (oneQueued event).spool.UniqueIds :=
  List.nodup_singleton _

end WolandGuard.Agent
