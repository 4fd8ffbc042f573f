import Mathlib.Data.List.Perm.Subperm
import WolandGuard.Agent.Delivery

/-!
# One call of `deliver_once`

A call takes a batch of the rows that are due, sends it, and does one of three
things with it: it deletes the rows, puts them off, or sets a single event
aside. `AfterSend` lists these with everything that they change.
-/

set_option autoImplicit false

namespace WolandGuard.Agent

open Foundations

/-! ## Due rows -/

/-- `status = 'pending' AND next_attempt_at <= now`. -/
def SpoolEvent.due (now : Rat) (row : SpoolEvent) : Bool :=
  row.status = .pending && row.nextAttemptAt ≤ now

/-- What `ready_batch` makes of a row. -/
def SpoolEvent.asQueued (row : SpoolEvent) : NormalizedEventV1 × Nat := (row.event, row.attempts)

/-- The rows of a batch: as many due rows as the limit allows. -/
structure DueBatch (spool : Spool) (limit : Nat) (now : Rat) (rows : List SpoolEvent) : Prop where
  due : List.Subperm rows (spool.events.filter (SpoolEvent.due now))
  length_eq : rows.length = min limit (spool.events.filter (SpoolEvent.due now)).length

section Batches

variable {spool : Spool} {limit : Nat} {now : Rat} {rows : List SpoolEvent}

theorem DueBatch.mem (batch : DueBatch spool limit now rows) {row : SpoolEvent}
    (member : row ∈ rows) : row ∈ spool.events ∧ row.status = .pending ∧ row.nextAttemptAt ≤ now := by
  have due := batch.due.subset member
  simpa [SpoolEvent.due, List.mem_filter] using due

theorem DueBatch.length_le (batch : DueBatch spool limit now rows) : rows.length ≤ limit :=
  batch.length_eq ▸ Nat.min_le_left _ _

/-- A batch is empty when no row is due. -/
theorem DueBatch.eq_nil (batch : DueBatch spool limit now rows) (empty : rows = [])
    (positive : 0 < limit) {row : SpoolEvent} (member : row ∈ spool.events) :
    ¬ row.due now := by
  intro due
  have length := batch.length_eq
  have listed : row ∈ spool.events.filter (SpoolEvent.due now) := List.mem_filter.mpr ⟨member, due⟩
  have counted := List.length_pos_of_mem listed
  rw [empty, List.length_nil] at length
  omega

/-- **`ready_batch` reads due rows, oldest first.** -/
theorem readyBatch_ok (spool : Spool) (now : Rat) (within : 1 ≤ limit ∧ limit ≤ 100) :
    ∃ rows, DueBatch spool limit now rows ∧
      spool.readyBatch limit now = .ok (rows.map SpoolEvent.asQueued) := by
  let due := spool.events.filter (SpoolEvent.due now)
  let ordered := due.insertionSort fun left right => left.enqueuedAt ≤ right.enqueuedAt
  have perm : ordered.Perm due := List.perm_insertionSort _ _
  refine ⟨ordered.take limit, ⟨?_, ?_⟩, ?_⟩
  · exact (List.take_sublist limit ordered).subperm.trans perm.subperm
  · rw [List.length_take, perm.length_eq]
  · rw [Spool.readyBatch, if_pos within]
    rfl

theorem readyBatch_error (outside : ¬ (1 ≤ limit ∧ limit ≤ 100)) :
    spool.readyBatch limit now = .error .batchLimit := by
  rw [Spool.readyBatch, if_neg outside]

end Batches

/-! ## Calls -/

/-- The readings of the clock in a call, and the number that the backoff draws. -/
structure Moment where
  readAt : Rat
  deferredAt : Rat
  random : Rat

section Calls

variable (settings : DeliverySettings) (send : List NormalizedEventV1 → TransportResult)
variable (moment : Moment)

/-- `deliver_once`, where `send` is the request with its reply. -/
def deliverOnce (state : DeliveryState) : DeliveryState × DeliveryAction :=
  match state.spool.readyBatch state.currentBatchSize moment.readAt with
  | .error _ => (state, .idle)
  | .ok [] => (state, .idle)
  | .ok (first :: rest) =>
      let queued : QueuedEvents := first :: rest
      afterSend settings moment.deferredAt queued moment.random (send (queued.map Prod.fst)) state

/-- The batch that a call transmits; it is empty when the call transmits none. -/
def transmitted (state : DeliveryState) : QueuedEvents :=
  match state.spool.readyBatch state.currentBatchSize moment.readAt with
  | .error _ => []
  | .ok queued => queued

variable (queued : QueuedEvents) (random : Rat) (result : TransportResult)

/-- Whether a failure is handled by `_handle_splittable_failure`, with the status
of a single event. -/
def DeliveryClass.terminalStatus : DeliveryClass → Option SpoolStatus
  | .payloadTooLarge => some .oversized
  | .unprocessable => some .quarantined
  | _ => none

/-- The delay that the rows of a failed batch are put off by. -/
def deferralDelay : Option Rat :=
  match result.classification with
  | .success => none
  | .authentication | .forbidden => some settings.authenticationRetrySeconds
  | .payloadTooLarge | .unprocessable => if 1 < queued.length then some 0 else none
  | .rateLimited =>
      some (result.retryAfterSeconds.getD (settings.delay queued.attempts random))
  | .serverError | .networkError | .protocolError =>
      some (settings.delay queued.attempts random)

/-- The batch size after a failure. -/
def sizeAfterFailure (currentBatchSize : Nat) : Nat :=
  if result.classification.terminalStatus.isSome then max 1 (queued.length / 2)
  else currentBatchSize

/-- The three ways that a call ends. -/
inductive AfterSend (now : Rat) (state : DeliveryState) : DeliveryState × DeliveryAction → Prop where
  | delivered : result.classification = .success →
      AfterSend now state
        (⟨state.spool.acknowledge queued.ids, settings.configuredBatchSize⟩, .delivered)
  | deferred {delay : Rat} : deferralDelay settings queued random result = some delay →
      AfterSend now state
        (⟨state.spool.defer now queued.ids delay result.classification.value,
          sizeAfterFailure queued result state.currentBatchSize⟩, .deferred)
  | setAside {event : NormalizedEventV1} {attempts : Nat} {status : SpoolStatus} {spool : Spool} :
      queued = [(event, attempts)] → result.classification.terminalStatus = some status →
      state.spool.quarantine event.eventId status result.classification.value = .ok spool →
      AfterSend now state (⟨spool, state.currentBatchSize⟩, .quarantined)

/-- A refusal of the content puts a batch of several events off for no time. -/
theorem deferralDelay_of_terminal {status : SpoolStatus}
    (splittable : result.classification.terminalStatus = some status) :
    deferralDelay settings queued random result = if 1 < queued.length then some 0 else none := by
  unfold DeliveryClass.terminalStatus at splittable
  unfold deferralDelay
  split at splittable <;> simp_all

/-- The status of a set aside event is never `pending`. -/
theorem terminalStatus_ne_pending {classification : DeliveryClass} {status : SpoolStatus}
    (splittable : classification.terminalStatus = some status) : status ≠ .pending := by
  rintro rfl
  unfold DeliveryClass.terminalStatus at splittable
  split at splittable <;> cases splittable

/-- A failure of the content halves the batch, or sets its single event aside. -/
theorem handleSplittableFailure_cases (now : Rat) {status : SpoolStatus} (state : DeliveryState)
    (nonempty : queued ≠ []) (splittable : result.classification.terminalStatus = some status) :
    AfterSend settings queued random result now state
      (handleSplittableFailure now queued result.classification status state) := by
  have delay := deferralDelay_of_terminal settings queued random result splittable
  unfold handleSplittableFailure
  by_cases several : 1 < queued.length
  · rw [if_pos several]
    rw [if_pos several] at delay
    have size : max 1 (queued.length / 2) =
        sizeAfterFailure queued result state.currentBatchSize := by
      simp [sizeAfterFailure, splittable]
    unfold deferBatch
    rw [size]
    exact .deferred delay
  · rw [if_neg several]
    cases queued with
    | nil => exact absurd rfl nonempty
    | cons first rest =>
        obtain rfl : rest = [] := by
          cases rest with
          | nil => rfl
          | cons second more => exact absurd (by simp) several
        have final := terminalStatus_ne_pending splittable
        dsimp only
        rw [Spool.quarantine, if_neg final]
        refine .setAside rfl splittable ?_
        rw [Spool.quarantine, if_neg final]

/-- Any other failure puts the batch off. -/
theorem deferBatch_cases (now : Rat) {delay : Rat} (state : DeliveryState)
    (whole : result.classification.terminalStatus = none)
    (deferred : deferralDelay settings queued random result = some delay) :
    AfterSend settings queued random result now state
      (deferBatch now queued result.classification delay state) := by
  have size : state.currentBatchSize = sizeAfterFailure queued result state.currentBatchSize := by
    simp [sizeAfterFailure, whole]
  have cases : AfterSend settings queued random result now state (⟨_, _⟩, .deferred) :=
    .deferred deferred
  rw [← size] at cases
  exact cases

/-- **A batch is deleted, put off or set aside.** -/
theorem afterSend_cases (now : Rat) (state : DeliveryState) (nonempty : queued ≠ []) :
    AfterSend settings queued random result now state
      (afterSend settings now queued random result state) := by
  cases classified : result.classification with
  | success =>
      simp only [afterSend, classified]
      exact .delivered classified
  | payloadTooLarge =>
      have splittable : result.classification.terminalStatus = some .oversized := by rw [classified]; rfl
      have handled := handleSplittableFailure_cases settings queued random result now state nonempty
        splittable
      simpa only [afterSend, classified] using handled
  | unprocessable =>
      have splittable : result.classification.terminalStatus = some .quarantined := by rw [classified]; rfl
      have handled := handleSplittableFailure_cases settings queued random result now state nonempty
        splittable
      simpa only [afterSend, classified] using handled
  | _ =>
      have whole : result.classification.terminalStatus = none := by rw [classified]; rfl
      have deferred := deferBatch_cases settings queued random result now state whole
        (by rw [deferralDelay, classified])
      simpa only [afterSend, classified] using deferred

/-! ## Whole calls -/

variable {settings send moment}

/-- A call that transmits nothing changes nothing. -/
theorem deliverOnce_idle {state : DeliveryState} (silent : transmitted moment state = []) :
    deliverOnce settings send moment state = (state, .idle) := by
  unfold transmitted at silent
  unfold deliverOnce
  cases ready : state.spool.readyBatch state.currentBatchSize moment.readAt with
  | error failure => rfl
  | ok queued =>
      rw [ready] at silent
      dsimp only at silent
      subst silent
      rfl

/-- **A call that transmits a batch works on it.** -/
theorem deliverOnce_transmits {state : DeliveryState} (some_batch : transmitted moment state ≠ []) :
    deliverOnce settings send moment state =
      afterSend settings moment.deferredAt (transmitted moment state) moment.random
        (send ((transmitted moment state).map Prod.fst)) state := by
  unfold transmitted at some_batch ⊢
  unfold deliverOnce
  cases ready : state.spool.readyBatch state.currentBatchSize moment.readAt with
  | error failure =>
      rw [ready] at some_batch
      exact absurd rfl some_batch
  | ok queued =>
      rw [ready] at some_batch
      dsimp only at some_batch ⊢
      cases queued with
      | nil => exact absurd rfl some_batch
      | cons first rest => rfl

/-- The rows of a batch that is transmitted. -/
theorem transmitted_spec {state : DeliveryState} (some_batch : transmitted moment state ≠ []) :
    ∃ rows, DueBatch state.spool state.currentBatchSize moment.readAt rows ∧ rows ≠ [] ∧
      transmitted moment state = rows.map SpoolEvent.asQueued := by
  unfold transmitted at some_batch ⊢
  by_cases within : 1 ≤ state.currentBatchSize ∧ state.currentBatchSize ≤ 100
  · obtain ⟨rows, batch, ready⟩ := readyBatch_ok state.spool moment.readAt within
    rw [ready] at some_batch ⊢
    refine ⟨rows, batch, ?_, rfl⟩
    rintro rfl
    exact some_batch rfl
  · rw [readyBatch_error within] at some_batch
    exact absurd rfl some_batch

/-- A call with a valid batch size transmits nothing when no row is due. -/
theorem transmitted_eq_nil {state : DeliveryState}
    (within : 1 ≤ state.currentBatchSize ∧ state.currentBatchSize ≤ 100) :
    transmitted moment state = [] ↔ ∀ row ∈ state.spool.events, ¬ row.due moment.readAt := by
  unfold transmitted
  obtain ⟨rows, batch, ready⟩ := readyBatch_ok state.spool moment.readAt within
  rw [ready]
  dsimp only
  constructor
  · intro silent row member
    exact batch.eq_nil (List.map_eq_nil_iff.mp silent) within.1 member
  · intro none_due
    rw [List.map_eq_nil_iff, List.eq_nil_iff_forall_not_mem]
    intro row member
    obtain ⟨listed, pending, due⟩ := batch.mem member
    refine none_due row listed ?_
    simp [SpoolEvent.due, pending, due]

end Calls

end WolandGuard.Agent
