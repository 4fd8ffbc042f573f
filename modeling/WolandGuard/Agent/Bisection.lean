import Mathlib.Algebra.BigOperators.Group.List.Basic
import Mathlib.Algebra.Order.BigOperators.Group.List
import WolandGuard.Agent.DeliveryRuns

/-!
# Bisection

Against a control plane that refuses a batch for its total size or for a bad
event in it, every call either works off rows, or halves the batch size and puts
the batch off for no time. The verdict on an event that is sent alone decides
its fate, whatever batches it was in before. A success brings the batch size
back, so neither the size nor the number of rows descends alone; the number of
pending rows and then the size do.
-/

set_option autoImplicit false

namespace WolandGuard.Agent

open Foundations

/-! ## The control plane -/

/-- A control plane that answers 413 above a total size, 422 to a bad event, and
otherwise 200. -/
structure SizedServer where
  size : NormalizedEventV1 → Nat
  limit : Nat
  bad : NormalizedEventV1 → Bool

namespace SizedServer

variable (server : SizedServer)

def answer (events : List NormalizedEventV1) : TransportResult :=
  if server.limit < (events.map server.size).sum then .failed .payloadTooLarge
  else if events.any server.bad then .failed .unprocessable
  else ⟨.success, events.length, 0, none⟩

/-- The status of an event that is refused alone. -/
def verdict (event : NormalizedEventV1) : Option SpoolStatus :=
  if server.limit < server.size event then some .oversized
  else if server.bad event then some .quarantined
  else none

/-- What becomes of a row: nothing of a pending event that is accepted alone. -/
def rowFate (row : SpoolEvent) : Option (NormalizedEventV1 × SpoolStatus) :=
  if row.status = .pending then (server.verdict row.event).map (row.event, ·)
  else some (row.event, row.status)

/-- What becomes of a spool. -/
def fate (spool : Spool) : List (NormalizedEventV1 × SpoolStatus) :=
  spool.events.filterMap server.rowFate

variable {server}

/-- An accepted batch has only events that are accepted alone. -/
theorem verdict_of_success {events : List NormalizedEventV1}
    (success : (server.answer events).classification = .success) {event : NormalizedEventV1}
    (member : event ∈ events) : server.verdict event = none := by
  unfold answer at success
  split at success
  · cases success
  next fits =>
    split at success
    · cases success
    next good =>
      have alone : server.size event ≤ (events.map server.size).sum :=
        List.single_le_sum (fun _ _ => Nat.zero_le _) _ (List.mem_map_of_mem member)
      have fits_alone : ¬ server.limit < server.size event := by omega
      have good_alone : ¬ server.bad event = true := fun bad => good (List.any_eq_true.mpr ⟨event, member, bad⟩)
      rw [verdict, if_neg fits_alone, if_neg good_alone]

/-- An event that is sent alone gets its verdict. -/
theorem terminalStatus_alone (event : NormalizedEventV1) :
    (server.answer [event]).classification.terminalStatus = server.verdict event := by
  unfold answer verdict
  rw [List.map_singleton, List.sum_singleton]
  split
  · rfl
  · rw [List.any_cons, List.any_nil, Bool.or_false]
    split <;> rfl

/-- The control plane asks for no pause. -/
theorem deferralDelay_answer {settings : DeliverySettings} {queued : QueuedEvents}
    {random delay : Rat} {events : List NormalizedEventV1}
    (deferred : deferralDelay settings queued random (server.answer events) = some delay) :
    delay = 0 ∧ 1 < queued.length ∧
      (server.answer events).classification.terminalStatus.isSome = true := by
  have refused : (server.answer events).classification.terminalStatus.isSome = true := by
    unfold answer at deferred ⊢
    split
    · rfl
    next fits =>
      split
      · rfl
      next good =>
        rw [if_neg fits, if_neg good] at deferred
        cases deferred
  obtain ⟨status, splittable⟩ := Option.isSome_iff_exists.mp refused
  rw [deferralDelay_of_terminal _ _ _ _ splittable] at deferred
  split at deferred
  next several =>
    cases deferred
    exact ⟨rfl, several, refused⟩
  · cases deferred

end SizedServer

/-! ## One call -/

section Calls

variable {settings : DeliverySettings} {server : SizedServer} {moment : Moment}
variable {state : DeliveryState}

/-- **The three ways that a call ends here.** -/
theorem bisecting_call (sends : transmitted moment state ≠ []) :
    ∃ rows, DueBatch state.spool state.currentBatchSize moment.readAt rows ∧ rows ≠ [] ∧
      transmitted moment state = rows.map SpoolEvent.asQueued ∧
      ((∀ row ∈ rows, server.verdict row.event = none) ∧
          deliverOnce settings server.answer moment state =
            (⟨state.spool.acknowledge (rows.map (·.eventId)), settings.configuredBatchSize⟩,
              .delivered) ∨
        1 < rows.length ∧ (∃ errorCode, deliverOnce settings server.answer moment state =
            (⟨state.spool.defer moment.deferredAt (rows.map (·.eventId)) 0 errorCode,
              rows.length / 2⟩, .deferred)) ∨
        ∃ row status errorCode spool, rows = [row] ∧ server.verdict row.event = some status ∧
          state.spool.quarantine row.eventId status errorCode = .ok spool ∧
          deliverOnce settings server.answer moment state =
            (⟨spool, state.currentBatchSize⟩, .quarantined)) := by
  obtain ⟨rows, batch, nonempty, sent⟩ := transmitted_spec sends
  refine ⟨rows, batch, nonempty, sent, ?_⟩
  have events : (transmitted moment state).map Prod.fst = rows.map (·.event) := by
    rw [sent, List.map_map]
    rfl
  have ids : (transmitted moment state).ids = rows.map (·.eventId) := by
    rw [sent, QueuedEvents.ids, List.map_map]
    rfl
  have length : (transmitted moment state).length = rows.length := by rw [sent, List.length_map]
  have cases := afterSend_cases settings (transmitted moment state) moment.random
    (server.answer (rows.map (·.event))) moment.deferredAt state sends
  rw [deliverOnce_transmits sends, events]
  generalize afterSend settings moment.deferredAt (transmitted moment state) moment.random
    (server.answer (rows.map (·.event))) state = result at cases ⊢
  cases cases with
  | delivered success =>
      refine .inl ⟨?_, by rw [ids]⟩
      intro row member
      exact SizedServer.verdict_of_success success (List.mem_map_of_mem member)
  | deferred deferred =>
      obtain ⟨rfl, several, refused⟩ := SizedServer.deferralDelay_answer deferred
      rw [length] at several
      refine .inr (.inl ⟨several, (server.answer (rows.map (·.event))).classification.value, ?_⟩)
      have half : max 1 (rows.length / 2) = rows.length / 2 := by omega
      rw [sizeAfterFailure, if_pos refused, length, half, ids]
  | @setAside event attempts status spool single splittable quarantined =>
      rw [single] at length
      obtain ⟨row, rfl⟩ := List.length_eq_one_iff.mp length.symm
      have pair : row.asQueued = (event, attempts) := (List.cons.inj (sent.symm.trans single)).1
      obtain rfl : row.event = event := congrArg Prod.fst pair
      refine .inr (.inr ⟨row, status, _, spool, rfl, ?_, quarantined, rfl⟩)
      rw [← SizedServer.terminalStatus_alone]
      exact splittable

/-- A row of the spool with the id of a batch row is that row. -/
theorem DueBatch.mem_of_id {rows : List SpoolEvent} {limit : Nat} {now : Rat} {spool : Spool}
    (batch : DueBatch spool limit now rows) (unique : spool.UniqueIds) {row : SpoolEvent}
    (listed : row ∈ spool.events) (same : row.eventId ∈ rows.map (·.eventId)) : row ∈ rows := by
  obtain ⟨sent, member, same⟩ := List.mem_map.mp same
  exact unique.eq (batch.mem member).1 listed same ▸ member

/-- **A call changes no fate.** -/
theorem fate_deliverOnce (unique : state.spool.UniqueIds) :
    server.fate (deliverOnce settings server.answer moment state).1.spool =
      server.fate state.spool := by
  by_cases silent : transmitted moment state = []
  · rw [deliverOnce_idle silent]
  obtain ⟨rows, batch, nonempty, sent, ⟨accepted, done⟩ | ⟨_, errorCode, done⟩ |
    ⟨row, status, errorCode, spool, rfl, refused, quarantined, done⟩⟩ :=
    @bisecting_call settings server moment state silent
  · -- the deleted rows have no fate
    rw [done]
    unfold SizedServer.fate Spool.acknowledge
    rw [List.filterMap_filter]
    apply List.filterMap_congr
    intro row listed
    by_cases chosen : row.eventId ∈ rows.map (·.eventId)
    · have member := batch.mem_of_id unique listed chosen
      have pending := (batch.mem member).2.1
      simp [chosen, SizedServer.rowFate, pending, accepted row member]
    · simp [chosen]
  · rw [done]
    unfold SizedServer.fate Spool.defer updateWhere
    rw [List.filterMap_map]
    apply List.filterMap_congr
    intro row listed
    simp only [Function.comp_apply]
    split <;> rfl
  · rw [done]
    have final : status ≠ .pending :=
      terminalStatus_ne_pending ((SizedServer.terminalStatus_alone row.event).trans refused)
    unfold Spool.quarantine at quarantined
    rw [if_neg final] at quarantined
    cases quarantined
    unfold SizedServer.fate updateWhere
    rw [List.filterMap_map]
    apply List.filterMap_congr
    intro other listed
    simp only [Function.comp_apply]
    by_cases chosen : other.eventId = row.eventId ∧ other.status = .pending
    · have same : other = row :=
        unique.eq listed (batch.mem (List.mem_singleton_self row)).1 chosen.1
      subst same
      simp [chosen, SizedServer.rowFate, refused, final]
    · have kept : (decide (other.eventId = row.eventId) && decide (other.status = .pending)) =
          false := by simpa using chosen
      simp only [kept]
      rfl

/-- The rows that are still to be sent. -/
def Spool.pending (spool : Spool) : List SpoolEvent := spool.events.filter (·.status = .pending)

theorem Spool.mem_pending {spool : Spool} {row : SpoolEvent} :
    row ∈ spool.pending ↔ row ∈ spool.events ∧ row.status = .pending := by
  simp [Spool.pending, List.mem_filter]

/-- A call leaves pending rows that are due when it ends. -/
theorem pending_deliverOnce (ordered : moment.readAt ≤ moment.deferredAt)
    (due : ∀ row ∈ state.spool.pending, row.nextAttemptAt ≤ moment.readAt) :
    ∀ row ∈ (deliverOnce settings server.answer moment state).1.spool.pending,
      row.nextAttemptAt ≤ moment.deferredAt ∧
        ∃ old ∈ state.spool.pending, old.event = row.event := by
  intro row left
  by_cases silent : transmitted moment state = []
  · rw [deliverOnce_idle silent] at left
    exact ⟨(due row left).trans ordered, row, left, rfl⟩
  obtain ⟨rows, batch, nonempty, sent, ⟨accepted, done⟩ | ⟨_, errorCode, done⟩ |
    ⟨sole, status, errorCode, spool, rfl, refused, quarantined, done⟩⟩ :=
    @bisecting_call settings server moment state silent
  · rw [done, Spool.mem_pending] at left
    have old : row ∈ state.spool.pending :=
      Spool.mem_pending.mpr ⟨(List.mem_filter.mp left.1).1, left.2⟩
    exact ⟨(due row old).trans ordered, row, old, rfl⟩
  · rw [done, Spool.mem_pending] at left
    obtain ⟨old, listed, rfl⟩ := mem_updateWhere.mp left.1
    by_cases chosen : ((rows.map (·.eventId)).contains old.eventId &&
      decide (old.status = .pending)) = true
    · rw [if_pos chosen] at left ⊢
      have pending := Spool.mem_pending.mpr ⟨listed, left.2⟩
      have at_once : moment.deferredAt + max 0 0 ≤ moment.deferredAt := by
        rw [max_self, add_zero]
      exact ⟨at_once, old, pending, rfl⟩
    · rw [if_neg chosen] at left ⊢
      have pending := Spool.mem_pending.mpr ⟨listed, left.2⟩
      exact ⟨(due old pending).trans ordered, old, pending, rfl⟩
  · rw [done, Spool.mem_pending] at left
    have final : status ≠ .pending :=
      terminalStatus_ne_pending ((SizedServer.terminalStatus_alone sole.event).trans refused)
    unfold Spool.quarantine at quarantined
    rw [if_neg final] at quarantined
    cases quarantined
    obtain ⟨old, listed, rfl⟩ := mem_updateWhere.mp left.1
    by_cases chosen : (decide (old.eventId = sole.eventId) && decide (old.status = .pending)) = true
    · rw [if_pos chosen] at left
      exact absurd left.2 final
    · rw [if_neg chosen] at left ⊢
      have pending := Spool.mem_pending.mpr ⟨listed, left.2⟩
      exact ⟨(due old pending).trans ordered, old, pending, rfl⟩

/-- The pending rows first, and then the batch size. -/
def DeliveryState.remaining (settings : DeliverySettings) (state : DeliveryState) : Nat :=
  state.spool.pending.length * (settings.configuredBatchSize + 1) + state.currentBatchSize

/-- Without the rows of a batch fewer rows are pending. -/
theorem pending_without_batch {rows : List SpoolEvent} {limit : Nat} {now : Rat} {spool : Spool}
    (batch : DueBatch spool limit now rows) (nonempty : rows ≠ []) :
    (spool.pending.filter fun row => !(rows.map (·.eventId)).contains row.eventId).length <
      spool.pending.length := by
  obtain ⟨row, member⟩ := List.exists_mem_of_ne_nil rows nonempty
  obtain ⟨listed, pending, _⟩ := batch.mem member
  refine List.length_filter_lt_length_iff_exists.mpr ⟨row, Spool.mem_pending.mpr ⟨listed, pending⟩, ?_⟩
  have sent : row.eventId ∈ rows.map (·.eventId) := List.mem_map_of_mem member
  simpa using sent

/-- **A call that transmits gets on.** -/
theorem remaining_deliverOnce (sends : transmitted moment state ≠ [])
    (size : 1 ≤ state.currentBatchSize ∧ state.currentBatchSize ≤ settings.configuredBatchSize) :
    (deliverOnce settings server.answer moment state).1.remaining settings <
      state.remaining settings := by
  obtain ⟨rows, batch, nonempty, sent, ⟨accepted, done⟩ | ⟨several, errorCode, done⟩ |
    ⟨sole, status, errorCode, spool, rfl, refused, quarantined, done⟩⟩ :=
    @bisecting_call settings server moment state sends
  · have fewer := pending_without_batch batch nonempty
    rw [done]
    dsimp only [DeliveryState.remaining]
    have left : (state.spool.acknowledge (rows.map (·.eventId))).pending =
        state.spool.pending.filter fun row => !(rows.map (·.eventId)).contains row.eventId :=
      List.filter_comm _ _ _
    rw [left]
    nlinarith [fewer, size.1]
  · have length := batch.length_le
    rw [done]
    dsimp only [DeliveryState.remaining]
    have left : (state.spool.defer moment.deferredAt (rows.map (·.eventId)) 0
        errorCode).pending.length = state.spool.pending.length := by
      rw [Spool.pending, Spool.pending, Spool.defer, updateWhere, List.filter_map, List.length_map]
      congr 2
      funext row
      simp only [Function.comp_apply]
      split <;> rfl
    rw [left]
    omega
  · have fewer := pending_without_batch batch nonempty
    have final : status ≠ .pending :=
      terminalStatus_ne_pending ((SizedServer.terminalStatus_alone sole.event).trans refused)
    unfold Spool.quarantine at quarantined
    rw [if_neg final] at quarantined
    cases quarantined
    rw [done]
    dsimp only [DeliveryState.remaining]
    refine Nat.add_lt_add_right (Nat.mul_lt_mul_of_pos_right (lt_of_eq_of_lt ?_ fewer) (by omega)) _
    -- a row is still pending when it was and is not the sole row of the batch
    rw [Spool.pending, Spool.pending, updateWhere, List.filter_map, List.length_map,
      List.filter_filter]
    congr 2
    funext row
    simp only [Function.comp_apply, List.map_singleton, List.contains_cons, List.contains_nil,
      Bool.or_false]
    by_cases same : row.eventId = sole.eventId
    · by_cases pending : row.status = .pending
      · simp [same, pending, final]
      · simp [same, pending]
    · simp [same]

/-- Acknowledged events were pending and are accepted alone. -/
theorem acknowledged_deliverOnce
    (delivered : (deliverOnce settings server.answer moment state).2 = .delivered)
    {event : NormalizedEventV1} (sent : event ∈ (transmitted moment state).map Prod.fst) :
    (∃ row ∈ state.spool.pending, row.event = event) ∧ server.verdict event = none := by
  have sends : transmitted moment state ≠ [] := by
    intro silent
    rw [silent] at sent
    cases sent
  obtain ⟨rows, batch, nonempty, batch_sent, ⟨accepted, done⟩ | ⟨_, errorCode, done⟩ |
    ⟨sole, status, errorCode, spool, rfl, refused, quarantined, done⟩⟩ :=
    @bisecting_call settings server moment state sends
  · rw [batch_sent, List.map_map] at sent
    obtain ⟨row, member, rfl⟩ := List.mem_map.mp sent
    obtain ⟨listed, pending, _⟩ := batch.mem member
    exact ⟨⟨row, Spool.mem_pending.mpr ⟨listed, pending⟩, rfl⟩, accepted row member⟩
  · rw [done] at delivered
    cases delivered
  · rw [done] at delivered
    cases delivered

/-- A pending event that is accepted alone stays pending until it is
acknowledged. -/
theorem accounted_deliverOnce (unique : state.spool.UniqueIds) {row : SpoolEvent}
    (pending : row ∈ state.spool.pending) (accepted_alone : server.verdict row.event = none) :
    (deliverOnce settings server.answer moment state).2 = .delivered ∧
        row.event ∈ (transmitted moment state).map Prod.fst ∨
      ∃ left ∈ (deliverOnce settings server.answer moment state).1.spool.pending,
        left.event = row.event := by
  obtain ⟨listed, status_pending⟩ := Spool.mem_pending.mp pending
  by_cases silent : transmitted moment state = []
  · rw [deliverOnce_idle silent]
    exact .inr ⟨row, pending, rfl⟩
  obtain ⟨rows, batch, nonempty, batch_sent, ⟨accepted, done⟩ | ⟨_, errorCode, done⟩ |
    ⟨sole, status, errorCode, spool, rfl, refused, quarantined, done⟩⟩ :=
    @bisecting_call settings server moment state silent
  · rw [done, batch_sent, List.map_map]
    by_cases chosen : row.eventId ∈ rows.map (·.eventId)
    · exact .inl ⟨rfl, List.mem_map.mpr ⟨row, batch.mem_of_id unique listed chosen, rfl⟩⟩
    · refine .inr ⟨row, Spool.mem_pending.mpr ⟨List.mem_filter.mpr ⟨listed, ?_⟩, status_pending⟩, rfl⟩
      simpa using chosen
  · rw [done]
    refine .inr ⟨_, Spool.mem_pending.mpr ⟨mem_updateWhere.mpr ⟨row, listed, rfl⟩, ?_⟩, ?_⟩
    · split <;> exact status_pending
    · split <;> rfl
  · have final : status ≠ .pending :=
      terminalStatus_ne_pending ((SizedServer.terminalStatus_alone sole.event).trans refused)
    unfold Spool.quarantine at quarantined
    rw [if_neg final] at quarantined
    cases quarantined
    rw [done]
    have other : row.eventId ≠ sole.eventId := by
      intro same
      have equal := unique.eq listed (batch.mem (List.mem_singleton_self sole)).1 same
      rw [equal, refused] at accepted_alone
      cases accepted_alone
    refine .inr ⟨row, Spool.mem_pending.mpr ⟨mem_updateWhere.mpr ⟨row, listed, ?_⟩, status_pending⟩,
      rfl⟩
    simp [other]

end Calls

/-! ## Repeated calls -/

/-- The moments of calls one after the other. Time does not go back. -/
structure CallTimes where
  moment : Nat → Moment
  ordered : ∀ n, (moment n).readAt ≤ (moment n).deferredAt
  later : ∀ n, (moment n).deferredAt ≤ (moment (n + 1)).readAt

section Repeated

variable (settings : DeliverySettings) (server : SizedServer) (times : CallTimes)
variable (start : DeliveryState)

/-- The state after the first calls. -/
def afterCalls : Nat → DeliveryState
  | 0 => start
  | n + 1 => (deliverOnce settings server.answer (times.moment n) (afterCalls n)).1

/-- The events that the first calls have acknowledged. -/
def acknowledgedBy : Nat → List NormalizedEventV1
  | 0 => []
  | n + 1 =>
      let before := afterCalls settings server times start n
      acknowledgedBy n ++
        if (deliverOnce settings server.answer (times.moment n) before).2 = .delivered then
          (transmitted (times.moment n) before).map Prod.fst
        else []

/-- What holds after any number of calls. -/
structure Bisected (n : Nat) : Prop where
  unique : (afterCalls settings server times start n).spool.UniqueIds
  due : ∀ row ∈ (afterCalls settings server times start n).spool.pending,
    row.nextAttemptAt ≤ (times.moment n).readAt
  size : 1 ≤ (afterCalls settings server times start n).currentBatchSize ∧
    (afterCalls settings server times start n).currentBatchSize ≤ settings.configuredBatchSize
  fate : server.fate (afterCalls settings server times start n).spool = server.fate start.spool
  acknowledged : ∀ event ∈ acknowledgedBy settings server times start n,
    (∃ row ∈ start.spool.pending, row.event = event) ∧ server.verdict event = none
  fromStart : ∀ row ∈ (afterCalls settings server times start n).spool.pending,
    ∃ old ∈ start.spool.pending, old.event = row.event
  accounted : ∀ old ∈ start.spool.pending, server.verdict old.event = none →
    old.event ∈ acknowledgedBy settings server times start n ∨
      ∃ row ∈ (afterCalls settings server times start n).spool.pending, row.event = old.event

variable {settings server times start}

/-- **Every call keeps the account.** -/
theorem bisected (unique : start.spool.UniqueIds)
    (size : 1 ≤ start.currentBatchSize ∧ start.currentBatchSize ≤ settings.configuredBatchSize)
    (due : ∀ row ∈ start.spool.pending, row.nextAttemptAt ≤ (times.moment 0).readAt) (n : Nat) :
    Bisected settings server times start n := by
  induction n with
  | zero =>
      refine ⟨unique, due, size, rfl, ?_, ?_, ?_⟩
      · intro event none_yet
        cases none_yet
      · intro row pending
        exact ⟨row, pending, rfl⟩
      · intro old pending _
        exact .inr ⟨old, pending, rfl⟩
  | succ n ih =>
      have left : ∀ row ∈ (afterCalls settings server times start (n + 1)).spool.pending, _ :=
        pending_deliverOnce (times.ordered n) ih.due
      constructor
      · exact uniqueIds_deliverOnce _ _ ih.unique
      · intro row pending
        exact (left row pending).1.trans (times.later n)
      · exact currentBatchSize_deliverOnce _ _ (size.1.trans size.2) ih.size
      · exact (fate_deliverOnce ih.unique).trans ih.fate
      · intro event known
        rcases List.mem_append.mp known with earlier | now
        · exact ih.acknowledged event earlier
        · split at now
          next delivered =>
            obtain ⟨⟨row, pending, rfl⟩, accepted⟩ := acknowledged_deliverOnce delivered now
            obtain ⟨old, old_pending, same⟩ := ih.fromStart row pending
            exact ⟨⟨old, old_pending, same⟩, accepted⟩
          · cases now
      · intro row pending
        obtain ⟨_, middle, middle_pending, same⟩ := left row pending
        obtain ⟨old, old_pending, same_old⟩ := ih.fromStart middle middle_pending
        exact ⟨old, old_pending, same_old.trans same⟩
      · intro old pending accepted
        rcases ih.accounted old pending accepted with known | ⟨row, row_pending, same⟩
        · exact .inl (List.mem_append_left _ known)
        · rw [← same] at accepted ⊢
          rcases accounted_deliverOnce ih.unique row_pending accepted with ⟨delivered, sent⟩ | still
          · refine .inl (List.mem_append_right _ ?_)
            rw [if_pos delivered]
            exact sent
          · exact .inr still

/-- No pending rows, no change of that. -/
theorem settled_later {n : Nat} (bisected : ∀ n, Bisected settings server times start n)
    (settled : (afterCalls settings server times start n).spool.pending = []) (more : Nat) :
    (afterCalls settings server times start (n + more)).spool.pending = [] := by
  induction more with
  | zero => exact settled
  | succ more ih =>
      rw [List.eq_nil_iff_forall_not_mem]
      intro row pending
      obtain ⟨_, old, old_pending, _⟩ :=
        pending_deliverOnce (times.ordered _) (bisected (n + more)).due row pending
      rw [ih] at old_pending
      cases old_pending

/-- Some call finds nothing left to send. -/
theorem exists_settled (configured : settings.configuredBatchSize ≤ 100)
    (bisected : ∀ n, Bisected settings server times start n) :
    ∃ n, (afterCalls settings server times start n).spool.pending = [] := by
  obtain ⟨n, stuck⟩ := WellFounded.not_rel_apply_succ (r := (· < ·)) fun n =>
    (afterCalls settings server times start n).remaining settings
  refine ⟨n, ?_⟩
  have size := (bisected n).size
  have silent : transmitted (times.moment n) (afterCalls settings server times start n) = [] := by
    by_contra sends
    exact stuck (remaining_deliverOnce sends size)
  rw [transmitted_eq_nil ⟨size.1, size.2.trans configured⟩] at silent
  rw [List.eq_nil_iff_forall_not_mem]
  intro row pending
  obtain ⟨listed, status⟩ := Spool.mem_pending.mp pending
  refine silent row listed ?_
  simp [SpoolEvent.due, status, (bisected n).due row pending]

/-- **Bisection isolates what is refused, and ends.** The batch size stays within
its bounds. From some call on no row is pending, every row has its fate, and
acknowledged are exactly the pending events that are accepted alone. -/
theorem bisection_isolates
    (configured : 1 ≤ settings.configuredBatchSize ∧ settings.configuredBatchSize ≤ 100)
    (unique : start.spool.UniqueIds)
    (size : 1 ≤ start.currentBatchSize ∧ start.currentBatchSize ≤ settings.configuredBatchSize)
    (due : ∀ row ∈ start.spool.pending, row.nextAttemptAt ≤ (times.moment 0).readAt) :
    (∀ n, 1 ≤ (afterCalls settings server times start n).currentBatchSize ∧
      (afterCalls settings server times start n).currentBatchSize ≤ settings.configuredBatchSize) ∧
    ∃ enough, ∀ n, enough ≤ n →
      (afterCalls settings server times start n).spool.pending = [] ∧
      (afterCalls settings server times start n).spool.events.map
          (fun row => (row.event, row.status)) = server.fate start.spool ∧
      ∀ event, event ∈ acknowledgedBy settings server times start n ↔
        (∃ row ∈ start.spool.pending, row.event = event) ∧ server.verdict event = none := by
  have account : ∀ n, Bisected settings server times start n := bisected unique size due
  refine ⟨fun n => (account n).size, ?_⟩
  obtain ⟨enough, settled⟩ := exists_settled configured.2 account
  refine ⟨enough, ?_⟩
  intro n later
  obtain ⟨more, rfl⟩ := Nat.exists_eq_add_of_le later
  have empty := settled_later account settled more
  refine ⟨empty, ?_, ?_⟩
  · rw [← (account (enough + more)).fate, SizedServer.fate, ← List.filterMap_eq_map]
    apply List.filterMap_congr
    intro row listed
    have final : row.status ≠ .pending := by
      intro pending
      have left := Spool.mem_pending.mpr ⟨listed, pending⟩
      rw [empty] at left
      cases left
    simp [SizedServer.rowFate, final]
  · intro event
    constructor
    · exact (account (enough + more)).acknowledged event
    · rintro ⟨⟨old, pending, rfl⟩, accepted⟩
      rcases (account (enough + more)).accounted old pending accepted with known | ⟨row, left, _⟩
      · exact known
      · rw [empty] at left
        cases left

end Repeated

/-! ## A batch with a bad and a large event -/

def numberedLogin (eventId : Uuid) : NormalizedEventV1 := { failedLogin 0 with eventId := eventId }

/-- Event 2 is bad, and event 3 is too large. -/
def twoFaults : SizedServer where
  size event := if event.eventId = 3 then 20 else 4
  limit := 10
  bad event := event.eventId = 2

/-- Four events in one batch. -/
def fourQueued : DeliveryState where
  spool := ⟨[1, 2, 3, 4].map fun eventId => Spool.newRow 0 (numberedLogin eventId), [], []⟩
  currentBatchSize := 100

/-- A call each second. -/
def everySecond : CallTimes where
  moment n := ⟨n, n, 0⟩
  ordered _ := le_refl _
  later n := by
    show (n : Rat) ≤ ((n + 1 : Nat) : Rat)
    exact_mod_cast Nat.le_succ n

theorem bisection_isolates_two_faults : ∃ enough, ∀ n, enough ≤ n →
    (afterCalls defaultDelivery twoFaults everySecond fourQueued n).spool.events.map
        (fun row => (row.event, row.status)) =
      [(numberedLogin 2, .quarantined), (numberedLogin 3, .oversized)] := by
  have due : ∀ row ∈ fourQueued.spool.pending, row.nextAttemptAt ≤ (everySecond.moment 0).readAt := by
    intro row pending
    obtain ⟨eventId, _, rfl⟩ := List.mem_map.mp (Spool.mem_pending.mp pending).1
    exact (le_refl (0 : Rat)).trans_eq Nat.cast_zero.symm
  have unique : fourQueued.spool.UniqueIds := by
    unfold Spool.UniqueIds
    decide
  obtain ⟨_, enough, settled⟩ := @bisection_isolates defaultDelivery twoFaults everySecond fourQueued
    ⟨by decide, by decide⟩ unique ⟨by decide, by decide⟩ due
  exact ⟨enough, fun n later => (settled n later).2.1⟩

end WolandGuard.Agent
