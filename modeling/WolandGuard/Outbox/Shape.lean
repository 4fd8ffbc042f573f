import WolandGuard.Outbox.Fencing

/-!
# The shape of outbox rows

The `CHECK` constraints of `outbox_messages`: which columns are set in which
status, and the bounds on the attempts. Every transaction keeps them
(`RowChange.constrained`). Rows that came into the outbox by enqueueing moreover
never get stuck: a pending row has an attempt left, and a failed one has been
tried (`outbox_rows_never_stuck`).
-/

set_option autoImplicit false

namespace WolandGuard.Outbox

open Foundations

/-- The constraint `state_shape`. -/
def OutboxMessage.stateShape (row : OutboxMessage) : Bool :=
  match row.status with
  | .pending =>
      row.claimToken.isNone && row.claimedAt.isNone && row.leaseExpiresAt.isNone &&
        row.nextAttemptAt.isSome && row.deliveredAt.isNone && row.failedAt.isNone
  | .processing =>
      row.claimToken.isSome && row.claimedAt.isSome && row.leaseExpiresAt.isSome &&
        row.nextAttemptAt.isNone && row.deliveredAt.isNone && row.failedAt.isNone
  | .delivered =>
      row.claimToken.isNone && row.claimedAt.isNone && row.leaseExpiresAt.isNone &&
        row.nextAttemptAt.isNone && row.deliveredAt.isSome && row.failedAt.isNone &&
        row.lastErrorCode.isNone && row.lastError.isNone
  | .failed =>
      row.claimToken.isNone && row.claimedAt.isNone && row.leaseExpiresAt.isNone &&
        row.nextAttemptAt.isNone && row.deliveredAt.isNone && row.failedAt.isSome &&
        row.lastErrorCode.isSome && row.lastError.isSome

/-- The constraints on the status and on the attempts of a row. -/
structure OutboxMessage.Constrained (row : OutboxMessage) : Prop where
  stateShape : row.stateShape = true
  attemptCount : row.attemptCount ≤ row.maxAttempts
  maxAttempts : 1 ≤ row.maxAttempts ∧ row.maxAttempts ≤ 20

/-- What moreover holds of rows that were enqueued: a pending row has an attempt
left, and one that was claimed has been tried. -/
structure OutboxMessage.Unstuck (row : OutboxMessage) : Prop extends row.Constrained where
  pending : row.status = .pending → row.attemptCount < row.maxAttempts
  processing : row.status = .processing → 1 ≤ row.attemptCount
  failed : row.status = .failed → 1 ≤ row.attemptCount

/-! ## Changes of one row -/

namespace RowChange

variable {drawn : Option Claim} {row after : OutboxMessage}

theorem claimable_iff {now : Int} :
    claimable now row = true ↔
      row.status = .pending ∧ row.nextAttemptAt.any (· ≤ now) = true ∧
        row.attemptCount < row.maxAttempts := by
  simp [claimable, and_assoc]

/-- A row that is given back is pending with an attempt left, or failed. -/
theorem released_constrained {now nextAttempt : Int} {code : OutboxErrorCode}
    (holds : row.Constrained) (processing : row.status = .processing) :
    (released now nextAttempt code row).Constrained := by
  obtain ⟨shape, attempts, limit⟩ := holds
  refine ⟨?_, attempts, limit⟩
  simp only [OutboxMessage.stateShape, processing, Bool.and_eq_true] at shape
  by_cases exhausted : row.maxAttempts ≤ row.attemptCount <;>
    simp [OutboxMessage.stateShape, released, exhausted, shape.1.2]

/-- **Every change keeps the constraints.** -/
theorem constrained (change : RowChange drawn row after) (holds : row.Constrained) :
    after.Constrained := by
  cases change with
  | unchanged => exact holds
  | claimed due =>
      obtain ⟨pending, _, fewer⟩ := claimable_iff.mp due
      have shape := holds.stateShape
      simp only [OutboxMessage.stateShape, pending, Bool.and_eq_true] at shape
      exact ⟨by simp [OutboxMessage.stateShape, markClaimed, shape], fewer, holds.maxAttempts⟩
  | claimFailed due =>
      obtain ⟨pending, _, fewer⟩ := claimable_iff.mp due
      have shape := holds.stateShape
      simp only [OutboxMessage.stateShape, pending, Bool.and_eq_true] at shape
      exact ⟨by simp [OutboxMessage.stateShape, failClaimed, markClaimed, shape], fewer,
        holds.maxAttempts⟩
  | @completed _ outboxId token now completion owned =>
      have processing := (ownedBy_iff.mp owned).2.1
      have shape := holds.stateShape
      simp only [OutboxMessage.stateShape, processing, Bool.and_eq_true] at shape
      cases completion with
      | acknowledge =>
          exact ⟨by simp [OutboxMessage.stateShape, Completion.written, acknowledged],
            holds.attemptCount, holds.maxAttempts⟩
      | reschedule delay code => exact released_constrained holds processing
      | failPermanently code =>
          exact ⟨by simp [OutboxMessage.stateShape, Completion.written, failedPermanently, shape],
            holds.attemptCount, holds.maxAttempts⟩
  | recovered expired =>
      simp only [leaseExpired, Bool.and_eq_true, decide_eq_true_eq] at expired
      exact released_constrained holds expired.1
  | requeued failed more limit =>
      have attempts := holds.attemptCount
      have bounds := holds.maxAttempts
      refine ⟨by simp [OutboxMessage.stateShape, Outbox.requeued], ?_, ?_⟩
      · simp only [Outbox.requeued]
        omega
      · simp only [Outbox.requeued]
        omega

/-- **Every change keeps rows from getting stuck.** -/
theorem unstuck (change : RowChange drawn row after) (holds : row.Unstuck) : after.Unstuck := by
  have kept : after.Constrained := change.constrained holds.toConstrained
  cases change with
  | unchanged => exact holds
  | claimed due => exact ⟨kept, by simp [markClaimed], by simp [markClaimed], by simp [markClaimed]⟩
  | claimFailed due =>
      exact ⟨kept, by simp [failClaimed], by simp [failClaimed],
        by simp [failClaimed, markClaimed]⟩
  | @completed _ outboxId token now completion owned =>
      have tried := holds.processing (ownedBy_iff.mp owned).2.1
      cases completion with
      | acknowledge =>
          exact ⟨kept, by simp [Completion.written, acknowledged],
            by simp [Completion.written, acknowledged], by simp [Completion.written, acknowledged]⟩
      | reschedule delay code =>
          exact ⟨kept, by simp [Completion.written, released], fun _ => tried, fun _ => tried⟩
      | failPermanently code =>
          exact ⟨kept, by simp [Completion.written, failedPermanently], fun _ => tried,
            fun _ => tried⟩
  | recovered expired =>
      simp only [leaseExpired, Bool.and_eq_true, decide_eq_true_eq] at expired
      have tried := holds.processing expired.1
      exact ⟨kept, by simp [released], fun _ => tried, fun _ => tried⟩
  | requeued failed more limit =>
      have attempts := holds.attemptCount
      refine ⟨kept, fun _ => ?_, by simp [Outbox.requeued], by simp [Outbox.requeued]⟩
      simp only [Outbox.requeued]
      omega

end RowChange

/-- A row that has just been enqueued has all its attempts left. -/
theorem OutboxMessage.Enqueued.unstuck {row : OutboxMessage} (enqueued : row.Enqueued) :
    row.Unstuck := by
  obtain ⟨payload, now, limit, fresh⟩ := enqueued
  rw [fresh]
  exact
    { stateShape := rfl
      attemptCount := Nat.zero_le _
      maxAttempts := limit
      pending := fun _ => limit.1
      processing := by simp [OutboxMessage.fresh]
      failed := by simp [OutboxMessage.fresh] }

/-- A pending row that is not stuck is claimable once it is due. -/
theorem OutboxMessage.Unstuck.claimable {row : OutboxMessage} (holds : row.Unstuck)
    (pending : row.status = .pending) :
    ∃ due, row.nextAttemptAt = some due ∧ ∀ now, due ≤ now → Outbox.claimable now row = true := by
  have shape := holds.stateShape
  simp only [stateShape, pending, Bool.and_eq_true] at shape
  obtain ⟨due, next⟩ := Option.isSome_iff_exists.mp shape.1.1.2
  refine ⟨due, next, fun now later => RowChange.claimable_iff.mpr ⟨pending, ?_, holds.pending pending⟩⟩
  simp [next, later]

/-! ## Whole tables -/

/-- What every change keeps and every enqueued row has, all rows have. -/
theorem TableChange.forall_rows {s t : QueueState} {drawn : Option Claim}
    {change : OutboxMessage → OutboxMessage} {added : List OutboxMessage}
    {property : OutboxMessage → Prop} (table : TableChange s t drawn change added)
    (kept : ∀ row after, RowChange drawn row after → property row → property after)
    (enqueued : ∀ row, row.Enqueued → property row) (holds : ∀ row ∈ s.rows, property row) :
    ∀ row ∈ t.rows, property row := by
  intro row member
  rcases table.mem_rows.mp member with ⟨old, old_member, rfl⟩ | new
  · exact kept old _ (table.changes old old_member) (holds old old_member)
  · exact enqueued row (table.enqueued row new)

section Tables

variable {registry : String → Bool} {s t : QueueState} {label : QueueLabel}

theorem QueueStep.constrained (step : QueueStep registry s label t)
    (unique : (s.rows.map OutboxMessage.id).Nodup) (holds : ∀ row ∈ s.rows, row.Constrained) :
    ∀ row ∈ t.rows, row.Constrained := by
  obtain ⟨change, added, table⟩ := step.tableChange unique
  exact table.forall_rows (fun _ _ changed => changed.constrained)
    (fun _ enqueued => enqueued.unstuck.toConstrained) holds

theorem QueueStep.unstuck (step : QueueStep registry s label t)
    (unique : (s.rows.map OutboxMessage.id).Nodup) (holds : ∀ row ∈ s.rows, row.Unstuck) :
    ∀ row ∈ t.rows, row.Unstuck := by
  obtain ⟨change, added, table⟩ := step.tableChange unique
  exact table.forall_rows (fun _ _ changed => changed.unstuck)
    (fun _ enqueued => enqueued.unstuck) holds

/-- A requeue of a failed row raises its limit, or leaves it as it is. -/
theorem QueueStep.requeue_failed {outboxId confirmation : Uuid} {additionalAttempts : Nat}
    {now : Int} {row : OutboxMessage}
    (step : QueueStep registry s (.requeue outboxId confirmation additionalAttempts now) t)
    (unique : (s.rows.map OutboxMessage.id).Nodup) (member : row ∈ s.rows)
    (named : row.id = outboxId) :
    row ∈ t.rows ∨
      (1 ≤ additionalAttempts ∧ additionalAttempts ≤ 5) ∧
        row.maxAttempts + additionalAttempts ≤ 20 ∧
        Outbox.requeued now additionalAttempts row ∈ t.rows := by
  cases step
  rcases requeueFailedMessage_cases outboxId confirmation additionalAttempts now s.rows with
    ⟨error, refused⟩ | ⟨found_row, found, _, more, limit, written⟩
  · refine .inl ?_
    simp only [QueueState.afterRequeue, QueueState.commit, refused]
    exact member
  · obtain ⟨found_member, same⟩ := rowOf_mem found
    obtain rfl := List.inj_on_of_nodup_map unique found_member member (same.trans named.symm)
    refine .inr ⟨more, limit, ?_⟩
    simp only [QueueState.afterRequeue, QueueState.commit, written]
    exact mem_updateWhere.mpr ⟨found_row, member, if_pos (decide_eq_true named)⟩

end Tables

/-- **Outbox rows are never malformed and never get stuck.** Every operation
keeps the constraints of the table; in every reachable state a pending row is
claimable once it is due, and a failed row has been tried; a requeue of a failed
row makes it pending with a limit raised by one to five, or leaves it alone. -/
theorem outbox_rows_never_stuck (registry : String → Bool) :
    (∀ s label t, QueueStep registry s label t → (s.rows.map OutboxMessage.id).Nodup →
      (∀ row ∈ s.rows, row.Constrained) → ∀ row ∈ t.rows, row.Constrained) ∧
    ∀ path finish, Run (QueueStep registry) .initial path finish →
      (∀ row ∈ finish.rows, row.Constrained ∧
        (row.status = .pending → row.attemptCount < row.maxAttempts ∧
          ∃ due, row.nextAttemptAt = some due ∧ ∀ now, due ≤ now → claimable now row = true) ∧
        (row.status = .failed → 1 ≤ row.attemptCount)) ∧
      ∀ taken ∈ path, ∀ outboxId confirmation additionalAttempts now,
        taken.label = .requeue outboxId confirmation additionalAttempts now →
        ∀ row ∈ taken.before.rows, row.id = outboxId → row.status = .failed →
          row ∈ taken.after.rows ∨
          ∃ requeued ∈ taken.after.rows, requeued.id = row.id ∧ requeued.status = .pending ∧
            requeued.attemptCount = row.attemptCount ∧ row.maxAttempts + 1 ≤ requeued.maxAttempts ∧
            requeued.maxAttempts ≤ row.maxAttempts + 5 ∧ requeued.maxAttempts ≤ 20 := by
  refine ⟨fun s label t step unique => step.constrained unique, fun path finish run => ?_⟩
  have kept : ∀ s a t, (TableInvariant s ∧ ∀ row ∈ s.rows, row.Unstuck) →
      QueueStep registry s a t → TableInvariant t ∧ ∀ row ∈ t.rows, row.Unstuck :=
    fun s a t inv step => ⟨step.tableInvariant inv.1, step.unstuck inv.1.ids inv.2⟩
  have initial : TableInvariant .initial ∧ ∀ row ∈ QueueState.initial.rows, row.Unstuck :=
    ⟨.initial, by simp [QueueState.initial]⟩
  refine ⟨fun row member => ?_, ?_⟩
  · have holds := (run.invariant kept initial).2 row member
    exact ⟨holds.toConstrained, fun pending => ⟨holds.pending pending, holds.claimable pending⟩,
      holds.failed⟩
  · intro taken member outboxId confirmation additionalAttempts now requeues row row_member named _
    have step := run.taken_step member
    rw [requeues] at step
    have unique := (run.invariant_at kept initial member).1.1.ids
    rcases step.requeue_failed unique row_member named with unchanged | ⟨more, limit, requeued⟩
    · exact .inl unchanged
    · refine .inr ⟨_, requeued, rfl, rfl, rfl, ?_, ?_, limit⟩
      · exact Nat.add_le_add_left more.1 _
      · exact Nat.add_le_add_left more.2 _

/-! ## A message to a disabled destination -/

def disabledContext : ClaimContext :=
  { sampleContext with destinations := [⟨3, "log", false, .low⟩] }

/-- The claim has failed the message. -/
def disabledClaim : QueueState :=
  sampleEnqueued.afterClaim 0 disabledContext (fun _ => false) 0 10 9

def disabledRequeue : QueueState := disabledClaim.afterRequeue 1 1 2 5

/-- The failed message is requeued with two more attempts, and can be claimed. -/
theorem outbox_rows_never_stuck_requeued :
    (∃ row ∈ disabledClaim.rows, row.id = 1 ∧ row.status = .failed) ∧
      ∃ row ∈ disabledRequeue.rows, row.status = .pending ∧ row.attemptCount = 1 ∧
        row.maxAttempts = 7 ∧ row.attemptCount < row.maxAttempts := by
  have run : Run (QueueStep fun _ => true) .initial
      [⟨.initial, .enqueue [sampleRow], sampleEnqueued⟩,
        ⟨sampleEnqueued, .claim 0 disabledContext (fun _ => false) 0 10 9, disabledClaim⟩,
        ⟨disabledClaim, .requeue 1 1 2 5, disabledRequeue⟩] disabledRequeue := by
    refine .cons (.enqueue ?_ (by decide)) (.cons (.claim rfl (by decide)) (.cons .requeue (.nil _)))
    intro row member
    obtain rfl := List.mem_singleton.mp member
    exact ⟨_, 0, by decide, rfl⟩
  refine ⟨by decide, ?_⟩
  have present : ∃ row ∈ disabledRequeue.rows,
      row.status = .pending ∧ row.attemptCount = 1 ∧ row.maxAttempts = 7 := by decide
  obtain ⟨row, member, pending, attempts, limit⟩ := present
  exact ⟨row, member, pending, attempts, limit,
    (((outbox_rows_never_stuck fun _ => true).2 _ _ run).1 row member).2.1 pending |>.1⟩

end WolandGuard.Outbox
