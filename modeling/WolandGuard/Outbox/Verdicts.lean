import WolandGuard.Outbox.Fencing

/-!
# Verdicts on rows

A row is settled with a verdict when it is delivered, or failed because its
delivery was rejected. No transaction settles a row but a completion, and a
worker completes a claim with the verdict of the adapter call it has made for
it. So in a run whose completions all come from workers, every verdict was
returned by a call that was handed the row's own payload and the configuration
of the row's own destination (`verdicts_from_calls`).
-/

set_option autoImplicit false

namespace WolandGuard.Outbox

open Foundations

/-! ## Verdicts -/

/-- Whether a row was accepted or rejected, once it is settled. -/
def OutboxMessage.verdict (row : OutboxMessage) : Option Bool :=
  if row.status = .delivered then some true
  else if row.status = .failed ∧ row.lastErrorCode = some .permanentDeliveryError then some false
  else none

def Completion.verdict : Completion → Option Bool
  | .acknowledge => some true
  | .failPermanently .permanentDeliveryError => some false
  | _ => none

def AdapterOutcome.verdict : AdapterOutcome → Option Bool
  | .returned ⟨.delivered, _⟩ => some true
  | .returned ⟨.permanent, some .permanentDeliveryError⟩ => some false
  | _ => none

theorem AdapterOutcome.completion_verdict (delay : Int) (outcome : AdapterOutcome) :
    (outcome.completion delay).verdict = outcome.verdict := by
  cases outcome with
  | raisedRetryableFailure => rfl
  | raisedException => rfl
  | returnedOther => rfl
  | returned result =>
      obtain ⟨disposition, errorCode⟩ := result
      cases disposition with
      | delivered => rfl
      | retryable => cases errorCode <;> rfl
      | permanent =>
          cases errorCode with
          | none => rfl
          | some code => cases code <;> rfl

theorem verdict_released (now nextAttempt : Int) (code : OutboxErrorCode) (row : OutboxMessage) :
    (released now nextAttempt code row).verdict = none := by
  unfold OutboxMessage.verdict released
  by_cases exhausted : row.maxAttempts ≤ row.attemptCount
  · simp [exhausted]
  · simp [exhausted]

theorem Completion.written_verdict (now : Int) (completion : Completion) (row : OutboxMessage) :
    (completion.written now row).verdict = completion.verdict := by
  cases completion with
  | acknowledge => rfl
  | reschedule delay code => exact verdict_released now (now + delay) code row
  | failPermanently code => cases code <;> rfl

/-! ## What a transaction keeps of a row -/

/-- What a row is about, and where it goes. -/
def OutboxMessage.subject (row : OutboxMessage) : Uuid × Uuid × IncidentCreatedNotificationV1 :=
  (row.id, row.destinationId, row.payload)

def ClaimedOutboxMessage.subject (claim : ClaimedOutboxMessage) :
    Uuid × Uuid × IncidentCreatedNotificationV1 :=
  (claim.outboxId, claim.destinationId, claim.payload)

theorem Completion.written_subject (now : Int) (completion : Completion) (row : OutboxMessage) :
    (completion.written now row).subject = row.subject := by
  cases completion <;> rfl

theorem RowChange.subject_eq {drawn : Option Claim} {row after : OutboxMessage}
    (change : RowChange drawn row after) : after.subject = row.subject := by
  cases change with
  | unchanged => rfl
  | claimed => rfl
  | claimFailed => rfl
  | completed => exact Completion.written_subject _ _ _
  | recovered => rfl
  | requeued => rfl

/-- Every row stays in the table with its subject. -/
theorem QueueStep.subject_kept {registry : String → Bool} {s t : QueueState} {label : QueueLabel}
    (step : QueueStep registry s label t) (inv : TableInvariant s) {row : OutboxMessage}
    (member : row ∈ s.rows) : ∃ after ∈ t.rows, after.subject = row.subject := by
  obtain ⟨change, added, table⟩ := step.tableChange inv.ids
  exact ⟨change row, table.mem_rows.mpr (.inl ⟨row, member, rfl⟩),
    (table.changes row member).subject_eq⟩

/-- A row that an update leaves or writes with one verdict. -/
theorem verdict_of_mem_updateWhere {condition : OutboxMessage → Bool}
    {written : OutboxMessage → OutboxMessage} {rows : List OutboxMessage} {row : OutboxMessage}
    {given : Option Bool} {verdict : Bool} (subject : ∀ old, (written old).subject = old.subject)
    (verdicts : ∀ old, (written old).verdict = given)
    (member : row ∈ updateWhere condition written rows) (settled : row.verdict = some verdict) :
    (∃ old ∈ rows, old.subject = row.subject ∧ old.verdict = some verdict) ∨
      ∃ old ∈ rows, condition old = true ∧ old.subject = row.subject ∧ given = some verdict := by
  obtain ⟨old, old_member, rfl⟩ := mem_updateWhere.mp member
  split at settled
  next meets =>
    rw [if_pos meets]
    exact .inr ⟨old, old_member, meets, (subject old).symm, (verdicts old).symm.trans settled⟩
  next misses =>
    rw [if_neg misses]
    exact .inl ⟨old, old_member, rfl, settled⟩

/-- A claim settles no row with a verdict. -/
theorem claimNextMessage_rows (context : ClaimContext) (locked : Uuid → Bool) (now lease : Int)
    (token : Uuid) (rows : List OutboxMessage) :
    (claimNextMessage context locked now lease token rows).1 = rows ∨
      ∃ condition written, (claimNextMessage context locked now lease token rows).1 =
          updateWhere condition written rows ∧
        (∀ old, (written old).subject = old.subject) ∧ ∀ old, (written old).verdict = none := by
  unfold claimNextMessage
  split
  · exact .inl rfl
  next row destination _ =>
    refine .inr ?_
    dsimp only
    split
    next code outcome =>
      refine ⟨_, _, rfl, fun _ => rfl, fun old => ?_⟩
      unfold claimOutcome at outcome
      split at outcome
      · obtain rfl := Except.error.inj outcome
        rfl
      split at outcome
      · obtain rfl := Except.error.inj outcome
        rfl
      split at outcome
      · cases outcome
      · split at outcome
        · obtain rfl := Except.error.inj outcome
          rfl
        · cases outcome
    · exact ⟨_, _, rfl, fun _ => rfl, fun _ => rfl⟩

/-- A message is handed out with the configuration of its destination, which is
enabled. -/
structure ConfiguredBy (context : ClaimContext) (claim : ClaimedOutboxMessage) : Prop where
  destination : ∃ destination ∈ context.destinations, destination.id = claim.destinationId ∧
    destination.enabled = true ∧ destination.adapterKind = claim.adapterKind
  configuration : claim.providerConfiguration =
    (context.configurationLoaders claim.adapterKind).bind (· claim.destinationId)

theorem claimOutcome_eq_ok {context : ClaimContext} {destination : NotificationDestination}
    {row : OutboxMessage} {configuration : Option ProviderConfiguration}
    (outcome : claimOutcome context destination row = .ok configuration) :
    destination.enabled = true ∧
      configuration =
        (context.configurationLoaders destination.adapterKind).bind (· destination.id) := by
  unfold claimOutcome at outcome
  split at outcome
  · cases outcome
  next enabled =>
    split at outcome
    · cases outcome
    · refine ⟨by simpa using enabled, ?_⟩
      split at outcome
      next unloaded =>
        obtain rfl := Except.ok.inj outcome
        rw [unloaded, Option.bind_none]
      next loader loaded =>
        split at outcome
        · cases outcome
        next found present =>
          obtain rfl := Except.ok.inj outcome
          rw [loaded, Option.bind_some, present]

/-- The message that a claim hands out has the subject of a row. -/
theorem claimNextMessage_message {context : ClaimContext} {locked : Uuid → Bool} {now lease : Int}
    {token : Uuid} {rows : List OutboxMessage} {claim : ClaimedOutboxMessage}
    (handed : (claimNextMessage context locked now lease token rows).2.message = some claim) :
    (∃ row ∈ rows, row.subject = claim.subject) ∧ ConfiguredBy context claim := by
  unfold claimNextMessage at handed
  split at handed
  · cases handed
  next row destination selected =>
    dsimp only at handed
    split at handed
    · cases handed
    next configuration outcome =>
      obtain rfl := Option.some.inj handed
      obtain ⟨joined, same_id⟩ := selectClaim_destination selected
      obtain ⟨enabled, loaded⟩ := claimOutcome_eq_ok outcome
      exact ⟨⟨row, (selectClaim_spec selected).1, rfl⟩,
        ⟨destination, joined, same_id, enabled, rfl⟩, same_id ▸ loaded⟩

/-- The workers after a claim. -/
theorem QueueState.workers_afterClaim (s : QueueState) (worker : Nat) (context : ClaimContext)
    (locked : Uuid → Bool) (now lease : Int) (token : Uuid) :
    (s.afterClaim worker context locked now lease token).workers =
      s.setWorker worker ((claimNextMessage context locked now lease token
        s.rows).2.message.elim .idle .holding) := rfl

/-! ## Where a verdict comes from -/

section Steps

variable {registry : String → Bool} {s t : QueueState} {label : QueueLabel}

/-- A completion transaction leaves verdicts or gives its own. -/
theorem verdict_of_commit {outboxId claimToken : Uuid} {now : Int} {completion : Completion}
    {row : OutboxMessage} {verdict : Bool}
    (member : row ∈ s.commit (completeClaim outboxId claimToken now completion s.rows))
    (settled : row.verdict = some verdict) :
    (∃ old ∈ s.rows, old.subject = row.subject ∧ old.verdict = some verdict) ∨
      ∃ old ∈ s.rows, old.id = outboxId ∧ old.subject = row.subject ∧
        completion.verdict = some verdict := by
  rcases completeClaim_cases outboxId claimToken now completion s.rows with
    ⟨lost, _⟩ | ⟨written, _⟩
  · rw [lost] at member
    exact .inl ⟨row, member, rfl, settled⟩
  · rw [written] at member
    rcases verdict_of_mem_updateWhere (completion.written_subject now)
      (completion.written_verdict now) member settled with
      kept | ⟨old, old_member, owned, same, given⟩
    · exact .inl kept
    · exact .inr ⟨old, old_member, (ownedBy_iff.mp owned).1, same, given⟩

/-- **A verdict was there before the step, or it is that of a completion.** -/
theorem QueueStep.verdict_cases (step : QueueStep registry s label t) {row : OutboxMessage}
    (member : row ∈ t.rows) {verdict : Bool} (settled : row.verdict = some verdict) :
    (∃ old ∈ s.rows, old.subject = row.subject ∧ old.verdict = some verdict) ∨
      ∃ call, label.completionCall? = some call ∧ call.completion.verdict = some verdict ∧
        ∃ old ∈ s.rows, old.id = call.outboxId ∧ old.subject = row.subject := by
  have unsettled {condition : OutboxMessage → Bool} {written : OutboxMessage → OutboxMessage}
      (there : row ∈ updateWhere condition written s.rows)
      (subject : ∀ old, (written old).subject = old.subject)
      (verdicts : ∀ old, (written old).verdict = none) :
      ∃ old ∈ s.rows, old.subject = row.subject ∧ old.verdict = some verdict := by
    rcases verdict_of_mem_updateWhere subject verdicts there settled with kept | ⟨_, _, _, _, given⟩
    · exact kept
    · cases given
  have completed {call : CompletionCall} (runs : label.completionCall? = some call)
      (there : row ∈ s.commit
        (completeClaim call.outboxId call.claimToken call.now call.completion s.rows)) :
      (∃ old ∈ s.rows, old.subject = row.subject ∧ old.verdict = some verdict) ∨
        ∃ call, label.completionCall? = some call ∧ call.completion.verdict = some verdict ∧
          ∃ old ∈ s.rows, old.id = call.outboxId ∧ old.subject = row.subject := by
    rcases verdict_of_commit there settled with kept | ⟨old, old_member, same_id, same, given⟩
    · exact .inl kept
    · exact .inr ⟨call, runs, given, old, old_member, same_id, same⟩
  cases step with
  | enqueue enqueued unique =>
      rcases List.mem_append.mp member with old | new
      · exact .inl ⟨row, old, rfl, settled⟩
      · obtain ⟨payload, now, _, fresh⟩ := enqueued row new
        rw [fresh] at settled
        cases settled
  | @claim worker context locked now lease token idle drawn =>
      have rows : (s.afterClaim worker context locked now lease token).rows =
          (claimNextMessage context locked now lease token s.rows).1 := rfl
      rw [rows] at member
      rcases claimNextMessage_rows context locked now lease token s.rows with
        same | ⟨condition, written, updated, subject, verdicts⟩
      · rw [same] at member
        exact .inl ⟨row, member, rfl, settled⟩
      · rw [updated] at member
        exact .inl (unsettled member subject verdicts)
  | callAdapter holding adapter => exact .inl ⟨row, member, rfl, settled⟩
  | deliverWithoutAdapter holding adapter => exact completed rfl member
  | complete delay answered => exact completed rfl member
  | lateCompletion => exact completed rfl member
  | crash => exact .inl ⟨row, member, rfl, settled⟩
  | recover =>
      exact .inl (unsettled member (fun _ => rfl) (fun _ => verdict_released _ _ _ _))
  | @requeue outboxId confirmation additionalAttempts now =>
      rcases requeueFailedMessage_cases outboxId confirmation additionalAttempts now s.rows with
        ⟨error, refused⟩ | ⟨_, _, _, _, _, written⟩
      · rw [QueueState.afterRequeue, refused] at member
        exact .inl ⟨row, member, rfl, settled⟩
      · rw [QueueState.afterRequeue, written] at member
        exact .inl (unsettled member (fun _ => rfl) (fun _ => rfl))

/-- What a worker holds after a step. -/
theorem QueueStep.holding_cases (step : QueueStep registry s label t) {worker : Nat}
    {claim : ClaimedOutboxMessage} (holding : t.workers worker = .holding claim) :
    s.workers worker = .holding claim ∨
      (∃ row ∈ s.rows, row.subject = claim.subject) ∧
        ∃ context locked now lease token, label = .claim worker context locked now lease token ∧
          ConfiguredBy context claim := by
  have idled {other : Nat} (there : (s.idled other).workers worker = .holding claim) :
      s.workers worker = .holding claim := QueueState.idled_held there
  cases step with
  | enqueue => exact .inl holding
  | @claim other context locked now lease token idle drawn =>
      rw [QueueState.workers_afterClaim] at holding
      rcases QueueState.setWorker_holding holding with ⟨same_worker, handed⟩ | ⟨_, old⟩
      · cases message : (claimNextMessage context locked now lease token s.rows).2.message with
        | none =>
            rw [message] at handed
            cases handed
        | some found =>
            rw [message] at handed
            obtain rfl : found = claim := by simpa using handed
            obtain ⟨subject, configured⟩ := claimNextMessage_message message
            exact .inr ⟨subject, context, locked, now, lease, token, by rw [same_worker], configured⟩
      · exact .inl old
  | callAdapter held adapter =>
      rcases QueueState.setWorker_holding holding with ⟨_, impossible⟩ | ⟨_, old⟩
      · cases impossible
      · exact .inl old
  | deliverWithoutAdapter => exact .inl (idled holding)
  | complete => exact .inl (idled holding)
  | lateCompletion => exact .inl holding
  | crash => exact .inl (idled holding)
  | recover => exact .inl holding
  | requeue => exact .inl holding

theorem QueueState.setWorker_answered {worker other : Nat} {phase : WorkerPhase}
    {claim : ClaimedOutboxMessage} {outcome : AdapterOutcome}
    (answered : s.setWorker worker phase other = .answered claim outcome) :
    phase = .answered claim outcome ∨ s.workers other = .answered claim outcome := by
  unfold QueueState.setWorker at answered
  split at answered
  · exact .inl answered
  · exact .inr answered

/-- What a worker has been answered after a step. -/
theorem QueueStep.answered_cases (step : QueueStep registry s label t) {worker : Nat}
    {claim : ClaimedOutboxMessage} {outcome : AdapterOutcome}
    (answered : t.workers worker = .answered claim outcome) :
    s.workers worker = .answered claim outcome ∨
      ∃ caller, label = .callAdapter caller outcome ∧ s.workers caller = .holding claim := by
  have idled {other : Nat} (there : (s.idled other).workers worker = .answered claim outcome) :
      s.workers worker = .answered claim outcome := by
    rcases QueueState.setWorker_answered there with impossible | old
    · cases impossible
    · exact old
  cases step with
  | enqueue => exact .inl answered
  | @claim other context locked now lease token idle drawn =>
      rw [QueueState.workers_afterClaim] at answered
      rcases QueueState.setWorker_answered answered with handed | old
      · cases message : (claimNextMessage context locked now lease token s.rows).2.message with
        | none =>
            rw [message] at handed
            cases handed
        | some found =>
            rw [message] at handed
            cases handed
      · exact .inl old
  | callAdapter holding adapter =>
      rcases QueueState.setWorker_answered answered with same | old
      · obtain ⟨rfl, rfl⟩ := WorkerPhase.answered.inj same
        exact .inr ⟨_, rfl, holding⟩
      · exact .inl old
  | deliverWithoutAdapter => exact .inl (idled answered)
  | complete => exact .inl (idled answered)
  | lateCompletion => exact .inl answered
  | crash => exact .inl (idled answered)
  | recover => exact .inl answered
  | requeue => exact .inl answered

end Steps

/-! ## Whole runs -/

/-- An adapter call of a path that was handed a claim. -/
def Called (path : List (Taken QueueState QueueLabel)) (claim : ClaimedOutboxMessage)
    (outcome : AdapterOutcome) : Prop :=
  ∃ taken ∈ path, ∃ worker, taken.label = .callAdapter worker outcome ∧
    taken.before.workers worker = .holding claim

theorem Called.append {path later : List (Taken QueueState QueueLabel)}
    {claim : ClaimedOutboxMessage} {outcome : AdapterOutcome} (called : Called path claim outcome) :
    Called (path ++ later) claim outcome := by
  obtain ⟨taken, member, rest⟩ := called
  exact ⟨taken, List.mem_append_left _ member, rest⟩

/-- A claim step of a path that handed out a message. -/
def Handed (path : List (Taken QueueState QueueLabel)) (claim : ClaimedOutboxMessage) : Prop :=
  ∃ taken ∈ path, ∃ worker context locked now lease token,
    taken.label = .claim worker context locked now lease token ∧ ConfiguredBy context claim

theorem Handed.append {path later : List (Taken QueueState QueueLabel)}
    {claim : ClaimedOutboxMessage} (handed : Handed path claim) : Handed (path ++ later) claim := by
  obtain ⟨taken, member, rest⟩ := handed
  exact ⟨taken, List.mem_append_left _ member, rest⟩

/-- A verdict that a call has returned for the subject of the row. -/
def Returned (path : List (Taken QueueState QueueLabel)) (row : OutboxMessage) (verdict : Bool) :
    Prop :=
  ∃ claim outcome, Called path claim outcome ∧ outcome.verdict = some verdict ∧
    row.subject = claim.subject ∧ Handed path claim

/-- What holds of the claims in hand and of the verdicts after a path. -/
structure VerdictHistory (path : List (Taken QueueState QueueLabel)) (s : QueueState) : Prop where
  table : TableInvariant s
  holding : ∀ worker claim, s.workers worker = .holding claim →
    (∃ row ∈ s.rows, row.subject = claim.subject) ∧ Handed path claim
  answered : ∀ worker claim outcome, s.workers worker = .answered claim outcome →
    Called path claim outcome ∧ (∃ row ∈ s.rows, row.subject = claim.subject) ∧ Handed path claim
  settled : ∀ row ∈ s.rows, ∀ verdict, row.verdict = some verdict → Returned path row verdict

theorem VerdictHistory.initial : VerdictHistory [] .initial where
  table := .initial
  holding := by simp [QueueState.initial]
  answered := by simp [QueueState.initial]
  settled := by simp [QueueState.initial]

/-- A completion that comes from a worker. -/
def QueueLabel.ByWorker : QueueLabel → Prop
  | .lateCompletion _ => False
  | _ => True

section Runs

variable {registry : String → Bool} {s t finish : QueueState} {label : QueueLabel}
variable {path : List (Taken QueueState QueueLabel)}

/-- The verdict of a worker's completion is that of the call it was answered. -/
theorem QueueStep.returned_of_completion (step : QueueStep registry s label t)
    (byWorker : label.ByWorker) (history : VerdictHistory path s) {call : CompletionCall}
    (runs : label.completionCall? = some call) {verdict : Bool}
    (given : call.completion.verdict = some verdict) {row : OutboxMessage} (member : row ∈ s.rows)
    (same : row.id = call.outboxId) : Returned path row verdict := by
  cases step <;> simp only [QueueLabel.completionCall?, Option.some.injEq, reduceCtorEq] at runs
  case lateCompletion => exact byWorker.elim
  case deliverWithoutAdapter =>
    subst runs
    cases given
  case complete worker claim outcome now delay answered =>
    subst runs
    obtain ⟨called, ⟨other, other_member, subject⟩, handed⟩ :=
      history.answered worker claim outcome answered
    rw [AdapterOutcome.completion_verdict] at given
    have equal : row = other := by
      refine List.inj_on_of_nodup_map history.table.ids member other_member ?_
      exact same.trans (congrArg Prod.fst subject).symm
    exact ⟨claim, outcome, called, given, equal ▸ subject, handed⟩

/-- **A step of the queue keeps the history.** -/
theorem QueueStep.verdictHistory (step : QueueStep registry s label t)
    (byWorker : label.ByWorker) (history : VerdictHistory path s) :
    VerdictHistory (path ++ [⟨s, label, t⟩]) t := by
  have kept {subject : Uuid × Uuid × IncidentCreatedNotificationV1}
      (there : ∃ row ∈ s.rows, row.subject = subject) : ∃ row ∈ t.rows, row.subject = subject := by
    obtain ⟨row, member, rfl⟩ := there
    exact step.subject_kept history.table member
  refine ⟨step.tableInvariant history.table, ?_, ?_, ?_⟩
  · intro worker claim holding
    rcases step.holding_cases holding with old | ⟨there, claimed⟩
    · obtain ⟨there, handed⟩ := history.holding worker claim old
      exact ⟨kept there, handed.append⟩
    · exact ⟨kept there, _, List.mem_append_right _ List.mem_cons_self, worker, claimed⟩
  · intro worker claim outcome answered
    rcases step.answered_cases answered with old | ⟨caller, called, holding⟩
    · obtain ⟨called, there, handed⟩ := history.answered worker claim outcome old
      exact ⟨called.append, kept there, handed.append⟩
    · obtain ⟨there, handed⟩ := history.holding caller claim holding
      exact ⟨⟨_, List.mem_append_right _ List.mem_cons_self, caller, called, holding⟩,
        kept there, handed.append⟩
  · intro row member verdict settled
    have appended {old : OutboxMessage} (same : old.subject = row.subject)
        (returned : Returned path old verdict) :
        Returned (path ++ [⟨s, label, t⟩]) row verdict := by
      obtain ⟨claim, outcome, called, given, subject, handed⟩ := returned
      exact ⟨claim, outcome, called.append, given, same ▸ subject, handed.append⟩
    rcases step.verdict_cases member settled with
      ⟨old, old_member, same, before⟩ | ⟨call, runs, given, old, old_member, same_id, same⟩
    · exact appended same (history.settled old old_member verdict before)
    · exact appended same
        (step.returned_of_completion byWorker history runs given old_member same_id)

/-- **Verdicts come from calls.** In a run from the empty outbox whose
completions all come from workers, each settled row has a verdict that an
adapter call has returned, and the call was handed the row's id and payload and
the configuration of its destination. -/
theorem verdicts_from_calls (run : Run (QueueStep registry) .initial path finish)
    (byWorker : ∀ taken ∈ path, taken.label.ByWorker) : VerdictHistory path finish := by
  have guarded : Run (fun s label t => QueueLabel.ByWorker label ∧ QueueStep registry s label t)
      .initial path finish := run.guarded byWorker
  exact guarded.extend .initial fun earlier state label after _ history step =>
    step.2.verdictHistory step.1 history

end Runs

end WolandGuard.Outbox
