import WolandGuard.Outbox.RowChanges

/-!
# Lease fencing

A claim token fences its lease. The only transaction that writes a token
writes one drawn for that claim. So a token that no row carries any more is
spent for good (`QueueStep.spent`): a completion that arrives with it finds no
row and raises `LeaseLostError`. A delivered row meets the condition of no
transaction, and attempts count claims (`TableInvariant`).

Adapter calls are made by the worker that holds the claim, once for each
claim (`WorkerInvariant`), so there are at most as many as claims.
-/

set_option autoImplicit false

namespace WolandGuard.Outbox

open Foundations

/-! ## The invariant of the table -/

/-- What holds of the rows and the claims in every state. -/
structure TableInvariant (s : QueueState) : Prop where
  ids : (s.rows.map OutboxMessage.id).Nodup
  tokens : (s.claims.map Claim.claimToken).Nodup
  known : ∀ claim ∈ s.claims, ∃ row ∈ s.rows, row.id = claim.outboxId
  carried : ∀ row ∈ s.rows, ∀ token, row.claimToken = some token → ⟨row.id, token⟩ ∈ s.claims
  processing : ∀ row ∈ s.rows, ∀ token, row.claimToken = some token → row.status = .processing
  attempts : ∀ row ∈ s.rows, row.attemptCount = s.claimsOf row.id
  bounded : ∀ row ∈ s.rows, row.attemptCount ≤ row.maxAttempts

namespace TableChange

variable {s t : QueueState} {drawn : Option Claim} {change : OutboxMessage → OutboxMessage}
variable {added : List OutboxMessage}

/-- A row afterwards is a changed row or a new one. -/
theorem mem_rows (table : TableChange s t drawn change added) {row : OutboxMessage} :
    row ∈ t.rows ↔ (∃ old ∈ s.rows, change old = row) ∨ row ∈ added := by
  rw [table.rows, List.mem_append, List.mem_map]

theorem ids (table : TableChange s t drawn change added)
    (unique : (s.rows.map OutboxMessage.id).Nodup) : (t.rows.map OutboxMessage.id).Nodup := by
  rcases table.unique with rfl | still_unique
  · have same_ids : t.rows.map OutboxMessage.id = s.rows.map OutboxMessage.id := by
      rw [table.rows, List.append_nil, List.map_map]
      exact List.map_congr_left fun row member => (table.changes row member).id_eq
    rwa [same_ids]
  · exact still_unique

theorem claimsOf_eq (table : TableChange s t drawn change added) (outboxId : Uuid) :
    t.claimsOf outboxId = drawn.toList.countP (·.outboxId = outboxId) + s.claimsOf outboxId := by
  rw [QueueState.claimsOf, table.claims, List.countP_append, QueueState.claimsOf]

theorem known (table : TableChange s t drawn change added)
    (known : ∀ claim ∈ s.claims, ∃ row ∈ s.rows, row.id = claim.outboxId) :
    ∀ claim ∈ t.claims, ∃ row ∈ t.rows, row.id = claim.outboxId := by
  intro claim member
  have old : ∃ row ∈ s.rows, row.id = claim.outboxId := by
    rw [table.claims, List.mem_append, Option.mem_toList] at member
    exact member.elim (table.claimed claim) (known claim)
  obtain ⟨row, row_member, same⟩ := old
  refine ⟨change row, table.mem_rows.mpr (.inl ⟨row, row_member, rfl⟩), ?_⟩
  rw [(table.changes row row_member).id_eq, same]

/-- A new row has no claims yet. -/
theorem claimsOf_added (table : TableChange s t drawn change added) (inv : TableInvariant s)
    {row : OutboxMessage} (member : row ∈ added) : t.claimsOf row.id = 0 := by
  rcases table.unique with rfl | unique
  · cases member
  rw [QueueState.claimsOf, List.countP_eq_zero]
  intro claim claim_member same
  have old : ∃ other ∈ s.rows, other.id = claim.outboxId := by
    rw [table.claims, List.mem_append, Option.mem_toList] at claim_member
    exact claim_member.elim (table.claimed claim) (inv.known claim)
  obtain ⟨other, other_member, other_same⟩ := old
  rw [table.rows, List.map_append, List.map_map] at unique
  refine List.disjoint_of_nodup_append unique (List.mem_map.mpr ⟨other, other_member, ?_⟩)
    (List.mem_map_of_mem member)
  simp only [Function.comp_apply]
  rw [(table.changes other other_member).id_eq, other_same]
  simpa using same

/-- **Every transaction keeps the invariant of the table.** -/
theorem invariant (table : TableChange s t drawn change added) (inv : TableInvariant s) :
    TableInvariant t where
  ids := table.ids inv.ids
  tokens := by
    rw [table.claims, List.map_append]
    refine List.Nodup.append ?_ inv.tokens ?_
    · cases drawn <;> simp
    · intro token token_drawn old
      obtain ⟨claim, claim_drawn, rfl⟩ := List.mem_map.mp token_drawn
      exact table.fresh claim (Option.mem_toList.mp claim_drawn) old
  known := table.known inv.known
  carried := by
    intro row member token holds
    rw [table.claims, List.mem_append, Option.mem_toList]
    rcases table.mem_rows.mp member with ⟨old, old_member, rfl⟩ | new
    · have changed := table.changes old old_member
      rw [changed.id_eq]
      rcases changed.token_cases holds with before | now_drawn
      · exact .inr (inv.carried old old_member token before)
      · exact .inl now_drawn
    · obtain ⟨payload, now, _, fresh⟩ := table.enqueued row new
      rw [fresh] at holds
      simp [OutboxMessage.fresh] at holds
  processing := by
    intro row member token holds
    rcases table.mem_rows.mp member with ⟨old, old_member, rfl⟩ | new
    · exact (table.changes old old_member).processing (inv.processing old old_member) token holds
    · obtain ⟨payload, now, _, fresh⟩ := table.enqueued row new
      rw [fresh] at holds
      simp [OutboxMessage.fresh] at holds
  attempts := by
    intro row member
    rcases table.mem_rows.mp member with ⟨old, old_member, rfl⟩ | new
    · have changed := table.changes old old_member
      rw [changed.attemptCount_eq, changed.id_eq, table.claimsOf_eq, inv.attempts old old_member]
    · obtain ⟨payload, now, _, fresh⟩ := table.enqueued row new
      rw [table.claimsOf_added inv new, fresh]
      rfl
  bounded := by
    intro row member
    rcases table.mem_rows.mp member with ⟨old, old_member, rfl⟩ | new
    · exact (table.changes old old_member).attempts_bounded (inv.bounded old old_member)
    · obtain ⟨payload, now, _, fresh⟩ := table.enqueued row new
      rw [fresh]
      exact Nat.zero_le _

end TableChange

theorem TableInvariant.initial : TableInvariant .initial where
  ids := List.nodup_nil
  tokens := List.nodup_nil
  known := by simp [QueueState.initial]
  carried := by simp [QueueState.initial]
  processing := by simp [QueueState.initial]
  attempts := by simp [QueueState.initial]
  bounded := by simp [QueueState.initial]

/-- The invariant of the table is kept by every step. -/
theorem QueueStep.tableInvariant {registry : String → Bool} {s t : QueueState}
    {label : QueueLabel} (step : QueueStep registry s label t) (inv : TableInvariant s) :
    TableInvariant t := by
  obtain ⟨change, added, table⟩ := step.tableChange inv.ids
  exact table.invariant inv

/-! ## Tokens that are spent -/

/-- A token that was drawn and that no row carries. -/
def Spent (token : Uuid) (s : QueueState) : Prop :=
  token ∈ s.claims.map Claim.claimToken ∧ ∀ row ∈ s.rows, row.claimToken ≠ some token

/-- **A spent token stays spent.** -/
theorem QueueStep.spent {registry : String → Bool} {s t : QueueState} {label : QueueLabel}
    (step : QueueStep registry s label t) (inv : TableInvariant s) {token : Uuid}
    (spent : Spent token s) : Spent token t := by
  obtain ⟨change, added, table⟩ := step.tableChange inv.ids
  refine ⟨?_, fun row member carried => ?_⟩
  · rw [table.claims, List.map_append]
    exact List.mem_append_right _ spent.1
  · have in_claims := (table.invariant inv).carried row member token carried
    rcases table.mem_rows.mp member with ⟨old, old_member, rfl⟩ | new
    · rcases (table.changes old old_member).token_cases carried with before | now_drawn
      · exact spent.2 old old_member before
      · exact table.fresh _ (Option.mem_def.mpr now_drawn) spent.1
    · obtain ⟨payload, now, _, fresh⟩ := table.enqueued row new
      rw [fresh] at carried
      simp [OutboxMessage.fresh] at carried

/-- A completion with a spent token is refused. -/
theorem Spent.leaseLost {token : Uuid} {s : QueueState} (spent : Spent token s) (outboxId : Uuid)
    (now : Int) (completion : Completion) :
    completeClaim outboxId token now completion s.rows = .error .leaseLost := by
  rcases completeClaim_cases outboxId token now completion s.rows with
    ⟨lost, _⟩ | ⟨_, row, member, owned⟩
  · exact lost
  · simp only [ownedBy, Bool.and_eq_true, decide_eq_true_eq] at owned
    exact absurd owned.2 (spent.2 row member)

theorem ownedBy_iff {outboxId claimToken : Uuid} {row : OutboxMessage} :
    ownedBy outboxId claimToken row = true ↔
      row.id = outboxId ∧ row.status = .processing ∧ row.claimToken = some claimToken := by
  simp [ownedBy, and_assoc]

/-- The token of a lease that a step ends is spent. -/
theorem QueueStep.spent_of_ended {registry : String → Bool} {s t : QueueState}
    {label : QueueLabel} (step : QueueStep registry s label t) (inv : TableInvariant s)
    {outboxId token : Uuid} (held : s.Holds outboxId token) (ended : ¬ t.Holds outboxId token) :
    Spent token t := by
  obtain ⟨change, added, table⟩ := step.tableChange inv.ids
  have next := table.invariant inv
  obtain ⟨row, member, owned⟩ := held
  obtain ⟨rfl, _, carries⟩ := ownedBy_iff.mp owned
  have on_record : ⟨row.id, token⟩ ∈ t.claims := by
    rw [table.claims]
    exact List.mem_append_right _ (inv.carried row member token carries)
  refine ⟨List.mem_map.mpr ⟨_, on_record, rfl⟩, fun other other_member carried => ?_⟩
  have same_claim : (⟨other.id, token⟩ : Claim) = ⟨row.id, token⟩ :=
    List.inj_on_of_nodup_map next.tokens (next.carried other other_member token carried)
      on_record rfl
  have processing := next.processing other other_member token carried
  exact ended ⟨other, other_member,
    ownedBy_iff.mpr ⟨congrArg Claim.outboxId same_claim, processing, carried⟩⟩

/-! ## Completions -/

/-- A step that runs a completion transaction leaves the table as that
transaction commits it. -/
theorem QueueStep.completion_rows {registry : String → Bool} {s t : QueueState}
    {label : QueueLabel} (step : QueueStep registry s label t) {call : CompletionCall}
    (runs : label.completionCall? = some call) :
    t.rows = s.commit
      (completeClaim call.outboxId call.claimToken call.now call.completion s.rows) := by
  cases step <;> simp only [QueueLabel.completionCall?, Option.some.injEq, reduceCtorEq] at runs <;>
    subst runs <;> rfl

/-- **A completion that changes the table writes the one row that is
processing under its token**, and ends that lease. -/
theorem QueueStep.changing_completion {registry : String → Bool} {s t : QueueState}
    {label : QueueLabel} (step : QueueStep registry s label t) {call : CompletionCall}
    (runs : label.completionCall? = some call) (changed : t.rows ≠ s.rows) :
    s.Holds call.outboxId call.claimToken ∧
      t.rows = updateWhere (ownedBy call.outboxId call.claimToken)
        (call.completion.written call.now) s.rows ∧
      ¬ t.Holds call.outboxId call.claimToken := by
  have rows := step.completion_rows runs
  rcases completeClaim_cases call.outboxId call.claimToken call.now call.completion s.rows with
    ⟨lost, _⟩ | ⟨written, holds⟩
  · rw [lost] at rows
    exact absurd rows changed
  · simp only [written, QueueState.commit] at rows
    refine ⟨holds, rows, ?_⟩
    rintro ⟨row, member, owned⟩
    rw [rows, mem_updateWhere] at member
    obtain ⟨old, _, rfl⟩ := member
    split at owned
    · simp [ownedBy] at owned
    · exact absurd owned ‹_›

/-- A recovery ends every lease that has expired. -/
theorem QueueStep.recover_ends {registry : String → Bool} {s t : QueueState} {now : Int}
    (step : QueueStep registry s (.recover now) t) (inv : TableInvariant s) {row : OutboxMessage}
    (member : row ∈ s.rows) (expired : leaseExpired now row = true) {token : Uuid} :
    ¬ t.Holds row.id token := by
  cases step
  rintro ⟨after, after_member, owned⟩
  obtain ⟨old, old_member, rfl⟩ := mem_updateWhere.mp after_member
  split at owned
  · simp [ownedBy, released] at owned
  next not_expired =>
    have same := List.inj_on_of_nodup_map inv.ids old_member member (ownedBy_iff.mp owned).1
    exact not_expired (same ▸ expired)

/-! ## Adapter calls -/

/-- The claim that a message in hand was made under. -/
def ClaimedOutboxMessage.claim (message : ClaimedOutboxMessage) : Claim :=
  ⟨message.outboxId, message.claimToken⟩

/-- What holds of the workers and the adapter calls in every state. -/
structure WorkerInvariant (s : QueueState) : Prop where
  sendsOnce : s.sends.Nodup
  sendsClaimed : ∀ claim ∈ s.sends, claim ∈ s.claims
  heldClaimed : ∀ worker message, s.workers worker = .holding message → message.claim ∈ s.claims
  heldUnsent : ∀ worker message, s.workers worker = .holding message → message.claim ∉ s.sends
  heldOnce : ∀ worker other message otherMessage, s.workers worker = .holding message →
    s.workers other = .holding otherMessage → message.claim = otherMessage.claim → worker = other

theorem WorkerInvariant.initial : WorkerInvariant .initial := by
  constructor <;> simp [QueueState.initial]

/-- A step that takes no message in hand and makes no call. -/
theorem WorkerInvariant.of_fewer {s t : QueueState} (inv : WorkerInvariant s)
    (sends : t.sends = s.sends) (claims : ∀ claim ∈ s.claims, claim ∈ t.claims)
    (held : ∀ worker message, t.workers worker = .holding message →
      s.workers worker = .holding message) : WorkerInvariant t where
  sendsOnce := by
    rw [sends]
    exact inv.sendsOnce
  sendsClaimed := by
    rw [sends]
    exact fun claim member => claims claim (inv.sendsClaimed claim member)
  heldClaimed := fun worker message holding =>
    claims _ (inv.heldClaimed worker message (held worker message holding))
  heldUnsent := by
    rw [sends]
    exact fun worker message holding => inv.heldUnsent worker message (held worker message holding)
  heldOnce := fun worker other message otherMessage holding otherHolding =>
    inv.heldOnce worker other message otherMessage (held _ _ holding) (held _ _ otherHolding)

theorem QueueState.idled_held {s : QueueState} {idled worker : Nat}
    {message : ClaimedOutboxMessage} (holding : (s.idled idled).workers worker = .holding message) :
    s.workers worker = .holding message := by
  simp only [QueueState.idled, QueueState.setWorker] at holding
  split at holding
  · cases holding
  · exact holding

theorem QueueState.setWorker_holding {s : QueueState} {worker other : Nat} {phase : WorkerPhase}
    {message : ClaimedOutboxMessage} (holding : s.setWorker worker phase other = .holding message) :
    other = worker ∧ phase = .holding message ∨
      other ≠ worker ∧ s.workers other = .holding message := by
  unfold QueueState.setWorker at holding
  split at holding
  · exact .inl ⟨‹_›, holding⟩
  · exact .inr ⟨‹_›, holding⟩

/-- A claim that hands a message to a worker. -/
theorem WorkerInvariant.of_claim {s t : QueueState} (inv : WorkerInvariant s) {worker : Nat}
    {message : ClaimedOutboxMessage} (unheard : message.claim ∉ s.claims)
    (sends : t.sends = s.sends) (claims : t.claims = message.claim :: s.claims)
    (workers : t.workers = s.setWorker worker (.holding message)) : WorkerInvariant t where
  sendsOnce := by
    rw [sends]
    exact inv.sendsOnce
  sendsClaimed := by
    rw [sends, claims]
    exact fun claim member => List.mem_cons_of_mem _ (inv.sendsClaimed claim member)
  heldClaimed := by
    intro other otherMessage holding
    rw [workers] at holding
    rw [claims]
    rcases QueueState.setWorker_holding holding with ⟨_, same⟩ | ⟨_, old⟩
    · obtain rfl : message = otherMessage := by simpa using same
      exact List.mem_cons_self
    · exact List.mem_cons_of_mem _ (inv.heldClaimed other otherMessage old)
  heldUnsent := by
    intro other otherMessage holding sent
    rw [workers] at holding
    rw [sends] at sent
    rcases QueueState.setWorker_holding holding with ⟨_, same⟩ | ⟨_, old⟩
    · obtain rfl : message = otherMessage := by simpa using same
      exact unheard (inv.sendsClaimed _ sent)
    · exact inv.heldUnsent other otherMessage old sent
  heldOnce := by
    intro first second firstMessage secondMessage holding secondHolding same
    rw [workers] at holding secondHolding
    rcases QueueState.setWorker_holding holding with ⟨rfl, firstNew⟩ | ⟨_, firstOld⟩ <;>
      rcases QueueState.setWorker_holding secondHolding with ⟨rfl, secondNew⟩ | ⟨_, secondOld⟩
    · rfl
    · obtain rfl : message = firstMessage := by simpa using firstNew
      exact absurd (same ▸ inv.heldClaimed second secondMessage secondOld) unheard
    · obtain rfl : message = secondMessage := by simpa using secondNew
      exact absurd (same ▸ inv.heldClaimed first firstMessage firstOld) unheard
    · exact inv.heldOnce first second firstMessage secondMessage firstOld secondOld same

/-- The call of an adapter with the message in hand. -/
theorem WorkerInvariant.of_send {s : QueueState} (inv : WorkerInvariant s) {worker : Nat}
    {message : ClaimedOutboxMessage} {outcome : AdapterOutcome}
    (holding : s.workers worker = .holding message) :
    WorkerInvariant (s.afterSend worker message outcome) := by
  have still_held : ∀ {other : Nat} {otherMessage : ClaimedOutboxMessage},
      (s.afterSend worker message outcome).workers other = .holding otherMessage →
        other ≠ worker ∧ s.workers other = .holding otherMessage := by
    intro other otherMessage held
    rcases QueueState.setWorker_holding held with ⟨_, same⟩ | old
    · cases same
    · exact old
  exact
    { sendsOnce := List.nodup_cons.mpr ⟨inv.heldUnsent worker message holding, inv.sendsOnce⟩
      sendsClaimed := by
        intro claim member
        rcases List.mem_cons.mp member with rfl | old
        · exact inv.heldClaimed worker message holding
        · exact inv.sendsClaimed claim old
      heldClaimed := fun other otherMessage held =>
        inv.heldClaimed other otherMessage (still_held held).2
      heldUnsent := by
        intro other otherMessage held sent
        obtain ⟨different, old⟩ := still_held held
        rcases List.mem_cons.mp sent with same | sent_before
        · exact different (inv.heldOnce other worker otherMessage message old holding same)
        · exact inv.heldUnsent other otherMessage old sent_before
      heldOnce := fun first second firstMessage secondMessage firstHeld secondHeld =>
        inv.heldOnce first second firstMessage secondMessage (still_held firstHeld).2
          (still_held secondHeld).2 }

/-- **Every step keeps the invariant of the workers.** -/
theorem QueueStep.workerInvariant {registry : String → Bool} {s t : QueueState}
    {label : QueueLabel} (step : QueueStep registry s label t) (table : TableInvariant s)
    (inv : WorkerInvariant s) : WorkerInvariant t := by
  have kept : ∀ claim ∈ s.claims, claim ∈ t.claims := by
    obtain ⟨change, added, changed⟩ := step.tableChange table.ids
    intro claim member
    rw [changed.claims]
    exact List.mem_append_right _ member
  cases step with
  | enqueue => exact inv.of_fewer rfl kept fun _ _ holding => holding
  | @claim worker context locked now lease token idle drawn =>
      rcases claimNextMessage_cases context locked now lease token s.rows with
        ⟨selected, result⟩ | ⟨row, destination, selected, outcome⟩
      · refine inv.of_fewer rfl kept fun other message holding => ?_
        simp only [QueueState.afterClaim, result, Option.elim_none] at holding
        exact QueueState.idled_held holding
      · rcases outcome with ⟨code, result⟩ | ⟨claim, result, same_id, same_token⟩
        · refine inv.of_fewer rfl kept fun other message holding => ?_
          simp only [QueueState.afterClaim, result, Option.elim_none] at holding
          exact QueueState.idled_held holding
        · have workers : (s.afterClaim worker context locked now lease token).workers =
              s.setWorker worker (.holding claim) := by simp [QueueState.afterClaim, result]
          have claims : (s.afterClaim worker context locked now lease token).claims =
              claim.claim :: s.claims := by
            simp [QueueState.afterClaim, selected, ClaimedOutboxMessage.claim, same_id, same_token]
          have unheard : claim.claim ∉ s.claims := fun member =>
            drawn (List.mem_map.mpr ⟨_, member, same_token⟩)
          exact inv.of_claim unheard rfl claims workers
  | callAdapter holding adapter => exact inv.of_send holding
  | deliverWithoutAdapter => exact inv.of_fewer rfl kept fun _ _ => QueueState.idled_held
  | complete => exact inv.of_fewer rfl kept fun _ _ => QueueState.idled_held
  | lateCompletion => exact inv.of_fewer rfl kept fun _ _ holding => holding
  | crash => exact inv.of_fewer rfl kept fun _ _ => QueueState.idled_held
  | recover => exact inv.of_fewer rfl kept fun _ _ holding => holding
  | requeue => exact inv.of_fewer rfl kept fun _ _ holding => holding

/-- The invariant of the queue. -/
structure QueueInvariant (s : QueueState) : Prop where
  table : TableInvariant s
  workers : WorkerInvariant s

theorem QueueInvariant.initial : QueueInvariant .initial :=
  ⟨.initial, .initial⟩

theorem QueueStep.invariant {registry : String → Bool} {s t : QueueState} {label : QueueLabel}
    (step : QueueStep registry s label t) (inv : QueueInvariant s) : QueueInvariant t :=
  ⟨step.tableInvariant inv.table, step.workerInvariant inv.table inv.workers⟩

/-- There are at most as many adapter calls as claims. -/
theorem WorkerInvariant.sendsOf_le {s : QueueState} (inv : WorkerInvariant s) (outboxId : Uuid) :
    s.sendsOf outboxId ≤ s.claimsOf outboxId :=
  countP_le_of_nodup_subset _ inv.sendsOnce fun claim member _ => inv.sendsClaimed claim member

/-! ## Whole runs -/

section Runs

variable {registry : String → Bool} {start finish : QueueState}
variable {path : List (Taken QueueState QueueLabel)}

/-- A completion with this token that changes the table. -/
def changesUnder (token : Uuid) (taken : Taken QueueState QueueLabel) : Bool :=
  taken.label.completionCall?.any (·.claimToken = token) &&
    decide (taken.after.rows ≠ taken.before.rows)

theorem changesUnder_iff {token : Uuid} {taken : Taken QueueState QueueLabel} :
    changesUnder token taken = true ↔
      (∃ call, taken.label.completionCall? = some call ∧ call.claimToken = token) ∧
        taken.after.rows ≠ taken.before.rows := by
  simp [changesUnder, Option.any_eq_true]

/-- A completion under a token that changes the table finds the token in use
and spends it. -/
theorem QueueStep.spends {s t : QueueState} {label : QueueLabel}
    (step : QueueStep registry s label t) (inv : QueueInvariant s) {token : Uuid}
    (changes : changesUnder token ⟨s, label, t⟩ = true) : ¬ Spent token s ∧ Spent token t := by
  obtain ⟨⟨call, runs, rfl⟩, changed⟩ := changesUnder_iff.mp changes
  obtain ⟨held, _, ended⟩ := step.changing_completion runs changed
  refine ⟨fun spent => ?_, step.spent_of_ended inv.table held ended⟩
  obtain ⟨row, member, owned⟩ := held
  exact spent.2 row member (ownedBy_iff.mp owned).2.2

/-- A token changes the table at most once. -/
theorem changesUnder_le_one (run : Run (QueueStep registry) start path finish)
    (inv : QueueInvariant start) (token : Uuid) : path.countP (changesUnder token) ≤ 1 :=
  run.count_le_one (fun _ _ _ inv step => step.invariant inv)
    (fun _ _ _ inv step => step.spent inv.table)
    (fun _ _ _ inv step changes => (step.spends inv changes).1)
    (fun _ _ _ inv step changes => (step.spends inv changes).2) inv

/-- A spent token stays spent in the rest of the run. -/
theorem spent_run (run : Run (QueueStep registry) start path finish) (inv : QueueInvariant start)
    {token : Uuid} (spent : Spent token start) : Spent token finish := by
  have kept : ∀ s label t, QueueInvariant s ∧ Spent token s → QueueStep registry s label t →
      QueueInvariant t ∧ Spent token t := fun _ _ _ holds step =>
    ⟨step.invariant holds.1, step.spent holds.1.table holds.2⟩
  exact (run.invariant kept ⟨inv, spent⟩).2

/-- A delivered row is never touched again. -/
theorem delivered_run (run : Run (QueueStep registry) start path finish)
    (inv : QueueInvariant start) {row : OutboxMessage} (member : row ∈ start.rows)
    (delivered : row.status = .delivered) : row ∈ finish.rows := by
  have kept : ∀ s label t, QueueInvariant s ∧ row ∈ s.rows → QueueStep registry s label t →
      QueueInvariant t ∧ row ∈ t.rows := by
    intro s label t holds step
    obtain ⟨change, added, table⟩ := step.tableChange holds.1.table.ids
    refine ⟨step.invariant holds.1, table.mem_rows.mpr (.inl ⟨row, holds.2, ?_⟩)⟩
    exact (table.changes row holds.2).eq_of_delivered delivered
  exact (run.invariant kept ⟨inv, member⟩).2

/-- **A completion after the end of the lease is refused and changes
nothing.** -/
theorem late_completion {earlier between later : List (Taken QueueState QueueLabel)}
    {ending late : Taken QueueState QueueLabel}
    (run : Run (QueueStep registry) start (earlier ++ ending :: between ++ late :: later) finish)
    (inv : QueueInvariant start) {outboxId : Uuid} {call : CompletionCall}
    (held : ending.before.Holds outboxId call.claimToken)
    (ended : ¬ ending.after.Holds outboxId call.claimToken)
    (runs : late.label.completionCall? = some call) :
    completeClaim call.outboxId call.claimToken call.now call.completion late.before.rows =
      .error .leaseLost ∧ late.after.rows = late.before.rows := by
  obtain ⟨upTo, last, _⟩ := run.around
  obtain ⟨before, step, after⟩ := upTo.around
  have inv_before := before.invariant (fun s a t inv step => step.invariant inv) inv
  have spent := spent_run after (step.invariant inv_before)
    (step.spent_of_ended inv_before.table held ended)
  have lost := spent.leaseLost call.outboxId call.now call.completion
  refine ⟨lost, ?_⟩
  rw [last.completion_rows runs, lost]
  rfl

end Runs

/-- **A claim token fences its lease.** In every run from the empty outbox,
over any number of workers, recoveries and requeues: a token changes the table
at most once; a completion that changes it writes only the row processing under
its token; a recovery ends every expired lease, and once a lease has ended,
whatever happens next, a completion under its token raises `LeaseLostError` and
changes nothing; a delivered row stays as it is; and a row has at most as many
adapter calls as claims and at most `max_attempts` claims. -/
theorem outbox_lease_fencing (registry : String → Bool) (finish : QueueState)
    (path : List (Taken QueueState QueueLabel))
    (run : Run (QueueStep registry) .initial path finish) :
    (∀ token, path.countP (changesUnder token) ≤ 1) ∧
    (∀ taken ∈ path, ∀ call, taken.label.completionCall? = some call →
      taken.after.rows ≠ taken.before.rows →
        (∃ row ∈ taken.before.rows, row.id = call.outboxId ∧ row.status = .processing ∧
          row.claimToken = some call.claimToken) ∧
        ∀ row ∈ taken.before.rows, row.id ≠ call.outboxId → row ∈ taken.after.rows) ∧
    (∀ taken ∈ path, ∀ now, taken.label = .recover now → ∀ row ∈ taken.before.rows,
      leaseExpired now row = true → ∀ token, ¬ taken.after.Holds row.id token) ∧
    (∀ earlier ending between late later, path = earlier ++ ending :: between ++ late :: later →
      ∀ outboxId call, ending.before.Holds outboxId call.claimToken →
        ¬ ending.after.Holds outboxId call.claimToken →
        late.label.completionCall? = some call →
          completeClaim call.outboxId call.claimToken call.now call.completion late.before.rows =
            .error .leaseLost ∧ late.after.rows = late.before.rows) ∧
    (∀ earlier taken later, path = earlier ++ taken :: later → ∀ row ∈ taken.after.rows,
      row.status = .delivered → row ∈ finish.rows) ∧
    (∀ row ∈ finish.rows, finish.sendsOf row.id ≤ finish.claimsOf row.id ∧
      finish.claimsOf row.id ≤ row.maxAttempts) := by
  have step_invariant : ∀ s a t, QueueInvariant s → QueueStep registry s a t → QueueInvariant t :=
    fun s a t inv step => step.invariant inv
  have at_finish := run.invariant step_invariant .initial
  refine ⟨changesUnder_le_one run .initial, ?_, ?_, ?_, ?_, ?_⟩
  · intro taken member call runs changed
    obtain ⟨⟨row, row_member, owned⟩, rows, _⟩ :=
      (run.taken_step member).changing_completion runs changed
    refine ⟨⟨row, row_member, ownedBy_iff.mp owned⟩, fun other other_member different => ?_⟩
    rw [rows, mem_updateWhere]
    refine ⟨other, other_member, if_neg fun other_owned => ?_⟩
    exact different (ownedBy_iff.mp other_owned).1
  · intro taken member now recovers row row_member expired token
    have step := run.taken_step member
    rw [recovers] at step
    exact step.recover_ends (run.invariant_at step_invariant .initial member).1.table row_member
      expired
  · rintro earlier ending between late later rfl outboxId call held ended runs
    exact late_completion run .initial held ended runs
  · rintro earlier taken later rfl row member delivered
    obtain ⟨before, step, after⟩ := run.around
    exact delivered_run after (step.invariant (before.invariant step_invariant .initial)) member
      delivered
  · intro row member
    refine ⟨at_finish.workers.sendsOf_le row.id, ?_⟩
    rw [← at_finish.table.attempts row member]
    exact at_finish.table.bounded row member

/-- One message for an enabled destination, as it is enqueued at time zero. -/
def sampleRow : OutboxMessage :=
  .fresh 1 2 3
    { incidentId := 2
      serverId := 4
      ruleKey := "ssh_bruteforce"
      ruleVersion := 1
      severity := .high
      title := "SSH brute force"
      titleEn := none
      createdAt := .utc 0 } 5 0

def sampleContext : ClaimContext where
  destinations := [⟨3, "log", true, .low⟩]
  configurationLoaders := fun _ => none

def sampleEnqueued : QueueState := { QueueState.initial with rows := [sampleRow] }

/-- Claimed under token 9 with a lease of ten microseconds. -/
def sampleClaimed : QueueState := sampleEnqueued.afterClaim 0 sampleContext (fun _ => false) 0 10 9

def sampleMessage : ClaimedOutboxMessage where
  outboxId := 1
  incidentId := 2
  destinationId := 3
  adapterKind := "log"
  payload := sampleRow.payload
  attemptCount := 1
  claimToken := 9
  providerConfiguration := none

def sampleSent : QueueState :=
  sampleClaimed.afterSend 0 sampleMessage (.returned ⟨.delivered, none⟩)

/-- The lease has expired during the call. -/
def sampleRecovered : QueueState :=
  { sampleSent with rows := recoverExpiredClaims 20 sampleSent.rows }

def sampleFinish : QueueState := (sampleRecovered.idled 0).afterCompletion 1 9 21 .acknowledge

/-- The worker that lost its lease cannot acknowledge the delivery. -/
theorem outbox_lease_fencing_recovered :
    completeClaim 1 9 21 .acknowledge sampleRecovered.rows = .error .leaseLost ∧
      sampleFinish.rows = sampleRecovered.rows := by
  have run : Run (QueueStep fun _ => true) .initial
      ([⟨.initial, .enqueue [sampleRow], sampleEnqueued⟩,
        ⟨sampleEnqueued, .claim 0 sampleContext (fun _ => false) 0 10 9, sampleClaimed⟩,
        ⟨sampleClaimed, .callAdapter 0 (.returned ⟨.delivered, none⟩), sampleSent⟩] ++
        ⟨sampleSent, .recover 20, sampleRecovered⟩ :: [] ++
        ⟨sampleRecovered, .complete 0 ⟨1, 9, 21, .acknowledge⟩, sampleFinish⟩ :: [])
      sampleFinish := by
    have answered : sampleRecovered.workers 0 =
      .answered sampleMessage (.returned ⟨.delivered, none⟩) := rfl
    refine .cons (.enqueue ?_ (by decide)) (.cons (.claim rfl (by decide)) (.cons
      (.callAdapter rfl rfl) (.cons .recover (.cons (QueueStep.complete 0 answered) (.nil _)))))
    intro row member
    obtain rfl := List.mem_singleton.mp member
    exact ⟨_, 0, by decide, rfl⟩
  exact (outbox_lease_fencing _ _ _ run).2.2.2.1 _ _ [] _ [] rfl 1 ⟨1, 9, 21, .acknowledge⟩
    (by decide) (by decide) rfl

end WolandGuard.Outbox
