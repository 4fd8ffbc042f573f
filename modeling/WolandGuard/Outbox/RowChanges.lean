import WolandGuard.Outbox.Worker

/-!
# What a transaction does to a row

Every transaction changes a row in one of a few ways (`RowChange`), and leaves
the old rows, each with one of the changes, followed by new rows
(`QueueStep.tableChange`). What holds along every run is read off these two
inversions, and no later proof opens a transaction again.
-/

set_option autoImplicit false

namespace WolandGuard.Outbox

open Foundations

/-! ## What one transaction does to one row -/

/-- The changes a transaction may make to a row, where `drawn` is the claim it
puts on record. -/
inductive RowChange : Option Claim → OutboxMessage → OutboxMessage → Prop where
  | unchanged {drawn : Option Claim} {row : OutboxMessage}
      (other : ∀ claim ∈ drawn, claim.outboxId ≠ row.id) : RowChange drawn row row
  | claimed {row : OutboxMessage} {now lease : Int} {token : Uuid}
      (due : claimable now row = true) :
      RowChange (some ⟨row.id, token⟩) row (markClaimed now lease token row)
  | claimFailed {row : OutboxMessage} {now lease : Int} {token : Uuid} {code : OutboxErrorCode}
      (due : claimable now row = true) :
      RowChange (some ⟨row.id, token⟩) row (failClaimed now code (markClaimed now lease token row))
  | completed {row : OutboxMessage} {outboxId token : Uuid} {now : Int} {completion : Completion}
      (owned : ownedBy outboxId token row = true) :
      RowChange none row (completion.written now row)
  | recovered {row : OutboxMessage} {now : Int} (expired : leaseExpired now row = true) :
      RowChange none row (released now now .leaseExpired row)
  | requeued {row : OutboxMessage} {now : Int} {additionalAttempts : Nat}
      (failed : row.status = .failed)
      (more : 1 ≤ additionalAttempts ∧ additionalAttempts ≤ 5)
      (limit : row.maxAttempts + additionalAttempts ≤ 20) :
      RowChange none row (requeued now additionalAttempts row)

namespace RowChange

variable {drawn : Option Claim} {row after : OutboxMessage}

theorem id_eq (change : RowChange drawn row after) : after.id = row.id := by
  cases change with
  | unchanged => rfl
  | claimed => rfl
  | claimFailed => rfl
  | completed => simp
  | recovered => rfl
  | requeued => rfl

/-- A delivered row meets none of the conditions. -/
theorem eq_of_delivered (change : RowChange drawn row after) (delivered : row.status = .delivered) :
    after = row := by
  cases change with
  | unchanged => rfl
  | claimed due => simp [claimable, delivered] at due
  | claimFailed due => simp [claimable, delivered] at due
  | completed owned => simp [ownedBy, delivered] at owned
  | recovered expired => simp [leaseExpired, delivered] at expired
  | requeued failed _ _ => simp [delivered] at failed

/-- A token that a row carries afterwards was there before or was drawn for
this row. -/
theorem token_cases (change : RowChange drawn row after) {token : Uuid}
    (carried : after.claimToken = some token) :
    row.claimToken = some token ∨ drawn = some ⟨row.id, token⟩ := by
  cases change with
  | unchanged => exact .inl carried
  | claimed => exact .inr (by simpa [markClaimed] using carried)
  | claimFailed => simp [failClaimed] at carried
  | completed => simp at carried
  | recovered => simp [released] at carried
  | requeued => simp [Outbox.requeued] at carried

/-- Only a processing row carries a token. -/
theorem processing (change : RowChange drawn row after)
    (holds : ∀ token, row.claimToken = some token → row.status = .processing) (token : Uuid)
    (carried : after.claimToken = some token) : after.status = .processing := by
  cases change with
  | unchanged => exact holds token carried
  | claimed => rfl
  | claimFailed => simp [failClaimed] at carried
  | completed => simp at carried
  | recovered => simp [released] at carried
  | requeued => simp [Outbox.requeued] at carried

/-- Attempts count the claims of the row. -/
theorem attemptCount_eq (change : RowChange drawn row after) :
    after.attemptCount = drawn.toList.countP (·.outboxId = row.id) + row.attemptCount := by
  cases change with
  | unchanged other =>
      have none_counted : drawn.toList.countP (·.outboxId = row.id) = 0 := by
        rw [List.countP_eq_zero]
        intro claim member
        simpa using other claim (Option.mem_toList.mp member)
      omega
  | claimed => simp [markClaimed, Nat.add_comm]
  | claimFailed => simp [failClaimed, markClaimed, Nat.add_comm]
  | completed => simp
  | recovered => simp [released]
  | requeued => simp [Outbox.requeued]

/-- A row is claimed only below its bound, and the bound never shrinks. -/
theorem attempts_bounded (change : RowChange drawn row after)
    (bounded : row.attemptCount ≤ row.maxAttempts) : after.attemptCount ≤ after.maxAttempts := by
  cases change with
  | unchanged => exact bounded
  | claimed due =>
      simp only [claimable, Bool.and_eq_true, decide_eq_true_eq] at due
      exact due.2
  | claimFailed due =>
      simp only [claimable, Bool.and_eq_true, decide_eq_true_eq] at due
      exact due.2
  | completed => simpa using bounded
  | recovered => exact bounded
  | requeued => exact Nat.le_trans bounded (Nat.le_add_right _ _)

end RowChange

/-! ## What one transaction does to the table -/

theorem selectClaim_spec {context : ClaimContext} {locked : Uuid → Bool} {now : Int}
    {rows : List OutboxMessage} {chosen : OutboxMessage × NotificationDestination}
    (selected : selectClaim context locked now rows = some chosen) :
    chosen.1 ∈ rows ∧ claimable now chosen.1 = true := by
  have member := List.mem_of_mem_head? (Option.mem_def.mpr selected)
  obtain ⟨row, sorted, joined⟩ := List.mem_filterMap.mp member
  obtain ⟨destination, _, rfl⟩ := Option.map_eq_some_iff.mp joined
  have filtered := (List.mem_insertionSort _).mp sorted
  simp only [List.mem_filter, Bool.and_eq_true] at filtered
  exact ⟨filtered.1, filtered.2.1⟩

/-- The row is joined with its own destination. -/
theorem selectClaim_destination {context : ClaimContext} {locked : Uuid → Bool} {now : Int}
    {rows : List OutboxMessage} {chosen : OutboxMessage × NotificationDestination}
    (selected : selectClaim context locked now rows = some chosen) :
    chosen.2 ∈ context.destinations ∧ chosen.2.id = chosen.1.destinationId := by
  have member := List.mem_of_mem_head? (Option.mem_def.mpr selected)
  obtain ⟨row, _, joined⟩ := List.mem_filterMap.mp member
  obtain ⟨destination, found, rfl⟩ := Option.map_eq_some_iff.mp joined
  have same_id := List.find?_some found
  exact ⟨List.mem_of_find?_eq_some found, by simpa using same_id⟩

/-- The rows after a claim, with the message that is handed to the worker. -/
theorem claimNextMessage_cases (context : ClaimContext) (locked : Uuid → Bool) (now lease : Int)
    (token : Uuid) (rows : List OutboxMessage) :
    (selectClaim context locked now rows = none ∧
      claimNextMessage context locked now lease token rows = (rows, ⟨false, none⟩)) ∨
    ∃ row destination, selectClaim context locked now rows = some (row, destination) ∧
      ((∃ code, claimNextMessage context locked now lease token rows =
          (updateWhere (·.id = row.id)
            (fun r => failClaimed now code (markClaimed now lease token r)) rows, ⟨true, none⟩)) ∨
       ∃ claim, claimNextMessage context locked now lease token rows =
          (updateWhere (·.id = row.id) (markClaimed now lease token) rows, ⟨true, some claim⟩) ∧
          claim.outboxId = row.id ∧ claim.claimToken = token) := by
  unfold claimNextMessage
  cases selected : selectClaim context locked now rows with
  | none => exact .inl ⟨rfl, rfl⟩
  | some chosen =>
      obtain ⟨row, destination⟩ := chosen
      refine .inr ⟨row, destination, rfl, ?_⟩
      cases outcome : claimOutcome context destination row with
      | error code => exact .inl ⟨code, by simp [outcome]⟩
      | ok configuration => exact .inr ⟨_, by simp only [outcome]; exact ⟨rfl, rfl, rfl⟩⟩

/-- The rows after a completion. -/
theorem completeClaim_cases (outboxId claimToken : Uuid) (now : Int) (completion : Completion)
    (rows : List OutboxMessage) :
    (completeClaim outboxId claimToken now completion rows = .error .leaseLost ∧
      ∀ row ∈ rows, ownedBy outboxId claimToken row = false) ∨
    (completeClaim outboxId claimToken now completion rows =
        .ok (updateWhere (ownedBy outboxId claimToken) (completion.written now) rows) ∧
      ∃ row ∈ rows, ownedBy outboxId claimToken row = true) := by
  unfold completeClaim
  cases owned : rows.any (ownedBy outboxId claimToken) with
  | true =>
      obtain ⟨row, member, holds⟩ := List.any_eq_true.mp owned
      exact .inr ⟨rfl, row, member, holds⟩
  | false =>
      refine .inl ⟨rfl, fun row member => ?_⟩
      simpa using List.any_eq_false.mp owned row member

/-- The rows after a requeue. -/
theorem requeueFailedMessage_cases (outboxId confirmation : Uuid) (additionalAttempts : Nat)
    (now : Int) (rows : List OutboxMessage) :
    (∃ error, requeueFailedMessage outboxId confirmation additionalAttempts now rows = .error error) ∨
    ∃ row, rowOf OutboxMessage.id rows outboxId = some row ∧ row.status = .failed ∧
      (1 ≤ additionalAttempts ∧ additionalAttempts ≤ 5) ∧
      row.maxAttempts + additionalAttempts ≤ 20 ∧
      requeueFailedMessage outboxId confirmation additionalAttempts now rows =
        .ok (updateWhere (·.id = outboxId) (requeued now additionalAttempts) rows) := by
  unfold requeueFailedMessage
  split
  · exact .inl ⟨_, rfl⟩
  split
  · exact .inl ⟨_, rfl⟩
  next more =>
    split
    · exact .inl ⟨_, rfl⟩
    next row found =>
      split
      · exact .inl ⟨_, rfl⟩
      next failed =>
        split
        · exact .inl ⟨_, rfl⟩
        next limit =>
          split
          · exact .inl ⟨_, rfl⟩
          exact .inr ⟨row, found, not_not.mp failed, not_not.mp more, Nat.not_lt.mp limit, rfl⟩

/-- The claim a step puts on record. -/
def QueueLabel.drawn (rows : List OutboxMessage) : QueueLabel → Option Claim
  | .claim _ context locked now _ token =>
      (selectClaim context locked now rows).map fun chosen => ⟨chosen.1.id, token⟩
  | _ => none

/-- The rows afterwards are the old ones, each with one of the changes, and
new rows. -/
structure TableChange (before after : QueueState) (drawn : Option Claim)
    (change : OutboxMessage → OutboxMessage) (added : List OutboxMessage) : Prop where
  claims : after.claims = drawn.toList ++ before.claims
  fresh : ∀ claim ∈ drawn, claim.claimToken ∉ before.claims.map Claim.claimToken
  claimed : ∀ claim ∈ drawn, ∃ row ∈ before.rows, row.id = claim.outboxId
  rows : after.rows = before.rows.map change ++ added
  changes : ∀ row ∈ before.rows, RowChange drawn row (change row)
  enqueued : ∀ row ∈ added, row.Enqueued
  unique : added = [] ∨ (after.rows.map OutboxMessage.id).Nodup

/-- An update of the rows that meet a condition. -/
theorem RowChange.of_update {drawn : Option Claim} {rows : List OutboxMessage}
    {condition : OutboxMessage → Bool} {written : OutboxMessage → OutboxMessage}
    (meets : ∀ row ∈ rows, condition row = true → RowChange drawn row (written row))
    (other : ∀ row ∈ rows, condition row = false → ∀ claim ∈ drawn, claim.outboxId ≠ row.id)
    (row : OutboxMessage) (member : row ∈ rows) :
    RowChange drawn row (if condition row then written row else row) := by
  cases decided : condition row with
  | true => simpa using meets row member decided
  | false => simpa using RowChange.unchanged (other row member decided)

/-- An update that puts no claim on record. -/
theorem TableChange.of_update {before after : QueueState} {condition : OutboxMessage → Bool}
    {written : OutboxMessage → OutboxMessage} (claims : after.claims = before.claims)
    (rows : after.rows = updateWhere condition written before.rows)
    (meets : ∀ row ∈ before.rows, condition row = true → RowChange none row (written row)) :
    TableChange before after none (fun row => if condition row then written row else row) [] where
  claims := claims
  fresh := by simp
  claimed := by simp
  rows := by rw [rows, List.append_nil, updateWhere]
  changes := RowChange.of_update meets (by simp)
  enqueued := by simp
  unique := .inl rfl

/-- A step that touches neither the rows nor the claims. -/
theorem TableChange.of_eq {before after : QueueState} (claims : after.claims = before.claims)
    (rows : after.rows = before.rows) : TableChange before after none id [] where
  claims := claims
  fresh := by simp
  claimed := by simp
  rows := by simp [rows]
  changes := fun row _ => .unchanged (by simp)
  enqueued := by simp
  unique := .inl rfl

/-- An update under a claim token. -/
theorem TableChange.of_completion {before after : QueueState} {outboxId claimToken : Uuid}
    {now : Int} {completion : Completion} (claims : after.claims = before.claims)
    (rows : after.rows = before.commit
      (completeClaim outboxId claimToken now completion before.rows)) :
    ∃ change added, TableChange before after none change added := by
  rcases completeClaim_cases outboxId claimToken now completion before.rows with
    ⟨lost, _⟩ | ⟨written, _⟩
  · rw [lost] at rows
    exact ⟨id, [], .of_eq claims rows⟩
  · rw [written] at rows
    exact ⟨_, [], .of_update claims rows fun row _ owned => .completed owned⟩

/-- An update of the one row that is claimed. -/
theorem TableChange.of_claim {before after : QueueState} {row : OutboxMessage} {token : Uuid}
    {written : OutboxMessage → OutboxMessage} (unique : (before.rows.map OutboxMessage.id).Nodup)
    (member : row ∈ before.rows) (fresh : token ∉ before.claims.map Claim.claimToken)
    (claims : after.claims = ⟨row.id, token⟩ :: before.claims)
    (rows : after.rows = updateWhere (·.id = row.id) written before.rows)
    (change : RowChange (some ⟨row.id, token⟩) row (written row)) :
    TableChange before after (some ⟨row.id, token⟩)
      (fun other => if decide (other.id = row.id) then written other else other) [] where
  claims := claims
  fresh := by simpa using fresh
  claimed := by simpa using ⟨row, member, rfl⟩
  rows := by rw [rows, List.append_nil, updateWhere]
  changes := by
    refine RowChange.of_update (fun other other_member same => ?_) fun other _ different => ?_
    · obtain rfl := List.inj_on_of_nodup_map unique other_member member (by simpa using same)
      exact change
    · simpa [eq_comm] using different
  enqueued := by simp
  unique := .inl rfl

/-- **Every transaction changes each row in one of the listed ways.** -/
theorem QueueStep.tableChange {registry : String → Bool} {s t : QueueState} {label : QueueLabel}
    (step : QueueStep registry s label t) (unique : (s.rows.map OutboxMessage.id).Nodup) :
    ∃ change added, TableChange s t (label.drawn s.rows) change added := by
  cases step with
  | @enqueue messages enqueued still_unique =>
      refine ⟨id, messages, ?_⟩
      exact
        { claims := rfl
          fresh := by simp [QueueLabel.drawn]
          claimed := by simp [QueueLabel.drawn]
          rows := by simp
          changes := fun row _ => .unchanged (by simp [QueueLabel.drawn])
          enqueued := enqueued
          unique := .inr still_unique }
  | @claim worker context locked now lease token idle drawn =>
      rcases claimNextMessage_cases context locked now lease token s.rows with
        ⟨selected, result⟩ | ⟨row, destination, selected, outcome⟩
      · simp only [QueueLabel.drawn, selected, Option.map_none]
        exact ⟨id, [], .of_eq (by simp [QueueState.afterClaim, selected])
          (by simp [QueueState.afterClaim, result])⟩
      · obtain ⟨member, due⟩ := selectClaim_spec selected
        have claims : (s.afterClaim worker context locked now lease token).claims =
            ⟨row.id, token⟩ :: s.claims := by simp [QueueState.afterClaim, selected]
        simp only [QueueLabel.drawn, selected, Option.map_some]
        rcases outcome with ⟨code, result⟩ | ⟨claim, result, _, _⟩
        · have rows : (s.afterClaim worker context locked now lease token).rows =
              updateWhere (·.id = row.id)
                (fun r => failClaimed now code (markClaimed now lease token r)) s.rows := by
            simp [QueueState.afterClaim, result]
          exact ⟨_, _, .of_claim unique member drawn claims rows (.claimFailed due)⟩
        · have rows : (s.afterClaim worker context locked now lease token).rows =
              updateWhere (·.id = row.id) (markClaimed now lease token) s.rows := by
            simp [QueueState.afterClaim, result]
          exact ⟨_, _, .of_claim unique member drawn claims rows (.claimed due)⟩
  | callAdapter holding adapter => exact ⟨id, [], .of_eq rfl rfl⟩
  | deliverWithoutAdapter holding adapter => exact TableChange.of_completion rfl rfl
  | complete delay answered => exact TableChange.of_completion rfl rfl
  | lateCompletion => exact TableChange.of_completion rfl rfl
  | crash => exact ⟨id, [], .of_eq rfl rfl⟩
  | recover => exact ⟨_, [], .of_update rfl rfl fun row _ expired => .recovered expired⟩
  | @requeue outboxId confirmation additionalAttempts now =>
      rcases requeueFailedMessage_cases outboxId confirmation additionalAttempts now s.rows with
        ⟨error, refused⟩ | ⟨row, found, failed, more, limit, written⟩
      · refine ⟨id, [], .of_eq rfl ?_⟩
        simp [QueueState.afterRequeue, QueueState.commit, refused]
      · obtain ⟨member, same⟩ := rowOf_mem found
        have rows : (s.afterRequeue outboxId confirmation additionalAttempts now).rows =
            updateWhere (·.id = outboxId) (requeued now additionalAttempts) s.rows := by
          simp only [QueueState.afterRequeue, QueueState.commit, written]
        refine ⟨_, [], .of_update rfl rows fun other other_member matching => ?_⟩
        obtain rfl := List.inj_on_of_nodup_map unique other_member member
          ((of_decide_eq_true matching).trans same.symm)
        exact .requeued failed more limit

end WolandGuard.Outbox
