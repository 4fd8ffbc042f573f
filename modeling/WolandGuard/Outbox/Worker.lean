import WolandGuard.Foundations.Runs
import WolandGuard.Outbox.Queue

/-!
# Workers over the outbox

`OutboxWorker.run_once` claims a row in one transaction, calls the adapter
with no transaction open and completes the claim in another one. A worker is
therefore in one of three phases, and between any two of its transactions any
number of other workers, the lease recovery and the operator's requeue may
run. A worker may stop at any point, and a completion may also arrive from
elsewhere with any token at all.

Claims and adapter calls are written down as they happen. The claims on
record are the tokens that `uuid4` has drawn so far, and a claim draws a new
one.
-/

set_option autoImplicit false

namespace WolandGuard.Outbox

open Foundations

/-! ## Phases -/

inductive DeliveryDisposition where
  | delivered
  | retryable
  | permanent
  deriving DecidableEq, Repr

/-- `DeliveryResult`, without the retry hint that only moves the delay. -/
structure DeliveryResult where
  disposition : DeliveryDisposition
  errorCode : Option OutboxErrorCode
  deriving DecidableEq, Repr

/-- How an adapter call ends. -/
inductive AdapterOutcome where
  | raisedRetryableFailure
  | raisedException
  | returned (result : DeliveryResult)
  | returnedOther
  deriving DecidableEq, Repr

/-- The completion that `_deliver_claim` picks, with the delay that the
backoff draws. -/
def AdapterOutcome.completion (delay : Int) : AdapterOutcome → Completion
  | .raisedRetryableFailure => .reschedule delay .retryableDeliveryError
  | .raisedException => .reschedule delay .adapterUnexpectedError
  | .returnedOther => .reschedule delay .adapterUnexpectedError
  | .returned result =>
      match result.disposition, result.errorCode with
      | .delivered, _ => .acknowledge
      | .permanent, none => .reschedule delay .adapterUnexpectedError
      | .permanent, some code => .failPermanently code
      | .retryable, none => .reschedule delay .adapterUnexpectedError
      | .retryable, some code => .reschedule delay code

inductive WorkerPhase where
  | idle
  | holding (claim : ClaimedOutboxMessage)
  | answered (claim : ClaimedOutboxMessage) (outcome : AdapterOutcome)

/-- One claim on record: the row and the token drawn for it. -/
structure Claim where
  outboxId : Uuid
  claimToken : Uuid
  deriving DecidableEq, Repr

structure QueueState where
  rows : List OutboxMessage
  workers : Nat → WorkerPhase
  claims : List Claim
  sends : List Claim

namespace QueueState

/-- An empty outbox and idle workers. -/
def initial : QueueState where
  rows := []
  workers := fun _ => .idle
  claims := []
  sends := []

/-- The number of claims made for a row. -/
def claimsOf (s : QueueState) (outboxId : Uuid) : Nat :=
  s.claims.countP (·.outboxId = outboxId)

/-- The number of adapter calls made for a row. -/
def sendsOf (s : QueueState) (outboxId : Uuid) : Nat :=
  s.sends.countP (·.outboxId = outboxId)

/-- The row is processing under the token. -/
def Holds (s : QueueState) (outboxId claimToken : Uuid) : Prop :=
  ∃ row ∈ s.rows, ownedBy outboxId claimToken row = true

instance (s : QueueState) (outboxId claimToken : Uuid) : Decidable (s.Holds outboxId claimToken) :=
  inferInstanceAs (Decidable (∃ row ∈ s.rows, ownedBy outboxId claimToken row = true))

def setWorker (s : QueueState) (worker : Nat) (phase : WorkerPhase) : Nat → WorkerPhase :=
  fun w => if w = worker then phase else s.workers w

/-- A failed transaction is rolled back. -/
def commit (s : QueueState) (result : Except OutboxError (List OutboxMessage)) :
    List OutboxMessage :=
  match result with
  | .ok rows => rows
  | .error _ => s.rows

def afterClaim (s : QueueState) (worker : Nat) (context : ClaimContext) (locked : Uuid → Bool)
    (now lease : Int) (token : Uuid) : QueueState :=
  let (rows, result) := claimNextMessage context locked now lease token s.rows
  { s with
    rows := rows
    workers := s.setWorker worker (result.message.elim .idle .holding)
    claims := ((selectClaim context locked now s.rows).map fun chosen =>
      ⟨chosen.1.id, token⟩).toList ++ s.claims }

def afterSend (s : QueueState) (worker : Nat) (claim : ClaimedOutboxMessage)
    (outcome : AdapterOutcome) : QueueState :=
  { s with
    workers := s.setWorker worker (.answered claim outcome)
    sends := ⟨claim.outboxId, claim.claimToken⟩ :: s.sends }

def afterCompletion (s : QueueState) (outboxId claimToken : Uuid) (now : Int)
    (completion : Completion) : QueueState :=
  { s with rows := s.commit (completeClaim outboxId claimToken now completion s.rows) }

def afterRequeue (s : QueueState) (outboxId confirmation : Uuid) (additionalAttempts : Nat)
    (now : Int) : QueueState :=
  { s with
    rows := s.commit (requeueFailedMessage outboxId confirmation additionalAttempts now s.rows) }

def idled (s : QueueState) (worker : Nat) : QueueState :=
  { s with workers := s.setWorker worker .idle }

end QueueState

/-! ## Steps -/

/-- A completion transaction with its arguments. -/
structure CompletionCall where
  outboxId : Uuid
  claimToken : Uuid
  now : Int
  completion : Completion
  deriving DecidableEq, Repr

inductive QueueLabel where
  | enqueue (messages : List OutboxMessage)
  | claim (worker : Nat) (context : ClaimContext) (locked : Uuid → Bool) (now lease : Int)
      (token : Uuid)
  | callAdapter (worker : Nat) (outcome : AdapterOutcome)
  | complete (worker : Nat) (call : CompletionCall)
  | lateCompletion (call : CompletionCall)
  | crash (worker : Nat)
  | recover (now : Int)
  | requeue (outboxId confirmation : Uuid) (additionalAttempts : Nat) (now : Int)

/-- The completion transaction that a step runs, if it is one. -/
def QueueLabel.completionCall? : QueueLabel → Option CompletionCall
  | .complete _ call => some call
  | .lateCompletion call => some call
  | _ => none

/-- A row as `enqueue_incident_created_notifications` adds it. -/
def OutboxMessage.Enqueued (row : OutboxMessage) : Prop :=
  ∃ payload now, (1 ≤ row.maxAttempts ∧ row.maxAttempts ≤ 20) ∧
    row = .fresh row.id row.incidentId row.destinationId payload row.maxAttempts now

open QueueState in
/-- One transaction, adapter call or crash. `registry` tells which adapter
kinds the workers have an adapter for. -/
inductive QueueStep (registry : String → Bool) : QueueState → QueueLabel → QueueState → Prop where
  | enqueue {s : QueueState} {messages : List OutboxMessage}
      (enqueued : ∀ row ∈ messages, row.Enqueued)
      (unique : ((s.rows ++ messages).map OutboxMessage.id).Nodup) :
      QueueStep registry s (.enqueue messages) { s with rows := s.rows ++ messages }
  | claim {s : QueueState} {worker : Nat} {context : ClaimContext} {locked : Uuid → Bool}
      {now lease : Int} {token : Uuid} (idle : s.workers worker = .idle)
      (drawn : token ∉ s.claims.map Claim.claimToken) :
      QueueStep registry s (.claim worker context locked now lease token)
        (s.afterClaim worker context locked now lease token)
  | callAdapter {s : QueueState} {worker : Nat} {claim : ClaimedOutboxMessage}
      {outcome : AdapterOutcome} (holding : s.workers worker = .holding claim)
      (adapter : registry claim.adapterKind = true) :
      QueueStep registry s (.callAdapter worker outcome) (s.afterSend worker claim outcome)
  | deliverWithoutAdapter {s : QueueState} {worker : Nat} {claim : ClaimedOutboxMessage}
      {now : Int} (holding : s.workers worker = .holding claim)
      (adapter : registry claim.adapterKind = false) :
      QueueStep registry s
        (.complete worker ⟨claim.outboxId, claim.claimToken, now,
          .failPermanently .destinationUnconfigured⟩)
        ((s.idled worker).afterCompletion claim.outboxId claim.claimToken now
          (.failPermanently .destinationUnconfigured))
  | complete {s : QueueState} {worker : Nat} {claim : ClaimedOutboxMessage}
      {outcome : AdapterOutcome} {now : Int} (delay : Int)
      (answered : s.workers worker = .answered claim outcome) :
      QueueStep registry s
        (.complete worker ⟨claim.outboxId, claim.claimToken, now, outcome.completion delay⟩)
        ((s.idled worker).afterCompletion claim.outboxId claim.claimToken now
          (outcome.completion delay))
  | lateCompletion {s : QueueState} {call : CompletionCall} :
      QueueStep registry s (.lateCompletion call)
        (s.afterCompletion call.outboxId call.claimToken call.now call.completion)
  | crash {s : QueueState} {worker : Nat} :
      QueueStep registry s (.crash worker) (s.idled worker)
  | recover {s : QueueState} {now : Int} :
      QueueStep registry s (.recover now) { s with rows := recoverExpiredClaims now s.rows }
  | requeue {s : QueueState} {outboxId confirmation : Uuid} {additionalAttempts : Nat}
      {now : Int} :
      QueueStep registry s (.requeue outboxId confirmation additionalAttempts now)
        (s.afterRequeue outboxId confirmation additionalAttempts now)

end WolandGuard.Outbox
