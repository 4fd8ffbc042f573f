import WolandGuard.Agent.DeliveryRuns
import WolandGuard.Agent.IngestionRoute

/-!
# What sets an event aside

The agent takes every 413 and 422 for a fault of the events. The route also
refuses a batch for its envelope: a `sent_at` outside the clock skew is a 422
whatever the events are. An event that is alone in its batch is then set aside
although nothing is wrong with it.
-/

set_option autoImplicit false

namespace WolandGuard.Agent

open Foundations

/-! ## Events that are set aside -/

/-- The events that are no longer pending. -/
def Spool.setAside (spool : Spool) : List NormalizedEventV1 :=
  (spool.events.filter (·.status ≠ .pending)).map (·.event)

theorem Spool.mem_setAside {spool : Spool} {event : NormalizedEventV1} :
    event ∈ spool.setAside ↔
      ∃ row ∈ spool.events, row.status ≠ .pending ∧ row.event = event := by
  simp [setAside, and_assoc]

section Calls

variable {settings : DeliverySettings} {send : List NormalizedEventV1 → TransportResult}
variable {moment : Moment} {state : DeliveryState} {event : NormalizedEventV1}

/-- What is set aside by a call was its only event, and its content was refused. -/
theorem setAside_deliverOnce
    (aside : event ∈ (deliverOnce settings send moment state).1.spool.setAside)
    (before : event ∉ state.spool.setAside) (unique : state.spool.UniqueIds) :
    ∃ attempts, transmitted moment state = [(event, attempts)] ∧
      (send [event]).classification.terminalStatus.isSome := by
  rw [Spool.mem_setAside] at aside before
  by_cases silent : transmitted moment state = []
  · rw [deliverOnce_idle silent] at aside
    exact absurd aside before
  rw [deliverOnce_transmits silent] at aside
  have cases := afterSend_cases settings (transmitted moment state) moment.random
    (send ((transmitted moment state).map Prod.fst)) moment.deferredAt state silent
  obtain ⟨row, listed, final, rfl⟩ := aside
  generalize left : afterSend settings moment.deferredAt (transmitted moment state) moment.random
    (send ((transmitted moment state).map Prod.fst)) state = result at cases listed
  cases cases with
  | delivered success => exact absurd ⟨row, (List.mem_filter.mp listed).1, final, rfl⟩ before
  | deferred delay =>
      -- a deferral keeps the status of a row and its event
      obtain ⟨old, member, rfl⟩ := mem_updateWhere.mp listed
      refine absurd ⟨old, member, ?_, ?_⟩ before
      · intro pending
        apply final
        split <;> exact pending
      · split <;> rfl
  | @setAside alone attempts status spool single splittable quarantined =>
      unfold Spool.quarantine at quarantined
      split at quarantined
      · cases quarantined
      cases quarantined
      obtain ⟨old, member, rfl⟩ := mem_updateWhere.mp listed
      by_cases chosen : old.eventId = alone.eventId ∧ old.status = .pending
      · -- the row of the batch is the row with its id
        obtain ⟨rows, batch, _, sent⟩ := transmitted_spec silent
        have first : (alone, attempts) ∈ rows.map SpoolEvent.asQueued := by
          rw [← sent, single]
          exact List.mem_singleton_self _
        obtain ⟨due, listed_due, pair⟩ := List.mem_map.mp first
        have event_eq : due.event = alone := congrArg Prod.fst pair
        have same : old = due := by
          refine unique.eq member (batch.mem listed_due).1 ?_
          rw [chosen.1, ← event_eq]
        have own : old.event = alone := by rw [same, event_eq]
        refine ⟨attempts, ?_, ?_⟩
        · simpa [chosen, own] using single
        · rw [single] at splittable
          have refused : (send [alone]).classification.terminalStatus = some status := splittable
          simp [chosen, own, refused]
      · have kept : (decide (old.eventId = alone.eventId) && decide (old.status = .pending)) =
            false := by simpa using chosen
        simp only [kept] at final before
        exact absurd ⟨old, member, final, rfl⟩ before

/-- An only event whose content is refused is set aside by the call. -/
theorem setAside_of_refused {attempts : Nat}
    (single : transmitted moment state = [(event, attempts)])
    (refused : (send [event]).classification.terminalStatus.isSome)
    (unique : state.spool.UniqueIds) :
    event ∈ (deliverOnce settings send moment state).1.spool.setAside ∧
      event ∉ state.spool.setAside := by
  have some_batch : transmitted moment state ≠ [] := by
    rw [single]
    exact List.cons_ne_nil _ _
  obtain ⟨rows, batch, _, sent⟩ := transmitted_spec some_batch
  have first : (event, attempts) ∈ rows.map SpoolEvent.asQueued := by
    rw [← sent, single]
    exact List.mem_singleton_self _
  obtain ⟨row, listed, pair⟩ := List.mem_map.mp first
  obtain rfl : row.event = event := congrArg Prod.fst pair
  obtain ⟨member, pending, _⟩ := batch.mem listed
  have before : row.event ∉ state.spool.setAside := by
    rw [Spool.mem_setAside]
    rintro ⟨other, other_member, final, same⟩
    have := unique.eq other_member member (congrArg NormalizedEventV1.eventId same)
    exact final (this ▸ pending)
  refine ⟨?_, before⟩
  rw [deliverOnce_transmits some_batch]
  have cases := afterSend_cases settings (transmitted moment state) moment.random
    (send ((transmitted moment state).map Prod.fst)) moment.deferredAt state some_batch
  rw [single] at cases ⊢
  obtain ⟨status, refused⟩ := Option.isSome_iff_exists.mp refused
  have single_send : send (List.map Prod.fst [(row.event, attempts)]) = send [row.event] := rfl
  rw [single_send] at cases ⊢
  generalize left : afterSend settings moment.deferredAt [(row.event, attempts)] moment.random
    (send [row.event]) state = result at cases ⊢
  cases cases with
  | delivered success =>
      rw [success] at refused
      cases refused
  | deferred delay =>
      rw [deferralDelay_of_terminal _ _ _ _ refused] at delay
      cases delay
  | setAside alone splittable quarantined =>
      cases alone
      have final := terminalStatus_ne_pending splittable
      unfold Spool.quarantine at quarantined
      rw [if_neg final] at quarantined
      cases quarantined
      refine Spool.mem_setAside.mpr ⟨_, mem_updateWhere.mpr ⟨row, member, rfl⟩, ?_⟩
      simp [pending, final]

end Calls

/-! ## Faults of an event and of its envelope -/

/-- A call that sends its batch to the ingestion route: the clocks of the agent,
and what the control plane finds. `answered` tells whether the response reaches
the agent. -/
structure Exchange where
  moment : Moment
  batchId : Uuid
  sentAt : Int
  arrival : Arrival
  answered : Bool

def Exchange.batch (exchange : Exchange) (events : List NormalizedEventV1) : EventBatchV1 :=
  ⟨exchange.batchId, exchange.sentAt, events⟩

section Route

variable (ingest : IngestSettings)

/-- `send`. -/
def Exchange.send (exchange : Exchange) (events : List NormalizedEventV1) : TransportResult :=
  transportResult events.length
    (if exchange.answered then ingestReply ingest exchange.arrival (exchange.batch events)
      else .httpError)

variable (now : Int) (event : NormalizedEventV1)

/-- The event is rejected at an instant of the control plane's clock when it is
sent alone in any valid envelope. -/
def RejectedAlone : Prop :=
  ∀ batch : EventBatchV1, batch.events = [event] → inSkew ingest now batch = true →
    ∀ arrival : Arrival, arrival.now = now → arrival.admitted = true →
      (ingestReply ingest arrival batch).refusesContent = true

/-- What may be wrong with an event: the contract refuses it, it was collected
too late, or it is too large for every valid envelope. -/
def Faulty : Prop :=
  ingest.conforms event = false ∨ collectedLate ingest now event = true ∨
    ∀ batch : EventBatchV1, batch.events = [event] → inSkew ingest now batch = true →
      tooLarge ingest batch = true

/-- Nothing is wrong with the envelope of a batch: it has room for the events,
and its `sent_at` is valid, unless the request is turned away before that is
checked. -/
def EnvelopeHolds (exchange : Exchange) (events : List NormalizedEventV1) : Prop :=
  tooLarge ingest (exchange.batch events) = false ∧
    (exchange.arrival.admitted = true →
      inSkew ingest exchange.arrival.now (exchange.batch events) = true)

variable {ingest now event}

theorem batchConforms_singleton {batch : EventBatchV1} (single : batch.events = [event]) :
    batchConforms ingest batch = ingest.conforms event := by
  simp [batchConforms, single]

/-- **Only faulty events are rejected alone.** -/
theorem rejectedAlone_iff : RejectedAlone ingest now event ↔ Faulty ingest now event := by
  constructor
  · intro rejected
    by_contra sound
    simp only [Faulty, not_or, Bool.not_eq_false, Bool.not_eq_true, not_forall] at sound
    obtain ⟨conforming, timely, batch, single, skew, fits⟩ := sound
    have refused := rejected batch single skew ⟨now, .ok (), none, some 1⟩ rfl rfl
    rw [refusesContent_iff, batchConforms_singleton single, single] at refused
    simp [fits, conforming, skew, timely] at refused
  · intro faulty batch single skew arrival same admitted
    subst same
    rw [refusesContent_iff, batchConforms_singleton single, single]
    rcases faulty with refused | late | large
    · exact .inr (.inl refused)
    · exact .inr (.inr ⟨admitted, .inr ⟨event, List.mem_singleton_self _, late⟩⟩)
    · exact .inl (large batch single skew)

/-- The reply to an only event refuses it for the event or for the envelope. -/
theorem refused_alone_iff {exchange : Exchange} :
    (exchange.send ingest [event]).classification.terminalStatus.isSome = true ↔
      exchange.answered = true ∧
        (tooLarge ingest (exchange.batch [event]) = true ∨ ingest.conforms event = false ∨
          exchange.arrival.admitted = true ∧
            (inSkew ingest exchange.arrival.now (exchange.batch [event]) = false ∨
              collectedLate ingest exchange.arrival.now event = true)) := by
  unfold Exchange.send
  by_cases answered : exchange.answered = true
  · rw [if_pos answered, terminalStatus_isSome, refusesContent_iff,
      batchConforms_singleton (show (exchange.batch [event]).events = [event] from rfl)]
    simp [answered, Exchange.batch]
  · rw [if_neg answered, terminalStatus_isSome]
    simp [answered, Reply.refusesContent]

/-! ## Runs -/

/-- The envelope of a batch with an only event holds, or the event is faulty, or
the reply is lost. -/
def SoundDelivery (ingest : IngestSettings) (exchange : Exchange) (state : DeliveryState) : Prop :=
  ∀ event attempts, transmitted exchange.moment state = [(event, attempts)] →
    exchange.answered = true →
      Faulty ingest exchange.arrival.now event ∨ EnvelopeHolds ingest exchange [event]

/-- The call sets only events aside that would be rejected alone. -/
def SetsAsideRejected (ingest : IngestSettings) (exchange : Exchange)
    (state after : DeliveryState) : Prop :=
  ∀ event ∈ after.spool.setAside, event ∉ state.spool.setAside →
    RejectedAlone ingest exchange.arrival.now event

/-- A call sets only faulty events aside exactly when its envelope is sound. -/
theorem setsAsideRejected_iff {settings : DeliverySettings} {exchange : Exchange}
    {state : DeliveryState} (unique : state.spool.UniqueIds) :
    SetsAsideRejected ingest exchange state
        (deliverOnce settings (exchange.send ingest) exchange.moment state).1 ↔
      SoundDelivery ingest exchange state := by
  constructor
  · intro rejected event attempts single answered
    by_cases refused : (exchange.send ingest [event]).classification.terminalStatus.isSome = true
    · have aside : event ∈ (deliverOnce settings (exchange.send ingest) exchange.moment
          state).1.spool.setAside ∧ event ∉ state.spool.setAside :=
        setAside_of_refused single refused unique
      obtain ⟨aside, before⟩ := aside
      exact .inl (rejectedAlone_iff.mp (rejected event aside before))
    · rw [refused_alone_iff] at refused
      simp only [answered, true_and, not_or, not_and_or, Bool.not_eq_true, Bool.not_eq_false]
        at refused
      obtain ⟨fits, _, unchecked | ⟨skew, _⟩⟩ := refused
      · exact .inr ⟨fits, fun admitted => absurd admitted (by simp [unchecked])⟩
      · exact .inr ⟨fits, fun _ => skew⟩
  · intro sound event aside before
    obtain ⟨attempts, single, refused⟩ := setAside_deliverOnce aside before unique
    obtain ⟨answered, reason⟩ := refused_alone_iff.mp refused
    rw [rejectedAlone_iff]
    rcases sound event attempts single answered with faulty | ⟨fits, skew⟩
    · exact faulty
    · rcases reason with large | refused | ⟨admitted, stale | late⟩
      · exact absurd large (by simp [fits])
      · exact .inl refused
      · exact absurd (skew admitted) (by simp [stale])
      · exact .inr (.inl late)

/-- A recorded step of an agent that sends to the route. -/
abbrev Delivered := Taken DeliveryState (Activity Exchange)

/-- **Only an event's own content sets it aside, exactly when no envelope of an
only event is at fault.** -/
theorem only_faulty_set_aside_iff {settings : DeliverySettings} {start finish : DeliveryState}
    {path : List Delivered}
    (run : Run (DeliveryState.Step settings Exchange.moment (Exchange.send ingest)) start path finish)
    (unique : start.spool.UniqueIds) :
    (∀ taken ∈ path, ∀ exchange, taken.label = .deliver exchange →
        SetsAsideRejected ingest exchange taken.before taken.after) ↔
      ∀ taken ∈ path, ∀ exchange, taken.label = .deliver exchange →
        SoundDelivery ingest exchange taken.before := by
  have each : ∀ taken ∈ path, ∀ exchange, taken.label = .deliver exchange →
      (SetsAsideRejected ingest exchange taken.before taken.after ↔
        SoundDelivery ingest exchange taken.before) := by
    rintro ⟨before, activity, after⟩ member exchange rfl
    have step : DeliveryState.Step settings Exchange.moment (Exchange.send ingest) before
      (.deliver exchange) after := run.taken_step member
    have ids := (uniqueIds_at run unique member).1
    cases step with
    | deliver call => exact setsAsideRejected_iff ids
  constructor
  · intro rejected taken member exchange labelled
    exact (each taken member exchange labelled).mp (rejected taken member exchange labelled)
  · intro sound taken member exchange labelled
    exact (each taken member exchange labelled).mpr (sound taken member exchange labelled)

end Route

/-! ## An agent whose clock is ten minutes slow -/

/-- The bytes of a JSON string. -/
def textBytes (text : String) : Nat :=
  2 + ((text.toList.flatMap JsonValue.escapeChar).map Char.utf8Size).sum

mutual

/-- The bytes of a JSON text without spaces. -/
def jsonBytes : JsonValue → Nat
  | .null => 4
  | .bool value => if value then 4 else 5
  | .int value => (toString value).length
  | .float value => value.repr.length
  | .str text => textBytes text
  | .arr items => max 2 (1 + jsonItemsBytes items)
  | .obj members => max 2 (1 + jsonMembersBytes members)

def jsonItemsBytes : List JsonValue → Nat
  | [] => 0
  | item :: rest => jsonBytes item + 1 + jsonItemsBytes rest

def jsonMembersBytes : List (String × JsonValue) → Nat
  | [] => 0
  | (key, value) :: rest => textBytes key + 1 + jsonBytes value + 1 + jsonMembersBytes rest

end

/-- The defaults of the control plane, and a contract that accepts every event. -/
def defaultIngest : IngestSettings where
  maxBodyBytes := 1048576
  maxClockSkewSeconds := 300
  encodedBytes := jsonBytes
  conforms _ := true

/-- A delivery at an instant of the control plane's clock, by an agent whose
clock is so many seconds behind. -/
def exchangeAt (now behind : Int) : Exchange where
  moment := ⟨1, 2, 0⟩
  batchId := 1
  sentAt := now - seconds behind
  arrival := ⟨now, .ok (), none, some 1⟩
  answered := true

/-- **A slow clock sets an event aside that nothing is wrong with.** -/
theorem slow_clock_sets_aside :
    ¬ SetsAsideRejected defaultIngest (exchangeAt (seconds 1800) 600)
        (oneQueued (failedLogin (seconds 1000)))
        (deliverOnce defaultDelivery ((exchangeAt (seconds 1800) 600).send defaultIngest)
          (exchangeAt (seconds 1800) 600).moment (oneQueued (failedLogin (seconds 1000)))).1 := by
  rw [setsAsideRejected_iff (uniqueIds_oneQueued _)]
  intro sound
  rcases sound (failedLogin (seconds 1000)) 0 rfl rfl with faulty | holds
  · rcases faulty with refused | late | large
    · cases refused
    · exact absurd late (by decide)
    · have fits := large ⟨1, seconds 1800, [failedLogin (seconds 1000)]⟩ rfl (by decide)
      exact absurd fits (by decide +kernel)
  · exact absurd (holds.2 rfl) (by decide)

/-- With clocks in step, an event from the future is set aside and nothing else. -/
theorem only_faulty_set_aside_iff_future_event :
    SetsAsideRejected defaultIngest (exchangeAt (seconds 1800) 0)
      (oneQueued (failedLogin (seconds 9000)))
      (deliverOnce defaultDelivery ((exchangeAt (seconds 1800) 0).send defaultIngest)
        (exchangeAt (seconds 1800) 0).moment (oneQueued (failedLogin (seconds 9000)))).1 := by
  have late : collectedLate defaultIngest (seconds 1800) (failedLogin (seconds 9000)) = true := by
    decide
  have sent : transmitted (exchangeAt (seconds 1800) 0).moment
      (oneQueued (failedLogin (seconds 9000))) = [(failedLogin (seconds 9000), 0)] := rfl
  have unique := uniqueIds_oneQueued (failedLogin (seconds 9000))
  have now : (exchangeAt (seconds 1800) 0).arrival.now = seconds 1800 := rfl
  generalize oneQueued (failedLogin (seconds 9000)) = state at sent unique ⊢
  generalize exchangeAt (seconds 1800) 0 = exchange at sent now ⊢
  have run : Run (DeliveryState.Step defaultDelivery Exchange.moment (Exchange.send defaultIngest))
      state [⟨state, .deliver exchange, _⟩] _ := .single (.deliver exchange)
  have only_faulty := (only_faulty_set_aside_iff run unique).mpr
  refine only_faulty ?_ _ (List.mem_singleton_self _) exchange rfl
  intro taken member other labelled event attempts single answered
  obtain rfl := List.mem_singleton.mp member
  obtain rfl := Activity.deliver.inj labelled
  have same : failedLogin (seconds 9000) = event :=
    congrArg Prod.fst (List.cons.inj (sent.symm.trans single)).1
  rw [now, ← same]
  exact .inl (.inr (.inl late))

end WolandGuard.Agent
