import Mathlib.Tactic.NormNum
import WolandGuard.Agent.DeliveryRuns

/-!
# Pauses

A failed batch is put off by writing a later `next_attempt_at` into its rows. A
pause of the whole delivery is kept only as far as the other rows go along: it
holds when every other pending row is due no earlier, and as long as no row is
added or requeued before its end.
-/

set_option autoImplicit false

namespace WolandGuard.Agent

open Foundations

/-! ## Calls and pauses -/

/-- A call reads a batch and sends it, the result of its request comes, or something else is
done to the spool. -/
inductive PauseLabel where
  | send
  | receive (random : Rat) (result : TransportResult)
  | other (activity : Activity Empty)

/-- The batch that a call reads at an instant. -/
def DeliveryState.batchAt (state : DeliveryState) (now : Rat) : QueuedEvents :=
  transmitted ⟨now, now, 0⟩ state

/-- The delivery, the batch whose result is waited for, the time, and the latest end of
the pauses asked for so far. The batch is empty when no call is under way. -/
structure PausedState where
  delivery : DeliveryState
  sending : QueuedEvents
  clock : Rat
  pausedUntil : Rat

/-- What is still under way: a request is lost with the process that made it. -/
def stillSending (sending : QueuedEvents) : Activity Empty → QueuedEvents
  | .restart => []
  | _ => sending

theorem stillSending_cases (sending : QueuedEvents) (activity : Activity Empty) :
    stillSending sending activity = sending ∨ stillSending sending activity = [] := by
  cases activity with
  | restart => exact .inr rfl
  | _ => exact .inl rfl

variable (settings : DeliverySettings)

/-- The latest end of a pause after the result of a request. -/
def PausedState.pausedAfter (state : PausedState) (random : Rat) (result : TransportResult)
    (now : Rat) : Rat :=
  match deferralDelay settings state.sending random result with
  | none => state.pausedUntil
  | some delay => max state.pausedUntil (now + max 0 delay)

/-- A step that is over at an instant. Time does not go back, and there is one call at a
time. -/
inductive PausedState.Step (state : PausedState) : PauseLabel × Rat → PausedState → Prop where
  | send {now : Rat} : state.sending = [] → state.clock ≤ now →
      Step state (.send, now) { state with sending := state.delivery.batchAt now, clock := now }
  | receive {now random : Rat} {result : TransportResult} :
      state.sending ≠ [] → state.clock ≤ now →
      Step state (.receive random result, now)
        { delivery := (afterSend settings now state.sending random result state.delivery).1
          sending := []
          clock := now
          pausedUntil := state.pausedAfter settings random result now }
  | other {now : Rat} {activity : Activity Empty} {delivery : DeliveryState} :
      DeliveryState.Step settings Empty.elim (fun call => call.elim) state.delivery activity
        delivery → state.clock ≤ now →
      Step state (.other activity, now)
        { state with
          delivery := delivery
          sending := stillSending state.sending activity
          clock := now }

/-- No call from now on transmits anything before the end of the pause. -/
def PausedState.Silent (state : PausedState) : Prop :=
  ∀ now, state.clock ≤ now → now < state.pausedUntil → state.delivery.batchAt now = []

/-- The step leaves nothing to be sent before the end of the pause: the rows
outside a batch that is put off are due no earlier, and rows are added and
requeued after the pause. -/
def KeepsPause (state : PausedState) : PauseLabel × Rat → Prop
  | (.receive random result, now) => ∀ delay,
      deferralDelay settings state.sending random result = some delay → 0 < delay →
        ∀ row ∈ state.delivery.spool.events, row.status = .pending →
          row.eventId ∉ state.sending.ids → now + delay ≤ row.nextAttemptAt
  | (.other (.enqueue event), now) =>
      event.eventId ∈ state.delivery.spool.events.map (·.eventId) ∨ state.pausedUntil ≤ now
  | (.other (.requeue eventId), now) =>
      (∃ row ∈ state.delivery.spool.events, row.eventId = eventId ∧ row.status ≠ .pending) →
        state.pausedUntil ≤ now
  | _ => True

/-! ## Silence, row by row -/

/-- Every pending row is due after the pause, or the pause is over. -/
def PausedState.Quiet (state : PausedState) : Prop :=
  ∀ row ∈ state.delivery.spool.events, row.status = .pending →
    state.pausedUntil ≤ max state.clock row.nextAttemptAt

/-- **The pause is kept when it is kept by every pending row.** -/
theorem silent_iff {state : PausedState}
    (size : 1 ≤ state.delivery.currentBatchSize ∧ state.delivery.currentBatchSize ≤ 100) :
    state.Silent ↔ state.Quiet := by
  constructor
  · intro silent row member pending
    by_contra early
    -- the row is sent at the instant when it is due
    have sent := silent (max state.clock row.nextAttemptAt) (le_max_left _ _) (not_le.mp early)
    refine (transmitted_eq_nil size).mp sent row member ?_
    simp [SpoolEvent.due, pending]
  · intro quiet now from_now early
    refine (transmitted_eq_nil size).mpr ?_
    intro row member due
    simp only [SpoolEvent.due, Bool.and_eq_true, decide_eq_true_eq] at due
    have kept := quiet row member due.1
    exact absurd (kept.trans (max_le from_now due.2)) (not_le.mpr early)

/-- A pause that is over is kept. -/
theorem quiet_of_ended {state : PausedState} (ended : state.pausedUntil ≤ state.clock) :
    state.Quiet := fun _ _ _ => le_max_of_le_left ended

/-- A call that is under way was made after the pauses so far. -/
def PausedState.SentAfter (state : PausedState) : Prop :=
  state.sending ≠ [] → state.pausedUntil ≤ state.clock

/-! ## Steps -/

section Steps

variable {settings} {state after : PausedState} {label : PauseLabel × Rat}

/-- Rows that were there keep a pause while time passes. -/
theorem PausedState.Quiet.later {now : Rat} {delivery : DeliveryState} {sending : QueuedEvents}
    (quiet : state.Quiet) (later : state.clock ≤ now)
    (kept : ∀ row ∈ delivery.spool.events, row.status = .pending →
      ∃ old ∈ state.delivery.spool.events, old.status = .pending ∧
        old.nextAttemptAt = row.nextAttemptAt) :
    (PausedState.mk delivery sending now state.pausedUntil).Quiet := by
  intro row member pending
  obtain ⟨old, old_member, old_pending, same⟩ := kept row member pending
  have before := quiet old old_member old_pending
  rw [same] at before
  exact before.trans (max_le_max later (le_refl _))

/-- **What a batch that is put off does to a pause.** -/
theorem quiet_deferred {batch : QueuedEvents} {now delay : Rat} {errorCode : String}
    {size : Nat} {spool : Spool} {sending : QueuedEvents} :
    (PausedState.mk ⟨spool.defer now batch.ids delay errorCode, size⟩ sending now
        (now + max 0 delay)).Quiet ↔
      (0 < delay → ∀ row ∈ spool.events, row.status = .pending → row.eventId ∉ batch.ids →
        now + delay ≤ row.nextAttemptAt) := by
  constructor
  · intro quiet positive row member pending outside
    have untouched : row ∈ (spool.defer now batch.ids delay errorCode).events :=
      mem_updateWhere.mpr ⟨row, member, by simp [outside]⟩
    have kept : now + max 0 delay ≤ max now row.nextAttemptAt := quiet row untouched pending
    rw [max_eq_right positive.le] at kept
    rcases le_max_iff.mp kept with early | due
    · linarith
    · exact due
  · intro others row member pending
    obtain ⟨old, old_member, rfl⟩ := mem_updateWhere.mp member
    dsimp only
    by_cases chosen : batch.ids.contains old.eventId = true ∧ old.status = .pending
    · have meets : (batch.ids.contains old.eventId && decide (old.status = .pending)) = true := by
        simpa using chosen
      simp only [meets, if_true]
      exact le_max_right _ _
    · have untouched :
          (batch.ids.contains old.eventId && decide (old.status = .pending)) = false := by
        simpa using chosen
      simp only [untouched] at pending ⊢
      have outside : old.eventId ∉ batch.ids := by
        intro inside
        exact chosen ⟨List.contains_iff_mem.mpr inside, pending⟩
      by_cases positive : 0 < delay
      · rw [max_eq_right positive.le]
        exact le_max_of_le_right (others positive old old_member pending outside)
      · rw [max_eq_left (not_lt.mp positive), add_zero]
        exact le_max_left _ _

/-- A result that asks for no pause leaves those so far, which are over. -/
theorem quiet_of_unasked {now random : Rat} {result : TransportResult} {delivery : DeliveryState}
    (asks : deferralDelay settings state.sending random result = none)
    (ended : state.pausedUntil ≤ now) :
    (PausedState.mk delivery [] now (state.pausedAfter settings random result now)).Quiet ↔
      KeepsPause settings state (.receive random result, now) := by
  simp only [PausedState.pausedAfter, asks, KeepsPause, reduceCtorEq, false_implies, implies_true,
    iff_true]
  exact quiet_of_ended ended

/-- **What the result of a request does to a pause.** -/
theorem quiet_receive {now random : Rat} {result : TransportResult}
    (sending : state.sending ≠ []) (ended : state.pausedUntil ≤ now) :
    (PausedState.mk (afterSend settings now state.sending random result state.delivery).1 [] now
        (state.pausedAfter settings random result now)).Quiet ↔
      KeepsPause settings state (.receive random result, now) := by
  have cases := afterSend_cases settings state.sending random result now state.delivery sending
  generalize afterSend settings now state.sending random result state.delivery = answered at cases ⊢
  cases cases with
  | delivered success =>
      have none_asked : deferralDelay settings state.sending random result = none := by
        rw [deferralDelay, success]
      exact quiet_of_unasked none_asked ended
  | @deferred delay asked =>
      have longer : max state.pausedUntil (now + max 0 delay) = now + max 0 delay :=
        max_eq_right (ended.trans (le_add_of_nonneg_right (le_max_left 0 delay)))
      simp only [PausedState.pausedAfter, asked, longer]
      rw [quiet_deferred]
      simp only [KeepsPause, asked, Option.some.injEq, forall_eq']
  | setAside single splittable quarantined =>
      have none_asked : deferralDelay settings state.sending random result = none := by
        rw [deferralDelay_of_terminal _ _ _ _ splittable, single]
        rfl
      exact quiet_of_unasked none_asked ended

/-- A row that becomes due at once is sent before the end of the pause, unless
that is over. -/
theorem quiet_of_due {row : SpoolEvent} (quiet : after.Quiet)
    (member : row ∈ after.delivery.spool.events) (pending : row.status = .pending)
    (at_once : row.nextAttemptAt = 0) (nonneg : 0 ≤ after.clock) :
    after.pausedUntil ≤ after.clock := by
  have kept := quiet row member pending
  rwa [at_once, max_eq_left nonneg] at kept

/-- **What anything else does to a pause.** -/
theorem quiet_other {now : Rat} {activity : Activity Empty} {delivery : DeliveryState}
    {sending : QueuedEvents}
    (changed : DeliveryState.Step settings Empty.elim (fun call => call.elim) state.delivery
      activity delivery)
    (later : state.clock ≤ now) (quiet : state.Quiet) (nonneg : 0 ≤ state.clock) :
    (PausedState.mk delivery sending now state.pausedUntil).Quiet ↔
      KeepsPause settings state (.other activity, now) := by
  cases changed with
  | deliver call => exact call.elim
  | @enqueue maxEvents enqueuedAt updatedAt source cursor event result spool enqueued =>
      obtain ⟨⟨_, known, rows⟩ | ⟨_, unknown, _, rows⟩, _⟩ := Spool.enqueueWithCursor_spec enqueued
      · have duplicate : event.eventId ∈ state.delivery.spool.events.map (·.eventId) := by
          simpa [Spool.queued] using known
        simp only [KeepsPause, duplicate, true_or, iff_true]
        exact quiet.later later fun row member pending => ⟨row, rows ▸ member, pending, rfl⟩
      · have fresh : event.eventId ∉ state.delivery.spool.events.map (·.eventId) := by
          simpa [Spool.queued] using unknown
        simp only [KeepsPause, fresh, false_or]
        constructor
        · intro kept
          have member : Spool.newRow enqueuedAt event ∈ spool.events :=
            rows ▸ List.mem_append_right _ (List.mem_singleton_self _)
          exact quiet_of_due kept member rfl rfl (nonneg.trans later)
        · intro ended
          exact quiet_of_ended ended
  | requeue eventId =>
      simp only [KeepsPause]
      constructor
      · rintro kept ⟨row, member, same, final⟩
        refine quiet_of_due kept (mem_updateWhere.mpr ⟨row, member, rfl⟩) ?_ ?_
          (nonneg.trans later)
        · simp [same, final]
        · simp [same, final]
      · intro ended
        by_cases requeued : ∃ row ∈ state.delivery.spool.events,
          row.eventId = eventId ∧ row.status ≠ .pending
        · exact quiet_of_ended (ended requeued)
        · have nothing : (state.delivery.spool.requeue eventId).events =
              state.delivery.spool.events := by
            refine updateWhere_of_none _ ?_
            intro row member
            by_contra meets
            refine requeued ⟨row, member, ?_⟩
            simpa using meets
          exact quiet.later later fun row member pending => ⟨row, nothing ▸ member, pending, rfl⟩
  | delete eventId =>
      simp only [KeepsPause, iff_true]
      exact quiet.later later fun row member pending =>
        ⟨row, (List.mem_filter.mp member).1, pending, rfl⟩
  | note rows =>
      simp only [KeepsPause, iff_true]
      exact quiet.later later fun row member pending => ⟨row, rows ▸ member, pending, rfl⟩
  | restart =>
      simp only [KeepsPause, iff_true]
      exact quiet.later later fun row member pending => ⟨row, member, pending, rfl⟩

/-- **A step keeps the silence exactly when it leaves nothing to be sent.** -/
theorem quiet_step (step : PausedState.Step settings state label after) (quiet : state.Quiet)
    (sent : state.SentAfter) (nonneg : 0 ≤ state.clock) :
    after.Quiet ↔ KeepsPause settings state label := by
  cases step with
  | send idle later =>
      simp only [KeepsPause, iff_true]
      exact quiet.later later fun row member pending => ⟨row, member, pending, rfl⟩
  | receive sending later => exact quiet_receive sending ((sent sending).trans later)
  | other changed later => exact quiet_other changed later quiet nonneg

/-- A call that is made in silence finds no batch, or the pause is over. -/
theorem PausedState.Step.sentAfter (step : PausedState.Step settings state label after)
    (silent : state.Silent) (sent : state.SentAfter) : after.SentAfter := by
  cases step with
  | @send now idle later =>
      intro found
      by_contra early
      exact found (silent now later (not_le.mp early))
  | receive sending later => exact fun nothing => absurd rfl nothing
  | @other now activity delivery changed later =>
      intro sending
      rcases stillSending_cases state.sending activity with same | nothing
      · exact (sent (same ▸ sending)).trans later
      · exact absurd nothing sending

end Steps

/-! ## Runs -/

/-- What a state needs for the steps to be exact: a valid batch size, a batch under way
that is no longer than a batch may be, and a clock that shows a time after the epoch. -/
structure PausedState.Valid (state : PausedState) : Prop where
  positive : 1 ≤ state.delivery.currentBatchSize
  configured : state.delivery.currentBatchSize ≤ settings.configuredBatchSize
  short : state.sending.length ≤ settings.configuredBatchSize
  nonneg : 0 ≤ state.clock

section Runs

variable {settings} {start finish : PausedState}
variable {path : List (Taken PausedState (PauseLabel × Rat))}

theorem PausedState.Step.valid {state after : PausedState} {label : PauseLabel × Rat}
    (step : PausedState.Step settings state label after)
    (configured : 1 ≤ settings.configuredBatchSize) (valid : state.Valid settings) :
    after.Valid settings := by
  cases step with
  | send idle later =>
      exact ⟨valid.positive, valid.configured,
        (length_transmitted_le _ _).trans valid.configured, valid.nonneg.trans later⟩
  | receive sending later =>
      obtain ⟨positive, within⟩ := currentBatchSize_afterSend state.delivery sending configured
        ⟨valid.positive, valid.configured⟩ valid.short
      exact ⟨positive, within, Nat.zero_le _, valid.nonneg.trans later⟩
  | @other now activity delivery changed later =>
      obtain ⟨positive, within⟩ := changed.currentBatchSize configured
        ⟨valid.positive, valid.configured⟩
      refine ⟨positive, within, ?_, valid.nonneg.trans later⟩
      rcases stillSending_cases state.sending activity with same | nothing
      · exact (congrArg List.length same).trans_le valid.short
      · exact (congrArg List.length nothing).trans_le (Nat.zero_le _)

/-- **A pause stops all sending exactly when every step leaves nothing to be
sent before its end.** -/
theorem pauses_kept_iff (run : Run (PausedState.Step settings) start path finish)
    (configured : 1 ≤ settings.configuredBatchSize ∧ settings.configuredBatchSize ≤ 100)
    (valid : start.Valid settings) (rested : start.pausedUntil ≤ start.clock) :
    (∀ taken ∈ path, taken.after.Silent) ↔
      ∀ taken ∈ path, KeepsPause settings taken.before taken.label := by
  have quiet := quiet_of_ended rested
  have sent : start.SentAfter := fun _ => rested
  clear rested
  induction run with
  | nil state => simp
  | @cons start middle finish label path step _ ih =>
      have size : 1 ≤ start.delivery.currentBatchSize ∧ start.delivery.currentBatchSize ≤ 100 :=
        ⟨valid.positive, valid.configured.trans configured.2⟩
      have next := step.valid configured.1 valid
      have next_size : 1 ≤ middle.delivery.currentBatchSize ∧
          middle.delivery.currentBatchSize ≤ 100 :=
        ⟨next.positive, next.configured.trans configured.2⟩
      have exact := (silent_iff next_size).trans (quiet_step step quiet sent valid.nonneg)
      have next_sent := step.sentAfter ((silent_iff size).mpr quiet) sent
      simp only [List.mem_cons, forall_eq_or_imp]
      constructor
      · rintro ⟨silent, rest⟩
        exact ⟨exact.mp silent, (ih next ((silent_iff next_size).mp silent) next_sent).mp rest⟩
      · rintro ⟨keeps, rest⟩
        have silent := exact.mpr keeps
        exact ⟨silent, (ih next ((silent_iff next_size).mp silent) next_sent).mpr rest⟩

end Runs

/-! ## A rate limit -/

/-- The control plane answers 429 and asks for a minute. -/
def limited : TransportResult := ⟨.rateLimited, 0, 0, some 60⟩

/-- One event is queued, and no pause was asked for. -/
def beforeLimit : PausedState := ⟨oneQueued (failedLogin 0), [], 1, 1⟩

def duringLimit : PausedState := ⟨oneQueued (failedLogin 0), [(failedLogin 0, 0)], 1, 1⟩

def afterLimit : PausedState :=
  ⟨(afterSend defaultDelivery 2 [(failedLogin 0, 0)] 0 limited (oneQueued (failedLogin 0))).1, [],
    2, 62⟩

theorem limited_sent :
    PausedState.Step defaultDelivery beforeLimit (.send, 1) duringLimit := .send rfl (by decide)

theorem limited_received :
    PausedState.Step defaultDelivery duringLimit (.receive 0 limited, 2) afterLimit := by
  have asked : deferralDelay defaultDelivery duringLimit.sending 0 limited = some 60 := rfl
  have minute : max (1 : Rat) (2 + max 0 60) = 62 := by norm_num
  have ends : duringLimit.pausedAfter defaultDelivery 0 limited 2 = 62 := by
    rw [PausedState.pausedAfter, asked]
    exact minute
  have step : PausedState.Step defaultDelivery duringLimit (.receive 0 limited, 2) _ :=
    .receive (List.cons_ne_nil _ _) (by decide)
  rwa [ends] at step

theorem valid_beforeLimit : beforeLimit.Valid defaultDelivery :=
  ⟨by decide, by decide, by decide, by decide⟩

/-- The minute passes when the batch was all there is to send. -/
theorem pauses_kept_iff_only_batch : afterLimit.Silent := by
  have run : Run (PausedState.Step defaultDelivery) beforeLimit
      [⟨beforeLimit, (.send, 1), duringLimit⟩, ⟨duringLimit, (.receive 0 limited, 2), afterLimit⟩]
      afterLimit := .cons limited_sent (.single limited_received)
  have kept := (pauses_kept_iff run ⟨by decide, by decide⟩ valid_beforeLimit (by decide)).mpr
  refine kept ?_ _ (List.mem_cons_of_mem _ (List.mem_singleton_self _))
  refine List.forall_mem_cons.mpr ⟨trivial, List.forall_mem_singleton.mpr ?_⟩
  intro delay asked positive row listed pending outside
  obtain rfl := List.mem_singleton.mp listed
  exact absurd (List.mem_singleton_self _) outside

/-- A second failed login. -/
def laterLogin : NormalizedEventV1 := { failedLogin 0 with eventId := 8 }

/-- **An event that arrives during the pause is sent at once.** -/
theorem arrival_breaks_pause : ∃ path finish,
    Run (PausedState.Step defaultDelivery) beforeLimit path finish ∧
      ∃ taken ∈ path, ¬ taken.after.Silent := by
  obtain ⟨spool, enqueued, rows⟩ : ∃ spool,
      afterLimit.delivery.spool.enqueueWithCursor 100 3 3 "journald" "s=1;i=2" laterLogin =
        .ok (.inserted, spool) ∧ Spool.newRow 3 laterLogin ∈ spool.events :=
    ⟨_, rfl, List.mem_append_right _ (List.mem_singleton_self _)⟩
  have arrival : PausedState.Step defaultDelivery afterLimit (.other (.enqueue laterLogin), 3)
      ⟨{ afterLimit.delivery with spool := spool }, [], 3, 62⟩ :=
    .other (.enqueue enqueued) (by decide)
  refine ⟨_, _, .cons limited_sent (.cons limited_received (.single arrival)), _,
    List.mem_cons_of_mem _ (List.mem_cons_of_mem _ (List.mem_singleton_self _)), ?_⟩
  intro silent
  have size : 1 ≤ afterLimit.delivery.currentBatchSize ∧
    afterLimit.delivery.currentBatchSize ≤ 100 := by decide
  have early : (3 : Rat) < 62 := by decide
  have sent := silent 3 (le_refl _) early
  have due : (Spool.newRow 3 laterLogin).due 3 = true := by decide
  exact absurd due ((@transmitted_eq_nil ⟨3, 3, 0⟩
    ⟨spool, afterLimit.delivery.currentBatchSize⟩ size).mp sent _ rows)

end WolandGuard.Agent
