import WolandGuard.Agent.Readings
import WolandGuard.Agent.Schedules

/-!
# At least once, with an effect exactly once

The control plane stores an event id of a server once, and only the transaction
that stores it detects on it. The agent deletes a row only when it has a
response of the control plane to a batch with that event, and a response means
that every event of the batch is stored. So an event that was persisted is in
the spool, or stored, or was deleted by the operator. No record before it was
passed over, for a reading persists the first records that the source yields.
-/

set_option autoImplicit false

namespace WolandGuard.Agent

open Foundations Incidents
open Incidents.Concurrent (Operation transitionIncident_performs addIncidentComment_performs)
open Detection.Concurrent (Ingested Sees SeenStored ingestEvents_sees detection)

/-! ## What a transaction stores -/

section Stores

variable {unicode : UnicodeData} {state after : WorkflowTables} {answer : Answer}
variable {visible : WorkflowTables → Prop}

/-- **An ingestion stores its new events, and nothing else stores any.** -/
theorem sees_events {operation : Operation unicode}
    (sees : Sees visible operation.code [] state after answer) :
    (∃ draws maxAttempts serverId now batch newEvents,
      operation = .ingest draws maxAttempts serverId now batch ∧
        Ingested draws maxAttempts (batch.map (Detection.eventRow draws serverId now)) newEvents
          visible state after answer) ∨
      (∀ draws maxAttempts serverId now batch,
        operation ≠ .ingest draws maxAttempts serverId now batch) ∧
        after.tables.events = state.tables.events := by
  cases operation with
  | transition submitted historyId auditId now =>
      refine .inr ⟨fun _ _ _ _ _ same => (by cases same), ?_⟩
      obtain ⟨outcome, rfl, effect⟩ := transitionIncident_performs sees.performs
      cases effect with
      | replayed existing used => rfl
      | refused httpStatus body conflict unused _ => rfl
      | applied incident entry applies unused recorded => simp [Concurrent.transitionApplied, storeOutcome, transitionWrites]
  | comment request commentId auditId now =>
      refine .inr ⟨fun _ _ _ _ _ same => (by cases same), ?_⟩
      obtain ⟨outcome, rfl, effect⟩ := addIncidentComment_performs sees.performs
      cases effect with
      | replayed existing used => rfl
      | notFound unused => rfl
      | added entry unused recorded => simp [Concurrent.commentAdded, Concurrent.storeCommentOutcome]
  | ingest draws maxAttempts serverId now batch =>
      obtain ⟨newEvents, ingested⟩ := ingestEvents_sees sees
      exact .inl ⟨draws, maxAttempts, serverId, now, batch, newEvents, rfl, ingested⟩
  | configure ruleVersions destinations =>
      refine .inr ⟨fun _ _ _ _ _ same => (by cases same), ?_⟩
      cases sees with
      | commit => rfl

/-- The events stored in one state are stored in the other. -/
def EventsGrow (state after : WorkflowTables) : Prop := state.tables.events <+: after.tables.events

/-- `uq_events_server_id_agent_event_id` holds. -/
def UniqueEvents (state : WorkflowTables) : Prop :=
  (state.tables.events.map Event.deliveryKey).Nodup

/-- The control plane has committed an event of the server with the id. -/
def Stored (serverId : Uuid) (state : WorkflowTables) (eventId : Uuid) : Prop :=
  (serverId, eventId) ∈ state.tables.events.map Event.deliveryKey

theorem Stored.mono {serverId eventId : Uuid} (stored : Stored serverId state eventId)
    (grows : EventsGrow state after) : Stored serverId after eventId :=
  (grows.map Event.deliveryKey).subset stored

theorem uniqueEvents_of_sees {operation : Operation unicode} (unique : UniqueEvents state)
    (sees : Sees visible operation.code [] state after answer) :
    UniqueEvents after ∧ EventsGrow state after := by
  rcases sees_events sees with ⟨draws, maxAttempts, serverId, now, batch, newEvents, _, ingested⟩ |
      ⟨_, same⟩
  · refine ⟨?_, ⟨newEvents, ingested.appended.symm⟩⟩
    rw [UniqueEvents, ingested.appended, List.map_append, List.nodup_append]
    exact ⟨unique, ingested.unique, fun key known other new same =>
      ingested.unknown other new (same ▸ known)⟩
  · exact ⟨by rwa [UniqueEvents, same], ⟨[], by rw [List.append_nil, same]⟩⟩

end Stores

/-! ## The control plane over a run -/

section Server

variable {unicode : UnicodeData}
variable {start finish : Transactions (Submission unicode) WorkflowTables LockKey Answer}
variable {path : List (Handled unicode)}

abbrev ServerRun (start : Transactions (Submission unicode) WorkflowTables LockKey Answer)
    (path : List (Handled unicode))
    (finish : Transactions (Submission unicode) WorkflowTables LockKey Answer) : Prop :=
  Run (Transactions.Step Submission.code) start path finish

/-- Event ids stay unique, and every earlier state has fewer events. -/
theorem events_of_run (run : ServerRun start path finish) (idle : start.active = [])
    (unique : UniqueEvents start.committed) :
    UniqueEvents finish.committed ∧
      ∀ taken ∈ path, UniqueEvents taken.before.committed ∧
        EventsGrow taken.before.committed finish.committed ∧
        EventsGrow taken.after.committed finish.committed :=
  Transactions.invariant_seeing run idle sameUnder_equivalence
    (fun submission => submission.operation.wellLocked) (fun _ => List.prefix_rfl)
    (fun _ _ _ => List.IsPrefix.trans)
    (fun _ _ _ _ _ unique _ sees => uniqueEvents_of_sees unique sees) unique

/-- **A committed ingestion leaves its whole batch stored**, and detects on the
events that it has stored itself. -/
theorem ingested_at_commit (run : ServerRun start path finish) (idle : start.active = [])
    (unique : UniqueEvents start.committed) {earlier later : List (Handled unicode)}
    {taken : Handled unicode} (cut : path = earlier ++ taken :: later) {request : Option Nat}
    {draws : Detection.Draws} {maxAttempts : Nat} {serverId : Uuid} {now : Int}
    {batch : List NormalizedEventV1} {answer : Answer}
    (label : taken.label = .commit ⟨request, .ingest draws maxAttempts serverId now batch⟩ answer) :
    ∃ newEvents, Ingested draws maxAttempts (batch.map (Detection.eventRow draws serverId now))
        newEvents (fun seen => EventsGrow seen taken.before.committed) taken.before.committed
        taken.after.committed answer ∧
      ∀ event ∈ batch, Stored serverId taken.after.committed event.eventId := by
  subst cut
  obtain ⟨reached, _, _⟩ := run.around
  have past := (events_of_run reached idle unique).2
  obtain ⟨before, began, window, rfl, started, sees⟩ :=
    Transactions.seen_at_commit run idle sameUnder_equivalence
      (fun submission => submission.operation.wellLocked) rfl label
  obtain ⟨newEvents, ingested⟩ := ingestEvents_sees sees
  have grown (seen : WorkflowTables) (shown : Transactions.Seen window seen) :
      EventsGrow seen taken.before.committed := by
    obtain ⟨step, member, rfl⟩ := shown
    exact (past step (by simp [member])).2.1
  have accounted (row : Event)
      (member : row ∈ batch.map (Detection.eventRow draws serverId now)) :
      row.deliveryKey ∈ newEvents.map Event.deliveryKey ∨
        SeenStored (fun seen => EventsGrow seen taken.before.committed) row.deliveryKey := by
    rcases ingested.accounted row member with new | ⟨seen, shown, known⟩
    · exact .inl new
    · exact .inr ⟨seen, grown seen shown, known⟩
  refine ⟨newEvents, { ingested with accounted := accounted }, fun event member => ?_⟩
  unfold Stored
  rw [ingested.appended, List.map_append, List.mem_append]
  rcases accounted _ (List.mem_map_of_mem member) with new | ⟨seen, grows, known⟩
  · exact .inr new
  · exact .inl ((grows.map Event.deliveryKey).subset known)

/-! ## Detection happens once for each event -/

/-- A recorded commit. -/
abbrev Committed (unicode : UnicodeData) := Taken WorkflowTables (Submission unicode × Answer)

/-- The events that a commit has stored. -/
def newEvents (served : Committed unicode) : List Event :=
  served.after.tables.events.drop served.before.tables.events.length

theorem newEvents_of_appended {served : Committed unicode} {fresh : List Event}
    (appended : served.after.tables.events = served.before.tables.events ++ fresh) :
    newEvents served = fresh := by
  rw [newEvents, appended, List.drop_left]

/-- The commit of a step of the control plane. -/
theorem exists_cut_of_commit {served : Committed unicode}
    (member : served ∈ Transactions.commits path) :
    ∃ earlier taken later, path = earlier ++ taken :: later ∧
      taken.label = .commit served.label.1 served.label.2 ∧
      taken.before.committed = served.before ∧ taken.after.committed = served.after := by
  obtain ⟨taken, step, commit⟩ := List.mem_filterMap.mp member
  obtain ⟨earlier, later, cut⟩ := List.append_of_mem step
  refine ⟨earlier, taken, later, cut, ?_⟩
  unfold Transactions.commitOf at commit
  split at commit
  next request outcome label =>
    cases commit
    exact ⟨label, rfl, rfl⟩
  · cases commit

/-- The events of a commit are those before it and its new ones. -/
theorem appended_of_commit (run : ServerRun start path finish) (idle : start.active = [])
    {served : Committed unicode} (member : served ∈ Transactions.commits path) :
    served.after.tables.events = served.before.tables.events ++ newEvents served := by
  obtain ⟨earlier, taken, later, cut, label, before, after⟩ := exists_cut_of_commit member
  obtain ⟨_, _, _, _, _, sees⟩ :=
    Transactions.seen_at_commit run idle sameUnder_equivalence
      (fun submission => submission.operation.wellLocked) cut label
  rw [before, after] at sees
  rcases sees_events sees with ⟨_, _, _, _, _, fresh, _, ingested⟩ | ⟨_, same⟩
  · rw [newEvents_of_appended ingested.appended, ingested.appended]
  · have none_new : served.after.tables.events = served.before.tables.events ++ [] := by
      rw [List.append_nil, same]
    rw [newEvents_of_appended none_new, none_new]

/-- **The stored events are the new events of the commits**, one commit after
the other. -/
theorem events_eq_flatMap (run : ServerRun start path finish) (idle : start.active = []) :
    finish.committed.tables.events =
      start.committed.tables.events ++ (Transactions.commits path).flatMap newEvents := by
  have serial := Transactions.serial run sameUnder_equivalence
    (fun submission => submission.operation.wellLocked) (Transactions.covered_of_idle idle)
  have appended : ∀ served ∈ Transactions.commits path,
      served.after.tables.events = served.before.tables.events ++ newEvents served :=
    fun served member => appended_of_commit run idle member
  generalize Transactions.commits path = commits at serial appended
  generalize start.committed = first, finish.committed = last at serial
  induction serial with
  | nil state => simp
  | @cons first middle last label rest served _ ih =>
      rw [ih fun other member => appended other (List.mem_cons_of_mem _ member)]
      have here := appended _ List.mem_cons_self
      dsimp only at here
      rw [here, List.flatMap_cons, List.append_assoc]

/-- The commit of an ingestion, with the events that it has stored. -/
theorem ingested_of_commit (run : ServerRun start path finish) (idle : start.active = [])
    (unique : UniqueEvents start.committed) {served : Committed unicode}
    (member : served ∈ Transactions.commits path) {draws : Detection.Draws} {maxAttempts : Nat}
    {serverId : Uuid} {now : Int} {batch : List NormalizedEventV1}
    (ingests : served.label.1.operation = .ingest draws maxAttempts serverId now batch) :
    Ingested draws maxAttempts (batch.map (Detection.eventRow draws serverId now))
      (newEvents served) (fun seen => EventsGrow seen served.before) served.before served.after
      served.label.2 := by
  obtain ⟨earlier, taken, later, cut, label, before, after⟩ := exists_cut_of_commit member
  have submitted : served.label.1 =
      ⟨served.label.1.request, .ingest draws maxAttempts serverId now batch⟩ := by
    rw [← ingests]
  rw [submitted] at label
  obtain ⟨fresh, ingested, _⟩ := ingested_at_commit run idle unique cut label
  rw [before, after] at ingested
  rw [newEvents_of_appended ingested.appended]
  exact ingested

/-- A commit of an ingestion has detected on what it has stored. -/
theorem detected_at_commit (run : ServerRun start path finish) (idle : start.active = [])
    (unique : UniqueEvents start.committed) {served : Committed unicode}
    (member : served ∈ Transactions.commits path) {draws : Detection.Draws} {maxAttempts : Nat}
    {serverId : Uuid} {now : Int} {batch : List NormalizedEventV1}
    (ingests : served.label.1.operation = .ingest draws maxAttempts serverId now batch)
    (nonempty : newEvents served ≠ []) :
    (detection draws maxAttempts (newEvents served)).Performs served.before served.after
      served.label.2 :=
  (ingested_of_commit run idle unique member ingests).detected nonempty

/-- **A commit that stores no event detects nothing**, and writes nothing. -/
theorem undetected_at_commit (run : ServerRun start path finish) (idle : start.active = [])
    (unique : UniqueEvents start.committed) {served : Committed unicode}
    (member : served ∈ Transactions.commits path) {draws : Detection.Draws} {maxAttempts : Nat}
    {serverId : Uuid} {now : Int} {batch : List NormalizedEventV1}
    (ingests : served.label.1.operation = .ingest draws maxAttempts serverId now batch)
    (empty : newEvents served = []) :
    served.after = served.before ∧ served.label.2 = .ingested 0 := by
  have ingested := ingested_of_commit run idle unique member ingests
  refine ⟨ingested.undetected empty, ?_⟩
  rw [ingested.answered, empty, List.length_nil]

/-- Events grow between two states of a run. -/
theorem grows_between {middle : Transactions (Submission unicode) WorkflowTables LockKey Answer}
    {later : List (Handled unicode)} (first : ServerRun start path middle)
    (second : ServerRun middle later finish) (idle : start.active = [])
    (unique : UniqueEvents start.committed) : EventsGrow middle.committed finish.committed := by
  have past := (events_of_run (first.trans second) idle unique).2
  cases second with
  | nil => exact List.prefix_rfl
  | cons taken rest => exact (past _ (List.mem_append_right _ List.mem_cons_self)).2.1

end Server

/-! ## The agent over a run -/

/-- Responses are given to the agent's own ingestions. -/
theorem mem_responsesOf {unicode : UnicodeData} {move : Move (Submission unicode) Answer}
    {response : Response} (member : response ∈ responsesOf move) :
    ∃ number draws maxAttempts serverId now batch accepted,
      move = .commit ⟨some number, .ingest draws maxAttempts serverId now batch⟩
        (.ingested accepted) ∧
      response = ⟨number, accepted, batch.length - accepted⟩ := by
  unfold responsesOf at member
  split at member
  next number draws maxAttempts serverId now batch accepted =>
    exact ⟨number, draws, maxAttempts, serverId, now, batch, accepted, rfl,
      List.mem_singleton.mp member⟩
  · cases member

section Agent

variable {unicode : UnicodeData} {ε : Type} {settings : AgentSettings ε}
variable {state after start finish : Deployment unicode} {action : Action unicode ε}
variable {path : List (Moved unicode ε)}

/-- The agent waits for a batch that it has sent. -/
def Waits (state : Deployment unicode) : Prop :=
  ∀ number queued, state.sending = some (number, queued) →
    state.sent[number]? = some (queued.map Prod.fst)

theorem Waits.step (waits : Waits state) (step : Deployment.Step settings state action after) :
    Waits after := by
  cases step with
  | deliver idle ready nonempty =>
      intro number queued same
      cases same
      simp
  | receive => exact nofun
  | crash => exact nofun
  | _ => exact waits

/-- What starts in the control plane is genuine. -/
theorem genuine_of_run (run : Run (Deployment.Step settings) start path finish) :
    ∀ moved ∈ handled path, ∀ submission, moved.label = .start submission →
      Genuine settings.serverId finish.sent submission := by
  induction run with
  | nil state => simp [handled]
  | @cons start middle finish action path step rest ih =>
      intro moved member submission label
      rcases List.mem_filterMap.mp member with ⟨taken, taken_member, here⟩
      rcases List.mem_cons.mp taken_member with rfl | later
      · cases step with
        | @server move server admissible _ =>
            cases here
            obtain rfl : move = .start submission := label
            have grown := sent_grows_of_run rest
            exact Genuine.mono admissible grown
        | _ => cases here
      · exact ih moved (List.mem_filterMap.mpr ⟨taken, later, here⟩) submission label

theorem handled_append (earlier : List (Moved unicode ε)) (taken : Moved unicode ε) :
    handled (earlier ++ [taken]) = handled earlier ++ (handledOf taken).toList := by
  rw [handled, List.filterMap_append, handled, List.filterMap_cons]
  cases handledOf taken with
  | none => rfl
  | some moved => rfl

/-- Every response says that its batch is stored. -/
def Answered (settings : AgentSettings ε) (state : Deployment unicode) : Prop :=
  ∀ response ∈ state.responses, ∃ batch, state.sent[response.request]? = some batch ∧
    ∀ event ∈ batch, Stored settings.serverId state.server.committed event.eventId

section Installed

variable {ruleVersions : List DetectionRuleVersion}
variable {destinations : List Outbox.NotificationDestination}

theorem uniqueEvents_installed : UniqueEvents (.installed ruleVersions destinations) :=
  List.nodup_nil

/-- Events grow from any step of a run on. -/
theorem grows_of_run (run : DeploymentRun settings ruleVersions destinations path finish)
    (taken : Moved unicode ε) (member : taken ∈ path) :
    EventsGrow taken.before.server.committed finish.server.committed ∧
      EventsGrow taken.after.server.committed finish.server.committed := by
  obtain ⟨earlier, later, rfl⟩ := List.append_of_mem member
  obtain ⟨reached, step, rest⟩ := run.around
  have here : Run (Deployment.Step settings) taken.before [taken] taken.after := .single step
  exact ⟨grows_between (handled_run reached) (handled_run (here.trans rest)) rfl
      uniqueEvents_installed,
    grows_between (handled_run (reached.trans here)) (handled_run rest) rfl
      uniqueEvents_installed⟩

/-- **A response means that every event of its batch is stored.** -/
theorem answered_of_run (run : DeploymentRun settings ruleVersions destinations path finish) :
    Waits finish ∧ Answered settings finish := by
  refine run.extend (motive := fun _ finish => Waits finish ∧ Answered settings finish)
    ⟨nofun, nofun⟩ ?_
  rintro earlier state action after reached ⟨waits, answered⟩ step
  refine ⟨waits.step step, ?_⟩
  have whole : DeploymentRun settings ruleVersions destinations
      (earlier ++ [⟨state, action, after⟩]) after := reached.trans (.single step)
  have grows := (grows_of_run whole ⟨state, action, after⟩ (by simp)).1
  have sent_grows := step.sent_grows
  -- the responses that are there stay true
  have kept : ∀ response ∈ state.responses, ∃ batch, after.sent[response.request]? = some batch ∧
      ∀ event ∈ batch, Stored settings.serverId after.server.committed event.eventId := by
    intro response member
    obtain ⟨batch, number, stored⟩ := answered response member
    exact ⟨batch, sent_later number sent_grows,
      fun event event_member => (stored event event_member).mono grows⟩
  cases step with
  | @server move server admissible taken =>
      intro response member
      rcases List.mem_append.mp member with old | new
      · exact kept response old
      · obtain ⟨number, draws, maxAttempts, serverId, now, batch, accepted, rfl, rfl⟩ :=
          mem_responsesOf new
        have served := handled_run whole
        obtain ⟨_, _, stored⟩ := ingested_at_commit served rfl uniqueEvents_installed
          (handled_append earlier _) rfl
        obtain ⟨_, began, _, split, started, _⟩ :=
          Transactions.seen_at_commit served rfl sameUnder_equivalence
            (fun submission => submission.operation.wellLocked) (handled_append earlier _) rfl
        have genuine := genuine_of_run reached began (by rw [split]; simp) _ started
        cases genuine with
        | own sent => exact ⟨batch, sent, stored⟩
  | _ => exact kept

/-- **What leaves the spool is stored**, but for what an operator deletes. -/
theorem left_spool (run : DeploymentRun settings ruleVersions destinations path finish)
    (taken : Moved unicode ε) (member : taken ∈ path) {event : NormalizedEventV1}
    (queued : event ∈ taken.before.spool.queued) (gone : event ∉ taken.after.spool.queued) :
    taken.label = .delete event.eventId ∨
      Stored settings.serverId taken.before.server.committed event.eventId := by
  obtain ⟨earlier, later, rfl⟩ := List.append_of_mem member
  obtain ⟨reached, step, _⟩ := run.around
  obtain ⟨waits, answered⟩ := answered_of_run reached
  generalize taken.before = state, taken.after = after, taken.label = action at *
  cases step with
  | persist collecting persisted =>
      exact absurd ((AgentSettings.persistRecord_spec persisted).1.queued_subset queued) gone
  | recordGap recorded => exact absurd (Spool.queued_recordDiagnostic recorded ▸ queued) gone
  | clearCursor recorded => exact absurd queued gone
  | @receive number batch reply now random left action sending authentic sent =>
      right
      rcases afterSend_spec settings.delivery now random batch (transportResult batch.length reply)
          ⟨state.spool, state.currentBatchSize⟩ with ⟨success, acknowledged⟩ | same
      · rw [sent] at acknowledged
        obtain ⟨_, _, _, retryAfter, rfl⟩ := success_spec success
        obtain ⟨response, known, numbered, _⟩ := authentic _ _ rfl
        obtain ⟨events, recorded, stored⟩ := answered response known
        rw [numbered, waits number batch sending] at recorded
        obtain rfl := Option.some.inj recorded
        -- the event is one of the batch
        have acked : event.eventId ∈ batch.ids := by
          by_contra other
          refine gone ?_
          rw [acknowledged]
          exact List.mem_filter.mpr ⟨queued, by simpa using other⟩
        obtain ⟨item, item_member, same_id⟩ := List.mem_map.mp acked
        rw [← same_id]
        exact stored item.1 (List.mem_map_of_mem item_member)
      · rw [sent] at same
        exact absurd (same ▸ queued) gone
  | requeue eventId => exact absurd (by simpa using queued) gone
  | delete eventId =>
      left
      by_contra other
      refine gone ?_
      rw [Spool.queued_delete]
      exact List.mem_filter.mpr ⟨queued, decide_eq_true fun same => other (by rw [same])⟩
  | _ => exact absurd queued gone

/-- An event with the id is in the spool, or stored. -/
def Held (settings : AgentSettings ε) (eventId : Uuid) (state : Deployment unicode) : Prop :=
  eventId ∈ state.spool.queued.map (·.eventId) ∨
    Stored settings.serverId state.server.committed eventId

/-- Only an operator's deletion can end that. -/
theorem Held.step {eventId : Uuid} (held : Held settings eventId state)
    (reached : DeploymentRun settings ruleVersions destinations path state)
    (step : Deployment.Step settings state action after) (undeleted : action ≠ .delete eventId) :
    Held settings eventId after := by
  have whole := reached.trans (.single step)
  have grows : EventsGrow state.server.committed after.server.committed :=
    (grows_of_run whole ⟨state, action, after⟩ (by simp)).1
  rcases held with queued | stored
  · obtain ⟨event, member, rfl⟩ := List.mem_map.mp queued
    by_cases stays : event ∈ after.spool.queued
    · exact .inl (List.mem_map_of_mem stays)
    · rcases left_spool whole ⟨state, action, after⟩ (by simp) member stays with
        deleted | stored
      · exact absurd deleted undeleted
      · exact .inr (stored.mono grows)
  · exact .inr (stored.mono grows)

theorem Held.run {eventId : Uuid} {earlier later : List (Moved unicode ε)}
    (held : Held settings eventId state)
    (reached : DeploymentRun settings ruleVersions destinations earlier state)
    (rest : Run (Deployment.Step settings) state later finish)
    (undeleted : ∀ moved ∈ later, moved.label ≠ .delete eventId) :
    Held settings eventId finish := by
  induction rest generalizing earlier with
  | nil state => exact held
  | cons step _ ih =>
      exact ih (held.step reached step (undeleted _ List.mem_cons_self))
        (reached.trans (.single step)) fun moved member =>
          undeleted moved (List.mem_cons_of_mem _ member)

/-- **What was persisted is held**, unless an operator deletes it. -/
theorem held_of_persisted (run : DeploymentRun settings ruleVersions destinations path finish)
    {earlier later : List (Moved unicode ε)} {taken : Moved unicode ε}
    (cut : path = earlier ++ taken :: later) {source : String} {record : JournalRecord}
    {times : PersistTimes} (label : taken.label = .persist source record times)
    {event : NormalizedEventV1}
    (normalized : settings.normalized source times record = .ok (some event)) :
    Held settings event.eventId finish ∨
      ∃ deleting ∈ later, deleting.label = .delete event.eventId := by
  subst cut
  obtain ⟨reached, step, rest⟩ := run.around
  by_cases deleted : ∃ deleting ∈ later, deleting.label = .delete event.eventId
  · exact .inr deleted
  · left
    have here : Held settings event.eventId taken.after := by
      have persisting := step
      rw [label] at persisting
      generalize taken.before = state, taken.after = after at persisting
      cases persisting with
      | persist collecting persisted =>
          exact .inl ((AgentSettings.persistRecord_spec persisted).1.id_queued normalized)
    exact here.run (reached.trans (.single step)) rest fun moved member same =>
      deleted ⟨moved, member, same⟩

/-- What a reading of a run has persisted, and where it has left the cursor. -/
theorem reading_of_run (run : DeploymentRun settings ruleVersions destinations path finish)
    {earlier window rest : List (Moved unicode ε)} {began : Moved unicode ε}
    (cut : path = earlier ++ began :: (window ++ rest)) {source : String} {found : ε}
    (reading : Reading source found began window) :
    persistedBy source window <+:
        settings.yields source (began.before.spool.cursor source) found ∧
      ((∀ moved ∈ window, moved.label ≠ .clearCursor source) →
        ∀ last, window.getLast? = some last →
          last.after.spool.cursor source =
            ((persistedBy source window).getLast?.map (·.cursor)).or
              (began.before.spool.cursor source)) := by
  subst cut
  obtain ⟨reached, step, following⟩ := run.around
  obtain ⟨middle, reads, _⟩ := following.split
  have alone : Alone began.before := alone_of_run reached List.nodup_nil
  refine ⟨persistedBy_leading reading alone step reads, fun kept last ends => ?_⟩
  obtain ⟨front, rfl⟩ := List.getLast?_eq_some_iff.mp ends
  have untouched : began.after.spool.cursor source = began.before.spool.cursor source := by
    rw [reading.began] at step
    generalize began.before = state, began.after = after at step
    cases step with
    | collect absent => rfl
  rw [← untouched]
  obtain ⟨read, final, _⟩ := reads.around
  exact cursor_of_reading (read.trans (.single final)) kept

/-- **A record behind the cursor is held**, unless an operator deletes its event.
The records of a reading are persisted in order, so the one at a place that the
reading has passed was persisted. -/
theorem held_behind_cursor (run : DeploymentRun settings ruleVersions destinations path finish)
    {earlier window rest : List (Moved unicode ε)} {began : Moved unicode ε}
    (cut : path = earlier ++ began :: (window ++ rest)) {source : String} {found : ε}
    (reading : Reading source found began window) {front tail : List JournalRecord}
    {record : JournalRecord}
    (yielded : settings.yields source (began.before.spool.cursor source) found =
      front ++ record :: tail)
    (behind : front.length < (persistedBy source window).length) {times : PersistTimes}
    {event : NormalizedEventV1}
    (normalized : settings.normalized source times record = .ok (some event)) :
    Held settings event.eventId finish ∨
      ∃ deleting ∈ window ++ rest, deleting.label = .delete event.eventId := by
  have ordered := (reading_of_run run cut reading).1
  have persisted : record ∈ persistedBy source window := by
    have here : (persistedBy source window)[front.length] = record := by
      rw [ordered.getElem behind]
      simp [yielded]
    exact here ▸ List.getElem_mem behind
  obtain ⟨before, taken, later, at_step, split, label⟩ := persist_of_mem persisted
  obtain ⟨again, normalized_then⟩ := normalizeRecord_later normalized at_step.collectedAt
  have same_id : again.eventId = event.eventId :=
    (eventId_of_normalizeRecord normalized_then).trans (eventId_of_normalizeRecord normalized).symm
  have placed : path = (earlier ++ began :: before) ++ taken :: (later ++ rest) := by
    simp [cut, split]
  rw [← same_id]
  rcases held_of_persisted run placed label normalized_then with held | ⟨deleting, member, deletes⟩
  · exact .inl held
  · refine .inr ⟨deleting, ?_, deletes⟩
    rcases List.mem_append.mp member with in_window | in_rest
    · exact List.mem_append_left rest (split ▸ List.mem_append_right before
        (List.mem_cons_of_mem taken in_window))
    · exact List.mem_append_right window in_rest

/-- **Delivery is at least once and its effect exactly once.** Event ids stay
unique per server; an event is handed to the detection by the one commit that
stores it, and a commit that stores none detects nothing; what leaves the spool
was stored before or is deleted by an operator. A reading of a source persists
the first records that the source yields, none left out, and moves the cursor to
the last of them; the event of every record that it has passed is held by the
spool or the control plane, unless an operator deletes it. -/
theorem delivered_once (run : DeploymentRun settings ruleVersions destinations path finish) :
    (finish.server.committed.tables.events.map Event.deliveryKey).Nodup ∧
    (∀ served ∈ Transactions.commits (handled path),
      ∀ draws maxAttempts serverId now batch,
        served.label.1.operation = .ingest draws maxAttempts serverId now batch →
          (newEvents served ≠ [] →
            (detection draws maxAttempts (newEvents served)).Performs served.before served.after
              served.label.2) ∧
          (newEvents served = [] →
            served.after = served.before ∧ served.label.2 = .ingested 0)) ∧
    (((Transactions.commits (handled path)).flatMap newEvents).map Event.deliveryKey).Nodup ∧
    (∀ taken ∈ path, ∀ event ∈ taken.before.spool.queued, event ∉ taken.after.spool.queued →
      taken.label = .delete event.eventId ∨
        Stored settings.serverId taken.before.server.committed event.eventId) ∧
    (∀ taken ∈ path, ∀ source,
      taken.after.spool.cursor source = taken.before.spool.cursor source ∨
        taken.label = .clearCursor source ∨
          ∃ record times, taken.label = .persist source record times ∧
            taken.after.spool.cursor source = some record.cursor) ∧
    (∀ earlier taken later, path = earlier ++ taken :: later →
      ∀ source record times event, taken.label = .persist source record times →
        settings.normalized source times record = .ok (some event) →
          (event.eventId ∈ finish.spool.queued.map (·.eventId) ∨
              Stored settings.serverId finish.server.committed event.eventId) ∨
            ∃ deleting ∈ later, deleting.label = .delete event.eventId) ∧
    ∀ earlier began window rest, path = earlier ++ began :: (window ++ rest) →
      ∀ source found, Reading source found began window →
        persistedBy source window <+:
            settings.yields source (began.before.spool.cursor source) found ∧
        ((∀ moved ∈ window, moved.label ≠ .clearCursor source) →
          ∀ last, window.getLast? = some last →
            last.after.spool.cursor source =
              ((persistedBy source window).getLast?.map (·.cursor)).or
                (began.before.spool.cursor source)) ∧
        ∀ front record tail,
          settings.yields source (began.before.spool.cursor source) found =
              front ++ record :: tail →
            front.length < (persistedBy source window).length →
              ∀ times event, settings.normalized source times record = .ok (some event) →
                (event.eventId ∈ finish.spool.queued.map (·.eventId) ∨
                    Stored settings.serverId finish.server.committed event.eventId) ∨
                  ∃ deleting ∈ window ++ rest, deleting.label = .delete event.eventId := by
  have served := handled_run run
  have unique := (events_of_run served rfl uniqueEvents_installed).1
  refine ⟨unique, ?_, ?_, ?_, ?_, ?_, ?_⟩
  · intro served_commit member draws maxAttempts serverId now batch ingests
    exact ⟨detected_at_commit served rfl uniqueEvents_installed member ingests,
      undetected_at_commit served rfl uniqueEvents_installed member ingests⟩
  · have events := events_eq_flatMap served rfl
    have nothing : (Deployment.installed settings ruleVersions destinations :
        Deployment unicode).server.committed.tables.events = [] := rfl
    rw [nothing, List.nil_append] at events
    rw [← events]
    exact unique
  · exact fun taken member event queued gone => left_spool run taken member queued gone
  · exact fun taken member source => (run.taken_step member).cursor_cases source
  · intro earlier taken later cut source record times event label normalized
    exact held_of_persisted run cut label normalized
  · intro earlier began window rest cut source found reading
    obtain ⟨ordered, cursor⟩ := reading_of_run run cut reading
    refine ⟨ordered, cursor, ?_⟩
    intro front record tail yielded behind times event normalized
    exact held_behind_cursor run cut reading yielded behind normalized

end Installed

end Agent

/-! ## A run -/

/-- An agent whose sources yield what they find, and that watches files. -/
def watchingAgent : AgentSettings (List JournalRecord) where
  serverId := 1
  maxEvents := 10
  delivery := ⟨100, 1, 60, 60⟩
  parsers := ⟨fun _ => none, fun _ => none, fun _ => none⟩
  unicode := .ascii
  eventSource := fun _ => .fileIntegrity
  yields _ _ found := found

/-- The record of a change of one file. -/
def changedFile : JournalRecord where
  cursor := "3f6e7a1b:000102030405060708090a0b"
  fields :=
    [("FILE_INTEGRITY_PATH", .str "/etc/passwd"), ("FILE_INTEGRITY_CHANGE", .str "content"),
      ("FILE_INTEGRITY_MONITORING", .str "content")]

/-- The event is sent, stored and its response lost. It is sent again, found
stored and acknowledged. -/
def lostResponse : List (DeploymentCommand .ascii (List JournalRecord)) :=
  let draws : Detection.Draws := ⟨id, fun _ _ => 7, fun _ => 7, fun _ _ => 7, fun _ _ => 0⟩
  [.collect "file_integrity" [changedFile], .persist "file_integrity" ⟨0, 0, 0⟩, .deliver 0,
    .arrive 0 draws 5 0, .step 0, .step 0, .step 0, .step 0, .receive .httpError 1 0,
    .deliver 10, .arrive 1 draws 5 10000000, .step 0, .step 0,
    .receive (.response 200 (some (0, 1)) none) 10 0]

/-- Two deliveries of one event, of which the second is acknowledged. -/
theorem delivered_once_lost_response :
    ∃ (path : List (Moved .ascii (List JournalRecord))) (finish : Deployment .ascii),
      DeploymentRun watchingAgent [] [] path finish ∧ finish.responses.length = 2 ∧
        finish.spool.events.length = 0 ∧ finish.server.committed.tables.events.length = 1 ∧
        (((Transactions.commits (handled path)).flatMap newEvents).map Event.deliveryKey).Nodup ∧
        ∀ taken ∈ path, ∀ event ∈ taken.before.spool.queued,
          event ∉ taken.after.spool.queued →
            taken.label = .delete event.eventId ∨
              Stored 1 taken.before.server.committed event.eventId := by
  have scheduled : ((Run.scheduled (Deployment.next watchingAgent)
      (Deployment.installed watchingAgent [] []) lostResponse).any fun (_, finish) =>
        decide (finish.responses.length = 2 ∧ finish.spool.events.length = 0 ∧
          finish.server.committed.tables.events.length = 1)) = true := by decide +kernel
  obtain ⟨⟨path, finish⟩, reached, holds⟩ := (Option.any_eq_true _ _).mp scheduled
  obtain ⟨responses, spooled, stored⟩ := of_decide_eq_true holds
  have run : DeploymentRun watchingAgent [] [] path finish := Deployment.run_of_schedule reached
  obtain ⟨_, _, once, left, _⟩ := delivered_once run
  exact ⟨path, finish, run, responses, spooled, stored, once, left⟩

end WolandGuard.Agent
