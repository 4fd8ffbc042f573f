import WolandGuard.Agent.AtLeastOnce

/-!
# The capacity of the spool, and its sources

Only an enqueued event adds a row, and it is refused when the spool is full. A
collector works on its own source: it adds rows and moves one cursor. Everything
else works on the rows that are there and moves no cursor. A cursor is lost only
by the second half of `_record_journal_gap`, whose first half has recorded the
diagnostic.
-/

set_option autoImplicit false

namespace WolandGuard.Agent

open Foundations Incidents

variable {unicode : UnicodeData} {ε : Type}

/-- The source that a step of a collector works for. -/
def Action.source? : Action unicode ε → Option String
  | .collect source _ => some source
  | .persist source _ _ => some source
  | .refuse source _ _ => some source
  | .abandon source => some source
  | .recordGap source _ => some source
  | .clearCursor source => some source
  | _ => none

section Steps

variable {settings : AgentSettings ε} {state after : Deployment unicode} {action : Action unicode ε}

/-- **A collector adds rows and moves the cursor of its own source.** -/
theorem Deployment.Step.collector (step : Deployment.Step settings state action after)
    {source : String} (collects : action.source? = some source) :
    state.spool.events <+: after.spool.events ∧
      ∀ other, other ≠ source → after.spool.cursor other = state.spool.cursor other := by
  cases step with
  | collect fresh => exact ⟨List.prefix_rfl, fun _ _ => rfl⟩
  | persist collecting persisted =>
      obtain rfl := Option.some.inj collects
      obtain ⟨kept, ⟨_, others⟩, _⟩ := AgentSettings.persistRecord_spec persisted
      exact ⟨kept.events_grow, others⟩
  | refuse collecting refused => exact ⟨List.prefix_rfl, fun _ _ => rfl⟩
  | abandon collecting => exact ⟨List.prefix_rfl, fun _ _ => rfl⟩
  | recordGap recorded =>
      refine ⟨?_, fun other _ => Spool.cursor_recordDiagnostic recorded other⟩
      exact Spool.events_recordDiagnostic recorded ▸ List.prefix_rfl
  | clearCursor recorded =>
      obtain rfl := Option.some.inj collects
      exact ⟨List.prefix_rfl, fun other different => Spool.cursor_clearCursor different⟩
  | deliver | receive | crash | requeue | delete | server => cases collects

/-- **Everything else works on the rows that are there.** -/
theorem Deployment.Step.onRows (step : Deployment.Step settings state action after)
    (other : action.source? = none) : Spool.OnRows state.spool after.spool := by
  cases step with
  | deliver => exact .refl _
  | @receive number batch reply now random left done sending authentic sent =>
      have onRows := onRows_afterSend settings.delivery now random batch
        (transportResult batch.length reply) ⟨state.spool, state.currentBatchSize⟩
      rw [sent] at onRows
      exact onRows
  | crash => exact .refl _
  | requeue eventId => exact Spool.onRows_requeue eventId
  | delete eventId => exact Spool.onRows_delete eventId
  | server => exact .refl _
  | collect | persist | refuse | abandon | recordGap | clearCursor => cases other

/-- A step keeps the rows within the capacity. -/
theorem Deployment.Step.capacity (step : Deployment.Step settings state action after)
    (within : state.spool.events.length ≤ settings.maxEvents) :
    after.spool.events.length ≤ settings.maxEvents := by
  cases collects : action.source? with
  | none => exact (step.onRows collects).length_le.trans within
  | some source =>
      cases step with
      | persist collecting persisted =>
          cases (AgentSettings.persistRecord_spec persisted).1 with
          | skipped _ same => rwa [same]
          | duplicate _ _ same => rwa [same]
          | inserted _ _ room appended =>
              rw [appended, List.length_append]
              exact room
      | recordGap recorded => rwa [Spool.events_recordDiagnostic recorded]
      | collect | refuse | abandon | clearCursor => exact within
      | deliver | receive | crash | requeue | delete | server => cases collects

/-! ## Gaps -/

/-- The diagnostic of a gap is recorded. -/
def GapRecorded (spool : Spool) : Prop :=
  ∃ row ∈ spool.diagnostics, row.code = "journal_gap" ∧ 1 ≤ row.occurrences

/-- No step removes the diagnostic of a gap. -/
theorem Deployment.Step.gapRecorded (step : Deployment.Step settings state action after)
    (recorded : GapRecorded state.spool) : GapRecorded after.spool := by
  cases collects : action.source? with
  | none =>
      unfold GapRecorded
      rw [(step.onRows collects).diagnostics]
      exact recorded
  | some source =>
      cases step with
      | persist collecting persisted =>
          unfold GapRecorded
          rw [(AgentSettings.persistRecord_spec persisted).2.2]
          exact recorded
      | recordGap again => exact Spool.diagnostics_recordDiagnostic again
      | collect | refuse | abandon | clearCursor => exact recorded
      | deliver | receive | crash | requeue | delete | server => cases collects

/-- A gap whose cursor is still to be cleared was there before the step, or is
recorded by it. -/
theorem Deployment.Step.gaps_cases (step : Deployment.Step settings state action after)
    {source : String} (open_gap : source ∈ after.gaps) :
    source ∈ state.gaps ∨ ∃ now, action = .recordGap source now ∧ GapRecorded after.spool := by
  cases step with
  | @recordGap other now spool recorded =>
      rcases List.mem_append.mp open_gap with old | new
      · exact .inl old
      · obtain rfl := List.mem_singleton.mp new
        exact .inr ⟨now, rfl, Spool.diagnostics_recordDiagnostic recorded⟩
  | clearCursor recorded => exact .inl (List.mem_of_mem_erase open_gap)
  | crash => cases open_gap
  | collect | persist | refuse | abandon | deliver | receive | requeue | delete | server =>
      exact .inl open_gap

end Steps

/-! ## Runs -/

section Runs

variable {settings : AgentSettings ε} {ruleVersions : List DetectionRuleVersion}
variable {destinations : List Outbox.NotificationDestination}
variable {finish : Deployment unicode} {path : List (Moved unicode ε)}

/-- **A gap whose cursor is still to be cleared was recorded in an earlier step.** -/
theorem gap_recorded (run : DeploymentRun settings ruleVersions destinations path finish)
    {source : String} (open_gap : source ∈ finish.gaps) :
    (∃ taken ∈ path, ∃ now, taken.label = .recordGap source now) ∧ GapRecorded finish.spool := by
  refine run.extend (motive := fun path finish => source ∈ finish.gaps →
    (∃ taken ∈ path, ∃ now, taken.label = .recordGap source now) ∧ GapRecorded finish.spool)
    ?_ ?_ open_gap
  · intro open_gap
    cases open_gap
  · intro earlier state label after _ ih step open_gap
    rcases step.gaps_cases open_gap with old | ⟨now, rfl, recorded⟩
    · obtain ⟨⟨taken, member, now, recording⟩, recorded⟩ := ih old
      exact ⟨⟨taken, List.mem_append_left _ member, now, recording⟩, step.gapRecorded recorded⟩
    · exact ⟨⟨_, List.mem_append_right _ List.mem_cons_self, now, rfl⟩, recorded⟩

/-- **A cursor is lost only after its gap was recorded.** -/
theorem cursor_lost (run : DeploymentRun settings ruleVersions destinations path finish)
    {earlier later : List (Moved unicode ε)} {taken : Moved unicode ε}
    (cut : path = earlier ++ taken :: later) {source : String}
    (there : taken.before.spool.cursor source ≠ none)
    (lost : taken.after.spool.cursor source = none) :
    taken.label = .clearCursor source ∧
      (∃ recording ∈ earlier, ∃ now, recording.label = .recordGap source now) ∧
      GapRecorded taken.before.spool := by
  subst cut
  obtain ⟨reached, step, _⟩ := run.around
  rcases step.cursor_cases source with same | cleared | ⟨record, times, _, moved⟩
  · exact absurd (same.symm.trans lost) there
  · have open_gap : source ∈ taken.before.gaps := by
      rw [cleared] at step
      generalize taken.after = after at step
      cases step with
      | clearCursor recorded => exact recorded
    exact ⟨cleared, gap_recorded reached open_gap⟩
  · rw [moved] at lost
    cases lost

/-- **The rows never exceed the capacity.** -/
theorem within_capacity (run : DeploymentRun settings ruleVersions destinations path finish)
    {taken : Moved unicode ε} (member : taken ∈ path) :
    taken.before.spool.events.length ≤ settings.maxEvents ∧
      taken.after.spool.events.length ≤ settings.maxEvents := by
  have preserved : ∀ (state : Deployment unicode) (action : Action unicode ε)
      (after : Deployment unicode), state.spool.events.length ≤ settings.maxEvents →
      Deployment.Step settings state action after →
        after.spool.events.length ≤ settings.maxEvents := by
    intro state action after within step
    exact step.capacity within
  exact run.invariant_at preserved (Nat.zero_le _) member

/-- **The outcomes of a record that is persisted.** Its cursor is moved, and its
event is queued last or was queued already. -/
theorem persist_outcome {taken : Moved unicode ε}
    (step : Deployment.Step settings taken.before taken.label taken.after) {source : String}
    {record : JournalRecord} {times : PersistTimes}
    (label : taken.label = .persist source record times) :
    ∃ result, settings.Persisted source times record taken.before.spool taken.after.spool result ∧
      taken.after.spool.cursor source = some record.cursor := by
  rw [label] at step
  generalize taken.before = state, taken.after = after at step
  cases step with
  | persist collecting persisted =>
      obtain ⟨outcome, ⟨moved, _⟩, _⟩ := AgentSettings.persistRecord_spec persisted
      exact ⟨_, outcome, moved⟩

/-- **The outcome of a record that is refused**: nothing changes, and the spool
is full or the cursor does not fit. -/
theorem refuse_outcome {taken : Moved unicode ε}
    (step : Deployment.Step settings taken.before taken.label taken.after) {source : String}
    {record : JournalRecord} {times : PersistTimes}
    (label : taken.label = .refuse source record times) {event : NormalizedEventV1}
    (normalized : settings.normalized source times record = .ok (some event)) :
    taken.after.spool = taken.before.spool ∧
      (event.eventId ∉ taken.before.spool.queued.map (·.eventId) ∧
          settings.maxEvents ≤ taken.before.spool.events.length ∨
        Spool.cursorFits record.cursor = false) := by
  rw [label] at step
  generalize taken.before = state, taken.after = after at step
  cases step with
  | refuse collecting refused =>
      rcases AgentSettings.persistRecord_error normalized refused with ⟨_, full⟩ | ⟨_, unfit⟩
      · exact ⟨rfl, .inl full⟩
      · exact ⟨rfl, .inr unfit⟩

/-- **The spool keeps its capacity, and its sources apart.** The rows never
exceed the capacity; a record is persisted with the cursor of its source or
refused with nothing changed; what a source does neither removes a row nor moves
the cursor of another source; what no source does moves no cursor; and a cursor
is lost only after the diagnostic of its gap was recorded. -/
theorem sources_isolated (run : DeploymentRun settings ruleVersions destinations path finish) :
    (∀ taken ∈ path, taken.before.spool.events.length ≤ settings.maxEvents ∧
      taken.after.spool.events.length ≤ settings.maxEvents) ∧
    (∀ taken ∈ path, ∀ source record times, taken.label = .persist source record times →
      ∃ result,
        settings.Persisted source times record taken.before.spool taken.after.spool result ∧
          taken.after.spool.cursor source = some record.cursor) ∧
    (∀ taken ∈ path, ∀ source record times event, taken.label = .refuse source record times →
      settings.normalized source times record = .ok (some event) →
        taken.after.spool = taken.before.spool ∧
          (event.eventId ∉ taken.before.spool.queued.map (·.eventId) ∧
              settings.maxEvents ≤ taken.before.spool.events.length ∨
            Spool.cursorFits record.cursor = false)) ∧
    (∀ taken ∈ path, ∀ source, taken.label.source? = some source →
      taken.before.spool.events <+: taken.after.spool.events ∧
        ∀ other, other ≠ source →
          taken.after.spool.cursor other = taken.before.spool.cursor other) ∧
    (∀ taken ∈ path, taken.label.source? = none →
      ∀ source, taken.after.spool.cursor source = taken.before.spool.cursor source) ∧
    ∀ earlier taken later, path = earlier ++ taken :: later → ∀ source,
      taken.before.spool.cursor source ≠ none → taken.after.spool.cursor source = none →
        taken.label = .clearCursor source ∧
          (∃ recording ∈ earlier, ∃ now, recording.label = .recordGap source now) ∧
          GapRecorded taken.before.spool := by
  refine ⟨fun taken member => within_capacity run member, ?_, ?_, ?_, ?_, ?_⟩
  · intro taken member source record times label
    exact persist_outcome (run.taken_step member) label
  · intro taken member source record times event label normalized
    exact refuse_outcome (run.taken_step member) label normalized
  · intro taken member source collects
    exact (run.taken_step member).collector collects
  · intro taken member other source
    exact ((run.taken_step member).onRows other).same_cursor source
  · intro earlier taken later cut source there lost
    exact cursor_lost run cut there lost

end Runs

/-! ## A run -/

/-- A line that no parser knows. -/
def plainLine : JournalRecord where
  cursor := "7:12:0:34"
  fields := [("MESSAGE", .str "Started.")]

/-- Two sources are read and the event is delivered. Then the cursor of one of them is lost
with a gap. -/
def lostCursor : List (DeploymentCommand .ascii (List JournalRecord)) :=
  let draws : Detection.Draws := ⟨id, fun _ _ => 7, fun _ => 7, fun _ _ => 7, fun _ _ => 0⟩
  [.collect "file_integrity" [changedFile], .collect "syslog_file" [plainLine],
    .persist "file_integrity" ⟨0, 0, 0⟩, .persist "syslog_file" ⟨0, 0, 0⟩, .deliver 0,
    .arrive 0 draws 5 0, .step 0, .step 0, .step 0, .step 0,
    .receive (.response 200 (some (1, 0)) none) 1 0, .recordGap "file_integrity" 2,
    .clearCursor "file_integrity"]

/-- The event is delivered, the cursor of one source is lost after its gap is recorded, and
the cursor of the other source is moved by that source alone. -/
theorem sources_isolated_lost_cursor :
    ∃ (path : List (Moved .ascii (List JournalRecord))) (finish : Deployment .ascii),
      DeploymentRun watchingAgent [] [] path finish ∧
        finish.server.committed.tables.events.length = 1 ∧ finish.spool.events.length = 0 ∧
        finish.spool.cursor "file_integrity" = none ∧
        finish.spool.cursor "syslog_file" = some plainLine.cursor ∧
        (∀ taken ∈ path, taken.after.spool.events.length ≤ 10) ∧
        ∀ taken ∈ path, taken.label.source? ≠ some "syslog_file" →
          taken.after.spool.cursor "syslog_file" = taken.before.spool.cursor "syslog_file" := by
  have scheduled : ((Run.scheduled (Deployment.next watchingAgent)
      (Deployment.installed watchingAgent [] []) lostCursor).any fun (_, finish) =>
        decide (finish.server.committed.tables.events.length = 1 ∧
          finish.spool.events.length = 0 ∧ finish.spool.cursor "file_integrity" = none ∧
          finish.spool.cursor "syslog_file" = some plainLine.cursor)) = true := by decide +kernel
  obtain ⟨⟨path, finish⟩, reached, holds⟩ := (Option.any_eq_true _ _).mp scheduled
  obtain ⟨stored, delivered, lost, kept⟩ := of_decide_eq_true holds
  have run : DeploymentRun watchingAgent [] [] path finish := Deployment.run_of_schedule reached
  obtain ⟨within, _, _, of_source, of_none, _⟩ := sources_isolated run
  refine ⟨path, finish, run, stored, delivered, lost, kept,
    fun taken member => (within taken member).2, fun taken member other => ?_⟩
  cases source : taken.label.source? with
  | none => exact of_none taken member source "syslog_file"
  | some name =>
      rw [source] at other
      exact (of_source taken member name source).2 _ fun same => other (congrArg some same.symm)

end WolandGuard.Agent
