import WolandGuard.Agent.AtLeastOnce
import WolandGuard.Agent.CollectedRecords
import WolandGuard.Agent.EventContract

/-!
# No record stops a collector

A record that a source yields is ignored or becomes a valid event, which is read back
from the text in the spool (`normalized_of_yields`). A record is refused by a full
spool alone, since its cursor fits (`full_of_refused`). So the spool of a running agent
holds readable texts only, and `ready_batch` never fails to read one
(`readable_of_run`, `readyEvents_of_readable`).
-/

set_option autoImplicit false

namespace WolandGuard.Agent

open Foundations Incidents IpBlocks

/-! ## Reading the spool -/

/-- The two ways for `ready_batch` to raise. -/
inductive ReadyError where
  | spool (failure : SpoolError)
  | validationError
  deriving DecidableEq, Repr

section Reading

variable (modelDumpJson : NormalizedEventV1 → String)
variable (validateJson : String → Option EventFields)

/-- `ready_batch` with the texts of the rows, where `modelDumpJson` is `model_dump_json` and
`validateJson` is `NormalizedEventV1.model_validate_json`. -/
def readyEvents (limit : Nat) (now : Rat) (spool : Spool) :
    Except ReadyError (List (EventFields × Nat)) :=
  match spool.readyBatch limit now with
  | .error failure => .error (.spool failure)
  | .ok rows =>
      match rows.mapM fun row => (validateJson (modelDumpJson row.1)).map (·, row.2) with
      | none => .error .validationError
      | some events => .ok events

/-- The text of an event is read, and gives the event. -/
def ReadsBack (event : NormalizedEventV1) : Prop :=
  ∃ fields : EventFields, fields.Valid ∧ fields.normalized = event ∧
    validateJson (modelDumpJson event) = some fields

/-- Every text of the spool is read. -/
def Readable (spool : Spool) : Prop :=
  ∀ event ∈ spool.queued, ReadsBack modelDumpJson validateJson event

end Reading

section Assumptions

variable {ε : Type} {settings : AgentSettings ε} {modelDumpJson : NormalizedEventV1 → String}
variable {validateJson : String → Option EventFields} {accessTime : List Char → Option Int}

/-- The parsers of the source, and what is known of the code around them: `str.lower`,
`datetime.fromtimestamp`, the JSON document that `model_dump_json` writes, and the reading of
such documents. -/
structure Surroundings (settings : AgentSettings ε) (modelDumpJson : NormalizedEventV1 → String)
    (validateJson : String → Option EventFields) : Prop where
  parsers : SourceParsers settings.unicode settings.parsers
  lower : LowerCases settings.unicode
  fromTimestamp (micros : Nat) (instant : Int) :
    settings.parsers.fromTimestamp micros = some instant → IsDatetime instant
  document (event : EventFields) : event.Valid →
    JsonValue.loads (modelDumpJson event.normalized).toList = some (.obj event.members)
  canonical (text : String) (event : EventFields) :
    readEvent text = some event → validateJson text = some event

theorem Surroundings.validateJson_modelDumpJson
    (surroundings : Surroundings settings modelDumpJson validateJson) {event : EventFields}
    (valid : event.Valid) : validateJson (modelDumpJson event.normalized) = some event :=
  surroundings.canonical _ _ (readEvent_of_loads valid (surroundings.document event valid))

/-- Valid events with one text are equal. -/
theorem EventFields.Valid.eq_of_normalized {first second : EventFields} (left : first.Valid)
    (right : second.Valid) (same : first.normalized = second.normalized) : first = second := by
  have members : first.members = second.members :=
    JsonValue.obj.inj (congrArg NormalizedEventV1.payload same)
  have read := readMembers_members left
  rw [members, readMembers_members right] at read
  exact (Option.some.inj read).symm

/-- **A batch of a readable spool is read, and gives the events of its rows.** -/
theorem readyEvents_of_readable {spool : Spool}
    (readable : Readable modelDumpJson validateJson spool) {limit : Nat} {now : Rat}
    {rows : List (NormalizedEventV1 × Nat)}
    (ready : spool.readyBatch limit now = .ok rows) :
    ∃ events, readyEvents modelDumpJson validateJson limit now spool = .ok events ∧
      events.map (fun item => (item.1.normalized, item.2)) = rows ∧
      ∀ item ∈ events, item.1.Valid := by
  have each : ∀ row ∈ rows, ReadsBack modelDumpJson validateJson row.1 := fun row member =>
    readable row.1 (Spool.mem_queued_of_readyBatch ready (List.mem_map_of_mem member))
  have read : ∃ events, (rows.mapM fun row =>
      (validateJson (modelDumpJson row.1)).map (·, row.2)) = some events ∧
      events.map (fun item => (item.1.normalized, item.2)) = rows ∧
      ∀ item ∈ events, item.1.Valid := by
    clear ready
    induction rows with
    | nil => exact ⟨[], rfl, rfl, List.forall_mem_nil _⟩
    | cons row rest ih =>
        obtain ⟨fields, valid, same, text⟩ := each row List.mem_cons_self
        obtain ⟨events, read, rows_same, all_valid⟩ := ih fun other later =>
          each other (List.mem_cons_of_mem _ later)
        refine ⟨(fields, row.2) :: events, ?_, ?_, ?_⟩
        · rw [List.mapM_cons, text, read]
          rfl
        · rw [List.map_cons, rows_same, same]
        · exact List.forall_mem_cons.mpr ⟨valid, all_valid⟩
  obtain ⟨events, read, rows_same, all_valid⟩ := read
  refine ⟨events, ?_, rows_same, all_valid⟩
  rw [readyEvents, ready]
  dsimp only
  rw [read]

/-! ## Records -/

variable {source : String} {times : PersistTimes} {record : JournalRecord} {spool : Spool}

theorem isDatetime_occurredAt
    (surroundings : Surroundings settings modelDumpJson validateJson) {fields : Fields}
    {fallback : Int} (now : IsDatetime fallback) :
    IsDatetime (occurredAt settings.parsers settings.unicode fields fallback) := by
  have dated : ∀ micros, IsDatetime ((settings.parsers.fromTimestamp micros).getD fallback) := by
    intro micros
    cases made : settings.parsers.fromTimestamp micros with
    | none => exact now
    | some instant => exact surroundings.fromTimestamp micros instant made
  rw [occurredAt]
  split
  · split
    · exact dated _
    · exact now
  · split
    · exact dated _
    · exact now
  · exact dated _
  · exact now

/-- **A record that a source yields is ignored, or becomes a valid event.** -/
theorem normalized_of_yields (surroundings : Surroundings settings modelDumpJson validateJson)
    (yields : Yields settings.unicode accessTime (settings.eventSource source) record)
    (now : IsDatetime times.collectedAt) :
    settings.normalized source times record = .ok none ∨
      ∃ fields : EventFields, settings.normalized source times record = .ok (some fields.normalized) ∧
        fields.Valid := by
  obtain ⟨result, parses, reportable⟩ := yields.recognised surroundings.parsers surroundings.lower
  rw [AgentSettings.normalized, normalizeRecord, parses]
  cases result with
  | none => exact .inl rfl
  | some parsed =>
      right
      obtain ⟨passes, address, attributes⟩ := reportable parsed rfl
      have occurred : IsDatetime (occurredAt settings.parsers settings.unicode record.fields
        times.collectedAt) := isDatetime_occurredAt surroundings now
      dsimp only
      rw [if_pos passes]
      generalize occurredAt settings.parsers settings.unicode record.fields times.collectedAt =
        instant at occurred
      have collected : IsDatetime (if times.collectedAt < instant then instant
          else times.collectedAt) ∧
          instant ≤ if times.collectedAt < instant then instant else times.collectedAt := by
        split
        · exact ⟨occurred, le_refl _⟩
        · exact ⟨now, by omega⟩
      generalize (if times.collectedAt < instant then instant else times.collectedAt) = later at *
      obtain ⟨sourceIp, same, scopes⟩ : ∃ sourceIp : Option IpAddress,
          parsed.sourceIp = sourceIp.map IpAddress.text ∧
            ∀ address ∈ sourceIp, address.Scoped := by
        cases written : parsed.sourceIp with
        | none => exact ⟨none, rfl, fun _ absent => absurd absent (Option.not_mem_none _)⟩
        | some text =>
            obtain ⟨found, scopes, text_same⟩ := address text written
            refine ⟨some found, by rw [text_same, Option.map_some], ?_⟩
            rintro other ⟨⟩
            exact scopes
      refine ⟨fieldsOf (settings.eventSource source) record.cursor instant later parsed sourceIp, ?_,
        ⟨occurred, collected.1, scopes, attributes, validates_fieldsOf passes collected.2⟩⟩
      rw [normalized_fieldsOf same]

/-- **Only a full spool refuses a record that a source yields.** -/
theorem full_of_refused (surroundings : Surroundings settings modelDumpJson validateJson)
    (yields : Yields settings.unicode accessTime (settings.eventSource source) record)
    (now : IsDatetime times.collectedAt) {failure : PersistFailure}
    (refused : settings.persistRecord source times record spool = .error failure) :
    failure = .spool .spoolFull ∧ settings.maxEvents ≤ spool.events.length := by
  have fits := yields.cursorFits
  rcases normalized_of_yields surroundings yields now with ignored | ⟨fields, recognised, _⟩
  · rw [AgentSettings.persistRecord, ignored] at refused
    dsimp only at refused
    split at refused
    next advanced =>
      have unfit := (Spool.upsertCursor_error advanced).2
      rw [fits] at unfit
      cases unfit
    · cases refused
  · rcases AgentSettings.persistRecord_error recognised refused with ⟨full, _, length⟩ | ⟨_, unfit⟩
    · exact ⟨full, length⟩
    · rw [fits] at unfit
      cases unfit

end Assumptions

/-! ## Runs -/

section Runs

variable {unicode : UnicodeData} {ε : Type} {settings : AgentSettings ε}
variable {modelDumpJson : NormalizedEventV1 → String}
variable {validateJson : String → Option EventFields} {accessTime : List Char → Option Int}
variable {ruleVersions : List DetectionRuleVersion} {destinations : List Outbox.NotificationDestination}
variable {state after finish : Deployment unicode} {action : Action unicode ε}
variable {path : List (Moved unicode ε)}

/-- The sources of an agent yield what its sources can yield. -/
def CollectsFrom (settings : AgentSettings ε) (accessTime : List Char → Option Int) : Prop :=
  ∀ source cursor found, ∀ record ∈ settings.yields source cursor found,
    Yields settings.unicode accessTime (settings.eventSource source) record

/-- The clock gives the time of collection of a record that is persisted or refused. -/
def Dated : Action unicode ε → Prop
  | .persist _ _ times => IsDatetime times.collectedAt
  | .refuse _ _ times => IsDatetime times.collectedAt
  | _ => True

/-- The records that wait are records of their sources, and every text of the spool is
read. -/
structure Steady (settings : AgentSettings ε) (modelDumpJson : NormalizedEventV1 → String)
    (validateJson : String → Option EventFields) (accessTime : List Char → Option Int)
    (state : Deployment unicode) : Prop where
  waiting : ∀ entry ∈ state.collecting, ∀ record ∈ entry.2,
    Yields settings.unicode accessTime (settings.eventSource entry.1) record
  readable : Readable modelDumpJson validateJson state.spool

/-- **Every step of an agent keeps its spool readable.** -/
theorem Deployment.Step.steady (step : Deployment.Step settings state action after)
    (surroundings : Surroundings settings modelDumpJson validateJson)
    (collects : CollectsFrom settings accessTime)
    (dated : Dated action) (steady : Steady settings modelDumpJson validateJson accessTime state) :
    Steady settings modelDumpJson validateJson accessTime after := by
  obtain ⟨waiting, readable⟩ := steady
  cases step with
  | @collect source found idle =>
      refine ⟨?_, readable⟩
      intro entry member record among
      rcases List.mem_append.mp member with earlier | new
      · exact waiting entry earlier record among
      · obtain rfl := List.mem_singleton.mp new
        exact collects source _ found record among
  | @persist source record times rest before behind result spool collecting persisted =>
      have own : (source, record :: rest) ∈ state.collecting := collecting ▸
        List.mem_append_right before List.mem_cons_self
      have yields := waiting _ own record List.mem_cons_self
      refine ⟨?_, ?_⟩
      · intro entry member other among
        rcases List.mem_append.mp member with earlier | here
        · exact waiting entry (collecting ▸ List.mem_append_left _ earlier) other among
        · rcases List.mem_cons.mp here with rfl | later
          · exact waiting _ own other (List.mem_cons_of_mem _ among)
          · exact waiting entry (collecting ▸
              List.mem_append_right before (List.mem_cons_of_mem _ later)) other among
      · intro event queued
        cases (AgentSettings.persistRecord_spec persisted).1 with
        | skipped _ same =>
            exact readable event (by rwa [Spool.queued, ← same])
        | duplicate _ _ same =>
            exact readable event (by rwa [Spool.queued, ← same])
        | @inserted new recognised _ _ appended =>
            rw [Spool.queued, appended, List.map_append, List.map_singleton] at queued
            rcases List.mem_append.mp queued with earlier | last
            · exact readable event earlier
            · obtain rfl := List.mem_singleton.mp last
              rcases normalized_of_yields surroundings yields dated with ignored | ⟨fields, made, valid⟩
              · rw [recognised] at ignored
                cases ignored
              · rw [recognised] at made
                cases made
                exact ⟨fields, valid, rfl, surroundings.validateJson_modelDumpJson valid⟩
  | @refuse source record times rest before behind failure collecting refused =>
      refine ⟨?_, readable⟩
      intro entry member other among
      refine waiting entry ?_ other among
      rw [collecting]
      rcases List.mem_append.mp member with earlier | later
      · exact List.mem_append_left _ earlier
      · exact List.mem_append_right before (List.mem_cons_of_mem _ later)
  | @abandon source records before behind collecting =>
      refine ⟨?_, readable⟩
      intro entry member other among
      refine waiting entry ?_ other among
      rw [collecting]
      rcases List.mem_append.mp member with earlier | later
      · exact List.mem_append_left _ earlier
      · exact List.mem_append_right before (List.mem_cons_of_mem _ later)
  | recordGap recorded =>
      exact ⟨waiting, fun event queued => readable event (by
        rwa [Spool.queued_recordDiagnostic recorded] at queued)⟩
  | clearCursor recorded => exact ⟨waiting, readable⟩
  | deliver idle ready nonempty => exact ⟨waiting, readable⟩
  | @receive number batch reply now random left done sending authentic sent =>
      refine ⟨waiting, fun event queued => readable event ?_⟩
      have spec := afterSend_spec settings.delivery now random batch
        (transportResult batch.length reply) ⟨state.spool, state.currentBatchSize⟩
      rw [sent] at spec
      rcases spec with ⟨_, acknowledged⟩ | same
      · rw [acknowledged] at queued
        exact (List.mem_filter.mp queued).1
      · rwa [same] at queued
  | crash => exact ⟨List.forall_mem_nil _, readable⟩
  | requeue eventId =>
      exact ⟨waiting, fun event queued => readable event (by simpa using queued)⟩
  | delete eventId =>
      refine ⟨waiting, fun event queued => readable event ?_⟩
      rw [Spool.queued_delete] at queued
      exact (List.mem_filter.mp queued).1
  | server admissible taken => exact ⟨waiting, readable⟩

/-- **The spool of a running agent is readable at any time.** -/
theorem steady_of_run (run : DeploymentRun settings ruleVersions destinations path finish)
    (surroundings : Surroundings settings modelDumpJson validateJson)
    (collects : CollectsFrom settings accessTime)
    (dated : ∀ taken ∈ path, Dated taken.label) :
    Steady settings modelDumpJson validateJson accessTime finish := by
  refine run.extend
    (motive := fun path state => (∀ taken ∈ path, Dated taken.label) →
      Steady settings modelDumpJson validateJson accessTime state) ?_ ?_ dated
  · intro _
    exact ⟨List.forall_mem_nil _, List.forall_mem_nil _⟩
  · intro earlier state label after _ steady step dated
    exact step.steady surroundings collects
      (dated ⟨state, label, after⟩ (List.mem_append_right _ List.mem_cons_self))
      (steady fun taken member => dated taken (List.mem_append_left _ member))

end Runs

/-- **No record stops a collector.** A record that a source yields is ignored, or becomes an
event in which every validator holds and whose text is read back as the event; only a
full spool refuses it. In a running agent every batch of the spool is read, and each
event in it is read as itself. -/
theorem no_record_stops_collector {unicode : UnicodeData} {ε : Type} {settings : AgentSettings ε}
    {modelDumpJson : NormalizedEventV1 → String}
    {validateJson : String → Option EventFields} {accessTime : List Char → Option Int}
    (surroundings : Surroundings settings modelDumpJson validateJson) :
    (∀ source record times,
      Yields settings.unicode accessTime (settings.eventSource source) record →
      IsDatetime times.collectedAt →
        (settings.normalized source times record = .ok none ∨ ∃ fields : EventFields,
          settings.normalized source times record = .ok (some fields.normalized) ∧ fields.Valid ∧
            validateJson (modelDumpJson fields.normalized) = some fields) ∧
        ∀ spool failure, settings.persistRecord source times record spool = .error failure →
          failure = .spool .spoolFull ∧ settings.maxEvents ≤ spool.events.length) ∧
    ∀ (ruleVersions : List DetectionRuleVersion)
      (destinations : List Outbox.NotificationDestination) (path : List (Moved unicode ε))
      (finish : Deployment unicode), CollectsFrom settings accessTime →
      DeploymentRun settings ruleVersions destinations path finish →
      (∀ taken ∈ path, Dated taken.label) →
      ∀ limit now rows, finish.spool.readyBatch limit now = .ok rows →
        ∃ events, readyEvents modelDumpJson validateJson limit now finish.spool = .ok events ∧
          events.map (fun item => (item.1.normalized, item.2)) = rows ∧
          ∀ fields attempts, fields.Valid → (fields.normalized, attempts) ∈ rows →
            (fields, attempts) ∈ events := by
  refine ⟨fun source record times yields now => ⟨?_, ?_⟩, ?_⟩
  · rcases normalized_of_yields surroundings yields now with ignored | ⟨fields, made, valid⟩
    · exact .inl ignored
    · exact .inr ⟨fields, made, valid, surroundings.validateJson_modelDumpJson valid⟩
  · intro spool failure refused
    exact full_of_refused surroundings yields now refused
  · intro ruleVersions destinations path finish collects run dated limit now rows ready
    have steady := steady_of_run run surroundings collects dated
    obtain ⟨events, read, same, valid⟩ := readyEvents_of_readable steady.readable ready
    refine ⟨events, read, same, ?_⟩
    intro fields attempts own member
    rw [← same] at member
    obtain ⟨⟨other, count⟩, among, pair⟩ := List.mem_map.mp member
    obtain ⟨text_same, rfl⟩ := Prod.mk.inj pair
    rwa [own.eq_of_normalized (valid _ among) text_same.symm]

/-! ## A failed login -/

/-- An entry as `journalctl` prints it. -/
def rootLoginEntry : Fields :=
  [("__CURSOR", .str "s=1;i=2"), ("__REALTIME_TIMESTAMP", .str "1722772496000000"),
    ("MESSAGE", .str "Failed password for root from 203.0.113.7 port 4242 ssh2"),
    ("SYSLOG_IDENTIFIER", .str "sshd")]

/-- An agent that reads this entry from the journal. -/
def journalAgent : AgentSettings Unit where
  serverId := 1
  maxEvents := 10
  delivery := ⟨100, 1, 60, 60⟩
  parsers :=
    { nginxRequest := parseNginxRequest
      message := parseMessage .ascii (otherMessages .ascii)
      fromTimestamp := fun micros => if IsDatetime micros then some micros else none }
  unicode := .ascii
  eventSource _ := .journald
  yields _ _ _ := [⟨"s=1;i=2", rootLoginEntry⟩]

theorem lowerCases_ascii : LowerCases .ascii where
  length text := by
    have same : (UnicodeTables.ascii.lower text).length = text.length := String.length_map
    omega
  hasNul text clean := by
    have lowered : (UnicodeTables.ascii.lower text).toList = text.toList.map Char.toLower :=
      String.toList_map
    rw [hasNul, List.contains_eq_mem, decide_eq_false_iff_not] at clean ⊢
    rw [lowered, List.mem_map]
    rintro ⟨c, member, nul⟩
    by_cases upper : 'A'.val ≤ c.val ∧ c.val ≤ 'Z'.val
    · -- a letter of lower case is none
      have low : 65 ≤ c.toNat := upper.1
      have high : c.toNat ≤ 90 := upper.2
      have code : c.toLower.toNat = (c.val + 32).toNat := congrArg Char.toNat (dif_pos upper)
      have small : c.toNat + 32 < 2 ^ 32 := by omega
      rw [nul, UInt32.toNat_add] at code
      cases code.trans (Nat.mod_eq_of_lt small)
    · have same : c.toLower = c := dif_neg upper
      exact clean (same.symm.trans nul ▸ member)

/-- `model_dump_json` of events with ASCII texts. -/
def compactJson (event : NormalizedEventV1) : String := event.payload.compactValue

theorem surroundings_journalAgent : Surroundings journalAgent compactJson readEvent where
  parsers := ⟨rfl, rfl⟩
  lower := lowerCases_ascii
  fromTimestamp micros instant made := by
    rw [journalAgent] at made
    dsimp only at made
    split at made
    next dated =>
      cases made
      exact dated
    · cases made
  document _ valid := JsonValue.loads_compactValue (wellFormed_members valid)
  canonical _ _ read := read

theorem yields_rootLogin (accessTime : List Char → Option Int) :
    Yields .ascii accessTime .journald ⟨"s=1;i=2", rootLoginEntry⟩ := by
  have wellFormed : (JsonValue.obj rootLoginEntry).WellFormed :=
    ⟨by decide, trivial, trivial, trivial, trivial, trivial⟩
  have parsed : parseJournalJsonLine (fun text => JsonValue.loads text.toList)
      (JsonValue.obj rootLoginEntry).compactValue = some ⟨"s=1;i=2", rootLoginEntry⟩ := by
    rw [parseJournalJsonLine, JsonValue.loads_compactValue wellFormed]
    exact if_pos (by decide)
  refine .journald parsed ?_
  exact List.forall_mem_cons.mpr ⟨by decide, by simp [journaldOutputFields, entryFields]⟩

/-- A failed login of root is collected, stored and read back. -/
theorem no_record_stops_collector_root :
    ∃ (path : List (Moved .ascii Unit)) (finish : Deployment .ascii) (fields : EventFields),
      DeploymentRun journalAgent [] [] path finish ∧
        journalAgent.normalized "journald" ⟨0, 0, 0⟩ ⟨"s=1;i=2", rootLoginEntry⟩ =
          .ok (some fields.normalized) ∧
        fields.Valid ∧ readyEvents compactJson readEvent 1 0 finish.spool = .ok [(fields, 0)] := by
  have spec := @no_record_stops_collector .ascii Unit journalAgent compactJson readEvent
    (fun _ => none)
    surroundings_journalAgent
  have yields := yields_rootLogin fun _ => none
  have dated : IsDatetime 0 := by decide
  have recorded : ((journalAgent.normalized "journald" ⟨0, 0, 0⟩
      ⟨"s=1;i=2", rootLoginEntry⟩).toOption.join).isSome = true := by decide +kernel
  obtain ignored | ⟨fields, recognised, valid, _⟩ :=
    (spec.1 "journald" ⟨"s=1;i=2", rootLoginEntry⟩ ⟨0, 0, 0⟩ yields dated).1
  · rw [ignored] at recorded
    cases recorded
  let spool : Spool :=
    ⟨[Spool.newRow 0 fields.normalized], [⟨"journald", "s=1;i=2", 0⟩], []⟩
  have persisted : journalAgent.persistRecord "journald" ⟨0, 0, 0⟩ ⟨"s=1;i=2", rootLoginEntry⟩
      .initialized = .ok (some .inserted, spool) := by
    rw [AgentSettings.persistRecord, recognised]
    rfl
  let installed : Deployment .ascii := .installed journalAgent [] []
  have run : DeploymentRun journalAgent [] []
      [⟨installed, .collect "journald" (),
          { installed with
            collecting := [("journald", [⟨"s=1;i=2", rootLoginEntry⟩])] }⟩,
        ⟨{ installed with collecting := [("journald", [⟨"s=1;i=2", rootLoginEntry⟩])] },
          .persist "journald" ⟨"s=1;i=2", rootLoginEntry⟩ ⟨0, 0, 0⟩,
          { installed with collecting := [("journald", [])], spool := spool }⟩]
      { installed with collecting := [("journald", [])], spool := spool } :=
    .cons (.collect (by decide)) (.cons (@Deployment.Step.persist .ascii Unit journalAgent _ _ _ _ _ []
      [] _ _ rfl persisted) (.nil _))
  have collects : CollectsFrom journalAgent fun _ => none := by
    intro source cursor found record member
    rw [List.mem_singleton.mp member]
    exact yields
  have ready : spool.readyBatch 1 0 = .ok [(fields.normalized, 0)] := rfl
  obtain ⟨events, read, same, own⟩ := spec.2 [] [] _ _ collects run (by
    intro taken member
    rcases List.mem_cons.mp member with rfl | member
    · trivial
    · rw [List.mem_singleton.mp member]
      exact dated) 1 0 _ ready
  refine ⟨_, _, fields, run, recognised, valid, ?_⟩
  have member := own fields 0 valid List.mem_cons_self
  have length := congrArg List.length same
  rw [List.length_map, List.length_singleton] at length
  obtain ⟨event, rfl⟩ := List.length_eq_one_iff.mp length
  rw [read, List.mem_singleton.mp member]

end WolandGuard.Agent
