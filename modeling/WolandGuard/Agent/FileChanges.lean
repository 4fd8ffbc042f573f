import WolandGuard.Agent.CollectedRecords
import Mathlib.Data.String.Basic

/-!
# Identities of file changes

The id of the event of a change comes from the cursor of its record, and the cursor has
no more in it than the states that are recorded then. Two changes have different ids
exactly if different states are recorded at them (`change_ids_differ_iff`): a file that
returns to an earlier state and changes again is reported under the id of the first
change (`returned_file_repeats_id`), and the spool and the control plane take the second
one for a copy.
-/

set_option autoImplicit false

namespace WolandGuard.Agent

open Foundations Incidents

/-! ## What is recorded -/

/-- The states that are recorded of the watched files, by the keys of their paths. -/
abbrev RecordedStates := String → Option String

/-- The files up to the one of a path. -/
def upTo (path : String) : List Watched → List Watched
  | [] => []
  | file :: rest => if file.path = path then [file] else file :: upTo path rest

/-- What is recorded once a record of a scan is committed: the states observed of the files
up to the one that the record names, and the earlier states of the other ones. A record
that names no file stands behind all of them. -/
def recordedAt (files : List Watched) (earlier : RecordedStates) (record : JournalRecord) :
    RecordedStates := fun name =>
  let compared := match changedPath record with
    | some path => upTo path files
    | none => files
  ((rowOf Watched.name compared name).map (·.state.observable)).or
    (if name ∈ files.map Watched.name then earlier name else none)

/-! ## Scans and commits -/

/-- A change that was committed, with its event and what was recorded then. -/
structure ReportedChange where
  record : JournalRecord
  event : NormalizedEventV1
  recorded : RecordedStates

/-- The spool, the files of the scan under way, what was recorded when it began, the records
that it still yields, what is recorded now, and the changes reported so far. -/
structure WatchState where
  spool : Spool
  files : List Watched
  earlier : RecordedStates
  pending : List JournalRecord
  recorded : RecordedStates
  changes : List ReportedChange

inductive WatchAction where
  /-- A scan begins at the cursor on disk. What is left of the one before is dropped, as by a
  stop or a crash. -/
  | scan (answers : String → FileAnswers) (paths : List String)
  /-- The next record is committed. -/
  | persist (times : PersistTimes)
  /-- Other sources and deliveries change the spool. -/
  | meanwhile (after : Spool)

section Steps

variable {ε : Type} (settings : AgentSettings ε)

/-- The change that a committed record reports. -/
def reported (times : PersistTimes) (record : JournalRecord) (recorded : RecordedStates) :
    List ReportedChange :=
  match changedPath record, settings.normalized "file_integrity" times record with
  | some _, .ok (some event) => [⟨record, event, recorded⟩]
  | _, _ => []

def WatchState.opened (spool : Spool) : WatchState :=
  ⟨spool, [], viewOf settings spool, [], viewOf settings spool, []⟩

inductive WatchState.Step : WatchState → WatchAction → WatchState → Prop where
  | scan {state : WatchState} (answers : String → FileAnswers) (paths : List String) :
      paths ≠ [] → paths.length ≤ maxWatchedPaths →
      Step state (.scan answers paths)
        { state with
          files := current answers paths
          earlier := state.recorded
          pending := scanOf settings never answers paths state.spool }
  | persist {state : WatchState} {times : PersistTimes} {record : JournalRecord}
      {rest : List JournalRecord} {result : Option EnqueueResult} {after : Spool} :
      state.pending = record :: rest →
      settings.persistRecord "file_integrity" times record state.spool = .ok (result, after) →
      Step state (.persist times)
        { state with
          spool := after
          pending := rest
          recorded := recordedAt state.files state.earlier record
          changes := state.changes ++
            reported settings times record (recordedAt state.files state.earlier record) }
  | meanwhile {state : WatchState} {after : Spool} :
      after.cursor "file_integrity" = state.spool.cursor "file_integrity" →
      Step state (.meanwhile after) { state with spool := after }

end Steps

/-! ## The text of a baseline -/

/-- **Baselines that say the same are serialised in one way.** -/
theorem serializeBaseline_congr {left right : Baseline} (perm : left.Perm right) :
    serializeBaseline left = serializeBaseline right := by
  have total : ∀ x y, entryOrder x y = true ∨ entryOrder y x = true := by
    intro x y
    simp only [entryOrder, Bool.or_eq_true, Bool.and_eq_true, decide_eq_true_eq]
    rcases lt_trichotomy x.1 y.1 with less | same | greater
    · exact .inl (.inl less)
    · rcases le_total x.2 y.2 with le | ge
      · exact .inl (.inr ⟨same, le⟩)
      · exact .inr (.inr ⟨same.symm, ge⟩)
    · exact .inr (.inl greater)
  have transitive : ∀ x y z, entryOrder x y = true → entryOrder y z = true →
      entryOrder x z = true := by
    intro x y z
    simp only [entryOrder, Bool.or_eq_true, Bool.and_eq_true, decide_eq_true_eq]
    rintro (less | ⟨same, le⟩) (less' | ⟨same', le'⟩)
    · exact .inl (less.trans less')
    · exact .inl (same' ▸ less)
    · exact .inl (same ▸ less')
    · exact .inr ⟨same.trans same', le.trans le'⟩
  have antisymmetric : ∀ x y, entryOrder x y = true → entryOrder y x = true → x = y := by
    intro x y
    simp only [entryOrder, Bool.or_eq_true, Bool.and_eq_true, decide_eq_true_eq]
    rintro (less | ⟨same, le⟩) (less' | ⟨same', le'⟩)
    · exact absurd less' less.asymm
    · exact absurd less (same' ▸ lt_irrefl _)
    · exact absurd less' (same ▸ lt_irrefl _)
    · exact Prod.ext same (le_antisymm le le')
  have sorted : left.insertionSort (entryOrder · ·) = right.insertionSort (entryOrder · ·) := by
    refine List.Perm.eq_of_pairwise (fun x y _ _ => antisymmetric x y)
      (insertionSort_pairwise total transitive left) (insertionSort_pairwise total transitive right) ?_
    exact (List.perm_insertionSort _ left).trans (perm.trans (List.perm_insertionSort _ right).symm)
  rw [serializeBaseline, serializeBaseline, sorted]

/-- The text of a baseline determines what it says, and the other way round. -/
theorem serializeBaseline_eq_iff {unicode : UnicodeTables} {left right : Baseline}
    (left_wellFormed : WellFormed unicode left) (right_wellFormed : WellFormed unicode right) :
    serializeBaseline left = serializeBaseline right ↔
      ∀ name, valueOf left name = valueOf right name := by
  constructor
  · intro same name
    rw [← valueOf_parseBaseline left_wellFormed, same, valueOf_parseBaseline right_wellFormed]
  · intro same
    exact serializeBaseline_congr
      (perm_of_valueOf left_wellFormed.unique right_wellFormed.unique same)

/-! ## The cursor says what is recorded -/

section Views

variable {unicode : UnicodeTables} {answers : String → FileAnswers} {paths : List String}
  {cursor : Option String} {record : JournalRecord} {done more : List JournalRecord}

theorem upTo_eq {earlier after : List Watched} {file : Watched}
    (apart : ∀ other ∈ earlier, other.path ≠ file.path) :
    upTo file.path (earlier ++ file :: after) = earlier ++ [file] := by
  induction earlier with
  | nil => rw [List.nil_append, upTo, if_pos rfl, List.nil_append]
  | cons first rest ih =>
      rw [List.cons_append, upTo, if_neg (apart first List.mem_cons_self),
        ih fun other member => apart other (List.mem_cons_of_mem _ member), List.cons_append]

/-- The files before a record are those that its name leads to. -/
theorem compared_eq {before after : List Watched}
    (split : current answers paths = before ++ after) (stands : StandsBehind record before after) :
    (match changedPath record with
      | some path => upTo path (current answers paths)
      | none => current answers paths) = before := by
  obtain ⟨unique, known, _⟩ := current_spec answers paths
  rcases stands with ⟨unnamed, nothing⟩ | ⟨earlier, file, rfl, named⟩
  · rw [unnamed, split, nothing, List.append_nil]
  · rw [named, split, List.append_assoc, List.singleton_append]
    refine upTo_eq fun other member same => ?_
    rw [split, List.append_assoc, List.singleton_append] at unique known
    obtain ⟨_, _, other_eq⟩ := known other (List.mem_append_left _ member)
    obtain ⟨_, _, file_eq⟩ := known file (List.mem_append_right _ List.mem_cons_self)
    have same_name : other.name = file.name := by
      rw [other_eq, file_eq] at same ⊢
      exact congrArg key same
    rw [List.map_append, List.nodup_append] at unique
    exact unique.2.2 _ (List.mem_map_of_mem member) _ (List.mem_map_of_mem List.mem_cons_self)
      same_name

/-- Observed states are well formed in a baseline. -/
theorem wellFormed_absorb_current {committed : Baseline} {files : List Watched}
    (wellFormed : WellFormed unicode committed) (subset : files ⊆ current answers paths) :
    WellFormed unicode (absorb committed files) := by
  obtain ⟨_, known, _⟩ := current_spec answers paths
  refine wellFormed_absorb wellFormed ?_ ?_
  · intro file member
    obtain ⟨path, _, rfl⟩ := known file (subset member)
    exact (isDigest_key path).isAlnum (by decide)
  · intro file member
    obtain ⟨path, _, rfl⟩ := known file (subset member)
    exact isDigest_readState _

/-- **The cursor of a record says what is recorded once it is committed.** -/
theorem view_of_scan
    (records : scan unicode never answers paths cursor = done ++ record :: more) (name : String) :
    valueOf (parseBaseline unicode (some record.cursor)) name =
      recordedAt (current answers paths) (valueOf (parseBaseline unicode cursor)) record name := by
  obtain ⟨unique, known, _⟩ := current_spec answers paths
  have nothing : WellFormed unicode [] := ⟨.nil, List.forall_mem_nil _, List.forall_mem_nil _⟩
  rw [scan] at records
  split at records
  next empty =>
    -- the first scan: one record, with every state
    obtain ⟨rfl, rfl, rfl⟩ := record_of_first unique records
    have unnamed : changedPath (baselineRecord (absorb [] (current answers paths))) = none := rfl
    rw [recordedAt, unnamed, baselineRecord,
      valueOf_parseBaseline (wellFormed_absorb_current nothing (List.Subset.refl _)),
      valueOf_absorb unique, List.isEmpty_iff.mp empty]
    exact congrArg _ (ite_self none).symm
  · obtain ⟨before, after, cut, stands⟩ := compareFrom_cut records
    have subset : before ⊆ current answers paths := by
      rw [cut.split]
      exact List.subset_append_left _ _
    have before_unique : (before.map Watched.name).Nodup := by
      rw [cut.split, List.map_append] at unique
      exact unique.of_append_left
    have earlier_wellFormed := wellFormed_parseBaseline unicode cursor
    have committed_wellFormed := earlier_wellFormed.of_subset
      (earlier_wellFormed.unique.sublist ((List.filter_sublist (p := fun entry =>
        (current answers paths).any (·.name = entry.1))).map Prod.fst))
      List.filter_sublist.subset
    have restricted := valueOf_filter (parseBaseline unicode cursor)
      (fun entry_name => (current answers paths).any (·.name = entry_name)) name
    have watched : (current answers paths).any (·.name = name) = true ↔
        name ∈ (current answers paths).map Watched.name := by
      rw [List.any_eq_true, List.mem_map]
      exact exists_congr fun file => and_congr_right fun _ => decide_eq_true_iff
    rw [cut.cursor, recordedAt, compared_eq cut.split stands,
      valueOf_parseBaseline (wellFormed_absorb_current committed_wellFormed subset),
      valueOf_absorb before_unique, restricted]
    exact congrArg _ (if_congr watched rfl rfl)

/-- The cursor of a record is the text of a baseline. -/
theorem exists_baseline_of_scan (watched : paths ≠ [])
    (member : record ∈ scan unicode never answers paths cursor) :
    ∃ entries, WellFormed unicode entries ∧ record.cursor = serializeBaseline entries := by
  cases scanRecord_of_scan watched member with
  | baseline ofPaths _ => exact ⟨_, ofPaths.wellFormed, rfl⟩
  | change ofPaths _ => exact ⟨_, ofPaths.wellFormed, rfl⟩

end Views

/-! ## Runs -/

/-- The id of a reported change comes from the text of what was recorded. -/
structure Identified (unicode : UnicodeTables) (change : ReportedChange) : Prop where
  event_id : change.event.eventId = eventIdOf change.record.cursor
  written : ∃ entries, WellFormed unicode entries ∧
    change.record.cursor = serializeBaseline entries ∧
    ∀ name, valueOf entries name = change.recorded name

section Runs

variable {ε : Type} {settings : AgentSettings ε} {state later : WatchState} {action : WatchAction}

/-- **Two changes have the same cursor exactly if the same states are recorded at both.** -/
theorem Identified.cursor_eq_iff {first second : ReportedChange}
    (identified : Identified settings.unicode first)
    (identified' : Identified settings.unicode second) :
    first.record.cursor = second.record.cursor ↔
      ∀ name, first.recorded name = second.recorded name := by
  obtain ⟨_, entries, wellFormed, cursor, recorded⟩ := identified
  obtain ⟨_, entries', wellFormed', cursor', recorded'⟩ := identified'
  rw [cursor, cursor', serializeBaseline_eq_iff wellFormed wellFormed']
  exact forall_congr' fun name => by rw [recorded, recorded']

/-- What is recorded is what the cursor on disk says, and the scan under way began at a
cursor that says what was recorded then. -/
structure WatchState.Sound (settings : AgentSettings ε) (state : WatchState) : Prop where
  recorded : ∀ name, viewOf settings state.spool name = state.recorded name
  pending : ∀ record rest, state.pending = record :: rest →
    ∃ answers paths cursor done, paths ≠ [] ∧ state.files = current answers paths ∧
      valueOf (parseBaseline settings.unicode cursor) = state.earlier ∧
      scan settings.unicode never answers paths cursor = done ++ state.pending
  changes : ∀ change ∈ state.changes, Identified settings.unicode change

theorem mem_reported {times : PersistTimes} {record : JournalRecord} {recorded : RecordedStates}
    {change : ReportedChange} (member : change ∈ reported settings times record recorded) :
    change.record = record ∧ change.recorded = recorded ∧
      change.event.eventId = eventIdOf record.cursor := by
  unfold reported at member
  split at member
  next event normalized =>
    rw [List.mem_singleton.mp member]
    exact ⟨rfl, rfl, eventId_of_normalizeRecord normalized⟩
  · cases member

theorem WatchState.Step.sound (step : WatchState.Step settings state action later)
    (sound : state.Sound settings) : later.Sound settings := by
  cases step with
  | scan answers paths watched _ =>
      refine ⟨sound.recorded, ?_, sound.changes⟩
      intro record rest _
      exact ⟨answers, paths, state.spool.cursor "file_integrity", [], watched, rfl,
        funext sound.recorded, rfl⟩
  | @persist times record rest result after pending persisted =>
      obtain ⟨answers, paths, cursor, done, watched, files, earlier, records⟩ :=
        sound.pending record rest pending
      rw [pending] at records
      have moved := (AgentSettings.persistRecord_spec persisted).2.1.1
      have view := view_of_scan records
      rw [← files, earlier] at view
      obtain ⟨entries, wellFormed, written⟩ := exists_baseline_of_scan watched
        (records ▸ List.mem_append_right done List.mem_cons_self)
      refine ⟨?_, ?_, ?_⟩
      · intro name
        rw [viewOf, moved]
        exact view name
      · intro next rest' pending'
        refine ⟨answers, paths, cursor, done ++ [record], watched, files, earlier, ?_⟩
        rw [records, List.append_assoc, List.singleton_append]
      · intro change member
        rcases List.mem_append.mp member with before | now
        · exact sound.changes change before
        · obtain ⟨same_record, same_recorded, event_id⟩ := mem_reported now
          refine ⟨same_record ▸ event_id, entries, wellFormed, same_record ▸ written, ?_⟩
          intro name
          rw [same_recorded, ← view, written, valueOf_parseBaseline wellFormed]
  | meanwhile kept =>
      refine ⟨?_, sound.pending, sound.changes⟩
      intro name
      rw [viewOf, kept]
      exact sound.recorded name

theorem identified_of_run {spool : Spool} {path : List (Taken WatchState WatchAction)}
    (run : Run (WatchState.Step settings) (.opened settings spool) path state) :
    state.Sound settings := by
  refine run.extend (motive := fun _ state => state.Sound settings) ?_ ?_
  · exact ⟨fun _ => rfl, fun _ _ nothing => absurd nothing.symm (List.cons_ne_nil _ _),
      List.forall_mem_nil _⟩
  · exact fun _ _ _ _ _ sound step => step.sound sound

/-- **The changes of a run have different ids exactly if different states are recorded at
any two of them**, where the ids of different cursors do not collide. -/
theorem change_ids_differ_iff {spool : Spool} {path : List (Taken WatchState WatchAction)}
    (run : Run (WatchState.Step settings) (.opened settings spool) path state)
    (collision_free : ∀ first ∈ state.changes, ∀ second ∈ state.changes,
      eventIdOf first.record.cursor = eventIdOf second.record.cursor →
        first.record.cursor = second.record.cursor) :
    state.changes.Pairwise (fun first second => first.event.eventId ≠ second.event.eventId) ↔
      state.changes.Pairwise fun first second =>
        ∃ name, first.recorded name ≠ second.recorded name := by
  have identified := (identified_of_run run).changes
  refine List.Pairwise.iff_of_mem fun {first second} member member' => ?_
  have cursors := (identified first member).cursor_eq_iff (identified second member')
  rw [(identified first member).event_id, (identified second member').event_id, ne_eq,
    ← not_forall, ← cursors]
  constructor
  · exact fun different same => different (congrArg eventIdOf same)
  · exact fun different same => different (collision_free first member second member' same)

/-! ## A file that returns to an earlier state -/

/-- A record that fits is committed if the spool has room. -/
theorem exists_persisted {times : PersistTimes} {record : JournalRecord} {spool : Spool}
    {outcome : Option NormalizedEventV1}
    (normalized : settings.normalized "file_integrity" times record = .ok outcome)
    (room : spool.events.length < settings.maxEvents)
    (fits : Spool.cursorFits record.cursor = true) :
    ∃ result after, settings.persistRecord "file_integrity" times record spool =
      .ok (result, after) := by
  cases persisted : settings.persistRecord "file_integrity" times record spool with
  | ok done => exact ⟨done.1, done.2, rfl⟩
  | error failure =>
      cases outcome with
      | none =>
          rw [AgentSettings.persistRecord, normalized, Spool.advanceCursor, Spool.upsertCursor,
            if_pos fits] at persisted
          cases persisted
      | some event =>
          rcases AgentSettings.persistRecord_error normalized persisted with ⟨_, _, full⟩ | ⟨_, unfit⟩
          · exact absurd room (Nat.not_lt.mpr full)
          · rw [fits] at unfit
            cases unfit

/-- A scan with one record, committed while the spool is empty. -/
theorem exists_committed {answers : String → FileAnswers} {path : String} {record : JournalRecord}
    {outcome : Option NormalizedEventV1} (times : PersistTimes) (state : WatchState)
    (records : scan settings.unicode never answers [path] (state.spool.cursor "file_integrity") =
      [record])
    (normalized : settings.normalized "file_integrity" times record = .ok outcome)
    (room : 0 < settings.maxEvents) (fits : Spool.cursorFits record.cursor = true) :
    ∃ steps later recorded, Run (WatchState.Step settings) state steps later ∧
      later.spool.cursor "file_integrity" = some record.cursor ∧
      later.changes = state.changes ++ reported settings times record recorded := by
  let emptied : Spool := { state.spool with events := [] }
  obtain ⟨result, after, persisted⟩ := @exists_persisted _ _ _ _ emptied _ normalized room fits
  have drained : WatchState.Step settings state (.meanwhile emptied)
      { state with spool := emptied } := .meanwhile rfl
  have scanned : WatchState.Step settings { state with spool := emptied } (.scan answers [path])
      { state with
        spool := emptied
        files := current answers [path]
        earlier := state.recorded
        pending := scanOf settings never answers [path] emptied } :=
    .scan answers [path] (List.cons_ne_nil _ _) (show 1 ≤ maxWatchedPaths by decide)
  have committed := @WatchState.Step.persist _ settings { state with
      spool := emptied
      files := current answers [path]
      earlier := state.recorded
      pending := scanOf settings never answers [path] emptied } _ _ [] _ _ records persisted
  exact ⟨_, _, _, .cons drained (.cons scanned (.cons committed (.nil _))),
    (AgentSettings.persistRecord_spec persisted).2.1.1, rfl⟩

/-- The first scan of one file. -/
theorem scan_first (unicode : UnicodeTables) (answers : String → FileAnswers) (path : String) :
    scan unicode never answers [path] none =
      [baselineRecord [(key path, (readState (answers path)).observable)]] := rfl

/-- A scan of one file that is in another state than the recorded one. -/
theorem scan_changed {unicode : UnicodeTables} {answers : String → FileAnswers} {path previous : String}
    (wellFormed : WellFormed unicode [(key path, previous)])
    (different : previous ≠ (readState (answers path)).observable) :
    scan unicode never answers [path] (some (serializeBaseline [(key path, previous)])) =
      [changeRecord [(key path, (readState (answers path)).observable)] previous
        (watchedFile answers path)] := by
  have parsed : parseBaseline unicode (some (serializeBaseline [(key path, previous)])) =
      [(key path, previous)] := List.perm_singleton.mp (parseBaseline_serializeBaseline wellFormed)
  rw [scan, parsed]
  simp [current, putRow, updateWhere, compareFrom, never, valueOf, rowOf, different, sameNames,
    watchedFile]

/-- The states of one file as a baseline. -/
theorem wellFormed_single (unicode : UnicodeTables) (answers : String → FileAnswers) (path : String) :
    WellFormed unicode [(key path, (readState (answers path)).observable)] where
  unique := List.nodup_singleton _
  names := List.forall_mem_singleton.mpr ((isDigest_key path).isAlnum (by decide))
  values := List.forall_mem_singleton.mpr
    ⟨(isDigest_readState _).isAlnum (by decide), (isDigest_readState _).1⟩

end Runs

/-- The file is absent. -/
def absentFile : String → FileAnswers := fun _ => ⟨none, none⟩

/-- The file is there and cannot be read. -/
def presentFile : String → FileAnswers := fun _ => ⟨none, some ⟨0o100640, 1024, 0, 0, 42⟩⟩

/-- The record of a change of the file. -/
def shadowRecord (before now : String → FileAnswers) : JournalRecord :=
  changeRecord [(key "/etc/shadow", (readState (now "/etc/shadow")).observable)]
    (readState (before "/etc/shadow")).observable (watchedFile now "/etc/shadow")

section Shadow

variable {before now : String → FileAnswers} {state : WatchState}

/-- A record of one file fits into the spool. -/
theorem cursorFits_shadowRecord :
    Spool.cursorFits (shadowRecord before now).cursor = true := by
  have ofPaths : OfPaths .ascii ["/etc/shadow"]
      [(key "/etc/shadow", (readState (now "/etc/shadow")).observable)] :=
    ⟨wellFormed_single .ascii now "/etc/shadow",
      List.forall_mem_singleton.mpr List.mem_cons_self⟩
  exact ofPaths.cursorFits (List.cons_ne_nil _ _) (by decide)

/-- The first scan is committed, and reports no change. -/
theorem shadow_first (state : WatchState) (fresh : state.spool.cursor "file_integrity" = none) :
    ∃ steps later, Run (WatchState.Step watchingAgent) state steps later ∧
      later.spool.cursor "file_integrity" = some (shadowRecord now before).cursor ∧
      later.changes = state.changes := by
  have records : scan watchingAgent.unicode never before ["/etc/shadow"]
      (state.spool.cursor "file_integrity") =
        [baselineRecord [(key "/etc/shadow", (readState (before "/etc/shadow")).observable)]] := by
    rw [fresh]
    exact scan_first _ _ _
  have ignored : watchingAgent.normalized "file_integrity" ⟨0, 0, 0⟩ (baselineRecord
      [(key "/etc/shadow", (readState (before "/etc/shadow")).observable)]) = .ok none := rfl
  obtain ⟨steps, later, _, run, cursor, changes⟩ := exists_committed ⟨0, 0, 0⟩ state records
    ignored (by decide) (@cursorFits_shadowRecord now before)
  exact ⟨steps, later, run, cursor, changes.trans (List.append_nil _)⟩

/-- A change is committed, and reported under the id of its cursor. -/
theorem shadow_changed (state : WatchState) {event : NormalizedEventV1}
    {earlier : String → FileAnswers}
    (saved : state.spool.cursor "file_integrity" = some (shadowRecord earlier before).cursor)
    (different : (readState (before "/etc/shadow")).observable ≠
      (readState (now "/etc/shadow")).observable)
    (normalized : watchingAgent.normalized "file_integrity" ⟨0, 0, 0⟩ (shadowRecord before now) =
      .ok (some event)) :
    ∃ steps later recorded, Run (WatchState.Step watchingAgent) state steps later ∧
      later.spool.cursor "file_integrity" = some (shadowRecord before now).cursor ∧
      later.changes = state.changes ++ [⟨shadowRecord before now, event, recorded⟩] := by
  have records : scan watchingAgent.unicode never now ["/etc/shadow"]
      (state.spool.cursor "file_integrity") = [shadowRecord before now] := by
    rw [saved]
    exact scan_changed (wellFormed_single _ before "/etc/shadow") different
  obtain ⟨steps, later, recorded, run, cursor, changes⟩ := exists_committed ⟨0, 0, 0⟩ state records
    normalized (by decide) cursorFits_shadowRecord
  have named : changedPath (shadowRecord before now) = some "/etc/shadow" := rfl
  rw [reported, named, normalized] at changes
  exact ⟨steps, later, recorded, run, cursor, changes⟩

end Shadow

theorem states_differ : (readState (absentFile "/etc/shadow")).observable ≠
    (readState (presentFile "/etc/shadow")).observable := by
  decide +kernel

/-- Both changes are recognised. -/
theorem exists_events : ∃ appeared disappeared,
    watchingAgent.normalized "file_integrity" ⟨0, 0, 0⟩ (shadowRecord absentFile presentFile) =
      .ok (some appeared) ∧
    watchingAgent.normalized "file_integrity" ⟨0, 0, 0⟩ (shadowRecord presentFile absentFile) =
      .ok (some disappeared) :=
  ⟨_, _, rfl, rfl⟩

/-- A file appears and disappears. -/
theorem change_ids_differ_iff_appeared :
    ∃ steps state, Run (WatchState.Step watchingAgent) (.opened watchingAgent ⟨[], [], []⟩) steps
        state ∧ state.changes.length = 2 ∧
      (state.changes.Pairwise (fun first second => first.event.eventId ≠ second.event.eventId) ↔
        state.changes.Pairwise fun first second =>
          ∃ name, first.recorded name ≠ second.recorded name) := by
  obtain ⟨appeared, disappeared, normalized, normalized'⟩ := exists_events
  obtain ⟨_, first, start, saved, none_yet⟩ :=
    @shadow_first absentFile presentFile (.opened watchingAgent ⟨[], [], []⟩) rfl
  obtain ⟨_, second, recorded, change, saved, changes⟩ :=
    shadow_changed first saved states_differ normalized
  obtain ⟨_, third, recorded', change', _, changes'⟩ :=
    shadow_changed second saved states_differ.symm normalized'
  have run := start.trans (change.trans change')
  rw [changes, none_yet] at changes'
  refine ⟨_, third, run, by rw [changes']; rfl, change_ids_differ_iff run ?_⟩
  have apart : eventIdOf (shadowRecord absentFile presentFile).cursor ≠
      eventIdOf (shadowRecord presentFile absentFile).cursor := by
    decide +kernel
  rw [changes']
  simp [WatchState.opened, apart, apart.symm]

/-- **A file that appears, disappears and appears again**: the second appearance has the id
of the first. -/
theorem returned_file_repeats_id :
    ∃ steps state, Run (WatchState.Step watchingAgent) (.opened watchingAgent ⟨[], [], []⟩) steps
        state ∧
      ¬ state.changes.Pairwise fun first second => first.event.eventId ≠ second.event.eventId := by
  obtain ⟨appeared, disappeared, normalized, normalized'⟩ := exists_events
  obtain ⟨_, first, start, saved, none_yet⟩ :=
    @shadow_first absentFile presentFile (.opened watchingAgent ⟨[], [], []⟩) rfl
  obtain ⟨_, second, _, change, saved, changes⟩ :=
    shadow_changed first saved states_differ normalized
  obtain ⟨_, third, _, change', saved, changes'⟩ :=
    shadow_changed second saved states_differ.symm normalized'
  obtain ⟨_, fourth, _, change'', _, changes''⟩ :=
    shadow_changed third saved states_differ normalized
  refine ⟨_, fourth, start.trans (change.trans (change'.trans change'')), fun different => ?_⟩
  rw [changes'', changes', changes, none_yet] at different
  exact (List.pairwise_cons.mp different).1 _ (List.mem_cons_of_mem _ List.mem_cons_self) rfl

end WolandGuard.Agent
