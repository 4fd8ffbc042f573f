import WolandGuard.Agent.AtLeastOnce
import WolandGuard.Agent.FileIntegrity

/-!
# Scans of the watched files

A scan that runs to its end names the paths that differ from the baseline. The
cursor of a record says the states of the files compared so far and, of the
others, what the baseline says, so a scan that begins there names what is left
(`scan_exact_and_resumable`).
-/

set_option autoImplicit false

namespace WolandGuard.Agent

open Foundations

/-- No stop is requested. -/
def never : Nat → Bool := fun _ => false

/-- The path of a record of a change. -/
def changedPath (record : JournalRecord) : Option String :=
  match record.fields.get "FILE_INTEGRITY_PATH" with
  | some (.str path) => some path
  | _ => none

/-- The paths that records name. -/
def named (records : List JournalRecord) : List String := records.filterMap changedPath

/-- A file differs from the state that a baseline has of it. -/
def differs (baseline : Baseline) (file : Watched) : Bool :=
  (valueOf baseline file.name).any (· ≠ file.state.observable)

/-- The states of files written into a baseline. -/
def absorb (committed : Baseline) (files : List Watched) : Baseline :=
  files.foldl (fun entries file => putRow Prod.fst (file.name, file.state.observable) entries)
    committed

/-! ## The loop -/

section Loop

variable {baseline committed : Baseline} {files : List Watched} {i : Nat}

theorem differs_iff {file : Watched} : differs baseline file = true ↔
    ∃ previous, valueOf baseline file.name = some previous ∧
      previous ≠ file.state.observable := by
  rw [differs, Option.any_eq_true]
  simp

/-- The four ways through the body of the loop. -/
theorem compareFrom_cons (file : Watched) :
    compareFrom never baseline i (file :: files) committed =
      ((valueOf baseline file.name).filter (· ≠ file.state.observable)).toList.map (fun previous =>
          changeRecord (absorb committed [file]) previous file) ++
        compareFrom never baseline (i + 1) files (absorb committed [file]) := by
  rw [compareFrom]
  simp only [never, Bool.false_eq_true, if_false, absorb, List.foldl_cons, List.foldl_nil]
  cases valueOf baseline file.name with
  | none => rfl
  | some previous =>
      by_cases same : previous = file.state.observable
      · simp [same, Option.filter]
      · simp [same, Option.filter]

theorem named_append (first second : List JournalRecord) :
    named (first ++ second) = named first ++ named second :=
  List.filterMap_append

theorem named_baselineRecord (entries : Baseline) : named [baselineRecord entries] = [] := rfl

/-- The body of the loop names the path of a file that differs. -/
theorem named_change (file : Watched) :
    named (((valueOf baseline file.name).filter (· ≠ file.state.observable)).toList.map
      fun previous => changeRecord committed previous file) =
        ([file].filter (differs baseline)).map Watched.path := by
  rw [List.filter_cons, List.filter_nil]
  unfold differs
  cases valueOf baseline file.name with
  | none => rfl
  | some previous =>
      by_cases same : previous = file.state.observable
      · simp [same, Option.filter, named]
      · simp [same, Option.filter, named, changedPath, changeRecord, Fields.get]

/-- **The loop names the files that differ, in their order.** -/
theorem named_compareFrom : named (compareFrom never baseline i files committed) =
    (files.filter (differs baseline)).map Watched.path := by
  induction files generalizing i committed with
  | nil =>
      rw [compareFrom]
      split
      · rfl
      · rfl
  | cons file rest ih =>
      rw [compareFrom_cons, named_append, named_change, ih, ← List.map_append,
        ← List.filter_append, List.singleton_append]

/-- **A stop cuts the records short.** -/
theorem compareFrom_stopped (stopped : Nat → Bool) :
    compareFrom stopped baseline i files committed <+:
      compareFrom never baseline i files committed := by
  induction files generalizing i committed with
  | nil => exact List.prefix_rfl
  | cons file rest ih =>
      unfold compareFrom
      by_cases stop : stopped i = true
      · rw [if_pos stop]
        exact List.nil_prefix
      · rw [if_neg stop, if_neg (by simp [never])]
        dsimp only
        cases valueOf baseline file.name with
        | none => exact ih
        | some previous =>
            dsimp only
            split
            · exact ih
            · exact (List.prefix_cons_inj _).mpr ih

/-- A loop without records leaves the keys of the baseline. -/
theorem sameNames_of_no_records (silent : compareFrom never baseline i files committed = []) :
    sameNames (absorb committed files) baseline = true := by
  induction files generalizing i committed with
  | nil =>
      rw [compareFrom] at silent
      split at silent
      next same => exact same
      · cases silent
  | cons file rest ih =>
      rw [compareFrom_cons] at silent
      exact ih (List.append_eq_nil_iff.mp silent).2

/-- What a record of the loop has behind it, and ahead of it. -/
structure CutAt (baseline committed : Baseline) (files : List Watched) (record : JournalRecord)
    (more : List JournalRecord) (before after : List Watched) : Prop where
  split : files = before ++ after
  cursor : record.cursor = serializeBaseline (absorb committed before)
  ahead : named more = (after.filter (differs baseline)).map Watched.path
  last : more = [] → after = [] ∨ sameNames (absorb committed files) baseline = true

/-- Where a record stands: behind the file that it names, or behind all files. -/
def StandsBehind (record : JournalRecord) (before after : List Watched) : Prop :=
  (changedPath record = none ∧ after = []) ∨
    ∃ earlier file, before = earlier ++ [file] ∧ changedPath record = some file.path

/-- **The cursor of a record has the states of the files before it.** -/
theorem compareFrom_cut {done more : List JournalRecord} {record : JournalRecord}
    (records : compareFrom never baseline i files committed = done ++ record :: more) :
    ∃ before after, CutAt baseline committed files record more before after ∧
      StandsBehind record before after := by
  induction files generalizing i committed done with
  | nil =>
      rw [compareFrom] at records
      split at records
      · exact absurd records.symm (List.append_ne_nil_of_right_ne_nil _ (List.cons_ne_nil _ _))
      · obtain ⟨rfl, rfl, rfl⟩ : done = [] ∧ baselineRecord committed = record ∧ more = [] := by
          cases done with
          | nil => simpa using records
          | cons head tail => simp at records
        exact ⟨[], [], ⟨rfl, rfl, rfl, fun _ => .inl rfl⟩, .inl ⟨rfl, rfl⟩⟩
  | cons file rest ih =>
      rw [compareFrom_cons] at records
      have later : ∀ {earlier : List JournalRecord},
          compareFrom never baseline (i + 1) rest (absorb committed [file]) =
            earlier ++ record :: more →
          ∃ before after, CutAt baseline committed (file :: rest) record more before after ∧
            StandsBehind record before after := by
        intro earlier remaining
        obtain ⟨before, after, cut, stands⟩ := ih remaining
        refine ⟨file :: before, after, ⟨?_, cut.cursor, cut.ahead, cut.last⟩, ?_⟩
        · rw [cut.split, List.cons_append]
        · rcases stands with last | ⟨earlier, named, rfl, path⟩
          · exact .inl last
          · exact .inr ⟨file :: earlier, named, rfl, path⟩
      cases changed : (valueOf baseline file.name).filter (· ≠ file.state.observable) with
      | none =>
          rw [changed] at records
          exact later records
      | some previous =>
          rw [changed] at records
          cases done with
          | nil =>
              obtain ⟨rfl, remaining⟩ := List.cons.inj records
              have rest_records : compareFrom never baseline (i + 1) rest
                  (absorb committed [file]) = more := remaining
              refine ⟨[file], rest, ⟨rfl, rfl, ?_, fun silent => .inr ?_⟩,
                .inr ⟨[], file, rfl, rfl⟩⟩
              · rw [← rest_records, named_compareFrom]
              · rw [silent] at rest_records
                have same := sameNames_of_no_records rest_records
                exact same
          | cons head tail => exact later (List.cons.inj records).2

end Loop

/-! ## Views -/

section Views

variable {baseline committed : Baseline} {files : List Watched}

/-- What absorbed states say. -/
theorem valueOf_absorb (unique : (files.map Watched.name).Nodup) (name : String) :
    valueOf (absorb committed files) name =
      ((rowOf Watched.name files name).map (·.state.observable)).or (valueOf committed name) := by
  induction files generalizing committed with
  | nil => rfl
  | cons file rest ih =>
      obtain ⟨absent, rest_unique⟩ := List.nodup_cons.mp unique
      have step : absorb committed (file :: rest) =
          absorb (putRow Prod.fst (file.name, file.state.observable) committed) rest := rfl
      rw [step, ih rest_unique, valueOf_putRow]
      by_cases here : file.name = name
      · have none_later : rowOf Watched.name rest name = none := by
          rw [rowOf_eq_none]
          intro other member same
          exact absent ((here.trans same.symm) ▸ List.mem_map_of_mem member)
        rw [none_later, if_pos here]
        simp [rowOf, here]
      · rw [if_neg here]
        simp [rowOf, here]

theorem wellFormed_absorb {unicode : UnicodeTables} (wellFormed : WellFormed unicode committed)
    (names : ∀ file ∈ files, unicode.isAlnum file.name.toList = true)
    (states : ∀ file ∈ files, IsDigest (stateChars + permissionChars) file.state.observable) :
    WellFormed unicode (absorb committed files) := by
  induction files generalizing committed with
  | nil => exact wellFormed
  | cons file rest ih =>
      have state := states file List.mem_cons_self
      refine ih (wellFormed.putRow (names file List.mem_cons_self)
        (state.isAlnum (by decide)) state.1) ?_ ?_
      · intro other member
        exact names other (List.mem_cons_of_mem _ member)
      · intro other member
        exact states other (List.mem_cons_of_mem _ member)

theorem sameNames_iff : sameNames committed baseline = true ↔
    ∀ name, (valueOf committed name).isSome = (valueOf baseline name).isSome := by
  have names : ∀ (entries : Baseline) (name : String),
      (valueOf entries name).isSome = true ↔ name ∈ entries.map Prod.fst := by
    intro entries name
    rw [← not_iff_not, ← valueOf_eq_none, Bool.not_eq_true, Option.isSome_eq_false_iff,
      Option.isNone_iff_eq_none]
  have subset : ∀ first second : Baseline,
      (first.all fun entry => second.any (·.1 = entry.1)) = true ↔
        ∀ name, name ∈ first.map Prod.fst → name ∈ second.map Prod.fst := by
    intro first second
    simp only [List.all_eq_true, List.any_eq_true, decide_eq_true_eq, List.mem_map]
    constructor
    · rintro each name ⟨entry, member, rfl⟩
      exact each entry member
    · intro each entry member
      exact each entry.1 ⟨entry, member, rfl⟩
  rw [sameNames, Bool.and_eq_true, subset, subset]
  constructor
  · rintro ⟨forward, backward⟩ name
    rw [Bool.eq_iff_iff, names, names]
    exact ⟨forward name, backward name⟩
  · intro same
    refine ⟨fun name member => ?_, fun name member => ?_⟩
    · rw [← names, ← same, names]
      exact member
    · rw [← names, same, names]
      exact member

end Views

/-! ## Scans from a cursor -/

section Scans

variable {unicode : UnicodeTables} {answers : String → FileAnswers} {paths : List String}
variable {cursor : Option String}

/-- A path, observed. -/
def watchedFile (answers : String → FileAnswers) (path : String) : Watched :=
  ⟨key path, path, readState (answers path)⟩

/-- The states of paths by their keys. -/
def statesOf (answers : String → FileAnswers) (paths : List String) (name : String) :
    Option String :=
  (rowOf key paths name).map fun path => (readState (answers path)).observable

theorem map_watchedFile (answers : String → FileAnswers) (paths : List String) :
    (paths.map (watchedFile answers)).map Watched.name = paths.map key := by
  rw [List.map_map]
  rfl

theorem statesOf_eq (answers : String → FileAnswers) (paths : List String) (name : String) :
    (rowOf Watched.name (paths.map (watchedFile answers)) name).map (·.state.observable) =
      statesOf answers paths name := by
  rw [rowOf, List.find?_map, Option.map_map]
  rfl

theorem statesOf_eq_none {name : String} : statesOf answers paths name = none ↔
    name ∉ paths.map key := by
  rw [statesOf, Option.map_eq_none_iff, rowOf_eq_none]
  simp

theorem statesOf_of_mem (distinct : (paths.map key).Nodup) {path : String}
    (member : path ∈ paths) :
    statesOf answers paths (key path) = some (readState (answers path)).observable := by
  rw [statesOf, rowOf_of_mem distinct member]
  rfl

/-- Paths with different keys are all observed, in their order. -/
theorem current_eq (distinct : (paths.map key).Nodup) :
    current answers paths = paths.map (watchedFile answers) := by
  have unique : (([] ++ paths.map (watchedFile answers)).map Watched.name).Nodup := by
    rw [List.nil_append, map_watchedFile]
    exact distinct
  have written := foldl_putRow unique
  rw [List.foldl_map, List.nil_append] at written
  exact written

/-- **A scan that is not stopped names the paths that differ.** -/
theorem named_scan (distinct : (paths.map key).Nodup) :
    named (scan unicode never answers paths cursor) =
      paths.filter fun path =>
        differs (parseBaseline unicode cursor) (watchedFile answers path) := by
  have filtered : ∀ baseline : Baseline,
      ((paths.map (watchedFile answers)).filter (differs baseline)).map Watched.path =
        paths.filter fun path => differs baseline (watchedFile answers path) := by
    intro baseline
    rw [List.filter_map, List.map_map]
    exact List.map_id' _
  unfold scan
  simp only [current_eq distinct]
  split
  next empty =>
    rw [named_baselineRecord, List.isEmpty_iff.mp empty]
    exact (List.filter_eq_nil_iff.mpr fun path _ => by simp [differs, valueOf, rowOf]).symm
  · rw [named_compareFrom, filtered]

/-- A stop cuts the records of a scan short. -/
theorem scan_stopped (stopped : Nat → Bool) :
    scan unicode stopped answers paths cursor <+: scan unicode never answers paths cursor := by
  unfold scan
  dsimp only
  split
  · exact List.prefix_rfl
  · exact compareFrom_stopped stopped

/-- What a scan says at one of its records, and has ahead of it. -/
structure ResumePoint (unicode : UnicodeTables) (answers : String → FileAnswers)
    (paths : List String) (cursor : Option String) (record : JournalRecord)
    (more : List JournalRecord) (before after : List String) : Prop where
  split : paths = before ++ after
  view : ∀ name, valueOf (parseBaseline unicode (some record.cursor)) name =
    (statesOf answers before name).or
      (if name ∈ paths.map key then valueOf (parseBaseline unicode cursor) name else none)
  ahead : named more = after.filter fun path =>
    differs (parseBaseline unicode cursor) (watchedFile answers path)
  complete : more = [] → ∀ name,
    valueOf (parseBaseline unicode (some record.cursor)) name = statesOf answers paths name

/-- A baseline that has the paths of the configuration, none of which differs,
says their states. -/
theorem valueOf_of_sameNames {baseline committed : Baseline}
    (distinct : (paths.map key).Nodup)
    (same : sameNames (absorb committed (paths.map (watchedFile answers))) baseline = true)
    {path : String} (member : path ∈ paths)
    (equal : differs baseline (watchedFile answers path) = false) :
    valueOf baseline (key path) = some (readState (answers path)).observable := by
  have unique : ((paths.map (watchedFile answers)).map Watched.name).Nodup := by
    rwa [map_watchedFile]
  have known := sameNames_iff.mp same (key path)
  rw [valueOf_absorb unique, statesOf_eq, statesOf_of_mem distinct member, Option.some_or,
    Option.isSome_some] at known
  obtain ⟨previous, found⟩ := Option.isSome_iff_exists.mp known.symm
  rw [differs, watchedFile, found] at equal
  rw [found]
  simpa using equal

theorem wellFormed_states {committed : Baseline}
    (wellFormed : WellFormed unicode committed) :
    WellFormed unicode (absorb committed (paths.map (watchedFile answers))) := by
  refine wellFormed_absorb wellFormed ?_ ?_
  · intro file member
    obtain ⟨path, _, rfl⟩ := List.mem_map.mp member
    exact (isDigest_key path).isAlnum (by decide)
  · intro file member
    obtain ⟨path, _, rfl⟩ := List.mem_map.mp member
    exact isDigest_readState _

/-- The only record of a first scan has the states of all files. -/
theorem record_of_first {files : List Watched} (unique : (files.map Watched.name).Nodup)
    {done more : List JournalRecord} {record : JournalRecord}
    (records : [baselineRecord (files.map fun file => (file.name, file.state.observable))] =
      done ++ record :: more) :
    done = [] ∧ more = [] ∧ record = baselineRecord (absorb [] files) := by
  have entries := @foldl_putRow _ _ _ Prod.fst []
    (files.map fun file => (file.name, file.state.observable)) (by
      rw [List.nil_append, List.map_map]
      exact unique)
  rw [List.foldl_map, List.nil_append] at entries
  rcases List.append_eq_singleton_iff.mp records.symm with ⟨first, rest⟩ | ⟨_, nothing⟩
  · obtain ⟨same, last⟩ := List.cons.inj rest
    refine ⟨first, last, same.trans ?_⟩
    rw [absorb, entries]
  · cases nothing

/-- **Every record of a scan is a point to resume from.** -/
theorem resumePoint_of_scan (distinct : (paths.map key).Nodup) {done more : List JournalRecord}
    {record : JournalRecord}
    (records : scan unicode never answers paths cursor = done ++ record :: more) :
    ∃ before after, ResumePoint unicode answers paths cursor record more before after := by
  have baseline_wellFormed := wellFormed_parseBaseline unicode cursor
  have unique : ((paths.map (watchedFile answers)).map Watched.name).Nodup := by
    rwa [map_watchedFile]
  unfold scan at records
  simp only [current_eq distinct] at records
  split at records
  next empty =>
    -- the first scan: one record, with every state
    obtain ⟨rfl, rfl, rfl⟩ := record_of_first unique records
    have nothing : WellFormed unicode [] := ⟨.nil, by simp, by simp⟩
    have view : ∀ name, valueOf (parseBaseline unicode (some (baselineRecord
        (absorb [] (paths.map (watchedFile answers)))).cursor)) name =
        statesOf answers paths name := by
      intro name
      rw [baselineRecord, valueOf_parseBaseline (wellFormed_states nothing),
        valueOf_absorb unique, statesOf_eq]
      exact Option.or_none
    refine ⟨paths, [], (List.append_nil paths).symm, ?_, rfl, fun _ => view⟩
    intro name
    rw [view, List.isEmpty_iff.mp empty]
    simp [valueOf, rowOf]
  · -- a comparison, cut after the files `before`
    obtain ⟨before_files, after_files, cut, _⟩ := compareFrom_cut records
    obtain ⟨before, after, rfl, rfl, rfl⟩ := List.map_eq_append_iff.mp cut.split
    have before_distinct : (before.map key).Nodup := by
      rw [List.map_append] at distinct
      exact distinct.of_append_left
    have before_unique : ((before.map (watchedFile answers)).map Watched.name).Nodup := by
      rwa [map_watchedFile]
    have restricted : ∀ name, valueOf ((parseBaseline unicode cursor).filter fun entry =>
        ((before ++ after).map (watchedFile answers)).any (·.name = entry.1)) name =
          if name ∈ (before ++ after).map key then valueOf (parseBaseline unicode cursor) name
          else none := by
      intro name
      rw [valueOf_filter (parseBaseline unicode cursor) fun entry_name =>
        ((before ++ after).map (watchedFile answers)).any (·.name = entry_name)]
      refine if_congr ?_ rfl rfl
      rw [List.any_map, List.any_eq_true, List.mem_map]
      exact exists_congr fun path => and_congr_right fun _ => decide_eq_true_iff
    have committed_wellFormed := baseline_wellFormed.of_subset
      (baseline_wellFormed.unique.sublist ((List.filter_sublist (p := fun entry =>
        ((before ++ after).map (watchedFile answers)).any (·.name = entry.1))).map Prod.fst))
      List.filter_sublist.subset
    have view : ∀ name, valueOf (parseBaseline unicode (some record.cursor)) name =
        (statesOf answers before name).or (if name ∈ (before ++ after).map key
          then valueOf (parseBaseline unicode cursor) name else none) := by
      intro name
      rw [cut.cursor, valueOf_parseBaseline (wellFormed_states committed_wellFormed),
        valueOf_absorb before_unique, statesOf_eq, restricted]
    have ahead : named more = after.filter fun path =>
        differs (parseBaseline unicode cursor) (watchedFile answers path) := by
      rw [cut.ahead, List.filter_map, List.map_map]
      exact List.map_id' _
    refine ⟨before, after, rfl, view, ahead, ?_⟩
    intro silent name
    rw [view]
    cases found : statesOf answers before name with
    | some state =>
        rw [statesOf, rowOf_append]
        obtain ⟨path, here, rfl⟩ := Option.map_eq_some_iff.mp found
        rw [here]
        rfl
    | none =>
        by_cases configured : name ∈ (before ++ after).map key
        · rw [Option.none_or, if_pos configured]
          obtain ⟨path, member, rfl⟩ := List.mem_map.mp configured
          have later : path ∈ after := by
            rcases List.mem_append.mp member with early | later
            · exact absurd (List.mem_map_of_mem early) (statesOf_eq_none.mp found)
            · exact later
          rcases cut.last silent with nothing | same
          · rw [List.map_eq_nil_iff.mp nothing] at later
            cases later
          · rw [silent] at ahead
            have equal := List.filter_eq_nil_iff.mp ahead.symm path later
            rw [valueOf_of_sameNames distinct same member (Bool.not_eq_true _ ▸ equal),
              statesOf_of_mem distinct member]
        · rw [Option.none_or, if_neg configured, statesOf_eq_none.mpr configured]

/-- **A scan from a cursor of an earlier one names what was left**, in the order
of the configuration that it has. -/
theorem ResumePoint.resumed {record : JournalRecord} {more : List JournalRecord}
    {before after now : List String} {again : String → FileAnswers}
    (point : ResumePoint unicode answers paths cursor record more before after)
    (distinct : (paths.map key).Nodup) (now_distinct : (now.map key).Nodup)
    (apart : ∀ path ∈ paths, ∀ other ∈ now, key path = key other → path = other)
    (unchanged : ∀ path ∈ now, (readState (again path)).observable =
      (readState (answers path)).observable) :
    named (scan unicode never again now (some record.cursor)) =
      now.filter fun path => path ∈ named more := by
  rw [named_scan now_distinct]
  refine List.filter_congr fun path member => ?_
  rw [Bool.eq_iff_iff, decide_eq_true_eq, differs_iff, point.ahead, List.mem_filter, differs_iff]
  simp only [watchedFile, point.view, unchanged path member]
  obtain rfl := point.split
  constructor
  · rintro ⟨previous, found, different⟩
    cases seen : statesOf answers before (key path) with
    | some state =>
        -- a path before the record has its own state
        obtain ⟨early, here, rfl⟩ := Option.map_eq_some_iff.mp seen
        obtain ⟨early_member, same_key⟩ := rowOf_mem here
        obtain rfl := apart early (List.mem_append_left _ early_member) path member same_key
        rw [seen, Option.some_or] at found
        exact absurd (Option.some.inj found).symm different
    | none =>
        rw [seen, Option.none_or] at found
        split at found
        next configured =>
          obtain ⟨other, there, same_key⟩ := List.mem_map.mp configured
          obtain rfl := apart other there path member same_key
          refine ⟨?_, previous, found, different⟩
          rcases List.mem_append.mp there with early | later
          · exact absurd (List.mem_map_of_mem early) (statesOf_eq_none.mp seen)
          · exact later
        · cases found
  · rintro ⟨later, previous, found, different⟩
    refine ⟨previous, ?_, different⟩
    have unseen : statesOf answers before (key path) = none := by
      rw [statesOf_eq_none]
      intro early
      rw [List.map_append, List.nodup_append] at distinct
      exact distinct.2.2 _ early _ (List.mem_map_of_mem later) rfl
    rw [unseen, Option.none_or, if_pos (List.mem_map_of_mem (List.mem_append_right _ later))]
    exact found

/-- A scan without records leaves a cursor that says the states. -/
theorem view_of_no_records (distinct : (paths.map key).Nodup)
    (silent : scan unicode never answers paths cursor = []) (name : String) :
    valueOf (parseBaseline unicode cursor) name = statesOf answers paths name := by
  have nobody : named (scan unicode never answers paths cursor) = [] := by
    rw [silent]
    rfl
  rw [named_scan distinct, List.filter_eq_nil_iff] at nobody
  unfold scan at silent
  simp only [current_eq distinct] at silent
  split at silent
  · cases silent
  · have same := sameNames_of_no_records silent
    by_cases configured : name ∈ paths.map key
    · obtain ⟨path, member, rfl⟩ := List.mem_map.mp configured
      rw [valueOf_of_sameNames distinct same member (Bool.not_eq_true _ ▸ nobody path member),
        statesOf_of_mem distinct member]
    · have unknown := sameNames_iff.mp same name
      have unique : ((paths.map (watchedFile answers)).map Watched.name).Nodup := by
        rwa [map_watchedFile]
      have restricted := valueOf_filter (parseBaseline unicode cursor) (fun entry_name =>
        (paths.map (watchedFile answers)).any (·.name = entry_name)) name
      rw [if_neg] at restricted
      · rw [valueOf_absorb unique, statesOf_eq, statesOf_eq_none.mpr configured, Option.none_or,
          restricted, Option.isSome_none] at unknown
        rw [statesOf_eq_none.mpr configured]
        exact Option.isNone_iff_eq_none.mp (Option.isSome_eq_false_iff.mp unknown.symm)
      · rw [List.any_map, List.any_eq_true]
        rintro ⟨path, member, same_key⟩
        exact configured (List.mem_map.mpr ⟨path, member, of_decide_eq_true same_key⟩)

end Scans

/-! ## The cursor on disk -/

section Draining

variable {ε : Type} {settings : AgentSettings ε} {source : String}
variable {spool after : Spool} {records : List JournalRecord}

/-- `_drain` persists records one after the other. In between and afterwards the
spool may change in any way that leaves the cursor of the source. -/
inductive Drained (settings : AgentSettings ε) (source : String) :
    Spool → List JournalRecord → Spool → Prop where
  | nil (spool : Spool) : Drained settings source spool [] spool
  | persist {spool middle after : Spool} {record : JournalRecord} {rest : List JournalRecord}
      {times : PersistTimes} {result : Option EnqueueResult} :
      settings.persistRecord source times record spool = .ok (result, middle) →
      Drained settings source middle rest after →
      Drained settings source spool (record :: rest) after
  | meanwhile {spool middle after : Spool} {records : List JournalRecord} :
      middle.cursor source = spool.cursor source → Drained settings source middle records after →
      Drained settings source spool records after

/-- **The cursor on disk is the one of the last record.** -/
theorem Drained.cursor (drained : Drained settings source spool records after) :
    after.cursor source = (records.getLast?.map (·.cursor)).or (spool.cursor source) := by
  induction drained with
  | nil spool => rfl
  | @persist spool middle after record rest times result persisted _ ih =>
      obtain ⟨_, ⟨moved, _⟩, _⟩ := AgentSettings.persistRecord_spec persisted
      rw [ih, moved]
      cases last : rest.getLast? with
      | none =>
          obtain rfl := List.getLast?_eq_none_iff.mp last
          rfl
      | some record =>
          rw [List.getLast?_cons, last]
          rfl
  | meanwhile kept _ ih => rw [ih, kept]

end Draining

/-! ## Exact and resumable -/

section Resumption

variable {ε : Type} {settings : AgentSettings ε} {answers again : String → FileAnswers}
variable {paths : List String} {spool after : Spool} {done rest : List JournalRecord}

/-- The scan of the watched paths from the cursor on disk. -/
def scanOf (settings : AgentSettings ε) (stopped : Nat → Bool) (answers : String → FileAnswers)
    (paths : List String) (spool : Spool) : List JournalRecord :=
  scan settings.unicode stopped answers paths (spool.cursor "file_integrity")

/-- What the cursor on disk says. -/
def viewOf (settings : AgentSettings ε) (spool : Spool) (name : String) : Option String :=
  valueOf (parseBaseline settings.unicode (spool.cursor "file_integrity")) name

/-- The paths named differ from what the cursor says. -/
theorem mem_named_scanOf (distinct : (paths.map key).Nodup) (path : String) :
    path ∈ named (scanOf settings never answers paths spool) ↔
      path ∈ paths ∧ ∃ previous, viewOf settings spool (key path) = some previous ∧
        previous ≠ (readState (answers path)).observable := by
  rw [scanOf, named_scan distinct, List.mem_filter, differs_iff]
  rfl

theorem named_scanOf_sublist (distinct : (paths.map key).Nodup) :
    (named (scanOf settings never answers paths spool)).Sublist paths := by
  rw [scanOf, named_scan distinct]
  exact List.filter_sublist

/-- What is named depends on what the cursor says and on the states. -/
theorem named_scanOf_congr (distinct : (paths.map key).Nodup)
    (unchanged : ∀ path ∈ paths, (readState (again path)).observable =
      (readState (answers path)).observable) :
    named (scanOf settings never again paths spool) =
      named (scanOf settings never answers paths spool) := by
  rw [scanOf, scanOf, named_scan distinct, named_scan distinct]
  refine List.filter_congr fun path member => ?_
  rw [Bool.eq_iff_iff, differs_iff, differs_iff]
  simp only [watchedFile, unchanged path member]

/-- The cursor after some records of a scan is one to resume from. -/
theorem resumePoint_of_drained (distinct : (paths.map key).Nodup) {record : JournalRecord}
    (whole : scanOf settings never answers paths spool = done ++ [record] ++ rest)
    (drained : Drained settings "file_integrity" spool (done ++ [record]) after) :
    after.cursor "file_integrity" = some record.cursor ∧ ∃ early late,
      ResumePoint settings.unicode answers paths (spool.cursor "file_integrity") record rest
        early late := by
  constructor
  · rw [drained.cursor, List.getLast?_append]
    rfl
  · have records : scan settings.unicode never answers paths (spool.cursor "file_integrity") =
        done ++ record :: rest := by
      rw [← List.singleton_append, ← List.append_assoc]
      exact whole
    exact resumePoint_of_scan distinct records

/-- A changed configuration names nothing but what was left. -/
theorem named_reconfigured {now : List String} (distinct : (paths.map key).Nodup)
    (now_distinct : (now.map key).Nodup)
    (apart : ∀ path ∈ paths, ∀ other ∈ now, key path = key other → path = other)
    (unchanged : ∀ path ∈ now, (readState (again path)).observable =
      (readState (answers path)).observable)
    (whole : scanOf settings never answers paths spool = done ++ rest)
    (drained : Drained settings "file_integrity" spool done after)
    (started : done ≠ [] ∨ rest = []) :
    named (scanOf settings never again now after) = now.filter fun path => path ∈ named rest := by
  rcases List.eq_nil_or_concat done with rfl | ⟨earlier, record, rfl⟩
  · -- nothing differed, and the cursor is the one from before
    obtain rfl := started.resolve_left fun some_done => some_done rfl
    have same_cursor : after.cursor "file_integrity" = spool.cursor "file_integrity" :=
      drained.cursor
    have nothing : scanOf settings never answers paths spool = [] := whole
    rw [scanOf, same_cursor, named_scan now_distinct]
    refine List.filter_congr fun path member => ?_
    rw [Bool.eq_iff_iff, differs_iff]
    simp only [named, List.filterMap_nil, List.not_mem_nil, decide_false, Bool.false_eq_true,
      iff_false]
    rintro ⟨previous, found, different⟩
    simp only [watchedFile] at found different
    rw [view_of_no_records distinct nothing] at found
    obtain ⟨other, there, rfl⟩ := Option.map_eq_some_iff.mp found
    obtain ⟨other_member, same_key⟩ := rowOf_mem there
    obtain rfl := apart other other_member path member same_key
    exact different (unchanged other member).symm
  · rw [List.concat_eq_append] at whole drained
    obtain ⟨moved, _, _, point⟩ := resumePoint_of_drained distinct whole drained
    rw [scanOf, moved]
    exact point.resumed distinct now_distinct apart unchanged

/-- What is left is left in the order of the configuration. -/
theorem named_resumed (distinct : (paths.map key).Nodup)
    (unchanged : ∀ path ∈ paths, (readState (again path)).observable =
      (readState (answers path)).observable)
    (whole : scanOf settings never answers paths spool = done ++ rest)
    (drained : Drained settings "file_integrity" spool done after) :
    named (scanOf settings never again paths after) = named rest := by
  rcases List.eq_nil_or_concat done with rfl | ⟨earlier, record, rfl⟩
  · have same_cursor : after.cursor "file_integrity" = spool.cursor "file_integrity" :=
      drained.cursor
    have same : scanOf settings never again paths after =
        scanOf settings never again paths spool := by
      rw [scanOf, same_cursor, scanOf]
    rw [same, named_scanOf_congr distinct unchanged, whole]
    rfl
  · rw [List.concat_eq_append] at whole drained
    obtain ⟨moved, early, late, point⟩ := resumePoint_of_drained distinct whole drained
    have same_path : ∀ path ∈ paths, ∀ other ∈ paths, key path = key other → path = other :=
      fun path member other there same => List.inj_on_of_nodup_map distinct member there same
    rw [scanOf, moved, point.resumed distinct distinct same_path unchanged, point.ahead]
    have nodup := distinct.of_map
    obtain rfl := point.split
    -- no path before the record is left, and those after it are left as they stand
    have none_early : (early.filter fun path => path ∈ late.filter fun path =>
        differs (parseBaseline settings.unicode (spool.cursor "file_integrity"))
          (watchedFile answers path)) = [] := by
      refine List.filter_eq_nil_iff.mpr fun path member => ?_
      rw [decide_eq_true_eq]
      intro later
      exact List.disjoint_of_nodup_append nodup member (List.mem_of_mem_filter later)
    rw [List.filter_append, none_early, List.nil_append]
    refine List.filter_congr fun path member => ?_
    rw [Bool.eq_iff_iff, decide_eq_true_eq, List.mem_filter]
    exact and_iff_right member

/-- After all its records, the cursor of a scan says the states. -/
theorem view_of_drained (distinct : (paths.map key).Nodup)
    (drained : Drained settings "file_integrity" spool (scanOf settings never answers paths spool)
      after) (name : String) :
    viewOf settings after name = statesOf answers paths name := by
  cases whole : (scanOf settings never answers paths spool).eq_nil_or_concat with
  | inl nothing =>
      rw [nothing] at drained
      have same_cursor : after.cursor "file_integrity" = spool.cursor "file_integrity" :=
        drained.cursor
      rw [viewOf, same_cursor]
      exact view_of_no_records distinct nothing name
  | inr some_records =>
      obtain ⟨earlier, record, records⟩ := some_records
      rw [List.concat_eq_append] at records
      rw [records] at drained
      have complete : scanOf settings never answers paths spool = earlier ++ [record] ++ [] := by
        rw [records, List.append_nil]
      obtain ⟨moved, _, _, point⟩ := resumePoint_of_drained distinct complete drained
      rw [viewOf, moved]
      exact point.complete rfl name

/-- **A scan names each path that differs, once and in the order of the
configuration; a scan from the cursor of its `k`-th record names the rest; after
all its records the cursor says the states of the configured paths, and no
change of the configuration names a path by itself.** -/
theorem scan_exact_and_resumable (settings : AgentSettings ε) (answers : String → FileAnswers)
    {paths : List String} (distinct : (paths.map key).Nodup) (spool : Spool) :
    ((named (scanOf settings never answers paths spool)).Sublist paths ∧
      (named (scanOf settings never answers paths spool)).Nodup ∧
      ∀ path, path ∈ named (scanOf settings never answers paths spool) ↔
        path ∈ paths ∧ ∃ previous, viewOf settings spool (key path) = some previous ∧
          previous ≠ (readState (answers path)).observable) ∧
    (∀ stopped, scanOf settings stopped answers paths spool <+:
      scanOf settings never answers paths spool) ∧
    (∀ done rest after again, scanOf settings never answers paths spool = done ++ rest →
      Drained settings "file_integrity" spool done after →
      (∀ path, (readState (again path)).observable = (readState (answers path)).observable) →
      named (scanOf settings never again paths after) = named rest ∧
      ∀ now, (done ≠ [] ∨ rest = []) → (now.map key).Nodup →
        (∀ path ∈ paths, ∀ other ∈ now, key path = key other → path = other) →
        named (scanOf settings never again now after) =
          now.filter fun path => path ∈ named rest) ∧
    (∀ after, Drained settings "file_integrity" spool
        (scanOf settings never answers paths spool) after →
      ∀ name, viewOf settings after name = statesOf answers paths name) ∧
    ∀ entries, WellFormed settings.unicode entries →
      (parseBaseline settings.unicode (some (serializeBaseline entries))).Perm entries := by
  refine ⟨⟨named_scanOf_sublist distinct, ?_, mem_named_scanOf distinct⟩, ?_, ?_, ?_, ?_⟩
  · exact distinct.of_map.sublist (named_scanOf_sublist distinct)
  · intro stopped
    exact scan_stopped stopped
  · intro done rest after again whole drained unchanged
    refine ⟨named_resumed distinct (fun path _ => unchanged path) whole drained, ?_⟩
    intro now started now_distinct apart
    exact named_reconfigured distinct now_distinct apart (fun path _ => unchanged path) whole
      drained started
  · intro after drained name
    exact view_of_drained distinct drained name
  · intro entries wellFormed
    exact parseBaseline_serializeBaseline wellFormed

/-- The spool of an agent that has seen two files present. -/
def bothPresent : Spool where
  events := []
  cursors :=
    [⟨"file_integrity",
      "74acf318:000102030405060708090a0b,7b5ddf49:0c0d0e0f1011121314151617", 0⟩]
  diagnostics := []

/-- Every file is absent. -/
def absentFiles (_path : String) : FileAnswers := ⟨none, none⟩

/-- Two files were deleted. When the agent stops after the first record, the next scan names
the second file alone, also with another file in the place of the first. -/
theorem scan_exact_and_resumable_deleted_files :
    ∃ record rest after,
      scanOf watchingAgent never absentFiles ["/etc/passwd", "/etc/shadow"] bothPresent =
        [record] ++ rest ∧
      Drained watchingAgent "file_integrity" bothPresent [record] after ∧
      named (scanOf watchingAgent never absentFiles ["/etc/passwd", "/etc/shadow"] after) =
        ["/etc/shadow"] ∧
      named (scanOf watchingAgent never absentFiles ["/etc/hosts", "/etc/shadow"] after) =
        ["/etc/shadow"] := by
  have distinct : (["/etc/passwd", "/etc/shadow"].map key).Nodup := by decide +kernel
  have now_distinct : (["/etc/hosts", "/etc/shadow"].map key).Nodup := by decide +kernel
  have apart : ∀ path ∈ ["/etc/passwd", "/etc/shadow"], ∀ other ∈ ["/etc/hosts", "/etc/shadow"],
      key path = key other → path = other := by decide +kernel
  have persists : ((scanOf watchingAgent never absentFiles ["/etc/passwd", "/etc/shadow"]
      bothPresent).head?.any fun record => (watchingAgent.persistRecord "file_integrity" ⟨0, 0, 0⟩
        record bothPresent).toOption.isSome) = true := by decide +kernel
  have second : named (scanOf watchingAgent never absentFiles ["/etc/passwd", "/etc/shadow"]
      bothPresent).tail = ["/etc/shadow"] := by decide +kernel
  obtain ⟨record, first, stored⟩ := (Option.any_eq_true _ _).mp persists
  obtain ⟨rest, whole⟩ := List.head?_eq_some_iff.mp first
  obtain ⟨⟨result, after⟩, persisted⟩ := Option.isSome_iff_exists.mp stored
  have drained : Drained watchingAgent "file_integrity" bothPresent [record] after := by
    cases written : watchingAgent.persistRecord "file_integrity" ⟨0, 0, 0⟩ record bothPresent with
    | error failure =>
        rw [written] at persisted
        cases persisted
    | ok stored =>
        rw [written] at persisted
        cases persisted
        exact .persist written (.nil _)
  obtain ⟨_, _, resumes, _⟩ := scan_exact_and_resumable watchingAgent absentFiles distinct
    bothPresent
  obtain ⟨again, reconfigured⟩ := resumes [record] rest after absentFiles whole drained fun _ => rfl
  rw [whole, List.tail_cons] at second
  refine ⟨record, rest, after, whole, drained, again.trans second, ?_⟩
  rw [reconfigured _ (.inl (List.cons_ne_nil _ _)) now_distinct apart, second]
  decide

end Resumption

end WolandGuard.Agent
