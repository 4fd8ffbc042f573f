import WolandGuard.Agent.Protocol

/-!
# The records of one reading

A reading of a source yields its records in order, and `_drain` persists them one
after the other until it ends. So the persisted records are the first ones of
those that the source yields, none left out (`persistedBy_leading`), and the
cursor of the source is that of the last of them (`cursor_of_reading`). A record
that is refused ends the reading.
-/

set_option autoImplicit false

namespace WolandGuard.Agent

open Foundations Incidents

section Readings

variable {unicode : UnicodeData} {ε : Type} {settings : AgentSettings ε}
variable {state after start finish : Deployment unicode} {action : Action unicode ε}
variable {path window : List (Moved unicode ε)} {source : String}

/-- The record of the source that a step persists. -/
def persistedOf (source : String) (taken : Moved unicode ε) : Option JournalRecord :=
  match taken.label with
  | .persist other record _ => if other = source then some record else none
  | _ => none

/-- The records of the source that the steps persist, in their order. -/
def persistedBy (source : String) (path : List (Moved unicode ε)) : List JournalRecord :=
  path.filterMap (persistedOf source)

theorem persistedBy_cons (taken : Moved unicode ε) (path : List (Moved unicode ε)) :
    persistedBy source (taken :: path) =
      (persistedOf source taken).toList ++ persistedBy source path := by
  rw [persistedBy, List.filterMap_cons, persistedBy]
  cases persistedOf source taken with
  | none => rfl
  | some record => rfl

theorem persistedOf_persist (state after : Deployment unicode) (record : JournalRecord)
    (times : PersistTimes) :
    persistedOf (ε := ε) source ⟨state, .persist source record times, after⟩ = some record :=
  if_pos rfl

theorem persistedOf_other {other : String} (different : other ≠ source)
    (state after : Deployment unicode) (record : JournalRecord) (times : PersistTimes) :
    persistedOf (ε := ε) source ⟨state, .persist other record times, after⟩ = none :=
  if_neg different

/-- A step that persisted the record. -/
theorem persist_of_mem {record : JournalRecord} (member : record ∈ persistedBy source path) :
    ∃ before taken later times, path = before ++ taken :: later ∧
      taken.label = .persist source record times := by
  obtain ⟨taken, taken_member, persisted⟩ := List.mem_filterMap.mp member
  obtain ⟨before, later, cut⟩ := List.append_of_mem taken_member
  unfold persistedOf at persisted
  split at persisted
  next other found times label =>
    split at persisted
    next same =>
      cases persisted
      exact ⟨before, taken, later, times, cut, same ▸ label⟩
    · cases persisted
  · cases persisted

/-! ## What is left of a reading -/

/-- Each source is read by one collector. -/
def Alone (state : Deployment unicode) : Prop := (state.collecting.map Prod.fst).Nodup

theorem Alone.dropped {collecting before later : List (String × List JournalRecord)}
    {entry : String × List JournalRecord} (alone : (collecting.map Prod.fst).Nodup)
    (held : collecting = before ++ entry :: later) :
    ((before ++ later).map Prod.fst).Nodup := by
  subst held
  have kept : (before ++ later).Sublist (before ++ entry :: later) :=
    (List.sublist_cons_self entry later).append_left before
  exact (kept.map Prod.fst).nodup alone

theorem Alone.step (alone : Alone state) (step : Deployment.Step settings state action after) :
    Alone after := by
  cases step with
  | @collect source found absent =>
      unfold Alone
      rw [List.map_append, List.nodup_append]
      refine ⟨alone, by simp, ?_⟩
      rintro name member other other_member rfl
      exact absent (by simpa [List.mem_singleton.mp other_member] using member)
  | persist collecting persisted =>
      unfold Alone at alone ⊢
      rw [collecting] at alone
      simpa using alone
  | refuse collecting refused => exact Alone.dropped alone collecting
  | abandon collecting => exact Alone.dropped alone collecting
  | crash => exact List.nodup_nil
  | _ => exact alone

theorem alone_of_run (run : Run (Deployment.Step settings) start path finish)
    (alone : Alone start) : Alone finish :=
  run.invariant (fun _ _ _ alone step => alone.step step) alone

/-- Of a reading that yields `whole`, `done` is persisted and the rest is still
to come, or the reading has ended. -/
def Remaining (source : String) (whole done : List JournalRecord) (state : Deployment unicode) :
    Prop :=
  done <+: whole ∧ ∀ rest, (source, rest) ∈ state.collecting → whole = done ++ rest

/-- The other entries of the collectors are those of other sources. -/
theorem Alone.other {before later : List (String × List JournalRecord)}
    {records : List JournalRecord}
    (alone : ((before ++ (source, records) :: later).map Prod.fst).Nodup)
    {rest : List JournalRecord} : (source, rest) ∉ before ++ later := by
  intro member
  rw [List.map_append, List.map_cons, List.nodup_middle, List.nodup_cons,
    ← List.map_append] at alone
  exact alone.1 (List.mem_map.mpr ⟨(source, rest), member, rfl⟩)

theorem Remaining.kept {whole done : List JournalRecord}
    (remaining : Remaining source whole done state)
    (same : ∀ rest, (source, rest) ∈ after.collecting → (source, rest) ∈ state.collecting) :
    Remaining source whole (done ++ []) after := by
  rw [List.append_nil]
  exact ⟨remaining.1, fun rest member => remaining.2 rest (same rest member)⟩

/-- **A step persists the next record of a reading, or leaves it as it is.** -/
theorem Remaining.step {whole done : List JournalRecord}
    (remaining : Remaining source whole done state) (alone : Alone state)
    (step : Deployment.Step settings state action after)
    (same_reading : ∀ found, action ≠ .collect source found) :
    Remaining source whole (done ++ (persistedOf source ⟨state, action, after⟩).toList) after := by
  cases step with
  | @collect other found absent =>
      refine remaining.kept fun rest member => ?_
      rcases List.mem_append.mp member with old | new
      · exact old
      · cases List.mem_singleton.mp new
        exact absurd rfl (same_reading found)
  | @persist other record times rest before later result spool collecting persisted =>
      by_cases same : other = source
      · subst same
        rw [persistedOf_persist, Option.toList_some]
        have yielded : whole = done ++ record :: rest :=
          remaining.2 (record :: rest) (by simp [collecting])
        refine ⟨⟨rest, by rw [yielded, List.append_assoc, List.singleton_append]⟩, ?_⟩
        intro left member
        rw [Alone, collecting] at alone
        have here : (other, left) = (other, rest) := by
          rcases List.mem_append.mp member with old | new
          · exact absurd (List.mem_append_left later old) (Alone.other alone)
          · rcases List.mem_cons.mp new with same | old
            · exact same
            · exact absurd (List.mem_append_right before old) (Alone.other alone)
        cases here
        rw [yielded, List.append_assoc, List.singleton_append]
      · rw [persistedOf_other same]
        refine remaining.kept fun left member => ?_
        rw [collecting]
        rcases List.mem_append.mp member with old | new
        · exact List.mem_append_left _ old
        · rcases List.mem_cons.mp new with here | old
          · cases here
            exact absurd rfl same
          · exact List.mem_append_right _ (List.mem_cons_of_mem _ old)
  | @refuse other record times rest before later failure collecting refused =>
      refine remaining.kept fun left member => ?_
      rw [collecting]
      exact ((List.sublist_cons_self _ later).append_left before).subset member
  | @abandon other records before later collecting =>
      refine remaining.kept fun left member => ?_
      rw [collecting]
      exact ((List.sublist_cons_self _ later).append_left before).subset member
  | crash => exact remaining.kept fun rest member => absurd member List.not_mem_nil
  | _ => exact remaining.kept fun rest member => member

theorem Remaining.run {whole done : List JournalRecord}
    (remaining : Remaining source whole done start) (alone : Alone start)
    (run : Run (Deployment.Step settings) start window finish)
    (same_reading : ∀ moved ∈ window, ∀ found, moved.label ≠ .collect source found) :
    Remaining source whole (done ++ persistedBy source window) finish := by
  induction run generalizing done with
  | nil state => simpa [persistedBy] using remaining
  | @cons start middle finish action window step _ ih =>
      rw [persistedBy_cons, ← List.append_assoc]
      exact ih (remaining.step alone step (same_reading _ List.mem_cons_self)) (alone.step step)
        fun moved member => same_reading moved (List.mem_cons_of_mem _ member)

/-! ## From the start of a reading to the next -/

/-- The steps after the start of a reading of a source, before its next reading. -/
structure Reading (source : String) (found : ε) (began : Moved unicode ε)
    (window : List (Moved unicode ε)) : Prop where
  began : began.label = .collect source found
  same_reading : ∀ moved ∈ window, ∀ again, moved.label ≠ .collect source again

/-- **A reading persists the first records that the source yields**, in order. -/
theorem persistedBy_leading {began : Moved unicode ε} {found : ε}
    (reading : Reading source found began window) (alone : Alone began.before)
    (step : Deployment.Step settings began.before began.label began.after)
    (run : Run (Deployment.Step settings) began.after window finish) :
    persistedBy source window <+:
      settings.yields source (began.before.spool.cursor source) found := by
  have all_left : Remaining source
      (settings.yields source (began.before.spool.cursor source) found) [] began.after ∧
        Alone began.after := by
    refine ⟨⟨List.nil_prefix, fun rest member => ?_⟩, alone.step step⟩
    rw [reading.began] at step
    generalize began.before = state, began.after = after at *
    cases step with
    | collect absent =>
        rcases List.mem_append.mp member with old | new
        · exact absurd (List.mem_map_of_mem old) absent
        · cases List.mem_singleton.mp new
          rfl
  exact (all_left.1.run all_left.2 run reading.same_reading).1

/-- A cursor moves to the record that is persisted. -/
theorem cursor_of_step (step : Deployment.Step settings state action after)
    (kept : action ≠ .clearCursor source) :
    after.spool.cursor source =
      ((persistedOf source ⟨state, action, after⟩).map (·.cursor)).or
        (state.spool.cursor source) := by
  by_cases persists : ∃ record times, action = .persist source record times
  · obtain ⟨record, times, rfl⟩ := persists
    rw [persistedOf_persist]
    cases step with
    | persist collecting persisted => exact (AgentSettings.persistRecord_spec persisted).2.1.1
  · have nothing : persistedOf source ⟨state, action, after⟩ = none := by
      unfold persistedOf
      split
      next other record times label =>
        dsimp only at label
        exact if_neg fun same : other = source => persists ⟨record, times, same ▸ label⟩
      · rfl
    rw [nothing]
    rcases step.cursor_cases source with same | cleared | ⟨record, times, persist, _⟩
    · exact same
    · exact absurd cleared kept
    · exact absurd ⟨record, times, persist⟩ persists

/-- **The cursor of a source is that of the last record persisted.** -/
theorem cursor_of_reading (run : Run (Deployment.Step settings) start window finish)
    (kept : ∀ moved ∈ window, moved.label ≠ .clearCursor source) :
    finish.spool.cursor source =
      ((persistedBy source window).getLast?.map (·.cursor)).or (start.spool.cursor source) := by
  induction run with
  | nil state => rfl
  | @cons start middle finish action window step _ ih =>
      rw [ih fun moved member => kept moved (List.mem_cons_of_mem _ member),
        cursor_of_step step (kept _ List.mem_cons_self), persistedBy_cons]
      cases persistedOf source ⟨start, action, middle⟩ with
      | none => rfl
      | some record =>
          rw [Option.toList_some, List.singleton_append, List.getLast?_cons]
          cases (persistedBy source window).getLast? with
          | none => rfl
          | some last => rfl

end Readings

end WolandGuard.Agent
