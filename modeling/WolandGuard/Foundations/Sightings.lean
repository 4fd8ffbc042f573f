import WolandGuard.Foundations.Transactions

/-!
# What a transaction has seen

`Performs` lets a `peek` be answered by any state. In a run it is answered by
the committed state of the moment, which agrees with the state of the commit on
what the transaction's locks cover. `PerformsSeeing` keeps this: it names the
states that may be seen. Every commit of a run is such an execution of its
program, where the states seen are those since its transaction began
(`seen_at_commit`).
-/

set_option autoImplicit false

namespace WolandGuard.Foundations

variable {σ κ ω α : Type}

namespace Program

section Seeing

variable (same : κ → σ → σ → Prop) (visible : σ → Prop)

/-- An execution on one state whose unlocked reads are answered by visible
states. -/
inductive PerformsSeeing : Program σ κ ω → List κ → σ → σ → ω → Prop where
  | lock {key : κ} {next : Program σ κ ω} {held : List κ} {state after : σ} {outcome : ω} :
      PerformsSeeing next (key :: held) state after outcome →
        PerformsSeeing (.lock key next) held state after outcome
  | claimFree {key : κ} {taken : σ → Bool} {free used : Program σ κ ω} {held : List κ}
      {state after : σ} {outcome : ω} : taken state = false →
        PerformsSeeing free (key :: held) state after outcome →
          PerformsSeeing (.claim key taken free used) held state after outcome
  | claimUsed {key : κ} {taken : σ → Bool} {free used : Program σ κ ω} {held : List κ}
      {state after : σ} {outcome : ω} (seen : σ) : visible seen → taken seen = true →
        PerformsSeeing used held state after outcome →
          PerformsSeeing (.claim key taken free used) held state after outcome
  | read {next : σ → Program σ κ ω} {held : List κ} {state after : σ} {outcome : ω} :
      PerformsSeeing (next state) held state after outcome →
        PerformsSeeing (.read next) held state after outcome
  | peek {next : σ → Program σ κ ω} {held : List κ} {state after : σ} {outcome : ω} (seen : σ) :
      visible seen → Agree same held seen state →
        PerformsSeeing (next seen) held state after outcome →
          PerformsSeeing (.peek next) held state after outcome
  | commit {write : σ → σ} {outcome : ω} {held : List κ} {state : σ} :
      PerformsSeeing (.commit write outcome) held state (write state) outcome

end Seeing

variable {same : κ → σ → σ → Prop} {visible : σ → Prop}
variable {program : Program σ κ ω} {held : List κ} {state after : σ} {outcome : ω}

/-- It is an execution. -/
theorem PerformsSeeing.performs
    (performs : PerformsSeeing same visible program held state after outcome) :
    Performs program state after outcome := by
  induction performs with
  | lock _ ih => exact .lock ih
  | claimFree untaken _ ih => exact .claimFree untaken ih
  | claimUsed seen _ _ _ ih => exact .claimUsed ih
  | read _ ih => exact .read ih
  | peek seen _ _ _ ih => exact .peek seen ih
  | commit => exact .commit

/-- An execution by itself sees the state it starts from. -/
theorem performsSeeing_alone (refl : ∀ key state, same key state state)
    (ran : program.alone state = (after, some outcome)) :
    program.PerformsSeeing same (· = state) held state after outcome := by
  induction program generalizing held with
  | lock key next ih => exact .lock (ih ran)
  | claim key taken free used free_ih used_ih =>
      unfold alone at ran
      split at ran
      next is_taken => exact .claimUsed state rfl is_taken (used_ih ran)
      next untaken => exact .claimFree (by simpa using untaken) (free_ih ran)
  | read next ih => exact .read (ih state ran)
  | peek next ih => exact .peek state rfl (fun key _ => refl key state) (ih state ran)
  | commit write outcome =>
      obtain ⟨rfl, same⟩ := Prod.mk.inj ran
      obtain rfl := Option.some.inj same
      exact .commit
  | rollback => cases ran

/-- Whatever a program reads, what it commits is related to what was there. -/
def Writes (kept : σ → σ → Prop) : Program σ κ ω → Prop
  | .lock _ next => next.Writes kept
  | .claim _ _ free used => free.Writes kept ∧ used.Writes kept
  | .read next => ∀ seen, (next seen).Writes kept
  | .peek next => ∀ seen, (next seen).Writes kept
  | .commit write _ => ∀ state, kept state (write state)
  | .rollback => True

/-- **A program that only makes such writes, run by itself.** -/
theorem Writes.alone {kept : σ → σ → Prop} (refl : ∀ state, kept state state)
    (writes : program.Writes kept) (state : σ) : kept state (program.alone state).1 := by
  induction program with
  | lock key next ih => exact ih writes
  | claim key taken free used free_ih used_ih =>
      unfold Program.alone
      split
      · exact used_ih writes.2
      · exact free_ih writes.1
  | read next ih => exact ih state (writes state)
  | peek next ih => exact ih state (writes state)
  | commit write outcome => exact writes state
  | rollback => exact refl state

end Program

namespace Transactions

open Program

/-- A recorded step of transactions. -/
abbrev Recorded (α σ κ ω : Type) := Taken (Transactions α σ κ ω) (Move α ω)

/-- The committed states before the steps of a path. -/
def Seen (path : List (Recorded α σ κ ω)) (state : σ) : Prop :=
  ∃ taken ∈ path, taken.before.committed = state

section Track

variable (same : κ → σ → σ → Prop) (code : α → Program σ κ ω)

/-- What is left of a transaction continues an execution since it began. -/
def Tracks (path : List (Recorded α σ κ ω)) (committed : σ) (transaction : Transaction α σ κ ω) :
    Prop :=
  ∃ earlier began window, path = earlier ++ began :: window ∧
    began.label = .start transaction.request ∧
    ∀ visible : σ → Prop, (∀ state, Seen window state → visible state) →
      ∀ seen after outcome, Agree same transaction.held committed seen →
        transaction.rest.PerformsSeeing same visible transaction.held seen after outcome →
          (code transaction.request).PerformsSeeing same visible [] seen after outcome

variable {same code}
variable {path : List (Recorded α σ κ ω)} {taken : Recorded α σ κ ω}
variable {committed : σ} {transaction : Transaction α σ κ ω}

theorem Seen.append {earlier later : List (Recorded α σ κ ω)} {state : σ}
    (seen : Seen earlier state) : Seen (earlier ++ later) state := by
  obtain ⟨taken, member, same⟩ := seen
  exact ⟨taken, List.mem_append_left _ member, same⟩

theorem Seen.last {earlier : List (Recorded α σ κ ω)} :
    Seen (earlier ++ [taken]) taken.before.committed :=
  ⟨taken, by simp, rfl⟩

/-- A step of the transaction itself, which sees the committed state. -/
theorem Tracks.resume {request : α} {old rest : Program σ κ ω} {past held : List κ}
    (tracks : Tracks same code path committed ⟨request, old, past⟩)
    (here : taken.before.committed = committed)
    (resumes : ∀ visible : σ → Prop, visible committed → ∀ seen after outcome,
      Agree same held committed seen → rest.PerformsSeeing same visible held seen after outcome →
        Agree same past committed seen ∧
          old.PerformsSeeing same visible past seen after outcome) :
    Tracks same code (path ++ [taken]) committed ⟨request, rest, held⟩ := by
  obtain ⟨earlier, began, window, rfl, label, continues⟩ := tracks
  refine ⟨earlier, began, window ++ [taken], by simp, label, ?_⟩
  intro visible shown seen after outcome agree performs
  obtain ⟨agreed, resumed⟩ := resumes visible (shown _ (here ▸ .last)) seen after outcome agree
    performs
  exact continues visible (fun state in_window => shown state in_window.append) seen after outcome
    agreed resumed

/-- A step of another transaction. -/
theorem Tracks.wait {next : σ} (equivalence : ∀ key, Equivalence (same key))
    (tracks : Tracks same code path committed transaction)
    (unchanged : Agree same transaction.held committed next) :
    Tracks same code (path ++ [taken]) next transaction := by
  obtain ⟨earlier, began, window, rfl, label, continues⟩ := tracks
  refine ⟨earlier, began, window ++ [taken], by simp, label, ?_⟩
  intro visible shown seen after outcome agree performs
  exact continues visible (fun state in_window => shown state in_window.append) seen after outcome
    (unchanged.trans equivalence agree) performs

end Track

/-! ## Steps -/

section Steps

variable {same : κ → σ → σ → Prop} {code : α → Program σ κ ω}
variable {path : List (Recorded α σ κ ω)}

/-- The transactions under way are covered and tracked. -/
structure Tracked (same : κ → σ → σ → Prop) (code : α → Program σ κ ω)
    (path : List (Recorded α σ κ ω)) (system : Transactions α σ κ ω) : Prop where
  covered : Covered same code system
  tracks : ∀ transaction ∈ system.active, Tracks same code path system.committed transaction

/-- One transaction steps, and nothing is written. -/
theorem Tracked.replace {state : σ} {before after : List (Transaction α σ κ ω)} {request : α}
    {old rest : Program σ κ ω} {past held : List κ} {taken : Recorded α σ κ ω}
    (equivalence : ∀ key, Equivalence (same key))
    (tracked : Tracked same code path ⟨state, before ++ ⟨request, old, past⟩ :: after⟩)
    (here : taken.before.committed = state)
    (resumes : ∀ visible : σ → Prop, visible state → ∀ seen finish outcome,
      Agree same held state seen → rest.PerformsSeeing same visible held seen finish outcome →
        Agree same past state seen ∧
          old.PerformsSeeing same visible past seen finish outcome) :
    ∀ other ∈ before ++ ⟨request, rest, held⟩ :: after,
      Tracks same code (path ++ [taken]) state other := by
  have waits : ∀ other ∈ before ++ ⟨request, old, past⟩ :: after,
      Tracks same code (path ++ [taken]) state other := fun other member =>
    (tracked.tracks other member).wait equivalence fun key _ => (equivalence key).refl state
  intro other member
  rcases List.mem_append.mp member with left | right
  · exact waits other (List.mem_append_left _ left)
  · rcases List.mem_cons.mp right with rfl | rest
    · exact (tracked.tracks ⟨request, old, past⟩ (by simp)).resume here resumes
    · exact waits other (List.mem_append_right _ (List.mem_cons_of_mem _ rest))

variable {system next : Transactions α σ κ ω} {move : Move α ω}

/-- **A step keeps the tracks.** -/
theorem Tracked.step (equivalence : ∀ key, Equivalence (same key))
    (wellLocked : ∀ request, (code request).WellLocked same [])
    (tracked : Tracked same code path system) (step : Step code system move next) :
    Tracked same code (path ++ [⟨system, move, next⟩]) next := by
  refine ⟨(tracked.covered.step equivalence wellLocked step).1, ?_⟩
  cases step with
  | @start state active request =>
      intro other member
      rcases List.mem_append.mp member with old | new
      · exact (tracked.tracks other old).wait equivalence fun key _ => (equivalence key).refl state
      · obtain rfl := List.mem_singleton.mp new
        refine ⟨path, ⟨⟨state, active⟩, .start request, _⟩, [], rfl, rfl, ?_⟩
        exact fun _ _ _ _ _ _ performs => performs
  | @lock state before after request key following held available =>
      exact tracked.replace equivalence rfl fun visible _ seen finish outcome agree performs =>
        ⟨agree.tail, .lock performs⟩
  | @claimFree state before after request key taken free used held available untaken =>
      obtain ⟨_, ⟨decides, _, _⟩, _⟩ := tracked.covered.pick
      refine tracked.replace equivalence rfl fun visible _ seen finish outcome agree performs =>
        ⟨agree.tail, .claimFree ?_ performs⟩
      exact (decides state seen (agree key List.mem_cons_self)).symm.trans untaken
  | @claimUsed state before after request key taken free used held is_taken =>
      exact tracked.replace equivalence rfl fun visible shown seen finish outcome agree performs =>
        ⟨agree, .claimUsed state shown is_taken performs⟩
  | @read state before after request following held =>
      obtain ⟨_, ⟨decides, _⟩, _⟩ := tracked.covered.pick
      refine tracked.replace equivalence rfl fun visible _ seen finish outcome agree performs =>
        ⟨agree, .read ?_⟩
      rwa [← decides state seen agree]
  | @peek state before after request following held =>
      exact tracked.replace equivalence rfl fun visible shown seen finish outcome agree performs =>
        ⟨agree, .peek state shown agree performs⟩
  | @commit state before after request write outcome held =>
      obtain ⟨apart, kept, _⟩ := tracked.covered.pick
      intro other member
      have old : other ∈ before ++ ⟨request, .commit write outcome, held⟩ :: after := by
        rcases List.mem_append.mp member with left | right
        · exact List.mem_append_left _ left
        · exact List.mem_append_right _ (List.mem_cons_of_mem _ right)
      exact (tracked.tracks other old).wait equivalence fun key held_by_other =>
        kept state key fun held_here => apart other member held_here held_by_other
  | @abort state before after transaction =>
      intro other member
      have old : other ∈ before ++ transaction :: after := by
        rcases List.mem_append.mp member with left | right
        · exact List.mem_append_left _ left
        · exact List.mem_append_right _ (List.mem_cons_of_mem _ right)
      exact (tracked.tracks other old).wait equivalence fun key _ => (equivalence key).refl state

/-- A commit is an execution that has seen states since it began. -/
theorem Tracked.commit (equivalence : ∀ key, Equivalence (same key))
    (tracked : Tracked same code path system) {request : α} {outcome : ω}
    (step : Step code system (.commit request outcome) next) :
    ∃ earlier began window, path = earlier ++ began :: window ∧ began.label = .start request ∧
      (code request).PerformsSeeing same (Seen window) [] system.committed next.committed
        outcome := by
  cases step with
  | @commit state before after request write outcome held =>
      obtain ⟨earlier, began, window, split, label, continues⟩ :=
        tracked.tracks ⟨request, .commit write outcome, held⟩ (by simp)
      exact ⟨earlier, began, window, split, label, continues (Seen window) (fun _ shown => shown)
        state _ outcome (fun key _ => (equivalence key).refl state) .commit⟩

end Steps

/-! ## Runs -/

section Runs

variable {same : κ → σ → σ → Prop} {code : α → Program σ κ ω}
variable {start finish : Transactions α σ κ ω} {path : List (Recorded α σ κ ω)}

theorem covered_of_idle (idle : start.active = []) : Covered same code start := by
  obtain ⟨committed, active⟩ := start
  obtain rfl : active = [] := idle
  exact .idle committed

theorem tracked_of_run (run : Run (Step code) start path finish) (idle : start.active = [])
    (equivalence : ∀ key, Equivalence (same key))
    (wellLocked : ∀ request, (code request).WellLocked same []) : Tracked same code path finish :=
  run.extend ⟨covered_of_idle idle, by simp [idle]⟩
    fun _ _ _ _ _ tracked step => tracked.step equivalence wellLocked step

/-- **Every commit of a run has seen states of the run since it began.** -/
theorem seen_at_commit (run : Run (Step code) start path finish) (idle : start.active = [])
    (equivalence : ∀ key, Equivalence (same key))
    (wellLocked : ∀ request, (code request).WellLocked same [])
    {earlier later : List (Recorded α σ κ ω)} {committing : Recorded α σ κ ω}
    (cut : path = earlier ++ committing :: later) {request : α} {outcome : ω}
    (label : committing.label = .commit request outcome) :
    ∃ before began window, earlier = before ++ began :: window ∧ began.label = .start request ∧
      (code request).PerformsSeeing same (Seen window) [] committing.before.committed
        committing.after.committed outcome := by
  subst cut
  obtain ⟨first, step, _⟩ := run.around
  rw [label] at step
  exact (tracked_of_run first idle equivalence wellLocked).commit equivalence step

/-- **An invariant of the executions holds in a run, and a preorder that they
keep relates its committed states**, where an execution has seen states that the
preorder puts before its own. -/
theorem invariant_seeing {inv : σ → Prop} {later : σ → σ → Prop}
    (run : Run (Step code) start path finish) (idle : start.active = [])
    (equivalence : ∀ key, Equivalence (same key))
    (wellLocked : ∀ request, (code request).WellLocked same [])
    (refl : ∀ state, later state state)
    (transitive : ∀ first second third, later first second → later second third →
      later first third)
    (kept : ∀ request state after outcome visible, inv state →
      (∀ seen, visible seen → inv seen ∧ later seen state) →
        (code request).PerformsSeeing same visible [] state after outcome →
          inv after ∧ later state after)
    (holds : inv start.committed) :
    inv finish.committed ∧
      ∀ taken ∈ path, inv taken.before.committed ∧
        later taken.before.committed finish.committed ∧
        later taken.after.committed finish.committed := by
  refine run.extend (motive := fun path finish => inv finish.committed ∧ ∀ taken ∈ path,
    inv taken.before.committed ∧ later taken.before.committed finish.committed ∧
      later taken.after.committed finish.committed) ⟨holds, by simp⟩ ?_
  rintro earlier state move after reached ⟨inv_state, before⟩ step
  -- the last step keeps the invariant and leads to a later state
  have advanced : inv after.committed ∧ later state.committed after.committed := by
    cases move with
    | commit request outcome =>
        obtain ⟨_, began, window, split, _, performs⟩ :=
          (tracked_of_run reached idle equivalence wellLocked).commit equivalence step
        refine kept request _ _ outcome _ inv_state (fun seen shown => ?_) performs
        obtain ⟨taken, member, rfl⟩ := shown
        have past := before taken (by rw [split]; simp [member])
        exact ⟨past.1, past.2.1⟩
    | start request =>
        rw [step.committed_eq (by simp)]
        exact ⟨inv_state, refl _⟩
    | advance =>
        rw [step.committed_eq (by simp)]
        exact ⟨inv_state, refl _⟩
    | abort =>
        rw [step.committed_eq (by simp)]
        exact ⟨inv_state, refl _⟩
  refine ⟨advanced.1, fun taken member => ?_⟩
  rcases List.mem_append.mp member with old | last
  · obtain ⟨inv_before, first, second⟩ := before taken old
    exact ⟨inv_before, transitive _ _ _ first advanced.2, transitive _ _ _ second advanced.2⟩
  · obtain rfl := List.mem_singleton.mp last
    exact ⟨inv_state, advanced.2, refl _⟩

end Runs

end Transactions

end WolandGuard.Foundations
