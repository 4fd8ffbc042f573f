import WolandGuard.Foundations.Runs

/-!
# Transactions that take locks

A transaction is a program over the committed state. It takes locks one after
another and keeps them to its end, it reads what is committed as it goes, and
its writes are seen when it commits. Transactions run interleaved; one that
asks for a lock waits while another one holds it.

A program is well locked when the locks it holds cover what it reads and what
it writes. The commit of a well-locked program is one execution of the program
on the state that the commit finds, whatever ran between its steps
(`Run.serial`). What no lock covers is read with `peek`, and such an execution
may see any state there.
-/

set_option autoImplicit false

namespace WolandGuard.Foundations

variable {σ κ ω α : Type}

/-! ## Programs -/

/-- A transaction over a state `σ` with lock keys `κ` and an outcome `ω`. -/
inductive Program (σ κ ω : Type) where
  /-- Wait for a lock and take it. -/
  | lock (key : κ) (next : Program σ κ ω)
  /-- Insert under a unique key: with the lock of the key when it is free, and
  without effect when a committed row has the key. -/
  | claim (key : κ) (taken : σ → Bool) (free used : Program σ κ ω)
  /-- Read what the locks cover. -/
  | read (next : σ → Program σ κ ω)
  /-- Read what no lock covers. -/
  | peek (next : σ → Program σ κ ω)
  | commit (write : σ → σ) (outcome : ω)
  | rollback

namespace Program

/-- The program run by itself: the state after it, and its outcome if it
commits. -/
def alone : Program σ κ ω → σ → σ × Option ω
  | .lock _ next, state => next.alone state
  | .claim _ taken free used, state => if taken state then used.alone state else free.alone state
  | .read next, state => (next state).alone state
  | .peek next, state => (next state).alone state
  | .commit write outcome, state => (write state, some outcome)
  | .rollback, state => (state, none)

/-- `Performs program state after outcome`: an execution of the program on one
state, where a `peek` and a refused `claim` are answered by any state. -/
inductive Performs : Program σ κ ω → σ → σ → ω → Prop where
  | lock {key : κ} {next : Program σ κ ω} {state after : σ} {outcome : ω} :
      Performs next state after outcome → Performs (.lock key next) state after outcome
  | claimFree {key : κ} {taken : σ → Bool} {free used : Program σ κ ω} {state after : σ}
      {outcome : ω} : taken state = false → Performs free state after outcome →
        Performs (.claim key taken free used) state after outcome
  | claimUsed {key : κ} {taken : σ → Bool} {free used : Program σ κ ω} {state after : σ}
      {outcome : ω} : Performs used state after outcome →
        Performs (.claim key taken free used) state after outcome
  | read {next : σ → Program σ κ ω} {state after : σ} {outcome : ω} :
      Performs (next state) state after outcome → Performs (.read next) state after outcome
  | peek {next : σ → Program σ κ ω} {state after : σ} {outcome : ω} (seen : σ) :
      Performs (next seen) state after outcome → Performs (.peek next) state after outcome
  | commit {write : σ → σ} {outcome : ω} {state : σ} :
      Performs (.commit write outcome) state (write state) outcome

/-- An execution by itself is an execution. -/
theorem performs_alone {program : Program σ κ ω} {state after : σ} {outcome : ω}
    (ran : program.alone state = (after, some outcome)) :
    Performs program state after outcome := by
  induction program with
  | lock key next ih => exact .lock (ih ran)
  | claim key taken free used free_ih used_ih =>
      unfold alone at ran
      split at ran
      · exact .claimUsed (used_ih ran)
      next untaken => exact .claimFree (by simpa using untaken) (free_ih ran)
  | read next ih => exact .read (ih state ran)
  | peek next ih => exact .peek state (ih state ran)
  | commit write outcome =>
      obtain ⟨rfl, same⟩ := Prod.mk.inj ran
      obtain rfl := Option.some.inj same
      exact .commit
  | rollback => cases ran

/-! ## Locks that cover -/

section Cover

variable (same : κ → σ → σ → Prop)

/-- Two states agree on what the held locks cover. -/
def Agree (held : List κ) (state other : σ) : Prop :=
  ∀ key ∈ held, same key state other

/-- The locks held cover what the program reads and writes from here on, where
`same key` relates states with the same data under a key. -/
def WellLocked : Program σ κ ω → List κ → Prop
  | .lock key next, held => next.WellLocked (key :: held)
  | .claim key taken free used, held =>
      (∀ state other, same key state other → taken state = taken other) ∧
        free.WellLocked (key :: held) ∧ used.WellLocked held
  | .read next, held =>
      (∀ state other, Agree same held state other → next state = next other) ∧
        ∀ state, (next state).WellLocked held
  | .peek next, held => ∀ state, (next state).WellLocked held
  | .commit write _, held => ∀ state key, key ∉ held → same key state (write state)
  | .rollback, _ => True

end Cover

variable {same : κ → σ → σ → Prop} {state middle other : σ} {key : κ} {held : List κ}

theorem Agree.tail (agree : Agree same (key :: held) state other) : Agree same held state other :=
  fun other_key member => agree other_key (List.mem_cons_of_mem _ member)

theorem Agree.trans (equivalence : ∀ key, Equivalence (same key))
    (first : Agree same held state middle) (second : Agree same held middle other) :
    Agree same held state other :=
  fun key member => (equivalence key).trans (first key member) (second key member)

end Program

/-! ## Interleaved transactions -/

/-- A transaction under way: the request it serves, what it still has to do,
and the locks it holds. -/
structure Transaction (α σ κ ω : Type) where
  request : α
  rest : Program σ κ ω
  held : List κ

/-- The committed state and the transactions under way. -/
structure Transactions (α σ κ ω : Type) where
  committed : σ
  active : List (Transaction α σ κ ω)

/-- The label of a step. -/
inductive Move (α ω : Type) where
  | start (request : α)
  | advance
  | commit (request : α) (outcome : ω)
  | abort
  deriving DecidableEq

/-- No other transaction holds a lock. -/
def Available (key : κ) (others : List (Transaction α σ κ ω)) : Prop :=
  ∀ other ∈ others, key ∉ other.held

/-- One step of one transaction, where `code` is the program of a request. A
transaction may be aborted at any time. -/
inductive Transactions.Step (code : α → Program σ κ ω) :
    Transactions α σ κ ω → Move α ω → Transactions α σ κ ω → Prop where
  | start {state : σ} {active : List (Transaction α σ κ ω)} (request : α) :
      Step code ⟨state, active⟩ (.start request) ⟨state, active ++ [⟨request, code request, []⟩]⟩
  | lock {state : σ} {before after : List (Transaction α σ κ ω)} {request : α} {key : κ}
      {next : Program σ κ ω} {held : List κ} : Available key (before ++ after) →
      Step code ⟨state, before ++ ⟨request, .lock key next, held⟩ :: after⟩ .advance
        ⟨state, before ++ ⟨request, next, key :: held⟩ :: after⟩
  | claimFree {state : σ} {before after : List (Transaction α σ κ ω)} {request : α} {key : κ}
      {taken : σ → Bool} {free used : Program σ κ ω} {held : List κ} :
      Available key (before ++ after) → taken state = false →
      Step code ⟨state, before ++ ⟨request, .claim key taken free used, held⟩ :: after⟩ .advance
        ⟨state, before ++ ⟨request, free, key :: held⟩ :: after⟩
  | claimUsed {state : σ} {before after : List (Transaction α σ κ ω)} {request : α} {key : κ}
      {taken : σ → Bool} {free used : Program σ κ ω} {held : List κ} : taken state = true →
      Step code ⟨state, before ++ ⟨request, .claim key taken free used, held⟩ :: after⟩ .advance
        ⟨state, before ++ ⟨request, used, held⟩ :: after⟩
  | read {state : σ} {before after : List (Transaction α σ κ ω)} {request : α}
      {next : σ → Program σ κ ω} {held : List κ} :
      Step code ⟨state, before ++ ⟨request, .read next, held⟩ :: after⟩ .advance
        ⟨state, before ++ ⟨request, next state, held⟩ :: after⟩
  | peek {state : σ} {before after : List (Transaction α σ κ ω)} {request : α}
      {next : σ → Program σ κ ω} {held : List κ} :
      Step code ⟨state, before ++ ⟨request, .peek next, held⟩ :: after⟩ .advance
        ⟨state, before ++ ⟨request, next state, held⟩ :: after⟩
  | commit {state : σ} {before after : List (Transaction α σ κ ω)} {request : α} {write : σ → σ}
      {outcome : ω} {held : List κ} :
      Step code ⟨state, before ++ ⟨request, .commit write outcome, held⟩ :: after⟩
        (.commit request outcome) ⟨write state, before ++ after⟩
  | abort {state : σ} {before after : List (Transaction α σ κ ω)}
      {transaction : Transaction α σ κ ω} :
      Step code ⟨state, before ++ transaction :: after⟩ .abort ⟨state, before ++ after⟩

namespace Transactions

/-- The installation with nothing under way. -/
def idle (state : σ) : Transactions α σ κ ω := ⟨state, []⟩

/-! ## Commits are atomic -/

section Serial

variable (same : κ → σ → σ → Prop) (code : α → Program σ κ ω)

/-- Locks are held once, cover what is left to do, and what is left to do on
any state that agrees with the committed one is an execution of the whole
program there. -/
structure Covered (system : Transactions α σ κ ω) : Prop where
  disjoint : system.active.Pairwise fun left right => List.Disjoint left.held right.held
  wellLocked : ∀ transaction ∈ system.active,
    transaction.rest.WellLocked same transaction.held
  resumes : ∀ transaction ∈ system.active, ∀ seen after outcome,
    Program.Agree same transaction.held system.committed seen →
      transaction.rest.Performs seen after outcome →
        (code transaction.request).Performs seen after outcome

variable {same code}
variable {state : σ} {before after : List (Transaction α σ κ ω)}
variable {transaction other : Transaction α σ κ ω}

theorem Covered.idle (state : σ) : Covered same code (idle state) where
  disjoint := .nil
  wellLocked := by simp [Transactions.idle]
  resumes := by simp [Transactions.idle]

/-- What is known of one transaction among the others. -/
theorem Covered.pick (covered : Covered same code ⟨state, before ++ transaction :: after⟩) :
    (∀ other ∈ before ++ after, List.Disjoint transaction.held other.held) ∧
      transaction.rest.WellLocked same transaction.held ∧
      ∀ seen finish outcome, Program.Agree same transaction.held state seen →
        transaction.rest.Performs seen finish outcome →
          (code transaction.request).Performs seen finish outcome := by
  have paired := (List.pairwise_middle fun away => List.disjoint_comm.mp away).mp covered.disjoint
  exact ⟨(List.pairwise_cons.mp paired).1, covered.wellLocked transaction (by simp),
    covered.resumes transaction (by simp)⟩

/-- The others without one transaction. -/
theorem Covered.drop (covered : Covered same code ⟨state, before ++ transaction :: after⟩) :
    Covered same code ⟨state, before ++ after⟩ where
  disjoint :=
    have paired := (List.pairwise_middle fun away => List.disjoint_comm.mp away).mp covered.disjoint
    (List.pairwise_cons.mp paired).2
  wellLocked other member := covered.wellLocked other (by
    rcases List.mem_append.mp member with left | right
    · exact List.mem_append_left _ left
    · exact List.mem_append_right _ (List.mem_cons_of_mem _ right))
  resumes other member := covered.resumes other (by
    rcases List.mem_append.mp member with left | right
    · exact List.mem_append_left _ left
    · exact List.mem_append_right _ (List.mem_cons_of_mem _ right))

/-- One more transaction among the others. -/
theorem Covered.insert (covered : Covered same code ⟨state, before ++ after⟩)
    (apart : ∀ other ∈ before ++ after, List.Disjoint transaction.held other.held)
    (wellLocked : transaction.rest.WellLocked same transaction.held)
    (resumes : ∀ seen finish outcome, Program.Agree same transaction.held state seen →
      transaction.rest.Performs seen finish outcome →
        (code transaction.request).Performs seen finish outcome) :
    Covered same code ⟨state, before ++ transaction :: after⟩ where
  disjoint := (List.pairwise_middle fun away => List.disjoint_comm.mp away).mpr
    (List.pairwise_cons.mpr ⟨apart, covered.disjoint⟩)
  wellLocked other member := by
    rcases List.mem_append.mp member with left | right
    · exact covered.wellLocked other (List.mem_append_left _ left)
    · rcases List.mem_cons.mp right with rfl | rest
      · exact wellLocked
      · exact covered.wellLocked other (List.mem_append_right _ rest)
  resumes other member := by
    rcases List.mem_append.mp member with left | right
    · exact covered.resumes other (List.mem_append_left _ left)
    · rcases List.mem_cons.mp right with rfl | rest
      · exact resumes
      · exact covered.resumes other (List.mem_append_right _ rest)

/-- A write under held locks leaves what the other locks cover. -/
theorem Covered.write {write : σ → σ} {held : List κ} (equivalence : ∀ key, Equivalence (same key))
    (covered : Covered same code ⟨state, before ++ after⟩)
    (apart : ∀ other ∈ before ++ after, List.Disjoint held other.held)
    (kept : ∀ key, key ∉ held → same key state (write state)) :
    Covered same code ⟨write state, before ++ after⟩ where
  disjoint := covered.disjoint
  wellLocked := covered.wellLocked
  resumes other member seen finish outcome agree performs := by
    have unchanged : Program.Agree same other.held state (write state) := fun key held_by_other =>
      kept key fun held_here => apart other member held_here held_by_other
    exact covered.resumes other member seen finish outcome (unchanged.trans equivalence agree) performs

variable {system next : Transactions α σ κ ω} {move : Move α ω}

/-- **A step keeps the cover, and a commit is one execution of its program.** -/
theorem Covered.step (equivalence : ∀ key, Equivalence (same key))
    (wellLocked : ∀ request, (code request).WellLocked same [])
    (covered : Covered same code system) (taken : Step code system move next) :
    Covered same code next ∧
      ∀ request outcome, move = .commit request outcome →
        (code request).Performs system.committed next.committed outcome := by
  cases taken with
  | @start state active request =>
      refine ⟨?_, fun _ _ same_move => by cases same_move⟩
      refine Covered.insert (by simpa using covered) (fun other _ => by simp)
        (wellLocked request) (fun _ _ _ _ performs => performs)
  | @lock state before after request key next held available =>
      obtain ⟨apart, locked, resumes⟩ := covered.pick
      refine ⟨covered.drop.insert (fun other member => ?_) locked (fun seen finish outcome agree
        performs => resumes seen finish outcome agree.tail (.lock performs)),
        fun _ _ same_move => by cases same_move⟩
      exact List.disjoint_cons_left.mpr ⟨available other member, apart other member⟩
  | @claimFree state before after request key taken free used held available untaken =>
      obtain ⟨apart, ⟨decides, locked, _⟩, resumes⟩ := covered.pick
      refine ⟨covered.drop.insert (fun other member => ?_) locked (fun seen finish outcome agree
        performs => ?_), fun _ _ same_move => by cases same_move⟩
      · exact List.disjoint_cons_left.mpr ⟨available other member, apart other member⟩
      · have still : taken seen = false :=
          (decides state seen (agree key List.mem_cons_self)).symm.trans untaken
        exact resumes seen finish outcome agree.tail (.claimFree still performs)
  | @claimUsed state before after request key taken free used held is_taken =>
      obtain ⟨apart, ⟨_, _, locked⟩, resumes⟩ := covered.pick
      exact ⟨covered.drop.insert apart locked (fun seen finish outcome agree performs =>
        resumes seen finish outcome agree (.claimUsed performs)),
        fun _ _ same_move => by cases same_move⟩
  | @read state before after request next held =>
      obtain ⟨apart, ⟨decides, locked⟩, resumes⟩ := covered.pick
      refine ⟨covered.drop.insert apart (locked state) (fun seen finish outcome agree
        performs => ?_), fun _ _ same_move => by cases same_move⟩
      rw [decides state seen agree] at performs
      exact resumes seen finish outcome agree (.read performs)
  | @peek state before after request next held =>
      obtain ⟨apart, locked, resumes⟩ := covered.pick
      exact ⟨covered.drop.insert apart (locked state) (fun seen finish outcome agree performs =>
        resumes seen finish outcome agree (.peek state performs)),
        fun _ _ same_move => by cases same_move⟩
  | @commit state before after request write outcome held =>
      obtain ⟨apart, locked, resumes⟩ := covered.pick
      refine ⟨covered.drop.write equivalence apart (locked state), fun _ _ same_move => ?_⟩
      obtain ⟨rfl, rfl⟩ : request = _ ∧ outcome = _ := by simpa using same_move
      have agree : Program.Agree same held state state := fun key _ => (equivalence key).refl state
      exact resumes state (write state) outcome agree .commit
  | abort => exact ⟨covered.drop, fun _ _ same_move => by cases same_move⟩

/-- Only a commit changes the committed state. -/
theorem Step.committed_eq (taken : Step code system move next)
    (no_commit : ∀ request outcome, move ≠ .commit request outcome) :
    next.committed = system.committed := by
  cases taken with
  | commit => exact absurd rfl (no_commit _ _)
  | _ => rfl

end Serial

/-! ## The commits of a run -/

/-- The commit that a step is, if it is one, as a step of the committed state. -/
def commitOf (taken : Taken (Transactions α σ κ ω) (Move α ω)) : Option (Taken σ (α × ω)) :=
  match taken.label with
  | .commit request outcome =>
      some ⟨taken.before.committed, (request, outcome), taken.after.committed⟩
  | _ => none

/-- The commits of a path, in their order. -/
def commits (path : List (Taken (Transactions α σ κ ω) (Move α ω))) : List (Taken σ (α × ω)) :=
  path.filterMap commitOf

/-- One request served by itself. -/
def Serves (code : α → Program σ κ ω) (state : σ) (served : α × ω) (after : σ) : Prop :=
  (code served.1).Performs state after served.2

/-- **The commits of interleaved well-locked transactions are a serial run.** -/
theorem serial {same : κ → σ → σ → Prop} {code : α → Program σ κ ω}
    {start finish : Transactions α σ κ ω}
    {path : List (Taken (Transactions α σ κ ω) (Move α ω))}
    (run : Run (Step code) start path finish) (equivalence : ∀ key, Equivalence (same key))
    (wellLocked : ∀ request, (code request).WellLocked same [])
    (covered : Covered same code start) :
    Run (Serves code) start.committed (commits path) finish.committed := by
  induction run with
  | nil state => exact .nil _
  | @cons start middle finish move path taken _ ih =>
      obtain ⟨covered_next, performs⟩ := covered.step equivalence wellLocked taken
      have rest := ih covered_next
      cases move with
      | commit request outcome => exact .cons (performs request outcome rfl) rest
      | start request =>
          rw [taken.committed_eq (by simp)] at rest
          exact rest
      | advance =>
          rw [taken.committed_eq (by simp)] at rest
          exact rest
      | abort =>
          rw [taken.committed_eq (by simp)] at rest
          exact rest

/-- A serial run leads to every state of a run, and another one from there. -/
theorem serial_around {same : κ → σ → σ → Prop} {code : α → Program σ κ ω}
    {start finish : Transactions α σ κ ω}
    {path : List (Taken (Transactions α σ κ ω) (Move α ω))}
    (run : Run (Step code) start path finish) (equivalence : ∀ key, Equivalence (same key))
    (wellLocked : ∀ request, (code request).WellLocked same [])
    (covered : Covered same code start)
    {taken : Taken (Transactions α σ κ ω) (Move α ω)} (member : taken ∈ path) :
    (∃ earlier, Run (Serves code) start.committed earlier taken.after.committed) ∧
      ∃ later, Run (Serves code) taken.after.committed later finish.committed := by
  have covered_after : Covered same code taken.after :=
    (run.invariant_at (fun _ _ _ holds step => (holds.step equivalence wellLocked step).1) covered
      member).2
  obtain ⟨earlier, rest, rfl⟩ := List.append_of_mem member
  obtain ⟨first, step, remaining⟩ := run.around
  exact ⟨⟨_, serial (first.trans (.single step)) equivalence wellLocked covered⟩,
    ⟨_, serial remaining equivalence wellLocked covered_after⟩⟩

/-! ## One transaction after another -/

section Alone

variable (code : α → Program σ κ ω)

/-- The state after requests that are served one after another. -/
def serveAlone (state : σ) (request : α) : σ := ((code request).alone state).1

/-- The commits of requests that are served one after another. -/
def commitsAlone (state : σ) : List α → List (Taken σ (α × ω))
  | [] => []
  | request :: rest =>
      match (code request).alone state with
      | (after, some outcome) => ⟨state, (request, outcome), after⟩ :: commitsAlone after rest
      | (after, none) => commitsAlone after rest

variable {code}

/-- The last transaction under way can run to its end. -/
theorem run_alone (request : α) (program : Program σ κ ω) (state : σ) (held : List κ) :
    ∃ path, Run (Step code) ⟨state, [⟨request, program, held⟩]⟩ path
        (idle (program.alone state).1) ∧
      commits path =
        ((program.alone state).2.map fun outcome =>
          ⟨state, (request, outcome), (program.alone state).1⟩).toList := by
  induction program generalizing held with
  | lock key next ih =>
      obtain ⟨path, run, commits_eq⟩ := ih (key :: held)
      have taken : Step code ⟨state, [] ++ ⟨request, .lock key next, held⟩ :: []⟩ .advance
          ⟨state, [] ++ ⟨request, next, key :: held⟩ :: []⟩ := .lock (by simp [Available])
      exact ⟨_, .cons taken run, commits_eq⟩
  | claim key taken free used free_ih used_ih =>
      unfold Program.alone
      split
      next is_taken =>
        obtain ⟨path, run, commits_eq⟩ := used_ih held
        have taken : Step code ⟨state, [] ++ ⟨request, .claim key taken free used, held⟩ :: []⟩
            .advance ⟨state, [] ++ ⟨request, used, held⟩ :: []⟩ := .claimUsed is_taken
        exact ⟨_, .cons taken run, commits_eq⟩
      next untaken =>
        obtain ⟨path, run, commits_eq⟩ := free_ih (key :: held)
        have taken : Step code ⟨state, [] ++ ⟨request, .claim key taken free used, held⟩ :: []⟩
            .advance ⟨state, [] ++ ⟨request, free, key :: held⟩ :: []⟩ :=
          .claimFree (by simp [Available]) (by simpa using untaken)
        exact ⟨_, .cons taken run, commits_eq⟩
  | read next ih =>
      obtain ⟨path, run, commits_eq⟩ := ih state held
      have taken : Step code ⟨state, [] ++ ⟨request, .read next, held⟩ :: []⟩ .advance
          ⟨state, [] ++ ⟨request, next state, held⟩ :: []⟩ := .read
      exact ⟨_, .cons taken run, commits_eq⟩
  | peek next ih =>
      obtain ⟨path, run, commits_eq⟩ := ih state held
      have taken : Step code ⟨state, [] ++ ⟨request, .peek next, held⟩ :: []⟩ .advance
          ⟨state, [] ++ ⟨request, next state, held⟩ :: []⟩ := .peek
      exact ⟨_, .cons taken run, commits_eq⟩
  | commit write outcome =>
      have taken : Step code ⟨state, [] ++ ⟨request, .commit write outcome, held⟩ :: []⟩
          (.commit request outcome) ⟨write state, [] ++ []⟩ := .commit
      exact ⟨_, .single taken, rfl⟩
  | rollback =>
      have taken : Step code ⟨state, [] ++ ⟨request, .rollback, held⟩ :: []⟩ .abort
          ⟨state, [] ++ []⟩ := .abort
      exact ⟨_, .single taken, rfl⟩

/-- **Requests can be served one after another.** -/
theorem run_serveAlone (state : σ) (requests : List α) :
    ∃ path, Run (Step code) (idle state) path (idle (requests.foldl (serveAlone code) state)) ∧
      commits path = commitsAlone code state requests := by
  induction requests generalizing state with
  | nil => exact ⟨[], .nil _, rfl⟩
  | cons request rest ih =>
      obtain ⟨first, first_run, first_commits⟩ :=
        run_alone request (code request) state []
      obtain ⟨later, later_run, later_commits⟩ := ih (serveAlone code state request)
      have started : Step code (idle state) (.start request) ⟨state, [⟨request, code request, []⟩]⟩ :=
        .start request
      refine ⟨_, .cons started (first_run.trans later_run), ?_⟩
      have cut : commits (⟨idle state, .start request, ⟨state, [⟨request, code request, []⟩]⟩⟩ ::
          (first ++ later)) = commits first ++ commits later := List.filterMap_append
      rw [cut, first_commits, later_commits]
      simp only [commitsAlone, serveAlone]
      cases ran : (code request).alone state with
      | mk after outcome => cases outcome <;> rfl

end Alone

end Transactions

end WolandGuard.Foundations
