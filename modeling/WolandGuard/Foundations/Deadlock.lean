import Mathlib.Logic.Relation
import WolandGuard.Foundations.Schedules
import WolandGuard.Foundations.Sightings

/-!
# Transactions that wait for each other

A transaction waits when it asks for a lock that another one holds. A cycle of
waiting transactions never ends by itself.

A discipline says which lock a transaction may ask for with the locks it holds.
Some locks are contended, and a relation orders them: a transaction asks for a
contended lock only if every contended lock that it holds is related to it. The
other locks are guarded, and what guards them has to show that nobody waits for
them. Then the locks that are waited for along a cycle are related to
themselves (`related_of_cycle`), so an order has no cycle.
-/

set_option autoImplicit false

namespace WolandGuard.Foundations

variable {σ κ ω α : Type}

/-- The lock that a transaction asks for next. -/
def Program.wants : Program σ κ ω → σ → Option κ
  | .lock key _, _ => some key
  | .claim key taken _ _, state => if taken state then none else some key
  | .read _, _ | .peek _, _ | .commit _ _, _ | .rollback, _ => none

/-- The locks are taken one after another so that the ones held are related to
the next one, unless it is held already. -/
def Ascends (related : κ → κ → Prop) : List κ → List κ → Prop
  | _, [] => True
  | held, key :: rest =>
      (key ∈ held ∨ ∀ other ∈ held, related other key) ∧ Ascends related (key :: held) rest

/-- A list whose locks every other lock is related to ascends. -/
theorem ascends_of_forall {related : κ → κ → Prop} {held keys : List κ}
    (every : ∀ key ∈ keys, ∀ other, related other key) : Ascends related held keys := by
  induction keys generalizing held with
  | nil => trivial
  | cons key rest ih =>
      exact ⟨.inr fun other _ => every key List.mem_cons_self other,
        ih fun later member => every later (List.mem_cons_of_mem _ member)⟩

/-- A relation that holds of more locks of a kind. -/
theorem Ascends.imp {related wider : κ → κ → Prop} {held keys : List κ}
    (ascends : Ascends related held keys) (kind : κ → Prop) (held_kind : ∀ key ∈ held, kind key)
    (keys_kind : ∀ key ∈ keys, kind key)
    (implies : ∀ first second, kind first → kind second → related first second →
      wider first second) : Ascends wider held keys := by
  induction keys generalizing held with
  | nil => trivial
  | cons key rest ih =>
      obtain ⟨here, later⟩ := ascends
      have key_kind := keys_kind key List.mem_cons_self
      refine ⟨here.imp_right fun every other member =>
        implies other key (held_kind other member) key_kind (every other member), ih later ?_ ?_⟩
      · intro other member
        rcases List.mem_cons.mp member with rfl | old
        · exact key_kind
        · exact held_kind other old
      · exact fun other member => keys_kind other (List.mem_cons_of_mem _ member)

namespace Transactions

/-- The transaction at one place asks for a lock that the one at another place
holds. -/
def WaitsFor (system : Transactions α σ κ ω) (waiting holder : Nat) : Prop :=
  waiting ≠ holder ∧ ∃ first ∈ system.active[waiting]?, ∃ second ∈ system.active[holder]?,
    ∃ key ∈ first.rest.wants system.committed, key ∈ second.held

instance [DecidableEq κ] (system : Transactions α σ κ ω) (waiting holder : Nat) :
    Decidable (WaitsFor system waiting holder) :=
  inferInstanceAs (Decidable (_ ∧ _))

/-- A cycle of waiting transactions goes through a place. -/
def OnCycle (system : Transactions α σ κ ω) (place : Nat) : Prop :=
  Relation.TransGen (WaitsFor system) place place

/-- The place waits for a lock. -/
def Wants (system : Transactions α σ κ ω) (place : Nat) (key : κ) : Prop :=
  ∃ transaction ∈ system.active[place]?, key ∈ transaction.rest.wants system.committed

instance [DecidableEq κ] (system : Transactions α σ κ ω) (place : Nat) (key : κ) :
    Decidable (Wants system place key) :=
  inferInstanceAs (Decidable (∃ _, _))

theorem WaitsFor.wants {system : Transactions α σ κ ω} {waiting holder : Nat}
    (waits : WaitsFor system waiting holder) : ∃ key, Wants system waiting key := by
  obtain ⟨_, first, at_first, _, _, key, wanted, _⟩ := waits
  exact ⟨key, first, at_first, wanted⟩

theorem Wants.unique {system : Transactions α σ κ ω} {place : Nat} {key other : κ}
    (first : Wants system place key) (second : Wants system place other) : key = other := by
  obtain ⟨transaction, at_place, wanted⟩ := first
  obtain ⟨same, at_same, other_wanted⟩ := second
  obtain rfl := Option.some.inj (at_place.symm.trans at_same)
  exact Option.some.inj (wanted.symm.trans other_wanted)

end Transactions

/-! ## A discipline -/

/-- What transactions keep to when they ask for locks. `later` relates the
states that transactions leave, and a guard is kept while the locks are held
under which it was found. -/
structure Discipline (same : κ → σ → σ → Prop) (α : Type) where
  later : σ → σ → Prop
  refl : ∀ state, later state state
  trans : ∀ first second third, later first second → later second third → later first third
  contended : κ → Prop
  related : κ → κ → Prop
  guarded : α → σ → List κ → κ → Prop
  guarded_stable : ∀ request state after held key, guarded request state held key →
    key ∈ held → Program.Agree same held state after → later state after →
      guarded request after held key
  guarded_more : ∀ request state held key other, guarded request state held key →
    guarded request state (other :: held) key

namespace Discipline

variable {same : κ → σ → σ → Prop} (discipline : Discipline same α)

/-- What may have happened to the state while locks are held. -/
def Meanwhile (held : List κ) (state after : σ) : Prop :=
  Program.Agree same held state after ∧ discipline.later state after

/-- A lock that may be asked for with the locks held. -/
def May (request : α) (state : σ) (held : List κ) (key : κ) : Prop :=
  key ∈ held ∨
    (discipline.contended key → ∀ other ∈ held, discipline.contended other →
      discipline.related other key) ∧
    discipline.guarded request state (key :: held) key

/-- The program keeps to the discipline from a state on, whatever others do
meanwhile. -/
def Keeps (request : α) : Program σ κ ω → σ → List κ → Prop
  | .lock key next, state, held => ∀ after, discipline.Meanwhile held state after →
      discipline.May request after held key ∧ Keeps request next after (key :: held)
  | .claim key taken free used, state, held => ∀ after, discipline.Meanwhile held state after →
      (taken after = false →
        discipline.May request after held key ∧ Keeps request free after (key :: held)) ∧
      (taken after = true → Keeps request used after held)
  | .read next, state, held | .peek next, state, held =>
      ∀ after, discipline.Meanwhile held state after → Keeps request (next after) after held
  | .commit _ _, _, _ | .rollback, _, _ => True

variable {discipline}
variable {held : List κ} {state middle after : σ} {request : α} {program : Program σ κ ω}

theorem Meanwhile.refl (equivalence : ∀ key, Equivalence (same key)) :
    discipline.Meanwhile held state state :=
  ⟨fun key _ => (equivalence key).refl state, discipline.refl state⟩

theorem Meanwhile.trans (equivalence : ∀ key, Equivalence (same key))
    (first : discipline.Meanwhile held state middle)
    (second : discipline.Meanwhile held middle after) : discipline.Meanwhile held state after :=
  ⟨first.1.trans equivalence second.1, discipline.trans _ _ _ first.2 second.2⟩

/-- What others do meanwhile leaves a program that keeps to the discipline. -/
theorem Keeps.meanwhile (equivalence : ∀ key, Equivalence (same key))
    (keeps : discipline.Keeps request program state held)
    (moved : discipline.Meanwhile held state after) :
    discipline.Keeps request program after held := by
  cases program with
  | lock | claim | read | peek =>
      exact fun last later => keeps last (moved.trans equivalence later)
  | commit | rollback => trivial

end Discipline

namespace Transactions

open Program

variable {same : κ → σ → σ → Prop} {discipline : Discipline same α}

/-- The transactions under way keep to the discipline, and what they hold is
guarded. -/
structure Orderly (discipline : Discipline same α) (system : Transactions α σ κ ω) : Prop where
  keeps : ∀ transaction ∈ system.active,
    discipline.Keeps transaction.request transaction.rest system.committed transaction.held
  guards : ∀ transaction ∈ system.active, ∀ key ∈ transaction.held,
    discipline.guarded transaction.request system.committed transaction.held key

section Steps

variable {code : α → Program σ κ ω}
variable {system next : Transactions α σ κ ω} {move : Move α ω}
variable {state : σ} {before after : List (Transaction α σ κ ω)}
variable {old new : Transaction α σ κ ω}

/-- One transaction steps, and nothing is written. -/
theorem Orderly.replace (orderly : Orderly discipline ⟨state, before ++ old :: after⟩)
    (keeps : discipline.Keeps new.request new.rest state new.held)
    (guards : ∀ key ∈ new.held, discipline.guarded new.request state new.held key) :
    Orderly discipline ⟨state, before ++ new :: after⟩ := by
  have others : ∀ other ∈ before ++ new :: after,
      other = new ∨ other ∈ before ++ old :: after := by
    intro other member
    rcases List.mem_append.mp member with left | right
    · exact .inr (List.mem_append_left _ left)
    · rcases List.mem_cons.mp right with rfl | rest
      · exact .inl rfl
      · exact .inr (List.mem_append_right _ (List.mem_cons_of_mem _ rest))
  refine ⟨fun other member => ?_, fun other member => ?_⟩
  · rcases others other member with rfl | kept
    · exact keeps
    · exact orderly.keeps other kept
  · rcases others other member with rfl | kept
    · exact guards
    · exact orderly.guards other kept

/-- A lock is taken. -/
theorem guards_cons {request : α} {held : List κ} {key : κ}
    (guards : ∀ other ∈ held, discipline.guarded request state held other)
    (may : discipline.May request state held key) :
    ∀ other ∈ key :: held, discipline.guarded request state (key :: held) other := by
  intro other member
  rcases List.mem_cons.mp member with rfl | old
  · rcases may with already | ⟨_, guarded⟩
    · exact discipline.guarded_more _ _ _ _ _ (guards other already)
    · exact guarded
  · exact discipline.guarded_more _ _ _ _ _ (guards other old)

/-- **A step keeps the discipline.** -/
theorem Orderly.step (equivalence : ∀ key, Equivalence (same key))
    (covered : Covered same code system) (orderly : Orderly discipline system)
    (starts : ∀ request, move = .start request →
      discipline.Keeps request (code request) system.committed [])
    (commits : ∀ request outcome, move = .commit request outcome →
      discipline.later system.committed next.committed)
    (step : Step code system move next) : Orderly discipline next := by
  cases step with
  | @start state active request =>
      refine ⟨fun other member => ?_, fun other member => ?_⟩
      · rcases List.mem_append.mp member with old | new
        · exact orderly.keeps other old
        · obtain rfl := List.mem_singleton.mp new
          exact starts request rfl
      · rcases List.mem_append.mp member with old | new
        · exact orderly.guards other old
        · obtain rfl := List.mem_singleton.mp new
          simp
  | @lock state before after request key following held available =>
      obtain ⟨may, keeps⟩ := orderly.keeps ⟨request, .lock key following, held⟩ (by simp) state
        (.refl equivalence)
      exact orderly.replace keeps
        (guards_cons (orderly.guards ⟨request, .lock key following, held⟩ (by simp)) may)
  | @claimFree state before after request key taken free used held available untaken =>
      obtain ⟨may, keeps⟩ := (orderly.keeps ⟨request, .claim key taken free used, held⟩ (by simp)
        state (.refl equivalence)).1 untaken
      exact orderly.replace keeps
        (guards_cons (orderly.guards ⟨request, .claim key taken free used, held⟩ (by simp)) may)
  | @claimUsed state before after request key taken free used held is_taken =>
      have keeps := (orderly.keeps ⟨request, .claim key taken free used, held⟩ (by simp) state
        (.refl equivalence)).2 is_taken
      exact orderly.replace keeps
        (orderly.guards ⟨request, .claim key taken free used, held⟩ (by simp))
  | @read state before after request following held =>
      have keeps := orderly.keeps ⟨request, .read following, held⟩ (by simp) state
        (.refl equivalence)
      exact orderly.replace keeps (orderly.guards ⟨request, .read following, held⟩ (by simp))
  | @peek state before after request following held =>
      have keeps := orderly.keeps ⟨request, .peek following, held⟩ (by simp) state
        (.refl equivalence)
      exact orderly.replace keeps (orderly.guards ⟨request, .peek following, held⟩ (by simp))
  | @commit state before after request write outcome held =>
      obtain ⟨apart, kept, _⟩ := covered.pick
      have old : ∀ other ∈ before ++ after,
          other ∈ before ++ ⟨request, .commit write outcome, held⟩ :: after := by
        intro other member
        rcases List.mem_append.mp member with left | right
        · exact List.mem_append_left _ left
        · exact List.mem_append_right _ (List.mem_cons_of_mem _ right)
      -- the write leaves what the others hold
      have moved : ∀ other ∈ before ++ after,
          discipline.Meanwhile other.held state (write state) := fun other member =>
        ⟨fun key held_by_other => kept state key fun held_here =>
          apart other member held_here held_by_other, commits request outcome rfl⟩
      refine ⟨fun other member => ?_, fun other member key held_by_other => ?_⟩
      · exact (orderly.keeps other (old other member)).meanwhile equivalence (moved other member)
      · exact discipline.guarded_stable _ _ _ _ _
          (orderly.guards other (old other member) key held_by_other) held_by_other
          (moved other member).1 (moved other member).2
  | @abort state before after transaction =>
      have old : ∀ other ∈ before ++ after, other ∈ before ++ transaction :: after := by
        intro other member
        rcases List.mem_append.mp member with left | right
        · exact List.mem_append_left _ left
        · exact List.mem_append_right _ (List.mem_cons_of_mem _ right)
      exact ⟨fun other member => orderly.keeps other (old other member),
        fun other member => orderly.guards other (old other member)⟩

/-- **In every state of a run the discipline is kept**, if every request that is
started keeps to it and commits lead to later states. -/
theorem orderly_of_run (discipline : Discipline same α) {start finish : Transactions α σ κ ω}
    {path : List (Recorded α σ κ ω)} (run : Run (Step code) start path finish)
    (idle : start.active = []) (equivalence : ∀ key, Equivalence (same key))
    (wellLocked : ∀ request, (code request).WellLocked same [])
    (kept : ∀ request state after outcome, (code request).Performs state after outcome →
      discipline.later state after)
    (keeps : ∀ taken ∈ path, ∀ request, taken.label = .start request →
      discipline.later start.committed taken.before.committed →
      discipline.Keeps request (code request) taken.before.committed []) :
    Covered same code finish ∧ Orderly discipline finish ∧
      discipline.later start.committed finish.committed := by
  refine run.extend (motive := fun path finish => (∀ taken ∈ path, ∀ request,
    taken.label = .start request → discipline.later start.committed taken.before.committed →
    discipline.Keeps request (code request) taken.before.committed []) →
    Covered same code finish ∧ Orderly discipline finish ∧
      discipline.later start.committed finish.committed) ?_ ?_ keeps
  · intro _
    exact ⟨covered_of_idle idle, ⟨by simp [idle], by simp [idle]⟩, discipline.refl _⟩
  · intro earlier state move after reached before step keeps
    obtain ⟨covered, orderly, since⟩ :=
      before fun taken member => keeps taken (List.mem_append_left _ member)
    obtain ⟨covered_after, performs⟩ := covered.step equivalence wellLocked step
    have advanced : discipline.later state.committed after.committed := by
      cases move with
      | commit request outcome => exact kept _ _ _ _ (performs request outcome rfl)
      | start | advance | abort =>
          rw [step.committed_eq (by simp)]
          exact discipline.refl _
    refine ⟨covered_after, orderly.step equivalence covered ?_ (fun _ _ _ => advanced) step,
      discipline.trans _ _ _ since advanced⟩
    rintro request rfl
    exact keeps ⟨state, .start request, after⟩ (by simp) request rfl since

end Steps

/-! ## Requests under way -/

section Requests

variable {code : α → Program σ κ ω}

/-- The requests that a path has started. -/
def started (path : List (Recorded α σ κ ω)) : List α :=
  path.filterMap fun taken =>
    match taken.label with
    | .start request => some request
    | _ => none

/-- The transactions under way serve different starts. -/
theorem requests_sublist_started {start finish : Transactions α σ κ ω}
    {path : List (Recorded α σ κ ω)} (run : Run (Step code) start path finish)
    (idle : start.active = []) :
    (finish.active.map Transaction.request).Sublist (started path) := by
  refine run.extend (motive := fun path finish =>
    (finish.active.map Transaction.request).Sublist (started path)) (by simp [idle]) ?_
  intro earlier state move after _ sublist step
  unfold started at sublist ⊢
  rw [List.filterMap_append]
  cases step with
  | start request => simpa using sublist.append (List.Sublist.refl [request])
  | lock | claimFree | claimUsed | read | peek => simpa using sublist
  | commit | abort =>
      refine List.Sublist.trans ?_ (by simpa using sublist)
      simp [List.map_append]

/-- A schedule starts the requests of its commands. -/
theorem started_of_schedule [DecidableEq κ] {commands : List (Command α)}
    {system finish : Transactions α σ κ ω} {path : List (Recorded α σ κ ω)}
    (scheduled : schedule code system commands = some (path, finish)) :
    started path = commands.filterMap Command.request? := by
  induction commands generalizing system path with
  | nil =>
      obtain ⟨rfl, rfl⟩ := Prod.mk.inj (Option.some.inj scheduled)
      rfl
  | cons command rest ih =>
      unfold schedule at scheduled
      split at scheduled
      · cases scheduled
      next move after taken =>
        obtain ⟨⟨path, finish⟩, rest_scheduled, same⟩ := Option.map_eq_some_iff.mp scheduled
        obtain ⟨rfl, rfl⟩ := Prod.mk.inj same
        rw [List.filterMap_cons, ← ih rest_scheduled, ← request?_of_next taken]
        simp only [started, List.filterMap_cons]
        cases move <;> rfl

end Requests

/-! ## Cycles -/

section Cycles

variable {code : α → Program σ κ ω} {system : Transactions α σ κ ω}

/-- What holds of every two entries of a list, at two of its places. -/
theorem pairwise_at {ρ : Type} {relation : ρ → ρ → Prop}
    (symmetric : ∀ left right, relation left right → relation right left) {rows : List ρ}
    (paired : rows.Pairwise relation) {first second : Nat} {left right : ρ}
    (left_at : left ∈ rows[first]?) (right_at : right ∈ rows[second]?) (apart : first ≠ second) :
    relation left right := by
  obtain ⟨first_lt, rfl⟩ := List.getElem?_eq_some_iff.mp left_at
  obtain ⟨second_lt, rfl⟩ := List.getElem?_eq_some_iff.mp right_at
  have ordered := List.pairwise_iff_getElem.mp paired
  rcases Nat.lt_or_gt_of_ne apart with before | behind
  · exact ordered first second first_lt second_lt before
  · exact symmetric _ _ (ordered second first second_lt first_lt behind)

theorem Covered.disjoint_at (covered : Covered same code system) {first second : Nat}
    {left right : Transaction α σ κ ω} (left_at : left ∈ system.active[first]?)
    (right_at : right ∈ system.active[second]?) (apart : first ≠ second) :
    List.Disjoint left.held right.held :=
  pairwise_at (fun _ _ disjoint => List.disjoint_comm.mp disjoint) covered.disjoint left_at right_at
    apart

/-- A transaction that keeps to the discipline may ask for what it wants. -/
theorem Orderly.may (equivalence : ∀ key, Equivalence (same key))
    (orderly : Orderly discipline system) {transaction : Transaction α σ κ ω}
    (member : transaction ∈ system.active) {key : κ}
    (wanted : key ∈ transaction.rest.wants system.committed) :
    discipline.May transaction.request system.committed transaction.held key := by
  have keeps := orderly.keeps transaction member
  obtain ⟨request, rest, held⟩ := transaction
  cases rest with
  | lock other next =>
      obtain rfl := Option.some.inj wanted
      exact (keeps system.committed (.refl equivalence)).1
  | claim other taken free used =>
      simp only [Program.wants] at wanted
      split at wanted
      · cases wanted
      next untaken =>
        obtain rfl := Option.some.inj wanted
        exact ((keeps system.committed (.refl equivalence)).1 (by simpa using untaken)).1
  | read | peek | commit | rollback => cases wanted

/-- The lock that a transaction waits for is not one it holds, and guards it. -/
theorem Orderly.waits (equivalence : ∀ key, Equivalence (same key))
    (covered : Covered same code system) (orderly : Orderly discipline system)
    {waiting holder : Nat} {first second : Transaction α σ κ ω} {key : κ} (apart : waiting ≠ holder)
    (first_at : first ∈ system.active[waiting]?) (second_at : second ∈ system.active[holder]?)
    (wanted : key ∈ first.rest.wants system.committed) (held : key ∈ second.held) :
    (discipline.contended key → ∀ other ∈ first.held, discipline.contended other →
      discipline.related other key) ∧
      discipline.guarded first.request system.committed (key :: first.held) key ∧
      discipline.guarded second.request system.committed second.held key := by
  have first_member : first ∈ system.active := List.mem_of_getElem? first_at
  have second_member : second ∈ system.active := List.mem_of_getElem? second_at
  rcases orderly.may equivalence first_member wanted with already | ⟨related, guarded⟩
  · exact absurd held (covered.disjoint_at first_at second_at apart already)
  · exact ⟨related, guarded, orderly.guards second second_member key held⟩

/-- **Along a cycle the locks waited for are related.** -/
theorem related_of_cycle (equivalence : ∀ key, Equivalence (same key))
    (covered : Covered same code system) (orderly : Orderly discipline system)
    (transitive : ∀ first second third, discipline.related first second →
      discipline.related second third → discipline.related first third)
    (contended : ∀ (waiting holder : Nat) (first second : Transaction α σ κ ω) key, waiting ≠ holder →
      first ∈ system.active[waiting]? → second ∈ system.active[holder]? →
      key ∈ first.rest.wants system.committed → key ∈ second.held → discipline.contended key)
    {place : Nat} (cycle : OnCycle system place) {key : κ} (wanted : Wants system place key) :
    discipline.related key key := by
  -- one edge of the cycle, to a place that waits itself
  have edge : ∀ waiting holder other first second, WaitsFor system waiting holder →
      WaitsFor system holder other → Wants system waiting first → Wants system holder second →
      discipline.related first second := by
    intro waiting holder other first second waits next first_wanted second_wanted
    obtain ⟨apart, left, left_at, middle, middle_at, key, key_wanted, key_held⟩ := waits
    obtain ⟨next_apart, same, same_at, right, right_at, next_key, next_wanted, next_held⟩ := next
    obtain rfl := Option.some.inj (middle_at.symm.trans same_at)
    obtain rfl := first_wanted.unique ⟨left, left_at, key_wanted⟩
    obtain rfl := second_wanted.unique ⟨middle, middle_at, next_wanted⟩
    have key_contended := contended _ _ _ _ _ apart left_at middle_at key_wanted key_held
    have next_contended := contended _ _ _ _ _ next_apart middle_at right_at next_wanted next_held
    exact (orderly.waits equivalence covered next_apart middle_at right_at next_wanted next_held).1
      next_contended _ key_held key_contended
  have path : ∀ first last other, Relation.TransGen (WaitsFor system) first last →
      WaitsFor system last other → ∀ start finish, Wants system first start →
      Wants system last finish → discipline.related start finish := by
    intro first last other waits
    induction waits generalizing other with
    | single waits =>
        exact fun next start finish start_wanted finish_wanted =>
          edge _ _ _ _ _ waits next start_wanted finish_wanted
    | tail earlier waits ih =>
        intro next start finish start_wanted finish_wanted
        obtain ⟨between, between_wanted⟩ := waits.wants
        exact transitive _ _ _ (ih _ waits start between start_wanted between_wanted)
          (edge _ _ _ _ _ waits next between_wanted finish_wanted)
  obtain ⟨next, first, _⟩ := Relation.TransGen.head'_iff.mp cycle
  exact path place place next cycle first key key wanted wanted

end Cycles

end Transactions

end WolandGuard.Foundations
