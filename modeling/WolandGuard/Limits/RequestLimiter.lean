import WolandGuard.Data.RateLimit
import WolandGuard.Foundations.SlidingWindows
import Mathlib.Tactic.Linarith

/-!
# The request limiter as a sliding window

The limiter keeps, for each key, the accepted times of the last window. What it
decides is therefore a matter of the accepted times alone: a call is accepted
exactly when fewer than the limit lie in the window before it.
-/

set_option autoImplicit false

namespace WolandGuard.FixedWindowRateLimiter

open Foundations

universe u

variable {κ : Type u} [DecidableEq κ]

/-- A call: the reading of the clock and the key. -/
abbrev Call (κ : Type u) := Rat × κ

/-- A call and what `consume` returned. -/
abbrev Outcome (κ : Type u) := Call κ × Option Int

/-- Calls one after the other. -/
def outcomes (limits : RateLimits) : FixedWindowRateLimiter κ → List (Call κ) → List (Outcome κ)
  | _, [] => []
  | limiter, call :: rest =>
      let served := limiter.consume limits call.1 call.2
      (call, served.2) :: outcomes limits served.1 rest

/-- The limiter after some calls. -/
def after (limits : RateLimits) (limiter : FixedWindowRateLimiter κ) (calls : List (Call κ)) :
    FixedWindowRateLimiter κ :=
  calls.foldl (fun limiter call => (limiter.consume limits call.1 call.2).1) limiter

/-- The times at which calls of a key were accepted. -/
def accepted (run : List (Outcome κ)) (key : κ) : List Rat :=
  (run.filter fun outcome => outcome.1.2 = key && outcome.2.isNone).map (·.1.1)

section Runs

variable {limits : RateLimits} {limiter other : FixedWindowRateLimiter κ}
variable {calls more : List (Call κ)} {now clock : Rat} {key : κ}

theorem map_outcomes (limits : RateLimits) (limiter : FixedWindowRateLimiter κ)
    (calls : List (Call κ)) : (outcomes limits limiter calls).map Prod.fst = calls := by
  induction calls generalizing limiter with
  | nil => rfl
  | cons call rest ih => rw [outcomes, List.map_cons, ih]

theorem outcomes_append : outcomes limits limiter (calls ++ more) =
    outcomes limits limiter calls ++ outcomes limits (limiter.after limits calls) more := by
  induction calls generalizing limiter with
  | nil => rfl
  | cons call rest ih =>
      rw [List.cons_append, outcomes, outcomes, ih]
      rfl

/-- A run can be cut at any of its calls. -/
theorem cut_outcomes {earlier later : List (Outcome κ)} {call : Call κ} {retry : Option Int}
    (cut : outcomes limits limiter calls = earlier ++ (call, retry) :: later) :
    calls = earlier.map Prod.fst ++ call :: later.map Prod.fst ∧
      earlier = outcomes limits limiter (earlier.map Prod.fst) ∧
      retry = ((limiter.after limits (earlier.map Prod.fst)).consume limits call.1 call.2).2 ∧
      later = outcomes limits
        ((limiter.after limits (earlier.map Prod.fst)).consume limits call.1 call.2).1
        (later.map Prod.fst) := by
  have order := map_outcomes limits limiter calls
  rw [cut, List.map_append, List.map_cons] at order
  have run := cut
  rw [← order, outcomes_append, outcomes] at run
  obtain ⟨before, rest⟩ := List.append_inj run (by
    rw [← List.length_map (f := Prod.fst), map_outcomes, List.length_map])
  obtain ⟨here, behind⟩ := List.cons.inj rest
  exact ⟨order.symm, before.symm, (congrArg Prod.snd here).symm, behind.symm⟩

theorem accepted_append (first second : List (Outcome κ)) (key : κ) :
    accepted (first ++ second) key = accepted first key ++ accepted second key := by
  rw [accepted, List.filter_append, List.map_append]
  rfl

/-! ## One call -/

/-- The log of another key is not touched. -/
theorem requests_consume_of_ne {name : κ} (different : name ≠ key) :
    (limiter.consume limits now key).1.requests name = limiter.requests name := by
  unfold consume
  dsimp only
  split
  · exact Function.update_of_ne different _ _
  · exact Function.update_of_ne different _ _

/-- **A call is accepted when the window has room**, and then recorded. -/
theorem consume_cases (limits : RateLimits) (limiter : FixedWindowRateLimiter κ) (now : Rat)
    (key : κ) :
    ((limiter.consume limits now key).2 = none ∧
        (expire (limits.windowSeconds : Rat) now (limiter.requests key)).length <
          limits.maxRequests ∧
        (limiter.consume limits now key).1.requests key =
          expire (limits.windowSeconds : Rat) now (limiter.requests key) ++ [now]) ∨
      ((limiter.consume limits now key).2 = some (max 1
          ⌈(expire (limits.windowSeconds : Rat) now (limiter.requests key)).headD now +
            limits.windowSeconds - now⌉) ∧
        limits.maxRequests ≤
          (expire (limits.windowSeconds : Rat) now (limiter.requests key)).length ∧
        (limiter.consume limits now key).1.requests key =
          expire (limits.windowSeconds : Rat) now (limiter.requests key)) := by
  unfold consume
  dsimp only
  split
  next full => exact .inr ⟨rfl, full, Function.update_self _ _ _⟩
  next room => exact .inl ⟨rfl, Nat.lt_of_not_le room, Function.update_self _ _ _⟩

/-! ## The invariant -/

/-- For each key the limiter remembers the accepted times, and these are
paced. -/
structure Tracked (limits : RateLimits) (limiter : FixedWindowRateLimiter κ) (clock : Rat)
    (past : List (Outcome κ)) : Prop where
  remembers (key : κ) : Remembers (limits.windowSeconds : Rat) clock (limiter.requests key)
    (accepted past key)
  paced (key : κ) : Paced limits.maxRequests (limits.windowSeconds : Rat) (accepted past key)

theorem Tracked.fresh (limits : RateLimits) (clock : Rat) :
    Tracked limits (FixedWindowRateLimiter.fresh (κ := κ)) clock [] :=
  ⟨fun _ => .nil, fun _ => .nil⟩

theorem Tracked.later {past : List (Outcome κ)} (tracked : Tracked limits limiter clock past)
    (later : clock ≤ now) : Tracked limits limiter now past :=
  ⟨fun key => (tracked.remembers key).later later, tracked.paced⟩

/-- **One call keeps the invariant.** -/
theorem Tracked.consume {past : List (Outcome κ)} (tracked : Tracked limits limiter clock past)
    (width : 0 < limits.windowSeconds) (later : clock ≤ now) (key : κ) :
    Tracked limits (limiter.consume limits now key).1 now
      (past ++ [((now, key), (limiter.consume limits now key).2)]) := by
  have positive : (0 : Rat) < limits.windowSeconds := by exact_mod_cast width
  have elsewhere : ∀ name, name ≠ key → ∀ retry,
      accepted (past ++ [((now, key), retry)]) name = accepted past name := by
    intro name different retry
    rw [accepted_append]
    simp [accepted, different.symm]
  have window := (tracked.remembers key).expire later
  constructor
  · intro name
    by_cases same : name = key
    · subst same
      rcases consume_cases limits limiter now name with
        ⟨admitted, _, written⟩ | ⟨refused, _, written⟩
      · rw [written, admitted, accepted_append]
        simpa [accepted] using (tracked.remembers name).push later positive
      · rw [written, refused, accepted_append]
        simpa [accepted] using (tracked.remembers name).cleaned later
    · rw [requests_consume_of_ne same, elsewhere name same]
      exact (tracked.remembers name).later later
  · intro name
    by_cases same : name = key
    · subst same
      rcases consume_cases limits limiter now name with
        ⟨admitted, room, _⟩ | ⟨refused, _, _⟩
      · rw [admitted, accepted_append]
        have paced := (tracked.paced name).push (by
          rw [List.countP_eq_length_filter, ← window]
          exact room)
        simpa [accepted] using paced
      · rw [refused, accepted_append]
        simpa [accepted] using tracked.paced name
    · rw [elsewhere name same]
      exact tracked.paced name

/-- **Calls keep the invariant.** -/
theorem Tracked.after {past : List (Outcome κ)} (tracked : Tracked limits limiter clock past)
    (width : 0 < limits.windowSeconds) (timely : calls.Pairwise (·.1 ≤ ·.1))
    (from_clock : ∀ call ∈ calls, clock ≤ call.1) (up_to : ∀ call ∈ calls, call.1 ≤ now)
    (passed : clock ≤ now) :
    Tracked limits (limiter.after limits calls) now (past ++ outcomes limits limiter calls) := by
  induction calls generalizing limiter clock past with
  | nil =>
      rw [outcomes, List.append_nil]
      exact tracked.later passed
  | cons call rest ih =>
      obtain ⟨ordered, rest_timely⟩ := List.pairwise_cons.mp timely
      have first := tracked.consume width (from_clock call List.mem_cons_self) call.2
      have others := ih first rest_timely ordered
        (fun other member => up_to other (List.mem_cons_of_mem _ member))
        (up_to call List.mem_cons_self)
      rw [List.append_assoc] at others
      exact others

/-! ## What no call can see -/

/-- Two limiters that differ only in times that have left the window. -/
def Alike (limits : RateLimits) (clock : Rat) (limiter other : FixedWindowRateLimiter κ) : Prop :=
  ∀ key, expire (limits.windowSeconds : Rat) clock (limiter.requests key) =
    expire (limits.windowSeconds : Rat) clock (other.requests key)

omit [DecidableEq κ] in
theorem Alike.later (alike : Alike limits clock limiter other) (passed : clock ≤ now) :
    Alike limits now limiter other := by
  intro key
  rw [← expire_expire passed, alike key, expire_expire passed]

/-- What `consume` returns and records depends on the cleaned log alone. -/
theorem consume_congr (same : expire (limits.windowSeconds : Rat) now (limiter.requests key) =
    expire (limits.windowSeconds : Rat) now (other.requests key)) :
    (limiter.consume limits now key).2 = (other.consume limits now key).2 ∧
      (limiter.consume limits now key).1.requests key =
        (other.consume limits now key).1.requests key := by
  have recent_same : limiter.recent limits now key = other.recent limits now key := same
  unfold FixedWindowRateLimiter.consume
  simp only [recent_same]
  split
  · simp only [Function.update_self, and_self]
  · simp only [Function.update_self, and_self]

/-- **Times outside the window are not seen by any later call.** -/
theorem Alike.outcomes (alike : Alike limits clock limiter other)
    (timely : calls.Pairwise (·.1 ≤ ·.1)) (from_clock : ∀ call ∈ calls, clock ≤ call.1) :
    FixedWindowRateLimiter.outcomes limits limiter calls =
      FixedWindowRateLimiter.outcomes limits other calls := by
  induction calls generalizing limiter other clock with
  | nil => rfl
  | cons call rest ih =>
      obtain ⟨ordered, rest_timely⟩ := List.pairwise_cons.mp timely
      have moved := alike.later (from_clock call List.mem_cons_self)
      obtain ⟨same_retry, same_log⟩ := consume_congr (moved call.2)
      have after_call : Alike limits call.1 (limiter.consume limits call.1 call.2).1
          (other.consume limits call.1 call.2).1 := by
        intro name
        by_cases same : name = call.2
        · rw [same, same_log]
        · rw [requests_consume_of_ne same, requests_consume_of_ne same]
          exact moved name
      rw [FixedWindowRateLimiter.outcomes, FixedWindowRateLimiter.outcomes, same_retry,
        ih after_call rest_timely ordered]

/-- A refused call only cleans a log. -/
theorem alike_of_refused (refused : (limiter.consume limits now key).2 ≠ none) :
    Alike limits now (limiter.consume limits now key).1 limiter := by
  intro name
  by_cases same : name = key
  · subst same
    rcases consume_cases limits limiter now name with ⟨admitted, _, _⟩ | ⟨_, _, written⟩
    · exact absurd admitted refused
    · rw [written, expire_expire le_rfl]
  · rw [requests_consume_of_ne same]

/-- **Calls of other keys are not seen.** -/
theorem outcomes_filter (same : limiter.requests key = other.requests key) :
    outcomes limits limiter (calls.filter (·.2 = key)) =
      (outcomes limits other calls).filter (·.1.2 = key) := by
  induction calls generalizing limiter other with
  | nil => rfl
  | cons call rest ih =>
      by_cases mine : call.2 = key
      · subst mine
        obtain ⟨same_retry, same_log⟩ : (limiter.consume limits call.1 call.2).2 =
            (other.consume limits call.1 call.2).2 ∧ _ := consume_congr (by rw [same])
        rw [List.filter_cons, if_pos (decide_eq_true rfl), outcomes, outcomes, List.filter_cons,
          if_pos (decide_eq_true rfl), same_retry, ih same_log]
      · have untouched : limiter.requests key =
            (other.consume limits call.1 call.2).1.requests key := by
          rw [requests_consume_of_ne (Ne.symm mine), same]
        rw [List.filter_cons, if_neg (by simpa using mine), outcomes, List.filter_cons,
          if_neg (by simpa using mine), ih untouched]

/-! ## An exact sliding window -/

/-- The times of a window that begins with its oldest time lose it in time. -/
theorem countP_later_lt {admitted : List Rat} {window delay retry : Rat} {limit : Nat}
    (positive : 0 < limit)
    (count : (admitted.countP fun time => now - window < time) = limit)
    (oldest : (admitted.filter fun time => now - window < time).headD now + window - now ≤ delay)
    (waited : now + delay ≤ retry) (passed : now ≤ retry) :
    (admitted.countP fun time => retry - window < time) < limit := by
  have narrowed : (admitted.countP fun time => retry - window < time) =
      (admitted.filter fun time => now - window < time).countP fun time =>
        retry - window < time := by
    rw [List.countP_filter]
    refine List.countP_congr fun time _ => ?_
    simp only [decide_eq_true_eq, Bool.and_eq_true]
    exact (and_iff_left_of_imp fun inside =>
      (sub_le_sub_right passed window).trans_lt inside).symm
  rw [List.countP_eq_length_filter] at count
  rw [narrowed]
  cases live : admitted.filter fun time => now - window < time with
  | nil =>
      rw [live] at count
      exact absurd count (Nat.ne_of_lt positive)
  | cons first rest =>
      rw [live] at count oldest
      have left : ¬ retry - window < first := by
        rw [List.headD_cons] at oldest
        rw [not_lt]
        linarith
      rw [List.countP_cons_of_neg (by simpa using left)]
      have few := List.countP_le_length (p := fun time => decide (retry - window < time)) (l := rest)
      rw [List.length_cons] at count
      omega

/-- The invariant holds in every run of a fresh limiter. -/
theorem tracked_fresh (width : 0 < limits.windowSeconds) (timely : calls.Pairwise (·.1 ≤ ·.1))
    (up_to : ∀ call ∈ calls, call.1 ≤ now) :
    Tracked limits ((fresh : FixedWindowRateLimiter κ).after limits calls) now
      (outcomes limits fresh calls) := by
  cases calls with
  | nil => exact Tracked.fresh limits now
  | cons first rest =>
      have from_first : ∀ call ∈ first :: rest, first.1 ≤ call.1 := by
        intro call member
        rcases List.mem_cons.mp member with rfl | later
        · exact le_rfl
        · exact (List.pairwise_cons.mp timely).1 call later
      exact (Tracked.fresh limits first.1).after width timely from_first up_to
        (up_to first List.mem_cons_self)

/-- The state at any call of a run from the start. -/
theorem tracked_at {earlier later : List (Outcome κ)} {call : Call κ} {retry : Option Int}
    (width : 0 < limits.windowSeconds) (timely : calls.Pairwise (·.1 ≤ ·.1))
    (cut : outcomes limits fresh calls = earlier ++ (call, retry) :: later) :
    Tracked limits ((fresh : FixedWindowRateLimiter κ).after limits (earlier.map Prod.fst)) call.1
        earlier ∧
      (later.map Prod.fst).Pairwise (·.1 ≤ ·.1) ∧
      ∀ other ∈ later.map Prod.fst, call.1 ≤ other.1 := by
  obtain ⟨order, run, _, _⟩ := cut_outcomes cut
  rw [order, List.pairwise_append] at timely
  obtain ⟨before, rest, apart⟩ := timely
  obtain ⟨behind, after_timely⟩ := List.pairwise_cons.mp rest
  refine ⟨?_, after_timely, behind⟩
  have tracked := tracked_fresh width before fun other member =>
    apart other member call List.mem_cons_self
  rwa [← run] at tracked

/-- **The limiter is an exact sliding window**, for each key by itself. -/
theorem rate_limiter_exact (positive : 0 < limits.maxRequests) (width : 0 < limits.windowSeconds)
    (timely : calls.Pairwise (·.1 ≤ ·.1)) (key : κ) :
    (∀ start : Rat, ((accepted (outcomes limits fresh calls) key).countP fun time : Rat =>
          start ≤ time && time < start + limits.windowSeconds) ≤ limits.maxRequests ∧
        ((accepted (outcomes limits fresh calls) key).countP fun time : Rat =>
          start < time && time ≤ start + limits.windowSeconds) ≤ limits.maxRequests) ∧
    (∀ (earlier later : List (Outcome κ)) (now : Rat) (delay : Int),
      outcomes limits fresh calls = earlier ++ ((now, key), some delay) :: later →
        ((accepted earlier key).countP fun time : Rat =>
          now - limits.windowSeconds < time && time ≤ now) = limits.maxRequests ∧
        (∀ between rest retry decision, later = between ++ ((retry, key), decision) :: rest →
          accepted between key = [] → now + delay ≤ retry → decision = none) ∧
        outcomes limits fresh (earlier.map Prod.fst ++ later.map Prod.fst) = earlier ++ later) ∧
    outcomes limits fresh (calls.filter (·.2 = key)) =
      (outcomes limits fresh calls).filter (·.1.2 = key) := by
  refine ⟨fun start => ?_, ?_, outcomes_filter rfl⟩
  · -- the accepted times of the whole run are paced
    have latest : ∃ now : Rat, ∀ call ∈ calls, call.1 ≤ now := by
      clear timely
      induction calls with
      | nil => exact ⟨0, by simp⟩
      | cons call rest ih =>
          obtain ⟨now, up_to⟩ := ih
          refine ⟨max call.1 now, List.forall_mem_cons.mpr ⟨le_max_left _ _, ?_⟩⟩
          exact fun other member => (up_to other member).trans (le_max_right _ _)
    obtain ⟨now, up_to⟩ := latest
    have paced := (tracked_fresh width timely up_to).paced key
    constructor
    · refine paced.count_le fun first second first_inside second_inside => ?_
      simp only [Bool.and_eq_true, decide_eq_true_eq] at first_inside second_inside
      exact narrow_of_half_open.1 first_inside.1 second_inside.2
    · refine paced.count_le fun first second first_inside second_inside => ?_
      simp only [Bool.and_eq_true, decide_eq_true_eq] at first_inside second_inside
      exact narrow_of_half_open.2 first_inside.1 second_inside.2
  · intro earlier later now delay cut
    obtain ⟨order, run, decided, behind⟩ := cut_outcomes cut
    obtain ⟨tracked, later_timely, ordered⟩ := tracked_at width timely cut
    have window := (tracked.remembers key).expire le_rfl
    have past := (tracked.remembers key).past
    have refused : (((fresh : FixedWindowRateLimiter κ).after limits
        (earlier.map Prod.fst)).consume limits now key).2 ≠ none := by
      rw [← decided]
      exact Option.some_ne_none delay
    obtain ⟨returned, full⟩ : some delay = some (max 1 ⌈((accepted earlier key).filter fun time =>
        now - limits.windowSeconds < time).headD now + limits.windowSeconds - now⌉) ∧
          limits.maxRequests ≤ ((accepted earlier key).filter fun time =>
            now - (limits.windowSeconds : Rat) < time).length := by
      rcases consume_cases limits _ now key with ⟨admitted, _, _⟩ | ⟨returned, full, _⟩
      · exact absurd admitted refused
      · rw [window] at returned full
        exact ⟨decided.trans returned, full⟩
    have bound := (tracked.paced key).window_le past
    have count : ((accepted earlier key).countP fun time : Rat =>
        now - limits.windowSeconds < time) = limits.maxRequests := by
      rw [← List.countP_eq_length_filter] at full
      exact Nat.le_antisymm bound full
    refine ⟨?_, ?_, ?_⟩
    · rw [← count]
      refine List.countP_congr fun time member => ?_
      simp [past time member]
    · intro between rest retry decision split_later quiet waited
      -- the state at the later call has the accepted times of this one
      have cut_again : outcomes limits fresh calls =
          (earlier ++ ((now, key), some delay) :: between) ++ ((retry, key), decision) :: rest := by
        rw [cut, split_later]
        simp
      obtain ⟨_, _, decided_again, _⟩ := cut_outcomes cut_again
      obtain ⟨tracked_again, _, _⟩ := tracked_at width timely cut_again
      have same : accepted (earlier ++ ((now, key), some delay) :: between) key =
          accepted earlier key := by
        have between_quiet : accepted (((now, key), some delay) :: between) key =
            accepted between key := by
          simp [accepted]
        rw [accepted_append, between_quiet, quiet, List.append_nil]
      have window_again := (tracked_again.remembers key).expire le_rfl
      rw [same] at window_again
      have passed : now ≤ retry := by
        refine ordered (retry, key) ?_
        rw [split_later]
        simp
      have enough : ((accepted earlier key).filter fun time : Rat =>
          now - limits.windowSeconds < time).headD now + limits.windowSeconds - now ≤ delay := by
        rw [Option.some.inj returned]
        exact (Int.le_ceil _).trans (by exact_mod_cast le_max_right _ _)
      have room := countP_later_lt positive count enough waited passed
      rcases consume_cases limits _ retry key with ⟨admitted, _, _⟩ | ⟨_, full_again, _⟩
      · exact decided_again.trans admitted
      · rw [window_again, ← List.countP_eq_length_filter] at full_again
        exact absurd full_again (Nat.not_le.mpr room)
    · have unseen := (alike_of_refused refused).outcomes later_timely ordered
      rw [outcomes_append, ← run]
      exact congrArg (earlier ++ ·) (unseen.symm.trans behind.symm)

end Runs

/-- Three calls, of which the second comes too early. -/
def impatientAgent : List (Call String) := [(0, "a1"), (20, "a1"), (60, "a1")]

/-- The call a minute after the accepted one is accepted. -/
theorem rate_limiter_exact_impatient :
    outcomes ⟨1, 60⟩ fresh impatientAgent =
        [((0, "a1"), none)] ++ ((20, "a1"), some 40) :: [((60, "a1"), none)] ∧
      ((accepted [((0, "a1"), none)] "a1").countP fun time : Rat =>
        20 - (60 : Nat) < time && time ≤ 20) = 1 := by
  have timely : impatientAgent.Pairwise (·.1 ≤ ·.1) := by decide
  have run : outcomes ⟨1, 60⟩ fresh impatientAgent =
      [((0, "a1"), none)] ++ ((20, "a1"), some 40) :: [((60, "a1"), none)] := by
    decide +kernel
  have spec := (@rate_limiter_exact _ _ ⟨1, 60⟩ _ (by decide) (by decide) timely "a1").2.1
  exact ⟨run, (spec _ _ _ _ run).1⟩

end WolandGuard.FixedWindowRateLimiter
