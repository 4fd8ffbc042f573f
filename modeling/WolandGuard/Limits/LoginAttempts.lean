import WolandGuard.Limits.LoginLimiter
import Mathlib.Data.List.TakeWhile

/-!
# Floods of login attempts

Each log of the login limiter remembers the attempts that were counted in it, and
a subject without a bucket has none inside its window. Cleaning therefore never
gives a subject attempts back, and what other subjects do has no effect on its
count: they can only take the bucket of a subject that has none.
-/

set_option autoImplicit false

namespace WolandGuard.LoginRateLimiter

open Foundations

/-- An attempt: the reading of the clock and the submitted credential. -/
abbrev Attempt := Rat × String

/-- An attempt and what `consume` returned. -/
abbrev Outcome := Attempt × Option LoginRateLimitDecision

/-- Attempts one after the other. -/
def outcomes (limits : LoginLimits) : LoginRateLimiter → List Attempt → List Outcome
  | _, [] => []
  | limiter, attempt :: rest =>
      let served := limiter.consume limits attempt.1 attempt.2
      (attempt, served.2) :: outcomes limits served.1 rest

/-- The limiter after some attempts. -/
def after (limits : LoginLimits) (limiter : LoginRateLimiter) (attempts : List Attempt) :
    LoginRateLimiter :=
  attempts.foldl (fun limiter attempt => (limiter.consume limits attempt.1 attempt.2).1) limiter

/-- The times of the outcomes of a kind. -/
def timesOf (kind : Outcome → Bool) (run : List Outcome) : List Rat :=
  (run.filter kind).map (·.1.1)

/-- An attempt that was accepted. -/
def isAccepted (outcome : Outcome) : Bool := outcome.2.isNone

/-- An accepted attempt with a public id. -/
def isAcceptedFor (publicId : String) (outcome : Outcome) : Bool :=
  decide (parseOperatorApiKeyPublicId outcome.1.2 = some publicId) && outcome.2.isNone

/-- An attempt that the global window let through. -/
def isAdmitted (outcome : Outcome) : Bool := outcome.2.all (·.scope ≠ "global")

/-- An accepted attempt with a malformed credential. -/
def isMalformed (outcome : Outcome) : Bool :=
  decide (parseOperatorApiKeyPublicId outcome.1.2 = none) && outcome.2.isNone

/-- An accepted attempt of the subject with a key. -/
def isSubject (limits : LoginLimits) (key : String) (outcome : Outcome) : Bool :=
  decide ((parseOperatorApiKeyPublicId outcome.1.2).map (subjectKey limits) = some key) &&
    outcome.2.isNone

/-- The times in the bucket of a key; a subject without one has none. -/
def requestsOf (limiter : LoginRateLimiter) (key : String) : List Rat :=
  (valueOf limiter.subjectRequests key).getD []

/-! ## One window -/

/-- A log of at most a limit of times that remembers what was admitted. -/
structure Kept (limit windowSeconds : Nat) (clock : Rat) (log admitted : List Rat) : Prop where
  remembers : Remembers (windowSeconds : Rat) clock log admitted
  paced : Paced limit (windowSeconds : Rat) admitted
  bounded : log.length ≤ limit

section Windows

variable {limit windowSeconds : Nat} {clock now : Rat} {log admitted : List Rat}

theorem Kept.nil : Kept limit windowSeconds clock [] [] :=
  ⟨.nil, .nil, Nat.zero_le _⟩

theorem Kept.later (kept : Kept limit windowSeconds clock log admitted) (later : clock ≤ now) :
    Kept limit windowSeconds now log admitted :=
  ⟨kept.remembers.later later, kept.paced, kept.bounded⟩

theorem Kept.cleaned (kept : Kept limit windowSeconds clock log admitted) (later : clock ≤ now) :
    Kept limit windowSeconds now (expire (windowSeconds : Rat) now log) admitted := by
  refine ⟨kept.remembers.cleaned later, kept.paced, ?_⟩
  exact (List.dropWhile_sublist _).length_le.trans kept.bounded

/-- **A time is admitted when the window has room**, and then recorded. -/
theorem consumeWindow_cases (log : List Rat) (now : Rat) (limit windowSeconds : Nat) :
    ((consumeWindow log now limit windowSeconds).2 = none ∧
        (expire (windowSeconds : Rat) now log).length < limit ∧
        (consumeWindow log now limit windowSeconds).1 =
          expire (windowSeconds : Rat) now log ++ [now]) ∨
      (∃ retry, (consumeWindow log now limit windowSeconds).2 = some retry) ∧
        (consumeWindow log now limit windowSeconds).1 = expire (windowSeconds : Rat) now log := by
  unfold consumeWindow
  dsimp only
  split
  · exact .inr ⟨⟨_, rfl⟩, rfl⟩
  next room => exact .inl ⟨rfl, Nat.lt_of_not_le room, rfl⟩

/-- **One call of `_consume_window`**, whatever it decides. -/
theorem Kept.consumeWindow (kept : Kept limit windowSeconds clock log admitted)
    (width : 0 < windowSeconds) (later : clock ≤ now) :
    Kept limit windowSeconds now (consumeWindow log now limit windowSeconds).1
      (admitted ++ if (WolandGuard.consumeWindow log now limit windowSeconds).2.isNone then [now]
        else []) := by
  have positive : (0 : Rat) < windowSeconds := by exact_mod_cast width
  rcases consumeWindow_cases log now limit windowSeconds with
    ⟨admits, room, written⟩ | ⟨⟨retry, refused⟩, written⟩
  · rw [admits, written, if_pos Option.isNone_none]
    refine ⟨kept.remembers.push later positive, kept.paced.push ?_, ?_⟩
    · rwa [List.countP_eq_length_filter, ← kept.remembers.expire later]
    · rw [List.length_append, List.length_singleton]
      exact room
  · rw [refused, written, if_neg (by simp), List.append_nil]
    exact kept.cleaned later

end Windows

/-! ## The buckets -/

section Buckets

variable {limits : LoginLimits} {now : Rat} {subjects : List (String × List Rat)} {key : String}

theorem unique_cleanupSubjects (unique : (subjects.map Prod.fst).Nodup) :
    ((cleanupSubjects limits now subjects).map Prod.fst).Nodup := by
  have same : (subjects.map fun entry => (entry.1, entry.2.dropWhile fun time =>
      time ≤ now - limits.subjectWindowSeconds)).map Prod.fst = subjects.map Prod.fst := by
    rw [List.map_map]
    rfl
  refine List.Nodup.sublist (List.filter_sublist.map Prod.fst) ?_
  rw [same]
  exact unique

theorem length_cleanupSubjects_le :
    (cleanupSubjects limits now subjects).length ≤ subjects.length := by
  refine (List.length_filter_le _ _).trans ?_
  rw [List.length_map]

/-- **Cleaning drops the expired times, and a bucket only when it has no
others.** -/
theorem valueOf_cleanupSubjects (unique : (subjects.map Prod.fst).Nodup) (key : String) :
    (valueOf (cleanupSubjects limits now subjects) key).getD [] =
      expire (limits.subjectWindowSeconds : Rat) now ((valueOf subjects key).getD []) := by
  cases found : valueOf (cleanupSubjects limits now subjects) key with
  | some times =>
      have member := (valueOf_eq_some (unique_cleanupSubjects unique)).mp found
      obtain ⟨⟨name, stored⟩, there, same⟩ := List.mem_map.mp (List.mem_filter.mp member).1
      obtain ⟨rfl, rfl⟩ := Prod.mk.inj same
      rw [(valueOf_eq_some unique).mpr there]
      rfl
  | none =>
      cases there : valueOf subjects key with
      | none => rfl
      | some times =>
          have absent := valueOf_eq_none.mp found
          have member := (valueOf_eq_some unique).mp there
          symm
          by_contra live
          refine absent (List.mem_map.mpr ⟨(key, expire (limits.subjectWindowSeconds : Rat) now
            times), List.mem_filter.mpr ⟨List.mem_map_of_mem member, ?_⟩, rfl⟩)
          simpa using live

/-- A bucket disappears only when all its times have expired. -/
theorem expired_of_discarded (unique : (subjects.map Prod.fst).Nodup) {times : List Rat}
    (present : valueOf subjects key = some times)
    (discarded : valueOf (cleanupSubjects limits now subjects) key = none) :
    ∀ time ∈ times, time ≤ now - limits.subjectWindowSeconds := by
  have cleaned := @valueOf_cleanupSubjects limits now subjects unique key
  rw [present, discarded] at cleaned
  intro time member
  simpa using List.dropWhile_eq_nil_iff.mp cleaned.symm time member

/-- The bucket of a key, moved to the end with new times. -/
def moveToEnd (key : String) (times : List Rat) (subjects : List (String × List Rat)) :
    List (String × List Rat) :=
  (subjects.filter fun entry => entry.1 ≠ key) ++ [(key, times)]

theorem moveToEnd_of_absent (absent : valueOf subjects key = none) (times : List Rat) :
    moveToEnd key times subjects = subjects ++ [(key, times)] := by
  rw [moveToEnd, List.filter_eq_self.mpr]
  intro entry member
  refine decide_eq_true fun same => valueOf_eq_none.mp absent ?_
  exact same ▸ List.mem_map_of_mem member

theorem unique_moveToEnd (unique : (subjects.map Prod.fst).Nodup) (times : List Rat) :
    ((moveToEnd key times subjects).map Prod.fst).Nodup := by
  rw [moveToEnd, List.map_append, List.nodup_append]
  refine ⟨List.Nodup.sublist (List.filter_sublist.map Prod.fst) unique,
    List.nodup_singleton _, ?_⟩
  intro name member last single
  obtain ⟨entry, kept, rfl⟩ := List.mem_map.mp member
  rw [List.mem_singleton.mp single]
  simpa using (List.mem_filter.mp kept).2

theorem valueOf_moveToEnd (times : List Rat) (name : String) :
    valueOf (moveToEnd key times subjects) name =
      if name = key then some times else valueOf subjects name := by
  have others := valueOf_filter subjects (fun name => decide (name ≠ key)) name
  rw [moveToEnd, valueOf, rowOf_append]
  by_cases same : name = key
  · subst same
    have absent : rowOf Prod.fst (subjects.filter fun entry => decide (entry.1 ≠ name)) name =
        none := by
      rw [rowOf_eq_none]
      intro entry member
      simpa using (List.mem_filter.mp member).2
    rw [absent, if_pos rfl]
    simp [rowOf]
  · rw [if_neg same]
    rw [if_pos (decide_eq_true same)] at others
    rw [← others, valueOf]
    have last : rowOf Prod.fst [(key, times)] name = none := by
      rw [rowOf_eq_none]
      intro entry member
      rw [List.mem_singleton.mp member]
      exact Ne.symm same
    rw [last, Option.or_none]

/-- A bucket that is there makes room for itself. -/
theorem length_moveToEnd_le {times : List Rat} {most : Nat} (few : subjects.length ≤ most)
    (room : valueOf subjects key = none → subjects.length < most) :
    (moveToEnd key times subjects).length ≤ most := by
  cases found : valueOf subjects key with
  | none =>
      rw [moveToEnd_of_absent found, List.length_append, List.length_singleton]
      exact room found
  | some stored =>
      have there : ∃ entry ∈ subjects, ¬ decide (entry.1 ≠ key) = true := by
        obtain ⟨entry, found_row, _⟩ := Option.map_eq_some_iff.mp found
        obtain ⟨member, same⟩ := rowOf_mem found_row
        exact ⟨entry, member, by simpa using same⟩
      have fewer := List.length_filter_lt_length_iff_exists.mpr there
      rw [moveToEnd, List.length_append, List.length_singleton]
      omega

end Buckets

/-! ## One attempt -/

section Attempts

variable {limits : LoginLimits} {limiter : LoginRateLimiter} {clock now : Rat}
variable {credential key : String} {past : List Outcome} {attempts more : List Attempt}

/-- **What an attempt does**: the global window refuses it, or it meets the
malformed window, or there is no room for a bucket of its subject, or it meets
the window of its subject. -/
theorem consume_cases (limits : LoginLimits) (limiter : LoginRateLimiter) (now : Rat)
    (credential : String) :
    let global := consumeWindow limiter.globalRequests now limits.globalLimit
      limits.globalWindowSeconds
    let malformed := consumeWindow limiter.malformedRequests now limits.malformedLimit
      limits.malformedWindowSeconds
    let subjects := cleanupSubjects limits now limiter.subjectRequests
    (∃ retry, global.2 = some retry ∧ limiter.consume limits now credential =
        ({ limiter with globalRequests := global.1 }, some ⟨retry, "global"⟩)) ∨
      global.2 = none ∧
        (parseOperatorApiKeyPublicId credential = none ∧
            limiter.consume limits now credential =
              ({ limiter with globalRequests := global.1, malformedRequests := malformed.1 },
                malformed.2.map fun retry => ⟨retry, "malformed"⟩) ∨
          ∃ publicId, parseOperatorApiKeyPublicId credential = some publicId ∧
            (valueOf subjects (subjectKey limits publicId) = none ∧
                limiter.consume limits now credential =
                  ({ limiter with globalRequests := global.1, subjectRequests := subjects },
                    some ⟨limits.subjectWindowSeconds, "capacity"⟩) ∨
              (valueOf subjects (subjectKey limits publicId) = none →
                  subjects.length < limits.maxSubjectBuckets) ∧
                ∃ window, window = consumeWindow
                    ((valueOf subjects (subjectKey limits publicId)).getD []) now
                    limits.subjectLimit limits.subjectWindowSeconds ∧
                  limiter.consume limits now credential =
                    ({ limiter with
                        globalRequests := global.1
                        subjectRequests := moveToEnd (subjectKey limits publicId) window.1
                          subjects },
                      window.2.map fun retry => ⟨retry, "subject"⟩))) := by
  intro global malformed subjects
  cases decided : global.2 with
  | some retry =>
    refine .inl ⟨retry, rfl, ?_⟩
    simp only [consume, global] at decided ⊢
    rw [decided]
  | none =>
    refine .inr ⟨rfl, ?_⟩
    cases shape : parseOperatorApiKeyPublicId credential with
    | none =>
      refine .inl ⟨rfl, ?_⟩
      simp only [consume, shape, global] at decided ⊢
      rw [decided]
    | some publicId =>
      refine .inr ⟨publicId, rfl, ?_⟩
      simp only [consume, shape, global] at decided ⊢
      rw [decided]
      dsimp only
      split
      next absent =>
        split
        next full => exact .inl ⟨absent, rfl⟩
        next room =>
          refine .inr ⟨fun _ => Nat.lt_of_not_le room, _, rfl, ?_⟩
          rw [moveToEnd_of_absent absent, absent]
          rfl
      next requests present =>
        refine .inr ⟨fun absent => ?_, _, rfl, ?_⟩
        · rw [absent] at present
          cases present
        · rw [present]
          rfl

/-- **An attempt discards a bucket only when all its times have expired.** -/
theorem expired_of_consume (unique : (limiter.subjectRequests.map Prod.fst).Nodup)
    {times : List Rat} (present : valueOf limiter.subjectRequests key = some times)
    (discarded : valueOf (limiter.consume limits now credential).1.subjectRequests key = none) :
    ∀ time ∈ times, time ≤ now - limits.subjectWindowSeconds := by
  rcases consume_cases limits limiter now credential with
    ⟨retry, _, served⟩ | ⟨_, ⟨_, served⟩ | ⟨publicId, _, ⟨_, served⟩ | ⟨_, window, _, served⟩⟩⟩
  · rw [served] at discarded
    exact absurd (discarded.symm.trans present) (by simp)
  · rw [served] at discarded
    exact absurd (discarded.symm.trans present) (by simp)
  · rw [served] at discarded
    exact expired_of_discarded unique present discarded
  · rw [served] at discarded
    refine expired_of_discarded unique present ?_
    rw [valueOf_moveToEnd] at discarded
    split at discarded
    · cases discarded
    · exact discarded

/-! ## The invariant -/

/-- Every log remembers the attempts that were counted in it. -/
structure Tracked (limits : LoginLimits) (limiter : LoginRateLimiter) (clock : Rat)
    (past : List Outcome) : Prop where
  global : Kept limits.globalLimit limits.globalWindowSeconds clock limiter.globalRequests
    (timesOf isAdmitted past)
  malformed : Kept limits.malformedLimit limits.malformedWindowSeconds clock
    limiter.malformedRequests (timesOf isMalformed past)
  subject (key : String) : Kept limits.subjectLimit limits.subjectWindowSeconds clock
    (limiter.requestsOf key) (timesOf (isSubject limits key) past)
  unique : (limiter.subjectRequests.map Prod.fst).Nodup
  few : limiter.subjectRequests.length ≤ limits.maxSubjectBuckets

theorem Tracked.fresh (limits : LoginLimits) (clock : Rat) :
    Tracked limits LoginRateLimiter.fresh clock [] :=
  ⟨.nil, .nil, fun _ => .nil, .nil, Nat.zero_le _⟩

theorem Tracked.later (tracked : Tracked limits limiter clock past) (later : clock ≤ now) :
    Tracked limits limiter now past :=
  ⟨tracked.global.later later, tracked.malformed.later later,
    fun key => (tracked.subject key).later later, tracked.unique, tracked.few⟩

theorem timesOf_append (kind : Outcome → Bool) (past : List Outcome) (attempt : Attempt)
    (decision : Option LoginRateLimitDecision) :
    timesOf kind (past ++ [(attempt, decision)]) =
      timesOf kind past ++ if kind (attempt, decision) then [attempt.1] else [] := by
  rw [timesOf, List.filter_append, List.map_append, List.filter_singleton]
  cases kind (attempt, decision)
  · rfl
  · rfl

/-- Another window refused it, if any did. -/
theorem isAdmitted_map (attempt : Attempt) (retry : Option Int) {scope : String}
    (other : scope ≠ "global") :
    isAdmitted (attempt, retry.map fun retry => ⟨retry, scope⟩) = true := by
  cases retry with
  | none => rfl
  | some retry => exact decide_eq_true other

/-- **One attempt keeps the invariant.** -/
theorem Tracked.consume (tracked : Tracked limits limiter clock past) (later : clock ≤ now)
    (credential : String) :
    Tracked limits (limiter.consume limits now credential).1 now
      (past ++ [((now, credential), (limiter.consume limits now credential).2)]) := by
  have global := tracked.global.consumeWindow limits.globalWindowSeconds_pos later
  have malformed := tracked.malformed.consumeWindow limits.malformedWindowSeconds_pos later
  have cleaned (name : String) := (tracked.subject name).cleaned later
  have subjects_unique := @unique_cleanupSubjects limits now _ tracked.unique
  have fewer : (cleanupSubjects limits now limiter.subjectRequests).length ≤
      limits.maxSubjectBuckets := length_cleanupSubjects_le.trans tracked.few
  have read := @valueOf_cleanupSubjects limits now _ tracked.unique
  rcases consume_cases limits limiter now credential with
    ⟨retry, refused, served⟩ |
      ⟨admits, ⟨shape, served⟩ | ⟨publicId, shape, ⟨absent, served⟩ | ⟨room, window, meets, served⟩⟩⟩
  · rw [served]
    rw [refused, if_neg (by simp), List.append_nil] at global
    refine ⟨?_, ?_, fun name => ?_, tracked.unique, tracked.few⟩
    · simpa [timesOf_append, isAdmitted] using global
    · simpa [timesOf_append, isMalformed] using tracked.malformed.later later
    · simpa [timesOf_append, isSubject, requestsOf] using (tracked.subject name).later later
  · rw [served]
    rw [admits, if_pos Option.isNone_none] at global
    refine ⟨?_, ?_, fun name => ?_, tracked.unique, tracked.few⟩
    · rw [timesOf_append, isAdmitted_map _ _ (by decide), if_pos rfl]
      exact global
    · simpa [timesOf_append, isMalformed, shape] using malformed
    · simpa [timesOf_append, isSubject, shape, requestsOf] using (tracked.subject name).later later
  · rw [served]
    rw [admits, if_pos Option.isNone_none] at global
    refine ⟨?_, ?_, fun name => ?_, subjects_unique, fewer⟩
    · simpa [timesOf_append, isAdmitted] using global
    · simpa [timesOf_append, isMalformed] using tracked.malformed.later later
    · have kept := cleaned name
      rw [requestsOf, ← read name] at kept
      simpa [timesOf_append, isSubject, requestsOf] using kept
  · rw [served]
    rw [admits, if_pos Option.isNone_none] at global
    refine ⟨?_, ?_, fun name => ?_, unique_moveToEnd subjects_unique _,
      length_moveToEnd_le fewer room⟩
    · rw [timesOf_append, isAdmitted_map _ _ (by decide), if_pos rfl]
      exact global
    · simpa [timesOf_append, isMalformed, shape] using tracked.malformed.later later
    · have kept := cleaned name
      rw [requestsOf, ← read name] at kept
      rw [requestsOf, valueOf_moveToEnd]
      by_cases same : name = subjectKey limits publicId
      · subst same
        have written := kept.consumeWindow limits.subjectWindowSeconds_pos le_rfl
        rw [← meets] at written
        simpa [timesOf_append, isSubject, shape] using written
      · rw [if_neg same]
        simpa [timesOf_append, isSubject, shape, Ne.symm same] using kept

/-- **Attempts keep the invariant.** -/
theorem Tracked.after (tracked : Tracked limits limiter clock past)
    (timely : attempts.Pairwise (·.1 ≤ ·.1)) (from_clock : ∀ attempt ∈ attempts, clock ≤ attempt.1)
    (up_to : ∀ attempt ∈ attempts, attempt.1 ≤ now) (passed : clock ≤ now) :
    Tracked limits (limiter.after limits attempts) now (past ++ outcomes limits limiter attempts) := by
  induction attempts generalizing limiter clock past with
  | nil =>
      rw [outcomes, List.append_nil]
      exact tracked.later passed
  | cons attempt rest ih =>
      obtain ⟨ordered, rest_timely⟩ := List.pairwise_cons.mp timely
      have first := tracked.consume (from_clock attempt List.mem_cons_self) attempt.2
      have others := ih first rest_timely ordered
        (fun other member => up_to other (List.mem_cons_of_mem _ member))
        (up_to attempt List.mem_cons_self)
      rw [List.append_assoc] at others
      exact others

/-- The invariant holds in every run of a fresh limiter. -/
theorem tracked_fresh (limits : LoginLimits) (timely : attempts.Pairwise (·.1 ≤ ·.1)) :
    ∃ clock, Tracked limits (fresh.after limits attempts) clock (outcomes limits fresh attempts) := by
  have latest : ∃ now : Rat, ∀ attempt ∈ attempts, attempt.1 ≤ now := by
    clear timely
    induction attempts with
    | nil => exact ⟨0, by simp⟩
    | cons attempt rest ih =>
        obtain ⟨now, up_to⟩ := ih
        refine ⟨max attempt.1 now, List.forall_mem_cons.mpr ⟨le_max_left _ _, ?_⟩⟩
        exact fun other member => (up_to other member).trans (le_max_right _ _)
  obtain ⟨now, up_to⟩ := latest
  refine ⟨now, ?_⟩
  cases attempts with
  | nil => exact Tracked.fresh limits now
  | cons first rest =>
      have from_first : ∀ attempt ∈ first :: rest, first.1 ≤ attempt.1 := by
        intro attempt member
        rcases List.mem_cons.mp member with rfl | later
        · exact le_rfl
        · exact (List.pairwise_cons.mp timely).1 attempt later
      exact (Tracked.fresh limits first.1).after timely from_first up_to
        (up_to first List.mem_cons_self)

/-! ## What a flood cannot do -/

/-- Of a narrower kind there are no more. -/
theorem countP_timesOf_le {narrow wide : Outcome → Bool}
    (contained : ∀ outcome, narrow outcome = true → wide outcome = true) (run : List Outcome)
    (interval : Rat → Bool) :
    (timesOf narrow run).countP interval ≤ (timesOf wide run).countP interval := by
  rw [timesOf, timesOf, List.countP_map, List.countP_map, List.countP_filter, List.countP_filter]
  refine List.countP_mono_left fun outcome _ both => ?_
  rw [Bool.and_eq_true] at both ⊢
  exact ⟨both.1, contained outcome both.2⟩

/-- No window, on whichever side it is open, has more than the limit. -/
theorem Kept.count_le {limit windowSeconds : Nat} {log admitted : List Rat}
    (kept : Kept limit windowSeconds clock log admitted) (start : Rat) :
    (admitted.countP fun time => start ≤ time && time < start + windowSeconds) ≤ limit ∧
      (admitted.countP fun time => start < time && time ≤ start + windowSeconds) ≤ limit := by
  constructor
  · refine kept.paced.count_le fun first second first_inside second_inside => ?_
    simp only [Bool.and_eq_true, decide_eq_true_eq] at first_inside second_inside
    exact narrow_of_half_open.1 first_inside.1 second_inside.2
  · refine kept.paced.count_le fun first second first_inside second_inside => ?_
    simp only [Bool.and_eq_true, decide_eq_true_eq] at first_inside second_inside
    exact narrow_of_half_open.2 first_inside.1 second_inside.2

theorem isSubject_of_isAcceptedFor {publicId : String} (outcome : Outcome)
    (accepted : isAcceptedFor publicId outcome = true) :
    isSubject limits (subjectKey limits publicId) outcome = true := by
  rw [isAcceptedFor, Bool.and_eq_true, decide_eq_true_eq] at accepted
  rw [isSubject, accepted.1, Bool.and_eq_true]
  exact ⟨decide_eq_true rfl, accepted.2⟩

theorem isAdmitted_of_isAccepted (outcome : Outcome) (accepted : isAccepted outcome = true) :
    isAdmitted outcome = true := by
  rw [isAdmitted, Option.isNone_iff_eq_none.mp accepted]
  rfl

/-- **The login limiter is bounded and cannot be bypassed.** -/
theorem login_limiter_bounded (limits : LoginLimits) (timely : attempts.Pairwise (·.1 ≤ ·.1)) :
    ((fresh.after limits attempts).subjectRequests.length ≤ limits.maxSubjectBuckets ∧
      (∀ bucket ∈ (fresh.after limits attempts).subjectRequests,
        bucket.2.length ≤ limits.subjectLimit) ∧
      (fresh.after limits attempts).globalRequests.length ≤ limits.globalLimit ∧
      (fresh.after limits attempts).malformedRequests.length ≤ limits.malformedLimit) ∧
    (∀ (now : Rat) (credential key : String) (times : List Rat),
      valueOf (fresh.after limits attempts).subjectRequests key = some times →
      valueOf (fresh.after limits (attempts ++ [(now, credential)])).subjectRequests key = none →
        ∀ time ∈ times, time ≤ now - limits.subjectWindowSeconds) ∧
    (∀ (publicId : String) (start : Rat),
      ((timesOf (isAcceptedFor publicId) (outcomes limits fresh attempts)).countP fun time : Rat =>
          start ≤ time && time < start + limits.subjectWindowSeconds) ≤ limits.subjectLimit ∧
        ((timesOf (isAcceptedFor publicId) (outcomes limits fresh attempts)).countP fun time : Rat =>
          start < time && time ≤ start + limits.subjectWindowSeconds) ≤ limits.subjectLimit) ∧
    ∀ start : Rat,
      ((timesOf isAccepted (outcomes limits fresh attempts)).countP fun time : Rat =>
          start ≤ time && time < start + limits.globalWindowSeconds) ≤ limits.globalLimit ∧
        ((timesOf isAccepted (outcomes limits fresh attempts)).countP fun time : Rat =>
          start < time && time ≤ start + limits.globalWindowSeconds) ≤ limits.globalLimit := by
  obtain ⟨clock, tracked⟩ := tracked_fresh limits timely
  refine ⟨⟨tracked.few, ?_, tracked.global.bounded, tracked.malformed.bounded⟩, ?_, ?_, ?_⟩
  · rintro ⟨key, times⟩ member
    have bounded := (tracked.subject key).bounded
    rwa [requestsOf, (valueOf_eq_some tracked.unique).mpr member] at bounded
  · intro now credential key times present discarded
    rw [after, List.foldl_append] at discarded
    exact expired_of_consume tracked.unique present discarded
  · intro publicId start
    obtain ⟨closed_left, closed_right⟩ :=
      (tracked.subject (subjectKey limits publicId)).count_le start
    constructor
    · exact (countP_timesOf_le isSubject_of_isAcceptedFor _ _).trans closed_left
    · exact (countP_timesOf_le isSubject_of_isAcceptedFor _ _).trans closed_right
  · intro start
    obtain ⟨closed_left, closed_right⟩ := tracked.global.count_le start
    constructor
    · exact (countP_timesOf_le isAdmitted_of_isAccepted _ _).trans closed_left
    · exact (countP_timesOf_le isAdmitted_of_isAccepted _ _).trans closed_right

end Attempts

theorem long_processKey : 32 ≤ (List.replicate 32 7).length := by
  rw [List.length_replicate]

/-- One attempt a minute for a subject, and room for one subject. -/
def smallLimits : LoginLimits where
  globalLimit := 60
  globalWindowSeconds := 60
  subjectLimit := 1
  subjectWindowSeconds := 60
  malformedLimit := 1
  malformedWindowSeconds := 60
  maxSubjectBuckets := 1
  processKey := List.replicate 32 7
  globalLimit_pos := by decide
  globalWindowSeconds_pos := by decide
  subjectLimit_pos := Nat.one_pos
  subjectWindowSeconds_pos := by decide
  malformedLimit_pos := Nat.one_pos
  malformedWindowSeconds_pos := by decide
  maxSubjectBuckets_pos := Nat.one_pos
  processKey_long := long_processKey

/-- A subject that tries twice, with another subject in between. -/
def floodedSubject : List Attempt :=
  [(0, "wgok_AAAAAAAAAAAAAAAA.aaaaaaaaaaaaaaaaaaaaaaaaaaaaaaaaaaaaaaaaaaa"),
    (10, "wgok_BBBBBBBBBBBBBBBB.aaaaaaaaaaaaaaaaaaaaaaaaaaaaaaaaaaaaaaaaaaa"),
    (20, "wgok_AAAAAAAAAAAAAAAA.aaaaaaaaaaaaaaaaaaaaaaaaaaaaaaaaaaaaaaaaaaa")]

/-- The other subject finds no room, and the second try is still counted. -/
theorem login_limiter_bounded_flooded :
    (outcomes smallLimits fresh floodedSubject).map Prod.snd =
        [none, some ⟨60, "capacity"⟩, some ⟨40, "subject"⟩] ∧
      (fresh.after smallLimits floodedSubject).subjectRequests.length ≤ 1 := by
  have timely : floodedSubject.Pairwise (·.1 ≤ ·.1) := by decide
  exact ⟨by decide +kernel, (login_limiter_bounded smallLimits timely).1.1⟩

end WolandGuard.LoginRateLimiter
