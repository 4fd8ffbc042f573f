import Mathlib.Algebra.Order.Group.Defs
import Mathlib.Data.List.Basic

/-!
# Sliding windows

A log keeps the times that were admitted, oldest first, and drops from its front
those that have left the window. With a clock that does not go back it is the
part of all admitted times inside the window (`Remembers.expire`), whenever it
was last cleaned. If a time is admitted only when fewer than a limit are in the
window before it, then no interval of the window's width has more than the limit
(`Paced.count_le`).
-/

set_option autoImplicit false

namespace WolandGuard.Foundations

universe u

/-- In ascending order the times of the window are a tail. -/
theorem dropWhile_eq_filter {τ : Type u} [LinearOrder τ] {times : List τ} (ascending : times.Pairwise (· ≤ ·)) (cutoff : τ) :
    (times.dropWhile fun time => time ≤ cutoff) = times.filter fun time => cutoff < time := by
  induction times with
  | nil => rfl
  | cons time rest ih =>
      obtain ⟨below, rest_ascending⟩ := List.pairwise_cons.mp ascending
      by_cases old : time ≤ cutoff
      · rw [List.dropWhile_cons, if_pos (decide_eq_true old), ih rest_ascending,
          List.filter_cons, if_neg (by simpa using old)]
      · rw [List.dropWhile_cons, if_neg (by simpa using old)]
        refine (List.filter_eq_self.mpr fun other member => decide_eq_true ?_).symm
        rcases List.mem_cons.mp member with rfl | later
        · exact not_le.mp old
        · exact (not_le.mp old).trans_le (below other later)

variable {τ : Type u} [AddCommGroup τ] [LinearOrder τ]

/-- Drop the times that have left the window. -/
def expire (window now : τ) (times : List τ) : List τ :=
  times.dropWhile fun time => time ≤ now - window

/-! ## What a log remembers -/

/-- A log has the admitted times after some cutoff that is outside the window. -/
structure Remembers (window clock : τ) (log admitted : List τ) : Prop where
  ascending : admitted.Pairwise (· ≤ ·)
  past : ∀ time ∈ admitted, time ≤ clock
  kept : ∃ cutoff ≤ clock - window, log = admitted.filter fun time => cutoff < time

section Logs

variable {window clock now : τ} {log admitted : List τ}

theorem Remembers.nil : Remembers window clock ([] : List τ) [] :=
  ⟨.nil, by simp, clock - window, le_rfl, rfl⟩

variable [IsOrderedAddMonoid τ]

theorem Remembers.later (remembers : Remembers window clock log admitted) (later : clock ≤ now) :
    Remembers window now log admitted := by
  obtain ⟨cutoff, outside, kept⟩ := remembers.kept
  refine ⟨remembers.ascending, ?_, cutoff, outside.trans (sub_le_sub_right later window), kept⟩
  intro time member
  exact (remembers.past time member).trans later

/-- Cleaning earlier does not show. -/
theorem expire_expire (later : clock ≤ now) :
    Foundations.expire window now (Foundations.expire window clock log) =
      Foundations.expire window now log := by
  induction log with
  | nil => rfl
  | cons time rest ih =>
      by_cases old : time ≤ clock - window
      · have older : time ≤ now - window := old.trans (sub_le_sub_right later window)
        have first : Foundations.expire window clock (time :: rest) =
            Foundations.expire window clock rest := by
          rw [Foundations.expire, List.dropWhile_cons, if_pos (decide_eq_true old)]
          rfl
        have second : Foundations.expire window now (time :: rest) =
            Foundations.expire window now rest := by
          rw [Foundations.expire, List.dropWhile_cons, if_pos (decide_eq_true older)]
          rfl
        rw [first, second, ih]
      · have first : Foundations.expire window clock (time :: rest) = time :: rest := by
          rw [Foundations.expire, List.dropWhile_cons, if_neg (by simpa using old)]
        rw [first]

/-- **A cleaned log is the window.** -/
theorem Remembers.expire (remembers : Remembers window clock log admitted) (later : clock ≤ now) :
    expire window now log = admitted.filter fun time => now - window < time := by
  obtain ⟨cutoff, outside, rfl⟩ := remembers.kept
  rw [Foundations.expire, dropWhile_eq_filter (remembers.ascending.filter _), List.filter_filter]
  refine List.filter_congr fun time _ => ?_
  rw [Bool.eq_iff_iff, Bool.and_eq_true, decide_eq_true_eq, decide_eq_true_eq]
  refine and_iff_left_of_imp fun inside => ?_
  exact (outside.trans (sub_le_sub_right later window)).trans_lt inside

/-- Cleaning forgets nothing that counts. -/
theorem Remembers.cleaned (remembers : Remembers window clock log admitted)
    (later : clock ≤ now) : Remembers window now (Foundations.expire window now log) admitted := by
  have moved := remembers.later later
  exact ⟨moved.ascending, moved.past, now - window, le_rfl, remembers.expire later⟩

theorem Remembers.push (remembers : Remembers window clock log admitted) (later : clock ≤ now)
    (width : 0 < window) :
    Remembers window now (Foundations.expire window now log ++ [now]) (admitted ++ [now]) := by
  have moved := remembers.later later
  refine ⟨?_, ?_, now - window, le_rfl, ?_⟩
  · rw [List.pairwise_append]
    refine ⟨moved.ascending, List.pairwise_singleton _ _, ?_⟩
    intro time member last single
    rw [List.mem_singleton.mp single]
    exact moved.past time member
  · intro time member
    rcases List.mem_append.mp member with before | last
    · exact moved.past time before
    · exact (List.mem_singleton.mp last).le
  · rw [List.filter_append, remembers.expire later, List.filter_cons, List.filter_nil,
      if_pos (decide_eq_true (sub_lt_self now width))]

end Logs

/-! ## Paced times -/

/-- Times that were admitted one by one, each when fewer than the limit were in
the window before it. -/
inductive Paced (limit : Nat) (window : τ) : List τ → Prop where
  | nil : Paced limit window []
  | push {admitted : List τ} {now : τ} : Paced limit window admitted →
      (admitted.countP fun time => now - window < time) < limit →
      Paced limit window (admitted ++ [now])

/-- **No interval of the width of the window has more than the limit.** An
interval is given by its members: any two of them are less than a window
apart. -/
theorem Paced.count_le {limit : Nat} {window : τ} {admitted : List τ}
    (paced : Paced limit window admitted) {interval : τ → Bool}
    (narrow : ∀ first second, interval first = true → interval second = true →
      second - window < first) : admitted.countP interval ≤ limit := by
  induction paced with
  | nil => exact Nat.zero_le _
  | @push admitted now _ room ih =>
      rw [List.countP_append, List.countP_singleton]
      by_cases inside : interval now = true
      · rw [if_pos inside]
        have fewer : admitted.countP interval ≤
            admitted.countP fun time => now - window < time := by
          refine List.countP_mono_left fun time _ there => decide_eq_true ?_
          exact narrow time now there inside
        omega
      · rw [if_neg inside, Nat.add_zero]
        exact ih

variable [IsOrderedAddMonoid τ]

/-- A half-open interval is narrow, closed on either side. -/
theorem narrow_of_half_open {window start : τ} {first second : τ} :
    (start ≤ first → second < start + window → second - window < first) ∧
      (start < first → second ≤ start + window → second - window < first) := by
  constructor
  · intro after before
    exact (sub_lt_iff_lt_add.mpr before).trans_le after
  · intro after before
    exact (sub_le_iff_le_add.mpr before).trans_lt after

/-- The limit holds up to any instant. -/
theorem Paced.window_le {limit : Nat} {window : τ} {admitted : List τ} {clock : τ}
    (paced : Paced limit window admitted) (past : ∀ time ∈ admitted, time ≤ clock) :
    (admitted.countP fun time => clock - window < time) ≤ limit := by
  have same : (admitted.countP fun time => clock - window < time) =
      admitted.countP fun time => clock - window < time && time ≤ clock := by
    refine List.countP_congr fun time member => ?_
    simp [past time member]
  rw [same]
  refine paced.count_le fun first second first_inside second_inside => ?_
  simp only [Bool.and_eq_true, decide_eq_true_eq] at first_inside second_inside
  exact (sub_le_sub_right second_inside.2 window).trans_lt first_inside.1

end WolandGuard.Foundations
