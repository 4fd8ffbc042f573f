import WolandGuard.Foundations.Ranking
import Mathlib.Data.List.Nodup
import Mathlib.Data.List.Pairwise

/-!
# Keyset pagination

A page has the first rows after the keys of a cursor, in the order of their keys,
and one row more is read to see whether there is a next page. The cursor of the
next page is made of the keys of the last row. Where the rows after a cursor are
the rows with greater keys, every page ends where the next one starts, so the
pages are in order without repetition whatever is written between the requests,
and a row that is there all the time is on one of them
(`KeysetListing.follow_complete`).
-/

set_option autoImplicit false

namespace WolandGuard.Foundations

universe u v w x y z

/-- The items of a page and the cursor of the next one. -/
structure Page (ι : Type u) (γ : Type v) where
  items : List ι
  nextCursor : Option γ

/-- The first `limit` of the rows in an order, and the cursor of the last one when
there are more. -/
def keysetPage {ρ : Type u} {ι : Type v} {γ : Type w} (before : ρ → ρ → Bool) (limit : Nat)
    (cursorOf : ρ → γ) (item : ρ → ι) (rows : List ρ) : Page ι γ :=
  let found := (rows.insertionSort (before · ·)).take (limit + 1)
  let pageRows := found.take limit
  ⟨pageRows.map item, if limit < found.length then pageRows.getLast?.map cursorOf else none⟩

/-- Follow the cursors, each request on the state that it meets: the items of all
pages, and whether the last page was reached. A list function that raises returns
no page. -/
def follow {σ : Type u} {ι : Type v} {γ : Type w} (list : σ → Option γ → Option (Page ι γ)) :
    List σ → Option γ → List ι × Bool
  | [], _ => ([], false)
  | state :: later, cursor =>
      match list state cursor with
      | none => ([], false)
      | some page =>
          match page.nextCursor with
          | none => (page.items, true)
          | some next =>
              let rest := follow list later (some next)
              (page.items ++ rest.1, rest.2)

/-! ## One page -/

section Pages

variable {ρ : Type u} {τ : Type v} [LinearOrder τ] {rank : ρ → τ} {before : ρ → ρ → Bool}
variable {rows : List ρ} {limit : Nat}

/-- Rows with different ranks are sorted strictly. -/
theorem strict_insertionSort (order : ∀ first second, before first second = true ↔
      rank first ≤ rank second) (unique : (rows.map rank).Nodup) :
    (rows.insertionSort (before · ·)).Pairwise fun first second => rank first < rank second := by
  have sorted := insertionSort_pairwise
    (fun first second => (le_total (rank first) (rank second)).imp (order _ _).mpr (order _ _).mpr)
    (fun first second third left right =>
      (order _ _).mpr (((order _ _).mp left).trans ((order _ _).mp right))) rows
  have different : (rows.insertionSort (before · ·)).Pairwise fun first second =>
      rank first ≠ rank second := by
    rw [← List.pairwise_map]
    exact ((List.perm_insertionSort _ rows).map rank).nodup_iff.mpr unique
  refine (sorted.and different).imp fun both => ?_
  exact lt_of_le_of_ne ((order _ _).mp both.1) both.2

/-- **The rows of a page**: they are in order, and there is a next page exactly
when some rows are left, all of them after the last row of the page. -/
theorem page_spec (order : ∀ first second, before first second = true ↔
      rank first ≤ rank second) (unique : (rows.map rank).Nodup) (positive : 0 < limit) :
    let found := (rows.insertionSort (before · ·)).take (limit + 1)
    let pageRows := found.take limit
    (pageRows.Pairwise fun first second => rank first < rank second) ∧ pageRows ⊆ rows ∧
      (¬ limit < found.length → ∀ row ∈ rows, row ∈ pageRows) ∧
      (limit < found.length → ∃ last, pageRows.getLast? = some last ∧
        (∀ row ∈ pageRows, rank row ≤ rank last) ∧
        ∀ row ∈ rows, rank row ≤ rank last → row ∈ pageRows) := by
  intro found pageRows
  have strict := strict_insertionSort order unique
  have perm := List.perm_insertionSort (before · ·) rows
  have taken : pageRows = (rows.insertionSort (before · ·)).take limit := by
    exact (List.take_take ..).trans (by rw [Nat.min_eq_left (Nat.le_succ limit)])
  have split := List.take_append_drop limit (rows.insertionSort (before · ·))
  rw [← taken] at split
  have apart := strict
  rw [← split, List.pairwise_append] at apart
  obtain ⟨sorted, _, across⟩ := apart
  have cover : ∀ row ∈ rows, row ∈ pageRows ∨
      row ∈ (rows.insertionSort (before · ·)).drop limit := by
    intro row member
    have listed := perm.mem_iff.mpr member
    rwa [← split, List.mem_append] at listed
  refine ⟨sorted, ?_, ?_, ?_⟩
  · intro row member
    rw [taken] at member
    exact perm.mem_iff.mp (List.mem_of_mem_take member)
  · intro few row member
    rcases cover row member with on_page | left
    · exact on_page
    · have none_left : (rows.insertionSort (before · ·)).drop limit = [] := by
        rw [List.drop_eq_nil_iff]
        have length := @List.length_take _ (limit + 1) (rows.insertionSort (before · ·))
        change found.length = _ at length
        omega
      rw [none_left] at left
      cases left
  · intro more
    have nonempty : pageRows ≠ [] := by
      intro empty
      have length := @List.length_take _ limit found
      change pageRows.length = _ at length
      rw [empty, List.length_nil] at length
      omega
    refine ⟨pageRows.getLast nonempty, List.getLast?_eq_some_getLast nonempty, ?_, ?_⟩
    · intro row member
      have ascending : pageRows.Pairwise fun first second => rank first ≤ rank second :=
        sorted.imp le_of_lt
      exact ascending.rel_getLast_of_rel_getLast_getLast member le_rfl
    · intro row member below
      rcases cover row member with on_page | left
      · exact on_page
      · have after := across _ (List.getLast_mem nonempty) row left
        exact absurd below (not_le.mpr after)

end Pages

/-! ## All pages -/

section Listings

variable {σ : Type u} {ι : Type v} {ρ : Type w} {κ : Type x} {γ : Type y} {τ : Type z}
variable [LinearOrder τ]

/-- The keys come after those of a cursor; on the first page there is none. -/
def After (rank : κ → τ) (cursor : Option κ) (keys : κ) : Prop :=
  ∀ last ∈ cursor, rank last < rank keys

instance (rank : κ → τ) (cursor : Option κ) (keys : κ) : Decidable (After rank cursor keys) := by
  unfold After
  infer_instance

/-- A list function whose pages are keyset pages: `rows` are the rows that match
in a state, `rank` orders their keys, and a cursor stands for keys. -/
structure KeysetListing (list : σ → Option γ → Option (Page ι γ)) (rows : σ → List ρ)
    (key : ρ → κ) (itemKey : ι → κ) (rank : κ → τ) (encode : κ → γ) (decode : γ → Option κ)
    (limit : Nat) : Prop where
  positive : 0 < limit
  injective : Function.Injective rank
  page : ∀ (state : σ) (cursor : Option γ) (keys : Option κ),
    cursor.map decode = keys.map some →
      ∃ (before : ρ → ρ → Bool) (item : ρ → ι),
        (∀ first second, before first second = true ↔ rank (key first) ≤ rank (key second)) ∧
        (∀ row, itemKey (item row) = key row) ∧
        list state cursor = some (keysetPage before limit (fun row => encode (key row)) item
          ((rows state).filter fun row => After rank keys (key row)))

variable {list : σ → Option γ → Option (Page ι γ)} {rows : σ → List ρ} {key : ρ → κ}
variable {itemKey : ι → κ} {rank : κ → τ} {encode : κ → γ} {decode : γ → Option κ} {limit : Nat}
variable {state : σ} {states : List σ} {cursor : Option γ} {keys : Option κ}

/-- **One page**, in terms of the keys. -/
theorem KeysetListing.page_keys
    (listing : KeysetListing list rows key itemKey rank encode decode limit)
    (unique : ((rows state).map key).Nodup) (reads : cursor.map decode = keys.map some) :
    ∃ page, list state cursor = some page ∧
      ((page.items.map itemKey).Pairwise fun first second => rank first < rank second) ∧
      (∀ k ∈ page.items.map itemKey, k ∈ (rows state).map key ∧ After rank keys k) ∧
      (page.nextCursor = none →
        ∀ k ∈ (rows state).map key, After rank keys k → k ∈ page.items.map itemKey) ∧
      ∀ next, page.nextCursor = some next →
        ∃ last ∈ page.items.map itemKey, next = encode last ∧
          (∀ k ∈ page.items.map itemKey, rank k ≤ rank last) ∧
          ∀ k ∈ (rows state).map key, After rank keys k → rank k ≤ rank last →
            k ∈ page.items.map itemKey := by
  obtain ⟨before, item, order, shows, served⟩ := listing.page state cursor keys reads
  have left_unique : (((rows state).filter fun row => After rank keys (key row)).map
      fun row => rank (key row)).Nodup := by
    have ranks : ((rows state).map fun row => rank (key row)).Nodup := by
      have mapped := unique.map listing.injective
      rwa [List.map_map] at mapped
    exact ranks.sublist (List.filter_sublist.map _)
  obtain ⟨sorted, from_rows, complete, more⟩ := page_spec order left_unique listing.positive
  refine ⟨_, served, ?_, ?_, ?_, ?_⟩
  all_goals
    rw [keysetPage]
    dsimp only
    rw [List.map_map, show itemKey ∘ item = key from funext shows]
  · rw [List.pairwise_map]
    exact sorted
  · intro k member
    obtain ⟨row, on_page, rfl⟩ := List.mem_map.mp member
    obtain ⟨row_in, after⟩ := List.mem_filter.mp (from_rows on_page)
    exact ⟨List.mem_map_of_mem row_in, of_decide_eq_true after⟩
  · intro no_next k member after
    obtain ⟨row, row_in, rfl⟩ := List.mem_map.mp member
    refine List.mem_map_of_mem (complete ?_ row (List.mem_filter.mpr ⟨row_in,
      decide_eq_true after⟩))
    intro some_left
    obtain ⟨last, found, _⟩ := more some_left
    rw [if_pos some_left, found] at no_next
    cases no_next
  · intro next has_next
    split at has_next
    next some_left =>
      obtain ⟨last, found, greatest, covered⟩ := more some_left
      rw [found] at has_next
      refine ⟨key last, List.mem_map_of_mem (List.mem_of_getLast? found),
        (Option.some.inj has_next).symm, ?_, ?_⟩
      · intro k member
        obtain ⟨row, on_page, rfl⟩ := List.mem_map.mp member
        exact greatest row on_page
      · intro k member after below
        obtain ⟨row, row_in, rfl⟩ := List.mem_map.mp member
        exact List.mem_map_of_mem (covered row (List.mem_filter.mpr ⟨row_in,
          decide_eq_true after⟩) below)
    · cases has_next

theorem After.trans {last k : κ} (first : After rank keys last) (second : After rank (some last) k) :
    After rank keys k := by
  intro start from_start
  exact (first start from_start).trans (second last rfl)

/-- The cursor of the next page is read back as the keys of the last row. -/
theorem reads_next {next : γ} {last : κ} (made : next = encode last)
    (readable : decode (encode last) = some last) :
    (some next).map decode = (some last).map some := by
  rw [made, Option.map_some, readable]
  rfl

/-- **All pages from a cursor on**: in order and without repetition, rows that
match, and when the last page was reached every row that was there all the
time. -/
theorem KeysetListing.follow_from
    (listing : KeysetListing list rows key itemKey rank encode decode limit)
    (unique : ∀ state ∈ states, ((rows state).map key).Nodup)
    (readable : ∀ state ∈ states, ∀ k ∈ (rows state).map key, decode (encode k) = some k)
    (reads : cursor.map decode = keys.map some) :
    (((follow list states cursor).1.map itemKey).Pairwise fun first second =>
        rank first < rank second) ∧
      (∀ k ∈ (follow list states cursor).1.map itemKey,
        (∃ state ∈ states, k ∈ (rows state).map key) ∧ After rank keys k) ∧
      ((follow list states cursor).2 = true →
        ∀ k, (∀ state ∈ states, k ∈ (rows state).map key) → After rank keys k →
          k ∈ (follow list states cursor).1.map itemKey) := by
  induction states generalizing cursor keys with
  | nil => exact ⟨.nil, by simp [follow], by simp [follow]⟩
  | cons state later ih =>
      obtain ⟨page, served, sorted, sound, complete, more⟩ :=
        listing.page_keys (unique state List.mem_cons_self) reads
      cases has_next : page.nextCursor with
      | none =>
          have result : follow list (state :: later) cursor = (page.items, true) := by
            rw [follow, served]
            dsimp only
            rw [has_next]
          rw [result]
          refine ⟨sorted, ?_, ?_⟩
          · intro k member
            obtain ⟨in_rows, after⟩ := sound k member
            exact ⟨⟨state, List.mem_cons_self, in_rows⟩, after⟩
          · intro _ k present after
            exact complete has_next k (present state List.mem_cons_self) after
      | some next =>
          obtain ⟨last, last_in, made, greatest, covered⟩ := more next has_next
          obtain ⟨last_row, last_after⟩ := sound last last_in
          have result : follow list (state :: later) cursor =
              (page.items ++ (follow list later (some next)).1,
                (follow list later (some next)).2) := by
            rw [follow, served]
            dsimp only
            rw [has_next]
          obtain ⟨rest_sorted, rest_sound, rest_complete⟩ :=
            ih (fun other member => unique other (List.mem_cons_of_mem _ member))
              (fun other member => readable other (List.mem_cons_of_mem _ member))
              (reads_next made (readable state List.mem_cons_self last last_row))
          rw [result, List.map_append]
          refine ⟨List.pairwise_append.mpr ⟨sorted, rest_sorted, ?_⟩, ?_, ?_⟩
          · intro first on_page second on_rest
            exact (greatest first on_page).trans_lt ((rest_sound second on_rest).2 last rfl)
          · intro k member
            rcases List.mem_append.mp member with on_page | on_rest
            · obtain ⟨in_rows, after⟩ := sound k on_page
              exact ⟨⟨state, List.mem_cons_self, in_rows⟩, after⟩
            · obtain ⟨⟨other, other_in, in_rows⟩, after⟩ := rest_sound k on_rest
              exact ⟨⟨other, List.mem_cons_of_mem _ other_in, in_rows⟩, last_after.trans after⟩
          · intro finished k present after
            rw [List.mem_append]
            rcases le_or_gt (rank k) (rank last) with below | above
            · exact .inl (covered k (present state List.mem_cons_self) after below)
            · refine .inr (rest_complete finished k
                (fun other member => present other (List.mem_cons_of_mem _ member)) ?_)
              intro start same
              obtain rfl := Option.some.inj same
              exact above

/-- **Without writes between the requests the last page is reached.** -/
theorem KeysetListing.follow_terminates
    (listing : KeysetListing list rows key itemKey rank encode decode limit)
    (unique : ((rows state).map key).Nodup)
    (readable : ∀ k ∈ (rows state).map key, decode (encode k) = some k)
    (reads : cursor.map decode = keys.map some) :
    ∃ requests, (follow list (List.replicate requests state) cursor).2 = true := by
  -- each page leaves fewer rows after its cursor
  induction left : (((rows state).map key).filter fun k => After rank keys k).length
      using Nat.strong_induction_on generalizing cursor keys with
  | _ count ih =>
      obtain ⟨page, served, _, sound, _, more⟩ := listing.page_keys unique reads
      cases has_next : page.nextCursor with
      | none =>
          refine ⟨1, ?_⟩
          rw [List.replicate_one, follow, served]
          dsimp only
          rw [has_next]
      | some next =>
          obtain ⟨last, last_in, made, _, _⟩ := more next has_next
          obtain ⟨last_row, last_after⟩ := sound last last_in
          have fewer : (((rows state).map key).filter fun k => After rank (some last) k).length <
              count := by
            have narrowed : (((rows state).map key).filter fun k => After rank (some last) k) =
                (((rows state).map key).filter fun k => After rank keys k).filter
                  fun k => After rank (some last) k := by
              rw [List.filter_filter]
              refine List.filter_congr fun k _ => ?_
              rw [Bool.eq_iff_iff, Bool.and_eq_true, decide_eq_true_iff, decide_eq_true_iff]
              exact (and_iff_left_of_imp fun after => last_after.trans after).symm
            rw [narrowed, ← left]
            refine List.length_filter_lt_length_iff_exists.mpr ⟨last,
              List.mem_filter.mpr ⟨last_row, decide_eq_true last_after⟩, fun after => ?_⟩
            exact lt_irrefl _ (of_decide_eq_true after last rfl)
          obtain ⟨requests, finished⟩ :=
            ih _ fewer (reads_next made (readable last last_row)) rfl
          refine ⟨requests + 1, ?_⟩
          rw [List.replicate_succ, follow, served]
          dsimp only
          rw [has_next]
          exact finished

/-! ## Tables that grow -/

/-- What complete pagination means, for states with a notion of rows that are
inserted between the requests: the items of all pages are in order and come from
rows, none has the id of another, every row that is there all the time is on
exactly one page once the last page is reached, and without insertions it is
reached. -/
def CompletePagination {ν : Type*} [DecidableEq κ] (list : σ → Option γ → Option (Page ι γ))
    (rows : σ → List ρ) (key : ρ → κ) (itemKey : ι → κ) (precedes : κ → κ → Prop) (idOf : κ → ν)
    (encode : κ → γ) (decode : γ → Option κ) (Consistent : σ → Prop) (Grows : σ → σ → Prop) :
    Prop :=
  (∀ states : List σ, (∀ state ∈ states, Consistent state) → states.Pairwise Grows →
    (∀ state ∈ states, ∀ k ∈ (rows state).map key, decode (encode k) = some k) →
      ((follow list states none).1.map itemKey).Pairwise precedes ∧
      ((follow list states none).1.map fun item => idOf (itemKey item)).Nodup ∧
      (∀ item ∈ (follow list states none).1, ∃ state ∈ states,
        itemKey item ∈ (rows state).map key) ∧
      ((follow list states none).2 = true → ∀ k, (∀ state ∈ states, k ∈ (rows state).map key) →
        ((follow list states none).1.map itemKey).count k = 1)) ∧
  ∀ state, Consistent state → (∀ k ∈ (rows state).map key, decode (encode k) = some k) →
    ∃ requests, (follow list (List.replicate requests state) none).2 = true

/-- **Keyset pagination is complete.** -/
theorem KeysetListing.complete {ν : Type*} [DecidableEq κ] {idOf : κ → ν} {Consistent : σ → Prop}
    {Grows : σ → σ → Prop} {precedes : κ → κ → Prop}
    (listing : KeysetListing list rows key itemKey rank encode decode limit)
    (order : ∀ first second, rank first < rank second → precedes first second)
    (ids : ∀ state, Consistent state → ((rows state).map fun row => idOf (key row)).Nodup)
    (keeps : ∀ first second, Consistent first → Consistent second → Grows first second →
      (rows first).map key ⊆ (rows second).map key) :
    CompletePagination list rows key itemKey precedes idOf encode decode Consistent Grows := by
  have unique : ∀ state, Consistent state → ((rows state).map key).Nodup := by
    intro state consistent
    refine List.Nodup.of_map idOf ?_
    rw [List.map_map]
    exact ids state consistent
  constructor
  · intro states consistent growing readable
    obtain ⟨sorted, sound, complete⟩ := @follow_from _ _ _ _ _ _ _ _ _ _ _ _ _ _ _ states none none
      listing (fun state member => unique state (consistent state member)) readable rfl
    have different : ((follow list states none).1.map itemKey).Nodup := by
      refine sorted.imp fun {first second} less same => ?_
      rw [same] at less
      exact lt_irrefl _ less
    refine ⟨sorted.imp (order _ _), ?_, ?_, ?_⟩
    · rcases List.eq_nil_or_concat' states with rfl | ⟨early, last, rfl⟩
      · exact .nil
      · have last_in : last ∈ early ++ [last] := by simp
        -- all keys are those of rows of the last state
        have within : ∀ k ∈ (follow list (early ++ [last]) none).1.map itemKey,
            k ∈ (rows last).map key := by
          intro k member
          obtain ⟨⟨state, state_in, in_rows⟩, _⟩ := sound k member
          rcases List.mem_append.mp state_in with before | at_last
          · obtain ⟨_, _, across⟩ := List.pairwise_append.mp growing
            exact keeps state last (consistent state state_in) (consistent last last_in)
              (across state before last (List.mem_singleton_self _)) in_rows
          · rwa [List.mem_singleton.mp at_last] at in_rows
        have last_ids : (((rows last).map key).map idOf).Nodup := by
          rw [List.map_map]
          exact ids last (consistent last last_in)
        have mapped : (((follow list (early ++ [last]) none).1.map itemKey).map idOf).Nodup := by
          refine (List.nodup_map_iff_inj_on different).mpr fun first first_in second second_in => ?_
          exact (List.nodup_map_iff_inj_on last_ids.of_map).mp last_ids first
            (within first first_in) second (within second second_in)
        rwa [List.map_map] at mapped
    · intro item member
      exact (sound (itemKey item) (List.mem_map_of_mem member)).1
    · intro finished k present
      refine List.count_eq_one_of_mem different (complete finished k present ?_)
      intro start none_start
      cases none_start
  · intro state consistent readable
    exact @follow_terminates _ _ _ _ _ _ _ _ _ _ _ _ _ _ _ state none none listing
      (unique state consistent) readable rfl

end Listings

end WolandGuard.Foundations
