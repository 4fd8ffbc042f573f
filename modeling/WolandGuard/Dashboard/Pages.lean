import WolandGuard.Dashboard.RestCursors
import Mathlib.Data.Prod.Lex
import Mathlib.Data.String.Basic
import Mathlib.Order.Lex

/-!
# Complete pages

In every list the condition of the cursor is the strict order of the `ORDER BY`:
the instants or names first and the ids where these are equal. So the lists are
keyset listings, and following their cursors shows every row once.
-/

set_option autoImplicit false

namespace WolandGuard.Dashboard

open Foundations JsonValue Incidents

/-! ## The orders -/

/-- By instant, and by id where the instants are equal. -/
def instantRank (keys : InstantKeys) : Int ×ₗ Nat := toLex (keys.1, keys.2.toNat)

theorem instantRank_injective : Function.Injective instantRank := by
  intro first second same
  obtain ⟨instants, ids⟩ := Prod.mk.inj (toLex.injective same)
  exact Prod.ext instants (BitVec.eq_of_toNat_eq ids)

theorem instantLt_iff (first second : InstantKeys) :
    instantLt first second = true ↔ instantRank first < instantRank second := by
  rw [instantRank, instantRank, Prod.Lex.toLex_lt_toLex, instantLt, Bool.or_eq_true,
    Bool.and_eq_true, decide_eq_true_iff, decide_eq_true_iff, beq_iff_eq, BitVec.lt_def]

theorem keyLe_iff (first second : InstantKeys) :
    keyLe first second = true ↔ instantRank first ≤ instantRank second := by
  rw [instantRank, instantRank, Prod.Lex.toLex_le_toLex, keyLe, Bool.or_eq_true,
    Bool.and_eq_true, decide_eq_true_iff, decide_eq_true_iff, beq_iff_eq]

/-- Newest first. -/
def newestRank (keys : InstantKeys) : (Int ×ₗ Nat)ᵒᵈ := OrderDual.toDual (instantRank keys)

theorem newestRank_injective : Function.Injective newestRank :=
  OrderDual.toDual.injective.comp instantRank_injective

/-- A text under the order of a collation. -/
def Collated (_ : TextFunctions) : Type := String

instance (text : TextFunctions) : LinearOrder (Collated text) := text.order

/-- By name in the order of the collation, and by id where the names are equal. -/
def nameRank (text : TextFunctions) (keys : NameKeys) : Collated text ×ₗ Nat :=
  toLex ((keys.1 : Collated text), keys.2.toNat)

theorem nameRank_injective (text : TextFunctions) : Function.Injective (nameRank text) := by
  intro first second same
  obtain ⟨names, ids⟩ := Prod.mk.inj (toLex.injective same)
  exact Prod.ext names (BitVec.eq_of_toNat_eq ids)

theorem nameLt_iff (text : TextFunctions) (first second : NameKeys) :
    nameLt text first second = true ↔ nameRank text first < nameRank text second := by
  have smaller : (text.order.toDecidableLT first.1 second.1).decide = true ↔
      text.order.lt first.1 second.1 :=
    @decide_eq_true_iff _ (text.order.toDecidableLT first.1 second.1)
  rw [nameRank, nameRank, Prod.Lex.toLex_lt_toLex, nameLt, Bool.or_eq_true, Bool.and_eq_true,
    smaller, beq_iff_eq, decide_eq_true_iff, BitVec.lt_def]
  exact Iff.rfl

theorem nameLe_iff (text : TextFunctions) (first second : NameKeys) :
    nameLe text first second = true ↔ nameRank text first ≤ nameRank text second := by
  rw [nameLe, Bool.or_eq_true, nameLt_iff, beq_iff_eq, le_iff_lt_or_eq,
    (nameRank_injective text).eq_iff]

/-- Names in descending order. -/
def nameDescRank (text : TextFunctions) (keys : NameKeys) : (Collated text ×ₗ Nat)ᵒᵈ :=
  OrderDual.toDual (nameRank text keys)

theorem nameDescRank_injective (text : TextFunctions) : Function.Injective (nameDescRank text) :=
  OrderDual.toDual.injective.comp (nameRank_injective text)

/-! ### As a reader sees them -/

/-- Older instants first, and smaller ids where the instants are equal. -/
def Older (first second : InstantKeys) : Prop :=
  first.1 < second.1 ∨ first.1 = second.1 ∧ first.2.toNat < second.2.toNat

/-- The order of a sort by `created_at`. -/
def CreatedOrder (sort : IncidentDashboardSort) (first second : InstantKeys) : Prop :=
  match sort with
  | .createdAsc => Older first second
  | .createdDesc => Older second first

/-- The order of a sort by name. -/
def NameOrder (text : TextFunctions) (sort : ServerSort) (first second : NameKeys) : Prop :=
  let smaller (left right : NameKeys) : Prop :=
    text.order.lt left.1 right.1 ∨ left.1 = right.1 ∧ left.2.toNat < right.2.toNat
  match sort with
  | .nameAsc => smaller first second
  | .nameDesc => smaller second first

theorem older_of_instantRank {first second : InstantKeys}
    (less : instantRank first < instantRank second) : Older first second := by
  rw [instantRank, instantRank, Prod.Lex.toLex_lt_toLex] at less
  exact less

/-! ## Lists as keyset listings -/

section Listings

variable {ρ ι κ τ : Type} [LinearOrder τ] {rank : κ → τ} {encode : κ → String}
variable {decode : String → Option κ} {keys : ρ → κ} {itemKey : ι → κ} {before : ρ → ρ → Bool}
variable {after : κ → ρ → Bool} {item : QueriedTables → ρ → ι} {limit : Nat}
variable {rows : QueriedTables → List ρ}
variable {list : QueriedTables → Option String → Option (Page ι String)}

/-- **A list whose order and cursor condition are those of a rank** is a keyset
listing. -/
theorem keysetListing_of_selectPage
    (selects : ∀ tables cursor, list tables cursor = selectPage decode encode keys before after
      (item tables) limit (rows tables) cursor)
    (positive : 0 < limit) (injective : Function.Injective rank)
    (order : ∀ first second, before first second = true ↔ rank (keys first) ≤ rank (keys second))
    (condition : ∀ start row, after start row = true ↔ rank start < rank (keys row))
    (shows : ∀ tables row, itemKey (item tables row) = keys row) :
    KeysetListing list rows keys itemKey rank encode decode limit where
  positive := positive
  injective := injective
  page := by
    intro tables cursor start reads
    refine ⟨before, item tables, order, shows tables, ?_⟩
    rw [selects]
    cases cursor with
    | none =>
        obtain rfl : start = none := by simpa using reads.symm
        have all_rows : ((rows tables).filter fun row => After rank none (keys row)) =
            rows tables := by
          refine List.filter_eq_self.mpr fun row _ => decide_eq_true ?_
          intro last absent
          cases absent
        rw [all_rows]
        rfl
    | some value =>
        cases start with
        | none => cases reads
        | some last =>
            have decoded : decode value = some last := Option.some.inj reads
            have same : ((rows tables).filter fun row => after last row) =
                (rows tables).filter fun row => After rank (some last) (keys row) := by
              refine List.filter_congr fun row _ => ?_
              rw [Bool.eq_iff_iff, condition, decide_eq_true_iff]
              constructor
              · intro later start here
                obtain rfl := Option.some.inj here
                exact later
              · exact fun later => later last rfl
            rw [selectPage, decoded, ← same]

/-- A Dashboard list in a context that is valid. -/
theorem dashboardPage_of_valid {cursors : CursorCodec DashboardCursorContext κ}
    {context : DashboardCursorContext} (valid : context.validate = none) (keys : ρ → κ)
    (before : ρ → ρ → Bool) (after : κ → ρ → Bool) (item : ρ → ι) (rows : List ρ)
    (cursor : Option String) :
    dashboardPage cursors context keys before after item rows cursor =
      selectPage (cursors.decode context) (cursors.encode context) keys before after item
        context.pageSize rows cursor := by
  rw [dashboardPage, valid]
  rfl

theorem dashboardPage_of_invalid {cursors : CursorCodec DashboardCursorContext κ}
    {context : DashboardCursorContext} (invalid : context.validate.isSome = true) (keys : ρ → κ)
    (before : ρ → ρ → Bool) (after : κ → ρ → Bool) (item : ρ → ι) (rows : List ρ)
    (cursor : Option String) :
    dashboardPage cursors context keys before after item rows cursor = none := by
  rw [dashboardPage, if_pos invalid]

end Listings

/-! ## Contexts of the lists -/

/-- A context of one of the routes: its sort and its filters are always valid, so
only the page size can be wrong. -/
theorem validate_eq_none {context : DashboardCursorContext}
    (sort : context.listType.sorts.contains context.sort = true)
    (filters : context.filters.all (fun filter => isFilterValue filter.2) = true) :
    context.validate = none ↔ context.pageSize ∈ dashboardPageSizes := by
  rw [DashboardCursorContext.validate, sort, filters]
  by_cases supported : context.pageSize ∈ dashboardPageSizes
  · simp [supported]
  · simp [supported]

theorem isFilterValue_texts (texts : List String) : isFilterValue (.arr (texts.map .str)) = true := by
  rw [isFilterValue, List.all_map]
  exact List.all_eq_true.mpr fun _ _ => rfl

theorem isFilterValue_str (text : String) : isFilterValue (.str text) = true := rfl

theorem isFilterValue_ofOption (text : Option String) : isFilterValue (ofOption text) = true := by
  cases text
  · rfl
  · rfl

theorem isFilterValue_ofUuid (id : Option Uuid) : isFilterValue (ofUuid id) = true := by
  cases id
  · rfl
  · rfl

theorem isFilterValue_ofInstant (instant : Option Int) : isFilterValue (ofInstant instant) = true := by
  cases instant
  · rfl
  · rfl

theorem incidentsContext_valid (filters : IncidentDashboardFilters) (sort : IncidentDashboardSort)
    (pageSize : Nat) :
    (incidentsContext filters sort pageSize).validate = none ↔ pageSize ∈ dashboardPageSizes := by
  refine validate_eq_none ?_ ?_
  · cases sort
    · change ["created_asc", "created_desc"].contains "created_asc" = true
      decide
    · change ["created_asc", "created_desc"].contains "created_desc" = true
      decide
  · simp [incidentsContext, IncidentDashboardFilters.cursorFilters, isFilterValue_texts,
      isFilterValue_ofOption, isFilterValue_ofUuid]

theorem auditContext_valid (filters : AuditDashboardFilters) (sort : AuditDashboardSort)
    (pageSize : Nat) :
    (auditContext filters sort pageSize).validate = none ↔ pageSize ∈ dashboardPageSizes := by
  refine validate_eq_none ?_ ?_
  · cases sort
    · change ["created_asc", "created_desc"].contains "created_asc" = true
      decide
    · change ["created_asc", "created_desc"].contains "created_desc" = true
      decide
  · simp [auditContext, AuditDashboardFilters.cursorFilters, isFilterValue_ofOption,
      isFilterValue_ofUuid, isFilterValue_ofInstant]

theorem serversContext_valid (filters : ServerFilters) (sort : ServerSort) (pageSize : Nat) :
    (serversContext filters sort pageSize).validate = none ↔ pageSize ∈ dashboardPageSizes := by
  refine validate_eq_none ?_ ?_
  · cases sort
    · change ["name_asc", "name_desc"].contains "name_asc" = true
      decide
    · change ["name_asc", "name_desc"].contains "name_desc" = true
      decide
  · simp [serversContext, ServerFilters.cursorFilters, isFilterValue_ofUuid, isFilterValue_str]

theorem childContext_valid {listType : DashboardListType} {sort : String}
    (sorted : listType.sorts.contains sort = true) (incidentId : Uuid) (pageSize : Nat) :
    (childContext listType sort incidentId pageSize).validate = none ↔
      pageSize ∈ dashboardPageSizes :=
  validate_eq_none sorted (by simp [childContext, isFilterValue_str])

/-! ## Tables -/

/-- The primary keys, and the unique constraint of the history. -/
structure QueriedTables.Consistent (tables : QueriedTables) : Prop where
  servers : (tables.servers.map fun server => server.id).Nodup
  events : (tables.events.map Event.id).Nodup
  incidents : (tables.incidents.map Incident.id).Nodup
  incidentEvents : (tables.incidentEvents.map fun link => (link.incidentId, link.eventId)).Nodup
  history : (tables.history.map fun entry => (entry.incidentId, entry.version)).Nodup
  comments : (tables.comments.map IncidentComment.id).Nodup
  auditLog : (tables.auditLog.map AuditLogEntry.id).Nodup

/-- Rows were inserted. -/
structure QueriedTables.Grows (before after : QueriedTables) : Prop where
  servers : before.servers ⊆ after.servers
  events : before.events ⊆ after.events
  incidents : before.incidents ⊆ after.incidents
  incidentEvents : before.incidentEvents ⊆ after.incidentEvents
  history : before.history ⊆ after.history
  comments : before.comments ⊆ after.comments
  auditLog : before.auditLog ⊆ after.auditLog

section Rows

variable {α β κ ν : Type}

/-- A filtered table keeps what is unique. -/
theorem nodup_filter_map {column : α → ν} {table : List α} (unique : (table.map column).Nodup)
    (condition : α → Bool) : ((table.filter condition).map column).Nodup :=
  unique.sublist (List.filter_sublist.map column)

/-- A filtered table grows with the table. -/
theorem filter_map_subset {key : α → κ} {before after : List α} (grows : before ⊆ after)
    (condition : α → Bool) :
    (before.filter condition).map key ⊆ (after.filter condition).map key := by
  refine List.map_subset key fun row member => ?_
  obtain ⟨row_in, holds⟩ := List.mem_filter.mp member
  exact List.mem_filter.mpr ⟨grows row_in, holds⟩

theorem mem_innerJoin {on : α → β → Bool} {left : List α} {right : List β} {row : α × β} :
    row ∈ innerJoin on left right ↔ row.1 ∈ left ∧ row.2 ∈ right ∧ on row.1 row.2 = true := by
  obtain ⟨first, second⟩ := row
  simp only [innerJoin, List.mem_flatMap, List.mem_map, List.mem_filter, Prod.mk.injEq]
  constructor
  · rintro ⟨other, other_in, match_, ⟨match_in, holds⟩, rfl, rfl⟩
    exact ⟨other_in, match_in, holds⟩
  · rintro ⟨first_in, second_in, holds⟩
    exact ⟨first, first_in, second, ⟨second_in, holds⟩, rfl, rfl⟩

theorem innerJoin_subset {on : α → β → Bool} {left more_left : List α} {right more_right : List β}
    (left_grows : left ⊆ more_left) (right_grows : right ⊆ more_right) :
    innerJoin on left right ⊆ innerJoin on more_left more_right := by
  intro row member
  obtain ⟨left_in, right_in, holds⟩ := mem_innerJoin.mp member
  exact mem_innerJoin.mpr ⟨left_grows left_in, right_grows right_in, holds⟩

/-- Joined with a table in which each row has one match at most, a table has no
row twice. -/
theorem map_fst_innerJoin_sublist {on : α → β → Bool} {right : List β}
    (one : ∀ row, (right.filter (on row)).length ≤ 1) (left : List α) :
    ((innerJoin on left right).map Prod.fst).Sublist left := by
  induction left with
  | nil => exact .slnil
  | cons row rest ih =>
      rw [innerJoin, List.flatMap_cons, List.map_append]
      have few := one row
      rcases found : right.filter (on row) with _ | ⟨match_, others⟩
      · exact ih.cons row
      · rw [found, List.length_cons] at few
        obtain rfl : others = [] := List.length_eq_zero_iff.mp (by omega)
        exact ih.cons_cons row

/-- A unique column has a value once. -/
theorem length_filter_column_le [DecidableEq ν] {column : β → ν} {table : List β}
    (unique : (table.map column).Nodup) (value : ν) :
    (table.filter fun row => column row == value).length ≤ 1 := by
  have counted := List.nodup_iff_count_le_one.mp unique value
  rw [List.count, List.countP_map] at counted
  rw [← List.countP_eq_length_filter]
  exact counted

end Rows

/-! ## Complete lists -/

section Complete

variable {ρ ι : Type} {encode : InstantKeys → String} {decode : String → Option InstantKeys}
variable {keys : ρ → InstantKeys} {itemKey : ι → InstantKeys} {item : QueriedTables → ρ → ι}
variable {limit : Nat} {rows : QueriedTables → List ρ}
variable {list : QueriedTables → Option String → Option (Page ι String)}

/-- A list by instant, in either direction. -/
theorem complete_by_instant (sort : IncidentDashboardSort)
    (selects : ∀ tables cursor, list tables cursor = selectPage decode encode keys
      (fun first second => createdBefore sort (keys first) (keys second))
      (fun start row => createdAfter sort start (keys row)) (item tables) limit (rows tables) cursor)
    (positive : 0 < limit) (shows : ∀ tables row, itemKey (item tables row) = keys row)
    (ids : ∀ tables, tables.Consistent → ((rows tables).map fun row => (keys row).2).Nodup)
    (keeps : ∀ before after, QueriedTables.Grows before after →
      (rows before).map keys ⊆ (rows after).map keys) :
    CompletePagination list rows keys itemKey (CreatedOrder sort) Prod.snd encode decode
      QueriedTables.Consistent QueriedTables.Grows := by
  cases sort with
  | createdAsc =>
      have listing := keysetListing_of_selectPage selects positive instantRank_injective
        (fun _ _ => keyLe_iff _ _) (fun _ _ => instantLt_iff _ _) shows
      exact listing.complete (fun _ _ => older_of_instantRank) ids
        fun before after _ _ => keeps before after
  | createdDesc =>
      have listing := keysetListing_of_selectPage selects positive newestRank_injective
        (fun _ _ => keyLe_iff _ _) (fun _ _ => instantLt_iff _ _) shows
      exact listing.complete (fun _ _ => older_of_instantRank) ids
        fun before after _ _ => keeps before after

/-- A list by name, in either direction. -/
theorem complete_by_name {encode : NameKeys → String} {decode : String → Option NameKeys}
    {keys : ρ → NameKeys} {itemKey : ι → NameKeys} (text : TextFunctions) (sort : ServerSort)
    (selects : ∀ tables cursor, list tables cursor = selectPage decode encode keys
      (fun first second => nameBefore text sort (keys first) (keys second))
      (fun start row => nameAfter text sort start (keys row)) (item tables) limit (rows tables) cursor)
    (positive : 0 < limit) (shows : ∀ tables row, itemKey (item tables row) = keys row)
    (ids : ∀ tables, tables.Consistent → ((rows tables).map fun row => (keys row).2).Nodup)
    (keeps : ∀ before after, QueriedTables.Grows before after →
      (rows before).map keys ⊆ (rows after).map keys) :
    CompletePagination list rows keys itemKey (NameOrder text sort) Prod.snd encode decode
      QueriedTables.Consistent QueriedTables.Grows := by
  have smaller {first second : NameKeys} (less : nameRank text first < nameRank text second) :
      text.order.lt first.1 second.1 ∨ first.1 = second.1 ∧ first.2.toNat < second.2.toNat := by
    rw [nameRank, nameRank, Prod.Lex.toLex_lt_toLex] at less
    exact less
  cases sort with
  | nameAsc =>
      have listing := keysetListing_of_selectPage selects positive (nameRank_injective text)
        (fun _ _ => nameLe_iff text _ _) (fun _ _ => nameLt_iff text _ _) shows
      exact listing.complete (fun _ _ => smaller) ids fun before after _ _ => keeps before after
  | nameDesc =>
      have listing := keysetListing_of_selectPage selects positive (nameDescRank_injective text)
        (fun _ _ => nameLe_iff text _ _) (fun _ _ => nameLt_iff text _ _) shows
      exact listing.complete (fun _ _ => smaller) ids fun before after _ _ => keeps before after

end Complete

/-- A Dashboard list is complete for the page sizes that it accepts, and raises on
every other one. -/
def CompleteDashboardList {ρ ι κ ν : Type} [DecidableEq κ]
    (list : Nat → QueriedTables → Option String → Option (Page ι String))
    (rows : QueriedTables → List ρ) (keys : ρ → κ) (itemKey : ι → κ) (precedes : κ → κ → Prop)
    (idOf : κ → ν) (cursors : CursorCodec DashboardCursorContext κ)
    (context : Nat → DashboardCursorContext) : Prop :=
  ∀ pageSize, 1 ≤ pageSize →
    (pageSize ∉ dashboardPageSizes → ∀ tables cursor, list pageSize tables cursor = none) ∧
    (pageSize ∈ dashboardPageSizes →
      CompletePagination (list pageSize) rows keys itemKey precedes idOf
        (cursors.encode (context pageSize)) (cursors.decode (context pageSize))
        QueriedTables.Consistent QueriedTables.Grows)

section Lists

variable {ρ ι κ ν : Type} [DecidableEq κ]

/-- **A Dashboard list that selects pages** is complete when the selection is. -/
theorem completeDashboardList {keys : ρ → κ} {itemKey : ι → κ} {precedes : κ → κ → Prop}
    {idOf : κ → ν} {cursors : CursorCodec DashboardCursorContext κ}
    {context : Nat → DashboardCursorContext} {before : ρ → ρ → Bool} {after : κ → ρ → Bool}
    {item : QueriedTables → ρ → ι} {rows : QueriedTables → List ρ}
    (sized : ∀ pageSize, (context pageSize).pageSize = pageSize)
    (valid : ∀ pageSize, (context pageSize).validate = none ↔ pageSize ∈ dashboardPageSizes)
    (complete : ∀ pageSize, 1 ≤ pageSize →
      CompletePagination (fun tables cursor => selectPage (cursors.decode (context pageSize))
          (cursors.encode (context pageSize)) keys before after (item tables) pageSize (rows tables)
          cursor) rows keys itemKey precedes idOf (cursors.encode (context pageSize))
        (cursors.decode (context pageSize)) QueriedTables.Consistent QueriedTables.Grows) :
    CompleteDashboardList (fun pageSize tables cursor => dashboardPage cursors (context pageSize)
      keys before after (item tables) (rows tables) cursor) rows keys itemKey precedes idOf cursors
      context := by
  intro pageSize positive
  constructor
  · intro unsupported tables cursor
    refine dashboardPage_of_invalid ?_ _ _ _ _ _ _
    rw [Option.isSome_iff_ne_none]
    exact fun none_wrong => unsupported ((valid pageSize).mp none_wrong)
  · intro supported
    have selects : (fun tables cursor => dashboardPage cursors (context pageSize) keys before after
          (item tables) (rows tables) cursor) =
        fun tables cursor => selectPage (cursors.decode (context pageSize))
          (cursors.encode (context pageSize)) keys before after (item tables) pageSize (rows tables)
          cursor := by
      funext tables cursor
      rw [dashboardPage_of_valid ((valid pageSize).mpr supported), sized]
    dsimp only
    rw [selects]
    exact complete pageSize positive

theorem complete_listIncidents (cursors : CursorCodec String InstantKeys)
    (filters : IncidentFilters) {limit : Nat} (positive : 1 ≤ limit) :
    CompletePagination (listIncidents cursors filters limit)
      (fun tables => tables.incidents.filter filters.normalized.conditions) incidentKeys
      (fun item : IncidentSummary => (item.createdAt, item.id)) (CreatedOrder .createdDesc) Prod.snd
      (cursors.encode filters.normalized.hash) (cursors.decode filters.normalized.hash)
      QueriedTables.Consistent QueriedTables.Grows :=
  complete_by_instant .createdDesc (fun _ _ => rfl) positive (fun _ _ => rfl)
    (fun _ consistent => nodup_filter_map consistent.incidents _)
    fun _ _ grows => filter_map_subset grows.incidents _

theorem complete_listAuditEntries (cursors : CursorCodec String InstantKeys)
    (filters : AuditFilters) {limit : Nat} (positive : 1 ≤ limit) :
    CompletePagination (listAuditEntries cursors filters limit)
      (fun tables => tables.auditLog.filter filters.conditions) auditKeys
      (fun item : AuditSummary => (item.createdAt, item.id)) (CreatedOrder .createdDesc) Prod.snd
      (cursors.encode filters.hash) (cursors.decode filters.hash)
      QueriedTables.Consistent QueriedTables.Grows :=
  complete_by_instant .createdDesc (fun _ _ => rfl) positive (fun _ _ => rfl)
    (fun _ consistent => nodup_filter_map consistent.auditLog _)
    fun _ _ grows => filter_map_subset grows.auditLog _

/-- The rows of the Dashboard incidents are those of the incidents with a server. -/
theorem map_fst_dashboardIncidentRows {tables : QueriedTables} (consistent : tables.Consistent) :
    ((dashboardIncidentRows tables).map Prod.fst).Sublist tables.incidents :=
  map_fst_innerJoin_sublist (fun incident : Incident =>
    length_filter_column_le consistent.servers incident.serverId) _

theorem complete_listDashboardIncidents (text : TextFunctions)
    (cursors : CursorCodec DashboardCursorContext InstantKeys) (filters : IncidentDashboardFilters)
    (sort : IncidentDashboardSort) :
    CompleteDashboardList (listDashboardIncidents text cursors filters sort)
      (fun tables => (dashboardIncidentRows tables).filter fun row =>
        filters.normalized.conditions text row.1) (fun row => incidentKeys row.1)
      (fun item : DashboardIncidentSummary => (item.createdAt, item.id)) (CreatedOrder sort) Prod.snd
      cursors (incidentsContext filters sort) := by
  refine completeDashboardList (fun _ => rfl) (incidentsContext_valid filters sort)
    fun pageSize positive => ?_
  refine complete_by_instant sort (fun _ _ => rfl) positive (fun _ _ => rfl) ?_ ?_
  · intro tables consistent
    have joined := (map_fst_dashboardIncidentRows consistent).map Incident.id
    rw [List.map_map] at joined
    exact nodup_filter_map (consistent.incidents.sublist joined) _
  · intro before after grows
    exact filter_map_subset (innerJoin_subset grows.incidents grows.servers) _

theorem complete_listDashboardAuditEntries
    (cursors : CursorCodec DashboardCursorContext InstantKeys) (filters : AuditDashboardFilters)
    (sort : AuditDashboardSort) :
    CompleteDashboardList (listDashboardAuditEntries cursors filters sort)
      (fun tables => tables.auditLog.filter filters.conditions) auditKeys
      (fun item : AuditDashboardEntry => (item.createdAt, item.id)) (CreatedOrder sort) Prod.snd
      cursors (auditContext filters sort) := by
  refine completeDashboardList (fun _ => rfl) (auditContext_valid filters sort)
    fun pageSize positive => ?_
  exact complete_by_instant sort (fun _ _ => rfl) positive (fun _ _ => rfl)
    (fun _ consistent => nodup_filter_map consistent.auditLog _)
    fun _ _ grows => filter_map_subset grows.auditLog _

theorem complete_listDashboardIncidentComments
    (cursors : CursorCodec DashboardCursorContext InstantKeys) (incidentId : Uuid) :
    CompleteDashboardList (listDashboardIncidentComments cursors incidentId)
      (fun tables => tables.comments.filter (·.incidentId == incidentId)) commentKeys
      (fun item : DashboardIncidentComment => (item.createdAt, item.id)) (CreatedOrder .createdDesc)
      Prod.snd cursors (childContext .incidentComments "created_desc" incidentId) := by
  refine completeDashboardList (fun _ => rfl) (childContext_valid (by decide) incidentId)
    fun pageSize positive => ?_
  exact complete_by_instant .createdDesc (fun _ _ => rfl) positive (fun _ _ => rfl)
    (fun _ consistent => nodup_filter_map consistent.comments _)
    fun _ _ grows => filter_map_subset grows.comments _

/-- Of one incident, the second part of a pair of columns is unique. -/
theorem nodup_of_incident {α ν : Type} {incidentOf : α → Uuid} {column : α → ν} {table : List α}
    (unique : (table.map fun row => (incidentOf row, column row)).Nodup) (incidentId : Uuid) :
    ((table.filter fun row => incidentOf row == incidentId).map column).Nodup := by
  have pairs := nodup_filter_map unique fun row => incidentOf row == incidentId
  have same : (table.filter fun row => incidentOf row == incidentId).map
        (fun row => (incidentOf row, column row)) =
      ((table.filter fun row => incidentOf row == incidentId).map column).map
        fun value => (incidentId, value) := by
    rw [List.map_map]
    refine List.map_congr_left fun row member => ?_
    exact congrArg (·, column row) (eq_of_beq (List.mem_filter.mp member).2)
  rw [same] at pairs
  exact pairs.of_map

theorem complete_listDashboardEvidence
    (cursors : CursorCodec DashboardCursorContext InstantKeys) (incidentId : Uuid) :
    CompleteDashboardList (listDashboardEvidence cursors incidentId)
      (dashboardEvidenceRows incidentId) (fun row => linkKeys row.1)
      (fun item : DashboardEvidence => (item.linkedAt, item.eventId)) (CreatedOrder .createdAsc)
      Prod.snd cursors (childContext .evidence "linked_asc" incidentId) := by
  refine completeDashboardList (fun _ => rfl) (childContext_valid (by decide) incidentId)
    fun pageSize positive => ?_
  refine complete_by_instant .createdAsc (fun _ _ => rfl) positive (fun _ _ => rfl) ?_ ?_
  · intro tables consistent
    have joined := (@map_fst_innerJoin_sublist _ _ (fun (link : IncidentEvent) (event : Event) =>
      event.id == link.eventId) tables.events (fun link =>
        length_filter_column_le consistent.events link.eventId) tables.incidentEvents).map
          fun link => (link.incidentId, link.eventId)
    have unique := consistent.incidentEvents.sublist joined
    rw [List.map_map] at unique
    exact nodup_of_incident unique incidentId
  · intro before after grows
    exact filter_map_subset (innerJoin_subset grows.incidentEvents grows.events) _

theorem complete_listDashboardIncidentHistory (cursors : CursorCodec DashboardCursorContext Nat)
    (incidentId : Uuid) :
    CompleteDashboardList (listDashboardIncidentHistory cursors incidentId)
      (fun tables => tables.history.filter (·.incidentId == incidentId))
      IncidentHistoryEntry.version (fun item : DashboardIncidentHistory => item.version) (· < ·) id
      cursors (childContext .incidentHistory "version_asc" incidentId) := by
  refine completeDashboardList (fun _ => rfl) (childContext_valid (by decide) incidentId)
    fun pageSize positive => ?_
  have listing := @keysetListing_of_selectPage _ _ _ _ _ id
    (cursors.encode (childContext .incidentHistory "version_asc" incidentId pageSize))
    (cursors.decode (childContext .incidentHistory "version_asc" incidentId pageSize))
    IncidentHistoryEntry.version (fun item : DashboardIncidentHistory => item.version) _ _
    (fun _ => dashboardIncidentHistory) pageSize
    (fun tables => tables.history.filter (·.incidentId == incidentId)) _ (fun _ _ => rfl) positive
    Function.injective_id (fun _ _ => decide_eq_true_iff) (fun _ _ => decide_eq_true_iff)
    fun _ _ => rfl
  refine listing.complete (fun _ _ => id) (fun tables consistent => ?_) fun before after _ _ grows => ?_
  · exact nodup_of_incident consistent.history incidentId
  · exact filter_map_subset grows.history _

theorem complete_listServers (text : TextFunctions)
    (cursors : CursorCodec DashboardCursorContext NameKeys) (filters : ServerFilters)
    (sort : ServerSort) :
    CompleteDashboardList (listServers text cursors filters sort)
      (fun tables => tables.servers.filter (filters.conditions text)) (serverKeys text)
      (fun item : ServerSummary => (text.lower item.name, item.id)) (NameOrder text sort) Prod.snd
      cursors (serversContext filters sort) := by
  refine completeDashboardList (fun _ => rfl) (serversContext_valid filters sort)
    fun pageSize positive => ?_
  refine complete_by_name text sort (fun _ _ => rfl) positive (fun _ _ => rfl) ?_ ?_
  · exact fun _ consistent => nodup_filter_map consistent.servers _
  · exact fun _ _ grows => filter_map_subset grows.servers _

/-- **Keyset pagination is complete**, for every list, filter, search, sort and page
size. -/
theorem keyset_pagination_complete (text : TextFunctions)
    (restCursors : CursorCodec String InstantKeys)
    (cursors : CursorCodec DashboardCursorContext InstantKeys)
    (versionCursors : CursorCodec DashboardCursorContext Nat)
    (nameCursors : CursorCodec DashboardCursorContext NameKeys) :
    (∀ (filters : IncidentFilters) (limit : Nat), 1 ≤ limit →
      CompletePagination (listIncidents restCursors filters limit)
        (fun tables => tables.incidents.filter filters.normalized.conditions) incidentKeys
        (fun item : IncidentSummary => (item.createdAt, item.id)) (CreatedOrder .createdDesc)
        Prod.snd (restCursors.encode filters.normalized.hash)
        (restCursors.decode filters.normalized.hash) QueriedTables.Consistent
        QueriedTables.Grows) ∧
    (∀ (filters : AuditFilters) (limit : Nat), 1 ≤ limit →
      CompletePagination (listAuditEntries restCursors filters limit)
        (fun tables => tables.auditLog.filter filters.conditions) auditKeys
        (fun item : AuditSummary => (item.createdAt, item.id)) (CreatedOrder .createdDesc) Prod.snd
        (restCursors.encode filters.hash) (restCursors.decode filters.hash)
        QueriedTables.Consistent QueriedTables.Grows) ∧
    (∀ (filters : IncidentDashboardFilters) (sort : IncidentDashboardSort),
      CompleteDashboardList (listDashboardIncidents text cursors filters sort)
        (fun tables => (dashboardIncidentRows tables).filter fun row =>
          filters.normalized.conditions text row.1) (fun row => incidentKeys row.1)
        (fun item : DashboardIncidentSummary => (item.createdAt, item.id)) (CreatedOrder sort)
        Prod.snd cursors (incidentsContext filters sort)) ∧
    (∀ (filters : AuditDashboardFilters) (sort : AuditDashboardSort),
      CompleteDashboardList (listDashboardAuditEntries cursors filters sort)
        (fun tables => tables.auditLog.filter filters.conditions) auditKeys
        (fun item : AuditDashboardEntry => (item.createdAt, item.id)) (CreatedOrder sort) Prod.snd
        cursors (auditContext filters sort)) ∧
    (∀ incidentId : Uuid,
      CompleteDashboardList (listDashboardEvidence cursors incidentId)
          (dashboardEvidenceRows incidentId) (fun row => linkKeys row.1)
          (fun item : DashboardEvidence => (item.linkedAt, item.eventId)) (CreatedOrder .createdAsc)
          Prod.snd cursors (childContext .evidence "linked_asc" incidentId) ∧
        CompleteDashboardList (listDashboardIncidentComments cursors incidentId)
          (fun tables => tables.comments.filter (·.incidentId == incidentId)) commentKeys
          (fun item : DashboardIncidentComment => (item.createdAt, item.id))
          (CreatedOrder .createdDesc) Prod.snd cursors
          (childContext .incidentComments "created_desc" incidentId) ∧
        CompleteDashboardList (listDashboardIncidentHistory versionCursors incidentId)
          (fun tables => tables.history.filter (·.incidentId == incidentId))
          IncidentHistoryEntry.version (fun item : DashboardIncidentHistory => item.version)
          (· < ·) id versionCursors (childContext .incidentHistory "version_asc" incidentId)) ∧
    ∀ (filters : ServerFilters) (sort : ServerSort),
      CompleteDashboardList (listServers text nameCursors filters sort)
        (fun tables => tables.servers.filter (filters.conditions text)) (serverKeys text)
        (fun item : ServerSummary => (text.lower item.name, item.id)) (NameOrder text sort)
        Prod.snd nameCursors (serversContext filters sort) := by
  refine ⟨fun filters _ positive => ?_, fun filters _ positive => ?_, ?_, ?_, ?_, ?_⟩
  · exact complete_listIncidents restCursors filters positive
  · exact complete_listAuditEntries restCursors filters positive
  · exact complete_listDashboardIncidents text cursors
  · exact complete_listDashboardAuditEntries cursors
  · intro incidentId
    exact ⟨complete_listDashboardEvidence cursors incidentId,
      complete_listDashboardIncidentComments cursors incidentId,
      complete_listDashboardIncidentHistory versionCursors incidentId⟩
  · exact complete_listServers text nameCursors

end Lists

/-! ## The cursors of the lists -/

/-- The cursors of a list by instant. -/
def instantCursors : CursorCodec DashboardCursorContext InstantKeys where
  encode context keys :=
    (encodeDashboardCursor context [.datetime keys.1, .uuid keys.2]).toOption.getD ""
  decode context value :=
    match decodeDashboardCursor value context with
    | .ok [.datetime instant, .uuid id] => some (instant, id)
    | _ => none

/-- The cursors of a list by name. -/
def nameCursors : CursorCodec DashboardCursorContext NameKeys where
  encode context keys :=
    (encodeDashboardCursor context [.text keys.1, .uuid keys.2]).toOption.getD ""
  decode context value :=
    match decodeDashboardCursor value context with
    | .ok [.text name, .uuid id] => some (name, id)
    | _ => none

/-- The cursors of the status history. -/
def versionCursors : CursorCodec DashboardCursorContext Nat where
  encode context version := (encodeDashboardCursor context [.integer version]).toOption.getD ""
  decode context value :=
    match decodeDashboardCursor value context with
    | .ok [.integer version] => some version.toNat
    | _ => none

/-- The cursor of a row by instant decodes to its keys while its payload is small. -/
theorem instantCursors_read_back {context : DashboardCursorContext}
    (kinds : context.listType.keyTypes = [.datetime, .uuid])
    (mapping : (context.filters.map Prod.fst).Nodup) (supported : context.validate = none)
    {keys : InstantKeys} (holds : IsDatetime keys.1)
    (small : jsonSize (context.payload
      [CursorKey.value (.datetime keys.1), CursorKey.value (.uuid keys.2)]) ≤ 768) :
    instantCursors.decode context (instantCursors.encode context keys) = some keys := by
  have valid := filters_valid supported
  have reorder := List.perm_insertionSort memberOrder context.filters
  have sorted_valid : (context.orderedFilters.all fun filter => isFilterValue filter.2) = true := by
    rw [DashboardCursorContext.orderedFilters, reorder.all_eq, valid]
  have fits : List.Forall₂ (fun kind key => CursorKey.Fits kind key) context.listType.keyTypes
      [.datetime keys.1, .uuid keys.2] := by
    rw [kinds]
    exact .cons holds (.cons trivial .nil)
  obtain ⟨encoded, decoded⟩ := decode_cursorOf context context rfl supported valid mapping
    (pyEq_filters_self reorder sorted_valid mapping) _ fits
  have made : encodeDashboardCursor context [.datetime keys.1, .uuid keys.2] =
      .ok (cursorOf (context.payload
        [CursorKey.value (.datetime keys.1), CursorKey.value (.uuid keys.2)])) := by
    rw [encodeDashboardCursor, supported]
    dsimp only
    rw [encoded]
    rfl
  simp only [List.map_cons, List.map_nil] at decoded
  rw [if_pos small] at decoded
  simp only [instantCursors, made]
  rw [Except.toOption, Option.getD_some, decoded]

/-- Two incidents of one instant. -/
def tiedIncidents : QueriedTables where
  servers := []
  events := []
  incidents := [sampleIncident, { sampleIncident with id := 2 }]
  incidentEvents := []
  history := []
  comments := []
  auditLog := []

theorem consistent_tiedIncidents : tiedIncidents.Consistent :=
  ⟨.nil, .nil, by decide, .nil, .nil, .nil, .nil⟩

theorem QueriedTables.Grows.refl (tables : QueriedTables) : QueriedTables.Grows tables tables :=
  ⟨fun _ => id, fun _ => id, fun _ => id, fun _ => id, fun _ => id, fun _ => id, fun _ => id⟩

/-- No filter. -/
def allIncidents : IncidentFilters := ⟨[], [], none, none, none, none⟩

/-- On pages of one incident, each of the two is shown once. -/
theorem keyset_pagination_complete_tied : ∃ requests,
    (follow (listIncidents restCursors allIncidents 1) (List.replicate requests tiedIncidents)
        none).2 = true ∧
      ((follow (listIncidents restCursors allIncidents 1) (List.replicate requests tiedIncidents)
        none).1.map (·.id)).Nodup ∧
      ∀ incident ∈ tiedIncidents.incidents,
        incidentKeys incident ∈ (follow (listIncidents restCursors allIncidents 1)
          (List.replicate requests tiedIncidents) none).1.map fun item =>
            (item.createdAt, item.id) := by
  obtain ⟨runs, ends⟩ := (keyset_pagination_complete ⟨id, inferInstance⟩ restCursors instantCursors
    versionCursors nameCursors).1 allIncidents 1 (by decide)
  have digest : isFilterHash allIncidents.normalized.hash = true := isFilterHash_sha256Hex _
  have readable : ∀ k ∈ (tiedIncidents.incidents.filter allIncidents.normalized.conditions).map
      incidentKeys, restCursors.decode allIncidents.normalized.hash
        (restCursors.encode allIncidents.normalized.hash k) = some k := by
    intro k member
    have keys : (tiedIncidents.incidents.filter allIncidents.normalized.conditions).map
        incidentKeys = [incidentKeys sampleIncident, ((incidentKeys sampleIncident).1, 2)] := rfl
    have holds : IsDatetime (incidentKeys sampleIncident).1 := ⟨by decide, by decide⟩
    have dated : IsDatetime k.1 := by
      rw [keys] at member
      rcases List.mem_pair.mp member with rfl | rfl
      · exact holds
      · exact holds
    rw [restCursors_decode_encode dated digest, if_pos rfl]
  obtain ⟨requests, finished⟩ := ends tiedIncidents consistent_tiedIncidents readable
  have same : ∀ tables ∈ List.replicate requests tiedIncidents, tables = tiedIncidents :=
    fun tables => List.eq_of_mem_replicate
  obtain ⟨_, different, _, once⟩ := runs (List.replicate requests tiedIncidents)
    (fun tables present => same tables present ▸ consistent_tiedIncidents)
    (List.pairwise_replicate.mpr (.inr (QueriedTables.Grows.refl tiedIncidents)))
    (fun tables present => same tables present ▸ readable)
  refine ⟨requests, finished, different, fun incident member => ?_⟩
  have counted := once finished (incidentKeys incident) fun tables present => by
    rw [same tables present]
    exact List.mem_map_of_mem (List.mem_filter.mpr ⟨member, rfl⟩)
  exact (@List.count_pos_iff _ instBEqOfDecidableEq _ _ _).mp
    (Nat.lt_of_lt_of_eq Nat.one_pos counted.symm)

end WolandGuard.Dashboard
