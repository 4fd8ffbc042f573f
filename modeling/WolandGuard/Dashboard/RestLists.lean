import WolandGuard.Dashboard.Pages

/-!
# Lists over REST

A client that follows the cursors of a REST list sees every row once
(`rest_lists_complete`). It can continue under other filters only where they name the
same rows (`rest_cursors_bound_to_filters`).
-/

set_option autoImplicit false

namespace WolandGuard.Dashboard

open Foundations JsonValue Incidents

/-! ## Lists are complete -/

section Lists

variable {ρ ι : Type}

/-- What a client sees that follows the cursors of a list from the first page on,
while rows are inserted: rows that match, newest first, none twice, and when the
last page is reached each row that was there all the time. Without insertions the
last page is reached. -/
def SeenCompletely (list : QueriedTables → Option String → Option (Page ι String))
    (rows : QueriedTables → List ρ) (key : ρ → InstantKeys) (itemKey : ι → InstantKeys)
    (Valid : QueriedTables → Prop) : Prop :=
  (∀ states : List QueriedTables, (∀ tables ∈ states, Valid tables) →
    states.Pairwise QueriedTables.Grows →
      ((follow list states none).1.map itemKey).Pairwise (CreatedOrder .createdDesc) ∧
      ((follow list states none).1.map fun item => (itemKey item).2).Nodup ∧
      (∀ item ∈ (follow list states none).1, ∃ tables ∈ states,
        itemKey item ∈ (rows tables).map key) ∧
      ((follow list states none).2 = true → ∀ k, (∀ tables ∈ states, k ∈ (rows tables).map key) →
        k ∈ (follow list states none).1.map itemKey)) ∧
  ∀ tables, Valid tables →
    ∃ requests, (follow list (List.replicate requests tables) none).2 = true

/-- A complete pagination whose cursors are all read back. -/
theorem seenCompletely {list : QueriedTables → Option String → Option (Page ι String)}
    {rows : QueriedTables → List ρ} {key : ρ → InstantKeys} {itemKey : ι → InstantKeys}
    {Valid : QueriedTables → Prop} {filterHash : String}
    (complete : CompletePagination list rows key itemKey (CreatedOrder .createdDesc) Prod.snd
      (restCursors.encode filterHash) (restCursors.decode filterHash) QueriedTables.Consistent
      QueriedTables.Grows)
    (digest : isFilterHash filterHash = true)
    (consistent : ∀ tables, Valid tables → tables.Consistent)
    (instants : ∀ tables, Valid tables → ∀ row ∈ rows tables, IsDatetime (key row).1) :
    SeenCompletely list rows key itemKey Valid := by
  have readable : ∀ tables, Valid tables → ∀ k ∈ (rows tables).map key,
      restCursors.decode filterHash (restCursors.encode filterHash k) = some k := by
    intro tables valid k member
    obtain ⟨row, row_in, rfl⟩ := List.mem_map.mp member
    rw [restCursors_decode_encode (instants tables valid row row_in) digest, if_pos rfl]
  obtain ⟨runs, ends⟩ := complete
  constructor
  · intro states valid growing
    obtain ⟨ordered, different, sound, once⟩ := runs states
      (fun tables member => consistent tables (valid tables member)) growing
      fun tables member => readable tables (valid tables member)
    refine ⟨ordered, different, sound, fun finished k present => ?_⟩
    exact (@List.count_pos_iff _ instBEqOfDecidableEq _ _ _).mp
      (Nat.lt_of_lt_of_eq Nat.one_pos (once finished k present).symm)
  · intro tables valid
    exact ends tables (consistent tables valid) (readable tables valid)

/-- Tables with unique keys and instants that a `datetime` holds. -/
structure QueriedTables.Valid (tables : QueriedTables) : Prop extends tables.Consistent where
  incidentInstants : ∀ incident ∈ tables.incidents, IsDatetime incident.createdAt
  auditInstants : ∀ entry ∈ tables.auditLog, IsDatetime entry.createdAt

/-- **The REST lists are complete**, with the cursors that they hand out. -/
theorem rest_lists_complete :
    (∀ (filters : IncidentFilters) (limit : Nat), 1 ≤ limit →
      SeenCompletely (listIncidents restCursors filters limit)
        (fun tables => tables.incidents.filter filters.normalized.conditions) incidentKeys
        (fun item : IncidentSummary => (item.createdAt, item.id)) QueriedTables.Valid) ∧
    ∀ (filters : AuditFilters) (limit : Nat), 1 ≤ limit →
      SeenCompletely (listAuditEntries restCursors filters limit)
        (fun tables => tables.auditLog.filter filters.conditions) auditKeys
        (fun item : AuditSummary => (item.createdAt, item.id)) QueriedTables.Valid := by
  constructor
  · intro filters limit positive
    refine seenCompletely (complete_listIncidents restCursors filters positive)
      (isFilterHash_sha256Hex _) (fun _ valid => valid.toConsistent) fun tables valid row member => ?_
    exact valid.incidentInstants row (List.mem_filter.mp member).1
  · intro filters limit positive
    refine seenCompletely (complete_listAuditEntries restCursors filters positive)
      (isFilterHash_sha256Hex _) (fun _ valid => valid.toConsistent) fun tables valid row member => ?_
    exact valid.auditInstants row (List.mem_filter.mp member).1

end Lists

theorem tiedIncidents_valid : tiedIncidents.Valid where
  toConsistent := consistent_tiedIncidents
  incidentInstants := by
    intro incident member
    rcases List.mem_pair.mp member with rfl | rfl
    · exact ⟨by decide, by decide⟩
    · exact ⟨by decide, by decide⟩
  auditInstants := fun _ absent => absurd absent List.not_mem_nil

theorem rest_lists_complete_tied :
    ((follow (listIncidents restCursors ⟨[], [], none, none, none, none⟩ 1)
        [tiedIncidents, tiedIncidents] none).1.map (·.id)).Nodup ∧
      ∃ requests, (follow (listIncidents restCursors ⟨[], [], none, none, none, none⟩ 1)
        (List.replicate requests tiedIncidents) none).2 = true := by
  obtain ⟨runs, ends⟩ := rest_lists_complete.1 ⟨[], [], none, none, none, none⟩ 1 (by decide)
  refine ⟨(runs [tiedIncidents, tiedIncidents] ?_ ?_).2.1, ends tiedIncidents tiedIncidents_valid⟩
  · intro tables member
    rcases List.mem_pair.mp member with rfl | rfl
    · exact tiedIncidents_valid
    · exact tiedIncidents_valid
  · exact List.pairwise_pair.mpr (QueriedTables.Grows.refl tiedIncidents)

/-! ## Filters are read from their text -/

/-- Texts of mappings of filters with the same names in order are equal only for
equal filters. -/
theorem filters_of_text {left right : List (String × JsonValue)}
    (left_valid : (left.all fun filter => isFilterValue filter.2) = true)
    (right_valid : (right.all fun filter => isFilterValue filter.2) = true)
    (left_ascending : (left.map Prod.fst).Pairwise (· < ·))
    (right_ascending : (right.map Prod.fst).Pairwise (· < ·))
    (same : canonicalValue (.obj left) = canonicalValue (.obj right)) : left = right := by
  have formed : ∀ {filters : List (String × JsonValue)},
      (filters.all fun filter => isFilterValue filter.2) = true →
      (filters.map Prod.fst).Pairwise (· < ·) →
        WellFormed (.obj filters) ∧ (JsonValue.obj filters).sorted = .obj filters := by
    intro filters valid ascending
    obtain ⟨ordered, wellFormed⟩ := sortedMembers_filters valid
    have in_order : filters.Pairwise memberOrder := by
      have keys := ascending.imp (S := (· ≤ ·)) fun less => le_of_lt less
      rw [List.pairwise_map] at keys
      exact keys
    refine ⟨⟨ascending.imp fun less => String.ne_of_lt less, wellFormed⟩, ?_⟩
    rw [sorted, ordered, List.Pairwise.insertionSort_eq in_order]
  obtain ⟨left_formed, left_sorted⟩ := formed left_valid left_ascending
  obtain ⟨right_formed, right_sorted⟩ := formed right_valid right_ascending
  have values := (canonicalValue_eq_iff left_formed right_formed).mp same
  rw [left_sorted, right_sorted] at values
  exact JsonValue.obj.inj values

theorem ofOption_inj {left right : Option String} (same : ofOption left = ofOption right) :
    left = right := by
  cases left <;> cases right <;> simp_all [ofOption]

theorem ofUuid_inj {left right : Option Uuid} (same : ofUuid left = ofUuid right) :
    left = right := by
  cases left with
  | none => cases right <;> simp_all [ofUuid]
  | some id =>
      cases right with
      | none => cases same
      | some other => exact congrArg some (Uuid.text_inj (JsonValue.str.inj same))

theorem ofInstant_inj {left right : Option Int} (left_holds : ∀ instant ∈ left, IsDatetime instant)
    (right_holds : ∀ instant ∈ right, IsDatetime instant) (same : ofInstant left = ofInstant right) :
    left = right := by
  cases left with
  | none => cases right <;> simp_all [ofInstant]
  | some instant =>
      cases right with
      | none => cases same
      | some other =>
          have first := parseUtc_utcText (left_holds instant rfl)
          rw [JsonValue.str.inj same, parseUtc_utcText (right_holds other rfl)] at first
          exact first.symm

theorem texts_inj {left right : List String}
    (same : JsonValue.arr (left.map .str) = .arr (right.map .str)) : left = right :=
  List.map_injective_iff.mpr (fun _ _ texts => JsonValue.str.inj texts) (JsonValue.arr.inj same)

/-- A normalised list of values says which values it names. -/
theorem sortedSet_eq_iff {left right : List String} :
    sortedSet left = sortedSet right ↔ ∀ value, value ∈ left ↔ value ∈ right := by
  have named : ∀ (values : List String) (value : String),
      value ∈ sortedSet values ↔ value ∈ values := by
    intro values value
    rw [sortedSet, List.mem_insertionSort, List.mem_dedup]
  constructor
  · intro same value
    rw [← named left, same, named]
  · intro same
    have reorder : left.dedup.Perm right.dedup :=
      (List.perm_ext_iff_of_nodup left.nodup_dedup right.nodup_dedup).mpr fun value => by
        rw [List.mem_dedup, List.mem_dedup, same value]
    refine List.Perm.eq_of_pairwise' (List.pairwise_insertionSort (· ≤ ·) left.dedup)
      (List.pairwise_insertionSort (· ≤ ·) right.dedup) ?_
    exact ((List.perm_insertionSort _ _).trans reorder).trans (List.perm_insertionSort _ _).symm

/-! ## Cursors are bound to filters -/

/-- Filters that name the same rows. -/
structure IncidentFilters.Same (left right : IncidentFilters) : Prop where
  statuses : ∀ status, status ∈ left.statuses ↔ status ∈ right.statuses
  severities : ∀ severity, severity ∈ left.severities ↔ severity ∈ right.severities
  serverId : left.serverId = right.serverId
  ruleKey : left.ruleKey = right.ruleKey
  createdFrom : left.createdFrom = right.createdFrom
  createdTo : left.createdTo = right.createdTo

/-- The bounds of filters are datetimes. -/
structure IncidentFilters.Valid (filters : IncidentFilters) : Prop where
  createdFrom : ∀ instant ∈ filters.createdFrom, IsDatetime instant
  createdTo : ∀ instant ∈ filters.createdTo, IsDatetime instant

structure AuditFilters.Valid (filters : AuditFilters) : Prop where
  createdFrom : ∀ instant ∈ filters.createdFrom, IsDatetime instant
  createdTo : ∀ instant ∈ filters.createdTo, IsDatetime instant

/-- The filters of the hash, after `normalized`. -/
def IncidentFilters.named (filters : IncidentFilters) : List (String × JsonValue) :=
  [("created_from", ofInstant filters.normalized.createdFrom),
    ("created_to", ofInstant filters.normalized.createdTo),
    ("rule_key", ofOption filters.normalized.ruleKey),
    ("server_id", ofUuid filters.normalized.serverId),
    ("severities", .arr (filters.normalized.severities.map .str)),
    ("statuses", .arr (filters.normalized.statuses.map .str))]

def AuditFilters.named (filters : AuditFilters) : List (String × JsonValue) :=
  [("action", ofOption filters.action), ("created_from", ofInstant filters.createdFrom),
    ("created_to", ofInstant filters.createdTo), ("operator_id", ofUuid filters.operatorId),
    ("target_id", ofUuid filters.targetId), ("target_type", ofOption filters.targetType)]

/-- The text whose digest binds the cursors of a list of incidents. -/
def IncidentFilters.text (filters : IncidentFilters) : String :=
  canonicalValue (.obj filters.normalized.named)

def AuditFilters.text (filters : AuditFilters) : String := canonicalValue (.obj filters.named)

theorem IncidentFilters.hash_eq (filters : IncidentFilters) :
    filters.normalized.hash = sha256Hex filters.text := rfl

theorem AuditFilters.hash_eq (filters : AuditFilters) : filters.hash = sha256Hex filters.text := rfl

theorem sortedSet_sortedSet (values : List String) :
    sortedSet (sortedSet values) = sortedSet values := by
  rw [sortedSet_eq_iff]
  intro value
  rw [sortedSet, List.mem_insertionSort, List.mem_dedup]

theorem IncidentFilters.same_iff_normalized {left right : IncidentFilters} :
    left.Same right ↔ left.normalized = right.normalized := by
  constructor
  · intro same
    obtain ⟨statuses, severities, serverId, ruleKey, createdFrom, createdTo⟩ := same
    simp only [normalized, sortedSet_eq_iff.mpr statuses, sortedSet_eq_iff.mpr severities, serverId,
      ruleKey, createdFrom, createdTo]
  · intro same
    simp only [normalized, mk.injEq] at same
    obtain ⟨statuses, severities, serverId, ruleKey, createdFrom, createdTo⟩ := same
    exact ⟨sortedSet_eq_iff.mp statuses, sortedSet_eq_iff.mp severities, serverId, ruleKey,
      createdFrom, createdTo⟩

/-- **The text of filters says which rows they name.** -/
theorem IncidentFilters.text_eq_iff {left right : IncidentFilters} (left_valid : left.Valid)
    (right_valid : right.Valid) : left.text = right.text ↔ left.Same right := by
  constructor
  · intro same
    have names : (["created_from", "created_to", "rule_key", "server_id", "severities",
        "statuses"] : List String).Pairwise (· < ·) := by decide
    have valid : ∀ filters : IncidentFilters,
        (filters.named.all fun filter => isFilterValue filter.2) = true := by
      intro filters
      simp only [named, List.all_cons, List.all_nil, isFilterValue_texts, isFilterValue_ofOption,
        isFilterValue_ofUuid, isFilterValue_ofInstant, Bool.and_self]
    have members := filters_of_text (valid left.normalized) (valid right.normalized) names names same
    simp only [named, normalized, List.cons.injEq, Prod.mk.injEq, true_and, and_true,
      sortedSet_sortedSet] at members
    obtain ⟨createdFrom, createdTo, ruleKey, serverId, severities, statuses⟩ := members
    exact ⟨sortedSet_eq_iff.mp (texts_inj statuses), sortedSet_eq_iff.mp (texts_inj severities),
      ofUuid_inj serverId, ofOption_inj ruleKey,
      ofInstant_inj left_valid.createdFrom right_valid.createdFrom createdFrom,
      ofInstant_inj left_valid.createdTo right_valid.createdTo createdTo⟩
  · intro same
    rw [text, text, same_iff_normalized.mp same]

theorem AuditFilters.text_eq_iff {left right : AuditFilters} (left_valid : left.Valid)
    (right_valid : right.Valid) : left.text = right.text ↔ left = right := by
  constructor
  · intro same
    have names : (["action", "created_from", "created_to", "operator_id", "target_id",
        "target_type"] : List String).Pairwise (· < ·) := by decide
    have valid : ∀ filters : AuditFilters,
        (filters.named.all fun filter => isFilterValue filter.2) = true := by
      intro filters
      simp only [named, List.all_cons, List.all_nil, isFilterValue_ofOption, isFilterValue_ofUuid,
        isFilterValue_ofInstant, Bool.and_self]
    have members := filters_of_text (valid left) (valid right) names names same
    simp only [named, List.cons.injEq, Prod.mk.injEq, true_and, and_true] at members
    obtain ⟨action, createdFrom, createdTo, operatorId, targetId, targetType⟩ := members
    cases left
    cases right
    simp only [mk.injEq]
    exact ⟨ofUuid_inj operatorId, ofOption_inj action, ofOption_inj targetType, ofUuid_inj targetId,
      ofInstant_inj left_valid.createdFrom right_valid.createdFrom createdFrom,
      ofInstant_inj left_valid.createdTo right_valid.createdTo createdTo⟩
  · rintro rfl
    rfl

/-- Two texts that SHA-256 does not tell apart. -/
def Collide (left right : String) : Prop := left ≠ right ∧ sha256Hex left = sha256Hex right

theorem sha256Hex_eq_iff {left right : String} :
    sha256Hex left = sha256Hex right ↔ left = right ∨ Collide left right := by
  constructor
  · intro same
    by_cases equal : left = right
    · exact .inl equal
    · exact .inr ⟨equal, same⟩
  · rintro (rfl | ⟨_, same⟩)
    · rfl
    · exact same

/-- **A cursor continues a list only under filters for the same rows**, or where
SHA-256 does not tell the filters apart. -/
theorem rest_cursors_bound_to_filters {keys : InstantKeys} (holds : IsDatetime keys.1) :
    (∀ made read : IncidentFilters, made.Valid → read.Valid →
      ((restCursors.decode read.normalized.hash
          (restCursors.encode made.normalized.hash keys)).isSome ↔
        made.Same read ∨ Collide made.text read.text) ∧
      (made.Same read → made.normalized.conditions = read.normalized.conditions)) ∧
    ∀ made read : AuditFilters, made.Valid → read.Valid →
      ((restCursors.decode read.hash (restCursors.encode made.hash keys)).isSome ↔
        made = read ∨ Collide made.text read.text) := by
  have accepted : ∀ made read : String,
      (restCursors.decode (sha256Hex read) (restCursors.encode (sha256Hex made) keys)).isSome ↔
        made = read ∨ Collide made read := by
    intro made read
    rw [restCursors_decode_encode holds (isFilterHash_sha256Hex made), ← sha256Hex_eq_iff]
    by_cases same : sha256Hex made = sha256Hex read
    · rw [if_pos same]
      exact iff_of_true rfl same
    · rw [if_neg same]
      exact iff_of_false (by decide) same
  constructor
  · intro made read made_valid read_valid
    constructor
    · rw [made.hash_eq, read.hash_eq, accepted, IncidentFilters.text_eq_iff made_valid read_valid]
    · intro same
      rw [IncidentFilters.same_iff_normalized.mp same]
  · intro made read made_valid read_valid
    rw [made.hash_eq, read.hash_eq, accepted, AuditFilters.text_eq_iff made_valid read_valid]

/-- The filters of all incidents, and of the critical ones. -/
theorem rest_cursors_bound_to_filters_critical :
    (restCursors.decode (IncidentFilters.mk [] ["critical"] none none none none).normalized.hash
        (restCursors.encode (IncidentFilters.mk [] [] none none none none).normalized.hash
          (0, 1))).isSome ↔
      (IncidentFilters.mk [] [] none none none none).Same ⟨[], ["critical"], none, none, none, none⟩ ∨
        Collide (IncidentFilters.mk [] [] none none none none).text
          (IncidentFilters.mk [] ["critical"] none none none none).text := by
  have holds : IsDatetime ((0, 1) : InstantKeys).1 := ⟨by decide, by decide⟩
  refine ((rest_cursors_bound_to_filters holds).1 _ _ ?_ ?_).1
  · exact ⟨fun _ absent => absurd absent (by simp), fun _ absent => absurd absent (by simp)⟩
  · exact ⟨fun _ absent => absurd absent (by simp), fun _ absent => absurd absent (by simp)⟩

end WolandGuard.Dashboard
