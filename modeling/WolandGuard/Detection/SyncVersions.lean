import WolandGuard.Detection.Sync
import WolandGuard.Foundations.Outcomes

/-!
# Versions over many synchronisations

`sync_rules` as the statements that it flushes, inside the transaction of the
command. An insertion adds a version that is not active; the activation of a
version is a change of each row by itself (`activated`). So the table meets its
constraints after every statement, and a synchronisation acts on the keys that it
names and on no others.
-/

set_option autoImplicit false

namespace WolandGuard.Detection

open Foundations

/-! ## The constraints of the table -/

/-- What never changes in a row. -/
def storedPart (row : DetectionRuleVersion) : DetectionRuleVersion :=
  { row with isActive := false, activatedAt := none }

/-- The primary key, the unique constraints, the unique index of the active
versions and `active_requires_activated_at`. -/
structure VersionsConsistent (table : List DetectionRuleVersion) : Prop where
  ids : (table.map DetectionRuleVersion.id).Nodup
  keyVersions : (table.map fun row => (row.ruleKey, row.version)).Nodup
  keyChecksums : (table.map fun row => (row.ruleKey, row.checksum)).Nodup
  activeKeys : ((table.filter (·.isActive)).map DetectionRuleVersion.ruleKey).Nodup
  activatedAt : ∀ row ∈ table, row.isActive = true → row.activatedAt.isSome = true
  versions : ∀ row ∈ table, 0 < row.version

/-! ## The statements -/

/-- The `UPDATE` of the second loop. -/
def deactivateOthers (stored : DetectionRuleVersion) (table : List DetectionRuleVersion) :
    List DetectionRuleVersion :=
  updateWhere (fun row => row.ruleKey == stored.ruleKey && row.isActive && row.id ≠ stored.id)
    (fun row => { row with isActive := false }) table

/-- The assignments of the second loop, flushed. -/
def makeActive (activatedAt : Int) (stored : DetectionRuleVersion)
    (table : List DetectionRuleVersion) : List DetectionRuleVersion :=
  updateWhere (fun row => row.id = stored.id && !row.isActive)
    (fun row => { row with isActive := true, activatedAt := some activatedAt }) table

/-- The tables that the first loop flushes, up to its end or its error. -/
def appendFlushes (ids : String → Uuid) (now : Int) :
    List RuleDefinition → List DetectionRuleVersion → List (List DetectionRuleVersion)
  | [], _ => []
  | rule :: rest, table =>
      match table.find? fun stored =>
        stored.ruleKey == rule.ruleKey && stored.version == rule.version with
      | some existing =>
          if existing.checksum != ruleChecksum rule then [] else appendFlushes ids now rest table
      | none =>
          if table.any fun stored =>
              stored.ruleKey == rule.ruleKey && stored.checksum == ruleChecksum rule then []
          else
            let row := ruleVersionRow (ids rule.ruleKey) now rule
            if table.any (·.id = row.id) then []
            else (table ++ [row]) :: appendFlushes ids now rest (table ++ [row])

/-- The tables that the second loop flushes. -/
def activateFlushes (activatedAt : Int) :
    List Uuid → List DetectionRuleVersion → List (List DetectionRuleVersion)
  | [], _ => []
  | target :: rest, table =>
      match rowOf DetectionRuleVersion.id table target with
      | none => activateFlushes activatedAt rest table
      | some stored =>
          let others := deactivateOthers stored table
          let active := makeActive activatedAt stored others
          others :: active :: activateFlushes activatedAt rest active

/-- The tables that `sync_rules` flushes. -/
def syncFlushes (ids : String → Uuid) (activatedAt : Int) (rules : List RuleDefinition)
    (table : List DetectionRuleVersion) : List (List DetectionRuleVersion) :=
  appendFlushes ids activatedAt rules table ++
    match appendVersions ids activatedAt rules table with
    | .error _ => []
    | .ok (appended, targets) => activateFlushes activatedAt targets appended

/-! ## The transaction -/

/-- A session: what is committed, and what its transaction sees. -/
structure RuleSession where
  committed : Database
  working : Database

namespace RuleSession

def flush (session : RuleSession) (table : List DetectionRuleVersion) : RuleSession :=
  { session with working := { session.working with ruleVersions := table } }

def commit (session : RuleSession) : RuleSession := ⟨session.working, session.working⟩

def rollback (session : RuleSession) : RuleSession := ⟨session.committed, session.committed⟩

end RuleSession

/-- A synchronisation of rules with different keys, as `load_rules_directory`
returns them. -/
structure RuleSync where
  ids : String → Uuid
  activatedAt : Int
  rules : List RuleDefinition
  distinct : (rules.map RuleDefinition.ruleKey).Nodup

/-- `sync_rules` in a transaction of its own: the session after it, and the error
if there was one. -/
def RuleSync.run (sync : RuleSync) (db : Database) : RuleSession × Option RuleSyncError :=
  let session := (syncFlushes sync.ids sync.activatedAt sync.rules db.ruleVersions).foldl
    RuleSession.flush ⟨db, db⟩
  match syncRules sync.ids sync.activatedAt db sync.rules with
  | .ok _ => (session.commit, none)
  | .error error => (session.rollback, some error)

/-- The database after some synchronisations. -/
def syncAll (db : Database) (syncs : List RuleSync) : Database :=
  syncs.foldl (fun db sync => (sync.run db).1.committed) db

/-! ## Insertions -/

section Insertions

variable {ids : String → Uuid} {now : Int} {rules : List RuleDefinition}
variable {table after : List DetectionRuleVersion} {targets : List Uuid}

/-- A row that is the requested version of a rule. -/
def IsVersionOf (rule : RuleDefinition) (row : DetectionRuleVersion) : Prop :=
  row.ruleKey = rule.ruleKey ∧ row.version = rule.version ∧ row.checksum = ruleChecksum rule

/-- The targets are the requested versions. -/
def AreTargets (table : List DetectionRuleVersion) (rules : List RuleDefinition)
    (targets : List Uuid) : Prop :=
  List.Forall₂ (fun rule target => ∃ row ∈ table, row.id = target ∧ IsVersionOf rule row)
    rules targets

/-- **What the first loop does with one rule**: it fails, or finds the version,
or inserts it where no constraint forbids it. -/
theorem appendVersions_cases (ids : String → Uuid) (now : Int) (rule : RuleDefinition)
    (rest : List RuleDefinition) (table : List DetectionRuleVersion) :
    ((∃ error, appendVersions ids now (rule :: rest) table = .error error) ∧
        appendFlushes ids now (rule :: rest) table = []) ∨
      (∃ existing ∈ table, IsVersionOf rule existing ∧
        appendVersions ids now (rule :: rest) table =
          (appendVersions ids now rest table).map (fun (after, targets) =>
            (after, existing.id :: targets)) ∧
        appendFlushes ids now (rule :: rest) table = appendFlushes ids now rest table) ∨
      ∃ row, row = ruleVersionRow (ids rule.ruleKey) now rule ∧
        (∀ stored ∈ table, (stored.ruleKey, stored.version) ≠ (row.ruleKey, row.version)) ∧
        (∀ stored ∈ table, (stored.ruleKey, stored.checksum) ≠ (row.ruleKey, row.checksum)) ∧
        (∀ stored ∈ table, stored.id ≠ row.id) ∧
        appendVersions ids now (rule :: rest) table =
          (appendVersions ids now rest (table ++ [row])).map (fun (after, targets) =>
            (after, row.id :: targets)) ∧
        appendFlushes ids now (rule :: rest) table =
          (table ++ [row]) :: appendFlushes ids now rest (table ++ [row]) := by
  rw [appendVersions, appendFlushes]
  cases found : table.find? fun stored =>
      stored.ruleKey == rule.ruleKey && stored.version == rule.version with
  | some existing =>
      dsimp only
      by_cases conflict : (existing.checksum != ruleChecksum rule) = true
      · rw [if_pos conflict, if_pos conflict]
        exact .inl ⟨⟨_, rfl⟩, rfl⟩
      · rw [if_neg conflict, if_neg conflict]
        have keys := List.find?_some found
        rw [Bool.and_eq_true, beq_iff_eq, beq_iff_eq] at keys
        exact .inr (.inl ⟨existing, List.mem_of_find?_eq_some found,
          ⟨keys.1, keys.2, by simpa using conflict⟩, rfl, rfl⟩)
  | none =>
      dsimp only
      by_cases duplicate : (table.any fun stored =>
          stored.ruleKey == rule.ruleKey && stored.checksum == ruleChecksum rule) = true
      · rw [if_pos duplicate, if_pos duplicate]
        exact .inl ⟨⟨_, rfl⟩, rfl⟩
      · rw [if_neg duplicate, if_neg duplicate]
        by_cases taken : (table.any fun stored =>
            stored.id = (ruleVersionRow (ids rule.ruleKey) now rule).id) = true
        · rw [if_pos taken, if_pos taken]
          exact .inl ⟨⟨_, rfl⟩, rfl⟩
        · rw [if_neg taken, if_neg taken]
          refine .inr (.inr ⟨_, rfl, ?_, ?_, ?_, rfl, rfl⟩)
          · intro stored member same
            obtain ⟨key_same, version_same⟩ := Prod.mk.inj same
            refine List.find?_eq_none.mp found stored member ?_
            rw [Bool.and_eq_true, beq_iff_eq, beq_iff_eq]
            exact ⟨key_same, version_same⟩
          · intro stored member same
            obtain ⟨key_same, checksum_same⟩ := Prod.mk.inj same
            refine duplicate (List.any_eq_true.mpr ⟨stored, member, ?_⟩)
            rw [Bool.and_eq_true, beq_iff_eq, beq_iff_eq]
            exact ⟨key_same, checksum_same⟩
          · intro stored member same
            exact taken (List.any_eq_true.mpr ⟨stored, member, decide_eq_true same⟩)

/-- A column stays unique when a row with a new value is appended. -/
theorem nodup_map_append_singleton {κ : Type} {column : DetectionRuleVersion → κ}
    {row : DetectionRuleVersion} (unique : (table.map column).Nodup)
    (new : ∀ stored ∈ table, column stored ≠ column row) :
    ((table ++ [row]).map column).Nodup := by
  rw [List.map_append, List.map_singleton, List.nodup_append]
  refine ⟨unique, List.nodup_singleton _, ?_⟩
  intro value member other other_member same
  obtain ⟨stored, stored_member, rfl⟩ := List.mem_map.mp member
  rw [List.mem_singleton] at other_member
  exact new stored stored_member (same.trans other_member)

/-- **An insertion of a new version meets the constraints.** -/
theorem VersionsConsistent.append (consistent : VersionsConsistent table) (now : Int)
    {rule : RuleDefinition} {id : Uuid}
    (new_version : ∀ stored ∈ table,
      (stored.ruleKey, stored.version) ≠ (rule.ruleKey, rule.version))
    (new_definition : ∀ stored ∈ table,
      (stored.ruleKey, stored.checksum) ≠ (rule.ruleKey, ruleChecksum rule))
    (fresh : ∀ stored ∈ table, stored.id ≠ id) :
    VersionsConsistent (table ++ [ruleVersionRow id now rule]) where
  ids := nodup_map_append_singleton consistent.ids fresh
  keyVersions := nodup_map_append_singleton consistent.keyVersions new_version
  keyChecksums := nodup_map_append_singleton consistent.keyChecksums new_definition
  activeKeys := by
    have inactive : (table ++ [ruleVersionRow id now rule]).filter (·.isActive) =
        table.filter (·.isActive) := by
      rw [List.filter_append]
      exact List.append_nil _
    rw [inactive]
    exact consistent.activeKeys
  activatedAt := by
    intro row member active
    rcases List.mem_append.mp member with old | new
    · exact consistent.activatedAt row old active
    · rw [List.mem_singleton.mp new] at active
      cases active
  versions := by
    intro row member
    rcases List.mem_append.mp member with old | new
    · exact consistent.versions row old
    · rw [List.mem_singleton.mp new]
      exact rule.version_pos

/-- **Every insertion of a synchronisation meets the constraints**, also when a
later rule fails. -/
theorem consistent_appendFlushes (consistent : VersionsConsistent table) :
    ∀ flushed ∈ appendFlushes ids now rules table, VersionsConsistent flushed := by
  induction rules generalizing table with
  | nil => simp [appendFlushes]
  | cons rule rest ih =>
      rcases appendVersions_cases ids now rule rest table with
        ⟨_, flushes⟩ | ⟨existing, _, _, _, flushes⟩ |
          ⟨row, rfl, new_version, new_definition, fresh, _, flushes⟩
      · simp [flushes]
      · rw [flushes]
        exact ih consistent
      · have appended := consistent.append now new_version new_definition fresh
        rw [flushes]
        exact List.forall_mem_cons.mpr ⟨appended, ih appended⟩

/-- **The first loop**, when no rule is in conflict. -/
theorem appendVersions_appends (consistent : VersionsConsistent table)
    (appended : appendVersions ids now rules table = .ok (after, targets)) :
    VersionsConsistent after ∧
      (appendFlushes ids now rules table).getLastD table = after ∧
      (∃ rows, after = table ++ rows ∧ ∀ row ∈ rows, row.ruleKey ∈ rules.map RuleDefinition.ruleKey) ∧
      AreTargets after rules targets := by
  induction rules generalizing table targets with
  | nil =>
      obtain ⟨rfl, rfl⟩ := Prod.mk.inj (Except.ok.inj appended)
      exact ⟨consistent, rfl, ⟨[], (List.append_nil _).symm, by simp⟩, .nil⟩
  | cons rule rest ih =>
      rcases appendVersions_cases ids now rule rest table with
        ⟨⟨error, fails⟩, _⟩ | ⟨existing, member, version_of, served, flushes⟩ |
          ⟨row, rfl, new_version, new_definition, fresh, served, flushes⟩
      · rw [fails] at appended
        cases appended
      · rw [served] at appended
        obtain ⟨⟨more, others⟩, rest_appended, equal⟩ := ok_of_map_ok appended
        obtain ⟨rfl, rfl⟩ := Prod.mk.inj equal
        obtain ⟨after_consistent, last, ⟨rows, rfl, named⟩, found⟩ := ih consistent rest_appended
        refine ⟨after_consistent, flushes ▸ last, ⟨rows, rfl, fun row new => ?_⟩, .cons ?_ found⟩
        · exact List.mem_cons_of_mem _ (named row new)
        · exact ⟨existing, List.mem_append_left _ member, rfl, version_of⟩
      · rw [served] at appended
        obtain ⟨⟨more, others⟩, rest_appended, equal⟩ := ok_of_map_ok appended
        obtain ⟨rfl, rfl⟩ := Prod.mk.inj equal
        have inserted := consistent.append now new_version new_definition fresh
        obtain ⟨after_consistent, last, ⟨rows, rfl, named⟩, found⟩ := ih inserted rest_appended
        refine ⟨after_consistent, ?_, ⟨_ :: rows, List.append_assoc _ _ _, ?_⟩, .cons ?_ found⟩
        · rw [flushes, List.getLastD_cons]
          exact last
        · refine List.forall_mem_cons.mpr ⟨List.mem_cons_self, fun row new => ?_⟩
          exact List.mem_cons_of_mem _ (named row new)
        · refine ⟨_, List.mem_append_left _ (List.mem_append_right _ (List.mem_singleton_self _)),
            rfl, rfl, rfl, rfl⟩

/-- When every version is there, nothing is inserted. -/
theorem appendVersions_of_present (keyVersions : (table.map fun row =>
      (row.ruleKey, row.version)).Nodup)
    (present : ∀ rule ∈ rules, ∃ row ∈ table, IsVersionOf rule row) :
    ∃ targets, appendVersions ids now rules table = .ok (table, targets) ∧
      AreTargets table rules targets := by
  induction rules with
  | nil => exact ⟨[], rfl, .nil⟩
  | cons rule rest ih =>
      obtain ⟨others, served, found⟩ := ih fun other member =>
        present other (List.mem_cons_of_mem _ member)
      obtain ⟨row, member, key_same, version_same, checksum_same⟩ :=
        present rule List.mem_cons_self
      have find : table.find? (fun stored =>
          stored.ruleKey == rule.ruleKey && stored.version == rule.version) = some row := by
        have read := rowOf_of_mem keyVersions member
        rw [rowOf] at read
        rw [← read]
        congr 1
        funext stored
        rw [Bool.eq_iff_iff, Bool.and_eq_true, beq_iff_eq, beq_iff_eq, decide_eq_true_iff,
          Prod.mk.injEq, key_same, version_same]
      refine ⟨row.id :: others, ?_, .cons ⟨row, member, rfl, key_same, version_same,
        checksum_same⟩ found⟩
      rw [appendVersions, find]
      dsimp only
      rw [if_neg (by simp [checksum_same]), served]
      rfl

end Insertions

/-! ## Activations -/

section Activations

variable {now : Int} {table : List DetectionRuleVersion} {target : Uuid}
variable {stored row : DetectionRuleVersion}

/-- A row after the activation of a version. -/
def activated (now : Int) (stored row : DetectionRuleVersion) : DetectionRuleVersion :=
  if row.id = stored.id then
    if row.isActive then row else { row with isActive := true, activatedAt := some now }
  else if row.ruleKey = stored.ruleKey && row.isActive then { row with isActive := false }
  else row

theorem storedPart_activated (now : Int) (stored row : DetectionRuleVersion) :
    storedPart (activated now stored row) = storedPart row := by
  unfold activated
  split
  · split
    · rfl
    · rfl
  · split
    · rfl
    · rfl

/-- **An activation changes each row by itself.** -/
theorem makeActive_deactivateOthers (now : Int) (stored : DetectionRuleVersion)
    (table : List DetectionRuleVersion) :
    makeActive now stored (deactivateOthers stored table) = table.map (activated now stored) := by
  rw [makeActive, deactivateOthers, updateWhere, updateWhere, List.map_map]
  refine List.map_congr_left fun row _ => ?_
  rw [Function.comp_apply, activated]
  by_cases same : row.id = stored.id
  · cases active : row.isActive
    · simp [same, active]
    · simp [same, active]
  · by_cases sibling : row.ruleKey = stored.ruleKey ∧ row.isActive = true
    · simp [same, sibling]
    · simp [same, sibling]

theorem activate_eq_map (found : rowOf DetectionRuleVersion.id table target = some stored) :
    activate now table target = table.map (activated now stored) := by
  rw [← makeActive_deactivateOthers, activate, found]
  rfl

theorem activated_isActive : (activated now stored row).isActive = true ↔
    row.id = stored.id ∨ row.isActive = true ∧ row.ruleKey ≠ stored.ruleKey := by
  unfold activated
  by_cases same : row.id = stored.id
  · cases active : row.isActive
    · simp [same]
    · simp [same, active]
  · by_cases sibling : row.ruleKey = stored.ruleKey ∧ row.isActive = true
    · simp [same, sibling]
    · rw [if_neg same, if_neg (by simpa using sibling)]
      constructor
      · exact fun active => .inr ⟨active, fun key_same => sibling ⟨key_same, active⟩⟩
      · exact fun active => (active.resolve_left same).1

@[simp] theorem activated_id : (activated now stored row).id = row.id := by
  have kept := congrArg DetectionRuleVersion.id (storedPart_activated now stored row)
  exact kept

@[simp] theorem activated_ruleKey : (activated now stored row).ruleKey = row.ruleKey := by
  have kept := congrArg DetectionRuleVersion.ruleKey (storedPart_activated now stored row)
  exact kept

@[simp] theorem activated_version : (activated now stored row).version = row.version := by
  have kept := congrArg DetectionRuleVersion.version (storedPart_activated now stored row)
  exact kept

/-- Rows of other keys are not touched. -/
theorem activated_of_other (other_id : row.id ≠ stored.id)
    (other_key : row.ruleKey ≠ stored.ruleKey) : activated now stored row = row := by
  rw [activated, if_neg other_id, if_neg (by simp [other_key])]

theorem activated_activatedAt (was : row.isActive = true → row.activatedAt.isSome = true)
    (active : (activated now stored row).isActive = true) :
    (activated now stored row).activatedAt.isSome = true := by
  unfold activated at active ⊢
  split at active
  next same =>
    rw [if_pos same]
    split at active
    next already => simpa [already] using was already
    next inactive => simp [inactive]
  next other =>
    rw [if_neg other]
    split at active
    · cases active
    next kept =>
      rw [if_neg kept]
      exact was active

/-! ### The constraints -/

/-- The constraints other than those of the active versions are about what never
changes. -/
theorem VersionsConsistent.of_storedPart {after : List DetectionRuleVersion}
    (consistent : VersionsConsistent table) (same : after.map storedPart = table.map storedPart)
    (one_active : ∀ first ∈ after, ∀ second ∈ after, first.isActive = true →
      second.isActive = true → first.ruleKey = second.ruleKey → first.id = second.id)
    (activatedAt : ∀ row ∈ after, row.isActive = true → row.activatedAt.isSome = true) :
    VersionsConsistent after := by
  have column : ∀ {κ : Type} (read : DetectionRuleVersion → κ),
      (∀ row, read (storedPart row) = read row) → after.map read = table.map read := by
    intro κ read keeps
    have composed : read ∘ storedPart = read := funext keeps
    have mapped := congrArg (List.map read) same
    rwa [List.map_map, List.map_map, composed] at mapped
  have ids : (after.map DetectionRuleVersion.id).Nodup := by
    rw [column _ fun _ => rfl]
    exact consistent.ids
  refine ⟨ids, ?_, ?_, ?_, activatedAt, ?_⟩
  · rw [column _ fun _ => rfl]
    exact consistent.keyVersions
  · rw [column _ fun _ => rfl]
    exact consistent.keyChecksums
  · refine (List.nodup_map_iff_inj_on (ids.of_map.filter _)).mpr ?_
    intro first first_member second second_member keys_same
    obtain ⟨first_in, first_active⟩ := List.mem_filter.mp first_member
    obtain ⟨second_in, second_active⟩ := List.mem_filter.mp second_member
    have id_same := one_active first first_in second second_in first_active second_active keys_same
    exact (List.nodup_map_iff_inj_on ids.of_map).mp ids first first_in second second_in id_same
  · intro row member
    have versions := column DetectionRuleVersion.version fun _ => rfl
    have stored : row.version ∈ table.map DetectionRuleVersion.version := by
      rw [← versions]
      exact List.mem_map_of_mem member
    obtain ⟨old, old_member, version_same⟩ := List.mem_map.mp stored
    rw [← version_same]
    exact consistent.versions old old_member

/-- A row is known by its id. -/
theorem VersionsConsistent.eq_of_id (consistent : VersionsConsistent table)
    {first second : DetectionRuleVersion} (first_in : first ∈ table) (second_in : second ∈ table)
    (same : first.id = second.id) : first = second :=
  (List.nodup_map_iff_inj_on consistent.ids.of_map).mp consistent.ids first first_in second
    second_in same

/-- A row is known by its key and version. -/
theorem VersionsConsistent.eq_of_version (consistent : VersionsConsistent table)
    {first second : DetectionRuleVersion} (first_in : first ∈ table) (second_in : second ∈ table)
    (keys : first.ruleKey = second.ruleKey) (versions : first.version = second.version) :
    first = second :=
  (List.nodup_map_iff_inj_on consistent.keyVersions.of_map).mp consistent.keyVersions first first_in
    second second_in (Prod.ext keys versions)

/-- An active row is known by its key. -/
theorem VersionsConsistent.eq_of_active (consistent : VersionsConsistent table)
    {first second : DetectionRuleVersion} (first_in : first ∈ table) (second_in : second ∈ table)
    (first_active : first.isActive = true) (second_active : second.isActive = true)
    (keys : first.ruleKey = second.ruleKey) : first = second :=
  (List.nodup_map_iff_inj_on consistent.activeKeys.of_map).mp consistent.activeKeys first
    (List.mem_filter.mpr ⟨first_in, first_active⟩) second
    (List.mem_filter.mpr ⟨second_in, second_active⟩) keys

/-- **The first statement of an activation meets the constraints**: it makes no
version active. -/
theorem VersionsConsistent.deactivateOthers (consistent : VersionsConsistent table)
    (stored : DetectionRuleVersion) : VersionsConsistent (deactivateOthers stored table) := by
  have was : ∀ row ∈ WolandGuard.Detection.deactivateOthers stored table, row.isActive = true →
      row ∈ table := by
    intro row member active
    obtain ⟨old, old_member, same⟩ := mem_updateWhere.mp member
    split at same
    · rw [← same] at active
      cases active
    · rwa [← same]
  refine consistent.of_storedPart ?_ ?_ ?_
  · rw [Detection.deactivateOthers, map_updateWhere]
    exact fun _ _ => rfl
  · intro first first_in second second_in first_active second_active keys
    exact congrArg _ (consistent.eq_of_active (was first first_in first_active)
      (was second second_in second_active) first_active second_active keys)
  · exact fun row member active => consistent.activatedAt row (was row member active) active

/-- **The second statement meets them as well**: the other versions of the key
are not active any more. -/
theorem VersionsConsistent.activated (consistent : VersionsConsistent table)
    (stored_in : stored ∈ table) (now : Int) :
    VersionsConsistent (table.map (activated now stored)) := by
  refine consistent.of_storedPart ?_ ?_ ?_
  · rw [List.map_map]
    exact List.map_congr_left fun row _ => storedPart_activated now stored row
  · intro first first_in second second_in first_active second_active keys
    obtain ⟨old, old_in, rfl⟩ := List.mem_map.mp first_in
    obtain ⟨other, other_in, rfl⟩ := List.mem_map.mp second_in
    rw [activated_ruleKey, activated_ruleKey] at keys
    rw [activated_id, activated_id]
    rcases activated_isActive.mp first_active with old_same | ⟨old_active, old_key⟩
    · rcases activated_isActive.mp second_active with other_same | ⟨_, other_key⟩
      · exact old_same.trans other_same.symm
      · obtain rfl := consistent.eq_of_id old_in stored_in old_same
        exact absurd keys.symm other_key
    · rcases activated_isActive.mp second_active with other_same | ⟨other_active, _⟩
      · obtain rfl := consistent.eq_of_id other_in stored_in other_same
        exact absurd keys old_key
      · exact congrArg _ (consistent.eq_of_active old_in other_in old_active other_active keys)
  · intro row member active
    obtain ⟨old, old_in, rfl⟩ := List.mem_map.mp member
    exact activated_activatedAt (consistent.activatedAt old old_in) active

/-! ### The second loop -/

/-- The rows of the keys that are not named. -/
def rowsOfOthers (rules : List RuleDefinition) (table : List DetectionRuleVersion) :
    List DetectionRuleVersion :=
  table.filter fun row => row.ruleKey ∉ rules.map RuleDefinition.ruleKey

/-- The versions of a rule's key that are active. -/
def activeVersions (ruleKey : String) (table : List DetectionRuleVersion) : List Nat :=
  (table.filter fun row => row.isActive && row.ruleKey = ruleKey).map DetectionRuleVersion.version

theorem AreTargets.exists_row {rules : List RuleDefinition} {targets : List Uuid}
    (are : AreTargets table rules targets) :
    ∀ rule ∈ rules, ∃ row ∈ table, IsVersionOf rule row := by
  induction rules generalizing targets with
  | nil => simp
  | cons rule rest ih =>
      cases are with
      | cons found rest_are =>
        obtain ⟨row, member, _, version_of⟩ := found
        exact List.forall_mem_cons.mpr ⟨⟨row, member, version_of⟩, ih rest_are⟩

theorem AreTargets.of_storedPart {after : List DetectionRuleVersion} {rules : List RuleDefinition}
    {targets : List Uuid} (are : AreTargets table rules targets)
    (same : after.map storedPart = table.map storedPart) : AreTargets after rules targets := by
  refine are.imp fun rule target found => ?_
  obtain ⟨row, member, id_same, key_same, version_same, checksum_same⟩ := found
  have stored : storedPart row ∈ after.map storedPart := by
    rw [same]
    exact List.mem_map_of_mem member
  obtain ⟨later, later_member, part_same⟩ := List.mem_map.mp stored
  have columns := DetectionRuleVersion.mk.inj part_same
  exact ⟨later, later_member, columns.1.trans id_same, columns.2.1.trans key_same,
    columns.2.2.1.trans version_same, columns.2.2.2.2.2.1.trans checksum_same⟩

theorem rowsOfOthers_activated {rules : List RuleDefinition} {rule : RuleDefinition}
    (consistent : VersionsConsistent table) (stored_in : stored ∈ table)
    (version_of : IsVersionOf rule stored) (now : Int) :
    rowsOfOthers (rule :: rules) (table.map (activated now stored)) =
      rowsOfOthers (rule :: rules) table := by
  have keeps : ((fun row : DetectionRuleVersion =>
        decide (row.ruleKey ∉ (rule :: rules).map RuleDefinition.ruleKey)) ∘
      activated now stored) = fun row =>
        decide (row.ruleKey ∉ (rule :: rules).map RuleDefinition.ruleKey) := by
    funext row
    rw [Function.comp_apply, activated_ruleKey]
  rw [rowsOfOthers, List.filter_map, keeps]
  refine (List.map_congr_left fun row member => ?_).trans (List.map_id _)
  obtain ⟨row_in, unnamed⟩ := List.mem_filter.mp member
  have other_key : row.ruleKey ≠ stored.ruleKey := by
    intro same
    rw [same, version_of.1] at unnamed
    simp at unnamed
  exact activated_of_other (fun same => other_key
    (congrArg _ (consistent.eq_of_id row_in stored_in same))) other_key

/-- Rows of keys that are not named either way. -/
theorem rowsOfOthers_cons (rule : RuleDefinition) (rules : List RuleDefinition)
    (table : List DetectionRuleVersion) :
    rowsOfOthers (rule :: rules) table =
      (rowsOfOthers rules table).filter fun row => row.ruleKey ≠ rule.ruleKey := by
  rw [rowsOfOthers, rowsOfOthers, List.filter_filter]
  refine List.filter_congr fun row _ => ?_
  rw [Bool.eq_iff_iff, Bool.and_eq_true]
  simp only [decide_eq_true_iff, List.map_cons, List.mem_cons, not_or]

/-- Active versions of a key that is not named are among the rows that are not
touched. -/
theorem activeVersions_rowsOfOthers {rules : List RuleDefinition} {ruleKey : String}
    (unnamed : ruleKey ∉ rules.map RuleDefinition.ruleKey) :
    activeVersions ruleKey (rowsOfOthers rules table) = activeVersions ruleKey table := by
  rw [activeVersions, activeVersions, rowsOfOthers, List.filter_filter]
  refine congrArg _ (List.filter_congr fun row _ => ?_)
  rw [Bool.and_eq_left_iff_imp]
  intro named
  rw [Bool.and_eq_true, decide_eq_true_iff] at named
  rw [named.2]
  exact decide_eq_true unnamed

/-- With unique active keys, the active version of an active row's key is its
version. -/
theorem activeVersions_of_active (consistent : VersionsConsistent table) (member : row ∈ table)
    (active : row.isActive = true) : activeVersions row.ruleKey table = [row.version] := by
  have alone := filter_key_of_mem consistent.activeKeys
    (List.mem_filter.mpr ⟨member, active⟩) fun _ => true
  rw [if_pos rfl, List.filter_filter] at alone
  rw [activeVersions, ← List.map_singleton, ← alone]
  refine congrArg _ (List.filter_congr fun other _ => ?_)
  rw [Bool.and_true, Bool.and_comm]

theorem length_activeVersions_le (consistent : VersionsConsistent table) (ruleKey : String) :
    (activeVersions ruleKey table).length ≤ 1 := by
  cases found : table.filter fun row => row.isActive && row.ruleKey = ruleKey with
  | nil =>
      rw [activeVersions, found]
      exact Nat.zero_le _
  | cons row rest =>
      have member : row ∈ table.filter fun row => row.isActive && row.ruleKey = ruleKey := by
        rw [found]
        exact List.mem_cons_self
      obtain ⟨row_in, holds⟩ := List.mem_filter.mp member
      rw [Bool.and_eq_true, decide_eq_true_iff] at holds
      rw [← holds.2, activeVersions_of_active consistent row_in holds.1]
      exact le_rfl

/-- A version that is the active one of its key already. -/
theorem map_activated_of_active (consistent : VersionsConsistent table) (stored_in : stored ∈ table)
    (active : stored.isActive = true) (now : Int) :
    table.map (activated now stored) = table := by
  refine (List.map_congr_left fun row member => ?_).trans (List.map_id table)
  rw [activated]
  by_cases same : row.id = stored.id
  · obtain rfl := consistent.eq_of_id member stored_in same
    rw [if_pos rfl, if_pos active]
    rfl
  · rw [if_neg same, if_neg]
    · rfl
    · intro sibling
      rw [Bool.and_eq_true, decide_eq_true_iff] at sibling
      exact same (congrArg _ (consistent.eq_of_active member stored_in sibling.2 active sibling.1))

theorem foldl_activate_of_active (consistent : VersionsConsistent table) {targets : List Uuid}
    (active : ∀ target ∈ targets, ∃ row ∈ table, row.id = target ∧ row.isActive = true) (now : Int) :
    targets.foldl (activate now) table = table := by
  induction targets with
  | nil => rfl
  | cons target rest ih =>
      obtain ⟨row, member, rfl, row_active⟩ := active target List.mem_cons_self
      rw [List.foldl_cons, activate_eq_map (rowOf_of_mem consistent.ids member),
        map_activated_of_active consistent member row_active now]
      exact ih fun other other_in => active other (List.mem_cons_of_mem _ other_in)

/-- The targets are active when the requested versions are. -/
theorem AreTargets.active {rules : List RuleDefinition} {targets : List Uuid}
    (are : AreTargets table rules targets) (consistent : VersionsConsistent table)
    (requested : ∀ rule ∈ rules, activeVersions rule.ruleKey table = [rule.version]) :
    ∀ target ∈ targets, ∃ row ∈ table, row.id = target ∧ row.isActive = true := by
  induction rules generalizing targets with
  | nil =>
      cases are
      simp
  | cons rule rest ih =>
      cases are with
      | cons found rest_are =>
        obtain ⟨row, member, same, key_same, version_same, _⟩ := found
        obtain ⟨first, others⟩ := List.forall_mem_cons.mp requested
        refine List.forall_mem_cons.mpr ⟨⟨row, member, same, ?_⟩, ih rest_are others⟩
        have listed : rule.version ∈ activeVersions rule.ruleKey table := by
          rw [first]
          exact List.mem_singleton_self _
        obtain ⟨other, other_in, other_version⟩ := List.mem_map.mp listed
        obtain ⟨other_in, holds⟩ := List.mem_filter.mp other_in
        rw [Bool.and_eq_true, decide_eq_true_iff] at holds
        have equal := consistent.eq_of_version member other_in (key_same.trans holds.2.symm)
          (version_same.trans other_version.symm)
        rw [equal]
        exact holds.1

/-- **The activations of the requested versions.** -/
theorem activate_targets {rules : List RuleDefinition} {targets : List Uuid}
    (consistent : VersionsConsistent table) (are : AreTargets table rules targets)
    (distinct : (rules.map RuleDefinition.ruleKey).Nodup) (now : Int) :
    VersionsConsistent (targets.foldl (activate now) table) ∧
      (∀ flushed ∈ activateFlushes now targets table, VersionsConsistent flushed) ∧
      (activateFlushes now targets table).getLastD table = targets.foldl (activate now) table ∧
      (targets.foldl (activate now) table).map storedPart = table.map storedPart ∧
      rowsOfOthers rules (targets.foldl (activate now) table) = rowsOfOthers rules table ∧
      ∀ rule ∈ rules, activeVersions rule.ruleKey (targets.foldl (activate now) table) =
        [rule.version] := by
  induction rules generalizing table targets with
  | nil =>
      cases are
      exact ⟨consistent, by simp [activateFlushes], rfl, rfl, rfl, by simp⟩
  | cons rule rest ih =>
      cases are with
      | @cons _ _ target others found rest_are =>
        obtain ⟨stored, stored_in, rfl, version_of⟩ := found
        have read : rowOf DetectionRuleVersion.id table stored.id = some stored :=
          rowOf_of_mem consistent.ids stored_in
        have flushed : activateFlushes now (stored.id :: others) table =
            deactivateOthers stored table :: table.map (activated now stored) ::
              activateFlushes now others (table.map (activated now stored)) := by
          rw [activateFlushes, read]
          dsimp only
          rw [makeActive_deactivateOthers]
        have parts : (table.map (activated now stored)).map storedPart = table.map storedPart := by
          rw [List.map_map]
          exact List.map_congr_left fun row _ => storedPart_activated now stored row
        obtain ⟨unnamed, rest_distinct⟩ := List.nodup_cons.mp distinct
        have first := consistent.activated stored_in now
        obtain ⟨final, rest_flushes, last, rest_parts, untouched, requested⟩ :=
          ih first (AreTargets.of_storedPart rest_are parts) rest_distinct
        rw [List.foldl_cons, activate_eq_map read, flushed]
        refine ⟨final, ?_, ?_, rest_parts.trans parts, ?_, ?_⟩
        · exact List.forall_mem_cons.mpr ⟨consistent.deactivateOthers stored,
            List.forall_mem_cons.mpr ⟨first, rest_flushes⟩⟩
        · rw [List.getLastD_cons, List.getLastD_cons]
          exact last
        · rw [← rowsOfOthers_activated consistent stored_in version_of now, rowsOfOthers_cons,
            untouched, ← rowsOfOthers_cons]
        · refine List.forall_mem_cons.mpr ⟨?_, requested⟩
          -- the rest of the targets have other keys
          rw [← activeVersions_rowsOfOthers unnamed, untouched, activeVersions_rowsOfOthers unnamed]
          have now_active := activeVersions_of_active first (List.mem_map_of_mem stored_in)
            (activated_isActive.mpr (.inl rfl))
          rwa [activated_ruleKey, activated_version, version_of.1, version_of.2.1] at now_active

end Activations

/-! ## Synchronisations -/

section Synchronisations

variable {db after : Database} {sync : RuleSync} {error : RuleSyncError}

theorem foldl_flush (session : RuleSession) (tables : List (List DetectionRuleVersion)) :
    tables.foldl RuleSession.flush session =
      { session with working := { session.working with
          ruleVersions := tables.getLastD session.working.ruleVersions } } := by
  induction tables generalizing session with
  | nil => rfl
  | cons table rest ih =>
      rw [List.foldl_cons, ih, List.getLastD_cons]
      rfl

theorem getLastD_append {α : Type} (first second : List α) (start : α) :
    (first ++ second).getLastD start = second.getLastD (first.getLastD start) := by
  induction first generalizing start with
  | nil => rfl
  | cons value rest ih => rw [List.cons_append, List.getLastD_cons, List.getLastD_cons, ih]

/-- The versions that a synchronisation inserts are not of other keys. -/
theorem rowsOfOthers_append {rules : List RuleDefinition} {table rows : List DetectionRuleVersion}
    (named : ∀ row ∈ rows, row.ruleKey ∈ rules.map RuleDefinition.ruleKey) :
    rowsOfOthers rules (table ++ rows) = rowsOfOthers rules table := by
  have none_other : rowsOfOthers rules rows = [] := by
    refine List.filter_eq_nil_iff.mpr fun row member unnamed => ?_
    exact of_decide_eq_true unnamed (named row member)
  rw [rowsOfOthers, List.filter_append]
  exact (congrArg _ none_other).trans (List.append_nil _)

/-- **A synchronisation without a conflict**: every statement meets the
constraints, and the last one leaves what is committed. -/
theorem syncRules_spec (consistent : VersionsConsistent db.ruleVersions)
    (synced : syncRules sync.ids sync.activatedAt db sync.rules = .ok after) :
    VersionsConsistent after.ruleVersions ∧
      sync.run db = (⟨after, after⟩, none) ∧
      db.ruleVersions.map storedPart <+: after.ruleVersions.map storedPart ∧
      rowsOfOthers sync.rules after.ruleVersions = rowsOfOthers sync.rules db.ruleVersions ∧
      (∀ rule ∈ sync.rules, activeVersions rule.ruleKey after.ruleVersions = [rule.version]) ∧
      (∀ flushed ∈ syncFlushes sync.ids sync.activatedAt sync.rules db.ruleVersions,
        VersionsConsistent flushed) ∧
      ∀ rule ∈ sync.rules, ∃ row ∈ after.ruleVersions, IsVersionOf rule row := by
  have ran := synced
  unfold syncRules at synced
  split at synced
  · cases synced
  next table targets appended =>
    obtain rfl := Except.ok.inj synced
    obtain ⟨inserted, append_last, ⟨rows, grown, named⟩, are⟩ :=
      appendVersions_appends consistent appended
    obtain ⟨final, flushes, last, parts, untouched, requested⟩ :=
      activate_targets inserted are sync.distinct sync.activatedAt
    have statements : syncFlushes sync.ids sync.activatedAt sync.rules db.ruleVersions =
        appendFlushes sync.ids sync.activatedAt sync.rules db.ruleVersions ++
          activateFlushes sync.activatedAt targets table := by
      rw [syncFlushes, appended]
    refine ⟨final, ?_, ?_, ?_, requested, ?_, ?_⟩
    · rw [RuleSync.run, ran, foldl_flush, statements, getLastD_append, append_last, last]
      rfl
    · rw [parts, grown, List.map_append]
      exact List.prefix_append _ _
    · rw [untouched, grown, rowsOfOthers_append named]
    · rw [statements]
      intro flushed member
      rcases List.mem_append.mp member with early | late
      · exact consistent_appendFlushes consistent flushed early
      · exact flushes flushed late
    · exact (are.of_storedPart parts).exists_row

/-- **A conflict is rolled back**, whatever was inserted before it. -/
theorem run_of_conflict
    (conflict : syncRules sync.ids sync.activatedAt db sync.rules = .error error) :
    sync.run db = (⟨db, db⟩, some error) := by
  rw [RuleSync.run, conflict, foldl_flush]
  rfl

/-- The statements before a conflict meet the constraints as well. -/
theorem consistent_syncFlushes (consistent : VersionsConsistent db.ruleVersions) :
    ∀ flushed ∈ syncFlushes sync.ids sync.activatedAt sync.rules db.ruleVersions,
      VersionsConsistent flushed := by
  cases synced : syncRules sync.ids sync.activatedAt db sync.rules with
  | ok after => exact (syncRules_spec consistent synced).2.2.2.2.2.1
  | error error =>
      have statements : syncFlushes sync.ids sync.activatedAt sync.rules db.ruleVersions =
          appendFlushes sync.ids sync.activatedAt sync.rules db.ruleVersions := by
        rw [syncFlushes]
        cases appended : appendVersions sync.ids sync.activatedAt sync.rules db.ruleVersions with
        | error _ => exact List.append_nil _
        | ok served =>
            rw [syncRules, appended] at synced
            cases synced
      rw [statements]
      exact consistent_appendFlushes consistent

/-- **Repeating a synchronisation changes nothing.** -/
theorem run_again (consistent : VersionsConsistent db.ruleVersions)
    (present : ∀ rule ∈ sync.rules, ∃ row ∈ db.ruleVersions, IsVersionOf rule row)
    (requested : ∀ rule ∈ sync.rules, activeVersions rule.ruleKey db.ruleVersions = [rule.version]) :
    sync.run db = (⟨db, db⟩, none) := by
  obtain ⟨targets, served, are⟩ := @appendVersions_of_present sync.ids sync.activatedAt sync.rules
    db.ruleVersions consistent.keyVersions present
  have same := foldl_activate_of_active consistent (are.active consistent requested)
    sync.activatedAt
  have synced : syncRules sync.ids sync.activatedAt db sync.rules = .ok db := by
    rw [syncRules, served]
    dsimp only
    rw [same]
  exact (syncRules_spec consistent synced).2.1

/-- **One synchronisation keeps the constraints and the stored definitions.** -/
theorem RuleSync.run_keeps (consistent : VersionsConsistent db.ruleVersions) (sync : RuleSync) :
    VersionsConsistent (sync.run db).1.committed.ruleVersions ∧
      db.ruleVersions.map storedPart <+:
        (sync.run db).1.committed.ruleVersions.map storedPart := by
  cases synced : syncRules sync.ids sync.activatedAt db sync.rules with
  | ok after =>
      obtain ⟨final, ran, grown, _⟩ := syncRules_spec consistent synced
      rw [ran]
      exact ⟨final, grown⟩
  | error error =>
      rw [run_of_conflict synced]
      exact ⟨consistent, List.prefix_rfl⟩

/-- **Any sequence of synchronisations keeps them.** -/
theorem syncAll_keeps (consistent : VersionsConsistent db.ruleVersions) (syncs : List RuleSync) :
    VersionsConsistent (syncAll db syncs).ruleVersions ∧
      db.ruleVersions.map storedPart <+: (syncAll db syncs).ruleVersions.map storedPart := by
  induction syncs generalizing db with
  | nil => exact ⟨consistent, List.prefix_rfl⟩
  | cons sync rest ih =>
      obtain ⟨first, grown⟩ := sync.run_keeps consistent
      obtain ⟨final, grown_more⟩ := ih first
      exact ⟨final, grown.trans grown_more⟩

/-- **Rule versions are consistent over every sequence of synchronisations.** -/
theorem sync_rules_consistent (consistent : VersionsConsistent db.ruleVersions)
    (syncs : List RuleSync) :
    (∀ ruleKey, (activeVersions ruleKey (syncAll db syncs).ruleVersions).length ≤ 1) ∧
    (∀ earlier later, syncs = earlier ++ later →
      ∀ row ∈ (syncAll db earlier).ruleVersions,
        (∃ kept ∈ (syncAll db syncs).ruleVersions, storedPart kept = storedPart row) ∧
        ∀ kept ∈ (syncAll db syncs).ruleVersions, kept.ruleKey = row.ruleKey →
          kept.version = row.version → storedPart kept = storedPart row) ∧
    ∀ (sync : RuleSync) (session : RuleSession),
      (sync.run (syncAll db syncs) = (session, none) →
        (∀ rule ∈ sync.rules,
          activeVersions rule.ruleKey session.committed.ruleVersions = [rule.version]) ∧
        rowsOfOthers sync.rules session.committed.ruleVersions =
          rowsOfOthers sync.rules (syncAll db syncs).ruleVersions ∧
        ∀ again : RuleSync, again.rules = sync.rules →
          again.run session.committed = (⟨session.committed, session.committed⟩, none)) ∧
      (∀ error, sync.run (syncAll db syncs) = (session, some error) →
        session = ⟨syncAll db syncs, syncAll db syncs⟩) ∧
      ∀ flushed ∈ syncFlushes sync.ids sync.activatedAt sync.rules (syncAll db syncs).ruleVersions,
        VersionsConsistent flushed := by
  obtain ⟨now_consistent, _⟩ := syncAll_keeps consistent syncs
  refine ⟨length_activeVersions_le now_consistent, ?_, fun sync session => ⟨?_, ?_, ?_⟩⟩
  · rintro earlier later rfl row member
    have split : syncAll db (earlier ++ later) = syncAll (syncAll db earlier) later :=
      List.foldl_append
    obtain ⟨earlier_consistent, _⟩ := syncAll_keeps consistent earlier
    have grown := (syncAll_keeps earlier_consistent later).2
    rw [← split] at grown
    obtain ⟨kept, kept_in, same⟩ := List.mem_map.mp (grown.subset (List.mem_map_of_mem member))
    refine ⟨⟨kept, kept_in, same⟩, fun other other_in keys versions => ?_⟩
    have columns := DetectionRuleVersion.mk.inj same
    have equal := now_consistent.eq_of_version other_in kept_in
      (keys.trans columns.2.1.symm) (versions.trans columns.2.2.1.symm)
    rw [equal, same]
  · intro ran
    cases synced : syncRules sync.ids sync.activatedAt (syncAll db syncs) sync.rules with
    | error error =>
        rw [run_of_conflict synced] at ran
        cases ran
    | ok after =>
        obtain ⟨final, served, _, untouched, requested, _, present⟩ :=
          syncRules_spec now_consistent synced
        obtain ⟨rfl, _⟩ := Prod.mk.inj (served.symm.trans ran)
        refine ⟨requested, untouched, fun again same => run_again final ?_ ?_⟩
        · rw [same]
          exact present
        · rw [same]
          exact requested
  · intro error ran
    cases synced : syncRules sync.ids sync.activatedAt (syncAll db syncs) sync.rules with
    | error error =>
        rw [run_of_conflict synced] at ran
        exact (Prod.mk.inj ran).1.symm
    | ok after =>
        rw [(syncRules_spec now_consistent synced).2.1] at ran
        cases ran
  · exact consistent_syncFlushes now_consistent

end Synchronisations

theorem VersionsConsistent.nil : VersionsConsistent [] :=
  ⟨.nil, .nil, .nil, .nil, by simp, by simp⟩

theorem nodup_sampleKey : ([sshBruteforceByIp].map RuleDefinition.ruleKey).Nodup :=
  List.nodup_singleton _

/-- The first synchronisation of an installation. -/
def firstSync : RuleSync := ⟨fun _ => 100, 0, [sshBruteforceByIp], nodup_sampleKey⟩

/-- It makes the version of its rule active, and the second time changes
nothing. -/
theorem sync_rules_consistent_first :
    activeVersions "ssh_bruteforce_by_ip" (firstSync.run .empty).1.committed.ruleVersions = [2] ∧
      firstSync.run (firstSync.run .empty).1.committed =
        (⟨(firstSync.run .empty).1.committed, (firstSync.run .empty).1.committed⟩, none) := by
  have ran : firstSync.run (syncAll .empty []) = ((firstSync.run .empty).1, none) :=
    Prod.ext rfl (by decide +kernel)
  have spec := ((@sync_rules_consistent .empty .nil []).2.2 firstSync _).1 ran
  exact ⟨spec.1 sshBruteforceByIp (List.mem_singleton_self _), spec.2.2 firstSync rfl⟩

end WolandGuard.Detection
