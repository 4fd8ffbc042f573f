import WolandGuard.Data.Sha256
import WolandGuard.Incidents.Database

/-!
# Rule synchronisation

`sync_rules`: append the versions that are missing, then make the requested
versions the active ones of their keys. A stored definition is never rewritten.
-/

set_option autoImplicit false

namespace WolandGuard.Detection

open Foundations JsonValue

/-! ## Canonical rules -/

def textList (texts : List String) : JsonValue := .arr (texts.map .str)

def pathList (paths : List FieldPath) : JsonValue := textList (paths.map FieldPath.text)

def FieldMatcher.toJson (matcher : FieldMatcher) : JsonValue :=
  .obj [("equals", matcher.equals.getD .null), ("one_of", matcher.oneOf.elim .null .arr)]

/-- The members that every event condition has. -/
def EventCondition.members (condition : EventCondition) : List (String × JsonValue) :=
  [("event_type", .str condition.eventType.value),
    ("filters", .obj (condition.filters.map fun (path, matcher) => (path.text, matcher.toJson)))]

def Condition.toJson : Condition → JsonValue
  | .single condition => .obj (condition.members ++ [("type", .str "single")])
  | .threshold condition =>
      .obj (condition.members ++ [
        ("type", .str "threshold"),
        ("threshold", .int condition.threshold),
        ("window_seconds", .int condition.windowSeconds),
        ("group_by", pathList condition.groupBy)])
  | .distinctCount condition =>
      .obj (condition.members ++ [
        ("type", .str "distinct_count"),
        ("distinct_field", .str condition.distinctField.text),
        ("distinct_threshold", .int condition.distinctThreshold),
        ("minimum_events", .int condition.minimumEvents),
        ("window_seconds", .int condition.windowSeconds),
        ("group_by", pathList condition.groupBy)])
  | .sequence condition =>
      .obj [
        ("type", .str "sequence"),
        ("window_seconds", .int condition.windowSeconds),
        ("steps", .arr (condition.steps.map fun step =>
          .obj (step.members ++ [("repeat_at_least", .int step.repeatAtLeast)])))]
  | .firstSeen condition =>
      .obj (condition.members ++ [
        ("type", .str "first_seen"),
        ("value_field", .str condition.valueField.text),
        ("scope_fields", pathList condition.scopeFields),
        ("lookback_seconds", .int condition.lookbackSeconds),
        ("require_prior_baseline_events", .int condition.requirePriorBaselineEvents)])

/-- `canonical_rule`. -/
def canonicalRule (rule : RuleDefinition) : JsonValue :=
  .obj [
    ("schema_version", .int 1),
    ("rule_key", .str rule.ruleKey),
    ("version", .int rule.version),
    ("enabled", .bool rule.enabled),
    ("severity", .str rule.severity.value),
    ("title", .str rule.title),
    ("description", .str rule.description),
    ("explanation", .str rule.explanation),
    ("recommendation", .str rule.recommendation),
    ("title_en", ofOption rule.titleEn),
    ("description_en", ofOption rule.descriptionEn),
    ("explanation_en", ofOption rule.explanationEn),
    ("recommendation_en", ofOption rule.recommendationEn),
    ("mitre_attack_ids", textList rule.mitreAttackIds),
    ("condition", rule.condition.toJson),
    ("correlation_fields", pathList rule.correlationFields)]

/-- `rule_checksum`. -/
def ruleChecksum (rule : RuleDefinition) : String := sha256Hex (canonicalValue (canonicalRule rule))

/-! ## Synchronisation -/

inductive RuleSyncError where
  | versionConflict (ruleKey : String)
  | definitionExists (ruleKey : String)
  | integrityError
  deriving DecidableEq, Repr

/-- A new row for a rule, not active yet. -/
def ruleVersionRow (id : Uuid) (createdAt : Int) (rule : RuleDefinition) : DetectionRuleVersion where
  id := id
  ruleKey := rule.ruleKey
  version := rule.version
  enabled := rule.enabled
  severity := rule.severity
  checksum := ruleChecksum rule
  definition := rule
  isActive := false
  createdAt := createdAt
  activatedAt := none

/-- The first loop: the table with the missing versions, and the ids of the
requested rows. `ids` are the random ids of new rows. -/
def appendVersions (ids : String → Uuid) (now : Int) :
    List RuleDefinition → List DetectionRuleVersion →
      Except RuleSyncError (List DetectionRuleVersion × List Uuid)
  | [], table => .ok (table, [])
  | rule :: rest, table =>
      match table.find? fun stored =>
        stored.ruleKey == rule.ruleKey && stored.version == rule.version with
      | some existing =>
          if existing.checksum != ruleChecksum rule then .error (.versionConflict rule.ruleKey)
          else (appendVersions ids now rest table).map fun (after, targets) =>
            (after, existing.id :: targets)
      | none =>
          if table.any fun stored =>
              stored.ruleKey == rule.ruleKey && stored.checksum == ruleChecksum rule then
            .error (.definitionExists rule.ruleKey)
          else
            let row := ruleVersionRow (ids rule.ruleKey) now rule
            if table.any (·.id = row.id) then .error .integrityError
            else (appendVersions ids now rest (table ++ [row])).map fun (after, targets) =>
              (after, row.id :: targets)

/-- The second loop, for one target: it becomes the active version of its
key. -/
def activate (activatedAt : Int) (table : List DetectionRuleVersion) (target : Uuid) :
    List DetectionRuleVersion :=
  match rowOf DetectionRuleVersion.id table target with
  | none => table
  | some stored =>
      let others := updateWhere (fun row =>
          row.ruleKey == stored.ruleKey && row.isActive && row.id ≠ stored.id)
        (fun row => { row with isActive := false }) table
      updateWhere (fun row => row.id = stored.id && !row.isActive)
        (fun row => { row with isActive := true, activatedAt := some activatedAt }) others

/-- `sync_rules`. -/
def syncRules (ids : String → Uuid) (activatedAt : Int) (db : Database)
    (rules : List RuleDefinition) : Except RuleSyncError Database :=
  match appendVersions ids activatedAt rules db.ruleVersions with
  | .error error => .error error
  | .ok (table, targets) =>
      .ok { db with ruleVersions := targets.foldl (activate activatedAt) table }

/-- A synchronisation writes rule versions only. -/
theorem syncRules_frame {ids : String → Uuid} {activatedAt : Int} {db after : Database}
    {rules : List RuleDefinition} (synced : syncRules ids activatedAt db rules = .ok after) :
    ∃ versions, after = { db with ruleVersions := versions } := by
  unfold syncRules at synced
  split at synced
  · cases synced
  · exact ⟨_, (Except.ok.inj synced).symm⟩

end WolandGuard.Detection
