import WolandGuard.Data.Json

/-!
# Detection rules

The rule definitions of `application/detection/rules.py`. The bounds that the
Pydantic models check are fields here, so a definition that exists is one that
validates: windows, thresholds and repeat counts are positive, a matcher has
exactly one of its two forms, and the field lists are non-empty and without
repetition.

A field path such as `attributes.group` is kept as the list of its parts.
-/

set_option autoImplicit false

namespace WolandGuard.Detection

/-- The severities, in the order of `_SEVERITY_RANK`. -/
inductive Severity where
  | low
  | medium
  | high
  | critical
  deriving DecidableEq, Repr

def Severity.value : Severity → String
  | .low => "low"
  | .medium => "medium"
  | .high => "high"
  | .critical => "critical"

inductive SupportedEventType where
  | sshAuthenticationFailed
  | sshLoginSucceeded
  | sudoAuthenticationFailed
  | userCreated
  | privilegedGroupChanged
  | nginxRequestFailed
  | cronJobChanged
  | systemdUnitStopped
  | fileChanged
  deriving DecidableEq, Repr

def SupportedEventType.value : SupportedEventType → String
  | .sshAuthenticationFailed => "linux.ssh.authentication_failed"
  | .sshLoginSucceeded => "linux.ssh.login_succeeded"
  | .sudoAuthenticationFailed => "linux.sudo.authentication_failed"
  | .userCreated => "linux.account.user_created"
  | .privilegedGroupChanged => "linux.account.privileged_group_changed"
  | .nginxRequestFailed => "web.nginx.request_failed"
  | .cronJobChanged => "linux.cron.job_changed"
  | .systemdUnitStopped => "linux.systemd.unit_stopped"
  | .fileChanged => "linux.file.changed"

/-- The parts of a dotted field path. -/
abbrev FieldPath := List String

/-- The path as rules and stored correlations spell it. -/
def FieldPath.text (path : FieldPath) : String := ".".intercalate path

/-- Equality with one value or membership in a list of values. A null in
`equals` is the absence of the matcher. -/
structure FieldMatcher where
  equals : Option JsonValue
  oneOf : Option (List JsonValue)
  equals_not_null : equals ≠ some .null
  exactlyOneMatcher : equals.isSome ≠ oneOf.isSome
  oneOf_nonempty : oneOf ≠ some []

structure EventCondition where
  eventType : SupportedEventType
  filters : List (FieldPath × FieldMatcher)

structure ThresholdCondition extends EventCondition where
  threshold : Nat
  windowSeconds : Nat
  groupBy : List FieldPath
  threshold_pos : 0 < threshold
  windowSeconds_pos : 0 < windowSeconds
  groupBy_nonempty : groupBy ≠ []

structure DistinctCountCondition extends EventCondition where
  distinctField : FieldPath
  distinctThreshold : Nat
  minimumEvents : Nat
  windowSeconds : Nat
  groupBy : List FieldPath
  distinctThreshold_pos : 0 < distinctThreshold
  minimumEvents_pos : 0 < minimumEvents
  windowSeconds_pos : 0 < windowSeconds
  groupBy_nonempty : groupBy ≠ []

structure SequenceStep extends EventCondition where
  repeatAtLeast : Nat
  repeatAtLeast_pos : 0 < repeatAtLeast

structure SequenceCondition where
  windowSeconds : Nat
  steps : List SequenceStep
  windowSeconds_pos : 0 < windowSeconds
  steps_two : 2 ≤ steps.length

theorem SequenceCondition.steps_nonempty (condition : SequenceCondition) :
    condition.steps ≠ [] := by
  intro empty
  have two := condition.steps_two
  rw [empty] at two
  exact absurd two (by decide)

/-- The step that a trigger completes. -/
def SequenceCondition.lastStep (condition : SequenceCondition) : SequenceStep :=
  condition.steps.getLast condition.steps_nonempty

structure FirstSeenCondition extends EventCondition where
  valueField : FieldPath
  scopeFields : List FieldPath
  lookbackSeconds : Nat
  requirePriorBaselineEvents : Nat
  scopeFields_nonempty : scopeFields ≠ []
  lookbackSeconds_pos : 0 < lookbackSeconds

inductive Condition where
  | single (condition : EventCondition)
  | threshold (condition : ThresholdCondition)
  | distinctCount (condition : DistinctCountCondition)
  | sequence (condition : SequenceCondition)
  | firstSeen (condition : FirstSeenCondition)

/-- The field lists that `field_lists_are_unique` checks beside the
correlation fields. -/
def Condition.fieldLists : Condition → List (List FieldPath)
  | .threshold condition => [condition.groupBy]
  | .distinctCount condition => [condition.groupBy]
  | .firstSeen condition => [condition.scopeFields]
  | .single _ => []
  | .sequence _ => []

/-- A condition that counts events inside a time window. -/
def Condition.isWindowed : Condition → Bool
  | .threshold _ => true
  | .distinctCount _ => true
  | .sequence _ => true
  | .single _ => false
  | .firstSeen _ => false

/-- A versioned rule definition, stored unchanged as the snapshot of its
incidents. -/
structure RuleDefinition where
  ruleKey : String
  version : Nat
  enabled : Bool
  severity : Severity
  title : String
  description : String
  explanation : String
  recommendation : String
  titleEn : Option String
  descriptionEn : Option String
  explanationEn : Option String
  recommendationEn : Option String
  mitreAttackIds : List String
  condition : Condition
  correlationFields : List FieldPath
  version_pos : 0 < version
  title_length : 1 ≤ title.length ∧ title.length ≤ 255
  titleEn_length : ∀ text ∈ titleEn, 1 ≤ text.length ∧ text.length ≤ 255
  correlationFields_nonempty : correlationFields ≠ []
  fieldListsUnique : ∀ fields ∈ correlationFields :: condition.fieldLists, fields.Nodup

/-! ## A shipped rule -/

/-- The shipped rule `ssh_bruteforce_by_ip`: eight failures from one address in
five minutes. -/
def sshBruteforceByIp : RuleDefinition where
  ruleKey := "ssh_bruteforce_by_ip"
  version := 2
  enabled := true
  severity := .high
  title := "Перебор SSH-паролей с одного IP"
  description := "Восемь неудачных SSH-аутентификаций с одного адреса за пять минут."
  explanation := "Серия неудачных входов может соответствовать подбору учётных данных."
  recommendation := "Проверьте адрес, затронутые учётные записи и настройки SSH-доступа."
  titleEn := some "SSH password brute force from one IP"
  descriptionEn := some "Eight failed SSH authentications from one address within five minutes."
  explanationEn := some "A run of failed logins is consistent with credential guessing."
  recommendationEn := some "Review the address, the affected accounts and the SSH access settings."
  mitreAttackIds := ["T1110"]
  condition := .threshold
    { eventType := .sshAuthenticationFailed
      filters := []
      threshold := 8
      windowSeconds := 300
      groupBy := [["source_ip"]]
      threshold_pos := by decide
      windowSeconds_pos := by decide
      groupBy_nonempty := by decide }
  correlationFields := [["source_ip"]]
  version_pos := by decide
  title_length := by decide
  titleEn_length := by decide
  correlationFields_nonempty := by decide
  fieldListsUnique := by decide

end WolandGuard.Detection
