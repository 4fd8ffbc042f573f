import WolandGuard.Data.Sha256
import WolandGuard.Incidents.Tables

/-!
# Reading fields of events

The field lookup, the filters and the field groups of
`application/detection/engine.py`. All of them read the normalized event
alone, so two stored copies of one event under different ids are alike to
them.
-/

set_option autoImplicit false

namespace WolandGuard.Detection

open JsonValue

/-- The value of a key of an object. -/
def member? (key : String) : JsonValue → Option JsonValue
  | .obj members => members.lookup key
  | _ => none

/-- A JSON null, which the engine reads as a missing value. -/
def isNull : JsonValue → Bool
  | .null => true
  | _ => false

/-- Where a path starts: the payload, or its `attributes` when only these have
the first part. -/
def lookupRoot (payload : JsonValue) (path : FieldPath) : JsonValue :=
  match payload, path with
  | .obj members, first :: _ =>
      if (members.lookup first).isSome then payload
      else
        match members.lookup "attributes" with
        | some (.obj attributes) =>
            if (attributes.lookup first).isSome then .obj attributes else payload
        | _ => payload
  | _, _ => payload

/-- `_field_value`, where `none` is `_MISSING`. -/
def fieldValue (event : NormalizedEventV1) (path : FieldPath) : Option JsonValue :=
  let found := path.foldlM (fun current part => member? part current)
    (lookupRoot event.payload path)
  found.filter (!isNull ·)

/-- A filter accepts a value. -/
def FieldMatcher.accepts (matcher : FieldMatcher) (value : JsonValue) : Bool :=
  matcher.equals.all (value.pyEq ·) && matcher.oneOf.all fun allowed => allowed.any (value.pyEq ·)

/-- `_matches_event`. -/
def matchesEvent (event : NormalizedEventV1) (condition : EventCondition) : Bool :=
  event.eventType == condition.eventType.value &&
    condition.filters.all fun (path, matcher) => (fieldValue event path).any matcher.accepts

/-- `_field_group`. -/
def fieldGroup (event : NormalizedEventV1) (fields : List FieldPath) : Option (List String) :=
  fields.mapM fun path => (fieldValue event path).map canonicalValue

/-- `_correlation`. -/
def correlationOf (rule : RuleDefinition) (trigger : NormalizedEventV1) : Option Correlation :=
  rule.correlationFields.mapM fun path => (fieldValue trigger path).map (path, ·)

/-- The JSON object that a correlation is stored as. -/
def Correlation.toJson (correlation : Correlation) : JsonValue :=
  .obj (correlation.map fun (path, value) => (path.text, value))

/-- `_correlation_hash`. -/
def correlationHash (correlation : Correlation) : String :=
  sha256Hex (canonicalValue (Correlation.toJson correlation))

/-- The event type and filters that a trigger has to match: those of the last
step of a sequence. -/
def triggerCondition : Condition → EventCondition
  | .single condition => condition
  | .threshold condition => condition.toEventCondition
  | .distinctCount condition => condition.toEventCondition
  | .sequence condition => condition.lastStep.toEventCondition
  | .firstSeen condition => condition.toEventCondition

/-- `_can_trigger`. -/
def canTrigger (rule : RuleDefinition) (trigger : NormalizedEventV1) : Bool :=
  matchesEvent trigger (triggerCondition rule.condition)

end WolandGuard.Detection
