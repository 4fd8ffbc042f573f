import WolandGuard.Agent.Normalization
import WolandGuard.Data.IsoFormat
import WolandGuard.Data.JsonCompact
import WolandGuard.IpBlocks.AddressText
import WolandGuard.Telegram.CallbackCodec

/-!
# The event contract

The fields of `NormalizedEventV1`, its validators and the reading of a JSON document
that has the members of an event. An event that is valid is read back from such a
document (`readEvent_of_loads`). Of the other texts that `model_validate_json` reads, none
is written by the agent.
-/

set_option autoImplicit false

namespace WolandGuard.Agent

open Incidents IpBlocks

/-! ## Fields -/

/-- The fields of `NormalizedEventV1` without the version. -/
structure EventFields where
  eventId : Uuid
  occurredAt : Int
  collectedAt : Int
  source : EventSource
  eventType : String
  actor : Option String
  sourceIp : Option IpAddress
  summary : Option String
  attributes : List (String × JsonValue)

namespace EventFields

/-- The length of a text field, and `text_fields_do_not_contain_nul`. -/
def textPasses (most : Nat) (text : String) : Bool := text.length ≤ most && !hasNul text

/-- The validators. -/
def validates (event : EventFields) : Bool :=
  isEventType event.eventType && event.eventType.length ≤ 100 &&
    event.actor.all (textPasses 255) && event.summary.all (textPasses 1000) &&
    !rejectsNul (.obj event.attributes) && event.occurredAt ≤ event.collectedAt

/-- An event that the contract accepts: its instants are those of a `datetime`, its address
is one that `ip_address` makes, its attributes are those of a dictionary, and the
validators pass. -/
structure Valid (event : EventFields) : Prop where
  occurredAt : IsDatetime event.occurredAt
  collectedAt : IsDatetime event.collectedAt
  sourceIp : ∀ address ∈ event.sourceIp, address.Scoped
  attributes : (JsonValue.obj event.attributes).WellFormed
  validates : event.validates = true

/-- `model_dump(mode="json")`. -/
def members (event : EventFields) : List (String × JsonValue) :=
  [("schema_version", .int 1), ("event_id", .str (Uuid.text event.eventId)),
    ("occurred_at", .str (instantText event.occurredAt)),
    ("collected_at", .str (instantText event.collectedAt)),
    ("source", .str (sourceValue event.source)), ("event_type", .str event.eventType),
    ("actor", .ofOption event.actor), ("source_ip", .ofOption (event.sourceIp.map IpAddress.text)),
    ("summary", .ofOption event.summary), ("attributes", .obj event.attributes)]

/-- The event as the spool and the control plane keep it. -/
def normalized (event : EventFields) : NormalizedEventV1 where
  eventId := event.eventId
  schemaVersion := 1
  source := event.source
  eventType := event.eventType
  occurredAt := event.occurredAt
  collectedAt := event.collectedAt
  payload := .obj event.members

end EventFields

/-! ## Reading -/

/-- The value of a text field. -/
def textOf : Option JsonValue → Option String
  | some (.str text) => some text
  | _ => none

/-- The value of a text field that may be `null`. -/
def optionalTextOf : Option JsonValue → Option (Option String)
  | some (.str text) => some (some text)
  | some .null => some none
  | _ => none

def objectOf : Option JsonValue → Option (List (String × JsonValue))
  | some (.obj members) => some members
  | _ => none

/-- An instant with the letter of UTC. -/
def readInstant (text : String) : Option Int :=
  if text.toList.getLast? = some 'Z' then
    fromisoformat (text.toList.dropLast ++ "+00:00".toList)
  else none

/-- `EventSource(text)`. -/
def readSource (text : String) : Option EventSource :=
  [EventSource.journald, .syslogFile, .nginxAccess, .fileIntegrity].find? (sourceValue · = text)

/-- An address or `null`. -/
def readSourceIp : Option String → Option (Option IpAddress)
  | none => some none
  | some text => (parseAddress text).map some

/-- The names of all fields. -/
def fieldNames : List String :=
  ["schema_version", "event_id", "occurred_at", "collected_at", "source", "event_type", "actor",
    "source_ip", "summary", "attributes"]

/-- `schema_version: Literal[1]`. -/
def isVersionOne : Option JsonValue → Bool
  | some (.int version) => version = 1
  | _ => false

/-- The event of a document in which every field is given. -/
def readMembers (members : List (String × JsonValue)) : Option EventFields := do
  guard (members.all (fieldNames.contains ·.1))
  guard (isVersionOne (members.lookup "schema_version"))
  let eventId ← Telegram.parseCanonicalUuid (← textOf (members.lookup "event_id"))
  let occurredAt ← readInstant (← textOf (members.lookup "occurred_at"))
  let collectedAt ← readInstant (← textOf (members.lookup "collected_at"))
  let source ← readSource (← textOf (members.lookup "source"))
  let eventType ← textOf (members.lookup "event_type")
  let actor ← optionalTextOf (members.lookup "actor")
  let sourceIp ← readSourceIp (← optionalTextOf (members.lookup "source_ip"))
  let summary ← optionalTextOf (members.lookup "summary")
  let attributes ← objectOf (members.lookup "attributes")
  let event : EventFields :=
    ⟨eventId, occurredAt, collectedAt, source, eventType, actor, sourceIp, summary, attributes⟩
  if event.validates then some event else none

/-- `model_validate_json` of a document with all members of an event. -/
def readEvent (text : String) : Option EventFields :=
  (objectOf (JsonValue.loads text.toList)).bind readMembers

/-! ## Each field is read back -/

section Fields

variable {event : EventFields}

theorem readInstant_instantText {instant : Int} (holds : IsDatetime instant) :
    readInstant (instantText instant) = some instant := by
  have whole := isoformat_toList instant
  have length : (isoformat instant).length - 6 = (localText instant).length := by
    rw [← String.length_toList, whole, List.length_append]
    exact Nat.add_sub_cancel (localText instant).length 6
  have text : (instantText instant).toList = localText instant ++ ['Z'] := by
    rw [instantText, String.toList_append, String.toList_ofList, length, whole, List.take_left]
    rfl
  rw [readInstant, text, List.getLast?_concat, if_pos rfl, List.dropLast_concat, ← whole]
  exact fromisoformat_isoformat holds

theorem readSource_sourceValue (source : EventSource) :
    readSource (sourceValue source) = some source := by
  cases source with
  | journald => decide
  | syslogFile => decide
  | nginxAccess => decide
  | fileIntegrity => decide

theorem optionalTextOf_ofOption (text : Option String) :
    optionalTextOf (some (.ofOption text)) = some text := by
  cases text with
  | none => rfl
  | some text => rfl

theorem readSourceIp_text {sourceIp : Option IpAddress}
    (scopes : ∀ address ∈ sourceIp, address.Scoped) :
    readSourceIp (sourceIp.map IpAddress.text) = some sourceIp := by
  cases sourceIp with
  | none => rfl
  | some address =>
      rw [Option.map_some, readSourceIp, parseAddress_text_of_scoped (scopes address rfl)]
      rfl

theorem wellFormed_ofOption (text : Option String) : (JsonValue.ofOption text).WellFormed := by
  cases text with
  | none => trivial
  | some text => trivial

theorem wellFormed_members (valid : event.Valid) : (JsonValue.obj event.members).WellFormed := by
  refine ⟨show fieldNames.Nodup by decide, ?_⟩
  exact ⟨trivial, trivial, trivial, trivial, trivial, trivial, wellFormed_ofOption _,
    wellFormed_ofOption _, wellFormed_ofOption _, valid.attributes, trivial⟩

/-- Reading the members of a valid event gives the event. -/
theorem readMembers_members (valid : event.Valid) : readMembers event.members = some event := by
  have known : (event.members.all (fieldNames.contains ·.1)) = true :=
    show fieldNames.all fieldNames.contains = true by decide
  have version : isVersionOne (event.members.lookup "schema_version") = true := rfl
  have identified : Telegram.parseCanonicalUuid (Uuid.text event.eventId) = some event.eventId :=
    Telegram.parseCanonicalUuid_text event.eventId
  have eventId : textOf (event.members.lookup "event_id") = some (Uuid.text event.eventId) := rfl
  have occurredAt : textOf (event.members.lookup "occurred_at") =
      some (instantText event.occurredAt) := rfl
  have collectedAt : textOf (event.members.lookup "collected_at") =
      some (instantText event.collectedAt) := rfl
  have source : textOf (event.members.lookup "source") = some (sourceValue event.source) := rfl
  have eventType : textOf (event.members.lookup "event_type") = some event.eventType := rfl
  have actor : optionalTextOf (event.members.lookup "actor") = some event.actor :=
    optionalTextOf_ofOption event.actor
  have sourceIp : optionalTextOf (event.members.lookup "source_ip") =
      some (event.sourceIp.map IpAddress.text) := optionalTextOf_ofOption _
  have summary : optionalTextOf (event.members.lookup "summary") = some event.summary :=
    optionalTextOf_ofOption event.summary
  have attributes : objectOf (event.members.lookup "attributes") = some event.attributes := rfl
  rw [readMembers, known, version, eventId, occurredAt, collectedAt, source, eventType, actor,
    sourceIp, summary, attributes]
  simp only [guard, if_true, Option.bind_eq_bind, Option.bind_some, Option.pure_def, identified,
    readInstant_instantText valid.occurredAt, readInstant_instantText valid.collectedAt,
    readSource_sourceValue, readSourceIp_text valid.sourceIp, valid.validates]

/-- **A valid event is read back from every document of its members.** -/
theorem readEvent_of_loads (valid : event.Valid) {text : String}
    (document : JsonValue.loads text.toList = some (.obj event.members)) :
    readEvent text = some event := by
  rw [readEvent, document, objectOf, Option.bind_some]
  exact readMembers_members valid

end Fields

/-! ## Events of parsed records -/

/-- The fields of the event of a parsed record whose address is `sourceIp`. -/
def fieldsOf (source : EventSource) (cursor : String) (occurred collected : Int)
    (parsed : ParsedSecurityEvent) (sourceIp : Option IpAddress) : EventFields where
  eventId := eventIdOf cursor
  occurredAt := occurred
  collectedAt := collected
  source := source
  eventType := parsed.eventType
  actor := parsed.actor
  sourceIp := sourceIp
  summary := some parsed.summary
  attributes := parsed.attributes

theorem normalized_fieldsOf {source : EventSource} {cursor : String} {occurred collected : Int}
    {parsed : ParsedSecurityEvent} {sourceIp : Option IpAddress}
    (address : parsed.sourceIp = sourceIp.map IpAddress.text) :
    (fieldsOf source cursor occurred collected parsed sourceIp).normalized =
      eventOf source cursor occurred collected parsed := by
  rw [EventFields.normalized, eventOf, address]
  rfl

theorem validates_fieldsOf {source : EventSource} {cursor : String} {occurred collected : Int}
    {parsed : ParsedSecurityEvent} {sourceIp : Option IpAddress}
    (passes : parsed.validates = true) (inOrder : occurred ≤ collected) :
    (fieldsOf source cursor occurred collected parsed sourceIp).validates = true := by
  simp only [ParsedSecurityEvent.validates, Bool.and_eq_true] at passes
  obtain ⟨⟨⟨⟨kind, short⟩, actor⟩, summary⟩, clean⟩ := passes
  simp only [EventFields.validates, fieldsOf, Bool.and_eq_true]
  refine ⟨⟨⟨⟨⟨kind, short⟩, actor⟩, ?_⟩, clean⟩, decide_eq_true inOrder⟩
  rw [Option.all_some, EventFields.textPasses, Bool.and_eq_true]
  exact summary

end WolandGuard.Agent
