import WolandGuard.Data.Sha1
import WolandGuard.Incidents.Workflow

/-!
# Records and events

`normalize_record`: a record of a source becomes an event, or is ignored. The id
of the event is a name-based UUID of the cursor of the record, whatever the
fields say. The parsers of access-log requests and of log messages are
parameters here; the one of file-integrity records is the one of the source.
-/

set_option autoImplicit false

namespace WolandGuard.Agent

open Incidents

/-! ## Characters -/

/-- The tables of `unicodedata`, which agree with ASCII on its characters. -/
structure UnicodeTables extends UnicodeData where
  category_ascii (c : Char) : c.toNat < 128 →
    toUnicodeData.category c = UnicodeData.ascii.category c

/-- The tables on ASCII. -/
def UnicodeTables.ascii : UnicodeTables := ⟨.ascii, fun _ _ => rfl⟩

namespace UnicodeTables

variable (unicode : UnicodeTables)

/-- `str.isprintable`: no character of the categories "Other" and "Separator"
but the space. -/
def isPrintable (text : String) : Bool :=
  text.toList.all fun c =>
    c = ' ' || !(["Cc", "Cf", "Cs", "Co", "Cn", "Zl", "Zp", "Zs"].contains (unicode.category c))

/-- `str.isalnum`. -/
def isAlnum (text : List Char) : Bool :=
  !text.isEmpty && text.all fun c =>
    ["Lu", "Ll", "Lt", "Lm", "Lo", "Nd", "Nl", "No"].contains (unicode.category c)

/-- `str.isdecimal`. -/
def isDecimal (text : String) : Bool :=
  !text.isEmpty && text.toList.all fun c => (unicode.decimal c).isSome

/-- `int` of a decimal text. -/
def decimalValue (text : String) : Nat :=
  text.toList.foldl (fun value c => 10 * value + (unicode.decimal c).getD 0) 0

end UnicodeTables

/-! ## Records -/

abbrev Fields := List (String × JsonValue)

/-- `fields.get(name)`. -/
def Fields.get (fields : Fields) (name : String) : Option JsonValue :=
  (fields.find? (·.1 = name)).map (·.2)

/-- A raw record and the cursor to resume after it. -/
structure JournalRecord where
  cursor : String
  fields : Fields

structure ParsedSecurityEvent where
  eventType : String
  summary : String
  actor : Option String
  sourceIp : Option String
  attributes : List (String × JsonValue)

/-- The parsers that are not embedded, and `datetime.fromtimestamp` of a number
of microseconds, which is `none` where it raises. -/
structure Parsers where
  nginxRequest : Fields → Option ParsedSecurityEvent
  message : Fields → Option ParsedSecurityEvent
  fromTimestamp : Nat → Option Int

inductive NormalizationError where
  /-- `change not in _FILE_CHANGES` of a list or a dictionary. -/
  | unhashable
  /-- The contract refuses the event. -/
  | validationError
  deriving DecidableEq, Repr

/-! ## File-integrity records -/

def fileChanges : List String := ["content", "permissions", "metadata", "appeared", "disappeared"]

def fileMonitoring : List String := ["content", "metadata"]

/-- `value in names` for a set of names. -/
def amongNames (names : List String) : Option JsonValue → Except NormalizationError Bool
  | some (.str text) => .ok (names.contains text)
  | some (.arr _) | some (.obj _) => .error .unhashable
  | _ => .ok false

/-- `_parse_file_integrity`. -/
def parseFileIntegrity (unicode : UnicodeTables) (fields : Fields) :
    Except NormalizationError (Option ParsedSecurityEvent) :=
  match fields.get "FILE_INTEGRITY_PATH" with
  | some (.str path) =>
      let change := fields.get "FILE_INTEGRITY_CHANGE"
      let monitoring := fields.get "FILE_INTEGRITY_MONITORING"
      if path.toList.contains '\x00' || !unicode.isPrintable path then .ok none
      else do
        if !(← amongNames fileChanges change) then return none
        if !(← amongNames fileMonitoring monitoring) then return none
        return some
          { eventType := "linux.file.changed"
            summary := "Watched system file changed"
            actor := none
            sourceIp := none
            attributes :=
              [("path", .str path), ("change", change.getD .null),
                ("monitoring", monitoring.getD .null)] }
  | _ => .ok none

/-- `_parse_supported_message`. -/
def parseSupportedMessage (parsers : Parsers) (unicode : UnicodeTables) (fields : Fields) :
    Except NormalizationError (Option ParsedSecurityEvent) :=
  if (fields.get "NGINX_STATUS").isSome then .ok (parsers.nginxRequest fields)
  else if (fields.get "FILE_INTEGRITY_PATH").isSome then parseFileIntegrity unicode fields
  else .ok (parsers.message fields)

/-! ## Events -/

/-- `EVENT_ID_NAMESPACE`. -/
def eventIdNamespace : Uuid := 0xf7d85d381e7c4ea48c6833a388f70c2a

/-- The id of the event of a record. -/
def eventIdOf (cursor : String) : Uuid := uuid5 eventIdNamespace cursor

/-- `_occurred_at`. -/
def occurredAt (parsers : Parsers) (unicode : UnicodeTables) (fields : Fields) (fallback : Int) :
    Int :=
  match fields.get "__REALTIME_TIMESTAMP" with
  | some (.str raw) =>
      -- `int` refuses more than 4300 digits
      if unicode.isDecimal raw && raw.length ≤ 4300 then
        (parsers.fromTimestamp (unicode.decimalValue raw)).getD fallback
      else fallback
  | some (.int raw) => if 0 ≤ raw then (parsers.fromTimestamp raw.toNat).getD fallback else fallback
  | some (.bool raw) => (parsers.fromTimestamp raw.toNat).getD fallback
  | _ => fallback

def sourceValue : EventSource → String
  | .journald => "journald"
  | .syslogFile => "syslog_file"
  | .nginxAccess => "nginx_access"
  | .fileIntegrity => "file_integrity"

/-- `^[a-z0-9]+(?:[._-][a-z0-9]+)*$`. -/
def isEventType (text : String) : Bool :=
  (text.toList.splitOnP fun c => c = '.' || c = '_' || c = '-').all fun piece =>
    !piece.isEmpty && piece.all fun c => c.isLower || c.isDigit

def hasNul (text : String) : Bool := text.toList.contains '\x00'

mutual

/-- `_reject_nul`. -/
def rejectsNul : JsonValue → Bool
  | .str text => hasNul text
  | .arr items => rejectsNulItems items
  | .obj members => rejectsNulMembers members
  | _ => false

def rejectsNulItems : List JsonValue → Bool
  | [] => false
  | item :: rest => rejectsNul item || rejectsNulItems rest

def rejectsNulMembers : List (String × JsonValue) → Bool
  | [] => false
  | (key, value) :: rest => hasNul key || rejectsNul value || rejectsNulMembers rest

end

/-- The checks of the contract on what a parser returned. -/
def ParsedSecurityEvent.validates (parsed : ParsedSecurityEvent) : Bool :=
  isEventType parsed.eventType && parsed.eventType.length ≤ 100 &&
    (parsed.actor.all fun actor => actor.length ≤ 255 && !hasNul actor) &&
    (parsed.summary.length ≤ 1000 && !hasNul parsed.summary) &&
    !rejectsNul (.obj parsed.attributes)

/-- An instant as the contract writes it. -/
def instantText (instant : Int) : String :=
  let text := isoformat instant
  String.ofList (text.toList.take (text.length - 6)) ++ "Z"

/-- The event of a parsed record. -/
def eventOf (source : EventSource) (cursor : String) (occurred collected : Int)
    (parsed : ParsedSecurityEvent) : NormalizedEventV1 where
  eventId := eventIdOf cursor
  schemaVersion := 1
  source := source
  eventType := parsed.eventType
  occurredAt := occurred
  collectedAt := collected
  payload := .obj
    [("schema_version", .int 1), ("event_id", .str (Uuid.text (eventIdOf cursor))),
      ("occurred_at", .str (instantText occurred)), ("collected_at", .str (instantText collected)),
      ("source", .str (sourceValue source)), ("event_type", .str parsed.eventType),
      ("actor", .ofOption parsed.actor), ("source_ip", .ofOption parsed.sourceIp),
      ("summary", .str parsed.summary), ("attributes", .obj parsed.attributes)]

/-- `normalize_record` at the time `collectedAt`. -/
def normalizeRecord (parsers : Parsers) (unicode : UnicodeTables) (source : EventSource)
    (collectedAt : Int) (record : JournalRecord) :
    Except NormalizationError (Option NormalizedEventV1) :=
  match parseSupportedMessage parsers unicode record.fields with
  | .error failure => .error failure
  | .ok none => .ok none
  | .ok (some parsed) =>
      let occurred := occurredAt parsers unicode record.fields collectedAt
      let collected := if collectedAt < occurred then occurred else collectedAt
      if parsed.validates then .ok (some (eventOf source record.cursor occurred collected parsed))
      else .error .validationError

/-- Whether a record has an event does not depend on the clock. -/
theorem normalizeRecord_later {parsers : Parsers} {unicode : UnicodeTables}
    {source : EventSource} {collectedAt : Int} {record : JournalRecord} {event : NormalizedEventV1}
    (normalized : normalizeRecord parsers unicode source collectedAt record = .ok (some event))
    (later : Int) :
    ∃ again, normalizeRecord parsers unicode source later record = .ok (some again) := by
  unfold normalizeRecord at normalized ⊢
  split at normalized
  · cases normalized
  · cases normalized
  next parsed found =>
    split at normalized
    next valid =>
      dsimp only
      exact ⟨_, if_pos valid⟩
    · cases normalized

/-- **The cursor of a record determines the id of its event.** -/
theorem eventId_of_normalizeRecord {parsers : Parsers} {unicode : UnicodeTables}
    {source : EventSource} {collectedAt : Int} {record : JournalRecord} {event : NormalizedEventV1}
    (normalized : normalizeRecord parsers unicode source collectedAt record = .ok (some event)) :
    event.eventId = eventIdOf record.cursor := by
  unfold normalizeRecord at normalized
  split at normalized
  · cases normalized
  · cases normalized
  · split at normalized
    · cases normalized
      rfl
    · cases normalized

end WolandGuard.Agent
