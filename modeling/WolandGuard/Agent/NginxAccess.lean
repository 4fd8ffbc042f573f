import WolandGuard.Agent.SshMessages
import WolandGuard.Foundations.DeterministicRegex

/-!
# Lines of an access log

The combined format of nginx, the record of a line and the event of the record.
The query behind the first `?`, the referer, the user agent, the remote user and
the size are private to the host. The pattern finds the parts of a line in one way
(`deterministic_combined`), so the record is a function of the parts that are not
private (`accessRecord_line`), and two lines of one request yield records and
events that agree (`collection_noninterfering`).

The time of a line is a parameter: `strptime` reads the name of the month in the
locale of the process.
-/

set_option autoImplicit false

namespace WolandGuard.Agent

open Foundations IpBlocks

/-! ## The pattern -/

/-- `\S`. -/
def isSolid (c : Char) : Bool := !isRegexSpace c

/-- `_COMBINED`. -/
def combined (unicode : UnicodeTables) : Regex :=
  .all
    [.group "remote_addr" (.many isSolid 1 none), .spelled [' '],
      .many isSolid 1 none, .spelled [' '],
      .many isSolid 1 none, .spelled [' ', '['],
      .group "time_local" (.many (fun c => c ≠ ']') 1 (some 64)), .spelled [']', ' ', '"'],
      .group "method" (.many Char.isUpper 3 (some 10)), .spelled [' '],
      .group "target" (.many isSolid 1 (some 8192)), .spelled [' ', 'H', 'T', 'T', 'P', '/'],
      .group "version" (.many (fun c => isDecimalDigit unicode c || c = '.') 1 (some 8)),
      .spelled ['"', ' '],
      .group "status" (.many (isDecimalDigit unicode) 3 (some 3)), .spelled [' '],
      .group "bytes_sent" (.many (isDecimalDigit unicode) 1 (some 20)), .spelled [' ', '"'],
      .group "referer" (.many (fun c => c ≠ '"') 0 none), .spelled ['"', ' ', '"'],
      .group "user_agent" (.many (fun c => c ≠ '"') 0 none), .spelled ['"']]

/-- **The parts of a line are found in one way**: each ends at a character that it
cannot contain. -/
theorem deterministic_combined (unicode : UnicodeTables) : (combined unicode).Deterministic := by
  have no_digit : ∀ c : Char, c.toNat < 128 → c.isDigit = false → isDecimalDigit unicode c = false :=
    fun c small other => (isDecimalDigit_ascii small).trans other
  have blank : isDecimalDigit unicode ' ' = false := no_digit ' ' (by decide) (by decide)
  have quote : isDecimalDigit unicode '"' = false := no_digit '"' (by decide) (by decide)
  have version : (isDecimalDigit unicode '"' || decide ('"' = '.')) = false := by
    rw [quote]
    rfl
  have solid : isSolid ' ' = false := by decide
  refine Regex.deterministic_until trivial solid (Regex.deterministic_spelled ?_)
  refine Regex.deterministic_until trivial solid (Regex.deterministic_spelled ?_)
  refine Regex.deterministic_until trivial solid (Regex.deterministic_spelled ?_)
  refine Regex.deterministic_until trivial (by decide) (Regex.deterministic_spelled ?_)
  refine Regex.deterministic_until trivial (by decide) (Regex.deterministic_spelled ?_)
  refine Regex.deterministic_until trivial solid (Regex.deterministic_spelled ?_)
  refine Regex.deterministic_until trivial version (Regex.deterministic_spelled ?_)
  refine Regex.deterministic_until trivial blank (Regex.deterministic_spelled ?_)
  refine Regex.deterministic_until trivial blank (Regex.deterministic_spelled ?_)
  refine Regex.deterministic_until trivial (by decide) (Regex.deterministic_spelled ?_)
  refine Regex.deterministic_until trivial (by decide) (Regex.deterministic_spelled ?_)
  exact Regex.deterministic_nil

/-! ## Records -/

/-- `_METHODS`. -/
def methods : List String :=
  ["GET", "HEAD", "POST", "PUT", "PATCH", "DELETE", "OPTIONS", "TRACE", "CONNECT"]

/-- `MAX_PATH_CHARS`. -/
def maxPathChars : Nat := 256

/-- `REDACTED_PATH`. -/
def redactedPath : String := "<unprintable>"

/-- `TRUNCATED_SUFFIX`. -/
def truncatedSuffix : String := "..."

/-- `safe_path`. -/
def safePath (unicode : UnicodeTables) (target : List Char) : String :=
  let path := String.ofList (target.takeWhile (· ≠ '?'))
  if !unicode.isPrintable path || !(path.toList.all fun c => c.toNat < 128) then redactedPath
  else if maxPathChars < path.length then
    String.ofList (path.toList.take (maxPathChars - truncatedSuffix.length)) ++ truncatedSuffix
  else path

section Records

variable (accessTime : List Char → Option Int) (unicode : UnicodeTables)

/-- What `_record` makes of the groups that it reads. -/
def accessFields (remoteAddr timeLocal method target status : List Char) : Option Fields :=
  if methods.contains (String.ofList method) then
    match parseAddress (String.ofList remoteAddr) with
    | none => none
    | some address =>
        let number := intOfDigits unicode status
        if 100 ≤ number ∧ number ≤ 599 then
          (accessTime timeLocal).map fun occurredAt =>
            [("NGINX_STATUS", .int number), ("NGINX_METHOD", .str (String.ofList method)),
              ("NGINX_PATH", .str (safePath unicode target)),
              ("NGINX_REMOTE_ADDR", .str address.text), ("__REALTIME_TIMESTAMP", .int occurredAt)]
        else none
  else none

/-- `_record`, where `accessTime` gives the time in microseconds, or `none` where
`strptime` raises. -/
def accessRecord (cursor : String) (text : List Char) : Option JournalRecord :=
  match (combined unicode).fullMatch text with
  | none => none
  | some matched =>
      let group (name : String) : List Char := (matched.lookup name).getD []
      (accessFields accessTime unicode (group "remote_addr") (group "time_local") (group "method")
        (group "target") (group "status")).map (⟨cursor, ·⟩)

end Records

/-! ## Events -/

/-- `isinstance(value, int)`, of which `bool` is a subclass. -/
def intOf : JsonValue → Option Int
  | .int value => some value
  | .bool value => some value.toNat
  | _ => none

/-- `_parse_nginx_request`. -/
def parseNginxRequest (fields : Fields) : Option ParsedSecurityEvent :=
  match fields.get "NGINX_STATUS", fields.get "NGINX_METHOD", fields.get "NGINX_PATH",
      fields.get "NGINX_REMOTE_ADDR" with
  | some status, some (.str method), some (.str path), some (.str address) =>
      match intOf status, validatedIp address with
      | some number, some sourceIp =>
          if number < 400 then none
          else
            some
              { eventType := "web.nginx.request_failed"
                summary := "HTTP request failed"
                actor := none
                sourceIp := some sourceIp.text
                attributes := [("status", status), ("method", .str method), ("path", .str path)] }
      | _, _ => none
  | _, _, _, _ => none

/-- What the agent makes of a line at the time `collectedAt`. -/
def collected (parsers : Parsers) (unicode : UnicodeTables) (collectedAt : Int)
    (record : Option JournalRecord) : Except NormalizationError (Option NormalizedEventV1) :=
  match record with
  | none => .ok none
  | some record => normalizeRecord parsers unicode .nginxAccess collectedAt record

/-! ## Lines of one request -/

/-- The parts of a line that are not private. The path ends before the first `?`. -/
structure RequestParts where
  remoteAddr : List Char
  identity : List Char
  timeLocal : List Char
  method : List Char
  path : List Char
  version : List Char
  status : List Char
  path_plain : '?' ∉ path

/-- The parts that are private. -/
structure PrivateParts where
  remoteUser : List Char
  query : Option (List Char)
  bytesSent : List Char
  referer : List Char
  userAgent : List Char

/-- The target of the request. -/
def targetOf (request : RequestParts) (hidden : PrivateParts) : List Char :=
  request.path ++ hidden.query.elim [] ('?' :: ·)

/-- The line. -/
def accessLine (request : RequestParts) (hidden : PrivateParts) : List Char :=
  request.remoteAddr ++ [' '] ++ request.identity ++ [' '] ++ hidden.remoteUser ++ [' ', '['] ++
    request.timeLocal ++ [']', ' ', '"'] ++ request.method ++ [' '] ++ targetOf request hidden ++
    [' ', 'H', 'T', 'T', 'P', '/'] ++ request.version ++ ['"', ' '] ++ request.status ++ [' '] ++
    hidden.bytesSent ++ [' ', '"'] ++ hidden.referer ++ ['"', ' ', '"'] ++ hidden.userAgent ++ ['"']

/-- The groups of the line. -/
def groupsOf (request : RequestParts) (hidden : PrivateParts) : Captures :=
  [("remote_addr", request.remoteAddr), ("time_local", request.timeLocal),
    ("method", request.method), ("target", targetOf request hidden), ("version", request.version),
    ("status", request.status), ("bytes_sent", hidden.bytesSent), ("referer", hidden.referer),
    ("user_agent", hidden.userAgent)]

/-- The grammar of the source has the line as one of the request: each part stands in
its group. -/
def IsAccessLine (unicode : UnicodeTables) (request : RequestParts) (hidden : PrivateParts) : Prop :=
  (combined unicode).Denotes (accessLine request hidden) (groupsOf request hidden)

/-- A part fits its place in the pattern. -/
structure Fits (accepts : Char → Bool) (least : Nat) (most : Option Nat) (text : List Char) :
    Prop where
  each : ∀ c ∈ text, accepts c = true
  enough : least ≤ text.length
  bounded : ∀ bound ∈ most, text.length ≤ bound

theorem Fits.of_all {accepts : Char → Bool} {least : Nat} {most : Option Nat} {text : List Char}
    (checked : (text.all accepts && decide (least ≤ text.length) &&
      most.all fun bound => decide (text.length ≤ bound)) = true) :
    Fits accepts least most text := by
  simp only [Bool.and_eq_true, List.all_eq_true, decide_eq_true_eq, Option.all_eq_true] at checked
  exact ⟨checked.1.1, checked.1.2, checked.2⟩

/-- **Parts that fit make a line of the request**, whatever they are. -/
theorem isAccessLine_of_fits {unicode : UnicodeTables} {request : RequestParts}
    {hidden : PrivateParts} (remoteAddr : Fits isSolid 1 none request.remoteAddr)
    (identity : Fits isSolid 1 none request.identity)
    (remoteUser : Fits isSolid 1 none hidden.remoteUser)
    (timeLocal : Fits (fun c => c ≠ ']') 1 (some 64) request.timeLocal)
    (method : Fits Char.isUpper 3 (some 10) request.method)
    (target : Fits isSolid 1 (some 8192) (targetOf request hidden))
    (version : Fits (fun c => isDecimalDigit unicode c || c = '.') 1 (some 8) request.version)
    (status : Fits (isDecimalDigit unicode) 3 (some 3) request.status)
    (bytesSent : Fits (isDecimalDigit unicode) 1 (some 20) hidden.bytesSent)
    (referer : Fits (fun c => c ≠ '"') 0 none hidden.referer)
    (userAgent : Fits (fun c => c ≠ '"') 0 none hidden.userAgent) :
    IsAccessLine unicode request hidden := by
  have named : ∀ (name : String) {accepts : Char → Bool} {least : Nat} {most : Option Nat}
      {text : List Char}, Fits accepts least most text →
        (Regex.group name (.many accepts least most)).Denotes text [(name, text)] :=
    fun _ _ _ _ _ fits => Regex.denotes_named fits.each fits.enough fits.bounded
  have unnamed : ∀ {text : List Char}, Fits isSolid 1 none text →
      (Regex.many isSolid 1 none).Denotes text [] :=
    fun fits => .many fits.each fits.enough fits.bounded
  have parts := (named "remote_addr" remoteAddr).all_cons <| (Regex.denotes_spelled [' ']).all_cons <|
    (unnamed identity).all_cons <| (Regex.denotes_spelled [' ']).all_cons <|
    (unnamed remoteUser).all_cons <| (Regex.denotes_spelled [' ', '[']).all_cons <|
    (named "time_local" timeLocal).all_cons <| (Regex.denotes_spelled [']', ' ', '"']).all_cons <|
    (named "method" method).all_cons <| (Regex.denotes_spelled [' ']).all_cons <|
    (named "target" target).all_cons <| (Regex.denotes_spelled [' ', 'H', 'T', 'T', 'P', '/']).all_cons <|
    (named "version" version).all_cons <| (Regex.denotes_spelled ['"', ' ']).all_cons <|
    (named "status" status).all_cons <| (Regex.denotes_spelled [' ']).all_cons <|
    (named "bytes_sent" bytesSent).all_cons <| (Regex.denotes_spelled [' ', '"']).all_cons <|
    (named "referer" referer).all_cons <| (Regex.denotes_spelled ['"', ' ', '"']).all_cons <|
    (named "user_agent" userAgent).all_cons <| (Regex.denotes_spelled ['"']).all_cons Regex.Denotes.all_nil
  unfold IsAccessLine combined accessLine groupsOf
  simp only [List.append_assoc, List.cons_append, List.nil_append, List.append_nil] at parts ⊢
  exact parts

section Lines

variable {accessTime : List Char → Option Int} {unicode : UnicodeTables} {request : RequestParts}
variable {hidden : PrivateParts}

/-- The path does not depend on the query. -/
theorem safePath_targetOf (unicode : UnicodeTables) (request : RequestParts)
    (hidden : PrivateParts) :
    safePath unicode (targetOf request hidden) = safePath unicode request.path := by
  have plain : ∀ c ∈ request.path, decide (c ≠ '?') = true := by
    intro c member
    refine decide_eq_true ?_
    rintro rfl
    exact request.path_plain member
  have path : (targetOf request hidden).takeWhile (fun c => decide (c ≠ '?')) = request.path := by
    rw [targetOf, List.takeWhile_append_of_pos plain]
    cases hidden.query with
    | none => exact List.append_nil _
    | some query => exact List.append_nil _
  have whole : request.path.takeWhile (fun c => decide (c ≠ '?')) = request.path :=
    List.takeWhile_eq_self_iff.mpr plain
  rw [safePath, safePath, path, whole]

/-- The record of the parts that are not private. -/
def requestFields (accessTime : List Char → Option Int) (unicode : UnicodeTables)
    (request : RequestParts) : Option Fields :=
  accessFields accessTime unicode request.remoteAddr request.timeLocal request.method request.path
    request.status

/-- **The record of a line is the one of its public parts.** -/
theorem accessRecord_line (cursor : String) (line : IsAccessLine unicode request hidden) :
    accessRecord accessTime unicode cursor (accessLine request hidden) =
      (requestFields accessTime unicode request).map (⟨cursor, ·⟩) := by
  have matched := (Regex.fullMatch_eq_some_iff (deterministic_combined unicode)).mpr line
  have groups : (groupsOf request hidden).lookup "remote_addr" = some request.remoteAddr ∧
      (groupsOf request hidden).lookup "time_local" = some request.timeLocal ∧
      (groupsOf request hidden).lookup "method" = some request.method ∧
      (groupsOf request hidden).lookup "target" = some (targetOf request hidden) ∧
      (groupsOf request hidden).lookup "status" = some request.status :=
    ⟨rfl, rfl, rfl, rfl, rfl⟩
  rw [accessRecord, matched]
  dsimp only
  simp only [groups, Option.getD_some]
  rw [accessFields, safePath_targetOf]
  rfl

end Lines

/-! ## Events of one request -/

/-- An event without some of its fields. -/
def withoutFields (names : List String) : JsonValue → JsonValue
  | .obj members => .obj (members.filter fun entry => !names.contains entry.1)
  | value => value

/-- Two events agree on every field but the named ones. -/
structure AgreeApartFrom (names : List String) (first second : NormalizedEventV1) : Prop where
  schemaVersion : first.schemaVersion = second.schemaVersion
  source : first.source = second.source
  eventType : first.eventType = second.eventType
  occurredAt : "occurred_at" ∉ names → first.occurredAt = second.occurredAt
  payload : withoutFields names first.payload = withoutFields names second.payload

/-- The time of a line can be the time of its event: it is not before 1970 and not after
what a `datetime` holds. -/
def Datable (accessTime : List Char → Option Int) (parsers : Parsers) (timeLocal : List Char) :
    Prop :=
  ∃ micros, accessTime timeLocal = some micros ∧ 0 ≤ micros ∧
    (parsers.fromTimestamp micros.toNat).isSome = true

section Events

variable {accessTime : List Char → Option Int} {unicode : UnicodeTables} {request : RequestParts}
variable {parsers : Parsers} {fields : Fields} {parsed : ParsedSecurityEvent}

/-- Events of one parsed record differ in what depends on the cursor and the times. -/
theorem agree_eventOf (source : EventSource) (cursor₁ cursor₂ : String)
    (occurred₁ occurred₂ collected₁ collected₂ : Int) (parsed : ParsedSecurityEvent) :
    AgreeApartFrom ["event_id", "collected_at", "occurred_at"]
        (eventOf source cursor₁ occurred₁ collected₁ parsed)
        (eventOf source cursor₂ occurred₂ collected₂ parsed) ∧
      (occurred₁ = occurred₂ → AgreeApartFrom ["event_id", "collected_at"]
        (eventOf source cursor₁ occurred₁ collected₁ parsed)
        (eventOf source cursor₂ occurred₂ collected₂ parsed)) := by
  constructor
  · refine ⟨rfl, rfl, rfl, fun kept => ?_, ?_⟩
    · exact absurd (by simp) kept
    · simp [withoutFields, eventOf]
  · rintro rfl
    refine ⟨rfl, rfl, rfl, fun _ => rfl, ?_⟩
    simp [withoutFields, eventOf]

/-- The fields of a record, and what they were made of. -/
theorem accessFields_spec (made : requestFields accessTime unicode request = some fields) :
    ∃ address occurredAt, methods.contains (String.ofList request.method) = true ∧
      accessTime request.timeLocal = some occurredAt ∧
      fields =
        [("NGINX_STATUS", .int (intOfDigits unicode request.status)),
          ("NGINX_METHOD", .str (String.ofList request.method)),
          ("NGINX_PATH", .str (safePath unicode request.path)),
          ("NGINX_REMOTE_ADDR", .str (IpAddress.text address)),
          ("__REALTIME_TIMESTAMP", .int occurredAt)] := by
  rw [requestFields, accessFields] at made
  split at made
  next known =>
    split at made
    · cases made
    next address _ =>
      dsimp only at made
      split at made
      · obtain ⟨occurredAt, dated, rfl⟩ := Option.map_eq_some_iff.mp made
        exact ⟨address, occurredAt, known, dated, rfl⟩
      · cases made
  · cases made

/-- A path that is passed on has no NUL. -/
theorem hasNul_safePath (unicode : UnicodeTables) (target : List Char) :
    hasNul (safePath unicode target) = false := by
  unfold safePath
  dsimp only
  generalize String.ofList (target.takeWhile fun c => decide (c ≠ '?')) = path
  have clean : unicode.isPrintable path = true → '\x00' ∉ path.toList := by
    intro printable member
    have nul := List.all_eq_true.mp printable '\x00' member
    have control : unicode.category '\x00' = "Cc" := unicode.category_ascii '\x00' (by decide)
    rw [control] at nul
    exact absurd nul (by decide)
  split
  · decide
  next passed =>
    simp only [Bool.or_eq_true, Bool.not_eq_true', not_or, Bool.not_eq_false] at passed
    have path_clean := clean passed.1
    split
    · rw [hasNul, String.toList_append, String.toList_ofList, List.contains_eq_mem,
        decide_eq_false_iff_not, List.mem_append]
      rintro (early | suffix)
      · exact path_clean (List.mem_of_mem_take early)
      · exact absurd suffix (by decide)
    · rw [hasNul, List.contains_eq_mem, decide_eq_false_iff_not]
      exact path_clean

/-- **The event of a record of this source passes every check of the contract.** -/
theorem validates_parseNginxRequest (made : requestFields accessTime unicode request = some fields)
    (recognised : parseNginxRequest fields = some parsed) : parsed.validates = true := by
  obtain ⟨address, occurredAt, known, _, rfl⟩ := accessFields_spec made
  have method_clean : hasNul (String.ofList request.method) = false := by
    have each : (methods.all fun method => !hasNul method) = true := by decide
    have here := List.all_eq_true.mp each _ (List.contains_iff_mem.mp known)
    rwa [Bool.not_eq_true'] at here
  rw [parseNginxRequest] at recognised
  split at recognised
  next status method path address' status_found method_found path_found _ =>
    cases status_found
    cases method_found
    cases path_found
    split at recognised
    · split at recognised
      · cases recognised
      · cases recognised
        have names : hasNul "status" = false ∧ hasNul "method" = false ∧ hasNul "path" = false := by
          decide
        have fixed : (isEventType "web.nginx.request_failed" &&
            decide ("web.nginx.request_failed".length ≤ 100) &&
            (decide ("HTTP request failed".length ≤ 1000) && !hasNul "HTTP request failed")) =
              true := by decide
        simp only [Bool.and_eq_true] at fixed
        simp [ParsedSecurityEvent.validates, rejectsNul, rejectsNulMembers, names, method_clean,
          hasNul_safePath, fixed]
    · cases recognised
  · cases recognised

/-- The time of the event: that of the line, or else the time of its collection. -/
theorem occurredAt_accessFields (made : requestFields accessTime unicode request = some fields) :
    (Datable accessTime parsers request.timeLocal →
        ∃ instant, ∀ fallback, occurredAt parsers unicode fields fallback = instant) ∧
      (¬ Datable accessTime parsers request.timeLocal →
        ∀ fallback, occurredAt parsers unicode fields fallback = fallback) := by
  obtain ⟨address, micros, _, dated, rfl⟩ := accessFields_spec made
  constructor
  · rintro ⟨known, same, nonneg, usable⟩
    obtain rfl := Option.some.inj (dated.symm.trans same)
    obtain ⟨instant, read⟩ := Option.isSome_iff_exists.mp usable
    refine ⟨instant, fun fallback => ?_⟩
    change (if 0 ≤ micros then (parsers.fromTimestamp micros.toNat).getD fallback else fallback) = _
    rw [if_pos nonneg, read, Option.getD_some]
  · intro undatable fallback
    change (if 0 ≤ micros then (parsers.fromTimestamp micros.toNat).getD fallback else fallback) = _
    split
    next nonneg =>
      cases read : parsers.fromTimestamp micros.toNat with
      | none => rfl
      | some instant => exact absurd ⟨micros, dated, nonneg, by rw [read]; rfl⟩ undatable
    · rfl

/-- **What is collected of a line** is a function of its public parts, the cursor and
the time. -/
theorem collected_line (requests : parsers.nginxRequest = parseNginxRequest)
    {hidden : PrivateParts} (line : IsAccessLine unicode request hidden) (cursor : String)
    (time : Int) :
    collected parsers unicode time
        (accessRecord accessTime unicode cursor (accessLine request hidden)) =
      .ok (((requestFields accessTime unicode request).bind fun fields =>
        (parseNginxRequest fields).map fun parsed =>
          let occurred := occurredAt parsers unicode fields time
          eventOf .nginxAccess cursor occurred (if time < occurred then occurred else time)
            parsed)) := by
  rw [accessRecord_line cursor line]
  cases made : requestFields accessTime unicode request with
  | none => rfl
  | some fields =>
      have parses : parseSupportedMessage parsers unicode fields =
          .ok (parseNginxRequest fields) := by
        obtain ⟨_, _, _, _, rfl⟩ := accessFields_spec made
        rw [parseSupportedMessage, requests]
        rfl
      rw [Option.map_some, collected, normalizeRecord]
      dsimp only
      rw [parses, Option.bind_some]
      cases recognised : parseNginxRequest fields with
      | none => rfl
      | some parsed =>
          dsimp only
          rw [if_pos (validates_parseNginxRequest made recognised)]
          rfl

/-- **Collection does not depend on the private parts.** The records of two lines of one
request differ in their cursors; no event comes of either line, or one of each, and
these differ in their ids, in the times of collection and, where the line cannot give
a time, in `occurred_at`, which is then the time of collection. -/
theorem collection_noninterfering (requests : parsers.nginxRequest = parseNginxRequest)
    {first second : PrivateParts} (first_line : IsAccessLine unicode request first)
    (second_line : IsAccessLine unicode request second) (cursor₁ cursor₂ : String)
    (time₁ time₂ : Int) :
    let record₁ := accessRecord accessTime unicode cursor₁ (accessLine request first)
    let record₂ := accessRecord accessTime unicode cursor₂ (accessLine request second)
    record₁.map (·.fields) = record₂.map (·.fields) ∧
      (collected parsers unicode time₁ record₁ = .ok none ∧
          collected parsers unicode time₂ record₂ = .ok none ∨
        ∃ event₁ event₂, collected parsers unicode time₁ record₁ = .ok (some event₁) ∧
          collected parsers unicode time₂ record₂ = .ok (some event₂) ∧
          (Datable accessTime parsers request.timeLocal ∨ time₁ = time₂ →
            AgreeApartFrom ["event_id", "collected_at"] event₁ event₂) ∧
          (¬ Datable accessTime parsers request.timeLocal →
            AgreeApartFrom ["event_id", "collected_at", "occurred_at"] event₁ event₂ ∧
              event₁.occurredAt = time₁ ∧ event₂.occurredAt = time₂)) := by
  dsimp only
  constructor
  · rw [accessRecord_line cursor₁ first_line, accessRecord_line cursor₂ second_line,
      Option.map_map, Option.map_map]
    rfl
  rw [collected_line requests first_line, collected_line requests second_line]
  cases made : requestFields accessTime unicode request with
  | none => exact .inl ⟨rfl, rfl⟩
  | some fields =>
      cases recognised : parseNginxRequest fields with
      | none =>
          left
          simp only [Option.bind_some, recognised, Option.map_none, and_self]
      | some parsed =>
          right
          have times := @occurredAt_accessFields accessTime unicode request parsers fields made
          obtain ⟨datable, undatable⟩ := times
          simp only [Option.bind_some, recognised, Option.map_some]
          refine ⟨_, _, rfl, rfl, ?_, ?_⟩
          · intro either
            refine (agree_eventOf ..).2 ?_
            rcases either with dated | rfl
            · obtain ⟨instant, always⟩ := datable dated
              rw [always, always]
            · rfl
          · intro dateless
            exact ⟨(agree_eventOf ..).1, undatable dateless time₁, undatable dateless time₂⟩

end Events

/-! ## A missing page -/

/-- A request for a missing page. -/
def missingPage (timeLocal : String) : RequestParts where
  remoteAddr := "203.0.113.7".toList
  identity := ['-']
  timeLocal := timeLocal.toList
  method := "GET".toList
  path := "/admin".toList
  version := "1.1".toList
  status := "404".toList
  path_plain := by decide

/-- A visitor who sends nothing. -/
def anonymous : PrivateParts := ⟨['-'], none, "153".toList, ['-'], "curl/8".toList⟩

/-- A visitor with a name, a token and a referer. -/
def identified : PrivateParts :=
  ⟨"bob".toList, some "token=7f3a?x".toList, "9".toList, "https://intranet/".toList, []⟩

/-- The times of two lines, of which one was written before the clock was set. -/
def timeOf (text : List Char) : Option Int :=
  if text = "10/Oct/2000:13:55:36 -0700".toList then some 971211336000000
  else if text = "01/Jan/1970:00:00:00 +0100".toList then some (-3600000000)
  else none

/-- The parsers of an agent that knows nginx alone. -/
def nginxParsers : Parsers where
  nginxRequest := parseNginxRequest
  message _ := none
  fromTimestamp micros := some micros

theorem isAccessLine_missingPage (timeLocal : String)
    (time : Fits (fun c => c ≠ ']') 1 (some 64) timeLocal.toList) :
    IsAccessLine .ascii (missingPage timeLocal) anonymous ∧
      IsAccessLine .ascii (missingPage timeLocal) identified := by
  constructor
  · exact isAccessLine_of_fits (.of_all rfl) (.of_all rfl) (.of_all rfl) time (.of_all rfl)
      (.of_all rfl) (.of_all rfl) (.of_all rfl) (.of_all rfl) (.of_all rfl) (.of_all rfl)
  · exact isAccessLine_of_fits (.of_all rfl) (.of_all rfl) (.of_all rfl) time (.of_all rfl)
      (.of_all rfl) (.of_all rfl) (.of_all rfl) (.of_all rfl) (.of_all rfl) (.of_all rfl)

/-- The lines of both visitors, collected a minute apart. -/
theorem collection_noninterfering_missing_page : ∃ event₁ event₂,
    collected nginxParsers .ascii 971211340000000 (accessRecord timeOf .ascii "a"
        (accessLine (missingPage "10/Oct/2000:13:55:36 -0700") anonymous)) = .ok (some event₁) ∧
      collected nginxParsers .ascii 971211400000000 (accessRecord timeOf .ascii "b"
        (accessLine (missingPage "10/Oct/2000:13:55:36 -0700") identified)) = .ok (some event₂) ∧
      AgreeApartFrom ["event_id", "collected_at"] event₁ event₂ := by
  obtain ⟨first, second⟩ := isAccessLine_missingPage "10/Oct/2000:13:55:36 -0700"
    (.of_all (by decide))
  have noninterfering := @collection_noninterfering timeOf .ascii _ nginxParsers rfl _ _ first second
    "a" "b" 971211340000000 971211400000000
  have datable : Datable timeOf nginxParsers (missingPage "10/Oct/2000:13:55:36 -0700").timeLocal :=
    ⟨971211336000000, by decide, by decide, rfl⟩
  rcases noninterfering.2 with ⟨nothing, _⟩ | ⟨event₁, event₂, one, other, agree, _⟩
  · rw [collected_line rfl first] at nothing
    have some_event : ((requestFields timeOf .ascii
        (missingPage "10/Oct/2000:13:55:36 -0700")).bind parseNginxRequest).isSome = true := by
      decide +kernel
    cases made : requestFields timeOf .ascii (missingPage "10/Oct/2000:13:55:36 -0700") with
    | none =>
        rw [made] at some_event
        cases some_event
    | some fields =>
        rw [made, Option.bind_some] at some_event
        obtain ⟨parsed, recognised⟩ := Option.isSome_iff_exists.mp some_event
        rw [made, Option.bind_some, recognised] at nothing
        cases nothing
  · exact ⟨event₁, event₂, one, other, agree (.inl datable)⟩

/-- Lines written before the clock was set have no time of their own: their events also
differ in `occurred_at`. -/
theorem undated_request : ∃ event₁ event₂,
    collected nginxParsers .ascii 1000000 (accessRecord timeOf .ascii "a"
        (accessLine (missingPage "01/Jan/1970:00:00:00 +0100") anonymous)) = .ok (some event₁) ∧
      collected nginxParsers .ascii 61000000 (accessRecord timeOf .ascii "b"
        (accessLine (missingPage "01/Jan/1970:00:00:00 +0100") identified)) = .ok (some event₂) ∧
      ¬ AgreeApartFrom ["event_id", "collected_at"] event₁ event₂ := by
  obtain ⟨first, second⟩ := isAccessLine_missingPage "01/Jan/1970:00:00:00 +0100"
    (.of_all (by decide))
  have some_event : ((requestFields timeOf .ascii
      (missingPage "01/Jan/1970:00:00:00 +0100")).bind parseNginxRequest).isSome = true := by
    decide +kernel
  have undatable : ¬ Datable timeOf nginxParsers
      (missingPage "01/Jan/1970:00:00:00 +0100").timeLocal := by
    rintro ⟨micros, dated, nonneg, _⟩
    have before : timeOf (missingPage "01/Jan/1970:00:00:00 +0100").timeLocal =
        some (-3600000000) := by decide
    rw [before] at dated
    obtain rfl := Option.some.inj dated
    exact absurd nonneg (by decide)
  rw [collected_line rfl first, collected_line rfl second]
  cases made : requestFields timeOf .ascii (missingPage "01/Jan/1970:00:00:00 +0100") with
  | none =>
      rw [made] at some_event
      cases some_event
  | some fields =>
      rw [made, Option.bind_some] at some_event
      obtain ⟨parsed, recognised⟩ := Option.isSome_iff_exists.mp some_event
      have times := (@occurredAt_accessFields timeOf .ascii _ nginxParsers fields made).2 undatable
      simp only [Option.bind_some, recognised, Option.map_some]
      refine ⟨_, _, rfl, rfl, ?_⟩
      intro agree
      have same : occurredAt nginxParsers .ascii fields 1000000 =
          occurredAt nginxParsers .ascii fields 61000000 := agree.occurredAt (by simp)
      rw [times, times] at same
      exact absurd same (by decide)

end WolandGuard.Agent
