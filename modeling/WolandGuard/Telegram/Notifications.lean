import WolandGuard.Data.IsoFormat
import WolandGuard.Outbox.Message
import WolandGuard.Telegram.CallbackCodec
import WolandGuard.Telegram.Formatting

/-!
# Incident notices

`infrastructure/telegram/message.py`: the text and the keyboard that a chat is
sent for a new incident. Titles and rule keys come from rule files, so a notice
is refused when one of them could start a line of its own.

A notice that is not refused has seven lines, each with its label, and it tells
two payloads apart wherever they differ in what it shows
(`incident_notice_exact`). The buttons are read back as actions on the incident
(`parse_incidentKeyboard`).
-/

set_option autoImplicit false

namespace WolandGuard.Telegram

open Incidents Outbox
open Detection (Severity)

/-! ## Strings -/

/-- The keys of `_STRINGS` for outgoing notifications. -/
inductive NotificationKey where
  | heading
  | severity
  | title
  | rule
  | incident
  | server
  | created
  | investigating
  | falsePositive
  | resolved
  | proposeBlock
  | openDashboard
  deriving DecidableEq, Repr

def NotificationKey.ru : NotificationKey → String
  | .heading => "Woland Guard: новый инцидент"
  | .severity => "Критичность:"
  | .title => "Заголовок:"
  | .rule => "Правило:"
  | .incident => "Инцидент:"
  | .server => "Сервер:"
  | .created => "Создан:"
  | .investigating => "Принять в работу"
  | .falsePositive => "Ложное срабатывание"
  | .resolved => "Закрыть"
  | .proposeBlock => "Подготовить блокировку IP"
  | .openDashboard => "Открыть панель"

def NotificationKey.en : NotificationKey → String
  | .heading => "Woland Guard: new incident"
  | .severity => "Severity:"
  | .title => "Title:"
  | .rule => "Rule:"
  | .incident => "Incident:"
  | .server => "Server:"
  | .created => "Created:"
  | .investigating => "Take it"
  | .falsePositive => "False positive"
  | .resolved => "Resolve"
  | .proposeBlock => "Prepare IP block"
  | .openDashboard => "Open Dashboard"

/-- `tg` of a notification key. -/
def NotificationKey.text (language : Language) (key : NotificationKey) : String :=
  match language with
  | .ru => key.ru
  | .en => key.en

/-! ## Text -/

/-- `TELEGRAM_TEXT_LIMIT`. -/
def telegramTextLimit : Nat := 4096

/-- The errors of the formatters: `TelegramMessageError`, and what the encoders
of callback data raise. -/
inductive NoticeError where
  | text
  | dashboardOrigin
  | callback (error : CallbackDataError)
  deriving DecidableEq, Repr

def NoticeError.message : NoticeError → Option String
  | .text => some "Telegram notification text is invalid."
  | .dashboardOrigin => some "Telegram dashboard origin is invalid."
  | .callback _ => none

/-- `_require_safe_line`. -/
def requireSafeLine (unicode : UnicodeData) (value : String) : Except NoticeError Unit :=
  if value.toList.any fun character => (unicode.category character).toList.head? = some 'C' then
    .error .text
  else if value.toList.any fun character => character ∈ ['\n', '\r', '\u2028', '\u2029'] then
    .error .text
  else .ok ()

/-- The title in the language of the deployment. -/
def noticeTitle (language : Language) (payload : IncidentCreatedNotificationV1) : String :=
  match language, payload.titleEn with
  | .en, some titleEn => if titleEn = "" then payload.title else titleEn
  | _, _ => payload.title

/-- `severity.upper()`. -/
def upperSeverity : Severity → String
  | .low => "LOW"
  | .medium => "MEDIUM"
  | .high => "HIGH"
  | .critical => "CRITICAL"

/-- The lines of a notice. -/
def noticeLines (language : Language) (payload : IncidentCreatedNotificationV1) : List String :=
  let label (key : NotificationKey) : String := key.text language
  [label .heading,
    label .severity ++ " " ++ upperSeverity payload.severity,
    label .title ++ " " ++ noticeTitle language payload,
    label .rule ++ " " ++ payload.ruleKey ++ " v" ++ toString payload.ruleVersion,
    label .incident ++ " " ++ Uuid.text payload.incidentId,
    label .server ++ " " ++ Uuid.text payload.serverId,
    label .created ++ " " ++ payload.createdAt.isoformat]

/-- `format_incident_created_message`. -/
def formatIncidentCreatedMessage (unicode : UnicodeData) (language : Language)
    (payload : IncidentCreatedNotificationV1) : Except NoticeError String := do
  requireSafeLine unicode (noticeTitle language payload)
  requireSafeLine unicode payload.ruleKey
  let text := joinLines (noticeLines language payload)
  if 1 ≤ text.length ∧ text.length ≤ telegramTextLimit then .ok text else .error .text

/-! ## Keyboard -/

/-- `web_public_origin`, and what `urlsplit` makes of it. -/
structure DashboardOrigin where
  text : String
  scheme : String
  netloc : String
  path : String
  query : String
  deriving DecidableEq, Repr

/-- The origins that a keyboard is built for. -/
def DashboardOrigin.secure (origin : DashboardOrigin) : Bool :=
  origin.scheme = "https" && origin.netloc ≠ "" && origin.path = "" && origin.query = ""

inductive NoticeButton where
  | callback (text callbackData : String)
  | link (text url : String)
  deriving DecidableEq, Repr

/-- `_NEWLY_CREATED_INCIDENT_VERSION`. -/
def newlyCreatedIncidentVersion : Nat := 1

/-- `_ACTION_BUTTONS`. -/
def actionButtons : List (NotificationKey × IncidentStatus) :=
  [(.investigating, .investigating), (.falsePositive, .falsePositive), (.resolved, .resolved)]

/-- A button with encoded callback data. -/
def callbackButton (language : Language) (key : NotificationKey)
    (encoded : Except CallbackDataError String) : Except NoticeError NoticeButton :=
  match encoded with
  | .error error => .error (.callback error)
  | .ok value => .ok (.callback (key.text language) value)

/-- `build_incident_action_keyboard`. -/
def buildIncidentActionKeyboard (language : Language) (incidentId : Uuid)
    (origin : DashboardOrigin) : Except NoticeError (List (List NoticeButton)) :=
  if !origin.secure then .error .dashboardOrigin
  else do
    let statusRow ← actionButtons.mapM fun (key, status) =>
      callbackButton language key
        (encodeIncidentAction incidentId status newlyCreatedIncidentVersion)
    let proposal ← callbackButton language .proposeBlock (encodeProposeBlock incidentId)
    .ok [statusRow, [proposal],
      [.link (NotificationKey.openDashboard.text language)
        (origin.text ++ "/dashboard/incidents/" ++ Uuid.text incidentId)]]

/-! ## Lines -/

/-- A text that `_require_safe_line` accepts. -/
def SafeLine (unicode : UnicodeData) (value : String) : Prop :=
  ∀ c ∈ value.toList, (unicode.category c).toList.head? ≠ some 'C' ∧
    c ∉ ['\n', '\r', '\u2028', '\u2029']

theorem requireSafeLine_eq_ok {unicode : UnicodeData} {value : String} :
    requireSafeLine unicode value = .ok () ↔ SafeLine unicode value := by
  unfold requireSafeLine SafeLine
  split
  next control =>
    obtain ⟨c, member, there⟩ := List.any_eq_true.mp control
    refine ⟨fun impossible => (by cases impossible), fun safe => ?_⟩
    exact absurd (of_decide_eq_true there) (safe c member).1
  next controls =>
    split
    next separator =>
      obtain ⟨c, member, there⟩ := List.any_eq_true.mp separator
      refine ⟨fun impossible => (by cases impossible), fun safe => ?_⟩
      exact absurd (of_decide_eq_true there) (safe c member).2
    next separators =>
      refine ⟨fun _ c member => ⟨fun there => ?_, fun there => ?_⟩, fun _ => rfl⟩
      · exact controls (List.any_eq_true.mpr ⟨c, member, decide_eq_true there⟩)
      · exact separators (List.any_eq_true.mpr ⟨c, member, decide_eq_true there⟩)

theorem SafeLine.newline_notMem {unicode : UnicodeData} {value : String}
    (safe : SafeLine unicode value) : '\n' ∉ value.toList := fun member =>
  (safe _ member).2 List.mem_cons_self

theorem newline_notMem_label (language : Language) (key : NotificationKey) :
    '\n' ∉ (key.text language).toList := by
  cases language with
  | ru => cases key <;> decide
  | en => cases key <;> decide

theorem newline_notMem_severity (severity : Severity) :
    '\n' ∉ (upperSeverity severity).toList := by
  cases severity <;> decide

theorem newline_notMem_of_isDigit {chars : List Char} (digits : ∀ c ∈ chars, c.isDigit = true) :
    '\n' ∉ chars := fun member => absurd (digits _ member) (by decide)

theorem newline_notMem_uuid (id : Uuid) : '\n' ∉ (Uuid.text id).toList := by
  have group : ∀ width n, '\n' ∉ (hexText width n).toList := by
    intro width n member
    rw [hexText, String.toList_ofList] at member
    obtain ⟨i, _, same⟩ := List.mem_map.mp member
    have every : ∀ m < 16, "0123456789abcdef".toList.getD m '0' ≠ '\n' := by decide
    exact every _ (Nat.mod_lt _ (by decide)) same
  rw [Uuid.text_toList]
  simp [group]

theorem newline_notMem_isoformat (moment : AwareDatetime) :
    '\n' ∉ moment.isoformat.toList := by
  intro member
  rcases AwareDatetime.mem_isoformat member with digit | mark
  · exact absurd digit (by decide)
  · exact absurd mark (by decide)

/-- No line of a notice is broken when its title and its rule key are safe. -/
theorem newline_notMem_noticeLines {unicode : UnicodeData} {language : Language}
    {payload : IncidentCreatedNotificationV1}
    (title : SafeLine unicode (noticeTitle language payload))
    (ruleKey : SafeLine unicode payload.ruleKey) :
    ∀ line ∈ noticeLines language payload, '\n' ∉ line.toList := by
  have labelled : ∀ key : NotificationKey, '\n' ∉ (key.text language).toList :=
    newline_notMem_label language
  have blank : '\n' ∉ " ".toList := by decide
  have mark : '\n' ∉ " v".toList := by decide
  have version := newline_notMem_of_isDigit (digits_toString payload.ruleVersion)
  simp only [noticeLines, List.forall_mem_cons, String.toList_append, List.mem_append, not_or]
  refine ⟨labelled _, ⟨⟨labelled _, blank⟩, newline_notMem_severity _⟩,
    ⟨⟨labelled _, blank⟩, title.newline_notMem⟩,
    ⟨⟨⟨⟨labelled _, blank⟩, ruleKey.newline_notMem⟩, mark⟩, version⟩,
    ⟨⟨labelled _, blank⟩, newline_notMem_uuid _⟩, ⟨⟨labelled _, blank⟩, newline_notMem_uuid _⟩,
    ⟨⟨labelled _, blank⟩, newline_notMem_isoformat _⟩, ?_⟩
  intro line member
  cases member

/-- **Joined lines are read back line by line.** -/
theorem splitOn_joinLines {lines : List String} (whole : ∀ line ∈ lines, '\n' ∉ line.toList)
    (filled : lines ≠ []) : (joinLines lines).toList.splitOn '\n' = lines.map String.toList := by
  have newline : "\n".toList = ['\n'] := rfl
  rw [joinLines, String.toList_intercalate, newline]
  exact List.splitOn_intercalate '\n' (by simpa using whole) (by simpa using filled)

/-- **What the formatter returns.** -/
theorem formatIncidentCreatedMessage_eq_ok {unicode : UnicodeData} {language : Language}
    {payload : IncidentCreatedNotificationV1} {text : String} :
    formatIncidentCreatedMessage unicode language payload = .ok text ↔
      (SafeLine unicode (noticeTitle language payload) ∧ SafeLine unicode payload.ruleKey) ∧
        (1 ≤ text.length ∧ text.length ≤ telegramTextLimit) ∧
        text = joinLines (noticeLines language payload) := by
  unfold formatIncidentCreatedMessage
  constructor
  · intro formatted
    cases title : requireSafeLine unicode (noticeTitle language payload) with
    | error error =>
        rw [title] at formatted
        cases formatted
    | ok =>
        cases ruleKey : requireSafeLine unicode payload.ruleKey with
        | error error =>
            rw [title, ruleKey] at formatted
            cases formatted
        | ok =>
            rw [title, ruleKey] at formatted
            simp only [bind, Except.bind] at formatted
            split at formatted
            next fits =>
              obtain rfl := Except.ok.inj formatted
              exact ⟨⟨requireSafeLine_eq_ok.mp title, requireSafeLine_eq_ok.mp ruleKey⟩, fits, rfl⟩
            · cases formatted
  · rintro ⟨⟨title, ruleKey⟩, fits, rfl⟩
    rw [requireSafeLine_eq_ok.mpr title, requireSafeLine_eq_ok.mpr ruleKey]
    simp only [bind, Except.bind]
    rw [if_pos fits]

/-! ## The length of a notice -/

/-- `INTEGER`, the column of a rule version. -/
def maxStoredVersion : Nat := 2147483647

theorem length_label (language : Language) (key : NotificationKey) :
    (key.text language).length ≤ 30 := by
  cases language with
  | ru => cases key <;> decide
  | en => cases key <;> decide

theorem length_version {version : Nat} (stored : version ≤ maxStoredVersion) :
    (toString version).length ≤ 10 := by
  rw [← String.length_toList, Nat.toString_eq_ofList_toDigits, String.toList_ofList,
    Nat.length_toDigits_le_iff (by decide) (by decide)]
  exact Nat.lt_of_le_of_lt stored (by decide)

theorem length_noticeTitle (language : Language) {payload : IncidentCreatedNotificationV1}
    (valid : payload.validates = true) : (noticeTitle language payload).length ≤ 255 := by
  simp only [IncidentCreatedNotificationV1.validates, Bool.and_eq_true, decide_eq_true_eq] at valid
  obtain ⟨⟨⟨_, _⟩, ⟨_, title⟩, _⟩, english⟩ := valid
  unfold noticeTitle
  split
  next titleEn present =>
    rw [present, Option.all_some] at english
    simp only [Bool.and_eq_true, decide_eq_true_eq] at english
    split
    · exact title
    · exact english.1.2
  · exact title

/-- **A valid payload makes a notice of a length that Telegram takes.** -/
theorem length_notice (language : Language) {payload : IncidentCreatedNotificationV1}
    (valid : payload.validates = true) (stored : payload.ruleVersion ≤ maxStoredVersion)
    (holds : IsDatetime payload.createdAt.localTime) :
    1 ≤ (joinLines (noticeLines language payload)).length ∧
      (joinLines (noticeLines language payload)).length ≤ telegramTextLimit := by
  have labels := length_label language
  have title := length_noticeTitle language valid
  have version := length_version stored
  have created := AwareDatetime.length_isoformat holds
  have severity : (upperSeverity payload.severity).length ≤ 8 := by
    cases payload.severity <;> decide
  have uuid : ∀ id : Uuid, (Uuid.text id).length = 36 := fun id => by
    rw [← String.length_toList, length_uuidText]
  have ruleKey : payload.ruleKey.length ≤ 100 := by
    simp only [IncidentCreatedNotificationV1.validates, Bool.and_eq_true,
      decide_eq_true_eq] at valid
    exact valid.1.1.1.1.2
  have newline : "\n".length = 1 := rfl
  have blank : " ".length = 1 := rfl
  have mark : " v".length = 2 := rfl
  have heading := labels .heading
  have first := labels .severity
  have second := labels .title
  have third := labels .rule
  have fourth := labels .incident
  have fifth := labels .server
  have sixth := labels .created
  simp only [joinLines, noticeLines, String.intercalate_cons_cons, String.intercalate_singleton,
    String.length_append, uuid, newline, blank, mark, telegramTextLimit]
  omega

/-! ## What a notice says -/

/-- What a notice says of an incident. -/
structure IncidentNotice where
  severity : Severity
  title : String
  ruleKey : String
  ruleVersion : Nat
  incidentId : Uuid
  serverId : Uuid
  createdAt : AwareDatetime
  deriving DecidableEq, Repr

def noticeOf (language : Language) (payload : IncidentCreatedNotificationV1) : IncidentNotice where
  severity := payload.severity
  title := noticeTitle language payload
  ruleKey := payload.ruleKey
  ruleVersion := payload.ruleVersion
  incidentId := payload.incidentId
  serverId := payload.serverId
  createdAt := payload.createdAt

theorem upperSeverity_inj {left right : Severity}
    (same : upperSeverity left = upperSeverity right) : left = right := by
  cases left <;> cases right <;> first | rfl | exact absurd same (by decide)

/-- A rule key and a version are told apart by the last letter `v`. -/
theorem rule_inj {key other : String} {version number : Nat}
    (same : key.toList ++ " v".toList ++ (toString version).toList =
      other.toList ++ " v".toList ++ (toString number).toList) :
    key = other ∧ version = number := by
  have letter : ∀ n : Nat, 'v' ∉ (toString n).toList.reverse := by
    intro n member
    exact absurd (digits_toString n _ (List.mem_reverse.mp member)) (by decide)
  have mark : " v".toList = [' ', 'v'] := rfl
  have reversed := congrArg List.reverse same
  rw [mark] at reversed
  simp only [List.reverse_append, List.reverse_cons, List.reverse_nil, List.nil_append,
    List.cons_append] at reversed
  obtain ⟨digits, rest⟩ := separator_inj (letter version) (letter number) reversed
  refine ⟨String.toList_inj.mp (List.reverse_injective (List.cons_inj_right _ |>.mp rest)), ?_⟩
  have equal := congrArg (Nat.ofDigitChars 10 · 0) (List.reverse_injective digits)
  simpa [Nat.toString_eq_ofList_toDigits] using equal

/-- **The lines of a notice determine what it says.** -/
theorem noticeOf_eq_of_lines {language : Language} {left right : IncidentCreatedNotificationV1}
    (holds : IsDatetime left.createdAt.localTime) (other : IsDatetime right.createdAt.localTime)
    (same : noticeLines language left = noticeLines language right) :
    noticeOf language left = noticeOf language right := by
  simp only [noticeLines, List.cons.injEq, true_and, and_true] at same
  obtain ⟨severity, title, rule, incident, server, created⟩ := same
  have body : ∀ {label first second : String}, label ++ " " ++ first = label ++ " " ++ second →
      first = second := fun {label first second} equal => by
    have chars := congrArg String.toList equal
    simp only [String.toList_append] at chars
    exact String.toList_inj.mp (List.append_cancel_left chars)
  have rules := congrArg String.toList rule
  simp only [String.toList_append, List.append_assoc] at rules
  have keyed := List.append_cancel_left (List.append_cancel_left rules)
  obtain ⟨ruleKey, ruleVersion⟩ := rule_inj (by simpa only [List.append_assoc] using keyed)
  simp only [noticeOf, IncidentNotice.mk.injEq]
  exact ⟨upperSeverity_inj (body severity), body title, ruleKey, ruleVersion,
    Uuid.text_inj (body incident), Uuid.text_inj (body server),
    AwareDatetime.isoformat_inj holds other (body created)⟩

/-- **A notice says exactly what it shows.** For a payload that validates, with
a version the database stores and a time that a `datetime` holds, the formatter
returns a text exactly when the title shown and the rule key are safe lines.
The text has the seven labelled lines and no other, its length is one that
Telegram takes, and another payload with the same text shows the same. -/
theorem incident_notice_exact (unicode : UnicodeData) (language : Language)
    {payload : IncidentCreatedNotificationV1} (valid : payload.validates = true)
    (stored : payload.ruleVersion ≤ maxStoredVersion) (holds : IsDatetime payload.createdAt.localTime) :
    ((∃ text, formatIncidentCreatedMessage unicode language payload = .ok text) ↔
      SafeLine unicode (noticeTitle language payload) ∧ SafeLine unicode payload.ruleKey) ∧
    ∀ text, formatIncidentCreatedMessage unicode language payload = .ok text →
      text.toList.splitOn '\n' = (noticeLines language payload).map String.toList ∧
      (1 ≤ text.length ∧ text.length ≤ telegramTextLimit) ∧
      ∀ other, IsDatetime other.createdAt.localTime →
        formatIncidentCreatedMessage unicode language other = .ok text →
          noticeOf language other = noticeOf language payload := by
  have filled : ∀ payload, noticeLines language payload ≠ [] := fun _ => List.cons_ne_nil _ _
  have fits := length_notice language valid stored holds
  constructor
  · constructor
    · rintro ⟨text, formatted⟩
      exact (formatIncidentCreatedMessage_eq_ok.mp formatted).1
    · intro safe
      exact ⟨_, formatIncidentCreatedMessage_eq_ok.mpr ⟨safe, fits, rfl⟩⟩
  · intro text formatted
    obtain ⟨⟨title, ruleKey⟩, bounds, lines⟩ := formatIncidentCreatedMessage_eq_ok.mp formatted
    have read : text.toList.splitOn '\n' = (noticeLines language payload).map String.toList := by
      rw [lines]
      exact splitOn_joinLines (newline_notMem_noticeLines title ruleKey) (filled payload)
    refine ⟨read, bounds, fun other other_holds again => ?_⟩
    obtain ⟨⟨other_title, other_key⟩, _, other_lines⟩ :=
      formatIncidentCreatedMessage_eq_ok.mp again
    have other_read := splitOn_joinLines (newline_notMem_noticeLines other_title other_key)
      (filled other)
    rw [← other_lines, read] at other_read
    refine (noticeOf_eq_of_lines holds other_holds ?_).symm
    exact List.map_injective_iff.mpr (fun _ _ => String.toList_inj.mp) other_read

/-- A brute force on the seventh server, as it is enqueued. -/
def bruteForcePayload : IncidentCreatedNotificationV1 where
  incidentId := 2
  serverId := 7
  ruleKey := "ssh.bruteforce"
  ruleVersion := 3
  severity := .high
  title := "Подбор пароля"
  titleEn := some "SSH brute force"
  createdAt := .utc 0

theorem bruteForcePayload_datetime : IsDatetime bruteForcePayload.createdAt.localTime := by
  unfold IsDatetime yearOf
  decide

theorem incident_notice_exact_brute_force :
    ((∃ text, formatIncidentCreatedMessage .ascii .en bruteForcePayload = .ok text) ↔
      SafeLine .ascii "SSH brute force" ∧ SafeLine .ascii "ssh.bruteforce") ∧
    ∀ text, formatIncidentCreatedMessage .ascii .en bruteForcePayload = .ok text →
      text.toList.splitOn '\n' = (noticeLines .en bruteForcePayload).map String.toList ∧
      (1 ≤ text.length ∧ text.length ≤ telegramTextLimit) ∧
      ∀ other, IsDatetime other.createdAt.localTime →
        formatIncidentCreatedMessage .ascii .en other = .ok text →
          noticeOf .en other = noticeOf .en bruteForcePayload :=
  incident_notice_exact .ascii .en (by decide) (by decide) bruteForcePayload_datetime

/-! ## Buttons -/

/-- An ASCII text takes a byte for each character. -/
theorem utf8ByteSize_of_isAscii {text : String} (ascii : IsAscii text) :
    text.utf8ByteSize = text.length := by
  have each : ∀ chars : List Char, (∀ c ∈ chars, c.toNat < 128) →
      (String.ofList chars).utf8ByteSize = chars.length := by
    intro chars
    induction chars with
    | nil => intro _; rfl
    | cons c rest ih =>
        intro small
        have one : c.utf8Size = 1 := by
          rw [Char.utf8Size_eq_one_iff]
          exact Nat.le_of_lt_succ (small c List.mem_cons_self)
        have whole : String.ofList (c :: rest) = String.singleton c ++ String.ofList rest :=
          String.toList_inj.mp (by simp)
        rw [whole, String.utf8ByteSize_append, String.utf8ByteSize_singleton, one,
          ih fun d member => small d (List.mem_cons_of_mem _ member), List.length_cons, Nat.add_comm]
  have read := each text.toList ascii
  rwa [String.ofList_toList, String.length_toList] at read

/-- **Every action that a button may stand for has an encoding.** -/
theorem encode_of_offered (action : CallbackAction) (offered : action.Offered) :
    action.encode = .ok (":".intercalate action.parts) := by
  refine encode_eq_ok.mpr ⟨offered, ?_, rfl⟩
  rw [utf8ByteSize_of_isAscii (isAscii_intercalate (isAscii_parts action))]
  have uuid : ∀ id : Uuid, (Uuid.text id).length = 36 := fun id => by
    rw [← String.length_toList, length_uuidText]
  have schema : "1".length = 1 := rfl
  have colon : ":".length = 1 := rfl
  have proposal : "bp".length = 2 := rfl
  cases action with
  | incidentAction incidentId targetStatus expectedVersion =>
      have version := length_version offered.2.2
      have code : ((actionCode targetStatus).getD "").length ≤ 2 := by
        cases targetStatus <;> decide
      simp only [CallbackAction.parts, String.intercalate_cons_cons, String.intercalate_singleton,
        String.length_append, uuid, schema, colon, callbackDataMaxBytes]
      omega
  | proposeBlock incidentId =>
      simp only [CallbackAction.parts, String.intercalate_cons_cons, String.intercalate_singleton,
        String.length_append, uuid, schema, colon, proposal, callbackDataMaxBytes]
      omega
  | decideBlock planId approve =>
      have code : (if approve then "ba" else "br").length = 2 := by cases approve <;> rfl
      simp only [CallbackAction.parts, String.intercalate_cons_cons, String.intercalate_singleton,
        String.length_append, uuid, schema, colon, code, callbackDataMaxBytes]
      omega

/-- The callback data of a button. -/
def NoticeButton.callbackData? : NoticeButton → Option String
  | .callback _ callbackData => some callbackData
  | .link _ _ => none

/-- What the buttons of a notice stand for, in their order. -/
def noticeActions (incidentId : Uuid) : List CallbackAction :=
  [.incidentAction incidentId .investigating newlyCreatedIncidentVersion,
    .incidentAction incidentId .falsePositive newlyCreatedIncidentVersion,
    .incidentAction incidentId .resolved newlyCreatedIncidentVersion,
    .proposeBlock incidentId]

theorem offered_noticeActions {incidentId : Uuid} :
    ∀ action ∈ noticeActions incidentId, action.Offered := by
  have range : 1 ≤ newlyCreatedIncidentVersion ∧
      newlyCreatedIncidentVersion ≤ maxExpectedVersion := by decide
  simp only [noticeActions, List.forall_mem_cons, CallbackAction.Offered]
  exact ⟨⟨rfl, range⟩, ⟨rfl, range⟩, ⟨rfl, range⟩, trivial, by simp⟩

/-- A keyboard with every text written out. -/
def incidentKeyboard (language : Language) (incidentId : Uuid) (originText : String) :
    List (List NoticeButton) :=
  let button (key : NotificationKey) (action : CallbackAction) : NoticeButton :=
    .callback (key.text language) (":".intercalate action.parts)
  [actionButtons.map fun (key, status) =>
      button key (.incidentAction incidentId status newlyCreatedIncidentVersion),
    [button .proposeBlock (.proposeBlock incidentId)],
    [.link (NotificationKey.openDashboard.text language)
      (originText ++ "/dashboard/incidents/" ++ Uuid.text incidentId)]]

/-- **A keyboard is built for every secure origin, and for no other.** -/
theorem buildIncidentActionKeyboard_eq (language : Language) (incidentId : Uuid)
    (origin : DashboardOrigin) :
    buildIncidentActionKeyboard language incidentId origin =
      if origin.secure then .ok (incidentKeyboard language incidentId origin.text)
      else .error .dashboardOrigin := by
  have status : ∀ target : IncidentStatus, (actionCode target).isSome = true →
      encodeIncidentAction incidentId target newlyCreatedIncidentVersion =
        .ok (":".intercalate
          (CallbackAction.incidentAction incidentId target newlyCreatedIncidentVersion).parts) :=
    fun target coded => encode_of_offered (.incidentAction incidentId target
      newlyCreatedIncidentVersion) ⟨coded, by decide, by decide⟩
  have investigating := status .investigating rfl
  have falsePositive := status .falsePositive rfl
  have resolved := status .resolved rfl
  have proposal : encodeProposeBlock incidentId =
      .ok (":".intercalate (CallbackAction.proposeBlock incidentId).parts) :=
    encode_of_offered (.proposeBlock incidentId) trivial
  unfold buildIncidentActionKeyboard
  cases secure : origin.secure with
  | false => rfl
  | true =>
      simp only [Bool.not_true, Bool.false_eq_true, if_false, if_true, actionButtons,
        List.mapM_cons, List.mapM_nil, investigating, falsePositive, resolved, proposal,
        callbackButton, incidentKeyboard, List.map_cons, List.map_nil, bind, Except.bind, pure,
        Except.pure]

/-- **The buttons of a notice are read back as the actions on its incident.** -/
theorem parse_incidentKeyboard (unicode : DecimalTables) (language : Language)
    (incidentId : Uuid) (originText : String) :
    ((incidentKeyboard language incidentId originText).flatten.filterMap
        NoticeButton.callbackData?).map (parseCallbackData unicode.toUnicodeData) =
      (noticeActions incidentId).map .ok := by
  have data : (incidentKeyboard language incidentId originText).flatten.filterMap
      NoticeButton.callbackData? =
        (noticeActions incidentId).map fun action => ":".intercalate action.parts := rfl
  rw [data, List.map_map]
  refine List.map_congr_left fun action member => ?_
  exact (parse_of_encode unicode (encode_of_offered action (offered_noticeActions action member))).1

end WolandGuard.Telegram
