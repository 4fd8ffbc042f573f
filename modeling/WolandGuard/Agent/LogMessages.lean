import WolandGuard.Agent.SshMessages
import WolandGuard.Data.JsonCompact
import WolandGuard.Foundations.DeterministicRegex
import WolandGuard.IpBlocks.AddressText

/-!
# Messages of the other programs

The patterns for the messages of sudo, useradd, usermod, gpasswd and crontab, the
units of systemd, and what is made of them. The alternatives at one place of a
pattern exclude each other: a pattern with alternatives is the list of the patterns
that choose one at each place.

Whatever a message says, the event made of it passes every check of the contract
(`reportable_parseMessage`): a captured part is a part of the message, which has no
NUL, and a captured account has at most 32 characters.
-/

set_option autoImplicit false

namespace WolandGuard.Agent

open Foundations IpBlocks

/-! ## Patterns -/

section Patterns

variable (unicode : UnicodeTables)

/-- `\w`. -/
def isWord (c : Char) : Bool := c = '_' || unicode.isAlnum [c]

/-- `$`: at the end, or before a newline at the end. -/
def atEnd (rest : List Char) : Bool := rest = [] || rest = ['\n']

/-- `\b` before a letter. -/
def wordStart (attempt : List Char → Option Captures) (previous : Option Char) (text : List Char) :
    Option Captures :=
  if previous.any (isWord unicode) then none else attempt text

/-- `[ ;]`. -/
def isSeparator (c : Char) : Bool := c = ' ' || c = ';'

/-- `_SUDO_FAILURE` behind its first words. They are not empty, so that `^` does not
match behind them. -/
def sudoUser : Regex :=
  .all
    [.many (fun c => c ≠ '\n') 0 none, .literal [isSeparator], ignoringCase "user=",
      .group "actor" account]

/-- `_SUDO_FAILURE.search`. -/
def sudoFailure (message : List Char) : Option Captures :=
  Regex.search (wordStart unicode fun text =>
      ((ignoringCase "authentication failure").run text).findSome? fun (_, rest) =>
        if rest.head?.any (isWord unicode) then none
        else sudoUser.matchBefore (fun rest => atEnd rest || rest.head?.any isSeparator) rest)
    none message

/-- `_USER_CREATED` between `\b` and the comma or the end. -/
def newUser : Regex :=
  .all
    [ignoringCase "new user: name=", .group "actor" account, ignoringCase ", UID=",
      .group "uid" (.many (isDecimalDigit unicode) 1 none), ignoringCase ", GID=",
      .group "gid" (.many (isDecimalDigit unicode) 1 none)]

/-- `_USER_CREATED.search`. -/
def userCreated (message : List Char) : Option Captures :=
  Regex.search (wordStart unicode
      ((newUser unicode).matchBefore fun rest => atEnd rest || rest.head? = some ','))
    none message

/-- `to` or `from`, and one of the groups. -/
def groupChoices : List (String × String) :=
  ["to", "from"].product ["sudo", "adm", "wheel"]

/-- `_USERMOD_GROUP`. -/
def usermodGroup : List Regex :=
  (["add", "remove"].product groupChoices).map fun (action, direction, group) =>
    .all
      [.group "action" (ignoringCase action), ignoringCase " '", .group "actor" account,
        ignoringCase "' ", .group "direction" (ignoringCase direction), ignoringCase " group '",
        .group "group" (ignoringCase group), ignoringCase "'"]

/-- `_GPASSWD_GROUP`. -/
def gpasswdGroup : List Regex :=
  (["added", "removed"].product groupChoices).map fun (action, direction, group) =>
    .all
      [ignoringCase "user ", .group "actor" account, ignoringCase " ",
        .group "action" (ignoringCase action), ignoringCase " by ", account, ignoringCase " ",
        .group "direction" (ignoringCase direction), ignoringCase " group ",
        .group "group" (ignoringCase group)]

/-- `_ACCOUNT` with the case that is written. -/
def writtenAccount : Regex :=
  .all
    [.literal [fun c => c.isLower || c = '_'],
      .many (fun c => c.isLower || c.isDigit || c = '_' || c = '-') 0 (some 31)]

/-- `_CRON_CHANGED`. -/
def cronChanged : List Regex :=
  ["REPLACE", "DELETE"].map fun action =>
    .all
      [.spelled ['('], .group "actor" writtenAccount, .spelled [')', ' '],
        .group "action" (.spelled action.toList), .spelled [' ', '('], writtenAccount,
        .spelled [')']]

/-- The first full match among the alternatives. -/
def fullMatchAmong (patterns : List Regex) (message : String) : Option Captures :=
  patterns.findSome? (·.fullMatch message.toList)

end Patterns

/-! ## Parsing -/

section Parsing

variable (unicode : UnicodeTables)

/-- The actor of a match. -/
def actorOf (captured : Captures) : Option String := some (unicode.lower (groupText captured "actor"))

/-- The branch of `_parse_supported_message` for sudo. -/
def parseSudo (message : String) : Option ParsedSecurityEvent :=
  (sudoFailure unicode message.toList).map fun failure =>
    { eventType := "linux.sudo.authentication_failed"
      summary := "Sudo authentication failed"
      actor := actorOf unicode failure
      sourceIp := none
      attributes := [] }

/-- The branch for useradd. -/
def parseUseradd (message : String) : Option ParsedSecurityEvent :=
  (userCreated unicode message.toList).map fun created =>
    { eventType := "linux.account.user_created"
      summary := "Local user account created"
      actor := actorOf unicode created
      sourceIp := none
      attributes :=
        [("uid", .str (groupText created "uid")), ("gid", .str (groupText created "gid"))] }

/-- The branch for usermod and gpasswd. -/
def parseGroupChange (patterns : List Regex) (message : String) : Option ParsedSecurityEvent :=
  (fullMatchAmong patterns message).map fun changed =>
    let rawAction := unicode.lower (groupText changed "action")
    let action := if ["add", "added"].contains rawAction then "added" else "removed"
    { eventType := "linux.account.privileged_group_changed"
      summary := "Privileged group membership changed"
      actor := actorOf unicode changed
      sourceIp := none
      attributes :=
        [("group", .str (unicode.lower (groupText changed "group"))), ("action", .str action)] }

/-- The branch for crontab. -/
def parseCrontab (message : String) : Option ParsedSecurityEvent :=
  (fullMatchAmong cronChanged message).map fun changed =>
    { eventType := "linux.cron.job_changed"
      summary := "Crontab modified"
      actor := actorOf unicode changed
      sourceIp := none
      attributes := [("action", .str (unicode.lower (groupText changed "action")))] }

/-- `_UNIT_STOPPED_MESSAGE_ID`. -/
def unitStoppedMessageId : String := "9d1aaa27d60140bd96365438aad20286"

/-- `_CRITICAL_UNITS`. -/
def criticalUnits : List String :=
  ["ssh.service", "rsyslog.service", "systemd-journald.service", "cron.service", "auditd.service"]

/-- `_systemd_unit_stopped`. -/
def systemdUnitStopped (fields : Fields) : Option ParsedSecurityEvent :=
  match fields.get "MESSAGE_ID", fields.get "UNIT" with
  | some (.str messageId), some (.str unit) =>
      if messageId ≠ unitStoppedMessageId || !(criticalUnits.contains unit) then none
      else
        some
          { eventType := "linux.systemd.unit_stopped"
            summary := "Security-relevant systemd unit stopped"
            actor := none
            sourceIp := none
            attributes := [("unit", .str unit)] }
  | _, _ => none

/-- The branches of `_parse_supported_message` behind the one for sshd. -/
def otherMessages (identifier : Option String) (fields : Fields) : Option ParsedSecurityEvent :=
  match fields.get "MESSAGE" with
  | some (.str message) =>
      if identifier = some "sudo" then parseSudo unicode message
      else if identifier = some "useradd" then parseUseradd unicode message
      else if identifier = some "usermod" then parseGroupChange unicode usermodGroup message
      else if identifier = some "gpasswd" then parseGroupChange unicode gpasswdGroup message
      else if identifier = some "crontab" then parseCrontab unicode message
      else if identifier = some "systemd" then systemdUnitStopped fields
      else none
  | _ => none

end Parsing

/-! ## What a match captures -/

/-- A part of a text was matched. -/
def Matched (pattern : Regex) (text : List Char) (captured : Captures) : Prop :=
  ∃ part, part ⊆ text ∧ pattern.Denotes part captured

section Captured

variable {pattern : Regex} {text : List Char} {captured : Captures} {name : String}

theorem matched_of_fullMatch (matched : pattern.fullMatch text = some captured) :
    Matched pattern text captured :=
  ⟨text, fun _ member => member, Regex.denotes_of_fullMatch matched⟩

theorem matched_of_matchBefore {follows : List Char → Bool}
    (matched : pattern.matchBefore follows text = some captured) :
    Matched pattern text captured := by
  obtain ⟨part, inside, denotes⟩ := Regex.denotes_of_matchBefore matched
  exact ⟨part, inside.subset, denotes⟩

theorem Matched.mono {part : List Char} (matched : Matched pattern part captured)
    (inside : part ⊆ text) : Matched pattern text captured := by
  obtain ⟨smaller, within, denotes⟩ := matched
  exact ⟨smaller, fun c member => inside (within member), denotes⟩

/-- A group that was captured has matched a part of the text. -/
theorem Matched.group (matched : Matched pattern text captured)
    {part : List Char} (found : captured.lookup name = some part) :
    part ⊆ text ∧ ∃ inner more, (name, inner) ∈ pattern.groups ∧ inner.Denotes part more := by
  obtain ⟨whole, inside, denotes⟩ := matched
  obtain ⟨before, after, rfl, _⟩ := List.lookup_eq_some_iff.mp found
  have member : (name, part) ∈ before ++ (name, part) :: after :=
    List.mem_append_right _ List.mem_cons_self
  obtain ⟨within, inner, more, among, part_denotes⟩ := denotes.of_captured member
  exact ⟨fun c here => inside (within here), inner, more, among, part_denotes⟩

/-- **No captured part has a character that the text does not have.** -/
theorem Matched.hasNul_groupText (matched : Matched pattern text captured)
    (clean : '\x00' ∉ text) : hasNul (groupText captured name) = false := by
  rw [hasNul, groupText, String.toList_ofList, List.contains_eq_mem, decide_eq_false_iff_not]
  intro member
  cases found : captured.lookup name with
  | none =>
      rw [found] at member
      cases member
  | some part =>
      rw [found, Option.getD_some] at member
      exact clean ((matched.group found).1 member)

/-- A pattern that captures an account as the actor. -/
def NamesAccount (pattern : Regex) : Prop :=
  ∀ inner, ("actor", inner) ∈ pattern.groups → inner = account ∨ inner = writtenAccount

/-- One character, and at most 31 others. -/
theorem length_account {first others : Char → Bool} {part : List Char} {more : Captures}
    (denotes : Regex.Denotes (.all [.literal [first], .many others 0 (some 31)]) part more) :
    part.length ≤ 32 := by
  obtain ⟨head, _, _, _, rfl, rfl, head_denotes, denotes⟩ := denotes.of_all_cons
  obtain ⟨tail, _, _, _, rfl, rfl, tail_denotes, denotes⟩ := denotes.of_all_cons
  obtain ⟨rfl, rfl⟩ := denotes.of_all_nil
  have one : head.length = 1 := head_denotes.of_literal.2.length_eq.symm
  have few : tail.length ≤ 31 := by
    cases tail_denotes with
    | many _ _ bounded => exact bounded 31 rfl
  rw [List.append_nil, List.length_append]
  omega

/-- **A captured account is short.** -/
theorem Matched.length_actor (matched : Matched pattern text captured)
    (account : NamesAccount pattern) : (groupText captured "actor").length ≤ 32 := by
  rw [← String.length_toList, groupText, String.toList_ofList]
  cases found : captured.lookup "actor" with
  | none => exact Nat.zero_le 32
  | some part =>
      obtain ⟨_, inner, more, among, denotes⟩ := matched.group found
      rw [Option.getD_some]
      rcases account inner among with rfl | rfl
      · exact length_account denotes
      · exact length_account denotes

end Captured

/-! ## Which patterns match -/

section Found

variable {unicode : UnicodeTables} {message : String} {captured : Captures}

theorem matched_sudoFailure (found : sudoFailure unicode message.toList = some captured) :
    Matched sudoUser message.toList captured := by
  obtain ⟨before, text, inside, attempted⟩ := Regex.exists_of_search found
  rw [wordStart] at attempted
  split at attempted
  · cases attempted
  obtain ⟨⟨opening, rest⟩, way, matched⟩ := List.exists_of_findSome?_eq_some attempted
  dsimp only at matched
  split at matched
  · cases matched
  obtain ⟨words, rfl, _⟩ := Regex.denotes_of_run way
  refine (matched_of_matchBefore matched).mono fun c member => ?_
  exact inside.subset (List.mem_append_right words member)

theorem matched_userCreated (found : userCreated unicode message.toList = some captured) :
    Matched (newUser unicode) message.toList captured := by
  obtain ⟨before, text, inside, attempted⟩ := Regex.exists_of_search found
  rw [wordStart] at attempted
  split at attempted
  · cases attempted
  · exact (matched_of_matchBefore attempted).mono inside.subset

theorem matched_fullMatchAmong {patterns : List Regex}
    (found : fullMatchAmong patterns message = some captured) :
    ∃ pattern ∈ patterns, Matched pattern message.toList captured := by
  obtain ⟨pattern, among, matched⟩ := List.exists_of_findSome?_eq_some found
  exact ⟨pattern, among, matched_of_fullMatch matched⟩

/-- Literals and accounts have no groups inside. -/
theorem groups_ignoringCase (text : String) : (ignoringCase text).groups = [] := rfl

theorem groups_spelled (text : List Char) : (Regex.spelled text).groups = [] := rfl

theorem groups_account : account.groups = [] := rfl

theorem groups_writtenAccount : writtenAccount.groups = [] := rfl

theorem namesAccount_sshPattern {opening : String} {invalid : Regex}
    (unnamed : ∀ inner, ("actor", inner) ∉ invalid.groups) :
    NamesAccount (sshPattern unicode opening invalid) := by
  intro inner member
  left
  simpa [sshPattern, Regex.groups_all, Regex.groups, groups_ignoringCase, groups_account,
    unnamed inner] using member

theorem namesAccount_sudoUser : NamesAccount sudoUser := by
  intro inner member
  left
  simpa [sudoUser, Regex.groups_all, Regex.groups, groups_ignoringCase, groups_account] using member

theorem namesAccount_newUser : NamesAccount (newUser unicode) := by
  intro inner member
  left
  simpa [newUser, Regex.groups_all, Regex.groups, groups_ignoringCase, groups_account] using member

theorem namesAccount_usermodGroup {pattern : Regex} (among : pattern ∈ usermodGroup) :
    NamesAccount pattern := by
  intro inner member
  obtain ⟨⟨action, direction, group⟩, _, rfl⟩ := List.mem_map.mp among
  left
  simpa [Regex.groups_all, Regex.groups, groups_ignoringCase, groups_account] using member

theorem namesAccount_gpasswdGroup {pattern : Regex} (among : pattern ∈ gpasswdGroup) :
    NamesAccount pattern := by
  intro inner member
  obtain ⟨⟨action, direction, group⟩, _, rfl⟩ := List.mem_map.mp among
  left
  simpa [Regex.groups_all, Regex.groups, groups_ignoringCase, groups_account] using member

theorem namesAccount_cronChanged {pattern : Regex} (among : pattern ∈ cronChanged) :
    NamesAccount pattern := by
  intro inner member
  obtain ⟨action, _, rfl⟩ := List.mem_map.mp among
  right
  simpa [Regex.groups_all, Regex.groups, groups_spelled, groups_writtenAccount] using member

end Found

/-! ## The checks of the contract -/

/-- What `str.lower` does to the length of a text, and that it makes no NUL. -/
structure LowerCases (unicode : UnicodeTables) : Prop where
  length (text : String) : (unicode.lower text).length ≤ 3 * text.length
  hasNul (text : String) : hasNul text = false → hasNul (unicode.lower text) = false

/-- A parsed record that passes the checks of the contract, and that is read back from
its JSON text. -/
structure Reportable (parsed : ParsedSecurityEvent) : Prop where
  validates : parsed.validates = true
  address : ∀ text ∈ parsed.sourceIp, ∃ address : IpAddress, address.Scoped ∧ text = address.text
  attributes : (JsonValue.obj parsed.attributes).WellFormed

/-- The checks of an event type and a summary, which the parsers fix. -/
def fixedTextsPass (eventType summary : String) : Bool :=
  isEventType eventType && eventType.length ≤ 100 && summary.length ≤ 1000 && !hasNul summary

/-- A text without NUL, a number or a truth value. -/
def IsPlain : JsonValue → Prop
  | .str text => hasNul text = false
  | .int _ => True
  | .bool _ => True
  | _ => False

/-- The names that the parsers fix. -/
def fixedNamesPass (names : List String) : Bool := names.Nodup && names.all (!hasNul ·)

/-- Attributes with plain values. -/
structure PlainAttributes (attributes : List (String × JsonValue)) : Prop where
  names : fixedNamesPass (attributes.map Prod.fst) = true
  plain : ∀ entry ∈ attributes, IsPlain entry.2

theorem rejectsNul_of_isPlain {value : JsonValue} (plain : IsPlain value) :
    rejectsNul value = false := by
  cases value with
  | str text => exact plain
  | int number => rfl
  | bool truth => rfl
  | null => cases plain
  | float number => cases plain
  | arr items => cases plain
  | obj members => cases plain

theorem wellFormed_of_isPlain {value : JsonValue} (plain : IsPlain value) : value.WellFormed := by
  cases value with
  | str text => trivial
  | int number => trivial
  | bool truth => trivial
  | null => cases plain
  | float number => cases plain
  | arr items => cases plain
  | obj members => cases plain

/-- **Plain attributes pass the check for NUL, and are read back.** -/
theorem PlainAttributes.passes {attributes : List (String × JsonValue)}
    (plain : PlainAttributes attributes) :
    rejectsNul (.obj attributes) = false ∧ (JsonValue.obj attributes).WellFormed := by
  obtain ⟨names, each⟩ := plain
  rw [fixedNamesPass, Bool.and_eq_true, decide_eq_true_eq] at names
  obtain ⟨different, clean⟩ := names
  have members : rejectsNulMembers attributes = false ∧
      JsonValue.WellFormedMembers attributes := by
    clear different
    induction attributes with
    | nil => exact ⟨rfl, trivial⟩
    | cons entry rest ih =>
        obtain ⟨name, value⟩ := entry
        rw [List.map_cons, List.all_cons, Bool.and_eq_true, Bool.not_eq_true'] at clean
        have here := each _ List.mem_cons_self
        obtain ⟨rest_clean, rest_wellFormed⟩ :=
          ih (fun entry later => each entry (List.mem_cons_of_mem _ later)) clean.2
        refine ⟨?_, wellFormed_of_isPlain here, rest_wellFormed⟩
        rw [rejectsNulMembers, clean.1, rejectsNul_of_isPlain here, rest_clean]
        rfl
  exact ⟨members.1, different, members.2⟩

/-- **The checks of what a parser has read.** -/
theorem reportable_of_parts {parsed : ParsedSecurityEvent}
    (texts : fixedTextsPass parsed.eventType parsed.summary = true)
    (actors : ∀ actor ∈ parsed.actor, actor.length ≤ 255 ∧ hasNul actor = false)
    (address : ∀ text ∈ parsed.sourceIp, ∃ address : IpAddress,
      address.Scoped ∧ text = address.text)
    (attributes : PlainAttributes parsed.attributes) : Reportable parsed := by
  obtain ⟨clean, wellFormed⟩ := attributes.passes
  refine ⟨?_, address, wellFormed⟩
  simp only [fixedTextsPass, Bool.and_eq_true] at texts
  obtain ⟨⟨⟨kind, short⟩, summary_short⟩, summary_clean⟩ := texts
  have named : (parsed.actor.all fun actor => actor.length ≤ 255 && !hasNul actor) = true := by
    rw [Option.all_eq_true]
    intro actor present
    obtain ⟨length, no_nul⟩ := actors actor present
    rw [decide_eq_true length, no_nul]
    rfl
  rw [ParsedSecurityEvent.validates, kind, short, named, summary_short, summary_clean, clean]
  rfl

/-- An address that was validated. -/
theorem scoped_of_validatedIp {text : String} {address : IpAddress}
    (valid : validatedIp text = some address) :
    ∀ written ∈ some address.text, ∃ address : IpAddress,
      address.Scoped ∧ written = address.text := by
  rintro written ⟨⟩
  exact ⟨address, scoped_of_parseAddress valid, rfl⟩

section Branches

variable {unicode : UnicodeTables} {message : String} {parsed : ParsedSecurityEvent}

/-- **The actor of a match passes its checks.** -/
theorem actorOf_passes (lower : LowerCases unicode) {pattern : Regex} {captured : Captures}
    (matched : Matched pattern message.toList captured) (account : NamesAccount pattern)
    (clean : '\x00' ∉ message.toList) :
    ∀ actor ∈ actorOf unicode captured, actor.length ≤ 255 ∧ hasNul actor = false := by
  rintro actor ⟨⟩
  have short := matched.length_actor account
  have lowered := lower.length (groupText captured "actor")
  exact ⟨by omega, lower.hasNul _ (matched.hasNul_groupText clean)⟩

theorem reportable_parseSshd (lower : LowerCases unicode) (clean : '\x00' ∉ message.toList)
    (recognised : parseSshd unicode message = some parsed) : Reportable parsed := by
  rw [parseSshd] at recognised
  split at recognised
  next failed found =>
    obtain ⟨address, valid, rfl⟩ := Option.map_eq_some_iff.mp recognised
    have matched := matched_of_fullMatch found
    have account : NamesAccount (sshFailed unicode) := namesAccount_sshPattern (by
      simp [Regex.groups, groups_ignoringCase])
    refine reportable_of_parts
      (show fixedTextsPass "linux.ssh.authentication_failed" "SSH authentication failed" = true by
        decide)
      (actorOf_passes lower matched account clean) (scoped_of_validatedIp valid) ⟨?_, ?_⟩
    · exact show fixedNamesPass ["authentication_method", "invalid_user"] = true by decide
    · exact List.forall_mem_cons.mpr ⟨lower.hasNul _ (matched.hasNul_groupText clean),
        List.forall_mem_singleton.mpr trivial⟩
  · split at recognised
    next succeeded found =>
      obtain ⟨address, valid, rfl⟩ := Option.map_eq_some_iff.mp recognised
      have matched := matched_of_fullMatch found
      have account : NamesAccount (sshSucceeded unicode) := namesAccount_sshPattern (by
        simp [Regex.groups])
      refine reportable_of_parts
        (show fixedTextsPass "linux.ssh.login_succeeded" "SSH login succeeded" = true by decide)
        (actorOf_passes lower matched account clean) (scoped_of_validatedIp valid) ⟨?_, ?_⟩
      · exact show fixedNamesPass ["authentication_method"] = true by decide
      · exact List.forall_mem_singleton.mpr (lower.hasNul _ (matched.hasNul_groupText clean))
    · cases recognised

theorem reportable_parseSudo (lower : LowerCases unicode) (clean : '\x00' ∉ message.toList)
    (recognised : parseSudo unicode message = some parsed) : Reportable parsed := by
  obtain ⟨captured, found, rfl⟩ := Option.map_eq_some_iff.mp recognised
  exact reportable_of_parts
    (show fixedTextsPass "linux.sudo.authentication_failed" "Sudo authentication failed" = true by
      decide)
    (actorOf_passes lower (matched_sudoFailure found) namesAccount_sudoUser clean) nofun
    ⟨rfl, nofun⟩

theorem reportable_parseUseradd (lower : LowerCases unicode) (clean : '\x00' ∉ message.toList)
    (recognised : parseUseradd unicode message = some parsed) : Reportable parsed := by
  obtain ⟨captured, found, rfl⟩ := Option.map_eq_some_iff.mp recognised
  have matched := matched_userCreated found
  refine reportable_of_parts
    (show fixedTextsPass "linux.account.user_created" "Local user account created" = true by decide)
    (actorOf_passes lower matched namesAccount_newUser clean) nofun ⟨?_, ?_⟩
  · exact show fixedNamesPass ["uid", "gid"] = true by decide
  · exact List.forall_mem_cons.mpr ⟨matched.hasNul_groupText clean,
      List.forall_mem_singleton.mpr (matched.hasNul_groupText clean)⟩

theorem reportable_parseGroupChange (lower : LowerCases unicode) {patterns : List Regex}
    (accounts : ∀ pattern ∈ patterns, NamesAccount pattern) (clean : '\x00' ∉ message.toList)
    (recognised : parseGroupChange unicode patterns message = some parsed) : Reportable parsed := by
  obtain ⟨captured, found, rfl⟩ := Option.map_eq_some_iff.mp recognised
  obtain ⟨pattern, among, matched⟩ := matched_fullMatchAmong found
  refine reportable_of_parts
    (show fixedTextsPass "linux.account.privileged_group_changed"
      "Privileged group membership changed" = true by decide)
    (actorOf_passes lower matched (accounts pattern among) clean) nofun ⟨?_, ?_⟩
  · exact show fixedNamesPass ["group", "action"] = true by decide
  · refine List.forall_mem_cons.mpr ⟨lower.hasNul _ (matched.hasNul_groupText clean),
      List.forall_mem_singleton.mpr ?_⟩
    change hasNul (if _ then "added" else "removed") = false
    split <;> decide

theorem reportable_parseCrontab (lower : LowerCases unicode) (clean : '\x00' ∉ message.toList)
    (recognised : parseCrontab unicode message = some parsed) : Reportable parsed := by
  obtain ⟨captured, found, rfl⟩ := Option.map_eq_some_iff.mp recognised
  obtain ⟨pattern, among, matched⟩ := matched_fullMatchAmong found
  refine reportable_of_parts
    (show fixedTextsPass "linux.cron.job_changed" "Crontab modified" = true by decide)
    (actorOf_passes lower matched (namesAccount_cronChanged among) clean) nofun ⟨?_, ?_⟩
  · exact show fixedNamesPass ["action"] = true by decide
  · exact List.forall_mem_singleton.mpr (lower.hasNul _ (matched.hasNul_groupText clean))

theorem reportable_systemdUnitStopped {fields : Fields}
    (recognised : systemdUnitStopped fields = some parsed) : Reportable parsed := by
  rw [systemdUnitStopped] at recognised
  split at recognised
  next messageId unit _ _ =>
    split at recognised
    · cases recognised
    next known =>
      cases recognised
      have critical : unit ∈ criticalUnits := by
        simpa using (Bool.or_eq_false_iff.mp (Bool.eq_false_iff.mpr known)).2
      have each : (criticalUnits.all (!hasNul ·)) = true := by decide
      have clean : hasNul unit = false := by
        simpa using List.all_eq_true.mp each unit critical
      refine reportable_of_parts
        (show fixedTextsPass "linux.systemd.unit_stopped" "Security-relevant systemd unit stopped" =
          true by decide)
        nofun nofun ⟨?_, ?_⟩
      · exact show fixedNamesPass ["unit"] = true by decide
      · exact List.forall_mem_singleton.mpr clean
  · cases recognised

end Branches

/-- **Every event of a log message passes the checks of the contract.** -/
theorem reportable_parseMessage {unicode : UnicodeTables} (lower : LowerCases unicode)
    {fields : Fields} {parsed : ParsedSecurityEvent}
    (recognised : parseMessage unicode (otherMessages unicode) fields = some parsed) :
    Reportable parsed := by
  rw [parseMessage] at recognised
  split at recognised
  next message present =>
    split at recognised
    · cases recognised
    next no_nul =>
    have clean : '\x00' ∉ message.toList := by
      simpa [hasNul] using no_nul
    split at recognised
    · exact reportable_parseSshd lower clean recognised
    · rw [otherMessages, present] at recognised
      dsimp only at recognised
      split_ifs at recognised
      · exact reportable_parseSudo lower clean recognised
      · exact reportable_parseUseradd lower clean recognised
      · exact reportable_parseGroupChange lower (fun _ => namesAccount_usermodGroup) clean recognised
      · exact reportable_parseGroupChange lower (fun _ => namesAccount_gpasswdGroup) clean recognised
      · exact reportable_parseCrontab lower clean recognised
      · exact reportable_systemdUnitStopped recognised
  · cases recognised

end WolandGuard.Agent
