import WolandGuard.Agent.Normalization
import WolandGuard.Foundations.Lines
import WolandGuard.Foundations.Regex
import WolandGuard.IpBlocks.Address

/-!
# Messages of sshd

The patterns for failed and accepted logins, and what is made of a message that
one of them matches. The user name in a message is whatever the client sent. It
stands before the address, which is followed by the port and the protocol to the
end of the message; these have no blanks in them, so that the address is found
from the end, whatever the name contains.
-/

set_option autoImplicit false

namespace WolandGuard.Agent

open Foundations IpBlocks

/-! ## Characters -/

/-- The character that `re.IGNORECASE` compares: the lower-case letter, and the
ASCII letter of the four other letters that count as one. -/
def foldCase (c : Char) : Char :=
  if c.isUpper then Char.ofNat (c.toNat + 32)
  else if c.toNat = 0x130 ∨ c.toNat = 0x131 then 'i'
  else if c.toNat = 0x17f then 's'
  else if c.toNat = 0x212a then 'k'
  else c

/-- `\s`. -/
def isRegexSpace (c : Char) : Bool :=
  (9 ≤ c.toNat && c.toNat ≤ 13) || (28 ≤ c.toNat && c.toNat ≤ 32) ||
    (0x2000 ≤ c.toNat && c.toNat ≤ 0x200a) ||
    [0x85, 0xa0, 0x1680, 0x2028, 0x2029, 0x202f, 0x205f, 0x3000].contains c.toNat

/-- A literal under `re.IGNORECASE`. -/
def ignoringCase (text : String) : Regex :=
  .literal (text.toList.map fun expected c => foldCase c = foldCase expected)

theorem toNat_ofNat {n : Nat} (small : n < 0xd800) : (Char.ofNat n).toNat = n := by
  have valid : n.isValidChar := .inl small
  rw [Char.ofNat, dif_pos valid]
  rfl

/-- Only the blank counts as one. -/
theorem foldCase_eq_blank {c : Char} : foldCase c = ' ' ↔ c = ' ' := by
  have blank : ' '.toNat = 32 := rfl
  constructor
  · intro same
    unfold foldCase at same
    split_ifs at same with upper i s k
    · have range := isUpper_iff.mp upper
      have code := congrArg Char.toNat same
      rw [toNat_ofNat (by omega)] at code
      omega
    · exact absurd same (by decide)
    · exact absurd same (by decide)
    · exact absurd same (by decide)
    · exact same
  · rintro rfl
    decide

theorem foldCase_digit {c : Char} (digit : c.isDigit = true) : foldCase c = c := by
  have range : 48 ≤ c.toNat ∧ c.toNat ≤ 57 := Char.isDigit_iff_toNat.mp digit
  have lower : c.isUpper = false := by
    by_contra upper
    have letters := isUpper_iff.mp (Bool.of_not_eq_false upper)
    omega
  unfold foldCase
  rw [if_neg (by simp [lower]), if_neg (by omega), if_neg (by omega), if_neg (by omega)]

/-- Digits are not a word, in whatever case. -/
theorem digits_ne_word {digits : List Char} {first : Char} {rest : List Char}
    (each : ∀ c ∈ digits, c.isDigit = true) (letter : first.isDigit = false) :
    digits.map foldCase ≠ first :: rest := by
  intro same
  cases digits with
  | nil => cases same
  | cons c digits =>
      have digit := each c (List.mem_cons_self ..)
      rw [List.map_cons, foldCase_digit digit] at same
      rw [(List.cons.inj same).1, letter] at digit
      cases digit

/-- A matched literal is the literal up to case. -/
theorem denotes_ignoringCase {literal : String} {text : List Char} {captured : Captures}
    (denotes : Regex.Denotes (ignoringCase literal) text captured) :
    captured = [] ∧ text.map foldCase = literal.toList.map foldCase := by
  obtain ⟨nothing, each⟩ := denotes.of_literal
  refine ⟨nothing, ?_⟩
  clear denotes nothing
  generalize literal.toList = expected at each
  induction expected generalizing text with
  | nil =>
      cases each
      rfl
  | cons first rest ih =>
      cases each with
      | cons same others =>
          rw [List.map_cons, List.map_cons, of_decide_eq_true same, ih others]

/-- A word has no blank when what it stands for has none. -/
theorem blank_not_mem {text word : List Char} (same : text.map foldCase = word)
    (none_in_word : ' ' ∉ word) : ' ' ∉ text := by
  intro member
  refine none_in_word ?_
  rw [← same]
  exact List.mem_map.mpr ⟨' ', member, foldCase_eq_blank.mpr rfl⟩

/-- A matched word between blanks. -/
theorem word_between_blanks {text word : List Char}
    (same : text.map foldCase = ' ' :: (word ++ [' '])) :
    ∃ matched, text = ' ' :: (matched ++ [' ']) ∧ matched.map foldCase = word := by
  obtain ⟨c, rest, rfl, first, others⟩ := List.map_eq_cons_iff.mp same
  obtain ⟨matched, tail, rfl, inside, last⟩ := List.map_eq_append_iff.mp others
  obtain ⟨d, rfl, blank⟩ := List.map_eq_singleton_iff.mp last
  rw [foldCase_eq_blank.mp first, foldCase_eq_blank.mp blank]
  exact ⟨matched, rfl, inside⟩

/-! ## The address is found from the end -/

section Tail

variable {front fromWord source portText sshText lead ip port : List Char}

/-- **What stands between the last `from` and the tail is the address.** -/
theorem source_eq_ip
    (whole : front ++ ' ' :: (fromWord ++ ' ' :: (source ++ (portText ++ sshText))) =
      lead ++ ' ' :: ("from".toList ++ ' ' :: (ip ++ ' ' :: ("port".toList ++
        ' ' :: (port ++ ' ' :: "ssh2".toList)))))
    (from_word : fromWord.map foldCase = "from".toList) (no_blank : ' ' ∉ source)
    (port_text : portText = [] ∨ ∃ word digits, portText = ' ' :: (word ++ ' ' :: digits) ∧
      word.map foldCase = "port".toList ∧ ' ' ∉ digits)
    (ssh_text : sshText = [] ∨ ∃ word, sshText = ' ' :: word ∧ ' ' ∉ word)
    (ip_whole : ' ' ∉ ip) (digits : ∀ c ∈ port, c.isDigit = true) : source = ip := by
  have port_whole : ' ' ∉ port := fun member => absurd (digits _ member) (by decide)
  have from_whole : ' ' ∉ fromWord := blank_not_mem from_word (by decide)
  have ssh_whole : ' ' ∉ "ssh2".toList := by decide
  have not_from : port.map foldCase ≠ "from".toList := digits_ne_word digits (by decide)
  have not_port : port.map foldCase ≠ "port".toList := digits_ne_word digits (by decide)
  -- the message, cut at its last blanks
  have message : lead ++ ' ' :: ("from".toList ++ ' ' :: (ip ++ ' ' :: ("port".toList ++
        ' ' :: (port ++ ' ' :: "ssh2".toList)))) =
      ((((lead ++ ' ' :: "from".toList) ++ ' ' :: ip) ++ ' ' :: "port".toList) ++ ' ' :: port) ++
        ' ' :: "ssh2".toList := by simp only [List.append_assoc, List.cons_append]
  rw [message] at whole
  rcases port_text with rfl | ⟨portWord, portDigits, rfl, port_word, port_digits⟩ <;>
    rcases ssh_text with rfl | ⟨sshWord, rfl, ssh_word⟩
  · -- neither the port nor the protocol: the last word would follow `from`
    have cut : front ++ ' ' :: (fromWord ++ ' ' :: (source ++ ([] ++ []))) =
        (front ++ ' ' :: fromWord) ++ ' ' :: source := by simp
    rw [cut] at whole
    obtain ⟨before, _⟩ := last_separator no_blank ssh_whole whole
    obtain ⟨_, word⟩ := last_separator from_whole port_whole before
    exact absurd (word ▸ from_word) not_from
  · -- the protocol alone: the port would follow `from`
    have cut : front ++ ' ' :: (fromWord ++ ' ' :: (source ++ ([] ++ ' ' :: sshWord))) =
        ((front ++ ' ' :: fromWord) ++ ' ' :: source) ++ ' ' :: sshWord := by simp
    rw [cut] at whole
    obtain ⟨before, _⟩ := last_separator ssh_word ssh_whole whole
    obtain ⟨before, _⟩ := last_separator no_blank port_whole before
    obtain ⟨_, word⟩ := last_separator from_whole (by decide) before
    exact absurd (word ▸ from_word) (by decide)
  · -- the port alone: the protocol would be its number
    have cut : front ++ ' ' :: (fromWord ++ ' ' :: (source ++
          (' ' :: (portWord ++ ' ' :: portDigits) ++ []))) =
        (((front ++ ' ' :: fromWord) ++ ' ' :: source) ++ ' ' :: portWord) ++
          ' ' :: portDigits := by simp
    rw [cut] at whole
    obtain ⟨before, _⟩ := last_separator port_digits ssh_whole whole
    obtain ⟨_, word⟩ := last_separator (blank_not_mem port_word (by decide)) port_whole before
    exact absurd (word ▸ port_word) not_port
  · -- both, as sshd has written them
    have cut : front ++ ' ' :: (fromWord ++ ' ' :: (source ++
          (' ' :: (portWord ++ ' ' :: portDigits) ++ ' ' :: sshWord))) =
        ((((front ++ ' ' :: fromWord) ++ ' ' :: source) ++ ' ' :: portWord) ++
          ' ' :: portDigits) ++ ' ' :: sshWord := by simp
    rw [cut] at whole
    obtain ⟨before, _⟩ := last_separator ssh_word ssh_whole whole
    obtain ⟨before, _⟩ := last_separator port_digits port_whole before
    obtain ⟨before, _⟩ := last_separator (blank_not_mem port_word (by decide)) (by decide) before
    exact (last_separator no_blank ip_whole before).2

end Tail

/-! ## The patterns -/

/-- `[a-z0-9-]` under `re.IGNORECASE`. -/
def isMethodChar (c : Char) : Bool :=
  (foldCase c).isLower || (foldCase c).isDigit || foldCase c = '-'

/-- `_ACCOUNT` under `re.IGNORECASE`. -/
def account : Regex :=
  .all
    [.literal [fun c => (foldCase c).isLower || foldCase c = '_'],
      .many (fun c => (foldCase c).isLower || (foldCase c).isDigit || foldCase c = '_' ||
        foldCase c = '-') 0 (some 31)]

section Patterns

variable (unicode : UnicodeTables)

/-- `\d`. -/
def isDecimalDigit (c : Char) : Bool := unicode.category c = "Nd"

/-- The value of a character that `\d` matches: an ASCII digit counts by its code,
any other one by the tables. -/
def digitValue (c : Char) : Nat :=
  if c.isDigit then c.toNat - '0'.toNat else (unicode.decimal c).getD 0

/-- `int` of a text that `\d+` matches. -/
def intOfDigits (text : List Char) : Nat :=
  text.foldl (fun value c => 10 * value + digitValue unicode c) 0

/-- The form of both patterns: they differ in the first word, and in what may
stand before the account. -/
def sshPattern (opening : String) (invalid : Regex) : Regex :=
  .all
    [ignoringCase opening, .group "method" (.many isMethodChar 1 none), ignoringCase " for ",
      invalid, .group "actor" account, ignoringCase " from ",
      .group "source_ip" (.many (fun c => !isRegexSpace c) 1 none),
      .optional (.all [ignoringCase " port ", .many (isDecimalDigit unicode) 1 none]),
      .optional (.all [ignoringCase " ssh", .many (isDecimalDigit unicode) 1 none])]

/-- `_SSH_FAILED`. -/
def sshFailed : Regex :=
  sshPattern unicode "Failed " (.optional (.group "invalid" (ignoringCase "invalid user ")))

/-- `_SSH_SUCCEEDED`. -/
def sshSucceeded : Regex := sshPattern unicode "Accepted " (.literal [])

end Patterns

section Matches

variable {unicode : UnicodeTables} {text : List Char} {captured : Captures}

/-- Of the ASCII characters the ten digits are the decimal ones. -/
theorem isDecimalDigit_ascii {c : Char} (ascii : c.toNat < 128) :
    isDecimalDigit unicode c = c.isDigit := by
  have table : ∀ n < 128, decide (Incidents.UnicodeData.ascii.category (Char.ofNat n) = "Nd") =
      (Char.ofNat n).isDigit := by decide +kernel
  have here := table c.toNat ascii
  rw [Char.ofNat_toNat] at here
  rw [isDecimalDigit, unicode.category_ascii c ascii, here]

theorem blank_not_digit : isDecimalDigit unicode ' ' = false :=
  isDecimalDigit_ascii (show ' '.toNat < 128 by decide)

/-- `int` of ASCII digits. -/
theorem intOfDigits_ascii {text : List Char} (each : ∀ c ∈ text, c.isDigit = true) :
    intOfDigits unicode text = Nat.ofDigitChars 10 text 0 := by
  rw [intOfDigits, Nat.ofDigitChars_eq_foldl]
  refine List.foldl_ext _ _ 0 ?_
  intro value c member
  rw [digitValue, if_pos (each c member)]

/-- The optional port. -/
theorem denotes_port (denotes : Regex.Denotes
      (.optional (.all [ignoringCase " port ", .many (isDecimalDigit unicode) 1 none])) text captured) :
    captured = [] ∧ (text = [] ∨ ∃ word digits, text = ' ' :: (word ++ ' ' :: digits) ∧
      word.map foldCase = "port".toList ∧ ' ' ∉ digits) := by
  rcases denotes.of_optional with ⟨rfl, rfl⟩ | denotes
  · exact ⟨rfl, .inl rfl⟩
  obtain ⟨label, rest, _, _, rfl, rfl, label_denotes, denotes⟩ := denotes.of_all_cons
  obtain ⟨digits, nothing, _, _, rfl, rfl, digits_denotes, denotes⟩ := denotes.of_all_cons
  obtain ⟨rfl, rfl⟩ := denotes.of_all_nil
  obtain ⟨rfl, same⟩ := denotes_ignoringCase label_denotes
  obtain ⟨rfl, each⟩ := digits_denotes.of_many
  obtain ⟨word, rfl, word_same⟩ : ∃ word, label = ' ' :: (word ++ [' ']) ∧
    word.map foldCase = "port".toList := word_between_blanks same
  refine ⟨rfl, .inr ⟨word, digits, by simp, word_same, ?_⟩⟩
  intro member
  exact absurd (each _ member) (by simp [blank_not_digit])

/-- The optional protocol. -/
theorem denotes_protocol (denotes : Regex.Denotes
      (.optional (.all [ignoringCase " ssh", .many (isDecimalDigit unicode) 1 none])) text captured) :
    captured = [] ∧ (text = [] ∨ ∃ word, text = ' ' :: word ∧ ' ' ∉ word) := by
  rcases denotes.of_optional with ⟨rfl, rfl⟩ | denotes
  · exact ⟨rfl, .inl rfl⟩
  obtain ⟨label, rest, _, _, rfl, rfl, label_denotes, denotes⟩ := denotes.of_all_cons
  obtain ⟨digits, nothing, _, _, rfl, rfl, digits_denotes, denotes⟩ := denotes.of_all_cons
  obtain ⟨rfl, rfl⟩ := denotes.of_all_nil
  obtain ⟨rfl, same⟩ := denotes_ignoringCase label_denotes
  obtain ⟨rfl, each⟩ := digits_denotes.of_many
  obtain ⟨c, word, rfl, blank, word_same⟩ := List.map_eq_cons_iff.mp same
  rw [foldCase_eq_blank.mp (blank.trans (by decide))]
  refine ⟨rfl, .inr ⟨word ++ digits, by simp, ?_⟩⟩
  intro member
  rcases List.mem_append.mp member with inside | after
  · exact blank_not_mem word_same (by decide) inside
  · exact absurd (each _ after) (by simp [blank_not_digit])

/-- **What a matched message looks like.** -/
theorem denotes_sshPattern {opening : String} {invalid : Regex}
    (denotes : Regex.Denotes (sshPattern unicode opening invalid) text captured)
    (apart : ∀ part captures, Regex.Denotes invalid part captures →
      captures.lookup "source_ip" = none) :
    (∃ word rest, text = word ++ rest ∧ word.map foldCase = opening.toList.map foldCase) ∧
      ∃ front fromWord source portText sshText,
        text = front ++ ' ' :: (fromWord ++ ' ' :: (source ++ (portText ++ sshText))) ∧
        fromWord.map foldCase = "from".toList ∧ ' ' ∉ source ∧
        (portText = [] ∨ ∃ word digits, portText = ' ' :: (word ++ ' ' :: digits) ∧
          word.map foldCase = "port".toList ∧ ' ' ∉ digits) ∧
        (sshText = [] ∨ ∃ word, sshText = ' ' :: word ∧ ' ' ∉ word) ∧
        captured.lookup "source_ip" = some source := by
  obtain ⟨word, _, _, _, rfl, rfl, word_denotes, denotes⟩ := denotes.of_all_cons
  obtain ⟨method, _, _, _, rfl, rfl, method_denotes, denotes⟩ := denotes.of_all_cons
  obtain ⟨forWord, _, _, _, rfl, rfl, for_denotes, denotes⟩ := denotes.of_all_cons
  obtain ⟨invalidText, _, invalidCaptures, _, rfl, rfl, invalid_denotes, denotes⟩ :=
    denotes.of_all_cons
  obtain ⟨actor, _, _, _, rfl, rfl, actor_denotes, denotes⟩ := denotes.of_all_cons
  obtain ⟨fromText, _, _, _, rfl, rfl, from_denotes, denotes⟩ := denotes.of_all_cons
  obtain ⟨source, _, _, _, rfl, rfl, source_denotes, denotes⟩ := denotes.of_all_cons
  obtain ⟨portText, _, _, _, rfl, rfl, port_denotes, denotes⟩ := denotes.of_all_cons
  obtain ⟨sshText, _, _, _, rfl, rfl, ssh_denotes, denotes⟩ := denotes.of_all_cons
  obtain ⟨rfl, rfl⟩ := denotes.of_all_nil
  obtain ⟨rfl, word_same⟩ := denotes_ignoringCase word_denotes
  obtain ⟨_, rfl, method_many⟩ := method_denotes.of_group
  obtain ⟨rfl, _⟩ := method_many.of_many
  obtain ⟨rfl, _⟩ := denotes_ignoringCase for_denotes
  obtain ⟨actorCaptures, rfl, actor_account⟩ := actor_denotes.of_group
  obtain ⟨rfl, from_same⟩ := denotes_ignoringCase from_denotes
  obtain ⟨_, rfl, source_many⟩ := source_denotes.of_group
  obtain ⟨rfl, source_each⟩ := source_many.of_many
  obtain ⟨rfl, port_shape⟩ := denotes_port port_denotes
  obtain ⟨rfl, ssh_shape⟩ := denotes_protocol ssh_denotes
  obtain ⟨fromWord, rfl, from_word⟩ : ∃ fromWord, fromText = ' ' :: (fromWord ++ [' ']) ∧
    fromWord.map foldCase = "from".toList := word_between_blanks from_same
  have no_blank : ' ' ∉ source := by
    intro member
    exact absurd (source_each _ member) (by decide)
  refine ⟨⟨word, _, rfl, word_same⟩, word ++ (method ++ (forWord ++ (invalidText ++ actor))),
    fromWord, source, portText, sshText, by simp, from_word, no_blank, port_shape, ssh_shape, ?_⟩
  have unnamed := apart _ _ invalid_denotes
  have in_account : actorCaptures = [] := by
    obtain ⟨_, _, _, _, _, rfl, head, rest⟩ := actor_account.of_all_cons
    obtain ⟨_, _, _, _, _, rfl, tail, rest⟩ := rest.of_all_cons
    rw [head.of_literal.1, tail.of_many.1, rest.of_all_nil.1]
    rfl
  subst in_account
  have found : (("method", method) :: (invalidCaptures ++
      [("actor", actor), ("source_ip", source)])).lookup "source_ip" = some source := by
    rw [List.lookup_cons, List.lookup_append, unnamed]
    rfl
  simpa using found

end Matches

/-! ## Parsing -/

section Parsing

variable (unicode : UnicodeTables)

/-- `_identifier`. -/
def identifier (fields : Fields) : Option String :=
  ["SYSLOG_IDENTIFIER", "_COMM"].findSome? fun name =>
    match fields.get name with
    | some (.str value) => if hasNul value then none else some (unicode.lower value)
    | _ => none

/-- `_validated_ip`. -/
def validatedIp (text : String) : Option IpAddress := parseAddress text

/-- `match.group(name)` of a group that takes part in every match. -/
def groupText (captured : Captures) (name : String) : String :=
  String.ofList ((captured.lookup name).getD [])

/-- The branch of `_parse_supported_message` for sshd. -/
def parseSshd (message : String) : Option ParsedSecurityEvent :=
  match (sshFailed unicode).fullMatch message.toList with
  | some failed =>
      (validatedIp (groupText failed "source_ip")).map fun sourceIp =>
        { eventType := "linux.ssh.authentication_failed"
          summary := "SSH authentication failed"
          actor := some (unicode.lower (groupText failed "actor"))
          sourceIp := some sourceIp.text
          attributes :=
            [("authentication_method", .str (unicode.lower (groupText failed "method"))),
              ("invalid_user", .bool (failed.lookup "invalid").isSome)] }
  | none =>
      match (sshSucceeded unicode).fullMatch message.toList with
      | some succeeded =>
          (validatedIp (groupText succeeded "source_ip")).map fun sourceIp =>
            { eventType := "linux.ssh.login_succeeded"
              summary := "SSH login succeeded"
              actor := some (unicode.lower (groupText succeeded "actor"))
              sourceIp := some sourceIp.text
              attributes :=
                [("authentication_method", .str (unicode.lower (groupText succeeded "method")))] }
      | none => none

/-- `_parse_supported_message` from `message = fields.get("MESSAGE")` on, where
`others` are the branches for the other identifiers. -/
def parseMessage (others : Option String → Fields → Option ParsedSecurityEvent) (fields : Fields) :
    Option ParsedSecurityEvent :=
  match fields.get "MESSAGE" with
  | some (.str message) =>
      if hasNul message then none
      else if identifier unicode fields = some "sshd" then parseSshd unicode message
      else others (identifier unicode fields) fields
  | _ => none

end Parsing

/-! ## What sshd writes -/

/-- The outcome of a login. -/
inductive SshdOutcome where
  | failed (invalidUser : Bool)
  | accepted
  deriving DecidableEq, Repr

namespace SshdOutcome

def opening : SshdOutcome → String
  | failed _ => "Failed "
  | accepted => "Accepted "

/-- What stands before the name of a user that does not exist. -/
def invalid : SshdOutcome → String
  | failed true => "invalid user "
  | _ => ""

def eventType : SshdOutcome → String
  | failed _ => "linux.ssh.authentication_failed"
  | accepted => "linux.ssh.login_succeeded"

/-- The message of sshd. -/
def message (outcome : SshdOutcome) (method user ip port : String) : String :=
  outcome.opening ++ method ++ " for " ++ outcome.invalid ++ user ++ " from " ++ ip ++ " port " ++
    port ++ " ssh2"

end SshdOutcome

section Genuine

variable {unicode : UnicodeTables} {outcome : SshdOutcome} {method user ip port : String}

theorem message_toList : (outcome.message method user ip port).toList =
    (outcome.opening.toList ++ (method.toList ++ (" for ".toList ++
      (outcome.invalid.toList ++ user.toList)))) ++ ' ' :: ("from".toList ++ ' ' :: (ip.toList ++
        ' ' :: ("port".toList ++ ' ' :: (port.toList ++ ' ' :: "ssh2".toList)))) := by
  simp [SshdOutcome.message]

/-- **A pattern that matches the message finds its address.** -/
theorem source_ip_of_match {opening : String} {invalid : Regex} {captured : Captures}
    (matched : (sshPattern unicode opening invalid).fullMatch
      (outcome.message method user ip port).toList = some captured)
    (apart : ∀ part captures, Regex.Denotes invalid part captures →
      captures.lookup "source_ip" = none)
    (ip_whole : ' ' ∉ ip.toList) (digits : ∀ c ∈ port.toList, c.isDigit = true) :
    groupText captured "source_ip" = ip ∧
      ∃ word rest, (outcome.message method user ip port).toList = word ++ rest ∧
        word.map foldCase = opening.toList.map foldCase := by
  obtain ⟨begins, front, fromWord, source, portText, sshText, whole, from_word, no_blank, port_text,
    ssh_text, found⟩ := denotes_sshPattern (Regex.denotes_of_fullMatch matched) apart
  refine ⟨?_, begins⟩
  rw [message_toList] at whole
  have same := source_eq_ip whole.symm from_word no_blank port_text ssh_text ip_whole digits
  rw [groupText, found, Option.getD_some, same, String.ofList_toList]

/-- The first letter of the message. -/
def SshdOutcome.initial : SshdOutcome → Char
  | .failed _ => 'F'
  | .accepted => 'A'

theorem message_initial :
    ∃ rest, (outcome.message method user ip port).toList = outcome.initial :: rest := by
  rw [message_toList]
  cases outcome with
  | failed invalidUser =>
      have opening : (SshdOutcome.failed invalidUser).opening.toList = 'F' :: "ailed ".toList := by
        rw [SshdOutcome.opening]
        decide
      rw [opening]
      exact ⟨_, rfl⟩
  | accepted =>
      have opening : SshdOutcome.accepted.opening.toList = 'A' :: "ccepted ".toList := rfl
      rw [opening]
      exact ⟨_, rfl⟩

/-- A message that begins with a word begins with its letter. -/
theorem initial_of_begins {first : Char} {others word rest : List Char}
    (begins : (outcome.message method user ip port).toList = word ++ rest)
    (same : word.map foldCase = foldCase first :: others) :
    foldCase outcome.initial = foldCase first := by
  obtain ⟨tail, starts⟩ := @message_initial outcome method user ip port
  obtain ⟨c, word, rfl, first_same, _⟩ := List.map_eq_cons_iff.mp same
  rw [starts, List.cons_append] at begins
  rw [(List.cons.inj begins).1, first_same]

/-- The optional group captures no address. -/
theorem invalid_captures (part : List Char) (captures : Captures)
    (denotes : Regex.Denotes (.optional (.group "invalid" (ignoringCase "invalid user "))) part
      captures) : captures.lookup "source_ip" = none := by
  rcases denotes.of_optional with ⟨_, rfl⟩ | denotes
  · rfl
  · obtain ⟨more, rfl, inside⟩ := denotes.of_group
    rw [(denotes_ignoringCase inside).1]
    rfl

theorem nothing_captures (part : List Char) (captures : Captures)
    (denotes : Regex.Denotes (.literal []) part captures) : captures.lookup "source_ip" = none := by
  rw [denotes.of_literal.1]
  rfl

/-- **The parser reads the address and the outcome that sshd has written.** -/
theorem parseSshd_message {parsed : ParsedSecurityEvent}
    (recognised : parseSshd unicode (outcome.message method user ip port) = some parsed)
    (ip_whole : ' ' ∉ ip.toList) (digits : ∀ c ∈ port.toList, c.isDigit = true) :
    ∃ address, parseAddress ip = some address ∧ parsed.sourceIp = some address.text ∧
      parsed.eventType = outcome.eventType := by
  unfold parseSshd at recognised
  cases failed : (sshFailed unicode).fullMatch (outcome.message method user ip port).toList with
  | some captured =>
      rw [failed] at recognised
      obtain ⟨address, valid, rfl⟩ := Option.map_eq_some_iff.mp recognised
      obtain ⟨found, word, rest, begins, same⟩ :=
        source_ip_of_match failed invalid_captures ip_whole digits
      rw [found] at valid
      refine ⟨address, valid, rfl, ?_⟩
      have initial : foldCase outcome.initial = foldCase 'F' := initial_of_begins begins same
      cases outcome with
      | failed invalidUser => rfl
      | accepted => exact absurd initial (by decide)
  | none =>
      rw [failed] at recognised
      cases succeeded : (sshSucceeded unicode).fullMatch
        (outcome.message method user ip port).toList with
      | some captured =>
          dsimp only at recognised
          rw [succeeded] at recognised
          obtain ⟨address, valid, rfl⟩ := Option.map_eq_some_iff.mp recognised
          obtain ⟨found, word, rest, begins, same⟩ :=
            source_ip_of_match succeeded nothing_captures ip_whole digits
          rw [found] at valid
          refine ⟨address, valid, rfl, ?_⟩
          have initial : foldCase outcome.initial = foldCase 'A' := initial_of_begins begins same
          cases outcome with
          | failed invalidUser => exact absurd initial (show foldCase 'F' ≠ foldCase 'A' by decide)
          | accepted => rfl
      | none =>
          dsimp only at recognised
          rw [succeeded] at recognised
          cases recognised

/-! ## Events -/

/-- The `source_ip` of an event. -/
def sourceIpOf (event : NormalizedEventV1) : Option String :=
  match event.payload with
  | .obj members =>
      match members.lookup "source_ip" with
      | some (.str text) => some text
      | _ => none
  | _ => none

theorem sourceIpOf_eventOf (source : EventSource) (cursor : String) (occurred collected : Int)
    (parsed : ParsedSecurityEvent) :
    sourceIpOf (eventOf source cursor occurred collected parsed) = parsed.sourceIp := by
  cases present : parsed.sourceIp with
  | none => simp [sourceIpOf, eventOf, present, JsonValue.ofOption, List.lookup_cons]
  | some text => simp [sourceIpOf, eventOf, present, JsonValue.ofOption, List.lookup_cons]

/-- A record of sshd with a message. -/
structure SshdRecord (unicode : UnicodeTables) (fields : Fields) (message : String) : Prop where
  message : fields.get "MESSAGE" = some (.str message)
  identifier : identifier unicode fields = some "sshd"
  noRequest : fields.get "NGINX_STATUS" = none
  noPath : fields.get "FILE_INTEGRITY_PATH" = none

/-- **User names cannot spoof an address**: whatever the name is, an event of the
message has the address and the outcome that sshd has written. -/
theorem usernames_cannot_spoof {parsers : Parsers}
    {others : Option String → Fields → Option ParsedSecurityEvent}
    (messages : parsers.message = parseMessage unicode others) {source : EventSource}
    {collectedAt : Int} {record : JournalRecord} {event : NormalizedEventV1}
    (sshd : SshdRecord unicode record.fields (outcome.message method user ip port))
    (ip_whole : ' ' ∉ ip.toList) (digits : ∀ c ∈ port.toList, c.isDigit = true)
    (normalized : normalizeRecord parsers unicode source collectedAt record = .ok (some event)) :
    ∃ address, parseAddress ip = some address ∧ sourceIpOf event = some address.text ∧
      event.eventType = outcome.eventType := by
  have parses : parseSupportedMessage parsers unicode record.fields =
      .ok (parseMessage unicode others record.fields) := by
    simp [parseSupportedMessage, sshd.noRequest, sshd.noPath, messages]
  unfold normalizeRecord at normalized
  rw [parses] at normalized
  cases recognised : parseMessage unicode others record.fields with
  | none =>
      rw [recognised] at normalized
      cases normalized
  | some parsed =>
      rw [recognised] at normalized
      dsimp only at normalized
      split at normalized
      · cases normalized
        unfold parseMessage at recognised
        rw [sshd.message] at recognised
        dsimp only at recognised
        split at recognised
        · cases recognised
        rw [if_pos sshd.identifier] at recognised
        obtain ⟨address, valid, found, kind⟩ := parseSshd_message recognised ip_whole digits
        exact ⟨address, valid, (sourceIpOf_eventOf _ _ _ _ _).trans found, kind⟩
      · cases normalized

end Genuine

/-! ## A user name with words of the message -/

/-- A user name that reads like the words around it. -/
def imitatingName : String := "invalid user from"

/-- A failed login with this name, as journald reports it. -/
def imitatingLogin : JournalRecord where
  cursor := "s=1;i=2"
  fields :=
    [("MESSAGE",
        .str ((SshdOutcome.failed false).message "password" imitatingName "203.0.113.7" "4242")),
      ("SYSLOG_IDENTIFIER", .str "sshd")]

/-- The parsers of an agent that knows sshd alone. -/
def sshdParsers : Parsers where
  nginxRequest _ := none
  message := parseMessage .ascii fun _ _ => none
  fromTimestamp micros := some micros

theorem usernames_cannot_spoof_imitating : ∃ event,
    normalizeRecord sshdParsers .ascii .journald 0 imitatingLogin = .ok (some event) ∧
      sourceIpOf event = some "203.0.113.7" ∧
      event.eventType = "linux.ssh.authentication_failed" := by
  have sshd : SshdRecord .ascii imitatingLogin.fields
      ((SshdOutcome.failed false).message "password" imitatingName "203.0.113.7" "4242") :=
    ⟨rfl, by decide +kernel, rfl, rfl⟩
  have messages : sshdParsers.message = parseMessage .ascii fun _ _ => none := rfl
  obtain ⟨event, normalized⟩ : ∃ event, normalizeRecord sshdParsers .ascii .journald 0
      imitatingLogin = .ok (some event) := by
    have valid : (sshdParsers.message imitatingLogin.fields).any ParsedSecurityEvent.validates =
        true := by decide +kernel
    obtain ⟨parsed, recognised, validates⟩ := (Option.any_eq_true _ _).mp valid
    have parses : parseSupportedMessage sshdParsers .ascii imitatingLogin.fields =
        .ok (some parsed) := by
      rw [← recognised]
      rfl
    unfold normalizeRecord
    rw [parses]
    exact ⟨_, if_pos validates⟩
  obtain ⟨address, valid, found, kind⟩ :=
    usernames_cannot_spoof messages sshd (by decide) (List.all_eq_true.mp (by decide)) normalized
  have text : (parseAddress "203.0.113.7").map IpAddress.text = some "203.0.113.7" := by
    decide +kernel
  rw [valid] at text
  exact ⟨event, normalized, found.trans text, kind⟩

end WolandGuard.Agent
