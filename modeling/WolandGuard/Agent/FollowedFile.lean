import WolandGuard.Agent.FileIntegrity
import WolandGuard.Agent.SshMessages
import WolandGuard.Data.Utf8
import WolandGuard.Foundations.DeterministicRegex
import WolandGuard.Foundations.Lines
import WolandGuard.Foundations.Runs
import Mathlib.Data.List.DropRight

/-!
# Following a file

`FollowedFile` reads a log while it is being written. A line that is not ended is left
for the next poll, and a line that is too long is discarded. The session that begins at
a saved cursor emits the complete lines behind it (`lines_emitted_once`), as long as no
poll resumes inside a line: `_discard_overlong` leaves the position where the file ended,
and what is then written to the over-long line is taken for a line of its own
(`overlong_line_emits_fragment`).
-/

set_option autoImplicit false

namespace WolandGuard.Agent

open Foundations

/-! ## Lines and their cursors -/

/-- Where a line of a file ends. -/
structure LinePosition where
  device : BitVec 64
  inode : BitVec 64
  endOffset : BitVec 63

/-- The cursor of a line of a followed file. -/
def lineCursor (position : LinePosition) (raw : List UInt8) : String :=
  toString position.device.toNat ++ ":" ++ toString position.inode.toNat ++ ":" ++
    toString position.endOffset.toNat ++ ":" ++
      String.ofList ((hexdigest (raw.map UInt8.toNat)).toList.take 12)

/-- `st_dev` and `st_ino`. -/
structure FileIdentity where
  device : BitVec 64
  inode : BitVec 64
  deriving DecidableEq, Repr

/-- `MAX_LINE_BYTES`. -/
def maxLineBytes : Nat := 64 * 1024

def newline : UInt8 := 10

structure RawLine where
  text : String
  cursor : String
  deriving DecidableEq, Repr

/-- `raw.decode("utf-8", errors="replace").rstrip("\r\n")`. -/
def lineText (raw : List UInt8) : List Char :=
  (decodeReplacing (raw.map UInt8.toNat)).rdropWhile fun c => c = '\r' || c = '\n'

/-- The line that ends at an offset. -/
def rawLine (identity : FileIdentity) (raw : List UInt8) (endOffset : Nat) : RawLine where
  text := String.ofList (lineText raw)
  cursor := lineCursor ⟨identity.device, identity.inode, BitVec.ofNat 63 endOffset⟩ raw

/-- `_line`. -/
def FollowedFile.line (identity : FileIdentity) (raw : List UInt8) (endOffset : Nat) :
    Option RawLine :=
  if (lineText raw).contains '\x00' then none else some (rawLine identity raw endOffset)

/-! ## Opening -/

/-- Why a saved cursor cannot be used. -/
inductive CursorUnavailable where
  /-- "saved cursor is invalid" -/
  | invalid
  /-- "saved cursor belongs to a rotated file" -/
  | rotated
  deriving DecidableEq, Repr

section Opening

variable (unicode : UnicodeTables)

/-- `[0-9a-f]`. -/
def isHexChar (c : Char) : Bool := "0123456789abcdef".toList.contains c

/-- `CURSOR_PATTERN`. -/
def cursorPattern : Regex :=
  .all
    [.group "dev" (.many (isDecimalDigit unicode) 1 (some 20)), .spelled [':'],
      .group "ino" (.many (isDecimalDigit unicode) 1 (some 20)), .spelled [':'],
      .group "offset" (.many (isDecimalDigit unicode) 1 (some 19)), .spelled [':'],
      .many isHexChar 12 (some 12)]

/-- `_open_at`: the position in the file of the path, from a saved cursor. -/
def FollowedFile.openAt (identity : FileIdentity) (size : Nat) :
    Option String → Except CursorUnavailable Nat
  | none => .ok 0
  | some cursor =>
      match (cursorPattern unicode).fullMatch cursor.toList with
      | none => .error .invalid
      | some parsed =>
          let number (name : String) : Nat := intOfDigits unicode ((parsed.lookup name).getD [])
          if (number "dev", number "ino") ≠ (identity.device.toNat, identity.inode.toNat) then
            .error .rotated
          -- copytruncate
          else if size < number "offset" then .ok 0
          else .ok (number "offset")

end Opening

/-! ## Reading -/

/-- `readline(limit)`: up to the end of the line, the limit or the end of the file. -/
def readline : Nat → List UInt8 → List UInt8
  | 0, _ => []
  | _, [] => []
  | limit + 1, byte :: rest => if byte = newline then [byte] else byte :: readline limit rest

/-- In the loop of `_read_available`, in that of `_discard_overlong`, or behind both. -/
inductive ReaderMode where
  | reading
  | discarding
  | returned
  deriving DecidableEq, Repr

/-- An open file, and the lines that were yielded from it. -/
structure FileReader where
  position : Nat
  mode : ReaderMode
  lines : List RawLine

/-- One `readline` of `_read_available` or of `_discard_overlong`, from what the file
holds at that moment. -/
def FileReader.next (identity : FileIdentity) (content : List UInt8) (reader : FileReader) :
    FileReader :=
  let chunk := readline maxLineBytes (content.drop reader.position)
  let endOffset := reader.position + chunk.length
  match reader.mode with
  | .reading =>
      if chunk = [] then { reader with mode := .returned }
      else if chunk.getLast? ≠ some newline then
        if maxLineBytes ≤ chunk.length then
          { reader with position := endOffset, mode := .discarding }
        -- `handle.seek(start)`
        else { reader with mode := .returned }
      else
        { reader with
          position := endOffset
          lines := reader.lines ++ (FollowedFile.line identity chunk endOffset).toList }
  | .discarding =>
      if chunk = [] then { reader with mode := .returned }
      else if chunk.getLast? = some newline then
        { reader with position := endOffset, mode := .reading }
      else { reader with position := endOffset }
  | .returned => reader

/-! ## The log and its reader -/

/-- A log, the session that reads it and the cursor that the session began at, and the
lines of the sessions before. -/
structure FollowedLog where
  content : List UInt8
  after : Option String
  reader : FileReader
  yielded : List RawLine

def FollowedLog.opened (content : List UInt8) : FollowedLog :=
  ⟨content, none, ⟨0, .reading, []⟩, []⟩

inductive LogAction where
  /-- Something is written to the end of the log. -/
  | write (chunk : List UInt8)
  | read
  /-- `follow` reads again behind its wait. -/
  | poll
  /-- A new session, from the cursor of a line that was yielded or from the beginning. -/
  | resume (after : Option String)

/-- The file keeps its name and grows, to less than the greatest offset. -/
inductive FollowedLog.Step (unicode : UnicodeTables) (identity : FileIdentity) :
    FollowedLog → LogAction → FollowedLog → Prop where
  | write {state : FollowedLog} (chunk : List UInt8) :
      (state.content ++ chunk).length < 2 ^ 63 →
      Step unicode identity state (.write chunk) { state with content := state.content ++ chunk }
  | read {state : FollowedLog} :
      Step unicode identity state .read
        { state with reader := state.reader.next identity state.content }
  | poll {state : FollowedLog} : state.reader.mode = .returned →
      Step unicode identity state .poll
        { state with reader := { state.reader with mode := .reading } }
  | resume {state : FollowedLog} {after : Option String} {offset : Nat} :
      (∀ cursor ∈ after, ∃ line ∈ state.yielded ++ state.reader.lines, line.cursor = cursor) →
      FollowedFile.openAt unicode identity state.content.length after = .ok offset →
      Step unicode identity state (.resume after)
        { state with
          after := after
          reader := ⟨offset, .reading, []⟩
          yielded := state.yielded ++ state.reader.lines }

/-! ## What is to be emitted -/

/-- At most `MAX_LINE_BYTES` bytes, and without NUL. -/
def isAdmissible (raw : List UInt8) : Bool := raw.length ≤ maxLineBytes && !raw.contains 0

/-- Lines with the newlines that end them and the offsets behind these. -/
def placed (offset : Nat) : List (List UInt8) → List (List UInt8 × Nat)
  | [] => []
  | line :: rest =>
      (line ++ [newline], offset + (line ++ [newline]).length) ::
        placed (offset + (line ++ [newline]).length) rest

/-- The complete admissible lines of a text that begins at an offset. -/
def linesFrom (identity : FileIdentity) (offset : Nat) (text : List UInt8) : List RawLine :=
  ((placed offset (endedLines newline [] text)).filter fun line => isAdmissible line.1).map
    fun line => rawLine identity line.1 line.2

/-- The lines behind the one that a cursor addresses. -/
def following (after : Option String) (lines : List RawLine) : List RawLine :=
  match after with
  | none => lines
  | some cursor => (lines.dropWhile (·.cursor ≠ cursor)).tail

/-- The session emits the lines behind its cursor, in their order and each once, and if it
goes on reading it comes to the end of the file and has emitted all of them. Every line
emitted so far can be resumed from. -/
structure EmitsExactly (unicode : UnicodeTables) (identity : FileIdentity) (state : FollowedLog) :
    Prop where
  inOrder : state.reader.lines <+: following state.after (linesFrom identity 0 state.content)
  complete : state.reader.mode ≠ .returned →
    ∃ n, ((FileReader.next identity state.content)^[n] state.reader).mode = .returned ∧
      ((FileReader.next identity state.content)^[n] state.reader).lines =
        following state.after (linesFrom identity 0 state.content)
  resumable : ∀ line ∈ state.yielded ++ state.reader.lines, ∃ offset,
    FollowedFile.openAt unicode identity state.content.length (some line.cursor) = .ok offset

/-! ## Lines without NUL -/

theorem nul_mem_lineText (raw : List UInt8) : '\x00' ∈ lineText raw ↔ 0 ∈ raw := by
  have stripped : '\x00' ∈ lineText raw ↔ '\x00' ∈ decodeReplacing (raw.map UInt8.toNat) := by
    constructor
    · exact fun member => (List.rdropWhile_prefix _ _).subset member
    · intro member
      have split := @List.rdropWhile_append_rtakeWhile _ (fun c => c = '\r' || c = '\n')
        (decodeReplacing (raw.map UInt8.toNat))
      rw [← split, List.mem_append] at member
      rcases member with kept | stripped
      · exact kept
      · exact absurd (List.mem_rtakeWhile_imp stripped) (by decide)
  have bytes : 0 ∈ raw.map UInt8.toNat ↔ 0 ∈ raw := by
    rw [List.mem_map]
    constructor
    · rintro ⟨byte, member, zero⟩
      have same : byte = 0 := UInt8.toNat_inj.mp zero
      rwa [← same]
    · exact fun member => ⟨0, member, rfl⟩
  rw [stripped, nul_mem_decodeReplacing, bytes]

/-- A line that is short enough is yielded exactly if it is admissible. -/
theorem line_eq {identity : FileIdentity} {raw : List UInt8} {endOffset : Nat}
    (short : raw.length ≤ maxLineBytes) :
    FollowedFile.line identity raw endOffset =
      if isAdmissible raw then some (rawLine identity raw endOffset) else none := by
  have nul : (lineText raw).contains '\x00' = raw.contains 0 := by
    rw [Bool.eq_iff_iff, List.contains_iff_mem, List.contains_iff_mem, nul_mem_lineText]
  rw [FollowedFile.line, nul, isAdmissible, decide_eq_true short, Bool.true_and]
  cases raw.contains 0 <;> rfl

/-! ## Cursors are read back -/

section Cursors

variable {unicode : UnicodeTables} {identity : FileIdentity}

theorem isDecimalDigit_of_mem_toDigits {n : Nat} {c : Char} (member : c ∈ Nat.toDigits 10 n) :
    isDecimalDigit unicode c = true := by
  have digit : c.isDigit = true := Nat.isDigit_of_mem_toDigits (by decide) (by decide) member
  have range : 48 ≤ c.toNat ∧ c.toNat ≤ 57 := Char.isDigit_iff_toNat.mp digit
  rw [isDecimalDigit_ascii (by omega), digit]

/-- A number of the cursor. -/
theorem denotes_number {name : String} {n most : Nat} (positive : 0 < most) (small : n < 10 ^ most) :
    (Regex.group name (.many (isDecimalDigit unicode) 1 (some most))).Denotes (Nat.toDigits 10 n)
      [(name, Nat.toDigits 10 n)] := by
  refine Regex.denotes_named (fun c member => isDecimalDigit_of_mem_toDigits member) ?_ ?_
  · exact List.length_pos_of_ne_nil Nat.toDigits_ne_nil
  · intro bound limit
    obtain rfl : most = bound := Option.some.inj limit
    exact (Nat.length_toDigits_le_iff (by decide) positive).mpr small

theorem intOfDigits_toDigits (n : Nat) : intOfDigits unicode (Nat.toDigits 10 n) = n := by
  rw [intOfDigits_ascii fun c member => Nat.isDigit_of_mem_toDigits (by decide) (by decide) member,
    Nat.ofDigitChars_ten_toDigits]

theorem deterministic_cursorPattern : (cursorPattern unicode).Deterministic := by
  have colon : isDecimalDigit unicode ':' = false := isDecimalDigit_ascii (by decide)
  refine Regex.deterministic_until trivial colon (Regex.deterministic_spelled ?_)
  refine Regex.deterministic_until trivial colon (Regex.deterministic_spelled ?_)
  refine Regex.deterministic_until trivial colon (Regex.deterministic_spelled ?_)
  exact ⟨trivial, trivial, fun c _ => rfl⟩

/-- What `CURSOR_PATTERN` finds in the cursor of a line. -/
def cursorGroups (position : LinePosition) : Captures :=
  [("dev", Nat.toDigits 10 position.device.toNat), ("ino", Nat.toDigits 10 position.inode.toNat),
    ("offset", Nat.toDigits 10 position.endOffset.toNat)]

theorem lineCursor_toList (position : LinePosition) (raw : List UInt8) :
    (lineCursor position raw).toList =
      Nat.toDigits 10 position.device.toNat ++ ([':'] ++
        (Nat.toDigits 10 position.inode.toNat ++ ([':'] ++
          (Nat.toDigits 10 position.endOffset.toNat ++ ([':'] ++
            ((hexdigest (raw.map UInt8.toNat)).toList.take 12 ++ [])))))) := by
  simp [lineCursor]

/-- **The cursor of a line matches.** -/
theorem fullMatch_lineCursor (position : LinePosition) (raw : List UInt8) :
    (cursorPattern unicode).fullMatch (lineCursor position raw).toList =
      some (cursorGroups position) := by
  rw [Regex.fullMatch_eq_some_iff deterministic_cursorPattern, lineCursor_toList]
  have digest : ((hexdigest (raw.map UInt8.toNat)).toList.take 12).length = 12 := by
    rw [List.length_take, hexdigest_length]
    rfl
  refine .all_cons (denotes_number (by decide) (position.device.isLt.trans (by decide)))
    (.all_cons (Regex.denotes_spelled _)
      (.all_cons (denotes_number (by decide) (position.inode.isLt.trans (by decide)))
        (.all_cons (Regex.denotes_spelled _)
          (.all_cons (denotes_number (by decide) (position.endOffset.isLt.trans (by decide)))
            (.all_cons (Regex.denotes_spelled _) (.all_cons (.many ?_ ?_ ?_) .all_nil))))))
  · intro c member
    exact List.contains_iff_mem.mpr (hexdigest_digits (List.mem_of_mem_take member))
  · exact Nat.le_of_eq digest.symm
  · intro bound limit
    obtain rfl : 12 = bound := Option.some.inj limit
    exact Nat.le_of_eq digest

/-- **A session that resumes from a line of the file begins behind it.** -/
theorem openAt_rawLine {raw : List UInt8} {size endOffset : Nat} (within : endOffset ≤ size)
    (small : endOffset < 2 ^ 63) :
    FollowedFile.openAt unicode identity size (some (rawLine identity raw endOffset).cursor) =
      .ok endOffset := by
  have same : (BitVec.ofNat 63 endOffset).toNat = endOffset := by
    rw [BitVec.toNat_ofNat, Nat.mod_eq_of_lt small]
  have device : intOfDigits unicode (((cursorGroups
      ⟨identity.device, identity.inode, BitVec.ofNat 63 endOffset⟩).lookup "dev").getD []) =
        identity.device.toNat := intOfDigits_toDigits _
  have inode : intOfDigits unicode (((cursorGroups
      ⟨identity.device, identity.inode, BitVec.ofNat 63 endOffset⟩).lookup "ino").getD []) =
        identity.inode.toNat := intOfDigits_toDigits _
  have offset : intOfDigits unicode (((cursorGroups
      ⟨identity.device, identity.inode, BitVec.ofNat 63 endOffset⟩).lookup "offset").getD []) =
        endOffset := (intOfDigits_toDigits _).trans same
  rw [FollowedFile.openAt, rawLine, fullMatch_lineCursor]
  simp only [device, inode, offset, ne_eq, not_true_eq_false, if_false, Nat.not_lt.mpr within]

/-- Lines that end at different places have different cursors. -/
theorem endOffset_eq_of_cursor {raw raw' : List UInt8} {endOffset endOffset' : Nat}
    (small : endOffset < 2 ^ 63) (small' : endOffset' < 2 ^ 63)
    (same : (rawLine identity raw endOffset).cursor = (rawLine identity raw' endOffset').cursor) :
    endOffset = endOffset' := by
  have first := @openAt_rawLine .ascii identity raw (max endOffset endOffset') _
    (Nat.le_max_left _ _) small
  have second := @openAt_rawLine .ascii identity raw' (max endOffset endOffset') _
    (Nat.le_max_right _ _) small'
  rw [same, second] at first
  exact (Except.ok.inj first).symm

end Cursors

/-! ## Lines of a text -/

section Lines

variable {identity : FileIdentity} {offset : Nat} {front back text : List UInt8} {emitted : RawLine}

theorem placed_append (offset : Nat) (lines others : List (List UInt8)) :
    placed offset (lines ++ others) =
      placed offset lines ++
        placed (offset + (lines.flatMap (· ++ [newline])).length) others := by
  induction lines generalizing offset with
  | nil => rfl
  | cons line lines ih =>
      rw [List.cons_append, placed, placed, ih, List.cons_append, List.flatMap_cons,
        @List.length_append _ (line ++ [newline]), Nat.add_assoc]

/-- The lines behind ended lines are placed behind them. -/
theorem linesFrom_append (ended : Ended newline front) (back : List UInt8) :
    linesFrom identity offset (front ++ back) =
      linesFrom identity offset front ++ linesFrom identity (offset + front.length) back := by
  rw [linesFrom, ended.endedLines_append, placed_append, ended.flatMap_endedLines,
    List.filter_append, List.map_append]
  rfl

theorem linesFrom_unended (unended : newline ∉ text) : linesFrom identity offset text = [] := by
  rw [linesFrom, endedLines_eq_nil unended]
  rfl

/-- The only line of a text. -/
theorem linesFrom_line (unended : newline ∉ text) :
    linesFrom identity offset (text ++ [newline]) =
      if isAdmissible (text ++ [newline]) then
        [rawLine identity (text ++ [newline]) (offset + (text ++ [newline]).length)] else [] := by
  rw [linesFrom, endedLines_line unended, endedLines, placed, placed]
  cases admissible : isAdmissible (text ++ [newline]) <;> simp [admissible]

/-- The lines stay when the file grows. -/
theorem linesFrom_isPrefix (offset : Nat) (text more : List UInt8) :
    linesFrom identity offset text <+: linesFrom identity offset (text ++ more) := by
  obtain ⟨later, split⟩ := @endedLines_isPrefix _ _ newline [] text more
  rw [linesFrom, linesFrom, ← split, placed_append, List.filter_append, List.map_append]
  exact List.prefix_append _ _

/-- Where a line of the text stands. -/
theorem exists_of_mem_linesFrom (member : emitted ∈ linesFrom identity offset text) :
    ∃ front line back, text = front ++ (line ++ [newline]) ++ back ∧ Ended newline front ∧
      newline ∉ line ∧ isAdmissible (line ++ [newline]) = true ∧
      emitted = rawLine identity (line ++ [newline])
        (offset + (front ++ (line ++ [newline])).length) := by
  obtain ⟨rest, rest_unended, split⟩ := @exists_unended _ _ newline [] text List.not_mem_nil
  have unended : ∀ line ∈ endedLines newline [] text, newline ∉ line :=
    fun line => unended_of_mem List.not_mem_nil
  rw [List.nil_append] at split
  rw [linesFrom] at member
  generalize endedLines newline [] text = lines at unended split member
  subst split
  induction lines generalizing offset with
  | nil => cases member
  | cons line lines ih =>
      have first := unended line List.mem_cons_self
      have others : ∀ other ∈ lines, newline ∉ other :=
        fun other inside => unended other (List.mem_cons_of_mem _ inside)
      rw [placed, List.filter_cons] at member
      rw [List.flatMap_cons]
      have later (member : emitted ∈ ((placed (offset + (line ++ [newline]).length) lines).filter
          fun line => isAdmissible line.1).map fun line => rawLine identity line.1 line.2) :
          ∃ front line' back, line ++ [newline] ++ lines.flatMap (· ++ [newline]) ++ rest =
            front ++ (line' ++ [newline]) ++ back ∧ Ended newline front ∧ newline ∉ line' ∧
            isAdmissible (line' ++ [newline]) = true ∧
            emitted = rawLine identity (line' ++ [newline])
              (offset + (front ++ (line' ++ [newline])).length) := by
        obtain ⟨front, line', back, split, ended, unended', admissible, same⟩ := ih others member
        refine ⟨line ++ [newline] ++ front, line', back, ?_, (Ended.line first).append ended,
          unended', admissible, ?_⟩
        · rw [List.append_assoc _ _ rest, split]
          simp only [List.append_assoc]
        · rw [same]
          simp only [List.length_append, Nat.add_assoc]
      by_cases admissible : isAdmissible (line ++ [newline]) = true
      · rw [if_pos admissible, List.map_cons] at member
        rcases List.mem_cons.mp member with here | there
        · exact ⟨[], line, lines.flatMap (· ++ [newline]) ++ rest, List.append_assoc .., .nil, first,
            admissible, here⟩
        · exact later there
      · rw [if_neg admissible] at member
        exact later member

end Lines

/-! ## One `readline` -/

/-- **What `readline` returns**: a line, a part as long as the limit, or all that is left. -/
theorem readline_cases (limit : Nat) (text : List UInt8) :
    (∃ line rest, text = line ++ newline :: rest ∧ newline ∉ line ∧ line.length < limit ∧
      readline limit text = line ++ [newline]) ∨
    (∃ part rest, text = part ++ rest ∧ newline ∉ part ∧ part.length = limit ∧
      readline limit text = part) ∨
    (newline ∉ text ∧ text.length < limit ∧ readline limit text = text) := by
  induction limit generalizing text with
  | zero => exact .inr (.inl ⟨[], text, rfl, List.not_mem_nil, rfl, rfl⟩)
  | succ limit ih =>
      cases text with
      | nil => exact .inr (.inr ⟨List.not_mem_nil, Nat.succ_pos _, rfl⟩)
      | cons byte text =>
          rw [readline]
          by_cases ends : byte = newline
          · rw [if_pos ends, ends]
            exact .inl ⟨[], text, rfl, List.not_mem_nil, Nat.succ_pos _, rfl⟩
          rw [if_neg ends]
          have other : ∀ {part : List UInt8}, newline ∉ part → newline ∉ byte :: part := by
            intro part unended
            rw [List.mem_cons, not_or]
            exact ⟨Ne.symm ends, unended⟩
          rcases ih text with ⟨line, rest, rfl, unended, short, read⟩ |
            ⟨part, rest, rfl, unended, full, read⟩ | ⟨unended, short, read⟩
          · exact .inl ⟨byte :: line, rest, rfl, other unended, Nat.succ_lt_succ short,
              congrArg (byte :: ·) read⟩
          · exact .inr (.inl ⟨byte :: part, rest, rfl, other unended, congrArg (· + 1) full,
              congrArg (byte :: ·) read⟩)
          · exact .inr (.inr ⟨other unended, Nat.succ_lt_succ short, congrArg (byte :: ·) read⟩)

theorem getLast?_ne_newline {part : List UInt8} (unended : newline ∉ part) :
    part.getLast? ≠ some newline :=
  fun last => unended (List.mem_of_getLast? last)

section Reading

variable {identity : FileIdentity} {content before passed skipped rest more : List UInt8}
  {after : Option String} {reader : FileReader}

/-- The reader behind a line, which it has yielded unless it was discarding the line. -/
def FileReader.passLine (identity : FileIdentity) (reader : FileReader) (text : List UInt8) :
    FileReader :=
  let endOffset := reader.position + (text ++ [newline]).length
  { position := endOffset
    mode := .reading
    lines := reader.lines ++ if reader.mode = .reading then
      (FollowedFile.line identity (text ++ [newline]) endOffset).toList else [] }

/-- **What one read does** while the reader is in a loop: it passes the end of a line, it
discards a part of a line that is too long, or it returns. -/
theorem FileReader.next_cases (going : reader.mode ≠ .returned)
    (left : content.drop reader.position = rest) :
    (∃ text more, rest = text ++ newline :: more ∧ newline ∉ text ∧ text.length < maxLineBytes ∧
      reader.next identity content = reader.passLine identity text) ∨
    (∃ part more, rest = part ++ more ∧ newline ∉ part ∧ part ≠ [] ∧
      (reader.mode = .reading → part.length = maxLineBytes) ∧
      reader.next identity content =
        { reader with position := reader.position + part.length, mode := .discarding }) ∨
    (newline ∉ rest ∧ reader.next identity content = { reader with mode := .returned }) := by
  rcases readline_cases maxLineBytes rest with ⟨text, more, rfl, unended, short, read⟩ |
    ⟨part, more, rfl, unended, full, read⟩ | ⟨unended, short, read⟩
  · refine .inl ⟨text, more, rfl, unended, short, ?_⟩
    rw [FileReader.next, left, read, FileReader.passLine]
    cases mode : reader.mode with
    | reading => simp
    | discarding => simp
    | returned => exact absurd mode going
  · have nonempty : part ≠ [] := by
      rintro rfl
      cases full
    refine .inr (.inl ⟨part, more, rfl, unended, nonempty, fun _ => full, ?_⟩)
    rw [FileReader.next, left, read]
    cases mode : reader.mode with
    | reading => simp [nonempty, getLast?_ne_newline unended, Nat.le_of_eq full.symm]
    | discarding => simp [nonempty, getLast?_ne_newline unended]
    | returned => exact absurd mode going
  · by_cases nothing : rest = []
    · refine .inr (.inr ⟨unended, ?_⟩)
      rw [FileReader.next, left, read, nothing]
      cases mode : reader.mode with
      | reading => rfl
      | discarding => rfl
      | returned => exact absurd mode going
    cases mode : reader.mode with
    | reading =>
        refine .inr (.inr ⟨unended, ?_⟩)
        rw [FileReader.next, left, read]
        simp [mode, nothing, getLast?_ne_newline unended, Nat.not_le.mpr short]
    | discarding =>
        refine .inr (.inl ⟨rest, [], (List.append_nil _).symm, unended, nothing,
          fun other => ReaderMode.noConfusion other, ?_⟩)
        rw [FileReader.next, left, read]
        simp [mode, nothing, getLast?_ne_newline unended]
    | returned => exact absurd mode going

/-! ## What a session has read -/

/-- What a session has read of the file: the text before it, the lines it has passed, and
the beginning of a line that it discards. -/
structure Progress (identity : FileIdentity) (content : List UInt8) (after : Option String)
    (reader : FileReader) (before passed skipped rest : List UInt8) : Prop where
  content_eq : content = before ++ passed ++ skipped ++ rest
  before_ended : Ended newline before
  passed_ended : Ended newline passed
  skipped_unended : newline ∉ skipped
  position_eq : reader.position = (before ++ passed ++ skipped).length
  behind : ∀ more, following after (linesFrom identity 0 before ++ more) = more
  lines_eq : reader.lines = linesFrom identity before.length passed
  overlong : skipped = [] ∨ maxLineBytes ≤ skipped.length
  reading : reader.mode = .reading → skipped = []
  discarding : reader.mode = .discarding → skipped ≠ []

/-- A line that is too long is not emitted. -/
theorem linesFrom_overlong {text : List UInt8} {offset : Nat} (unended : newline ∉ text)
    (overlong : maxLineBytes ≤ text.length) :
    linesFrom identity offset (text ++ [newline]) = [] := by
  have long : maxLineBytes < (text ++ [newline]).length := by
    rw [List.length_append]
    exact Nat.lt_succ_of_le overlong
  rw [linesFrom_line unended, isAdmissible, decide_eq_false (Nat.not_le.mpr long), Bool.false_and]
  rfl

/-- A line that is short enough is emitted if it is admissible. -/
theorem linesFrom_short {text : List UInt8} {offset : Nat} (unended : newline ∉ text)
    (short : text.length < maxLineBytes) :
    linesFrom identity offset (text ++ [newline]) =
      (FollowedFile.line identity (text ++ [newline])
        (offset + (text ++ [newline]).length)).toList := by
  have within : (text ++ [newline]).length ≤ maxLineBytes := by
    rw [List.length_append]
    exact short
  rw [linesFrom_line unended, line_eq within]
  split <;> rfl

theorem Progress.left (progress : Progress identity content after reader before passed skipped rest) :
    content.drop reader.position = rest := by
  rw [progress.position_eq, progress.content_eq, List.drop_left]

/-- The lines that the session is to emit: those it has emitted, and those of the rest. -/
theorem Progress.following_eq
    (progress : Progress identity content after reader before passed skipped rest) :
    following after (linesFrom identity 0 content) =
      reader.lines ++ linesFrom identity (before.length + passed.length) (skipped ++ rest) := by
  rw [progress.content_eq, List.append_assoc, List.append_assoc,
    linesFrom_append progress.before_ended, progress.behind, Nat.zero_add,
    linesFrom_append progress.passed_ended, progress.lines_eq]

theorem Progress.passLine {text : List UInt8}
    (progress : Progress identity content after reader before passed skipped
      (text ++ newline :: more)) (unended : newline ∉ text) (short : text.length < maxLineBytes)
    (going : reader.mode ≠ .returned) :
    Progress identity content after (reader.passLine identity text) before
      (passed ++ (skipped ++ text ++ [newline])) [] more := by
  have whole_unended : newline ∉ skipped ++ text := by
    rw [List.mem_append, not_or]
    exact ⟨progress.skipped_unended, unended⟩
  refine
    { content_eq := by rw [progress.content_eq]; simp
      before_ended := progress.before_ended
      passed_ended := progress.passed_ended.append (.line whole_unended)
      skipped_unended := List.not_mem_nil
      position_eq := by simp [FileReader.passLine, progress.position_eq, Nat.add_assoc]
      behind := progress.behind
      lines_eq := ?_
      overlong := .inl rfl
      reading := fun _ => rfl
      discarding := fun other => ReaderMode.noConfusion other }
  rw [linesFrom_append progress.passed_ended, ← progress.lines_eq, FileReader.passLine]
  cases mode : reader.mode with
  | reading =>
      obtain rfl := progress.reading mode
      have position := progress.position_eq
      rw [List.append_nil, List.length_append] at position
      rw [List.nil_append, linesFrom_short unended short, ← position]
      rfl
  | discarding =>
      have long := progress.overlong.resolve_left (progress.discarding mode)
      have whole_long : maxLineBytes ≤ (skipped ++ text).length := by
        rw [List.length_append]
        exact Nat.le_trans long (Nat.le_add_right _ _)
      rw [linesFrom_overlong whole_unended whole_long]
      rfl
  | returned => exact absurd mode going

theorem Progress.discard {part : List UInt8}
    (progress : Progress identity content after reader before passed skipped (part ++ more))
    (unended : newline ∉ part) (nonempty : part ≠ [])
    (full : reader.mode = .reading → part.length = maxLineBytes) (going : reader.mode ≠ .returned) :
    Progress identity content after
      { reader with position := reader.position + part.length, mode := .discarding } before passed
      (skipped ++ part) more where
  content_eq := by rw [progress.content_eq]; simp
  before_ended := progress.before_ended
  passed_ended := progress.passed_ended
  skipped_unended := by
    rw [List.mem_append, not_or]
    exact ⟨progress.skipped_unended, unended⟩
  position_eq := by simp [progress.position_eq, Nat.add_assoc]
  behind := progress.behind
  lines_eq := progress.lines_eq
  overlong := by
    refine .inr ?_
    rw [List.length_append]
    cases mode : reader.mode with
    | reading => exact Nat.le_trans (Nat.le_of_eq (full mode).symm) (Nat.le_add_left _ _)
    | discarding =>
        have long := progress.overlong.resolve_left (progress.discarding mode)
        exact Nat.le_trans long (Nat.le_add_right _ _)
    | returned => exact absurd mode going
  reading other := ReaderMode.noConfusion other
  discarding _ := List.append_ne_nil_of_right_ne_nil skipped nonempty

theorem Progress.return
    (progress : Progress identity content after reader before passed skipped rest) :
    Progress identity content after { reader with mode := .returned } before passed skipped rest :=
  { progress with
    reading := fun other => ReaderMode.noConfusion other
    discarding := fun other => ReaderMode.noConfusion other }

/-- **A read goes on in the file, or it returns where nothing is ended.** -/
theorem Progress.next (progress : Progress identity content after reader before passed skipped rest)
    (going : reader.mode ≠ .returned) :
    ∃ passed' skipped' rest', Progress identity content after (reader.next identity content) before
        passed' skipped' rest' ∧
      ((reader.next identity content).mode = .returned → newline ∉ rest') ∧
      ((reader.next identity content).mode ≠ .returned → rest'.length < rest.length) := by
  rcases @FileReader.next_cases identity _ _ _ going progress.left with
    ⟨text, more, rfl, unended, short, next_eq⟩ |
    ⟨part, more, rfl, unended, nonempty, full, next_eq⟩ | ⟨unended, next_eq⟩
  · rw [next_eq]
    refine ⟨_, _, more, progress.passLine unended short going,
      fun other => ReaderMode.noConfusion other, fun _ => ?_⟩
    rw [List.length_append, List.length_cons]
    omega
  · rw [next_eq]
    refine ⟨_, _, more, progress.discard unended nonempty full going,
      fun other => ReaderMode.noConfusion other, fun _ => ?_⟩
    have := List.length_pos_of_ne_nil nonempty
    rw [List.length_append]
    omega
  · rw [next_eq]
    exact ⟨passed, skipped, rest, progress.return, fun _ => unended, fun other => absurd rfl other⟩

/-- **A session that goes on reading comes to the end of the file**, and has then emitted
all the lines behind its cursor. -/
theorem Progress.drains (progress : Progress identity content after reader before passed skipped rest)
    (going : reader.mode ≠ .returned) :
    ∃ n, ((FileReader.next identity content)^[n] reader).mode = .returned ∧
      ((FileReader.next identity content)^[n] reader).lines =
        following after (linesFrom identity 0 content) := by
  induction left : rest.length using Nat.strong_induction_on generalizing reader passed skipped rest with
  | _ length ih =>
      obtain ⟨passed', skipped', rest', later, drained, shorter⟩ := progress.next going
      by_cases returned : (reader.next identity content).mode = .returned
      · refine ⟨1, returned, ?_⟩
        have nothing : newline ∉ skipped' ++ rest' := by
          rw [List.mem_append, not_or]
          exact ⟨later.skipped_unended, drained returned⟩
        rw [later.following_eq, linesFrom_unended nothing, List.append_nil]
        rfl
      · obtain ⟨n, done, all⟩ := ih rest'.length (left ▸ shorter returned) later returned rfl
        exact ⟨n + 1, done, all⟩

end Reading

/-! ## Runs -/

/-- The reader stands at the beginning of a line. -/
def FollowedLog.atLineStart (state : FollowedLog) : Bool :=
  (state.content.take state.reader.position).getLast?.all (· = newline)

/-- A poll resumes at the beginning of a line. -/
def ResumesAtLineStart (taken : Taken FollowedLog LogAction) : Prop :=
  taken.label = .poll → taken.before.atLineStart = true

/-- The session has read the file up to its position, and the lines of earlier sessions
are lines of the file. -/
structure FollowedLog.Sound (identity : FileIdentity) (state : FollowedLog) : Prop where
  size : state.content.length < 2 ^ 63
  progress : ∃ before passed skipped rest, Progress identity state.content state.after state.reader
    before passed skipped rest
  known : ∀ line ∈ state.yielded, line ∈ linesFrom identity 0 state.content

section Runs

variable {unicode : UnicodeTables} {identity : FileIdentity}
  {content before passed skipped rest : List UInt8} {after : Option String} {reader : FileReader}
  {state later : FollowedLog} {action : LogAction}

/-- The lines of a session are lines of the file. -/
theorem Progress.lines_subset
    (progress : Progress identity content after reader before passed skipped rest) :
    ∀ line ∈ reader.lines, line ∈ linesFrom identity 0 content := by
  intro line member
  rw [progress.lines_eq] at member
  rw [progress.content_eq, List.append_assoc, List.append_assoc,
    linesFrom_append progress.before_ended, Nat.zero_add, linesFrom_append progress.passed_ended]
  exact List.mem_append_right _ (List.mem_append_left _ member)

theorem FollowedLog.Sound.lines_known (sound : state.Sound identity) :
    ∀ line ∈ state.yielded ++ state.reader.lines, line ∈ linesFrom identity 0 state.content := by
  obtain ⟨_, _, _, _, progress⟩ := sound.progress
  exact List.forall_mem_append.mpr ⟨sound.known, progress.lines_subset⟩

/-- At the beginning of a line nothing is being discarded. -/
theorem Progress.skipped_nil
    (progress : Progress identity state.content after state.reader before passed skipped rest)
    (at_start : state.atLineStart = true) : skipped = [] := by
  rw [FollowedLog.atLineStart, progress.position_eq, progress.content_eq, List.take_left] at at_start
  cases last : skipped.getLast? with
  | none => exact List.getLast?_eq_none_iff.mp last
  | some byte =>
      rw [List.getLast?_append, last, Option.some_or, Option.all_some, decide_eq_true_eq] at at_start
      exact absurd (List.mem_of_getLast? last) (at_start ▸ progress.skipped_unended)

/-- A session from the beginning. -/
theorem progress_opened (content : List UInt8) :
    Progress identity content none ⟨0, .reading, []⟩ [] [] [] content where
  content_eq := rfl
  before_ended := .nil
  passed_ended := .nil
  skipped_unended := List.not_mem_nil
  position_eq := rfl
  behind _ := rfl
  lines_eq := rfl
  overlong := .inl rfl
  reading _ := rfl
  discarding other := ReaderMode.noConfusion other

/-- The offset of a line of the file, from its cursor. -/
theorem openAt_of_mem {emitted : RawLine} (size : content.length < 2 ^ 63)
    (member : emitted ∈ linesFrom identity 0 content) :
    ∃ front line back, content = front ++ (line ++ [newline]) ++ back ∧ Ended newline front ∧
      newline ∉ line ∧ isAdmissible (line ++ [newline]) = true ∧
      emitted = rawLine identity (line ++ [newline]) (front ++ (line ++ [newline])).length ∧
      FollowedFile.openAt unicode identity content.length (some emitted.cursor) =
        .ok (front ++ (line ++ [newline])).length := by
  obtain ⟨front, line, back, split, ended, unended, admissible, same⟩ :=
    exists_of_mem_linesFrom member
  rw [Nat.zero_add] at same
  have within : (front ++ (line ++ [newline])).length ≤ content.length :=
    split ▸ (List.prefix_append _ back).length_le
  refine ⟨front, line, back, split, ended, unended, admissible, same, ?_⟩
  rw [same]
  exact openAt_rawLine within (Nat.lt_of_le_of_lt within size)

/-- A session from the cursor of a line begins behind the line. -/
theorem progress_resumed {emitted : RawLine} {offset : Nat} (size : content.length < 2 ^ 63)
    (member : emitted ∈ linesFrom identity 0 content)
    (opened : FollowedFile.openAt unicode identity content.length (some emitted.cursor) =
      .ok offset) :
    ∃ before rest, Progress identity content (some emitted.cursor) ⟨offset, .reading, []⟩ before []
      [] rest := by
  obtain ⟨front, line, back, split, ended, unended, admissible, same, opened'⟩ :=
    @openAt_of_mem unicode _ _ _ size member
  obtain rfl := Except.ok.inj (opened.symm.trans opened')
  have within : (front ++ (line ++ [newline])).length ≤ content.length :=
    split ▸ (List.prefix_append _ back).length_le
  refine ⟨front ++ (line ++ [newline]), back,
    { content_eq := by rw [split]; simp
      before_ended := ended.append (.line unended)
      passed_ended := .nil
      skipped_unended := List.not_mem_nil
      position_eq := by simp
      behind := ?_
      lines_eq := rfl
      overlong := .inl rfl
      reading := fun _ => rfl
      discarding := fun other => ReaderMode.noConfusion other }⟩
  intro more
  have last : linesFrom identity 0 (front ++ (line ++ [newline])) =
      linesFrom identity 0 front ++ [emitted] := by
    rw [linesFrom_append ended, linesFrom_line unended, if_pos admissible, same, Nat.zero_add,
      @List.length_append _ front]
  -- the lines before it end earlier
  have earlier : ∀ other ∈ linesFrom identity 0 front,
      decide (other.cursor ≠ emitted.cursor) = true := by
    intro other inside
    obtain ⟨front', line', back', split', _, _, _, same'⟩ := exists_of_mem_linesFrom inside
    rw [Nat.zero_add] at same'
    refine decide_eq_true fun cursors => ?_
    have shorter : (front' ++ (line' ++ [newline])).length ≤ front.length :=
      split' ▸ (List.prefix_append _ back').length_le
    have longer : (front ++ (line ++ [newline])).length = front.length + line.length + 1 := by
      simp [Nat.add_assoc]
    rw [same, same'] at cursors
    have ends := endOffset_eq_of_cursor (by omega) (by omega) cursors
    omega
  rw [last, List.append_assoc, following, List.dropWhile_append_of_pos earlier,
    List.singleton_append, List.dropWhile_cons_of_neg (by simp), List.tail_cons]

/-- **Every step that resumes at the beginning of a line keeps it so.** -/
theorem FollowedLog.Step.sound (step : FollowedLog.Step unicode identity state action later)
    (sound : state.Sound identity) (regular : ResumesAtLineStart ⟨state, action, later⟩) :
    later.Sound identity := by
  have lines_known := sound.lines_known
  obtain ⟨size, ⟨before, passed, skipped, rest, progress⟩, known⟩ := sound
  cases step with
  | write chunk fits =>
      refine ⟨fits, ⟨before, passed, skipped, rest ++ chunk, { progress with content_eq := ?_ }⟩, ?_⟩
      · rw [progress.content_eq, List.append_assoc]
      · exact fun line member => (linesFrom_isPrefix 0 _ chunk).subset (known line member)
  | read =>
      refine ⟨size, ?_, known⟩
      by_cases returned : state.reader.mode = .returned
      · have stays : state.reader.next identity state.content = state.reader := by
          rw [FileReader.next, returned]
        rw [stays]
        exact ⟨before, passed, skipped, rest, progress⟩
      · obtain ⟨passed', skipped', rest', next, _, _⟩ := progress.next returned
        exact ⟨before, passed', skipped', rest', next⟩
  | poll returned =>
      have nothing := progress.skipped_nil (regular rfl)
      refine ⟨size, ⟨before, passed, skipped, rest, { progress with
        reading := fun _ => nothing
        discarding := fun other => ReaderMode.noConfusion other }⟩, known⟩
  | @resume after offset committed opened =>
      refine ⟨size, ?_, lines_known⟩
      cases after with
      | none =>
          obtain rfl := Except.ok.inj opened
          exact ⟨[], [], [], state.content, progress_opened state.content⟩
      | some cursor =>
          obtain ⟨emitted, member, rfl⟩ := committed cursor rfl
          obtain ⟨before', rest', resumed⟩ :=
            progress_resumed size (lines_known emitted member) opened
          exact ⟨before', [], [], rest', resumed⟩

theorem sound_of_run {content : List UInt8} {path : List (Taken FollowedLog LogAction)}
    (size : content.length < 2 ^ 63)
    (run : Run (FollowedLog.Step unicode identity) (.opened content) path later)
    (regular : ∀ taken ∈ path, ResumesAtLineStart taken) : later.Sound identity := by
  refine run.extend
    (motive := fun path state => (∀ taken ∈ path, ResumesAtLineStart taken) → state.Sound identity)
    ?_ ?_ regular
  · exact fun _ => ⟨size, ⟨[], [], [], content, progress_opened content⟩, List.forall_mem_nil _⟩
  · intro earlier state action later _ sound step regular
    obtain ⟨before, last⟩ := List.forall_mem_append.mp regular
    exact step.sound (sound before) (last _ (List.mem_singleton_self _))

/-- **The lines behind a cursor are emitted, each once and in order**, in every run of
writes of any size, reads, polls and restarts whose polls resume at the beginning of a
line. -/
theorem lines_emitted_once {content : List UInt8} {path : List (Taken FollowedLog LogAction)}
    (size : content.length < 2 ^ 63)
    (run : Run (FollowedLog.Step unicode identity) (.opened content) path state)
    (regular : ∀ taken ∈ path, ResumesAtLineStart taken) :
    EmitsExactly unicode identity state := by
  have sound := sound_of_run size run regular
  obtain ⟨before, passed, skipped, rest, progress⟩ := sound.progress
  refine ⟨?_, progress.drains, ?_⟩
  · rw [progress.following_eq]
    exact List.prefix_append _ _
  · intro line member
    obtain ⟨front, raw, _, _, _, _, _, _, opened⟩ :=
      @openAt_of_mem unicode _ _ _ sound.size (sound.lines_known line member)
    exact ⟨_, opened⟩

end Runs

/-- A line is written in two parts, with a poll behind the first. -/
theorem lines_emitted_once_two_parts :
    ∃ path state, Run (FollowedLog.Step .ascii ⟨2049, 11⟩) (.opened [104]) path state ∧
      state.content = [104, 105, 10] ∧ (∀ taken ∈ path, ResumesAtLineStart taken) ∧
      EmitsExactly .ascii ⟨2049, 11⟩ state := by
  obtain ⟨path, run, regular⟩ : ∃ path, Run (FollowedLog.Step .ascii ⟨2049, 11⟩) (.opened [104])
      path ⟨[104, 105, 10], none, ⟨0, .reading, []⟩, []⟩ ∧
        ∀ taken ∈ path, ResumesAtLineStart taken := by
    refine ⟨_, .cons .read (.cons (.write [105, 10] (by decide)) (.cons (.poll rfl) (.nil _))), ?_⟩
    refine List.forall_mem_cons.mpr ⟨fun other => LogAction.noConfusion other, ?_⟩
    refine List.forall_mem_cons.mpr ⟨fun other => LogAction.noConfusion other, ?_⟩
    exact List.forall_mem_singleton.mpr fun _ => rfl
  exact ⟨path, _, run, rfl, regular, lines_emitted_once (by decide) run regular⟩

/-! ## Long lines in two parts -/

theorem readline_eq_self {limit : Nat} {text : List UInt8} (unended : newline ∉ text)
    (short : text.length ≤ limit) : readline limit text = text := by
  rcases readline_cases limit text with ⟨line, rest, split, _, _, _⟩ |
    ⟨part, rest, split, _, full, read⟩ | ⟨_, _, read⟩
  · exact absurd (split ▸ List.mem_append_right _ List.mem_cons_self) unended
  · rw [split, List.length_append, full] at short
    have nothing : rest = [] := List.length_eq_zero_iff.mp (by omega)
    rw [read, split, nothing, List.append_nil]
  · exact read

section LongLines

variable {unicode : UnicodeTables} {identity : FileIdentity} {long : List UInt8}

/-- **A poll that resumes inside a line that is too long emits the end of it**, although the
log has no complete line that is admissible. -/
theorem emits_fragment (unended : newline ∉ long) (length : long.length = maxLineBytes) :
    ∃ path state, Run (FollowedLog.Step unicode identity) (.opened []) path state ∧
      ¬ EmitsExactly unicode identity state := by
  let log (content : List UInt8) (reader : FileReader) : FollowedLog := ⟨content, none, reader, []⟩
  let fragment : RawLine := rawLine identity [98, 10] (maxLineBytes + 2)
  have whole_length : (long ++ [98, 10]).length = maxLineBytes + 2 := by
    rw [List.length_append, length]
    rfl
  have wrote : FollowedLog.Step unicode identity (.opened []) (.write long)
      (log long ⟨0, .reading, []⟩) :=
    .write long (length.trans_lt (by decide))
  have discards : FollowedLog.Step unicode identity (log long ⟨0, .reading, []⟩) .read
      (log long ⟨maxLineBytes, .discarding, []⟩) := by
    have next_eq : FileReader.next identity long ⟨0, .reading, []⟩ =
        ⟨maxLineBytes, .discarding, []⟩ := by
      have nonempty : long ≠ [] := List.ne_nil_of_length_pos (length ▸ by decide)
      rw [FileReader.next, List.drop_zero, readline_eq_self unended (Nat.le_of_eq length)]
      simp [nonempty, getLast?_ne_newline unended, length]
    exact next_eq ▸ .read
  have returns : FollowedLog.Step unicode identity (log long ⟨maxLineBytes, .discarding, []⟩)
      .read (log long ⟨maxLineBytes, .returned, []⟩) := by
    have next_eq : FileReader.next identity long ⟨maxLineBytes, .discarding, []⟩ =
        ⟨maxLineBytes, .returned, []⟩ := by
      have nothing : long.drop maxLineBytes = [] :=
        List.drop_eq_nil_iff.mpr (Nat.le_of_eq length)
      rw [FileReader.next, nothing]
      rfl
    exact next_eq ▸ .read
  have ends : FollowedLog.Step unicode identity (log long ⟨maxLineBytes, .returned, []⟩)
      (.write [98, 10]) (log (long ++ [98, 10]) ⟨maxLineBytes, .returned, []⟩) :=
    .write [98, 10] (whole_length.trans_lt (by decide))
  have polls : FollowedLog.Step unicode identity
      (log (long ++ [98, 10]) ⟨maxLineBytes, .returned, []⟩) .poll
      (log (long ++ [98, 10]) ⟨maxLineBytes, .reading, []⟩) := .poll rfl
  have emits : FollowedLog.Step unicode identity
      (log (long ++ [98, 10]) ⟨maxLineBytes, .reading, []⟩) .read
      (log (long ++ [98, 10]) ⟨maxLineBytes + 2, .reading, [fragment]⟩) := by
    have next_eq : FileReader.next identity (long ++ [98, 10]) ⟨maxLineBytes, .reading, []⟩ =
        ⟨maxLineBytes + 2, .reading, [fragment]⟩ := by
      have left : (long ++ [98, 10]).drop maxLineBytes = [98, 10] := by rw [← length, List.drop_left]
      rw [FileReader.next, left]
      rfl
    exact next_eq ▸ .read
  refine ⟨_, _, .cons wrote (.cons discards (.cons returns (.cons ends (.cons polls
    (.cons emits (.nil _)))))), fun emits_exactly => ?_⟩
  -- the only line of the file is too long
  have nothing : linesFrom identity 0 (long ++ [98, 10]) = [] := by
    have whole_unended : newline ∉ long ++ [98] := by
      rw [List.mem_append, not_or]
      exact ⟨unended, by decide⟩
    have too_long : maxLineBytes ≤ (long ++ [98]).length := by
      rw [List.length_append, length]
      exact Nat.le_add_right _ _
    have split : long ++ [98, 10] = long ++ [98] ++ [newline] := by
      rw [List.append_assoc]
      rfl
    rw [split]
    exact linesFrom_overlong whole_unended too_long
  have in_order : [fragment] <+: linesFrom identity 0 (long ++ [98, 10]) := emits_exactly.inOrder
  rw [nothing] at in_order
  exact absurd (List.prefix_nil.mp in_order) (List.cons_ne_nil _ _)

end LongLines

/-- 65536 times the same letter, and then the end of the line. -/
theorem overlong_line_emits_fragment :
    ∃ path state, Run (FollowedLog.Step .ascii ⟨2049, 11⟩) (.opened []) path state ∧
      ¬ EmitsExactly .ascii ⟨2049, 11⟩ state := by
  have unended : newline ∉ List.replicate maxLineBytes (97 : UInt8) :=
    fun member => absurd (List.eq_of_mem_replicate member) (by decide)
  exact emits_fragment unended List.length_replicate

end WolandGuard.Agent
