import WolandGuard.Agent.Normalization
import WolandGuard.Data.Readable
import WolandGuard.Foundations.Dictionaries
import WolandGuard.Foundations.Ranking
import Mathlib.Data.Nat.Bitwise

/-!
# Integrity of watched files

`FileIntegritySource`: the states of the watched files are compared with those
that the cursor of the source carries. A record of a change has the states
compared so far in its cursor, and the earlier ones of the files after it.
-/

set_option autoImplicit false

namespace WolandGuard.Agent

open Foundations Incidents

/-! ## What the agent can observe -/

/-- `os.stat_result`. -/
structure StatResult where
  mode : Nat
  size : Nat
  mtimeNs : Int
  uid : Nat
  gid : Nat
  deriving DecidableEq, Repr

/-- A file that could be opened: `os.fstat` and the bytes until the end, unless
they raise. -/
structure OpenedFile where
  info : Option StatResult
  content : Option (List UInt8)

/-- The answers of the system about a path. -/
structure FileAnswers where
  opened : Option OpenedFile
  info : Option StatResult

structure FileState where
  stateDigest : String
  permissionDigest : String
  present : Bool
  readable : Bool
  deriving DecidableEq, Repr

def maxHashedBytes : Nat := 8 * 1024 * 1024

def maxWatchedPaths : Nat := 64

def stateChars : Nat := 16

def permissionChars : Nat := 8

def missingState : String := String.ofList (List.replicate stateChars '0')

def missingPermissions : String := String.ofList (List.replicate permissionChars '0')

/-- `observable`. -/
def FileState.observable (state : FileState) : String :=
  state.stateDigest ++ state.permissionDigest

/-- `hashlib.sha256(message).hexdigest()`. -/
def hexdigest (message : List Nat) : String :=
  String.join ((Sha256.digest message).map fun word => hexText 8 word.toNat)

/-- `_digest`. -/
def digestOf (material : String) (length : Nat) : String :=
  String.ofList ((hexdigest (utf8 material)).toList.take length)

/-- `stat.S_ISREG`. -/
def isRegular (mode : Nat) : Bool := mode &&& 0o170000 = 0o100000

/-- `f"{number:04o}"`. -/
def octalText (number : Nat) : String :=
  String.ofList ((Nat.toDigits 8 number).leftpad 4 '0')

/-- `_state_from_stat`. -/
def stateFromStat (info : StatResult) (content : Option String) : FileState :=
  let permissions := octalText (info.mode &&& 0o7777) ++ ":" ++ toString info.uid ++ ":" ++
    toString info.gid
  let material := content.getD ("meta|" ++ toString info.size ++ "|" ++ toString info.mtimeNs)
  { stateDigest := digestOf material stateChars
    permissionDigest := digestOf permissions permissionChars
    present := true
    readable := content.isSome }

/-- `_state_without_reading`. -/
def stateWithoutReading (answers : FileAnswers) : FileState :=
  match answers.info with
  | none =>
      { stateDigest := missingState
        permissionDigest := missingPermissions
        present := false
        readable := false }
  | some info => stateFromStat info none

/-- `read_state`. -/
def readState (answers : FileAnswers) : FileState :=
  match answers.opened with
  | none => stateWithoutReading answers
  | some file =>
      match file.info with
      | none => stateWithoutReading answers
      | some info =>
          if !(isRegular info.mode) || maxHashedBytes < info.size then stateFromStat info none
          else
            match file.content with
            | none => stateWithoutReading answers
            | some bytes => stateFromStat info (some (hexdigest (bytes.map UInt8.toNat)))

/-- `classify`. -/
def classify (previous : String) (state : FileState) : String :=
  let before := String.ofList (previous.toList.take stateChars)
  if !state.present then "disappeared"
  else if before = missingState then "appeared"
  else if before ≠ state.stateDigest then if state.readable then "content" else "metadata"
  else "permissions"

/-! ## Baselines -/

/-- The states by the keys of their paths. -/
abbrev Baseline := List (String × String)

/-- `key`. -/
def key (path : String) : String := digestOf path 8

/-- The order of two entries, as tuples. -/
def entryOrder (left right : String × String) : Bool :=
  left.1 < right.1 || (left.1 = right.1 && left.2 ≤ right.2)

/-- `serialize_baseline`. -/
def serializeBaseline (entries : Baseline) : String :=
  ",".intercalate ((entries.insertionSort (entryOrder · ·)).map fun entry =>
    entry.1 ++ ":" ++ entry.2)

/-- The loop of `parse_baseline` over the items. -/
def parseEntries (unicode : UnicodeTables) : List (List Char) → Baseline → Baseline
  | [], entries => entries
  | item :: rest, entries =>
      let name := item.takeWhile (· ≠ ':')
      match item.dropWhile (· ≠ ':') with
      | [] => []
      | _ :: value =>
          if !(unicode.isAlnum name) || !(unicode.isAlnum value) then []
          else if value.length ≠ stateChars + permissionChars then []
          else parseEntries unicode rest
            (putRow Prod.fst (String.ofList name, String.ofList value) entries)

/-- `parse_baseline`. -/
def parseBaseline (unicode : UnicodeTables) : Option String → Baseline
  | none => []
  | some cursor =>
      if cursor.isEmpty then [] else parseEntries unicode (cursor.toList.splitOn ',') []

/-! ## Scans -/

/-- A watched path with its key and its state. -/
structure Watched where
  name : String
  path : String
  state : FileState

/-- `current`. -/
def current (answers : String → FileAnswers) (paths : List String) : List Watched :=
  paths.foldl (fun table path => putRow Watched.name ⟨key path, path, readState (answers path)⟩ table)
    []

/-- `_baseline_record`. -/
def baselineRecord (entries : Baseline) : JournalRecord where
  cursor := serializeBaseline entries
  fields := [("FILE_INTEGRITY_BASELINE", .bool true)]

/-- The record of a change. -/
def changeRecord (committed : Baseline) (previous : String) (file : Watched) : JournalRecord where
  cursor := serializeBaseline committed
  fields :=
    [("FILE_INTEGRITY_PATH", .str file.path),
      ("FILE_INTEGRITY_CHANGE", .str (classify previous file.state)),
      ("FILE_INTEGRITY_MONITORING", .str (if file.state.readable then "content" else "metadata"))]

/-- `set(committed) == set(baseline)`. -/
def sameNames (committed baseline : Baseline) : Bool :=
  (committed.all fun entry => baseline.any (·.1 = entry.1)) &&
    baseline.all fun entry => committed.any (·.1 = entry.1)

/-- The loop of `_scan`; `stopped i` is what `stop_event.is_set()` says the
`i`-th time. -/
def compareFrom (stopped : Nat → Bool) (baseline : Baseline) :
    Nat → List Watched → Baseline → List JournalRecord
  | _, [], committed => if sameNames committed baseline then [] else [baselineRecord committed]
  | i, file :: rest, committed =>
      if stopped i then []
      else
        let observed := file.state.observable
        let committed := putRow Prod.fst (file.name, observed) committed
        match valueOf baseline file.name with
        | none => compareFrom stopped baseline (i + 1) rest committed
        | some previous =>
            if previous = observed then compareFrom stopped baseline (i + 1) rest committed
            else changeRecord committed previous file ::
              compareFrom stopped baseline (i + 1) rest committed

/-- `_scan`. -/
def scan (unicode : UnicodeTables) (stopped : Nat → Bool) (answers : String → FileAnswers)
    (paths : List String) (afterCursor : Option String) : List JournalRecord :=
  let baseline := parseBaseline unicode afterCursor
  let files := current answers paths
  let committed := baseline.filter fun entry => files.any (·.name = entry.1)
  if baseline.isEmpty then
    [baselineRecord (files.map fun file => (file.name, file.state.observable))]
  else compareFrom stopped baseline 0 files committed

/-! ## Digests -/

theorem hexText_digits {width n : Nat} {c : Char} (member : c ∈ (hexText width n).toList) :
    c ∈ "0123456789abcdef".toList := by
  rw [hexText, String.toList_ofList] at member
  obtain ⟨i, _, rfl⟩ := List.mem_map.mp member
  have every : ∀ m < 16, "0123456789abcdef".toList.getD m '0' ∈ "0123456789abcdef".toList := by
    decide
  exact every _ (Nat.mod_lt _ (by decide))

theorem hexdigest_digits {message : List Nat} {c : Char}
    (member : c ∈ (hexdigest message).toList) : c ∈ "0123456789abcdef".toList := by
  rw [hexdigest, String.toList_join] at member
  obtain ⟨text, word, there⟩ := List.mem_flatMap.mp member
  obtain ⟨value, _, rfl⟩ := List.mem_map.mp word
  exact hexText_digits there

theorem hexdigest_length (message : List Nat) : (hexdigest message).toList.length = 64 := by
  have eight : ∀ words : List Sha256.Word,
      ((words.map fun word => hexText 8 word.toNat).flatMap String.toList).length =
        8 * words.length := by
    intro words
    induction words with
    | nil => rfl
    | cons word rest ih =>
        rw [List.map_cons, List.flatMap_cons, List.length_append, hexText_length, ih,
          List.length_cons]
        omega
  rw [hexdigest, String.toList_join, eight, Sha256.digest_length]

/-- A text of a number of hexadecimal digits. -/
def IsDigest (length : Nat) (text : String) : Prop :=
  text.toList.length = length ∧ ∀ c ∈ text.toList, c ∈ "0123456789abcdef".toList

theorem IsDigest.append {left right : String} {n m : Nat} (first : IsDigest n left)
    (second : IsDigest m right) : IsDigest (n + m) (left ++ right) := by
  constructor
  · rw [String.toList_append, List.length_append, first.1, second.1]
  · intro c member
    rcases List.mem_append.mp (String.toList_append ▸ member) with there | there
    · exact first.2 c there
    · exact second.2 c there

theorem isDigest_digestOf (material : String) {length : Nat} (short : length ≤ 64) :
    IsDigest length (digestOf material length) := by
  constructor
  · rw [digestOf, String.toList_ofList, List.length_take, hexdigest_length, Nat.min_eq_left short]
  · intro c member
    rw [digestOf, String.toList_ofList] at member
    exact hexdigest_digits (List.mem_of_mem_take member)

theorem isDigest_zeros (length : Nat) :
    IsDigest length (String.ofList (List.replicate length '0')) := by
  constructor
  · rw [String.toList_ofList, List.length_replicate]
  · intro c member
    rw [String.toList_ofList] at member
    rw [List.eq_of_mem_replicate member]
    decide

theorem isDigest_stateFromStat (info : StatResult) (content : Option String) :
    IsDigest (stateChars + permissionChars) (stateFromStat info content).observable :=
  (isDigest_digestOf _ (by decide)).append (isDigest_digestOf _ (by decide))

theorem isDigest_stateWithoutReading (answers : FileAnswers) :
    IsDigest (stateChars + permissionChars) (stateWithoutReading answers).observable := by
  unfold stateWithoutReading
  split
  · exact (isDigest_zeros stateChars).append (isDigest_zeros permissionChars)
  · exact isDigest_stateFromStat _ _

/-- **Whatever the system answers, a state is 24 digits.** -/
theorem isDigest_readState (answers : FileAnswers) :
    IsDigest (stateChars + permissionChars) (readState answers).observable := by
  unfold readState
  split
  · exact isDigest_stateWithoutReading answers
  · split
    · exact isDigest_stateWithoutReading answers
    · split
      · exact isDigest_stateFromStat _ _
      · split
        · exact isDigest_stateWithoutReading answers
        · exact isDigest_stateFromStat _ _

theorem isDigest_key (path : String) : IsDigest 8 (key path) :=
  isDigest_digestOf path (by decide)

section Texts

variable {unicode : UnicodeTables}

theorem IsDigest.isAlnum {text : String} {length : Nat} (digest : IsDigest length text)
    (positive : 0 < length) : unicode.isAlnum text.toList = true := by
  have every : ("0123456789abcdef".toList.all fun c => decide (c.toNat < 128) &&
      ["Lu", "Ll", "Lt", "Lm", "Lo", "Nd", "Nl", "No"].contains
        (UnicodeData.ascii.category c)) = true := by
    decide
  rw [UnicodeTables.isAlnum, Bool.and_eq_true, Bool.not_eq_true', List.isEmpty_eq_false_iff,
    List.all_eq_true]
  constructor
  · intro nothing
    have none_left := digest.1
    rw [nothing, List.length_nil] at none_left
    omega
  · intro c member
    have both := List.all_eq_true.mp every c (digest.2 c member)
    rw [Bool.and_eq_true, decide_eq_true_iff] at both
    rw [unicode.category_ascii c both.1]
    exact both.2

/-- No separator is alphanumeric. -/
theorem separators_notMem {text : List Char} (alnum : unicode.isAlnum text = true) :
    ':' ∉ text ∧ ',' ∉ text := by
  have every : ([':', ','].all fun c => decide (c.toNat < 128) &&
      !(["Lu", "Ll", "Lt", "Lm", "Lo", "Nd", "Nl", "No"].contains
        (UnicodeData.ascii.category c))) = true := by
    decide
  have excluded : ∀ c ∈ [':', ','], c ∉ text := by
    intro c separator member
    have both := List.all_eq_true.mp every c separator
    rw [Bool.and_eq_true, decide_eq_true_iff, Bool.not_eq_true'] at both
    obtain ⟨small, other⟩ := both
    have letter := List.all_eq_true.mp (Bool.and_eq_true_iff.mp alnum).2 c member
    rw [unicode.category_ascii c small, other] at letter
    cases letter
  exact ⟨excluded _ (.head _), excluded _ (.tail _ (.head _))⟩

end Texts

/-! ## Reading a baseline back -/

section Baselines

variable {unicode : UnicodeTables} {entries more : Baseline}

/-- What `parse_baseline` returns, and what is serialised. -/
structure WellFormed (unicode : UnicodeTables) (entries : Baseline) : Prop where
  unique : (entries.map Prod.fst).Nodup
  names : ∀ entry ∈ entries, unicode.isAlnum entry.1.toList = true
  values : ∀ entry ∈ entries, unicode.isAlnum entry.2.toList = true ∧
    entry.2.toList.length = stateChars + permissionChars

theorem WellFormed.of_subset (wellFormed : WellFormed unicode entries)
    (unique : (more.map Prod.fst).Nodup) (subset : more ⊆ entries) : WellFormed unicode more where
  unique := unique
  names entry member := wellFormed.names entry (subset member)
  values entry member := wellFormed.values entry (subset member)

theorem WellFormed.putRow {name value : String} (wellFormed : WellFormed unicode entries)
    (name_alnum : unicode.isAlnum name.toList = true)
    (value_alnum : unicode.isAlnum value.toList = true)
    (value_length : value.toList.length = stateChars + permissionChars) :
    WellFormed unicode (putRow Prod.fst (name, value) entries) where
  unique := nodup_putRow wellFormed.unique
  names := by
    intro entry member
    rcases mem_putRow.mp member with rfl | ⟨old, _⟩
    · exact name_alnum
    · exact wellFormed.names entry old
  values := by
    intro entry member
    rcases mem_putRow.mp member with rfl | ⟨old, _⟩
    · exact ⟨value_alnum, value_length⟩
    · exact wellFormed.values entry old

theorem wellFormed_parseEntries {items : List (List Char)} (wellFormed : WellFormed unicode entries) :
    WellFormed unicode (parseEntries unicode items entries) := by
  have nothing : WellFormed unicode [] := ⟨.nil, by simp, by simp⟩
  induction items generalizing entries with
  | nil => exact wellFormed
  | cons item rest ih =>
      unfold parseEntries
      dsimp only
      cases item.dropWhile (· ≠ ':') with
      | nil => exact nothing
      | cons separator value =>
        dsimp only
        by_cases alnum : (!(unicode.isAlnum (item.takeWhile (· ≠ ':'))) ||
            !(unicode.isAlnum value)) = true
        · rw [if_pos alnum]
          exact nothing
        · rw [if_neg alnum]
          simp only [Bool.or_eq_true, Bool.not_eq_true', not_or, Bool.not_eq_false] at alnum
          split
          · exact nothing
          next length =>
            refine ih (wellFormed.putRow ?_ ?_ ?_)
            · rw [String.toList_ofList]
              exact alnum.1
            · rw [String.toList_ofList]
              exact alnum.2
            · rw [String.toList_ofList]
              exact not_not.mp length

theorem wellFormed_parseBaseline (unicode : UnicodeTables) (cursor : Option String) :
    WellFormed unicode (parseBaseline unicode cursor) := by
  have nothing : WellFormed unicode [] := ⟨.nil, by simp, by simp⟩
  unfold parseBaseline
  split
  · exact nothing
  · split
    · exact nothing
    · exact wellFormed_parseEntries nothing

/-- The item of an entry. -/
def itemOf (entry : String × String) : List Char := entry.1.toList ++ ':' :: entry.2.toList

/-- The items of well-formed entries are read one by one. -/
theorem parseEntries_items (wellFormed : WellFormed unicode (entries ++ more)) :
    parseEntries unicode (more.map itemOf) entries = entries ++ more := by
  induction more generalizing entries with
  | nil => simp [parseEntries]
  | cons entry rest ih =>
      obtain ⟨name, value⟩ := entry
      have member : (name, value) ∈ entries ++ (name, value) :: rest := by simp
      have name_alnum := wellFormed.names _ member
      obtain ⟨value_alnum, length⟩ := wellFormed.values _ member
      have before : ∀ c ∈ name.toList, decide (c ≠ ':') = true := by
        intro c there
        exact decide_eq_true fun same => (separators_notMem name_alnum).1 (same ▸ there)
      have absent : ∀ old ∈ entries, old.1 ≠ name := by
        intro old there same
        have unique := wellFormed.unique
        rw [List.map_append, List.nodup_append] at unique
        exact unique.2.2 _ (List.mem_map_of_mem there) _
          (List.mem_map_of_mem List.mem_cons_self) same
      have put : putRow Prod.fst (name, value) entries = entries ++ [(name, value)] := by
        rcases putRow_cases Prod.fst (name, value) entries with ⟨⟨old, there, same⟩, _⟩ | ⟨_, put⟩
        · exact absurd same (absent old there)
        · exact put
      rw [List.map_cons, parseEntries]
      simp only [itemOf, List.takeWhile_append_of_pos before, List.dropWhile_append_of_pos before,
        List.takeWhile_cons, List.dropWhile_cons, ne_eq, not_true_eq_false, decide_false,
        Bool.false_eq_true, if_false, List.append_nil, name_alnum, value_alnum, Bool.not_true,
        Bool.or_self, length, String.ofList_toList, put]
      rw [ih (by simpa using wellFormed), List.append_assoc, List.singleton_append]

/-- The text of a baseline, item by item. -/
theorem serializeBaseline_toList (entries : Baseline) :
    (serializeBaseline entries).toList =
      [','].intercalate ((entries.insertionSort (entryOrder · ·)).map itemOf) := by
  have items : (fun entry : String × String => (entry.1 ++ ":" ++ entry.2).toList) = itemOf := by
    funext entry
    simp [itemOf]
  rw [serializeBaseline, String.toList_intercalate, List.map_map]
  exact congrArg (fun item => [','].intercalate (List.map item _)) items

/-- **Parsing a serialised baseline returns it.** -/
theorem parseBaseline_serializeBaseline (wellFormed : WellFormed unicode entries) :
    (parseBaseline unicode (some (serializeBaseline entries))).Perm entries := by
  have sorted := List.perm_insertionSort (entryOrder · ·) entries
  have text := serializeBaseline_toList entries
  generalize entries.insertionSort (entryOrder · ·) = rows at *
  have rows_wellFormed : WellFormed unicode rows :=
    wellFormed.of_subset ((sorted.map Prod.fst).nodup_iff.mpr wellFormed.unique) sorted.subset
  cases rows with
  | nil =>
      have empty : serializeBaseline entries = "" := String.toList_inj.mp text
      rw [parseBaseline, empty]
      exact sorted
  | cons first rest =>
      have whole : ∀ item ∈ (first :: rest).map itemOf, ',' ∉ item := by
        intro item member
        obtain ⟨entry, there, rfl⟩ := List.mem_map.mp member
        have name := separators_notMem (rows_wellFormed.names entry there)
        have value := separators_notMem (rows_wellFormed.values entry there).1
        simp [itemOf, name.2, value.2]
      have split : (serializeBaseline entries).toList.splitOn ',' = (first :: rest).map itemOf := by
        rw [text]
        exact List.splitOn_intercalate ',' whole (by simp)
      have filled : (serializeBaseline entries).isEmpty = false := by
        rw [Bool.eq_false_iff, ne_eq, String.isEmpty_iff]
        intro empty
        rw [empty] at split
        have item := (List.cons.inj split).1
        simp [itemOf] at item
      rw [parseBaseline, filled, split, if_neg (by simp),
        parseEntries_items (by simpa using rows_wellFormed), List.nil_append]
      exact sorted

/-- A serialised baseline says what the baseline says. -/
theorem valueOf_parseBaseline (wellFormed : WellFormed unicode entries) (name : String) :
    valueOf (parseBaseline unicode (some (serializeBaseline entries))) name =
      valueOf entries name :=
  valueOf_perm (wellFormed_parseBaseline unicode _).unique
    (parseBaseline_serializeBaseline wellFormed) name

end Baselines

end WolandGuard.Agent
