import WolandGuard.Agent.FileScans
import WolandGuard.Agent.FollowedFile
import WolandGuard.Agent.Journald
import WolandGuard.Agent.LogMessages
import WolandGuard.Agent.NginxAccess
import WolandGuard.Agent.SyslogLines

/-!
# The records that sources yield

Every record of the four sources, whatever stands in the lines and in the watched
files. Its cursor fits into the spool (`Yields.cursorFits`), and the parsers ignore it
or make an event of it that passes the checks of the contract (`Yields.recognised`).

Two things come from outside: `journalctl` prints the fields that it is asked for and
those of the entry itself, in valid UTF-8, and `os.fstat` gives device and inode as
numbers of 64 bits.
-/

set_option autoImplicit false

namespace WolandGuard.Agent

open Foundations IpBlocks

/-! ## Sources -/

/-- `JOURNALD_OUTPUT_FIELDS`. -/
def journaldOutputFields : List String :=
  ["MESSAGE", "PRIORITY", "SYSLOG_IDENTIFIER", "_SYSTEMD_UNIT", "_TRANSPORT", "_UID", "_GID",
    "_COMM", "MESSAGE_ID", "UNIT"]

/-- The fields that `journalctl` prints of every entry. -/
def entryFields : List String :=
  ["__CURSOR", "__REALTIME_TIMESTAMP", "__MONOTONIC_TIMESTAMP", "_BOOT_ID", "__SEQNUM",
    "__SEQNUM_ID"]

/-- The records of a source. The texts of lines and the saved cursor are arbitrary, and
`loads` is `json.loads`. -/
inductive Yields (unicode : UnicodeTables) (accessTime : List Char → Option Int) :
    EventSource → JournalRecord → Prop where
  | journald {loads : String → Option JsonValue} {line : String} {record : JournalRecord} :
      parseJournalJsonLine loads line = some record →
      (∀ entry ∈ record.fields, entry.1 ∈ journaldOutputFields ++ entryFields) →
      Yields unicode accessTime .journald record
  | syslogFile {position : LinePosition} {raw : List UInt8} {now : Int} {text : String}
      {record : JournalRecord} :
      syslogRecord unicode now (lineCursor position raw) text = .ok (some record) →
      Yields unicode accessTime .syslogFile record
  | nginxAccess {position : LinePosition} {raw : List UInt8} {text : List Char}
      {record : JournalRecord} :
      accessRecord accessTime unicode (lineCursor position raw) text = some record →
      Yields unicode accessTime .nginxAccess record
  | fileIntegrity {stopped : Nat → Bool} {answers : String → FileAnswers} {paths : List String}
      {afterCursor : Option String} {record : JournalRecord} :
      paths ≠ [] → paths.length ≤ maxWatchedPaths →
      record ∈ scan unicode stopped answers paths afterCursor →
      Yields unicode accessTime .fileIntegrity record

/-! ## Cursors -/

/-- A short text whose first character is not NUL fits. -/
theorem cursorFits_of_head {cursor : String} {first : Char}
    (head : cursor.toList.head? = some first) (visible : first ≠ '\x00')
    (short : cursor.length ≤ 4096) : Spool.cursorFits cursor = true := by
  obtain ⟨rest, starts⟩ := List.head?_eq_some_iff.mp head
  have taken : (cursor.toList.takeWhile (· ≠ '\x00')).length ≤ cursor.toList.length :=
    (List.takeWhile_sublist _).length_le
  rw [String.length_toList] at taken
  have nonempty : 1 ≤ (cursor.toList.takeWhile (· ≠ '\x00')).length := by
    rw [starts, List.takeWhile_cons, if_pos (decide_eq_true visible)]
    exact Nat.le_add_left 1 _
  rw [Spool.cursorFits, Bool.and_eq_true, decide_eq_true_eq, decide_eq_true_eq]
  exact ⟨nonempty, by omega⟩

/-- Any accepted cursor of the journal fits. -/
theorem cursorFits_of_validatedCursor {cursor : String} (valid : validatedCursor cursor = true) :
    Spool.cursorFits cursor = true := by
  simp only [validatedCursor, Bool.and_eq_true, decide_eq_true_eq] at valid
  obtain ⟨⟨nonempty, short⟩, each⟩ := valid
  cases starts : cursor.toList with
  | nil =>
      rw [← String.length_toList, starts] at nonempty
      cases nonempty
  | cons first rest =>
      refine cursorFits_of_head (by rw [starts, List.head?_cons]) ?_ short
      rintro rfl
      have accepted := List.all_eq_true.mp each '\x00' (starts ▸ List.mem_cons_self)
      exact absurd accepted (by decide)

theorem toList_toString_nat (n : Nat) : (toString n).toList = Nat.toDigits 10 n := by simp

theorem length_toString_le {n width : Nat} (positive : 0 < width) (small : n < 10 ^ width) :
    (toString n).length ≤ width := by
  rw [← String.length_toList, toList_toString_nat]
  exact (Nat.length_toDigits_le_iff (by decide) positive).mpr small

/-- **The cursor of a line fits**: three numbers and a part of a digest. -/
theorem cursorFits_lineCursor (position : LinePosition) (raw : List UInt8) :
    Spool.cursorFits (lineCursor position raw) = true := by
  have device : (toString position.device.toNat).length ≤ 20 :=
    length_toString_le (by decide) (position.device.isLt.trans (by decide))
  have inode : (toString position.inode.toNat).length ≤ 20 :=
    length_toString_le (by decide) (position.inode.isLt.trans (by decide))
  have endOffset : (toString position.endOffset.toNat).length ≤ 20 :=
    length_toString_le (by decide) (position.endOffset.isLt.trans (by decide))
  have digest : (String.ofList ((hexdigest (raw.map UInt8.toNat)).toList.take 12)).length ≤ 12 := by
    rw [String.length_ofList, List.length_take]
    exact Nat.min_le_left _ _
  have colon : ":".length = 1 := rfl
  have short : (lineCursor position raw).length ≤ 4096 := by
    simp only [lineCursor, String.length_append, colon]
    omega
  have digits := toList_toString_nat position.device.toNat
  cases starts : Nat.toDigits 10 position.device.toNat with
  | nil => exact absurd starts Nat.toDigits_ne_nil
  | cons first rest =>
      rw [starts] at digits
      have head : (lineCursor position raw).toList.head? = some first := by
        simp only [lineCursor, String.toList_append, digits, List.cons_append, List.head?_cons]
      refine cursorFits_of_head head ?_ short
      rintro rfl
      have member : '\x00' ∈ Nat.toDigits 10 position.device.toNat := starts ▸ List.mem_cons_self
      have digit := Nat.isDigit_of_mem_toDigits (by decide) (by decide) member
      exact absurd digit (by decide)

/-! ## Cursors of scans -/

/-- Entries for some of the watched paths. -/
structure OfPaths (unicode : UnicodeTables) (paths : List String) (entries : Baseline) : Prop where
  wellFormed : WellFormed unicode entries
  names : ∀ entry ∈ entries, entry.1 ∈ paths.map key

/-- The records of a scan. -/
inductive ScanRecord (unicode : UnicodeTables) (paths : List String) : JournalRecord → Prop where
  | baseline {entries : Baseline} : OfPaths unicode paths entries → entries ≠ [] →
      ScanRecord unicode paths (baselineRecord entries)
  | change {entries : Baseline} {previous : String} {file : Watched} :
      OfPaths unicode paths entries → entries ≠ [] →
      ScanRecord unicode paths (changeRecord entries previous file)

section Scans

variable {unicode : UnicodeTables} {answers : String → FileAnswers} {paths : List String}
variable {entries : Baseline} {record : JournalRecord}

theorem OfPaths.putRow {path : String} (ofPaths : OfPaths unicode paths entries)
    (watched : path ∈ paths) :
    OfPaths unicode paths
      (putRow Prod.fst (key path, (readState (answers path)).observable) entries) where
  wellFormed :=
    have state := isDigest_readState (answers path)
    ofPaths.wellFormed.putRow ((isDigest_key path).isAlnum (by decide))
      (state.isAlnum (by decide)) state.1
  names := by
    intro entry member
    rcases mem_putRow.mp member with rfl | ⟨old, _⟩
    · exact List.mem_map_of_mem watched
    · exact ofPaths.names entry old

theorem putRow_ne_nil {entry : String × String} : putRow Prod.fst entry entries ≠ [] :=
  List.ne_nil_of_mem (mem_putRow.mpr (.inl rfl))

/-- The files of a scan are the watched paths, each once. -/
theorem current_spec (answers : String → FileAnswers) (paths : List String) :
    ((current answers paths).map Watched.name).Nodup ∧
      (∀ file ∈ current answers paths, ∃ path ∈ paths, file = watchedFile answers path) ∧
      (paths ≠ [] → current answers paths ≠ []) := by
  have each : ∀ (more : List String) (table : List Watched), more ⊆ paths →
      (table.map Watched.name).Nodup →
      (∀ file ∈ table, ∃ path ∈ paths, file = watchedFile answers path) →
      let files := more.foldl
        (fun table path => putRow Watched.name (watchedFile answers path) table) table
      (files.map Watched.name).Nodup ∧
        (∀ file ∈ files, ∃ path ∈ paths, file = watchedFile answers path) ∧
        (table ≠ [] ∨ more ≠ [] → files ≠ []) := by
    intro more
    induction more with
    | nil =>
        intro table _ unique known
        exact ⟨unique, known, fun some => some.resolve_right fun no => no rfl⟩
    | cons path rest ih =>
        intro table subset unique known
        have watched := subset List.mem_cons_self
        obtain ⟨unique, known, filled⟩ := ih (putRow Watched.name (watchedFile answers path) table)
          (fun other later => subset (List.mem_cons_of_mem _ later)) (nodup_putRow unique) (by
            intro file member
            rcases mem_putRow.mp member with rfl | ⟨old, _⟩
            · exact ⟨path, watched, rfl⟩
            · exact known file old)
        exact ⟨unique, known, fun _ => filled (.inl (List.ne_nil_of_mem
          (mem_putRow.mpr (.inl rfl))))⟩
  obtain ⟨unique, known, filled⟩ := each paths [] (fun _ member => member) .nil nofun
  exact ⟨unique, known, fun some => filled (.inr some)⟩

/-- **Every record of the loop has entries for the watched paths.** -/
theorem scanRecord_of_compareFrom {stopped : Nat → Bool} {baseline : Baseline}
    {files : List Watched} {i : Nat} {committed : Baseline}
    (known : ∀ file ∈ files, ∃ path ∈ paths, file = watchedFile answers path)
    (ofPaths : OfPaths unicode paths committed) (some : committed ≠ [] ∨ files ≠ [])
    (member : record ∈ compareFrom stopped baseline i files committed) :
    ScanRecord unicode paths record := by
  induction files generalizing i committed with
  | nil =>
      have filled : committed ≠ [] := some.resolve_right fun no => no rfl
      rw [compareFrom] at member
      split at member
      · cases member
      · rw [List.mem_singleton.mp member]
        exact .baseline ofPaths filled
  | cons file rest ih =>
      obtain ⟨path, watched, rfl⟩ := known _ List.mem_cons_self
      have written : OfPaths unicode paths (Foundations.putRow Prod.fst
          (key path, (readState (answers path)).observable) committed) := ofPaths.putRow watched
      have later := fun file member => known file (List.mem_cons_of_mem _ member)
      rw [compareFrom] at member
      split at member
      · cases member
      dsimp only at member
      split at member
      · exact ih later written (.inl putRow_ne_nil) member
      · split at member
        · exact ih later written (.inl putRow_ne_nil) member
        · rcases List.mem_cons.mp member with rfl | member
          · exact .change written putRow_ne_nil
          · exact ih later written (.inl putRow_ne_nil) member

theorem scanRecord_of_scan {stopped : Nat → Bool} {afterCursor : Option String}
    (watched : paths ≠ []) (member : record ∈ scan unicode stopped answers paths afterCursor) :
    ScanRecord unicode paths record := by
  obtain ⟨unique, known, filled⟩ := current_spec answers paths
  rw [scan] at member
  split at member
  · rw [List.mem_singleton.mp member]
    refine .baseline ⟨⟨?_, ?_, ?_⟩, ?_⟩ fun none_left => filled watched (List.map_eq_nil_iff.mp none_left)
    · rw [List.map_map]
      exact unique
    · intro entry written
      obtain ⟨file, present, rfl⟩ := List.mem_map.mp written
      obtain ⟨path, _, rfl⟩ := known file present
      exact (isDigest_key path).isAlnum (by decide)
    · intro entry written
      obtain ⟨file, present, rfl⟩ := List.mem_map.mp written
      obtain ⟨path, _, rfl⟩ := known file present
      have state := isDigest_readState (answers path)
      exact ⟨state.isAlnum (by decide), state.1⟩
    · intro entry written
      obtain ⟨file, present, rfl⟩ := List.mem_map.mp written
      obtain ⟨path, among, rfl⟩ := known file present
      exact List.mem_map_of_mem among
  · refine scanRecord_of_compareFrom known ⟨?_, ?_⟩ (.inr (filled watched)) member
    · have sublist := List.filter_sublist (l := parseBaseline unicode afterCursor)
        (p := fun entry => (current answers paths).any (·.name = entry.1))
      have earlier := wellFormed_parseBaseline unicode afterCursor
      exact earlier.of_subset ((sublist.map Prod.fst).nodup earlier.unique) sublist.subset
    · intro entry kept
      have here := (List.mem_filter.mp kept).2
      obtain ⟨file, present, same⟩ := List.any_eq_true.mp here
      obtain ⟨path, among, rfl⟩ := known file present
      rw [← of_decide_eq_true same]
      exact List.mem_map_of_mem among

/-! ## The length of a serialised baseline -/

/-- Short parts with a separator between them. -/
theorem length_intercalate_le {most : Nat} (separator : Char) {parts : List (List Char)}
    (short : ∀ part ∈ parts, part.length ≤ most) :
    ([separator].intercalate parts).length ≤ parts.length * (most + 1) := by
  induction parts with
  | nil => exact Nat.zero_le _
  | cons part rest ih =>
      have here := short part List.mem_cons_self
      have later := ih fun other member => short other (List.mem_cons_of_mem _ member)
      cases rest with
      | nil =>
          rw [List.intercalate_singleton, List.length_singleton]
          omega
      | cons next others =>
          rw [List.intercalate_cons_cons, List.length_append, List.length_append,
            List.length_singleton, List.length_cons, Nat.succ_mul]
          omega

/-- There are no more entries than paths. -/
theorem OfPaths.length_le (ofPaths : OfPaths unicode paths entries) :
    entries.length ≤ paths.length := by
  have subset : entries.map Prod.fst ⊆ paths.map key := by
    intro name member
    obtain ⟨entry, present, rfl⟩ := List.mem_map.mp member
    exact ofPaths.names entry present
  have fewer := (List.subperm_of_subset ofPaths.wellFormed.unique subset).length_le
  rwa [List.length_map, List.length_map] at fewer

/-- An entry takes 33 characters. -/
theorem OfPaths.length_itemOf (ofPaths : OfPaths unicode paths entries)
    {entry : String × String} (member : entry ∈ entries) : (itemOf entry).length = 33 := by
  obtain ⟨path, _, same⟩ := List.mem_map.mp (ofPaths.names entry member)
  have name := (isDigest_key path).1
  have value := (ofPaths.wellFormed.values entry member).2
  rw [itemOf, List.length_append, List.length_cons, ← same, name, value]
  rfl

/-- **The cursor of a scan of at most 64 paths fits.** -/
theorem OfPaths.cursorFits (ofPaths : OfPaths unicode paths entries) (filled : entries ≠ [])
    (few : paths.length ≤ maxWatchedPaths) :
    Spool.cursorFits (serializeBaseline entries) = true := by
  have sorted := List.perm_insertionSort (entryOrder · ·) entries
  have text := serializeBaseline_toList entries
  have count : entries.length ≤ 64 := ofPaths.length_le.trans few
  cases rows : entries.insertionSort (entryOrder · ·) with
  | nil =>
      rw [rows] at sorted
      exact absurd sorted.symm.eq_nil filled
  | cons entry rest =>
      rw [rows] at sorted text
      have short : (serializeBaseline entries).length ≤ 4096 := by
        have parts : ((entry :: rest).map itemOf).length = entries.length := by
          rw [List.length_map, sorted.length_eq]
        have each : ∀ part ∈ (entry :: rest).map itemOf, part.length ≤ 33 := by
          intro part member
          obtain ⟨other, present, rfl⟩ := List.mem_map.mp member
          exact (ofPaths.length_itemOf (sorted.subset present)).le
        have bound := length_intercalate_le ',' each
        rw [← text, String.length_toList, parts] at bound
        omega
      -- the text begins with a digit of a key
      have member : entry ∈ entries := sorted.subset List.mem_cons_self
      obtain ⟨path, _, same⟩ := List.mem_map.mp (ofPaths.names entry member)
      obtain ⟨length, digits⟩ := isDigest_key path
      rw [same] at length digits
      cases name : entry.1.toList with
      | nil =>
          rw [name] at length
          cases length
      | cons first others =>
          have head : (serializeBaseline entries).toList.head? = some first := by
            rw [text]
            cases rest with
            | nil => simp [itemOf, name]
            | cons next more => simp [itemOf, name, List.intercalate_cons_cons]
          refine cursorFits_of_head head ?_ short
          rintro rfl
          exact absurd (digits '\x00' (name ▸ List.mem_cons_self)) (by decide)

end Scans

/-! ## Records of lines -/

section Lines

variable {unicode : UnicodeTables} {accessTime : List Char → Option Int} {record : JournalRecord}
variable {cursor : String}

/-- The fields of a record of a syslog line. -/
theorem syslogRecord_spec {now : Int} {text : String}
    (made : syslogRecord unicode now cursor text = .ok (some record)) :
    record.cursor = cursor ∧ ∃ message identifier instant, record.fields =
      [("MESSAGE", .str message), ("SYSLOG_IDENTIFIER", .str identifier),
        ("__REALTIME_TIMESTAMP", .int instant)] := by
  rw [syslogRecord] at made
  split at made
  · cases made
  next matched _ =>
    cases stamped : timestamp unicode now matched with
    | error failure =>
        rw [stamped] at made
        cases made
    | ok occurredAt =>
        rw [stamped] at made
        obtain ⟨instant, _, rfl⟩ := Option.map_eq_some_iff.mp (Except.ok.inj made)
        exact ⟨rfl, _, _, _, rfl⟩

/-- The fields of a record of an access line are those of a request. -/
theorem accessRecord_spec {text : List Char}
    (made : accessRecord accessTime unicode cursor text = some record) :
    record.cursor = cursor ∧ ∃ request : RequestParts,
      requestFields accessTime unicode request = some record.fields := by
  rw [accessRecord] at made
  split at made
  · cases made
  next matched _ =>
    obtain ⟨fields, read, rfl⟩ := Option.map_eq_some_iff.mp made
    let group (name : String) : List Char := (matched.lookup name).getD []
    let path := (group "target").takeWhile fun c => decide (c ≠ '?')
    have each : ∀ c ∈ path, (fun c => decide (c ≠ '?')) c = true :=
      fun c member => List.mem_takeWhile_imp (p := fun c => decide (c ≠ '?')) member
    have plain : '?' ∉ path := fun member => absurd (each '?' member) (by decide)
    have same : safePath unicode path = safePath unicode (group "target") := by
      rw [safePath, safePath, List.takeWhile_eq_self_iff.mpr each]
    refine ⟨rfl, ⟨group "remote_addr", [], group "time_local", group "method", path, [],
      group "status", plain⟩, ?_⟩
    rw [requestFields, accessFields, same, ← accessFields]
    exact read

end Lines

/-- **The cursor of every record fits into the spool.** -/
theorem Yields.cursorFits {unicode : UnicodeTables} {accessTime : List Char → Option Int}
    {source : EventSource} {record : JournalRecord} (yields : Yields unicode accessTime source record) :
    Spool.cursorFits record.cursor = true := by
  cases yields with
  | @journald loads line record parsed printed =>
      rw [parseJournalJsonLine] at parsed
      split at parsed
      · split at parsed
        · split at parsed
          next valid =>
            cases parsed
            exact cursorFits_of_validatedCursor valid
          · cases parsed
        · cases parsed
      · cases parsed
  | @syslogFile position raw now text record made =>
      rw [(syslogRecord_spec made).1]
      exact cursorFits_lineCursor position raw
  | @nginxAccess position raw text record made =>
      rw [(accessRecord_spec made).1]
      exact cursorFits_lineCursor position raw
  | @fileIntegrity stopped answers paths afterCursor record watched few member =>
      cases scanRecord_of_scan watched member with
      | baseline ofPaths filled => exact ofPaths.cursorFits filled few
      | change ofPaths filled => exact ofPaths.cursorFits filled few

/-! ## Events of the records -/

section Recognised

variable {unicode : UnicodeTables} {accessTime : List Char → Option Int} {fields : Fields}
variable {parsed : ParsedSecurityEvent}

/-- **An event of an access line passes the checks of the contract.** -/
theorem reportable_parseNginxRequest {request : RequestParts}
    (made : requestFields accessTime unicode request = some fields)
    (recognised : parseNginxRequest fields = some parsed) : Reportable parsed := by
  have passes := validates_parseNginxRequest made recognised
  obtain ⟨address, occurredAt, _, _, rfl⟩ := accessFields_spec made
  rw [parseNginxRequest] at recognised
  split at recognised
  next status_found method_found path_found address_found =>
    cases status_found
    split at recognised
    next valid =>
      split at recognised
      · cases recognised
      · cases recognised
        exact ⟨passes, scoped_of_validatedIp valid,
          show ["status", "method", "path"].Nodup by decide, trivial, trivial, trivial, trivial⟩
    · cases recognised
  · cases recognised

theorem amongNames_str (names : List String) (text : String) :
    amongNames names (some (.str text)) = .ok (names.contains text) := rfl

/-- Names without NUL are names that the contract passes. -/
theorem hasNul_of_contains {names : List String} {text : String}
    (clean : names.all (!hasNul ·) = true) (known : names.contains text = true) :
    hasNul text = false := by
  simpa using List.all_eq_true.mp clean text (List.contains_iff_mem.mp known)

/-- **A record of a change is ignored, or its event passes the checks of the contract.** -/
theorem recognised_changeRecord (unicode : UnicodeTables) (entries : Baseline) (previous : String)
    (file : Watched) :
    ∃ result, parseFileIntegrity unicode (changeRecord entries previous file).fields = .ok result ∧
      ∀ parsed ∈ result, Reportable parsed := by
  have path : (changeRecord entries previous file).fields.get "FILE_INTEGRITY_PATH" =
      some (.str file.path) := rfl
  have change : (changeRecord entries previous file).fields.get "FILE_INTEGRITY_CHANGE" =
      some (.str (classify previous file.state)) := rfl
  have monitoring : (changeRecord entries previous file).fields.get "FILE_INTEGRITY_MONITORING" =
      some (.str (if file.state.readable then "content" else "metadata")) := rfl
  generalize classify previous file.state = kind at change
  generalize (if file.state.readable then "content" else "metadata") = mode at monitoring
  rw [parseFileIntegrity, path]
  dsimp only
  rw [change, monitoring, amongNames_str, amongNames_str]
  split
  · exact ⟨none, rfl, nofun⟩
  next visible =>
  cases kind_known : fileChanges.contains kind with
  | false => exact ⟨none, rfl, nofun⟩
  | true =>
      cases mode_known : fileMonitoring.contains mode with
      | false => exact ⟨none, rfl, nofun⟩
      | true =>
          refine ⟨some _, rfl, ?_⟩
          rintro parsed ⟨⟩
          have path_clean : hasNul file.path = false := by
            rw [Bool.or_eq_true, not_or] at visible
            exact Bool.eq_false_iff.mpr visible.1
          refine reportable_of_parts
            (show fixedTextsPass "linux.file.changed" "Watched system file changed" = true by decide)
            nofun nofun ⟨show fixedNamesPass ["path", "change", "monitoring"] = true by decide, ?_⟩
          exact List.forall_mem_cons.mpr ⟨path_clean, List.forall_mem_cons.mpr
            ⟨hasNul_of_contains (by decide) kind_known, List.forall_mem_singleton.mpr
              (hasNul_of_contains (by decide) mode_known)⟩⟩

/-- The parsers of the source. -/
structure SourceParsers (unicode : UnicodeTables) (parsers : Parsers) : Prop where
  nginxRequest : parsers.nginxRequest = parseNginxRequest
  message : parsers.message = parseMessage unicode (otherMessages unicode)

/-- A field that no entry has. -/
theorem get_eq_none {name : String} (absent : ∀ entry ∈ fields, entry.1 ≠ name) :
    fields.get name = none := by
  rw [Fields.get, Option.map_eq_none_iff, List.find?_eq_none]
  intro entry member found
  exact absent entry member (of_decide_eq_true found)

/-- The records of log messages. -/
theorem recognised_message {parsers : Parsers} (embedded : SourceParsers unicode parsers)
    (lower : LowerCases unicode) (noRequest : fields.get "NGINX_STATUS" = none)
    (noPath : fields.get "FILE_INTEGRITY_PATH" = none) :
    ∃ result, parseSupportedMessage parsers unicode fields = .ok result ∧
      ∀ parsed ∈ result, Reportable parsed := by
  refine ⟨parsers.message fields, ?_, ?_⟩
  · rw [parseSupportedMessage, noRequest, noPath]
    rfl
  · intro parsed recognised
    rw [embedded.message] at recognised
    exact reportable_parseMessage lower recognised

/-- **A record of a source is ignored, or its event passes the checks of the contract.** -/
theorem Yields.recognised {source : EventSource} {record : JournalRecord}
    (yields : Yields unicode accessTime source record) {parsers : Parsers}
    (embedded : SourceParsers unicode parsers) (lower : LowerCases unicode) :
    ∃ result, parseSupportedMessage parsers unicode record.fields = .ok result ∧
      ∀ parsed ∈ result, Reportable parsed := by
  cases yields with
  | @journald loads line record parsed printed =>
      refine recognised_message embedded lower (get_eq_none ?_) (get_eq_none ?_)
      · rintro entry member same
        exact absurd (same ▸ printed entry member) (by decide)
      · rintro entry member same
        exact absurd (same ▸ printed entry member) (by decide)
  | @syslogFile position raw now text record made =>
      obtain ⟨_, message, identifier, instant, fields⟩ := syslogRecord_spec made
      rw [fields]
      exact recognised_message embedded lower rfl rfl
  | @nginxAccess position raw text record made =>
      obtain ⟨_, request, made⟩ := accessRecord_spec made
      refine ⟨parseNginxRequest record.fields, ?_, ?_⟩
      · obtain ⟨address, occurredAt, _, _, fields⟩ := accessFields_spec made
        rw [parseSupportedMessage, embedded.nginxRequest, fields]
        rfl
      · intro parsed recognised
        exact reportable_parseNginxRequest made recognised
  | @fileIntegrity stopped answers paths afterCursor record watched few member =>
      cases scanRecord_of_scan watched member with
      | baseline ofPaths filled => exact recognised_message embedded lower rfl rfl
      | @change entries previous file ofPaths filled =>
          exact recognised_changeRecord unicode entries previous file

end Recognised

end WolandGuard.Agent
