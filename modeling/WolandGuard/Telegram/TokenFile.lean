import WolandGuard.Foundations.Dictionaries
import WolandGuard.Foundations.Runs

/-!
# The token file

`infrastructure/telegram/token_file.py`: before each delivery the staging file is
read and copied into a private directory, unless its fingerprint is the one that
the last copy was made from. What the operating system answers to each call is an
input here, so the staging file may be rewritten at any moment; the private copies
are part of the state.
-/

set_option autoImplicit false

namespace WolandGuard.Telegram

open Foundations

/-! ## Files -/

inductive OsError where
  | fileNotFound
  | other
  deriving DecidableEq, Repr

inductive FileKind where
  | regular
  | directory
  | symlink
  | other
  deriving DecidableEq, Repr

/-- `os.stat_result`. -/
structure FileStat where
  kind : FileKind
  device : Nat
  inode : Nat
  size : Nat
  modifiedNs : Int
  uid : Nat
  gid : Nat
  mode : Nat
  deriving DecidableEq, Repr

/-- `_FileFingerprint`. -/
structure FileFingerprint where
  device : Nat
  inode : Nat
  size : Nat
  modifiedNs : Int
  deriving DecidableEq, Repr

/-- `_fingerprint`. -/
def fingerprint (metadata : FileStat) : FileFingerprint where
  device := metadata.device
  inode := metadata.inode
  size := metadata.size
  modifiedNs := metadata.modifiedNs

/-- The codes of a `TelegramTokenFileError`. -/
inductive TokenErrorCode where
  | stagingFileMissing
  | stagingFileInvalid
  | runtimeCopyUnavailable
  | runtimeCopyInvalid
  deriving DecidableEq, Repr

/-! ## Names and tokens -/

/-- `TOKEN_MAX_BYTES`. -/
def tokenMaxBytes : Nat := 256

/-- `validate_token_file_name`. -/
def validTokenFileName (value : String) : Bool :=
  1 ≤ value.toList.length && value.toList.length ≤ 128 &&
    value.toList.head?.any Char.isAlphanum &&
    value.toList.all fun c => c.isAlphanum || c = '.' || c = '_' || c = '-'

/-- `validate_token_bytes`: the bytes as a text. -/
def validateTokenBytes (value : List Nat) : Option String :=
  if 1 ≤ value.length && value.length ≤ tokenMaxBytes &&
      value.all fun byte => 0x21 ≤ byte && byte ≤ 0x7E then
    some (String.ofList (value.map Char.ofNat))
  else none

/-- **A valid token determines its bytes.** -/
theorem validateTokenBytes_inj {left right : List Nat} {token : String}
    (first : validateTokenBytes left = some token) (second : validateTokenBytes right = some token) :
    left = right := by
  have bytes : ∀ {value : List Nat}, validateTokenBytes value = some token →
      value = token.toList.map Char.toNat := by
    intro value valid
    rw [validateTokenBytes] at valid
    split at valid
    next allowed =>
      obtain rfl := Option.some.inj valid
      simp only [Bool.and_eq_true, List.all_eq_true, decide_eq_true_eq] at allowed
      rw [String.toList_ofList, List.map_map]
      have same : ∀ byte ∈ value, (Char.toNat ∘ Char.ofNat) byte = byte := by
        intro byte member
        have range := allowed.2 byte member
        have small : byte.isValidChar := .inl (by omega)
        rw [Function.comp_apply, Char.ofNat, dif_pos small]
        rfl
      rw [List.map_congr_left same, List.map_id']
    next => cases valid
  rw [bytes first, bytes second]

/-! ## Reading a file -/

/-- The answers to the calls that read an open file. -/
structure OpenAnswers where
  openFile : Except OsError Unit
  opened : Except OsError FileStat
  read : Except OsError Unit
  after : Except OsError FileStat
  close : Except OsError Unit
  deriving DecidableEq

/-- `_read_bounded`. -/
def readBounded (content : List Nat) : Option (List Nat) :=
  if content.length ≤ tokenMaxBytes then some content else none

/-- Opening, checking and reading a file whose `lstat` was `before`, where `allowed`
is what the caller asks of the open file. -/
def readOpen (before : FileStat) (allowed : FileStat → Bool) (content : List Nat)
    (answers : OpenAnswers) : Option (List Nat × FileStat) :=
  match answers.openFile, answers.opened, answers.read, answers.after, answers.close with
  | .ok _, .ok opened, .ok _, .ok after, .ok _ =>
      if fingerprint before = fingerprint opened && allowed opened &&
          fingerprint opened = fingerprint after then
        (readBounded content).map (·, after)
      else none
  | _, _, _, _, _ => none

/-- What the calls on the staging directory and file answer, and the bytes in the
file when it is read. -/
structure StagingAnswers where
  directory : Except OsError FileStat
  before : Except OsError FileStat
  content : List Nat
  calls : OpenAnswers
  deriving DecidableEq

/-- `_StagingSnapshot`. -/
structure StagingSnapshot where
  value : List Nat
  fingerprint : FileFingerprint
  deriving DecidableEq, Repr

/-- `_validate_staging_directory`. -/
def validateStagingDirectory : Except OsError FileStat → Except TokenErrorCode Unit
  | .error .fileNotFound => .error .stagingFileMissing
  | .error .other => .error .stagingFileInvalid
  | .ok metadata => if metadata.kind = .directory then .ok () else .error .stagingFileInvalid

/-- The file itself, after the checks of the directory. -/
def readStagingFile (answers : StagingAnswers) : Except TokenErrorCode StagingSnapshot :=
  match answers.before with
  | .error .fileNotFound => .error .stagingFileMissing
  | .error .other => .error .stagingFileInvalid
  | .ok before =>
      if before.kind ≠ .regular || tokenMaxBytes < before.size then .error .stagingFileInvalid
      else
        match readOpen before (fun _ => true) answers.content answers.calls with
        | none => .error .stagingFileInvalid
        | some (value, after) =>
            if (validateTokenBytes value).isSome then .ok ⟨value, fingerprint after⟩
            else .error .stagingFileInvalid

/-- `_read_staging`. -/
def readStaging (answers : StagingAnswers) : Except TokenErrorCode StagingSnapshot :=
  match validateStagingDirectory answers.directory with
  | .error code => .error code
  | .ok _ => readStagingFile answers

/-! ## The private directory -/

/-- `TOKEN_FILE_MODE`. -/
def tokenFileMode : Nat := 0o400

/-- `RUNTIME_DIRECTORY_MODE`. -/
def runtimeDirectoryMode : Nat := 0o700

/-- Of the constructor: whom the private files belong to. -/
structure TokenSettings where
  expectedUid : Nat
  expectedGid : Nat
  enforcePosixMetadata : Bool

/-- `_require_runtime_owner`. -/
def TokenSettings.runtimeOwner (settings : TokenSettings) (metadata : FileStat) : Bool :=
  !settings.enforcePosixMetadata ||
    (metadata.uid = settings.expectedUid && metadata.gid = settings.expectedGid)

/-- A mode, where modes are enforced. -/
def TokenSettings.hasMode (settings : TokenSettings) (mode : Nat) (metadata : FileStat) : Bool :=
  !settings.enforcePosixMetadata || metadata.mode = mode

/-- `_validate_runtime_directory`. -/
def TokenSettings.runtimeDirectory (settings : TokenSettings) : Except OsError FileStat → Bool
  | .error _ => false
  | .ok metadata =>
      metadata.kind = .directory && settings.runtimeOwner metadata &&
        settings.hasMode runtimeDirectoryMode metadata

/-- What the calls on the private directory and copy answer. -/
structure RuntimeAnswers where
  directory : Except OsError FileStat
  before : Except OsError FileStat
  calls : OpenAnswers
  deriving DecidableEq

/-- `_read_runtime` of a private copy, if there is one. -/
def TokenSettings.readRuntime (settings : TokenSettings) (copy : Option (List Nat))
    (answers : RuntimeAnswers) : Except TokenErrorCode String :=
  if !settings.runtimeDirectory answers.directory then .error .runtimeCopyUnavailable
  else
    match copy, answers.before with
    | some content, .ok before =>
        let allowed (metadata : FileStat) : Bool :=
          settings.runtimeOwner metadata && settings.hasMode tokenFileMode metadata
        if before.kind = .regular && allowed before then
          match (readOpen before allowed content answers.calls).bind fun read =>
              validateTokenBytes read.1 with
          | none => .error .runtimeCopyInvalid
          | some token => .ok token
        else .error .runtimeCopyInvalid
    | _, _ => .error .runtimeCopyInvalid

/-- What the calls that write a private copy answer. -/
structure PublishAnswers where
  directory : Except OsError FileStat
  openTemporary : Except OsError Unit
  created : Except OsError FileStat
  setMode : Except OsError Unit
  write : Except OsError Unit
  sync : Except OsError Unit
  setFinalMode : Except OsError Unit
  published : Except OsError FileStat
  close : Except OsError Unit
  replace : Except OsError Unit
  openDirectory : Except OsError Unit
  syncDirectory : Except OsError Unit
  closeDirectory : Except OsError Unit
  deriving DecidableEq

/-- The temporary file is complete and has its final name. -/
def TokenSettings.replaces (settings : TokenSettings) (answers : PublishAnswers) : Bool :=
  settings.runtimeDirectory answers.directory && answers.openTemporary.isOk &&
    (match answers.created with
      | .error _ => false
      | .ok created => settings.runtimeOwner created && created.kind = .regular) &&
    answers.setMode.isOk && answers.write.isOk && answers.sync.isOk &&
    (!settings.enforcePosixMetadata || answers.setFinalMode.isOk) &&
    (match answers.published with
      | .error _ => false
      | .ok published =>
          settings.runtimeOwner published && settings.hasMode tokenFileMode published) &&
    answers.close.isOk && answers.replace.isOk

/-- `_publish_runtime`: the copy that replaces the one before, and whether the call
returns. The directory is flushed after the file has its name. -/
def TokenSettings.publishRuntime (settings : TokenSettings) (value : List Nat)
    (answers : PublishAnswers) : Option (List Nat) × Bool :=
  if settings.replaces answers then
    (some value, answers.openDirectory.isOk && answers.syncDirectory.isOk &&
      answers.closeDirectory.isOk)
  else (none, false)

/-! ## Deliveries -/

/-- The fingerprints that the synchronizer remembers, and the private copies. -/
structure TokenSynchronizer where
  fingerprints : List (String × FileFingerprint)
  copies : List (String × List Nat)

/-- The answers to the calls of one delivery, in their order. -/
structure DeliveryAnswers where
  staging : StagingAnswers
  cached : RuntimeAnswers
  publish : PublishAnswers
  copied : RuntimeAnswers
  deriving DecidableEq

namespace TokenSynchronizer

/-- A private copy that was written, if one was. -/
def withCopy (state : TokenSynchronizer) (name : String) : Option (List Nat) → TokenSynchronizer
  | none => state
  | some value => { state with copies := putRow Prod.fst (name, value) state.copies }

/-- `token_for_delivery` without the fast path. -/
def synchronize (settings : TokenSettings) (name : String) (snapshot : StagingSnapshot)
    (answers : DeliveryAnswers) (state : TokenSynchronizer) :
    TokenSynchronizer × Except TokenErrorCode String :=
  let (copy, returns) := settings.publishRuntime snapshot.value answers.publish
  let written := state.withCopy name copy
  if !returns then (written, .error .runtimeCopyUnavailable)
  else
    match settings.readRuntime copy answers.copied with
    | .error _ => (written, .error .runtimeCopyInvalid)
    | .ok value =>
        ({ written with
            fingerprints := putRow Prod.fst (name, snapshot.fingerprint) written.fingerprints },
          .ok value)

/-- The fast path: the copy, where the fingerprint is the remembered one and the copy
can be read. -/
def cached (settings : TokenSettings) (name : String) (snapshot : StagingSnapshot)
    (answers : DeliveryAnswers) (state : TokenSynchronizer) : Option String :=
  if valueOf state.fingerprints name = some snapshot.fingerprint then
    (settings.readRuntime (valueOf state.copies name) answers.cached).toOption
  else none

/-- `token_for_delivery`. -/
def tokenForDelivery (settings : TokenSettings) (name : String) (answers : DeliveryAnswers)
    (state : TokenSynchronizer) : TokenSynchronizer × Except TokenErrorCode String :=
  if !validTokenFileName name then (state, .error .stagingFileInvalid)
  else
    match readStaging answers.staging with
    | .error code => (state, .error code)
    | .ok snapshot =>
        match cached settings name snapshot answers state with
        | some token => (state, .ok token)
        | none => synchronize settings name snapshot answers state

end TokenSynchronizer

/-! ## Runs -/

inductive TokenStep where
  /-- A delivery asks for the token of a file. -/
  | deliver (name : String) (answers : DeliveryAnswers)
  /-- The process starts again; the private copies that are kept survive it. -/
  | restart (kept : List String)

/-- The state after a step. -/
def TokenSynchronizer.next (settings : TokenSettings) (state : TokenSynchronizer) :
    TokenStep → TokenSynchronizer
  | .deliver name answers => (state.tokenForDelivery settings name answers).1
  | .restart kept =>
      ⟨[], state.copies.filter fun copy => kept.contains copy.1⟩

/-- A call that returns gives the valid token that it read from the staging file. -/
def Fresh (answers : DeliveryAnswers) (result : Except TokenErrorCode String) : Prop :=
  ∀ token, result = .ok token →
    ∃ snapshot, readStaging answers.staging = .ok snapshot ∧
      validateTokenBytes snapshot.value = some token

/-- A call finds the remembered fingerprint and a readable copy of other bytes. -/
def Stale (settings : TokenSettings) (state : TokenSynchronizer) (name : String)
    (answers : DeliveryAnswers) : Prop :=
  validTokenFileName name = true ∧ ∃ snapshot copy token,
    readStaging answers.staging = .ok snapshot ∧
      valueOf state.fingerprints name = some snapshot.fingerprint ∧
      valueOf state.copies name = some copy ∧
      settings.readRuntime (some copy) answers.cached = .ok token ∧ copy ≠ snapshot.value

/-! ## What a call returns -/

section Calls

variable {settings : TokenSettings} {name : String} {answers : DeliveryAnswers}
variable {state : TokenSynchronizer} {snapshot : StagingSnapshot} {token : String}

/-- A copy is returned as the token that it holds. -/
theorem valid_of_readRuntime {copy : Option (List Nat)} {calls : RuntimeAnswers}
    (read : settings.readRuntime copy calls = .ok token) :
    ∃ content, copy = some content ∧ validateTokenBytes content = some token := by
  unfold TokenSettings.readRuntime at read
  split at read
  · cases read
  split at read
  next content before _ =>
    dsimp only at read
    split at read
    · split at read
      · cases read
      next token found =>
        cases read
        obtain ⟨⟨value, after⟩, opened, valid⟩ := Option.bind_eq_some_iff.mp found
        refine ⟨content, rfl, ?_⟩
        rw [readOpen] at opened
        split at opened
        · split at opened
          · obtain ⟨bytes, bounded, same⟩ := Option.map_eq_some_iff.mp opened
            obtain ⟨rfl, rfl⟩ := Prod.mk.inj same
            rw [readBounded] at bounded
            split at bounded
            · cases bounded
              exact valid
            · cases bounded
          · cases opened
        · cases opened
    · cases read
  · cases read

/-- The bytes of a snapshot are a valid token. -/
theorem valid_of_readStaging {calls : StagingAnswers} (read : readStaging calls = .ok snapshot) :
    ∃ token, validateTokenBytes snapshot.value = some token := by
  rw [readStaging] at read
  split at read
  · cases read
  · rw [readStagingFile] at read
    split at read
    · cases read
    · cases read
    · split at read
      · cases read
      split at read
      · cases read
      · split at read
        next valid =>
          cases read
          exact Option.isSome_iff_exists.mp valid
        next => cases read

/-- **The slow path returns the token that was read.** -/
theorem valid_of_synchronize
    (returned : (state.synchronize settings name snapshot answers).2 = .ok token) :
    validateTokenBytes snapshot.value = some token := by
  rw [TokenSynchronizer.synchronize, TokenSettings.publishRuntime] at returned
  split at returned
  next copy returns published =>
    split at published
    · obtain ⟨rfl, rfl⟩ := Prod.mk.inj published
      dsimp only at returned
      split at returned
      · cases returned
      split at returned
      · cases returned
      next value read =>
        cases returned
        obtain ⟨content, same, valid⟩ := valid_of_readRuntime read
        rw [Option.some.inj same]
        exact valid
    · obtain ⟨rfl, rfl⟩ := Prod.mk.inj published
      dsimp only at returned
      cases returned

/-- **A call is fresh exactly when it is not stale.** -/
theorem fresh_iff_not_stale :
    Fresh answers (state.tokenForDelivery settings name answers).2 ↔
      ¬ Stale settings state name answers := by
  rw [TokenSynchronizer.tokenForDelivery]
  by_cases named : validTokenFileName name = true
  · rw [named, if_neg (by decide)]
    cases read : readStaging answers.staging with
    | error code =>
        have no_snapshot : ¬ Stale settings state name answers := by
          rintro ⟨_, snapshot, _, _, found, _⟩
          rw [read] at found
          cases found
        refine ⟨fun _ => no_snapshot, fun _ token returned => ?_⟩
        cases returned
    | ok snapshot =>
        obtain ⟨held, valid⟩ := valid_of_readStaging read
        dsimp only
        cases fast : TokenSynchronizer.cached settings name snapshot answers state with
        | none =>
            constructor
            · rintro _ ⟨_, other, copy, token, found, remembered, copied, readable, _⟩
              rw [read] at found
              cases found
              rw [TokenSynchronizer.cached, if_pos remembered, copied, readable] at fast
              cases fast
            · intro _ token returned
              exact ⟨snapshot, read, valid_of_synchronize returned⟩
        | some token =>
            rw [TokenSynchronizer.cached] at fast
            split at fast
            next remembered =>
              cases copied : settings.readRuntime (valueOf state.copies name) answers.cached with
              | error code =>
                  rw [copied] at fast
                  cases fast
              | ok returned =>
                  rw [copied] at fast
                  obtain rfl := Option.some.inj fast
                  obtain ⟨copy, stored, copy_valid⟩ := valid_of_readRuntime copied
                  constructor
                  · rintro fresh ⟨_, other, found_copy, _, found, _, stored_copy, _, differs⟩
                    rw [read] at found
                    cases found
                    rw [stored] at stored_copy
                    cases stored_copy
                    obtain ⟨again, found, snapshot_valid⟩ := fresh returned rfl
                    rw [read] at found
                    cases found
                    exact differs (validateTokenBytes_inj copy_valid snapshot_valid)
                  · intro current token same
                    cases same
                    have equal : copy = snapshot.value := by
                      by_contra differs
                      refine current ⟨named, snapshot, copy, returned, read, remembered, stored, ?_,
                        differs⟩
                      rw [← stored]
                      exact copied
                    exact ⟨snapshot, read, equal ▸ copy_valid⟩
            next => cases fast
  · rw [Bool.not_eq_true] at named
    rw [named, if_pos (by decide)]
    constructor
    · rintro _ ⟨valid, _⟩
      rw [named] at valid
      cases valid
    · intro _ token returned
      cases returned

/-- **What a call does to the state.** It raises or returns without a change, it raises
after the copy is replaced, or it replaces the copy, remembers the fingerprint and
returns. -/
theorem tokenForDelivery_cases :
    (state.tokenForDelivery settings name answers).1 = state ∨
      ∃ snapshot, readStaging answers.staging = .ok snapshot ∧
        ((state.tokenForDelivery settings name answers).1.copies =
            putRow Prod.fst (name, snapshot.value) state.copies) ∧
        (((state.tokenForDelivery settings name answers).1.fingerprints = state.fingerprints ∧
            ∀ token, (state.tokenForDelivery settings name answers).2 ≠ .ok token) ∨
          (state.tokenForDelivery settings name answers).1.fingerprints =
            putRow Prod.fst (name, snapshot.fingerprint) state.fingerprints) := by
  rw [TokenSynchronizer.tokenForDelivery]
  split
  · exact .inl rfl
  split
  · exact .inl rfl
  next snapshot read =>
    split
    · exact .inl rfl
    · rw [TokenSynchronizer.synchronize, TokenSettings.publishRuntime]
      by_cases replaced : settings.replaces answers.publish = true
      · refine .inr ⟨snapshot, read, ?_⟩
        rw [if_pos replaced]
        dsimp only
        split
        · exact ⟨rfl, .inl ⟨rfl, fun _ same => by cases same⟩⟩
        · split
          · exact ⟨rfl, .inl ⟨rfl, fun _ same => by cases same⟩⟩
          · exact ⟨rfl, .inr rfl⟩
      · rw [if_neg replaced]
        exact .inl rfl

end Calls

/-! ## Histories -/

section Histories

variable {settings : TokenSettings} {path : List (Taken TokenSynchronizer TokenStep)}
variable {start finish : TokenSynchronizer}

/-- A delivery of the history read this snapshot of a file. -/
def HasRead (path : List (Taken TokenSynchronizer TokenStep)) (name : String)
    (snapshot : StagingSnapshot) : Prop :=
  ∃ taken ∈ path, ∃ answers, taken.label = .deliver name answers ∧
    readStaging answers.staging = .ok snapshot

/-- A file that was rewritten has another fingerprint. -/
def Rewritten (path : List (Taken TokenSynchronizer TokenStep)) : Prop :=
  ∀ name first second, HasRead path name first → HasRead path name second →
    first.fingerprint = second.fingerprint → first.value = second.value

/-- No delivery raises after it replaced the private copy. -/
def Completed (settings : TokenSettings) (path : List (Taken TokenSynchronizer TokenStep)) : Prop :=
  ∀ taken ∈ path, ∀ name answers, taken.label = .deliver name answers →
    (taken.before.tokenForDelivery settings name answers).1.copies ≠ taken.before.copies →
      ∃ token, (taken.before.tokenForDelivery settings name answers).2 = .ok token

/-- What is remembered is the fingerprint of a snapshot whose bytes are in the copy. -/
def Remembered (path : List (Taken TokenSynchronizer TokenStep)) (state : TokenSynchronizer) : Prop :=
  ∀ name remembered, valueOf state.fingerprints name = some remembered →
    ∃ snapshot, HasRead path name snapshot ∧ snapshot.fingerprint = remembered ∧
      ∀ copy, valueOf state.copies name = some copy → copy = snapshot.value

theorem HasRead.append {name : String} {snapshot : StagingSnapshot} (read : HasRead path name snapshot)
    (later : List (Taken TokenSynchronizer TokenStep)) : HasRead (path ++ later) name snapshot := by
  obtain ⟨taken, member, rest⟩ := read
  exact ⟨taken, List.mem_append_left later member, rest⟩

/-- One call keeps what is remembered in step with the copies. -/
theorem remembered_of_delivery {state : TokenSynchronizer} {name : String}
    {answers : DeliveryAnswers} {taken : Taken TokenSynchronizer TokenStep}
    (label : taken.label = .deliver name answers) (holds : Remembered path state)
    (completes : (state.tokenForDelivery settings name answers).1.copies ≠ state.copies →
      ∃ token, (state.tokenForDelivery settings name answers).2 = .ok token) :
    Remembered (path ++ [taken]) (state.tokenForDelivery settings name answers).1 := by
  have keeps : ∀ other remembered, valueOf state.fingerprints other = some remembered →
      ∃ snapshot, HasRead (path ++ [taken]) other snapshot ∧ snapshot.fingerprint = remembered ∧
        ∀ copy, valueOf state.copies other = some copy → copy = snapshot.value := by
    intro other remembered found
    obtain ⟨snapshot, read, rest⟩ := holds other remembered found
    exact ⟨snapshot, read.append [taken], rest⟩
  rcases (tokenForDelivery_cases : (state.tokenForDelivery settings name answers).1 = state ∨ _)
    with same | ⟨snapshot, read, copies, raised | remembers⟩
  · rw [same]
    exact keeps
  · -- the call raised, so it left the copies as they were
    have unchanged : (state.tokenForDelivery settings name answers).1.copies = state.copies := by
      by_contra changed
      obtain ⟨token, returned⟩ := completes changed
      exact raised.2 token returned
    intro other remembered found
    rw [raised.1] at found
    rw [unchanged]
    exact keeps other remembered found
  · intro other remembered found
    rw [remembers, valueOf_putRow] at found
    rw [copies]
    split at found
    next here =>
      subst here
      cases found
      refine ⟨snapshot, ⟨taken, by simp, answers, label, read⟩, rfl, ?_⟩
      intro copy stored
      rw [valueOf_putRow, if_pos rfl] at stored
      exact (Option.some.inj stored).symm
    next elsewhere =>
      obtain ⟨earlier, was_read, same, stored⟩ := keeps other remembered found
      refine ⟨earlier, was_read, same, fun copy held => ?_⟩
      rw [valueOf_putRow, if_neg elsewhere] at held
      exact stored copy held

/-- By induction on the history: no step breaks what is remembered. -/
theorem remembered_of_run (fresh_start : start.fingerprints = [])
    (run : Run (fun state step after => after = state.next settings step) start path finish)
    (completed : Completed settings path) : Remembered path finish := by
  have all_prefixes : Completed settings path → Remembered path finish := by
    refine run.extend (motive := fun path finish => Completed settings path →
      Remembered path finish) ?_ ?_
    · intro _ name remembered found
      rw [fresh_start] at found
      cases found
    · intro earlier state label after _ ih step completed
      have before := ih fun taken member => completed taken (List.mem_append_left _ member)
      subst step
      cases label with
      | deliver name answers =>
          refine remembered_of_delivery rfl before ?_
          exact completed _ (List.mem_append_right _ List.mem_cons_self) name answers rfl
      | restart kept =>
          intro name remembered found
          cases found
  exact all_prefixes completed

/-- **Every token is the one just read, but for stale copies.** In every history a
call returns the valid token that it read from the staging file, or raises, exactly
when it does not find the remembered fingerprint with a readable copy of other bytes.
No call does where every rewrite changes the fingerprint and no call raises after it
replaced the copy. -/
theorem tokens_fresh_iff
    (run : Run (fun state step after => after = state.next settings step) start path finish) :
    (∀ taken ∈ path, ∀ name answers, taken.label = .deliver name answers →
      taken.after = (taken.before.tokenForDelivery settings name answers).1 ∧
        (Fresh answers (taken.before.tokenForDelivery settings name answers).2 ↔
          ¬ Stale settings taken.before name answers)) ∧
      (start.fingerprints = [] → Rewritten path → Completed settings path →
        ∀ taken ∈ path, ∀ name answers, taken.label = .deliver name answers →
          Fresh answers (taken.before.tokenForDelivery settings name answers).2) := by
  constructor
  · intro taken member name answers label
    have step := run.taken_step member
    rw [label] at step
    exact ⟨step, fresh_iff_not_stale⟩
  · intro fresh_start rewritten completed taken member name answers label
    obtain ⟨earlier, later, rfl⟩ := List.append_of_mem member
    obtain ⟨before, _, _⟩ := run.around
    have remembered := remembered_of_run fresh_start before fun other member =>
      completed other (List.mem_append_left _ member)
    refine fresh_iff_not_stale.mpr ?_
    rintro ⟨_, snapshot, copy, token, read, found, stored, _, differs⟩
    obtain ⟨first, was_read, same, held⟩ := remembered name _ found
    have here : HasRead (earlier ++ taken :: later) name snapshot :=
      ⟨taken, member, answers, label, read⟩
    exact differs ((held copy stored).trans
      (rewritten name first snapshot (was_read.append _) here same))

end Histories

/-! ### A file that keeps its fingerprint -/

/-- A file of nine bytes. -/
def nineBytes : FileStat := ⟨.regular, 1, 2, 9, 5, 10001, 10001, tokenFileMode⟩

/-- A private directory. -/
def privateDirectory : FileStat := ⟨.directory, 1, 1, 60, 5, 10001, 10001, runtimeDirectoryMode⟩

def answeredOpen : OpenAnswers :=
  ⟨.ok (), .ok nineBytes, .ok (), .ok nineBytes, .ok ()⟩

/-- No call fails, and the staging file has these bytes. -/
def answered (content : List Nat) : DeliveryAnswers where
  staging := ⟨.ok privateDirectory, .ok nineBytes, content, answeredOpen⟩
  cached := ⟨.ok privateDirectory, .ok nineBytes, answeredOpen⟩
  publish := ⟨.ok privateDirectory, .ok (), .ok nineBytes, .ok (), .ok (), .ok (),
    .ok (), .ok nineBytes, .ok (), .ok (), .ok (), .ok (), .ok ()⟩
  copied := ⟨.ok privateDirectory, .ok nineBytes, answeredOpen⟩

def tokenOne : List Nat := "token-one".toList.map Char.toNat

def tokenTwo : List Nat := "token-two".toList.map Char.toNat

/-- A synchronizer that has just started. -/
def startedSynchronizer : TokenSynchronizer := ⟨[], []⟩

/-- The defaults of the constructor. -/
def workerSettings : TokenSettings := ⟨10001, 10001, true⟩

theorem old_token_after_rewrite :
    let once := startedSynchronizer.next workerSettings (.deliver "bot.token" (answered tokenOne))
    (once.tokenForDelivery workerSettings "bot.token" (answered tokenTwo)).2 = .ok "token-one" ∧
      readStaging (answered tokenTwo).staging = .ok ⟨tokenTwo, ⟨1, 2, 9, 5⟩⟩ ∧
      ¬ Fresh (answered tokenTwo)
        (once.tokenForDelivery workerSettings "bot.token" (answered tokenTwo)).2 := by
  have returned : ((startedSynchronizer.next workerSettings (.deliver "bot.token"
      (answered tokenOne))).tokenForDelivery workerSettings "bot.token" (answered tokenTwo)).2 =
        .ok "token-one" := by decide
  have read : readStaging (answered tokenTwo).staging = .ok ⟨tokenTwo, ⟨1, 2, 9, 5⟩⟩ := by decide
  refine ⟨returned, read, ?_⟩
  intro fresh
  obtain ⟨snapshot, found, valid⟩ := fresh "token-one" returned
  rw [read] at found
  obtain rfl := Except.ok.inj found
  exact absurd valid (by decide)

/-- The file when it is rewritten later. -/
def laterBytes : FileStat := { nineBytes with modifiedNs := 6 }

def rewrittenFile : DeliveryAnswers :=
  { answered tokenTwo with
    staging := ⟨.ok privateDirectory, .ok laterBytes, tokenTwo,
      ⟨.ok (), .ok laterBytes, .ok (), .ok laterBytes, .ok ()⟩⟩ }

/-- Two deliveries of one file, and one after it was rewritten. -/
def deliveredThrice : List TokenStep :=
  [.deliver "bot.token" (answered tokenOne), .deliver "bot.token" (answered tokenOne),
    .deliver "bot.token" rewrittenFile]

/-- These deliveries from the start on. -/
def deliveries : List (Taken TokenSynchronizer TokenStep) :=
  Run.trace (fun state step => state.next workerSettings step) startedSynchronizer deliveredThrice

theorem rewritten_deliveries : Rewritten deliveries := by
  have read_one : ∀ name snapshot, HasRead deliveries name snapshot →
      snapshot = ⟨tokenOne, ⟨1, 2, 9, 5⟩⟩ ∨ snapshot = ⟨tokenTwo, ⟨1, 2, 9, 6⟩⟩ := by
    rintro name snapshot ⟨taken, member, answers, label, read⟩
    have staged : answers = answered tokenOne ∨ answers = rewrittenFile := by
      rcases List.mem_cons.mp member with rfl | member
      · exact .inl (TokenStep.deliver.inj label).2.symm
      rcases List.mem_cons.mp member with rfl | member
      · exact .inl (TokenStep.deliver.inj label).2.symm
      · rw [List.mem_singleton.mp member] at label
        exact .inr (TokenStep.deliver.inj label).2.symm
    have one : readStaging (answered tokenOne).staging = .ok ⟨tokenOne, ⟨1, 2, 9, 5⟩⟩ := by decide
    have two : readStaging rewrittenFile.staging = .ok ⟨tokenTwo, ⟨1, 2, 9, 6⟩⟩ := by decide
    rcases staged with rfl | rfl
    · exact .inl (Except.ok.inj (read.symm.trans one))
    · exact .inr (Except.ok.inj (read.symm.trans two))
  intro name first second left right same
  rcases read_one name first left with rfl | rfl
  · rcases read_one name second right with rfl | rfl
    · rfl
    · exact absurd same (by decide)
  · rcases read_one name second right with rfl | rfl
    · exact absurd same (by decide)
    · rfl

theorem completed_deliveries : Completed workerSettings deliveries := by
  intro taken member name answers label _
  rcases List.mem_cons.mp member with rfl | member
  · obtain ⟨rfl, rfl⟩ := TokenStep.deliver.inj label
    exact ⟨"token-one", by decide⟩
  rcases List.mem_cons.mp member with rfl | member
  · obtain ⟨rfl, rfl⟩ := TokenStep.deliver.inj label
    exact ⟨"token-one", by decide⟩
  · obtain rfl := List.mem_singleton.mp member
    obtain ⟨rfl, rfl⟩ := TokenStep.deliver.inj label
    exact ⟨"token-two", by decide⟩

/-- The second delivery takes the remembered copy, the third one the new token. -/
theorem tokens_fresh_rewritten :
    let once := startedSynchronizer.next workerSettings (.deliver "bot.token" (answered tokenOne))
    let twice := once.next workerSettings (.deliver "bot.token" (answered tokenOne))
    once.cached workerSettings "bot.token" ⟨tokenOne, ⟨1, 2, 9, 5⟩⟩ (answered tokenOne) =
        some "token-one" ∧
      Fresh (answered tokenOne)
        (once.tokenForDelivery workerSettings "bot.token" (answered tokenOne)).2 ∧
      (twice.tokenForDelivery workerSettings "bot.token" rewrittenFile).2 = .ok "token-two" ∧
      Fresh rewrittenFile (twice.tokenForDelivery workerSettings "bot.token" rewrittenFile).2 := by
  have run := Run.of_trace (fun state step => TokenSynchronizer.next workerSettings state step)
    startedSynchronizer deliveredThrice
  have fresh := (tokens_fresh_iff run).2 rfl rewritten_deliveries completed_deliveries
  refine ⟨by decide, ?_, by decide, ?_⟩
  · exact fresh _ (List.mem_cons_of_mem _ List.mem_cons_self) _ _ rfl
  · exact fresh _ (List.mem_cons_of_mem _ (List.mem_cons_of_mem _ List.mem_cons_self)) _ _ rfl

end WolandGuard.Telegram
