import WolandGuard.Agent.Normalization
import WolandGuard.Foundations.Lines
import WolandGuard.Foundations.Runs

/-!
# Following the journal

`_records_from_process` waits until the pipe from `journalctl` is readable, and
then takes one line from a text stream above the pipe. The stream reads ahead:
what it holds is no longer in the pipe, and the next wait does not see it. Each
wait that ends with readable output consumes one line, so lines are held back as
soon as there were fewer of these waits than lines.
-/

set_option autoImplicit false

namespace WolandGuard.Agent

open Foundations

/-! ## Lines of the journal -/

/-- `_CURSOR_PATTERN`. -/
def validatedCursor (cursor : String) : Bool :=
  1 ≤ cursor.length && cursor.length ≤ 4096 &&
    cursor.toList.all fun c => c.isAlphanum || [';', '=', '_', ':', '.', '+', '-'].contains c

/-- `parse_journal_json_line`, where `loads` is `json.loads`. -/
def parseJournalJsonLine (loads : String → Option JsonValue) (line : String) :
    Option JournalRecord :=
  match loads line with
  | some (.obj document) =>
      match Fields.get document "__CURSOR" with
      | some (.str cursor) => if validatedCursor cursor then some ⟨cursor, document⟩ else none
      | _ => none
  | _ => none

/-- The record of a line that a newline ends. -/
def recordOfLine (loads : String → Option JsonValue) (line : List Char) : Option JournalRecord :=
  parseJournalJsonLine loads (String.ofList (line ++ ['\n']))

/-! ## The pipe and the stream -/

/-- The text that is unread in the pipe, the text that the stream holds, and what
the reader has done. `reading` is set inside `readline`. -/
structure Following where
  pipe : List Char
  buffer : List Char
  running : Bool
  reading : Bool
  consumed : List (List Char)
  yielded : List JournalRecord

def Following.opened : Following := ⟨[], [], true, false, [], []⟩

inductive ReaderAction where
  /-- `journalctl` writes to its output. -/
  | write (chunk : List Char)
  | exit
  /-- `select` reports readable output, and `readline` begins. -/
  | ready
  /-- The stream takes text from the pipe. -/
  | fill (taken : Nat)
  /-- `readline` returns a line. -/
  | line
  /-- `readline` returns what is left at the end of the output. -/
  | last
  /-- `select` times out. -/
  | timeout
  deriving DecidableEq, Repr

variable (loads : String → Option JsonValue)

/-- The loop of `_records_from_process`, between which the process writes. The
stream asks the pipe for text only while it holds no whole line. -/
inductive Following.Step : Following → ReaderAction → Following → Prop where
  | write {state : Following} (chunk : List Char) : state.running = true →
      Step state (.write chunk) { state with pipe := state.pipe ++ chunk }
  | exit {state : Following} : Step state .exit { state with running := false }
  | ready {state : Following} : state.reading = false →
      state.pipe ≠ [] ∨ state.running = false →
      Step state .ready { state with reading := true }
  | fill {state : Following} {taken : Nat} : state.reading = true → '\n' ∉ state.buffer →
      1 ≤ taken → taken ≤ state.pipe.length →
      Step state (.fill taken)
        { state with
          pipe := state.pipe.drop taken
          buffer := state.buffer ++ state.pipe.take taken }
  | line {state : Following} {line rest : List Char} : state.reading = true →
      state.buffer = line ++ '\n' :: rest → '\n' ∉ line →
      Step state .line
        { state with
          buffer := rest
          reading := false
          consumed := state.consumed ++ [line]
          yielded := state.yielded ++ (recordOfLine loads line).toList }
  | last {state : Following} : state.reading = true → '\n' ∉ state.buffer → state.pipe = [] →
      state.running = false →
      Step state .last
        { state with
          buffer := []
          reading := false
          yielded := state.yielded ++
            if state.buffer = [] then []
            else (parseJournalJsonLine loads (String.ofList state.buffer)).toList }
  | timeout {state : Following} : state.reading = false → state.pipe = [] →
      state.running = true → Step state .timeout state

/-! ## What was written and what was consumed -/

/-- A recorded step. -/
abbrev Read := Taken Following ReaderAction

/-- Everything written so far. -/
def written (path : List Read) : List Char :=
  path.flatMap fun taken =>
    match taken.label with
    | .write chunk => chunk
    | _ => []

/-- How often `select` reported readable output. -/
def wakeups (path : List Read) : Nat := path.countP (·.label = .ready)

variable {loads}

theorem written_snoc (path : List Read) (taken : Read) :
    written (path ++ [taken]) = written path ++ written [taken] :=
  List.flatMap_append ..

theorem wakeups_snoc (path : List Read) (taken : Read) :
    wakeups (path ++ [taken]) = wakeups path + wakeups [taken] :=
  List.countP_append ..

variable (loads)

/-- What holds while the process is running: the text is in the consumed lines,
in the stream and in the pipe, and each wake-up has consumed one line. -/
structure Account (path : List Read) (state : Following) : Prop where
  text : written path = state.consumed.flatMap (· ++ ['\n']) ++ (state.buffer ++ state.pipe)
  whole : ∀ line ∈ state.consumed, '\n' ∉ line
  yielded : state.yielded = state.consumed.filterMap (recordOfLine loads)
  woken : wakeups path = state.consumed.length + if state.reading then 1 else 0

variable {loads} {path : List Read} {state finish after : Following} {action : ReaderAction}

/-- **Every step keeps the account.** -/
theorem Following.Step.account (step : Following.Step loads state action after)
    (account : Account loads path state) (running : after.running = true) :
    Account loads (path ++ [⟨state, action, after⟩]) after := by
  obtain ⟨text, whole, yielded, woken⟩ := account
  cases step with
  | write chunk _ =>
      refine ⟨?_, whole, yielded, ?_⟩
      · rw [written_snoc, text]
        simp [written]
      · rw [wakeups_snoc, woken]
        rfl
  | exit => cases running
  | ready idle _ =>
      refine ⟨?_, whole, yielded, ?_⟩
      · rw [written_snoc, text]
        simp [written]
      · rw [wakeups_snoc, woken, idle]
        rfl
  | fill _ _ _ _ =>
      refine ⟨?_, whole, yielded, ?_⟩
      · rw [written_snoc, text]
        simp [written]
      · rw [wakeups_snoc, woken]
        rfl
  | @line ended rest reading held unended =>
      have recorded : [ended].filterMap (recordOfLine loads) = (recordOfLine loads ended).toList := by
        cases read : recordOfLine loads ended with
        | none => simp [read]
        | some record => simp [read]
      refine ⟨?_, ?_, ?_, ?_⟩
      · rw [written_snoc, text, held]
        simp [written]
      · intro other member
        rcases List.mem_append.mp member with earlier | last
        · exact whole other earlier
        · rwa [List.mem_singleton.mp last]
      · rw [List.filterMap_append, ← yielded, recorded]
      · rw [wakeups_snoc, woken, reading, List.length_append]
        rfl
  | last _ _ _ exited =>
      rw [exited] at running
      cases running
  | timeout _ _ _ =>
      refine ⟨?_, whole, yielded, ?_⟩
      · rw [written_snoc, text]
        simp [written]
      · rw [wakeups_snoc, woken]
        rfl

/-- The process does not come back. -/
theorem Following.Step.running (step : Following.Step loads state action after)
    (running : after.running = true) : state.running = true := by
  cases step with
  | exit => cases running
  | _ => exact running

theorem account_of_run (run : Run (Following.Step loads) .opened path finish)
    (running : finish.running = true) : Account loads path finish := by
  refine run.extend (motive := fun path state => state.running = true → Account loads path state)
    ?_ ?_ running
  · intro _
    exact ⟨rfl, (fun line member => nomatch member), rfl, rfl⟩
  · intro earlier state label after _ account step running
    exact step.account (account (step.running running)) running

/-! ## Timeouts -/

variable (loads)

/-- Every line written so far is consumed, and the valid records among them are
yielded in their order. -/
def NothingHeldBack (path : List Read) (state : Following) : Prop :=
  state.consumed = endedLines '\n' [] (written path) ∧
    state.yielded = (endedLines '\n' [] (written path)).filterMap (recordOfLine loads)

variable {loads}

/-- At a timeout the lines that are not consumed are in the stream. -/
theorem lines_at_timeout (run : Run (Following.Step loads) .opened path finish)
    (wait : Following.Step loads finish .timeout after) :
    endedLines '\n' [] (written path) = finish.consumed ++ endedLines '\n' [] finish.buffer := by
  cases wait with
  | timeout idle drained running =>
      have account := account_of_run run running
      rw [account.text, endedLines_lines account.whole, drained, List.append_nil]

/-- **At a timeout nothing is held back exactly when there was a wake-up for
every line.** -/
theorem nothing_held_back_iff (run : Run (Following.Step loads) .opened path finish)
    (wait : Following.Step loads finish .timeout after) :
    NothingHeldBack loads path finish ↔ wakeups path = (written path).count '\n' := by
  have lines := lines_at_timeout run wait
  cases wait with
  | timeout idle drained running =>
      obtain ⟨_, _, yielded, woken⟩ := account_of_run run running
      rw [idle] at woken
      have counted := @length_endedLines _ _ '\n' [] (written path)
      rw [lines, List.length_append] at counted
      constructor
      · rintro ⟨consumed, _⟩
        have same := congrArg List.length consumed
        rw [lines, List.length_append] at same
        rw [woken]
        simp only [Bool.false_eq_true, if_false]
        omega
      · intro enough
        simp only [Bool.false_eq_true, if_false] at woken
        have nothing : endedLines '\n' [] finish.buffer = [] :=
          List.length_eq_zero_iff.mp (by omega)
        rw [nothing, List.append_nil] at lines
        exact ⟨lines.symm, by rw [lines, yielded]⟩

/-! ## Reading line by line -/

/-- What a read takes from the pipe ends the line that it is in, at most. -/
def TakesOneLine (taken : Read) : Prop :=
  ∀ count, taken.label = .fill count →
    ∀ line rest, taken.before.pipe.take count = line ++ '\n' :: rest → rest = []

/-- A stream that reads line by line holds at most the end of one line. -/
theorem line_by_line (run : Run (Following.Step loads) .opened path finish)
    (narrow : ∀ taken ∈ path, TakesOneLine taken) :
    (∀ line rest, finish.buffer = line ++ '\n' :: rest → rest = []) ∧
      (finish.reading = false → '\n' ∉ finish.buffer) := by
  refine run.extend
    (motive := fun path state => (∀ taken ∈ path, TakesOneLine taken) →
      (∀ line rest, state.buffer = line ++ '\n' :: rest → rest = []) ∧
        (state.reading = false → '\n' ∉ state.buffer)) ?_ ?_ narrow
  · intro _
    refine ⟨?_, fun _ => List.not_mem_nil⟩
    intro line rest held
    exact absurd held.symm (by simp [Following.opened])
  · intro earlier state label after _ before step narrow
    obtain ⟨ends, unended⟩ := before fun taken member => narrow taken (List.mem_append_left _ member)
    have own := narrow ⟨state, label, after⟩ (List.mem_append_right _ (List.mem_singleton_self _))
    cases step with
    | write => exact ⟨ends, unended⟩
    | exit => exact ⟨ends, unended⟩
    | ready idle readable => exact ⟨ends, fun reading => nomatch reading⟩
    | @fill taken reading partial_line positive available =>
        refine ⟨?_, fun idle => nomatch reading.symm.trans idle⟩
        intro line rest held
        -- the newline is in what was taken, since the stream held none
        rcases List.append_eq_append_iff.mp held with ⟨more, rfl, taken_eq⟩ | ⟨more, held_eq, taken_eq⟩
        · exact own taken rfl more rest taken_eq
        · cases more with
          | nil => exact own taken rfl [] rest (by simpa using taken_eq.symm)
          | cons c more =>
              obtain ⟨rfl, _⟩ := List.cons.inj taken_eq
              exact absurd (held_eq ▸ List.mem_append_right _ (List.mem_cons_self ..)) partial_line
    | @line ended rest reading held whole =>
        obtain rfl := ends ended rest held
        exact ⟨fun line rest held => absurd held.symm (by simp), fun _ => List.not_mem_nil⟩
    | last => exact ⟨fun line rest held => absurd held.symm (by simp), fun _ => List.not_mem_nil⟩
    | timeout => exact ⟨ends, unended⟩

/-- **Nothing is held back by a stream that reads line by line.** -/
theorem nothing_held_back_line_by_line (run : Run (Following.Step loads) .opened path finish)
    (wait : Following.Step loads finish .timeout after)
    (narrow : ∀ taken ∈ path, TakesOneLine taken) : NothingHeldBack loads path finish := by
  have lines := lines_at_timeout run wait
  cases wait with
  | timeout idle drained running =>
      rw [endedLines_eq_nil ((line_by_line run narrow).2 idle), List.append_nil] at lines
      exact ⟨lines.symm, by rw [lines, (account_of_run run running).yielded]⟩

/-! ## Text that is written at once -/

/-- The text is written at once and taken whole, and its first line is read. -/
theorem read_once {text line rest : List Char} (begins : text = line ++ '\n' :: rest)
    (unended : '\n' ∉ line) :
    ∃ path, Run (Following.Step loads) .opened path
        ⟨[], rest, true, false, [line], (recordOfLine loads line).toList⟩ ∧
      written path = text ∧ wakeups path = 1 := by
  have nonempty : text ≠ [] := by
    rw [begins]
    simp
  have wrote : Following.Step loads .opened (.write text) ⟨text, [], true, false, [], []⟩ :=
    .write text rfl
  have woke : Following.Step loads ⟨text, [], true, false, [], []⟩ .ready
      ⟨text, [], true, true, [], []⟩ := .ready rfl (.inl nonempty)
  have filled : Following.Step loads ⟨text, [], true, true, [], []⟩ (.fill text.length)
      ⟨text.drop text.length, text.take text.length, true, true, [], []⟩ :=
    .fill rfl List.not_mem_nil (List.length_pos_of_ne_nil nonempty) (Nat.le_refl _)
  rw [List.drop_length, List.take_length] at filled
  have returned : Following.Step loads ⟨[], text, true, true, [], []⟩ .line
      ⟨[], rest, true, false, [line], (recordOfLine loads line).toList⟩ := .line rfl begins unended
  exact ⟨_, .cons wrote (.cons woke (.cons filled (.single returned))), by simp [written], rfl⟩

/-- A line of the journal. -/
def journalLine : List Char := "\x7b\"__CURSOR\":\"s=1;i=2\"\x7d".toList

/-- `json.loads` on the lines of this journal. -/
def loadsJournal (line : String) : Option JsonValue :=
  if line = String.ofList (journalLine ++ ['\n']) then
    some (.obj [("__CURSOR", .str "s=1;i=2")])
  else none

/-- **The second of two lines that arrive together is held back.** -/
theorem second_line_held_back : ∃ path finish, Run (Following.Step loadsJournal) .opened path finish ∧
    Following.Step loadsJournal finish .timeout finish ∧
      ¬ NothingHeldBack loadsJournal path finish := by
  obtain ⟨path, run, text, _⟩ := @read_once loadsJournal
    (journalLine ++ '\n' :: (journalLine ++ ['\n'])) journalLine _ rfl (by decide)
  refine ⟨path, _, run, .timeout rfl rfl rfl, ?_⟩
  rintro ⟨consumed, _⟩
  rw [text] at consumed
  exact absurd consumed (by decide)

/-- A line that arrives alone is yielded. -/
theorem nothing_held_back_iff_single_line :
    ∃ path finish, Run (Following.Step loadsJournal) .opened path finish ∧
      NothingHeldBack loadsJournal path finish ∧
        finish.yielded.map (·.cursor) = ["s=1;i=2"] := by
  obtain ⟨path, run, text, woken⟩ := @read_once loadsJournal (journalLine ++ ['\n']) journalLine _
    rfl (by decide)
  refine ⟨path, _, run, (nothing_held_back_iff run (.timeout rfl rfl rfl)).mpr ?_, by decide⟩
  rw [woken, text]
  decide

end WolandGuard.Agent
