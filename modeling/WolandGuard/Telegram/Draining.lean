import Mathlib.Data.List.Sublists
import WolandGuard.Telegram.Poller

/-!
# Draining the queue of the provider

The provider keeps updates until an offset beyond them is confirmed, and
answers `getUpdates` with the first of them. Repeated cycles confirm the whole
queue exactly when no window that is fetched is longer than the response limit;
the first window that is too long is fetched again for ever.
-/

set_option autoImplicit false

namespace WolandGuard.Telegram

open Foundations

/-! ## The provider -/

/-- An account as the Bot API documents it. -/
structure IsBotApiSender (sender : TelegramSender) : Prop where
  id : 0 < sender.id ∧ sender.id < 2 ^ 52
  languageCode : ∀ tag ∈ sender.languageCode, tag.length ≤ 35

/-- A message as the Bot API documents it. -/
structure IsBotApiMessage (message : TelegramMessage) : Prop where
  sender : ∀ sender ∈ message.sender, IsBotApiSender sender
  chat : message.chat.type ∈ ["private", "group", "supergroup", "channel"]
  text : ∀ text ∈ message.text, text.length ≤ 4096

/-- A button press as the Bot API documents it. -/
structure IsBotApiCallbackQuery (query : TelegramCallbackQuery) : Prop where
  id : 1 ≤ query.id.length ∧ query.id.length ≤ 128 ∧ query.id.toList.all (·.toNat < 128) = true
  sender : ∀ sender ∈ query.sender, IsBotApiSender sender
  message : ∀ message ∈ query.message, IsBotApiMessage message
  data : ∀ data ∈ query.data, data.length ≤ 64

structure IsBotApiUpdate (update : TelegramUpdate) : Prop where
  updateId : 0 ≤ update.updateId
  message : ∀ message ∈ update.message, IsBotApiMessage message
  callbackQuery : ∀ query ∈ update.callbackQuery, IsBotApiCallbackQuery query

/-- The updates that a provider holds, and how it encodes a window of them. -/
structure Queue where
  updates : List TelegramUpdate
  encode : List TelegramUpdate → List UInt8
  ordered : updates.Pairwise fun earlier later => earlier.updateId < later.updateId
  valid : ∀ update ∈ updates, IsBotApiUpdate update

/-- The updates that are not confirmed at an offset. -/
def Queue.waiting (queue : Queue) (offset : Int) : List TelegramUpdate :=
  queue.updates.filter fun update => offset ≤ update.updateId

/-- The provider serves the first waiting updates, in an encoding that reads
back as them. -/
structure Serves (provider : Provider) (queue : Queue) : Prop where
  window : ∀ offset limit,
    provider.getUpdates offset limit = ⟨200, queue.encode ((queue.waiting offset).take limit)⟩
  decodes : ∀ window : List TelegramUpdate, window.Sublist queue.updates →
    provider.decode (queue.encode window) = some ⟨true, window⟩
  emptyFits : (queue.encode []).length ≤ telegramResponseLimitBytes

/-! ## Documented updates pass the checks -/

theorem IsBotApiSender.validates {sender : TelegramSender} (valid : IsBotApiSender sender) :
    sender.validates = true := by
  obtain ⟨⟨positive, small⟩, languageCode⟩ := valid
  have tag : sender.languageCode.all (·.length ≤ 35) = true :=
    (Option.all_eq_true _ _).mpr fun text present => decide_eq_true (languageCode text present)
  have bound : decide (sender.id ≤ 2 ^ 53 - 1) = true := decide_eq_true (by omega)
  simp only [TelegramSender.validates, positive, bound, tag, decide_true, Bool.and_self]

theorem IsBotApiMessage.validates {message : TelegramMessage} (valid : IsBotApiMessage message) :
    message.validates = true := by
  have sender : message.sender.all (·.validates) = true :=
    (Option.all_eq_true _ _).mpr fun sender present => (valid.sender sender present).validates
  have chat : message.chat.validates = true := by
    have known := valid.chat
    simp only [List.mem_cons, List.not_mem_nil, or_false] at known
    rcases known with same | same | same | same <;>
      simp only [TelegramChat.validates, same] <;> decide
  have text : message.text.all (·.length ≤ telegramMessageTextMaxChars) = true :=
    (Option.all_eq_true _ _).mpr fun text present => decide_eq_true (valid.text text present)
  simp [TelegramMessage.validates, sender, chat, text]

theorem IsBotApiCallbackQuery.validates {query : TelegramCallbackQuery}
    (valid : IsBotApiCallbackQuery query) : query.validates = true := by
  have sender : query.sender.all (·.validates) = true :=
    (Option.all_eq_true _ _).mpr fun sender present => (valid.sender sender present).validates
  have message : query.message.all (·.validates) = true :=
    (Option.all_eq_true _ _).mpr fun message present => (valid.message message present).validates
  have data : query.data.all (·.length ≤ 256) = true :=
    (Option.all_eq_true _ _).mpr fun data present =>
      decide_eq_true (Nat.le_trans (valid.data data present) (by decide))
  obtain ⟨nonempty, short, _⟩ := valid.id
  simp [TelegramCallbackQuery.validates, sender, message, data, nonempty, short]

theorem IsBotApiUpdate.validates {update : TelegramUpdate} (valid : IsBotApiUpdate update) :
    update.validates = true := by
  have message : update.message.all (·.validates) = true :=
    (Option.all_eq_true _ _).mpr fun message present => (valid.message message present).validates
  have query : update.callbackQuery.all (·.validates) = true :=
    (Option.all_eq_true _ _).mpr fun query present => (valid.callbackQuery query present).validates
  simp [TelegramUpdate.validates, valid.updateId, message, query]

/-! ## Handling a batch -/

section Batch

variable {settings : RouterSettings}

/-- The answer to a documented press is never refused by the client. -/
theorem handleUpdate_not_failed {handling : Handling} {bot : Bot} {update : TelegramUpdate}
    (valid : IsBotApiUpdate update) :
    (handleUpdate settings handling bot update).failed = false := by
  unfold handleUpdate
  split
  next _ query present =>
    obtain ⟨nonempty, short, ascii⟩ := (valid.callbackQuery query present).id
    have brief : IsShort (handleCallbackQuery settings handling bot query).2.text :=
      handleCallbackQuery_isShort bot query
    have sent : answerIsValid query.id
        (handleCallbackQuery settings handling bot query).2.text = true := by
      simp only [answerIsValid, nonempty, short, ascii, decide_true, Bool.true_and]
      exact decide_eq_true brief
    unfold handleCallbackUpdate
    dsimp only
    rw [if_neg (by simp [sent])]
    split
    · rfl
    split <;> rfl
  · rfl
  · split <;> rfl

/-- A batch of documented updates is handled to its end, and the offset is not
touched. -/
theorem handleBatch_completes {handling : Int → Handling} {updates : List TelegramUpdate}
    (valid : ∀ update ∈ updates, IsBotApiUpdate update) (bot : Bot) :
    (handleBatch settings handling bot updates).1.failed = false ∧
      (handleBatch settings handling bot updates).1.bot.store.nextUpdateId =
        bot.store.nextUpdateId := by
  induction updates generalizing bot with
  | nil => exact ⟨rfl, rfl⟩
  | cons update rest ih =>
      have not_failed : (handleUpdate settings (handling update.updateId) bot update).failed =
          false := handleUpdate_not_failed (valid update List.mem_cons_self)
      obtain ⟨completes, offset⟩ := ih (fun other member => valid other (List.mem_cons_of_mem _ member))
        (handleUpdate settings (handling update.updateId) bot update).bot
      unfold handleBatch
      simp only [not_failed]
      exact ⟨completes, offset.trans (handleUpdate_nextUpdateId bot update)⟩

end Batch

/-! ## One cycle -/

section Cycles

variable {settings : RouterSettings} {provider : Provider} {queue : Queue}

/-- The window of updates fits into a response. -/
def Queue.fits (queue : Queue) (window : List TelegramUpdate) : Bool :=
  (queue.encode window).length ≤ telegramResponseLimitBytes

theorem Queue.waiting_sublist (queue : Queue) (offset : Int) :
    (queue.waiting offset).Sublist queue.updates :=
  List.filter_sublist

theorem Queue.waiting_ordered (queue : Queue) (offset : Int) :
    (queue.waiting offset).Pairwise fun earlier later => earlier.updateId < later.updateId :=
  queue.ordered.sublist (queue.waiting_sublist offset)

/-- Confirming behind the last update of a window leaves the rest waiting. -/
theorem Queue.waiting_after (queue : Queue) {offset : Int} {limit : Nat} {last : TelegramUpdate}
    (is_last : ((queue.waiting offset).take limit).getLast? = some last) :
    queue.waiting (last.updateId + 1) = (queue.waiting offset).drop limit := by
  have last_member : last ∈ (queue.waiting offset).take limit := List.mem_of_getLast? is_last
  have from_offset : offset ≤ last.updateId := by
    have waits := List.mem_of_mem_take last_member
    exact of_decide_eq_true (List.mem_filter.mp waits).2
  have refilter : queue.waiting (last.updateId + 1) =
      (queue.waiting offset).filter fun update => last.updateId + 1 ≤ update.updateId := by
    rw [Queue.waiting, Queue.waiting, List.filter_filter]
    refine List.filter_congr fun update _ => ?_
    rw [← Bool.decide_and, decide_eq_decide]
    omega
  have ordered := queue.waiting_ordered offset
  rw [← List.take_append_drop limit (queue.waiting offset)] at ordered
  obtain ⟨window_ordered, _, across⟩ := List.pairwise_append.mp ordered
  rw [refilter, ← List.take_append_drop limit (queue.waiting offset), List.filter_append]
  have window_gone : ((queue.waiting offset).take limit).filter
      (fun update => last.updateId + 1 ≤ update.updateId) = [] := by
    refine List.filter_eq_nil_iff.mpr fun update member => ?_
    have not_after : update.updateId ≤ last.updateId := by
      obtain ⟨before, split⟩ := List.getLast?_eq_some_iff.mp is_last
      rw [split] at member window_ordered
      rcases List.mem_append.mp member with earlier | same
      · exact Int.le_of_lt ((List.pairwise_append.mp window_ordered).2.2 update earlier last
          (List.mem_singleton.mpr rfl))
      · rw [List.mem_singleton.mp same]
    simp only [decide_eq_true_eq, Int.not_le]
    exact Int.lt_add_one_iff.mpr not_after
  have rest_waits : ((queue.waiting offset).drop limit).filter
      (fun update => last.updateId + 1 ≤ update.updateId) = (queue.waiting offset).drop limit := by
    refine List.filter_eq_self.mpr fun update member => decide_eq_true ?_
    exact across last last_member update member
  rw [window_gone, rest_waits, List.nil_append, List.take_append_drop]

/-- **What one cycle does.** A window that is too long changes nothing; any
other is confirmed. -/
theorem runOnce_spec (settings : RouterSettings) (serves : Serves provider queue) (handling : Int → Handling) (bot : Bot) :
    let window := (queue.waiting (loadNextUpdateId bot.store)).take provider.batchLimit
    (queue.fits window = false ∧
      runOnce settings provider handling bot = (bot, .error .responseTooLarge)) ∨
    (queue.fits window = true ∧ (∃ result, (runOnce settings provider handling bot).2 = .ok result) ∧
      queue.waiting (loadNextUpdateId (runOnce settings provider handling bot).1.store) =
        (queue.waiting (loadNextUpdateId bot.store)).drop provider.batchLimit) := by
  intro window
  have window_sublist : window.Sublist queue.updates :=
    (List.take_sublist _ _).trans (queue.waiting_sublist _)
  have window_valid : ∀ update ∈ window, IsBotApiUpdate update := fun update member =>
    queue.valid update (window_sublist.subset member)
  by_cases fits : queue.fits window = true
  · refine .inr ⟨fits, ?_⟩
    have read : readResponse (provider.getUpdates (loadNextUpdateId bot.store)
        provider.batchLimit) = .ok ⟨200, queue.encode window⟩ := by
      rw [serves.window, readResponse, if_neg (Nat.not_lt.mpr (of_decide_eq_true fits))]
    have parsed : parseUpdateResponse provider.decode (queue.encode window) = .ok window := by
      have valid : (TelegramUpdateResponse.mk true window).validates = true := by
        have few : window.length ≤ telegramUpdateBatchMax :=
          Nat.le_trans (List.length_take_le _ _) provider.batchLimit_range.2
        simp only [TelegramUpdateResponse.validates, few, decide_true, Bool.true_and]
        exact List.all_eq_true.mpr fun update member => (window_valid update member).validates
      have sorted : window.insertionSort (updateOrder · ·) = window :=
        ((queue.ordered.sublist window_sublist).imp fun less =>
          decide_eq_true (Int.le_of_lt less)).insertionSort_eq
      unfold parseUpdateResponse
      rw [serves.decodes window window_sublist]
      simp only [valid, Bool.not_true, Bool.false_eq_true, if_false, sorted]
    unfold runOnce
    dsimp only
    rw [read]
    dsimp only
    rw [if_neg (by simp), parsed]
    dsimp only
    cases is_last : window.getLast? with
    | none =>
        refine ⟨⟨_, rfl⟩, ?_⟩
        have empty : window = [] := List.getLast?_eq_none_iff.mp is_last
        rcases List.take_eq_nil_iff.mp empty with zero | nothing
        · have positive := provider.batchLimit_range.1
          omega
        · dsimp only
          rw [nothing, List.drop_nil]
    | some last =>
        have batch : (handleBatch settings handling bot window).1.failed = false ∧
            (handleBatch settings handling bot window).1.bot.store.nextUpdateId =
              bot.store.nextUpdateId := handleBatch_completes window_valid bot
        obtain ⟨completes, offset_kept⟩ := batch
        simp only [completes, Bool.false_eq_true, if_false]
        refine ⟨⟨_, rfl⟩, ?_⟩
        have confirmed : loadNextUpdateId (confirmNextUpdateId
            (handleBatch settings handling bot window).1.bot.store (last.updateId + 1)) =
              last.updateId + 1 := by
          have last_waits : loadNextUpdateId bot.store ≤ last.updateId :=
            of_decide_eq_true (List.mem_filter.mp
              (List.mem_of_mem_take (List.mem_of_getLast? is_last))).2
          unfold loadNextUpdateId confirmNextUpdateId at *
          rw [offset_kept]
          cases stored : bot.store.nextUpdateId with
          | none => rfl
          | some offset =>
              rw [stored] at last_waits
              have less : offset < last.updateId + 1 := by
                dsimp only [Option.getD_some] at last_waits
                omega
              simp only [less, if_true, Option.getD_some]
        rw [confirmed]
        exact queue.waiting_after is_last
  · have too_long : telegramResponseLimitBytes < (queue.encode window).length := by
      simpa [Queue.fits] using fits
    refine .inl ⟨Bool.eq_false_iff.mpr fits, ?_⟩
    unfold runOnce
    dsimp only
    rw [serves.window, readResponse, if_pos too_long]

end Cycles

/-! ## All cycles -/

/-- The bot after `n` calls of `run_once`, with the readings of each call. -/
def cycles (settings : RouterSettings) (provider : Provider) (handling : Nat → Int → Handling)
    (bot : Bot) : Nat → Bot
  | 0 => bot
  | n + 1 =>
      (runOnce settings provider (handling n) (cycles settings provider handling bot n)).1

section Drain

variable {provider : Provider} {queue : Queue}

/-- The cycles drain the waiting updates in chunks. -/
theorem waiting_cycles (settings : RouterSettings) (serves : Serves provider queue)
    (handling : Nat → Int → Handling) (bot : Bot) (n : Nat) :
    queue.waiting (loadNextUpdateId (cycles settings provider handling bot n).store) =
      (drainStep provider.batchLimit queue.fits)^[n]
        (queue.waiting (loadNextUpdateId bot.store)) := by
  induction n with
  | zero => rfl
  | succ n ih =>
      rw [Function.iterate_succ_apply', ← ih, cycles, drainStep]
      rcases runOnce_spec settings serves (handling n)
          (cycles settings provider handling bot n) with ⟨long, same⟩ | ⟨fits, _, dropped⟩
      · rw [same, if_neg (Bool.eq_false_iff.mp long)]
      · rw [dropped, if_pos fits]

/-- Every queued update is confirmed at an offset exactly when none waits. -/
theorem Queue.confirmed_iff (queue : Queue) (offset : Int) :
    (∀ update ∈ queue.updates, update.updateId < offset) ↔ queue.waiting offset = [] := by
  rw [Queue.waiting, List.filter_eq_nil_iff]
  refine forall₂_congr fun update _ => ?_
  simp

/-- **No queue wedges the bot exactly when every window it fetches fits.** The
property is the one that is asked for: finitely many cycles confirm the whole
queue, and no state is reached from which every further cycle fails with the
same offset. -/
theorem offset_confirms_iff (settings : RouterSettings) (provider : Provider) (queue : Queue)
    (serves : Serves provider queue) (handling : Nat → Int → Handling) (bot : Bot) :
    ((∃ n, ∀ update ∈ queue.updates,
        update.updateId < loadNextUpdateId (cycles settings provider handling bot n).store) ∧
      ¬ ∃ m, ∀ n, m ≤ n →
        (∃ failure, (runOnce settings provider (handling n)
          (cycles settings provider handling bot n)).2 = .error failure) ∧
        loadNextUpdateId (cycles settings provider handling bot n).store =
          loadNextUpdateId (cycles settings provider handling bot m).store) ↔
    ∀ k, chunk provider.batchLimit (queue.waiting (loadNextUpdateId bot.store)) k ≠ [] →
      (queue.encode (chunk provider.batchLimit
        (queue.waiting (loadNextUpdateId bot.store)) k)).length ≤ 65536 := by
  have drains : (∃ n, (drainStep provider.batchLimit queue.fits)^[n]
        (queue.waiting (loadNextUpdateId bot.store)) = []) ↔
      ∀ k, chunk provider.batchLimit (queue.waiting (loadNextUpdateId bot.store)) k ≠ [] →
        queue.fits (chunk provider.batchLimit
          (queue.waiting (loadNextUpdateId bot.store)) k) = true :=
    drains_iff provider.batchLimit_range.1
  have confirms : ∀ n, (∀ update ∈ queue.updates,
      update.updateId < loadNextUpdateId (cycles settings provider handling bot n).store) ↔
      (drainStep provider.batchLimit queue.fits)^[n]
        (queue.waiting (loadNextUpdateId bot.store)) = [] := fun n => by
    rw [queue.confirmed_iff, waiting_cycles settings serves]
  have fits_iff : ∀ window, queue.fits window = true ↔ (queue.encode window).length ≤ 65536 :=
    fun window => decide_eq_true_iff
  simp only [confirms, ← fits_iff]
  refine ⟨fun holds => drains.mp holds.1, fun fits => ⟨drains.mpr fits, ?_⟩⟩
  rintro ⟨m, stuck⟩
  -- once the queue is drained, the next cycle succeeds
  obtain ⟨n, drained⟩ := drains.mpr fits
  have later : (drainStep provider.batchLimit queue.fits)^[m + n]
      (queue.waiting (loadNextUpdateId bot.store)) = [] := by
    rw [Function.iterate_add_apply, drained]
    exact Function.iterate_fixed drainStep_nil m
  rw [← waiting_cycles settings serves handling bot] at later
  obtain ⟨⟨failure, failed⟩, _⟩ := stuck (m + n) (Nat.le_add_right m n)
  rcases runOnce_spec settings serves (handling (m + n))
      (cycles settings provider handling bot (m + n)) with ⟨long, _⟩ | ⟨_, ⟨result, ok⟩, _⟩
  · rw [later, List.take_nil] at long
    exact absurd (decide_eq_true serves.emptyFits) (Bool.eq_false_iff.mp long)
  · rw [ok] at failed
    cases failed

end Drain

/-! ## A queue of long messages -/

/-- The bytes of an ASCII text. -/
def asciiBytes (text : String) : List UInt8 := text.toList.map (·.toNat.toUInt8)

/-- A text of a given length. -/
def textOfLength (length : Nat) : String := String.ofList (List.replicate length 'a')

theorem length_textOfLength (length : Nat) : (textOfLength length).toList.length = length := by
  rw [textOfLength, String.toList_ofList, List.length_replicate]

/-- A long message from anyone. -/
def longMessage (number : Nat) : TelegramUpdate where
  updateId := 10 + number
  message :=
    some
      { messageId := 1
        sender := none
        chat := ⟨1, "private"⟩
        text := some (textOfLength 4096) }
  callbackQuery := none

/-- The JSON of an update that is a message from a private chat. -/
def encodeMessageUpdate (update : TelegramUpdate) : List UInt8 :=
  let text := update.message.bind (·.text)
  asciiBytes "\x7b\"update_id\":" ++ asciiBytes (toString update.updateId) ++
    (asciiBytes ",\"message\":\x7b\"message_id\":1,\"date\":0," ++
      (asciiBytes "\"chat\":\x7b\"id\":1,\"type\":\"private\"\x7d,\"text\":\"" ++
        ((text.getD "").toList.map (·.toNat.toUInt8) ++ asciiBytes "\"\x7d\x7d")))

/-- The JSON of the updates behind the first of a list. -/
def encodeFurther (updates : List TelegramUpdate) : List UInt8 :=
  updates.flatMap fun update => asciiBytes "," ++ encodeMessageUpdate update

def encodeResult : List TelegramUpdate → List UInt8
  | [] => []
  | update :: rest => encodeMessageUpdate update ++ encodeFurther rest

/-- The JSON of a response with message updates. -/
def encodeMessageResponse (updates : List TelegramUpdate) : List UInt8 :=
  asciiBytes "\x7b\"ok\":true,\"result\":[" ++ encodeResult updates ++ asciiBytes "]\x7d"

/-- The digits of the ids of the first twenty long messages differ, and there
are two of them. -/
theorem longMessage_digits :
    (∀ number < 20, (asciiBytes (toString (longMessage number).updateId)).length = 2) ∧
      ∀ number < 20, ∀ other < 20,
        asciiBytes (toString (longMessage number).updateId) =
          asciiBytes (toString (longMessage other).updateId) → number = other := by
  decide +kernel

theorem length_encodeMessageUpdate {number : Nat} (few : number < 20) :
    (encodeMessageUpdate (longMessage number)).length = 4191 := by
  have digits := longMessage_digits.1 number few
  have opening : (asciiBytes "\x7b\"update_id\":").length = 13 := by decide
  have message : (asciiBytes ",\"message\":\x7b\"message_id\":1,\"date\":0,").length = 36 := by
    decide
  have chat : (asciiBytes
      "\"chat\":\x7b\"id\":1,\"type\":\"private\"\x7d,\"text\":\"").length = 41 := by decide
  have closing : (asciiBytes "\"\x7d\x7d").length = 3 := by decide
  have text : (((longMessage number).message.bind (·.text)).getD "").toList.length = 4096 :=
    length_textOfLength 4096
  simp only [encodeMessageUpdate, List.length_append, List.length_map, opening, message, chat,
    closing, digits, text]

theorem encodeMessageUpdate_inj {number other : Nat} (few : number < 20) (few_other : other < 20)
    (same : encodeMessageUpdate (longMessage number) = encodeMessageUpdate (longMessage other)) :
    number = other := by
  refine longMessage_digits.2 number few other few_other ?_
  have lengths : (asciiBytes (toString (longMessage number).updateId)).length =
      (asciiBytes (toString (longMessage other).updateId)).length := by
    rw [longMessage_digits.1 number few, longMessage_digits.1 other few_other]
  have heads := (List.append_inj same (by rw [List.length_append, List.length_append, lengths])).1
  exact List.append_cancel_left heads

/-- The first long messages. -/
def longMessages (count : Nat) : List TelegramUpdate := (List.range count).map longMessage

theorem length_encodeFurther {updates : List TelegramUpdate}
    (long : ∀ update ∈ updates, ∃ number < 20, update = longMessage number) :
    (encodeFurther updates).length = 4192 * updates.length := by
  induction updates with
  | nil => rfl
  | cons update rest ih =>
      obtain ⟨number, few, rfl⟩ := long update List.mem_cons_self
      have comma : (asciiBytes ",").length = 1 := by decide
      have rest_length : (encodeFurther rest).length = 4192 * rest.length :=
        ih fun other member => long other (List.mem_cons_of_mem _ member)
      rw [encodeFurther, List.flatMap_cons, ← encodeFurther, List.length_append,
        List.length_append, comma, length_encodeMessageUpdate few, rest_length, List.length_cons]
      omega

theorem encodeFurther_inj {left right : List TelegramUpdate}
    (left_long : ∀ update ∈ left, ∃ number < 20, update = longMessage number)
    (right_long : ∀ update ∈ right, ∃ number < 20, update = longMessage number)
    (same : encodeFurther left = encodeFurther right) : left = right := by
  have same_length : left.length = right.length := by
    have lengths := congrArg List.length same
    rw [length_encodeFurther left_long, length_encodeFurther right_long] at lengths
    omega
  induction left generalizing right with
  | nil => exact (List.length_eq_zero_iff.mp same_length.symm).symm
  | cons update rest ih =>
      cases right with
      | nil => cases same_length
      | cons other others =>
          obtain ⟨number, few, rfl⟩ := left_long update List.mem_cons_self
          obtain ⟨number', few', rfl⟩ := right_long other List.mem_cons_self
          simp only [encodeFurther, List.flatMap_cons, List.append_assoc] at same
          obtain ⟨heads, tails⟩ := List.append_inj (List.append_cancel_left same)
            (by rw [length_encodeMessageUpdate few, length_encodeMessageUpdate few'])
          rw [encodeMessageUpdate_inj few few' heads,
            ih (fun later member => left_long later (List.mem_cons_of_mem _ member))
              (fun later member => right_long later (List.mem_cons_of_mem _ member))
              tails (Nat.succ.inj same_length)]

/-- A response with long messages is about 4 KiB for each. -/
theorem length_encodeMessageResponse {updates : List TelegramUpdate}
    (long : ∀ update ∈ updates, ∃ number < 20, update = longMessage number) :
    4192 * updates.length ≤ (encodeMessageResponse updates).length ∧
      (encodeMessageResponse updates).length ≤ 4192 * updates.length + 24 := by
  have opening : (asciiBytes "\x7b\"ok\":true,\"result\":[").length = 21 := by decide
  have closing : (asciiBytes "]\x7d").length = 2 := by decide
  have result : 4192 * updates.length ≤ (encodeResult updates).length + 1 ∧
      (encodeResult updates).length ≤ 4192 * updates.length := by
    cases updates with
    | nil => exact ⟨Nat.zero_le _, Nat.le_refl 0⟩
    | cons update rest =>
        obtain ⟨number, few, rfl⟩ := long update List.mem_cons_self
        have further : (encodeFurther rest).length = 4192 * rest.length :=
          length_encodeFurther fun other member => long other (List.mem_cons_of_mem _ member)
        rw [encodeResult, List.length_append, length_encodeMessageUpdate few, further,
          List.length_cons]
        omega
  rw [encodeMessageResponse, List.length_append, List.length_append, opening, closing]
  omega

/-- Different responses about long messages have different encodings. -/
theorem encodeMessageResponse_inj {left right : List TelegramUpdate}
    (left_long : ∀ update ∈ left, ∃ number < 20, update = longMessage number)
    (right_long : ∀ update ∈ right, ∃ number < 20, update = longMessage number)
    (same : encodeMessageResponse left = encodeMessageResponse right) : left = right := by
  have results : encodeResult left = encodeResult right :=
    List.append_cancel_left (List.append_cancel_right same)
  have further : encodeFurther left = encodeFurther right := by
    cases left with
    | nil =>
        cases right with
        | nil => rfl
        | cons other others =>
            obtain ⟨number, few, rfl⟩ := right_long other List.mem_cons_self
            have lengths := congrArg List.length results
            rw [encodeResult, encodeResult, List.length_append,
              length_encodeMessageUpdate few] at lengths
            simp only [List.length_nil] at lengths
            omega
    | cons update rest =>
        cases right with
        | nil =>
            obtain ⟨number, few, rfl⟩ := left_long update List.mem_cons_self
            have lengths := congrArg List.length results
            rw [encodeResult, encodeResult, List.length_append,
              length_encodeMessageUpdate few] at lengths
            simp only [List.length_nil] at lengths
            omega
        | cons other others =>
            simp only [encodeFurther, List.flatMap_cons, List.append_assoc]
            exact congrArg (asciiBytes "," ++ ·) results
  exact encodeFurther_inj left_long right_long further

theorem mem_longMessages {count : Nat} (few : count ≤ 20) {update : TelegramUpdate}
    (member : update ∈ longMessages count) : ∃ number < 20, update = longMessage number := by
  obtain ⟨number, in_range, rfl⟩ := List.mem_map.mp member
  exact ⟨number, Nat.lt_of_lt_of_le (List.mem_range.mp in_range) few, rfl⟩

/-- A provider that holds the first long messages. -/
def floodQueue (count : Nat) : Queue where
  updates := longMessages count
  encode := encodeMessageResponse
  ordered := by
    refine List.pairwise_map.mpr (List.pairwise_lt_range.imp fun {left right} less => ?_)
    simp only [longMessage]
    omega
  valid := by
    intro update member
    obtain ⟨number, _, rfl⟩ := List.mem_map.mp member
    refine ⟨by simp only [longMessage]; omega, fun message present => ?_, fun query present => ?_⟩
    · obtain rfl := Option.some.inj present
      exact
        { sender := fun sender present => by cases present
          chat := by simp
          text := fun text present => by
            obtain rfl := Option.some.inj present
            exact Nat.le_of_eq (length_textOfLength 4096) }
    · cases present

/-- The provider reads its own encodings back and serves windows of 25. -/
def floodProvider (count : Nat) : Provider where
  batchLimit := 25
  decode := fun body =>
    ((longMessages count).sublists.find? fun window => encodeMessageResponse window = body).map
      fun window => ⟨true, window⟩
  getUpdates := fun offset limit =>
    ⟨200, encodeMessageResponse (((floodQueue count).waiting offset).take limit)⟩
  batchLimit_range := by decide

theorem floodProvider_serves {count : Nat} (few : count ≤ 20) :
    Serves (floodProvider count) (floodQueue count) where
  window := fun _ _ => rfl
  decodes := by
    intro window sublist
    have long : ∀ {updates : List TelegramUpdate}, updates.Sublist (longMessages count) →
        ∀ update ∈ updates, ∃ number < 20, update = longMessage number :=
      fun below update member => mem_longMessages few (below.subset member)
    simp only [floodProvider, Option.map_eq_some_iff]
    refine ⟨window, ?_, rfl⟩
    cases found : (longMessages count).sublists.find? fun other =>
        encodeMessageResponse other = encodeMessageResponse window with
    | none =>
        have missed := List.find?_eq_none.mp found window (List.mem_sublists.mpr sublist)
        simp at missed
    | some other =>
        have other_sublist := List.mem_sublists.mp (List.mem_of_find?_eq_some found)
        have same := List.find?_some found
        have equal : other = window := encodeMessageResponse_inj (long other_sublist)
          (long sublist) (of_decide_eq_true same)
        exact equal ▸ found
  emptyFits := by
    have short : (encodeMessageResponse []).length ≤ 65536 := by decide
    exact short

/-- The readings of a cycle on a frozen clock. -/
def frozenHandling (_cycle : Nat) (_updateId : Int) : Handling := ⟨0, 0, 0, 0, true⟩

/-- The cycles of a new installation with the default settings. -/
def floodCycles (count cycle : Nat) : Bot :=
  cycles (.defaults .defaults) (floodProvider count) frozenHandling (.started .empty) cycle

theorem mem_chunk_longMessages {count k : Nat} {waiting : List TelegramUpdate} (few : count ≤ 20)
    (sublist : waiting.Sublist (longMessages count)) {update : TelegramUpdate}
    (member : update ∈ chunk 25 waiting k) : ∃ number < 20, update = longMessage number :=
  mem_longMessages few (sublist.subset (List.mem_of_mem_drop (List.mem_of_mem_take member)))

/-- Three long messages are confirmed. -/
theorem offset_confirms_iff_three_messages :
    (∃ n, ∀ update ∈ longMessages 3,
        update.updateId < loadNextUpdateId (floodCycles 3 n).store) ∧
      ¬ ∃ m, ∀ n, m ≤ n →
        (∃ failure, (runOnce (.defaults .defaults) (floodProvider 3) (frozenHandling n)
          (floodCycles 3 n)).2 = .error failure) ∧
        loadNextUpdateId (floodCycles 3 n).store = loadNextUpdateId (floodCycles 3 m).store := by
  refine (offset_confirms_iff (.defaults .defaults) (floodProvider 3) (floodQueue 3)
    (floodProvider_serves (by decide)) frozenHandling (.started .empty)).mpr fun k _ => ?_
  have sublist := (floodQueue 3).waiting_sublist (loadNextUpdateId (Bot.started .empty).store)
  have few : (chunk 25 ((floodQueue 3).waiting
      (loadNextUpdateId (Bot.started .empty).store)) k).length ≤ 3 := by
    refine Nat.le_trans (List.length_take_le' _ _) (Nat.le_trans ?_ sublist.length_le)
    rw [List.length_drop]
    exact Nat.sub_le _ _
  have long : ∀ update ∈ chunk 25 ((floodQueue 3).waiting
      (loadNextUpdateId (Bot.started .empty).store)) k,
      ∃ number < 20, update = longMessage number :=
    fun update member => mem_chunk_longMessages (by decide) sublist member
  exact Nat.le_trans (length_encodeMessageResponse long).2 (by omega)

/-- **Seventeen long messages wedge the bot.** Every cycle fails, and no offset
is ever confirmed. -/
theorem long_messages_wedge_the_bot :
    Serves (floodProvider 17) (floodQueue 17) ∧
      ∀ n, (runOnce (.defaults .defaults) (floodProvider 17) (frozenHandling n)
          (floodCycles 17 n)).2 = .error .responseTooLarge ∧
        loadNextUpdateId (floodCycles 17 n).store = 0 ∧
        ¬ ∀ update ∈ longMessages 17,
          update.updateId < loadNextUpdateId (floodCycles 17 n).store := by
  refine ⟨floodProvider_serves (by decide), ?_⟩
  have all_wait : ((floodQueue 17).waiting 0).take 25 = longMessages 17 := by
    have waiting : (floodQueue 17).waiting 0 = longMessages 17 :=
      List.filter_eq_self.mpr fun update member =>
        decide_eq_true ((floodQueue 17).valid update member).updateId
    rw [waiting, List.take_of_length_le (by decide)]
  have long : (floodQueue 17).fits (((floodQueue 17).waiting 0).take 25) = false := by
    have known : ∀ update ∈ longMessages 17, ∃ number < 20, update = longMessage number :=
      fun update member => mem_longMessages (by decide) member
    have size : (longMessages 17).length = 17 := by rw [longMessages, List.length_map]; decide
    have length : 4192 * 17 ≤ (encodeMessageResponse (longMessages 17)).length :=
      size ▸ (length_encodeMessageResponse known).1
    rw [all_wait]
    exact decide_eq_false (Nat.not_le.mpr (Nat.lt_of_lt_of_le (by decide) length))
  have stays : ∀ n, floodCycles 17 n = .started .empty ∧
      runOnce (.defaults .defaults) (floodProvider 17) (frozenHandling n) (.started .empty) =
        (.started .empty, .error .responseTooLarge) := by
    intro n
    have fails : ∀ n, runOnce (.defaults .defaults) (floodProvider 17) (frozenHandling n)
        (.started .empty) = (.started .empty, .error .responseTooLarge) := fun n => by
      have serves : Serves (floodProvider 17) (floodQueue 17) := floodProvider_serves (by decide)
      rcases runOnce_spec (.defaults .defaults) serves (frozenHandling n) (.started .empty) with
        ⟨_, same⟩ | ⟨fits, _⟩
      · exact same
      · exact absurd fits (Bool.eq_false_iff.mp long)
    refine ⟨?_, fails n⟩
    induction n with
    | zero => rfl
    | succ n ih => rw [floodCycles, cycles, ← floodCycles, ih, fails n]
  intro n
  obtain ⟨same, fails⟩ := stays n
  rw [same, fails]
  refine ⟨rfl, rfl, fun confirmed => ?_⟩
  have first : longMessage 0 ∈ longMessages 17 :=
    List.mem_map.mpr ⟨0, List.mem_range.mpr (by decide), rfl⟩
  exact absurd (confirmed (longMessage 0) first) (by decide)

end WolandGuard.Telegram
