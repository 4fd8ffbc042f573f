import WolandGuard.Foundations.Chunks
import WolandGuard.Telegram.Router

/-!
# The poller

`telegram_bot/poller.py`: fetch a bounded batch from the confirmed offset, handle
its updates in order, confirm the offset behind the last one. The offset moves
only after the whole batch, so a failure anywhere repeats the same request.

The body of a response is limited to 64 KiB, and a longer one counts as a
transient failure. The queue of the provider drains exactly when every batch of
`batch_limit` updates fits (`offset_confirms_iff`).
-/

set_option autoImplicit false

namespace WolandGuard.Telegram

open Foundations

/-! ## Calls -/

/-- A call of the Bot API that the bot makes. -/
inductive Outgoing where
  | sendMessage (chatId : Int) (text : String) (keyboard : Option (List (List KeyboardButton)))
  | answerCallbackQuery (callbackQueryId text : String) (showAlert : Bool)
  deriving DecidableEq, Repr

structure HttpResponse where
  statusCode : Nat
  body : List UInt8

inductive PollFailure where
  | responseTooLarge
  | requestRejected
  | update (error : TelegramUpdateError)
  | invalidArgument
  deriving DecidableEq, Repr

/-- The failures after which the loop goes on. -/
def PollFailure.isTolerated : PollFailure → Bool
  | .invalidArgument => false
  | _ => true

/-- `TELEGRAM_RESPONSE_LIMIT_BYTES`. -/
def telegramResponseLimitBytes : Nat := 65536

/-- The reading of a response in `_call`. -/
def readResponse (response : HttpResponse) : Except PollFailure HttpResponse :=
  if telegramResponseLimitBytes < response.body.length then .error .responseTooLarge
  else .ok response

/-- `CALLBACK_QUERY_ANSWER_TEXT_MAX_CHARS`. -/
def callbackQueryAnswerTextMaxChars : Nat := 200

/-- The checks of `answer_callback_query`. -/
def answerIsValid (callbackQueryId text : String) : Bool :=
  (1 ≤ callbackQueryId.length && callbackQueryId.length ≤ 128 &&
    callbackQueryId.toList.all (·.toNat < 128)) &&
  text.length ≤ callbackQueryAnswerTextMaxChars

/-! ## Updates -/

/-- What handling an update has done. -/
structure Handled where
  bot : Bot
  outgoing : List Outgoing
  replied : Bool
  failed : Bool

section Cycle

variable (settings : RouterSettings)

/-- `_handle_callback_query`. -/
def handleCallbackUpdate (handling : Handling) (bot : Bot) (query : TelegramCallbackQuery) :
    Handled :=
  let (bot, answer) := handleCallbackQuery settings handling bot query
  if !answerIsValid query.id answer.text then ⟨bot, [], false, true⟩
  else
    let answering : Outgoing := .answerCallbackQuery query.id answer.text answer.showAlert
    if !handling.answered then ⟨bot, [answering], false, false⟩
    else
      match answer.followUpText, query.message with
      | none, _ => ⟨bot, [answering], true, false⟩
      | some _, none => ⟨bot, [answering], false, false⟩
      | some text, some message =>
          ⟨bot, [answering, .sendMessage message.chat.id text answer.followUpKeyboard], true, false⟩

/-- `_handle_update`. -/
def handleUpdate (handling : Handling) (bot : Bot) (update : TelegramUpdate) : Handled :=
  match update.callbackQuery, update.message with
  | some query, _ => handleCallbackUpdate settings handling bot query
  | none, none => ⟨bot, [], false, false⟩
  | none, some message =>
      match handle settings handling bot update.updateId message with
      | (bot, none) => ⟨bot, [], false, false⟩
      | (bot, some reply) => ⟨bot, [.sendMessage message.chat.id reply none], true, false⟩

/-- The loop over the updates of a batch, with the readings of each update. -/
def handleBatch (handling : Int → Handling) : Bot → List TelegramUpdate → Handled × Nat
  | bot, [] => (⟨bot, [], true, false⟩, 0)
  | bot, update :: rest =>
      let handled := handleUpdate settings (handling update.updateId) bot update
      if handled.failed then (handled, 0)
      else
        let (later, replied) := handleBatch handling handled.bot rest
        ({ later with outgoing := handled.outgoing ++ later.outgoing },
          replied + handled.replied.toNat)

/-! ## Offsets -/

/-- `load_next_update_id`. -/
def loadNextUpdateId (store : Store) : Int := store.nextUpdateId.getD 0

/-- `confirm_next_update_id`, which never moves backwards. -/
def confirmNextUpdateId (store : Store) (nextUpdateId : Int) : Store :=
  { store with
    nextUpdateId :=
      some (match store.nextUpdateId with
        | none => nextUpdateId
        | some stored => if stored < nextUpdateId then nextUpdateId else stored) }

structure PollCycleResult where
  received : Nat
  replied : Nat
  ignored : Nat
  deriving DecidableEq, Repr

/-- What the poller reaches the provider with. -/
structure Provider where
  batchLimit : Nat
  decode : List UInt8 → Option TelegramUpdateResponse
  getUpdates : Int → Nat → HttpResponse
  batchLimit_range : 1 ≤ batchLimit ∧ batchLimit ≤ telegramUpdateBatchMax

/-- `run_once`: the process and its database after the cycle, and how it
ended. -/
def runOnce (provider : Provider) (handling : Int → Handling) (bot : Bot) :
    Bot × Except PollFailure PollCycleResult :=
  let offset := loadNextUpdateId bot.store
  match readResponse (provider.getUpdates offset provider.batchLimit) with
  | .error failure => (bot, .error failure)
  | .ok response =>
      if response.statusCode ≠ 200 then (bot, .error .requestRejected)
      else
        match parseUpdateResponse provider.decode response.body with
        | .error error => (bot, .error (.update error))
        | .ok updates =>
            match updates.getLast? with
            | none => (bot, .ok ⟨0, 0, 0⟩)
            | some last =>
                let (handled, replied) := handleBatch settings handling bot updates
                if handled.failed then (handled.bot, .error .invalidArgument)
                else
                  ({ handled.bot with
                      store := confirmNextUpdateId handled.bot.store (last.updateId + 1) },
                    .ok ⟨updates.length, replied, updates.length - replied⟩)

end Cycle

/-! ## Answers are short -/

/-- The texts that answers to presses are made of. -/
def answerKeys : List StringKey :=
  [.callbackUnlinked, .callbackForbidden, .callbackInvalid, .callbackRateLimited,
    .incidentNotFound, .incidentStaleVersion, .incidentTransitionNotAllowed,
    .incidentInProgress, .incidentTransitionFailed, .ipBlockDisabled,
    .ipBlockNoSourceAddress, .ipBlockProposed, .ipBlockReused,
    .ipBlockPlanNotFound, .ipBlockAlreadyDecided, .ipBlockExpired,
    .ipBlockSameOperator, .ipBlockNowBlocked, .ipBlockApproved, .ipBlockRejected,
    .ipBlockRejectNotAnAddress, .ipBlockRejectNeverBlock,
    .ipBlockRejectAllowlisted]

/-- A text that an answer may carry. -/
def IsShort (text : String) : Prop := text.length ≤ callbackQueryAnswerTextMaxChars

section Lengths

variable {bound : Nat}

/-- The length of a literal, by its characters. -/
theorem length_ofList_le {chars : List Char} (few : Nat.ble chars.length bound = true) :
    (String.ofList chars).length ≤ bound := by
  rw [String.length_ofList]
  exact Nat.le_of_ble_eq_true few

/-- The length of a literal with a field filled in. -/
theorem length_formatField_le {text field value : List Char}
    (few : Nat.ble (fillField field value 0 text).length bound = true) :
    (formatField (String.ofList text) (String.ofList field) (String.ofList value)).length ≤
      bound := by
  rw [formatField, String.toList_ofList, String.toList_ofList, String.toList_ofList]
  exact length_ofList_le few

end Lengths

set_option maxRecDepth 4000 in
theorem tg_isShort {language : Language} {key : StringKey} (known : key ∈ answerKeys) :
    IsShort (tg language key) := by
  cases language <;> simp only [answerKeys, List.mem_cons, List.not_mem_nil, or_false] at known <;>
    rcases known with rfl | rfl | rfl | rfl | rfl | rfl | rfl | rfl | rfl | rfl | rfl | rfl |
      rfl | rfl | rfl | rfl | rfl | rfl | rfl | rfl | rfl | rfl | rfl <;>
    exact length_ofList_le rfl

set_option maxRecDepth 4000 in
/-- The strings that name a status are short with every status. -/
theorem formatField_isShort (language : Language) (targetStatus : IncidentStatus) {key : StringKey}
    (known : key ∈ [.reasonPrompt, .incidentAlreadyApplied, .incidentStatusChanged]) :
    IsShort (formatField (tg language key) "label" (tg language (statusLabelKey targetStatus))) := by
  simp only [List.mem_cons, List.not_mem_nil, or_false] at known
  rcases known with rfl | rfl | rfl <;> cases language <;> cases targetStatus <;>
    exact length_formatField_le rfl

section Answers

variable {settings : RouterSettings} {handling : Handling}

theorem formatTransitionOutcome_isShort (language : Language)
    (outcome : Incidents.TransitionOutcome) (targetStatus : IncidentStatus) :
    IsShort (formatTransitionOutcome language outcome targetStatus) := by
  unfold formatTransitionOutcome
  dsimp only
  split
  · split
    · exact formatField_isShort language targetStatus (by simp)
    · exact formatField_isShort language targetStatus (by simp)
  split
  · exact tg_isShort (by decide)
  split
  · exact tg_isShort (by decide)
  split
  · exact tg_isShort (by decide)
  split <;> exact tg_isShort (by decide)

theorem formatBlockRejection_isShort (language : Language)
    (reason : IpBlocks.BlockTargetRejectionReason) :
    IsShort (formatBlockRejection language reason) := by
  cases reason <;> exact tg_isShort (by decide)

theorem formatBlockDecisionOutcome_isShort (language : Language)
    (status : IpBlocks.DecideIpBlockStatus) :
    IsShort (formatBlockDecisionOutcome language status) := by
  cases status <;> exact tg_isShort (by decide)

theorem precheckTransition_isShort {store : Store} {language : Language} {incidentId : Uuid}
    {targetStatus : IncidentStatus} {expectedVersion : Nat} {error : String}
    (refused : precheckTransition store language incidentId targetStatus expectedVersion =
      some error) : IsShort error := by
  unfold precheckTransition at refused
  split at refused
  · exact Option.some.inj refused ▸ tg_isShort (by decide)
  split at refused
  · exact Option.some.inj refused ▸ tg_isShort (by decide)
  split at refused
  · exact Option.some.inj refused ▸ tg_isShort (by decide)
  · cases refused

theorem handleProposeBlock_isShort (store : Store) (query : TelegramCallbackQuery)
    (senderId : Int) (client : Option Language) (incidentId : Uuid) :
    IsShort (handleProposeBlock settings handling store query senderId client incidentId).2.text := by
  unfold handleProposeBlock
  dsimp only
  split
  · exact tg_isShort (by decide)
  split
  · exact tg_isShort (by decide)
  split
  · exact tg_isShort (by decide)
  split
  · exact tg_isShort (by decide)
  split
  · exact tg_isShort (by decide)
  · exact tg_isShort (by decide)
  · split
    · exact tg_isShort (by decide)
    · exact formatBlockRejection_isShort _ _
  · exact tg_isShort (by decide)
  · dsimp only
    split <;> exact tg_isShort (by decide)

theorem handleDecideBlock_isShort (store : Store) (senderId : Int) (client : Option Language)
    (planId : Uuid) (approve : Bool) :
    IsShort (handleDecideBlock settings handling store senderId client planId approve).2.text := by
  unfold handleDecideBlock
  dsimp only
  split
  · exact tg_isShort (by decide)
  split
  · exact tg_isShort (by decide)
  split
  · exact tg_isShort (by decide)
  · exact formatBlockDecisionOutcome_isShort _ _

theorem handleIncidentAction_isShort (store : Store) (query : TelegramCallbackQuery)
    (senderId : Int) (client : Option Language) (incidentId : Uuid)
    (targetStatus : IncidentStatus) (expectedVersion : Nat) :
    IsShort (handleIncidentAction settings handling store query senderId client incidentId
      targetStatus expectedVersion).2.text := by
  unfold handleIncidentAction
  split
  · exact tg_isShort (by decide)
  dsimp only
  split
  · exact tg_isShort (by decide)
  split
  · exact formatTransitionOutcome_isShort _ _ _
  split
  next refused => exact precheckTransition_isShort refused
  · exact formatField_isShort _ _ (by simp)

/-- **Every answer to a press is short enough for the provider.** -/
theorem handleCallbackQuery_isShort (bot : Bot) (query : TelegramCallbackQuery) :
    IsShort (handleCallbackQuery settings handling bot query).2.text := by
  unfold handleCallbackQuery
  dsimp only
  split
  · split
    · exact tg_isShort (by decide)
    split
    · exact tg_isShort (by decide)
    split
    · exact tg_isShort (by decide)
    · unfold answerPress
      dsimp only
      split
      · exact handleProposeBlock_isShort _ _ _ _ _
      · exact handleDecideBlock_isShort _ _ _ _ _
      · exact handleIncidentAction_isShort _ _ _ _ _ _ _
  · exact tg_isShort (by decide)

end Answers

/-! ## Handling leaves the offset alone -/

section Offsets

variable {settings : RouterSettings} {handling : Handling}

theorem answerMessage_nextUpdateId (store : Store) (updateId : Int) (sender : TelegramSender)
    (text : String) :
    (answerMessage settings handling store updateId sender text).1.nextUpdateId =
      store.nextUpdateId := by
  unfold answerMessage
  dsimp only
  split
  · rfl
  split
  · unfold answerCommand
    dsimp only
    split
    · rfl
    split
    · unfold setLanguage
      dsimp only
      split
      · rfl
      · split <;> rfl
    · split <;> rfl
  · unfold answerReason
    split
    · rfl
    · rfl
    · dsimp only
      split <;> rfl

theorem answerPress_nextUpdateId (store : Store) (query : TelegramCallbackQuery)
    (sender : TelegramSender) (action : CallbackAction) :
    (answerPress settings handling store query sender action).1.nextUpdateId =
      store.nextUpdateId := by
  unfold answerPress
  dsimp only
  split
  · unfold handleProposeBlock
    dsimp only
    repeat' split
    all_goals rfl
  · unfold handleDecideBlock
    dsimp only
    repeat' split
    all_goals rfl
  · unfold handleIncidentAction
    dsimp only
    repeat' split
    all_goals rfl

theorem handle_nextUpdateId (bot : Bot) (updateId : Int) (message : TelegramMessage) :
    (handle settings handling bot updateId message).1.store.nextUpdateId =
      bot.store.nextUpdateId := by
  unfold handle
  split
  · split
    · rfl
    split
    · rfl
    · exact answerMessage_nextUpdateId _ _ _ _
  · rfl

theorem handleCallbackQuery_nextUpdateId (bot : Bot) (query : TelegramCallbackQuery) :
    (handleCallbackQuery settings handling bot query).1.store.nextUpdateId =
      bot.store.nextUpdateId := by
  unfold handleCallbackQuery
  dsimp only
  split
  · split
    · rfl
    split
    · rfl
    split
    · rfl
    · exact answerPress_nextUpdateId _ _ _ _
  · rfl

theorem handleUpdate_nextUpdateId (bot : Bot) (update : TelegramUpdate) :
    (handleUpdate settings handling bot update).bot.store.nextUpdateId =
      bot.store.nextUpdateId := by
  unfold handleUpdate
  split
  next query _ =>
    rw [← handleCallbackQuery_nextUpdateId bot query]
    unfold handleCallbackUpdate
    dsimp only
    repeat' split
    all_goals rfl
  · rfl
  next message _ _ =>
    have same : (handle settings handling bot update.updateId message).1.store.nextUpdateId =
        bot.store.nextUpdateId := handle_nextUpdateId bot update.updateId message
    split <;> simp_all

end Offsets

end WolandGuard.Telegram
