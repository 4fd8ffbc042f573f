import WolandGuard.Incidents.Transactions
import WolandGuard.Telegram.Poller

/-!
# What handling an update writes

The writes of one update to the database, without the texts of the answers: the
directory, the transition that is asked for, the slot of a pending action, and
the plans. Handling an update leaves exactly the store with these writes
(`handleUpdate_store`).
-/

set_option autoImplicit false

namespace WolandGuard.Telegram

open Foundations Incidents IpBlocks

/-! ## Writes -/

/-- The writes of handling one update. A slot is deleted or filled. -/
structure UpdateWrites where
  directory : Directory
  request : Option TransitionRequest
  slot : Option (Int × Option TelegramPendingAction)
  plans : List IpBlockPlan

/-- Nothing is written but the directory. -/
def UpdateWrites.only (store : Store) (directory : Directory) : UpdateWrites :=
  ⟨directory, none, none, store.plans⟩

/-- The tables after the transition that is asked for. -/
def tablesAfter (handling : Handling) (tables : Database) : Option TransitionRequest → Database
  | none => tables
  | some request => (transitionIncident handling.historyId handling.now tables request).1

/-- The pending actions after a write to a slot. -/
def slotsAfter (rows : List TelegramPendingAction) :
    Option (Int × Option TelegramPendingAction) → List TelegramPendingAction
  | none => rows
  | some (telegramUserId, none) => rows.filter (·.telegramUserId ≠ telegramUserId)
  | some (_, some action) => putRow TelegramPendingAction.telegramUserId action rows

/-- The store with the writes. -/
def Store.after (store : Store) (handling : Handling) (writes : UpdateWrites) : Store :=
  { store with
    tables := tablesAfter handling store.tables writes.request
    directory := writes.directory
    pendingActions := slotsAfter store.pendingActions writes.slot
    plans := writes.plans }

theorem Store.after_only (store : Store) (handling : Handling) (directory : Directory) :
    store.after handling (.only store directory) = { store with directory := directory } := rfl

section Writes

variable (settings : RouterSettings) (handling : Handling)

/-- The directory after a command. -/
def commandDirectory (directory : Directory) (telegramUserId : Int) (command text : String) :
    Directory :=
  if command = "/lang" then
    (((parseCommandArgument settings.unicode text).bind fun argument =>
      supportedLanguage (casefold argument)).bind fun chosen =>
        directory.setTelegramLanguage telegramUserId chosen).getD directory
  else directory

/-- The writes of an admitted message. -/
def messageWrites (store : Store) (updateId : Int) (sender : TelegramSender) (text : String) :
    UpdateWrites :=
  match store.directory.authenticateTelegramUser handling.now sender.id with
  | none => .only store store.directory
  | some (principal, directory) =>
      match parseCommand settings.unicode text with
      | some command =>
          { UpdateWrites.only store (commandDirectory settings directory sender.id command text) with
            slot := some (sender.id, none) }
      | none =>
          match lookupPendingAction store sender.id handling.now with
          | .absent => .only store directory
          | .expired => { UpdateWrites.only store directory with slot := some (sender.id, none) }
          | .live action =>
              { UpdateWrites.only store directory with
                request :=
                  match normalizeReason settings.unicode text with
                  | .error _ => none
                  | .ok reason => some (reasonRequest updateId principal action reason)
                slot := some (sender.id, none) }

/-- The pending action that a press of a terminal status button opens. -/
def openedAction (telegramUserId : Int) (incidentId : Uuid) (targetStatus : IncidentStatus)
    (expectedVersion : Nat) : TelegramPendingAction where
  telegramUserId := telegramUserId
  incidentId := incidentId
  targetStatus := targetStatus
  expectedVersion := expectedVersion
  createdAt := handling.now
  expiresAt := handling.now + seconds settings.pendingActionTtlSeconds

/-- The writes of an admitted press. -/
def pressWrites (store : Store) (query : TelegramCallbackQuery) (telegramUserId : Int)
    (action : CallbackAction) : UpdateWrites :=
  match store.directory.authenticateTelegramUser handling.now telegramUserId with
  | none => .only store store.directory
  | some (principal, directory) =>
      match action with
      | .proposeBlock incidentId =>
          if !settings.ipBlocks.enabled || query.message.isNone then .only store store.directory
          else if !roleHasPermission principal.role .proposeIpBlock then .only store directory
          else
            { UpdateWrites.only store directory with
              plans := (proposeIpBlock settings.ipBlocks
                ⟨principal, incidentId, callbackRequestId query.id, handling.planId, handling.now⟩
                (store.tables.incident? incidentId) store.allowlist store.plans).2 }
      | .decideBlock planId approve =>
          if !settings.ipBlocks.enabled then .only store store.directory
          else if !roleHasPermission principal.role (decisionPermission approve) then
            .only store directory
          else
            { UpdateWrites.only store directory with
              plans := (decideIpBlock settings.ipBlocks.requireSecondOperator store.allowlist
                ⟨principal, planId, approve, handling.now⟩ store.plans).2 }
      | .incidentAction incidentId targetStatus expectedVersion =>
          if !roleHasPermission principal.role .transitionIncidents then .only store directory
          else if targetStatus = .investigating then
            { UpdateWrites.only store directory with
              request := some (transitionRequest principal incidentId targetStatus expectedVersion
                none (callbackIdempotencyKey query.id) (callbackRequestId query.id)) }
          else if (precheckTransition store .ru incidentId targetStatus expectedVersion).isSome then
            .only store directory
          else
            { UpdateWrites.only store directory with
              slot := some (telegramUserId, some (openedAction settings handling telegramUserId
                incidentId targetStatus expectedVersion)) }

/-- An update that reaches the database: the sender of a message with its text,
or of a press with its action. -/
inductive Admitted where
  | message (updateId : Int) (sender : TelegramSender) (text : String)
  | press (query : TelegramCallbackQuery) (sender : TelegramSender) (action : CallbackAction)

/-- The update as it reaches the rate limiter. -/
def addressed (update : TelegramUpdate) : Option Admitted :=
  match update.callbackQuery, update.message with
  | some query, _ =>
      match query.sender, query.data with
      | some sender, some data =>
          if sender.isBot then none
          else
            match parseCallbackData settings.unicode data with
            | .error _ => none
            | .ok action => some (.press query sender action)
      | _, _ => none
  | none, some message =>
      match message.sender, message.text with
      | some sender, some text =>
          if sender.isBot || !message.isPrivate then none
          else some (.message update.updateId sender text)
      | _, _ => none
  | none, none => none

def Admitted.senderId : Admitted → Int
  | .message _ sender _ => sender.id
  | .press _ sender _ => sender.id

/-- The limiter after an update. -/
def limiterAfter (limiter : FixedWindowRateLimiter Int) (update : TelegramUpdate) :
    FixedWindowRateLimiter Int :=
  match addressed settings update with
  | none => limiter
  | some admitted => (limiter.consume settings.limits handling.monotonic admitted.senderId).1

/-- The update as it reaches the database. -/
def admitted (limiter : FixedWindowRateLimiter Int) (update : TelegramUpdate) : Option Admitted :=
  (addressed settings update).filter fun admitted =>
    (limiter.consume settings.limits handling.monotonic admitted.senderId).2.isNone

/-- The writes of an update that reaches the database. -/
def admittedWrites (store : Store) : Admitted → UpdateWrites
  | .message updateId sender text => messageWrites settings handling store updateId sender text
  | .press query sender action => pressWrites settings handling store query sender.id action

/-- The store after an update. -/
def storeAfter (bot : Bot) (update : TelegramUpdate) : Store :=
  match admitted settings handling bot.limiter update with
  | none => bot.store
  | some reached => bot.store.after handling (admittedWrites settings handling bot.store reached)

end Writes

/-! ## The transitions that are asked for -/

section Submitted

variable {settings : RouterSettings} {handling : Handling} {store : Store}
variable {request : TransitionRequest}

/-- **Whatever the bot asks for is a request of its two kinds.** -/
theorem submitted_of_admittedWrites {reached : Admitted}
    (asked : (admittedWrites settings handling store reached).request = some request) :
    Submitted settings.unicode request := by
  cases reached with
  | message updateId sender text =>
      simp only [admittedWrites, messageWrites] at asked
      split at asked
      · cases asked
      split at asked
      · cases asked
      split at asked
      · cases asked
      · cases asked
      · dsimp only at asked
        split at asked
        · cases asked
        next reason valid =>
          obtain rfl := Option.some.inj asked
          exact .reason valid
  | press query sender action =>
      simp only [admittedWrites, pressWrites] at asked
      split at asked
      · cases asked
      cases action with
      | proposeBlock incidentId =>
          dsimp only at asked
          split at asked
          · cases asked
          · split at asked <;> cases asked
      | decideBlock planId approve =>
          dsimp only at asked
          split at asked
          · cases asked
          · split at asked <;> cases asked
      | incidentAction incidentId targetStatus expectedVersion =>
          dsimp only at asked
          split at asked
          · cases asked
          split at asked
          next direct =>
            obtain rfl := Option.some.inj asked
            subst direct
            exact .press
          · split at asked <;> cases asked

end Submitted

/-! ## Handling writes just this -/

section Handled

variable {settings : RouterSettings} {handling : Handling}

theorem setLanguage_store (store : Store) (senderId : Int) (argument : Option String)
    (current : Language) :
    (setLanguage store senderId argument current).1 =
      { store with
        directory := ((argument.bind fun text => supportedLanguage (casefold text)).bind
          fun chosen => store.directory.setTelegramLanguage senderId chosen).getD
            store.directory } := by
  unfold setLanguage
  split
  next unknown => rw [unknown]; rfl
  next chosen known =>
    rw [known]
    split
    next unlinked => simp [unlinked]
    next directory linked => simp [linked]

theorem answerCommand_store (store : Store) (principal : OperatorPrincipal) (senderId : Int)
    (language : Language) (command text : String) :
    (answerCommand settings store principal senderId language command text).1 =
      { deletePendingAction store senderId with
        directory := commandDirectory settings store.directory senderId command text } := by
  unfold answerCommand commandDirectory
  dsimp only
  split
  next help =>
    subst help
    rw [if_neg (by decide)]
    rfl
  · split
    · rw [setLanguage_store]
      rfl
    · split <;> rfl

theorem answerMessage_store (store : Store) (updateId : Int) (sender : TelegramSender)
    (text : String) :
    (answerMessage settings handling store updateId sender text).1 =
      store.after handling (messageWrites settings handling store updateId sender text) := by
  unfold answerMessage messageWrites
  dsimp only
  cases store.directory.authenticateTelegramUser handling.now sender.id with
  | none => rfl
  | some linked =>
      obtain ⟨principal, directory⟩ := linked
      dsimp only
      cases parseCommand settings.unicode text with
      | some command =>
          dsimp only
          rw [answerCommand_store]
          rfl
      | none =>
          dsimp only
          unfold answerReason
          cases found : lookupPendingAction store sender.id handling.now with
          | absent =>
              have same : lookupPendingAction { store with directory := directory } sender.id
                handling.now = .absent := found
              rw [same]
              rfl
          | expired =>
              have same : lookupPendingAction { store with directory := directory } sender.id
                handling.now = .expired := found
              rw [same]
              rfl
          | live action =>
              have same : lookupPendingAction { store with directory := directory } sender.id
                handling.now = .live action := found
              rw [same]
              cases normalizeReason settings.unicode text with
              | error _ => rfl
              | ok reason => rfl

/-- Whether a status button is refused does not depend on the language. -/
theorem precheckTransition_isSome (store : Store) (language : Language) (incidentId : Uuid)
    (targetStatus : IncidentStatus) (expectedVersion : Nat) :
    (precheckTransition store language incidentId targetStatus expectedVersion).isSome =
      (precheckTransition store .ru incidentId targetStatus expectedVersion).isSome := by
  unfold precheckTransition
  split
  · rfl
  · split
    · rfl
    · split <;> rfl

theorem handleProposeBlock_store (store : Store) (query : TelegramCallbackQuery) (senderId : Int)
    (client : Option Language) (incidentId : Uuid) :
    (handleProposeBlock settings handling store query senderId client incidentId).1 =
      store.after handling
        (pressWrites settings handling store query senderId (.proposeBlock incidentId)) := by
  unfold handleProposeBlock pressWrites
  dsimp only
  cases enabled : settings.ipBlocks.enabled with
  | false => cases store.directory.authenticateTelegramUser handling.now senderId <;> rfl
  | true =>
      cases present : query.message.isNone with
      | true => cases store.directory.authenticateTelegramUser handling.now senderId <;> rfl
      | false =>
          cases store.directory.authenticateTelegramUser handling.now senderId with
          | none => rfl
          | some authenticated =>
              obtain ⟨principal, directory⟩ := authenticated
              dsimp only
              cases roleHasPermission principal.role .proposeIpBlock with
              | false => rfl
              | true =>
                  simp only [Bool.not_true, Bool.or_false, Bool.false_eq_true, if_false]
                  repeat' split
                  all_goals rfl

theorem handleDecideBlock_store (store : Store) (query : TelegramCallbackQuery) (senderId : Int)
    (client : Option Language) (planId : Uuid) (approve : Bool) :
    (handleDecideBlock settings handling store senderId client planId approve).1 =
      store.after handling
        (pressWrites settings handling store query senderId (.decideBlock planId approve)) := by
  unfold handleDecideBlock pressWrites
  dsimp only
  cases store.directory.authenticateTelegramUser handling.now senderId with
  | none => split <;> rfl
  | some authenticated =>
      obtain ⟨principal, directory⟩ := authenticated
      dsimp only
      split
      · rfl
      split <;> rfl

theorem handleIncidentAction_store (store : Store) (query : TelegramCallbackQuery)
    (senderId : Int) (client : Option Language) (incidentId : Uuid)
    (targetStatus : IncidentStatus) (expectedVersion : Nat) :
    (handleIncidentAction settings handling store query senderId client incidentId targetStatus
        expectedVersion).1 =
      store.after handling (pressWrites settings handling store query senderId
        (.incidentAction incidentId targetStatus expectedVersion)) := by
  unfold handleIncidentAction pressWrites
  cases store.directory.authenticateTelegramUser handling.now senderId with
  | none => rfl
  | some authenticated =>
      obtain ⟨principal, directory⟩ := authenticated
      dsimp only
      split
      · rfl
      split
      · rfl
      · have same : ∀ language, (precheckTransition { store with directory := directory } language
            incidentId targetStatus expectedVersion).isSome =
              (precheckTransition store .ru incidentId targetStatus expectedVersion).isSome :=
          fun language => precheckTransition_isSome { store with directory := directory } language
            incidentId targetStatus expectedVersion
        split
        next error refused =>
          rw [if_pos (by rw [← same, refused]; rfl)]
          rfl
        next accepted =>
          rw [if_neg (by rw [← same, accepted]; decide)]
          rfl

theorem answerPress_store (store : Store) (query : TelegramCallbackQuery)
    (sender : TelegramSender) (action : CallbackAction) :
    (answerPress settings handling store query sender action).1 =
      store.after handling (pressWrites settings handling store query sender.id action) := by
  cases action with
  | proposeBlock incidentId => exact handleProposeBlock_store store query sender.id _ incidentId
  | decideBlock planId approve =>
      exact handleDecideBlock_store store query sender.id _ planId approve
  | incidentAction incidentId targetStatus expectedVersion =>
      exact handleIncidentAction_store store query sender.id _ incidentId targetStatus
        expectedVersion

/-- **Handling an update writes what it is said to write.** -/
theorem handleUpdate_bot (bot : Bot) (update : TelegramUpdate) :
    (handleUpdate settings handling bot update).bot =
      ⟨limiterAfter settings handling bot.limiter update,
        storeAfter settings handling bot update⟩ := by
  unfold handleUpdate limiterAfter storeAfter admitted addressed
  cases update.callbackQuery with
  | some query =>
      have same : (handleCallbackUpdate settings handling bot query).bot =
          (handleCallbackQuery settings handling bot query).1 := by
        unfold handleCallbackUpdate
        dsimp only
        repeat' split
        all_goals rfl
      dsimp only
      rw [same]
      unfold handleCallbackQuery
      dsimp only
      cases query.sender with
      | none => rfl
      | some sender =>
          cases query.data with
          | none => rfl
          | some data =>
              dsimp only
              cases sender.isBot with
              | true => rfl
              | false =>
                  cases parseCallbackData settings.unicode data with
                  | error _ => rfl
                  | ok action =>
                      obtain ⟨limiter, delay, consumed⟩ : ∃ limiter delay, bot.limiter.consume
                        settings.limits handling.monotonic sender.id = (limiter, delay) :=
                          ⟨_, _, rfl⟩
                      simp only [Bool.false_eq_true, if_false, Option.filter, Admitted.senderId,
                        consumed]
                      cases delay with
                      | none =>
                          exact congrArg (Bot.mk limiter)
                            (answerPress_store bot.store query sender action)
                      | some delay => rfl
  | none =>
      cases update.message with
      | none => rfl
      | some message =>
          dsimp only
          refine Eq.trans (b := (handle settings handling bot update.updateId message).1) ?_ ?_
          · generalize handle settings handling bot update.updateId message = handled
            obtain ⟨left, reply⟩ := handled
            cases reply with
            | none => rfl
            | some text => rfl
          unfold handle
          cases message.sender with
          | none => rfl
          | some sender =>
              cases message.text with
              | none => rfl
              | some text =>
                  dsimp only
                  cases sender.isBot || !message.isPrivate with
                  | true => rfl
                  | false =>
                      obtain ⟨limiter, delay, consumed⟩ : ∃ limiter delay, bot.limiter.consume
                        settings.limits handling.monotonic sender.id = (limiter, delay) :=
                          ⟨_, _, rfl⟩
                      simp only [Bool.false_eq_true, if_false, Option.filter, Admitted.senderId,
                        consumed]
                      cases delay with
                      | none =>
                          exact congrArg (Bot.mk limiter)
                            (answerMessage_store bot.store update.updateId sender text)
                      | some delay => rfl

end Handled

end WolandGuard.Telegram
