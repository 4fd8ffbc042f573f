import WolandGuard.Data.RateLimit
import WolandGuard.Telegram.Formatting
import WolandGuard.Telegram.Identity
import WolandGuard.Telegram.Updates

/-!
# The command router

`telegram_bot/router.py` and `telegram_bot/pending_actions.py`: what one inbound
message or button press does to the database and what is answered. Everything
after the rate limiter happens in one transaction.
-/

set_option autoImplicit false

namespace WolandGuard.Telegram

open Foundations Incidents IpBlocks

/-! ## State -/

structure TelegramPendingAction where
  telegramUserId : Int
  incidentId : Uuid
  targetStatus : IncidentStatus
  expectedVersion : Nat
  createdAt : Int
  expiresAt : Int
  deriving DecidableEq, Repr

/-- The tables that the bot reads and writes. -/
structure Store where
  tables : Database
  servers : List Server
  directory : Directory
  pendingActions : List TelegramPendingAction
  plans : List IpBlockPlan
  allowlist : List IpBlockAllowlistEntry
  nextUpdateId : Option Int

/-- The bot process and its database. Requests are limited by the id of the
sender. -/
structure Bot where
  limiter : FixedWindowRateLimiter Int
  store : Store

/-- The tables of a new installation. -/
def Store.empty : Store where
  tables := .empty
  servers := []
  directory := ⟨[], []⟩
  pendingActions := []
  plans := []
  allowlist := []
  nextUpdateId := none

/-- A bot process that has just started. -/
def Bot.started (store : Store) : Bot := ⟨.fresh, store⟩

structure RouterSettings where
  unicode : UnicodeData
  nameOrder : String → String → Ordering
  limits : RateLimits
  resultLimit : Nat
  pendingActionTtlSeconds : Nat
  ipBlocks : IpBlockRuntimeSettings
  resultLimit_range : 1 ≤ resultLimit ∧ resultLimit ≤ queryPageSize
  pendingActionTtlSeconds_pos : 1 ≤ pendingActionTtlSeconds

/-- The defaults of the `telegram_bot_*` settings, for an installation whose
texts are ASCII. -/
def RouterSettings.defaults (ipBlocks : IpBlockRuntimeSettings) : RouterSettings where
  unicode := .ascii
  nameOrder := compare
  limits := ⟨20, 60⟩
  resultLimit := 10
  pendingActionTtlSeconds := 300
  ipBlocks := ipBlocks
  resultLimit_range := by decide
  pendingActionTtlSeconds_pos := by decide

/-- The clock readings and random ids of handling one update, and whether the
provider accepts the answer to a press. -/
structure Handling where
  now : Int
  monotonic : Rat
  historyId : Uuid
  planId : Uuid
  answered : Bool

/-- `CallbackAnswer`. -/
structure CallbackAnswer where
  text : String
  showAlert : Bool
  followUpText : Option String
  followUpKeyboard : Option (List (List KeyboardButton))
  deriving DecidableEq, Repr

/-- An answer without a follow-up message. -/
def CallbackAnswer.plain (text : String) (showAlert : Bool) : CallbackAnswer :=
  ⟨text, showAlert, none, none⟩

/-! ## Pending actions -/

/-- `store_pending_action`: one slot for each account. -/
def storePendingAction (store : Store) (ttlSeconds : Nat) (now : Int) (telegramUserId : Int)
    (incidentId : Uuid) (targetStatus : IncidentStatus) (expectedVersion : Nat) : Store :=
  { store with
    pendingActions := putRow TelegramPendingAction.telegramUserId
      { telegramUserId := telegramUserId
        incidentId := incidentId
        targetStatus := targetStatus
        expectedVersion := expectedVersion
        createdAt := now
        expiresAt := now + seconds ttlSeconds } store.pendingActions }

/-- `delete_pending_action`. -/
def deletePendingAction (store : Store) (telegramUserId : Int) : Store :=
  { store with
    pendingActions := store.pendingActions.filter (·.telegramUserId ≠ telegramUserId) }

/-- The stored row of an account, live or expired. -/
def pendingAction? (store : Store) (telegramUserId : Int) : Option TelegramPendingAction :=
  rowOf TelegramPendingAction.telegramUserId store.pendingActions telegramUserId

/-- What `load_pending_action` finds. -/
inductive PendingActionLookup where
  | absent
  | expired
  | live (action : TelegramPendingAction)
  deriving DecidableEq, Repr

/-- `load_pending_action`, without the deletion of an expired row. -/
def lookupPendingAction (store : Store) (telegramUserId : Int) (now : Int) :
    PendingActionLookup :=
  match pendingAction? store telegramUserId with
  | none => .absent
  | some stored => if stored.expiresAt ≤ now then .expired else .live stored

/-! ## Commands -/

/-- `_parse_command`. -/
def parseCommand (unicode : UnicodeData) (text : String) : Option String :=
  let stripped := strip unicode text.toList
  if stripped.head? ≠ some '/' then none
  else
    let token := (stripped.takeWhile (!unicode.isSpace ·)).takeWhile (· ≠ '@')
    let lowered := unicode.lower (String.ofList token)
    let name := lowered.toList.drop 1
    if 32 < lowered.length ∨ name = [] ∨ !name.all unicode.isAlpha then none else some lowered

/-- `_parse_command_argument`. -/
def parseCommandArgument (unicode : UnicodeData) (text : String) : Option String :=
  let afterCommand := (strip unicode text.toList).dropWhile (!unicode.isSpace ·)
  let argument := (afterCommand.dropWhile unicode.isSpace).takeWhile (!unicode.isSpace ·)
  if argument = [] ∨ 16 < argument.length then none else some (String.ofList argument)

section Handlers

variable (settings : RouterSettings) (handling : Handling)

/-- `_reply_language`. -/
def replyLanguage (store : Store) (senderId : Int) (client : Option Language) : Language :=
  (store.directory.storedTelegramLanguage senderId).getD (client.getD defaultLanguage)

/-- `_set_language`. -/
def setLanguage (store : Store) (senderId : Int) (argument : Option String) (current : Language) :
    Store × String :=
  match argument.bind fun text => supportedLanguage (casefold text) with
  | none => (store, tg current .languageUsage)
  | some chosen =>
      match store.directory.setTelegramLanguage senderId chosen with
      | none => (store, tg current .languageUsage)
      | some directory => ({ store with directory := directory }, tg chosen .languageChanged)

/-- `_incidents`. -/
def incidentsReply (store : Store) (language : Language) (wanted : Incident → Bool)
    (emptyText : String) : String :=
  let page := listDashboardIncidents store.tables store.servers wanted
  let shown := page.items.take settings.resultLimit
  formatIncidents settings.unicode language shown (isTruncated page shown) emptyText

/-- `_dispatch`. -/
def dispatch (store : Store) (command : String) (language : Language) : String :=
  if command = "/status" then
    formatOverview language (getDashboardOverview store.tables store.servers)
  else if command = "/servers" then
    let page := listServers settings.nameOrder store.tables store.servers
    let shown := page.items.take settings.resultLimit
    formatServers settings.unicode language shown (isTruncated page shown)
  else if command = "/incidents" then
    incidentsReply settings store language (fun _ => true) (tg language .incidentsEmpty)
  else if command = "/critical" then
    incidentsReply settings store language
      (fun incident => incident.status.isActive && incident.severity = .critical)
      (tg language .incidentsEmptyCritical)
  else tg language .unknownCommand

/-! ## Transitions -/

/-- The request of `_apply_transition`. -/
def transitionRequest (principal : OperatorPrincipal) (incidentId : Uuid)
    (targetStatus : IncidentStatus) (expectedVersion : Nat) (reason : Option String)
    (idempotencyKey requestId : String) : TransitionRequest :=
  let normalized : NormalizedTransition := ⟨targetStatus, expectedVersion, reason⟩
  { actor := principal
    incidentId := incidentId
    transition := normalized
    idempotencyKey := idempotencyKey
    canonicalRequestHash := canonicalTransitionHash incidentId normalized
    requestId := requestId }

/-- `_apply_transition`. -/
def applyTransition (store : Store) (language : Language) (request : TransitionRequest) :
    Store × String :=
  let (tables, outcome) :=
    transitionIncident handling.historyId handling.now store.tables request
  ({ store with tables := tables },
    formatTransitionOutcome language outcome request.transition.targetStatus)

/-- `_precheck_transition`. -/
def precheckTransition (store : Store) (language : Language) (incidentId : Uuid)
    (targetStatus : IncidentStatus) (expectedVersion : Nat) : Option String :=
  match store.tables.incident? incidentId with
  | none => some (tg language .incidentNotFound)
  | some incident =>
      if incident.lockVersion ≠ expectedVersion then some (tg language .incidentStaleVersion)
      else if !isTransitionAllowed incident.status targetStatus then
        some (tg language .incidentTransitionNotAllowed)
      else none

/-! ## Messages -/

/-- A message that is a command. -/
def answerCommand (store : Store) (principal : OperatorPrincipal) (senderId : Int)
    (language : Language) (command text : String) : Store × Option String :=
  let store := deletePendingAction store senderId
  if command = "/help" then (store, some (tg language .help))
  else if command = "/lang" then
    let (store, reply) :=
      setLanguage store senderId (parseCommandArgument settings.unicode text) language
    (store, some reply)
  else if !roleHasPermission principal.role .viewIncidents then
    (store, some (tg language .forbidden))
  else (store, some (dispatch settings store command language))

/-- The request that a reason makes of a pending action. -/
def reasonRequest (updateId : Int) (principal : OperatorPrincipal)
    (action : TelegramPendingAction) (reason : String) : TransitionRequest :=
  transitionRequest principal action.incidentId action.targetStatus action.expectedVersion
    (some reason) ("tg-msg-" ++ toString updateId) ("telegram-msg-" ++ toString updateId)

/-- A message that is no command: a reason, if one is awaited. -/
def answerReason (store : Store) (updateId : Int) (principal : OperatorPrincipal)
    (senderId : Int) (language : Language) (text : String) : Store × Option String :=
  match lookupPendingAction store senderId handling.now with
  | .absent => (store, none)
  | .expired => (deletePendingAction store senderId, some (tg language .reasonExpired))
  | .live action =>
      let store := deletePendingAction store senderId
      match normalizeReason settings.unicode text with
      | .error _ => (store, some (tg language .reasonInvalid))
      | .ok reason =>
          let (store, reply) :=
            applyTransition handling store language (reasonRequest updateId principal action reason)
          (store, some reply)

/-- The transaction of a message, for a sender that the limiter has
admitted. -/
def answerMessage (store : Store) (updateId : Int) (sender : TelegramSender) (text : String) :
    Store × Option String :=
  let client := languageFromClientTag sender.languageCode
  match store.directory.authenticateTelegramUser handling.now sender.id with
  | none =>
      (store, some (formatField (tg (client.getD defaultLanguage) .unlinked) "telegram_user_id"
        (toString sender.id)))
  | some (principal, directory) =>
      let store := { store with directory := directory }
      let language := replyLanguage store sender.id client
      match parseCommand settings.unicode text with
      | some command => answerCommand settings store principal sender.id language command text
      | none => answerReason settings handling store updateId principal sender.id language text

/-- `handle`. -/
def handle (bot : Bot) (updateId : Int) (message : TelegramMessage) : Bot × Option String :=
  match message.sender, message.text with
  | some sender, some text =>
      if sender.isBot || !message.isPrivate then (bot, none)
      else
        match bot.limiter.consume settings.limits handling.monotonic sender.id with
        | (limiter, some _) => ({ bot with limiter := limiter }, none)
        | (limiter, none) =>
            let (store, reply) := answerMessage settings handling bot.store updateId sender text
            (⟨limiter, store⟩, reply)
  | _, _ => (bot, none)

/-! ## Button presses -/

/-- `_callback_idempotency_key`. -/
def callbackIdempotencyKey (callbackQueryId : String) : String :=
  "tg-cb-" ++ sha256Hex callbackQueryId

/-- `_callback_request_id`. -/
def callbackRequestId (callbackQueryId : String) : String := sha256Hex callbackQueryId

/-- `_handle_propose_block`. -/
def handleProposeBlock (store : Store) (query : TelegramCallbackQuery) (senderId : Int)
    (client : Option Language) (incidentId : Uuid) : Store × CallbackAnswer :=
  let earlyLanguage := client.getD defaultLanguage
  if !settings.ipBlocks.enabled then
    (store, .plain (tg earlyLanguage .ipBlockDisabled) true)
  else if query.message.isNone then
    (store, .plain (tg earlyLanguage .callbackInvalid) true)
  else
    match store.directory.authenticateTelegramUser handling.now senderId with
    | none => (store, .plain (tg earlyLanguage .callbackUnlinked) true)
    | some (principal, directory) =>
        let store := { store with directory := directory }
        let language := replyLanguage store senderId client
        if !roleHasPermission principal.role .proposeIpBlock then
          (store, .plain (tg language .callbackForbidden) true)
        else
          let (result, plans) := proposeIpBlock settings.ipBlocks
            ⟨principal, incidentId, callbackRequestId query.id, handling.planId, handling.now⟩
            (store.tables.incident? incidentId) store.allowlist store.plans
          let store := { store with plans := plans }
          match result.status, result.plan with
          | .incidentNotFound, _ => (store, .plain (tg language .incidentNotFound) true)
          | .noSourceAddress, _ =>
              (store, .plain (tg language .ipBlockNoSourceAddress) true)
          | .rejected, _ =>
              match result.rejectionReason with
              | none => (store, .plain (tg language .callbackInvalid) true)
              | some reason => (store, .plain (formatBlockRejection language reason) true)
          | _, none => (store, .plain (tg language .callbackInvalid) true)
          | status, some plan =>
              (store,
                { text :=
                    if status = .created then tg language .ipBlockProposed
                    else tg language .ipBlockReused
                  showAlert := false
                  followUpText := some (formatBlockProposalMessage language plan)
                  -- the two buttons always fit
                  followUpKeyboard := (buildBlockDecisionKeyboard language plan.id).toOption })

/-- The permission that a decision asks for. -/
def decisionPermission (approve : Bool) : Permission :=
  if approve then .approveIpBlock else .proposeIpBlock

/-- `_handle_decide_block`. -/
def handleDecideBlock (store : Store) (senderId : Int) (client : Option Language)
    (planId : Uuid) (approve : Bool) : Store × CallbackAnswer :=
  let earlyLanguage := client.getD defaultLanguage
  if !settings.ipBlocks.enabled then
    (store, .plain (tg earlyLanguage .ipBlockDisabled) true)
  else
    match store.directory.authenticateTelegramUser handling.now senderId with
    | none => (store, .plain (tg earlyLanguage .callbackUnlinked) true)
    | some (principal, directory) =>
        let store := { store with directory := directory }
        let language := replyLanguage store senderId client
        if !roleHasPermission principal.role (decisionPermission approve) then
          (store, .plain (tg language .callbackForbidden) true)
        else
          let (result, plans) := decideIpBlock settings.ipBlocks.requireSecondOperator
            store.allowlist ⟨principal, planId, approve, handling.now⟩ store.plans
          ({ store with plans := plans },
            .plain (formatBlockDecisionOutcome language result.status)
              (result.status ≠ .approved && result.status ≠ .rejected))

/-- A press of a status button. -/
def handleIncidentAction (store : Store) (query : TelegramCallbackQuery) (senderId : Int)
    (client : Option Language) (incidentId : Uuid) (targetStatus : IncidentStatus)
    (expectedVersion : Nat) : Store × CallbackAnswer :=
  match store.directory.authenticateTelegramUser handling.now senderId with
  | none => (store, .plain (tg (client.getD defaultLanguage) .callbackUnlinked) true)
  | some (principal, directory) =>
      let store := { store with directory := directory }
      let language := replyLanguage store senderId client
      if !roleHasPermission principal.role .transitionIncidents then
        (store, .plain (tg language .callbackForbidden) true)
      else if targetStatus = .investigating then
        let (store, text) := applyTransition handling store language
          (transitionRequest principal incidentId targetStatus expectedVersion none
            (callbackIdempotencyKey query.id) (callbackRequestId query.id))
        (store, .plain text false)
      else
        match precheckTransition store language incidentId targetStatus expectedVersion with
        | some error => (store, .plain error false)
        | none =>
            (storePendingAction store settings.pendingActionTtlSeconds handling.now senderId
                incidentId targetStatus expectedVersion,
              .plain (formatReasonPrompt language targetStatus) true)

/-- The transaction of a press, for a sender that the limiter has admitted. -/
def answerPress (store : Store) (query : TelegramCallbackQuery) (sender : TelegramSender)
    (action : CallbackAction) : Store × CallbackAnswer :=
  let client := languageFromClientTag sender.languageCode
  match action with
  | .proposeBlock incidentId =>
      handleProposeBlock settings handling store query sender.id client incidentId
  | .decideBlock planId approve =>
      handleDecideBlock settings handling store sender.id client planId approve
  | .incidentAction incidentId targetStatus expectedVersion =>
      handleIncidentAction settings handling store query sender.id client incidentId targetStatus
        expectedVersion

/-- `handle_callback_query`. -/
def handleCallbackQuery (bot : Bot) (query : TelegramCallbackQuery) : Bot × CallbackAnswer :=
  let client := query.sender.bind fun sender => languageFromClientTag sender.languageCode
  let earlyLanguage := client.getD defaultLanguage
  let invalid : CallbackAnswer := .plain (tg earlyLanguage .callbackInvalid) true
  match query.sender, query.data with
  | some sender, some data =>
      if sender.isBot then (bot, invalid)
      else
        match parseCallbackData settings.unicode data with
        | .error _ => (bot, invalid)
        | .ok action =>
            match bot.limiter.consume settings.limits handling.monotonic sender.id with
            | (limiter, some _) =>
                ({ bot with limiter := limiter },
                  .plain (tg earlyLanguage .callbackRateLimited) true)
            | (limiter, none) =>
                let (store, answer) := answerPress settings handling bot.store query sender action
                (⟨limiter, store⟩, answer)
  | _, _ => (bot, invalid)

end Handlers

end WolandGuard.Telegram
