import WolandGuard.IpBlocks.Decisions
import WolandGuard.Telegram.Effects

/-!
# What chats may learn about source addresses

A source address stands in the correlation of its incident, in the payloads of
events, in the block plans and in the allowlist. `Store.redacted` forgets all of
these. The bot treats every update on the redacted store as on the store itself,
but for the presses of block buttons by operators who may propose or approve
blocks (`handleUpdate_redacted`). So two histories that differ in addresses alone
tell the same to everybody else (`addresses_stay_with_block_operators`).
-/

set_option autoImplicit false

namespace WolandGuard.Telegram

open Foundations Incidents IpBlocks

/-! ## Redaction -/

def redactedEvent (event : Event) : Event :=
  { event with normalized := { event.normalized with payload := .null } }

def redactedIncident (incident : Incident) : Incident :=
  { incident with correlation := [], correlationHash := "" }

def redactedTables (tables : Database) : Database :=
  { tables with
    events := tables.events.map redactedEvent
    incidents := tables.incidents.map redactedIncident }

/-- The store without the columns that can hold an address. -/
def Store.redacted (store : Store) : Store :=
  { store with
    tables := redactedTables store.tables
    plans := []
    allowlist := [] }

def Bot.redacted (bot : Bot) : Bot := ⟨bot.limiter, bot.store.redacted⟩

theorem redactedIncident_id (incident : Incident) :
    (redactedIncident incident).id = incident.id := rfl

/-- Redacting twice redacts no more. -/
theorem Store.redacted_redacted (store : Store) : store.redacted.redacted = store.redacted := by
  unfold Store.redacted redactedTables
  simp only [List.map_map]
  rfl

/-! ## Queries do not read what is redacted -/

section Queries

variable (tables : Database) (servers : List Server)

theorem incident?_redacted (incidentId : Uuid) :
    (redactedTables tables).incident? incidentId =
      (tables.incident? incidentId).map redactedIncident :=
  rowOf_map redactedIncident_id tables.incidents incidentId

theorem getDashboardOverview_redacted :
    getDashboardOverview (redactedTables tables) servers = getDashboardOverview tables servers := by
  unfold getDashboardOverview redactedTables
  simp only [List.countP_map]
  rfl

theorem listServers_redacted (nameOrder : String → String → Ordering) :
    listServers nameOrder (redactedTables tables) servers = listServers nameOrder tables servers := by
  unfold listServers redactedTables
  simp only [List.countP_map, List.filter_map, List.map_map]
  rfl

/-- The rows of a filter that reads no correlation. -/
theorem listDashboardIncidents_redacted {wanted : Incident → Bool}
    (unread : ∀ incident, wanted (redactedIncident incident) = wanted incident) :
    listDashboardIncidents (redactedTables tables) servers wanted =
      listDashboardIncidents tables servers wanted := by
  have filtered : (redactedTables tables).incidents.filter wanted =
      (tables.incidents.filter wanted).map redactedIncident := by
    unfold redactedTables
    rw [List.filter_map]
    refine congrArg (fun kept => (tables.incidents.filter kept).map redactedIncident) ?_
    funext incident
    exact unread incident
  have sorted : ((tables.incidents.filter wanted).map redactedIncident).insertionSort
      (newestIncidentFirst · ·) =
        ((tables.incidents.filter wanted).insertionSort (newestIncidentFirst · ·)).map
          redactedIncident :=
    (List.map_insertionSort (newestIncidentFirst · ·) (newestIncidentFirst · ·) redactedIncident _
      fun _ _ _ _ => Iff.rfl).symm
  unfold listDashboardIncidents
  rw [filtered, sorted, List.filterMap_map]
  rfl

end Queries

/-! ## Transitions do not read it either -/

theorem write_redacted (tables : Database) (historyId : Uuid) (now : Int)
    (request : TransitionRequest) (incident : Incident) :
    (redactedTables tables).write
        (transitionWrites historyId now request (redactedIncident incident)) =
      redactedTables (tables.write (transitionWrites historyId now request incident)) := by
  have put : putRow Incident.id (redactedIncident
      (transitioned incident request.transition.targetStatus now))
        (tables.incidents.map redactedIncident) = _ :=
    putRow_map redactedIncident_id _ tables.incidents
  unfold redactedTables Database.write transitionWrites
  simp only [Option.elim_some, List.append_nil]
  rw [← put]
  rfl

theorem transitionIncident_redacted (historyId : Uuid) (now : Int) (tables : Database)
    (request : TransitionRequest) :
    transitionIncident historyId now (redactedTables tables) request =
      (redactedTables (transitionIncident historyId now tables request).1,
        (transitionIncident historyId now tables request).2) := by
  unfold transitionIncident
  have records : idempotencyRecord? (redactedTables tables) request.actor.operatorId
      request.idempotencyKey =
        idempotencyRecord? tables request.actor.operatorId request.idempotencyKey := rfl
  rw [records]
  cases idempotencyRecord? tables request.actor.operatorId request.idempotencyKey with
  | some existing =>
      dsimp only
      split <;> rfl
  | none =>
      dsimp only
      rw [incident?_redacted]
      cases tables.incident? request.incidentId with
      | none => rfl
      | some incident =>
          dsimp only [Option.map_some]
          have version : (redactedIncident incident).lockVersion = incident.lockVersion := rfl
          have status : (redactedIncident incident).status = incident.status := rfl
          rw [version, status]
          split
          · rfl
          split
          · rfl
          · rw [write_redacted]
            rfl

/-! ## Messages -/

/-- The result of a handler, with its store redacted. -/
def redactedResult {α : Type} (result : Store × α) : Store × α := (result.1.redacted, result.2)

section Messages

variable (settings : RouterSettings) (handling : Handling) (store : Store)

theorem dispatch_redacted (command : String) (language : Language) :
    dispatch settings store.redacted command language = dispatch settings store command language := by
  have tables : store.redacted.tables = redactedTables store.tables := rfl
  have servers : store.redacted.servers = store.servers := rfl
  unfold dispatch incidentsReply
  rw [tables, servers, getDashboardOverview_redacted, listServers_redacted,
    listDashboardIncidents_redacted _ _ fun _ => rfl,
    listDashboardIncidents_redacted _ _ fun _ => rfl]

theorem applyTransition_redacted (language : Language) (request : TransitionRequest) :
    applyTransition handling store.redacted language request =
      redactedResult (applyTransition handling store language request) := by
  have tables : store.redacted.tables = redactedTables store.tables := rfl
  unfold applyTransition
  rw [tables, transitionIncident_redacted]
  rfl

theorem precheckTransition_redacted (language : Language) (incidentId : Uuid)
    (targetStatus : IncidentStatus) (expectedVersion : Nat) :
    precheckTransition store.redacted language incidentId targetStatus expectedVersion =
      precheckTransition store language incidentId targetStatus expectedVersion := by
  have tables : store.redacted.tables = redactedTables store.tables := rfl
  unfold precheckTransition
  rw [tables, incident?_redacted]
  cases store.tables.incident? incidentId with
  | none => rfl
  | some incident => rfl

theorem setLanguage_redacted (senderId : Int) (argument : Option String) (current : Language) :
    setLanguage store.redacted senderId argument current =
      redactedResult (setLanguage store senderId argument current) := by
  unfold setLanguage
  have directory : store.redacted.directory = store.directory := rfl
  rw [directory]
  split
  · rfl
  · split <;> rfl

theorem answerCommand_redacted (principal : OperatorPrincipal) (senderId : Int)
    (language : Language) (command text : String) :
    answerCommand settings store.redacted principal senderId language command text =
      redactedResult (answerCommand settings store principal senderId language command text) := by
  have deleted : deletePendingAction store.redacted senderId =
      (deletePendingAction store senderId).redacted := rfl
  unfold answerCommand
  rw [deleted]
  dsimp only
  rw [setLanguage_redacted, dispatch_redacted]
  split
  · rfl
  split
  · rfl
  split <;> rfl

theorem answerReason_redacted (updateId : Int) (principal : OperatorPrincipal) (senderId : Int)
    (language : Language) (text : String) :
    answerReason settings handling store.redacted updateId principal senderId language text =
      redactedResult
        (answerReason settings handling store updateId principal senderId language text) := by
  have found : lookupPendingAction store.redacted senderId handling.now =
      lookupPendingAction store senderId handling.now := rfl
  have deleted : deletePendingAction store.redacted senderId =
      (deletePendingAction store senderId).redacted := rfl
  unfold answerReason
  rw [found, deleted]
  cases lookupPendingAction store senderId handling.now with
  | absent => rfl
  | expired => rfl
  | live action =>
      dsimp only
      cases normalizeReason settings.unicode text with
      | error _ => rfl
      | ok reason =>
          dsimp only
          rw [applyTransition_redacted]
          rfl

/-- **No answer to a message reads an address.** -/
theorem answerMessage_redacted (updateId : Int) (sender : TelegramSender) (text : String) :
    answerMessage settings handling store.redacted updateId sender text =
      redactedResult (answerMessage settings handling store updateId sender text) := by
  have directory : store.redacted.directory = store.directory := rfl
  unfold answerMessage
  rw [directory]
  cases store.directory.authenticateTelegramUser handling.now sender.id with
  | none => rfl
  | some linked =>
      obtain ⟨principal, directory⟩ := linked
      have moved : { store.redacted with directory := directory } =
          Store.redacted { store with directory := directory } := rfl
      dsimp only
      rw [moved]
      cases parseCommand settings.unicode text with
      | some command => exact answerCommand_redacted settings _ principal sender.id _ command text
      | none => exact answerReason_redacted settings handling _ updateId principal sender.id _ text

end Messages

/-! ## Presses -/

section Presses

variable (settings : RouterSettings) (handling : Handling) (store : Store)

/-- Whether an account acts for an operator who has a permission. -/
def isPermitted (telegramUserId : Int) (permission : Permission) : Bool :=
  match store.directory.authenticateTelegramUser handling.now telegramUserId with
  | none => false
  | some (principal, _) => roleHasPermission principal.role permission

/-- Whether a press is of a block button, by an operator who may use it. -/
def mayDisclose (telegramUserId : Int) : CallbackAction → Bool
  | .proposeBlock _ => isPermitted handling store telegramUserId .proposeIpBlock
  | .decideBlock _ approve =>
      isPermitted handling store telegramUserId (decisionPermission approve)
  | .incidentAction _ _ _ => false

theorem handleIncidentAction_redacted (query : TelegramCallbackQuery) (senderId : Int)
    (client : Option Language) (incidentId : Uuid) (targetStatus : IncidentStatus)
    (expectedVersion : Nat) :
    handleIncidentAction settings handling store.redacted query senderId client incidentId
        targetStatus expectedVersion =
      redactedResult (handleIncidentAction settings handling store query senderId client incidentId
        targetStatus expectedVersion) := by
  have directory : store.redacted.directory = store.directory := rfl
  unfold handleIncidentAction
  rw [directory]
  cases store.directory.authenticateTelegramUser handling.now senderId with
  | none => rfl
  | some linked =>
      obtain ⟨principal, directory⟩ := linked
      have moved : { store.redacted with directory := directory } =
          Store.redacted { store with directory := directory } := rfl
      dsimp only
      rw [moved, applyTransition_redacted, precheckTransition_redacted]
      split
      · rfl
      split
      · rfl
      · have language : replyLanguage (Store.redacted { store with directory := directory }) senderId
            client = replyLanguage { store with directory := directory } senderId client := rfl
        rw [language]
        cases precheckTransition { store with directory := directory }
          (replyLanguage { store with directory := directory } senderId client) incidentId
          targetStatus expectedVersion with
        | none => rfl
        | some error => rfl

theorem handleProposeBlock_redacted {senderId : Int}
    (refused : isPermitted handling store senderId .proposeIpBlock = false)
    (query : TelegramCallbackQuery) (client : Option Language) (incidentId : Uuid) :
    handleProposeBlock settings handling store.redacted query senderId client incidentId =
      redactedResult
        (handleProposeBlock settings handling store query senderId client incidentId) := by
  have directory : store.redacted.directory = store.directory := rfl
  unfold isPermitted at refused
  unfold handleProposeBlock
  rw [directory]
  cases linked : store.directory.authenticateTelegramUser handling.now senderId with
  | none =>
      dsimp only
      split
      · rfl
      split <;> rfl
  | some authenticated =>
      rw [linked] at refused
      dsimp only at refused ⊢
      rw [refused]
      split
      · rfl
      split <;> rfl

theorem handleDecideBlock_redacted {senderId : Int} {approve : Bool}
    (refused : isPermitted handling store senderId (decisionPermission approve) = false)
    (client : Option Language) (planId : Uuid) :
    handleDecideBlock settings handling store.redacted senderId client planId approve =
      redactedResult (handleDecideBlock settings handling store senderId client planId approve) := by
  have directory : store.redacted.directory = store.directory := rfl
  unfold isPermitted at refused
  unfold handleDecideBlock
  rw [directory]
  cases linked : store.directory.authenticateTelegramUser handling.now senderId with
  | none =>
      dsimp only
      split <;> rfl
  | some authenticated =>
      rw [linked] at refused
      dsimp only at refused ⊢
      rw [refused]
      split <;> rfl

/-- **Only an answer to a block operator reads an address.** -/
theorem answerPress_redacted (query : TelegramCallbackQuery) (sender : TelegramSender)
    {action : CallbackAction} (silent : mayDisclose handling store sender.id action = false) :
    answerPress settings handling store.redacted query sender action =
      redactedResult (answerPress settings handling store query sender action) := by
  cases action with
  | proposeBlock incidentId =>
      exact handleProposeBlock_redacted settings handling store silent query _ incidentId
  | decideBlock planId approve =>
      exact handleDecideBlock_redacted settings handling store silent _ planId
  | incidentAction incidentId targetStatus expectedVersion =>
      exact handleIncidentAction_redacted settings handling store query sender.id _ incidentId
        targetStatus expectedVersion

/-- What a block button writes beside the plans reads no address. -/
theorem pressWrites_redacted {senderId : Int} {action : CallbackAction}
    (discloses : mayDisclose handling store senderId action = true)
    (query : TelegramCallbackQuery) :
    (store.redacted.after handling
        (pressWrites settings handling store.redacted query senderId action)).redacted =
      (store.after handling (pressWrites settings handling store query senderId action)).redacted := by
  have directory : store.redacted.directory = store.directory := rfl
  have base (directory : Directory) (plans others : List IpBlockPlan) :
      (store.redacted.after handling
          { UpdateWrites.only store.redacted directory with plans := others }).redacted =
        (store.after handling { UpdateWrites.only store directory with plans := plans }).redacted :=
    Store.redacted_redacted { store with directory := directory }
  cases action with
  | incidentAction _ _ _ => cases discloses
  | proposeBlock incidentId =>
      unfold pressWrites
      rw [directory]
      cases store.directory.authenticateTelegramUser handling.now senderId with
      | none => exact base store.directory _ _
      | some linked =>
          obtain ⟨principal, directory⟩ := linked
          dsimp only
          split
          · exact base store.directory _ _
          split
          · exact base directory _ _
          · exact base directory _ _
  | decideBlock planId approve =>
      unfold pressWrites
      rw [directory]
      cases store.directory.authenticateTelegramUser handling.now senderId with
      | none => exact base store.directory _ _
      | some linked =>
          obtain ⟨principal, directory⟩ := linked
          dsimp only
          split
          · exact base store.directory _ _
          split
          · exact base directory _ _
          · exact base directory _ _

/-- What a press writes beside the plans reads no address. -/
theorem answerPress_store_redacted (query : TelegramCallbackQuery) (sender : TelegramSender)
    (action : CallbackAction) :
    (answerPress settings handling store.redacted query sender action).1.redacted =
      (answerPress settings handling store query sender action).1.redacted := by
  cases silent : mayDisclose handling store sender.id action with
  | false =>
      rw [answerPress_redacted settings handling store query sender silent]
      exact Store.redacted_redacted _
  | true =>
      rw [answerPress_store, answerPress_store]
      exact pressWrites_redacted settings handling store silent query

end Presses

/-! ## Updates -/

section Updates

variable (settings : RouterSettings) (handling : Handling) (bot : Bot)

/-- Whether an update is a press of a block button by an operator who may use
it, so that its answer may tell of an address. -/
def disclosing (update : TelegramUpdate) : Bool :=
  match admitted settings handling bot.limiter update with
  | some (.press _ sender action) => mayDisclose handling bot.store sender.id action
  | _ => false

theorem handle_redacted (updateId : Int) (message : TelegramMessage) :
    handle settings handling bot.redacted updateId message =
      ((handle settings handling bot updateId message).1.redacted,
        (handle settings handling bot updateId message).2) := by
  have limiter : bot.redacted.limiter = bot.limiter := rfl
  have store : bot.redacted.store = bot.store.redacted := rfl
  unfold handle
  rw [limiter, store]
  cases message.sender with
  | none => rfl
  | some sender =>
      cases message.text with
      | none => rfl
      | some text =>
          dsimp only
          split
          · rfl
          · rw [answerMessage_redacted]
            generalize bot.limiter.consume settings.limits handling.monotonic sender.id = consumed
            obtain ⟨limiter, delay⟩ := consumed
            cases delay with
            | none => rfl
            | some delay => rfl

/-- A press leaves the same behind, and is answered the same unless it may
disclose. -/
theorem handleCallbackQuery_redacted {update : TelegramUpdate} {query : TelegramCallbackQuery}
    (pressed : update.callbackQuery = some query) :
    (handleCallbackQuery settings handling bot.redacted query).1.redacted =
        (handleCallbackQuery settings handling bot query).1.redacted ∧
      (disclosing settings handling bot update = false →
        (handleCallbackQuery settings handling bot.redacted query).2 =
          (handleCallbackQuery settings handling bot query).2) := by
  have limiter : bot.redacted.limiter = bot.limiter := rfl
  have store : bot.redacted.store = bot.store.redacted := rfl
  have twice : bot.redacted.redacted = bot.redacted :=
    congrArg (Bot.mk bot.limiter) bot.store.redacted_redacted
  unfold handleCallbackQuery disclosing admitted addressed
  rw [pressed, limiter, store]
  dsimp only
  cases query.sender with
  | none => exact ⟨twice, fun _ => rfl⟩
  | some sender =>
      cases query.data with
      | none => exact ⟨twice, fun _ => rfl⟩
      | some data =>
          dsimp only
          cases sender.isBot with
          | true => exact ⟨twice, fun _ => rfl⟩
          | false =>
              cases parseCallbackData settings.unicode data with
              | error _ => exact ⟨twice, fun _ => rfl⟩
              | ok action =>
                  obtain ⟨limiter, delay, consumed⟩ : ∃ limiter delay, bot.limiter.consume
                    settings.limits handling.monotonic sender.id = (limiter, delay) :=
                      ⟨_, _, rfl⟩
                  simp only [Bool.false_eq_true, if_false, Option.filter, Admitted.senderId,
                    consumed]
                  cases delay with
                  | some delay =>
                      exact ⟨congrArg (Bot.mk limiter) bot.store.redacted_redacted, fun _ => rfl⟩
                  | none =>
                      refine ⟨congrArg (Bot.mk limiter) (answerPress_store_redacted settings handling
                        bot.store query sender action), fun silent => ?_⟩
                      rw [answerPress_redacted settings handling bot.store query sender silent]
                      rfl

/-- **An update is handled on the redacted store as on the store.** -/
theorem handleUpdate_redacted (update : TelegramUpdate) :
    (handleUpdate settings handling bot.redacted update).bot.redacted =
        (handleUpdate settings handling bot update).bot.redacted ∧
      (disclosing settings handling bot update = false →
        (handleUpdate settings handling bot.redacted update).outgoing =
          (handleUpdate settings handling bot update).outgoing) := by
  have twice : bot.redacted.redacted = bot.redacted :=
    congrArg (Bot.mk bot.limiter) bot.store.redacted_redacted
  unfold handleUpdate
  cases pressed : update.callbackQuery with
  | some query =>
      have ⟨left, answered⟩ := handleCallbackQuery_redacted settings handling bot pressed
      have bots (before : Bot) : (handleCallbackUpdate settings handling before query).bot =
          (handleCallbackQuery settings handling before query).1 := by
        unfold handleCallbackUpdate
        dsimp only
        repeat' split
        all_goals rfl
      dsimp only
      rw [bots, bots]
      refine ⟨left, fun silent => ?_⟩
      have same := answered silent
      unfold handleCallbackUpdate
      dsimp only
      rw [same]
      repeat' split
      all_goals rfl
  | none =>
      cases update.message with
      | none => exact ⟨twice, fun _ => rfl⟩
      | some message =>
          dsimp only
          rw [handle_redacted]
          generalize handle settings handling bot update.updateId message = handled
          obtain ⟨after, reply⟩ := handled
          have again : after.redacted.redacted = after.redacted :=
            congrArg (Bot.mk after.limiter) after.store.redacted_redacted
          cases reply with
          | none => exact ⟨again, fun _ => rfl⟩
          | some reply => exact ⟨again, fun _ => rfl⟩

/-- Who may learn an address does not depend on addresses. -/
theorem disclosing_redacted (update : TelegramUpdate) :
    disclosing settings handling bot.redacted update = disclosing settings handling bot update := rfl

end Updates

/-! ## Follow-up messages -/

/-- A text that is cut at the end keeps a short beginning. -/
theorem bounded_append {head : String} (short : head.length ≤ 3499) (rest : String) :
    ∃ after, bounded (head ++ rest) = head ++ after := by
  unfold bounded
  split
  · exact ⟨rest, rfl⟩
  · refine ⟨String.ofList (rest.toList.take (3499 - head.length) ++ ['…']), ?_⟩
    refine String.toList_inj.mp ?_
    rw [← String.length_toList] at short
    simp only [String.toList_ofList, String.toList_append, List.take_append, ← List.append_assoc,
      List.take_of_length_le short, String.length_toList]

/-- **The address of a plan stands in its message**, in a line of its own. -/
theorem formatBlockProposalMessage_address (language : Language) {plan : IpBlockPlan}
    (short : plan.ipAddress.length ≤ 42) :
    ∃ before after, formatBlockProposalMessage language plan =
      before ++ "\n" ++ tg language .proposalAddress ++ " " ++ plan.ipAddress ++ "\n" ++ after := by
  have labels : (tg language .proposalHeading).length ≤ 100 ∧
      (tg language .proposalAddress).length ≤ 100 := by
    cases language with
    | ru => decide
    | en => decide
  have newline : "\n".length = 1 := rfl
  have blank : " ".length = 1 := rfl
  have fits : (tg language .proposalHeading ++ "\n" ++ "" ++ "\n" ++
      (tg language .proposalAddress ++ " " ++ plan.ipAddress) ++ "\n").length ≤ 3499 := by
    simp only [String.length_append, newline, blank, String.length_empty]
    omega
  unfold formatBlockProposalMessage joinLines
  rw [String.intercalate_cons_cons, String.intercalate_cons_cons, String.intercalate_cons_cons]
  generalize "\n".intercalate (_ :: _) = rest
  obtain ⟨after, cut⟩ := bounded_append fits rest
  refine ⟨tg language .proposalHeading ++ "\n", after, Eq.trans ?_ (cut.trans ?_)⟩
  · simp only [String.append_assoc]
  · simp only [String.append_assoc, String.empty_append]

/-- A plan that a proposal returns is for the source address of the incident. -/
theorem proposeIpBlock_plan {settings : IpBlockRuntimeSettings} {request : ProposeRequest}
    {incident : Option Incident} {allowlist : List IpBlockAllowlistEntry}
    {plans : List IpBlockPlan} {plan : IpBlockPlan}
    (returned : (proposeIpBlock settings request incident allowlist plans).1.plan = some plan) :
    ∃ source, incident = some source ∧ plan.incidentId = source.id ∧
      extractSourceIp source.correlation = some plan.ipAddress ∧ plan.ipAddress.length ≤ 42 := by
  unfold proposeIpBlock at returned
  split at returned
  · cases returned
  next source =>
    split at returned
    · cases returned
    next rawAddress extracted =>
      dsimp only at returned
      split at returned
      next address allowed decided =>
        obtain ⟨same, canonical, blockable, unlisted⟩ := classifyBlockTarget_of_allowed allowed
        rw [classifyBlockTarget_eq_allowed.mpr ⟨canonical, blockable, unlisted⟩] at decided
        obtain rfl := Option.some.inj decided
        have short := length_text canonical.unscoped
        refine ⟨source, rfl, ?_⟩
        rw [extracted, ← canonical.text]
        unfold proposeAllowed at returned
        split at returned
        next existing found =>
          obtain ⟨_, incidentId, ipAddress, _⟩ := proposedPlan_some found
          split at returned
          · obtain rfl := Option.some.inj returned
            exact ⟨incidentId, congrArg some ipAddress.symm, ipAddress ▸ short⟩
          · obtain rfl := Option.some.inj returned
            exact ⟨incidentId, congrArg some ipAddress.symm, ipAddress ▸ short⟩
        · obtain rfl := Option.some.inj returned
          exact ⟨rfl, rfl, short⟩
      · cases returned

section FollowUps

variable {settings : RouterSettings} {handling : Handling}

/-- A text has a line with the address of the source of an incident, and is the
message of a plan for that incident and that address. -/
def TellsSource (incident : Incident) (text : String) : Prop :=
  ∃ language source plan before after, extractSourceIp incident.correlation = some source ∧
    plan.incidentId = incident.id ∧ plan.ipAddress = source ∧
    text = formatBlockProposalMessage language plan ∧
    text = before ++ "\n" ++ tg language .proposalAddress ++ " " ++ source ++ "\n" ++ after

/-- A follow-up message of a press goes to the chat of its button. The press is of
the button of an incident by an operator who may propose blocks, and the message
tells the source address of that incident. -/
structure FollowsPress (settings : RouterSettings) (handling : Handling) (bot : Bot)
    (query : TelegramCallbackQuery) (chatId : Int) (text : String) : Prop where
  toThePress : ∃ message, query.message = some message ∧ chatId = message.chat.id
  ofTheIncident : ∃ sender data incidentId incident, query.sender = some sender ∧
    query.data = some data ∧
    parseCallbackData settings.unicode data = .ok (.proposeBlock incidentId) ∧
    isPermitted handling bot.store sender.id .proposeIpBlock = true ∧
    incident ∈ bot.store.tables.incidents ∧ incident.id = incidentId ∧ TellsSource incident text

/-- A press is followed up only when a plan is proposed or found. -/
theorem handleProposeBlock_followUp {store : Store} {query : TelegramCallbackQuery}
    {senderId : Int} {client : Option Language} {incidentId : Uuid} {text : String}
    (followed : (handleProposeBlock settings handling store query senderId client
      incidentId).2.followUpText = some text) :
    isPermitted handling store senderId .proposeIpBlock = true ∧
      ∃ incident ∈ store.tables.incidents, incident.id = incidentId ∧
        TellsSource incident text := by
  unfold handleProposeBlock at followed
  unfold isPermitted
  dsimp only at followed
  split at followed
  · cases followed
  split at followed
  · cases followed
  cases linked : store.directory.authenticateTelegramUser handling.now senderId with
  | none =>
      rw [linked] at followed
      cases followed
  | some authenticated =>
      obtain ⟨principal, directory⟩ := authenticated
      rw [linked] at followed
      dsimp only at followed ⊢
      split at followed
      · cases followed
      next permitted =>
        refine ⟨by simpa using permitted, ?_⟩
        split at followed
        · cases followed
        · cases followed
        · split at followed <;> cases followed
        · cases followed
        next _ _ plan returned _ _ _ =>
          obtain ⟨incident, found, of_incident, source, short⟩ := proposeIpBlock_plan returned
          obtain ⟨member, same_id⟩ := rowOf_mem found
          simp only [Option.some.injEq] at followed
          obtain ⟨before, after, stands⟩ := formatBlockProposalMessage_address _ short
          exact ⟨incident, member, same_id, _, plan.ipAddress, plan, before, after, source,
            of_incident, rfl, followed.symm, followed.symm.trans stands⟩

/-- Only the button that proposes a block is followed up. -/
theorem answerPress_followUp {store : Store} {query : TelegramCallbackQuery}
    {sender : TelegramSender} {action : CallbackAction} {text : String}
    (followed : (answerPress settings handling store query sender action).2.followUpText =
      some text) :
    ∃ incidentId, action = .proposeBlock incidentId ∧
      (handleProposeBlock settings handling store query sender.id
        (languageFromClientTag sender.languageCode) incidentId).2.followUpText = some text := by
  cases action with
  | proposeBlock incidentId => exact ⟨incidentId, rfl, followed⟩
  | decideBlock planId approve =>
      simp only [answerPress, handleDecideBlock] at followed
      repeat' split at followed
      all_goals cases followed
  | incidentAction incidentId targetStatus expectedVersion =>
      simp only [answerPress, handleIncidentAction] at followed
      repeat' split at followed
      all_goals cases followed

/-- **A message that follows a press is a permitted proposal's.** -/
theorem followsPress_of_sent {bot : Bot} {update : TelegramUpdate} {query : TelegramCallbackQuery}
    (pressed : update.callbackQuery = some query) {chatId : Int} {text : String}
    {keyboard : Option (List (List KeyboardButton))}
    (sent : .sendMessage chatId text keyboard ∈ (handleUpdate settings handling bot update).outgoing) :
    FollowsPress settings handling bot query chatId text := by
  unfold handleUpdate at sent
  rw [pressed] at sent
  simp only [handleCallbackUpdate] at sent
  split at sent
  · cases sent
  split at sent
  · simp at sent
  split at sent
  · simp at sent
  · simp at sent
  next message followed present =>
    simp only [List.mem_cons, reduceCtorEq, Outgoing.sendMessage.injEq, List.not_mem_nil, or_false,
      false_or] at sent
    obtain ⟨rfl, rfl, _⟩ := sent
    unfold handleCallbackQuery at followed
    dsimp only at followed
    split at followed
    next sender data isSender isData =>
      split at followed
      · cases followed
      split at followed
      · cases followed
      next action parsed =>
        split at followed
        · cases followed
        · dsimp only at followed
          obtain ⟨incidentId, rfl, proposed⟩ := answerPress_followUp followed
          obtain ⟨permitted, incident, member, same_id, told⟩ :=
            handleProposeBlock_followUp proposed
          exact ⟨⟨message, present, rfl⟩,
            ⟨sender, data, incidentId, incident, isSender, isData, parsed, permitted, member,
              same_id, told⟩⟩
    · cases followed

end FollowUps

/-! ## Runs -/

/-- What happens to the bot: it handles an update or starts again, or the rest
of the program leaves other tables behind. -/
inductive Activity where
  | update (handling : Handling) (update : TelegramUpdate)
  | restart
  | others (store : Store)

/-- Activities that differ in addresses alone. -/
inductive Activity.SameButAddresses : Activity → Activity → Prop where
  | update (handling : Handling) (update : TelegramUpdate) :
      SameButAddresses (.update handling update) (.update handling update)
  | restart : SameButAddresses .restart .restart
  | others {left right : Store} (same : left.redacted = right.redacted) :
      SameButAddresses (.others left) (.others right)

section Runs

variable (settings : RouterSettings)

/-- The bot after an activity. -/
def Activity.next (bot : Bot) : Activity → Bot
  | .update handling received => (handleUpdate settings handling bot received).bot
  | .restart => .started bot.store
  | .others store => { bot with store := store }

/-- What an activity tells, unless it is told to a block operator. -/
def Activity.told (bot : Bot) : Activity → Option (List Outgoing)
  | .update handling received =>
      if disclosing settings handling bot received then none
      else some (handleUpdate settings handling bot received).outgoing
  | .restart => some []
  | .others _ => some []

/-- What a run tells, activity by activity. -/
def toldBy : Bot → List Activity → List (Option (List Outgoing))
  | _, [] => []
  | bot, activity :: rest => activity.told settings bot :: toldBy (activity.next settings bot) rest

variable {settings} {left right : Bot}

/-- An activity tells the same on bots that differ in addresses alone, and
leaves such bots behind. -/
theorem Activity.SameButAddresses.next {first second : Activity}
    (alike : first.SameButAddresses second) (same : left.redacted = right.redacted) :
    first.told settings left = second.told settings right ∧
      (first.next settings left).redacted = (second.next settings right).redacted := by
  cases alike with
  | update handling update =>
      have discloses : disclosing settings handling left update =
          disclosing settings handling right update := by
        rw [← disclosing_redacted settings handling left, same, disclosing_redacted]
      obtain ⟨leftAfter, leftTold⟩ := handleUpdate_redacted settings handling left update
      obtain ⟨rightAfter, rightTold⟩ := handleUpdate_redacted settings handling right update
      constructor
      · unfold Activity.told
        dsimp only
        rw [← discloses]
        cases silent : disclosing settings handling left update with
        | true => rfl
        | false =>
            have told : (handleUpdate settings handling left update).outgoing =
                (handleUpdate settings handling right update).outgoing := by
              rw [← leftTold silent, ← rightTold (discloses ▸ silent), same]
            exact congrArg some told
      · exact leftAfter.symm.trans ((congrArg (fun bot =>
          (handleUpdate settings handling bot update).bot.redacted) same).trans rightAfter)
  | restart =>
      have stores : left.store.redacted = right.store.redacted := congrArg Bot.store same
      exact ⟨rfl, congrArg (Bot.mk .fresh) stores⟩
  | @others leftStore rightStore stores =>
      have limiters : left.redacted.limiter = right.redacted.limiter := congrArg Bot.limiter same
      refine ⟨rfl, ?_⟩
      change Bot.mk left.redacted.limiter leftStore.redacted =
        Bot.mk right.redacted.limiter rightStore.redacted
      rw [limiters, stores]

theorem toldBy_congr {lefts rights : List Activity}
    (alike : List.Forall₂ Activity.SameButAddresses lefts rights)
    (same : left.redacted = right.redacted) :
    toldBy settings left lefts = toldBy settings right rights := by
  induction alike generalizing left right with
  | nil => rfl
  | cons first _ ih =>
      unfold toldBy
      obtain ⟨told, after⟩ := first.next same
      rw [told, ih after]

/-- **Addresses stay with block operators.** Two runs that differ in source
addresses alone tell the same, but in answer to the presses of block buttons by
operators who may use them; and what such a press sends to a chat goes to the
chat of its button, and names the source address of the incident that was
pressed. -/
theorem addresses_stay_with_block_operators {lefts rights : List Activity}
    (alike : List.Forall₂ Activity.SameButAddresses lefts rights)
    (same : left.redacted = right.redacted) :
    toldBy settings left lefts = toldBy settings right rights ∧
      ∀ handling bot update query chatId text keyboard, update.callbackQuery = some query →
        .sendMessage chatId text keyboard ∈ (handleUpdate settings handling bot update).outgoing →
        FollowsPress settings handling bot query chatId text :=
  ⟨toldBy_congr alike same, fun _ _ _ _ _ _ _ pressed sent => followsPress_of_sent pressed sent⟩

end Runs

/-- An installation with an incident from a source address, and the account 555
of an analyst. -/
def installationWith (ipAddress : String) : Store :=
  { Store.empty with
    tables := { Database.empty with
      incidents := [{ sampleIncident with correlation := [(["source_ip"], .str ipAddress)] }] }
    servers := [⟨1, "web", "web.example", true⟩]
    directory := ⟨[⟨10, "analyst", .analyst, true⟩], [⟨20, 10, 555, 0, none, none, none⟩]⟩ }

/-- A press of the block button of the incident in a group chat. -/
def pressBlock : TelegramUpdate :=
  ⟨2, none, some ⟨"press", some ⟨555, false, none⟩, some ⟨2, none, ⟨-7, "group"⟩, none⟩,
    some "1:bp:00000000-0000-0000-0000-000000000001"⟩⟩

/-- The analyst lists the incidents, and presses the block button. -/
def listAndPropose : List Activity :=
  [.update ⟨seconds 1, 1, 1, 1, true⟩
      ⟨1, some ⟨1, some ⟨555, false, none⟩, ⟨555, "private"⟩, some "/incidents"⟩, none⟩,
    .update ⟨seconds 2, 2, 2, 2, true⟩ pressBlock]

theorem listAndPropose_same : List.Forall₂ Activity.SameButAddresses listAndPropose listAndPropose :=
  .cons (.update _ _) (.cons (.update _ _) .nil)

/-- The defaults, with plans of blocks switched on. -/
def blockingSettings : RouterSettings :=
  .defaults { IpBlockRuntimeSettings.defaults with enabled := true }

/-- What the press is answered with. -/
def blockAnswer : List Outgoing :=
  (handleUpdate blockingSettings ⟨seconds 2, 2, 2, 2, true⟩
    (.started (installationWith "8.8.8.8")) pressBlock).outgoing

/-- The two installations tell the same, and the press is followed up in its
group chat by a message with the address. -/
theorem addresses_stay_with_block_operators_listed :
    toldBy blockingSettings (.started (installationWith "8.8.8.8")) listAndPropose =
        toldBy blockingSettings (.started (installationWith "9.9.9.9")) listAndPropose ∧
      ∃ text keyboard before after, .sendMessage (-7) text keyboard ∈ blockAnswer ∧
        text = before ++ "8.8.8.8" ++ after := by
  have same : (Bot.started (installationWith "8.8.8.8")).redacted =
      (Bot.started (installationWith "9.9.9.9")).redacted := rfl
  obtain ⟨told, follows⟩ :=
    @addresses_stay_with_block_operators blockingSettings _ _ _ _ listAndPropose_same same
  refine ⟨told, ?_⟩
  have followed : (blockAnswer.any fun sent =>
      match sent with
      | .sendMessage chatId _ _ => chatId = -7
      | _ => false) = true := by decide +kernel
  obtain ⟨sent, member, there⟩ := List.any_eq_true.mp followed
  cases sent with
  | sendMessage chatId text keyboard =>
      obtain rfl := of_decide_eq_true there
      obtain ⟨_, sender, data, incidentId, incident, _, _, _, _, incident_member, _, language,
        source, plan, before, after, extracted, _, _, _, stands⟩ :=
          follows _ _ pressBlock _ (-7) text keyboard rfl member
      have source_eq : source = "8.8.8.8" := by
        obtain rfl := List.mem_singleton.mp incident_member
        have read : extractSourceIp [(["source_ip"], .str "8.8.8.8")] = some "8.8.8.8" := by
          decide +kernel
        exact Option.some.inj (extracted.symm.trans read)
      refine ⟨text, keyboard, before ++ "\n" ++ tg language .proposalAddress ++ " ",
        "\n" ++ after, member, ?_⟩
      rw [stands, source_eq]
      simp only [String.append_assoc]
  | _ => cases there

end WolandGuard.Telegram
