import WolandGuard.Foundations.Runs
import WolandGuard.Telegram.Effects

/-!
# Who may change an incident

The bot between the other writers of its tables: links are made and revoked,
operators change, other processes write incidents. A press of a status button
checks the permission to change incidents, and the reason that follows it does
not. A run changes incidents with authority when nothing happens between a press
and its reason to the role, the activity and the link of the operator who has
pressed (`transitions_authorised_of_undisturbed`).
-/

set_option autoImplicit false

namespace WolandGuard.Telegram.Authorisation

open Foundations Incidents IpBlocks

/-! ## The bot and its surroundings -/

/-- The bot, with the operator for whom each account last opened a pending
reason. The operators are recorded for the statement only. -/
structure Watched where
  bot : Bot
  pressers : Int → Option Uuid

/-- What happens to the bot and to its tables. -/
inductive Label where
  | update (handling : Handling) (update : TelegramUpdate)
  | linkTelegramUser (linkId : Uuid) (now : Int) (operatorId : Uuid) (telegramUserId : Int)
  | revokeTelegramLink (now : Int) (linkId : Uuid)
  | putOperator (operator : Operator)
  | others (tables : Database) (servers : List Server) (plans : List IpBlockPlan)
      (allowlist : List IpBlockAllowlistEntry)
  | restart

/-- The bot with another directory. -/
def Watched.withDirectory (watched : Watched) (directory : Directory) : Watched :=
  { watched with bot := { watched.bot with store := { watched.bot.store with
      directory := directory } } }

section Steps

variable (settings : RouterSettings)

/-- Who has opened the pending reasons after an update. -/
def pressersAfter (handling : Handling) (watched : Watched) (update : TelegramUpdate) :
    Int → Option Uuid :=
  match admitted settings handling watched.bot.limiter update with
  | none => watched.pressers
  | some reached =>
      match (admittedWrites settings handling watched.bot.store reached).slot with
      | some (telegramUserId, some _) =>
          Function.update watched.pressers telegramUserId
            ((watched.bot.store.directory.linkedOperator telegramUserId).map (·.2.id))
      | _ => watched.pressers

/-- One step. Links that are refused change nothing. -/
def step (watched : Watched) : Label → Watched
  | .update handling update =>
      ⟨(handleUpdate settings handling watched.bot update).bot,
        pressersAfter settings handling watched update⟩
  | .linkTelegramUser linkId now operatorId telegramUserId =>
      match watched.bot.store.directory.linkTelegramUser linkId now operatorId telegramUserId with
      | .error _ => watched
      | .ok directory => watched.withDirectory directory
  | .revokeTelegramLink now linkId =>
      match watched.bot.store.directory.revokeTelegramLink now linkId with
      | .error _ => watched
      | .ok directory => watched.withDirectory directory
  | .putOperator operator =>
      watched.withDirectory
        { watched.bot.store.directory with
          operators := putRow Operator.id operator watched.bot.store.directory.operators }
  | .others tables servers plans allowlist =>
      { watched with bot := { watched.bot with store := { watched.bot.store with
          tables := tables, servers := servers, plans := plans, allowlist := allowlist } } }
  | .restart => { watched with bot := .started watched.bot.store }

/-- The steps as a relation. -/
def Steps (watched : Watched) (label : Label) (after : Watched) : Prop :=
  after = step settings watched label

end Steps

/-! ## Authority -/

/-- The account that an update comes from. -/
def senderOf (update : TelegramUpdate) : Option Int :=
  match update.callbackQuery with
  | some query => query.sender.map (·.id)
  | none => update.message.bind fun message => message.sender.map (·.id)

/-- The history entries that a step has appended. -/
def newHistory (before after : Store) : List IncidentHistoryEntry :=
  after.tables.history.drop before.tables.history.length

/-- The transitions of a step of the bot are attributed to an operator who is
active and linked to the sender when they are committed, whose role may change
incidents, and who has asked for the reason if a reason was awaited. -/
def TransitionsAuthorised (taken : Taken Watched Label) : Prop :=
  ∀ handling update, taken.label = .update handling update →
    ∀ entry ∈ newHistory taken.before.bot.store taken.after.bot.store,
      ∃ senderId link operator, senderOf update = some senderId ∧
        taken.after.bot.store.directory.linkedOperator senderId = some (link, operator) ∧
        entry.changedByOperatorId = some operator.id ∧
        roleHasPermission operator.role .transitionIncidents = true ∧
        (update.callbackQuery = none → taken.before.pressers senderId = some operator.id)

/-- A text from an account is read as the reason of a transition that applies,
on behalf of an operator. -/
def ReasonApplies (settings : RouterSettings) (handling : Handling) (bot : Bot)
    (update : TelegramUpdate) (senderId : Int) (operator : Operator) : Prop :=
  ∃ updateId sender text link action reason incident,
    sender.id = senderId ∧
    admitted settings handling bot.limiter update = some (.message updateId sender text) ∧
    bot.store.directory.linkedOperator senderId = some (link, operator) ∧
    parseCommand settings.unicode text = none ∧
    lookupPendingAction bot.store senderId handling.now = .live action ∧
    normalizeReason settings.unicode text = .ok reason ∧
    Applies bot.store.tables
      (reasonRequest updateId (Directory.principalOf link operator) action reason) incident

/-- The operator who gives a reason that is accepted may change incidents, and
has asked for the reason. -/
def ReasonAuthorised (settings : RouterSettings) (before : Watched) : Label → Prop
  | .update handling update =>
      ∀ senderId operator, ReasonApplies settings handling before.bot update senderId operator →
        roleHasPermission operator.role .transitionIncidents = true ∧
          before.pressers senderId = some operator.id
  | _ => True

/-! ## Presses, reasons and what comes between -/

/-- A press of a status button that opens a pending reason for an account, on
behalf of an operator. -/
inductive Opens (settings : RouterSettings) : Taken Watched Label → Int → Uuid → Prop where
  | press {before after : Watched} {handling : Handling} {update : TelegramUpdate}
      {query : TelegramCallbackQuery} {sender : TelegramSender} {incidentId : Uuid}
      {targetStatus : IncidentStatus} {expectedVersion : Nat} {link : OperatorTelegramLink}
      {operator : Operator} {incident : Incident} :
      admitted settings handling before.bot.limiter update =
        some (.press query sender (.incidentAction incidentId targetStatus expectedVersion)) →
      before.bot.store.directory.linkedOperator sender.id = some (link, operator) →
      roleHasPermission operator.role .transitionIncidents = true →
      targetStatus ≠ .investigating →
      before.bot.store.tables.incident? incidentId = some incident →
      incident.lockVersion = expectedVersion →
      isTransitionAllowed incident.status targetStatus = true →
      Opens settings ⟨before, .update handling update, after⟩ sender.id operator.id

/-- A text that is read as the reason that an account is asked for. -/
inductive GivesReason (settings : RouterSettings) : Taken Watched Label → Int → Prop where
  | text {before after : Watched} {handling : Handling} {update : TelegramUpdate} {updateId : Int}
      {sender : TelegramSender} {text reason : String} {action : TelegramPendingAction} :
      admitted settings handling before.bot.limiter update = some (.message updateId sender text) →
      parseCommand settings.unicode text = none →
      lookupPendingAction before.bot.store sender.id handling.now = .live action →
      normalizeReason settings.unicode text = .ok reason →
      GivesReason settings ⟨before, .update handling update, after⟩ sender.id

/-- An operator is made inactive or loses the permission to change incidents, or the
link of an account is revoked. -/
def Disturbs (taken : Taken Watched Label) (telegramUserId : Int) (operatorId : Uuid) : Prop :=
  match taken.label with
  | .putOperator operator =>
      operator.id = operatorId ∧
        (operator.isActive = false ∨ roleHasPermission operator.role .transitionIncidents = false)
  | .revokeTelegramLink _ linkId =>
      ∃ link ∈ taken.before.bot.store.directory.links,
        link.id = linkId ∧ link.telegramUserId = telegramUserId ∧ link.revokedAt = none
  | _ => False

/-- Nothing disturbs an operator between the press that opens a pending reason and
the reason. -/
def Undisturbed (settings : RouterSettings) (path : List (Taken Watched Label)) : Prop :=
  ∀ front opening between giving back telegramUserId operatorId,
    path = front ++ opening :: (between ++ giving :: back) →
    Opens settings opening telegramUserId operatorId →
    (∀ taken ∈ between, ∀ other, ¬ Opens settings taken telegramUserId other) →
    GivesReason settings giving telegramUserId →
    ∀ taken ∈ between, ¬ Disturbs taken telegramUserId operatorId

/-! ## Authentication -/

/-- Authentication is by the linked operator, and stamping the link keeps whom
it links. -/
theorem authenticated_iff {directory : Directory} {telegramUserId now : Int} :
    (directory.authenticateTelegramUser now telegramUserId = none ↔
      directory.linkedOperator telegramUserId = none) ∧
    ∀ principal stamped, directory.authenticateTelegramUser now telegramUserId =
        some (principal, stamped) →
      ∃ link operator, directory.linkedOperator telegramUserId = some (link, operator) ∧
        principal = Directory.principalOf link operator ∧
        stamped.linkedOperator telegramUserId =
          some ({ link with lastUsedAt := some now }, operator) := by
  refine ⟨Option.map_eq_none_iff, fun principal stamped authenticated => ?_⟩
  obtain ⟨⟨link, operator⟩, linked, same⟩ := Option.map_eq_some_iff.mp authenticated
  obtain ⟨rfl, rfl⟩ := Prod.mk.inj same
  refine ⟨link, operator, linked, rfl, ?_⟩
  obtain ⟨valid, found, present, active⟩ := Directory.linkedOperator_eq_some.mp linked
  refine Directory.linkedOperator_eq_some.mpr ⟨valid, ?_, present, active⟩
  unfold Directory.activeLinkForTelegramUser at found ⊢
  refine (find?_updateWhere (fun row _ => ?_) directory.links).trans ?_
  · rfl
  · rw [found]
    simp

section Requests

variable {settings : RouterSettings} {handling : Handling} {store : Store}
variable {request : TransitionRequest}

/-- A message asks for a transition only as the reason of a live pending
action. -/
theorem request_of_message {updateId : Int} {sender : TelegramSender} {text : String}
    (asked : (messageWrites settings handling store updateId sender text).request =
      some request) :
    ∃ link operator action reason,
      store.directory.linkedOperator sender.id = some (link, operator) ∧
      (messageWrites settings handling store updateId sender text).directory.linkedOperator
        sender.id = some ({ link with lastUsedAt := some handling.now }, operator) ∧
      parseCommand settings.unicode text = none ∧
      lookupPendingAction store sender.id handling.now = .live action ∧
      normalizeReason settings.unicode text = .ok reason ∧
      request = reasonRequest updateId (Directory.principalOf link operator) action reason := by
  unfold messageWrites at asked ⊢
  cases authenticated : store.directory.authenticateTelegramUser handling.now sender.id with
  | none => simp [authenticated, UpdateWrites.only] at asked
  | some pair =>
      obtain ⟨principal, stamped⟩ := pair
      obtain ⟨link, operator, linked, rfl, kept⟩ :=
        authenticated_iff.2 principal stamped authenticated
      rw [authenticated] at asked
      dsimp only at asked ⊢
      split at asked
      next => simp [UpdateWrites.only] at asked
      next not_command =>
        split at asked
        · simp [UpdateWrites.only] at asked
        · simp [UpdateWrites.only] at asked
        next action live =>
          split at asked
          · cases asked
          next reason valid =>
            obtain rfl := Option.some.inj asked
            exact ⟨link, operator, action, reason, linked, kept,
              not_command, live, valid, rfl⟩

/-- What a message asks for when it is read as a reason. -/
theorem message_request {updateId : Int} {sender : TelegramSender} {text reason : String}
    {link : OperatorTelegramLink} {operator : Operator} {action : TelegramPendingAction}
    (linked : store.directory.linkedOperator sender.id = some (link, operator))
    (not_command : parseCommand settings.unicode text = none)
    (live : lookupPendingAction store sender.id handling.now = .live action)
    (valid : normalizeReason settings.unicode text = .ok reason) :
    (messageWrites settings handling store updateId sender text).request =
      some (reasonRequest updateId (Directory.principalOf link operator) action reason) := by
  unfold messageWrites
  simp only [Directory.authenticateTelegramUser, linked, Option.map_some, not_command, live, valid]

/-- A press asks for a transition only for an operator who may change
incidents. -/
theorem request_of_press {query : TelegramCallbackQuery} {telegramUserId : Int}
    {action : CallbackAction}
    (asked : (pressWrites settings handling store query telegramUserId action).request =
      some request) :
    ∃ link operator,
      (pressWrites settings handling store query telegramUserId action).directory.linkedOperator
        telegramUserId = some ({ link with lastUsedAt := some handling.now }, operator) ∧
      roleHasPermission operator.role .transitionIncidents = true ∧
      request.actor = Directory.principalOf link operator := by
  unfold pressWrites at asked ⊢
  cases authenticated : store.directory.authenticateTelegramUser handling.now telegramUserId with
  | none => simp [authenticated, UpdateWrites.only] at asked
  | some pair =>
      obtain ⟨principal, stamped⟩ := pair
      obtain ⟨link, operator, linked, rfl, kept⟩ :=
        authenticated_iff.2 principal stamped authenticated
      rw [authenticated] at asked
      dsimp only at asked ⊢
      cases action with
      | proposeBlock incidentId =>
          dsimp only at asked
          split at asked
          · cases asked
          · split at asked <;> cases asked
      | decideBlock planId approve =>
          dsimp only at asked
          split at asked
          · cases asked
          · split at asked <;> cases asked
      | incidentAction incidentId targetStatus expectedVersion =>
          dsimp only at asked ⊢
          split at asked
          · cases asked
          next permitted =>
            split at asked
            next direct =>
              obtain rfl := Option.some.inj asked
              have may : ¬ (!roleHasPermission operator.role .transitionIncidents) = true :=
                permitted
              refine ⟨link, operator, ?_, by simpa using may, rfl⟩
              rw [if_neg permitted, if_pos direct]
              exact kept
            · split at asked <;> cases asked

end Requests

/-! ## One update -/

section Updates

variable {settings : RouterSettings} {handling : Handling} {bot : Bot} {update : TelegramUpdate}

/-- An update that reaches the database comes from its sender, and a message
has no pressed button. -/
theorem senderOf_addressed {reached : Admitted}
    (found : addressed settings update = some reached) :
    senderOf update = some reached.senderId ∧
      (update.callbackQuery = none ↔ ∃ updateId sender text,
        reached = .message updateId sender text) := by
  unfold addressed at found
  unfold senderOf
  split at found
  next query present =>
    split at found
    next sender data from_sender tagged =>
      split at found
      · cases found
      · split at found
        · cases found
        · obtain rfl := Option.some.inj found
          simp [present, from_sender, Admitted.senderId]
    · cases found
  next message absent present =>
    split at found
    next sender text from_sender written =>
      split at found
      · cases found
      · obtain rfl := Option.some.inj found
        simp [absent, present, from_sender, Admitted.senderId]
    · cases found
  · cases found

theorem addressed_of_admitted {limiter : FixedWindowRateLimiter Int} {reached : Admitted}
    (found : admitted settings handling limiter update = some reached) :
    addressed settings update = some reached :=
  (Option.filter_eq_some_iff.mp found).1

/-- The new history of an update is that of the transition it asks for. -/
theorem newHistory_update {reached : Admitted} {entry : IncidentHistoryEntry}
    (found : admitted settings handling bot.limiter update = some reached) :
    entry ∈ newHistory bot.store (storeAfter settings handling bot update) ↔
      ∃ request incident,
        (admittedWrites settings handling bot.store reached).request = some request ∧
        Applies bot.store.tables request incident ∧
        entry = transitionHistory handling.historyId handling.now request incident := by
  unfold newHistory storeAfter
  rw [found]
  dsimp only [Store.after, tablesAfter]
  cases asked : (admittedWrites settings handling bot.store reached).request with
  | none => simp
  | some request =>
      rcases transitionIncident_cases handling.historyId handling.now bot.store.tables request with
        ⟨records, same, refused⟩ | ⟨incident, records, applies, same⟩
      · dsimp only
        rw [same]
        simp [refused]
      · dsimp only
        rw [same]
        simp only [Database.write, transitionWrites, List.drop_left, List.mem_singleton]
        constructor
        · rintro rfl
          exact ⟨request, incident, rfl, applies, rfl⟩
        · rintro ⟨_, other, same_request, other_applies, rfl⟩
          obtain rfl := Option.some.inj same_request
          obtain rfl := Option.some.inj (applies.found.symm.trans other_applies.found)
          rfl

/-- An update that does not reach the database leaves no history. -/
theorem newHistory_of_not_admitted
    (missing : admitted settings handling bot.limiter update = none) :
    newHistory bot.store (storeAfter settings handling bot update) = [] := by
  unfold newHistory storeAfter
  rw [missing]
  exact List.drop_length

end Updates

/-! ## Runs -/

section Runs

variable {settings : RouterSettings}

/-- **An update changes incidents with authority exactly when the reason it
gives, if any, is authorised.** -/
theorem transitionsAuthorised_update_iff (handling : Handling) (update : TelegramUpdate)
    (watched : Watched) :
    TransitionsAuthorised ⟨watched, .update handling update,
        step settings watched (.update handling update)⟩ ↔
      ReasonAuthorised settings watched (.update handling update) := by
  have store_after : (step settings watched (.update handling update)).bot.store =
      storeAfter settings handling watched.bot update :=
    congrArg Bot.store (handleUpdate_bot watched.bot update)
  constructor
  · rintro authorised senderId operator ⟨updateId, sender, text, link, action, reason, incident,
      rfl, reached, linked, not_command, live, valid, applies⟩
    have asked : (messageWrites settings handling watched.bot.store updateId sender text).request =
        some (reasonRequest updateId (Directory.principalOf link operator) action reason) :=
      message_request linked not_command live valid
    have entry : transitionHistory handling.historyId handling.now
        (reasonRequest updateId (Directory.principalOf link operator) action reason) incident ∈
          newHistory watched.bot.store (step settings watched (.update handling update)).bot.store := by
      rw [store_after, newHistory_update reached]
      exact ⟨_, incident, asked, applies, rfl⟩
    obtain ⟨senderId, later_link, later_operator, sent, later_linked, _, permitted, pressed⟩ :=
      authorised handling update rfl _ entry
    obtain ⟨sender_is, is_message⟩ := senderOf_addressed (addressed_of_admitted reached)
    obtain rfl : sender.id = senderId := Option.some.inj (sender_is.symm.trans sent)
    have same_operator : operator = later_operator := by
      obtain ⟨_, _, _, _, linked_before, linked_after, _⟩ := request_of_message asked
      rw [store_after, storeAfter, reached] at later_linked
      obtain ⟨_, rfl⟩ := Prod.mk.inj (Option.some.inj (linked.symm.trans linked_before))
      exact (Prod.mk.inj (Option.some.inj (linked_after.symm.trans later_linked))).2
    rw [same_operator]
    exact ⟨permitted, pressed (is_message.mpr ⟨updateId, sender, text, rfl⟩)⟩
  · intro authorised handling' update' same entry member
    cases same
    rw [store_after] at member
    cases reached : admitted settings handling watched.bot.limiter update with
    | none => simp [newHistory_of_not_admitted reached] at member
    | some admitted_update =>
        obtain ⟨request, incident, asked, applies, rfl⟩ := (newHistory_update reached).mp member
        obtain ⟨sender_is, is_message⟩ := senderOf_addressed (addressed_of_admitted reached)
        have directory_after : (step settings watched (.update handling update)).bot.store.directory =
            (admittedWrites settings handling watched.bot.store admitted_update).directory := by
          rw [store_after, storeAfter, reached]
          rfl
        rw [directory_after]
        cases admitted_update with
        | message updateId sender text =>
            obtain ⟨link, operator, action, reason, linked, linked_after, not_command, live, valid,
              rfl⟩ := request_of_message asked
            obtain ⟨permitted, pressed⟩ := authorised sender.id operator
              ⟨updateId, sender, text, link, action, reason, incident, rfl, reached, linked,
                not_command, live, valid, applies⟩
            exact ⟨sender.id, _, operator, sender_is, linked_after, rfl, permitted,
              fun _ => pressed⟩
        | press query sender action =>
            obtain ⟨link, operator, linked_after, permitted, actor⟩ := request_of_press asked
            refine ⟨sender.id, _, operator, sender_is, linked_after, ?_, permitted, fun no_press => ?_⟩
            · simp only [transitionHistory, actor, Directory.principalOf]
            · obtain ⟨_, _, _, impossible⟩ := is_message.mp no_press
              cases impossible

theorem step_update (handling : Handling) (update : TelegramUpdate) (watched : Watched) :
    step settings watched (.update handling update) =
      ⟨⟨limiterAfter settings handling watched.bot.limiter update,
          storeAfter settings handling watched.bot update⟩,
        pressersAfter settings handling watched update⟩ :=
  congrArg (Watched.mk · _) (handleUpdate_bot watched.bot update)

end Runs

/-! ## Standing -/

/-- An account acts for an operator, who is active and may change incidents. -/
def Stands (directory : Directory) (telegramUserId : Int) (operatorId : Uuid) : Prop :=
  ∃ link operator, directory.linkedOperator telegramUserId = some (link, operator) ∧
    operator.id = operatorId ∧ roleHasPermission operator.role .transitionIncidents = true

section Standing

variable {directory : Directory} {telegramUserId : Int} {operatorId : Uuid}

/-- A column of the links that nobody stands by may change. -/
theorem Stands.relabelled (stands : Stands directory telegramUserId operatorId)
    {condition : OperatorTelegramLink → Bool}
    {change : OperatorTelegramLink → OperatorTelegramLink}
    (operators : ∀ row, (change row).operatorId = row.operatorId)
    (accounts : ∀ row, (change row).telegramUserId = row.telegramUserId)
    (revocations : ∀ row, (change row).revokedAt = row.revokedAt) :
    Stands { directory with links := updateWhere condition change directory.links } telegramUserId
      operatorId := by
  obtain ⟨link, operator, linked, same, permitted⟩ := stands
  obtain ⟨valid, found, present, active⟩ := Directory.linkedOperator_eq_some.mp linked
  refine ⟨if condition link then change link else link, operator,
    Directory.linkedOperator_eq_some.mpr ⟨valid, ?_, ?_, active⟩, same, permitted⟩
  · unfold Directory.activeLinkForTelegramUser at found ⊢
    rw [find?_updateWhere fun row _ => by rw [accounts, revocations], found]
    rfl
  · have owner : (if condition link then change link else link).operatorId = link.operatorId := by
      split
      · exact operators link
      · rfl
    rw [owner]
    exact present

theorem Stands.authenticated (stands : Stands directory telegramUserId operatorId)
    {now account : Int} {principal : OperatorPrincipal} {stamped : Directory}
    (authenticated : directory.authenticateTelegramUser now account = some (principal, stamped)) :
    Stands stamped telegramUserId operatorId := by
  obtain ⟨⟨link, operator⟩, _, same⟩ := Option.map_eq_some_iff.mp authenticated
  obtain ⟨rfl, rfl⟩ := Prod.mk.inj same
  exact stands.relabelled (fun _ => rfl) (fun _ => rfl) fun _ => rfl

theorem Stands.commanded (stands : Stands directory telegramUserId operatorId)
    (settings : RouterSettings) (account : Int) (command text : String) :
    Stands (commandDirectory settings directory account command text) telegramUserId operatorId := by
  unfold commandDirectory
  split
  · cases chosen : (((parseCommandArgument settings.unicode text).bind fun argument =>
        supportedLanguage (casefold argument)).bind fun language =>
          directory.setTelegramLanguage account language) with
    | none => exact stands
    | some changed =>
        obtain ⟨language, _, set_language⟩ := Option.bind_eq_some_iff.mp chosen
        unfold Directory.setTelegramLanguage at set_language
        split at set_language
        · cases set_language
        · obtain ⟨link, _, rfl⟩ := Option.map_eq_some_iff.mp set_language
          exact stands.relabelled (fun _ => rfl) (fun _ => rfl) fun _ => rfl
  · exact stands

/-- **No update takes the standing of an operator.** -/
theorem Stands.update {settings : RouterSettings} {handling : Handling} {store : Store}
    (stands : Stands store.directory telegramUserId operatorId) (reached : Admitted) :
    Stands (admittedWrites settings handling store reached).directory telegramUserId operatorId := by
  cases reached with
  | message updateId sender text =>
      rw [admittedWrites, messageWrites]
      cases authenticated : store.directory.authenticateTelegramUser handling.now sender.id with
      | none => exact stands
      | some pair =>
          obtain ⟨principal, stamped⟩ := pair
          have still := stands.authenticated authenticated
          dsimp only
          split
          · exact still.commanded settings sender.id _ text
          · split <;> exact still
  | press query sender action =>
      rw [admittedWrites, pressWrites]
      cases authenticated : store.directory.authenticateTelegramUser handling.now sender.id with
      | none => exact stands
      | some pair =>
          obtain ⟨principal, stamped⟩ := pair
          have still := stands.authenticated authenticated
          dsimp only
          split
          · split
            · exact stands
            · split <;> exact still
          · split
            · exact stands
            · split <;> exact still
          · split
            · exact still
            split
            · exact still
            · split <;> exact still

/-- A new link does not take the standing of an operator. -/
theorem Stands.linked (stands : Stands directory telegramUserId operatorId) {linkId newOwner : Uuid}
    {now account : Int} {changed : Directory}
    (accepted : directory.linkTelegramUser linkId now newOwner account = .ok changed) :
    Stands changed telegramUserId operatorId := by
  obtain ⟨link, operator, linked, same, permitted⟩ := stands
  obtain ⟨valid, found, present, active⟩ := Directory.linkedOperator_eq_some.mp linked
  unfold Directory.linkTelegramUser at accepted
  split at accepted
  · cases accepted
  split at accepted
  · cases accepted
  split at accepted
  · cases accepted
  split at accepted
  · cases accepted
  split at accepted
  · cases accepted
  obtain rfl := Except.ok.inj accepted
  refine ⟨link, operator, Directory.linkedOperator_eq_some.mpr ⟨valid, ?_, present, active⟩, same,
    permitted⟩
  unfold Directory.activeLinkForTelegramUser at found ⊢
  rw [List.find?_append, found, Option.some_or]

/-- Only the revocation of its own link takes the standing of an operator. -/
theorem Stands.revoked (stands : Stands directory telegramUserId operatorId) {linkId : Uuid}
    {now : Int} {changed : Directory}
    (accepted : directory.revokeTelegramLink now linkId = .ok changed)
    (others : ∀ link ∈ directory.links, link.id = linkId → link.telegramUserId = telegramUserId →
      link.revokedAt ≠ none) :
    Stands changed telegramUserId operatorId := by
  obtain ⟨link, operator, linked, same, permitted⟩ := stands
  obtain ⟨valid, found, present, active⟩ := Directory.linkedOperator_eq_some.mp linked
  unfold Directory.revokeTelegramLink at accepted
  split at accepted
  · cases accepted
  split at accepted
  · cases accepted
  split at accepted
  · cases accepted
  obtain rfl := Except.ok.inj accepted
  refine ⟨link, operator, Directory.linkedOperator_eq_some.mpr ⟨valid, ?_, present, active⟩, same,
    permitted⟩
  unfold Directory.activeLinkForTelegramUser at found ⊢
  have own : link.telegramUserId = telegramUserId ∧ link.revokedAt = none := by
    simpa using List.find?_some found
  have kept : ¬ link.id = linkId := fun revoked =>
    others link (List.mem_of_find?_eq_some found) revoked own.1 own.2
  rw [find?_updateWhere_of_mem, found, Option.map_some, if_neg (by simpa using kept)]
  intro row member meets
  have revoked_before : row.telegramUserId = telegramUserId → row.revokedAt.isNone = false := by
    intro account
    have : row.revokedAt ≠ none := others row member (of_decide_eq_true meets) account
    cases unrevoked : row.revokedAt with
    | none => exact absurd unrevoked this
    | some _ => rfl
  by_cases account : row.telegramUserId = telegramUserId
  · simp [account, revoked_before account]
  · simp [account]

/-- A change of an operator takes the standing of that operator only, and only by
making the operator inactive or taking the permission. -/
theorem Stands.put (stands : Stands directory telegramUserId operatorId) {changed : Operator}
    (kept : changed.id = operatorId → changed.isActive = true ∧
      roleHasPermission changed.role .transitionIncidents = true) :
    Stands { directory with operators := putRow Operator.id changed directory.operators }
      telegramUserId operatorId := by
  obtain ⟨link, operator, linked, same, permitted⟩ := stands
  obtain ⟨valid, found, present, active⟩ := Directory.linkedOperator_eq_some.mp linked
  have owner : link.operatorId = operatorId := (rowOf_mem present).2.symm.trans same
  have row : rowOf Operator.id (putRow Operator.id changed directory.operators) link.operatorId =
      if changed.id = link.operatorId then some changed else some operator := by
    rw [rowOf_putRow]
    exact congrArg _ present
  by_cases here : changed.id = link.operatorId
  · rw [if_pos here] at row
    have still := kept (here.trans owner)
    exact ⟨link, changed, Directory.linkedOperator_eq_some.mpr ⟨valid, found, row, still.1⟩,
      here.trans owner, still.2⟩
  · rw [if_neg here] at row
    exact ⟨link, operator, Directory.linkedOperator_eq_some.mpr ⟨valid, found, row, active⟩, same,
      permitted⟩

end Standing

/-! ## Pending reasons in a run -/

section Pending

variable {settings : RouterSettings}

/-- A pending reason that an update stores is opened by it. -/
theorem opens_of_slot {handling : Handling} {update : TelegramUpdate} {before after : Watched}
    {reached : Admitted} {telegramUserId : Int} {action : TelegramPendingAction}
    (found : admitted settings handling before.bot.limiter update = some reached)
    (stored : (admittedWrites settings handling before.bot.store reached).slot =
      some (telegramUserId, some action)) :
    action.telegramUserId = telegramUserId ∧
      ∃ operatorId, Opens settings ⟨before, .update handling update, after⟩ telegramUserId
        operatorId := by
  cases reached with
  | message updateId sender text =>
      rw [admittedWrites, messageWrites] at stored
      split at stored
      · cases stored
      split at stored
      · cases stored
      · split at stored <;> cases stored
  | press query sender pressed =>
      rw [admittedWrites, pressWrites] at stored
      cases authenticated : before.bot.store.directory.authenticateTelegramUser handling.now
        sender.id with
      | none => simp [authenticated, UpdateWrites.only] at stored
      | some pair =>
          obtain ⟨principal, stamped⟩ := pair
          obtain ⟨link, operator, linked, rfl, _⟩ :=
            authenticated_iff.2 principal stamped authenticated
          rw [authenticated] at stored
          cases pressed with
          | proposeBlock incidentId =>
              dsimp only at stored
              split at stored
              · cases stored
              · split at stored <;> cases stored
          | decideBlock planId approve =>
              dsimp only at stored
              split at stored
              · cases stored
              · split at stored <;> cases stored
          | incidentAction incidentId targetStatus expectedVersion =>
              dsimp only at stored
              split at stored
              · cases stored
              next permitted =>
                split at stored
                · cases stored
                next terminal =>
                  split at stored
                  · cases stored
                  next unrefused =>
                    obtain ⟨rfl, opened⟩ := Prod.mk.inj (Option.some.inj stored)
                    obtain rfl := Option.some.inj opened
                    refine ⟨rfl, operator.id, ?_⟩
                    unfold precheckTransition at unrefused
                    split at unrefused
                    · exact absurd rfl unrefused
                    next incident present =>
                      split at unrefused
                      · exact absurd rfl unrefused
                      next current =>
                        split at unrefused
                        · exact absurd rfl unrefused
                        next allowed =>
                          exact .press found linked (by simpa [Directory.principalOf] using permitted)
                            terminal present (not_not.mp current) (by simpa using allowed)

/-- A press that opens a pending reason is recorded for the operator of the account,
who stands. -/
theorem Opens.recorded {taken : Taken Watched Label} {telegramUserId : Int} {operatorId : Uuid}
    (opens : Opens settings taken telegramUserId operatorId)
    (stepped : taken.after = step settings taken.before taken.label) :
    taken.after.pressers telegramUserId = some operatorId ∧
      Stands taken.after.bot.store.directory telegramUserId operatorId := by
  cases opens with
  | @press before after handling update query sender incidentId targetStatus expectedVersion link
      operator incident found linked permitted terminal present current allowed =>
      have unrefused : precheckTransition before.bot.store .ru incidentId targetStatus
          expectedVersion = none := by
        rw [precheckTransition, present]
        simp [current, allowed]
      have opened : (admittedWrites settings handling before.bot.store
          (.press query sender (.incidentAction incidentId targetStatus expectedVersion))).slot =
            some (sender.id, some (openedAction settings handling sender.id incidentId targetStatus
              expectedVersion)) := by
        rw [admittedWrites, pressWrites, Directory.authenticateTelegramUser, linked, Option.map_some]
        simp [Directory.principalOf, permitted, terminal, unrefused]
      dsimp only at stepped ⊢
      rw [stepped, step_update]
      dsimp only
      constructor
      · rw [pressersAfter, found]
        dsimp only
        rw [opened]
        dsimp only
        rw [linked]
        exact Function.update_self ..
      · have stands : Stands before.bot.store.directory sender.id operator.id :=
          ⟨link, operator, linked, rfl, permitted⟩
        rw [storeAfter, found]
        exact stands.update _

/-- The pending reason of an account: the press that has opened it, the operator for
whom it is recorded, and who stands as long as nothing disturbs it. -/
def Awaited (settings : RouterSettings) (earlier : List (Taken Watched Label)) (watched : Watched)
    (telegramUserId : Int) : Prop :=
  ∃ front opening between operatorId, earlier = front ++ opening :: between ∧
    Opens settings opening telegramUserId operatorId ∧
    (∀ taken ∈ between, ∀ other, ¬ Opens settings taken telegramUserId other) ∧
    watched.pressers telegramUserId = some operatorId ∧
    ((∀ taken ∈ between, ¬ Disturbs taken telegramUserId operatorId) →
      Stands watched.bot.store.directory telegramUserId operatorId)

/-- A step that neither opens a pending reason of the account nor closes it. -/
theorem Awaited.later {earlier : List (Taken Watched Label)} {taken : Taken Watched Label}
    {telegramUserId : Int} (awaited : Awaited settings earlier taken.before telegramUserId)
    (closed : ∀ other, ¬ Opens settings taken telegramUserId other)
    (pressers : taken.after.pressers telegramUserId = taken.before.pressers telegramUserId)
    (stands : ∀ operatorId, ¬ Disturbs taken telegramUserId operatorId →
      Stands taken.before.bot.store.directory telegramUserId operatorId →
      Stands taken.after.bot.store.directory telegramUserId operatorId) :
    Awaited settings (earlier ++ [taken]) taken.after telegramUserId := by
  obtain ⟨front, opening, between, operatorId, rfl, opens, unopened, recorded, still⟩ := awaited
  refine ⟨front, opening, between ++ [taken], operatorId, by simp, opens, ?_,
    pressers.trans recorded, fun undisturbed => ?_⟩
  · intro later member other
    rcases List.mem_append.mp member with there | here
    · exact unopened later there other
    · obtain rfl := List.mem_singleton.mp here
      exact closed other
  · refine stands operatorId (undisturbed taken (by simp)) (still fun later member => ?_)
    exact undisturbed later (List.mem_append_left _ member)

section Update

variable {handling : Handling} {update : TelegramUpdate} {before : Watched} {telegramUserId : Int}

/-- An update that opens no pending reason of an account leaves who has opened one. -/
theorem pressers_of_closed
    (closed : ∀ other, ¬ Opens settings ⟨before, .update handling update,
      step settings before (.update handling update)⟩ telegramUserId other) :
    (step settings before (.update handling update)).pressers telegramUserId =
      before.pressers telegramUserId := by
  rw [step, pressersAfter]
  cases found : admitted settings handling before.bot.limiter update with
  | none => rfl
  | some reached =>
      dsimp only
      cases stored : (admittedWrites settings handling before.bot.store reached).slot with
      | none => rfl
      | some slot =>
          obtain ⟨account, content⟩ := slot
          cases content with
          | none => rfl
          | some action =>
              have different : telegramUserId ≠ account := by
                rintro rfl
                obtain ⟨_, operatorId, opens⟩ := opens_of_slot found stored
                exact closed operatorId opens
              exact Function.update_of_ne different ..

/-- A pending reason after an update has been there before, or the update opens it. -/
theorem pending_of_closed {action : TelegramPendingAction}
    (member : action ∈ (step settings before (.update handling update)).bot.store.pendingActions)
    (closed : ∀ other, ¬ Opens settings ⟨before, .update handling update,
      step settings before (.update handling update)⟩ action.telegramUserId other) :
    action ∈ before.bot.store.pendingActions := by
  rw [step_update, storeAfter] at member
  dsimp only at member
  split at member
  · exact member
  next reached found =>
    rw [Store.after] at member
    dsimp only at member
    cases stored : (admittedWrites settings handling before.bot.store reached).slot with
    | none =>
        rw [stored] at member
        exact member
    | some slot =>
        obtain ⟨account, content⟩ := slot
        rw [stored] at member
        cases content with
        | none => exact (List.mem_filter.mp member).1
        | some opened =>
            rcases mem_putRow.mp member with rfl | ⟨there, _⟩
            · obtain ⟨rfl, operatorId, opens⟩ := opens_of_slot found stored
              exact absurd opens (closed operatorId)
            · exact there

theorem Stands.step_update {operatorId : Uuid}
    (stands : Stands before.bot.store.directory telegramUserId operatorId) :
    Stands (step settings before (.update handling update)).bot.store.directory telegramUserId
      operatorId := by
  rw [Authorisation.step_update, storeAfter]
  dsimp only
  split
  · exact stands
  · exact stands.update _

end Update

/-- **Every pending reason after a step is awaited**, if every one before it is. -/
theorem Awaited.step {earlier : List (Taken Watched Label)} {before after : Watched} {label : Label}
    (stepped : after = Authorisation.step settings before label)
    (awaited : ∀ action ∈ before.bot.store.pendingActions,
      Awaited settings earlier before action.telegramUserId) :
    ∀ action ∈ after.bot.store.pendingActions,
      Awaited settings (earlier ++ [⟨before, label, after⟩]) after action.telegramUserId := by
  intro action member
  by_cases opened : ∃ operatorId,
      Opens settings ⟨before, label, after⟩ action.telegramUserId operatorId
  · obtain ⟨operatorId, opens⟩ := opened
    obtain ⟨recorded, stands⟩ := opens.recorded stepped
    exact ⟨earlier, _, [], operatorId, rfl, opens, by simp, recorded, fun _ => stands⟩
  have closed : ∀ other, ¬ Opens settings ⟨before, label, after⟩ action.telegramUserId other :=
    fun other opens => opened ⟨other, opens⟩
  subst stepped
  cases label with
  | update handling update =>
      have there := pending_of_closed member closed
      exact @Awaited.later _ _ ⟨before, _, _⟩ _ (awaited action there) closed
        (pressers_of_closed closed) fun _ _ stands => stands.step_update
  | linkTelegramUser linkId now operatorId telegramUserId =>
      have same : (Authorisation.step settings before
          (.linkTelegramUser linkId now operatorId telegramUserId)).bot.store.pendingActions =
            before.bot.store.pendingActions ∧ (Authorisation.step settings before
          (.linkTelegramUser linkId now operatorId telegramUserId)).pressers = before.pressers := by
        rw [Authorisation.step]
        split <;> exact ⟨rfl, rfl⟩
      rw [same.1] at member
      refine @Awaited.later _ _ ⟨before, _, _⟩ _ (awaited action member) closed
        (congrFun same.2 _) fun owner _ stands => ?_
      dsimp only [Authorisation.step]
      split
      · exact stands
      next changed accepted => exact stands.linked accepted
  | revokeTelegramLink now linkId =>
      have same : (Authorisation.step settings before
          (.revokeTelegramLink now linkId)).bot.store.pendingActions =
            before.bot.store.pendingActions ∧ (Authorisation.step settings before
          (.revokeTelegramLink now linkId)).pressers = before.pressers := by
        rw [Authorisation.step]
        split <;> exact ⟨rfl, rfl⟩
      rw [same.1] at member
      refine @Awaited.later _ _ ⟨before, _, _⟩ _ (awaited action member) closed
        (congrFun same.2 _) fun owner undisturbed stands => ?_
      dsimp only [Authorisation.step]
      split
      · exact stands
      next changed accepted =>
        exact stands.revoked accepted fun link there revoked account unrevoked =>
          undisturbed ⟨link, there, revoked, account, unrevoked⟩
  | putOperator operator =>
      refine @Awaited.later _ _ ⟨before, _, _⟩ _ (awaited action member) closed rfl
        fun owner undisturbed stands => stands.put fun same => ?_
      have kept : ¬ (operator.isActive = false ∨
          roleHasPermission operator.role .transitionIncidents = false) :=
        fun lost => undisturbed ⟨same, lost⟩
      simpa using kept
  | others tables servers plans allowlist =>
      exact @Awaited.later _ _ ⟨before, _, _⟩ _ (awaited action member) closed rfl
        fun _ _ stands => stands
  | restart =>
      exact @Awaited.later _ _ ⟨before, _, _⟩ _ (awaited action member) closed rfl
        fun _ _ stands => stands

/-- **Every pending reason in a run is awaited.** -/
theorem awaited_of_run {start finish : Watched} {path : List (Taken Watched Label)}
    (run : Run (Steps settings) start path finish) (idle : start.bot.store.pendingActions = []) :
    ∀ action ∈ finish.bot.store.pendingActions,
      Awaited settings path finish action.telegramUserId := by
  refine run.extend (motive := fun path finish => ∀ action ∈ finish.bot.store.pendingActions,
    Awaited settings path finish action.telegramUserId) ?_ ?_
  · rw [idle]
    exact fun _ member => absurd member List.not_mem_nil
  · exact fun earlier before label after _ awaited stepped => Awaited.step stepped awaited

/-- The reason of an awaited account is authorised. -/
theorem reasonAuthorised_of_awaited {earlier later : List (Taken Watched Label)} {before : Watched}
    {label : Label} {after : Watched}
    (awaited : ∀ action ∈ before.bot.store.pendingActions,
      Awaited settings earlier before action.telegramUserId)
    (undisturbed : Undisturbed settings (earlier ++ ⟨before, label, after⟩ :: later)) :
    ReasonAuthorised settings before label := by
  cases label with
  | update handling update =>
      rintro senderId operator ⟨updateId, sender, text, link, action, reason, incident, rfl,
        reached, linked, not_command, live, valid, applies⟩
      have found : pendingAction? before.bot.store sender.id = some action := by
        unfold lookupPendingAction at live
        split at live
        · cases live
        next stored there =>
          split at live
          · cases live
          · obtain rfl := PendingActionLookup.live.inj live
            exact there
      obtain ⟨member, account⟩ := rowOf_mem found
      obtain ⟨front, opening, between, operatorId, rfl, opens, unopened, recorded, still⟩ :=
        awaited action member
      rw [account] at opens unopened recorded still
      have gives : GivesReason settings ⟨before, .update handling update, after⟩ sender.id :=
        .text reached not_command live valid
      obtain ⟨later_link, owner, owner_linked, same, permitted⟩ :=
        still (undisturbed front opening between _ later sender.id operatorId (by simp) opens
          unopened gives)
      obtain ⟨_, rfl⟩ := Prod.mk.inj (Option.some.inj (linked.symm.trans owner_linked))
      exact ⟨permitted, same ▸ recorded⟩
  | _ => trivial

/-- **Transitions are authorised.** In every run that starts without a pending reason,
with links made and revoked, operators changed, tables written by others, restarts and
updates in any order: if nobody who has pressed a button loses the role, the activity
or the link before the reason is given, every transition of the bot is attributed to
an operator who may make it and who has asked for it. -/
theorem transitions_authorised_of_undisturbed {start finish : Watched}
    {path : List (Taken Watched Label)} (run : Run (Steps settings) start path finish)
    (idle : start.bot.store.pendingActions = []) (undisturbed : Undisturbed settings path) :
    ∀ taken ∈ path, TransitionsAuthorised taken := by
  intro taken member
  obtain ⟨earlier, later, rfl⟩ := List.mem_iff_append.mp member
  obtain ⟨first, stepped, _⟩ := run.around
  obtain ⟨before, label, after⟩ := taken
  obtain rfl : after = step settings before label := stepped
  cases label with
  | update handling update =>
      exact (transitionsAuthorised_update_iff handling update before).mpr
        (reasonAuthorised_of_awaited (awaited_of_run first idle) undisturbed)
  | _ => exact fun _ _ impossible => nomatch impossible

end Pending

/-! ## A press and its reason -/

/-- The account 555, linked to an operator with a role, and a new incident. -/
def linkedInstallation (role : OperatorRole) : Store :=
  { Store.empty with
    tables := { Database.empty with incidents := [sampleIncident] }
    directory := ⟨[⟨10, "operator", role, true⟩], [⟨20, 10, 555, 0, none, none, none⟩]⟩ }

/-- A message from the account 555 in its private chat. -/
def privateMessage (text : String) : TelegramMessage :=
  ⟨1, some ⟨555, false, none⟩, ⟨555, "private"⟩, some text⟩

/-- A press of the button that resolves the incident. -/
def resolvePress (updateId : Int) : TelegramUpdate :=
  ⟨updateId, none, some ⟨"press", some ⟨555, false, none⟩, some (privateMessage "incident"),
    some "1:rs:00000000-0000-0000-0000-000000000001:1"⟩⟩

/-- The readings of an update in second `n`. -/
def handlingAt (n : Nat) : Handling :=
  ⟨seconds n, n, BitVec.ofNat 128 n, BitVec.ofNat 128 n, true⟩

def sampleSettings : RouterSettings := .defaults .defaults

def analystStart : Watched := ⟨.started (linkedInstallation .analyst), fun _ => none⟩

/-- The reason that follows in second 2. -/
def reasonLabel : Label := .update (handlingAt 2) ⟨2, some (privateMessage "ok"), none⟩

/-- An analyst asks for a reason and gives it, and meanwhile another operator becomes
a viewer. -/
def pressThenReason : List Label :=
  [.update (handlingAt 1) (resolvePress 1), .putOperator ⟨11, "other", .viewer, true⟩, reasonLabel]

theorem pressThenReason_resolves :
    (pressThenReason.foldl (step sampleSettings) analystStart).bot.store.tables.incidents.map
      (·.status) = [.resolved] := by
  simp only [pressThenReason, reasonLabel, List.foldl_cons, List.foldl_nil, step_update]
  decide +kernel

/-- A press comes from an account and is by its operator. -/
theorem Opens.account {settings : RouterSettings} {before after : Watched} {handling : Handling}
    {update : TelegramUpdate} {telegramUserId : Int} {operatorId : Uuid}
    (opens : Opens settings ⟨before, .update handling update, after⟩ telegramUserId
      operatorId) :
    update.callbackQuery ≠ none ∧ ∀ account, senderOf update = some account →
      (before.bot.store.directory.linkedOperator account).map (·.2.id) = some operatorId := by
  cases opens with
  | @press _ _ _ _ query sender incidentId targetStatus expectedVersion link operator incident
      found linked =>
      obtain ⟨sender_is, is_message⟩ := senderOf_addressed (addressed_of_admitted found)
      refine ⟨fun no_press => ?_, fun account sent => ?_⟩
      · obtain ⟨_, _, _, impossible⟩ := is_message.mp no_press
        cases impossible
      · have same : account = sender.id := Option.some.inj (sent.symm.trans sender_is)
        rw [same, linked]
        rfl

/-- The only press is by the analyst. -/
theorem opens_pressThenReason {opening : Taken Watched Label} {telegramUserId : Int}
    {operatorId : Uuid}
    (member : opening ∈ Run.trace (step sampleSettings) analystStart pressThenReason)
    (opens : Opens sampleSettings opening telegramUserId operatorId) : operatorId = 10 := by
  have linked_analyst : (analystStart.bot.store.directory.linkedOperator 555).map (·.2.id) =
      some 10 := by decide
  simp only [pressThenReason, Run.trace, List.mem_cons, List.not_mem_nil, or_false] at member
  rcases member with rfl | rfl | rfl
  · exact Option.some.inj ((opens.account.2 555 rfl).symm.trans linked_analyst)
  · generalize step sampleSettings analystStart _ = before at opens
    cases opens
  · exact absurd rfl opens.account.1

/-- An analyst resolves an incident with a reason. -/
theorem transitions_authorised_of_undisturbed_analyst :
    ∃ path finish, Run (Steps sampleSettings) analystStart path finish ∧
      finish.bot.store.tables.incidents.map (·.status) = [.resolved] ∧
      ∀ taken ∈ path, TransitionsAuthorised taken := by
  have run := Run.of_trace (step sampleSettings) analystStart pressThenReason
  refine ⟨_, _, run, pressThenReason_resolves, transitions_authorised_of_undisturbed run rfl ?_⟩
  intro front opening between giving back telegramUserId operatorId whole opens _ _ taken member
    disturbs
  have opened : operatorId = 10 := by
    refine opens_pressThenReason ?_ opens
    rw [whole]
    exact List.mem_append_right _ List.mem_cons_self
  have among : taken ∈ Run.trace (step sampleSettings) analystStart pressThenReason := by
    rw [whole]
    exact List.mem_append_right _ (List.mem_cons_of_mem _ (List.mem_append_left _ member))
  simp only [pressThenReason, Run.trace, List.mem_cons, List.not_mem_nil, or_false] at among
  rcases among with rfl | rfl | rfl
  · exact disturbs
  · have other : (11 : Uuid) = operatorId := disturbs.1
    rw [opened] at other
    exact absurd other (by decide)
  · exact disturbs

/-! ## A reason after a demotion -/

/-- An analyst presses the button in second 1 and loses the role. -/
def pressThenDemotion : List Label :=
  [.update (handlingAt 1) (resolvePress 1), .putOperator ⟨10, "operator", .viewer, true⟩]

def demoted : Watched := pressThenDemotion.foldl (step sampleSettings) analystStart

def demotedReason : Taken Watched Label :=
  ⟨demoted, reasonLabel, step sampleSettings demoted reasonLabel⟩

/-- The reason is accepted from an account whose operator is a viewer. -/
theorem demotedReason_facts :
    (newHistory demotedReason.before.bot.store demotedReason.after.bot.store).length = 1 ∧
      senderOf ⟨2, some (privateMessage "ok"), none⟩ = some 555 ∧
      (demotedReason.after.bot.store.directory.linkedOperator 555).map (·.2.role) =
        some .viewer := by
  simp only [demotedReason, demoted, pressThenDemotion, reasonLabel, List.foldl_cons,
    List.foldl_nil, step_update]
  decide +kernel

/-- **A demoted operator changes an incident through Telegram.** -/
theorem demoted_operator_resolves_incident :
    ∃ path finish, Run (Steps sampleSettings) analystStart path finish ∧
      ¬ ∀ taken ∈ path, TransitionsAuthorised taken := by
  refine ⟨_, _, Run.of_trace (step sampleSettings) analystStart
    (pressThenDemotion ++ [reasonLabel]), fun authorised => ?_⟩
  have member : demotedReason ∈
      Run.trace (step sampleSettings) analystStart (pressThenDemotion ++ [reasonLabel]) :=
    List.mem_cons_of_mem _ (List.mem_cons_of_mem _ List.mem_cons_self)
  obtain ⟨one_entry, sent, viewer⟩ := demotedReason_facts
  obtain ⟨entry, is_entry⟩ := List.exists_mem_of_length_pos (one_entry.symm ▸ Nat.zero_lt_one)
  obtain ⟨senderId, link, operator, sender_is, linked, _, permitted, _⟩ :=
    authorised demotedReason member _ _ rfl entry is_entry
  obtain rfl := Option.some.inj (sent.symm.trans sender_is)
  rw [linked] at viewer
  have role : operator.role = .viewer := Option.some.inj viewer
  rw [role] at permitted
  cases permitted

end WolandGuard.Telegram.Authorisation
