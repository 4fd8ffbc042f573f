import WolandGuard.Foundations.Runs
import WolandGuard.Incidents.LockedTables
import WolandGuard.Telegram.Authorisation
import WolandGuard.Telegram.Notifications

/-!
# Presses on notices

A notice stays in its chat for good, and its buttons can be pressed by anyone
there, at any time and in any order with replies, dashboard requests and
ingestion. What they may do is bound by the notice: the bot changes no incident
but one of a notice, it changes it only while it is at the version that the
notice was sent at, and only along an allowed transition
(`notice_presses_bound`).

A press of a terminal status opens a pending action, which a later reply turns
into a request. So the invariant of a run is that every pending action was
opened by a notice.
-/

set_option autoImplicit false

namespace WolandGuard.Telegram

open Foundations Incidents Outbox

/-! ## Steps -/

inductive ChatLabel where
  | update (handling : Handling) (update : TelegramUpdate)
  | elsewhere

/-- The bot after it has handled an update. -/
def Bot.handled (bot : Bot) (settings : RouterSettings) (handling : Handling)
    (update : TelegramUpdate) : Bot :=
  (handleUpdate settings handling bot update).bot

/-- The bot handles an update, or the store changes elsewhere. Pending actions
are written by the bot alone. -/
inductive ChatStep (settings : RouterSettings) : Bot → ChatLabel → Bot → Prop where
  | update (bot : Bot) (handling : Handling) (update : TelegramUpdate) :
      ChatStep settings bot (.update handling update) (bot.handled settings handling update)
  | elsewhere {bot : Bot} {store : Store} (kept : store.pendingActions = bot.store.pendingActions) :
      ChatStep settings bot .elsewhere ⟨bot.limiter, store⟩

/-- The data of a button on a notice about one of these incidents. -/
def NoticeData (noticed : Uuid → Prop) (data : String) : Prop :=
  ∃ language origin incidentId keyboard, noticed incidentId ∧
    buildIncidentActionKeyboard language incidentId origin = .ok keyboard ∧
    some data ∈ keyboard.flatten.map NoticeButton.callbackData?

/-- The data of a button on the message that follows a proposal. -/
def DecisionData (data : String) : Prop :=
  ∃ planId approve, encodeDecideBlock planId approve = .ok data

/-- An update whose press, if it is one, is of a button that was sent. -/
def ChatLabel.PressesSent (noticed : Uuid → Prop) : ChatLabel → Prop
  | .update _ received => ∀ query ∈ received.callbackQuery, ∀ data ∈ query.data,
      NoticeData noticed data ∨ DecisionData data
  | .elsewhere => True

/-! ## What a press stands for -/

/-- The statuses that the buttons of a notice ask for. -/
def buttonStatuses : List IncidentStatus := [.investigating, .falsePositive, .resolved]

/-- An action that a button of a notice stands for, or a decision. -/
def CallbackAction.OfNotice (noticed : Uuid → Prop) : CallbackAction → Prop
  | .incidentAction incidentId targetStatus expectedVersion =>
      noticed incidentId ∧ targetStatus ∈ buttonStatuses ∧
        expectedVersion = newlyCreatedIncidentVersion
  | .proposeBlock incidentId => noticed incidentId
  | .decideBlock _ _ => True

section Presses

variable {unicode : DecimalTables} {noticed : Uuid → Prop} {data : String}
variable {action : CallbackAction}

/-- **The button of a notice is read as an action on its incident.** -/
theorem ofNotice_of_noticeData (sent : NoticeData noticed data)
    (parsed : parseCallbackData unicode.toUnicodeData data = .ok action) :
    action.OfNotice noticed := by
  obtain ⟨language, origin, incidentId, keyboard, told, built, member⟩ := sent
  rw [buildIncidentActionKeyboard_eq] at built
  split at built
  · obtain rfl := Except.ok.inj built
    have read := parse_incidentKeyboard unicode language incidentId origin.text
    obtain ⟨button, here, same⟩ := List.mem_map.mp member
    have listed : (Except.ok action : Except CallbackDataError CallbackAction) ∈
        (noticeActions incidentId).map .ok := by
      rw [← read, ← parsed]
      exact List.mem_map_of_mem (List.mem_filterMap.mpr ⟨button, here, same⟩)
    obtain ⟨other, offered, equal⟩ := List.mem_map.mp listed
    obtain rfl := Except.ok.inj equal
    simp only [noticeActions, List.mem_cons, List.not_mem_nil, or_false] at offered
    rcases offered with rfl | rfl | rfl | rfl
    · exact ⟨told, by decide, rfl⟩
    · exact ⟨told, by decide, rfl⟩
    · exact ⟨told, by decide, rfl⟩
    · exact told
  · cases built

theorem ofNotice_of_decisionData (sent : DecisionData data)
    (parsed : parseCallbackData unicode.toUnicodeData data = .ok action) :
    action.OfNotice noticed := by
  obtain ⟨planId, approve, encoded⟩ := sent
  have decision : (CallbackAction.decideBlock planId approve).encode = .ok data := encoded
  rw [(parse_of_encode unicode decision).1] at parsed
  obtain rfl := Except.ok.inj parsed
  trivial

end Presses

/-! ## What a step may do to incidents -/

/-- The incidents afterwards: each as it was, or one of a notice that has left
the version of the notice by an allowed transition. -/
def BoundByNotices (noticed : Uuid → Prop) (now : Int) (before after : Database) : Prop :=
  ∀ incidentId, after.incident? incidentId = before.incident? incidentId ∨
    noticed incidentId ∧ ∃ incident, ∃ target ∈ buttonStatuses,
      before.incident? incidentId = some incident ∧
        incident.lockVersion = newlyCreatedIncidentVersion ∧
        isTransitionAllowed incident.status target = true ∧
        after.incident? incidentId = some (transitioned incident target now)

/-- A pending action that a notice has opened. -/
def OpenedByNotice (noticed : Uuid → Prop) (action : TelegramPendingAction) : Prop :=
  noticed action.incidentId ∧ action.targetStatus ∈ buttonStatuses ∧
    action.expectedVersion = newlyCreatedIncidentVersion

/-- A request for a transition that a notice offers. -/
def AskedByNotice (noticed : Uuid → Prop) (request : TransitionRequest) : Prop :=
  noticed request.incidentId ∧ request.transition.targetStatus ∈ buttonStatuses ∧
    request.transition.expectedVersion = newlyCreatedIncidentVersion

theorem BoundByNotices.refl (noticed : Uuid → Prop) (now : Int) (db : Database) :
    BoundByNotices noticed now db db := fun _ => .inl rfl

/-- **A request that a notice offers changes at most its incident, at its
version.** -/
theorem boundByNotices_of_asked {noticed : Uuid → Prop} {request : TransitionRequest}
    (asked : AskedByNotice noticed request) (historyId : Uuid) (now : Int) (db : Database) :
    BoundByNotices noticed now db (transitionIncident historyId now db request).1 := by
  obtain ⟨told, offered, version⟩ := asked
  intro incidentId
  rcases transitionIncident_cases historyId now db request with
    ⟨records, result, _⟩ | ⟨incident, records, applies, result⟩
  · rw [result]
    exact .inl rfl
  · have written : Database.incident? (transitionIncident historyId now db request).1 incidentId =
        (db.write (transitionWrites historyId now request incident)).incident? incidentId := by
      rw [result]
      rfl
    have key := (rowOf_mem applies.found).2
    rw [written, incident?_write]
    simp only [transitionWrites, transitioned]
    by_cases same : incident.id = incidentId
    · subst same
      refine .inr ⟨key ▸ told, incident, _, offered, key ▸ applies.found,
        applies.current.trans version, applies.allowed, ?_⟩
      simp
    · refine .inl ?_
      simp [same]

/-! ## What an update asks for -/

section Writes

variable {settings : RouterSettings} {handling : Handling} {store : Store}
variable {noticed : Uuid → Prop} {reached : Admitted}

/-- An update that reaches the database by a button that was sent, or as a
message. -/
def Admitted.OfNotice (noticed : Uuid → Prop) : Admitted → Prop
  | .message _ _ _ => True
  | .press _ _ action => action.OfNotice noticed

/-- **Requests are asked for by notices.** -/
theorem askedByNotice_of_admittedWrites {request : TransitionRequest}
    (pressed : reached.OfNotice noticed)
    (pending : ∀ action ∈ store.pendingActions, OpenedByNotice noticed action)
    (asked : (admittedWrites settings handling store reached).request = some request) :
    AskedByNotice noticed request := by
  cases reached with
  | message updateId sender text =>
      simp only [admittedWrites, messageWrites] at asked
      split at asked
      · cases asked
      split at asked
      · cases asked
      split at asked
      · cases asked
      · cases asked
      next action live =>
        dsimp only at asked
        split at asked
        · cases asked
        next reason valid =>
          obtain rfl := Option.some.inj asked
          unfold lookupPendingAction at live
          split at live
          · cases live
          next stored found =>
            split at live
            · cases live
            · obtain rfl := PendingActionLookup.live.inj live
              exact pending stored (rowOf_mem found).1
  | press query sender action =>
      simp only [admittedWrites, pressWrites] at asked
      split at asked
      · cases asked
      cases action with
      | proposeBlock incidentId =>
          dsimp only at asked
          split at asked
          · cases asked
          · split at asked <;> cases asked
      | decideBlock planId approve =>
          dsimp only at asked
          split at asked
          · cases asked
          · split at asked <;> cases asked
      | incidentAction incidentId targetStatus expectedVersion =>
          dsimp only at asked
          split at asked
          · cases asked
          split at asked
          next direct =>
            obtain rfl := Option.some.inj asked
            exact pressed
          · split at asked <;> cases asked

/-- **Pending actions are opened by notices.** -/
theorem openedByNotice_of_admittedWrites {telegramUserId : Int} {opened : TelegramPendingAction}
    (pressed : reached.OfNotice noticed)
    (filled : (admittedWrites settings handling store reached).slot =
      some (telegramUserId, some opened)) : OpenedByNotice noticed opened := by
  cases reached with
  | message updateId sender text =>
      simp only [admittedWrites, messageWrites] at filled
      split at filled
      · cases filled
      split at filled
      · cases filled
      split at filled <;> cases filled
  | press query sender action =>
      simp only [admittedWrites, pressWrites] at filled
      split at filled
      · cases filled
      cases action with
      | proposeBlock incidentId =>
          dsimp only at filled
          split at filled
          · cases filled
          · split at filled <;> cases filled
      | decideBlock planId approve =>
          dsimp only at filled
          split at filled
          · cases filled
          · split at filled <;> cases filled
      | incidentAction incidentId targetStatus expectedVersion =>
          dsimp only at filled
          split at filled
          · cases filled
          split at filled
          · cases filled
          split at filled
          · cases filled
          · obtain rfl := Option.some.inj (Prod.mk.inj (Option.some.inj filled)).2
            exact pressed

/-- A write to a slot keeps what holds of every pending action. -/
theorem mem_slotsAfter {holds : TelegramPendingAction → Prop} {rows : List TelegramPendingAction}
    {slot : Option (Int × Option TelegramPendingAction)} (each : ∀ action ∈ rows, holds action)
    (filled : ∀ telegramUserId opened, slot = some (telegramUserId, some opened) → holds opened) :
    ∀ action ∈ slotsAfter rows slot, holds action := by
  intro action member
  match slot, filled with
  | none, _ => exact each action member
  | some (telegramUserId, none), _ => exact each action (List.mem_of_mem_filter member)
  | some (telegramUserId, some opened), filled =>
      rcases mem_putRow.mp member with rfl | ⟨old, _⟩
      · exact filled telegramUserId _ rfl
      · exact each action old

end Writes

/-! ## Runs -/

section Runs

variable {settings : RouterSettings} {noticed : Uuid → Prop}

/-- The Unicode tables agree with ASCII below 128. -/
def RouterSettings.AsciiDigits (settings : RouterSettings) : Prop :=
  ∀ c : Char, c.toNat < 128 → settings.unicode.decimal c = UnicodeData.ascii.decimal c

theorem ofNotice_of_admitted (digits : settings.AsciiDigits) {handling : Handling} {bot : Bot}
    {received : TelegramUpdate} {reached : Admitted}
    (sent : (ChatLabel.update handling received).PressesSent noticed)
    (reaches : admitted settings handling bot.limiter received = some reached) :
    reached.OfNotice noticed := by
  have there := (Option.filter_eq_some_iff.mp reaches).1
  unfold addressed at there
  split at there
  next query pressed =>
    split at there
    next sender data _ carried =>
      split at there
      · cases there
      · split at there
        · cases there
        next action parsed =>
          obtain rfl := Option.some.inj there
          have read : parseCallbackData
            (DecimalTables.mk settings.unicode digits).toUnicodeData data = .ok action := parsed
          rcases sent query pressed data carried with notice | decision
          · exact ofNotice_of_noticeData notice read
          · exact ofNotice_of_decisionData decision read
    · cases there
  · split at there
    · split at there
      · cases there
      · obtain rfl := Option.some.inj there
        trivial
    · cases there
  · cases there

/-- **A step keeps the pending actions, and the bot changes incidents as the
notices allow.** -/
theorem ChatStep.bound (digits : settings.AsciiDigits) {bot after : Bot} {label : ChatLabel}
    (step : ChatStep settings bot label after) (sent : label.PressesSent noticed)
    (pending : ∀ action ∈ bot.store.pendingActions, OpenedByNotice noticed action) :
    (∀ action ∈ after.store.pendingActions, OpenedByNotice noticed action) ∧
      ∀ handling received, label = .update handling received →
        BoundByNotices noticed handling.now bot.store.tables after.store.tables := by
  cases step with
  | elsewhere kept =>
      refine ⟨?_, fun _ _ impossible => by cases impossible⟩
      rw [kept]
      exact pending
  | update handling received =>
      rw [Bot.handled, handleUpdate_bot]
      unfold storeAfter
      split
      · refine ⟨pending, fun _ _ _ => .refl _ _ _⟩
      next reached reaches =>
        have pressed := ofNotice_of_admitted digits sent reaches
        refine ⟨mem_slotsAfter pending fun _ _ filled =>
          openedByNotice_of_admittedWrites pressed filled, ?_⟩
        rintro _ _ ⟨rfl, rfl⟩
        simp only [Store.after]
        unfold tablesAfter
        split
        · exact .refl _ _ _
        next request asked =>
          exact boundByNotices_of_asked (askedByNotice_of_admittedWrites pressed pending asked) _ _ _

/-- Every update on a path changes incidents as the notices allow. -/
def BoundAlong (noticed : Uuid → Prop) (path : List (Taken Bot ChatLabel)) : Prop :=
  ∀ taken ∈ path, ∀ handling received, taken.label = .update handling received →
    BoundByNotices noticed handling.now taken.before.store.tables taken.after.store.tables

/-- **Presses on notices are bound to the notices.** In every run from an empty
table of pending actions, where the bot handles updates in any order with
changes made elsewhere, and every press is of a button that was sent with a
notice or with a block proposal: an update changes no incident but one of a
notice, only while it is at the version it was created with, and only to a
status that the buttons offer and the workflow allows. -/
theorem notice_presses_bound (digits : settings.AsciiDigits) {start finish : Bot}
    {path : List (Taken Bot ChatLabel)} (run : Run (ChatStep settings) start path finish)
    (unasked : start.store.pendingActions = [])
    (sent : ∀ taken ∈ path, taken.label.PressesSent noticed) : BoundAlong noticed path := by
  intro taken member handling received label
  have kept : ∀ s label t, (∀ action ∈ s.store.pendingActions, OpenedByNotice noticed action) →
      label.PressesSent noticed ∧ ChatStep settings s label t →
        ∀ action ∈ t.store.pendingActions, OpenedByNotice noticed action :=
    fun _ _ _ pending step => (step.2.bound digits step.1 pending).1
  have opened := ((run.guarded sent).invariant_at kept (by simp [unasked]) member).1
  exact ((run.taken_step member).bound digits (sent taken member) opened).2 handling received label

end Runs

open Authorisation (linkedInstallation sampleSettings handlingAt resolvePress privateMessage)

def noticedBot : Bot := .started (linkedInstallation .analyst)

/-- The third button of the notice is pressed. -/
def pressedBot : Bot :=
  noticedBot.handled sampleSettings (handlingAt 1) (resolvePress 1)

/-- And the reason is given. -/
def reasonedBot : Bot :=
  pressedBot.handled sampleSettings (handlingAt 2) ⟨2, some (privateMessage "ok"), none⟩

def reasonedPath : List (Taken Bot ChatLabel) :=
  [⟨noticedBot, .update (handlingAt 1) (resolvePress 1), pressedBot⟩,
    ⟨pressedBot, .update (handlingAt 2) ⟨2, some (privateMessage "ok"), none⟩, reasonedBot⟩]

/-- The notice of an incident at version one lets an analyst resolve it. -/
theorem notice_presses_bound_resolved : BoundAlong (· = 1) reasonedPath := by
  have run : Run (ChatStep sampleSettings) noticedBot reasonedPath reasonedBot :=
    .cons (.update _ _ _) (.cons (.update _ _ _) (.nil _))
  have digits : sampleSettings.AsciiDigits := fun _ _ => rfl
  have button : NoticeData (· = 1) "1:rs:00000000-0000-0000-0000-000000000001:1" := by
    refine ⟨.en, ⟨"https://guard.test", "https", "guard.test", "", ""⟩, 1,
      incidentKeyboard .en 1 "https://guard.test", rfl, ?_, by decide +kernel⟩
    rw [buildIncidentActionKeyboard_eq]
    rfl
  have sent : ∀ taken ∈ reasonedPath, taken.label.PressesSent (· = 1) := by
    intro taken member
    simp only [reasonedPath, List.mem_cons, List.not_mem_nil, or_false] at member
    rcases member with rfl | rfl
    · intro query pressed data carried
      obtain rfl := Option.some.inj pressed
      obtain rfl := Option.some.inj carried
      exact .inl button
    · intro query pressed
      cases pressed
  exact notice_presses_bound digits run rfl sent

end WolandGuard.Telegram
