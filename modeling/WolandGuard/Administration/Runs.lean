import WolandGuard.Administration.Destinations

/-!
# Runs of the administration

Commands of the local command line, requests of operators, logins and Telegram
updates commit one after the other, or are refused and leave everything as it
was. From a new installation on, the replay of the audit log is the standing of
the tables, and a destination that is switched on has a token file that was
found ready under the name it still has.
-/

set_option autoImplicit false

namespace WolandGuard.Administration

open Detection (Severity)
open Foundations Incidents IpBlocks Outbox Sessions Telegram

/-! ## Requests -/

/-- A use of keys and sessions. -/
inductive SessionUse where
  | login (request : LoginRequest)
  | authenticate (request : AuthenticateRequest)
  | mutate (request : MutationRequest)
  | logout (request : LogoutRequest)

def SessionUse.operation : SessionUse → SessionOperation
  | .login request => .login request
  | .authenticate request => .authenticate request
  | .mutate request => .mutate request
  | .logout request => .logout request

inductive AdministrationRequest where
  | createOperator (operatorId : Uuid) (username : String) (role : OperatorRole)
  | issueKey (label : Option String) (request : IssueRequest)
  | rotateKey (label : Option String) (request : RotateRequest)
  | revokeKey (request : RevokeRequest)
  | linkTelegram (linkId operatorId : Uuid) (telegramUserId : Int)
  | revokeLink (linkId : Uuid)
  | createDestination (destinationId : Uuid) (chatId : Int) (tokenFileName : String)
      (minimumSeverity : Severity) (ready : String → Bool)
  | setEnabled (destinationId : Uuid) (enabled : Bool) (ready : String → Bool)
  | updateDestination (destinationId : Uuid) (changes : DestinationChanges) (ready : String → Bool)
  | disableByOperator (actor : OperatorPrincipal) (destinationId : Uuid) (requestId : String)
  | updateSeverityByOperator (actor : OperatorPrincipal) (destinationId : Uuid)
      (minimumSeverity : Severity) (requestId : String)
  | allowNetwork (request : AllowlistRequest)
  | revokeNetwork (entryId : Uuid)
  | useSession (use : SessionUse)
  | authenticateTelegram (telegramUserId : Int)
  | setLanguage (telegramUserId : Int) (language : Language)

/-- What the installation runs on: the Unicode tables, the settings of sessions,
and how its database spells networks. -/
structure Platform where
  unicode : UnicodeData
  sessions : WebSessionSettings
  cidrText : IpNetwork → String

section Requests

variable (platform : Platform) (moment : Moment) (tables : AdministrationTables)

/-- The tables that a request commits. -/
def AdministrationRequest.perform :
    AdministrationRequest → Except AdministrationError AdministrationTables
  | .createOperator operatorId username role =>
      Administration.createOperator moment tables operatorId username role
  | .issueKey label request =>
      issueOperatorApiKey platform.unicode moment tables label request
  | .rotateKey label request =>
      rotateOperatorApiKey platform.unicode moment tables label request
  | .revokeKey request => revokeOperatorApiKey moment tables request
  | .linkTelegram linkId operatorId telegramUserId =>
      linkTelegramUser moment tables linkId operatorId telegramUserId
  | .revokeLink linkId => revokeTelegramLink moment tables linkId
  | .createDestination destinationId chatId tokenFileName minimumSeverity ready =>
      (createTelegramDestination moment tables destinationId chatId tokenFileName minimumSeverity
        ready).map Prod.fst
  | .setEnabled destinationId enabled ready =>
      (setNotificationDestinationEnabled moment tables destinationId enabled ready).map Prod.fst
  | .updateDestination destinationId changes ready =>
      (updateTelegramDestination moment tables destinationId changes ready).map Prod.fst
  | .disableByOperator actor destinationId requestId =>
      (disableNotificationDestinationByOperator moment tables actor destinationId requestId).map
        Prod.fst
  | .updateSeverityByOperator actor destinationId minimumSeverity requestId =>
      (updateNotificationDestinationSeverityByOperator moment tables actor destinationId
        minimumSeverity requestId).map Prod.fst
  | .allowNetwork request => addAllowlistEntry moment tables request
  | .revokeNetwork entryId => revokeAllowlistEntry moment tables platform.cidrText entryId
  | .useSession use =>
      .ok { tables with
        identity := ((use.operation.code platform.sessions).alone tables.identity).1 }
  | .authenticateTelegram telegramUserId =>
      .ok { tables with
        links := ((tables.directory.authenticateTelegramUser moment.now telegramUserId).map
          (·.2.links)).getD tables.links }
  | .setLanguage telegramUserId language =>
      .ok { tables with
        links := ((tables.directory.setTelegramLanguage telegramUserId language).map
          (·.links)).getD tables.links }

/-- The tables after a request, which may be refused. -/
def afterRequest (timed : Moment × AdministrationRequest) : AdministrationTables :=
  match timed.2.perform platform timed.1 tables with
  | .ok after => after
  | .error _ => tables

/-- The tables after some requests. -/
def afterRequests (requests : List (Moment × AdministrationRequest)) : AdministrationTables :=
  requests.foldl (afterRequest platform) .installed

end Requests

/-- A request of the local command line on a destination that asks whether a
token file is ready, with the answer for a name. -/
def AdministrationRequest.confirms (destinationId : Uuid) (name : String) :
    AdministrationRequest → Bool
  | .setEnabled asked enabled ready => asked = destinationId && enabled && ready name
  | .updateDestination asked _ ready => asked = destinationId && ready name
  | _ => false

/-! ## Steps -/

section Steps

variable {platform : Platform} {moment : Moment} {tables after : AdministrationTables}

theorem useSession_told (use : SessionUse) :
    let identity := ((use.operation.code platform.sessions).alone tables.identity).1
    TellsStanding tables { tables with identity := identity } := by
  have quiet : QuietUse tables.identity
      ((use.operation.code platform.sessions).alone tables.identity).1 := by
    refine Program.Writes.alone QuietUse.refl ?_ tables.identity
    cases use with
    | login request => exact login_quiet
    | authenticate request => exact authenticateWebSession_quiet
    | mutate request => exact lockWebSessionForMutation_quiet
    | logout request => exact revokeOperatorWebSession_quiet
  obtain ⟨entries, appended, silent⟩ := quiet.auditLog
  refine ⟨entries, appended, ?_⟩
  rw [replay_of_silent fun entry member standing => by rw [Standing.read, silent entry member]; rfl]
  have roles := congrArg (viewOf Operator.id Operator.role) quiet.operators
  exact Standing.ext roles quiet.keys rfl rfl rfl

/-- A use of links keeps the log and whose they are. -/
theorem links_told {links : List OperatorTelegramLink}
    (same : viewOf OperatorTelegramLink.id holdingOfLink links =
      viewOf OperatorTelegramLink.id holdingOfLink tables.links) :
    TellsStanding tables { tables with links := links } :=
  .of_silence rfl (Standing.ext rfl rfl same rfl rfl)

theorem authenticateTelegram_told (now telegramUserId : Int) :
    TellsStanding tables { tables with
      links := ((tables.directory.authenticateTelegramUser now telegramUserId).map
        (·.2.links)).getD tables.links } := by
  refine links_told ?_
  unfold Directory.authenticateTelegramUser
  cases tables.directory.linkedOperator telegramUserId with
  | none => rfl
  | some linked => exact viewOf_updateWhere_of_same (by intro _; rfl) (by intro _; rfl)

theorem setLanguage_told (telegramUserId : Int) (language : Language) :
    TellsStanding tables { tables with
      links := ((tables.directory.setTelegramLanguage telegramUserId language).map
        (·.links)).getD tables.links } := by
  refine links_told ?_
  unfold Directory.setTelegramLanguage
  split
  · rfl
  cases tables.directory.activeLinkForTelegramUser telegramUserId with
  | none => rfl
  | some link => exact viewOf_updateWhere_of_same (by intro _; rfl) (by intro _; rfl)

/-- What a request does to the routes of notifications. -/
inductive RouteEffect (tables : AdministrationTables) (request : AdministrationRequest) :
    AdministrationTables → Prop where
  | elsewhere (after : AdministrationTables) : SameRoutes tables after →
      RouteEffect tables request after
  | routed (destinationId : Uuid) (ready : String → Bool) (after : AdministrationTables) :
      DestinationEffect tables destinationId ready after →
      (∀ name, ready name = true → request.confirms destinationId name = true) →
      RouteEffect tables request after

/-- The tables of an operation on a destination. -/
theorem of_map_fst {outcome : DestinationOutcome} (done : outcome.map Prod.fst = .ok after) :
    ∃ answer, outcome = .ok (after, answer) := by
  cases outcome with
  | error error => cases done
  | ok pair =>
      obtain rfl := Except.ok.inj done
      exact ⟨pair.2, rfl⟩

/-- **Every request tells what it did**, and only operations on destinations
touch the routes. -/
theorem AdministrationRequest.perform_effect {request : AdministrationRequest}
    (done : request.perform platform moment tables = .ok after) :
    TellsStanding tables after ∧ RouteEffect tables request after := by
  have apart : TellsStanding tables after ∧ SameRoutes tables after →
      TellsStanding tables after ∧ RouteEffect tables request after :=
    fun ⟨told, same⟩ => ⟨told, .elsewhere after same⟩
  cases request with
  | createOperator operatorId username role => exact apart (createOperator_told done)
  | issueKey label request => exact apart (issueOperatorApiKey_told done)
  | rotateKey label request => exact apart (rotateOperatorApiKey_told done)
  | revokeKey request => exact apart (revokeOperatorApiKey_told done)
  | linkTelegram linkId operatorId telegramUserId => exact apart (linkTelegramUser_told done)
  | revokeLink linkId => exact apart (revokeTelegramLink_told done)
  | allowNetwork request => exact apart (addAllowlistEntry_told done)
  | revokeNetwork entryId => exact apart (revokeAllowlistEntry_told done)
  | useSession use =>
      obtain rfl := Except.ok.inj done
      exact apart ⟨useSession_told use, rfl, rfl⟩
  | authenticateTelegram telegramUserId =>
      obtain rfl := Except.ok.inj done
      exact apart ⟨authenticateTelegram_told moment.now telegramUserId, rfl, rfl⟩
  | setLanguage telegramUserId language =>
      obtain rfl := Except.ok.inj done
      exact apart ⟨setLanguage_told telegramUserId language, rfl, rfl⟩
  | createDestination destinationId chatId tokenFileName minimumSeverity ready =>
      obtain ⟨answer, committed⟩ := of_map_fst done
      -- a destination that is switched off needs no file
      have effect : DestinationEffect tables destinationId (fun _ => false) after :=
        createTelegramDestination_effect committed
      exact ⟨effect.told, .routed destinationId _ after effect fun name never => by cases never⟩
  | setEnabled destinationId enabled ready =>
      obtain ⟨answer, committed⟩ := of_map_fst done
      have effect := setNotificationDestinationEnabled_effect committed
      refine ⟨effect.told, .routed destinationId _ after effect fun name is_ready => ?_⟩
      simpa [confirms] using is_ready
  | updateDestination destinationId changes ready =>
      obtain ⟨answer, committed⟩ := of_map_fst done
      have effect := updateTelegramDestination_effect committed
      refine ⟨effect.told, .routed destinationId ready after effect fun name is_ready => ?_⟩
      simp [confirms, is_ready]
  | disableByOperator actor destinationId requestId =>
      obtain ⟨answer, committed⟩ := of_map_fst done
      have effect : DestinationEffect tables destinationId (fun _ => false) after :=
        disableNotificationDestinationByOperator_effect committed
      exact ⟨effect.told, .routed destinationId _ after effect fun name never => by cases never⟩
  | updateSeverityByOperator actor destinationId minimumSeverity requestId =>
      obtain ⟨answer, committed⟩ := of_map_fst done
      have effect : DestinationEffect tables destinationId (fun _ => false) after :=
        updateNotificationDestinationSeverityByOperator_effect committed
      exact ⟨effect.told, .routed destinationId _ after effect fun name never => by cases never⟩

theorem afterRequest_told (timed : Moment × AdministrationRequest) :
    TellsStanding tables (afterRequest platform tables timed) := by
  unfold afterRequest
  split
  next after done => exact (AdministrationRequest.perform_effect done).1
  · exact .refl _

theorem afterRequest_routes (timed : Moment × AdministrationRequest) :
    RouteEffect tables timed.2 (afterRequest platform tables timed) := by
  unfold afterRequest
  split
  next after done => exact (AdministrationRequest.perform_effect done).2
  · exact .elsewhere _ ⟨rfl, rfl⟩

/-- **A request keeps the routes**, and what it leaves switched on was on or is
confirmed by it. -/
theorem RouteEffect.kept {request : AdministrationRequest}
    (effect : RouteEffect tables request after) (inv : RoutesConfigured tables) :
    RoutesConfigured after ∧ ∀ destinationId name, OnWith after destinationId name →
      OnWith tables destinationId name ∨ request.confirms destinationId name = true := by
  cases effect with
  | elsewhere _ same => exact ⟨inv.of_same same, fun _ _ on => .inl (on.of_same same)⟩
  | routed routed ready _ effect confirmed =>
      refine ⟨effect.routesConfigured inv, fun destinationId name on => ?_⟩
      rcases effect.on on with before | ⟨rfl, is_ready⟩
      · exact .inl before
      · exact .inr (confirmed name is_ready)

end Steps

/-! ## Runs -/

section Runs

variable (platform : Platform)

/-- The standing of a new installation. -/
theorem standing_installed : AdministrationTables.installed.standing = .empty := rfl

/-- **The replay of the audit log is the standing of the tables**, after any
requests, and what the log does not tell between two moments has not changed. -/
theorem audit_log_tells_standing (earlier later : List (Moment × AdministrationRequest)) :
    (afterRequests platform (earlier ++ later)).standing =
        replay Standing.read .empty (afterRequests platform (earlier ++ later)).auditLog ∧
      ∃ entries,
        (afterRequests platform (earlier ++ later)).auditLog =
            (afterRequests platform earlier).auditLog ++ entries ∧
          (afterRequests platform (earlier ++ later)).standing =
            replay Standing.read (afterRequests platform earlier).standing entries := by
  have tells : ∀ (start : AdministrationTables) (more : List (Moment × AdministrationRequest)),
      TellsStanding start (more.foldl (afterRequest platform) start) := by
    intro start more
    have always : ∀ before timed after, True → after = afterRequest platform before timed → True :=
      fun _ _ _ _ _ => trivial
    refine (Run.of_trace (afterRequest platform) start more).told always ?_ trivial
    rintro before timed after - rfl
    exact afterRequest_told timed
  refine ⟨(tells .installed (earlier ++ later)).replayed rfl, ?_⟩
  unfold afterRequests
  rw [List.foldl_append]
  exact (tells _ later).appended

/-- **Switched on means confirmed**: every destination has a configuration of
its own route, and one that is switched on was confirmed to have its token file
ready, under the name the file still has, by a request of the local command line
since which it has been switched on under this name. -/
theorem enabled_destinations_confirmed (requests : List (Moment × AdministrationRequest)) :
    RoutesConfigured (afterRequests platform requests) ∧
      ∀ destinationId name, OnWith (afterRequests platform requests) destinationId name →
        ∃ earlier timed later, requests = earlier ++ timed :: later ∧
          timed.2.confirms destinationId name = true ∧
          ∀ between behind, later = between ++ behind →
            OnWith (afterRequests platform (earlier ++ timed :: between)) destinationId name := by
  induction requests using List.reverseRecOn with
  | nil =>
      refine ⟨⟨?_, ?_, ?_, ?_⟩, ?_⟩
      · exact fun id destination found => by cases found
      · exact fun config member => by cases member
      · exact List.nodup_nil
      · exact fun config member => by cases member
      · rintro destinationId name ⟨destination, config, found, _⟩
        cases found
  | append_singleton requests last ih =>
      obtain ⟨inv, confirmed⟩ := ih
      have step : afterRequests platform (requests ++ [last]) =
          afterRequest platform (afterRequests platform requests) last := by
        simp [afterRequests]
      have effect : RouteEffect (afterRequests platform requests) last.2
          (afterRequests platform (requests ++ [last])) := step ▸ afterRequest_routes last
      have effect := effect.kept inv
      refine ⟨effect.1, fun destinationId name on => ?_⟩
      rcases effect.2 destinationId name on with before | confirms
      · obtain ⟨earlier, timed, later, rfl, confirms, since⟩ := confirmed destinationId name before
        refine ⟨earlier, timed, later ++ [last], by simp, confirms, fun between behind cut => ?_⟩
        rcases List.eq_nil_or_concat behind with rfl | ⟨behind, request, rfl⟩
        · rw [List.append_nil] at cut
          subst cut
          simpa using on
        · rw [List.concat_eq_append, ← List.append_assoc] at cut
          exact since between behind (List.append_inj' cut rfl).1
      · refine ⟨requests, last, [], rfl, confirms, fun between behind cut => ?_⟩
        obtain ⟨rfl, rfl⟩ := List.nil_eq_append_iff.mp cut
        exact on

end Runs

/-! ## A destination that is switched on -/

/-- A platform for runs on ASCII. -/
def asciiPlatform : Platform := ⟨.ascii, .defaults, IpNetwork.text⟩

/-- A destination is created, moved to another file and switched on. -/
def switchingOn : List (Moment × AdministrationRequest) :=
  [(⟨1, 10⟩, .createDestination 7 (-100) "primary" .high fun _ => false),
    (⟨2, 20⟩, .updateDestination 7 ⟨none, some "spare", none⟩ fun _ => false),
    (⟨3, 30⟩, .setEnabled 7 true fun name => name == "spare"),
    (⟨4, 40⟩, .updateDestination 7 ⟨none, some "primary", none⟩ fun name => name == "spare")]

theorem enabled_destinations_confirmed_spare :
    OnWith (afterRequests asciiPlatform switchingOn) 7 "spare" ∧
      ∃ earlier timed later, switchingOn = earlier ++ timed :: later ∧
        timed.2.confirms 7 "spare" = true := by
  have on : OnWith (afterRequests asciiPlatform switchingOn) 7 "spare" :=
    ⟨_, _, rfl, rfl, rfl, rfl⟩
  obtain ⟨earlier, timed, later, cut, confirms, _⟩ :=
    (enabled_destinations_confirmed asciiPlatform switchingOn).2 7 "spare" on
  exact ⟨on, earlier, timed, later, cut, confirms⟩

end WolandGuard.Administration
