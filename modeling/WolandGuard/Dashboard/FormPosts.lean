import WolandGuard.Administration.Operations
import WolandGuard.Dashboard.FormBody
import WolandGuard.Incidents.Transactions

/-!
# Posts of forms

The routes of the dashboard that change something, with `web/dependencies.py`,
`web/mutations.py` and `web/security.py` in front of them.

A post is handled in two transactions. The first one authenticates the session
of the cookie (`checkPost`); then the origin, the form and its CSRF token are
checked. The second one locks the session, checks it again with the operator and
the permission, and makes the change (`finishPost`). Anything may happen in
between. Each transaction is run by itself here.
-/

set_option autoImplicit false

namespace WolandGuard.Dashboard

open Administration Incidents Sessions Telegram
open Detection (Severity)

/-! ## Settings and requests -/

/-- What `urlsplit` finds in an origin. -/
structure SplitOrigin where
  path : String
  query : String
  fragment : String
  username : Option String
  password : Option String
  deriving DecidableEq, Repr

/-- The settings of the dashboard, with what it takes from the standard library:
the Unicode tables, `email` and `urlsplit`, which may raise. -/
structure DashboardSettings where
  unicode : UnicodeData
  contentTypes : ContentTypeReader
  urlsplit : String → Option SplitOrigin
  sessions : WebSessionSettings
  webPublicOrigin : String
  webMaxFormBodyBytes : Nat

/-- The routes that a signed-in operator posts forms to. -/
inductive FormRoute where
  | incidentTransition (incidentId : Uuid)
  | incidentComment (incidentId : Uuid)
  | notificationDisable (destinationId : Uuid)
  | notificationSeverity (destinationId : Uuid)
  | logout
  deriving DecidableEq, Repr

def sessionCookieName : String := "__Host-wg_session"

def csrfCookieName : String := "__Host-wg_csrf"

def csrfFormField : String := "_csrf"

/-- A POST request, as the server hands it to the dashboard. -/
structure FormPost where
  route : FormRoute
  headers : List Header
  messages : List AsgiMessage
  cookies : List (String × String)
  requestId : String
  deriving DecidableEq

/-- `WebError`, with the key of its text. -/
structure WebError where
  statusCode : Nat
  detail : String
  deriving DecidableEq, Repr

namespace FormRoute

/-- The permission that a route requires. A logout needs none. -/
def requiredPermission : FormRoute → Option Permission
  | .incidentTransition _ => some .transitionIncidents
  | .incidentComment _ => some .commentIncidents
  | .notificationDisable _ | .notificationSeverity _ => some .manageTelegramDestinations
  | .logout => none

def fields : FormRoute → List String
  | .incidentTransition _ =>
      [csrfFormField, "status", "expected_version", "reason", "idempotency_key"]
  | .incidentComment _ => [csrfFormField, "comment", "idempotency_key"]
  | .notificationDisable _ => [csrfFormField]
  | .notificationSeverity _ => [csrfFormField, "minimum_severity"]
  | .logout => [csrfFormField]

/-- Every field that a route allows is required. -/
def schema (route : FormRoute) : FormSchema where
  allowedFields := route.fields
  requiredFields := route.fields
  maxFields := route.fields.length

/-- What a route answers to an error of the database. -/
def unavailable : FormRoute → WebError
  | .incidentTransition _ => ⟨503, "err.incident_mutation_unavailable"⟩
  | .incidentComment _ => ⟨503, "err.comment_unavailable"⟩
  | .notificationDisable _ | .notificationSeverity _ =>
      ⟨503, "err.destination_mutation_unavailable"⟩
  | .logout => ⟨503, "err.logout_unavailable"⟩

end FormRoute

/-- `request.cookies.get(name, "")`. -/
def FormPost.cookie (post : FormPost) (name : String) : String := (post.cookies.lookup name).getD ""

/-- `form[name]`. -/
def formField (form : List (String × String)) (name : String) : String := (form.lookup name).getD ""

/-! ## Checks -/

/-- `text.rstrip("/")`. -/
def rstripSlashes (text : List Char) : List Char := (text.reverse.dropWhile (· = '/')).reverse

/-- `require_exact_origin`. -/
def requireExactOrigin (settings : DashboardSettings) (headers : List Header) :
    Except WebError Unit :=
  let rejected := Except.error ⟨403, "err.request_rejected"⟩
  match headerValues "origin" headers with
  | [origin] =>
      match asciiText origin with
      | none => rejected
      | some supplied =>
          match settings.urlsplit (String.ofList supplied) with
          | none => .error ⟨500, "err.internal_error"⟩
          | some parsed =>
              if supplied = "null".toList ∨ (parsed.path ≠ "" ∧ parsed.path ≠ "/") ∨
                  parsed.query ≠ "" ∨ parsed.fragment ≠ "" ∨ parsed.username.isSome ∨
                  parsed.password.isSome ∨
                  rstripSlashes supplied ≠ rstripSlashes settings.webPublicOrigin.toList then
                rejected
              else .ok ()
  | _ => rejected

/-- `parse_dashboard_mutation_form`, on the body that the middleware has collected. -/
def parseDashboardMutationForm (settings : DashboardSettings) (post : FormPost) (body : List Nat) :
    Except WebError (List (String × String)) :=
  match requireExactOrigin settings post.headers with
  | .error error => .error error
  | .ok () =>
      match parseBoundedForm post.route.schema body with
      | .error error => .error ⟨error.statusCode, "err.invalid_form"⟩
      | .ok form => .ok form

/-- `verify_csrf_tokens`. -/
def verifyCsrfTokens (cookieToken formToken : String) (expectedDigest : Option Digest) : Bool :=
  match decodeToken cookieToken, decodeToken formToken with
  | some cookieRaw, some formRaw =>
      match expectedDigest with
      | none => cookieRaw == formRaw
      | some expected =>
          octetLength expected == 32 && cookieRaw == formRaw && Sha256.digest formRaw == expected
  | _, _ => false

/-- `require_dashboard_csrf`. -/
def requireDashboardCsrf (post : FormPost) (authenticated : AuthenticatedWebSession)
    (form : List (String × String)) : Except WebError Unit :=
  if verifyCsrfTokens (post.cookie csrfCookieName) (formField form csrfFormField)
      (some authenticated.csrfTokenDigest) then .ok ()
  else .error ⟨403, "err.request_rejected"⟩

/-- A post that has passed the checks before its change. -/
structure CheckedPost where
  post : FormPost
  authenticated : AuthenticatedWebSession
  form : List (String × String)
  deriving DecidableEq

section Handling

variable (settings : DashboardSettings)

/-- `get_authenticated_web_session_for_mutation` and
`require_dashboard_mutation_permission`. -/
def authenticateForMutation (identity : IdentityTables) (post : FormPost) (now : Int) :
    Except WebError AuthenticatedWebSession :=
  match post.cookies.lookup sessionCookieName with
  | none => .error ⟨401, "err.login_required"⟩
  | some token =>
      match ((authenticateWebSession settings.sessions ⟨token, post.requestId, false, now⟩).alone
          identity).2 with
      | some (.authenticated authenticated) =>
          if post.route.requiredPermission.all (roleHasPermission authenticated.principal.role) then
            .ok authenticated
          else .error ⟨403, "err.insufficient_permissions"⟩
      | some .invalidSession => .error ⟨401, "err.login_required"⟩
      | _ => .error ⟨503, "err.service_unavailable"⟩

/-- The handling of a post up to its change. It waits while the body is not
complete. -/
def checkPost (identity : IdentityTables) (post : FormPost) (now : Int) :
    Option (Except WebError CheckedPost) :=
  match boundedFormBody settings.contentTypes settings.webMaxFormBodyBytes post.headers
      post.messages with
  | none => none
  | some (.error error) => some (.error ⟨error.statusCode, "errors.request_cannot_be_processed"⟩)
  | some (.ok body) => some do
      let authenticated ← authenticateForMutation settings identity post now
      let form ← parseDashboardMutationForm settings post body
      requireDashboardCsrf post authenticated form
      return ⟨post, authenticated, form⟩

/-! ## Changes -/

/-- `_positive_canonical_integer`. -/
def positiveCanonicalInteger (value : String) : Option Nat :=
  match value.toList.mapM settings.unicode.decimal with
  | none => none
  | some digits =>
      if digits = [] ∨ value.toList.head? = some '0' then none
      else
        let parsed := digits.foldl (fun number digit => number * 10 + digit) 0
        if (1 ≤ parsed ∧ parsed ≤ 2147483647) ∧ toString parsed = value then some parsed else none

/-- What a form asks for. -/
inductive FormCommand where
  | transition (incidentId : Uuid) (transition : NormalizedTransition) (idempotencyKey : String)
  | comment (incidentId : Uuid) (comment : NormalizedComment) (idempotencyKey : String)
  | disable (destinationId : Uuid)
  | severity (destinationId : Uuid) (minimumSeverity : Severity)
  | logout
  deriving DecidableEq, Repr

/-- The values of a form, validated by its route. -/
def readCommand (route : FormRoute) (form : List (String × String)) : Except WebError FormCommand :=
  match route with
  | .incidentTransition incidentId =>
      let invalid := Except.error ⟨422, "err.invalid_transition_data"⟩
      match [IncidentStatus.new, .investigating, .resolved, .falsePositive].find?
          (·.value = formField form "status"),
          positiveCanonicalInteger settings (formField form "expected_version") with
      | some targetStatus, some expectedVersion =>
          if !isIdempotencyKey (formField form "idempotency_key") then invalid
          else
            let reason := formField form "reason"
            match normalizeTransition settings.unicode targetStatus expectedVersion
                (if reason = "" then none else some reason) with
            | .error _ => invalid
            | .ok normalized =>
                .ok (.transition incidentId normalized (formField form "idempotency_key"))
      | _, _ => invalid
  | .incidentComment incidentId =>
      if !isIdempotencyKey (formField form "idempotency_key") then
        .error ⟨422, "err.invalid_comment"⟩
      else
        match normalizeComment settings.unicode (formField form "comment") with
        | .error _ => .error ⟨422, "err.invalid_comment"⟩
        | .ok normalized => .ok (.comment incidentId normalized (formField form "idempotency_key"))
  | .notificationDisable destinationId => .ok (.disable destinationId)
  | .notificationSeverity destinationId =>
      match [Severity.low, .medium, .high, .critical].find?
          (·.value = formField form "minimum_severity") with
      | none => .error ⟨422, "err.invalid_form"⟩
      | some minimumSeverity => .ok (.severity destinationId minimumSeverity)
  | .logout => .ok .logout

/-- The tables that posts change. -/
structure DashboardTables where
  administration : AdministrationTables
  workflow : WorkflowTables

/-- The ids that a post draws, the two clocks that it reads, and whether the
database fails under its transaction. -/
structure PostDraws where
  historyId : Uuid
  commentId : Uuid
  auditId : Uuid
  now : Int
  changedAt : Int
  databaseFails : Bool

/-- What the browser is answered. An exception that no route catches rolls the
transaction back. -/
inductive PostAnswer where
  | redirect (path : String) (replayed : Bool)
  | failed (error : WebError)
  | raised
  deriving DecidableEq, Repr

/-- `_mutation_outcome_response`. -/
def mutationOutcomeResponse (incidentId : Uuid) (httpStatus : Nat) (replayed : Bool) : PostAnswer :=
  if httpStatus = 404 then .failed ⟨404, "err.incident_not_found"⟩
  else if httpStatus = 409 then .failed ⟨409, "err.incident_conflict"⟩
  else if httpStatus ≠ 200 then .failed ⟨500, "err.internal_error"⟩
  else .redirect ("/incidents/" ++ Uuid.text incidentId) replayed

/-- The answer to a change of a destination. -/
def destinationResponse (outcome : DestinationOutcome) (unavailable : WebError) : PostAnswer :=
  match outcome with
  | .ok _ => .redirect "/notifications" false
  | .error (.refused _) => .failed ⟨404, "err.destination_not_found"⟩
  | .error (.audit _) => .raised
  | .error .database => .failed unavailable

/-- The tables after a change of a destination. -/
def afterDestination (tables : DashboardTables) (outcome : DestinationOutcome) : DashboardTables :=
  match outcome with
  | .ok (administration, _) => { tables with administration := administration }
  | .error _ => tables

section Changes

variable (draws : PostDraws) (tables : DashboardTables) (requestId : String)

/-- `transition_incident` for an operator of the dashboard. -/
def performTransition (actor : OperatorPrincipal) (incidentId : Uuid)
    (transition : NormalizedTransition) (idempotencyKey : String) : DashboardTables × PostAnswer :=
  let result := (Concurrent.transitionIncident
    (transitionRequestOf actor incidentId transition idempotencyKey requestId) draws.historyId
    draws.auditId draws.changedAt).alone tables.workflow
  ({ tables with workflow := result.1 },
    match result.2 with
    | some (.transition outcome) =>
        mutationOutcomeResponse incidentId outcome.httpStatus outcome.replayed
    | _ =>
        -- the flush refuses an id that is in use and a version beyond the 32 bits of
        -- its column, before the audit entry is validated
        if hasHistory tables.workflow.tables.history draws.historyId ∨
            2147483647 ≤ transition.expectedVersion then
          .failed (FormRoute.incidentTransition incidentId).unavailable
        else .raised)

/-- `add_incident_comment` for an operator of the dashboard. -/
def performComment (actor : OperatorPrincipal) (incidentId : Uuid) (comment : NormalizedComment)
    (idempotencyKey : String) : DashboardTables × PostAnswer :=
  let result := (Concurrent.addIncidentComment
    ⟨actor, incidentId, comment, idempotencyKey, requestId⟩ draws.commentId draws.auditId
    draws.changedAt).alone tables.workflow
  ({ tables with workflow := result.1 },
    match result.2 with
    | some (.comment outcome) =>
        mutationOutcomeResponse incidentId outcome.httpStatus outcome.replayed
    | _ =>
        if tables.workflow.comments.any (·.id = draws.commentId) then
          .failed (FormRoute.incidentComment incidentId).unavailable
        else .raised)

/-- The change that an operator has asked for. A logout is none of these. -/
def perform (actor : OperatorPrincipal) : FormCommand → DashboardTables × PostAnswer
  | .transition incidentId transition idempotencyKey =>
      performTransition draws tables requestId actor incidentId transition idempotencyKey
  | .comment incidentId comment idempotencyKey =>
      performComment draws tables requestId actor incidentId comment idempotencyKey
  | .disable destinationId =>
      let outcome := disableNotificationDestinationByOperator ⟨draws.auditId, draws.changedAt⟩
        tables.administration actor destinationId requestId
      (afterDestination tables outcome,
        destinationResponse outcome (FormRoute.notificationDisable destinationId).unavailable)
  | .severity destinationId minimumSeverity =>
      let outcome := updateNotificationDestinationSeverityByOperator
        ⟨draws.auditId, draws.changedAt⟩ tables.administration actor destinationId minimumSeverity
        requestId
      (afterDestination tables outcome,
        destinationResponse outcome (FormRoute.notificationSeverity destinationId).unavailable)
  | .logout => (tables, .raised)

/-- `logout`. -/
def performLogout (authenticated : AuthenticatedWebSession) : DashboardTables × PostAnswer :=
  let result := (revokeOperatorWebSession
    ⟨authenticated, requestId, draws.auditId, draws.now⟩).alone tables.administration.identity
  ({ tables with administration := { tables.administration with identity := result.1 } },
    match result.2 with
    | some .ended => .redirect "/login" false
    | some .invalidSession => .failed ⟨401, "err.login_required"⟩
    | some .databaseError => .failed FormRoute.logout.unavailable
    | _ => .raised)

end Changes

/-- The handling of a checked post: its values, and the transaction that changes
something. -/
def finishPost (draws : PostDraws) (tables : DashboardTables) (checked : CheckedPost) :
    DashboardTables × PostAnswer :=
  let post := checked.post
  match readCommand settings post.route checked.form with
  | .error error => (tables, .failed error)
  | .ok command =>
      if draws.databaseFails then (tables, .failed post.route.unavailable)
      else
        match post.route.requiredPermission with
        | none => performLogout draws tables post.requestId checked.authenticated
        | some permission =>
            match ((lockWebSessionForMutation
                ⟨checked.authenticated, post.cookie sessionCookieName, permission, post.requestId,
                  draws.now⟩).alone tables.administration.identity).2 with
            | some (.admitted actor) => perform draws tables post.requestId actor command
            | some .permissionDenied => (tables, .failed ⟨403, "err.insufficient_permissions"⟩)
            | _ => (tables, .failed ⟨401, "err.login_required"⟩)

end Handling

end WolandGuard.Dashboard
