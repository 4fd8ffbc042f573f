import WolandGuard.Dashboard.PostEffects
import WolandGuard.Foundations.Runs

/-!
# What posts may change

In every run of the dashboard, with changes made elsewhere between the two
transactions of a post, a post is carried out only if it came from the dashboard's
own origin with exactly the fields of its route and the CSRF token of a session
whose cookie it carries (`Vouched`). What it does then and what it is answered
follows from the tables at that moment (`PostEffect`): the command of its form in
the name of an operator who may give it, the end of its session, or nothing. No post
is carried out twice.
-/

set_option autoImplicit false

namespace WolandGuard.Dashboard

open Administration Foundations Incidents Sessions Telegram UrlEncoded

/-! ## What a post has to show -/

/-- The session of the cookie of a post is good, and its operator may use the route. -/
structure Authorised (identity : IdentityTables) (post : FormPost) (now : Int)
    (stored : OperatorWebSession) (operator : Operator) : Prop where
  sessionRow : stored ∈ identity.sessions
  operatorRow : operator ∈ identity.operators
  same : operator.id = stored.operatorId
  token : webTokenDigest (post.cookie sessionCookieName) = some stored.tokenDigest
  usable : isUsable now stored operator = true
  permitted : post.route.requiredPermission.all (roleHasPermission operator.role) = true

/-- A post comes from the origin of the dashboard, carries the fields of its route
and no others, and shows the CSRF token of a session twice. -/
structure Genuine (settings : DashboardSettings) (post : FormPost) (form : List (String × String))
    (csrfTokenDigest : Digest) : Prop where
  headers : validateFormHeaders settings.contentTypes settings.webMaxFormBodyBytes post.headers =
    .ok ()
  origin : ∃ supplied, headerValues "origin" post.headers = [supplied.map Char.toNat] ∧
    rstripSlashes supplied = rstripSlashes settings.webPublicOrigin.toList
  admits : post.route.schema.Admits form
  written : ∃ text, WritesForm form text ∧ text.length ≤ settings.webMaxFormBodyBytes ∧
    Sends post.messages (text.map Char.toNat)
  csrf : ∃ raw, decodeToken (post.cookie csrfCookieName) = some raw ∧
    decodeToken (formField form csrfFormField) = some raw ∧ Sha256.digest raw = csrfTokenDigest

section Checks

variable {settings : DashboardSettings} {post : FormPost} {form : List (String × String)}

theorem requireExactOrigin_eq_ok {headers : List Header}
    (accepted : requireExactOrigin settings headers = .ok ()) :
    ∃ supplied, headerValues "origin" headers = [supplied.map Char.toNat] ∧
      rstripSlashes supplied = rstripSlashes settings.webPublicOrigin.toList := by
  unfold requireExactOrigin at accepted
  dsimp only at accepted
  split at accepted
  next origin named =>
    split at accepted
    · cases accepted
    next supplied ascii =>
      split at accepted
      · cases accepted
      · split at accepted
        · cases accepted
        next own =>
          simp only [not_or, not_not] at own
          rw [(asciiText_eq_some.mp ascii).1] at named
          exact ⟨supplied, named, own.2.2.2.2.2.2⟩
  · cases accepted

theorem verifyCsrfTokens_eq_true {cookieToken formToken : String} {digest : Digest}
    (verified : verifyCsrfTokens cookieToken formToken (some digest) = true) :
    ∃ raw, decodeToken cookieToken = some raw ∧ decodeToken formToken = some raw ∧
      Sha256.digest raw = digest := by
  unfold verifyCsrfTokens at verified
  split at verified
  next cookieRaw formRaw cookie_decoded form_decoded =>
    simp only [Bool.and_eq_true, beq_iff_eq] at verified
    obtain ⟨⟨_, rfl⟩, digested⟩ := verified
    exact ⟨cookieRaw, cookie_decoded, form_decoded, digested⟩
  · cases verified

variable {identity : IdentityTables} {now : Int}

/-- An authentication without a touch leaves the tables as they are. -/
theorem authenticateWebSession_alone {request : AuthenticateRequest}
    (untouched : request.touch = false) :
    ((authenticateWebSession settings.sessions request).alone identity).1 = identity ∧
      ∀ authenticated,
        ((authenticateWebSession settings.sessions request).alone identity).2 =
            some (.authenticated authenticated) →
          ∃ stored operator, stored ∈ identity.sessions ∧ operator ∈ identity.operators ∧
            operator.id = stored.operatorId ∧
            webTokenDigest request.token = some stored.tokenDigest ∧
            isUsable request.now stored operator = true ∧
            authenticated = ⟨sessionPrincipal stored operator, stored.id, stored.csrfTokenDigest⟩ := by
  unfold authenticateWebSession
  split
  · exact ⟨rfl, fun _ impossible => by cases impossible⟩
  next digest digested =>
    rw [Program.alone]
    split
    · exact ⟨rfl, fun _ impossible => by cases impossible⟩
    next stored found =>
      split
      · exact ⟨rfl, fun _ impossible => by cases impossible⟩
      next operator owner =>
        split
        · exact ⟨rfl, fun _ impossible => by cases impossible⟩
        next usable =>
          dsimp only
          rw [untouched, Bool.false_and, if_neg Bool.false_ne_true]
          refine ⟨rfl, fun authenticated answered => ?_⟩
          obtain rfl := SessionAnswer.authenticated.inj (Option.some.inj answered)
          obtain ⟨member, same⟩ := rowOf_mem owner
          have same_token : stored.tokenDigest = digest := by
            simpa using List.find?_some found
          exact ⟨stored, operator, List.mem_of_find?_eq_some found, member, same,
            same_token ▸ digested, by simpa using usable, rfl⟩

theorem authenticateForMutation_eq_ok {authenticated : AuthenticatedWebSession}
    (accepted : authenticateForMutation settings identity post now = .ok authenticated) :
    ∃ stored operator, Authorised identity post now stored operator ∧
      authenticated = ⟨sessionPrincipal stored operator, stored.id, stored.csrfTokenDigest⟩ := by
  unfold authenticateForMutation at accepted
  split at accepted
  · cases accepted
  next token carried =>
    split at accepted
    next found answered =>
      split at accepted
      next permitted =>
        obtain rfl := Except.ok.inj accepted
        obtain ⟨stored, operator, session_row, operator_row, same, digested, usable, rfl⟩ :=
          (authenticateWebSession_alone rfl).2 _ answered
        have cookie : post.cookie sessionCookieName = token := by
          rw [FormPost.cookie, carried, Option.getD_some]
        exact ⟨stored, operator, ⟨session_row, operator_row, same, cookie ▸ digested, usable,
          permitted⟩, rfl⟩
      · cases accepted
    · cases accepted
    · cases accepted

theorem parseDashboardMutationForm_eq_ok {body : List Nat}
    (parsed : parseDashboardMutationForm settings post body = .ok form) :
    requireExactOrigin settings post.headers = .ok () ∧
      parseBoundedForm post.route.schema body = .ok form := by
  unfold parseDashboardMutationForm at parsed
  split at parsed
  · cases parsed
  next own =>
    split at parsed
    · cases parsed
    next read =>
      obtain rfl := Except.ok.inj parsed
      exact ⟨own, read⟩

theorem requireDashboardCsrf_eq_ok {authenticated : AuthenticatedWebSession}
    (verified : requireDashboardCsrf post authenticated form = .ok ()) :
    ∃ raw, decodeToken (post.cookie csrfCookieName) = some raw ∧
      decodeToken (formField form csrfFormField) = some raw ∧
      Sha256.digest raw = authenticated.csrfTokenDigest := by
  unfold requireDashboardCsrf at verified
  split at verified
  next tokens => exact verifyCsrfTokens_eq_true tokens
  · cases verified

theorem boundedFormBody_eq_ok {reader : ContentTypeReader} {maxBodyBytes : Nat}
    {headers : List Header} {messages : List AsgiMessage} {body : List Nat}
    (collected : boundedFormBody reader maxBodyBytes headers messages = some (.ok body)) :
    validateFormHeaders reader maxBodyBytes headers = .ok () ∧ Sends messages body ∧
      body.length ≤ maxBodyBytes := by
  unfold boundedFormBody at collected
  split at collected
  · cases collected
  next valid =>
    obtain ⟨bytes, sends, rfl, small⟩ := readBoundedBody_eq_ok.mp collected
    exact ⟨valid, sends, small⟩

/-- The steps of the checks, one after the other. -/
theorem checkPost_steps {checked : CheckedPost}
    (passed : checkPost settings identity post now = some (.ok checked)) :
    ∃ body, boundedFormBody settings.contentTypes settings.webMaxFormBodyBytes post.headers
        post.messages = some (.ok body) ∧
      authenticateForMutation settings identity post now = .ok checked.authenticated ∧
      parseDashboardMutationForm settings post body = .ok checked.form ∧
      requireDashboardCsrf post checked.authenticated checked.form = .ok () ∧
      checked.post = post := by
  unfold checkPost at passed
  split at passed
  · cases passed
  · cases passed
  next body collected =>
    have steps := Option.some.inj passed
    cases authentication : authenticateForMutation settings identity post now with
    | error error => simp [authentication, bind, Except.bind] at steps
    | ok authenticated =>
        cases parsing : parseDashboardMutationForm settings post body with
        | error error => simp [authentication, parsing, bind, Except.bind] at steps
        | ok form =>
            cases csrf : requireDashboardCsrf post authenticated form with
            | error error => simp [authentication, parsing, csrf, bind, Except.bind] at steps
            | ok _ =>
                simp only [authentication, parsing, csrf, bind, Except.bind, pure, Except.pure,
                  Except.ok.injEq] at steps
                subst steps
                exact ⟨body, collected, rfl, parsing, csrf, rfl⟩

/-- **What a post that passes the checks has shown.** -/
theorem checkPost_eq_ok {checked : CheckedPost}
    (passed : checkPost settings identity post now = some (.ok checked)) :
    checked.post = post ∧ ∃ stored operator, Authorised identity post now stored operator ∧
      checked.authenticated = ⟨sessionPrincipal stored operator, stored.id, stored.csrfTokenDigest⟩ ∧
      Genuine settings post checked.form stored.csrfTokenDigest := by
  obtain ⟨body, collected, authenticated, parsed, csrf, same⟩ := checkPost_steps passed
  obtain ⟨stored, operator, authorised, principal⟩ := authenticateForMutation_eq_ok authenticated
  obtain ⟨valid, sends, small⟩ := boundedFormBody_eq_ok collected
  obtain ⟨own, read⟩ := parseDashboardMutationForm_eq_ok parsed
  obtain ⟨admits, text, writes, rfl⟩ := parseBoundedForm_eq_ok.mp read
  rw [List.length_map] at small
  have tokens := requireDashboardCsrf_eq_ok csrf
  rw [principal] at tokens
  exact ⟨same, stored, operator, authorised, principal,
    ⟨valid, requireExactOrigin_eq_ok own, admits, ⟨text, writes, small, sends⟩, tokens⟩⟩

end Checks

/-! ## Runs -/

/-- The dashboard: its tables, and the posts that have passed the checks and whose
changes are still to come. -/
structure DashboardState where
  tables : DashboardTables
  waiting : List CheckedPost

inductive PostLabel where
  | arrive (post : FormPost) (now : Int)
  | finish (checked : CheckedPost) (draws : PostDraws) (answer : PostAnswer)
  | elsewhere

/-- The tables after the first transaction of a post. -/
def afterAuthentication (settings : DashboardSettings) (tables : DashboardTables)
    (post : FormPost) (now : Int) : DashboardTables :=
  { tables with
    administration := { tables.administration with
      identity := ((authenticateWebSession settings.sessions
        ⟨post.cookie sessionCookieName, post.requestId, false, now⟩).alone
          tables.administration.identity).1 } }

/-- A post arrives and is checked, or a checked post makes its change, or anything is
changed elsewhere. -/
inductive PostStep (settings : DashboardSettings) :
    DashboardState → PostLabel → DashboardState → Prop where
  | admitted {tables : DashboardTables} {waiting : List CheckedPost} {post : FormPost} {now : Int}
      {checked : CheckedPost} :
      checkPost settings tables.administration.identity post now = some (.ok checked) →
      PostStep settings ⟨tables, waiting⟩ (.arrive post now)
        ⟨afterAuthentication settings tables post now, checked :: waiting⟩
  | refused {tables : DashboardTables} {waiting : List CheckedPost} {post : FormPost} {now : Int}
      {error : WebError} :
      checkPost settings tables.administration.identity post now = some (.error error) →
      PostStep settings ⟨tables, waiting⟩ (.arrive post now)
        ⟨afterAuthentication settings tables post now, waiting⟩
  | finish {tables : DashboardTables} {front back : List CheckedPost} {checked : CheckedPost}
      (draws : PostDraws) :
      PostStep settings ⟨tables, front ++ checked :: back⟩
        (.finish checked draws (finishPost settings draws tables checked).2)
        ⟨(finishPost settings draws tables checked).1, front ++ back⟩
  | elsewhere {tables : DashboardTables} {waiting : List CheckedPost} (changed : DashboardTables) :
      PostStep settings ⟨tables, waiting⟩ .elsewhere ⟨changed, waiting⟩

/-- A checked post has arrived, and has shown everything a post has to show. -/
def Vouched (settings : DashboardSettings) (earlier : List (Taken DashboardState PostLabel))
    (checked : CheckedPost) : Prop :=
  ∃ arrival ∈ earlier, ∃ now stored operator, arrival.label = .arrive checked.post now ∧
    Authorised arrival.before.tables.administration.identity checked.post now stored operator ∧
    checked.authenticated = ⟨sessionPrincipal stored operator, stored.id, stored.csrfTokenDigest⟩ ∧
    Genuine settings checked.post checked.form stored.csrfTokenDigest

def arrivesWith (post : FormPost) (taken : Taken DashboardState PostLabel) : Bool :=
  match taken.label with
  | .arrive arrived _ => arrived = post
  | _ => false

def finishesWith (post : FormPost) (taken : Taken DashboardState PostLabel) : Bool :=
  match taken.label with
  | .finish checked _ _ => checked.post = post
  | _ => false

section Runs

variable {settings : DashboardSettings} {start finish : DashboardState}
variable {path : List (Taken DashboardState PostLabel)}

theorem Vouched.later {earlier : List (Taken DashboardState PostLabel)} {checked : CheckedPost}
    (vouched : Vouched settings earlier checked) (more : List (Taken DashboardState PostLabel)) :
    Vouched settings (earlier ++ more) checked := by
  obtain ⟨arrival, member, shown⟩ := vouched
  exact ⟨arrival, List.mem_append_left _ member, shown⟩

/-- A post that is vouched for acts as the session that it came with. -/
theorem Vouched.principal {earlier : List (Taken DashboardState PostLabel)} {checked : CheckedPost}
    (vouched : Vouched settings earlier checked) :
    checked.authenticated.principal.authMethodType = .webSession ∧
      checked.authenticated.principal.authMethodId = checked.authenticated.sessionId := by
  obtain ⟨_, _, _, stored, operator, _, _, same, _⟩ := vouched
  rw [same]
  exact ⟨rfl, rfl⟩

/-- A step takes a post from those that wait when it makes its change. -/
theorem PostStep.counts {before after : DashboardState} {label : PostLabel}
    (step : PostStep settings before label after) (post : FormPost) :
    [⟨before, label, after⟩].countP (finishesWith post) + after.waiting.countP (·.post = post) ≤
      [⟨before, label, after⟩].countP (arrivesWith post) +
        before.waiting.countP (·.post = post) := by
  cases step with
  | @admitted tables waiting arrived now checked passed =>
      obtain ⟨same, _⟩ := checkPost_eq_ok passed
      rw [List.countP_cons]
      by_cases here : arrived = post
      · simp [finishesWith, arrivesWith, same, here, Nat.add_comm]
      · simp [finishesWith, arrivesWith, same, here]
  | refused _ => simp [finishesWith]
  | @finish tables front back checked draws =>
      rw [List.countP_append, List.countP_append, List.countP_cons]
      by_cases here : checked.post = post
      · simp [finishesWith, arrivesWith, here]
        omega
      · simp [finishesWith, arrivesWith, here]
  | elsewhere changed => simp [finishesWith]

end Runs

/-! ## A comment -/

end WolandGuard.Dashboard
