import WolandGuard.Foundations.Sightings
import WolandGuard.Sessions.Tables

/-!
# Logins, sessions and revocations as transactions

The operations on keys and sessions statement by statement at READ COMMITTED.
A login locks the row of its key until it ends, and so does a revocation or a
rotation, which then updates the sessions of the key one row after the other. A
touch is one conditional update, and a request that changes something locks the
row of its session and that of its operator.

A row that breaks a CHECK constraint ends its transaction with a database
error.
-/

set_option autoImplicit false

namespace WolandGuard.Sessions

open Foundations Incidents Telegram

/-! ## Locks -/

inductive SessionLock where
  | key (keyId : Uuid)
  | session (sessionId : Uuid)
  | operator (operatorId : Uuid)
  deriving DecidableEq, Repr

/-- Two states have the same data under a lock. The lock of a key covers which
sessions it has established. -/
def SameIdentity : SessionLock → IdentityTables → IdentityTables → Prop
  | .key keyId, tables, other =>
      tables.key? keyId = other.key? keyId ∧ tables.sessionsOf keyId = other.sessionsOf keyId
  | .session sessionId, tables, other => tables.session? sessionId = other.session? sessionId
  | .operator operatorId, tables, other => tables.operator? operatorId = other.operator? operatorId

theorem sameIdentity_equivalence (lock : SessionLock) : Equivalence (SameIdentity lock) := by
  cases lock with
  | key keyId =>
      exact ⟨fun _ => ⟨rfl, rfl⟩, fun same => ⟨same.1.symm, same.2.symm⟩,
        fun first second => ⟨first.1.trans second.1, first.2.trans second.2⟩⟩
  | session sessionId => exact ⟨fun _ => rfl, Eq.symm, Eq.trans⟩
  | operator operatorId => exact ⟨fun _ => rfl, Eq.symm, Eq.trans⟩

/-- What an operation answers. -/
inductive SessionAnswer where
  | invalidCredentials
  | forbidden
  | invalidSession
  | permissionDenied
  | issued (sessionId : Uuid) (absoluteExpiresAt : Int)
  | authenticated (authenticated : AuthenticatedWebSession)
  | admitted (principal : OperatorPrincipal)
  | ended
  | refused (message : String)
  | keyIssued (keyId : Uuid)
  | revoked (changed : Bool)
  | rotated (keyId : Uuid)
  | operatorWritten
  | databaseError
  deriving DecidableEq, Repr

/-- A transaction over the tables. -/
abbrev SessionProgram := Program IdentityTables SessionLock SessionAnswer

/-! ## Writes -/

namespace IdentityTables

variable (tables : IdentityTables)

/-- Change the row of a session. -/
def updateSession (sessionId : Uuid) (change : OperatorWebSession → OperatorWebSession) :
    IdentityTables :=
  { tables with sessions := updateWhere (·.id = sessionId) change tables.sessions }

/-- The rows that a login writes. -/
def startSession (now : Int) (session : OperatorWebSession) (entry : AuditLogEntry) :
    IdentityTables :=
  { tables with
    sessions := tables.sessions ++ [session]
    keys := updateWhere (·.id = session.authenticatedByApiKeyId)
      (fun key => { key with lastUsedAt := some now }) tables.keys
    auditLog := tables.auditLog ++ [entry] }

/-- The rows that a logout writes. -/
def endSession (sessionId : Uuid) (now : Int) (entry : AuditLogEntry) : IdentityTables :=
  { tables.updateSession sessionId (endedSession now) with auditLog := tables.auditLog ++ [entry] }

def addKey (key : OperatorApiKey) : IdentityTables := { tables with keys := tables.keys ++ [key] }

/-- The rows that a revocation writes: the key and sessions of it. -/
def revokeKey (keyId : Uuid) (now : Int) (sessionIds : List Uuid) : IdentityTables :=
  { tables with
    keys := updateWhere (·.id = keyId) (fun key => { key with revokedAt := some now }) tables.keys
    sessions := updateWhere (·.id ∈ sessionIds) (endedSession now) tables.sessions }

def writeOperator (operator : Operator) : IdentityTables :=
  { tables with operators := putRow Operator.id operator tables.operators }

end IdentityTables

/-! ## Logging in -/

section Login

variable (settings : WebSessionSettings) (request : LoginRequest)

/-- `create_operator_web_session`, and the end of the transaction. -/
def createOperatorWebSession (key : OperatorApiKey) (operator : Operator) : SessionProgram :=
  if absoluteExpiry settings request.now key ≤ request.now then .commit id .invalidSession
  else
    match webTokenDigest request.sessionToken, webTokenDigest request.csrfToken with
    | some tokenDigest, some csrfTokenDigest =>
        let stored := newWebSession settings request key operator tokenDigest csrfTokenDigest
        .claim (.session stored.id) (fun tables => (tables.session? stored.id).isSome)
          (.peek fun tables =>
            -- the unique constraints of the digests
            if tables.sessions.any fun other =>
                other.tokenDigest == tokenDigest || other.csrfTokenDigest == csrfTokenDigest then
              .rollback
            else if ¬ stored.Checked then .commit id .databaseError
            else
              match recordOperatorAction request.auditId request.now (keyPrincipal key operator)
                  "operator_web_session.started" "operator_web_session" stored.id
                  request.requestId none [] with
              | .error _ => .rollback
              | .ok entry =>
                  .commit (·.startSession request.now stored entry)
                    (.issued stored.id stored.absoluteExpiresAt))
          .rollback
    | _, _ => .rollback

/-- The rest of a login on the row of the key that it has locked. -/
def loginWithKey (publicId secret : String) (operator : Operator) (key : OperatorApiKey) :
    SessionProgram :=
  if ¬ credentialIsUsable publicId secret request.now key operator then
    .commit id .invalidCredentials
  else if ¬ roleHasPermission operator.role .accessDashboard then .commit id .forbidden
  else createOperatorWebSession settings request key operator

/-- `login`. The key is found by its public id and then locked; its operator is
read in the same statement without a lock. -/
def login : SessionProgram :=
  match parseToken request.credential with
  | none => .commit id .invalidCredentials
  | some (publicId, secret) =>
      .peek fun tables =>
        match tables.keys.find? (·.publicId == publicId) with
        | none => .commit id .invalidCredentials
        | some found =>
            match tables.operator? found.operatorId with
            | none => .commit id .invalidCredentials
            | some operator =>
                .lock (.key found.id) (.read fun tables =>
                  match tables.key? found.id with
                  | none => .commit id .invalidCredentials
                  | some key => loginWithKey settings request publicId secret operator key)

end Login

/-! ## Using a session -/

section Use

variable (settings : WebSessionSettings)

/-- The update that touches a session, whether or not it finds its row. -/
def touchSession (now : Int) (sessionId : Uuid) (answer : SessionAnswer) : SessionProgram :=
  .peek fun tables =>
    match tables.session? sessionId with
    | none => .commit id answer
    | some snapshot =>
        if ¬ meetsTouch settings now snapshot then .commit id answer
        else
          .lock (.session sessionId) (.read fun tables =>
            match tables.session? sessionId with
            | none => .commit id answer
            | some session =>
                if ¬ meetsTouch settings now session then .commit id answer
                else if ¬ (touchedSession settings now session).Checked then
                  .commit id .databaseError
                else .commit (·.updateSession sessionId (touchedSession settings now)) answer)

/-- `_authenticate_web_session`. -/
def authenticateWebSession (request : AuthenticateRequest) : SessionProgram :=
  match webTokenDigest request.token with
  | none => .commit id .invalidSession
  | some digest =>
      .peek fun tables =>
        match tables.sessions.find? (·.tokenDigest == digest) with
        | none => .commit id .invalidSession
        | some stored =>
            match tables.operator? stored.operatorId with
            | none => .commit id .invalidSession
            | some operator =>
                if ¬ isUsable request.now stored operator then .commit id .invalidSession
                else
                  let answer := .authenticated
                    ⟨sessionPrincipal stored operator, stored.id, stored.csrfTokenDigest⟩
                  if request.touch && isTouchDue settings request.now stored then
                    touchSession settings request.now stored.id answer
                  else .commit id answer

/-- The decision of `lock_web_session_for_mutation` on the rows that it has
locked. -/
def admission (request : MutationRequest) (stored : OperatorWebSession) (operator : Operator) :
    SessionAnswer :=
  if webTokenDigest request.sessionToken ≠ some stored.tokenDigest ∨
      stored.csrfTokenDigest ≠ request.authenticated.csrfTokenDigest ∨
      stored.operatorId ≠ request.authenticated.principal.operatorId ∨
      request.authenticated.principal.authMethodType ≠ .webSession ∨
      request.authenticated.principal.authMethodId ≠ stored.id ∨
      operator.id ≠ stored.operatorId ∨ isUsable request.now stored operator = false then
    .invalidSession
  else if ¬ roleHasPermission operator.role request.requiredPermission then .permissionDenied
  else .admitted (sessionPrincipal stored operator)

/-- `lock_web_session_for_mutation`. What the request changes commits with it,
in tables of its own. -/
def lockWebSessionForMutation (request : MutationRequest) : SessionProgram :=
  match webTokenDigest request.sessionToken with
  | none => .commit id .invalidSession
  | some _ =>
      .peek fun tables =>
        match tables.session? request.authenticated.sessionId with
        | none => .commit id .invalidSession
        | some snapshot =>
            .lock (.session request.authenticated.sessionId)
              (.lock (.operator snapshot.operatorId) (.read fun tables =>
                match tables.session? request.authenticated.sessionId,
                    tables.operator? snapshot.operatorId with
                | some stored, some operator => .commit id (admission request stored operator)
                | _, _ => .commit id .invalidSession))

/-- `revoke_operator_web_session`. -/
def revokeOperatorWebSession (request : LogoutRequest) : SessionProgram :=
  .peek fun tables =>
    match tables.session? request.authenticated.sessionId with
    | none => .commit id .invalidSession
    | some _ =>
        .lock (.session request.authenticated.sessionId) (.read fun tables =>
          match tables.session? request.authenticated.sessionId with
          | none => .commit id .invalidSession
          | some stored =>
              if stored.revokedAt.isSome then .commit id .invalidSession
              else
                match recordOperatorAction request.auditId request.now
                    request.authenticated.principal "operator_web_session.ended"
                    "operator_web_session" stored.id request.requestId none [] with
                | .error _ => .rollback
                | .ok entry =>
                    if ¬ (endedSession request.now stored).Checked then .commit id .databaseError
                    else
                      .commit
                        (·.endSession request.authenticated.sessionId request.now entry) .ended)

end Use

/-! ## Keys -/

/-- The update of `revoke_sessions_authenticated_by_key`, row by row. -/
def revokeSessions (keyId : Uuid) (now : Int) (next : List Uuid → SessionProgram) :
    List Uuid → List Uuid → SessionProgram
  | [], ended => next ended
  | sessionId :: rest, ended =>
      .lock (.session sessionId) (.read fun tables =>
        match tables.session? sessionId with
        | none => revokeSessions keyId now next rest ended
        | some session =>
            if session.authenticatedByApiKeyId = keyId ∧ session.revokedAt = none then
              if ¬ (endedSession now session).Checked then .commit id .databaseError
              else revokeSessions keyId now next rest (ended ++ [sessionId])
            else revokeSessions keyId now next rest ended)

/-- The rows that the update finds. -/
def openSessions (keyId : Uuid) (tables : IdentityTables) : List Uuid :=
  (tables.sessions.filter fun session =>
    session.authenticatedByApiKeyId = keyId && session.revokedAt.isNone).map OperatorWebSession.id

/-- `key.revoked_at = current_time` and `revoke_sessions_authenticated_by_key`,
and the end of the transaction. -/
def revokeLockedKey (key : OperatorApiKey) (now : Int) (added : IdentityTables → IdentityTables)
    (answer : SessionAnswer) : SessionProgram :=
  if ¬ { key with revokedAt := some now }.Checked then .commit id .databaseError
  else
    .peek fun tables =>
      revokeSessions key.id now
        (fun ended => .commit (fun tables => (added tables).revokeKey key.id now ended) answer)
        (openSessions key.id tables) []

/-- `revoke_operator_api_key`. -/
def revokeOperatorApiKey (request : RevokeRequest) : SessionProgram :=
  .peek fun tables =>
    match tables.key? request.keyId with
    | none => .commit id (.refused "operator API key does not exist")
    | some _ =>
        .lock (.key request.keyId) (.read fun tables =>
          match tables.key? request.keyId with
          | none => .commit id (.refused "operator API key does not exist")
          | some key =>
              if key.revokedAt.isSome then .commit id (.revoked false)
              else revokeLockedKey key request.now id (.revoked true))

/-- `_create_key`. -/
def createKey (key : OperatorApiKey) (next : SessionProgram) : SessionProgram :=
  .claim (.key key.id) (fun tables => (tables.key? key.id).isSome)
    (.peek fun tables =>
      -- the unique constraints of the public id and of the rotated key
      if tables.keys.any fun other =>
          other.publicId == key.publicId ||
            (key.rotatedFromId.isSome && other.rotatedFromId == key.rotatedFromId) then .rollback
      else if ¬ key.Checked then .commit id .databaseError
      else next)
    .rollback

/-- `rotate_operator_api_key`. -/
def rotateOperatorApiKey (request : RotateRequest) : SessionProgram :=
  .peek fun tables =>
    match tables.key? request.keyId with
    | none => .commit id (.refused "operator API key does not exist")
    | some _ =>
        .lock (.key request.keyId) (.read fun tables =>
          match tables.key? request.keyId with
          | none => .commit id (.refused "operator API key does not exist")
          | some key =>
              if key.revokedAt.isSome then
                .commit id (.refused "operator API key is already revoked")
              else
                let expiresAt := request.expiresAt.or key.expiresAt
                if expiresAt.any (· ≤ request.now) then
                  .commit id (.refused "key expiry must be in the future")
                else
                  .peek fun tables =>
                    match tables.operator? key.operatorId with
                    | none => .commit id (.refused "operator is unavailable")
                    | some operator =>
                        if ¬ operator.isActive then .commit id (.refused "operator is unavailable")
                        else
                          let replacement := newKey request.material key.operatorId expiresAt
                            (some key.id) request.now
                          createKey replacement
                            (revokeLockedKey key request.now (·.addKey replacement)
                              (.rotated replacement.id)))

/-- `issue_operator_api_key`. -/
def issueOperatorApiKey (request : IssueRequest) : SessionProgram :=
  if request.expiresAt.any (· ≤ request.now) then
    .commit id (.refused "key expiry must be in the future")
  else
    .peek fun tables =>
      match tables.operator? request.operatorId with
      | none => .commit id (.refused "operator does not exist")
      | some operator =>
          if ¬ operator.isActive then .commit id (.refused "operator is inactive")
          else
            let key := newKey request.material request.operatorId request.expiresAt none request.now
            createKey key (.commit (·.addKey key) (.keyIssued key.id))

/-! ## The installation -/

/-- An operation on keys and sessions. `writeOperator` creates an operator or
changes one. -/
inductive SessionOperation where
  | login (request : LoginRequest)
  | authenticate (request : AuthenticateRequest)
  | mutate (request : MutationRequest)
  | logout (request : LogoutRequest)
  | issue (request : IssueRequest)
  | rotate (request : RotateRequest)
  | revoke (request : RevokeRequest)
  | writeOperator (operator : Operator) (now : Int)
  deriving DecidableEq, Repr

namespace SessionOperation

/-- The clock that an operation reads. -/
def now : SessionOperation → Int
  | .login request => request.now
  | .authenticate request => request.now
  | .mutate request => request.now
  | .logout request => request.now
  | .issue request => request.now
  | .rotate request => request.now
  | .revoke request => request.now
  | .writeOperator _ now => now

/-- The transaction of an operation. -/
def code (settings : WebSessionSettings) : SessionOperation → SessionProgram
  | .login request => Sessions.login settings request
  | .authenticate request => authenticateWebSession settings request
  | .mutate request => lockWebSessionForMutation request
  | .logout request => revokeOperatorWebSession request
  | .issue request => issueOperatorApiKey request
  | .rotate request => rotateOperatorApiKey request
  | .revoke request => revokeOperatorApiKey request
  | .writeOperator operator _ =>
      .lock (.operator operator.id) (.commit (·.writeOperator operator) .operatorWritten)

end SessionOperation

/-- The installation: its tables and the operations under way. -/
abbrev IdentityService := Transactions SessionOperation IdentityTables SessionLock SessionAnswer

/-- A recorded step of the installation. -/
abbrev ServiceStep := Transactions.Recorded SessionOperation IdentityTables SessionLock SessionAnswer

/-! ## What the locks cover -/

section Locks

variable {held : List SessionLock} {lock : SessionLock} {tables other : IdentityTables}

/-- A change of sessions that keeps their keys. -/
structure KeepsKeys (change : OperatorWebSession → OperatorWebSession) : Prop where
  id : ∀ session, (change session).id = session.id
  key : ∀ session,
    (change session).authenticatedByApiKeyId = session.authenticatedByApiKeyId

theorem keepsKeys_touched (settings : WebSessionSettings) (now : Int) :
    KeepsKeys (touchedSession settings now) := ⟨fun _ => rfl, fun _ => rfl⟩

theorem keepsKeys_ended (now : Int) : KeepsKeys (endedSession now) := ⟨fun _ => rfl, fun _ => rfl⟩

/-- A change that keeps the keys keeps which sessions a key has. -/
theorem KeepsKeys.sessionsOf {change : OperatorWebSession → OperatorWebSession}
    (keeps : KeepsKeys change) (condition : OperatorWebSession → Bool) (keyId : Uuid)
    (rows : List OperatorWebSession) :
    ((updateWhere condition change rows).filter (·.authenticatedByApiKeyId = keyId)).map
        OperatorWebSession.id =
      (rows.filter (·.authenticatedByApiKeyId = keyId)).map OperatorWebSession.id := by
  induction rows with
  | nil => rfl
  | cons row rest ih =>
      simp only [updateWhere, List.map_cons, List.filter_cons] at ih ⊢
      by_cases meets : condition row = true
      · simp only [meets, if_true, keeps.key]
        split
        · simp only [List.map_cons, keeps.id, ih]
        · exact ih
      · simp only [meets, if_false, Bool.false_eq_true]
        split
        · simp only [List.map_cons, ih]
        · exact ih

/-- Rows changed under the locks of their sessions leave what other locks
cover. -/
theorem sameIdentity_sessions {change : OperatorWebSession → OperatorWebSession}
    (keeps : KeepsKeys change) {condition : OperatorWebSession → Bool}
    (under : ∀ session, condition session = true → SessionLock.session session.id ∈ held)
    (outside : lock ∉ held) (auditLog : List AuditLogEntry) :
    SameIdentity lock tables
      { tables with
        sessions := updateWhere condition change tables.sessions
        auditLog := auditLog } := by
  cases lock with
  | key keyId => exact ⟨rfl, (keeps.sessionsOf condition keyId tables.sessions).symm⟩
  | operator operatorId => rfl
  | session sessionId =>
      simp only [SameIdentity, IdentityTables.session?]
      rw [rowOf_updateWhere fun session _ => keeps.id session]
      cases found : rowOf OperatorWebSession.id tables.sessions sessionId with
      | none => rfl
      | some session =>
          have same_id := (rowOf_mem found).2
          have unmet : condition session = false := by
            by_contra met
            rw [Bool.not_eq_false] at met
            exact outside (same_id ▸ under session met)
          simp [unmet]

/-- A change of keys under their locks leaves what other locks cover. -/
theorem sameIdentity_keys {keys : List OperatorApiKey}
    (kept : ∀ keyId, SessionLock.key keyId ∉ held →
      rowOf OperatorApiKey.id keys keyId = tables.key? keyId) (outside : lock ∉ held) :
    SameIdentity lock tables { tables with keys := keys } := by
  cases lock with
  | key keyId => exact ⟨(kept keyId outside).symm, rfl⟩
  | session sessionId => rfl
  | operator operatorId => rfl

/-- An update of one key leaves the rows of the others. -/
theorem key?_updateWhere {keyId otherId : Uuid} (different : otherId ≠ keyId)
    {change : OperatorApiKey → OperatorApiKey} (keeps : ∀ key, (change key).id = key.id)
    (keys : List OperatorApiKey) :
    rowOf OperatorApiKey.id (updateWhere (·.id = keyId) change keys) otherId =
      rowOf OperatorApiKey.id keys otherId := by
  rw [rowOf_updateWhere fun key _ => keeps key]
  cases found : rowOf OperatorApiKey.id keys otherId with
  | none => rfl
  | some key =>
      have same_id := (rowOf_mem found).2
      simp [same_id, different]

theorem sameIdentity_startSession {now : Int} {session : OperatorWebSession}
    {entry : AuditLogEntry}
    (key : SessionLock.key session.authenticatedByApiKeyId ∈ held)
    (row : SessionLock.session session.id ∈ held) (outside : lock ∉ held) :
    SameIdentity lock tables (tables.startSession now session entry) := by
  cases lock with
  | key keyId =>
      have different : keyId ≠ session.authenticatedByApiKeyId := fun same => outside (same ▸ key)
      refine ⟨?_, ?_⟩
      · refine (key?_updateWhere different ?_ tables.keys).symm
        exact fun _ => rfl
      · simp [IdentityTables.sessionsOf, IdentityTables.startSession, List.filter_append,
          different.symm]
  | session sessionId =>
      have different : session.id ≠ sessionId := fun same => outside (same ▸ row)
      simp [SameIdentity, IdentityTables.session?, IdentityTables.startSession, rowOf, different]
  | operator operatorId => rfl

theorem sameIdentity_addKey {key : OperatorApiKey} (row : SessionLock.key key.id ∈ held)
    (outside : lock ∉ held) : SameIdentity lock tables (tables.addKey key) := by
  refine sameIdentity_keys (fun keyId free => ?_) outside
  have different : key.id ≠ keyId := fun same => free (same ▸ row)
  simp [IdentityTables.key?, rowOf, different]

theorem sameIdentity_revokeKey {keyId : Uuid} {now : Int} {sessionIds : List Uuid}
    (key : SessionLock.key keyId ∈ held)
    (rows : ∀ sessionId ∈ sessionIds, SessionLock.session sessionId ∈ held) (outside : lock ∉ held) :
    SameIdentity lock tables (tables.revokeKey keyId now sessionIds) := by
  have keys : SameIdentity lock tables
      { tables with
        keys := updateWhere (·.id = keyId) (fun key => { key with revokedAt := some now })
          tables.keys } := by
    refine sameIdentity_keys (fun otherId free => ?_) outside
    have different : otherId ≠ keyId := fun same => free (same ▸ key)
    refine key?_updateWhere different ?_ tables.keys
    exact fun _ => rfl
  refine (sameIdentity_equivalence lock).trans keys ?_
  exact sameIdentity_sessions (keepsKeys_ended now)
    (fun session met => rows session.id (of_decide_eq_true met)) outside tables.auditLog

end Locks

/-! ## Every transaction is well locked -/

section WellLocked

variable {held : List SessionLock}

/-- A transaction that ends without a write. -/
theorem wellLocked_pass (answer : SessionAnswer) :
    (Program.commit id answer : SessionProgram).WellLocked SameIdentity held :=
  fun tables lock _ => (sameIdentity_equivalence lock).refl tables

theorem login_wellLocked (settings : WebSessionSettings) (request : LoginRequest) :
    (login settings request).WellLocked SameIdentity [] := by
  unfold login
  split
  · exact wellLocked_pass _
  intro seen
  dsimp only
  split
  · exact wellLocked_pass _
  next found _ =>
    split
    · exact wellLocked_pass _
    next operator _ =>
      refine ⟨fun tables other agree => ?_, fun tables => ?_⟩
      · have same : SameIdentity (.key found.id) tables other := agree _ List.mem_cons_self
        dsimp only
        rw [same.1]
      · dsimp only
        split
        · exact wellLocked_pass _
        next key at_id =>
          have same_id : key.id = found.id := (rowOf_mem at_id).2
          unfold loginWithKey
          split
          · exact wellLocked_pass _
          split
          · exact wellLocked_pass _
          unfold createOperatorWebSession
          split
          · exact wellLocked_pass _
          split
          · refine ⟨fun tables other same => ?_, fun seen => ?_, trivial⟩
            · exact congrArg Option.isSome same
            · dsimp only
              split
              · trivial
              split
              · exact wellLocked_pass _
              split
              · trivial
              · intro tables lock outside
                refine sameIdentity_startSession ?_ List.mem_cons_self outside
                simp [newWebSession, same_id]
          · trivial

theorem touchSession_wellLocked (settings : WebSessionSettings) (now : Int) (sessionId : Uuid)
    (answer : SessionAnswer) :
    (touchSession settings now sessionId answer).WellLocked SameIdentity [] := by
  intro seen
  dsimp only
  split
  · exact wellLocked_pass _
  split
  · exact wellLocked_pass _
  refine ⟨fun tables other agree => ?_, fun tables => ?_⟩
  · have same : SameIdentity (.session sessionId) tables other := agree _ List.mem_cons_self
    simp only [SameIdentity] at same
    dsimp only
    rw [same]
  · dsimp only
    split
    · exact wellLocked_pass _
    split
    · exact wellLocked_pass _
    split
    · exact wellLocked_pass _
    · intro tables lock outside
      refine sameIdentity_sessions (keepsKeys_touched settings now) (fun session met => ?_) outside
        tables.auditLog
      rw [of_decide_eq_true met]
      exact List.mem_cons_self

theorem authenticateWebSession_wellLocked (settings : WebSessionSettings)
    (request : AuthenticateRequest) :
    (authenticateWebSession settings request).WellLocked SameIdentity [] := by
  unfold authenticateWebSession
  split
  · exact wellLocked_pass _
  intro seen
  dsimp only
  split
  · exact wellLocked_pass _
  split
  · exact wellLocked_pass _
  split
  · exact wellLocked_pass _
  split
  · exact touchSession_wellLocked settings request.now _ _
  · exact wellLocked_pass _

theorem lockWebSessionForMutation_wellLocked (request : MutationRequest) :
    (lockWebSessionForMutation request).WellLocked SameIdentity [] := by
  unfold lockWebSessionForMutation
  split
  · exact wellLocked_pass _
  intro seen
  dsimp only
  split
  · exact wellLocked_pass _
  next snapshot _ =>
    refine ⟨fun tables other agree => ?_, fun tables => ?_⟩
    · have session : SameIdentity (.session request.authenticated.sessionId) tables other :=
        agree _ (by simp)
      have operator : SameIdentity (.operator snapshot.operatorId) tables other :=
        agree _ (by simp)
      simp only [SameIdentity] at session operator
      dsimp only
      rw [session, operator]
    · dsimp only
      split
      · exact wellLocked_pass _
      · exact wellLocked_pass _

theorem revokeOperatorWebSession_wellLocked (request : LogoutRequest) :
    (revokeOperatorWebSession request).WellLocked SameIdentity [] := by
  intro seen
  dsimp only
  split
  · exact wellLocked_pass _
  refine ⟨fun tables other agree => ?_, fun tables => ?_⟩
  · have same : SameIdentity (.session request.authenticated.sessionId) tables other :=
      agree _ List.mem_cons_self
    simp only [SameIdentity] at same
    dsimp only
    rw [same]
  · dsimp only
    split
    · exact wellLocked_pass _
    split
    · exact wellLocked_pass _
    split
    · trivial
    split
    · exact wellLocked_pass _
    · intro tables lock outside
      refine sameIdentity_sessions (keepsKeys_ended request.now) (fun session met => ?_) outside _
      rw [of_decide_eq_true met]
      exact List.mem_cons_self

theorem revokeSessions_wellLocked {keyId : Uuid} {now : Int} {next : List Uuid → SessionProgram}
    (continues : ∀ ended more, held ⊆ more →
      (∀ sessionId ∈ ended, SessionLock.session sessionId ∈ more) →
        (next ended).WellLocked SameIdentity more)
    (sessionIds ended : List Uuid)
    (under : ∀ sessionId ∈ ended, SessionLock.session sessionId ∈ held) :
    (revokeSessions keyId now next sessionIds ended).WellLocked SameIdentity held := by
  induction sessionIds generalizing ended held with
  | nil => exact continues ended held (List.Subset.refl _) under
  | cons sessionId rest ih =>
      have continues' : ∀ ended more, SessionLock.session sessionId :: held ⊆ more →
          (∀ sessionId ∈ ended, SessionLock.session sessionId ∈ more) →
            (next ended).WellLocked SameIdentity more := fun ended more subset =>
        continues ended more (List.Subset.trans (List.subset_cons_self _ _) subset)
      have under' : ∀ other ∈ ended,
          SessionLock.session other ∈ SessionLock.session sessionId :: held :=
        fun other member => List.mem_cons_of_mem _ (under other member)
      unfold revokeSessions
      refine ⟨fun tables other agree => ?_, fun tables => ?_⟩
      · have same : SameIdentity (.session sessionId) tables other := agree _ List.mem_cons_self
        simp only [SameIdentity] at same
        dsimp only
        rw [same]
      · dsimp only
        split
        · exact ih continues' ended under'
        split
        · split
          · exact wellLocked_pass _
          · refine ih continues' (ended ++ [sessionId]) fun other member => ?_
            rcases List.mem_append.mp member with earlier | here
            · exact under' other earlier
            · obtain rfl := List.mem_singleton.mp here
              exact List.mem_cons_self
        · exact ih continues' ended under'

/-- Revoking a key that is locked, after rows under held locks were added. -/
theorem revokeLockedKey_wellLocked {key : OperatorApiKey} {now : Int}
    {added : IdentityTables → IdentityTables} {answer : SessionAnswer}
    (locked : SessionLock.key key.id ∈ held)
    (adds : ∀ tables lock, lock ∉ held → SameIdentity lock tables (added tables)) :
    (revokeLockedKey key now added answer).WellLocked SameIdentity held := by
  unfold revokeLockedKey
  split
  · exact wellLocked_pass _
  intro seen
  refine revokeSessions_wellLocked (fun ended more subset under => ?_) _ [] (by simp)
  intro tables lock outside
  have first := adds tables lock fun held_lock => outside (subset held_lock)
  exact (sameIdentity_equivalence lock).trans first
    (sameIdentity_revokeKey (subset locked) under outside)

theorem revokeOperatorApiKey_wellLocked (request : RevokeRequest) :
    (revokeOperatorApiKey request).WellLocked SameIdentity [] := by
  intro seen
  dsimp only
  split
  · exact wellLocked_pass _
  refine ⟨fun tables other agree => ?_, fun tables => ?_⟩
  · have same : SameIdentity (.key request.keyId) tables other := agree _ List.mem_cons_self
    dsimp only
    rw [same.1]
  · dsimp only
    split
    · exact wellLocked_pass _
    next key at_id =>
      split
      · exact wellLocked_pass _
      · refine revokeLockedKey_wellLocked ?_ fun tables lock _ =>
          (sameIdentity_equivalence lock).refl tables
        rw [(rowOf_mem at_id).2]
        exact List.mem_cons_self

theorem createKey_wellLocked {key : OperatorApiKey} {next : SessionProgram}
    (continues : next.WellLocked SameIdentity (.key key.id :: held)) :
    (createKey key next).WellLocked SameIdentity held := by
  refine ⟨fun tables other same => congrArg Option.isSome same.1, fun seen => ?_, trivial⟩
  dsimp only
  split
  · trivial
  split
  · exact wellLocked_pass _
  · exact continues

theorem rotateOperatorApiKey_wellLocked (request : RotateRequest) :
    (rotateOperatorApiKey request).WellLocked SameIdentity [] := by
  intro seen
  dsimp only
  split
  · exact wellLocked_pass _
  refine ⟨fun tables other agree => ?_, fun tables => ?_⟩
  · have same : SameIdentity (.key request.keyId) tables other := agree _ List.mem_cons_self
    dsimp only
    rw [same.1]
  · dsimp only
    split
    · exact wellLocked_pass _
    next key at_id =>
      split
      · exact wellLocked_pass _
      split
      · exact wellLocked_pass _
      intro seen
      dsimp only
      split
      · exact wellLocked_pass _
      split
      · exact wellLocked_pass _
      · refine createKey_wellLocked (revokeLockedKey_wellLocked ?_ fun tables lock outside => ?_)
        · simp [(rowOf_mem at_id).2]
        · exact sameIdentity_addKey List.mem_cons_self outside

theorem issueOperatorApiKey_wellLocked (request : IssueRequest) :
    (issueOperatorApiKey request).WellLocked SameIdentity [] := by
  unfold issueOperatorApiKey
  split
  · exact wellLocked_pass _
  intro seen
  dsimp only
  split
  · exact wellLocked_pass _
  split
  · exact wellLocked_pass _
  · exact createKey_wellLocked fun tables lock outside =>
      sameIdentity_addKey List.mem_cons_self outside

/-- **Every transaction's locks cover what it reads and writes.** -/
theorem SessionOperation.wellLocked (settings : WebSessionSettings)
    (operation : SessionOperation) :
    (operation.code settings).WellLocked SameIdentity [] := by
  cases operation with
  | login request => exact login_wellLocked settings request
  | authenticate request => exact authenticateWebSession_wellLocked settings request
  | mutate request => exact lockWebSessionForMutation_wellLocked request
  | logout request => exact revokeOperatorWebSession_wellLocked request
  | issue request => exact issueOperatorApiKey_wellLocked request
  | rotate request => exact rotateOperatorApiKey_wellLocked request
  | revoke request => exact revokeOperatorApiKey_wellLocked request
  | writeOperator operator now =>
      intro tables lock outside
      cases lock with
      | key keyId => exact ⟨rfl, rfl⟩
      | session sessionId => rfl
      | operator operatorId =>
          have different : operator.id ≠ operatorId := by
            rintro rfl
            exact outside List.mem_cons_self
          simp [SameIdentity, IdentityTables.operator?, IdentityTables.writeOperator, rowOf_putRow,
            different]

end WellLocked

end WolandGuard.Sessions
