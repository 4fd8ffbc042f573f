import WolandGuard.Sessions.Transactions

/-!
# What the operations do

For each operation, what one execution of its transaction leaves and answers.
`visible` are the states that the execution has seen without a lock.
-/

set_option autoImplicit false

namespace WolandGuard.Sessions

open Foundations Incidents Telegram

variable {settings : WebSessionSettings} {visible : IdentityTables → Prop}
variable {held : List SessionLock} {state after : IdentityTables} {answer answered : SessionAnswer}

/-- An execution of a transaction, for the locks it holds already. -/
abbrev Executes (visible : IdentityTables → Prop) (program : SessionProgram)
    (held : List SessionLock) (state after : IdentityTables) (answer : SessionAnswer) : Prop :=
  program.PerformsSeeing SameIdentity visible held state after answer

theorem pass_executes (executes : Executes visible (.commit id answered) held state after answer) :
    after = state ∧ answer = answered := by
  cases executes with
  | commit => exact ⟨rfl, rfl⟩

/-! ## Logging in -/

inductive LoginEffect (settings : WebSessionSettings) (request : LoginRequest)
    (visible : IdentityTables → Prop) (state : IdentityTables) :
    IdentityTables → SessionAnswer → Prop where
  | refused (answer : SessionAnswer) :
      answer ∈ [.invalidCredentials, .forbidden, .invalidSession] →
      LoginEffect settings request visible state state answer
  | started (seen : IdentityTables) (key : OperatorApiKey) (operator : Operator)
      (publicId secret : String) (session : OperatorWebSession) (entry : AuditLogEntry)
      (tokenDigest csrfTokenDigest : Digest) :
      visible seen → operator ∈ seen.operators → state.key? key.id = some key →
      credentialIsUsable publicId secret request.now key operator = true →
      state.session? request.sessionId = none →
      session = newWebSession settings request key operator tokenDigest csrfTokenDigest →
      session.Checked →
      LoginEffect settings request visible state (state.startSession request.now session entry)
        (.issued session.id session.absoluteExpiresAt)

theorem createOperatorWebSession_executes {request : LoginRequest} {key : OperatorApiKey}
    {operator : Operator} {publicId secret : String} {seen : IdentityTables}
    (shown : visible seen) (member : operator ∈ seen.operators)
    (found : state.key? key.id = some key)
    (usable : credentialIsUsable publicId secret request.now key operator = true)
    (executes : Executes visible (createOperatorWebSession settings request key operator) held state
      after answer) :
    LoginEffect settings request visible state after answer := by
  unfold createOperatorWebSession at executes
  split at executes
  · obtain ⟨rfl, rfl⟩ := pass_executes executes
    exact .refused _ (by simp)
  next live =>
    split at executes
    next tokenDigest csrfTokenDigest token csrf =>
      have checked : (newWebSession settings request key operator tokenDigest
          csrfTokenDigest).Checked :=
        newWebSession_checked (octetLength_webTokenDigest token) (octetLength_webTokenDigest csrf)
          (by omega)
      cases executes with
      | claimUsed _ _ _ executes => cases executes
      | claimFree fresh executes =>
          cases executes with
          | peek _ _ _ executes =>
              dsimp only at executes
              split at executes
              · cases executes
              split at executes
              · cases executes
              next entry _ =>
                cases executes with
                | commit =>
                    exact .started seen key operator publicId secret _ entry tokenDigest
                      csrfTokenDigest shown member found usable
                      (Option.isSome_eq_false_iff.mp fresh |> Option.isNone_iff_eq_none.mp) rfl
                      checked
    · cases executes

/-- **What a login does.** -/
theorem login_executes {request : LoginRequest}
    (executes : Executes visible (login settings request) [] state after answer) :
    LoginEffect settings request visible state after answer := by
  unfold login at executes
  split at executes
  · obtain ⟨rfl, rfl⟩ := pass_executes executes
    exact .refused _ (by simp)
  next publicId secret _ =>
    cases executes with
    | peek seen shown _ executes =>
        dsimp only at executes
        split at executes
        · obtain ⟨rfl, rfl⟩ := pass_executes executes
          exact .refused _ (by simp)
        next found _ =>
          split at executes
          · obtain ⟨rfl, rfl⟩ := pass_executes executes
            exact .refused _ (by simp)
          next operator operator_row =>
            cases executes with
            | lock executes =>
                cases executes with
                | read executes =>
                    dsimp only at executes
                    split at executes
                    · obtain ⟨rfl, rfl⟩ := pass_executes executes
                      exact .refused _ (by simp)
                    next key at_id =>
                      have at_own_id : state.key? key.id = some key := by
                        rw [(rowOf_mem at_id).2]
                        exact at_id
                      unfold loginWithKey at executes
                      split at executes
                      · obtain ⟨rfl, rfl⟩ := pass_executes executes
                        exact .refused _ (by simp)
                      next usable =>
                        split at executes
                        · obtain ⟨rfl, rfl⟩ := pass_executes executes
                          exact .refused _ (by simp)
                        · exact createOperatorWebSession_executes shown (rowOf_mem operator_row).1
                            at_own_id (not_not.mp usable) executes

/-! ## Using a session -/

/-- The rows after an authentication: touched or as they were. -/
inductive Touches (settings : WebSessionSettings) (now : Int) (sessionId : Uuid)
    (state : IdentityTables) : IdentityTables → Prop where
  | untouched : Touches settings now sessionId state state
  | touched (session : OperatorWebSession) : state.session? sessionId = some session →
      meetsTouch settings now session = true → (touchedSession settings now session).Checked →
      Touches settings now sessionId state
        (state.updateSession sessionId (touchedSession settings now))

/-- A touch that breaks a constraint. -/
def BrokenTouch (settings : WebSessionSettings) (now : Int) (state : IdentityTables) : Prop :=
  ∃ session ∈ state.sessions, meetsTouch settings now session = true ∧
    ¬ (touchedSession settings now session).Checked

theorem touchSession_executes {now : Int} {sessionId : Uuid}
    (executes : Executes visible (touchSession settings now sessionId answered) held state after
      answer) :
    (answer = answered ∧ Touches settings now sessionId state after) ∨
      (answer = .databaseError ∧ after = state ∧ BrokenTouch settings now state) := by
  cases executes with
  | peek seen _ _ executes =>
      dsimp only at executes
      split at executes
      · obtain ⟨rfl, rfl⟩ := pass_executes executes
        exact .inl ⟨rfl, .untouched⟩
      split at executes
      · obtain ⟨rfl, rfl⟩ := pass_executes executes
        exact .inl ⟨rfl, .untouched⟩
      cases executes with
      | lock executes =>
          cases executes with
          | read executes =>
              dsimp only at executes
              split at executes
              · obtain ⟨rfl, rfl⟩ := pass_executes executes
                exact .inl ⟨rfl, .untouched⟩
              next session at_id =>
                split at executes
                · obtain ⟨rfl, rfl⟩ := pass_executes executes
                  exact .inl ⟨rfl, .untouched⟩
                next meets =>
                  split at executes
                  next broken =>
                    obtain ⟨rfl, rfl⟩ := pass_executes executes
                    exact .inr ⟨rfl, rfl, session, (rowOf_mem at_id).1, not_not.mp meets, broken⟩
                  next checked =>
                    cases executes with
                    | commit =>
                        exact .inl ⟨rfl, .touched session at_id (not_not.mp meets)
                          (not_not.mp checked)⟩

inductive AuthenticateEffect (settings : WebSessionSettings) (request : AuthenticateRequest)
    (visible : IdentityTables → Prop) (state : IdentityTables) :
    IdentityTables → SessionAnswer → Prop where
  | invalid : AuthenticateEffect settings request visible state state .invalidSession
  | authenticated (seen after : IdentityTables) (stored : OperatorWebSession)
      (operator : Operator) : visible seen → stored ∈ seen.sessions →
      operator ∈ seen.operators → operator.id = stored.operatorId →
      webTokenDigest request.token = some stored.tokenDigest →
      isUsable request.now stored operator = true →
      Touches settings request.now stored.id state after →
      AuthenticateEffect settings request visible state after
        (.authenticated ⟨sessionPrincipal stored operator, stored.id, stored.csrfTokenDigest⟩)
  | broken : BrokenTouch settings request.now state →
      AuthenticateEffect settings request visible state state .databaseError

/-- **What an authentication does.** -/
theorem authenticateWebSession_executes {request : AuthenticateRequest}
    (executes : Executes visible (authenticateWebSession settings request) [] state after answer) :
    AuthenticateEffect settings request visible state after answer := by
  unfold authenticateWebSession at executes
  split at executes
  · obtain ⟨rfl, rfl⟩ := pass_executes executes
    exact .invalid
  next digest digested =>
    cases executes with
    | peek seen shown _ executes =>
        dsimp only at executes
        split at executes
        · obtain ⟨rfl, rfl⟩ := pass_executes executes
          exact .invalid
        next stored found =>
          have member := List.mem_of_find?_eq_some found
          have same_digest : stored.tokenDigest = digest := by simpa using List.find?_some found
          split at executes
          · obtain ⟨rfl, rfl⟩ := pass_executes executes
            exact .invalid
          next operator operator_row =>
            obtain ⟨operator_member, operator_id⟩ := rowOf_mem operator_row
            split at executes
            · obtain ⟨rfl, rfl⟩ := pass_executes executes
              exact .invalid
            next usable =>
              have usable := not_not.mp usable
              have token := digested.trans (congrArg some same_digest.symm)
              split at executes
              · rcases touchSession_executes executes with ⟨rfl, touches⟩ | ⟨rfl, rfl, broken⟩
                · exact .authenticated seen after stored operator shown member operator_member
                    operator_id token usable touches
                · exact .broken broken
              · obtain ⟨rfl, rfl⟩ := pass_executes executes
                exact .authenticated seen _ stored operator shown member operator_member
                  operator_id token usable .untouched

/-- **What a request that changes something is answered.** It reads the rows of
its session and its operator under their locks. -/
theorem lockWebSessionForMutation_executes {request : MutationRequest}
    (executes : Executes visible (lockWebSessionForMutation request) [] state after answer) :
    after = state ∧
      (answer = .invalidSession ∨
        ∃ stored operator, state.session? request.authenticated.sessionId = some stored ∧
          operator ∈ state.operators ∧ answer = admission request stored operator) := by
  unfold lockWebSessionForMutation at executes
  split at executes
  · obtain ⟨rfl, rfl⟩ := pass_executes executes
    exact ⟨rfl, .inl rfl⟩
  cases executes with
  | peek seen _ _ executes =>
      dsimp only at executes
      split at executes
      · obtain ⟨rfl, rfl⟩ := pass_executes executes
        exact ⟨rfl, .inl rfl⟩
      cases executes with
      | lock executes =>
          cases executes with
          | lock executes =>
              cases executes with
              | read executes =>
                  dsimp only at executes
                  split at executes
                  next stored operator session_row operator_row =>
                    obtain ⟨rfl, rfl⟩ := pass_executes executes
                    exact ⟨rfl, .inr ⟨stored, operator, session_row, (rowOf_mem operator_row).1, rfl⟩⟩
                  · obtain ⟨rfl, rfl⟩ := pass_executes executes
                    exact ⟨rfl, .inl rfl⟩

/-- An admitted request has a usable session of an active operator. -/
theorem usable_of_admit {request : MutationRequest} {stored : OperatorWebSession}
    {operator : Operator} {principal : OperatorPrincipal}
    (admitted : admission request stored operator = .admitted principal) :
    principal = sessionPrincipal stored operator ∧ operator.id = stored.operatorId ∧
      isUsable request.now stored operator = true ∧
      roleHasPermission operator.role request.requiredPermission = true := by
  unfold admission at admitted
  split at admitted
  · cases admitted
  next bound =>
    simp only [not_or, not_not, Bool.not_eq_false] at bound
    split at admitted
    · cases admitted
    next permitted =>
      obtain rfl := SessionAnswer.admitted.inj admitted
      exact ⟨rfl, bound.2.2.2.2.2.1, bound.2.2.2.2.2.2, not_not.mp permitted⟩

inductive LogoutEffect (request : LogoutRequest) (state : IdentityTables) :
    IdentityTables → SessionAnswer → Prop where
  | invalid : LogoutEffect request state state .invalidSession
  | ended (stored : OperatorWebSession) (entry : AuditLogEntry) :
      state.session? request.authenticated.sessionId = some stored → stored.revokedAt = none →
      (endedSession request.now stored).Checked →
      LogoutEffect request state
        (state.endSession request.authenticated.sessionId request.now entry) .ended
  | broken (stored : OperatorWebSession) :
      state.session? request.authenticated.sessionId = some stored →
      ¬ (endedSession request.now stored).Checked →
      LogoutEffect request state state .databaseError

/-- **What a logout does.** -/
theorem revokeOperatorWebSession_executes {request : LogoutRequest}
    (executes : Executes visible (revokeOperatorWebSession request) [] state after answer) :
    LogoutEffect request state after answer := by
  unfold revokeOperatorWebSession at executes
  cases executes with
  | peek seen _ _ executes =>
      dsimp only at executes
      split at executes
      · obtain ⟨rfl, rfl⟩ := pass_executes executes
        exact .invalid
      cases executes with
      | lock executes =>
          cases executes with
          | read executes =>
              dsimp only at executes
              split at executes
              · obtain ⟨rfl, rfl⟩ := pass_executes executes
                exact .invalid
              next stored at_id =>
                split at executes
                · obtain ⟨rfl, rfl⟩ := pass_executes executes
                  exact .invalid
                next unrevoked =>
                  split at executes
                  · cases executes
                  next entry _ =>
                    split at executes
                    next broken =>
                      obtain ⟨rfl, rfl⟩ := pass_executes executes
                      exact .broken stored at_id broken
                    next checked =>
                      cases executes with
                      | commit =>
                          exact .ended stored entry at_id
                            (Option.not_isSome_iff_eq_none.mp unrevoked) (not_not.mp checked)

/-! ## Keys -/

/-- An id is that of an unrevoked session of a key. -/
def isOpenIn (keyId : Uuid) (tables : IdentityTables) (sessionId : Uuid) : Bool :=
  (tables.session? sessionId).any fun session =>
    session.authenticatedByApiKeyId = keyId && session.revokedAt.isNone

/-- A session of a key whose revocation breaks a constraint. -/
def BrokenSession (keyId : Uuid) (now : Int) (state : IdentityTables) : Prop :=
  ∃ session ∈ state.sessions, session.authenticatedByApiKeyId = keyId ∧
    session.revokedAt = none ∧ ¬ (endedSession now session).Checked

/-- The update goes through all rows that are still open, or breaks at one. -/
theorem revokeSessions_executes {keyId : Uuid} {now : Int} {next : List Uuid → SessionProgram}
    {sessionIds ended : List Uuid}
    (executes : Executes visible (revokeSessions keyId now next sessionIds ended) held state after
      answer) :
    (answer = .databaseError ∧ after = state ∧ BrokenSession keyId now state) ∨
      (∃ more, Executes visible (next (ended ++ sessionIds.filter (isOpenIn keyId state))) more
        state after answer) ∧
      ∀ sessionId ∈ sessionIds.filter (isOpenIn keyId state), ∀ session,
        state.session? sessionId = some session → (endedSession now session).Checked := by
  induction sessionIds generalizing ended held with
  | nil =>
      unfold revokeSessions at executes
      exact .inr ⟨⟨held, by simpa using executes⟩, by simp⟩
  | cons sessionId rest ih =>
      unfold revokeSessions at executes
      cases executes with
      | lock executes =>
          cases executes with
          | read executes =>
              dsimp only at executes
              split at executes
              next absent =>
                have closed : isOpenIn keyId state sessionId = false := by simp [isOpenIn, absent]
                simpa [closed] using ih executes
              next session at_id =>
                split at executes
                next opened =>
                  have is_open : isOpenIn keyId state sessionId = true := by
                    simp [isOpenIn, at_id, opened.1, opened.2]
                  split at executes
                  next broken =>
                    obtain ⟨rfl, rfl⟩ := pass_executes executes
                    exact .inl ⟨rfl, rfl, session, (rowOf_mem at_id).1, opened.1, opened.2, broken⟩
                  next checked =>
                    rcases ih executes with broken | ⟨⟨more, continues⟩, others⟩
                    · exact .inl broken
                    · refine .inr ⟨⟨more, by simpa [is_open] using continues⟩, ?_⟩
                      intro other member row row_at
                      rw [List.filter_cons_of_pos is_open] at member
                      rcases List.mem_cons.mp member with rfl | later
                      · obtain rfl := Option.some.inj (at_id.symm.trans row_at)
                        exact not_not.mp checked
                      · exact others other later row row_at
                next shut =>
                  have closed : isOpenIn keyId state sessionId = false := by
                    simp only [isOpenIn, at_id, Option.any_some, Bool.and_eq_false_iff,
                      decide_eq_false_iff_not, Option.isNone_eq_false_iff]
                    by_cases same : session.authenticatedByApiKeyId = keyId
                    · exact .inr (Option.isSome_iff_ne_none.mpr fun absent => shut ⟨same, absent⟩)
                    · exact .inl same
                  simpa [closed] using ih executes

/-- A revocation of a key after rows were added: its row and those of its
sessions that were found open, or a broken constraint. -/
inductive RevocationEffect (visible : IdentityTables → Prop) (keyId : Uuid) (now : Int)
    (added : IdentityTables → IdentityTables) (done : SessionAnswer) (state : IdentityTables) :
    IdentityTables → SessionAnswer → Prop where
  | revoked (key : OperatorApiKey) (seen : IdentityTables) :
      state.key? keyId = some key → key.revokedAt = none → visible seen →
      seen.sessionsOf keyId = state.sessionsOf keyId →
      { key with revokedAt := some now }.Checked →
      (∀ sessionId ∈ (openSessions keyId seen).filter (isOpenIn keyId state), ∀ session,
        state.session? sessionId = some session → (endedSession now session).Checked) →
      RevocationEffect visible keyId now added done state
        ((added state).revokeKey keyId now
          ((openSessions keyId seen).filter (isOpenIn keyId state))) done
  | broken (key : OperatorApiKey) : state.key? keyId = some key → key.revokedAt = none →
      (¬ { key with revokedAt := some now }.Checked ∨ BrokenSession keyId now state) →
      RevocationEffect visible keyId now added done state state .databaseError

theorem revokeLockedKey_executes {key : OperatorApiKey} {now : Int}
    {added : IdentityTables → IdentityTables} {done : SessionAnswer}
    (found : state.key? key.id = some key) (unrevoked : key.revokedAt = none)
    (locked : SessionLock.key key.id ∈ held)
    (executes : Executes visible (revokeLockedKey key now added done) held state after answer) :
    RevocationEffect visible key.id now added done state after answer := by
  unfold revokeLockedKey at executes
  split at executes
  next broken =>
    obtain ⟨rfl, rfl⟩ := pass_executes executes
    exact .broken key found unrevoked (.inl broken)
  next checked =>
    cases executes with
    | peek seen shown agree executes =>
        rcases revokeSessions_executes executes with ⟨rfl, rfl, broken⟩ | ⟨⟨more, ends⟩, sessions⟩
        · exact .broken key found unrevoked (.inr broken)
        · cases ends with
          | commit =>
              have same : SameIdentity (.key key.id) seen state := agree _ locked
              exact .revoked key seen found unrevoked shown same.2 (not_not.mp checked) sessions

inductive RevokeEffect (request : RevokeRequest) (visible : IdentityTables → Prop)
    (state : IdentityTables) : IdentityTables → SessionAnswer → Prop where
  | refused (message : String) : RevokeEffect request visible state state (.refused message)
  | already (key : OperatorApiKey) : state.key? request.keyId = some key →
      key.revokedAt.isSome = true → RevokeEffect request visible state state (.revoked false)
  | revocation (after : IdentityTables) (answer : SessionAnswer) :
      RevocationEffect visible request.keyId request.now id (.revoked true) state after answer →
      RevokeEffect request visible state after answer

/-- **What the revocation of a key does.** -/
theorem revokeOperatorApiKey_executes {request : RevokeRequest}
    (executes : Executes visible (revokeOperatorApiKey request) [] state after answer) :
    RevokeEffect request visible state after answer := by
  unfold revokeOperatorApiKey at executes
  cases executes with
  | peek seen _ _ executes =>
      dsimp only at executes
      split at executes
      · obtain ⟨rfl, rfl⟩ := pass_executes executes
        exact .refused _
      cases executes with
      | lock executes =>
          cases executes with
          | read executes =>
              dsimp only at executes
              split at executes
              · obtain ⟨rfl, rfl⟩ := pass_executes executes
                exact .refused _
              next key at_id =>
                have same_id := (rowOf_mem at_id).2
                split at executes
                next revoked =>
                  obtain ⟨rfl, rfl⟩ := pass_executes executes
                  exact .already key at_id revoked
                next unrevoked =>
                  rw [← same_id] at at_id
                  have effect := revokeLockedKey_executes at_id
                    (Option.not_isSome_iff_eq_none.mp unrevoked) (by simp [same_id]) executes
                  rw [same_id] at effect
                  exact .revocation _ _ effect

/-- A new key is inserted under an unused id. -/
theorem createKey_executes {key : OperatorApiKey} {next : SessionProgram} (checked : key.Checked)
    (executes : Executes visible (createKey key next) held state after answer) :
    state.key? key.id = none ∧ Executes visible next (.key key.id :: held) state after answer := by
  unfold createKey at executes
  cases executes with
  | claimUsed _ _ _ executes => cases executes
  | claimFree fresh executes =>
      cases executes with
      | peek _ _ _ executes =>
          dsimp only at executes
          split at executes
          · cases executes
          exact ⟨Option.not_isSome_iff_eq_none.mp (by simpa using fresh), executes⟩

/-- An expiry that is not refused is in the future. -/
theorem future_of_any {expiresAt : Option Int} {now : Int}
    (future : ¬ (expiresAt.any (· ≤ now)) = true) : ∀ expiry ∈ expiresAt, now < expiry := by
  rintro expiry rfl
  simpa using future

inductive RotateEffect (request : RotateRequest) (visible : IdentityTables → Prop)
    (state : IdentityTables) : IdentityTables → SessionAnswer → Prop where
  | refused (message : String) : RotateEffect request visible state state (.refused message)
  | rotation (after : IdentityTables) (answer : SessionAnswer) (replacement : OperatorApiKey) :
      state.key? replacement.id = none → replacement.Checked → replacement.createdAt = request.now →
      replacement.revokedAt = none →
      RevocationEffect visible request.keyId request.now (·.addKey replacement)
        (.rotated replacement.id) state after answer →
      RotateEffect request visible state after answer

/-- **What the rotation of a key does.** -/
theorem rotateOperatorApiKey_executes {request : RotateRequest}
    (executes : Executes visible (rotateOperatorApiKey request) [] state after answer) :
    RotateEffect request visible state after answer := by
  unfold rotateOperatorApiKey at executes
  cases executes with
  | peek seen _ _ executes =>
      dsimp only at executes
      split at executes
      · obtain ⟨rfl, rfl⟩ := pass_executes executes
        exact .refused _
      cases executes with
      | lock executes =>
          cases executes with
          | read executes =>
              dsimp only at executes
              split at executes
              · obtain ⟨rfl, rfl⟩ := pass_executes executes
                exact .refused _
              next key at_id =>
                have same_id := (rowOf_mem at_id).2
                split at executes
                · obtain ⟨rfl, rfl⟩ := pass_executes executes
                  exact .refused _
                next unrevoked =>
                  split at executes
                  · obtain ⟨rfl, rfl⟩ := pass_executes executes
                    exact .refused _
                  next future =>
                    cases executes with
                    | peek seen _ _ executes =>
                        dsimp only at executes
                        split at executes
                        · obtain ⟨rfl, rfl⟩ := pass_executes executes
                          exact .refused _
                        split at executes
                        · obtain ⟨rfl, rfl⟩ := pass_executes executes
                          exact .refused _
                        have checked : (newKey request.material key.operatorId
                            (request.expiresAt.or key.expiresAt) (some key.id) request.now).Checked :=
                          newKey_checked (future_of_any future)
                        obtain ⟨fresh, executes⟩ := createKey_executes checked executes
                        rw [← same_id] at at_id
                        have effect := revokeLockedKey_executes at_id
                          (Option.not_isSome_iff_eq_none.mp unrevoked) (by simp [same_id]) executes
                        rw [same_id] at effect
                        exact .rotation _ _ _ fresh checked rfl rfl (same_id ▸ effect)

/-- **What the issue of a key does.** -/
theorem issueOperatorApiKey_executes {request : IssueRequest}
    (executes : Executes visible (issueOperatorApiKey request) [] state after answer) :
    (after = state ∧ ∃ message, answer = .refused message) ∨
      ∃ key, state.key? key.id = none ∧ key.Checked ∧ key.createdAt = request.now ∧
        key.revokedAt = none ∧ after = state.addKey key ∧ answer = .keyIssued key.id := by
  unfold issueOperatorApiKey at executes
  split at executes
  · obtain ⟨rfl, rfl⟩ := pass_executes executes
    exact .inl ⟨rfl, _, rfl⟩
  next future =>
    cases executes with
    | peek seen _ _ executes =>
        dsimp only at executes
        split at executes
        · obtain ⟨rfl, rfl⟩ := pass_executes executes
          exact .inl ⟨rfl, _, rfl⟩
        split at executes
        · obtain ⟨rfl, rfl⟩ := pass_executes executes
          exact .inl ⟨rfl, _, rfl⟩
        have checked : (newKey request.material request.operatorId request.expiresAt none
            request.now).Checked := newKey_checked (future_of_any future)
        obtain ⟨fresh, executes⟩ := createKey_executes checked executes
        cases executes with
        | commit => exact .inr ⟨_, fresh, checked, rfl, rfl, rfl, rfl⟩

end WolandGuard.Sessions
