import WolandGuard.Administration.Standing

/-!
# What the audit log tells

Each operation on operators, keys, Telegram links and networks of the allowlist
appends one entry, and the standing after it is the standing before it with the
event of the entry applied. Logins, sessions and the other uses of keys append
entries that say nothing about the standing, and keep it.
-/

set_option autoImplicit false

namespace WolandGuard.Administration

open Detection (Severity)
open Foundations Incidents IpBlocks Outbox Sessions Telegram

variable {unicode : UnicodeData} {moment : Moment} {tables after : AdministrationTables}

/-! ## Operators and keys -/

theorem createOperator_told {operatorId : Uuid} {username : String} {role : OperatorRole}
    (done : createOperator moment tables operatorId username role = .ok after) :
    TellsStanding tables after ∧ SameRoutes tables after := by
  unfold createOperator at done
  split at done
  · cases done
  split at done
  · cases done
  next fresh =>
    refine ⟨told_of_tell done tellLocally_readAs rfl ?_, ?_⟩
    · have absent : rowOf Operator.id tables.identity.operators operatorId = none := by
        refine rowOf_eq_none.mpr fun operator member same => fresh ?_
        exact List.any_eq_true.mpr ⟨operator, member, by simp [same]⟩
      exact Standing.ext (viewOf_append absent) rfl rfl rfl rfl
    · obtain ⟨entry, _, rfl⟩ := tell_ok.mp done
      exact ⟨rfl, rfl⟩

/-- The tables of identities of an operation on keys. -/
theorem tellKey_told {identity : IdentityTables} {keyId operatorId : Uuid}
    {event : Uuid → AdministrativeEvent}
    (done : tellKey moment tables identity keyId event = .ok after)
    (same_log : identity.auditLog = tables.identity.auditLog)
    (owner : keyOwner identity keyId = some operatorId)
    (applied : ({ tables with identity := identity } : AdministrationTables).standing =
      tables.standing.apply (event operatorId)) :
    TellsStanding tables after ∧ SameRoutes tables after := by
  unfold tellKey at done
  rw [owner] at done
  refine ⟨told_of_tell done tellLocally_readAs same_log applied, ?_⟩
  obtain ⟨entry, _, rfl⟩ := tell_ok.mp done
  exact ⟨rfl, rfl⟩

/-- A transaction on keys that is run by itself. -/
theorem executes_alone {program : SessionProgram} {state later : IdentityTables}
    {answer : SessionAnswer} (ran : program.alone state = (later, some answer)) :
    Executes (· = state) program [] state later answer :=
  Program.performsSeeing_alone (fun lock state => (sameIdentity_equivalence lock).refl state) ran

/-- A key under a fresh id. -/
theorem keyOwner_addKey {identity : IdentityTables} {key : OperatorApiKey}
    (fresh : identity.key? key.id = none) :
    keyOwner (identity.addKey key) key.id = some key.operatorId := by
  have added : (identity.addKey key).key? key.id = some key := by
    have absent : rowOf OperatorApiKey.id identity.keys key.id = none := fresh
    rw [IdentityTables.key?, IdentityTables.addKey, rowOf_append, absent]
    simp [rowOf]
  rw [keyOwner, added]
  rfl

/-- A revocation does not change whose a key is. -/
theorem keyOwner_revokeKey {identity : IdentityTables} {keyId : Uuid} {now : Int}
    {sessionIds : List Uuid} (other : Uuid) :
    keyOwner (identity.revokeKey keyId now sessionIds) other = keyOwner identity other := by
  have same : viewOf OperatorApiKey.id OperatorApiKey.operatorId
      (identity.revokeKey keyId now sessionIds).keys =
        viewOf OperatorApiKey.id OperatorApiKey.operatorId identity.keys :=
    viewOf_updateWhere_of_same (fun _ => rfl) (fun _ => rfl)
  exact congrFun same other

theorem view_addKey {identity : IdentityTables} {key : OperatorApiKey}
    (fresh : identity.key? key.id = none) (unrevoked : key.revokedAt = none) :
    viewOf OperatorApiKey.id holdingOfKey (identity.addKey key).keys =
      Function.update (viewOf OperatorApiKey.id holdingOfKey identity.keys) key.id
        (some (Standing.granted key.operatorId)) := by
  have granted : holdingOfKey key = Standing.granted key.operatorId := by
    simp [holdingOfKey, Standing.granted, unrevoked]
  rw [← granted]
  exact viewOf_append fresh

theorem view_revokeKey {identity : IdentityTables} {keyId : Uuid} {now : Int}
    {sessionIds : List Uuid} :
    viewOf OperatorApiKey.id holdingOfKey (identity.revokeKey keyId now sessionIds).keys =
      adjust (viewOf OperatorApiKey.id holdingOfKey identity.keys) keyId Standing.withdrawn :=
  viewOf_updateWhere (by intro _; rfl) (by intro _; rfl) keyId

theorem issueOperatorApiKey_told {label : Option String} {request : IssueRequest}
    (done : issueOperatorApiKey unicode moment tables label request = .ok after) :
    TellsStanding tables after ∧ SameRoutes tables after := by
  unfold issueOperatorApiKey at done
  split at done
  · cases done
  split at done
  next identity keyId ran =>
    rcases issueOperatorApiKey_executes (executes_alone ran) with
      ⟨_, message, answered⟩ | ⟨key, fresh, _, _, unrevoked, rfl, answered⟩
    · cases answered
    · obtain rfl := SessionAnswer.keyIssued.inj answered
      refine tellKey_told done rfl (keyOwner_addKey fresh) ?_
      exact Standing.ext rfl (view_addKey fresh unrevoked) rfl rfl rfl
  · cases done
  · cases done

theorem rotateOperatorApiKey_told {label : Option String} {request : RotateRequest}
    (done : rotateOperatorApiKey unicode moment tables label request = .ok after) :
    TellsStanding tables after ∧ SameRoutes tables after := by
  unfold rotateOperatorApiKey at done
  split at done
  · cases done
  next identity answer ran =>
    split at done
    · cases done
    split at done
    next keyId =>
      cases rotateOperatorApiKey_executes (executes_alone ran) with
      | rotation _ _ replacement fresh _ _ unrevoked revocation =>
          cases revocation with
          | revoked key seen _ _ _ _ _ _ =>
              refine tellKey_told done rfl
                ((keyOwner_revokeKey _).trans (keyOwner_addKey fresh)) ?_
              refine Standing.ext rfl (view_revokeKey.trans ?_) rfl rfl rfl
              rw [view_addKey fresh unrevoked]
              rfl
    · cases done

theorem revokeOperatorApiKey_told {request : RevokeRequest}
    (done : revokeOperatorApiKey moment tables request = .ok after) :
    TellsStanding tables after ∧ SameRoutes tables after := by
  unfold revokeOperatorApiKey at done
  split at done
  next identity ran =>
    cases revokeOperatorApiKey_executes (executes_alone ran) with
    | revocation _ _ revocation =>
        cases revocation with
        | revoked key seen found _ _ _ _ _ =>
            have owner : keyOwner tables.identity request.keyId = some key.operatorId := by
              rw [keyOwner, found]
              rfl
            refine tellKey_told done rfl ((keyOwner_revokeKey _).trans owner) ?_
            exact Standing.ext rfl view_revokeKey rfl rfl rfl
  · obtain rfl := Except.ok.inj done
    exact ⟨.refl _, rfl, rfl⟩
  · cases done
  · cases done

/-! ## Telegram links -/

/-- A link that is accepted is added to the others. -/
theorem links_of_linkTelegramUser {directory linked : Directory} {linkId operatorId : Uuid}
    {telegramUserId now : Int}
    (done : directory.linkTelegramUser linkId now operatorId telegramUserId = .ok linked) :
    ∃ link : OperatorTelegramLink, link.id = linkId ∧ link.operatorId = operatorId ∧
      link.revokedAt = none ∧ linked.links = directory.links ++ [link] := by
  unfold Directory.linkTelegramUser at done
  split at done
  · cases done
  split at done
  · cases done
  split at done
  · cases done
  split at done
  · cases done
  split at done
  · cases done
  obtain rfl := Except.ok.inj done
  exact ⟨_, rfl, rfl, rfl, rfl⟩

theorem links_of_revokeTelegramLink {directory revoked : Directory} {linkId : Uuid} {now : Int}
    (done : directory.revokeTelegramLink now linkId = .ok revoked) :
    revoked.links = updateWhere (·.id = linkId)
      (fun row => { row with revokedAt := some (max now row.createdAt) }) directory.links := by
  unfold Directory.revokeTelegramLink at done
  split at done
  · cases done
  split at done
  · cases done
  split at done
  · cases done
  obtain rfl := Except.ok.inj done
  rfl

theorem linkTelegramUser_told {linkId operatorId : Uuid} {telegramUserId : Int}
    (done : linkTelegramUser moment tables linkId operatorId telegramUserId = .ok after) :
    TellsStanding tables after ∧ SameRoutes tables after := by
  unfold linkTelegramUser at done
  split at done
  · cases done
  next directory linked =>
    obtain ⟨link, rfl, rfl, unrevoked, added⟩ := links_of_linkTelegramUser linked
    split at done
    · cases done
    next fresh =>
      refine ⟨told_of_tell done tellLocally_readAs rfl ?_, ?_⟩
      · have holding : holdingOfLink link = Standing.granted link.operatorId := by
          simp [holdingOfLink, Standing.granted, unrevoked]
        refine Standing.ext rfl rfl ?_ rfl rfl
        show viewOf OperatorTelegramLink.id holdingOfLink directory.links = _
        rw [added]
        refine (viewOf_append (Option.not_isSome_iff_eq_none.mp fresh)).trans ?_
        rw [holding]
        rfl
      · obtain ⟨entry, _, rfl⟩ := tell_ok.mp done
        exact ⟨rfl, rfl⟩

theorem revokeTelegramLink_told {linkId : Uuid}
    (done : revokeTelegramLink moment tables linkId = .ok after) :
    TellsStanding tables after ∧ SameRoutes tables after := by
  unfold revokeTelegramLink at done
  split at done
  next directory link revoked found =>
    refine ⟨told_of_tell done tellLocally_readAs rfl ?_, ?_⟩
    · refine Standing.ext rfl rfl ?_ rfl rfl
      show viewOf OperatorTelegramLink.id holdingOfLink directory.links = _
      rw [links_of_revokeTelegramLink revoked]
      exact viewOf_updateWhere (by intro _; rfl) (by intro _; rfl) linkId
    · obtain ⟨entry, _, rfl⟩ := tell_ok.mp done
      exact ⟨rfl, rfl⟩
  · cases done
  · cases done

/-! ## The allowlist -/

theorem addAllowlistEntry_told {request : AllowlistRequest}
    (done : addAllowlistEntry moment tables request = .ok after) :
    TellsStanding tables after ∧ SameRoutes tables after := by
  unfold addAllowlistEntry at done
  split at done
  · cases done
  next allowlist added =>
    split at done
    · cases done
    next fresh =>
      refine ⟨told_of_tell done tellLocally_readAs rfl ?_, ?_⟩
      · unfold IpBlocks.addAllowlistEntry at added
        split at added
        · cases added
        next network valid =>
          split at added
          · cases added
          split at added
          · cases added
          split at added
          · cases added
          obtain rfl := Except.ok.inj added
          refine Standing.ext rfl rfl rfl rfl ?_
          refine (viewOf_append (Option.not_isSome_iff_eq_none.mp fresh)).trans ?_
          simp [AdministrationTables.standing, Standing.apply, valid, exemptionOf]
      · obtain ⟨entry, _, rfl⟩ := tell_ok.mp done
        exact ⟨rfl, rfl⟩

theorem revokeAllowlistEntry_told {cidrText : IpNetwork → String} {entryId : Uuid}
    (done : revokeAllowlistEntry moment tables cidrText entryId = .ok after) :
    TellsStanding tables after ∧ SameRoutes tables after := by
  unfold revokeAllowlistEntry at done
  split at done
  next allowlist entry revoked found =>
    refine ⟨told_of_tell done tellLocally_readAs rfl ?_, ?_⟩
    · unfold IpBlocks.revokeAllowlistEntry at revoked
      split at revoked
      · cases revoked
      split at revoked
      · cases revoked
      obtain rfl := Except.ok.inj revoked
      refine Standing.ext rfl rfl rfl rfl ?_
      exact viewOf_updateWhere (by intro _; rfl) (by intro _; rfl) entryId
    · obtain ⟨entry, _, rfl⟩ := tell_ok.mp done
      exact ⟨rfl, rfl⟩
  · cases done
  · cases done

/-! ## What sessions and Telegram updates leave alone -/

/-- A use of keys and sessions that tells nothing about the administration. -/
structure QuietUse (before after : IdentityTables) : Prop where
  operators : after.operators = before.operators
  keys : viewOf OperatorApiKey.id holdingOfKey after.keys =
    viewOf OperatorApiKey.id holdingOfKey before.keys
  auditLog : ∃ entries, after.auditLog = before.auditLog ++ entries ∧
    ∀ entry ∈ entries, readEvent entry = none

theorem QuietUse.refl (identity : IdentityTables) : QuietUse identity identity :=
  ⟨rfl, rfl, [], (List.append_nil _).symm, by simp⟩

/-- An entry about a session is not one of the administration. -/
theorem readEvent_of_session {entry : AuditLogEntry}
    (action : entry.action = "operator_web_session.started" ∨
      entry.action = "operator_web_session.ended") : readEvent entry = none := by
  rcases action with started | ended
  · simp [readEvent, readDetails, started]
  · simp [readEvent, readDetails, ended]

theorem login_quiet {settings : WebSessionSettings} {request : LoginRequest} :
    (login settings request).Writes QuietUse := by
  unfold login
  split
  · exact .refl
  intro seen
  dsimp only
  split
  · exact .refl
  split
  · exact .refl
  intro locked
  dsimp only
  split
  · exact .refl
  unfold loginWithKey
  split
  · exact .refl
  split
  · exact .refl
  unfold createOperatorWebSession
  split
  · exact .refl
  split
  · refine ⟨fun shown => ?_, trivial⟩
    dsimp only
    split
    · trivial
    split
    · exact .refl
    split
    · trivial
    next entry recorded =>
      intro state
      refine ⟨rfl, ?_, [entry], rfl, fun other member => ?_⟩
      · exact viewOf_updateWhere_of_same (by intro _; rfl) (by intro _; rfl)
      · obtain rfl := List.mem_singleton.mp member
        exact readEvent_of_session (.inl (recordOperatorAction_ok recorded).2.1)
  · trivial

theorem touchSession_quiet {settings : WebSessionSettings} {now : Int} {sessionId : Uuid}
    {answer : SessionAnswer} : (touchSession settings now sessionId answer).Writes QuietUse := by
  intro seen
  dsimp only
  split
  · exact .refl
  split
  · exact .refl
  intro locked
  dsimp only
  split
  · exact .refl
  split
  · exact .refl
  split
  · exact .refl
  · exact fun state => ⟨rfl, rfl, [], (List.append_nil _).symm, by simp⟩

theorem authenticateWebSession_quiet {settings : WebSessionSettings}
    {request : AuthenticateRequest} :
    (authenticateWebSession settings request).Writes QuietUse := by
  unfold authenticateWebSession
  split
  · exact .refl
  intro seen
  dsimp only
  split
  · exact .refl
  split
  · exact .refl
  split
  · exact .refl
  split
  · exact touchSession_quiet
  · exact .refl

theorem lockWebSessionForMutation_quiet {request : MutationRequest} :
    (lockWebSessionForMutation request).Writes QuietUse := by
  unfold lockWebSessionForMutation
  split
  · exact .refl
  intro seen
  dsimp only
  split
  · exact .refl
  intro locked
  dsimp only
  split
  · exact .refl
  · exact .refl

theorem revokeOperatorWebSession_quiet {request : LogoutRequest} :
    (revokeOperatorWebSession request).Writes QuietUse := by
  intro seen
  dsimp only
  split
  · exact .refl
  intro locked
  dsimp only
  split
  · exact .refl
  split
  · exact .refl
  split
  · trivial
  next entry recorded =>
    split
    · exact .refl
    · refine fun state => ⟨rfl, rfl, [entry], rfl, fun other member => ?_⟩
      obtain rfl := List.mem_singleton.mp member
      exact readEvent_of_session (.inr (recordOperatorAction_ok recorded).2.1)

end WolandGuard.Administration
