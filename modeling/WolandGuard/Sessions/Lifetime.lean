import WolandGuard.Foundations.Schedules
import WolandGuard.Sessions.Effects

/-!
# The lifetime of a session

What holds of keys and sessions in every state: a session ends no later than
its key, and the sessions of a revoked key are revoked. Over a run, times of a
session only grow, and what is revoked stays revoked.

A revocation locks its key before it looks for sessions. A login that has
verified the key holds the same lock until its session is committed, so the
revocation finds it; a login that comes later finds the key revoked.
-/

set_option autoImplicit false

namespace WolandGuard.Sessions

open Foundations Incidents Telegram

/-! ## Later rows -/

/-- A later state of a key. -/
structure KeyLater (key later : OperatorApiKey) : Prop where
  id : later.id = key.id
  createdAt : later.createdAt = key.createdAt
  expiresAt : later.expiresAt = key.expiresAt
  revoked : key.revokedAt.isSome = true → later.revokedAt = key.revokedAt

/-- A later state of a session. -/
structure SessionLater (session later : OperatorWebSession) : Prop where
  id : later.id = session.id
  key : later.authenticatedByApiKeyId = session.authenticatedByApiKeyId
  createdAt : later.createdAt = session.createdAt
  absoluteExpiresAt : later.absoluteExpiresAt = session.absoluteExpiresAt
  lastSeenAt : session.lastSeenAt ≤ later.lastSeenAt
  idleExpiresAt : session.idleExpiresAt ≤ later.idleExpiresAt
  revoked : session.revokedAt.isSome = true → later.revokedAt = session.revokedAt

theorem KeyLater.refl (key : OperatorApiKey) : KeyLater key key := ⟨rfl, rfl, rfl, fun _ => rfl⟩

theorem KeyLater.trans {first second third : OperatorApiKey} (earlier : KeyLater first second)
    (later : KeyLater second third) : KeyLater first third where
  id := later.id.trans earlier.id
  createdAt := later.createdAt.trans earlier.createdAt
  expiresAt := later.expiresAt.trans earlier.expiresAt
  revoked revoked := by
    have same := earlier.revoked revoked
    rw [later.revoked (by rw [same]; exact revoked), same]

theorem SessionLater.refl (session : OperatorWebSession) : SessionLater session session :=
  ⟨rfl, rfl, rfl, rfl, Int.le_refl _, Int.le_refl _, fun _ => rfl⟩

theorem SessionLater.trans {first second third : OperatorWebSession}
    (earlier : SessionLater first second) (later : SessionLater second third) :
    SessionLater first third where
  id := later.id.trans earlier.id
  key := later.key.trans earlier.key
  createdAt := later.createdAt.trans earlier.createdAt
  absoluteExpiresAt := later.absoluteExpiresAt.trans earlier.absoluteExpiresAt
  lastSeenAt := Int.le_trans earlier.lastSeenAt later.lastSeenAt
  idleExpiresAt := Int.le_trans earlier.idleExpiresAt later.idleExpiresAt
  revoked revoked := by
    have same := earlier.revoked revoked
    rw [later.revoked (by rw [same]; exact revoked), same]

/-- Keys and sessions are kept, in later states. -/
structure Later (tables later : IdentityTables) : Prop where
  keys : ∀ key ∈ tables.keys, ∃ next ∈ later.keys, KeyLater key next
  sessions : ∀ session ∈ tables.sessions, ∃ next ∈ later.sessions, SessionLater session next

theorem Later.refl (tables : IdentityTables) : Later tables tables :=
  ⟨fun key member => ⟨key, member, .refl key⟩, fun session member => ⟨session, member, .refl session⟩⟩

theorem Later.trans {first second third : IdentityTables} (earlier : Later first second)
    (later : Later second third) : Later first third where
  keys key member := by
    obtain ⟨next, next_member, to_next⟩ := earlier.keys key member
    obtain ⟨last, last_member, to_last⟩ := later.keys next next_member
    exact ⟨last, last_member, to_next.trans to_last⟩
  sessions session member := by
    obtain ⟨next, next_member, to_next⟩ := earlier.sessions session member
    obtain ⟨last, last_member, to_last⟩ := later.sessions next next_member
    exact ⟨last, last_member, to_next.trans to_last⟩

/-! ## The invariant -/

/-- A key that has established a session: the session ends no later, and it is
revoked with the key. -/
structure Establishes (key : OperatorApiKey) (session : OperatorWebSession) : Prop where
  id : key.id = session.authenticatedByApiKeyId
  expiry : ∀ expiry ∈ key.expiresAt, session.absoluteExpiresAt ≤ expiry
  revoked : key.revokedAt.isSome = true → session.revokedAt.isSome = true

structure SessionsInvariant (tables : IdentityTables) : Prop where
  keyIds : (tables.keys.map OperatorApiKey.id).Nodup
  sessionIds : (tables.sessions.map OperatorWebSession.id).Nodup
  keys : ∀ key ∈ tables.keys, key.Checked
  sessions : ∀ session ∈ tables.sessions, session.Checked
  established : ∀ session ∈ tables.sessions, ∃ key ∈ tables.keys, Establishes key session

theorem SessionsInvariant.installed : SessionsInvariant .installed where
  keyIds := List.nodup_nil
  sessionIds := List.nodup_nil
  keys := by simp [IdentityTables.installed]
  sessions := by simp [IdentityTables.installed]
  established := by simp [IdentityTables.installed]

section Writes

variable {tables : IdentityTables}

theorem SessionsInvariant.session? (inv : SessionsInvariant tables) {session : OperatorWebSession}
    (member : session ∈ tables.sessions) : tables.session? session.id = some session :=
  rowOf_of_mem inv.sessionIds member

theorem SessionsInvariant.session_unique (inv : SessionsInvariant tables)
    {left right : OperatorWebSession} (left_member : left ∈ tables.sessions)
    (right_member : right ∈ tables.sessions) (same : left.id = right.id) : left = right :=
  List.inj_on_of_nodup_map inv.sessionIds left_member right_member same

theorem SessionsInvariant.key_unique (inv : SessionsInvariant tables) {left right : OperatorApiKey}
    (left_member : left ∈ tables.keys) (right_member : right ∈ tables.keys)
    (same : left.id = right.id) : left = right :=
  List.inj_on_of_nodup_map inv.keyIds left_member right_member same

/-- Sessions that move to later states keep the invariant. -/
theorem SessionsInvariant.updateSessions (inv : SessionsInvariant tables)
    {condition : OperatorWebSession → Bool} {change : OperatorWebSession → OperatorWebSession}
    (moves : ∀ session ∈ tables.sessions, condition session = true →
      SessionLater session (change session) ∧ (change session).Checked)
    (keeps : KeepsKeys change) (auditLog : List AuditLogEntry) :
    SessionsInvariant { tables with
        sessions := updateWhere condition change tables.sessions
        auditLog := auditLog } ∧
      Later tables { tables with
        sessions := updateWhere condition change tables.sessions
        auditLog := auditLog } := by
  have each : ∀ session ∈ tables.sessions,
      SessionLater session (if condition session then change session else session) ∧
        (if condition session then change session else session).Checked := by
    intro session member
    split
    next meets => exact moves session member meets
    · exact ⟨.refl session, inv.sessions session member⟩
  refine ⟨⟨inv.keyIds, ?_, inv.keys, ?_, ?_⟩, ⟨fun key member => ⟨key, member, .refl key⟩, ?_⟩⟩
  · dsimp only
    rw [map_updateWhere fun session _ => keeps.id session]
    exact inv.sessionIds
  · intro session member
    obtain ⟨old, old_member, rfl⟩ := mem_updateWhere.mp member
    exact (each old old_member).2
  · intro session member
    obtain ⟨old, old_member, rfl⟩ := mem_updateWhere.mp member
    obtain ⟨key, key_member, establishes⟩ := inv.established old old_member
    have later := (each old old_member).1
    refine ⟨key, key_member, establishes.id.trans later.key.symm, ?_, fun revoked => ?_⟩
    · rw [later.absoluteExpiresAt]
      exact establishes.expiry
    · have old_revoked := establishes.revoked revoked
      rw [later.revoked old_revoked]
      exact old_revoked
  · intro session member
    exact ⟨_, mem_updateWhere.mpr ⟨session, member, rfl⟩, (each session member).1⟩

/-- Keys that move to later states keep the invariant, if the sessions of a
revoked one are revoked. -/
theorem SessionsInvariant.updateKeys (inv : SessionsInvariant tables)
    {condition : OperatorApiKey → Bool} {change : OperatorApiKey → OperatorApiKey}
    (moves : ∀ key ∈ tables.keys, condition key = true →
      KeyLater key (change key) ∧ (change key).Checked ∧
        ((change key).revokedAt.isSome = true → ∀ session ∈ tables.sessions,
          session.authenticatedByApiKeyId = key.id → session.revokedAt.isSome = true))
    (keeps : ∀ key, (change key).id = key.id) :
    SessionsInvariant { tables with keys := updateWhere condition change tables.keys } ∧
      Later tables { tables with keys := updateWhere condition change tables.keys } := by
  refine ⟨⟨?_, inv.sessionIds, ?_, inv.sessions, ?_⟩,
    ⟨?_, fun session member => ⟨session, member, .refl session⟩⟩⟩
  · dsimp only
    rw [map_updateWhere fun key _ => keeps key]
    exact inv.keyIds
  · intro key member
    obtain ⟨old, old_member, rfl⟩ := mem_updateWhere.mp member
    split
    next meets => exact (moves old old_member meets).2.1
    · exact inv.keys old old_member
  · intro session member
    obtain ⟨key, key_member, establishes⟩ := inv.established session member
    refine ⟨_, mem_updateWhere.mpr ⟨key, key_member, rfl⟩, ?_⟩
    split
    next meets =>
      obtain ⟨later, _, revokes⟩ := moves key key_member meets
      refine ⟨later.id.trans establishes.id, ?_, fun revoked => ?_⟩
      · rw [later.expiresAt]
        exact establishes.expiry
      · exact revokes revoked session member establishes.id.symm
    · exact establishes
  · intro key member
    refine ⟨_, mem_updateWhere.mpr ⟨key, member, rfl⟩, ?_⟩
    split
    next meets => exact (moves key member meets).1
    · exact .refl key

/-- A new key keeps the invariant. -/
theorem SessionsInvariant.addKey (inv : SessionsInvariant tables) {key : OperatorApiKey}
    (fresh : tables.key? key.id = none) (checked : key.Checked) :
    SessionsInvariant (tables.addKey key) ∧ Later tables (tables.addKey key) := by
  refine ⟨⟨?_, inv.sessionIds, ?_, inv.sessions, ?_⟩,
    ⟨fun old member => ⟨old, List.mem_append_left _ member, .refl old⟩,
      fun session member => ⟨session, member, .refl session⟩⟩⟩
  · simp only [IdentityTables.addKey, List.map_append, List.nodup_append, List.map_cons,
      List.map_nil]
    refine ⟨inv.keyIds, by simp, ?_⟩
    rintro id member other other_member rfl
    obtain ⟨old, old_member, rfl⟩ := List.mem_map.mp member
    exact rowOf_eq_none.mp fresh old old_member (by simpa using other_member)
  · intro other member
    rcases List.mem_append.mp member with old | new
    · exact inv.keys other old
    · obtain rfl := List.mem_singleton.mp new
      exact checked
  · intro session member
    obtain ⟨old, old_member, establishes⟩ := inv.established session member
    exact ⟨old, List.mem_append_left _ old_member, establishes⟩

/-- A new session of an unrevoked key keeps the invariant. -/
theorem SessionsInvariant.startSession (inv : SessionsInvariant tables) {now : Int}
    {session : OperatorWebSession} {key : OperatorApiKey} (entry : AuditLogEntry)
    (fresh : tables.session? session.id = none) (checked : session.Checked)
    (member : key ∈ tables.keys) (establishes : Establishes key session) :
    SessionsInvariant (tables.startSession now session entry) ∧
      Later tables (tables.startSession now session entry) := by
  have used : ∀ key ∈ tables.keys, (decide (key.id = session.authenticatedByApiKeyId)) = true →
      KeyLater key { key with lastUsedAt := some now } ∧
        ({ key with lastUsedAt := some now } : OperatorApiKey).Checked ∧
        (key.revokedAt.isSome = true → ∀ session ∈ tables.sessions,
          session.authenticatedByApiKeyId = key.id → session.revokedAt.isSome = true) := by
    intro key key_member _
    have checked := inv.keys key key_member
    refine ⟨⟨rfl, rfl, rfl, fun _ => rfl⟩, ⟨checked.1, checked.2, checked.3⟩, ?_⟩
    intro revoked other other_member owner
    obtain ⟨own, own_member, own_establishes⟩ := inv.established other other_member
    obtain rfl := inv.key_unique own_member key_member (own_establishes.id.trans owner)
    exact own_establishes.revoked revoked
  obtain ⟨inv_used, later_used⟩ := inv.updateKeys used fun _ => rfl
  refine ⟨⟨inv_used.keyIds, ?_, inv_used.keys, ?_, ?_⟩, ⟨later_used.keys, ?_⟩⟩
  · simp only [IdentityTables.startSession, List.map_append, List.nodup_append, List.map_cons,
      List.map_nil]
    refine ⟨inv.sessionIds, by simp, ?_⟩
    rintro id id_member other other_member rfl
    obtain ⟨old, old_member, rfl⟩ := List.mem_map.mp id_member
    exact rowOf_eq_none.mp fresh old old_member (by simpa using other_member)
  · intro other other_member
    rcases List.mem_append.mp other_member with old | new
    · exact inv.sessions other old
    · obtain rfl := List.mem_singleton.mp new
      exact checked
  · intro other other_member
    rcases List.mem_append.mp other_member with old | new
    · exact inv_used.established other old
    · obtain rfl := List.mem_singleton.mp new
      refine ⟨_, mem_updateWhere.mpr ⟨key, member, rfl⟩, ?_⟩
      split
      · exact ⟨establishes.id, establishes.expiry, establishes.revoked⟩
      · exact establishes
  · intro old old_member
    exact ⟨old, List.mem_append_left _ old_member, .refl old⟩

theorem sessionLater_touched {settings : WebSessionSettings} {now : Int}
    {session : OperatorWebSession} (checked : session.Checked) :
    SessionLater session (touchedSession settings now session) := by
  have clamp := checked.idleNotAfterAbsoluteExpiry
  refine ⟨rfl, rfl, rfl, rfl, ?_, ?_, fun _ => rfl⟩
  · exact Int.le_max_left _ _
  · simp only [touchedSession]
    omega

theorem sessionLater_ended {now : Int} {session : OperatorWebSession}
    (unrevoked : session.revokedAt = none) : SessionLater session (endedSession now session) :=
  ⟨rfl, rfl, rfl, rfl, Int.le_refl _, Int.le_refl _, fun revoked => by
    rw [unrevoked] at revoked
    cases revoked⟩

/-- A session of the key that is still open is among those that the update
finds, if what it has seen has the same sessions of the key. -/
theorem SessionsInvariant.open_mem (inv : SessionsInvariant tables) {seen : IdentityTables}
    {keyId : Uuid} (later : Later seen tables) (same : seen.sessionsOf keyId = tables.sessionsOf keyId)
    {session : OperatorWebSession} (member : session ∈ tables.sessions)
    (owner : session.authenticatedByApiKeyId = keyId) (opened : session.revokedAt = none) :
    session.id ∈ (openSessions keyId seen).filter (isOpenIn keyId tables) := by
  have listed : session.id ∈ seen.sessionsOf keyId := by
    rw [same]
    exact List.mem_map.mpr ⟨session, List.mem_filter.mpr ⟨member, by simpa using owner⟩, rfl⟩
  obtain ⟨old, old_member, old_id⟩ := List.mem_map.mp listed
  obtain ⟨old_member, old_owner⟩ := List.mem_filter.mp old_member
  obtain ⟨next, next_member, moved⟩ := later.sessions old old_member
  obtain rfl := inv.session_unique next_member member (moved.id.trans old_id)
  have old_open : old.revokedAt = none := by
    by_contra revoked
    have still := moved.revoked (Option.isSome_iff_ne_none.mpr revoked)
    exact revoked (still.symm.trans opened)
  refine List.mem_filter.mpr ⟨?_, ?_⟩
  · rw [← old_id]
    refine List.mem_map.mpr ⟨old, List.mem_filter.mpr ⟨old_member, ?_⟩, rfl⟩
    simpa [old_open] using old_owner
  · simp [isOpenIn, inv.session? member, owner, opened]

/-- A revocation keeps the invariant, and no session of the key is left open. -/
theorem SessionsInvariant.revokeKey (inv : SessionsInvariant tables) {keyId : Uuid} {now : Int}
    {sessionIds : List Uuid}
    (revocable : ∀ key ∈ tables.keys, key.id = keyId → key.revokedAt = none ∧
      ({ key with revokedAt := some now } : OperatorApiKey).Checked)
    (closes : ∀ session ∈ tables.sessions, session.authenticatedByApiKeyId = keyId →
      session.revokedAt = none → session.id ∈ sessionIds)
    (endable : ∀ session ∈ tables.sessions, session.id ∈ sessionIds →
      session.revokedAt = none ∧ (endedSession now session).Checked) :
    SessionsInvariant (tables.revokeKey keyId now sessionIds) ∧
      Later tables (tables.revokeKey keyId now sessionIds) := by
  have ends : ∀ session ∈ tables.sessions, decide (session.id ∈ sessionIds) = true →
      SessionLater session (endedSession now session) ∧ (endedSession now session).Checked := by
    intro session member listed
    obtain ⟨unrevoked, checked⟩ := endable session member (of_decide_eq_true listed)
    exact ⟨sessionLater_ended unrevoked, checked⟩
  obtain ⟨inv_ended, later_ended⟩ :=
    inv.updateSessions ends (keepsKeys_ended now) tables.auditLog
  have revokes : ∀ key ∈ tables.keys, decide (key.id = keyId) = true →
      KeyLater key { key with revokedAt := some now } ∧
        ({ key with revokedAt := some now } : OperatorApiKey).Checked ∧
        ((some now).isSome = true → ∀ session ∈
            updateWhere (·.id ∈ sessionIds) (endedSession now) tables.sessions,
          session.authenticatedByApiKeyId = key.id → session.revokedAt.isSome = true) := by
    intro key member is_key
    obtain ⟨unrevoked, checked⟩ := revocable key member (of_decide_eq_true is_key)
    refine ⟨⟨rfl, rfl, rfl, fun revoked => ?_⟩, checked, fun _ session session_member owner => ?_⟩
    · rw [unrevoked] at revoked
      cases revoked
    · obtain ⟨old, old_member, rfl⟩ := mem_updateWhere.mp session_member
      split
      · rfl
      next unlisted =>
        rw [if_neg unlisted] at owner
        by_contra opened
        exact unlisted (decide_eq_true (closes old old_member
          (owner.trans (of_decide_eq_true is_key)) (by simpa using opened)))
  obtain ⟨inv_revoked, later_revoked⟩ := inv_ended.updateKeys revokes fun _ => rfl
  exact ⟨inv_revoked, later_ended.trans later_revoked⟩

end Writes

/-! ## Every operation -/

section Operations

variable {settings : WebSessionSettings} {visible : IdentityTables → Prop}
variable {state after : IdentityTables} {answer : SessionAnswer}

/-- A key is revoked. -/
def IsRevoked (keyId : Uuid) (tables : IdentityTables) : Prop :=
  ∃ key ∈ tables.keys, key.id = keyId ∧ key.revokedAt.isSome = true

theorem IsRevoked.later {keyId : Uuid} {tables later : IdentityTables}
    (revoked : IsRevoked keyId tables) (moved : Later tables later) : IsRevoked keyId later := by
  obtain ⟨key, member, rfl, is_revoked⟩ := revoked
  obtain ⟨next, next_member, to_next⟩ := moved.keys key member
  exact ⟨next, next_member, to_next.id, by rw [to_next.revoked is_revoked]; exact is_revoked⟩

/-- The sessions of a revoked key are revoked. -/
theorem SessionsInvariant.revoked_of_key {tables : IdentityTables} (inv : SessionsInvariant tables)
    {keyId : Uuid} (revoked : IsRevoked keyId tables) {session : OperatorWebSession}
    (member : session ∈ tables.sessions) (owner : session.authenticatedByApiKeyId = keyId) :
    session.revokedAt.isSome = true := by
  obtain ⟨key, key_member, rfl, is_revoked⟩ := revoked
  obtain ⟨own, own_member, establishes⟩ := inv.established session member
  obtain rfl := inv.key_unique own_member key_member (establishes.id.trans owner)
  exact establishes.revoked is_revoked

/-- The invariant is kept, and the rows move to later states. -/
abbrev Kept (state after : IdentityTables) : Prop := SessionsInvariant after ∧ Later state after

theorem LoginEffect.kept {request : LoginRequest} (inv : SessionsInvariant state)
    (effect : LoginEffect settings request visible state after answer) : Kept state after := by
  cases effect with
  | refused => exact ⟨inv, .refl state⟩
  | started seen key operator publicId secret session entry tokenDigest csrfTokenDigest _ _ found
      usable fresh same checked =>
      subst same
      simp only [credentialIsUsable, Bool.and_eq_true] at usable
      refine inv.startSession entry fresh checked (rowOf_mem found).1 ⟨rfl, ?_, fun revoked => ?_⟩
      · exact absoluteExpiry_le
      · rw [Option.isNone_iff_eq_none.mp usable.1.2] at revoked
        cases revoked

theorem Touches.kept {now : Int} {sessionId : Uuid} (inv : SessionsInvariant state)
    (touches : Touches settings now sessionId state after) : Kept state after := by
  cases touches with
  | untouched => exact ⟨inv, .refl state⟩
  | touched session found meets checked =>
      refine inv.updateSessions (fun other member is_session => ?_) (keepsKeys_touched settings now)
        state.auditLog
      have same : other = session := inv.session_unique member (rowOf_mem found).1
        ((of_decide_eq_true is_session).trans (rowOf_mem found).2.symm)
      subst same
      exact ⟨sessionLater_touched (inv.sessions other member), checked⟩

theorem AuthenticateEffect.kept {request : AuthenticateRequest} (inv : SessionsInvariant state)
    (effect : AuthenticateEffect settings request visible state after answer) :
    Kept state after := by
  cases effect with
  | invalid => exact ⟨inv, .refl state⟩
  | authenticated _ _ _ _ _ _ _ _ _ _ touches => exact touches.kept inv
  | broken => exact ⟨inv, .refl state⟩

theorem LogoutEffect.kept {request : LogoutRequest} (inv : SessionsInvariant state)
    (effect : LogoutEffect request state after answer) : Kept state after := by
  cases effect with
  | invalid => exact ⟨inv, .refl state⟩
  | broken => exact ⟨inv, .refl state⟩
  | ended stored entry found unrevoked checked =>
      refine inv.updateSessions (fun other member is_session => ?_) (keepsKeys_ended request.now) _
      have same : other = stored := inv.session_unique member (rowOf_mem found).1
        ((of_decide_eq_true is_session).trans (rowOf_mem found).2.symm)
      subst same
      exact ⟨sessionLater_ended unrevoked, checked⟩

theorem RevocationEffect.kept {keyId : Uuid} {now : Int} {added : IdentityTables → IdentityTables}
    {done : SessionAnswer} (inv : SessionsInvariant state)
    (seen_before : ∀ seen, visible seen → SessionsInvariant seen ∧ Later seen state)
    (adds : Kept state (added state)) (keys : ∀ key ∈ state.keys, key ∈ (added state).keys)
    (sessions : (added state).sessions = state.sessions)
    (effect : RevocationEffect visible keyId now added done state after answer) :
    Kept state after ∧ (answer = done → done ≠ .databaseError → IsRevoked keyId after) := by
  cases effect with
  | broken => exact ⟨⟨inv, .refl state⟩, fun failed done => absurd failed.symm done⟩
  | revoked key seen found unrevoked shown same checked endable =>
      obtain ⟨member, rfl⟩ := rowOf_mem found
      have revoked : Kept (added state) ((added state).revokeKey key.id now
          ((openSessions key.id seen).filter (isOpenIn key.id state))) := by
        refine adds.1.revokeKey (fun other other_member same_id => ?_) ?_ ?_
        · obtain rfl := adds.1.key_unique other_member (keys key member) same_id
          exact ⟨unrevoked, checked⟩
        · rw [sessions]
          intro session session_member owner opened
          exact inv.open_mem (seen_before seen shown).2 same session_member owner opened
        · rw [sessions]
          intro session session_member listed
          refine ⟨?_, endable session.id listed session (inv.session? session_member)⟩
          have is_open := (List.mem_filter.mp listed).2
          simp only [isOpenIn, inv.session? session_member, Option.any_some, Bool.and_eq_true]
            at is_open
          exact Option.isNone_iff_eq_none.mp is_open.2
      refine ⟨⟨revoked.1, adds.2.trans revoked.2⟩, fun _ _ => ?_⟩
      exact ⟨_, mem_updateWhere.mpr ⟨key, keys key member, rfl⟩, by simp, by simp⟩

/-- The operation has revoked a key, or found it revoked. -/
inductive RevokesKey (keyId : Uuid) : SessionOperation → SessionAnswer → Prop where
  | revoke (request : RevokeRequest) (changed : Bool) : request.keyId = keyId →
      RevokesKey keyId (.revoke request) (.revoked changed)
  | rotate (request : RotateRequest) (replacementId : Uuid) : request.keyId = keyId →
      RevokesKey keyId (.rotate request) (.rotated replacementId)

theorem RevokeEffect.kept {request : RevokeRequest} (inv : SessionsInvariant state)
    (seen_before : ∀ seen, visible seen → SessionsInvariant seen ∧ Later seen state)
    (effect : RevokeEffect request visible state after answer) :
    Kept state after ∧ ∀ changed, answer = .revoked changed → IsRevoked request.keyId after := by
  cases effect with
  | refused => exact ⟨⟨inv, .refl state⟩, by simp⟩
  | already key found revoked =>
      obtain ⟨member, same_id⟩ := rowOf_mem found
      exact ⟨⟨inv, .refl state⟩, fun _ _ => ⟨key, member, same_id, revoked⟩⟩
  | revocation _ _ effect =>
      obtain ⟨kept, revokes⟩ := effect.kept inv seen_before ⟨inv, .refl state⟩
        (fun _ member => member) rfl
      refine ⟨kept, fun changed answered => ?_⟩
      cases effect with
      | broken => cases answered
      | revoked => exact revokes rfl (by simp)

theorem RotateEffect.kept {request : RotateRequest} (inv : SessionsInvariant state)
    (seen_before : ∀ seen, visible seen → SessionsInvariant seen ∧ Later seen state)
    (effect : RotateEffect request visible state after answer) :
    Kept state after ∧
      ∀ replacementId, answer = .rotated replacementId → IsRevoked request.keyId after := by
  cases effect with
  | refused => exact ⟨⟨inv, .refl state⟩, by simp⟩
  | rotation _ _ replacement fresh checked _ _ effect =>
      have adds := inv.addKey fresh checked
      obtain ⟨kept, revokes⟩ := effect.kept inv seen_before adds
        (fun _ member => List.mem_append_left _ member) rfl
      refine ⟨kept, fun replacementId answered => ?_⟩
      cases effect with
      | broken => cases answered
      | revoked => exact revokes rfl (by simp)

/-- **Every operation keeps the invariant and moves rows to later states**, and
one that revokes a key leaves it revoked. -/
theorem SessionOperation.kept {operation : SessionOperation} (inv : SessionsInvariant state)
    (seen_before : ∀ seen, visible seen → SessionsInvariant seen ∧ Later seen state)
    (executes : Executes visible (operation.code settings) [] state after answer) :
    Kept state after ∧ ∀ keyId, RevokesKey keyId operation answer → IsRevoked keyId after := by
  cases operation with
  | login request => exact ⟨(login_executes executes).kept inv, fun _ revokes => nomatch revokes⟩
  | authenticate request =>
      exact ⟨(authenticateWebSession_executes executes).kept inv, fun _ revokes => nomatch revokes⟩
  | mutate request =>
      obtain ⟨rfl, _⟩ := lockWebSessionForMutation_executes executes
      exact ⟨⟨inv, .refl _⟩, fun _ revokes => nomatch revokes⟩
  | logout request =>
      exact ⟨(revokeOperatorWebSession_executes executes).kept inv, fun _ revokes => nomatch revokes⟩
  | issue request =>
      refine ⟨?_, fun _ revokes => nomatch revokes⟩
      rcases issueOperatorApiKey_executes executes with ⟨rfl, _⟩ | ⟨key, fresh, checked, _, _, rfl, _⟩
      · exact ⟨inv, .refl _⟩
      · exact inv.addKey fresh checked
  | rotate request =>
      obtain ⟨kept, revoked⟩ := (rotateOperatorApiKey_executes executes).kept inv seen_before
      refine ⟨kept, fun keyId revokes => ?_⟩
      cases revokes with
      | rotate _ replacementId same => exact same ▸ revoked replacementId rfl
  | revoke request =>
      obtain ⟨kept, revoked⟩ := (revokeOperatorApiKey_executes executes).kept inv seen_before
      refine ⟨kept, fun keyId revokes => ?_⟩
      cases revokes with
      | revoke _ changed same => exact same ▸ revoked changed rfl
  | writeOperator operator now =>
      cases executes with
      | lock executes =>
          cases executes with
          | commit =>
              exact ⟨⟨⟨inv.keyIds, inv.sessionIds, inv.keys, inv.sessions, inv.established⟩,
                ⟨(Later.refl state).keys, (Later.refl state).sessions⟩⟩,
                fun _ revokes => nomatch revokes⟩

end Operations

end WolandGuard.Sessions
