import WolandGuard.Sessions.Lifetime

/-!
# Sessions in a run

Runs of the installation from its empty tables, with any interleaving of
logins, authentications, requests, logouts and changes of keys: how sessions
change, which requests they admit, and what is left of them when their key is
revoked.
-/

set_option autoImplicit false

namespace WolandGuard.Sessions

open Foundations Incidents Telegram

/-- A session and its operator admit a request. -/
structure Usable (now : Int) (session : OperatorWebSession) (operator : Operator) : Prop where
  owner : operator.id = session.operatorId
  unrevoked : session.revokedAt = none
  idle : now < session.idleExpiresAt
  absolute : now < session.absoluteExpiresAt
  active : operator.isActive = true

theorem usable_of_isUsable {now : Int} {session : OperatorWebSession} {operator : Operator}
    (owner : operator.id = session.operatorId) (usable : isUsable now session operator = true) :
    Usable now session operator := by
  simp only [isUsable, Bool.and_eq_true, decide_eq_true_eq] at usable
  exact ⟨owner, Option.isNone_iff_eq_none.mp usable.1.1.1, usable.1.1.2, usable.1.2, usable.2⟩

/-- A session was established by a key. -/
def EstablishedBy (keyId sessionId : Uuid) (tables : IdentityTables) : Prop :=
  ∃ session ∈ tables.sessions, session.id = sessionId ∧ session.authenticatedByApiKeyId = keyId

/-- Where a session has been established by a key, it always was. -/
theorem SessionsInvariant.establishedBy (tables : IdentityTables) {later : IdentityTables}
    (inv : SessionsInvariant later) (moved : Later tables later) {keyId : Uuid}
    {session : OperatorWebSession} (member : session ∈ tables.sessions)
    (established : EstablishedBy keyId session.id later) :
    session.authenticatedByApiKeyId = keyId := by
  obtain ⟨last, last_member, same_id, owner⟩ := established
  obtain ⟨next, next_member, to_next⟩ := moved.sessions session member
  obtain rfl := inv.session_unique last_member next_member (same_id.trans to_next.id.symm)
  exact to_next.key.symm.trans owner

section Runs

variable {settings : WebSessionSettings} {path earlier rest : List ServiceStep}
variable {taken first second : ServiceStep} {finish : IdentityService}

/-- A run of the installation. -/
abbrev ServiceRun (settings : WebSessionSettings) (path : List ServiceStep)
    (finish : IdentityService) : Prop :=
  Run (Transactions.Step (SessionOperation.code settings)) (Transactions.idle .installed) path finish

/-- **The invariant holds in every state of a run, and rows move to later
states.** -/
theorem sessions_of_run (run : ServiceRun settings path finish) :
    SessionsInvariant finish.committed ∧ ∀ taken ∈ path, SessionsInvariant taken.before.committed ∧
      Later taken.before.committed finish.committed ∧
      Later taken.after.committed finish.committed :=
  Transactions.invariant_seeing run rfl sameIdentity_equivalence
    (SessionOperation.wellLocked settings) Later.refl (fun _ _ _ => Later.trans)
    (fun _ _ _ _ _ inv seen_before executes => (SessionOperation.kept inv seen_before executes).1)
    .installed

/-- What a step of a run leaves is kept until a later one. -/
theorem later_between (run : ServiceRun settings path finish)
    (cut : path = earlier ++ first :: rest) (member : second ∈ rest) :
    Later first.after.committed second.before.committed := by
  obtain ⟨between, behind, rfl⟩ := List.append_of_mem member
  have regrouped : path = (earlier ++ first :: between) ++ second :: behind := by
    rw [cut, List.append_assoc, List.cons_append]
  subst regrouped
  obtain ⟨reached, _, _⟩ := run.around
  exact ((sessions_of_run reached).2 first (by simp)).2.2

/-- **A commit is an execution of its operation** that has seen states of the
run since it began. -/
theorem executes_at_commit (run : ServiceRun settings path finish)
    (cut : path = earlier ++ taken :: rest) {operation : SessionOperation} {answer : SessionAnswer}
    (label : taken.label = .commit operation answer) :
    ∃ before began window, earlier = before ++ began :: window ∧
      began.label = .start operation ∧
      Executes (Transactions.Seen window) (operation.code settings) [] taken.before.committed
        taken.after.committed answer :=
  Transactions.seen_at_commit run rfl sameIdentity_equivalence
    (SessionOperation.wellLocked settings) cut label

/-- An execution in a run has seen earlier states only. -/
theorem seen_before_commit (run : ServiceRun settings path finish)
    (cut : path = earlier ++ taken :: rest) {before window : List ServiceStep}
    {began : ServiceStep} (split : earlier = before ++ began :: window) {seen : IdentityTables}
    (shown : Transactions.Seen window seen) :
    SessionsInvariant seen ∧ Later seen taken.before.committed := by
  subst cut
  obtain ⟨reached, _, _⟩ := run.around
  obtain ⟨other, member, rfl⟩ := shown
  have held := (sessions_of_run reached).2 other (by rw [split]; simp [member])
  exact ⟨held.1, held.2.1⟩

/-- **A key that an operation has revoked is revoked from its commit on.** -/
theorem revoked_from (run : ServiceRun settings path finish)
    (cut : path = earlier ++ taken :: rest) {keyId : Uuid} {operation : SessionOperation}
    {answer : SessionAnswer} (label : taken.label = .commit operation answer)
    (revokes : RevokesKey keyId operation answer) : IsRevoked keyId taken.after.committed := by
  obtain ⟨before, began, window, split, _, executes⟩ := executes_at_commit run cut label
  refine (SessionOperation.kept ?_ (fun seen shown => ?_) executes).2 keyId revokes
  · exact ((sessions_of_run run).2 taken (by simp [cut])).1
  · exact seen_before_commit run cut split shown

/-- An authenticated request has seen a usable session and its active operator
since it began. -/
theorem usable_of_authenticated (run : ServiceRun settings path finish)
    (cut : path = earlier ++ taken :: rest) {request : AuthenticateRequest}
    {authenticated : AuthenticatedWebSession}
    (label : taken.label = .commit (.authenticate request) (.authenticated authenticated)) :
    ∃ before began window, earlier = before ++ began :: window ∧
      began.label = .start (.authenticate request) ∧
      ∃ seeing ∈ window, ∃ session ∈ seeing.before.committed.sessions,
        ∃ operator ∈ seeing.before.committed.operators,
          session.id = authenticated.sessionId ∧
          webTokenDigest request.token = some session.tokenDigest ∧
          Usable request.now session operator := by
  obtain ⟨before, began, window, split, started, executes⟩ := executes_at_commit run cut label
  refine ⟨before, began, window, split, started, ?_⟩
  have effect := authenticateWebSession_executes executes
  generalize taken.before.committed = state, taken.after.committed = left at effect
  cases effect with
  | authenticated seen after stored operator shown member operator_member owner token usable _ =>
      obtain ⟨seeing, seeing_member, rfl⟩ := shown
      exact ⟨seeing, seeing_member, stored, member, operator, operator_member, rfl, token,
        usable_of_isUsable owner usable⟩

/-- An admitted request finds a usable session and its active operator when it
commits. -/
theorem usable_of_admitted (run : ServiceRun settings path finish)
    (cut : path = earlier ++ taken :: rest) {request : MutationRequest}
    {principal : OperatorPrincipal}
    (label : taken.label = .commit (.mutate request) (.admitted principal)) :
    ∃ session ∈ taken.before.committed.sessions, ∃ operator ∈ taken.before.committed.operators,
      session.id = request.authenticated.sessionId ∧ Usable request.now session operator := by
  obtain ⟨_, _, _, _, _, executes⟩ := executes_at_commit run cut label
  obtain ⟨_, invalid | ⟨stored, operator, found, member, answered⟩⟩ :=
    lockWebSessionForMutation_executes executes
  · cases invalid
  · obtain ⟨_, owner, usable, _⟩ := usable_of_admit answered.symm
    obtain ⟨stored_member, same_id⟩ := rowOf_mem found
    exact ⟨stored, stored_member, operator, member, same_id, usable_of_isUsable owner usable⟩

/-- What began after a step did not begin before it. -/
theorem window_after {before window between : List ServiceStep} {began : ServiceStep}
    {operation : SessionOperation}
    (split : earlier ++ taken :: between = before ++ began :: window)
    (started : began.label = .start operation) (other : taken.label ≠ .start operation)
    (unbegun : ∀ old ∈ earlier, old.label ≠ .start operation) : window ⊆ between := by
  rcases List.append_eq_append_iff.mp split with ⟨more, rfl, cut⟩ | ⟨more, rfl, cut⟩
  · cases more with
    | nil =>
        obtain ⟨rfl, _⟩ := List.cons.inj cut
        exact absurd started other
    | cons head tail =>
        obtain ⟨_, rfl⟩ := List.cons.inj cut
        exact fun step member => by simp [member]
  · cases more with
    | nil =>
        obtain ⟨rfl, _⟩ := List.cons.inj cut
        exact absurd started other
    | cons head tail =>
        obtain ⟨rfl, _⟩ := List.cons.inj cut
        exact absurd started (unbegun began (by simp))

/-- **The lifetime of a web session**: its times only grow, up to the expiry of
its key; it admits a request only while it is usable; and when the revocation
of its key has committed it admits no later one. -/
theorem web_session_lifetime (run : ServiceRun settings path finish) :
    (∀ session ∈ finish.committed.sessions,
      session.idleExpiresAt ≤ session.absoluteExpiresAt ∧
        ∃ key ∈ finish.committed.keys, key.id = session.authenticatedByApiKeyId ∧
          ∀ expiry ∈ key.expiresAt, session.absoluteExpiresAt ≤ expiry) ∧
    (∀ taken ∈ path, ∀ session ∈ taken.before.committed.sessions,
      ∃ later ∈ finish.committed.sessions, later.id = session.id ∧
        session.lastSeenAt ≤ later.lastSeenAt ∧ session.idleExpiresAt ≤ later.idleExpiresAt ∧
        (session.revokedAt.isSome = true → later.revokedAt = session.revokedAt)) ∧
    ∀ earlier taken rest, path = earlier ++ taken :: rest →
      (∀ request authenticated,
        taken.label = .commit (.authenticate request) (.authenticated authenticated) →
        ∃ before began window, earlier = before ++ began :: window ∧
          began.label = .start (.authenticate request) ∧
          ∃ seeing ∈ window, ∃ session ∈ seeing.before.committed.sessions,
            ∃ operator ∈ seeing.before.committed.operators,
              session.id = authenticated.sessionId ∧
              webTokenDigest request.token = some session.tokenDigest ∧
              Usable request.now session operator) ∧
      (∀ request principal, taken.label = .commit (.mutate request) (.admitted principal) →
        ∃ session ∈ taken.before.committed.sessions,
          ∃ operator ∈ taken.before.committed.operators,
            session.id = request.authenticated.sessionId ∧ Usable request.now session operator) ∧
      ∀ keyId operation answer, taken.label = .commit operation answer →
        RevokesKey keyId operation answer →
        (∀ session ∈ finish.committed.sessions,
          session.authenticatedByApiKeyId = keyId → session.revokedAt.isSome = true) ∧
        (∀ later ∈ rest, ∀ request principal,
          later.label = .commit (.mutate request) (.admitted principal) →
          ¬ EstablishedBy keyId request.authenticated.sessionId finish.committed) ∧
        ∀ later ∈ rest, ∀ request authenticated,
          later.label = .commit (.authenticate request) (.authenticated authenticated) →
          (∀ old ∈ earlier, old.label ≠ .start (.authenticate request)) →
          ¬ EstablishedBy keyId authenticated.sessionId finish.committed := by
  obtain ⟨inv, kept⟩ := sessions_of_run run
  refine ⟨fun session member => ?_, fun taken member session session_member => ?_, ?_⟩
  · obtain ⟨key, key_member, establishes⟩ := inv.established session member
    exact ⟨(inv.sessions session member).idleNotAfterAbsoluteExpiry, key, key_member,
      establishes.id, establishes.expiry⟩
  · obtain ⟨later, later_member, moved⟩ := (kept taken member).2.1.sessions session session_member
    exact ⟨later, later_member, moved.id, moved.lastSeenAt, moved.idleExpiresAt, moved.revoked⟩
  intro earlier taken rest cut
  refine ⟨fun _ _ label => usable_of_authenticated run cut label,
    fun _ _ label => usable_of_admitted run cut label, ?_⟩
  intro keyId operation answer label revokes
  have revoked := revoked_from run cut label revokes
  -- every session of the key is revoked in the states that follow
  have ended : ∀ later ∈ rest, ∀ session ∈ later.before.committed.sessions,
      EstablishedBy keyId session.id finish.committed → session.revokedAt.isSome = true := by
    intro later member session session_member established
    obtain ⟨inv_later, moved, _⟩ := kept later (by simp [cut, member])
    exact inv_later.revoked_of_key (revoked.later (later_between run cut member)) session_member
      (inv.establishedBy later.before.committed moved session_member established)
  refine ⟨?_, ?_, ?_⟩
  · have still := revoked.later (kept taken (by simp [cut])).2.2
    exact fun session member owner => inv.revoked_of_key still member owner
  · intro later member request principal admitted established
    obtain ⟨between, behind, rfl⟩ := List.append_of_mem member
    have regrouped : path = (earlier ++ taken :: between) ++ later :: behind := by
      rw [cut, List.append_assoc, List.cons_append]
    obtain ⟨session, session_member, _, _, same_id, usable⟩ :=
      usable_of_admitted run regrouped admitted
    have is_revoked := ended later member session session_member (same_id ▸ established)
    rw [usable.unrevoked] at is_revoked
    cases is_revoked
  · intro later member request authenticated authenticates unbegun established
    obtain ⟨between, behind, rfl⟩ := List.append_of_mem member
    have regrouped : path = (earlier ++ taken :: between) ++ later :: behind := by
      rw [cut, List.append_assoc, List.cons_append]
    obtain ⟨before, began, window, split, started, seeing, seeing_member, session, session_member,
      _, _, same_id, _, usable⟩ := usable_of_authenticated run regrouped authenticates
    have after := window_after split started (by simp [label]) unbegun seeing_member
    have is_revoked := ended seeing (List.mem_append_left _ after) session session_member
      (same_id ▸ established)
    rw [usable.unrevoked] at is_revoked
    cases is_revoked

end Runs

/-! ## A login that overtakes a revocation -/

def issuedKey : KeyMaterial :=
  ⟨20, "AAAAAAAAAAAAAAAA", "AAAAAAAAAAAAAAAAAAAAAAAAAAAAAAAAAAAAAAAAAAA"⟩

def overtakingLogin : LoginRequest where
  credential := "wgok_AAAAAAAAAAAAAAAA.AAAAAAAAAAAAAAAAAAAAAAAAAAAAAAAAAAAAAAAAAAA"
  requestId := "login"
  sessionId := 30
  sessionToken := "AAAAAAAAAAAAAAAAAAAAAAAAAAAAAAAAAAAAAAAAAAA"
  csrfToken := "BAAAAAAAAAAAAAAAAAAAAAAAAAAAAAAAAAAAAAAAAAA"
  auditId := 40
  now := 4

/-- An operator is created and gets a key. The key is revoked; before the
revocation has locked it, a login with the key begins and commits. -/
def overtakenRevocation (now : Int) : List (Command SessionOperation) :=
  [.start (.writeOperator ⟨10, "operator", .admin, true⟩ 0), .step 0, .step 0,
    .start (.issue ⟨10, issuedKey, none, 1⟩), .step 0, .step 0, .step 0, .step 0,
    .start (.revoke ⟨20, now⟩), .step 0,
    .start (.login overtakingLogin), .step 1, .step 1, .step 1, .step 1, .step 1, .step 1,
    .step 0, .step 0, .step 0, .step 0, .step 0, .step 0]

/-- The revocation finds the session and ends it. -/
theorem web_session_lifetime_overtaken_revocation :
    ∃ path finish, ServiceRun .defaults path finish ∧
      (∃ taken ∈ path, taken.label = .commit (.login overtakingLogin) (.issued 30 43200000004)) ∧
      (∃ taken ∈ path, taken.label = .commit (.revoke ⟨20, 5⟩) (.revoked true)) ∧
      (∃ session ∈ finish.committed.sessions, session.authenticatedByApiKeyId = 20) ∧
      ∀ session ∈ finish.committed.sessions, session.authenticatedByApiKeyId = 20 →
        session.revokedAt.isSome = true := by
  have scheduled : ((Transactions.schedule (SessionOperation.code .defaults)
      (Transactions.idle .installed) (overtakenRevocation 5)).any fun (path, finish) =>
        decide ((∃ taken ∈ path,
            taken.label = .commit (.login overtakingLogin) (.issued 30 43200000004)) ∧
          (∃ taken ∈ path, taken.label = .commit (.revoke ⟨20, 5⟩) (.revoked true)) ∧
          ∃ session ∈ finish.committed.sessions, session.authenticatedByApiKeyId = 20)) = true := by
    decide +kernel
  obtain ⟨⟨path, finish⟩, reached, holds⟩ := (Option.any_eq_true _ _).mp scheduled
  obtain ⟨issued, ⟨taken, member, label⟩, session⟩ := of_decide_eq_true holds
  have run := Transactions.run_of_schedule reached
  obtain ⟨earlier, rest, cut⟩ := List.append_of_mem member
  refine ⟨path, finish, run, issued, ⟨taken, member, label⟩, session, ?_⟩
  obtain ⟨_, _, at_step⟩ := web_session_lifetime run
  exact ((at_step earlier taken rest cut).2.2 20 _ _ label (.revoke _ true rfl)).1

end WolandGuard.Sessions
