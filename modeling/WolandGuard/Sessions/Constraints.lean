import WolandGuard.Sessions.Revocation

/-!
# Constraints and clocks

An operation reads the clock before it takes its locks, so a transaction that
overtakes it may write rows with later times. A touch keeps the later time of
the two, and a logout ends a session that was there before. A revocation writes
its own time into every open session of the key, and so breaks a constraint
when one of them was created after it had read the clock.
-/

set_option autoImplicit false

namespace WolandGuard.Sessions

open Foundations Incidents Telegram

/-! ## Clocks -/

/-- The operation that begins with a step. -/
def begins (taken : ServiceStep) : Option SessionOperation :=
  match taken.label with
  | .start operation => some operation
  | _ => none

/-- The clock that a step reads. -/
def clockRead (taken : ServiceStep) : Option Int := (begins taken).map SessionOperation.now

/-- The clock never goes back. -/
def ClockOrdered (path : List ServiceStep) : Prop :=
  (path.filterMap clockRead).Pairwise (· ≤ ·)

instance (path : List ServiceStep) : Decidable (ClockOrdered path) :=
  inferInstanceAs (Decidable (List.Pairwise _ _))

/-- The row that an operation is asked to end exists. -/
def SessionOperation.NamesRow (tables : IdentityTables) : SessionOperation → Prop
  | .revoke request => ∃ key ∈ tables.keys, key.id = request.keyId
  | .rotate request => ∃ key ∈ tables.keys, key.id = request.keyId
  | .logout request => ∃ session ∈ tables.sessions, session.id = request.authenticated.sessionId
  | _ => True

instance (tables : IdentityTables) : (operation : SessionOperation) →
    Decidable (operation.NamesRow tables)
  | .revoke request => inferInstanceAs (Decidable (∃ key ∈ tables.keys, key.id = request.keyId))
  | .rotate request => inferInstanceAs (Decidable (∃ key ∈ tables.keys, key.id = request.keyId))
  | .logout request => inferInstanceAs (Decidable (∃ session ∈ tables.sessions,
      session.id = request.authenticated.sessionId))
  | .login _ | .authenticate _ | .mutate _ | .issue _ | .writeOperator _ _ =>
      inferInstanceAs (Decidable True)

/-- No operation is asked to end a row that does not exist yet. -/
def NamesExisting (path : List ServiceStep) (finish : IdentityTables) : Prop :=
  ∀ taken ∈ path, ∀ operation ∈ begins taken,
    operation.NamesRow finish → operation.NamesRow taken.before.committed

instance (path : List ServiceStep) (finish : IdentityTables) :
    Decidable (NamesExisting path finish) :=
  inferInstanceAs (Decidable (∀ taken ∈ path, ∀ operation ∈ begins taken,
    operation.NamesRow finish → operation.NamesRow taken.before.committed))

/-- The key that an operation revokes. -/
def SessionOperation.revokedKey? : SessionOperation → Option Uuid
  | .revoke request => some request.keyId
  | .rotate request => some request.keyId
  | _ => none

/-- An open session of the key was created after the operation read the
clock. -/
def Overtaken (operation : SessionOperation) (tables : IdentityTables) : Prop :=
  ∃ session ∈ tables.sessions, operation.revokedKey? = some session.authenticatedByApiKeyId ∧
    session.revokedAt = none ∧ operation.now < session.createdAt

/-! ## When rows were created -/

/-- The times at which the rows were created. -/
def createdTimes (tables : IdentityTables) : List Int :=
  tables.keys.map OperatorApiKey.createdAt ++ tables.sessions.map OperatorWebSession.createdAt

section Created

variable {settings : WebSessionSettings} {visible : IdentityTables → Prop}
variable {state after : IdentityTables} {answer : SessionAnswer}

@[simp] theorem map_createdAt_ended (condition : OperatorWebSession → Bool) (now : Int)
    (rows : List OperatorWebSession) :
    (updateWhere condition (endedSession now) rows).map OperatorWebSession.createdAt =
      rows.map OperatorWebSession.createdAt := by
  refine map_updateWhere ?_ rows
  exact fun _ _ => rfl

@[simp] theorem map_createdAt_touched (condition : OperatorWebSession → Bool) (now : Int)
    (rows : List OperatorWebSession) :
    (updateWhere condition (touchedSession settings now) rows).map OperatorWebSession.createdAt =
      rows.map OperatorWebSession.createdAt := by
  refine map_updateWhere ?_ rows
  exact fun _ _ => rfl

@[simp] theorem map_createdAt_used (condition : OperatorApiKey → Bool) (instant : Option Int)
    (rows : List OperatorApiKey) :
    (updateWhere condition (fun key => { key with lastUsedAt := instant }) rows).map
      OperatorApiKey.createdAt = rows.map OperatorApiKey.createdAt := by
  refine map_updateWhere ?_ rows
  exact fun _ _ => rfl

@[simp] theorem map_createdAt_revoked (condition : OperatorApiKey → Bool) (instant : Option Int)
    (rows : List OperatorApiKey) :
    (updateWhere condition (fun key => { key with revokedAt := instant }) rows).map
      OperatorApiKey.createdAt = rows.map OperatorApiKey.createdAt := by
  refine map_updateWhere ?_ rows
  exact fun _ _ => rfl

theorem createdTimes_addKey (tables : IdentityTables) (key : OperatorApiKey) :
    createdTimes (tables.addKey key) ⊆ key.createdAt :: createdTimes tables := by
  intro time member
  simp only [createdTimes, IdentityTables.addKey, List.map_append, List.map_cons, List.map_nil,
    List.mem_append, List.mem_cons, List.not_mem_nil, or_false] at member ⊢
  grind

theorem createdTimes_startSession (tables : IdentityTables) (now : Int)
    (session : OperatorWebSession) (entry : AuditLogEntry) :
    createdTimes (tables.startSession now session entry) ⊆
      session.createdAt :: createdTimes tables := by
  intro time member
  simp only [createdTimes, IdentityTables.startSession, map_createdAt_used, List.map_append,
    List.map_cons, List.map_nil, List.mem_append, List.mem_cons, List.not_mem_nil,
    or_false] at member ⊢
  grind

theorem RevocationEffect.created {keyId : Uuid} {now : Int}
    {added : IdentityTables → IdentityTables} {done : SessionAnswer}
    (effect : RevocationEffect visible keyId now added done state after answer) :
    createdTimes after = createdTimes (added state) ∨ after = state := by
  cases effect with
  | revoked => exact .inl (by simp [createdTimes, IdentityTables.revokeKey])
  | broken => exact .inr rfl

/-- **A row is created at the clock of the operation that writes it**, and
keeps this time. -/
theorem SessionOperation.created {operation : SessionOperation}
    (executes : Executes visible (operation.code settings) [] state after answer) :
    createdTimes after ⊆ operation.now :: createdTimes state := by
  have unchanged : createdTimes state ⊆ operation.now :: createdTimes state :=
    List.subset_cons_self _ _
  cases operation with
  | login request =>
      cases login_executes executes with
      | refused => exact unchanged
      | started seen key operator publicId secret session entry _ _ _ _ _ _ _ same _ =>
          subst same
          exact createdTimes_startSession state request.now _ entry
  | authenticate request =>
      cases authenticateWebSession_executes executes with
      | invalid => exact unchanged
      | broken => exact unchanged
      | authenticated _ _ _ _ _ _ _ _ _ _ touches =>
          cases touches with
          | untouched => exact unchanged
          | touched => simp [createdTimes, IdentityTables.updateSession]
  | mutate request =>
      obtain ⟨rfl, _⟩ := lockWebSessionForMutation_executes executes
      exact unchanged
  | logout request =>
      cases revokeOperatorWebSession_executes executes with
      | invalid => exact unchanged
      | broken => exact unchanged
      | ended =>
          simp [createdTimes, IdentityTables.endSession, IdentityTables.updateSession]
  | issue request =>
      rcases issueOperatorApiKey_executes executes with ⟨rfl, _⟩ | ⟨key, _, _, created, _, rfl, _⟩
      · exact unchanged
      · have added := createdTimes_addKey state key
        rwa [created] at added
  | rotate request =>
      cases rotateOperatorApiKey_executes executes with
      | refused => exact unchanged
      | rotation _ _ replacement _ _ created _ effect =>
          rcases effect.created with same | rfl
          · rw [same]
            have added := createdTimes_addKey state replacement
            rwa [created] at added
          · exact unchanged
  | revoke request =>
      cases revokeOperatorApiKey_executes executes with
      | refused => exact unchanged
      | already => exact unchanged
      | revocation _ _ effect =>
          rcases effect.created with same | rfl
          · exact same ▸ unchanged
          · exact unchanged
  | writeOperator operator now =>
      cases executes with
      | lock executes =>
          cases executes with
          | commit => exact unchanged

/-! ## What breaks a constraint -/

/-- A row that an operation ends was created after its clock. -/
inductive EndsLaterRow (state : IdentityTables) : SessionOperation → Prop where
  | session (request : LogoutRequest) (stored : OperatorWebSession) : stored ∈ state.sessions →
      stored.id = request.authenticated.sessionId → request.now < stored.createdAt →
      EndsLaterRow state (.logout request)
  | key (operation : SessionOperation) (key : OperatorApiKey) : key ∈ state.keys →
      operation.revokedKey? = some key.id → operation.now < key.createdAt →
      EndsLaterRow state operation
  | overtaken (operation : SessionOperation) : Overtaken operation state →
      EndsLaterRow state operation

/-- A key whose revocation breaks a constraint was created later. -/
theorem lt_of_broken_key {key : OperatorApiKey} {now : Int} (checked : key.Checked)
    (broken : ¬ ({ key with revokedAt := some now } : OperatorApiKey).Checked) :
    now < key.createdAt := by
  by_contra earlier
  refine broken ⟨checked.secretHashLength, checked.expiryAfterCreation, ?_⟩
  simpa using earlier

theorem RevocationEffect.ends_later_row {keyId : Uuid} (operation : SessionOperation)
    {added : IdentityTables → IdentityTables} {done : SessionAnswer} (inv : SessionsInvariant state)
    (revokes : operation.revokedKey? = some keyId)
    (effect : RevocationEffect visible keyId operation.now added done state after .databaseError)
    (succeeds : done ≠ .databaseError) : EndsLaterRow state operation := by
  generalize failed : SessionAnswer.databaseError = answer at effect
  cases effect with
  | revoked => exact absurd failed.symm succeeds
  | broken key found _ broken =>
      obtain ⟨member, rfl⟩ := rowOf_mem found
      rcases broken with key_broken | ⟨session, session_member, owner, opened, session_broken⟩
      · exact .key operation key member revokes (lt_of_broken_key (inv.keys key member) key_broken)
      · refine .overtaken operation ⟨session, session_member, owner ▸ revokes, opened, ?_⟩
        rw [endedSession_checked (inv.sessions session session_member)] at session_broken
        exact Int.not_le.mp session_broken

/-- **A constraint is broken only by ending a row with an earlier time.** -/
theorem SessionOperation.ends_later_row {operation : SessionOperation}
    (inv : SessionsInvariant state)
    (executes : Executes visible (operation.code settings) [] state after .databaseError) :
    EndsLaterRow state operation := by
  cases operation with
  | login request =>
      have effect := login_executes executes
      generalize failed : SessionAnswer.databaseError = answer at effect
      cases effect with
      | refused _ others => simp [← failed] at others
      | started => cases failed
  | authenticate request =>
      cases authenticateWebSession_executes executes with
      | broken broken =>
          obtain ⟨session, member, meets, unchecked⟩ := broken
          exact absurd (touchedSession_checked (inv.sessions session member) meets) unchecked
  | mutate request =>
      obtain ⟨_, failed | ⟨stored, operator, _, _, failed⟩⟩ :=
        lockWebSessionForMutation_executes executes
      · cases failed
      · unfold admission at failed
        split at failed
        · cases failed
        split at failed <;> cases failed
  | logout request =>
      cases revokeOperatorWebSession_executes executes with
      | broken stored found unchecked =>
          obtain ⟨member, same_id⟩ := rowOf_mem found
          refine .session request stored member same_id ?_
          rw [endedSession_checked (inv.sessions stored member)] at unchecked
          exact Int.not_le.mp unchecked
  | issue request =>
      rcases issueOperatorApiKey_executes executes with ⟨_, _, failed⟩ | ⟨_, _, _, _, _, _, failed⟩
      · cases failed
      · cases failed
  | rotate request =>
      cases rotateOperatorApiKey_executes executes with
      | rotation _ _ replacement _ _ _ _ effect =>
          exact effect.ends_later_row (.rotate request) inv rfl (by simp)
  | revoke request =>
      cases revokeOperatorApiKey_executes executes with
      | revocation _ _ effect =>
          exact effect.ends_later_row (.revoke request) inv rfl (by simp)
  | writeOperator operator now =>
      cases executes with
      | lock executes => cases executes

theorem RevocationEffect.fails {keyId : Uuid} {now : Int}
    {added : IdentityTables → IdentityTables} {done : SessionAnswer} (inv : SessionsInvariant state)
    (seen_before : ∀ seen, visible seen → SessionsInvariant seen ∧ Later seen state)
    {session : OperatorWebSession} (member : session ∈ state.sessions)
    (owner : session.authenticatedByApiKeyId = keyId) (opened : session.revokedAt = none)
    (after_clock : now < session.createdAt)
    (effect : RevocationEffect visible keyId now added done state after answer) :
    answer = .databaseError := by
  cases effect with
  | broken => rfl
  | revoked key seen found unrevoked shown same checked endable =>
      have listed := inv.open_mem (seen_before seen shown).2 same member owner opened
      have ended := endable session.id listed session (inv.session? member)
      rw [endedSession_checked (inv.sessions session member)] at ended
      omega

/-- **A revocation that is overtaken does not succeed.** -/
theorem Overtaken.fails {operation : SessionOperation} (inv : SessionsInvariant state)
    (seen_before : ∀ seen, visible seen → SessionsInvariant seen ∧ Later seen state)
    (overtaken : Overtaken operation state)
    (executes : Executes visible (operation.code settings) [] state after answer) :
    answer = .databaseError ∨ ∃ message, answer = .refused message := by
  obtain ⟨session, member, revokes, opened, after_clock⟩ := overtaken
  cases operation with
  | revoke request =>
      have owner : request.keyId = session.authenticatedByApiKeyId := Option.some.inj revokes
      cases revokeOperatorApiKey_executes executes with
      | refused message => exact .inr ⟨message, rfl⟩
      | already key found revoked =>
          obtain ⟨key_member, same_id⟩ := rowOf_mem found
          have ended := inv.revoked_of_key ⟨key, key_member, same_id, revoked⟩ member owner.symm
          rw [opened] at ended
          cases ended
      | revocation _ _ effect =>
          exact .inl (effect.fails inv seen_before member owner.symm opened after_clock)
  | rotate request =>
      have owner : request.keyId = session.authenticatedByApiKeyId := Option.some.inj revokes
      cases rotateOperatorApiKey_executes executes with
      | refused message => exact .inr ⟨message, rfl⟩
      | rotation _ _ _ _ _ _ _ effect =>
          exact .inl (effect.fails inv seen_before member owner.symm opened after_clock)
  | login | authenticate | mutate | logout | issue | writeOperator => cases revokes

end Created

/-! ## Runs -/

section Runs

variable {settings : WebSessionSettings} {path earlier rest : List ServiceStep}
variable {taken : ServiceStep} {finish : IdentityService}

/-- Every row was created at the clock of an operation that began before. -/
theorem created_of_run (run : ServiceRun settings path finish) :
    createdTimes finish.committed ⊆ path.filterMap clockRead := by
  refine Run.extend (motive := fun path finish =>
    createdTimes finish.committed ⊆ path.filterMap clockRead) run (List.nil_subset _) ?_
  intro earlier state move after reached created step
  have grows : earlier.filterMap clockRead ⊆
      (earlier ++ [(⟨state, move, after⟩ : ServiceStep)]).filterMap clockRead := by
    rw [List.filterMap_append]
    exact List.subset_append_left _ _
  cases move with
  | commit operation answer =>
      have extended : ServiceRun settings (earlier ++ [⟨state, .commit operation answer, after⟩])
          after := reached.trans (.single step)
      obtain ⟨before, began, window, split, started, executes⟩ :=
        executes_at_commit extended rfl rfl
      have began_before : began ∈ earlier := by simp [split]
      have clock : operation.now ∈ earlier.filterMap clockRead :=
        List.mem_filterMap.mpr ⟨began, began_before, by simp [clockRead, begins, started]⟩
      intro time member
      rcases List.mem_cons.mp (SessionOperation.created executes member) with rfl | old
      · exact grows clock
      · exact grows (created old)
  | start operation =>
      rw [step.committed_eq (by simp)]
      exact List.Subset.trans created grows
  | advance =>
      rw [step.committed_eq (by simp)]
      exact List.Subset.trans created grows
  | abort =>
      rw [step.committed_eq (by simp)]
      exact List.Subset.trans created grows

/-- What exists when an operation begins was created no later than its clock. -/
theorem created_le (run : ServiceRun settings path finish) (ordered : ClockOrdered path)
    {began : ServiceStep} (cut : path = earlier ++ began :: rest) {operation : SessionOperation}
    (started : began.label = .start operation) :
    ∀ time ∈ createdTimes began.before.committed, time ≤ operation.now := by
  subst cut
  obtain ⟨reached, _, _⟩ := run.around
  intro time member
  have read := created_of_run reached member
  have clock : clockRead began = some operation.now := by simp [clockRead, begins, started]
  rw [ClockOrdered, List.filterMap_append, List.filterMap_cons_some clock] at ordered
  exact (List.pairwise_append.mp ordered).2.2 time read operation.now List.mem_cons_self

/-- A row that an operation was asked to end, and that existed when the
operation began, was not created after its clock. -/
theorem EndsLaterRow.overtaken_of_existing {tables state : IdentityTables}
    {operation : SessionOperation} (inv : SessionsInvariant state) (later : Later tables state)
    (created : ∀ time ∈ createdTimes tables, time ≤ operation.now)
    (existing : operation.NamesRow state → operation.NamesRow tables)
    (ends : EndsLaterRow state operation) : Overtaken operation state := by
  have no_later_key : ∀ key ∈ state.keys, operation.revokedKey? = some key.id →
      (∃ old ∈ tables.keys, old.id = key.id) → ¬ operation.now < key.createdAt := by
    rintro key member _ ⟨old, old_member, same_id⟩ after_clock
    obtain ⟨next, next_member, moved⟩ := later.keys old old_member
    obtain rfl := inv.key_unique next_member member (moved.id.trans same_id)
    have clock := created old.createdAt
      (List.mem_append_left _ (List.mem_map.mpr ⟨old, old_member, rfl⟩))
    rw [moved.createdAt] at after_clock
    omega
  cases ends with
  | overtaken _ overtaken => exact overtaken
  | session request stored member same_id after_clock =>
      obtain ⟨old, old_member, old_id⟩ := existing ⟨stored, member, same_id⟩
      obtain ⟨next, next_member, moved⟩ := later.sessions old old_member
      obtain rfl := inv.session_unique next_member member
        (moved.id.trans (old_id.trans same_id.symm))
      have clock : old.createdAt ≤ request.now := created old.createdAt
        (List.mem_append_right _ (List.mem_map.mpr ⟨old, old_member, rfl⟩))
      rw [moved.createdAt] at after_clock
      omega
  | key _ key member revokes after_clock =>
      refine absurd after_clock (no_later_key key member revokes ?_)
      cases operation with
      | revoke request =>
          obtain ⟨old, old_member, old_id⟩ := existing ⟨key, member, (Option.some.inj revokes).symm⟩
          exact ⟨old, old_member, old_id.trans (Option.some.inj revokes)⟩
      | rotate request =>
          obtain ⟨old, old_member, old_id⟩ := existing ⟨key, member, (Option.some.inj revokes).symm⟩
          exact ⟨old, old_member, old_id.trans (Option.some.inj revokes)⟩
      | login | authenticate | mutate | logout | issue | writeOperator => cases revokes

/-- A row that is named later exists later. -/
theorem SessionOperation.NamesRow.later {operation : SessionOperation}
    {tables later : IdentityTables} (moved : Later tables later)
    (named : operation.NamesRow tables) : operation.NamesRow later := by
  have keys : ∀ keyId, (∃ key ∈ tables.keys, key.id = keyId) → ∃ key ∈ later.keys, key.id = keyId := by
    rintro _ ⟨key, member, rfl⟩
    obtain ⟨next, next_member, to_next⟩ := moved.keys key member
    exact ⟨next, next_member, to_next.id⟩
  cases operation with
  | revoke request => exact keys request.keyId named
  | rotate request => exact keys request.keyId named
  | logout request =>
      obtain ⟨session, member, same_id⟩ := named
      obtain ⟨next, next_member, to_next⟩ := moved.sessions session member
      exact ⟨next, next_member, to_next.id.trans same_id⟩
  | login | authenticate | mutate | issue | writeOperator => trivial

/-- **When the database refuses an operation.** With a clock that never goes
back, in every state all rows meet their constraints, and a constraint is
broken only by a revocation or rotation that finds an open session of its key
with a creation time after its own clock; each such revocation fails. -/
theorem database_error_iff_overtaken (run : ServiceRun settings path finish)
    (ordered : ClockOrdered path) (existing : NamesExisting path finish.committed) :
    (∀ key ∈ finish.committed.keys, key.Checked) ∧
    (∀ session ∈ finish.committed.sessions, session.Checked) ∧
    ∀ taken ∈ path, ∀ operation answer, taken.label = .commit operation answer →
      (answer = .databaseError → Overtaken operation taken.before.committed) ∧
      (Overtaken operation taken.before.committed →
        answer = .databaseError ∨ ∃ message, answer = .refused message) := by
  obtain ⟨inv, kept⟩ := sessions_of_run run
  refine ⟨inv.keys, inv.sessions, fun taken member operation answer label => ?_⟩
  obtain ⟨earlier, rest, cut⟩ := List.append_of_mem member
  obtain ⟨before, began, window, split, started, executes⟩ := executes_at_commit run cut label
  obtain ⟨inv_taken, to_finish, _⟩ := kept taken member
  refine ⟨fun failed => ?_, fun overtaken => ?_⟩
  · subst failed
    have reached : ServiceRun settings earlier taken.before := by
      subst cut
      exact run.around.1
    have since := ((sessions_of_run reached).2 began (by simp [split])).2.1
    have cut_at_start : path = before ++ began :: (window ++ taken :: rest) := by
      rw [cut, split, List.append_assoc, List.cons_append]
    refine (SessionOperation.ends_later_row inv_taken executes).overtaken_of_existing inv_taken since
      (created_le run ordered cut_at_start started) fun named => ?_
    exact existing began (by simp [cut, split]) operation (by simp [begins, started])
      (named.later to_finish)
  · exact overtaken.fails inv_taken
      (fun seen shown => seen_before_commit run cut split shown) executes

/-! ## An overtaken revocation -/

/-- A login reads the clock after the revocation and commits before it. The
revocation breaks a constraint of the session: it is rolled back, and the key
of an active operator stays valid with its open session. -/
theorem overtaken_revocation_is_rolled_back :
    ∃ path finish, ServiceRun .defaults path finish ∧ ClockOrdered path ∧
      NamesExisting path finish.committed ∧
      (∃ taken ∈ path, taken.label = .commit (.revoke ⟨20, 3⟩) .databaseError ∧
        ∃ key ∈ taken.before.committed.keys, key.id = 20 ∧ key.revokedAt = none ∧
          ∃ operator ∈ taken.before.committed.operators,
            operator.id = key.operatorId ∧ operator.isActive = true) ∧
      (∃ key ∈ finish.committed.keys, key.id = 20 ∧ key.revokedAt = none) ∧
      ∃ session ∈ finish.committed.sessions,
        session.authenticatedByApiKeyId = 20 ∧ session.revokedAt = none := by
  have scheduled : ((Transactions.schedule (SessionOperation.code .defaults)
      (Transactions.idle .installed) (overtakenRevocation 3)).any fun (path, finish) =>
        decide (ClockOrdered path ∧ NamesExisting path finish.committed ∧
          (∃ taken ∈ path, taken.label = .commit (.revoke ⟨20, 3⟩) .databaseError ∧
            ∃ key ∈ taken.before.committed.keys, key.id = 20 ∧ key.revokedAt = none ∧
              ∃ operator ∈ taken.before.committed.operators,
                operator.id = key.operatorId ∧ operator.isActive = true) ∧
          (∃ key ∈ finish.committed.keys, key.id = 20 ∧ key.revokedAt = none) ∧
          ∃ session ∈ finish.committed.sessions,
            session.authenticatedByApiKeyId = 20 ∧ session.revokedAt = none)) = true := by
    decide +kernel
  obtain ⟨⟨path, finish⟩, reached, holds⟩ := (Option.any_eq_true _ _).mp scheduled
  exact ⟨path, finish, Transactions.run_of_schedule reached, of_decide_eq_true holds⟩

/-- With the clock of the login the same revocation ends the session. -/
theorem database_error_iff_overtaken_same_clock :
    ∃ path finish, ServiceRun .defaults path finish ∧
      ∃ taken ∈ path, taken.label = .commit (.revoke ⟨20, 4⟩) (.revoked true) ∧
        ¬ Overtaken (.revoke ⟨20, 4⟩) taken.before.committed := by
  have scheduled : ((Transactions.schedule (SessionOperation.code .defaults)
      (Transactions.idle .installed) (overtakenRevocation 4)).any fun (path, finish) =>
        decide (ClockOrdered path ∧ NamesExisting path finish.committed ∧
          ∃ taken ∈ path, taken.label = .commit (.revoke ⟨20, 4⟩) (.revoked true))) = true := by
    decide +kernel
  obtain ⟨⟨path, finish⟩, reached, holds⟩ := (Option.any_eq_true _ _).mp scheduled
  obtain ⟨ordered, existing, taken, member, label⟩ := of_decide_eq_true holds
  have run := Transactions.run_of_schedule reached
  refine ⟨path, finish, run, taken, member, label, fun overtaken => ?_⟩
  obtain ⟨_, _, at_step⟩ := database_error_iff_overtaken run ordered existing
  rcases (at_step taken member _ _ label).2 overtaken with failed | ⟨_, refused⟩
  · cases failed
  · cases refused

end Runs

end WolandGuard.Sessions
