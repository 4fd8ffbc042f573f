import WolandGuard.Foundations.Runs
import WolandGuard.Detection.Firing
import WolandGuard.Detection.Persistence

/-!
# Arrival order

Batches of one server are ingested one after another. A bucket has an incident
at the end when it had one before, or when some event completed a match over
the events that were stored once its own batch was in (`arrivals_exact`). The
windows of the rules end at the trigger, so an event that arrives after a later
one is not seen by it. Arrivals in time order therefore reach the same buckets,
and every other arrival reaches some of these.
-/

set_option autoImplicit false

namespace WolandGuard.Detection

open Foundations Outbox

/-- A bucket has an incident. -/
def HasIncident (db : Database) (bucket : Bucket) : Prop :=
  ∃ incident ∈ db.incidents, incident.bucket = bucket

instance (db : Database) (bucket : Bucket) : Decidable (HasIncident db bucket) :=
  inferInstanceAs (Decidable (∃ incident ∈ db.incidents, incident.bucket = bucket))

/-! ## One match -/

section Match

variable {draws : Draws} {maxAttempts : Nat} {db : Database} {stored : DetectionRuleVersion}
variable {trigger : Event} {bucket : Bucket} {found : DetectionMatch} {writes : Writes}

theorem persistMatch_keys
    (persisted : persistMatch draws maxAttempts db stored trigger bucket found = .ok writes)
    (keys : PrimaryKeys db) : PrimaryKeys (db.write writes) where
  eventIds := by simpa [persistMatch_events persisted] using keys.eventIds
  ruleIds := keys.ruleIds
  incidentIds := by
    rcases persistMatch_cases persisted with ⟨_, _, rfl⟩ | ⟨_, _, _, _, _, _, _, _, rfl⟩ <;>
      exact nodup_putRow keys.incidentIds

/-- The row a match writes belongs to its bucket, and so does the row it
replaces. -/
theorem persistMatch_row
    (persisted : persistMatch draws maxAttempts db stored trigger bucket found = .ok writes)
    (keys : PrimaryKeys db) :
    ∃ row, writes.incident = some row ∧ row.bucket = bucket ∧
      ∀ other ∈ db.incidents, other.id = row.id → other.bucket = bucket := by
  rcases persistMatch_cases persisted with
    ⟨incident, active, rfl⟩ | ⟨incident, _, _, rfl, _, fresh, _, _, rfl⟩
  · obtain ⟨member, in_bucket, _⟩ := activeIncident_spec active
    refine ⟨_, rfl, in_bucket, fun other other_member same => ?_⟩
    rw [List.inj_on_of_nodup_map keys.incidentIds other_member member same]
    exact in_bucket
  · exact ⟨_, rfl, rfl, fun other other_member same => absurd same (fresh other other_member).1⟩

/-- **A match leaves its bucket with an incident and the others as they
were.** -/
theorem hasIncident_write
    (persisted : persistMatch draws maxAttempts db stored trigger bucket found = .ok writes)
    (keys : PrimaryKeys db) (other : Bucket) :
    HasIncident (db.write writes) other ↔ HasIncident db other ∨ other = bucket := by
  obtain ⟨row, written, in_bucket, replaced⟩ := persistMatch_row persisted keys
  simp only [HasIncident, Database.write, written, Option.elim_some, mem_putRow]
  constructor
  · rintro ⟨incident, rfl | ⟨member, _⟩, rfl⟩
    · exact .inr in_bucket
    · exact .inl ⟨incident, member, rfl⟩
  · rintro (⟨incident, member, rfl⟩ | rfl)
    · by_cases same : incident.id = row.id
      · exact ⟨row, .inl rfl, in_bucket.trans (replaced incident member same).symm⟩
      · exact ⟨incident, .inr ⟨member, same⟩, rfl⟩
    · exact ⟨row, .inl rfl, in_bucket⟩

end Match

/-! ## One batch -/

/-- The buckets that have an incident after a run over the turns. -/
theorem hasIncident_runTurns {draws : Draws} {maxAttempts : Nat}
    {items : List (Event × DetectionRuleVersion)} {db finish : Database}
    (ran : runTurns draws maxAttempts items db = .ok finish) (keys : PrimaryKeys db)
    (bucket : Bucket) :
    HasIncident finish bucket ↔ HasIncident db bucket ∨
      ∃ trigger stored correlation found, (trigger, stored) ∈ items ∧
        TurnMatches db.events trigger stored correlation found ∧
        bucket = bucketOf stored trigger correlation := by
  induction items generalizing db with
  | nil =>
      obtain rfl := Except.ok.inj ran
      simp
  | cons item rest ih =>
      obtain ⟨trigger, stored⟩ := item
      unfold runTurns at ran
      split at ran
      · cases ran
      next detected =>
        rcases detectOne_cases detected with ⟨_, no_match⟩ | ⟨_, _, _, other, _⟩
        · rw [ih ran keys]
          refine or_congr_right ⟨?_, ?_⟩
          · rintro ⟨event, rule, correlation, found, member, turn, same⟩
            exact ⟨event, rule, correlation, found, List.mem_cons_of_mem _ member, turn, same⟩
          · rintro ⟨event, rule, correlation, found, member, turn, same⟩
            rcases List.mem_cons.mp member with head | member
            · obtain ⟨rfl, rfl⟩ := Prod.mk.inj head
              exact absurd turn (no_match correlation found)
            · exact ⟨event, rule, correlation, found, member, turn, same⟩
        · cases other
      next writes detected =>
        rcases detectOne_cases detected with
          ⟨nothing, _⟩ | ⟨other, correlation, found, same, turn, persisted⟩
        · cases nothing
        · obtain rfl := Option.some.inj same
          rw [ih ran (persistMatch_keys persisted keys), hasIncident_write persisted keys, or_assoc]
          simp only [Database.write_events, persistMatch_events persisted, List.append_nil]
          refine or_congr_right ⟨?_, ?_⟩
          · rintro (rfl | ⟨event, rule, correlation', found', member, turn', same'⟩)
            · exact ⟨trigger, stored, correlation, found, List.mem_cons_self, turn, rfl⟩
            · exact ⟨event, rule, correlation', found', List.mem_cons_of_mem _ member, turn', same'⟩
          · rintro ⟨event, rule, correlation', found', member, turn', rfl⟩
            rcases List.mem_cons.mp member with head | member
            · obtain ⟨rfl, rfl⟩ := Prod.mk.inj head
              obtain rfl := Option.some.inj (turn.correlates.symm.trans turn'.correlates)
              exact .inl rfl
            · exact .inr ⟨event, rule, correlation', found', member, turn', rfl⟩

/-- A committed ingestion of one batch of a server. -/
def IngestStep (serverId : Uuid) (db : Database) (batch : List NormalizedEventV1)
    (after : Database) : Prop :=
  ∃ draws maxAttempts now, ingestEvents draws maxAttempts serverId now db batch = .ok after

/-- What a committed ingestion does: it stores new events of the server and
opens the buckets in which one of them matches. -/
structure Ingested (serverId : Uuid) (db after : Database) (inserted : List Event) : Prop where
  events : after.events = db.events ++ inserted
  server : ∀ event ∈ inserted, event.serverId = serverId
  ruleVersions : after.ruleVersions = db.ruleVersions
  keys : PrimaryKeys after
  buckets : ∀ bucket, HasIncident after bucket ↔ HasIncident db bucket ∨
    ∃ trigger stored correlation found, (trigger ∈ inserted ∧ stored ∈ activeRules db) ∧
      TurnMatches after.events trigger stored correlation found ∧
      bucket = bucketOf stored trigger correlation

theorem IngestStep.ingested {serverId : Uuid} {db after : Database}
    {batch : List NormalizedEventV1} (step : IngestStep serverId db batch after)
    (keys : PrimaryKeys db) : ∃ inserted, Ingested serverId db after inserted := by
  obtain ⟨draws, maxAttempts, now, committed⟩ := step
  unfold ingestEvents at committed
  split at committed
  · cases committed
  next inserted batch_inserted =>
    obtain ⟨sublist, unique⟩ := insertEventBatch_spec batch_inserted
    have keys_between : PrimaryKeys (db.write (.ofEvents inserted)) :=
      ⟨unique keys.eventIds, keys.ruleIds, keys.incidentIds⟩
    obtain ⟨events, ruleVersions, _⟩ := runTurns_frame committed
    have keys_after : PrimaryKeys after :=
      runTurns_invariant (fun _ _ _ _ _ _ _ holds _ persisted => persistMatch_keys persisted holds)
        committed keys_between
    refine ⟨inserted, events, fun event member => ?_, ruleVersions, keys_after, fun bucket => ?_⟩
    · obtain ⟨_, _, rfl⟩ := List.mem_map.mp (sublist.subset member)
      rfl
    · rw [hasIncident_runTurns committed keys_between, events]
      simp only [mem_turns]
      rfl

/-- The events that were stored between two states. -/
def arrived (before after : Database) : List NormalizedEventV1 :=
  (after.events.drop before.events.length).map Event.normalized

/-- The events of a server after a batch. -/
theorem Ingested.serverEvents_eq {serverId : Uuid} {db after : Database} {inserted : List Event}
    (ingested : Ingested serverId db after inserted) :
    serverEvents after.events serverId =
      serverEvents db.events serverId ++ arrived db after := by
  have same_server : inserted.filter (·.serverId = serverId) = inserted :=
    List.filter_eq_self.mpr fun event member => decide_eq_true (ingested.server event member)
  rw [arrived, ingested.events, List.drop_left, serverEvents, serverEvents,
    List.filter_append, List.map_append, same_server]

/-- **A batch opens the group of a windowed rule exactly when one of its events
completes a match there.** -/
theorem Ingested.hasIncident_iff {serverId : Uuid} {db after : Database} {inserted : List Event}
    (ingested : Ingested serverId db after inserted) {stored : DetectionRuleVersion}
    (active : stored ∈ activeRules db) (windowed : stored.definition.condition.isWindowed = true)
    (hash : String) :
    HasIncident after ⟨serverId, stored.id, hash⟩ ↔
      HasIncident db ⟨serverId, stored.id, hash⟩ ∨ ∃ event ∈ arrived db after,
        Completes stored.definition event (serverEvents after.events serverId) hash := by
  rw [ingested.buckets]
  refine or_congr_right ⟨?_, ?_⟩
  · rintro ⟨trigger, other, correlation, found, ⟨member, other_active⟩, turn, same⟩
    have same_rule : other = stored := List.inj_on_of_nodup_map ingested.keys.ruleIds
      (ingested.ruleVersions ▸ (mem_activeRules.mp other_active).1)
      (ingested.ruleVersions ▸ (mem_activeRules.mp active).1)
      (congrArg Bucket.ruleVersionId same).symm
    subst same_rule
    have stored_trigger : trigger ∈ after.events := by
      rw [ingested.events]
      exact List.mem_append_right _ member
    refine ⟨trigger.normalized, ?_, ?_⟩
    · rw [arrived, ingested.events, List.drop_left]
      exact List.mem_map_of_mem member
    · have completes := (evaluateRule_isSome windowed stored_trigger ingested.keys.eventIds
        turn.triggers turn.correlates).mp (by rw [turn.evaluates]; rfl)
      rw [ingested.server trigger member] at completes
      have same_hash : hash = correlationHash correlation := congrArg Bucket.correlationHash same
      rwa [same_hash]
  · rintro ⟨event, event_arrived, completes⟩
    rw [arrived, ingested.events, List.drop_left] at event_arrived
    obtain ⟨trigger, member, rfl⟩ := List.mem_map.mp event_arrived
    obtain ⟨correlation, correlates, rfl⟩ := completes.correlation
    have stored_trigger : trigger ∈ after.events := by
      rw [ingested.events]
      exact List.mem_append_right _ member
    have server := ingested.server trigger member
    have matched := (evaluateRule_isSome windowed stored_trigger ingested.keys.eventIds
      completes.triggers correlates).mpr (by rwa [server])
    obtain ⟨found, evaluates⟩ := Option.isSome_iff_exists.mp matched
    exact ⟨trigger, stored, correlation, found, ⟨member, active⟩,
      ⟨completes.triggers, correlates, evaluates⟩, by rw [bucketOf, server]⟩

/-! ## Whole arrivals -/

section Arrivals

variable {serverId : Uuid} {start finish : Database}
variable {path : List (Taken Database (List NormalizedEventV1))}

theorem arrivals_keys (run : Run (IngestStep serverId) start path finish)
    (keys : PrimaryKeys start) : PrimaryKeys finish :=
  run.invariant (fun _ _ _ keys step => (step.ingested keys).choose_spec.keys) keys

/-- The stored events only grow, and the rules stay. -/
theorem arrivals_frame (run : Run (IngestStep serverId) start path finish)
    (keys : PrimaryKeys start) :
    (∃ later, finish.events = start.events ++ later ∧
      ∀ event ∈ later, event.serverId = serverId) ∧ finish.ruleVersions = start.ruleVersions := by
  induction run with
  | nil state => exact ⟨⟨[], by simp, by simp⟩, rfl⟩
  | cons step _ ih =>
      obtain ⟨inserted, ingested⟩ := step.ingested keys
      obtain ⟨⟨later, events, server⟩, rules⟩ := ih ingested.keys
      refine ⟨⟨inserted ++ later, ?_, fun event member => ?_⟩, rules.trans ingested.ruleVersions⟩
      · rw [events, ingested.events, List.append_assoc]
      · exact (List.mem_append.mp member).elim (ingested.server event) (server event)

/-- The events that a run stores. -/
theorem arrivals_serverEvents (run : Run (IngestStep serverId) start path finish)
    (keys : PrimaryKeys start) :
    serverEvents finish.events serverId =
      serverEvents start.events serverId ++ arrived start finish := by
  obtain ⟨⟨later, events, server⟩, _⟩ := arrivals_frame run keys
  have same_server : later.filter (·.serverId = serverId) = later :=
    List.filter_eq_self.mpr fun event member => decide_eq_true (server event member)
  rw [arrived, events, List.drop_left, serverEvents, serverEvents, List.filter_append,
    List.map_append, same_server]

theorem activeRules_congr {db other : Database} (same : db.ruleVersions = other.ruleVersions) :
    activeRules db = activeRules other := by
  rw [activeRules, activeRules, same]

variable {stored : DetectionRuleVersion}

/-- **A group has an incident at the end exactly when it had one before or one
of the ingested events completed a match over what was stored once its batch
was in.** -/
theorem arrivals_exact (run : Run (IngestStep serverId) start path finish)
    (keys : PrimaryKeys start) (active : stored ∈ activeRules start)
    (windowed : stored.definition.condition.isWindowed = true) (hash : String) :
    HasIncident finish ⟨serverId, stored.id, hash⟩ ↔
      HasIncident start ⟨serverId, stored.id, hash⟩ ∨
        ∃ taken ∈ path, ∃ event ∈ arrived taken.before taken.after,
          Completes stored.definition event (serverEvents taken.after.events serverId) hash := by
  induction run with
  | nil state => simp
  | cons step rest ih =>
      obtain ⟨inserted, ingested⟩ := step.ingested keys
      rw [ih ingested.keys (activeRules_congr ingested.ruleVersions ▸ active),
        ingested.hasIncident_iff active windowed]
      simp only [List.mem_cons, exists_eq_or_imp, or_assoc]

/-- A run stores what its batches store. -/
theorem mem_arrived (run : Run (IngestStep serverId) start path finish)
    (keys : PrimaryKeys start) (event : NormalizedEventV1) :
    event ∈ arrived start finish ↔
      ∃ taken ∈ path, event ∈ arrived taken.before taken.after := by
  induction run with
  | nil state => simp [arrived]
  | @cons start middle finish batch path step rest ih =>
      obtain ⟨inserted, ingested⟩ := step.ingested keys
      obtain ⟨⟨later, events, _⟩, _⟩ := arrivals_frame rest ingested.keys
      have split : arrived start finish = arrived start middle ++ arrived middle finish := by
        simp [arrived, events, ingested.events]
      rw [split, List.mem_append, ih ingested.keys]
      simp only [List.mem_cons, exists_eq_or_imp]

/-- Later batches hold later events. -/
def InTimeOrder (path : List (Taken Database (List NormalizedEventV1))) : Prop :=
  path.Pairwise fun first second =>
    ∀ event ∈ arrived first.before first.after, ∀ later ∈ arrived second.before second.after,
      event.occurredAt < later.occurredAt

/-- An event after the trigger is not in its window. -/
theorem relevant_of_later {rule : RuleDefinition} {trigger event : NormalizedEventV1}
    (later : trigger.occurredAt < event.occurredAt) : relevant rule trigger event = false := by
  unfold relevant
  cases historyQuery rule.condition with
  | none => rfl
  | some query =>
      have not_before : ¬ event.occurredAt ≤ trigger.occurredAt := by omega
      simp [not_before]

/-- Where a match was completed, it is complete over all that is stored in the
end. -/
theorem completes_at_end (run : Run (IngestStep serverId) start path finish)
    (keys : PrimaryKeys start) {taken : Taken Database (List NormalizedEventV1)}
    (member : taken ∈ path) {rule : RuleDefinition} {event : NormalizedEventV1} {hash : String}
    (completes : Completes rule event (serverEvents taken.after.events serverId) hash) :
    Completes rule event (serverEvents finish.events serverId) hash := by
  obtain ⟨earlier, later, rfl⟩ := List.append_of_mem member
  obtain ⟨before, step, after⟩ := run.around
  have keys_after := arrivals_keys (.single step) (arrivals_keys before keys)
  rw [arrivals_serverEvents after keys_after]
  have more := (List.sublist_append_left (serverEvents taken.after.events serverId)
    (arrived taken.after finish)).subperm
  exact ⟨completes.enabled, completes.triggers, completes.correlation,
    completes.fires.mono (more.filter _)⟩

/-- In time order, a match that is complete in the end was completed when the
batch of its last event was in. -/
theorem completes_in_order (run : Run (IngestStep serverId) start path finish)
    (keys : PrimaryKeys start) (ordered : InTimeOrder path)
    {taken : Taken Database (List NormalizedEventV1)} (member : taken ∈ path)
    {event : NormalizedEventV1} (in_batch : event ∈ arrived taken.before taken.after)
    {rule : RuleDefinition} {hash : String}
    (completes : Completes rule event (serverEvents finish.events serverId) hash) :
    Completes rule event (serverEvents taken.after.events serverId) hash := by
  obtain ⟨earlier, later, rfl⟩ := List.append_of_mem member
  obtain ⟨before, step, after⟩ := run.around
  have keys_after := arrivals_keys (.single step) (arrivals_keys before keys)
  have none_relevant : (arrived taken.after finish).filter (relevant rule event) = [] := by
    refine List.filter_eq_nil_iff.mpr fun other other_arrived => ?_
    obtain ⟨second, second_member, in_second⟩ := (mem_arrived after keys_after other).mp other_arrived
    have follows := (List.pairwise_cons.mp (List.pairwise_append.mp ordered).2.1).1 second
      second_member event in_batch other in_second
    simp [relevant_of_later follows]
  obtain ⟨enabled, triggers, correlation, fires⟩ := completes
  rw [arrivals_serverEvents after keys_after, List.filter_append, none_relevant,
    List.append_nil] at fires
  exact ⟨enabled, triggers, correlation, fires⟩

/-- A group of the start, or one in which a match is complete in the end. -/
def Reachable (serverId : Uuid) (start finish : Database) (stored : DetectionRuleVersion)
    (hash : String) : Prop :=
  HasIncident start ⟨serverId, stored.id, hash⟩ ∨ ∃ event ∈ arrived start finish,
    Completes stored.definition event (serverEvents finish.events serverId) hash

/-- Every arrival reaches only groups that are complete in the end. -/
theorem arrivals_sound (run : Run (IngestStep serverId) start path finish)
    (keys : PrimaryKeys start) (active : stored ∈ activeRules start)
    (windowed : stored.definition.condition.isWindowed = true) {hash : String}
    (opened : HasIncident finish ⟨serverId, stored.id, hash⟩) :
    Reachable serverId start finish stored hash := by
  rcases (arrivals_exact run keys active windowed hash).mp opened with
    before | ⟨taken, member, event, in_batch, completes⟩
  · exact .inl before
  · exact .inr ⟨event, (mem_arrived run keys event).mpr ⟨taken, member, in_batch⟩,
      completes_at_end run keys member completes⟩

/-- An arrival in time order reaches them all. -/
theorem arrivals_complete (run : Run (IngestStep serverId) start path finish)
    (keys : PrimaryKeys start) (active : stored ∈ activeRules start)
    (windowed : stored.definition.condition.isWindowed = true) (ordered : InTimeOrder path)
    {hash : String} (reachable : Reachable serverId start finish stored hash) :
    HasIncident finish ⟨serverId, stored.id, hash⟩ := by
  rw [arrivals_exact run keys active windowed]
  rcases reachable with before | ⟨event, event_arrived, completes⟩
  · exact .inl before
  · obtain ⟨taken, member, in_batch⟩ := (mem_arrived run keys event).mp event_arrived
    exact .inr ⟨taken, member, event, in_batch,
      completes_in_order run keys ordered member in_batch completes⟩

/-- What is reachable depends on which events are stored, not on their order. -/
theorem Reachable.perm {other : Database}
    (stored_same : (serverEvents finish.events serverId).Perm (serverEvents other.events serverId))
    (arrived_same : (arrived start finish).Perm (arrived start other)) {hash : String}
    (reachable : Reachable serverId start finish stored hash) :
    Reachable serverId start other stored hash := by
  rcases reachable with before | ⟨event, event_arrived, enabled, triggers, correlation, fires⟩
  · exact .inl before
  · exact .inr ⟨event, arrived_same.mem_iff.mp event_arrived, enabled, triggers, correlation,
      (WindowFires.perm_iff (stored_same.filter _) event).mp fires⟩

end Arrivals

/-- **Arrival order.** For a windowed rule and a group: an arrival leaves the
group with an incident exactly when it had one or one of the ingested events
completed a match over what was stored once its batch was in; in particular
when the events of a threshold window are stored no later than the batch of
its last one. Two arrivals that end with the same stored events agree when
both are in time order, and any arrival reaches only groups that one in time
order reaches. -/
theorem detection_arrival_order (serverId : Uuid) (start : Database) (keys : PrimaryKeys start)
    (stored : DetectionRuleVersion) (active : stored ∈ activeRules start)
    (windowed : stored.definition.condition.isWindowed = true) (hash : String)
    (path : List (Taken Database (List NormalizedEventV1))) (finish : Database)
    (run : Run (IngestStep serverId) start path finish) :
    (HasIncident finish ⟨serverId, stored.id, hash⟩ ↔
      HasIncident start ⟨serverId, stored.id, hash⟩ ∨
        ∃ taken ∈ path, ∃ event ∈ arrived taken.before taken.after,
          Completes stored.definition event (serverEvents taken.after.events serverId) hash) ∧
    (∀ condition, stored.definition.condition = .threshold condition →
      stored.definition.enabled = true →
      ∀ taken ∈ path, ∀ last ∈ arrived taken.before taken.after, ∀ group correlation,
        thresholdCounts condition group last = true →
        correlationOf stored.definition last = some correlation →
        correlationHash correlation = hash →
        condition.threshold ≤ (serverEvents taken.after.events serverId).countP (fun event =>
          (last.occurredAt - seconds condition.windowSeconds ≤ event.occurredAt &&
            event.occurredAt ≤ last.occurredAt) && thresholdCounts condition group event) →
        HasIncident finish ⟨serverId, stored.id, hash⟩) ∧
    (∀ path' finish', Run (IngestStep serverId) start path' finish' →
      (serverEvents finish.events serverId).Perm (serverEvents finish'.events serverId) →
      InTimeOrder path' →
        (HasIncident finish ⟨serverId, stored.id, hash⟩ →
          HasIncident finish' ⟨serverId, stored.id, hash⟩) ∧
        (InTimeOrder path →
          (HasIncident finish ⟨serverId, stored.id, hash⟩ ↔
            HasIncident finish' ⟨serverId, stored.id, hash⟩))) := by
  have exact_groups := arrivals_exact run keys active windowed hash
  refine ⟨exact_groups, ?_, ?_⟩
  · intro condition shape enabled taken member last in_batch group correlation counts correlates
      same_hash enough
    subst same_hash
    exact exact_groups.mpr (.inr ⟨taken, member, last, in_batch,
      .of_threshold shape enabled counts correlates enough⟩)
  · intro path' finish' run' stored_same ordered'
    have arrived_same : (arrived start finish).Perm (arrived start finish') := by
      rw [arrivals_serverEvents run keys, arrivals_serverEvents run' keys] at stored_same
      exact (List.perm_append_left_iff _).mp stored_same
    have reaches : HasIncident finish ⟨serverId, stored.id, hash⟩ →
        HasIncident finish' ⟨serverId, stored.id, hash⟩ := fun opened =>
      arrivals_complete run' keys active windowed ordered'
        ((arrivals_sound run keys active windowed opened).perm stored_same arrived_same)
    refine ⟨reaches, fun ordered => ⟨reaches, fun opened => ?_⟩⟩
    exact arrivals_complete run keys active windowed ordered
      ((arrivals_sound run' keys active windowed opened).perm stored_same.symm arrived_same.symm)

/-! ## A late event -/

def bruteforceVersion : DetectionRuleVersion where
  id := 100
  ruleKey := sshBruteforceByIp.ruleKey
  version := sshBruteforceByIp.version
  enabled := true
  severity := sshBruteforceByIp.severity
  checksum := ""
  definition := sshBruteforceByIp
  isActive := true
  createdAt := 0
  activatedAt := some 0

/-- An installation with this rule alone. -/
def bruteforceDatabase : Database :=
  { Database.empty with ruleVersions := [bruteforceVersion] }

/-- The failure in second `n`. -/
def failureAt (n : Nat) : NormalizedEventV1 where
  eventId := BitVec.ofNat 128 n
  schemaVersion := 1
  source := .journald
  eventType := "linux.ssh.authentication_failed"
  occurredAt := seconds n
  collectedAt := seconds n
  payload := .obj [("actor", .str "root"), ("source_ip", .str "203.0.113.7")]

def sampleDraws : Draws where
  eventId := id
  incidentId := fun trigger _ => trigger
  historyId := id
  outboxId := fun incident _ => incident
  now := fun _ _ => 0

/-- The database after one more batch of server 1. -/
def afterBatch (db : Database) (batch : List NormalizedEventV1) : Database :=
  (ingestEvents sampleDraws 5 1 0 db batch).toOption.getD db

theorem ingestStep_afterBatch {db : Database} {batch : List NormalizedEventV1}
    (committed : (ingestEvents sampleDraws 5 1 0 db batch).toOption.isSome = true) :
    IngestStep 1 db batch (afterBatch db batch) := by
  refine ⟨sampleDraws, 5, 0, ?_⟩
  unfold afterBatch
  generalize ingestEvents sampleDraws 5 1 0 db batch = result at committed
  cases result with
  | error failure => cases committed
  | ok after => rfl

/-- The first seven failures. -/
def sevenFailures : List NormalizedEventV1 :=
  [failureAt 1, failureAt 2, failureAt 3, failureAt 4, failureAt 5, failureAt 6, failureAt 7]

/-- The group of the address. -/
def bruteforceBucket : Bucket :=
  ⟨1, 100, sha256Hex "\x7b\"source_ip\":\"203.0.113.7\"\x7d"⟩

/-- The failures in time order. -/
def sevenFirst : Database := afterBatch bruteforceDatabase sevenFailures

def sevenThenEighth : Database := afterBatch sevenFirst [failureAt 8]

/-- The last failure before the others. -/
def eighthFirst : Database := afterBatch bruteforceDatabase [failureAt 8]

def eighthThenSeven : Database := afterBatch eighthFirst sevenFailures

theorem sevenThenEighth_run : Run (IngestStep 1) bruteforceDatabase
    ([⟨bruteforceDatabase, sevenFailures, sevenFirst⟩,
      ⟨sevenFirst, [failureAt 8], sevenThenEighth⟩]) sevenThenEighth :=
  .cons (ingestStep_afterBatch (by decide +kernel))
    (.single (ingestStep_afterBatch (by decide +kernel)))

theorem eighthThenSeven_run : Run (IngestStep 1) bruteforceDatabase
    ([⟨bruteforceDatabase, [failureAt 8], eighthFirst⟩,
      ⟨eighthFirst, sevenFailures, eighthThenSeven⟩]) eighthThenSeven :=
  .cons (ingestStep_afterBatch (by decide +kernel))
    (.single (ingestStep_afterBatch (by decide +kernel)))

/-- The same eight failures in two orders: an incident in time order, and none
when the last failure arrives before the others. -/
theorem late_events_open_no_incident :
    ∃ path path', Run (IngestStep 1) bruteforceDatabase path sevenThenEighth ∧
      Run (IngestStep 1) bruteforceDatabase path' eighthThenSeven ∧
      (serverEvents sevenThenEighth.events 1).Perm (serverEvents eighthThenSeven.events 1) ∧
      HasIncident sevenThenEighth bruteforceBucket ∧
      ¬ HasIncident eighthThenSeven bruteforceBucket := by
  refine ⟨_, _, sevenThenEighth_run, eighthThenSeven_run, ?_, by decide +kernel, by decide +kernel⟩
  have swapped : (sevenFailures ++ [failureAt 8]).Perm ([failureAt 8] ++ sevenFailures) :=
    List.perm_append_comm
  exact swapped

/-- In time order the eighth failure completes the threshold. -/
theorem detection_arrival_order_in_order : HasIncident sevenThenEighth bruteforceBucket := by
  have keys : PrimaryKeys bruteforceDatabase := ⟨by decide, by decide, by decide⟩
  have active : bruteforceVersion ∈ activeRules bruteforceDatabase :=
    mem_activeRules.mpr ⟨List.mem_singleton.mpr rfl, rfl, rfl⟩
  have arrives : failureAt 8 ∈ arrived sevenFirst sevenThenEighth :=
    List.mem_map_of_mem List.mem_cons_self
  exact (detection_arrival_order 1 bruteforceDatabase keys bruteforceVersion active rfl
    bruteforceBucket.correlationHash _ _ sevenThenEighth_run).2.1 _ rfl rfl
      ⟨sevenFirst, [failureAt 8], sevenThenEighth⟩ (by simp) (failureAt 8) arrives
      ["\"203.0.113.7\""] [(["source_ip"], .str "203.0.113.7")] (by decide +kernel) rfl
      (by decide +kernel) (by decide +kernel)

end WolandGuard.Detection
