import WolandGuard.Foundations.Runs
import WolandGuard.Detection.Sync
import WolandGuard.Incidents.Counters
import WolandGuard.Incidents.Workflow

/-!
# The incident aggregate

What holds of every incident in every state that batches, operator
transitions, rule synchronisations and changes of the notification
destinations can reach (`AggregateInvariant`), and what stays of an incident
from one state to any later one (`Evolves`).
-/

set_option autoImplicit false

namespace WolandGuard.Incidents

open Foundations Detection Outbox

/-! ## The invariant -/

/-- The aggregate invariant. -/
structure AggregateInvariant (db : Database) : Prop where
  eventIds : (db.events.map Event.id).Nodup
  incidentIds : (db.incidents.map Incident.id).Nodup
  linkIncident : ∀ link ∈ db.incidentEvents, ∃ incident ∈ db.incidents, incident.id = link.incidentId
  linkEvent : ∀ link ∈ db.incidentEvents, ∃ event ∈ db.events, event.id = link.eventId
  outboxIncident : ∀ message ∈ db.outbox,
    ∃ incident ∈ db.incidents, incident.id = message.incidentId
  counters : ∀ incident ∈ db.incidents, CountersExact db incident
  oneActive : ∀ incident ∈ db.incidents, ∀ other ∈ db.incidents, incident.bucket = other.bucket →
    incident.status.isActive = true → other.status.isActive = true → incident = other
  destinationIds : (db.destinations.map NotificationDestination.id).Nodup

/-- What stays of an incident between two states. -/
structure Kept (before after : Database) (incident later : Incident) : Prop where
  id : later.id = incident.id
  ruleSnapshot : later.ruleSnapshot = incident.ruleSnapshot
  title : later.title = incident.title
  severity : later.severity = incident.severity
  terminal : incident.status.isActive = false →
    later = incident ∧ after.linksOf incident.id = before.linksOf incident.id
  outbox : after.outboxOf incident.id = before.outboxOf incident.id

/-- Every incident is still there, with what stays of it. -/
def Evolves (before after : Database) : Prop :=
  ∀ incident ∈ before.incidents, ∃ later ∈ after.incidents, Kept before after incident later

/-- The new incidents have one outbox row for each eligible destination. -/
def Notified (before after : Database) : Prop :=
  ∀ incident ∈ after.incidents, (∀ old ∈ before.incidents, old.id ≠ incident.id) →
    (after.outboxOf incident.id).map OutboxMessage.destinationId =
      (eligibleDestinations before.destinations incident.severity).map NotificationDestination.id

theorem Kept.refl (db : Database) (incident : Incident) : Kept db db incident incident :=
  ⟨rfl, rfl, rfl, rfl, fun _ => ⟨rfl, rfl⟩, rfl⟩

theorem Evolves.refl (db : Database) : Evolves db db := fun incident member =>
  ⟨incident, member, .refl db incident⟩

theorem Evolves.trans {first second third : Database} (left : Evolves first second)
    (right : Evolves second third) : Evolves first third := by
  intro incident member
  obtain ⟨middle, middle_member, kept⟩ := left incident member
  obtain ⟨later, later_member, kept_later⟩ := right middle middle_member
  have same_id := kept.id
  refine ⟨later, later_member, ?_, ?_, ?_, ?_, fun terminal => ?_, ?_⟩
  · exact kept_later.id.trans kept.id
  · exact kept_later.ruleSnapshot.trans kept.ruleSnapshot
  · exact kept_later.title.trans kept.title
  · exact kept_later.severity.trans kept.severity
  · obtain ⟨rfl, links⟩ := kept.terminal terminal
    obtain ⟨rfl, later_links⟩ := kept_later.terminal terminal
    exact ⟨rfl, later_links.trans links⟩
  · rw [← kept.outbox, ← same_id]
    exact kept_later.outbox

/-- A state that differs in other tables only. -/
theorem Evolves.of_eq {before after : Database} (incidents : after.incidents = before.incidents)
    (links : after.incidentEvents = before.incidentEvents) (outbox : after.outbox = before.outbox) :
    Evolves before after := fun incident member =>
  ⟨incident, incidents ▸ member, rfl, rfl, rfl, rfl,
    fun _ => ⟨rfl, by rw [Database.linksOf, Database.linksOf, links]⟩,
    by rw [Database.outboxOf, Database.outboxOf, outbox]⟩

theorem Notified.of_eq {before after : Database} (incidents : after.incidents = before.incidents) :
    Notified before after := fun incident member fresh =>
  absurd rfl (fresh incident (incidents ▸ member))

/-- The notifications of two parts of one transaction. -/
theorem Notified.trans {before middle after : Database} (first : Notified before middle)
    (second : Notified middle after) (evolves : Evolves middle after)
    (unique : (after.incidents.map Incident.id).Nodup)
    (destinations : middle.destinations = before.destinations) : Notified before after := by
  intro incident member fresh
  by_cases known : ∃ old ∈ middle.incidents, old.id = incident.id
  · obtain ⟨old, old_member, same⟩ := known
    obtain ⟨later, later_member, kept⟩ := evolves old old_member
    have same_row : later = incident :=
      List.inj_on_of_nodup_map unique later_member member (kept.id.trans same)
    have notified := first old old_member (same ▸ fresh)
    rw [← same_row, kept.severity, kept.id, kept.outbox]
    exact notified
  · rw [← destinations]
    exact second incident member fun old old_member same => known ⟨old, old_member, same⟩

/-! ## Writing a row of an incident -/

theorem mem_incidents_write {db : Database} {writes : Writes} {row incident : Incident}
    (written : writes.incident = some row) :
    incident ∈ (db.write writes).incidents ↔
      incident = row ∨ incident ∈ db.incidents ∧ incident.id ≠ row.id := by
  simp only [Database.write, written, Option.elim_some]
  exact mem_putRow

/-- Whatever id was in the table still is. -/
theorem exists_incident_write {db : Database} {writes : Writes} {row : Incident}
    (written : writes.incident = some row) {incidentId : Uuid}
    (known : ∃ incident ∈ db.incidents, incident.id = incidentId) :
    ∃ incident ∈ (db.write writes).incidents, incident.id = incidentId := by
  obtain ⟨incident, member, rfl⟩ := known
  by_cases same : incident.id = row.id
  · exact ⟨row, (mem_incidents_write written).mpr (.inl rfl), same.symm⟩
  · exact ⟨incident, (mem_incidents_write written).mpr (.inr ⟨member, same⟩), rfl⟩

/-- Exact counters read the row, its links and the events alone. -/
theorem CountersExact.congr {db after : Database} {incident : Incident}
    (counters : CountersExact db incident) (links : after.linksOf incident.id = db.linksOf incident.id)
    (times : seenTimes after incident.id = seenTimes db incident.id) :
    CountersExact after incident :=
  ⟨links ▸ counters.count, counters.positive, times ▸ counters.first, times ▸ counters.last⟩

theorem seenTimes_congr {db after : Database} {incidentId : Uuid}
    (links : after.linksOf incidentId = db.linksOf incidentId) (events : after.events = db.events) :
    seenTimes after incidentId = seenTimes db incidentId := by
  rw [seenTimes, seenTimes, links, events]

/-! ## A match -/

/-- The incident a match is about: an active one of the bucket, or a new one
with its notifications. -/
inductive MatchBase (db : Database) (trigger : Event) (found : DetectionMatch) (base : Incident)
    (outbox : List OutboxMessage) : Prop where
  | active (member : base ∈ db.incidents) (active : base.status.isActive = true)
      (silent : outbox = [])
  | fresh (absent : ∀ other ∈ db.incidents, other.id ≠ base.id ∧
        (other.bucket = base.bucket → other.status.isActive = false))
      (first : base.firstSeenAt = earliest found.evidence trigger.occurredAt)
      (last : base.lastSeenAt = latest found.evidence trigger.occurredAt)
      (notified : outbox.map OutboxMessage.destinationId =
        (eligibleDestinations db.destinations base.severity).map NotificationDestination.id)
      (own : ∀ message ∈ outbox, message.incidentId = base.id)

theorem persistMatch_base {draws : Draws} {maxAttempts : Nat} {db : Database}
    {stored : DetectionRuleVersion} {trigger : Event} {bucket : Bucket} {found : DetectionMatch}
    {writes : Writes}
    (persisted : persistMatch draws maxAttempts db stored trigger bucket found = .ok writes) :
    ∃ base now history outbox, writes = linkWrites db base now trigger found history outbox ∧
      MatchBase db trigger found base outbox := by
  rcases persistMatch_cases persisted with
    ⟨incident, active, rfl⟩ | ⟨incident, history, outbox, rfl, _, fresh, enqueued, _, rfl⟩
  · obtain ⟨member, _, _, is_active⟩ := activeIncident_spec active
    exact ⟨incident, _, [], [], rfl, .active member is_active rfl⟩
  · obtain ⟨notified, own⟩ := enqueue_spec enqueued
    exact ⟨_, _, history, outbox, rfl, .fresh fresh rfl rfl notified own⟩

section Match

variable {db : Database} {trigger : Event} {found : DetectionMatch} {base : Incident} {now : Int}
variable {history : List IncidentHistoryEntry} {outbox : List OutboxMessage}

/-- The row that a match writes. -/
abbrev matchRow (db : Database) (base : Incident) (now : Int) (trigger : Event)
    (found : DetectionMatch) : Incident :=
  absorbed base now trigger found.evidence
    ((db.linksOf base.id).length + (newLinks db base.id now found.evidence).length)

theorem mem_incidents_match {incident : Incident} :
    incident ∈ (db.write (linkWrites db base now trigger found history outbox)).incidents ↔
      incident = matchRow db base now trigger found ∨
        incident ∈ db.incidents ∧ incident.id ≠ base.id :=
  mem_incidents_write rfl

theorem outboxOf_match (silent_or_own : ∀ message ∈ outbox, message.incidentId = base.id)
    {incidentId : Uuid} (different : incidentId ≠ base.id) :
    (db.write (linkWrites db base now trigger found history outbox)).outboxOf incidentId =
      db.outboxOf incidentId := by
  have none_own : outbox.filter (·.incidentId = incidentId) = [] := by
    refine List.filter_eq_nil_iff.mpr fun message member => ?_
    simpa [silent_or_own message member] using different.symm
  rw [Database.outboxOf, Database.write_outbox, List.filter_append]
  simp only [linkWrites, none_own, List.append_nil, Database.outboxOf]

theorem MatchBase.own (matched : MatchBase db trigger found base outbox) :
    ∀ message ∈ outbox, message.incidentId = base.id := by
  cases matched with
  | active _ _ silent => simp [silent]
  | fresh _ _ _ _ own => exact own

/-- **A match keeps the aggregate invariant.** -/
theorem AggregateInvariant.write_match (inv : AggregateInvariant db)
    (matched : MatchBase db trigger found base outbox) (nonempty : found.evidence ≠ [])
    (known : ∀ event ∈ found.evidence, event ∈ db.events) :
    AggregateInvariant (db.write (linkWrites db base now trigger found history outbox)) where
  eventIds := by
    rw [events_linkWrites]
    exact inv.eventIds
  incidentIds := nodup_putRow inv.incidentIds
  linkIncident := by
    intro link member
    rcases List.mem_append.mp member with old | new
    · exact exists_incident_write rfl (inv.linkIncident link old)
    · obtain ⟨_, _, _, rfl⟩ := mem_newLinks.mp new
      exact ⟨_, mem_incidents_match.mpr (.inl rfl), rfl⟩
  linkEvent := by
    intro link member
    rw [events_linkWrites]
    rcases List.mem_append.mp member with old | new
    · exact inv.linkEvent link old
    · obtain ⟨event, in_evidence, _, rfl⟩ := mem_newLinks.mp new
      exact ⟨event, known event in_evidence, rfl⟩
  outboxIncident := by
    intro message member
    rcases List.mem_append.mp member with old | new
    · exact exists_incident_write rfl (inv.outboxIncident message old)
    · exact ⟨_, mem_incidents_match.mpr (.inl rfl), (matched.own message new).symm⟩
  counters := by
    intro incident member
    rcases mem_incidents_match.mp member with rfl | ⟨old, different⟩
    · refine countersExact_linkWrites inv.eventIds known nonempty ?_
      cases matched with
      | active base_member => exact .inl (inv.counters base base_member)
      | fresh absent first last =>
          refine .inr ⟨List.filter_eq_nil_iff.mpr fun link link_member => ?_, first, last⟩
          obtain ⟨owner, owner_member, same⟩ := inv.linkIncident link link_member
          simpa [← same] using (absent owner owner_member).1
    · exact (inv.counters incident old).congr (linksOf_linkWrites_of_ne different)
        (seenTimes_congr (linksOf_linkWrites_of_ne different) events_linkWrites)
  oneActive := by
    have alone : ∀ other ∈ db.incidents, other.id ≠ base.id → other.bucket = base.bucket →
        base.status.isActive = true → other.status.isActive = true → False := by
      intro other other_member different same_bucket base_active other_active
      cases matched with
      | active base_member _ _ =>
          exact different (congrArg Incident.id
            (inv.oneActive other other_member base base_member same_bucket other_active base_active))
      | fresh absent =>
          have inactive := (absent other other_member).2 same_bucket
          simp [other_active] at inactive
    intro incident member other other_member same_bucket active other_active
    rcases mem_incidents_match.mp member with rfl | ⟨old, different⟩ <;>
      rcases mem_incidents_match.mp other_member with rfl | ⟨other_old, other_different⟩
    · rfl
    · exact (alone other other_old other_different same_bucket.symm active other_active).elim
    · exact (alone incident old different same_bucket other_active active).elim
    · exact inv.oneActive incident old other other_old same_bucket active other_active
  destinationIds := inv.destinationIds

/-- **A match leaves every other incident as it was** and keeps the frozen
columns of its own. -/
theorem MatchBase.evolves (matched : MatchBase db trigger found base outbox)
    (inv : AggregateInvariant db) :
    Evolves db (db.write (linkWrites db base now trigger found history outbox)) := by
  intro incident member
  by_cases same : incident.id = base.id
  · cases matched with
    | active base_member base_active silent =>
        obtain rfl := List.inj_on_of_nodup_map inv.incidentIds member base_member same
        refine ⟨_, mem_incidents_match.mpr (.inl rfl), rfl, rfl, rfl, rfl, fun terminal => ?_, ?_⟩
        · simp [base_active] at terminal
        · simp [Database.outboxOf, linkWrites, silent]
    | fresh absent => exact absurd same (absent incident member).1
  · exact ⟨incident, mem_incidents_match.mpr (.inr ⟨member, same⟩), rfl, rfl, rfl, rfl,
      fun _ => ⟨rfl, linksOf_linkWrites_of_ne same⟩, outboxOf_match matched.own same⟩

/-- **A match notifies the eligible destinations of a new incident.** -/
theorem MatchBase.notified (matched : MatchBase db trigger found base outbox)
    (inv : AggregateInvariant db) :
    Notified db (db.write (linkWrites db base now trigger found history outbox)) := by
  intro incident member fresh_id
  rcases mem_incidents_match.mp member with rfl | ⟨old, _⟩
  · cases matched with
    | active base_member => exact absurd rfl (fresh_id base base_member)
    | fresh absent _ _ notified own =>
        have none_before : db.outbox.filter (·.incidentId = base.id) = [] := by
          refine List.filter_eq_nil_iff.mpr fun message message_member => ?_
          obtain ⟨owner, owner_member, same⟩ := inv.outboxIncident message message_member
          simpa [← same] using (absent owner owner_member).1
        have all_own : outbox.filter (·.incidentId = base.id) = outbox :=
          List.filter_eq_self.mpr fun message message_member =>
            decide_eq_true (own message message_member)
        have after : (db.write (linkWrites db base now trigger found history outbox)).outboxOf
            base.id = outbox := by
          rw [Database.outboxOf, Database.write_outbox, List.filter_append, none_before]
          exact all_own
        exact (congrArg _ after).trans notified
  · exact absurd rfl (fresh_id incident old)

end Match

/-! ## The operations -/

/-- What one operation guarantees. -/
structure Sound (before after : Database) : Prop where
  invariant : AggregateInvariant after
  evolves : Evolves before after
  notified : Notified before after

/-- An operation that leaves the tables of incidents alone. -/
theorem Sound.of_eq {before after : Database} (inv : AggregateInvariant before)
    (events : after.events = before.events) (incidents : after.incidents = before.incidents)
    (links : after.incidentEvents = before.incidentEvents) (outbox : after.outbox = before.outbox)
    (destinations : (after.destinations.map NotificationDestination.id).Nodup) :
    Sound before after where
  invariant :=
    { eventIds := events ▸ inv.eventIds
      incidentIds := incidents ▸ inv.incidentIds
      linkIncident := by
        rw [links, incidents]
        exact inv.linkIncident
      linkEvent := by
        rw [links, events]
        exact inv.linkEvent
      outboxIncident := by
        rw [outbox, incidents]
        exact inv.outboxIncident
      counters := by
        intro incident member
        have same_links : after.linksOf incident.id = before.linksOf incident.id := by
          rw [Database.linksOf, Database.linksOf, links]
        exact (inv.counters incident (incidents ▸ member)).congr same_links
          (seenTimes_congr same_links events)
      oneActive := by
        rw [incidents]
        exact inv.oneActive
      destinationIds := destinations }
  evolves := .of_eq incidents links outbox
  notified := .of_eq incidents

theorem Sound.refl {db : Database} (inv : AggregateInvariant db) : Sound db db :=
  .of_eq inv rfl rfl rfl rfl inv.destinationIds

/-- The idempotency records are no part of an incident. -/
theorem Sound.withRecords {before after : Database} (sound : Sound before after)
    (records : List OperatorIdempotencyRecord) :
    Sound before { after with idempotencyRecords := records } := by
  have same : Sound after { after with idempotencyRecords := records } :=
    .of_eq sound.invariant rfl rfl rfl rfl sound.invariant.destinationIds
  exact ⟨same.invariant, sound.evolves.trans same.evolves, sound.notified⟩

section Transition

variable {db : Database} {historyId : Uuid} {now : Int} {request : TransitionRequest}
variable {incident : Incident}

theorem mem_incidents_transition {other : Incident} :
    other ∈ (db.write (transitionWrites historyId now request incident)).incidents ↔
      other = transitioned incident request.transition.targetStatus now ∨
        other ∈ db.incidents ∧ other.id ≠ incident.id :=
  mem_incidents_write rfl

theorem events_transition :
    (db.write (transitionWrites historyId now request incident)).events = db.events :=
  List.append_nil _

theorem links_transition :
    (db.write (transitionWrites historyId now request incident)).incidentEvents =
      db.incidentEvents :=
  List.append_nil _

theorem outbox_transition :
    (db.write (transitionWrites historyId now request incident)).outbox = db.outbox :=
  List.append_nil _

/-- The counters of a row whose evidence columns are those of another one. -/
theorem CountersExact.transition (counters : CountersExact db incident) (other : Incident)
    (same : other.id = incident.id ∧ other.eventCount = incident.eventCount ∧
      other.firstSeenAt = incident.firstSeenAt ∧ other.lastSeenAt = incident.lastSeenAt) :
    CountersExact (db.write (transitionWrites historyId now request incident)) other := by
  have links : (db.write (transitionWrites historyId now request incident)).linksOf other.id =
      db.linksOf incident.id := by
    rw [Database.linksOf, links_transition, same.1, Database.linksOf]
  have times : seenTimes (db.write (transitionWrites historyId now request incident)) other.id =
      seenTimes db incident.id := by
    rw [seenTimes, links, events_transition, seenTimes]
  obtain ⟨_, count, first, last⟩ := same
  exact
    { count := by rw [count, links, counters.count]
      positive := count ▸ counters.positive
      first := by
        rw [first, times]
        exact counters.first
      last := by
        rw [last, times]
        exact counters.last }

/-- **A transition keeps the aggregate invariant.** -/
theorem AggregateInvariant.write_transition (inv : AggregateInvariant db)
    (member : incident ∈ db.incidents) (active : incident.status.isActive = true) :
    AggregateInvariant (db.write (transitionWrites historyId now request incident)) where
  eventIds := by
    rw [events_transition]
    exact inv.eventIds
  incidentIds := nodup_putRow inv.incidentIds
  linkIncident := by
    rw [links_transition]
    exact fun link link_member => exists_incident_write rfl (inv.linkIncident link link_member)
  linkEvent := by
    rw [links_transition, events_transition]
    exact inv.linkEvent
  outboxIncident := by
    rw [outbox_transition]
    exact fun message message_member =>
      exists_incident_write rfl (inv.outboxIncident message message_member)
  counters := by
    intro other other_member
    rcases mem_incidents_transition.mp other_member with rfl | ⟨old, _⟩
    · exact (inv.counters incident member).transition _ ⟨rfl, rfl, rfl, rfl⟩
    · refine (inv.counters other old).congr ?_ (seenTimes_congr ?_ events_transition) <;>
        rw [Database.linksOf, links_transition, Database.linksOf]
  oneActive := by
    have alone : ∀ other ∈ db.incidents, other.id ≠ incident.id →
        other.bucket = incident.bucket → other.status.isActive = true → False :=
      fun other other_member different same is_active => different (congrArg Incident.id
        (inv.oneActive other other_member incident member same is_active active))
    intro first first_member second second_member same first_active second_active
    rcases mem_incidents_transition.mp first_member with rfl | ⟨first_old, first_other⟩ <;>
      rcases mem_incidents_transition.mp second_member with rfl | ⟨second_old, second_other⟩
    · rfl
    · exact (alone second second_old second_other same.symm second_active).elim
    · exact (alone first first_old first_other same first_active).elim
    · exact inv.oneActive first first_old second second_old same first_active second_active
  destinationIds := inv.destinationIds

/-- A transition of an active incident leaves the terminal ones alone. -/
theorem Evolves.of_transition (inv : AggregateInvariant db) (member : incident ∈ db.incidents)
    (active : incident.status.isActive = true) :
    Evolves db (db.write (transitionWrites historyId now request incident)) := by
  have links : ∀ incidentId, (db.write (transitionWrites historyId now request incident)).linksOf
      incidentId = db.linksOf incidentId := fun _ => by
    rw [Database.linksOf, links_transition, Database.linksOf]
  have outbox : ∀ incidentId, (db.write (transitionWrites historyId now request incident)).outboxOf
      incidentId = db.outboxOf incidentId := fun _ => by
    rw [Database.outboxOf, outbox_transition, Database.outboxOf]
  intro other other_member
  by_cases same : other.id = incident.id
  · obtain rfl := List.inj_on_of_nodup_map inv.incidentIds other_member member same
    refine ⟨_, mem_incidents_transition.mpr (.inl rfl), rfl, rfl, rfl, rfl, fun terminal => ?_,
      outbox _⟩
    simp [active] at terminal
  · exact ⟨other, mem_incidents_transition.mpr (.inr ⟨other_member, same⟩), rfl, rfl, rfl, rfl,
      fun _ => ⟨rfl, links _⟩, outbox _⟩

end Transition

/-- **A transition changes the status, the version and the time of its incident
and nothing else.** -/
theorem Sound.transition {db : Database} (inv : AggregateInvariant db) (historyId : Uuid)
    (now : Int) (request : TransitionRequest) :
    Sound db (transitionIncident historyId now db request).1 := by
  rcases transitionIncident_cases historyId now db request with
    ⟨records, after, _⟩ | ⟨incident, records, applies, after⟩
  · rw [after]
    exact (Sound.refl inv).withRecords records
  · rw [after]
    have member := (rowOf_mem applies.found).1
    have active := isActive_of_allowed applies.allowed
    have written : Sound db (db.write (transitionWrites historyId now request incident)) :=
      { invariant := inv.write_transition member active
        evolves := .of_transition inv member active
        notified := by
          intro other other_member fresh
          rcases mem_incidents_transition.mp other_member with rfl | ⟨old, _⟩
          · exact absurd rfl (fresh incident member)
          · exact absurd rfl (fresh other old) }
    exact written.withRecords records

/-! ## Ingestion -/

/-- New events do not touch the times of an incident. -/
theorem seenTimes_ofEvents {db : Database} {inserted : List Event} {incidentId : Uuid}
    (unique : ((db.events ++ inserted).map Event.id).Nodup)
    (linkEvent : ∀ link ∈ db.incidentEvents, ∃ event ∈ db.events, event.id = link.eventId) :
    seenTimes (db.write (.ofEvents inserted)) incidentId = seenTimes db incidentId := by
  have links : (db.write (.ofEvents inserted)).linksOf incidentId = db.linksOf incidentId :=
    congrArg (List.filter _) (List.append_nil _)
  have events : (db.write (.ofEvents inserted)).events = db.events ++ inserted := rfl
  ext time
  simp only [seenTimes, links, events, Set.mem_ofPred_eq]
  constructor
  · rintro ⟨link, member, event, event_member, same, rfl⟩
    obtain ⟨old, old_member, old_same⟩ := linkEvent link (mem_linksOf.mp member).1
    have is_old : event = old := List.inj_on_of_nodup_map unique event_member
      (List.mem_append_left _ old_member) (same.trans old_same.symm)
    exact ⟨link, member, old, old_member, old_same, is_old ▸ rfl⟩
  · rintro ⟨link, member, event, event_member, same, rfl⟩
    exact ⟨link, member, event, List.mem_append_left _ event_member, same, rfl⟩

/-- The insertion of a batch. -/
theorem Sound.insert {db : Database} (inv : AggregateInvariant db) {inserted : List Event}
    (unique : ((db.events ++ inserted).map Event.id).Nodup) :
    Sound db (db.write (.ofEvents inserted)) := by
  have links : (db.write (.ofEvents inserted)).incidentEvents = db.incidentEvents :=
    List.append_nil _
  have outbox : (db.write (.ofEvents inserted)).outbox = db.outbox := List.append_nil _
  refine ⟨?_, .of_eq rfl links outbox, .of_eq rfl⟩
  exact
    { eventIds := unique
      incidentIds := inv.incidentIds
      linkIncident := by
        rw [links]
        exact inv.linkIncident
      linkEvent := by
        rw [links]
        intro link member
        obtain ⟨event, event_member, same⟩ := inv.linkEvent link member
        exact ⟨event, List.mem_append_left _ event_member, same⟩
      outboxIncident := by
        rw [outbox]
        exact inv.outboxIncident
      counters := fun incident member =>
        (inv.counters incident member).congr (congrArg (List.filter _) links)
          (seenTimes_ofEvents unique inv.linkEvent)
      oneActive := inv.oneActive
      destinationIds := inv.destinationIds }

/-- **A run of the engine is sound**, over whatever events it is triggered
by. -/
theorem Sound.runTurns {draws : Draws} {maxAttempts : Nat}
    {items : List (Event × DetectionRuleVersion)} {db finish : Database}
    (ran : runTurns draws maxAttempts items db = .ok finish) (inv : AggregateInvariant db)
    (stored : ∀ item ∈ items, item.1 ∈ db.events) : Sound db finish := by
  have kept : ∀ (now : Database) (trigger : Event) (version : DetectionRuleVersion)
      (correlation : Correlation) (found : DetectionMatch) (writes : Writes),
      (trigger, version) ∈ items →
      (Sound db now ∧ now.events = db.events ∧ now.destinations = db.destinations) →
      TurnMatches now.events trigger version correlation found →
      persistMatch draws maxAttempts now version trigger (bucketOf version trigger correlation)
        found = .ok writes →
      Sound db (now.write writes) ∧ (now.write writes).events = db.events ∧
        (now.write writes).destinations = db.destinations := by
    rintro now trigger version correlation found writes member ⟨sound, events, destinations⟩ turn
      persisted
    obtain ⟨base, at_time, history, outbox, rfl, matched⟩ := persistMatch_base persisted
    have evidence := evaluateRule_evidence turn.evaluates
    have known : ∀ event ∈ found.evidence, event ∈ now.events := by
      intro event in_evidence
      have trigger_stored : trigger ∈ now.events := events ▸ stored _ member
      rcases evidence.known event in_evidence with rfl | in_history
      · exact trigger_stored
      · exact (loadHistory_subset in_history).elim (fun same => same ▸ trigger_stored) id
    have invariant : AggregateInvariant
        (now.write (linkWrites now base at_time trigger found history outbox)) :=
      sound.invariant.write_match matched evidence.nonempty known
    have evolves : Evolves now
        (now.write (linkWrites now base at_time trigger found history outbox)) :=
      matched.evolves sound.invariant
    refine ⟨⟨invariant, sound.evolves.trans evolves, ?_⟩, events_linkWrites.trans events,
      destinations⟩
    exact sound.notified.trans (matched.notified sound.invariant) evolves invariant.incidentIds
      destinations
  exact (runTurns_invariant kept ran ⟨.refl inv, rfl, rfl⟩).1

/-- **An ingestion is sound, whether it commits or rolls back.** -/
theorem Sound.ingest {db : Database} (inv : AggregateInvariant db) (draws : Draws)
    (maxAttempts : Nat) (serverId : Uuid) (now : Int) (batch : List NormalizedEventV1) :
    Sound db ((ingestEvents draws maxAttempts serverId now db batch).toOption.getD db) := by
  cases result : ingestEvents draws maxAttempts serverId now db batch with
  | error failure => exact .refl inv
  | ok finish =>
      unfold ingestEvents at result
      split at result
      · cases result
      next inserted batch_inserted =>
        have inserted_sound :=
          Sound.insert inv ((insertEventBatch_spec batch_inserted).2 inv.eventIds)
        have run_sound := Sound.runTurns result inserted_sound.invariant fun item member => by
          obtain ⟨trigger, version⟩ := item
          exact List.mem_append_right _ (mem_turns.mp member).1
        refine ⟨run_sound.invariant, inserted_sound.evolves.trans run_sound.evolves, ?_⟩
        exact inserted_sound.notified.trans run_sound.notified run_sound.evolves
          run_sound.invariant.incidentIds rfl

end WolandGuard.Incidents
