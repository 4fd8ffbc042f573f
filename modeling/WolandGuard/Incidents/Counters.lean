import Mathlib.Order.Bounds.Basic
import WolandGuard.Detection.Persistence

/-!
# Evidence counters

The counters of an incident are exact: `event_count` is the number of its
evidence links, and `first_seen_at` and `last_seen_at` are the least and the
greatest occurrence time of the linked events. A match adds the links that are
missing, so the times it leaves are the union of the times that were there and
those of its evidence (`seenTimes_linkWrites`), whatever the two share.
-/

set_option autoImplicit false

namespace WolandGuard.Incidents

open Foundations Detection Outbox

/-- The occurrence times of the events linked to an incident. -/
def seenTimes (db : Database) (incidentId : Uuid) : Set Int :=
  {time | ∃ link ∈ db.linksOf incidentId, ∃ event ∈ db.events,
    event.id = link.eventId ∧ event.occurredAt = time}

/-- The occurrence times of some events. -/
def timesOf (events : List Event) : Set Int :=
  {time | ∃ event ∈ events, event.occurredAt = time}

structure CountersExact (db : Database) (incident : Incident) : Prop where
  count : incident.eventCount = (db.linksOf incident.id).length
  positive : 1 ≤ incident.eventCount
  first : IsLeast (seenTimes db incident.id) incident.firstSeenAt
  last : IsGreatest (seenTimes db incident.id) incident.lastSeenAt

/-! ## The times of the evidence -/

theorem earliest_isLeast {events : List Event} (nonempty : events ≠ []) (default : Int) :
    IsLeast (timesOf events) (earliest events default) := by
  unfold earliest
  cases least : (events.map Event.occurredAt).min? with
  | none => simp [nonempty] at least
  | some time =>
      obtain ⟨member, below⟩ := List.min?_eq_some_iff.mp least
      obtain ⟨event, event_member, rfl⟩ := List.mem_map.mp member
      refine ⟨⟨event, event_member, rfl⟩, ?_⟩
      rintro _ ⟨other, other_member, rfl⟩
      exact below _ (List.mem_map_of_mem other_member)

theorem latest_isGreatest {events : List Event} (nonempty : events ≠ []) (default : Int) :
    IsGreatest (timesOf events) (latest events default) := by
  unfold latest
  cases greatest : (events.map Event.occurredAt).max? with
  | none => simp [nonempty] at greatest
  | some time =>
      obtain ⟨member, above⟩ := List.max?_eq_some_iff.mp greatest
      obtain ⟨event, event_member, rfl⟩ := List.mem_map.mp member
      refine ⟨⟨event, event_member, rfl⟩, ?_⟩
      rintro _ ⟨other, other_member, rfl⟩
      exact above _ (List.mem_map_of_mem other_member)

/-! ## The links of a match -/

section Match

variable {db : Database} {incident : Incident} {now : Int} {trigger : Event}
variable {found : DetectionMatch} {history : List IncidentHistoryEntry}
variable {outbox : List OutboxMessage}

theorem mem_linksOf {incidentId : Uuid} {link : IncidentEvent} :
    link ∈ db.linksOf incidentId ↔ link ∈ db.incidentEvents ∧ link.incidentId = incidentId := by
  simp [Database.linksOf]

theorem mem_newLinks {incidentId : Uuid} {evidence : List Event} {link : IncidentEvent} :
    link ∈ newLinks db incidentId now evidence ↔
      ∃ event ∈ evidence, (∀ old ∈ db.linksOf incidentId, old.eventId ≠ event.id) ∧
        link = ⟨incidentId, event.id, now⟩ := by
  simp only [newLinks, List.mem_map, List.mem_filter, Bool.not_eq_true', List.any_eq_false,
    decide_eq_true_eq, and_assoc]
  refine exists_congr fun event => and_congr_right fun _ => and_congr_right fun _ => eq_comm

theorem events_linkWrites :
    (db.write (linkWrites db incident now trigger found history outbox)).events = db.events :=
  List.append_nil _

/-- The links of the incident afterwards. -/
theorem linksOf_linkWrites :
    (db.write (linkWrites db incident now trigger found history outbox)).linksOf incident.id =
      db.linksOf incident.id ++ newLinks db incident.id now found.evidence := by
  have own : (newLinks db incident.id now found.evidence).filter
      (·.incidentId = incident.id) = newLinks db incident.id now found.evidence := by
    refine List.filter_eq_self.mpr fun link member => decide_eq_true ?_
    obtain ⟨_, _, _, rfl⟩ := mem_newLinks.mp member
    rfl
  rw [Database.linksOf, Database.write_links, List.filter_append]
  exact congrArg _ own

/-- The links of every other incident stay. -/
theorem linksOf_linkWrites_of_ne {incidentId : Uuid} (different : incidentId ≠ incident.id) :
    (db.write (linkWrites db incident now trigger found history outbox)).linksOf incidentId =
      db.linksOf incidentId := by
  have none_own : (newLinks db incident.id now found.evidence).filter
      (·.incidentId = incidentId) = [] := by
    refine List.filter_eq_nil_iff.mpr fun link member => ?_
    obtain ⟨_, _, _, rfl⟩ := mem_newLinks.mp member
    simpa using different.symm
  rw [Database.linksOf, Database.write_links, List.filter_append]
  simp only [linkWrites, none_own, List.append_nil, Database.linksOf]

/-- **The times of an incident after a match are those before and those of the
evidence.** -/
theorem seenTimes_linkWrites (unique : (db.events.map Event.id).Nodup)
    (known : ∀ event ∈ found.evidence, event ∈ db.events) :
    seenTimes (db.write (linkWrites db incident now trigger found history outbox)) incident.id =
      seenTimes db incident.id ∪ timesOf found.evidence := by
  have same_event : ∀ {event other : Event}, event ∈ db.events → other ∈ db.events →
      event.id = other.id → event = other := fun member other_member same =>
    List.inj_on_of_nodup_map unique member other_member same
  ext time
  simp only [seenTimes, linksOf_linkWrites, events_linkWrites, List.mem_append, Set.mem_ofPred_eq,
    Set.mem_union, timesOf]
  constructor
  · rintro ⟨link, old | new, event, member, same, rfl⟩
    · exact .inl ⟨link, old, event, member, same, rfl⟩
    · obtain ⟨source, in_evidence, _, rfl⟩ := mem_newLinks.mp new
      obtain rfl := same_event member (known source in_evidence) same
      exact .inr ⟨event, in_evidence, rfl⟩
  · rintro (⟨link, old, event, member, same, rfl⟩ | ⟨event, in_evidence, rfl⟩)
    · exact ⟨link, .inl old, event, member, same, rfl⟩
    · by_cases linked : ∃ old ∈ db.linksOf incident.id, old.eventId = event.id
      · obtain ⟨old, old_member, same⟩ := linked
        exact ⟨old, .inl old_member, event, known event in_evidence, same.symm, rfl⟩
      · refine ⟨⟨incident.id, event.id, now⟩, .inr (mem_newLinks.mpr ⟨event, in_evidence, ?_, rfl⟩),
          event, known event in_evidence, rfl, rfl⟩
        exact fun old old_member same => linked ⟨old, old_member, same⟩

/-- **The row that a match writes has exact counters**, when the incident had
them before or is new. -/
theorem countersExact_linkWrites (unique : (db.events.map Event.id).Nodup)
    (known : ∀ event ∈ found.evidence, event ∈ db.events) (nonempty : found.evidence ≠ [])
    (base : CountersExact db incident ∨
      db.linksOf incident.id = [] ∧ incident.firstSeenAt = earliest found.evidence trigger.occurredAt ∧
        incident.lastSeenAt = latest found.evidence trigger.occurredAt) :
    CountersExact (db.write (linkWrites db incident now trigger found history outbox))
      (absorbed incident now trigger found.evidence
        ((db.linksOf incident.id).length +
          (newLinks db incident.id now found.evidence).length)) where
  count := by
    simp only [absorbed]
    rw [linksOf_linkWrites, List.length_append]
  positive := by
    simp only [absorbed]
    rcases base with exact_before | ⟨unlinked, _⟩
    · have := exact_before.positive
      rw [exact_before.count] at this
      omega
    · obtain ⟨event, in_evidence⟩ := List.exists_mem_of_ne_nil _ nonempty
      have linked : (⟨incident.id, event.id, now⟩ : IncidentEvent) ∈
          newLinks db incident.id now found.evidence :=
        mem_newLinks.mpr ⟨event, in_evidence, by simp [unlinked], rfl⟩
      have := List.length_pos_of_mem linked
      omega
  first := by
    have evidence_first := earliest_isLeast nonempty trigger.occurredAt
    simp only [absorbed]
    rw [seenTimes_linkWrites unique known]
    rcases base with exact_before | ⟨unlinked, first, _⟩
    · exact exact_before.first.union evidence_first
    · have nothing : seenTimes db incident.id = ∅ := by simp [seenTimes, unlinked]
      rw [nothing, Set.empty_union, first, min_self]
      exact evidence_first
  last := by
    have evidence_last := latest_isGreatest nonempty trigger.occurredAt
    simp only [absorbed]
    rw [seenTimes_linkWrites unique known]
    rcases base with exact_before | ⟨unlinked, _, last⟩
    · exact exact_before.last.union evidence_last
    · have nothing : seenTimes db incident.id = ∅ := by simp [seenTimes, unlinked]
      rw [nothing, Set.empty_union, last, max_self]
      exact evidence_last

end Match

end WolandGuard.Incidents
