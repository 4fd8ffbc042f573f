import WolandGuard.Foundations.Rows
import WolandGuard.Incidents.Tables

/-!
# The database

The tables that detection, incident workflow and notifications share. A
transaction writes through `Database.write`: new events, one incident row that
is put under its id, and rows appended to the other tables.
-/

set_option autoImplicit false

namespace WolandGuard

open Foundations Outbox

/-! ## Operators -/

inductive OperatorRole where
  | viewer
  | analyst
  | admin
  deriving DecidableEq, Repr

/-- An authenticated operator, detached from the database. -/
structure OperatorPrincipal where
  operatorId : Uuid
  username : String
  role : OperatorRole
  authMethodType : OperatorAuthMethodType
  authMethodId : Uuid
  deriving DecidableEq, Repr

structure OperatorIdempotencyRecord where
  operatorId : Uuid
  idempotencyKey : String
  operation : String
  resourceId : Uuid
  canonicalRequestHash : String
  responseStatus : Nat
  responseBody : JsonValue

/-! ## Tables -/

structure Database where
  events : List Event
  ruleVersions : List DetectionRuleVersion
  incidents : List Incident
  incidentEvents : List IncidentEvent
  history : List IncidentHistoryEntry
  idempotencyRecords : List OperatorIdempotencyRecord
  destinations : List NotificationDestination
  outbox : List OutboxMessage

namespace Database

def empty : Database where
  events := []
  ruleVersions := []
  incidents := []
  incidentEvents := []
  history := []
  idempotencyRecords := []
  destinations := []
  outbox := []

/-- The incident with a given id. -/
def incident? (db : Database) (incidentId : Uuid) : Option Incident :=
  rowOf Incident.id db.incidents incidentId

/-- The evidence links of an incident. -/
def linksOf (db : Database) (incidentId : Uuid) : List IncidentEvent :=
  db.incidentEvents.filter (·.incidentId = incidentId)

/-- The outbox rows of an incident. -/
def outboxOf (db : Database) (incidentId : Uuid) : List OutboxMessage :=
  db.outbox.filter (·.incidentId = incidentId)

end Database

/-! ## Writes -/

/-- The rows that one statement group of a transaction writes. -/
structure Writes where
  events : List Event
  incident : Option Incident
  links : List IncidentEvent
  history : List IncidentHistoryEntry
  outbox : List OutboxMessage

/-- The writes of an event insertion. -/
def Writes.ofEvents (events : List Event) : Writes where
  events := events
  incident := none
  links := []
  history := []
  outbox := []

/-- The tables with the rows of `writes` in place. -/
def Database.write (db : Database) (writes : Writes) : Database :=
  { db with
    events := db.events ++ writes.events
    incidents := writes.incident.elim db.incidents fun row => putRow Incident.id row db.incidents
    incidentEvents := db.incidentEvents ++ writes.links
    history := db.history ++ writes.history
    outbox := db.outbox ++ writes.outbox }

section Write

variable (db : Database) (writes : Writes)

@[simp]
theorem Database.write_events : (db.write writes).events = db.events ++ writes.events := rfl

@[simp]
theorem Database.write_ruleVersions : (db.write writes).ruleVersions = db.ruleVersions := rfl

@[simp]
theorem Database.write_links :
    (db.write writes).incidentEvents = db.incidentEvents ++ writes.links := rfl

@[simp]
theorem Database.write_destinations : (db.write writes).destinations = db.destinations := rfl

@[simp]
theorem Database.write_outbox : (db.write writes).outbox = db.outbox ++ writes.outbox := rfl

end Write

end WolandGuard
