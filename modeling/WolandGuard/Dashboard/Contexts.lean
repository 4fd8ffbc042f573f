import WolandGuard.Data.Json
import WolandGuard.Data.Sha256

/-!
# Cursor contexts

What a cursor is bound to: the hash of the filters of a REST list
(`application/pagination.py`), and the route, filters, search, sort and page size
of a Dashboard list (`application/dashboard_pagination.py`).
-/

set_option autoImplicit false

namespace WolandGuard.Dashboard

open JsonValue

/-- `_utc_text`: an instant in UTC. -/
def utcText (instant : Int) : String :=
  String.ofList ((isoformat instant).toList.take ((isoformat instant).length - 6)) ++ "Z"

/-- The values of an optional column filter. -/
def ofUuid : Option Uuid → JsonValue
  | none => .null
  | some id => .str id.text

def ofInstant : Option Int → JsonValue
  | none => .null
  | some instant => .str (utcText instant)

/-- `tuple(sorted(set(values)))`. -/
def sortedSet (values : List String) : List String :=
  values.dedup.insertionSort (· ≤ ·)

/-- `normalized_filter_hash`. -/
def normalizedFilterHash (filters : List (String × JsonValue)) : String :=
  sha256Hex (canonicalValue (.obj filters))

/-! ## Dashboard contexts -/

inductive DashboardListType where
  | servers
  | incidents
  | rules
  | audit
  | evidence
  | incidentHistory
  | incidentComments
  deriving DecidableEq, Repr

namespace DashboardListType

def value : DashboardListType → String
  | .servers => "servers"
  | .incidents => "incidents"
  | .rules => "rules"
  | .audit => "audit"
  | .evidence => "evidence"
  | .incidentHistory => "incident_history"
  | .incidentComments => "incident_comments"

/-- `_SORTS`. -/
def sorts : DashboardListType → List String
  | .servers => ["name_asc", "name_desc"]
  | .incidents => ["created_asc", "created_desc"]
  | .rules => ["rule_key_asc", "rule_key_desc"]
  | .audit => ["created_asc", "created_desc"]
  | .evidence => ["linked_asc"]
  | .incidentHistory => ["version_asc"]
  | .incidentComments => ["created_desc"]

end DashboardListType

/-- `DASHBOARD_PAGE_SIZES`. -/
def dashboardPageSizes : List Nat := [25, 50, 100]

structure DashboardCursorContext where
  listType : DashboardListType
  filters : List (String × JsonValue)
  search : Option String
  sort : String
  pageSize : Nat

/-- A filter value: `None`, a text, a number, a truth value or a list of texts. -/
def isFilterValue : JsonValue → Bool
  | .null => true
  | .str _ => true
  | .int _ => true
  | .bool _ => true
  | .arr items => items.all fun
      | .str _ => true
      | _ => false
  | _ => false

/-- `validate`: the error that it raises, if any. -/
def DashboardCursorContext.validate (context : DashboardCursorContext) : Option String :=
  if !context.listType.sorts.contains context.sort then some "unsupported dashboard sort"
  else if !dashboardPageSizes.contains context.pageSize then
    some "unsupported dashboard page size"
  else if !(context.filters.all fun filter => isFilterValue filter.2) then
    some "invalid dashboard filters"
  else none

end WolandGuard.Dashboard
