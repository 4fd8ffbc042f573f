import WolandGuard.Foundations.Rows
import WolandGuard.Incidents.Database
import WolandGuard.Telegram.Catalog

/-!
# Telegram identities

`application/rbac.py` and `application/telegram_identity.py`: what a role may
do, and which operator a Telegram account acts for. A link is never deleted; a
revoked one is dead.
-/

set_option autoImplicit false

namespace WolandGuard.Telegram

open Foundations

/-! ## Roles -/

inductive Permission where
  | accessDashboard
  | viewIncidents
  | transitionIncidents
  | commentIncidents
  | viewAuditLog
  | manageOperators
  | manageTelegramDestinations
  | proposeIpBlock
  | approveIpBlock
  deriving DecidableEq, Repr

/-- `role_has_permission`, with the table `ROLE_PERMISSIONS`. -/
def roleHasPermission (role : OperatorRole) (permission : Permission) : Bool :=
  match role with
  | .viewer => [.viewIncidents].contains permission
  | .analyst =>
      [.accessDashboard, .viewIncidents, .transitionIncidents, .commentIncidents,
        .proposeIpBlock].contains permission
  | .admin => true

/-! ## Operators and their links -/

structure Operator where
  id : Uuid
  username : String
  role : OperatorRole
  isActive : Bool
  deriving DecidableEq, Repr

structure OperatorTelegramLink where
  id : Uuid
  operatorId : Uuid
  telegramUserId : Int
  createdAt : Int
  lastUsedAt : Option Int
  revokedAt : Option Int
  language : Option String
  deriving DecidableEq, Repr

/-- The tables of operators and links. -/
structure Directory where
  operators : List Operator
  links : List OperatorTelegramLink

inductive TelegramIdentityError where
  | invalidUserId
  | operatorDoesNotExist
  | operatorInactive
  | operatorAlreadyLinked
  | accountAlreadyLinked
  | linkDoesNotExist
  | linkAlreadyRevoked
  deriving DecidableEq, Repr

/-- `TELEGRAM_USER_ID_MAX`. -/
def telegramUserIdMax : Int := 2 ^ 53 - 1

/-- `validate_telegram_user_id` accepts the id. -/
def isTelegramUserId (value : Int) : Bool := 1 ≤ value && value ≤ telegramUserIdMax

namespace Directory

variable (directory : Directory)

def operator? (operatorId : Uuid) : Option Operator :=
  rowOf Operator.id directory.operators operatorId

/-- `_active_link_for_operator`. -/
def activeLinkForOperator (operatorId : Uuid) : Option OperatorTelegramLink :=
  directory.links.find? fun link => link.operatorId = operatorId && link.revokedAt.isNone

/-- `_active_link_for_telegram_user`. -/
def activeLinkForTelegramUser (telegramUserId : Int) : Option OperatorTelegramLink :=
  directory.links.find? fun link => link.telegramUserId = telegramUserId && link.revokedAt.isNone

/-- `link_telegram_user`. -/
def linkTelegramUser (linkId : Uuid) (now : Int) (operatorId : Uuid) (telegramUserId : Int) :
    Except TelegramIdentityError Directory :=
  if !isTelegramUserId telegramUserId then .error .invalidUserId
  else
    match directory.operator? operatorId with
    | none => .error .operatorDoesNotExist
    | some operator =>
        if !operator.isActive then .error .operatorInactive
        else if (directory.activeLinkForOperator operatorId).isSome then
          .error .operatorAlreadyLinked
        else if (directory.activeLinkForTelegramUser telegramUserId).isSome then
          .error .accountAlreadyLinked
        else
          .ok { directory with
            links := directory.links ++ [
              { id := linkId
                operatorId := operatorId
                telegramUserId := telegramUserId
                createdAt := now
                lastUsedAt := none
                revokedAt := none
                language := none }] }

/-- `revoke_telegram_link`. -/
def revokeTelegramLink (now : Int) (linkId : Uuid) : Except TelegramIdentityError Directory :=
  match rowOf OperatorTelegramLink.id directory.links linkId with
  | none => .error .linkDoesNotExist
  | some link =>
      if link.revokedAt.isSome then .error .linkAlreadyRevoked
      else if (directory.operator? link.operatorId).isNone then .error .operatorDoesNotExist
      else
        .ok { directory with
          links := updateWhere (·.id = linkId)
            (fun row => { row with revokedAt := some (max now row.createdAt) }) directory.links }

/-- The operator that an account acts for: the active one of its active
link. -/
def linkedOperator (telegramUserId : Int) : Option (OperatorTelegramLink × Operator) :=
  if !isTelegramUserId telegramUserId then none
  else
    match directory.activeLinkForTelegramUser telegramUserId with
    | none => none
    | some link =>
        match directory.operator? link.operatorId with
        | none => none
        | some operator => if operator.isActive then some (link, operator) else none

theorem linkedOperator_eq_some {directory : Directory} {telegramUserId : Int}
    {link : OperatorTelegramLink} {operator : Operator} :
    directory.linkedOperator telegramUserId = some (link, operator) ↔
      isTelegramUserId telegramUserId = true ∧
        directory.activeLinkForTelegramUser telegramUserId = some link ∧
        directory.operator? link.operatorId = some operator ∧ operator.isActive = true := by
  constructor
  · intro linked
    unfold linkedOperator at linked
    split at linked
    · cases linked
    next valid =>
      split at linked
      · cases linked
      next found =>
        split at linked
        · cases linked
        next present =>
          split at linked
          next active =>
            obtain ⟨rfl, rfl⟩ := Prod.mk.inj (Option.some.inj linked)
            exact ⟨by simpa using valid, found, present, active⟩
          · cases linked
  · rintro ⟨valid, found, present, active⟩
    simp [linkedOperator, valid, found, present, active]

/-- The principal of a linked operator. -/
def principalOf (link : OperatorTelegramLink) (operator : Operator) : OperatorPrincipal where
  operatorId := operator.id
  username := operator.username
  role := operator.role
  authMethodType := .telegram
  authMethodId := link.id

/-- `authenticate_telegram_user`, which also stamps the link. -/
def authenticateTelegramUser (now : Int) (telegramUserId : Int) :
    Option (OperatorPrincipal × Directory) :=
  (directory.linkedOperator telegramUserId).map fun (link, operator) =>
    (principalOf link operator,
      { directory with
        links := updateWhere (·.id = link.id) (fun row => { row with lastUsedAt := some now })
          directory.links })

/-- `stored_telegram_language`. -/
def storedTelegramLanguage (telegramUserId : Int) : Option Language :=
  if !isTelegramUserId telegramUserId then none
  else
    (directory.activeLinkForTelegramUser telegramUserId).bind fun link =>
      link.language.map normalizeLanguage

/-- The stored spelling of a language. -/
def languageCode : Language → String
  | .ru => "ru"
  | .en => "en"

/-- `set_telegram_language`: the directory with the language saved, if the
account is linked. -/
def setTelegramLanguage (telegramUserId : Int) (language : Language) : Option Directory :=
  if !isTelegramUserId telegramUserId then none
  else
    (directory.activeLinkForTelegramUser telegramUserId).map fun link =>
      { directory with
        links := updateWhere (·.id = link.id)
          (fun row => { row with language := some (languageCode language) }) directory.links }

end Directory

end WolandGuard.Telegram
