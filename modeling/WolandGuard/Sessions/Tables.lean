import WolandGuard.Data.Sha256
import WolandGuard.Foundations.Rows
import WolandGuard.Incidents.Audit
import WolandGuard.Telegram.Identity

/-!
# Keys and web sessions

API keys of operators and the browser sessions that are opened with them:
`operator_keys.py` and the rows that `operators.py` and `web_sessions.py`
compute. The CHECK constraints of the two tables are predicates on their rows.
-/

set_option autoImplicit false

namespace WolandGuard.Sessions

open Foundations Incidents Telegram

/-! ## Tokens -/

/-- A SHA-256 digest. -/
abbrev Digest := List Sha256.Word

/-- `octet_length` of a digest. -/
def octetLength (digest : Digest) : Nat := 4 * digest.length

theorem octetLength_digest (message : List Nat) : octetLength (Sha256.digest message) = 32 := by
  rw [octetLength, Sha256.digest_length]

/-- The number of a character in the URL-safe alphabet of base 64. -/
def base64Value (char : Char) : Option Nat :=
  if char.isUpper then some (char.toNat - 'A'.toNat)
  else if char.isLower then some (char.toNat - 'a'.toNat + 26)
  else if char.isDigit then some (char.toNat - '0'.toNat + 52)
  else if char = '-' then some 62
  else if char = '_' then some 63
  else none

/-- `_decode_token`: 32 bytes in 43 characters, whose last two bits are zero. -/
def decodeToken (token : String) : Option (List Nat) :=
  if token.length ≠ 43 then none
  else
    (token.toList.mapM base64Value).bind fun values =>
      let number := IpBlocks.spelled 64 values
      if number % 4 ≠ 0 then none
      else some ((List.range 32).map fun place => number / 4 / 256 ^ (31 - place) % 256)

/-- `web_token_digest`. -/
def webTokenDigest (token : String) : Option Digest :=
  (decodeToken token).map Sha256.digest

theorem octetLength_webTokenDigest {token : String} {digest : Digest}
    (digested : webTokenDigest token = some digest) : octetLength digest = 32 := by
  obtain ⟨message, _, rfl⟩ := Option.map_eq_some_iff.mp digested
  exact octetLength_digest message

/-- `_parse_token`: the public id and the secret of a key. -/
def parseToken (token : String) : Option (String × String) :=
  match token.toList with
  | 'w' :: 'g' :: 'o' :: 'k' :: '_' :: body =>
      let publicId := body.take 16
      match body.drop 16 with
      | '.' :: secret =>
          if secret.length = 43 ∧ (publicId ++ secret).all (fun char => (base64Value char).isSome) then
            some (String.ofList publicId, String.ofList secret)
          else none
      | _ => none
  | _ => none

/-- `_hash_secret`. -/
def hashSecret (secret : String) : Digest := Sha256.digest (utf8 secret)

/-! ## Rows -/

structure OperatorApiKey where
  id : Uuid
  operatorId : Uuid
  publicId : String
  secretHash : Digest
  rotatedFromId : Option Uuid
  createdAt : Int
  lastUsedAt : Option Int
  expiresAt : Option Int
  revokedAt : Option Int
  deriving DecidableEq, Repr

structure OperatorWebSession where
  id : Uuid
  operatorId : Uuid
  authenticatedByApiKeyId : Uuid
  tokenDigest : Digest
  csrfTokenDigest : Digest
  createdAt : Int
  lastSeenAt : Int
  idleExpiresAt : Int
  absoluteExpiresAt : Int
  revokedAt : Option Int
  updatedAt : Int
  deriving DecidableEq, Repr

/-- The CHECK constraints of `operator_api_keys`. -/
structure OperatorApiKey.Checked (key : OperatorApiKey) : Prop where
  secretHashLength : octetLength key.secretHash = 32
  expiryAfterCreation : ∀ expiry ∈ key.expiresAt, key.createdAt < expiry
  revocationNotBeforeCreation : ∀ instant ∈ key.revokedAt, key.createdAt ≤ instant

instance (key : OperatorApiKey) : Decidable key.Checked :=
  decidable_of_iff
    (octetLength key.secretHash = 32 ∧ (∀ expiry ∈ key.expiresAt, key.createdAt < expiry) ∧
      ∀ instant ∈ key.revokedAt, key.createdAt ≤ instant)
    ⟨fun ⟨length, expiry, revocation⟩ => ⟨length, expiry, revocation⟩,
      fun checked => ⟨checked.1, checked.2, checked.3⟩⟩

/-- The CHECK constraints of `operator_web_sessions`. -/
structure OperatorWebSession.Checked (session : OperatorWebSession) : Prop where
  tokenDigestLength : octetLength session.tokenDigest = 32
  csrfTokenDigestLength : octetLength session.csrfTokenDigest = 32
  lastSeenNotBeforeCreation : session.createdAt ≤ session.lastSeenAt
  idleExpiryAfterLastSeen : session.lastSeenAt < session.idleExpiresAt
  idleNotAfterAbsoluteExpiry : session.idleExpiresAt ≤ session.absoluteExpiresAt
  absoluteExpiryAfterCreation : session.createdAt < session.absoluteExpiresAt
  updatedNotBeforeCreation : session.createdAt ≤ session.updatedAt
  revocationNotBeforeCreation : ∀ instant ∈ session.revokedAt, session.createdAt ≤ instant

instance (session : OperatorWebSession) : Decidable session.Checked :=
  decidable_of_iff
    ((octetLength session.tokenDigest = 32 ∧ octetLength session.csrfTokenDigest = 32 ∧
      session.createdAt ≤ session.lastSeenAt) ∧
      (session.lastSeenAt < session.idleExpiresAt ∧
        session.idleExpiresAt ≤ session.absoluteExpiresAt ∧
        session.createdAt < session.absoluteExpiresAt) ∧
      session.createdAt ≤ session.updatedAt ∧
      ∀ instant ∈ session.revokedAt, session.createdAt ≤ instant)
    ⟨fun ⟨⟨a, b, c⟩, ⟨d, e, f⟩, g, h⟩ => ⟨a, b, c, d, e, f, g, h⟩,
      fun checked => ⟨⟨checked.1, checked.2, checked.3⟩, ⟨checked.4, checked.5, checked.6⟩,
        checked.7, checked.8⟩⟩

/-- The rows that the operations read and write. -/
structure IdentityTables where
  operators : List Operator
  keys : List OperatorApiKey
  sessions : List OperatorWebSession
  auditLog : List AuditLogEntry

namespace IdentityTables

/-- The tables before anyone has a key. -/
def installed : IdentityTables where
  operators := []
  keys := []
  sessions := []
  auditLog := []

variable (tables : IdentityTables)

def operator? (operatorId : Uuid) : Option Operator := rowOf Operator.id tables.operators operatorId

def key? (keyId : Uuid) : Option OperatorApiKey := rowOf OperatorApiKey.id tables.keys keyId

def session? (sessionId : Uuid) : Option OperatorWebSession :=
  rowOf OperatorWebSession.id tables.sessions sessionId

/-- The ids of the sessions that a key has established. -/
def sessionsOf (keyId : Uuid) : List Uuid :=
  (tables.sessions.filter (·.authenticatedByApiKeyId = keyId)).map OperatorWebSession.id

end IdentityTables

/-! ## Settings and requests -/

/-- The `web_session_*` settings. -/
structure WebSessionSettings where
  idleSeconds : Nat
  absoluteSeconds : Nat
  touchIntervalSeconds : Nat
  idleSeconds_pos : 0 < idleSeconds
  absoluteSeconds_pos : 0 < absoluteSeconds
  touchIntervalSeconds_pos : 0 < touchIntervalSeconds

/-- The defaults of the `web_session_*` settings. -/
def WebSessionSettings.defaults : WebSessionSettings where
  idleSeconds := 1800
  absoluteSeconds := 43200
  touchIntervalSeconds := 300
  idleSeconds_pos := Nat.succ_pos 1799
  absoluteSeconds_pos := Nat.succ_pos 43199
  touchIntervalSeconds_pos := Nat.succ_pos 299

/-- The result of an authentication, detached from the database. -/
structure AuthenticatedWebSession where
  principal : OperatorPrincipal
  sessionId : Uuid
  csrfTokenDigest : Digest
  deriving DecidableEq, Repr

/-- A new key: its id, its public id and its secret. -/
structure KeyMaterial where
  keyId : Uuid
  publicId : String
  secret : String
  deriving DecidableEq, Repr

/-- A login through the dashboard, with the tokens and ids drawn for it. -/
structure LoginRequest where
  credential : String
  requestId : String
  sessionId : Uuid
  sessionToken : String
  csrfToken : String
  auditId : Uuid
  now : Int
  deriving DecidableEq, Repr

/-- A request with a session cookie. A request that changes something is
authenticated without a touch. -/
structure AuthenticateRequest where
  token : String
  requestId : String
  touch : Bool
  now : Int
  deriving DecidableEq, Repr

/-- The transaction of a request that changes something. -/
structure MutationRequest where
  authenticated : AuthenticatedWebSession
  sessionToken : String
  requiredPermission : Permission
  requestId : String
  now : Int
  deriving DecidableEq, Repr

structure LogoutRequest where
  authenticated : AuthenticatedWebSession
  requestId : String
  auditId : Uuid
  now : Int
  deriving DecidableEq, Repr

structure IssueRequest where
  operatorId : Uuid
  material : KeyMaterial
  expiresAt : Option Int
  now : Int
  deriving DecidableEq, Repr

structure RotateRequest where
  keyId : Uuid
  material : KeyMaterial
  expiresAt : Option Int
  now : Int
  deriving DecidableEq, Repr

structure RevokeRequest where
  keyId : Uuid
  now : Int
  deriving DecidableEq, Repr

/-! ## Computed rows -/

/-- `_authenticate_operator` on the row of a key and the row of its operator. -/
def credentialIsUsable (publicId secret : String) (now : Int) (key : OperatorApiKey)
    (operator : Operator) : Bool :=
  (publicId == key.publicId && hashSecret secret == key.secretHash) && operator.isActive &&
    key.revokedAt.isNone && key.expiresAt.all (now < ·)

def keyPrincipal (key : OperatorApiKey) (operator : Operator) : OperatorPrincipal where
  operatorId := operator.id
  username := operator.username
  role := operator.role
  authMethodType := .operatorApiKey
  authMethodId := key.id

def sessionPrincipal (session : OperatorWebSession) (operator : Operator) : OperatorPrincipal where
  operatorId := operator.id
  username := operator.username
  role := operator.role
  authMethodType := .webSession
  authMethodId := session.id

section Rows

variable (settings : WebSessionSettings)

/-- The end of a session that is opened now. -/
def absoluteExpiry (now : Int) (key : OperatorApiKey) : Int :=
  match key.expiresAt with
  | none => now + seconds settings.absoluteSeconds
  | some expiry => min (now + seconds settings.absoluteSeconds) expiry

/-- The row of `create_operator_web_session`. -/
def newWebSession (request : LoginRequest) (key : OperatorApiKey) (operator : Operator)
    (tokenDigest csrfTokenDigest : Digest) : OperatorWebSession :=
  let absoluteExpiresAt := absoluteExpiry settings request.now key
  { id := request.sessionId
    operatorId := operator.id
    authenticatedByApiKeyId := key.id
    tokenDigest := tokenDigest
    csrfTokenDigest := csrfTokenDigest
    createdAt := request.now
    lastSeenAt := request.now
    idleExpiresAt := min (request.now + seconds settings.idleSeconds) absoluteExpiresAt
    absoluteExpiresAt := absoluteExpiresAt
    revokedAt := none
    updatedAt := request.now }

/-- `_authenticate_web_session`: whether a session and its operator are usable. -/
def isUsable (now : Int) (session : OperatorWebSession) (operator : Operator) : Bool :=
  session.revokedAt.isNone && now < session.idleExpiresAt && now < session.absoluteExpiresAt &&
    operator.isActive

/-- A touch is due. -/
def isTouchDue (now : Int) (session : OperatorWebSession) : Bool :=
  session.lastSeenAt ≤ now - seconds settings.touchIntervalSeconds

/-- The condition of the update that touches a session. -/
def meetsTouch (now : Int) (session : OperatorWebSession) : Bool :=
  session.revokedAt.isNone && now < session.idleExpiresAt && now < session.absoluteExpiresAt &&
    isTouchDue settings now session

/-- The row after a touch. -/
def touchedSession (now : Int) (session : OperatorWebSession) : OperatorWebSession :=
  { session with
    lastSeenAt := max session.lastSeenAt now
    idleExpiresAt := min session.absoluteExpiresAt
      (max session.idleExpiresAt (now + seconds settings.idleSeconds))
    updatedAt := max session.updatedAt now }

end Rows

/-- The row after a logout or a revocation. -/
def endedSession (now : Int) (session : OperatorWebSession) : OperatorWebSession :=
  { session with revokedAt := some now, updatedAt := now }

/-- The row of `_create_key`. -/
def newKey (material : KeyMaterial) (operatorId : Uuid) (expiresAt : Option Int)
    (rotatedFromId : Option Uuid) (now : Int) : OperatorApiKey where
  id := material.keyId
  operatorId := operatorId
  publicId := material.publicId
  secretHash := hashSecret material.secret
  rotatedFromId := rotatedFromId
  createdAt := now
  lastUsedAt := none
  expiresAt := expiresAt
  revokedAt := none

/-! ## The constraints of computed rows -/

section Checks

variable {settings : WebSessionSettings} {session : OperatorWebSession} {now : Int}

theorem absoluteExpiry_le {key : OperatorApiKey} :
    ∀ expiry ∈ key.expiresAt, absoluteExpiry settings now key ≤ expiry := by
  intro expiry expires
  simp only [absoluteExpiry, Option.mem_def.mp expires]
  exact Int.min_le_right _ _

/-- **A new session meets its constraints.** -/
theorem newWebSession_checked {request : LoginRequest} {key : OperatorApiKey}
    {operator : Operator} {tokenDigest csrfTokenDigest : Digest}
    (token : octetLength tokenDigest = 32) (csrf : octetLength csrfTokenDigest = 32)
    (live : request.now < absoluteExpiry settings request.now key) :
    (newWebSession settings request key operator tokenDigest csrfTokenDigest).Checked := by
  have idle := seconds_pos settings.idleSeconds_pos
  refine ⟨token, csrf, ?_, ?_, ?_, ?_, ?_, ?_⟩
  · exact Int.le_refl _
  · simp only [newWebSession]
    omega
  · exact Int.min_le_right _ _
  · exact live
  · exact Int.le_refl _
  · simp [newWebSession]

/-- **A touched session meets its constraints.** -/
theorem touchedSession_checked (checked : session.Checked)
    (meets : meetsTouch settings now session = true) : (touchedSession settings now session).Checked := by
  simp only [meetsTouch, Bool.and_eq_true, decide_eq_true_eq] at meets
  obtain ⟨⟨⟨_, idle⟩, absolute⟩, _⟩ := meets
  have seen := checked.lastSeenNotBeforeCreation
  have before_idle := checked.idleExpiryAfterLastSeen
  have before_absolute := checked.idleNotAfterAbsoluteExpiry
  have updated := checked.updatedNotBeforeCreation
  refine ⟨checked.tokenDigestLength, checked.csrfTokenDigestLength, ?_, ?_, ?_,
    checked.absoluteExpiryAfterCreation, ?_, checked.revocationNotBeforeCreation⟩
  · simp only [touchedSession]
    omega
  · simp only [touchedSession]
    omega
  · exact Int.min_le_left _ _
  · simp only [touchedSession]
    omega

/-- An ended session meets its constraints if it does not end before it was
created. -/
theorem endedSession_checked (checked : session.Checked) :
    (endedSession now session).Checked ↔ session.createdAt ≤ now := by
  constructor
  · exact fun ended => ended.updatedNotBeforeCreation
  · intro after
    exact ⟨checked.1, checked.2, checked.3, checked.4, checked.5, checked.6, after,
      by simpa [endedSession] using after⟩

/-- A new key meets its constraints if it expires in the future. -/
theorem newKey_checked {material : KeyMaterial} {operatorId : Uuid} {expiresAt : Option Int}
    {rotatedFromId : Option Uuid} (future : ∀ expiry ∈ expiresAt, now < expiry) :
    (newKey material operatorId expiresAt rotatedFromId now).Checked where
  secretHashLength := octetLength_digest _
  expiryAfterCreation := future
  revocationNotBeforeCreation := by simp [newKey]

end Checks

end WolandGuard.Sessions
