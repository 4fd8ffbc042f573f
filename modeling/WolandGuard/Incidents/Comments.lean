import WolandGuard.Incidents.Workflow

/-!
# Incident comments

`application/incident_comments.py`: the normalisation of a comment, its
canonical request, and the rows and outcomes of `add_incident_comment`.
-/

set_option autoImplicit false

namespace WolandGuard.Incidents

open JsonValue

/-- `COMMENT_IDEMPOTENCY_OPERATION`. -/
def commentIdempotencyOperation : String := "incident.comment.create.v1"

inductive CommentValidationError where
  | prohibitedCharacter
  | commentLength
  deriving DecidableEq, Repr

def CommentValidationError.message : CommentValidationError → String
  | .prohibitedCharacter => "comment contains a prohibited Unicode character"
  | .commentLength => "comment length is invalid"

structure NormalizedComment where
  body : String
  deriving DecidableEq, Repr

structure CommentOutcome where
  httpStatus : Nat
  responseBody : JsonValue
  replayed : Bool
  conflictType : Option String

structure IncidentComment where
  id : Uuid
  incidentId : Uuid
  operatorId : Uuid
  actorUsernameSnapshot : String
  authMethodType : OperatorAuthMethodType
  authMethodId : Uuid
  requestId : String
  body : String
  createdAt : Int
  deriving DecidableEq, Repr

/-- `_reject_comment_characters`. -/
def hasProhibitedCommentCharacter (unicode : UnicodeData) (allowBrowserLineEndings : Bool)
    (text : String) : Bool :=
  text.toList.any fun c =>
    !((c = '\r' || c = '\n') && allowBrowserLineEndings) &&
      !(c = '\n' && !allowBrowserLineEndings) &&
      ["Cc", "Cf", "Cs", "Zl", "Zp"].contains (unicode.category c)

/-- `text.replace("\r\n", "\n").replace("\r", "\n")`. -/
def canonicalLines : List Char → List Char
  | '\r' :: '\n' :: rest => '\n' :: canonicalLines rest
  | '\r' :: rest => '\n' :: canonicalLines rest
  | c :: rest => c :: canonicalLines rest
  | [] => []

/-- `text.strip()`. -/
def strip (unicode : UnicodeData) (text : String) : String :=
  String.ofList ((text.toList.dropWhile unicode.isSpace).reverse.dropWhile unicode.isSpace).reverse

/-- `normalize_comment`. -/
def normalizeComment (unicode : UnicodeData) (value : String) :
    Except CommentValidationError NormalizedComment :=
  if hasProhibitedCommentCharacter unicode true value then .error .prohibitedCharacter
  else
    let normalized := strip unicode (unicode.nfc (String.ofList (canonicalLines value.toList)))
    if hasProhibitedCommentCharacter unicode false normalized then .error .prohibitedCharacter
    else if ¬ (1 ≤ normalized.length ∧ normalized.length ≤ 1000) then .error .commentLength
    else .ok ⟨normalized⟩

/-- The canonical request of a comment. -/
def canonicalComment (incidentId : Uuid) (comment : NormalizedComment) : String :=
  canonicalValue (.obj [
    ("comment", .str comment.body),
    ("incident_id", .str (Uuid.text incidentId)),
    ("operation", .str commentIdempotencyOperation)])

/-- `canonical_comment_hash`. -/
def canonicalCommentHash (incidentId : Uuid) (comment : NormalizedComment) : String :=
  sha256Hex (canonicalComment incidentId comment)

/-- What a comment request carries beside the comment. -/
structure CommentRequest where
  actor : OperatorPrincipal
  incidentId : Uuid
  comment : NormalizedComment
  idempotencyKey : String
  requestId : String

/-- The row of a comment. -/
def storedComment (commentId : Uuid) (now : Int) (request : CommentRequest) : IncidentComment where
  id := commentId
  incidentId := request.incidentId
  operatorId := request.actor.operatorId
  actorUsernameSnapshot := request.actor.username
  authMethodType := request.actor.authMethodType
  authMethodId := request.actor.authMethodId
  requestId := request.requestId
  body := request.comment.body
  createdAt := now

example : (normalizeComment .ascii " seen\r\nagain\r").toOption = some ⟨"seen\nagain"⟩ := by
  decide +kernel

end WolandGuard.Incidents
