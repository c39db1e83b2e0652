import ServerComponents.Rest.DisplayTemplate

/-!
# JSON values
-/

namespace ServerComponents
namespace Rest

inductive Json where
  | null
  | bool (value : Bool)
  | int (value : Int)
  /-- A number kept as a `double`: the value written and the text that it prints. -/
  | real (written : Rat) (shown : String)
  | str (value : String)
  | arr (values : List Json)
  | obj (children : List (String × Json))
  deriving Repr

namespace Json

def ofStringArray (values : List String) : Json := arr (values.map str)

def ofKeyValueTable (table : KeyValueTable) : List (String × Json) :=
  table.entries.map (fun e => (e.1, str e.2))

def hasChildren : Json -> Bool
  | obj _ => true
  | _ => false

def child? (json : Json) (key : String) : Option Json :=
  match json with
  | obj children => (children.find? (fun e => e.1 == key)).map Prod.snd
  | _ => none

def hexDigit (n : Nat) : Char :=
  "0123456789ABCDEF".toList.getD n '0'

def escapeChar (c : Char) : List Char :=
  if c = '"' then ['\\', '"']
  else if c = '\\' then ['\\', '\\']
  else if c.toNat = 8 then ['\\', 'b']
  else if c.toNat = 12 then ['\\', 'f']
  else if c = '\n' then ['\\', 'n']
  else if c = '\r' then ['\\', 'r']
  else if c = '\t' then ['\\', 't']
  else if c.toNat < 32 then
    ['\\', 'u', '0', '0', hexDigit (c.toNat / 16), hexDigit (c.toNat % 16)]
  else [c]

def quoted (text : String) : String :=
  String.ofList ('"' :: (text.toList.flatMap escapeChar ++ ['"']))

mutual

def toText : Json -> String
  | null => "null"
  | bool value => if value then "true" else "false"
  | int value => toString value
  | real _ shown => shown
  | str value => quoted value
  | arr values => "[" ++ String.intercalate "," (textsOf values) ++ "]"
  | obj children =>
      String.ofList ['\x7b'] ++ String.intercalate "," (membersOf children) ++
        String.ofList ['\x7d']

def textsOf : List Json -> List String
  | [] => []
  | value :: rest => value.toText :: textsOf rest

def membersOf : List (String × Json) -> List String
  | [] => []
  | (key, value) :: rest => (quoted key ++ ":" ++ value.toText) :: membersOf rest

end

def toSimpleString : Json -> String
  | str value => value
  | json => json.toText

end Json


end Rest
end ServerComponents

/-!
# Responses

The responses of the endpoints, and the error responses with their codes, titles and
statuses.
-/

namespace ServerComponents
namespace Rest

open Relational

structure Response where
  status : Nat
  headers : List (String × String)
  body : String
  deriving Repr, DecidableEq

/-- `crow::response(status)`. -/
def Response.ofStatus (status : Nat) : Response := ⟨status, [], ""⟩

inductive ErrorCode where
  | validationError
  | badRequest
  | notAuthenticated
  | invalidCredentials
  | sessionExpired
  | notAuthorized
  | notFound
  | idempotencyConflict
  | tooManyAttempts
  | internalError
  | serviceUnavailable
  deriving Repr, DecidableEq

namespace ErrorCode

def type : ErrorCode -> String
  | validationError => "validation_error"
  | badRequest => "bad_request"
  | notAuthenticated => "not_authenticated"
  | invalidCredentials => "invalid_credentials"
  | sessionExpired => "session_expired"
  | notAuthorized => "not_authorized"
  | notFound => "not_found"
  | idempotencyConflict => "idempotency_conflict"
  | tooManyAttempts => "too_many_attempts"
  | internalError => "internal_error"
  | serviceUnavailable => "service_unavailable"

def title : ErrorCode -> String
  | validationError => "Validation Error"
  | badRequest => "Bad Request"
  | notAuthenticated => "Authentication Required"
  | invalidCredentials => "Invalid Credentials"
  | sessionExpired => "Session Expired"
  | notAuthorized => "Not Authorized"
  | notFound => "Not Found"
  | idempotencyConflict => "Conflict"
  | tooManyAttempts => "Too Many Attempts"
  | internalError => "Internal Server Error"
  | serviceUnavailable => "Service Unavailable"

def status : ErrorCode -> Nat
  | validationError => 400
  | badRequest => 400
  | notAuthenticated => 401
  | invalidCredentials => 401
  | sessionExpired => 401
  | notAuthorized => 403
  | notFound => 404
  | idempotencyConflict => 409
  | tooManyAttempts => 429
  | internalError => 500
  | serviceUnavailable => 503

end ErrorCode

namespace ErrorResponse

/-- The members of a JSON object are written in the order of their names. -/
def buildJsonBody (code : ErrorCode) (detail : String)
    (extensions : List (String × Json)) : Json :=
  let body : SortedMap String Json := (((SortedMap.empty.set "type" (.str code.type)).set
    "title" (.str code.title)).set "status" (.int code.status)).set "detail" (.str detail)
  .obj (extensions.foldl (fun body e => body.set e.1 e.2) body).entries

def create (code : ErrorCode) (detail : String) (extensions : List (String × Json)) :
    Response where
  status := code.status
  headers := [("Content-Type", "application/json")]
  body := (buildJsonBody code detail extensions).toText

def validationError (detail : String) (field constraint : String := "") : Response :=
  create .validationError detail
    ((if field = "" then [] else [("field", .str field)]) ++
      (if constraint = "" then [] else [("constraint", .str constraint)]))

def badRequest (detail : String := "The request was malformed or invalid") : Response :=
  create .badRequest detail []

def notAuthenticated
    (detail : String := "Authentication is required to access this resource") : Response :=
  create .notAuthenticated detail []

def invalidCredentials
    (detail : String := "The email or password you entered is incorrect") : Response :=
  create .invalidCredentials detail []

def notAuthorized
    (detail : String := "You do not have permission to access this resource") : Response :=
  create .notAuthorized detail []

def notFound (detail : String := "The requested resource was not found") : Response :=
  create .notFound detail []

def tooManyAttempts
    (detail : String := "Too many attempts. Please try again later.") : Response :=
  create .tooManyAttempts detail []

/-- The context goes to the log and never into the body. -/
def internalError (_serverContext : String := "") : Response :=
  create .internalError "An unexpected error occurred. Please try again later" []

def serviceUnavailable
    (detail : String :=
      "The service is temporarily unavailable. Please try again in a minute.")
    (_serverContext : String := "") : Response :=
  create .serviceUnavailable detail []

end ErrorResponse

end Rest
end ServerComponents
