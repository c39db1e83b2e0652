import ServerComponents.Scheduler.JobScheduler

/-!
# The Square client

The requests that move money.  Each is sent with a key that keeps it from being carried out
twice, and is sent again when its failure may pass.  How long the client waits in between is
left out.
-/

namespace ServerComponents
namespace Square

open Control Relational
open Rest (Json KeyValueTable)
open Scheduler (HttpRequest)

/-!
# Errors
-/

/-- What a call throws: the exceptions of the client, and any other one. -/
inductive Thrown where
  | paymentDeclined (category code detail : String)
  | invalidRequest (code detail field : String)
  | authentication (code detail : String)
  | rateLimit (detail : String)
  | squareServer (code detail : String)
  | network (message : String)
  | other (what : String)
  deriving Repr, DecidableEq

def Thrown.isNetwork : Thrown -> Bool
  | .network _ => true
  | _ => false

def Thrown.isRateLimit : Thrown -> Bool
  | .rateLimit _ => true
  | _ => false

def Thrown.isSquareServer : Thrown -> Bool
  | .squareServer _ _ => true
  | _ => false

def isRetryableStatusCode (statusCode : Int) : Bool :=
  decide (statusCode = 429) || (decide (500 ≤ statusCode) && decide (statusCode < 600))

def firstError (errorJson : Json) : Option Json :=
  match errorJson.child? "errors" with
  | some (.arr (first :: _)) => if first.hasChildren then some first else none
  | _ => none

def errorField (errorJson : Json) (name unset : String) : String :=
  (((firstError errorJson).bind (fun first => first.child? name)).map
    Json.toSimpleString).getD unset

def squareError (statusCode : Int) (errorJson : Json) : Thrown :=
  let category := errorField errorJson "category" "UNKNOWN"
  let code := errorField errorJson "code" "UNKNOWN"
  let detail := errorField errorJson "detail" "An unknown error occurred"
  let field := errorField errorJson "field" ""
  if category = "PAYMENT_METHOD_ERROR" then .paymentDeclined category code detail
  else if category = "INVALID_REQUEST_ERROR" then .invalidRequest code detail field
  else if category = "AUTHENTICATION_ERROR" then .authentication code detail
  else if category = "RATE_LIMIT_ERROR" ∨ statusCode = 429 then .rateLimit detail
  else if 500 ≤ statusCode then .squareServer code detail
  else .invalidRequest code detail field

/-!
# Requests on the wire
-/

structure HttpResponse where
  statusCode : Int
  body : String
  deriving Repr, DecidableEq

/-- How a request ends: with a response, with the client's own network exception, or with
the `std::runtime_error` that the HTTP client throws when the transfer fails. -/
inductive Outcome where
  | response (answer : HttpResponse)
  | networkException (message : String)
  | transportFailure (what : String)
  deriving Repr, DecidableEq

def Outcome.result : Outcome -> Except Thrown HttpResponse
  | .response answer => .ok answer
  | .networkException message => .error (.network message)
  | .transportFailure what => .error (.other what)

/-- The text of a body as a value; the message of what is thrown otherwise. -/
abbrev JsonLoader := String -> Except String Json

abbrev Wire := List HttpRequest

def execute (outcomes : Nat -> Outcome) (request : HttpRequest) :
    Work Wire Thrown HttpResponse := fun sent =>
  ((outcomes sent.length).result, sent ++ [request])

def fromText (loader : JsonLoader) (body : String) : Except Thrown Json :=
  match loader body with
  | .ok json => .ok json
  | .error what => .error (.other what)

def ofExcept {a : Type} : Except Thrown a -> Work Wire Thrown a
  | .ok value => Work.done value
  | .error t => Work.raise t

/-!
# One operation
-/

def kApiVersion : String := "2024-01-18"
def kSandboxBaseUrl : String := "https://connect.squareupsandbox.com/v2"
def kProductionBaseUrl : String := "https://connect.squareup.com/v2"

structure SquareClient where
  accessToken : String
  sandbox : Bool

def SquareClient.baseUrl (client : SquareClient) : String :=
  if client.sandbox then kSandboxBaseUrl else kProductionBaseUrl

/-- A call of `ExecuteWithRetry`: where to, with which body, how often again at most, and
how an answer is read. -/
structure PostOperation (result : Type) where
  endpoint : String
  body : String
  maxRetries : Int
  parseResult : Json -> Except Thrown result

def SquareClient.request {result : Type} (client : SquareClient) (op : PostOperation result) :
    HttpRequest where
  url := client.baseUrl ++ op.endpoint
  method := "POST"
  body := op.body
  headers := ((SortedMap.empty.set "Authorization" ("Bearer " ++ client.accessToken)).set
    "Content-Type" "application/json").set "Square-Version" kApiVersion

/-- How a round of the loop ends: with a result, or with `continue`, which only a round
with a retry left may do. -/
inductive Round (attempt maxRetries : Int) (result : Type) where
  | returned (value : result)
  | again (h : attempt < maxRetries)

section Retrying

variable {result : Type} (outcomes : Nat -> Outcome) (loader : JsonLoader)
  (client : SquareClient) (op : PostOperation result)

def tryOnce (attempt : Int) : Work Wire Thrown (Round attempt op.maxRetries result) := do
  let response ← execute outcomes (client.request op)
  let json ← ofExcept (fromText loader response.body)
  if 400 ≤ response.statusCode then
    if h : isRetryableStatusCode response.statusCode = true ∧ attempt < op.maxRetries then
      pure (.again h.2)
    else Work.raise (squareError response.statusCode json)
  else do
    let value ← ofExcept (op.parseResult json)
    pure (.returned value)

/-- The body that the three `catch` clauses share. -/
def orRethrow (attempt : Int) (t : Thrown) :
    Work Wire Thrown (Round attempt op.maxRetries result) :=
  if h : attempt < op.maxRetries then pure (.again h) else Work.raise t

def round (attempt : Int) : Work Wire Thrown (Round attempt op.maxRetries result) :=
  (tryOnce outcomes loader client op attempt).catching
    [⟨Thrown.isNetwork, orRethrow op attempt⟩, ⟨Thrown.isRateLimit, orRethrow op attempt⟩,
      ⟨Thrown.isSquareServer, orRethrow op attempt⟩]

def attemptsFrom (attempt : Int) : Work Wire Thrown result :=
  (round outcomes loader client op attempt).bind (fun ended =>
    match ended with
    | .returned value => Work.done value
    | .again _ => attemptsFrom (attempt + 1))
termination_by (op.maxRetries - attempt).toNat

def executeWithRetry : Work Wire Thrown result := attemptsFrom outcomes loader client op 0

end Retrying

/-!
# The operations
-/

structure PaymentResult where
  paymentId : String
  status : String
  amountCents : Int
  currency : String
  rawJson : String
  deriving Repr, DecidableEq

/-- `std::map` keeps the members in order. -/
def jsonBody (members : List (String × Json)) : String :=
  (Json.obj (members.foldl (fun body m => body.set m.1 m.2)
    (SortedMap.empty : SortedMap String Json)).entries).toText

def ifGiven (name value : String) : List (String × Json) :=
  if value = "" then [] else [(name, .str value)]

def money (amountCents : Int) (currency : String) : Json :=
  .obj [("amount", .int amountCents), ("currency", .str currency)]

def answered (response : Json) (name : String) : Except Thrown Json :=
  match response.child? name with
  | some child => .ok child
  | none => .error (.squareServer "INVALID_RESPONSE" ("Missing '" ++ name ++ "' in response"))

def textOf (json : Json) (name : String) : String :=
  ((json.child? name).map Json.toSimpleString).getD ""

/-- `Get<int64_t>` of a child that is there. -/
def intOf (json : Json) (name : String) : Except Thrown Int :=
  match json.child? name with
  | none => .ok 0
  | some (.int value) => .ok value
  | some _ => .error (.other "std::get: wrong index for variant")

def amountOf (json : Json) : Except Thrown (Int × String) :=
  match json.child? "amount_money" with
  | none => .ok (0, "")
  | some amountMoney => do
      let amountCents ← intOf amountMoney "amount"
      pure (amountCents, textOf amountMoney "currency")

def createPayment (sourceId : String) (amountCents : Int)
    (currency idempotencyKey note customerId : String) (maxRetries : Int) :
    PostOperation PaymentResult where
  endpoint := "/payments"
  body := jsonBody ([("source_id", .str sourceId), ("idempotency_key", .str idempotencyKey),
    ("amount_money", money amountCents currency)] ++ ifGiven "note" note ++
      ifGiven "customer_id" customerId)
  maxRetries := maxRetries
  parseResult := fun response => do
    let payment ← answered response "payment"
    let amount ← amountOf payment
    pure ⟨textOf payment "id", textOf payment "status", amount.1, amount.2, response.toText⟩

end Square
end ServerComponents
