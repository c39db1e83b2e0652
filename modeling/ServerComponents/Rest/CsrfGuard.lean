import ServerComponents.Rest.Json
import ServerComponents.Text.Fields

/-!
# The CSRF guard

A request with a state-changing method must repeat the value of its `csrft` cookie in a
header, unless its path is one of those that a client calls before it has the cookie.
-/

namespace ServerComponents
namespace Rest

open Text

/-- The methods of requests; the guard and the routes tell these apart. -/
inductive HTTPMethod where
  | delete
  | get
  | head
  | post
  | put
  | options
  | patch
  | other (name : String)
  deriving Repr, DecidableEq

namespace CsrfGuard

def kCsrfCookieName : String := "csrft"
def kCsrfHeaderName : String := "X-CSRF-Token"

def kBootstrapPaths : List String :=
  ["/api/login", "/api/register", "/api/remember", "/api/verify", "/api/forgot_password",
    "/api/reset_password"]

def kForbiddenBody : String := "\x7b\"error\":\"csrf_token_missing_or_invalid\"\x7d"

def pathOnly (url : List Char) : List Char := before '?' url

def isBootstrap (url : List Char) : Bool :=
  kBootstrapPaths.any (fun path => decide (pathOnly url = path.toList))

def isStateChanging : HTTPMethod -> Bool
  | .post => true
  | .put => true
  | .patch => true
  | .delete => true
  | _ => false

/-- The blanks that the guard strips are the space and the tab. -/
def isBlank (c : Char) : Bool := c == ' ' || c == '\t'

/-- The value of one `name=value` pair, if the name is the one that is looked for. -/
def cookieOfPair (name pair : List Char) : Option (List Char) :=
  match cut '=' (trim isBlank pair) with
  | none => none
  | some (key, value) =>
      if trim isBlank key = name then some (trim isBlank value) else none

/-- The first pair of this name counts; without one the value is empty. -/
def getCookieValue (header name : List Char) : List Char :=
  ((header.splitOn ';').findSome? (cookieOfPair name)).getD []

/-- What the guard reads of a request; a header that is missing reads as empty. -/
structure Request where
  method : HTTPMethod
  url : List Char
  cookieHeader : List Char
  csrfHeader : List Char
  deriving Repr, DecidableEq

/-- The cookie is there and the header repeats it. -/
def tokenMatches (req : Request) : Bool :=
  let csrft := getCookieValue req.cookieHeader kCsrfCookieName.toList
  decide (csrft ≠ []) && decide (req.csrfHeader ≠ []) && decide (csrft = req.csrfHeader)

/-- The answer of the guard, if it does not let the request through. -/
def beforeHandle (enabled : Bool) (req : Request) : Option Response :=
  if enabled = false then none
  else if isStateChanging req.method = false then none
  else if isBootstrap req.url then none
  else if tokenMatches req then none
  else some ⟨403, [("Content-Type", "application/json")], kForbiddenBody⟩

/-- What the guard lets through with a state-changing method has its token, or is a
bootstrap path. -/
theorem tokenMatches_of_beforeHandle {req : Request} (h : beforeHandle true req = none)
    (hmethod : isStateChanging req.method = true) :
    isBootstrap req.url = true ∨ tokenMatches req = true := by
  unfold beforeHandle at h
  simp only [Bool.true_eq_false, if_false, hmethod] at h
  by_cases hbootstrap : isBootstrap req.url = true
  · exact Or.inl hbootstrap
  · by_cases htoken : tokenMatches req = true
    · exact Or.inr htoken
    · simp [hbootstrap, htoken] at h

end CsrfGuard

end Rest
end ServerComponents
