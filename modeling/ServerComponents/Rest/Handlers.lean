import ServerComponents.Control.Work
import ServerComponents.Rest.Json

/-!
# The registered handlers

Every route's handler has the same parts: the path segments that the route decodes, the
request's setup, what it does with an empty body, the endpoint's own function, the
response that it then writes, its catch clauses, and at last `resp.end()`.  A member of
the family is written as its own values of these parts.
-/

namespace ServerComponents
namespace Rest

open Control

/-- The exceptions that the catch clauses tell apart: `std::invalid_argument`,
`pqxx::failure`, any other `std::exception`, and what is none. -/
inductive ExceptionType where
  | invalidArgument
  | failure
  | exception
  | other
  deriving DecidableEq, Repr

structure Thrown where
  type : ExceptionType
  what : String
  deriving DecidableEq, Repr

def Thrown.isException (t : Thrown) : Bool := t.type != .other

/-- What a handler does to its response, until an exception stops it. -/
abbrev Handling (a : Type) := Work Response Thrown a

namespace Response

/-- `set_header` replaces the header of this name. -/
def setHeader (name value : String) (resp : Response) : Response :=
  { resp with headers := resp.headers.filter (fun h => h.1 != name) ++ [(name, value)] }

def setCode (code : Nat) (resp : Response) : Response := { resp with status := code }

/-- `write` appends to the body. -/
def write (text : String) (resp : Response) : Response :=
  { resp with body := resp.body ++ text }

@[simp] theorem setCode_body (code : Nat) (resp : Response) :
    (resp.setCode code).body = resp.body := rfl

@[simp] theorem write_body (text : String) (resp : Response) :
    (resp.write text).body = resp.body ++ text := rfl

end Response

/-!
# The import of a theme
-/

structure BundleProblem where
  area : String
  item : String
  reason : String
  deriving Repr

structure BundleImportReport where
  ok : Bool := false
  migratedFrom : Int := 0
  migrationsApplied : List String := []
  unknownKeys : List String := []
  skippedSections : List String := []
  problems : List BundleProblem := []
  contentChanges : Int := 0
  tokenChanges : Int := 0
  fontFamilyChanges : Int := 0
  assetChanges : Int := 0
  error : String := ""
  deriving Repr

/-- The members of an object are written in the order of their names. -/
def bundleImportReportToJson (report : BundleImportReport) : Json :=
  .obj
    ([("changes", .obj
        [("assets", .int report.assetChanges), ("content", .int report.contentChanges),
          ("font_families", .int report.fontFamilyChanges),
          ("tokens", .int report.tokenChanges)])] ++
      (if report.error = "" then [] else [("error", .str report.error)]) ++
      [("migrated_from", .int report.migratedFrom),
        ("migrations_applied", Json.ofStringArray report.migrationsApplied),
        ("ok", .bool report.ok),
        ("problems", .arr (report.problems.map (fun problem => .obj
          [("area", .str problem.area), ("item", .str problem.item),
            ("reason", .str problem.reason)]))),
        ("skipped_sections", Json.ofStringArray report.skippedSections),
        ("unknown_keys", Json.ofStringArray report.unknownKeys)])

/-!
# Requests
-/

/-- A request, with what the code below the handler makes of it: each piece of work
between two catch clauses changes the response and answers, or throws.  An answer says
that the endpoint's function returned, with its result. -/
structure Exchange where
  segments : List String
  body : String
  setup : Handling Unit
  parse : Handling Unit
  work : Nat -> Handling (Option Json)
  importBundle : Handling BundleImportReport

/-- Go on with the rest of a function, unless it has returned. -/
def andThen (first rest : Handling (Option Json)) : Handling (Option Json) :=
  first.bind (fun result =>
    match result with
    | some value => pure (some value)
    | none => rest)

def catchException {a : Type} (body : Thrown -> Handling a) : Clause Response Thrown a :=
  ⟨Thrown.isException, body⟩

def catchAll {a : Type} (body : Handling a) : Clause Response Thrown a :=
  ⟨fun _ => true, fun _ => body⟩

def returnWith (resp : Response) : Handling (Option Json) := do
  Work.assign resp
  pure (some .null)

/-- The functions that answer every failure of their transaction alike. -/
def guarded (resp : Response) (x : Exchange) : Handling (Option Json) :=
  (x.work 0).catching [catchAll (returnWith resp)]

/-- The database failures are thrown on to the handler. -/
def loginInner (x : Exchange) : Handling (Option Json) :=
  andThen (x.work 0)
    (andThen
      ((x.work 1).catching
        [⟨fun t => t.type == .failure, Work.raise⟩,
          catchAll (returnWith ErrorResponse.invalidCredentials)])
      (x.work 2))

/-- The step after the registration is swallowed. -/
def registerInner (x : Exchange) : Handling (Option Json) :=
  andThen (x.work 0)
    (andThen ((x.work 1).catching [catchException (fun _ => pure none)]) (x.work 2))

/-- A failed verification has one text; a failed lookup of the person has none. -/
def verifyInner (x : Exchange) : Handling (Option Json) :=
  andThen (x.work 0)
    (andThen
      ((x.work 1).catching
        [catchException (fun _ => do
          Work.assign (ErrorResponse.validationError "verification failed or expired")
          pure none)])
      (andThen ((x.work 2).catching [catchAll (pure none)]) (x.work 3)))

/-- The answer to an import that stopped, with its report behind the error. -/
def importStopped (resp : Response) (code : Nat) (report : BundleImportReport) :
    Handling (Option Json) := do
  Work.assign (((resp.setHeader "Content-Type" "application/json").write
    (bundleImportReportToJson report).toText).setCode code)
  pure (some (bundleImportReportToJson report))

def importFailure (what : String) : BundleImportReport :=
  { error := "The theme file could not be applied: " ++ what }

/-- The admin check and the reading of the file come first.  A report that is not ok is
thrown, to roll back, and caught at once. -/
def importTransaction (x : Exchange) : Handling (Option Json) :=
  andThen (x.work 0)
    (x.importBundle.bind (fun report =>
      if report.ok then do
        Work.modify (Response.setCode 200)
        pure (some (bundleImportReportToJson report))
      else
        importStopped (ErrorResponse.validationError report.error) 400 report))

/-- The reason goes into the report, for the admin who imports. -/
def importFailed (t : Thrown) : Handling (Option Json) :=
  importStopped (ErrorResponse.internalError (importFailure t.what).error) 500
    (importFailure t.what)

def runImport (x : Exchange) : Handling (Option Json) :=
  (importTransaction x).catching [catchException importFailed]

/-!
# The parts of a handler
-/

/-- What a handler does with an empty body, after the setup. -/
inductive EmptyBody where
  | unchecked
  | returns (detail : String)
  | endsAndReturns (detail : String)
  | branches (detail : String)
  deriving DecidableEq, Repr

/-- What a handler writes after the endpoint's function has returned. -/
inductive Finish where
  | nothing
  | ok
  | json
  | jsonIfOk
  | siteInfo
  | health
  deriving DecidableEq, Repr

namespace Finish

def writeJson (result : Json) (resp : Response) : Response :=
  (resp.setHeader "Content-Type" "application/json").write result.toText

def apply (result : Json) : Finish -> Response -> Response
  | nothing, resp => resp
  | ok, _ => Response.ofStatus 200
  | json, resp => writeJson result (resp.setCode 200)
  | jsonIfOk, resp => if resp.status = 200 then writeJson result resp else resp
  | siteInfo, resp =>
      writeJson result (((resp.setCode 200).setHeader "Cache-Control" "no-cache").setHeader
        "Vary" "X-Honuware-Site")
  | health, resp => writeJson result resp

end Finish

def kSignInUnavailable : String :=
  "Sign-in is temporarily unavailable. Please try again in a minute."

inductive CatchStyle where
  | echoes
  | echoesInvalidArgument
  | internalError
  | notAuthenticated
  | ok
  | signIn
  deriving DecidableEq, Repr

/-- How the `try` block of a handler is left; a handler may have ended the response. -/
inductive Flow where
  | fallsThrough
  | returned (ended : Bool)
  deriving DecidableEq, Repr

namespace CatchStyle

def respond (resp : Response) : Handling Flow := do
  Work.assign resp
  pure .fallsThrough

def clauses : CatchStyle -> List (Clause Response Thrown Flow)
  | echoes => [catchException (fun t => respond (ErrorResponse.validationError t.what))]
  | echoesInvalidArgument =>
      [⟨fun t => t.type == .invalidArgument,
          fun t => respond (ErrorResponse.validationError t.what)⟩,
        catchException (fun t => respond (ErrorResponse.internalError t.what))]
  | internalError => [catchException (fun t => respond (ErrorResponse.internalError t.what))]
  | notAuthenticated => [catchAll (respond ErrorResponse.notAuthenticated)]
  | ok => [catchAll (respond (Response.ofStatus 200))]
  | signIn =>
      [⟨fun t => t.type == .failure,
          fun t => respond (ErrorResponse.serviceUnavailable kSignInUnavailable t.what)⟩,
        catchException (fun _ => respond ErrorResponse.invalidCredentials)]

end CatchStyle

structure Handler where
  decoded : List Nat := []
  emptyBody : EmptyBody := .unchecked
  inner : Exchange -> Handling (Option Json) := fun x => x.work 0
  finish : Finish := .nothing
  catches : CatchStyle

/-- A response, how often it was ended, and an exception that escaped the handler. -/
structure Answer where
  response : Response
  ends : Nat
  escaped : Option Thrown
  deriving DecidableEq, Repr

namespace Handler

def call (h : Handler) (x : Exchange) : Handling Flow := do
  let result ← h.inner x
  Work.modify (h.finish.apply (result.getD .null))
  pure .fallsThrough

/-- A handler that looks at the body reads it before it calls the function. -/
def tryBlock (h : Handler) (x : Exchange) : Handling Flow := do
  x.setup
  match h.emptyBody with
  | .unchecked => h.call x
  | .returns detail =>
      if x.body = "" then do
        Work.assign (ErrorResponse.badRequest detail)
        pure (.returned false)
      else do
        x.parse
        h.call x
  | .endsAndReturns detail =>
      if x.body = "" then do
        Work.assign (ErrorResponse.badRequest detail)
        pure (.returned true)
      else do
        x.parse
        h.call x
  | .branches detail =>
      if x.body = "" then do
        Work.assign (ErrorResponse.badRequest detail)
        pure .fallsThrough
      else do
        x.parse
        h.call x

section Answer

variable (urlDecode : String -> Except Thrown String)

/-- The segments are decoded where the route calls the handler, outside its `try`. -/
def decodeSegments (h : Handler) (x : Exchange) : Except Thrown (List String) :=
  h.decoded.mapM (fun k => urlDecode (x.segments.getD k ""))

def answer (h : Handler) (x : Exchange) : Answer :=
  match h.decodeSegments urlDecode x with
  | .error t => { response := Response.ofStatus 200, ends := 0, escaped := some t }
  | .ok _ =>
      match (h.tryBlock x).catching h.catches.clauses (Response.ofStatus 200) with
      | (.error t, resp) => { response := resp, ends := 0, escaped := some t }
      | (.ok .fallsThrough, resp) => { response := resp, ends := 1, escaped := none }
      | (.ok (.returned ended), resp) =>
          { response := resp, ends := if ended then 1 else 0, escaped := none }

end Answer

end Handler

end Rest
end ServerComponents
