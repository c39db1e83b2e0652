import ServerComponents.Scheduler.ApiClient
import ServerComponents.Transactions.ProductionTransactionProvider

/-!
# The job scheduler

The jobs, one client for each target, and one timer for each job.  The server at the other
end is a parameter: it answers each request as it likes, or the call throws.  A wait on a
timer is over when the timer expires or is cancelled; its handler is then queued, and runs
later.
-/

namespace ServerComponents
namespace Scheduler

open Control
open Relational
open Rest (Json KeyValueTable)
open Transactions (Thrown)

variable {net : Type}

/-!
# Calls to one target
-/

structure HttpRequest where
  url : String
  method : String
  body : String
  headers : KeyValueTable

structure Answer extends ApiClient.HttpResponse where
  statusCode : Int

/-- `HttpClient::Execute`. -/
abbrev HttpClient (net : Type) := HttpRequest -> Work net Thrown Answer

namespace ApiClient

structure Client where
  baseUrl : String
  email : String
  password : String
  loginHeaders : List (String × String)
  cookies : KeyValueTable

namespace Client

/-- The slashes at the end of the base URL are dropped. -/
def make (baseUrl : String) (loginHeaders : List (String × String)) : Client where
  baseUrl := String.ofList (baseUrl.toList.rdropWhile (fun c => c == '/'))
  email := ""
  password := ""
  loginHeaders := loginHeaders
  cookies := SortedMap.empty

def buildUrl (client : Client) (path : String) : String :=
  if path.toList.head? = some '/' then client.baseUrl ++ path
  else client.baseUrl ++ "/" ++ path

def loginBody (email password : String) : String :=
  (Json.obj [("email", .str email), ("password", .str password),
    ("remember", .bool false)]).toText

/-- The headers of the deployment come after the content type, and may override it. -/
def loginRequest (client : Client) (email password : String) : HttpRequest where
  url := client.buildUrl "/api/login"
  method := "POST"
  body := loginBody email password
  headers := client.loginHeaders.foldl (fun headers h => headers.set h.1 h.2)
    (SortedMap.empty.set "Content-Type" "application/json")

/-- The client with the credentials and without the cookies of before. -/
def forgotten (client : Client) (email password : String) : Client :=
  { client with email := email, password := password, cookies := SortedMap.empty }

variable (httpClient : HttpClient net)

/-- The credentials are kept and the cookies forgotten before the request goes out. -/
def login (email password : String) : Work (Client × net) Thrown Bool := fun s =>
  let client := s.1.forgotten email password
  match httpClient (client.loginRequest email password) s.2 with
  | (.error t, world) => (.error t, (client, world))
  | (.ok answer, world) =>
      if answer.statusCode = 200 then
        (.ok true, ({ client with
          cookies := harvestSetCookies client.cookies answer.toHttpResponse }, world))
      else (.ok false, (client, world))

def callOnce (method path body : String) (extraHeaders : List (String × String)) :
    Work (Client × net) Thrown Answer := fun s =>
  let request : HttpRequest :=
    { url := s.1.buildUrl path, method := method, body := body,
      headers := executeOnce s.1.cookies method body extraHeaders }
  match httpClient request s.2 with
  | (outcome, world) => (outcome, (s.1, world))

/-- An answer 401 is tried once more after a new login, if there are credentials. -/
def callEndpoint (method path body : String) (extraHeaders : List (String × String)) :
    Work (Client × net) Thrown Answer :=
  (callOnce httpClient method path body extraHeaders).bind fun response s =>
    if response.statusCode = 401 ∧ s.1.email ≠ "" ∧ s.1.password ≠ "" then
      ((login httpClient s.1.email s.1.password).bind fun again =>
        if again then callOnce httpClient method path body extraHeaders
        else Work.done response) ({ s.1 with cookies := SortedMap.empty }, s.2)
    else (.ok response, s)

end Client
end ApiClient

open ApiClient (Client)

structure ScheduledJob where
  name : String
  method : String
  path : String
  intervalSeconds : Int
  serverUrl : String
  serviceAccountEmail : String
  serviceAccountPassword : String
  headers : List (String × String)
  deriving DecidableEq

structure JobExecutionResult where
  jobName : String
  statusCode : Int
  success : Bool
  errorMessage : String

inductive ErrorCode where
  | success
  | operationAborted
  | failure
  deriving DecidableEq

/-- A wait on one of the timers of a start, with the job that it was armed for. -/
structure Wait where
  start : Nat
  jobIndex : Nat
  job : ScheduledJob
  deriving DecidableEq

/-- A job that the handler of a wait has executed. -/
structure Execution where
  wait : Wait
  job : ScheduledJob
  deriving DecidableEq

/-- The timers are the first `timers` ones of the start `starts`.  The last two fields
record what the handlers did: the jobs that they executed, and whether the list of jobs was
read past its end. -/
structure JobScheduler (net : Type) where
  jobs : List ScheduledJob
  clientsByTarget : SortedMap String Client
  timers : Nat
  started : Bool
  starts : Nat
  waiting : List Wait
  completed : List (ErrorCode × Wait)
  network : net
  executions : List Execution
  outOfRange : Bool

def enabled (jobs : List ScheduledJob) : List ScheduledJob :=
  jobs.filter (fun job => decide (0 < job.intervalSeconds))

def targetKey (job : ScheduledJob) : String :=
  job.headers.foldl (fun key h => key ++ "\n" ++ h.1 ++ ": " ++ h.2)
    (job.serverUrl ++ "\n" ++ job.serviceAccountEmail ++ "\n" ++ job.serviceAccountPassword)

namespace JobScheduler

def make (world : net) : JobScheduler net where
  jobs := []
  clientsByTarget := SortedMap.empty
  timers := 0
  started := false
  starts := 0
  waiting := []
  completed := []
  network := world
  executions := []
  outOfRange := false

variable (httpClient : HttpClient net) (s : JobScheduler net)

def registerJob (job : ScheduledJob) : JobScheduler net :=
  if job.intervalSeconds ≤ 0 then s else { s with jobs := s.jobs ++ [job] }

def setJobs (jobs : List ScheduledJob) : JobScheduler net :=
  { s with jobs := enabled jobs, clientsByTarget := SortedMap.empty }

/-!
# Clients
-/

def clientOf (job : ScheduledJob) : Client :=
  (s.clientsByTarget.find? (targetKey job)).getD (Client.make job.serverUrl job.headers)

/-- What is done with the client of the job's target, which the map keeps. -/
def withClient {a : Type} (job : ScheduledJob) (w : Work (Client × net) Thrown a) :
    Work (JobScheduler net) Thrown a := fun s =>
  match w (s.clientOf job, s.network) with
  | (outcome, (client, world)) =>
      (outcome, { s with
        clientsByTarget := s.clientsByTarget.set (targetKey job) client, network := world })

/-- Each target is tried once, by the first job that has it. -/
def authenticateJobs : List ScheduledJob -> List String -> Bool ->
    Work (JobScheduler net) Thrown Bool
  | [], _, allOk => Work.done allOk
  | job :: rest, attempted, allOk =>
      if targetKey job ∈ attempted then authenticateJobs rest attempted allOk
      else (withClient job
          (Client.login httpClient job.serviceAccountEmail job.serviceAccountPassword)).bind
        fun ok => authenticateJobs rest (targetKey job :: attempted) (allOk && ok)

def authenticateTargets : Work (JobScheduler net) Thrown Bool := fun s =>
  authenticateJobs httpClient s.jobs [] true s

def findJob (jobName : String) : Option ScheduledJob :=
  s.jobs.find? (fun job => job.name == jobName)

def resultOf (job : ScheduledJob) : Except Thrown Answer -> JobExecutionResult
  | .ok response =>
      ⟨job.name, response.statusCode,
        decide (200 ≤ response.statusCode ∧ response.statusCode < 300), ""⟩
  | .error (.exception what) => ⟨job.name, 0, false, what⟩
  | .error .other => ⟨job.name, 0, false, "unknown exception"⟩

def executeJob (job : ScheduledJob) : JobExecutionResult × JobScheduler net :=
  match withClient job (Client.callEndpoint httpClient job.method job.path "" job.headers) s
  with
  | (outcome, s') => (resultOf job outcome, s')

def runJobOnce (jobName : String) : Work (JobScheduler net) Thrown JobExecutionResult :=
  fun s =>
    match s.findJob jobName with
    | none =>
        (.error (.exception ("JobScheduler::RunJobOnce - unknown job: " ++ jobName)), s)
    | some job => (.ok (s.executeJob httpClient job).1, (s.executeJob httpClient job).2)

/-!
# Timers
-/

/-- The waits that are cancelled are over, with the error that says so. -/
def cancel (cancelled : Wait -> Bool) : JobScheduler net :=
  { s with
    waiting := s.waiting.filter (fun w => !cancelled w)
    completed := s.completed ++
      (s.waiting.filter cancelled).map (fun w => (.operationAborted, w)) }

/-- Whether it is a wait on the timer at this place. -/
def onTimer (jobIndex : Nat) (w : Wait) : Bool :=
  decide (w.start = s.starts ∧ w.jobIndex = jobIndex)

def clearTimers : JobScheduler net :=
  { s.cancel (fun w => decide (w.start = s.starts ∧ w.jobIndex < s.timers)) with timers := 0 }

def scheduleNext (jobIndex : Nat) : JobScheduler net :=
  if s.started = false ∨ s.timers ≤ jobIndex then s
  else
    match s.jobs[jobIndex]? with
    | none => { s with outOfRange := true }
    | some job =>
        let s := s.cancel (s.onTimer jobIndex)
        { s with waiting := s.waiting ++ [⟨s.starts, jobIndex, job⟩] }

def addTimer : JobScheduler net := { s with timers := s.timers + 1 }

/-- A timer for each job, from the place of the first one that has none. -/
def startTimers : Nat -> JobScheduler net -> JobScheduler net
  | 0, s => s
  | n + 1, s => startTimers n (s.addTimer.scheduleNext s.timers)

def start : JobScheduler net :=
  if s.started then s
  else
    startTimers s.jobs.length { s.clearTimers with started := true, starts := s.starts + 1 }

def stop : JobScheduler net := { s.clearTimers with started := false }

def handle (ec : ErrorCode) (w : Wait) : JobScheduler net :=
  if ec = .operationAborted ∨ s.started = false then s
  else if ec = .failure then s.scheduleNext w.jobIndex
  else
    match s.jobs[w.jobIndex]? with
    | none => { s with outOfRange := true }
    | some job =>
        match runJobOnce httpClient job.name s with
        | (.error _, s') => s'
        | (.ok _, s') =>
            scheduleNext { s' with
              executions := s'.executions ++ (s.findJob job.name).toList.map (Execution.mk w) }
              w.jobIndex

end JobScheduler

end Scheduler
end ServerComponents
