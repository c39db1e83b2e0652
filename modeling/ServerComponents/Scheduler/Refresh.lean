import ServerComponents.Scheduler.Timers

/-!
# Refreshing the jobs

The scheduler asks its provider for the jobs.  When they differ from the last ones it
stops the timers, swaps the jobs, signs in to their targets and starts the timers again.
The provider and the server are parameters: each may throw.
-/

set_option linter.dupNamespace false

namespace ServerComponents
namespace Scheduler

open Control
open Relational
open Transactions (Thrown)

open ApiClient (Client)

variable {net : Type}

structure Scheduler (net : Type) where
  lastJobs : List ScheduledJob
  jobScheduler : JobScheduler net

abbrev Provided := Option (Except Thrown (List ScheduledJob))

namespace Scheduler

variable (httpClient : HttpClient net)

/-- Without a provider the jobs are those of the constructor, and there are no last ones. -/
def initializeWith (hasProvider : Bool) (jobs : List ScheduledJob) (world : net) :
    Except Thrown Bool × Scheduler net :=
  match (jobs.foldl JobScheduler.registerJob (JobScheduler.make world)).authenticateTargets
    httpClient with
  | (outcome, jobScheduler) => (outcome, ⟨if hasProvider then jobs else [], jobScheduler⟩)

def reload (next : List ScheduledJob) : Work (Scheduler net) Thrown Bool := fun s =>
  match (s.jobScheduler.stop.setJobs next).authenticateTargets httpClient with
  | (.error t, jobScheduler) => (.error t, ⟨next, jobScheduler⟩)
  | (.ok _, jobScheduler) => (.ok true, ⟨next, jobScheduler.start⟩)

/-- Only a `std::exception` of the provider is caught. -/
def refresh (provided : Provided) : Work (Scheduler net) Thrown Bool := fun s =>
  match provided with
  | none => (.ok false, s)
  | some (.error (.exception _)) => (.ok false, s)
  | some (.error .other) => (.error .other, s)
  | some (.ok next) => if next = s.lastJobs then (.ok false, s) else reload httpClient next s

end Scheduler

/-!
# The targets and their logins
-/

/-- The jobs that are the first ones of a target that has not been tried. -/
def targetsFrom : List ScheduledJob -> List String -> List ScheduledJob
  | [], _ => []
  | job :: rest, attempted =>
      if targetKey job ∈ attempted then targetsFrom rest attempted
      else job :: targetsFrom rest (targetKey job :: attempted)

def targets (jobs : List ScheduledJob) : List ScheduledJob := targetsFrom jobs []

theorem targetsFrom_fresh {jobs : List ScheduledJob} {attempted : List String}
    {job : ScheduledJob} (h : job ∈ targetsFrom jobs attempted) :
    Not (targetKey job ∈ attempted) := by
  induction jobs generalizing attempted with
  | nil => cases h
  | cons first rest ih =>
      unfold targetsFrom at h
      split at h
      · exact ih h
      · rename_i hfirst
        rcases List.mem_cons.mp h with rfl | hrest
        · exact hfirst
        · exact fun hmem => ih hrest (List.mem_cons_of_mem _ hmem)

theorem targetsFrom_pairwise (jobs : List ScheduledJob) (attempted : List String) :
    (targetsFrom jobs attempted).Pairwise (fun a b => targetKey a ≠ targetKey b) := by
  induction jobs generalizing attempted with
  | nil => exact List.Pairwise.nil
  | cons first rest ih =>
      unfold targetsFrom
      split
      · exact ih attempted
      · refine List.Pairwise.cons (fun job hjob heq => ?_) (ih _)
        exact targetsFrom_fresh hjob (heq ▸ List.mem_cons_self)

def loginOf (job : ScheduledJob) : HttpRequest :=
  (Client.make job.serverUrl job.headers).loginRequest job.serviceAccountEmail
    job.serviceAccountPassword

def signedIn (job : ScheduledJob) (answer : Answer) : Client :=
  { (Client.make job.serverUrl job.headers).forgotten job.serviceAccountEmail
      job.serviceAccountPassword with
    cookies := ApiClient.harvestSetCookies SortedMap.empty answer.toHttpResponse }

section Logins

variable (httpClient : HttpClient net)

def loginAnswers : List ScheduledJob -> net -> List (Except Thrown Answer)
  | [], _ => []
  | job :: rest, world =>
      (httpClient (loginOf job) world).1 ::
        loginAnswers rest (httpClient (loginOf job) world).2

def Returned (outcome : Except Thrown Answer) : Prop := exists answer, outcome = .ok answer

/-- Each target is tried, with nothing to skip. -/
def loginEach : List ScheduledJob -> Bool -> Work (JobScheduler net) Thrown Bool
  | [], allOk => Work.done allOk
  | job :: rest, allOk =>
      (JobScheduler.withClient job
        (Client.login httpClient job.serviceAccountEmail job.serviceAccountPassword)).bind
      fun ok => loginEach rest (allOk && ok)

theorem authenticateJobs_eq (jobs : List ScheduledJob) (attempted : List String)
    (allOk : Bool) :
    JobScheduler.authenticateJobs httpClient jobs attempted allOk =
      loginEach httpClient (targetsFrom jobs attempted) allOk := by
  induction jobs generalizing attempted allOk with
  | nil => rfl
  | cons job rest ih =>
      unfold JobScheduler.authenticateJobs targetsFrom
      split
      · exact ih attempted allOk
      · rw [loginEach]
        congr 1
        funext ok
        exact ih _ _

def OnlyClients (s s' : JobScheduler net) : Prop :=
  s' = { s with clientsByTarget := s'.clientsByTarget, network := s'.network }

theorem OnlyClients.trans {s s' s'' : JobScheduler net} (h : OnlyClients s s')
    (h' : OnlyClients s' s'') : OnlyClients s s'' := by
  unfold OnlyClients at *
  rw [h', h]

theorem onlyClients_withClient {a : Type} (job : ScheduledJob)
    (w : Work (Client × net) Thrown a) (s : JobScheduler net) :
    OnlyClients s (JobScheduler.withClient job w s).2 := rfl

theorem onlyClients_loginEach (jobs : List ScheduledJob) (allOk : Bool)
    (s : JobScheduler net) : OnlyClients s (loginEach httpClient jobs allOk s).2 := by
  induction jobs generalizing allOk s with
  | nil => rfl
  | cons job rest ih =>
      rw [loginEach]
      have hfirst := onlyClients_withClient job
        (Client.login httpClient job.serviceAccountEmail job.serviceAccountPassword) s
      rcases hlogin : JobScheduler.withClient job (Client.login httpClient
        job.serviceAccountEmail job.serviceAccountPassword) s with ⟨outcome, s'⟩
      rw [hlogin] at hfirst
      cases outcome with
      | error t =>
          rw [Work.bind_error hlogin]
          exact hfirst
      | ok ok =>
          rw [Work.bind_ok hlogin]
          exact hfirst.trans (ih _ s')

variable {s : JobScheduler net}

theorem clientOf_new {job : ScheduledJob} (hnew : s.clientsByTarget.find? (targetKey job) = none) :
    s.clientOf job = Client.make job.serverUrl job.headers := by
  unfold JobScheduler.clientOf
  rw [hnew]
  rfl

theorem withClient_login_ok {job : ScheduledJob} {answer : Answer}
    (hnew : s.clientsByTarget.find? (targetKey job) = none)
    (hanswer : (httpClient (loginOf job) s.network).1 = .ok answer) :
    exists ok s', JobScheduler.withClient job (Client.login httpClient
        job.serviceAccountEmail job.serviceAccountPassword) s = (.ok ok, s') ∧
      s'.network = (httpClient (loginOf job) s.network).2 ∧
      (forall key, key ≠ targetKey job ->
        s'.clientsByTarget.find? key = s.clientsByTarget.find? key) ∧
      (answer.statusCode = 200 ->
        s'.clientsByTarget.find? (targetKey job) = some (signedIn job answer)) := by
  have hcall : httpClient (((Client.make job.serverUrl job.headers).forgotten
      job.serviceAccountEmail job.serviceAccountPassword).loginRequest
        job.serviceAccountEmail job.serviceAccountPassword) s.network =
      (.ok answer, (httpClient (loginOf job) s.network).2) := by
    rw [← hanswer]
    rfl
  unfold JobScheduler.withClient Client.login
  rw [clientOf_new hnew]
  dsimp only
  rw [hcall]
  by_cases hstatus : answer.statusCode = 200
  · dsimp only
    rw [if_pos hstatus]
    refine ⟨true, _, rfl, rfl, fun key hkey => ?_, fun _ => ?_⟩
    · exact SortedMap.find?_set_of_ne _ _ hkey
    · exact SortedMap.find?_set_self _ _ _
  · dsimp only
    rw [if_neg hstatus]
    refine ⟨false, _, rfl, rfl, fun key hkey => ?_, fun h => absurd h hstatus⟩
    exact SortedMap.find?_set_of_ne _ _ hkey

theorem withClient_login_error {job : ScheduledJob} {t : Thrown}
    (hnew : s.clientsByTarget.find? (targetKey job) = none)
    (hanswer : (httpClient (loginOf job) s.network).1 = .error t) :
    (JobScheduler.withClient job (Client.login httpClient
      job.serviceAccountEmail job.serviceAccountPassword) s).1 = .error t := by
  have hcall : httpClient (((Client.make job.serverUrl job.headers).forgotten
      job.serviceAccountEmail job.serviceAccountPassword).loginRequest
        job.serviceAccountEmail job.serviceAccountPassword) s.network =
      (.error t, (httpClient (loginOf job) s.network).2) := by
    rw [← hanswer]
    rfl
  unfold JobScheduler.withClient Client.login
  rw [clientOf_new hnew]
  dsimp only
  rw [hcall]

def SignedIn (jobs : List ScheduledJob) (world : net) (s : JobScheduler net) : Prop :=
  forall (n : Nat) (job : ScheduledJob) (answer : Answer), jobs[n]? = some job ->
    (loginAnswers httpClient jobs world)[n]? = some (Except.ok answer) ->
    answer.statusCode = 200 ->
    s.clientsByTarget.find? (targetKey job) = some (signedIn job answer)

/-- When every login is answered, all targets are tried, and a later login leaves the
clients of the earlier ones alone. -/
theorem loginEach_ok {jobs : List ScheduledJob} (allOk : Bool)
    (hnew : forall job, job ∈ jobs -> s.clientsByTarget.find? (targetKey job) = none)
    (hpairwise : jobs.Pairwise (fun a b => targetKey a ≠ targetKey b))
    (hanswered : forall o, o ∈ loginAnswers httpClient jobs s.network -> Returned o) :
    exists ok s', loginEach httpClient jobs allOk s = (.ok ok, s') ∧
      (forall key, (forall job, job ∈ jobs -> key ≠ targetKey job) ->
        s'.clientsByTarget.find? key = s.clientsByTarget.find? key) ∧
      SignedIn httpClient jobs s.network s' := by
  induction jobs generalizing allOk s with
  | nil => exact ⟨allOk, s, rfl, fun _ _ => rfl, fun n job answer h => by cases h⟩
  | cons job rest ih =>
      rcases List.pairwise_cons.mp hpairwise with ⟨hjob, hrest⟩
      rcases hanswered _ List.mem_cons_self with ⟨answer, hanswer⟩
      rcases withClient_login_ok httpClient (hnew job List.mem_cons_self) hanswer with
        ⟨ok, s₁, hlogin, hworld, helse, hsigned⟩
      have hnew₁ : forall job', job' ∈ rest ->
          s₁.clientsByTarget.find? (targetKey job') = none := by
        intro job' hmem
        rw [helse _ (hjob job' hmem).symm]
        exact hnew job' (List.mem_cons_of_mem _ hmem)
      have hanswered₁ : forall o, o ∈ loginAnswers httpClient rest s₁.network ->
          Returned o := by
        intro o ho
        rw [hworld] at ho
        exact hanswered o (List.mem_cons_of_mem _ ho)
      rcases ih (allOk && ok) hnew₁ hrest hanswered₁ with ⟨all, s₂, hrun, hkeep, hin⟩
      refine ⟨all, s₂, ?_, fun key hkey => ?_, fun n job' answer' hget hans hstatus => ?_⟩
      · rw [loginEach, Work.bind_ok hlogin]
        exact hrun
      · rw [hkeep key (fun job' hmem => hkey job' (List.mem_cons_of_mem _ hmem))]
        exact helse key (hkey job List.mem_cons_self)
      · cases n with
        | zero =>
            have hheads : job = job' ∧ (httpClient (loginOf job) s.network).1 = .ok answer' :=
              ⟨by simpa using hget, by simpa [loginAnswers] using hans⟩
            rcases hheads with ⟨rfl, hans'⟩
            rw [hanswer] at hans'
            cases hans'
            rw [hkeep _ (fun job' hmem => hjob job' hmem)]
            exact hsigned hstatus
        | succ n =>
            rw [List.getElem?_cons_succ] at hget
            rw [loginAnswers, List.getElem?_cons_succ, ← hworld] at hans
            exact hin n job' answer' hget hans hstatus

theorem loginEach_error {jobs : List ScheduledJob} (allOk : Bool)
    (hnew : forall job, job ∈ jobs -> s.clientsByTarget.find? (targetKey job) = none)
    (hpairwise : jobs.Pairwise (fun a b => targetKey a ≠ targetKey b))
    (hthrown : Not (forall o, o ∈ loginAnswers httpClient jobs s.network -> Returned o)) :
    exists t, (loginEach httpClient jobs allOk s).1 = .error t := by
  induction jobs generalizing allOk s with
  | nil => exact absurd (fun o ho => by cases ho) hthrown
  | cons job rest ih =>
      rcases List.pairwise_cons.mp hpairwise with ⟨hjob, hrest⟩
      rw [loginEach]
      cases hanswer : (httpClient (loginOf job) s.network).1 with
      | error t =>
          have hlogin := withClient_login_error httpClient (hnew job List.mem_cons_self) hanswer
          refine ⟨t, ?_⟩
          rw [Work.bind_error (Prod.ext hlogin rfl)]
      | ok answer =>
          rcases withClient_login_ok httpClient (hnew job List.mem_cons_self) hanswer with
            ⟨ok, s₁, hlogin, hworld, helse, -⟩
          rw [Work.bind_ok hlogin]
          refine ih _ (fun job' hmem => ?_) hrest (fun hall => hthrown (fun o ho => ?_))
          · rw [helse _ (hjob job' hmem).symm]
            exact hnew job' (List.mem_cons_of_mem _ hmem)
          · rcases List.mem_cons.mp ho with rfl | ho
            · exact ⟨answer, hanswer⟩
            · exact hall o (by rw [hworld]; exact ho)

end Logins

/-!
# Every refresh returns
-/

namespace Scheduler

section Refresh

variable (httpClient : HttpClient net)

/-- The refresh returns.  Jobs that are kept keep their timers; jobs that are swapped have
each its armed timer, and the targets whose login succeeded are signed in. -/
def StaysUp (provided : Provided) (s : Scheduler net) : Prop :=
  exists reloaded s', refresh httpClient provided s = (.ok reloaded, s') ∧
    (reloaded = false -> s' = s) ∧
    (reloaded = true -> exists next, provided = some (.ok next) ∧
      s'.jobScheduler.jobs = enabled next ∧ s'.jobScheduler.AllArmed ∧
      SignedIn httpClient (targets (enabled next)) s.jobScheduler.network s'.jobScheduler)

/-- The provider throws nothing but exceptions, and when the jobs have changed the client
throws at none of their logins. -/
def Answered (provided : Provided) (s : Scheduler net) : Prop :=
  provided ≠ some (.error .other) ∧
    forall next, provided = some (.ok next) -> next ≠ s.lastJobs ->
      forall o, o ∈ loginAnswers httpClient (targets (enabled next))
        s.jobScheduler.network -> Returned o

variable {httpClient} {s : Scheduler net} {next : List ScheduledJob}

theorem authenticateTargets_eq (s : JobScheduler net) :
    s.authenticateTargets httpClient = loginEach httpClient (targets s.jobs) true s := by
  unfold JobScheduler.authenticateTargets
  rw [authenticateJobs_eq]
  rfl

section Reload

variable (s : Scheduler net) (next : List ScheduledJob)

def swapped : JobScheduler net := s.jobScheduler.stop.setJobs next

theorem swapped_new (job : ScheduledJob) (_ : job ∈ targets (enabled next)) :
    (swapped s next).clientsByTarget.find? (targetKey job) = none := rfl

theorem authenticateTargets_swapped :
    (swapped s next).authenticateTargets httpClient =
      loginEach httpClient (targets (enabled next)) true (swapped s next) :=
  authenticateTargets_eq _

theorem targets_pairwise (jobs : List ScheduledJob) :
    (targets jobs).Pairwise (fun a b => targetKey a ≠ targetKey b) :=
  targetsFrom_pairwise jobs []

end Reload

theorem reload_run (hanswered : forall o, o ∈ loginAnswers httpClient (targets (enabled next))
    s.jobScheduler.network -> Returned o) :
    exists js, reload httpClient next s = (.ok true, ⟨next, js.start⟩) ∧
      OnlyClients (swapped s next) js ∧
      SignedIn httpClient (targets (enabled next)) s.jobScheduler.network js := by
  rcases loginEach_ok httpClient true (swapped_new s next) (targets_pairwise _) hanswered with
    ⟨ok, js, hrun, -, hin⟩
  have hclients := onlyClients_loginEach httpClient (targets (enabled next)) true
    (swapped s next)
  rw [hrun] at hclients
  have hauthenticate := @authenticateTargets_swapped _ httpClient s next
  rw [hrun] at hauthenticate
  refine ⟨js, ?_, hclients, hin⟩
  unfold reload
  rw [show s.jobScheduler.stop.setJobs next = swapped s next from rfl, hauthenticate]

theorem reload_ok (hanswered : forall o, o ∈ loginAnswers httpClient (targets (enabled next))
    s.jobScheduler.network -> Returned o) :
    exists s', reload httpClient next s = (.ok true, s') ∧
      s'.jobScheduler.jobs = enabled next ∧ s'.jobScheduler.AllArmed ∧
      SignedIn httpClient (targets (enabled next)) s.jobScheduler.network
        s'.jobScheduler := by
  rcases reload_run hanswered with ⟨js, hreload, hclients, hin⟩
  have hjobs : js.jobs = enabled next := by
    rw [hclients]
    rfl
  have hstopped : js.started = false := by
    rw [hclients]
    rfl
  rcases js.start_frame with ⟨hstartJobs, hstartClients, -, -⟩
  refine ⟨_, hreload, hstartJobs.trans hjobs, JobScheduler.allArmed_start hstopped, ?_⟩
  intro n job answer hjob hanswer hstatus
  show js.start.clientsByTarget.find? (targetKey job) = _
  rw [hstartClients]
  exact hin n job answer hjob hanswer hstatus

theorem reload_error (hthrown : Not (forall o, o ∈ loginAnswers httpClient
    (targets (enabled next)) s.jobScheduler.network -> Returned o)) :
    exists t, (reload httpClient next s).1 = .error t := by
  rcases loginEach_error httpClient true (swapped_new s next) (targets_pairwise _) hthrown with
    ⟨t, ht⟩
  refine ⟨t, ?_⟩
  have hauthenticate := @authenticateTargets_swapped _ httpClient s next
  unfold reload
  rw [show s.jobScheduler.stop.setJobs next = swapped s next from rfl, hauthenticate]
  rcases hend : loginEach httpClient (targets (enabled next)) true (swapped s next) with
    ⟨outcome, js⟩
  rw [hend] at ht
  cases outcome with
  | error t' =>
      cases ht
      rfl
  | ok ok => cases ht

/-- A refresh stays up exactly when the provider throws nothing but exceptions and every
login is answered. -/
theorem staysUp_iff (provided : Provided) (s : Scheduler net) :
    StaysUp httpClient provided s <-> Answered httpClient provided s := by
  constructor
  · rintro ⟨reloaded, s', hrun, -, -⟩
    refine ⟨?_, ?_⟩
    · rintro rfl
      cases hrun
    · rintro next rfl hnew
      by_contra hthrown
      rcases reload_error hthrown with ⟨t, ht⟩
      have hreload : refresh httpClient (some (.ok next)) s = reload httpClient next s :=
        if_neg hnew
      rw [hreload] at hrun
      rw [hrun] at ht
      cases ht
  · rintro ⟨hprovider, hlogins⟩
    cases provided with
    | none => exact ⟨false, s, rfl, fun _ => rfl, fun h => by cases h⟩
    | some outcome =>
        cases outcome with
        | error t =>
            cases t with
            | exception what => exact ⟨false, s, rfl, fun _ => rfl, fun h => by cases h⟩
            | other => exact absurd rfl hprovider
        | ok next =>
            by_cases hsame : next = s.lastJobs
            · exact ⟨false, s, if_pos hsame, fun _ => rfl, fun h => by cases h⟩
            · rcases reload_ok (hlogins next rfl hsame) with
                ⟨s', hreload, hjobs, harmed, hin⟩
              have hrun : refresh httpClient (some (.ok next)) s = (.ok true, s') :=
                (if_neg hsame).trans hreload
              refine ⟨true, s', hrun, fun h => absurd h (by simp), fun _ => ?_⟩
              exact ⟨next, rfl, hjobs, harmed, hin⟩

def oneUnreachable : HttpClient Unit := fun request world =>
  if request.url = "https://b.example/api/login" then
    (.error (.exception "Could not resolve host"), world)
  else (.ok ⟨⟨[], ["session_token=tok"]⟩, 200⟩, world)

def billingOf (serverUrl : String) : ScheduledJob where
  name := "run_billing"
  method := "POST"
  path := "/api/admin/run_billing"
  intervalSeconds := 3600
  serverUrl := serverUrl
  serviceAccountEmail := "scheduler@example.test"
  serviceAccountPassword := "secret"
  headers := []

def oneTenant : Scheduler Unit where
  lastJobs := [billingOf "https://a.example"]
  jobScheduler :=
    ((JobScheduler.make ()).registerJob (billingOf "https://a.example")).start

/-- The login of the new tenant throws, and the timers of the other one are gone. -/
theorem oneUnreachable_takesDown : oneTenant.jobScheduler.AllArmed ∧
    Not (StaysUp oneUnreachable
      (some (.ok [billingOf "https://a.example", billingOf "https://b.example"])) oneTenant) ∧
    (refresh oneUnreachable
      (some (.ok [billingOf "https://a.example", billingOf "https://b.example"]))
        oneTenant).2.jobScheduler.timers = 0 := by
  have hstopped : ((JobScheduler.make ()).registerJob
      (billingOf "https://a.example")).started = false := rfl
  refine ⟨JobScheduler.allArmed_start hstopped, ?_, by decide⟩
  rintro ⟨reloaded, s', hrun, -, -⟩
  have hthrown : (refresh oneUnreachable
      (some (.ok [billingOf "https://a.example", billingOf "https://b.example"]))
        oneTenant).1 = .error (.exception "Could not resolve host") := by
    decide
  rw [hrun] at hthrown
  cases hthrown

end Refresh

end Scheduler

end Scheduler
end ServerComponents
