import ServerComponents.Scheduler.Refresh
import ServerComponents.Statements.Run
import Mathlib.Data.List.Nodup

/-!
# Runs of the scheduler

Calls of the scheduler in any order, between waits that expire and handlers that run.  A
completion stays queued when its timer is cancelled or gone.
-/

set_option linter.dupNamespace false

namespace ServerComponents
namespace Scheduler

open Control
open Relational
open Statements
open Transactions (Thrown)

variable {net : Type}

/-- An expired wait is the `n`th of those that are waiting, and a handler that runs the
`n`th of those that are queued. -/
inductive Event where
  | start
  | stop
  | setJobs (jobs : List ScheduledJob)
  | refresh (provided : Provided)
  | expire (n : Nat) (failed : Bool)
  | dispatch (n : Nat)

namespace JobScheduler

def expire (n : Nat) (failed : Bool) (s : JobScheduler net) : JobScheduler net :=
  match s.waiting[n]? with
  | none => s
  | some w =>
      { s with
        waiting := s.waiting.eraseIdx n
        completed := s.completed ++ [(if failed then .failure else .success, w)] }

def dispatch (httpClient : HttpClient net) (n : Nat) (s : JobScheduler net) :
    JobScheduler net :=
  match s.completed[n]? with
  | none => s
  | some (ec, w) => handle httpClient { s with completed := s.completed.eraseIdx n } ec w

end JobScheduler

namespace Scheduler

variable (httpClient : HttpClient net)

def step (s : Scheduler net) : Event -> Scheduler net
  | .start => { s with jobScheduler := s.jobScheduler.start }
  | .stop => { s with jobScheduler := s.jobScheduler.stop }
  | .setJobs jobs => { s with jobScheduler := s.jobScheduler.setJobs jobs }
  | .refresh provided => (refresh httpClient provided s).2
  | .expire n failed => { s with jobScheduler := s.jobScheduler.expire n failed }
  | .dispatch n => { s with jobScheduler := s.jobScheduler.dispatch httpClient n }

end Scheduler

def NamesTell (jobs : List ScheduledJob) : Prop :=
  forall a b, a ∈ jobs -> b ∈ jobs -> a.name = b.name -> a = b

/-- The completions that are queued, other than cancellations, find their job at its place. -/
def InPlace (jobs : List ScheduledJob) (completed : List (ErrorCode × Wait)) : Prop :=
  forall ec w, (ec, w) ∈ completed -> ec ≠ .operationAborted ->
    jobs[w.jobIndex]? = some w.job

namespace JobScheduler

/-!
# What holds in every orderly run
-/

/-- The waits are those of the timers, one for each at most, and the queued completions are
in their places. -/
structure Placed (s : JobScheduler net) : Prop where
  place : forall w, w ∈ s.waiting -> w.start = s.starts ∧ w.jobIndex < s.timers ∧
    s.jobs[w.jobIndex]? = some w.job
  once : (s.waiting.map Wait.jobIndex).Nodup
  due : s.started = true -> InPlace s.jobs s.completed
  inRange : s.outOfRange = false

structure Sound (s : JobScheduler net) : Prop extends Placed s where
  named : NamesTell s.jobs
  stopped : s.started = false -> s.timers = 0
  armed : s.started = true -> s.AllArmed
  ran : forall e, e ∈ s.executions -> e.job = e.wait.job

section Timers

variable {s s' : JobScheduler net}

theorem Placed.scheduleNext (h : s.Placed) {i : Nat} {job : ScheduledJob}
    (hstarted : s.started = true) (hi : i < s.timers) (hjob : s.jobs[i]? = some job) :
    (s.scheduleNext i).Placed := by
  rw [scheduleNext_eq hstarted hi hjob]
  constructor
  · intro w hw
    rcases List.mem_append.mp hw with hw | hw
    · exact h.place w (mem_waiting_cancel.mp hw).1
    · rw [List.mem_singleton.mp hw]
      exact ⟨rfl, hi, hjob⟩
  · show ((s.cancel (s.onTimer i)).waiting ++ [_]).map Wait.jobIndex |>.Nodup
    rw [List.map_append, List.map_singleton]
    refine List.nodup_append.mpr ⟨?_, List.nodup_singleton _, ?_⟩
    · exact h.once.sublist (List.Sublist.map _ List.filter_sublist)
    · rintro j hj i' hi' rfl
      rcases List.mem_map.mp hj with ⟨w, hw, hwj⟩
      have hindex : w.jobIndex = i := hwj.trans (List.mem_singleton.mp hi')
      rcases mem_waiting_cancel.mp hw with ⟨hwaiting, hnot⟩
      have hon : s.onTimer i w = true := by
        unfold onTimer
        rw [(h.place w hwaiting).1, hindex]
        simp
      rw [hon] at hnot
      cases hnot
  · intro _ ec w hw hec
    exact h.due hstarted ec w ((mem_completed_cancel hec).mp hw) hec
  · exact h.inRange

theorem Placed.waiting_eq_nil (h : s.Placed) (hnone : s.timers = 0) : s.waiting = [] := by
  rw [List.eq_nil_iff_forall_not_mem]
  intro w hw
  have hlt := (h.place w hw).2.1
  omega

theorem Sound.waiting_eq_nil (h : s.Sound) (hstopped : s.started = false) :
    s.waiting = [] := h.toPlaced.waiting_eq_nil (h.stopped hstopped)

theorem placed_of_waiting_nil (hwaiting : s.waiting = [])
    (hdue : s.started = true -> InPlace s.jobs s.completed) (hrange : s.outOfRange = false) :
    s.Placed where
  place := by
    rw [hwaiting]
    exact fun w hw => absurd hw List.not_mem_nil
  once := by
    rw [hwaiting]
    exact List.nodup_nil
  due := hdue
  inRange := hrange

/-!
## Each call keeps it
-/

theorem Sound.onlyClients (h : s.Sound) (hclients : OnlyClients s s') : s'.Sound := by
  rw [hclients]
  exact ⟨⟨h.place, h.once, h.due, h.inRange⟩, h.named, h.stopped,
    fun hstarted => ⟨(h.armed hstarted).one, (h.armed hstarted).armed⟩, h.ran⟩

theorem Sound.stop_waiting (h : s.Sound) : s.stop.waiting = [] := by
  show s.waiting.filter _ = []
  rw [List.filter_eq_nil_iff]
  intro w hw
  rcases h.place w hw with ⟨hstart, hlt, -⟩
  simp [hstart, hlt]

theorem Sound.stop (h : s.Sound) : s.stop.Sound where
  toPlaced := placed_of_waiting_nil h.stop_waiting (fun h => by cases h) h.inRange
  named := h.named
  stopped := fun _ => rfl
  armed := fun h => by cases h
  ran := h.ran

theorem inPlace_stop {jobs : List ScheduledJob} :
    InPlace jobs s.stop.completed <-> InPlace jobs s.completed := by
  constructor
  · intro h ec w hw hec
    exact h ec w ((mem_completed_cancel hec).mpr hw) hec
  · intro h ec w hw hec
    exact h ec w ((mem_completed_cancel hec).mp hw) hec

theorem Sound.setJobs (h : s.Sound) {jobs : List ScheduledJob}
    (hstopped : s.started = false) (hnamed : NamesTell (enabled jobs)) :
    (s.setJobs jobs).Sound where
  toPlaced := placed_of_waiting_nil (h.waiting_eq_nil hstopped)
    (fun hstarted => absurd (hstopped.symm.trans hstarted) (by simp)) h.inRange
  named := hnamed
  stopped := h.stopped
  armed := fun hstarted => absurd (hstopped.symm.trans hstarted) (by simp)
  ran := h.ran

theorem onlyClients_setJobs {jobs : List ScheduledJob} (hsame : enabled jobs = s.jobs) :
    OnlyClients s (s.setJobs jobs) := by
  unfold OnlyClients JobScheduler.setJobs
  rw [hsame]

theorem Placed.next (h : s.Placed) (hstarted : s.started = true)
    (hmore : s.timers < s.jobs.length) : (s.addTimer.scheduleNext s.timers).Placed := by
  have hadd : s.addTimer.Placed := by
    refine ⟨fun w hw => ?_, h.once, h.due, h.inRange⟩
    rcases h.place w hw with ⟨hstart, hlt, hjob⟩
    exact ⟨hstart, Nat.lt_succ_of_lt hlt, hjob⟩
  have hjob : s.addTimer.jobs[s.timers]? = some s.jobs[s.timers] :=
    List.getElem?_eq_getElem hmore
  exact hadd.scheduleNext hstarted (Nat.lt_succ_self _) hjob

theorem Placed.start (h : s.Placed) (hstopped : s.started = false) (hnone : s.timers = 0)
    (hplace : InPlace s.jobs s.completed) : s.start.Placed := by
  have hwaiting : s.restarted.waiting = [] := by
    show s.waiting.filter _ = []
    rw [h.waiting_eq_nil hnone]
    rfl
  have hrestarted : s.restarted.Placed ∧ s.restarted.started = true :=
    ⟨placed_of_waiting_nil hwaiting (fun _ => inPlace_stop.mpr hplace) h.inRange, rfl⟩
  have hnext : forall s' : JobScheduler net, s'.Placed ∧ s'.started = true ->
      s'.timers < s'.jobs.length ->
      (s'.addTimer.scheduleNext s'.timers).Placed ∧
        (s'.addTimer.scheduleNext s'.timers).started = true := by
    rintro s' ⟨hplaced, hs'⟩ hmore
    refine ⟨hplaced.next hs' hmore, ?_⟩
    rw [scheduleNext_started]
    exact hs'
  have hlength : s.restarted.timers + s.jobs.length = s.restarted.jobs.length := Nat.zero_add _
  rw [start_eq hstopped]
  exact (startTimers_induction hrestarted hlength hnext).1.1

theorem start_of_started (hstarted : s.started = true) : s.start = s := by
  unfold JobScheduler.start
  rw [hstarted]
  rfl

theorem Sound.start (h : s.Sound)
    (hqueued : s.started = true ∨ InPlace s.jobs s.completed) : s.start.Sound := by
  cases hstarted : s.started with
  | true =>
      rw [start_of_started hstarted]
      exact h
  | false =>
      have hplace : InPlace s.jobs s.completed :=
        hqueued.resolve_left (by rw [hstarted]; simp)
      rcases s.start_frame with ⟨hjobs, -, hexecutions, hrunning⟩
      refine ⟨h.toPlaced.start hstarted (h.stopped hstarted) hplace, ?_, fun hno => ?_,
        fun _ => allArmed_start hstarted, ?_⟩
      · rw [hjobs]
        exact h.named
      · rw [hrunning] at hno
        cases hno
      · rw [hexecutions]
        exact h.ran

theorem pending_expire {n : Nat} {failed : Bool} {w : Wait} (h : s.Pending w) :
    (s.expire n failed).Pending w := by
  unfold JobScheduler.expire
  cases hget : s.waiting[n]? with
  | none => exact h
  | some w' =>
      rcases h with h | ⟨ec, hec, h⟩
      · by_cases hw : w = w'
        · refine Or.inr ⟨if failed then .failure else .success, by cases failed <;> simp, ?_⟩
          rw [hw]
          exact List.mem_append_right _ (List.mem_singleton_self _)
        · refine Or.inl ?_
          have hother : Not (s.waiting[n]? = some w) := by
            rw [hget]
            exact fun heq => hw (Option.some.inj heq).symm
          exact List.mem_eraseIdx_iff_getElem?.mpr (by
            rcases List.mem_iff_getElem?.mp h with ⟨i, hi⟩
            exact ⟨i, fun heq => hother (heq ▸ hi), hi⟩)
      · exact Or.inr ⟨ec, hec, List.mem_append_left _ h⟩

theorem Sound.expire (h : s.Sound) (n : Nat) (failed : Bool) : (s.expire n failed).Sound := by
  have hpending : forall {w : Wait}, s.Pending w -> (s.expire n failed).Pending w :=
    pending_expire
  revert hpending
  unfold JobScheduler.expire
  cases hget : s.waiting[n]? with
  | none => exact fun _ => h
  | some w' =>
      intro hpending
      dsimp only
      refine ⟨⟨fun w hw => h.place w (List.mem_of_mem_eraseIdx hw),
        h.once.sublist (List.Sublist.map _ (List.eraseIdx_sublist _ _)),
        fun hstarted ec w hw hec => ?_, h.inRange⟩, h.named, h.stopped,
        fun hstarted => ⟨(h.armed hstarted).one, fun i hi => ?_⟩, h.ran⟩
      · rcases List.mem_append.mp hw with hw | hw
        · exact h.due hstarted ec w hw hec
        · have heq : w = w' := congrArg Prod.snd (List.mem_singleton.mp hw)
          rw [heq]
          exact (h.place w' (List.mem_of_getElem? hget)).2.2
      · rcases (h.armed hstarted).armed i hi with ⟨w, hw, hplace⟩
        exact ⟨w, hpending hw, hplace⟩

/-- The completion that is taken from the queue was the only one of its place, or another
one is left. -/
theorem Pending.unqueued {n : Nat} {ec : ErrorCode} {w w' : Wait} (h : s.Pending w')
    (hget : s.completed[n]? = some (ec, w)) (hother : w' ≠ w ∨ ec = .operationAborted) :
    Pending { s with completed := s.completed.eraseIdx n } w' := by
  rcases h with h | ⟨ec', hec', h⟩
  · exact Or.inl h
  · refine Or.inr ⟨ec', hec', List.mem_eraseIdx_iff_getElem?.mpr ?_⟩
    rcases List.mem_iff_getElem?.mp h with ⟨i, hi⟩
    refine ⟨i, ?_, hi⟩
    rintro rfl
    cases Option.some.inj (hi.symm.trans hget)
    rcases hother with hne | haborted
    · exact hne rfl
    · exact hec' haborted

/-- The scheduler after the call of a handler, before its timer is set. -/
def called (s : JobScheduler net) (n : Nat) (clients : SortedMap String ApiClient.Client)
    (world : net) (executions : List Execution) : JobScheduler net :=
  { s with
    completed := s.completed.eraseIdx n, clientsByTarget := clients, network := world,
    executions := executions }

theorem Sound.reschedule (h : s.Sound) {n : Nat} {ec : ErrorCode} {w : Wait}
    {clients : SortedMap String ApiClient.Client} {world : net} {executions : List Execution}
    (hstarted : s.started = true) (hget : s.completed[n]? = some (ec, w))
    (hec : ec ≠ .operationAborted)
    (hran : forall e, e ∈ executions -> e.job = e.wait.job) :
    ((s.called n clients world executions).scheduleNext w.jobIndex).Sound := by
  have hjob := h.due hstarted ec w (List.mem_of_getElem? hget) hec
  have hone := (h.armed hstarted).one
  have hindex : w.jobIndex < s.timers := by
    rw [hone]
    exact (List.getElem?_eq_some_iff.mp hjob).1
  have hcalled : (s.called n clients world executions).started = true := hstarted
  have hplaced : (s.called n clients world executions).Placed :=
    ⟨h.place, h.once,
      fun hs ec' w' hw' => h.due hs ec' w' (List.mem_of_mem_eraseIdx hw'), h.inRange⟩
  have hothers : forall j, j < s.timers -> j ≠ w.jobIndex ->
      (s.called n clients world executions).Armed j := by
    intro j hj hne
    rcases (h.armed hstarted).armed j (hone ▸ hj) with ⟨w', hw', hstart, hplace⟩
    have hother : w' ≠ w := fun heq => hne (by rw [← hplace, heq])
    exact ⟨w', hw'.unqueued hget (Or.inl hother), hstart, hplace⟩
  refine ⟨hplaced.scheduleNext hcalled hindex hjob, ?_, fun hno => ?_, fun _ => ⟨?_, ?_⟩, ?_⟩
  · rw [scheduleNext_jobs]
    exact h.named
  · rw [scheduleNext_started, hcalled] at hno
    cases hno
  · rw [scheduleNext_timers, scheduleNext_jobs]
    exact hone
  · intro i hi
    rw [scheduleNext_jobs] at hi
    have hi' : i < s.timers := by
      rw [hone]
      exact hi
    exact armed_scheduleNext hcalled hindex (Nat.le_of_eq hone) hothers hi'
  · rw [scheduleNext_executions]
    exact hran

variable {httpClient : HttpClient net}

theorem onlyClients_runJobOnce (name : String) :
    OnlyClients s (runJobOnce httpClient name s).2 := by
  unfold runJobOnce
  cases s.findJob name with
  | none => rfl
  | some job =>
      exact onlyClients_withClient job
        (ApiClient.Client.callEndpoint httpClient job.method job.path "" job.headers) s

theorem runJobOnce_ok {name : String} {job : ScheduledJob} (hfind : s.findJob name = some job) :
    exists result, (runJobOnce httpClient name s).1 = .ok result := by
  unfold runJobOnce
  rw [hfind]
  exact ⟨_, rfl⟩

theorem findJob_name (hnamed : NamesTell s.jobs) {job : ScheduledJob} (hjob : job ∈ s.jobs) :
    s.findJob job.name = some job := by
  unfold findJob
  cases hfind : s.jobs.find? (fun j => j.name == job.name) with
  | none =>
      have hnot := List.find?_eq_none.mp hfind job hjob
      exact absurd (beq_self_eq_true _) hnot
  | some found =>
      have hname : found.name = job.name := by simpa using List.find?_some hfind
      rw [hnamed found job (List.mem_of_find?_eq_some hfind) hjob hname]

theorem handle_started (ec : ErrorCode) (w : Wait) :
    (s.handle httpClient ec w).started = s.started := by
  unfold handle
  split
  · rfl
  · split
    · exact scheduleNext_started _
    · split
      · rfl
      · rename_i job _
        have hclients := @onlyClients_runJobOnce _ s httpClient job.name
        rcases hrun : runJobOnce httpClient job.name s with ⟨outcome, s'⟩
        rw [hrun] at hclients
        change OnlyClients s s' at hclients
        have hstarted : s'.started = s.started := by
          rw [hclients]
        cases outcome with
        | error t => exact hstarted
        | ok result => exact (scheduleNext_started _).trans hstarted

theorem Sound.dispatch (h : s.Sound) (n : Nat) : (s.dispatch httpClient n).Sound := by
  unfold JobScheduler.dispatch
  cases hget : s.completed[n]? with
  | none => exact h
  | some completion =>
      rcases completion with ⟨ec, w⟩
      dsimp only
      unfold handle
      split
      · rename_i hquiet
        refine ⟨⟨h.place, h.once,
          fun hs ec' w' hw' => h.due hs ec' w' (List.mem_of_mem_eraseIdx hw'), h.inRange⟩,
          h.named, h.stopped, fun hstarted => ⟨(h.armed hstarted).one, fun i hi => ?_⟩, h.ran⟩
        have haborted : ec = .operationAborted :=
          hquiet.resolve_right (fun hno => absurd (hstarted.symm.trans hno) (by simp))
        rcases (h.armed hstarted).armed i hi with ⟨w', hw', hplace⟩
        exact ⟨w', hw'.unqueued hget (Or.inr haborted), hplace⟩
      · rename_i hloud
        rw [not_or] at hloud
        have hstarted : s.started = true := by simpa using hloud.2
        split
        · exact h.reschedule hstarted hget hloud.1 h.ran
        · have hjob := h.due hstarted ec w (List.mem_of_getElem? hget) hloud.1
          have hfind := findJob_name h.named (List.mem_of_getElem? hjob)
          have hfind' : findJob { s with completed := s.completed.eraseIdx n } w.job.name =
              some w.job := hfind
          have hclients := @onlyClients_runJobOnce _ { s with
            completed := s.completed.eraseIdx n } httpClient w.job.name
          rcases @runJobOnce_ok _ _ httpClient _ _ hfind' with ⟨result, hok⟩
          rcases hrun : runJobOnce httpClient w.job.name { s with
            completed := s.completed.eraseIdx n } with ⟨outcome, s'⟩
          rw [hrun] at hok hclients
          have hjob' : ({ s with completed := s.completed.eraseIdx n } :
              JobScheduler net).jobs[w.jobIndex]? = some w.job := hjob
          rw [hjob']
          dsimp only at hok hclients ⊢
          rw [hrun, hfind', hok]
          dsimp only
          rw [hclients]
          refine h.reschedule hstarted hget hloud.1 (fun e he => ?_)
          rcases List.mem_append.mp he with he | he
          · exact h.ran e he
          · rw [List.mem_singleton.mp he]

end Timers

end JobScheduler

namespace Scheduler

variable (httpClient : HttpClient net)

/-- What the calls of a run keep to.  The jobs that are swapped in have names that tell
them apart, and stand where the queued completions expect them; they are swapped while no
timer runs.  A refresh finds its provider and its server answering, and a scheduler that
it does not reload is started. -/
def Orderly (s : Scheduler net) : Event -> Prop
  | .start => s.jobScheduler.started = true ∨
      InPlace s.jobScheduler.jobs s.jobScheduler.completed
  | .setJobs jobs =>
      (s.jobScheduler.started = true -> enabled jobs = s.jobScheduler.jobs) ∧
        NamesTell (enabled jobs)
  | .refresh provided => Answered httpClient provided s ∧
      (forall next, provided = some (.ok next) -> next ≠ s.lastJobs ->
        NamesTell (enabled next) ∧ InPlace (enabled next) s.jobScheduler.completed) ∧
      ((forall next, provided = some (.ok next) -> next = s.lastJobs) ->
        s.jobScheduler.started = true)
  | .stop | .expire _ _ | .dispatch _ => True

section Steps

variable {httpClient} {s : Scheduler net}

theorem sound_reload {next : List ScheduledJob} (h : s.jobScheduler.Sound)
    (hanswered : forall o, o ∈ loginAnswers httpClient (targets (enabled next))
      s.jobScheduler.network -> Returned o)
    (hnamed : NamesTell (enabled next))
    (hplace : InPlace (enabled next) s.jobScheduler.completed) :
    (reload httpClient next s).2.jobScheduler.Sound ∧
      (reload httpClient next s).2.jobScheduler.started = true := by
  rcases reload_run hanswered with ⟨js, hreload, hclients, -⟩
  have hswapped : (swapped s next).Sound := h.stop.setJobs rfl hnamed
  have hqueued : js.started = true ∨ InPlace js.jobs js.completed := by
    rw [hclients]
    exact Or.inr (JobScheduler.inPlace_stop.mpr hplace)
  rw [hreload]
  exact ⟨(hswapped.onlyClients hclients).start hqueued, js.start_frame.2.2.2⟩

theorem refresh_cases {provided : Provided} (hanswered : Answered httpClient provided s) :
    ((refresh httpClient provided s).2 = s ∧
      forall next, provided = some (.ok next) -> next = s.lastJobs) ∨
    exists next, provided = some (.ok next) ∧ next ≠ s.lastJobs ∧
      refresh httpClient provided s = reload httpClient next s := by
  cases provided with
  | none => exact Or.inl ⟨rfl, fun next h => by cases h⟩
  | some outcome =>
      cases outcome with
      | error t =>
          cases t with
          | exception what => exact Or.inl ⟨rfl, fun next h => by cases h⟩
          | other => exact absurd rfl hanswered.1
      | ok next =>
          by_cases hsame : next = s.lastJobs
          · refine Or.inl ⟨congrArg Prod.snd (if_pos hsame), fun next' h => ?_⟩
            cases h
            exact hsame
          · exact Or.inr ⟨next, rfl, hsame, if_neg hsame⟩

theorem sound_refresh {provided : Provided} (h : s.jobScheduler.Sound)
    (horderly : Orderly httpClient s (.refresh provided)) :
    (refresh httpClient provided s).2.jobScheduler.Sound ∧
      (refresh httpClient provided s).2.jobScheduler.started = true := by
  rcases horderly with ⟨hanswered, hreloads, hkeeps⟩
  rcases refresh_cases hanswered with ⟨hsame, hlast⟩ | ⟨next, hnext, hnew, hreload⟩
  · rw [hsame]
    exact ⟨h, hkeeps hlast⟩
  · rcases hreloads next hnext hnew with ⟨hnamed, hplace⟩
    rw [hreload]
    exact sound_reload h (hanswered.2 next hnext hnew) hnamed hplace

theorem sound_step {e : Event} (h : s.jobScheduler.Sound) (horderly : Orderly httpClient s e) :
    (step httpClient s e).jobScheduler.Sound := by
  cases e with
  | start => exact h.start horderly
  | stop => exact h.stop
  | setJobs jobs =>
      cases hstarted : s.jobScheduler.started with
      | true => exact h.onlyClients (JobScheduler.onlyClients_setJobs (horderly.1 hstarted))
      | false => exact h.setJobs hstarted horderly.2
  | refresh provided => exact (sound_refresh h horderly).1
  | expire n failed => exact h.expire n failed
  | dispatch n => exact h.dispatch n

theorem started_step {e : Event} (h : s.jobScheduler.Sound)
    (hstarted : s.jobScheduler.started = true) (horderly : Orderly httpClient s e)
    (he : e ≠ .stop) : (step httpClient s e).jobScheduler.started = true := by
  cases e with
  | start => exact s.jobScheduler.start_frame.2.2.2
  | stop => exact absurd rfl he
  | setJobs jobs => exact hstarted
  | refresh provided => exact (sound_refresh h horderly).2
  | expire n failed =>
      show (s.jobScheduler.expire n failed).started = true
      unfold JobScheduler.expire
      split <;> exact hstarted
  | dispatch n =>
      show (s.jobScheduler.dispatch httpClient n).started = true
      unfold JobScheduler.dispatch
      split
      · exact hstarted
      · rw [JobScheduler.handle_started]
        exact hstarted

end Steps

/-!
# Each handler runs the job of its timer
-/

section Runs

variable {jobs : List ScheduledJob}

theorem foldl_registerJob (world : net) :
    jobs.foldl JobScheduler.registerJob (JobScheduler.make world) =
      { JobScheduler.make world with jobs := enabled jobs } := by
  have hfold : forall (more : List ScheduledJob) (s : JobScheduler net),
      more.foldl JobScheduler.registerJob s = { s with jobs := s.jobs ++ enabled more } := by
    intro more
    induction more with
    | nil => exact fun s => by simp [enabled]
    | cons job rest ih =>
        intro s
        rw [List.foldl_cons, ih]
        unfold JobScheduler.registerJob enabled
        by_cases hjob : job.intervalSeconds ≤ 0
        · have hnot : Not (0 < job.intervalSeconds) := by omega
          simp [hjob, hnot]
        · have hpos : 0 < job.intervalSeconds := by omega
          simp [hjob, hpos]
  exact hfold jobs _

theorem sound_initializeWith (hasProvider : Bool) (world : net)
    (hnamed : NamesTell (enabled jobs)) :
    (initializeWith httpClient hasProvider jobs world).2.jobScheduler.Sound := by
  have hclients := onlyClients_loginEach httpClient (targets (enabled jobs)) true
    { JobScheduler.make world with jobs := enabled jobs }
  have hregistered : JobScheduler.Sound
      { JobScheduler.make world with jobs := enabled jobs } :=
    { JobScheduler.placed_of_waiting_nil rfl (fun h => by cases h) rfl with
      named := hnamed
      stopped := fun _ => rfl
      armed := fun h => by cases h
      ran := fun e he => absurd he List.not_mem_nil }
  unfold initializeWith
  rw [foldl_registerJob, authenticateTargets_eq]
  exact hregistered.onlyClients hclients

/-- Handlers have executed the jobs that their timers were armed for, and stayed within the
list of jobs; after a refresh, and until a stop, each job has one armed timer, which no
other wait is on. -/
structure RunsItsJobs (start : Scheduler net) (es : List Event) : Prop where
  ran : forall e, e ∈ (after (step httpClient) start es).jobScheduler.executions ->
    e.job = e.wait.job
  inRange : (after (step httpClient) start es).jobScheduler.outOfRange = false
  armed : forall pre provided post, es = pre ++ .refresh provided :: post ->
    Not (Event.stop ∈ post) ->
      (after (step httpClient) start es).jobScheduler.AllArmed ∧
      ((after (step httpClient) start es).jobScheduler.waiting.map Wait.jobIndex).Nodup ∧
      forall w, w ∈ (after (step httpClient) start es).jobScheduler.waiting ->
        w.start = (after (step httpClient) start es).jobScheduler.starts

theorem sound_after {start : Scheduler net} {es : List Event}
    (h : start.jobScheduler.Sound)
    (horderly : Along (step httpClient) (Orderly httpClient) start es) :
    (after (step httpClient) start es).jobScheduler.Sound :=
  @invariant_after (Scheduler net) Event (step httpClient) (Orderly httpClient)
    (fun s => s.jobScheduler.Sound) start es h (fun _ _ hs he => sound_step hs he) horderly

theorem started_after {start : Scheduler net} {pre post : List Event} {provided : Provided}
    (h : start.jobScheduler.Sound)
    (horderly : Along (step httpClient) (Orderly httpClient) start
      (pre ++ .refresh provided :: post)) (hpost : Not (Event.stop ∈ post)) :
    (after (step httpClient) start (pre ++ .refresh provided :: post)).jobScheduler.started =
      true := by
  rcases along_append.mp horderly with ⟨hpre, hrest⟩
  rcases along_cons.mp hrest with ⟨hrefresh, hafter⟩
  have hmid := sound_after httpClient h hpre
  rw [after_append, after_cons]
  generalize after (step httpClient) start pre = s at hmid hrefresh hafter ⊢
  have hstart : (step httpClient s (.refresh provided)).jobScheduler.Sound ∧
      (step httpClient s (.refresh provided)).jobScheduler.started = true :=
    sound_refresh hmid hrefresh
  generalize step httpClient s (.refresh provided) = s' at hafter hstart ⊢
  clear hrest horderly hmid hrefresh
  induction post generalizing s' with
  | nil => exact hstart.2
  | cons e rest ih =>
      rcases along_cons.mp hafter with ⟨he, hnext⟩
      have hne : e ≠ .stop := fun heq => hpost (heq ▸ List.mem_cons_self)
      exact ih (fun hmem => hpost (List.mem_cons_of_mem _ hmem)) _ hnext
        ⟨sound_step hstart.1 he, started_step hstart.1 hstart.2 he hne⟩

theorem runsItsJobs_of_orderly (hasProvider : Bool) (world : net) {es : List Event}
    (hnamed : NamesTell (enabled jobs))
    (horderly : Along (step httpClient) (Orderly httpClient)
      (initializeWith httpClient hasProvider jobs world).2 es) :
    RunsItsJobs httpClient (initializeWith httpClient hasProvider jobs world).2 es := by
  have hstart := sound_initializeWith httpClient hasProvider world hnamed
  have hsound := sound_after httpClient hstart horderly
  refine ⟨hsound.ran, hsound.inRange, ?_⟩
  rintro pre provided post rfl hpost
  have hstarted := started_after httpClient hstart horderly hpost
  exact ⟨hsound.armed hstarted, hsound.once, fun w hw => (hsound.place w hw).1⟩

theorem orderly_refresh_none {s : Scheduler net} (hstarted : s.jobScheduler.started = true) :
    Orderly httpClient s (.refresh none) := by
  have hnone : forall next : List ScheduledJob, Not ((none : Provided) = some (.ok next)) := by
    simp
  refine ⟨⟨by simp, ?_⟩, ?_, fun _ => hstarted⟩
  · exact fun next h => absurd h (hnone next)
  · exact fun next h => absurd h (hnone next)

/-- A timer expires, its job runs, and a refresh without a provider changes nothing. -/
theorem runsItsJobs_of_orderly_oneTenant :
    RunsItsJobs oneUnreachable
      (initializeWith oneUnreachable false [billingOf "https://a.example"] ()).2
      [.start, .expire 0 false, .dispatch 0, .refresh none] := by
  have hnamed : NamesTell (enabled [billingOf "https://a.example"]) := by
    intro a b ha hb _
    rw [List.mem_singleton.mp (List.mem_filter.mp ha).1,
      List.mem_singleton.mp (List.mem_filter.mp hb).1]
  refine runsItsJobs_of_orderly oneUnreachable false () hnamed ?_
  refine along_cons.mpr ⟨Or.inr (fun ec w h => ?_), along_cons.mpr ⟨trivial,
    along_cons.mpr ⟨trivial, along_cons.mpr
      ⟨orderly_refresh_none oneUnreachable (by decide), along_nil⟩⟩⟩⟩
  have hnone : (initializeWith oneUnreachable false
      [billingOf "https://a.example"] ()).2.jobScheduler.completed = [] := by
    decide
  rw [hnone] at h
  exact absurd h List.not_mem_nil

/-- Of two tenants' jobs of one name the first runs on both timers; and a completion that is
queued across a refresh runs a job that its timer was not armed for, or none. -/
theorem sameName_runsOtherJob :
    Not (RunsItsJobs oneUnreachable
      (initializeWith oneUnreachable false
        [billingOf "https://a.example", billingOf "https://c.example"] ()).2
      [.start, .expire 1 false, .dispatch 0]) ∧
    Not (RunsItsJobs oneUnreachable
      (initializeWith oneUnreachable true
        [billingOf "https://a.example",
          { billingOf "https://a.example" with name := "send_event_reminders" }] ()).2
      [.start, .expire 1 false, .refresh (some (.ok [billingOf "https://a.example"])),
        .dispatch 0]) := by
  constructor
  · intro h
    have hran := h.ran ⟨⟨1, 1, billingOf "https://c.example"⟩, billingOf "https://a.example"⟩
      (by decide)
    exact absurd hran (by decide)
  · intro h
    exact absurd h.inRange (by decide)

end Runs

end Scheduler

end Scheduler
end ServerComponents
