import ServerComponents.Scheduler.JobScheduler

/-!
# Armed timers

A timer is armed from the moment that it is set until its handler has run.
-/

namespace ServerComponents
namespace Scheduler
namespace JobScheduler

open Control
open Transactions (Thrown)

variable {net : Type}

/-- A wait whose handler will run or has been queued, unless it was cancelled. -/
def Pending (s : JobScheduler net) (w : Wait) : Prop :=
  w ∈ s.waiting ∨ exists ec, ec ≠ .operationAborted ∧ (ec, w) ∈ s.completed

def Armed (s : JobScheduler net) (i : Nat) : Prop :=
  exists w, s.Pending w ∧ w.start = s.starts ∧ w.jobIndex = i

section Cancel

variable {s : JobScheduler net} {cancelled : Wait -> Bool}

theorem mem_waiting_cancel {w : Wait} :
    w ∈ (s.cancel cancelled).waiting <-> w ∈ s.waiting ∧ cancelled w = false := by
  simp [cancel]

theorem mem_completed_cancel {w : Wait} {ec : ErrorCode} (hec : ec ≠ .operationAborted) :
    (ec, w) ∈ (s.cancel cancelled).completed <-> (ec, w) ∈ s.completed := by
  unfold cancel
  rw [List.mem_append]
  constructor
  · rintro (h | h)
    · exact h
    · rcases List.mem_map.mp h with ⟨w', -, heq⟩
      cases heq
      exact absurd rfl hec
  · exact Or.inl

theorem Pending.cancel {w : Wait} (h : s.Pending w) (hw : cancelled w = false) :
    (s.cancel cancelled).Pending w := by
  rcases h with h | ⟨ec, hec, h⟩
  · exact Or.inl (mem_waiting_cancel.mpr ⟨h, hw⟩)
  · exact Or.inr ⟨ec, hec, (mem_completed_cancel hec).mpr h⟩

end Cancel

section Schedule

variable {s : JobScheduler net}

theorem scheduleNext_eq {i : Nat} {job : ScheduledJob} (hstarted : s.started = true)
    (hi : i < s.timers) (hjob : s.jobs[i]? = some job) :
    s.scheduleNext i = { s.cancel (s.onTimer i) with
      waiting := (s.cancel (s.onTimer i)).waiting ++ [⟨s.starts, i, job⟩] } := by
  have hguard : Not (s.started = false ∨ s.timers ≤ i) := by
    rintro (h | h)
    · exact absurd (hstarted.symm.trans h) (by simp)
    · omega
  unfold scheduleNext
  rw [if_neg hguard, hjob]
  rfl

theorem armed_scheduleNext {i : Nat} (hstarted : s.started = true) (hi : i < s.timers)
    (hjobs : s.timers ≤ s.jobs.length)
    (hothers : forall j, j < s.timers -> j ≠ i -> s.Armed j) {j : Nat} (hj : j < s.timers) :
    (s.scheduleNext i).Armed j := by
  have hlt : i < s.jobs.length := Nat.lt_of_lt_of_le hi hjobs
  have hjob : s.jobs[i]? = some s.jobs[i] := List.getElem?_eq_getElem hlt
  rw [scheduleNext_eq hstarted hi hjob]
  by_cases hji : j = i
  · exact ⟨_, Or.inl (List.mem_append_right _ (List.mem_singleton_self _)), rfl, hji.symm⟩
  · rcases hothers j hj hji with ⟨w, hpending, hstart, hindex⟩
    have hw : s.onTimer i w = false := by
      unfold onTimer
      rw [hindex]
      simp [hji]
    refine ⟨w, ?_, hstart, hindex⟩
    rcases hpending.cancel hw with h | h
    · exact Or.inl (List.mem_append_left _ h)
    · exact Or.inr h

theorem scheduleNext_frame (s : JobScheduler net) (i : Nat) :
    s.scheduleNext i = { s with
      waiting := (s.scheduleNext i).waiting
      completed := (s.scheduleNext i).completed
      outOfRange := (s.scheduleNext i).outOfRange } := by
  unfold scheduleNext
  split
  · rfl
  · split <;> rfl

@[simp] theorem scheduleNext_jobs (i : Nat) : (s.scheduleNext i).jobs = s.jobs := by
  rw [scheduleNext_frame]

@[simp] theorem scheduleNext_timers (i : Nat) : (s.scheduleNext i).timers = s.timers := by
  rw [scheduleNext_frame]

@[simp] theorem scheduleNext_started (i : Nat) : (s.scheduleNext i).started = s.started := by
  rw [scheduleNext_frame]

@[simp] theorem scheduleNext_executions (i : Nat) :
    (s.scheduleNext i).executions = s.executions := by
  rw [scheduleNext_frame]

@[simp] theorem scheduleNext_clientsByTarget (i : Nat) :
    (s.scheduleNext i).clientsByTarget = s.clientsByTarget := by
  rw [scheduleNext_frame]

/-- What holds before the timers are added, and is kept when one more is added and set,
holds when each job has its timer. -/
theorem startTimers_induction {inv : JobScheduler net -> Prop} {n : Nat}
    (hs : inv s) (hlength : s.timers + n = s.jobs.length)
    (hstep : forall s : JobScheduler net, inv s -> s.timers < s.jobs.length ->
      inv (s.addTimer.scheduleNext s.timers)) :
    inv (startTimers n s) ∧ (startTimers n s).timers = (startTimers n s).jobs.length := by
  induction n generalizing s with
  | zero => exact ⟨hs, hlength⟩
  | succ n ih =>
      have hnext : (s.addTimer.scheduleNext s.timers).timers + n =
          (s.addTimer.scheduleNext s.timers).jobs.length := by
        rw [scheduleNext_timers, scheduleNext_jobs]
        show s.timers + 1 + n = s.jobs.length
        omega
      exact ih (hstep s hs (by omega)) hnext

def restarted (s : JobScheduler net) : JobScheduler net :=
  { s.clearTimers with started := true, starts := s.starts + 1 }

theorem start_eq (hstopped : s.started = false) :
    s.start = startTimers s.jobs.length s.restarted := by
  unfold start
  rw [hstopped]
  rfl

/-- Every job has its timer, and all timers are armed. -/
structure AllArmed (s : JobScheduler net) : Prop where
  one : s.timers = s.jobs.length
  armed : forall i, i < s.jobs.length -> s.Armed i

structure Starting (jobs : List ScheduledJob) (s : JobScheduler net) : Prop where
  started : s.started = true
  jobs : s.jobs = jobs
  armed : forall i, i < s.timers -> s.Armed i

theorem Starting.next {jobs : List ScheduledJob} (h : Starting jobs s)
    (hmore : s.timers < s.jobs.length) : Starting jobs (s.addTimer.scheduleNext s.timers) where
  started := by
    rw [scheduleNext_started]
    exact h.started
  jobs := by
    rw [scheduleNext_jobs]
    exact h.jobs
  armed := by
    have hothers : forall j, j < s.timers + 1 -> j ≠ s.timers -> s.addTimer.Armed j :=
      fun j hj hne => h.armed j (by omega)
    have hstarted : s.addTimer.started = true := h.started
    intro i hi
    rw [scheduleNext_timers] at hi
    exact armed_scheduleNext hstarted (Nat.lt_succ_self _) hmore hothers hi

theorem allArmed_start (hstopped : s.started = false) : s.start.AllArmed := by
  have hstart : Starting s.jobs s.restarted :=
    ⟨rfl, rfl, fun i hi => absurd hi (Nat.not_lt_zero i)⟩
  rcases startTimers_induction hstart (Nat.zero_add _) (fun _ h => h.next) with
    ⟨hstarting, hone⟩
  rw [start_eq hstopped]
  exact ⟨hone, fun i hi => hstarting.armed i (hone ▸ hi)⟩

theorem start_frame (s : JobScheduler net) :
    s.start.jobs = s.jobs ∧ s.start.clientsByTarget = s.clientsByTarget ∧
      s.start.executions = s.executions ∧ s.start.started = true := by
  cases hstarted : s.started with
  | true =>
      unfold start
      rw [hstarted]
      exact ⟨rfl, rfl, rfl, hstarted⟩
  | false =>
      rw [start_eq hstarted]
      have hsame : forall (n : Nat) (s' : JobScheduler net),
          (startTimers n s').jobs = s'.jobs ∧
            (startTimers n s').clientsByTarget = s'.clientsByTarget ∧
            (startTimers n s').executions = s'.executions ∧
            (startTimers n s').started = s'.started := by
        intro n
        induction n with
        | zero => exact fun s' => ⟨rfl, rfl, rfl, rfl⟩
        | succ n ih =>
            intro s'
            have hnext := ih (s'.addTimer.scheduleNext s'.timers)
            simp only [scheduleNext_jobs, scheduleNext_clientsByTarget,
              scheduleNext_executions, scheduleNext_started] at hnext
            exact hnext
      exact hsame _ _

end Schedule

end JobScheduler
end Scheduler
end ServerComponents
