import ServerComponents.Statements.Interleaved

/-!
# Background jobs

Requests queue jobs, and every job executes its program one statement at a time, each
at an arbitrary later moment, against the store as the requests and the other jobs have
left it.  Any statement may be answered with a failure.  A program that ends with an
error has let an exception escape.
-/

namespace ServerComponents
namespace Statements

namespace Prog

variable {input store error a : Type}

/-- The next statement of a program; a fault is its answer when it fails. -/
def stepFaulty (i : input) (fault : Option error) (p : Prog input store error a)
    (s : store) : store × Prog input store error a :=
  match fault with
  | none => p.step i s
  | some err =>
      match p with
      | done value => (s, done value)
      | fail err' => (s, fail err')
      | query _ next => (s, next (.error err))
      | update _ next => (s, next (.error err))

def isFail : Prog input store error a -> Bool
  | fail _ => true
  | _ => false

/-- A program that ends without an error, whatever its statements answer. -/
def NeverFails : Prog input store error a -> Prop
  | done _ => True
  | fail _ => False
  | query _ next => forall reply, NeverFails (next reply)
  | update _ next => forall reply, NeverFails (next reply)

section NeverFails

variable {p : Prog input store error a}

theorem NeverFails.isFail (h : NeverFails p) : p.isFail = false := by
  cases p with
  | done value => rfl
  | fail err => exact h.elim
  | query read next => rfl
  | update write next => rfl

theorem NeverFails.stepFaulty (h : NeverFails p) (i : input) (fault : Option error)
    (s : store) : NeverFails (p.stepFaulty i fault s).2 := by
  cases p with
  | done value => cases fault <;> exact trivial
  | fail err => exact h.elim
  | query read next => cases fault <;> exact h _
  | update write next =>
      cases fault with
      | some err => exact h _
      | none =>
          simp only [Prog.stepFaulty, Prog.step]
          split <;> exact h _

theorem neverFails_tryCatch {handler : error -> Prog input store error a}
    (h : forall err, NeverFails (handler err)) : NeverFails (p.tryCatch handler) := by
  induction p with
  | done value => exact trivial
  | fail err => exact h err
  | query read next ih => exact fun reply => ih reply
  | update write next ih => exact fun reply => ih reply

theorem isFail_stepFaulty (h : p.isFail = true) (i : input) (fault : Option error)
    (s : store) : (p.stepFaulty i fault s).2.isFail = true := by
  cases p with
  | fail err => cases fault <;> rfl
  | done value => cases h
  | query read next => cases h
  | update write next => cases h

end NeverFails

end Prog

/-!
# The pool
-/

structure Running (job input store error : Type) : Type 1 where
  job : job
  executed : Nat
  rest : Prog input store error Unit

structure Pool (job input store error : Type) : Type 1 where
  shared : store
  jobs : List (Running job input store error)

/-- A request is served, or the next statement of a job is executed. -/
inductive PoolEvent (request input error : Type) where
  | serve (r : request)
  | turn (k : Nat) (i : input) (fault : Option error)

namespace Running

variable {job input store error : Type}

def start (body : job -> Prog input store error Unit) (j : job) :
    Running job input store error where
  job := j
  executed := 0
  rest := body j

def resume (r : Running job input store error) (i : input) (fault : Option error)
    (s : store) : Running job input store error :=
  { r with executed := r.executed + 1, rest := (r.rest.stepFaulty i fault s).2 }

end Running

namespace Pool

variable {job request input store error : Type}

def execute (p : Pool job input store error) (k : Nat) (i : input) (fault : Option error) :
    Pool job input store error :=
  match p.jobs[k]? with
  | none => p
  | some r =>
      { shared := (r.rest.stepFaulty i fault p.shared).1
        jobs := p.jobs.set k (r.resume i fault p.shared) }

section Step

variable (body : job -> Prog input store error Unit)
  (serve : request -> store -> store × List job)

def step (p : Pool job input store error) :
    PoolEvent request input error -> Pool job input store error
  | .serve r =>
      { shared := (serve r p.shared).1
        jobs := p.jobs ++ (serve r p.shared).2.map (Running.start body) }
  | .turn k i fault => p.execute k i fault

end Step

def Escaped (p : Pool job input store error) : Prop :=
  exists r, r ∈ p.jobs ∧ r.rest.isFail = true

/-- The turn of a job passes a test in the store that it meets. -/
def TurnsPass (test : store -> Running job input store error -> input -> Option error -> Prop)
    (p : Pool job input store error) : PoolEvent request input error -> Prop
  | .serve _ => True
  | .turn k i fault => forall r, p.jobs[k]? = some r -> test p.shared r i fault

/-- A state of jobs that has not failed, and that a turn keeps exactly when the turn
passes the test. -/
structure Supervision (body : job -> Prog input store error Unit)
    (healthy : Running job input store error -> Prop)
    (test : store -> Running job input store error -> input -> Option error -> Prop) :
    Prop where
  start : forall j, healthy (Running.start body j)
  fine : forall r, healthy r -> r.rest.isFail = false
  keeps : forall s r i fault, healthy r -> test s r i fault -> healthy (r.resume i fault s)
  breaks : forall s r i fault, healthy r -> Not (test s r i fault) ->
    (r.resume i fault s).rest.isFail = true

section Rules

variable {body : job -> Prog input store error Unit}
  {serve : request -> store -> store × List job}
  {healthy : Running job input store error -> Prop}
  {test : store -> Running job input store error -> input -> Option error -> Prop}
  {p : Pool job input store error} {e : PoolEvent request input error}
  {es : List (PoolEvent request input error)}

theorem execute_none {k : Nat} (h : p.jobs[k]? = none) (i : input) (fault : Option error) :
    p.execute k i fault = p := by
  unfold execute
  rw [h]

theorem execute_some {k : Nat} {r : Running job input store error}
    (h : p.jobs[k]? = some r) (i : input) (fault : Option error) :
    (p.execute k i fault).jobs = p.jobs.set k (r.resume i fault p.shared) ∧
      r.resume i fault p.shared ∈ (p.execute k i fault).jobs := by
  have hjobs : (p.execute k i fault).jobs = p.jobs.set k (r.resume i fault p.shared) := by
    unfold execute
    rw [h]
  refine ⟨hjobs, ?_⟩
  rw [hjobs]
  exact List.mem_set (List.getElem?_eq_some_iff.mp h).1 _

theorem escaped_step (h : p.Escaped) (e : PoolEvent request input error) :
    (p.step body serve e).Escaped := by
  rcases h with ⟨r, hmem, hfail⟩
  cases e with
  | serve request => exact ⟨r, List.mem_append_left _ hmem, hfail⟩
  | turn k i fault =>
      show (p.execute k i fault).Escaped
      cases hk : p.jobs[k]? with
      | none =>
          rw [execute_none hk]
          exact ⟨r, hmem, hfail⟩
      | some r' =>
          rcases execute_some hk i fault with ⟨hjobs, hresumed⟩
          rcases List.getElem?_of_mem hmem with ⟨k', hk'⟩
          by_cases hsame : k = k'
          · rw [hsame, hk'] at hk
            cases hk
            exact ⟨_, hresumed, Prog.isFail_stepFaulty hfail i fault _⟩
          · refine ⟨r, ?_, hfail⟩
            rw [hjobs]
            exact List.mem_of_getElem? (by rw [List.getElem?_set_ne hsame, hk'])

theorem escaped_after (h : p.Escaped) (es : List (PoolEvent request input error)) :
    (after (Pool.step body serve) p es).Escaped :=
  invariant_run h (fun _ e hescaped => escaped_step hescaped e)

theorem Supervision.not_escaped (h : Supervision body healthy test)
    (hp : forall r, r ∈ p.jobs -> healthy r) : Not p.Escaped := by
  rintro ⟨r, hmem, hfail⟩
  rw [h.fine r (hp r hmem)] at hfail
  cases hfail

theorem Supervision.step_healthy (h : Supervision body healthy test)
    (hp : forall r, r ∈ p.jobs -> healthy r) (hpass : p.TurnsPass test e) :
    forall r, r ∈ (p.step body serve e).jobs -> healthy r := by
  cases e with
  | serve request =>
      intro r hr
      rcases List.mem_append.mp hr with hold | hnew
      · exact hp r hold
      · rcases List.mem_map.mp hnew with ⟨j, _, hj⟩
        rw [← hj]
        exact h.start j
  | turn k i fault =>
      show forall r, r ∈ (p.execute k i fault).jobs -> healthy r
      cases hk : p.jobs[k]? with
      | none =>
          rw [execute_none hk]
          exact hp
      | some r =>
          rw [(execute_some hk i fault).1]
          intro r' hr'
          rcases List.mem_or_eq_of_mem_set hr' with hold | hnew
          · exact hp r' hold
          · rw [hnew]
            exact h.keeps _ _ _ _ (hp r (List.mem_of_getElem? hk)) (hpass r hk)

theorem Supervision.step_escaped (h : Supervision body healthy test)
    (hp : forall r, r ∈ p.jobs -> healthy r) (hpass : Not (p.TurnsPass test e)) :
    (p.step body serve e).Escaped := by
  cases e with
  | serve request => exact absurd trivial hpass
  | turn k i fault =>
      simp only [TurnsPass, Classical.not_forall] at hpass
      rcases hpass with ⟨r, hk, hfails⟩
      exact ⟨_, (execute_some hk i fault).2,
        h.breaks _ _ _ _ (hp r (List.mem_of_getElem? hk)) hfails⟩

theorem Supervision.not_escaped_iff (h : Supervision body healthy test)
    (hp : forall r, r ∈ p.jobs -> healthy r) :
    Not (after (Pool.step body serve) p es).Escaped <->
      Along (Pool.step body serve) (Pool.TurnsPass test) p es := by
  induction es generalizing p with
  | nil => exact ⟨fun _ => along_nil, fun _ => h.not_escaped hp⟩
  | cons e es ih =>
      rw [along_cons, after_cons]
      by_cases hpass : p.TurnsPass test e
      · rw [ih (h.step_healthy hp hpass)]
        exact ⟨fun hrest => ⟨hpass, hrest⟩, fun hboth => hboth.2⟩
      · constructor
        · intro hnot
          exact absurd (escaped_after (h.step_escaped hp hpass) es) hnot
        · intro hboth
          exact absurd hboth.1 hpass

end Rules

end Pool

end Statements
end ServerComponents
