import ServerComponents.Control.Work

/-!
# The production transaction provider

One call checks its connection, opens a transaction, runs the function of its caller and
commits.  The connection is a parameter: it answers each request as it likes, and it may
break at any of them.
-/

namespace ServerComponents
namespace Transactions

open Control

/-- What is thrown: something that `catch (const std::exception&)` catches, or not. -/
inductive Thrown where
  | exception (what : String)
  | other
  deriving Repr, DecidableEq

def Thrown.isException : Thrown -> Bool
  | .exception _ => true
  | .other => false

/-- A connection, by how it answers in each state of the world.  Its `BEGIN` is the
constructor of `pqxx::work`, its rollback the destructor. -/
structure Connection (world : Type) where
  isOpen : world -> Bool
  reset : Work world Thrown Unit
  begin : Work world Thrown Unit
  commit : Work world Thrown Unit
  rollback : world -> world
  begin_open : forall w, (begin w).1 = .ok () -> isOpen (begin w).2 = true

inductive Step where
  | checked (isOpen : Bool)
  | reset (succeeded : Bool)
  | began (succeeded isOpen : Bool)
  | invoked (returned : Bool)
  | committed (succeeded : Bool)
  | rolledBack
  deriving Repr, DecidableEq

abbrev Provider (world : Type) (a : Type) := Work (world × List Step) Thrown a

def succeeded (outcome : Except Thrown Unit) : Bool :=
  match outcome with
  | .ok _ => true
  | .error _ => false

section Provider

variable {world : Type}

variable (connection : Connection world)

def checkOpen : Provider world Bool :=
  fun s => (.ok (connection.isOpen s.1), (s.1, s.2 ++ [.checked (connection.isOpen s.1)]))

def reconnect : Provider world Unit :=
  Work.record (fun outcome _ => .reset (succeeded outcome)) connection.reset

def beginWork : Provider world Unit :=
  Work.record (fun outcome s => .began (succeeded outcome) (connection.isOpen s)) connection.begin

def rollbackWork : Provider world Unit :=
  Work.modify (fun s => (connection.rollback s.1, s.2 ++ [.rolledBack]))

/-- A failed `BEGIN` is thrown on, unless the connection turns out to be closed. -/
def beginAgain (thrown : Thrown) : Provider world Unit := do
  if ← checkOpen connection then
    Work.raise thrown
  else do
    reconnect connection
    beginWork connection

def openTransaction : Provider world Unit := do
  if ← checkOpen connection then pure () else reconnect connection
  (beginWork connection).catching [⟨Thrown.isException, beginAgain connection⟩]

/-- The function runs once; what it or the commit throws leaves through the destructor. -/
def runAndCommit (databaseFunc : Work world Thrown Unit) : Provider world Unit :=
  Work.catching
    (do
      Work.record (fun outcome _ => .invoked (succeeded outcome)) databaseFunc
      Work.record (fun outcome _ => .committed (succeeded outcome)) connection.commit)
    [⟨fun _ => true, fun thrown => do
      rollbackWork connection
      Work.raise thrown⟩]

def runInTransaction (databaseFunc : Work world Thrown Unit) :
    Provider world Unit := do
  openTransaction connection
  runAndCommit connection databaseFunc

def stepsOf (databaseFunc : Work world Thrown Unit) (w : world) : List Step :=
  (runInTransaction connection databaseFunc (w, [])).2.2

end Provider

def Step.isOpening : Step -> Bool
  | .checked _ => true
  | .reset _ => true
  | .began _ _ => true
  | .invoked _ => false
  | .committed _ => false
  | .rolledBack => false

def Step.isInvoked : Step -> Bool
  | .invoked _ => true
  | _ => false

def Step.isCommitted : Step -> Bool
  | .committed _ => true
  | _ => false

/-- The function runs at most once, right after a `BEGIN` that succeeded on an open
connection, and a commit comes right after the function has returned. -/
structure AtMostOnce (steps : List Step) : Prop where
  invokedOnce : steps.countP Step.isInvoked ≤ 1
  committedOnce : steps.countP Step.isCommitted ≤ 1
  insideTransaction : forall before returned later,
    steps = before ++ .invoked returned :: later ->
      exists before', before = before' ++ [.began true true]
  afterReturn : forall before ok later, steps = before ++ .committed ok :: later ->
    exists before', before = before' ++ [.invoked true]
  notReconnected : .reset false ∈ steps -> forall returned, .invoked returned ∉ steps

/-!
# The steps of a call
-/

section Calls

variable {world : Type} (connection : Connection world)

structure Opens (outcome : Except Thrown Unit) (steps : List Step) : Prop where
  opening : forall step, step ∈ steps -> step.isOpening = true
  began : outcome = .ok () -> exists before, steps = before ++ [.began true true]
  reconnected : outcome = .ok () -> .reset false ∉ steps

theorem records_checkOpen :
    (checkOpen connection).Records (fun outcome s steps =>
      outcome = .ok (connection.isOpen s) ∧ steps = [.checked (connection.isOpen s)]) :=
  fun s => ⟨[.checked (connection.isOpen s.1)], rfl, rfl, rfl⟩

theorem records_reconnect :
    (reconnect connection).Records (fun outcome _ steps =>
      steps = [.reset (succeeded outcome)]) :=
  Work.records_record (fun _ => rfl)

theorem opens_error {t : Thrown} {steps : List Step}
    (h : forall step, step ∈ steps -> step.isOpening = true) : Opens (.error t) steps := by
  constructor
  · exact h
  · intro hok
    cases hok
  · intro hok
    cases hok

theorem records_beginWork :
    (beginWork connection).Records (fun outcome _ steps =>
      Opens outcome steps ∧ .reset false ∉ steps) := by
  refine Work.records_record (fun s => ?_)
  have hopen := connection.begin_open s
  constructor
  · cases hbegin : (connection.begin s).1 with
    | error t => exact opens_error (by simp [Step.isOpening])
    | ok u =>
        rw [hopen hbegin]
        constructor
        · simp [Step.isOpening]
        · intro _
          exact ⟨[], rfl⟩
        · simp
  · simp

theorem Opens.after {outcome : Except Thrown Unit} {first steps : List Step}
    (h : Opens outcome steps) (hopening : forall step, step ∈ first -> step.isOpening = true)
    (hreset : .reset false ∉ first) : Opens outcome (first ++ steps) := by
  constructor
  · intro step hstep
    rcases List.mem_append.mp hstep with hmem | hmem
    · exact hopening step hmem
    · exact h.opening step hmem
  · intro hok
    rcases h.began hok with ⟨before, hbefore⟩
    exact ⟨first ++ before, by rw [hbefore, List.append_assoc]⟩
  · intro hok hmem
    rcases List.mem_append.mp hmem with hmem | hmem
    · exact hreset hmem
    · exact h.reconnected hok hmem

theorem records_reconnectAndBegin :
    ((reconnect connection).bind (fun _ => beginWork connection)).Records
      (fun outcome _ steps => Opens outcome steps) := by
  refine Work.records_bind (records_reconnect connection)
    (fun _ => records_beginWork connection) ?_ ?_
  · intro t s steps hsteps
    rw [hsteps]
    exact opens_error (by simp [Step.isOpening])
  · intro value s steps outcome s' steps' hsteps hopens
    rw [hsteps]
    exact hopens.1.after (by simp [Step.isOpening]) (by simp [succeeded])

theorem records_checked {f : Bool -> Provider world Unit}
    (hf : forall isOpen, (f isOpen).Records (fun outcome _ steps => Opens outcome steps)) :
    ((checkOpen connection).bind f).Records (fun outcome _ steps => Opens outcome steps) := by
  refine Work.records_bind (records_checkOpen connection) hf ?_ ?_
  · intro t s steps hsteps
    cases hsteps.1
  · intro value s steps outcome s' steps' hsteps hopens
    rw [hsteps.2]
    exact hopens.after (by simp [Step.isOpening]) (by simp)

theorem records_beginAgain (t : Thrown) :
    (beginAgain connection t).Records (fun outcome _ steps => Opens outcome steps) := by
  refine records_checked connection (fun isOpen => ?_)
  cases isOpen with
  | true => exact Work.records_raise (fun _ => opens_error (by simp))
  | false => exact records_reconnectAndBegin connection

theorem records_beginCatching :
    ((beginWork connection).catching [⟨Thrown.isException, beginAgain connection⟩]).Records
      (fun outcome _ steps => Opens outcome steps) := by
  refine Work.records_catching (records_beginWork connection)
    (records_beginAgain connection) ?_ ?_ ?_
  · intro value s steps hopens
    exact hopens.1
  · intro t s steps _ hopens
    exact hopens.1
  · intro t s steps outcome s' steps' hfirst hopens
    exact hopens.after hfirst.1.opening hfirst.2

theorem records_openTransaction :
    (openTransaction connection).Records (fun outcome _ steps => Opens outcome steps) := by
  refine records_checked connection (fun isOpen => ?_)
  cases isOpen with
  | true => exact records_beginCatching connection
  | false =>
      refine Work.records_bind (records_reconnect connection)
        (fun _ => records_beginCatching connection) ?_ ?_
      · intro t s steps hsteps
        rw [hsteps]
        exact opens_error (by simp [Step.isOpening])
      · intro value s steps outcome s' steps' hsteps hopens
        rw [hsteps]
        exact hopens.after (by simp [Step.isOpening]) (by simp [succeeded])

def Works (steps : List Step) : Prop :=
  steps = [.invoked false, .rolledBack] ∨
    steps = [.invoked true, .committed false, .rolledBack] ∨
      steps = [.invoked true, .committed true]

theorem records_rollback (t : Thrown) :
    ((rollbackWork connection).bind (fun _ => (Work.raise t : Provider world Unit))).Records
      (fun _ _ steps => steps = [.rolledBack]) :=
  fun _ => ⟨[.rolledBack], rfl, rfl⟩

theorem records_runAndCommit (databaseFunc : Work world Thrown Unit) :
    (runAndCommit connection databaseFunc).Records (fun _ _ steps => Works steps) := by
  have hbody : ((Work.record (fun outcome _ => Step.invoked (succeeded outcome))
      databaseFunc).bind fun _ =>
        Work.record (fun outcome _ => Step.committed (succeeded outcome))
          connection.commit).Records
      (fun outcome _ steps => (steps = [.invoked true, .committed true] ∧ outcome = .ok ()) ∨
        ((steps = [.invoked false] ∨ steps = [.invoked true, .committed false]) ∧
          exists t, outcome = .error t)) := by
    have hinvoke : (Work.record (fun outcome _ => Step.invoked (succeeded outcome))
        databaseFunc).Records (fun outcome _ steps => steps = [.invoked (succeeded outcome)]) :=
      Work.records_record (fun _ => rfl)
    have hcommit : (Work.record (fun outcome _ => Step.committed (succeeded outcome))
        connection.commit).Records
          (fun outcome _ steps => steps = [.committed (succeeded outcome)]) :=
      Work.records_record (fun _ => rfl)
    refine Work.records_bind hinvoke (fun _ => hcommit) ?_ ?_
    · intro t s steps hsteps
      exact Or.inr ⟨Or.inl hsteps, t, rfl⟩
    · intro value s steps outcome s' steps' hsteps hsteps'
      rw [hsteps, hsteps']
      cases outcome with
      | ok u => exact Or.inl ⟨rfl, rfl⟩
      | error t => exact Or.inr ⟨Or.inr rfl, t, rfl⟩
  refine Work.records_catching hbody (records_rollback connection) ?_ ?_ ?_
  · intro value s steps hsteps
    rcases hsteps with ⟨hsteps, _⟩ | ⟨_, t, hthrown⟩
    · exact Or.inr (Or.inr hsteps)
    · cases hthrown
  · intro t s steps hcatches _
    cases hcatches
  · intro t s steps outcome s' steps' hsteps hrolled
    rw [hrolled]
    rcases hsteps with ⟨_, hok⟩ | ⟨hsteps | hsteps, _⟩
    · cases hok
    · rw [hsteps]
      exact Or.inl rfl
    · rw [hsteps]
      exact Or.inr (Or.inl rfl)

theorem stepsOf_cases (databaseFunc : Work world Thrown Unit) (w : world) :
    (forall step, step ∈ stepsOf connection databaseFunc w -> step.isOpening = true) ∨
      exists opening work, stepsOf connection databaseFunc w = opening ++ work ∧
        Opens (.ok ()) opening ∧ Works work := by
  have h : (runInTransaction connection databaseFunc).Records (fun _ _ steps =>
      (forall step, step ∈ steps -> step.isOpening = true) ∨
        exists opening work, steps = opening ++ work ∧ Opens (.ok ()) opening ∧ Works work) := by
    refine Work.records_bind (records_openTransaction connection)
      (fun _ => records_runAndCommit connection databaseFunc) ?_ ?_
    · intro t s steps hopens
      exact Or.inl hopens.opening
    · intro value s steps outcome s' steps' hopens hworks
      exact Or.inr ⟨steps, steps', rfl, hopens, hworks⟩
  rcases h (w, []) with ⟨steps, hsteps, hcases⟩
  have heq : stepsOf connection databaseFunc w = steps := hsteps
  rw [heq]
  exact hcases

theorem split_work {opening work before later : List Step} {step : Step}
    (hopening : forall st, st ∈ opening -> st.isOpening = true)
    (hstep : step.isOpening = false) (h : opening ++ work = before ++ step :: later) :
    exists before', before = opening ++ before' ∧ work = before' ++ step :: later := by
  rcases List.append_eq_append_iff.mp h with ⟨rest, hbefore, hwork⟩ | ⟨rest, hopen, hrest⟩
  · exact ⟨rest, hbefore, hwork⟩
  · cases rest with
    | nil => exact ⟨[], by simpa using hopen.symm, by simpa using hrest.symm⟩
    | cons st rest =>
        rw [List.cons_append, List.cons.injEq] at hrest
        have hmem : step ∈ opening := by
          rw [hopen, hrest.1]
          simp
        rw [hopening step hmem] at hstep
        cases hstep

theorem Works.invoked_first {work before later : List Step} {returned : Bool}
    (h : Works work) (hwork : work = before ++ .invoked returned :: later) : before = [] := by
  cases before with
  | nil => rfl
  | cons st rest =>
      have hmem : .invoked returned ∈ work.tail := by
        rw [hwork]
        simp
      rcases h with h | h | h <;> simp [h] at hmem

theorem Works.committed_second {work before later : List Step} {ok : Bool} (h : Works work)
    (hwork : work = before ++ .committed ok :: later) : before = [.invoked true] := by
  rcases h with h | h | h
  · have hmem : .committed ok ∈ work := by
      rw [hwork]
      simp
    simp [h] at hmem
  · rw [h] at hwork
    rcases before with _ | ⟨st, _ | ⟨st', rest⟩⟩
    · cases hwork
    · cases hwork
      rfl
    · have htail := congrArg (fun steps => steps.drop 2) hwork
      have hmem : .committed ok ∈ [Step.rolledBack] := by
        rw [show [Step.rolledBack] = rest ++ .committed ok :: later by simpa using htail]
        simp
      simp at hmem
  · rw [h] at hwork
    rcases before with _ | ⟨st, _ | ⟨st', rest⟩⟩
    · cases hwork
    · cases hwork
      rfl
    · have htail := congrArg (fun steps => steps.drop 2) hwork
      simp at htail

theorem countP_opening {test : Step -> Bool} {opening : List Step}
    (hopening : forall st, st ∈ opening -> st.isOpening = true)
    (htest : forall st, st.isOpening = true -> test st = false) :
    opening.countP test = 0 := by
  rw [List.countP_eq_zero]
  intro st hst
  rw [htest st (hopening st hst)]
  simp

theorem not_invoked {st : Step} (h : st.isOpening = true) : st.isInvoked = false := by
  cases st <;> first | rfl | cases h

theorem not_committed {st : Step} (h : st.isOpening = true) : st.isCommitted = false := by
  cases st <;> first | rfl | cases h

theorem runInTransaction_atMostOnce (databaseFunc : Work world Thrown Unit) (w : world) :
    AtMostOnce (stepsOf connection databaseFunc w) := by
  rcases stepsOf_cases connection databaseFunc w with hopening | ⟨opening, work, h, hopens, hworks⟩
  · have hnot : forall step, step.isOpening = false ->
        step ∉ stepsOf connection databaseFunc w := by
      intro step hstep hmem
      rw [hopening step hmem] at hstep
      cases hstep
    constructor
    · rw [countP_opening hopening (fun _ => not_invoked)]
      omega
    · rw [countP_opening hopening (fun _ => not_committed)]
      omega
    · intro before returned later hsteps
      exact absurd (by rw [hsteps]; simp) (hnot (.invoked returned) rfl)
    · intro before ok later hsteps
      exact absurd (by rw [hsteps]; simp) (hnot (.committed ok) rfl)
    · intro _ returned
      exact hnot (.invoked returned) rfl
  · rw [h]
    constructor
    · rw [List.countP_append, countP_opening hopens.opening (fun _ => not_invoked)]
      rcases hworks with hwork | hwork | hwork <;> rw [hwork] <;> decide
    · rw [List.countP_append, countP_opening hopens.opening (fun _ => not_committed)]
      rcases hworks with hwork | hwork | hwork <;> rw [hwork] <;> decide
    · intro before returned later hsteps
      rcases split_work hopens.opening rfl hsteps with ⟨before', hbefore, hwork⟩
      rw [hworks.invoked_first hwork, List.append_nil] at hbefore
      rw [hbefore]
      exact hopens.began rfl
    · intro before ok later hsteps
      rcases split_work hopens.opening rfl hsteps with ⟨before', hbefore, hwork⟩
      rw [hworks.committed_second hwork] at hbefore
      exact ⟨opening, hbefore⟩
    · intro hreset
      rcases List.mem_append.mp hreset with hmem | hmem
      · exact absurd hmem (hopens.reconnected rfl)
      · rcases hworks with hwork | hwork | hwork <;> simp [hwork] at hmem

end Calls

/-- A connection that the server has dropped: it is found out by the first `BEGIN`, and a
new one serves the call. -/
def droppedConnection : Connection (Option Bool) where
  isOpen w := w != some false
  reset := fun _ => (.ok (), some true)
  begin := fun w =>
    if w = some true then (.ok (), w) else (.error (.exception "connection lost"), some false)
  commit := fun w => (.ok (), w)
  rollback w := w
  begin_open := by
    intro w h
    rcases w with _ | _ | _
    · cases h
    · cases h
    · rfl

example : stepsOf droppedConnection (Work.done ()) none =
    [.checked true, .began false false, .checked false, .reset true, .began true true,
      .invoked true, .committed true] := by
  decide

end Transactions
end ServerComponents
