import ServerComponents.Statements.Respects
import ServerComponents.Statements.Run

/-!
# One program from two stores

A program runs alike from two stores when both runs have the same outcome.  The
postcondition speaks about that outcome and about the two stores left behind.
-/

namespace ServerComponents
namespace Statements
namespace Prog

variable {input store error a b : Type}

def Alike (i : input) (p : Prog input store error a)
    (post : Except error a -> store -> store -> Prop) (s s' : store) : Prop :=
  (p.run i s).1 = (p.run i s').1 ∧ post (p.run i s).1 (p.run i s).2 (p.run i s').2

section Rules

variable {i : input} {s s' : store} {post post' : Except error a -> store -> store -> Prop}

theorem alike_done {value : a} (h : post (.ok value) s s') :
    Alike i (done value) post s s' := ⟨rfl, h⟩

theorem alike_fail {err : error} (h : post (.error err) s s') :
    Alike i (fail err) post s s' := ⟨rfl, h⟩

theorem alike_ofExcept {outcome : Except error a} (h : post outcome s s') :
    Alike i (ofExcept outcome) post s s' := by
  cases outcome with
  | ok value => exact alike_done h
  | error err => exact alike_fail h

theorem alike_ask {read : input -> store -> Except error a} (hread : read i s = read i s')
    (h : post (read i s) s s') : Alike i (ask read) post s s' := by
  constructor
  · rw [run_ask, run_ask]
    exact hread
  · rw [run_ask, run_ask]
    exact h

theorem alike_exec {write : input -> store -> Except error (a × store)}
    (h : (exists reply t t', write i s = .ok (reply, t) ∧ write i s' = .ok (reply, t') ∧
        post (.ok reply) t t') ∨
      (exists err, write i s = .error err ∧ write i s' = .error err ∧
        post (.error err) s s')) : Alike i (exec write) post s s' := by
  unfold Alike
  rw [run_exec, run_exec]
  rcases h with ⟨reply, t, t', hwrite, hwrite', hpost⟩ | ⟨err, hwrite, hwrite', hpost⟩
  · rw [hwrite, hwrite']
    exact ⟨rfl, hpost⟩
  · rw [hwrite, hwrite']
    exact ⟨rfl, hpost⟩

variable {p : Prog input store error a}

theorem Alike.mono (hp : Alike i p post s s')
    (h : forall outcome t t', post outcome t t' -> post' outcome t t') :
    Alike i p post' s s' := ⟨hp.1, h _ _ _ hp.2⟩

variable {f : b -> Prog input store error a}

theorem alike_bind {p : Prog input store error b} (hp : Alike i p (fun outcome t t' =>
      match outcome with
      | .ok value => Alike i (f value) post t t'
      | .error err => post (.error err) t t') s s') : Alike i (p.bind f) post s s' := by
  rcases hp with ⟨houtcome, hrest⟩
  unfold Alike
  rw [run_bind, run_bind]
  rcases hrun : p.run i s with ⟨outcome, t⟩
  rcases hrun' : p.run i s' with ⟨outcome', t'⟩
  rw [hrun, hrun'] at houtcome hrest
  cases houtcome
  cases outcome with
  | ok value => exact hrest
  | error err => exact ⟨rfl, hrest⟩

theorem alike_tryCatch {handler : error -> Prog input store error a}
    (hp : Alike i p (fun outcome t t' =>
      match outcome with
      | .ok value => post (.ok value) t t'
      | .error err => Alike i (handler err) post t t') s s') :
    Alike i (p.tryCatch handler) post s s' := by
  rcases hp with ⟨houtcome, hrest⟩
  unfold Alike
  rw [run_tryCatch, run_tryCatch]
  rcases hrun : p.run i s with ⟨outcome, t⟩
  rcases hrun' : p.run i s' with ⟨outcome', t'⟩
  rw [hrun, hrun'] at houtcome hrest
  cases houtcome
  cases outcome with
  | ok value => exact ⟨rfl, hrest⟩
  | error err => exact hrest

theorem alike_ask_bind {read : input -> store -> Except error b} (hread : read i s = read i s')
    (herror : forall err, post (.error err) s s')
    (hok : forall value, read i s = .ok value -> Alike i (f value) post s s') :
    Alike i ((ask read).bind f) post s s' := by
  apply alike_bind
  apply alike_ask hread
  cases hvalue : read i s with
  | ok value => exact hok value hvalue
  | error err => exact herror err

theorem alike_ofExcept_bind {outcome : Except error b} (herror : forall err, post (.error err) s s')
    (hok : forall value, outcome = .ok value -> Alike i (f value) post s s') :
    Alike i ((ofExcept outcome).bind f) post s s' := by
  apply alike_bind
  apply alike_ofExcept
  cases outcome with
  | ok value => exact hok value rfl
  | error err => exact herror err

theorem Alike.transact (hp : Alike i p post s s')
    (hrollback : forall err t t', post (.error err) t t' -> post (.error err) s s') :
    (transact i p s).1 = (transact i p s').1 ∧
      post (transact i p s).1 (transact i p s).2 (transact i p s').2 := by
  rcases hp with ⟨houtcome, hpost⟩
  unfold Prog.transact
  rcases hrun : p.run i s with ⟨outcome, t⟩
  rcases hrun' : p.run i s' with ⟨outcome', t'⟩
  rw [hrun, hrun'] at houtcome hpost
  cases houtcome
  cases outcome with
  | ok value => exact ⟨rfl, hpost⟩
  | error err => exact ⟨rfl, hrollback err t t' hpost⟩

end Rules

/-!
# Programs that read a part of the store
-/

/-- The program only reads, and nothing but what the key of the store says. -/
def ReadsKey {κ : Type} (key : store -> κ) : Prog input store error a -> Prop
  | done _ => True
  | fail _ => True
  | query read next =>
      (forall i s s', key s = key s' -> read i s = read i s') ∧
        forall reply, ReadsKey key (next reply)
  | update _ _ => False

section Keys

variable {κ : Type} {key : store -> κ}

theorem readsKey_ask {read : input -> store -> Except error a}
    (hread : forall i s s', key s = key s' -> read i s = read i s') :
    ReadsKey key (ask read) := by
  refine ⟨hread, ?_⟩
  intro reply
  cases reply <;> exact trivial

theorem ReadsKey.bind {p : Prog input store error b} {f : b -> Prog input store error a}
    (hp : ReadsKey key p) (hf : forall value, ReadsKey key (f value)) :
    ReadsKey key (p.bind f) := by
  induction p with
  | done value => exact hf value
  | fail err => exact trivial
  | query read next ih => exact ⟨hp.1, fun reply => ih reply (hp.2 reply)⟩
  | update write next ih => exact hp.elim

theorem ReadsKey.readOnly {p : Prog input store error a} (hp : ReadsKey key p) :
    ReadOnly p := by
  induction p with
  | done value => exact trivial
  | fail err => exact trivial
  | query read next ih => exact fun reply => ih reply (hp.2 reply)
  | update write next ih => exact hp.elim

theorem ReadsKey.run_eq {p : Prog input store error a} (hp : ReadsKey key p) {i : input}
    {s s' : store} (hkey : key s = key s') : (p.run i s).1 = (p.run i s').1 := by
  induction p with
  | done value => rfl
  | fail err => rfl
  | query read next ih =>
      show ((next (read i s)).run i s).1 = ((next (read i s')).run i s').1
      rw [hp.1 i s s' hkey]
      exact ih _ (hp.2 _)
  | update write next ih => exact hp.elim

theorem ReadsKey.wp_bind {p : Prog input store error b} {f : b -> Prog input store error a}
    (hp : ReadsKey key p) {i : input} {s : store}
    {post : Except error a -> store -> Prop}
    (herror : forall err, (p.run i s).1 = .error err -> post (.error err) s)
    (hok : forall value, (p.run i s).1 = .ok value -> wp i (f value) post s) :
    wp i (p.bind f) post s := by
  rw [Prog.wp_bind]
  unfold wp
  rw [hp.readOnly.run_store]
  cases hrun : (p.run i s).1 with
  | ok value => exact hok value hrun
  | error err => exact herror err hrun

end Keys

end Prog

/-!
# Two runs of the same events

An observer sees something of every event.  Two runs of the same events from different
stores are told apart by the first event at which the observations differ.
-/

section TwoRuns

variable {store event observation : Type*}

def observations (step : store -> event -> store) (observe : store -> event -> observation) :
    store -> List event -> List observation
  | _, [] => []
  | s, e :: es => observe s e :: observations step observe (step s e) es

def stepBoth (step : store -> event -> store) (s : store × store) (e : event) :
    store × store :=
  (step s.1 e, step s.2 e)

/-- A relation that two runs keep as long as they are observed to be the same.  At every
lawful event the test says whether they are, and then they stay related. -/
structure Unwinding (step : store -> event -> store)
    (observe : store -> event -> observation) (related : store × store -> Prop)
    (law test : store × store -> event -> Prop) : Prop where
  observed : forall s e, related s -> law s e ->
    (observe s.1 e = observe s.2 e <-> test s e)
  kept : forall s e, related s -> law s e -> test s e -> related (stepBoth step s e)

namespace Unwinding

variable {step : store -> event -> store} {observe : store -> event -> observation}
  {related : store × store -> Prop} {law test : store × store -> event -> Prop}
  {s : store × store} {es : List event}

theorem observations_eq (h : Unwinding step observe related law test) (hs : related s)
    (hlaw : Along (stepBoth step) law s es) :
    observations step observe s.1 es = observations step observe s.2 es <->
      Along (stepBoth step) test s es := by
  induction es generalizing s with
  | nil => exact ⟨fun _ => along_nil, fun _ => rfl⟩
  | cons e es ih =>
      rcases along_cons.mp hlaw with ⟨hfirst, hrest⟩
      rw [along_cons, observations, observations, List.cons.injEq, h.observed s e hs hfirst]
      constructor
      · rintro ⟨htest, hsame⟩
        exact ⟨htest, (ih (h.kept s e hs hfirst htest) hrest).mp hsame⟩
      · rintro ⟨htest, hsame⟩
        exact ⟨htest, (ih (h.kept s e hs hfirst htest) hrest).mpr hsame⟩

end Unwinding

end TwoRuns

end Statements
end ServerComponents
