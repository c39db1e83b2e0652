import ServerComponents.Statements.Respects

/-!
# Transactions on one row

A transaction reads, takes the lock of a row with the first write that changes
anything, and keeps it until it ends.  Before that write every statement may meet
another store.  From it on, other transactions leave the key of the store, what
the row says, as the transaction has made it.
-/

namespace ServerComponents
namespace Statements
namespace Prog

variable {input store error a b κ : Type}

/-- Every way to finish from this store meets the postcondition, whatever the
others do to the store outside the key. -/
def Locked (key : store -> κ) (post : Except error a -> store -> Prop) :
    Prog input store error a -> store -> Prop
  | done value, s => forall s', key s' = key s -> post (.ok value) s'
  | fail err, s => forall s', key s' = key s -> post (.error err) s'
  | query read next, s =>
      forall i s', key s' = key s -> Locked key post (next (read i s')) s'
  | update write next, s =>
      forall i s', key s' = key s ->
        match write i s' with
        | .ok (reply, version) => Locked key post (next (.ok reply)) version
        | .error err => Locked key post (next (.error err)) s'

/-- What a transaction does: it ends without having changed anything, or the
first change has the given effect once the transaction ends. -/
def Transacts (key : store -> κ) (admits : store -> Prop)
    (effect : store -> input -> Except error a -> store -> Prop)
    (idle : Except error a -> Prop) : Prog input store error a -> Prop
  | done value => idle (.ok value)
  | fail err => idle (.error err)
  | query read next =>
      forall i s, admits s -> Transacts key admits effect idle (next (read i s))
  | update write next =>
      forall i s, admits s ->
        match write i s with
        | .ok (reply, version) =>
            (version = s -> Transacts key admits effect idle (next (.ok reply))) ∧
              (version ≠ s -> Locked key (effect s i) (next (.ok reply)) version)
        | .error err => Transacts key admits effect idle (next (.error err))

/-- Every write keeps the key, and every outcome is as described. -/
def Keeps (key : store -> κ) (returns : Except error a -> Prop) :
    Prog input store error a -> Prop
  | done value => returns (.ok value)
  | fail err => returns (.error err)
  | query read next => forall i s, Keeps key returns (next (read i s))
  | update write next =>
      forall i s,
        match write i s with
        | .ok (reply, version) => key version = key s ∧ Keeps key returns (next (.ok reply))
        | .error err => Keeps key returns (next (.error err))

section Rules

variable {key : store -> κ} {admits : store -> Prop}
  {effect : store -> input -> Except error a -> store -> Prop}
  {idle returns : Except error a -> Prop} {post : Except error a -> store -> Prop}
  {s s' : store}

/-!
# Programs that keep the key
-/

variable {p : Prog input store error a}

theorem ReadOnly.keeps (hp : ReadOnly p)
    (h : forall outcome, returns outcome) : Keeps key returns p := by
  induction p with
  | done value => exact h _
  | fail err => exact h _
  | query read next ih => exact fun i s => ih (read i s) (hp (read i s))
  | update write next ih => exact hp.elim

variable {write : input -> store -> Except error (a × store)}

theorem keeps_exec (hok : forall i s reply version, write i s = .ok (reply, version) ->
      key version = key s ∧ returns (.ok reply))
    (herror : forall i s err, write i s = .error err -> returns (.error err)) :
    Keeps key returns (exec write) := by
  intro i s
  cases hwrite : write i s with
  | ok pair => exact hok i s pair.1 pair.2 hwrite
  | error err => exact herror i s err hwrite

theorem keeps_bind {p : Prog input store error b} {f : b -> Prog input store error a}
    (hp : Keeps key (fun outcome =>
      match outcome with
      | .ok value => Keeps key returns (f value)
      | .error err => returns (.error err)) p) : Keeps key returns (p.bind f) := by
  induction p with
  | done value => exact hp
  | fail err => exact hp
  | query read next ih => exact fun i s => ih _ (hp i s)
  | update write next ih =>
      intro i s
      exact answered (hp i s) (fun _ _ h => ⟨h.1, ih _ h.2⟩) (fun _ => ih _)

theorem Keeps.locked (hp : Keeps key returns p)
    (h : forall outcome s', key s' = key s -> returns outcome -> post outcome s') :
    Locked key post p s := by
  induction p generalizing s with
  | done value => exact fun s' hkey => h _ s' hkey hp
  | fail err => exact fun s' hkey => h _ s' hkey hp
  | query read next ih =>
      intro i s' hkey
      apply ih _ (hp i s')
      intro outcome s'' hkey' hreturns
      exact h outcome s'' (hkey'.trans hkey) hreturns
  | update write next ih =>
      intro i s' hkey
      have hkeeps := hp i s'
      cases hwrite : write i s' with
      | ok pair =>
          rw [hwrite] at hkeeps
          apply ih _ hkeeps.2
          intro outcome s'' hkey' hreturns
          exact h outcome s'' (hkey'.trans (hkeeps.1.trans hkey)) hreturns
      | error err =>
          rw [hwrite] at hkeeps
          apply ih _ hkeeps
          intro outcome s'' hkey' hreturns
          exact h outcome s'' (hkey'.trans hkey) hreturns

theorem ReadOnly.locked (hp : ReadOnly p)
    (h : forall outcome s', key s' = key s -> post outcome s') : Locked key post p s := by
  have hkeeps : Keeps key (fun _ => True) p := hp.keeps (fun _ => trivial)
  exact hkeeps.locked (fun outcome s' hkey _ => h outcome s' hkey)

/-!
# Programs under the lock
-/

theorem Locked.of_key (hp : Locked key post p s)
    (hkey : key s' = key s) : Locked key post p s' := by
  cases p with
  | done value => exact fun s'' h => hp s'' (h.trans hkey)
  | fail err => exact fun s'' h => hp s'' (h.trans hkey)
  | query read next => exact fun i s'' h => hp i s'' (h.trans hkey)
  | update write next => exact fun i s'' h => hp i s'' (h.trans hkey)

theorem Locked.exists_outcome [Nonempty input]
    (hp : Locked key post p s) : exists outcome final, post outcome final := by
  have i : input := Classical.choice inferInstance
  induction p generalizing s with
  | done value => exact ⟨_, s, hp s rfl⟩
  | fail err => exact ⟨_, s, hp s rfl⟩
  | query read next ih => exact ih _ (hp i s rfl)
  | update write next ih =>
      have h := hp i s rfl
      cases hwrite : write i s with
      | ok pair =>
          rw [hwrite] at h
          exact ih _ h
      | error err =>
          rw [hwrite] at h
          exact ih _ h

theorem locked_bind {p : Prog input store error b} {f : b -> Prog input store error a}
    (hp : Locked key (fun outcome s' =>
      match outcome with
      | .ok value => Locked key post (f value) s'
      | .error err => post (.error err) s') p s) :
    Locked key post (p.bind f) s := by
  induction p generalizing s with
  | done value => exact hp s rfl
  | fail err => exact hp
  | query read next ih => exact fun i s' hkey => ih _ (hp i s' hkey)
  | update write next ih =>
      intro i s' hkey
      exact answered (hp i s' hkey) (fun _ _ => ih _) (fun _ => ih _)

theorem locked_tryCatch {handler : error -> Prog input store error a}
    (hp : Locked key (fun outcome s' =>
      match outcome with
      | .ok value => post (.ok value) s'
      | .error err => Locked key post (handler err) s') p s) :
    Locked key post (p.tryCatch handler) s := by
  induction p generalizing s with
  | done value => exact hp
  | fail err => exact hp s rfl
  | query read next ih => exact fun i s' hkey => ih _ (hp i s' hkey)
  | update write next ih =>
      intro i s' hkey
      exact answered (hp i s' hkey) (fun _ _ => ih _) (fun _ => ih _)

theorem locked_exec (hok : forall i s' reply version s'', key s' = key s ->
      write i s' = .ok (reply, version) -> key s'' = key version ->
      post (.ok reply) s'')
    (herror : forall i s' err s'', key s' = key s -> write i s' = .error err ->
      key s'' = key s' -> post (.error err) s'') :
    Locked key post (exec write) s := by
  intro i s' hkey
  cases hwrite : write i s' with
  | ok pair => exact fun s'' hkey' => hok i s' pair.1 pair.2 s'' hkey hwrite hkey'
  | error err => exact fun s'' hkey' => herror i s' err s'' hkey hwrite hkey'

theorem Locked.mono {post' : Except error a -> store -> Prop} (hp : Locked key post p s)
    (h : forall outcome s', post outcome s' -> post' outcome s') :
    Locked key post' p s := by
  induction p generalizing s with
  | done value => exact fun s' hkey => h _ s' (hp s' hkey)
  | fail err => exact fun s' hkey => h _ s' (hp s' hkey)
  | query read next ih => exact fun i s' hkey => ih _ (hp i s' hkey)
  | update write next ih =>
      intro i s' hkey
      exact answered (hp i s' hkey) (fun _ _ => ih _) (fun _ => ih _)

/-!
# Whole transactions
-/

theorem Transacts.mono {effect' : store -> input -> Except error a -> store -> Prop}
    {idle' : Except error a -> Prop} (hp : Transacts key admits effect idle p)
    (heffect : forall s i outcome s', effect s i outcome s' -> effect' s i outcome s')
    (hidle : forall outcome, idle outcome -> idle' outcome) :
    Transacts key admits effect' idle' p := by
  induction p with
  | done value => exact hidle _ hp
  | fail err => exact hidle _ hp
  | query read next ih => exact fun i s hadmits => ih _ (hp i s hadmits)
  | update write next ih =>
      intro i s hadmits
      refine answered (hp i s hadmits) (fun _ _ h => ?_) (fun _ => ih _)
      exact ⟨fun hsame => ih _ (h.1 hsame), fun hne => (h.2 hne).mono (heffect s i)⟩

theorem ReadOnly.transacts (hp : ReadOnly p)
    (h : forall outcome, idle outcome) : Transacts key admits effect idle p := by
  induction p with
  | done value => exact h _
  | fail err => exact h _
  | query read next ih => exact fun i s _ => ih (read i s) (hp (read i s))
  | update write next ih => exact hp.elim

theorem transacts_ofExcept {outcome : Except error a} (h : idle outcome) :
    Transacts key admits effect idle (ofExcept outcome : Prog input store error a) := by
  cases outcome <;> exact h

theorem transacts_ask {read : input -> store -> Except error a}
    (h : forall i s, admits s -> idle (read i s)) :
    Transacts key admits effect idle (ask read) :=
  fun i s hadmits => transacts_ofExcept (h i s hadmits)

theorem transacts_exec
    (hok : forall i s reply version, admits s -> write i s = .ok (reply, version) ->
      (version = s -> idle (.ok reply)) ∧
        (version ≠ s -> forall s', key s' = key version -> effect s i (.ok reply) s'))
    (herror : forall err, idle (.error err)) :
    Transacts key admits effect idle (exec write) := by
  intro i s hadmits
  cases hwrite : write i s with
  | ok pair => exact hok i s pair.1 pair.2 hadmits hwrite
  | error err => exact herror err

theorem transacts_bind {p : Prog input store error b} {f : b -> Prog input store error a}
    (hp : Transacts key admits
      (fun s i outcome s' =>
        match outcome with
        | .ok value => Locked key (effect s i) (f value) s'
        | .error err => effect s i (.error err) s')
      (fun outcome =>
        match outcome with
        | .ok value => Transacts key admits effect idle (f value)
        | .error err => idle (.error err)) p) :
    Transacts key admits effect idle (p.bind f) := by
  induction p with
  | done value => exact hp
  | fail err => exact hp
  | query read next ih => exact fun i s hadmits => ih _ (hp i s hadmits)
  | update write next ih =>
      intro i s hadmits
      refine answered (hp i s hadmits) (fun _ _ h => ?_) (fun _ => ih _)
      exact ⟨fun hsame => ih _ (h.1 hsame), fun hne => locked_bind (h.2 hne)⟩

theorem transacts_tryCatch {handler : error -> Prog input store error a} (hp : Transacts key admits
      (fun s i outcome s' =>
        match outcome with
        | .ok value => effect s i (.ok value) s'
        | .error err => Locked key (effect s i) (handler err) s')
      (fun outcome =>
        match outcome with
        | .ok value => idle (.ok value)
        | .error err => Transacts key admits effect idle (handler err)) p) :
    Transacts key admits effect idle (p.tryCatch handler) := by
  induction p with
  | done value => exact hp
  | fail err => exact hp
  | query read next ih => exact fun i s hadmits => ih _ (hp i s hadmits)
  | update write next ih =>
      intro i s hadmits
      refine answered (hp i s hadmits) (fun _ _ h => ?_) (fun _ => ih _)
      exact ⟨fun hsame => ih _ (h.1 hsame), fun hne => locked_tryCatch (h.2 hne)⟩

end Rules

end Prog
end Statements
end ServerComponents
