import ServerComponents.Statements.Prog

/-!
# What a program that returns has done

A program that throws is rolled back, so that only its answers and the stores that it leaves
with them matter.
-/

namespace ServerComponents
namespace Statements
namespace Prog

variable {input store error a b : Type}

/-- If the program returns, its answer and the store are as the postcondition says. -/
def Ensures (i : input) (p : Prog input store error a) (post : a -> store -> Prop)
    (s : store) : Prop :=
  forall value, (p.run i s).1 = .ok value -> post value (p.run i s).2

section Rules

variable {i : input} {s : store} {post : a -> store -> Prop}

theorem ensures_done {value : a} (h : post value s) :
    Ensures i (done value : Prog input store error a) post s := by
  intro value' hvalue
  cases hvalue
  exact h

theorem ensures_ask {read : input -> store -> Except error a}
    (h : forall value, read i s = .ok value -> post value s) : Ensures i (ask read) post s := by
  intro value hvalue
  rw [run_ask] at hvalue ⊢
  exact h value hvalue

theorem ensures_ofExcept {outcome : Except error a}
    (h : forall value, outcome = .ok value -> post value s) :
    Ensures i (ofExcept outcome : Prog input store error a) post s := by
  intro value hvalue
  rw [run_ofExcept] at hvalue ⊢
  exact h value hvalue

theorem ensures_exec {write : input -> store -> Except error (a × store)}
    (h : forall value s', write i s = .ok (value, s') -> post value s') :
    Ensures i (exec write) post s := by
  intro value hvalue
  rw [run_exec] at hvalue ⊢
  cases hwrite : write i s with
  | error err =>
      rw [hwrite] at hvalue
      cases hvalue
  | ok pair =>
      rw [hwrite] at hvalue
      cases hvalue
      exact h pair.1 pair.2 hwrite

variable {f : b -> Prog input store error a}

theorem Ensures.bind {p : Prog input store error b}
    {mid : b -> store -> Prop} (hp : Ensures i p mid s)
    (hf : forall value s', mid value s' -> Ensures i (f value) post s') :
    Ensures i (p.bind f) post s := by
  intro value hvalue
  rw [run_bind] at hvalue ⊢
  rcases hrun : p.run i s with ⟨outcome, s'⟩
  rw [hrun] at hvalue
  cases outcome with
  | error err => cases hvalue
  | ok first =>
      have hmid : mid first s' := by
        have h := hp first (by rw [hrun])
        rwa [hrun] at h
      exact hf first s' hmid value hvalue

theorem ensures_bind_ask {read : input -> store -> Except error b}
    (h : forall value, read i s = .ok value -> Ensures i (f value) post s) :
    Ensures i ((ask read).bind f) post s := by
  have hread : Ensures i (ask read) (fun value s' => s' = s ∧ read i s = .ok value) s :=
    ensures_ask (fun value hread => ⟨rfl, hread⟩)
  refine hread.bind ?_
  rintro value s' ⟨hs, hread⟩
  rw [hs]
  exact h value hread

theorem ensures_bind_ofExcept {outcome : Except error b}
    (h : forall value, outcome = .ok value -> Ensures i (f value) post s) :
    Ensures i ((ofExcept outcome).bind f) post s := by
  have hpure : Ensures i (ofExcept outcome : Prog input store error b)
      (fun value s' => s' = s ∧ outcome = .ok value) s :=
    ensures_ofExcept (fun value hvalue => ⟨rfl, hvalue⟩)
  refine hpure.bind ?_
  rintro value s' ⟨hs, hvalue⟩
  rw [hs]
  exact h value hvalue

theorem ensures_bind_exec {write : input -> store -> Except error (b × store)}
    (h : forall value s', write i s = .ok (value, s') -> Ensures i (f value) post s') :
    Ensures i ((exec write).bind f) post s :=
  Ensures.bind (ensures_exec (fun _ _ hwrite => hwrite)) h

theorem Ensures.mono {post' : a -> store -> Prop} {p : Prog input store error a}
    (hp : Ensures i p post s) (h : forall value s', post value s' -> post' value s') :
    Ensures i p post' s :=
  fun value hvalue => h value _ (hp value hvalue)

theorem Ensures.transact {p : Prog input store error a} (hp : Ensures i p post s) {value : a}
    (hvalue : (transact i p s).1 = .ok value) : post value (transact i p s).2 := by
  unfold Prog.transact at hvalue ⊢
  rcases hrun : p.run i s with ⟨outcome, s'⟩
  rw [hrun] at hvalue
  cases outcome with
  | error err => cases hvalue
  | ok first =>
      have hfirst : first = value := by injection hvalue
      have h := hp first (by rw [hrun])
      rw [hrun] at h
      rw [← hfirst]
      exact h

theorem Ensures.keeps {p : Prog input store error a} {inv : store -> Prop} (hinv : inv s)
    (hp : Ensures i p (fun _ => inv) s) : inv (Prog.transact i p s).2 := by
  cases houtcome : (Prog.transact i p s).1 with
  | ok value => exact hp.transact houtcome
  | error err =>
      rw [transact_error houtcome]
      exact hinv

end Rules

end Prog
end Statements
end ServerComponents
