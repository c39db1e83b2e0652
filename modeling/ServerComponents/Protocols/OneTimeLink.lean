import ServerComponents.Statements.Run

/-!
# One-time links

Every owner has at most one pending link: a code, an expiry and the number of
attempts made against it.  A new link replaces the old one, a wrong code counts,
and the right code is accepted once.  The laws hold of every machine whose steps
are steps of the links.
-/

namespace ServerComponents
namespace Protocols

open Statements

structure Link (code : Type) where
  code : code
  expiresAt : Int
  attempts : Nat
  deriving Repr, DecidableEq

abbrev Links (owner code : Type) := owner -> Option (Link code)

inductive LinkEvent (owner code : Type) where
  | issue (o : owner) (c : code) (expiresAt : Int)
  | guess (o : owner) (c : code) (now : Int)
  | accept (o : owner) (c : code) (now : Int)
  | drop (o : owner)
  | idle

section Steps

variable {owner code : Type}

/-- A link that a code can be presented against. -/
structure Link.Live (l : Link code) (limit : Nat) (now : Int) : Prop where
  attempts_lt : l.attempts < limit
  unexpired : now < l.expiresAt

def OnlyAt (o : owner) (before after : Links owner code) : Prop :=
  forall o', o' ≠ o -> after o' = before o'

inductive LinkStep (limit : Nat) (before after : Links owner code) :
    LinkEvent owner code -> Prop
  | issue {o : owner} {c : code} {expiresAt : Int} (hothers : OnlyAt o before after)
      (hlink : after o = some ⟨c, expiresAt, 0⟩) :
      LinkStep limit before after (.issue o c expiresAt)
  | guess {o : owner} {c : code} {now : Int} {l : Link code}
      (hothers : OnlyAt o before after) (hbefore : before o = some l)
      (hlive : l.Live limit now) (hwrong : l.code ≠ c)
      (hafter : after o = none ∨ after o = some { l with attempts := l.attempts + 1 }) :
      LinkStep limit before after (.guess o c now)
  | accept {o : owner} {c : code} {now : Int} {l : Link code}
      (hothers : OnlyAt o before after) (hbefore : before o = some l)
      (hlive : l.Live limit now) (hcode : l.code = c) (hafter : after o = none) :
      LinkStep limit before after (.accept o c now)
  | drop {o : owner} (hothers : OnlyAt o before after) (hafter : after o = none) :
      LinkStep limit before after (.drop o)
  | idle (hsame : after = before) : LinkStep limit before after .idle

/-- The event is a wrong code against this owner's link. -/
def LinkEvent.isGuess [DecidableEq owner] (o : owner) : LinkEvent owner code -> Bool
  | guess o' _ _ => o' == o
  | _ => false

/-- The event ends or replaces the pending link of this owner. -/
def LinkEvent.Ends (o : owner) : LinkEvent owner code -> Prop
  | issue o' _ _ => o' = o
  | accept o' _ _ => o' = o
  | drop o' => o' = o
  | _ => False

def LinkEvent.Issues (c : code) : LinkEvent owner code -> Prop
  | issue _ c' _ => c' = c
  | _ => False

/-- No owner has a pending link with this code. -/
def Absent (links : Links owner code) (c : code) : Prop :=
  forall o l, links o = some l -> l.code ≠ c

/-- Whoever has a pending link with this code is the owner, with the expiry of the
issue and at least so many attempts. -/
def Tracked (links : Links owner code) (c : code) (o : owner) (expiresAt : Int)
    (attempts : Nat) : Prop :=
  forall o' l, links o' = some l -> l.code = c ->
    o' = o ∧ l.expiresAt = expiresAt ∧ attempts ≤ l.attempts

variable {limit : Nat} {before after : Links owner code} {e : LinkEvent owner code}
  {c : code} {o : owner} {expiresAt : Int} {n : Nat}

/-- Every link after a step was issued by it, or is an old link of the same owner
with at most another attempt. -/
theorem LinkStep.origin (h : LinkStep limit before after e) {o : owner} {l : Link code}
    (hl : after o = some l) :
    e = .issue o l.code l.expiresAt ∨
      exists l', before o = some l' ∧ l'.code = l.code ∧ l'.expiresAt = l.expiresAt ∧
        l'.attempts ≤ l.attempts := by
  have hold : before o = some l -> exists l', before o = some l' ∧ l'.code = l.code ∧
      l'.expiresAt = l.expiresAt ∧ l'.attempts ≤ l.attempts :=
    fun hl => ⟨l, hl, rfl, rfl, Nat.le_refl _⟩
  cases h with
  | @issue o' c expiresAt hothers hlink =>
      by_cases ho : o = o'
      · rw [ho, hlink] at hl
        cases hl
        exact Or.inl (by rw [ho])
      · exact Or.inr (hold (by rw [← hothers o ho]; exact hl))
  | @guess o' c now l' hothers hbefore hlive hwrong hafter =>
      right
      by_cases ho : o = o'
      · rw [ho] at hl ⊢
        rcases hafter with hafter | hafter
        · rw [hafter] at hl
          cases hl
        · rw [hafter] at hl
          cases hl
          exact ⟨l', hbefore, rfl, rfl, Nat.le_succ _⟩
      · exact hold (by rw [← hothers o ho]; exact hl)
  | @accept o' c now l' hothers hbefore hlive hcode hafter =>
      right
      by_cases ho : o = o'
      · rw [ho, hafter] at hl
        cases hl
      · exact hold (by rw [← hothers o ho]; exact hl)
  | @drop o' hothers hafter =>
      right
      by_cases ho : o = o'
      · rw [ho, hafter] at hl
        cases hl
      · exact hold (by rw [← hothers o ho]; exact hl)
  | idle hsame => exact Or.inr (hold (by rw [← hsame]; exact hl))

theorem Absent.step (h : Absent before c) (hstep : LinkStep limit before after e)
    (hissue : Not (e.Issues c)) : Absent after c := by
  intro o l hl hcode
  rcases hstep.origin hl with hnew | ⟨l', hl', hcode', _⟩
  · rw [hnew] at hissue
    exact hissue hcode
  · exact h o l' hl' (hcode'.trans hcode)

theorem LinkStep.guessed [DecidableEq owner] (h : LinkStep limit before after e)
    (hguess : e.isGuess o = true) {l : Link code} (hl : after o = some l) :
    exists l', before o = some l' ∧ l'.code = l.code ∧ l'.expiresAt = l.expiresAt ∧
      l'.attempts + 1 = l.attempts := by
  cases h with
  | @guess o' c now l' hothers hbefore hlive hwrong hafter =>
      have ho : o' = o := by simpa [LinkEvent.isGuess] using hguess
      rw [ho] at hbefore hafter
      rcases hafter with hafter | hafter
      · rw [hafter] at hl
        cases hl
      · rw [hafter] at hl
        cases hl
        exact ⟨l', hbefore, rfl, rfl, rfl⟩
  | _ => simp [LinkEvent.isGuess] at hguess

theorem LinkStep.guess_live [DecidableEq owner] (h : LinkStep limit before after e)
    (hguess : e.isGuess o = true) {l : Link code} (hl : before o = some l) :
    exists now, l.Live limit now := by
  cases h with
  | @guess o' c now l' hothers hbefore hlive hwrong hafter =>
      have ho : o' = o := by simpa [LinkEvent.isGuess] using hguess
      rw [ho, hl] at hbefore
      cases hbefore
      exact ⟨now, hlive⟩
  | _ => simp [LinkEvent.isGuess] at hguess

theorem Tracked.step [DecidableEq owner] (h : Tracked before c o expiresAt n)
    (hstep : LinkStep limit before after e) (hissue : Not (e.Issues c)) :
    Tracked after c o expiresAt (n + if e.isGuess o then 1 else 0) := by
  intro o' l hl hcode
  rcases hstep.origin hl with hnew | ⟨l', hl', hcode', hexpiry', hattempts'⟩
  · rw [hnew] at hissue
    exact absurd hcode hissue
  · rcases h o' l' hl' (hcode'.trans hcode) with ⟨ho, hexpiry, hattempts⟩
    refine ⟨ho, hexpiry'.symm.trans hexpiry, ?_⟩
    cases hguess : e.isGuess o with
    | false =>
        simp only [Bool.false_eq_true, if_false]
        omega
    | true =>
        rw [ho] at hl hl'
        rcases hstep.guessed hguess hl with ⟨l'', hl'', _, _, hcount⟩
        rw [hl'] at hl''
        cases hl''
        simp only [if_true]
        omega

theorem Tracked.ended (h : Tracked before c o expiresAt n)
    (hstep : LinkStep limit before after e) (hissue : Not (e.Issues c))
    (hends : e.Ends o) : Absent after c := by
  intro o' l hl hcode
  rcases hstep.origin hl with hnew | ⟨l', hl', hcode', _⟩
  · rw [hnew] at hissue
    exact hissue hcode
  · have ho := (h o' l' hl' (hcode'.trans hcode)).1
    rw [ho] at hl
    cases hstep with
    | @issue o'' c'' expiresAt'' hothers hlink =>
        have ho'' : o'' = o := hends
        rw [ho''] at hlink
        rw [hlink] at hl
        cases hl
        exact hissue hcode
    | @accept o'' c'' now l'' hothers hbefore hlive hcode'' hafter =>
        have ho'' : o'' = o := hends
        rw [ho''] at hafter
        rw [hafter] at hl
        cases hl
    | @drop o'' hothers hafter =>
        have ho'' : o'' = o := hends
        rw [ho''] at hafter
        rw [hafter] at hl
        cases hl
    | _ => exact hends

theorem tracked_issue (habsent : Absent before c)
    (hstep : LinkStep limit before after (.issue o c expiresAt)) :
    Tracked after c o expiresAt 0 := by
  intro o' l hl hcode
  rcases hstep.origin hl with hnew | ⟨l', hl', hcode', _⟩
  · simp only [LinkEvent.issue.injEq] at hnew
    exact ⟨hnew.1.symm, hnew.2.2.symm, Nat.zero_le _⟩
  · exact absurd (hcode'.trans hcode) (habsent o' l' hl')

end Steps

/-!
# Machines with links
-/

section Machines

variable {owner code : Type} {store event : Type*} (limit : Nat)
  (step : store -> event -> store) (links : store -> Links owner code)
  (label : store -> event -> LinkEvent owner code)

/-- Every step of the run is the step of its label on the links. -/
def Refines (s : store) (es : List event) : Prop :=
  Along step (fun s e => LinkStep limit (links s) (links (step s e)) (label s e)) s es

/-- No event of the run issues a link with this code. -/
def NeverIssues (c : code) (s : store) (es : List event) : Prop :=
  Along step (fun s e => Not ((label s e).Issues c)) s es

variable {limit step links label} {s : store} {es : List event} {c : code} {o : owner}
  {expiresAt : Int} {n : Nat}

theorem absent_after (habsent : Absent (links s) c)
    (hrefines : Refines limit step links label s es)
    (hnever : NeverIssues step label c s es) :
    Absent (links (after step s es)) c := by
  induction es generalizing s with
  | nil => exact habsent
  | cons e es ih =>
      rcases along_cons.mp hrefines with ⟨hstep, hrest⟩
      rcases along_cons.mp hnever with ⟨hissue, hnever⟩
      exact ih (habsent.step hstep hissue) hrest hnever

theorem tracked_after [DecidableEq owner] (htracked : Tracked (links s) c o expiresAt n)
    (hrefines : Refines limit step links label s es)
    (hnever : NeverIssues step label c s es) :
    Tracked (links (after step s es)) c o expiresAt
      (n + countAlong step (fun s e => (label s e).isGuess o) s es) := by
  induction es generalizing s n with
  | nil => exact htracked
  | cons e es ih =>
      rcases along_cons.mp hrefines with ⟨hstep, hrest⟩
      rcases along_cons.mp hnever with ⟨hissue, hnever⟩
      have h := ih (htracked.step hstep hissue) hrest hnever
      rw [Nat.add_assoc] at h
      exact h

/-- The pending link of this owner has this code. -/
def PendingCode [DecidableEq code] (links : Links owner code) (o : owner) (c : code) :
    Bool :=
  decide ((links o).map Link.code = some c)

def GuessAt [DecidableEq owner] [DecidableEq code] (links : store -> Links owner code)
    (label : store -> event -> LinkEvent owner code) (o : owner) (c : code) (s : store)
    (e : event) : Bool :=
  (label s e).isGuess o && PendingCode (links s) o c

theorem guesses_le [DecidableEq owner] [DecidableEq code]
    (htracked : Tracked (links s) c o expiresAt n) (hn : n ≤ limit)
    (hrefines : Refines limit step links label s es)
    (hnever : NeverIssues step label c s es) :
    n + countAlong step (GuessAt links label o c) s es ≤ limit := by
  induction es generalizing s n with
  | nil => exact hn
  | cons e es ih =>
      rcases along_cons.mp hrefines with ⟨hstep, hrest⟩
      rcases along_cons.mp hnever with ⟨hissue, hnever⟩
      have htracked' := htracked.step hstep hissue
      simp only [countAlong]
      by_cases hguess : (label s e).isGuess o = true
      · simp only [hguess, if_true] at htracked'
        by_cases hcode : PendingCode (links s) o c = true
        · rcases Option.map_eq_some_iff.mp (of_decide_eq_true hcode) with ⟨l, hl, hlc⟩
          rcases hstep.guess_live hguess hl with ⟨now, hlive⟩
          have hlt := hlive.attempts_lt
          have hcount := (htracked o l hl hlc).2.2
          have hle := ih htracked' (by omega) hrest hnever
          have hone : GuessAt links label o c s e = true := by
            simp [GuessAt, hguess, hcode]
          simp only [hone, if_true]
          omega
        · have hweak : Tracked (links (step s e)) c o expiresAt n := by
            intro o' l hl hlc
            rcases htracked' o' l hl hlc with ⟨ho, hexpiry, hattempts⟩
            exact ⟨ho, hexpiry, by omega⟩
          have hzero : GuessAt links label o c s e = false := by
            simp [GuessAt, hcode]
          simpa [hzero] using ih hweak hn hrest hnever
      · have hzero : GuessAt links label o c s e = false := by
          simp [GuessAt, hguess]
        simp only [hguess, Bool.false_eq_true, if_false, Nat.add_zero] at htracked'
        simpa [hzero] using ih htracked' hn hrest hnever

/--
What must have happened when a code is accepted that was issued before the run:
by the same owner, before the expiry, with fewer wrong codes than the limit, and
without anything in between that ended the link.
-/
theorem accept_of_tracked [DecidableEq owner] {e : event} {o' : owner} {now : Int}
    (htracked : Tracked (links s) c o expiresAt 0)
    (hrefines : Refines limit step links label s (es ++ [e]))
    (hnever : NeverIssues step label c s es)
    (haccept : label (after step s es) e = .accept o' c now) :
    o' = o ∧ now < expiresAt ∧
      countAlong step (fun s e => (label s e).isGuess o) s es < limit ∧
      Along step (fun s e => Not ((label s e).Ends o)) s es := by
  rcases along_append.mp hrefines with ⟨hrun, hlast⟩
  have hstep := along_singleton.mp hlast
  simp only [haccept] at hstep
  cases hstep with
  | @accept _ _ _ l hothers hbefore hlive hcode hafter =>
      rcases tracked_after htracked hrun hnever o' l hbefore hcode with
        ⟨ho, hexpiry, hattempts⟩
      have hlt := hlive.attempts_lt
      have hunexpired := hlive.unexpired
      refine ⟨ho, by omega, by omega, ?_⟩
      intro pre e' post hes hends
      rw [hes] at hrun hnever hbefore
      rcases along_append.mp hrun with ⟨hpre, hmid⟩
      rcases along_append.mp hnever with ⟨hneverPre, hneverMid⟩
      rcases along_cons.mp hmid with ⟨hstep', hpost⟩
      rcases along_cons.mp hneverMid with ⟨hissue, hneverPost⟩
      have habsent := (tracked_after htracked hpre hneverPre).ended hstep' hissue hends
      rw [after_append, after_cons] at hbefore
      exact absent_after habsent hpost hneverPost o' l hbefore hcode

end Machines

end Protocols
end ServerComponents
