import Mathlib.Data.List.Basic
import Mathlib.Data.List.Perm.Basic
import Mathlib.Tactic.Tauto

/-!
# The first of each name

Of the valid items with one name the first is to be kept.  A releasing pass takes the name of
an item it keeps, and frees the name of an item it drops: a repeat frees the name of the item
before it.
-/

namespace ServerComponents
namespace Relational

variable {item name : Type} [DecidableEq name]

section Passes

variable (nameOf : item -> name) (valid : item -> Bool)

/-- The first valid item of each name that has not been seen. -/
def firstOfEach (seen : List name) : List item -> List item
  | [] => []
  | x :: rest =>
      if valid x = true ∧ nameOf x ∉ seen then x :: firstOfEach (nameOf x :: seen) rest
      else firstOfEach seen rest

/-- The names that are taken behind an item. -/
def releaseName (taken : List name) (x : item) : List name :=
  if valid x = true ∧ nameOf x ∉ taken then nameOf x :: taken
  else taken.filter (fun n => n != nameOf x)

def namesAfter (taken : List name) (xs : List item) : List name :=
  xs.foldl (releaseName nameOf valid) taken

def keptItems (taken : List name) : List item -> List item
  | [] => []
  | x :: rest =>
      if valid x = true ∧ nameOf x ∉ taken then
        x :: keptItems (releaseName nameOf valid taken x) rest
      else keptItems (releaseName nameOf valid taken x) rest

def droppedItems (taken : List name) : List item -> List item
  | [] => []
  | x :: rest =>
      if valid x = true ∧ nameOf x ∉ taken then
        droppedItems (releaseName nameOf valid taken x) rest
      else x :: droppedItems (releaseName nameOf valid taken x) rest

/-- No valid item stands behind two items of its name of which the first is valid. -/
def NoThird (xs : List item) : Prop :=
  forall x y z, [x, y, z].Sublist xs -> nameOf y = nameOf x -> nameOf z = nameOf x ->
    valid x = true -> valid z = false

/-- A name has a valid item, and nothing of that name stands behind a valid item of it. -/
def Held (xs : List item) (n : name) : Prop :=
  (exists x, x ∈ xs ∧ nameOf x = n ∧ valid x = true) ∧
    forall x y, [x, y].Sublist xs -> nameOf x = n -> nameOf y = n -> valid x = false

end Passes

variable {nameOf : item -> name} {valid : item -> Bool}

/-!
# The first items
-/

theorem firstOfEach_spec (seen : List name) (xs : List item) :
    ((firstOfEach nameOf valid seen xs).map nameOf).Nodup ∧
      forall x, x ∈ firstOfEach nameOf valid seen xs ->
        x ∈ xs ∧ valid x = true ∧ nameOf x ∉ seen := by
  induction xs generalizing seen with
  | nil => exact ⟨List.nodup_nil, fun x hx => absurd hx List.not_mem_nil⟩
  | cons x rest ih =>
      unfold firstOfEach
      split
      · rename_i hfirst
        rcases ih (nameOf x :: seen) with ⟨hnodup, hitems⟩
        constructor
        · rw [List.map_cons, List.nodup_cons]
          refine ⟨?_, hnodup⟩
          intro hmem
          rcases List.mem_map.mp hmem with ⟨y, hy, hname⟩
          exact (hitems y hy).2.2 (by rw [hname]; exact List.mem_cons_self)
        · intro y hy
          cases hy with
          | head => exact ⟨List.mem_cons_self, hfirst⟩
          | tail _ hy =>
              rcases hitems y hy with ⟨hmem, hvalid, hunseen⟩
              exact ⟨List.mem_cons_of_mem x hmem, hvalid,
                fun hseen => hunseen (List.mem_cons_of_mem _ hseen)⟩
      · rcases ih seen with ⟨hnodup, hitems⟩
        refine ⟨hnodup, fun y hy => ?_⟩
        rcases hitems y hy with ⟨hmem, hrest⟩
        exact ⟨List.mem_cons_of_mem x hmem, hrest⟩

variable {xs : List item}

theorem mem_map_firstOfEach {seen : List name} {n : name} (h : n ∉ seen) :
    n ∈ (firstOfEach nameOf valid seen xs).map nameOf <->
      exists x, x ∈ xs ∧ nameOf x = n ∧ valid x = true := by
  constructor
  · intro hmem
    rcases List.mem_map.mp hmem with ⟨x, hx, hname⟩
    have hspec := (firstOfEach_spec seen xs).2 x hx
    exact ⟨x, hspec.1, hname, hspec.2.1⟩
  · intro hexists
    rcases hexists with ⟨x, hx, hname, hvalid⟩
    induction xs generalizing seen with
    | nil => cases hx
    | cons y rest ih =>
        unfold firstOfEach
        by_cases hsame : nameOf y = n
        · by_cases hkeep : valid y = true
          · rw [if_pos ⟨hkeep, by rw [hsame]; exact h⟩, List.map_cons, hsame]
            exact List.mem_cons_self
          · rw [if_neg (fun hboth => hkeep hboth.1)]
            cases hx with
            | head => exact absurd hvalid hkeep
            | tail _ hx => exact ih h hx
        · have hx' : x ∈ rest := by
            cases hx with
            | head => exact absurd hname hsame
            | tail _ hx => exact hx
          split
          · rw [List.map_cons]
            refine List.mem_cons_of_mem _ (ih ?_ hx')
            intro hmem
            cases hmem with
            | head => exact hsame rfl
            | tail _ hmem => exact h hmem
          · exact ih h hx'

/-!
# The pass
-/

variable {taken : List name}

theorem mem_releaseName_of_ne {x : item} {n : name} (h : n ≠ nameOf x) :
    n ∈ releaseName nameOf valid taken x <-> n ∈ taken := by
  unfold releaseName
  split
  · simp [h]
  · simp [h]

theorem releaseName_keep {x : item} (h : valid x = true ∧ nameOf x ∉ taken) :
    releaseName nameOf valid taken x = nameOf x :: taken := by
  unfold releaseName
  rw [if_pos h]

theorem notMem_releaseName {x : item} (h : Not (valid x = true ∧ nameOf x ∉ taken)) :
    nameOf x ∉ releaseName nameOf valid taken x := by
  unfold releaseName
  rw [if_neg h]
  simp

theorem perm_keptItems (taken : List name) (xs : List item) :
    xs.Perm (keptItems nameOf valid taken xs ++ droppedItems nameOf valid taken xs) := by
  induction xs generalizing taken with
  | nil => exact List.Perm.nil
  | cons x rest ih =>
      unfold keptItems droppedItems
      split
      · exact (ih _).cons x
      · exact ((ih _).cons x).trans List.perm_middle.symm

theorem passes_of_nodup (hnodup : (xs.map nameOf).Nodup)
    (hvalid : forall x, x ∈ xs -> valid x = true) (hfree : forall x, x ∈ xs -> nameOf x ∉ taken) :
    keptItems nameOf valid taken xs = xs ∧ droppedItems nameOf valid taken xs = [] ∧
      forall n, n ∈ namesAfter nameOf valid taken xs <-> n ∈ xs.map nameOf ∨ n ∈ taken := by
  induction xs generalizing taken with
  | nil => exact ⟨rfl, rfl, fun n => by simp [namesAfter]⟩
  | cons x rest ih =>
      rw [List.map_cons, List.nodup_cons] at hnodup
      have hkeep : valid x = true ∧ nameOf x ∉ taken :=
        ⟨hvalid x List.mem_cons_self, hfree x List.mem_cons_self⟩
      have hfree' : forall y, y ∈ rest -> nameOf y ∉ nameOf x :: taken := by
        intro y hy hmem
        rcases List.mem_cons.mp hmem with hsame | hmem
        · exact hnodup.1 (List.mem_map.mpr ⟨y, hy, hsame⟩)
        · exact hfree y (List.mem_cons_of_mem x hy) hmem
      rcases ih hnodup.2 (fun y hy => hvalid y (List.mem_cons_of_mem x hy)) hfree' with
        ⟨hkept, hdropped, hnames⟩
      unfold keptItems droppedItems
      rw [if_pos hkeep, if_pos hkeep, releaseName_keep hkeep]
      refine ⟨by rw [hkept], hdropped, fun n => ?_⟩
      change n ∈ namesAfter nameOf valid (releaseName nameOf valid taken x) rest <-> _
      rw [releaseName_keep hkeep, hnames, List.map_cons, List.mem_cons, List.mem_cons]
      tauto

theorem passes_agree {valid' : item -> Bool}
    (h : forall before x after, xs = before ++ x :: after ->
      nameOf x ∉ namesAfter nameOf valid taken before -> valid x = valid' x) :
    keptItems nameOf valid taken xs = keptItems nameOf valid' taken xs ∧
      namesAfter nameOf valid taken xs = namesAfter nameOf valid' taken xs := by
  induction xs generalizing taken with
  | nil => exact ⟨rfl, rfl⟩
  | cons x rest ih =>
      have hkeep : (valid x = true ∧ nameOf x ∉ taken) <->
          (valid' x = true ∧ nameOf x ∉ taken) := by
        by_cases hfree : nameOf x ∉ taken
        · rw [h [] x rest rfl hfree]
        · exact ⟨fun hboth => absurd hboth.2 hfree, fun hboth => absurd hboth.2 hfree⟩
      have hnames : releaseName nameOf valid taken x = releaseName nameOf valid' taken x := by
        unfold releaseName
        simp only [hkeep]
      have htail := @ih (releaseName nameOf valid taken x)
        (fun before y after heq => h (x :: before) y after (by rw [heq]; rfl))
      constructor
      · unfold keptItems
        simp only [hkeep, ← hnames, htail.1]
      · change namesAfter nameOf valid (releaseName nameOf valid taken x) rest =
          namesAfter nameOf valid' (releaseName nameOf valid' taken x) rest
        rw [htail.2, hnames]

/-!
# When the pass keeps the first
-/

theorem pair_sublist_cons {x y a : item} {rest : List item} :
    [x, y].Sublist (a :: rest) <-> [x, y].Sublist rest ∨ (x = a ∧ y ∈ rest) := by
  rw [List.sublist_cons_iff]
  constructor
  · intro h
    rcases h with hrest | ⟨tail, heq, htail⟩
    · exact Or.inl hrest
    · cases heq
      exact Or.inr ⟨rfl, List.singleton_sublist.mp htail⟩
  · intro h
    rcases h with hrest | ⟨heq, hy⟩
    · exact Or.inl hrest
    · exact Or.inr ⟨[y], by rw [heq], List.singleton_sublist.mpr hy⟩

theorem triple_sublist_cons {x y z a : item} {rest : List item} :
    [x, y, z].Sublist (a :: rest) <->
      [x, y, z].Sublist rest ∨ (x = a ∧ [y, z].Sublist rest) := by
  rw [List.sublist_cons_iff]
  constructor
  · intro h
    rcases h with hrest | ⟨tail, heq, htail⟩
    · exact Or.inl hrest
    · cases heq
      exact Or.inr ⟨rfl, htail⟩
  · intro h
    rcases h with hrest | ⟨heq, hpair⟩
    · exact Or.inl hrest
    · exact Or.inr ⟨[y, z], by rw [heq], hpair⟩

theorem mem_of_pair_sublist {x y : item} (h : [x, y].Sublist xs) : y ∈ xs :=
  h.subset (List.mem_cons_of_mem x List.mem_cons_self)

/-- No item can be kept a second time, when some names have been kept and some of these are
taken. -/
structure Spaced (nameOf : item -> name) (valid : item -> Bool) (seen taken : List name)
    (xs : List item) : Prop where
  third : NoThird nameOf valid xs
  second : forall y z, nameOf y ∈ taken -> [y, z].Sublist xs -> nameOf z = nameOf y ->
    valid z = false
  first : forall z, z ∈ xs -> nameOf z ∈ seen -> nameOf z ∉ taken -> valid z = false

omit [DecidableEq name] in
theorem spaced_nil_iff :
    Spaced nameOf valid [] [] xs <-> NoThird nameOf valid xs := by
  constructor
  · exact fun h => h.third
  · exact fun h => ⟨h, fun y z hy => absurd hy List.not_mem_nil,
      fun z _ hz => absurd hz List.not_mem_nil⟩

section Step

variable {seen taken : List name} {x : item} {rest : List item}

theorem spaced_drop_iff (hseen : forall n, n ∈ taken -> n ∈ seen)
    (hdrop : valid x = true -> nameOf x ∈ taken) :
    Spaced nameOf valid seen (releaseName nameOf valid taken x) rest <->
      Spaced nameOf valid seen taken (x :: rest) := by
  have hfree : nameOf x ∉ releaseName nameOf valid taken x :=
    notMem_releaseName (fun hboth => hboth.2 (hdrop hboth.1))
  have hrepeat : Spaced nameOf valid seen (releaseName nameOf valid taken x) rest ->
      nameOf x ∈ taken -> forall z, z ∈ rest -> nameOf z = nameOf x -> valid z = false := by
    intro h htaken z hz hname
    refine h.first z hz ?_ ?_
    · rw [hname]
      exact hseen _ htaken
    · rw [hname]
      exact hfree
  constructor
  · intro h
    constructor
    · intro a b c hsub hb hc ha
      rcases triple_sublist_cons.mp hsub with hrest | ⟨heq, hpair⟩
      · exact h.third a b c hrest hb hc ha
      · rw [heq] at ha hc
        exact hrepeat h (hdrop ha) c (mem_of_pair_sublist hpair) hc
    · intro y z hy hsub hz
      rcases pair_sublist_cons.mp hsub with hrest | ⟨heq, hmem⟩
      · by_cases hsame : nameOf y = nameOf x
        · rw [hsame] at hy hz
          exact hrepeat h hy z (mem_of_pair_sublist hrest) hz
        · exact h.second y z ((mem_releaseName_of_ne hsame).mpr hy) hrest hz
      · rw [heq] at hy hz
        exact hrepeat h hy z hmem hz
    · intro z hz hzseen hztaken
      cases hz with
      | head => exact Bool.eq_false_iff.mpr (fun hvalid => hztaken (hdrop hvalid))
      | tail _ hz =>
          refine h.first z hz hzseen ?_
          by_cases hsame : nameOf z = nameOf x
          · rw [hsame]
            exact hfree
          · rw [mem_releaseName_of_ne hsame]
            exact hztaken
  · intro h
    constructor
    · intro a b c hsub hb hc ha
      exact h.third a b c (triple_sublist_cons.mpr (Or.inl hsub)) hb hc ha
    · intro y z hy hsub hz
      have hne : nameOf y ≠ nameOf x := by
        intro heq
        rw [heq] at hy
        exact hfree hy
      exact h.second y z ((mem_releaseName_of_ne hne).mp hy)
        (pair_sublist_cons.mpr (Or.inl hsub)) hz
    · intro z hz hzseen hzfree
      by_cases hsame : nameOf z = nameOf x
      · by_cases htaken : nameOf x ∈ taken
        · exact h.second x z htaken (pair_sublist_cons.mpr (Or.inr ⟨rfl, hz⟩)) hsame
        · refine h.first z (List.mem_cons_of_mem x hz) hzseen ?_
          rw [hsame]
          exact htaken
      · rw [mem_releaseName_of_ne hsame] at hzfree
        exact h.first z (List.mem_cons_of_mem x hz) hzseen hzfree

omit [DecidableEq name] in
theorem spaced_keep_iff (hseen : forall n, n ∈ taken -> n ∈ seen)
    (hvalid : valid x = true) (hfirst : nameOf x ∉ seen) :
    Spaced nameOf valid (nameOf x :: seen) (nameOf x :: taken) rest <->
      Spaced nameOf valid seen taken (x :: rest) := by
  constructor
  · intro h
    constructor
    · intro a b c hsub hb hc ha
      rcases triple_sublist_cons.mp hsub with hrest | ⟨heq, hpair⟩
      · exact h.third a b c hrest hb hc ha
      · rw [heq] at hb hc
        exact h.second b c (by rw [hb]; exact List.mem_cons_self) hpair (by rw [hb, hc])
    · intro y z hy hsub hz
      rcases pair_sublist_cons.mp hsub with hrest | ⟨heq, hmem⟩
      · exact h.second y z (List.mem_cons_of_mem _ hy) hrest hz
      · rw [heq] at hy
        exact absurd (hseen _ hy) hfirst
    · intro z hz hzseen hztaken
      cases hz with
      | head => exact absurd hzseen hfirst
      | tail _ hz =>
          refine h.first z hz (List.mem_cons_of_mem _ hzseen) ?_
          intro hmem
          rcases List.mem_cons.mp hmem with hsame | hmem
          · rw [hsame] at hzseen
            exact hfirst hzseen
          · exact hztaken hmem
  · intro h
    constructor
    · intro a b c hsub hb hc ha
      exact h.third a b c (triple_sublist_cons.mpr (Or.inl hsub)) hb hc ha
    · intro y z hy hsub hz
      rcases List.mem_cons.mp hy with hsame | hy
      · exact h.third x y z (triple_sublist_cons.mpr (Or.inr ⟨rfl, hsub⟩)) hsame
          (by rw [hz, hsame]) hvalid
      · exact h.second y z hy (pair_sublist_cons.mpr (Or.inl hsub)) hz
    · intro z hz hzseen hztaken
      rcases List.mem_cons.mp hzseen with hsame | hzseen
      · exact absurd (by rw [hsame]; exact List.mem_cons_self) hztaken
      · exact h.first z (List.mem_cons_of_mem x hz) hzseen
          (fun hmem => hztaken (List.mem_cons_of_mem _ hmem))

end Step

/-- From any state, the pass keeps the first items when nothing is kept twice, and otherwise
it does not even keep their names. -/
theorem keptItems_spec {seen taken : List name} (hseen : forall n, n ∈ taken -> n ∈ seen) :
    (Spaced nameOf valid seen taken xs ->
        keptItems nameOf valid taken xs = firstOfEach nameOf valid seen xs) ∧
      ((keptItems nameOf valid taken xs).map nameOf =
          (firstOfEach nameOf valid seen xs).map nameOf ->
        Spaced nameOf valid seen taken xs) := by
  induction xs generalizing seen taken with
  | nil =>
      refine ⟨fun _ => rfl, fun _ => ⟨?_, ?_, ?_⟩⟩
      · intro x y z hsub
        cases hsub
      · intro y z _ hsub
        cases hsub
      · intro z hz
        cases hz
  | cons x rest ih =>
      by_cases hdrop : valid x = true -> nameOf x ∈ taken
      · have hnot : Not (valid x = true ∧ nameOf x ∉ taken) :=
          fun hboth => hboth.2 (hdrop hboth.1)
        have hseen' : forall n, n ∈ releaseName nameOf valid taken x -> n ∈ seen := by
          intro n hn
          by_cases hsame : n = nameOf x
          · rw [hsame] at hn
            exact absurd hn (notMem_releaseName hnot)
          · exact hseen n ((mem_releaseName_of_ne hsame).mp hn)
        unfold keptItems firstOfEach
        rw [if_neg hnot, if_neg (fun hboth => hboth.2 (hseen _ (hdrop hboth.1))),
          ← spaced_drop_iff hseen hdrop]
        exact ih hseen'
      · have hkeep : valid x = true ∧ nameOf x ∉ taken := by
          by_cases hvalid : valid x = true
          · exact ⟨hvalid, fun htaken => hdrop (fun _ => htaken)⟩
          · exact absurd (fun h => absurd h hvalid) hdrop
        unfold keptItems firstOfEach
        rw [if_pos hkeep, releaseName_keep hkeep]
        by_cases hfirst : nameOf x ∉ seen
        · have hseen' : forall n, n ∈ nameOf x :: taken -> n ∈ nameOf x :: seen := by
            intro n hn
            rcases List.mem_cons.mp hn with hsame | hn
            · rw [hsame]
              exact List.mem_cons_self
            · exact List.mem_cons_of_mem _ (hseen n hn)
          rw [if_pos ⟨hkeep.1, hfirst⟩, ← spaced_keep_iff hseen hkeep.1 hfirst]
          constructor
          · intro h
            rw [(ih hseen').1 h]
          · intro heq
            exact (ih hseen').2 (List.cons.inj heq).2
        · have hmem : nameOf x ∈ seen := Decidable.not_not.mp hfirst
          rw [if_neg (fun hboth => hfirst hboth.2)]
          constructor
          · intro h
            have hinvalid := h.first x List.mem_cons_self hmem hkeep.2
            rw [hkeep.1] at hinvalid
            cases hinvalid
          · intro heq
            have hname : nameOf x ∈ (firstOfEach nameOf valid seen rest).map nameOf := by
              rw [← heq]
              exact List.mem_cons_self
            rcases List.mem_map.mp hname with ⟨y, hy, hsame⟩
            have hspec := (firstOfEach_spec seen rest).2 y hy
            rw [hsame] at hspec
            exact absurd hmem hspec.2.2

theorem keptItems_eq_firstOfEach (h : NoThird nameOf valid xs) :
    keptItems nameOf valid [] xs = firstOfEach nameOf valid [] xs :=
  (keptItems_spec (fun _ hn => hn)).1 (spaced_nil_iff.mpr h)

theorem noThird_of_map_eq (h : (keptItems nameOf valid [] xs).map nameOf =
      (firstOfEach nameOf valid [] xs).map nameOf) : NoThird nameOf valid xs :=
  spaced_nil_iff.mp ((keptItems_spec (fun _ hn => hn)).2 h)

omit [DecidableEq name] in
theorem NoThird.sublist {xs ys : List item} (h : NoThird nameOf valid ys)
    (hsub : xs.Sublist ys) : NoThird nameOf valid xs :=
  fun x y z hxyz => h x y z (hxyz.trans hsub)

/-!
# The names that are taken
-/

omit [DecidableEq name] in
theorem held_cons_of_not {x : item} {rest : List item} {n : name}
    (h : nameOf x = n -> valid x = false) :
    Held nameOf valid (x :: rest) n <-> Held nameOf valid rest n := by
  constructor
  · intro hheld
    rcases hheld with ⟨⟨y, hy, hname, hvalid⟩, hlast⟩
    constructor
    · cases hy with
      | head =>
          rw [h hname] at hvalid
          cases hvalid
      | tail _ hy => exact ⟨y, hy, hname, hvalid⟩
    · exact fun a b hsub => hlast a b (pair_sublist_cons.mpr (Or.inl hsub))
  · intro hheld
    rcases hheld with ⟨⟨y, hy, hname, hvalid⟩, hlast⟩
    constructor
    · exact ⟨y, List.mem_cons_of_mem x hy, hname, hvalid⟩
    · intro a b hsub ha hb
      rcases pair_sublist_cons.mp hsub with hrest | ⟨heq, -⟩
      · exact hlast a b hrest ha hb
      · rw [heq] at ha ⊢
        exact h ha

omit [DecidableEq name] in
theorem held_cons_of_valid {x : item} {rest : List item} (h : valid x = true) :
    Held nameOf valid (x :: rest) (nameOf x) <-> forall y, y ∈ rest -> nameOf y ≠ nameOf x := by
  constructor
  · intro hheld y hy hname
    have hinvalid := hheld.2 x y (pair_sublist_cons.mpr (Or.inr ⟨rfl, hy⟩)) rfl hname
    rw [h] at hinvalid
    cases hinvalid
  · intro hnone
    constructor
    · exact ⟨x, List.mem_cons_self, rfl, h⟩
    · intro a b hsub _ hb
      rcases pair_sublist_cons.mp hsub with hrest | ⟨-, hmem⟩
      · exact absurd hb (hnone b (mem_of_pair_sublist hrest))
      · exact absurd hb (hnone b hmem)

/-- Where nothing is kept twice, a name is taken at the end when it was and nothing of it came,
or when it is held. -/
theorem mem_namesAfter_iff {seen taken : List name} {n : name}
    (hseen : forall n, n ∈ taken -> n ∈ seen) (h : Spaced nameOf valid seen taken xs) :
    n ∈ namesAfter nameOf valid taken xs <->
      (n ∈ taken ∧ forall y, y ∈ xs -> nameOf y ≠ n) ∨
        (n ∉ seen ∧ Held nameOf valid xs n) := by
  induction xs generalizing seen taken with
  | nil =>
      constructor
      · exact fun hn => Or.inl ⟨hn, fun y hy => absurd hy List.not_mem_nil⟩
      · intro hn
        rcases hn with ⟨hn, -⟩ | ⟨-, ⟨y, hy, -⟩, -⟩
        · exact hn
        · cases hy
  | cons x rest ih =>
      have hnone : (forall y, y ∈ x :: rest -> nameOf y ≠ n) <->
          nameOf x ≠ n ∧ forall y, y ∈ rest -> nameOf y ≠ n := List.forall_mem_cons
      change n ∈ namesAfter nameOf valid (releaseName nameOf valid taken x) rest <-> _
      rw [hnone]
      by_cases hdrop : valid x = true -> nameOf x ∈ taken
      · have hnot : Not (valid x = true ∧ nameOf x ∉ taken) :=
          fun hboth => hboth.2 (hdrop hboth.1)
        have hseen' : forall n, n ∈ releaseName nameOf valid taken x -> n ∈ seen := by
          intro m hm
          by_cases hsame : m = nameOf x
          · rw [hsame] at hm
            exact absurd hm (notMem_releaseName hnot)
          · exact hseen m ((mem_releaseName_of_ne hsame).mp hm)
        rw [ih hseen' ((spaced_drop_iff hseen hdrop).mpr h)]
        by_cases hsame : nameOf x = n
        · have hfree : n ∉ releaseName nameOf valid taken x := by
            rw [← hsame]
            exact notMem_releaseName hnot
          constructor
          · intro hn
            rcases hn with ⟨hn, -⟩ | ⟨hunseen, hheld⟩
            · exact absurd hn hfree
            · refine Or.inr ⟨hunseen, (held_cons_of_not fun _ => ?_).mpr hheld⟩
              refine Bool.eq_false_iff.mpr (fun hvalid => hunseen ?_)
              rw [← hsame]
              exact hseen _ (hdrop hvalid)
          · intro hn
            rcases hn with ⟨-, hne, -⟩ | ⟨hunseen, hheld⟩
            · exact absurd hsame hne
            · refine Or.inr ⟨hunseen, (held_cons_of_not fun _ => ?_).mp hheld⟩
              refine Bool.eq_false_iff.mpr (fun hvalid => hunseen ?_)
              rw [← hsame]
              exact hseen _ (hdrop hvalid)
        · rw [mem_releaseName_of_ne (fun heq => hsame heq.symm), held_cons_of_not (absurd · hsame),
            and_iff_right hsame]
      · have hkeep : valid x = true ∧ nameOf x ∉ taken := by
          by_cases hvalid : valid x = true
          · exact ⟨hvalid, fun htaken => hdrop (fun _ => htaken)⟩
          · exact absurd (fun h => absurd h hvalid) hdrop
        have hfirst : nameOf x ∉ seen := by
          intro hmem
          have hinvalid := h.first x List.mem_cons_self hmem hkeep.2
          rw [hkeep.1] at hinvalid
          cases hinvalid
        have hseen' : forall n, n ∈ nameOf x :: taken -> n ∈ nameOf x :: seen := by
          intro m hm
          rcases List.mem_cons.mp hm with hsame | hm
          · rw [hsame]
            exact List.mem_cons_self
          · exact List.mem_cons_of_mem _ (hseen m hm)
        rw [releaseName_keep hkeep, ih hseen' ((spaced_keep_iff hseen hkeep.1 hfirst).mpr h)]
        by_cases hsame : nameOf x = n
        · rw [← hsame, held_cons_of_valid hkeep.1]
          simp [hkeep.2, hfirst]
        · have hne : Not (n = nameOf x) := fun heq => hsame heq.symm
          rw [held_cons_of_not (absurd · hsame), List.mem_cons, List.mem_cons, or_iff_right hne,
            or_iff_right hne, and_iff_right hsame]

theorem mem_namesAfter_nil_iff {n : name} (h : NoThird nameOf valid xs) :
    n ∈ namesAfter nameOf valid [] xs <-> Held nameOf valid xs n := by
  rw [mem_namesAfter_iff (fun m hm => hm) (spaced_nil_iff.mpr h)]
  simp

end Relational
end ServerComponents
