import ServerComponents.Branding.ThemeBundle
import ServerComponents.Relational.FirstOfEach
import ServerComponents.Text.JsonGrammar

/-!
# What pruning keeps

Pruning is to keep the first usable item of each key or name.  An item that repeats one is
dropped, and frees the key or name it repeats.
-/

namespace ServerComponents
namespace Branding

open Relational

variable {json : Type}

def validSource (source : BundleFontSource) : Bool :=
  decide ((sourceReason [] source).1 = "")

def missingSource (key : String) : String :=
  "names a font service (\"" ++ key ++ "\") that theme does not include."

def familyReason (bundle : ThemeBundle json) (sourceKeys : List String)
    (family : BundleFontFamily) : String :=
  if !isValidFontFamilyName family.family then "that is not a usable font name."
  else if family.fallback = "" ∨ isValidFontFamilyList family.fallback = false then
    "needs a backup font (for example sans-serif)."
  else (familyKindReason bundle sourceKeys family).1

def validFamily (bundle : ThemeBundle json) (sourceKeys : List String)
    (family : BundleFontFamily) : Bool :=
  decide (familyReason bundle sourceKeys family = "")

/-- A family without the faces that cannot be stored. -/
def keptPart (bundle : ThemeBundle json) (family : BundleFontFamily) : BundleFontFamily :=
  if family.sourceKind = kSiteFontSourceKindUploaded then
    { family with faces := keptFaces bundle family }
  else family

/-- A family that is judged by the source it names. -/
def AsksForSource (family : BundleFontFamily) : Prop :=
  family.sourceKind = kSiteFontSourceKindCdn ∧ isValidFontFamilyName family.family = true ∧
    Not (family.fallback = "" ∨ isValidFontFamilyList family.fallback = false)

/-!
# The law
-/

/-- Whatever is dropped has a problem, or is named among the unknown keys. -/
structure Reported (bundle : ThemeBundle json) : Prop where
  content : forall e, e ∈ bundle.content.entries ->
    e ∉ (pruneUnusableBundleItems bundle).content.entries ->
    e.1 ∈ unknownKeysOf bundle ∨
      exists p, p ∈ problemsOf bundle ∧ p.area = "content" ∧ p.item = e.1
  tokens : forall e, e ∈ bundle.tokens.entries ->
    e ∉ (pruneUnusableBundleItems bundle).tokens.entries ->
    e.1 ∈ unknownKeysOf bundle ∨
      exists p, p ∈ problemsOf bundle ∧ p.area = "tokens" ∧ p.item = e.1
  /-- Each dropped source and family has a problem of its own, and so has a kept family that
  has lost a face. -/
  fonts : exists droppedSources keptFamilies droppedFamilies,
    bundle.sources.Perm ((pruneUnusableBundleItems bundle).sources ++ droppedSources) ∧
      bundle.families.Perm (keptFamilies ++ droppedFamilies) ∧
      (pruneUnusableBundleItems bundle).families = keptFamilies.map (keptPart bundle) ∧
      (droppedSources.map BundleFontSource.sourceKey ++
        droppedFamilies.map BundleFontFamily.family).Sublist
          ((problemsOf bundle).map BundleProblem.item) ∧
      forall family face, family ∈ keptFamilies -> face ∈ family.faces ->
        face ∉ (keptPart bundle family).faces ->
        exists p, p ∈ problemsOf bundle ∧ p.area = "fonts" ∧ p.item = family.family

structure PruningLaw (bundle : ThemeBundle json) : Prop where
  keys_distinct :
    ((pruneUnusableBundleItems bundle).sources.map BundleFontSource.sourceKey).Nodup
  names_distinct :
    ((pruneUnusableBundleItems bundle).families.map BundleFontFamily.family).Nodup
  sources_first : (pruneUnusableBundleItems bundle).sources =
    firstOfEach BundleFontSource.sourceKey validSource [] bundle.sources
  families_first : (pruneUnusableBundleItems bundle).families =
    (firstOfEach BundleFontFamily.family
      (validFamily bundle
        ((pruneUnusableBundleItems bundle).sources.map BundleFontSource.sourceKey))
      [] bundle.families).map (keptPart bundle)
  cdn_named : forall family, family ∈ (pruneUnusableBundleItems bundle).families ->
    family.sourceKind = kSiteFontSourceKindCdn ->
    exists source, source ∈ (pruneUnusableBundleItems bundle).sources ∧
      source.sourceKey = family.sourceKey
  cdn_kept : forall family, family ∈ bundle.families ->
    family.sourceKind = kSiteFontSourceKindCdn ->
    (exists source, source ∈ (pruneUnusableBundleItems bundle).sources ∧
      source.sourceKey = family.sourceKey) ->
    ⟨"fonts", family.family, missingSource family.sourceKey⟩ ∉ problemsOf bundle
  reported : Reported bundle
  again : pruneUnusableBundleItems (pruneUnusableBundleItems bundle) =
      pruneUnusableBundleItems bundle ∧
    problemsOf (pruneUnusableBundleItems bundle) = [] ∧
    unknownKeysOf (pruneUnusableBundleItems bundle) = []

def validKeys (bundle : ThemeBundle json) : List String :=
  (bundle.sources.filter validSource).map BundleFontSource.sourceKey

/-- No repeat frees a key or a name that is asked for again. -/
structure NoHarmfulRepeat (bundle : ThemeBundle json) : Prop where
  sources : NoThird BundleFontSource.sourceKey validSource bundle.sources
  families : NoThird BundleFontFamily.family (validFamily bundle (validKeys bundle))
    bundle.families
  /-- A family that asks for a valid source finds it, or repeats the name of a kept one. -/
  asked : forall before family after, bundle.families = before ++ family :: after ->
    AsksForSource family -> family.sourceKey ∈ validKeys bundle ->
    Held BundleFontSource.sourceKey validSource bundle.sources family.sourceKey ∨
      Held BundleFontFamily.family (validFamily bundle (validKeys bundle)) before family.family

/-!
# Sources
-/

/-- No text of these begins like the reason against a family without its source. -/
def OtherReason (reason : String) : Prop := reason.toList.take 2 ≠ "na".toList

theorem sourceReason_of_free {names : List String} {source : BundleFontSource}
    (h : source.sourceKey ∉ names) :
    sourceReason names source = ((sourceReason [] source).1,
      if source.sourceKey = "" then names else source.sourceKey :: names) := by
  unfold sourceReason
  by_cases hempty : source.sourceKey = ""
  · rw [if_pos hempty, if_pos hempty, if_pos hempty]
  · rw [if_neg hempty, if_neg hempty, if_neg hempty, if_neg h, if_neg List.not_mem_nil]
    split
    · rfl
    split
    · rfl
    · rfl

theorem preconnectProblem_other (preconnects : List BundleFontPreconnect) :
    OtherReason (preconnectProblem preconnects) := by
  unfold preconnectProblem OtherReason
  split
  · simp only [String.toList_append]
    simp
  · decide

theorem sourceReason_other (names : List String) (source : BundleFontSource) :
    OtherReason (sourceReason names source).1 := by
  have htexts : forall reason, reason ∈ ["a font service in that theme has no short key.",
      "two font services in that theme share this key.",
      "the font service address must be an https:// URL.",
      "that extra setting is not valid."] -> OtherReason reason := by
    unfold OtherReason
    decide
  unfold sourceReason
  split
  · exact htexts _ (by simp)
  split
  · exact htexts _ (by simp)
  split
  · exact htexts _ (by simp)
  split
  · exact htexts _ (by simp)
  · exact preconnectProblem_other _

theorem pruneSource_keep {kept : Kept BundleFontSource} {source : BundleFontSource}
    (h : validSource source = true ∧ source.sourceKey ∉ kept.names) :
    pruneSource kept source =
      ⟨releaseName BundleFontSource.sourceKey validSource kept.names source,
        kept.items ++ [source], kept.problems⟩ := by
  have hreason : (sourceReason [] source).1 = "" := of_decide_eq_true h.1
  have hkey : source.sourceKey ≠ "" := by
    intro hempty
    unfold sourceReason at hreason
    rw [if_pos hempty] at hreason
    exact absurd hreason (by decide)
  unfold pruneSource
  rw [sourceReason_of_free h.2, hreason, releaseName_keep h, if_neg hkey]
  rfl

theorem pruneSource_drop {kept : Kept BundleFontSource} {source : BundleFontSource}
    (h : Not (validSource source = true ∧ source.sourceKey ∉ kept.names)) :
    exists reason, OtherReason reason ∧ pruneSource kept source =
      ⟨releaseName BundleFontSource.sourceKey validSource kept.names source, kept.items,
        kept.problems ++ [⟨"fonts", source.sourceKey, reason⟩]⟩ := by
  refine ⟨(sourceReason kept.names source).1, sourceReason_other _ _, ?_⟩
  have hdecide : forall names, names.filter (fun n => n != source.sourceKey) =
      kept.names.filter (fun n => n != source.sourceKey) ->
      (sourceReason kept.names source).1 ≠ "" ->
      (sourceReason kept.names source).2 = names ->
      pruneSource kept source =
        ⟨releaseName BundleFontSource.sourceKey validSource kept.names source, kept.items,
          kept.problems ++ [⟨"fonts", source.sourceKey, (sourceReason kept.names source).1⟩]⟩ := by
    intro names hnames hreason hleft
    unfold pruneSource
    dsimp only
    unfold Kept.decide releaseName
    rw [if_neg hreason, hleft, if_neg h]
    dsimp only
    rw [hnames]
  by_cases htaken : source.sourceKey ∈ kept.names
  · have hpair : sourceReason kept.names source =
        ((sourceReason kept.names source).1, kept.names) := by
      unfold sourceReason
      by_cases hempty : source.sourceKey = ""
      · rw [if_pos hempty]
      · rw [if_neg hempty, if_pos htaken]
    refine hdecide kept.names rfl ?_ (congrArg Prod.snd hpair)
    unfold sourceReason
    by_cases hempty : source.sourceKey = ""
    · rw [if_pos hempty]
      exact (by decide : "a font service in that theme has no short key." ≠ "")
    · rw [if_neg hempty, if_pos htaken]
      exact (by decide : "two font services in that theme share this key." ≠ "")
  · have hreason : (sourceReason [] source).1 ≠ "" := by
      intro hvalid
      exact h ⟨decide_eq_true hvalid, htaken⟩
    refine hdecide _ ?_ ?_ (congrArg Prod.snd (sourceReason_of_free htaken))
    · dsimp only
      split
      · rfl
      · simp
    · rw [sourceReason_of_free htaken]
      exact hreason

theorem foldl_pruneSource (sources : List BundleFontSource) (kept : Kept BundleFontSource) :
    (sources.foldl pruneSource kept).names =
        namesAfter BundleFontSource.sourceKey validSource kept.names sources ∧
      (sources.foldl pruneSource kept).items =
        kept.items ++ keptItems BundleFontSource.sourceKey validSource kept.names sources ∧
      (exists problems, (sources.foldl pruneSource kept).problems = kept.problems ++ problems ∧
        problems.map BundleProblem.item =
          (droppedItems BundleFontSource.sourceKey validSource kept.names sources).map
            BundleFontSource.sourceKey ∧
        forall p, p ∈ problems -> OtherReason p.reason) := by
  induction sources generalizing kept with
  | nil => exact ⟨rfl, (List.append_nil _).symm, [], (List.append_nil _).symm, rfl,
      fun p hp => absurd hp List.not_mem_nil⟩
  | cons source rest ih =>
      rw [List.foldl_cons]
      unfold keptItems droppedItems
      by_cases hkeep : validSource source = true ∧ source.sourceKey ∉ kept.names
      · rw [if_pos hkeep, if_pos hkeep, pruneSource_keep hkeep]
        rcases ih ⟨releaseName BundleFontSource.sourceKey validSource kept.names source,
          kept.items ++ [source], kept.problems⟩ with ⟨hnames, hitems, hproblems⟩
        refine ⟨hnames, ?_, hproblems⟩
        rw [hitems, List.append_assoc]
        rfl
      · rcases pruneSource_drop hkeep with ⟨reason, hother, hdrop⟩
        rw [if_neg hkeep, if_neg hkeep, hdrop]
        rcases ih ⟨releaseName BundleFontSource.sourceKey validSource kept.names source,
          kept.items, kept.problems ++ [⟨"fonts", source.sourceKey, reason⟩]⟩ with
          ⟨hnames, hitems, problems, heq, hmap, hall⟩
        refine ⟨hnames, hitems, ⟨"fonts", source.sourceKey, reason⟩ :: problems, ?_, ?_, ?_⟩
        · rw [heq, List.append_assoc]
          rfl
        · rw [List.map_cons, List.map_cons, hmap]
        · intro p hp
          rcases List.mem_cons.mp hp with rfl | hp
          · exact hother
          · exact hall p hp

/-!
# Families
-/

theorem otherReason_weight (weight : Int) :
    OtherReason (toString weight ++ " is not a usable font weight.") := by
  have hhead : exists c cs, (toString weight).toList = c :: cs ∧ c ≠ 'n' := by
    cases weight with
    | ofNat n =>
        have htext : (toString (Int.ofNat n)).toList = Nat.toDigits 10 n := Nat.toList_repr
        rcases Text.JsonGrammar.toDigits_head n with ⟨c, cs, hdigits, hdigit, -⟩
        refine ⟨c, cs, by rw [htext, hdigits], ?_⟩
        intro hc
        rw [hc] at hdigit
        exact absurd hdigit (by decide)
    | negSucc n => exact ⟨'-', _, Text.JsonGrammar.toList_negSucc n, by decide⟩
  rcases hhead with ⟨c, cs, hcs, hc⟩
  unfold OtherReason
  rw [String.toList_append, hcs]
  intro htake
  exact hc (List.cons.inj htake).1

theorem faceReason_other (bundle : ThemeBundle json) (face : BundleFontFace) :
    OtherReason (faceReason bundle face) := by
  unfold faceReason
  split
  · exact otherReason_weight _
  split
  · unfold OtherReason
    simp only [String.toList_append]
    simp
  split
  · unfold OtherReason
    simp only [String.toList_append]
    simp
  · unfold OtherReason
    decide

theorem missingSource_injective {key key' : String}
    (h : missingSource key = missingSource key') : key = key' := by
  have htext := congrArg String.toList h
  unfold missingSource at htext
  simp only [String.toList_append] at htext
  exact String.toList_injective (List.append_cancel_left (List.append_cancel_right htext))

theorem not_otherReason_missingSource (key : String) : Not (OtherReason (missingSource key)) := by
  unfold OtherReason missingSource
  simp

theorem familyKindReason_snd (bundle : ThemeBundle json) (sourceKeys : List String)
    (family : BundleFontFamily) : (familyKindReason bundle sourceKeys family).2 =
      (keptPart bundle family,
        if family.sourceKind = kSiteFontSourceKindUploaded then faceProblems bundle family
        else []) := by
  unfold familyKindReason keptPart
  by_cases hcdn : family.sourceKind = kSiteFontSourceKindCdn
  · have hother : family.sourceKind ≠ kSiteFontSourceKindUploaded := by
      rw [hcdn]
      decide
    rw [if_pos hcdn, if_neg hother, if_neg hother]
    split
    · rfl
    split
    · rfl
    · rfl
  · rw [if_neg hcdn]
    by_cases huploaded : family.sourceKind = kSiteFontSourceKindUploaded
    · rw [if_pos huploaded, if_pos huploaded, if_pos huploaded]
    · rw [if_neg huploaded, if_neg huploaded, if_neg huploaded]
      split
      · rfl
      · rfl

theorem familyKindReason_fst (bundle : ThemeBundle json) (sourceKeys : List String)
    (family : BundleFontFamily) :
    (family.sourceKind = kSiteFontSourceKindCdn ∧ family.sourceKey ∉ sourceKeys ∧
        (familyKindReason bundle sourceKeys family).1 = missingSource family.sourceKey) ∨
      (OtherReason (familyKindReason bundle sourceKeys family).1 ∧
        Not (family.sourceKind = kSiteFontSourceKindCdn ∧ family.sourceKey ∉ sourceKeys)) := by
  have htexts : forall reason, reason ∈ ["that font specification is not valid.", "",
      "has no usable font files, so nothing could be shown in it."] -> OtherReason reason := by
    unfold OtherReason
    decide
  unfold familyKindReason
  by_cases hcdn : family.sourceKind = kSiteFontSourceKindCdn
  · rw [if_pos hcdn]
    by_cases hmissing : family.sourceKey ∉ sourceKeys
    · rw [if_pos hmissing]
      exact Or.inl ⟨hcdn, hmissing, rfl⟩
    · rw [if_neg hmissing]
      refine Or.inr ⟨?_, fun hboth => hmissing hboth.2⟩
      split
      · exact htexts _ (by simp)
      · exact htexts _ (by simp)
  · rw [if_neg hcdn]
    refine Or.inr ⟨?_, fun hboth => hcdn hboth.1⟩
    split
    · dsimp only
      split
      · exact htexts _ (by simp)
      · exact htexts _ (by simp)
    split
    · unfold OtherReason
      simp only [String.toList_append]
      simp
    · exact htexts _ (by simp)

theorem Kept.decide_of_ne {item : Type} {kept : Kept item} {name reason : String} {kept? : item}
    (h : reason ≠ "") : kept.decide name reason kept? =
      ⟨kept.names.filter (fun n => n != name), kept.items,
        kept.problems ++ [⟨"fonts", name, reason⟩]⟩ :=
  if_neg h

section Families

variable (bundle : ThemeBundle json) (sourceKeys : List String)

theorem pruneFamily_keep {kept : Kept BundleFontFamily} {family : BundleFontFamily}
    (h : validFamily bundle sourceKeys family = true ∧ family.family ∉ kept.names) :
    pruneFamily bundle sourceKeys kept family =
      ⟨releaseName BundleFontFamily.family (validFamily bundle sourceKeys) kept.names family,
        kept.items ++ [keptPart bundle family],
        kept.problems ++
          (if family.sourceKind = kSiteFontSourceKindUploaded then faceProblems bundle family
          else [])⟩ := by
  have hreason : familyReason bundle sourceKeys family = "" := of_decide_eq_true h.1
  have hsnd := familyKindReason_snd bundle sourceKeys family
  rw [releaseName_keep h]
  unfold familyReason at hreason
  split at hreason
  · exact absurd hreason (by decide)
  rename_i hname
  split at hreason
  · exact absurd hreason (by decide)
  rename_i hfallback
  unfold pruneFamily
  rw [if_neg hname, if_neg h.2]
  dsimp only
  rw [if_neg hfallback]
  rcases hpair : familyKindReason bundle sourceKeys family with ⟨reason, family', problems⟩
  rw [hpair] at hreason hsnd
  cases hsnd
  unfold Kept.decide
  dsimp only at hreason ⊢
  rw [if_pos hreason]

theorem pruneFamily_drop {kept : Kept BundleFontFamily} {family : BundleFontFamily}
    (h : Not (validFamily bundle sourceKeys family = true ∧ family.family ∉ kept.names)) :
    exists (problems : List BundleProblem) (reason : String),
      pruneFamily bundle sourceKeys kept family =
        ⟨releaseName BundleFontFamily.family (validFamily bundle sourceKeys) kept.names family,
          kept.items, kept.problems ++ (problems ++ [⟨"fonts", family.family, reason⟩])⟩ ∧
      (forall p, p ∈ problems -> OtherReason p.reason) ∧
      ((AsksForSource family ∧ family.family ∉ kept.names ∧ family.sourceKey ∉ sourceKeys ∧
          reason = missingSource family.sourceKey) ∨
        (OtherReason reason ∧ Not (AsksForSource family ∧ family.family ∉ kept.names ∧
          family.sourceKey ∉ sourceKeys))) := by
  have hrelease : releaseName BundleFontFamily.family (validFamily bundle sourceKeys) kept.names
      family = kept.names.filter (fun n => n != family.family) := by
    unfold releaseName
    rw [if_neg h]
  have hnone : forall p : BundleProblem, p ∈ [] -> OtherReason p.reason :=
    fun p hp => absurd hp List.not_mem_nil
  rw [hrelease]
  unfold pruneFamily
  by_cases hname : (!isValidFontFamilyName family.family) = true
  · rw [if_pos hname, Kept.decide_of_ne (by decide)]
    refine ⟨[], "that is not a usable font name.", rfl, hnone, Or.inr ⟨?_, ?_⟩⟩
    · unfold OtherReason
      decide
    · intro hasks
      rw [hasks.1.2.1] at hname
      cases hname
  rw [if_neg hname]
  by_cases htaken : family.family ∈ kept.names
  · rw [if_pos htaken, Kept.decide_of_ne (by decide)]
    refine ⟨[], "two fonts in that theme are both called this.", rfl, hnone,
      Or.inr ⟨?_, fun hasks => hasks.2.1 htaken⟩⟩
    unfold OtherReason
    decide
  rw [if_neg htaken]
  have hfilter : (family.family :: kept.names).filter (fun n => n != family.family) =
      kept.names.filter (fun n => n != family.family) := by
    simp
  dsimp only
  by_cases hfallback : family.fallback = "" ∨ isValidFontFamilyList family.fallback = false
  · rw [if_pos hfallback]
    refine ⟨[], "needs a backup font (for example sans-serif).", ?_, hnone,
      Or.inr ⟨?_, fun hasks => hasks.1.2.2 hfallback⟩⟩
    · rw [Kept.decide_of_ne (by decide), hfilter]
      rfl
    · unfold OtherReason
      decide
  rw [if_neg hfallback]
  have hsnd := familyKindReason_snd bundle sourceKeys family
  have hfst := familyKindReason_fst bundle sourceKeys family
  have hreason : (familyKindReason bundle sourceKeys family).1 ≠ "" := by
    intro hempty
    refine h ⟨decide_eq_true ?_, htaken⟩
    unfold familyReason
    rw [if_neg hname, if_neg hfallback, hempty]
  rcases hpair : familyKindReason bundle sourceKeys family with ⟨reason, family', problems⟩
  rw [hpair] at hsnd hfst hreason
  dsimp only at hsnd hfst hreason ⊢
  refine ⟨problems, reason, ?_, ?_, ?_⟩
  · rw [Kept.decide_of_ne hreason, hfilter, List.append_assoc]
  · rw [(Prod.mk.inj hsnd).2]
    intro p hp
    split at hp
    · unfold faceProblems at hp
      rcases List.mem_map.mp hp with ⟨face, -, rfl⟩
      exact faceReason_other bundle face
    · cases hp
  · rcases hfst with ⟨hcdn, hmissing, htext⟩ | ⟨hother, hnot⟩
    · refine Or.inl ⟨⟨hcdn, ?_, hfallback⟩, htaken, hmissing, htext⟩
      simpa using hname
    · exact Or.inr ⟨hother, fun hasks => hnot ⟨hasks.1.1, hasks.2.2⟩⟩

theorem pruneFamily_frame (kept : Kept BundleFontFamily) (family : BundleFontFamily) :
    pruneFamily bundle sourceKeys kept family =
      ⟨(pruneFamily bundle sourceKeys ⟨kept.names, [], []⟩ family).names,
        kept.items ++ (pruneFamily bundle sourceKeys ⟨kept.names, [], []⟩ family).items,
        kept.problems ++
          (pruneFamily bundle sourceKeys ⟨kept.names, [], []⟩ family).problems⟩ := by
  unfold pruneFamily Kept.decide
  split
  · simp
  split
  · simp
  dsimp only
  split
  · simp
  rcases familyKindReason bundle sourceKeys family with ⟨reason, family', problems⟩
  dsimp only
  split
  · simp
  · simp

/-- The problems of one family when some names are taken. -/
def addedProblems (taken : List String) (family : BundleFontFamily) : List BundleProblem :=
  (pruneFamily bundle sourceKeys ⟨taken, [], []⟩ family).problems

def familyProblems (taken : List String) : List BundleFontFamily -> List BundleProblem
  | [] => []
  | family :: rest =>
      addedProblems bundle sourceKeys taken family ++
        familyProblems
          (releaseName BundleFontFamily.family (validFamily bundle sourceKeys) taken family) rest

theorem addedProblems_keep {taken : List String} {family : BundleFontFamily}
    (h : validFamily bundle sourceKeys family = true ∧ family.family ∉ taken) :
    addedProblems bundle sourceKeys taken family =
      if family.sourceKind = kSiteFontSourceKindUploaded then faceProblems bundle family
      else [] := by
  unfold addedProblems
  rw [@pruneFamily_keep _ bundle sourceKeys ⟨taken, [], []⟩ family h]
  rfl

theorem addedProblems_drop {taken : List String} {family : BundleFontFamily}
    (h : Not (validFamily bundle sourceKeys family = true ∧ family.family ∉ taken)) :
    exists (problems : List BundleProblem) (reason : String),
      addedProblems bundle sourceKeys taken family =
          problems ++ [⟨"fonts", family.family, reason⟩] ∧
        (forall p, p ∈ problems -> OtherReason p.reason) ∧
        ((AsksForSource family ∧ family.family ∉ taken ∧ family.sourceKey ∉ sourceKeys ∧
            reason = missingSource family.sourceKey) ∨
          (OtherReason reason ∧ Not (AsksForSource family ∧ family.family ∉ taken ∧
            family.sourceKey ∉ sourceKeys))) := by
  rcases @pruneFamily_drop _ bundle sourceKeys ⟨taken, [], []⟩ family h with
    ⟨problems, reason, hdrop, hothers, hreason⟩
  refine ⟨problems, reason, ?_, hothers, hreason⟩
  unfold addedProblems
  rw [hdrop]
  rfl

theorem foldl_pruneFamily (families : List BundleFontFamily) (kept : Kept BundleFontFamily) :
    (families.foldl (pruneFamily bundle sourceKeys) kept).items =
        kept.items ++ (keptItems BundleFontFamily.family (validFamily bundle sourceKeys)
          kept.names families).map (keptPart bundle) ∧
      (families.foldl (pruneFamily bundle sourceKeys) kept).problems =
        kept.problems ++ familyProblems bundle sourceKeys kept.names families := by
  induction families generalizing kept with
  | nil => exact ⟨(List.append_nil _).symm, (List.append_nil _).symm⟩
  | cons family rest ih =>
      rcases ih (pruneFamily bundle sourceKeys kept family) with ⟨hitems, hproblems⟩
      rw [List.foldl_cons, hitems, hproblems, pruneFamily_frame bundle sourceKeys kept family]
      dsimp only
      rw [List.append_assoc, List.append_assoc, keptItems, familyProblems, addedProblems]
      by_cases hkeep : validFamily bundle sourceKeys family = true ∧ family.family ∉ kept.names
      · rw [if_pos hkeep,
          @pruneFamily_keep _ bundle sourceKeys ⟨kept.names, [], []⟩ family hkeep]
        exact ⟨rfl, rfl⟩
      · rcases @pruneFamily_drop _ bundle sourceKeys ⟨kept.names, [], []⟩ family hkeep with
          ⟨problems, reason, hdrop, -, -⟩
        rw [if_neg hkeep, hdrop]
        exact ⟨rfl, rfl⟩

theorem droppedItems_sublist (taken : List String) (families : List BundleFontFamily) :
    ((droppedItems BundleFontFamily.family (validFamily bundle sourceKeys) taken families).map
      BundleFontFamily.family).Sublist
        ((familyProblems bundle sourceKeys taken families).map BundleProblem.item) := by
  induction families generalizing taken with
  | nil => exact List.Sublist.refl _
  | cons family rest ih =>
      unfold droppedItems familyProblems
      rw [List.map_append]
      split
      · exact (ih _).trans (List.sublist_append_right _ _)
      · rename_i hdrop
        rcases addedProblems_drop bundle sourceKeys hdrop with ⟨problems, reason, heq, -, -⟩
        rw [heq, List.map_append]
        have hone : [family.family].Sublist (problems.map BundleProblem.item ++
            List.map BundleProblem.item [⟨"fonts", family.family, reason⟩]) :=
          List.sublist_append_right _ _
        exact hone.append (ih _)

theorem keptFaces_reported {family : BundleFontFamily} {face : BundleFontFace}
    (hface : face ∈ family.faces) (hlost : face ∉ (keptPart bundle family).faces) :
    exists p, p ∈ (if family.sourceKind = kSiteFontSourceKindUploaded then
        faceProblems bundle family else []) ∧ p.area = "fonts" ∧ p.item = family.family := by
  unfold keptPart at hlost
  split at hlost
  · rename_i huploaded
    rw [if_pos huploaded]
    refine ⟨⟨"fonts", family.family, faceReason bundle face⟩, ?_, rfl, rfl⟩
    refine List.mem_map.mpr ⟨face, List.mem_filter.mpr ⟨hface, decide_eq_true ?_⟩, rfl⟩
    intro hgood
    exact hlost (List.mem_filter.mpr ⟨hface, decide_eq_true hgood⟩)
  · exact absurd hface hlost

theorem lostFaces_reported (taken : List String) (families : List BundleFontFamily)
    {family : BundleFontFamily} {face : BundleFontFace}
    (hfamily : family ∈ keptItems BundleFontFamily.family (validFamily bundle sourceKeys) taken
      families)
    (hface : face ∈ family.faces) (hlost : face ∉ (keptPart bundle family).faces) :
    exists p, p ∈ familyProblems bundle sourceKeys taken families ∧ p.area = "fonts" ∧
      p.item = family.family := by
  induction families generalizing taken with
  | nil => cases hfamily
  | cons first rest ih =>
      unfold keptItems at hfamily
      unfold familyProblems
      split at hfamily
      · rename_i hkeep
        cases hfamily with
        | head =>
            rcases keptFaces_reported bundle hface hlost with ⟨p, hp, hparts⟩
            refine ⟨p, List.mem_append_left _ ?_, hparts⟩
            rw [addedProblems_keep bundle sourceKeys hkeep]
            exact hp
        | tail _ hfamily =>
            rcases ih _ hfamily with ⟨p, hp, hparts⟩
            exact ⟨p, List.mem_append_right _ hp, hparts⟩
      · rcases ih _ hfamily with ⟨p, hp, hparts⟩
        exact ⟨p, List.mem_append_right _ hp, hparts⟩

/-- The reason of the missing source stands for a family that asks for one, when its name is
free. -/
theorem missing_mem_addedProblems {taken : List String} {family : BundleFontFamily}
    {n key : String} :
    ⟨"fonts", n, missingSource key⟩ ∈ addedProblems bundle sourceKeys taken family <->
      AsksForSource family ∧ family.family ∉ taken ∧ family.sourceKey ∉ sourceKeys ∧
        family.family = n ∧ family.sourceKey = key := by
  have hfaces : forall ps : List BundleProblem, (forall p, p ∈ ps -> OtherReason p.reason) ->
      ⟨"fonts", n, missingSource key⟩ ∉ ps := by
    intro ps hps hmem
    have hother := hps _ hmem
    exact not_otherReason_missingSource key hother
  by_cases hkeep : validFamily bundle sourceKeys family = true ∧ family.family ∉ taken
  · rw [addedProblems_keep bundle sourceKeys hkeep]
    constructor
    · intro hmem
      refine absurd hmem (hfaces _ ?_)
      intro p hp
      split at hp
      · unfold faceProblems at hp
        rcases List.mem_map.mp hp with ⟨face, -, rfl⟩
        exact faceReason_other bundle face
      · cases hp
    · intro hasks
      have hreason : familyReason bundle sourceKeys family = "" := of_decide_eq_true hkeep.1
      have hname : Not ((!isValidFontFamilyName family.family) = true) := by
        rw [hasks.1.2.1]
        decide
      unfold familyReason familyKindReason at hreason
      rw [if_neg hname, if_neg hasks.1.2.2, if_pos hasks.1.1, if_pos hasks.2.2.1] at hreason
      have htext := congrArg String.toList hreason
      simp at htext
  · rcases addedProblems_drop bundle sourceKeys hkeep with
      ⟨problems, reason, heq, hothers, hreason⟩
    rw [heq]
    constructor
    · intro hmem
      rcases List.mem_append.mp hmem with hmem | hmem
      · exact absurd hmem (hfaces _ hothers)
      · cases List.mem_singleton.mp hmem
        rcases hreason with ⟨hasks, hfree, hmissing, htext⟩ | ⟨hother, -⟩
        · exact ⟨hasks, hfree, hmissing, rfl, (missingSource_injective htext).symm⟩
        · exact absurd hother (not_otherReason_missingSource key)
    · intro hasks
      rcases hasks with ⟨hasks, hfree, hmissing, rfl, rfl⟩
      rcases hreason with ⟨-, -, -, htext⟩ | ⟨-, hnot⟩
      · rw [htext]
        exact List.mem_append_right _ List.mem_cons_self
      · exact absurd ⟨hasks, hfree, hmissing⟩ hnot

theorem missing_mem_familyProblems {taken : List String} {families : List BundleFontFamily}
    {n key : String} :
    ⟨"fonts", n, missingSource key⟩ ∈ familyProblems bundle sourceKeys taken families <->
      exists before family after, families = before ++ family :: after ∧
        AsksForSource family ∧
        family.family ∉ namesAfter BundleFontFamily.family (validFamily bundle sourceKeys)
          taken before ∧
        family.sourceKey ∉ sourceKeys ∧ family.family = n ∧ family.sourceKey = key := by
  induction families generalizing taken with
  | nil =>
      constructor
      · intro hmem
        cases hmem
      · intro hsplit
        rcases hsplit with ⟨before, family, after, heq, -⟩
        cases before with
        | nil => cases heq
        | cons _ _ => cases heq
  | cons first rest ih =>
      unfold familyProblems
      rw [List.mem_append, missing_mem_addedProblems, ih]
      constructor
      · intro hmem
        rcases hmem with hfirst | ⟨before, family, after, heq, hrest⟩
        · exact ⟨[], first, rest, rfl, hfirst⟩
        · exact ⟨first :: before, family, after, by rw [heq]; rfl, hrest⟩
      · intro hsplit
        rcases hsplit with ⟨before, family, after, heq, hrest⟩
        cases before with
        | nil =>
            cases heq
            exact Or.inl hrest
        | cons b before =>
            cases heq
            exact Or.inr ⟨before, family, after, rfl, hrest⟩

theorem familyProblems_eq_nil (taken : List String) {families : List BundleFontFamily}
    (hdropped : droppedItems BundleFontFamily.family (validFamily bundle sourceKeys) taken
      families = [])
    (hwhole : forall family, family ∈ families ->
      family.sourceKind = kSiteFontSourceKindUploaded -> faceProblems bundle family = []) :
    familyProblems bundle sourceKeys taken families = [] := by
  induction families generalizing taken with
  | nil => rfl
  | cons family rest ih =>
      unfold droppedItems at hdropped
      unfold familyProblems
      split at hdropped
      · rename_i hkeep
        rw [addedProblems_keep bundle sourceKeys hkeep,
          ih _ hdropped (fun f hf => hwhole f (List.mem_cons_of_mem family hf)),
          List.append_nil]
        split
        · rename_i huploaded
          exact hwhole family List.mem_cons_self huploaded
        · rfl
      · cases hdropped

end Families

/-!
# The whole bundle
-/

section Bundle

variable (bundle : ThemeBundle json)

theorem prunedSources_items : (prunedSources bundle).items =
    keptItems BundleFontSource.sourceKey validSource [] bundle.sources :=
  (foldl_pruneSource bundle.sources ⟨[], [], []⟩).2.1

theorem prunedSources_names : (prunedSources bundle).names =
    namesAfter BundleFontSource.sourceKey validSource [] bundle.sources :=
  (foldl_pruneSource bundle.sources ⟨[], [], []⟩).1

theorem prunedSources_problems :
    (prunedSources bundle).problems.map BundleProblem.item =
        (droppedItems BundleFontSource.sourceKey validSource [] bundle.sources).map
          BundleFontSource.sourceKey ∧
      forall p, p ∈ (prunedSources bundle).problems -> OtherReason p.reason := by
  rcases (foldl_pruneSource bundle.sources ⟨[], [], []⟩).2.2 with ⟨problems, heq, hmap, hall⟩
  have hproblems : (prunedSources bundle).problems = problems := heq
  rw [hproblems]
  exact ⟨hmap, hall⟩

theorem prunedFamilies_items : (prunedFamilies bundle).items =
    (keptItems BundleFontFamily.family (validFamily bundle (prunedSources bundle).names) []
      bundle.families).map (keptPart bundle) :=
  (foldl_pruneFamily bundle (prunedSources bundle).names bundle.families ⟨[], [], []⟩).1

theorem prunedFamilies_problems : (prunedFamilies bundle).problems =
    familyProblems bundle (prunedSources bundle).names [] bundle.families :=
  (foldl_pruneFamily bundle (prunedSources bundle).names bundle.families ⟨[], [], []⟩).2

theorem mem_validKeys {key : String} : key ∈ validKeys bundle <->
    exists source, source ∈ bundle.sources ∧ source.sourceKey = key ∧
      validSource source = true := by
  unfold validKeys
  rw [List.mem_map]
  constructor
  · intro h
    rcases h with ⟨source, hsource, hkey⟩
    rcases List.mem_filter.mp hsource with ⟨hmem, hvalid⟩
    exact ⟨source, hmem, hkey, hvalid⟩
  · intro h
    rcases h with ⟨source, hmem, hkey, hvalid⟩
    exact ⟨source, List.mem_filter.mpr ⟨hmem, hvalid⟩, hkey⟩

theorem settingProblems_area {area : String} {verdict : String -> String -> Verdict}
    {settings : SortedMap String String} {p : BundleProblem}
    (h : p ∈ settingProblems area verdict settings) : p.area = area := by
  unfold settingProblems at h
  rcases List.mem_filterMap.mp h with ⟨e, -, hsome⟩
  split at hsome
  · cases hsome
    rfl
  · cases hsome

theorem missing_mem_problemsOf {n key : String} :
    ⟨"fonts", n, missingSource key⟩ ∈ problemsOf bundle <->
      exists before family after, bundle.families = before ++ family :: after ∧
        AsksForSource family ∧
        family.family ∉ namesAfter BundleFontFamily.family
          (validFamily bundle (prunedSources bundle).names) [] before ∧
        family.sourceKey ∉ (prunedSources bundle).names ∧
        family.family = n ∧ family.sourceKey = key := by
  rw [← missing_mem_familyProblems, ← prunedFamilies_problems]
  unfold problemsOf
  constructor
  · intro h
    rcases List.mem_append.mp h with h | h
    · rcases List.mem_append.mp h with h | h
      · rcases List.mem_append.mp h with h | h
        · exact absurd (settingProblems_area h) (show "fonts" ≠ "content" by decide)
        · exact absurd (settingProblems_area h) (show "fonts" ≠ "tokens" by decide)
      · exact absurd ((prunedSources_problems bundle).2 _ h)
          (not_otherReason_missingSource key)
    · exact h
  · exact fun h => List.mem_append_right _ h

theorem validFamily_congr {keys keys' : List String} {family : BundleFontFamily}
    (h : AsksForSource family -> (family.sourceKey ∈ keys <-> family.sourceKey ∈ keys')) :
    validFamily bundle keys family = validFamily bundle keys' family := by
  have hreason : familyReason bundle keys family = familyReason bundle keys' family := by
    unfold familyReason
    by_cases hname : (!isValidFontFamilyName family.family) = true
    · rw [if_pos hname, if_pos hname]
    rw [if_neg hname, if_neg hname]
    by_cases hfallback : family.fallback = "" ∨ isValidFontFamilyList family.fallback = false
    · rw [if_pos hfallback, if_pos hfallback]
    rw [if_neg hfallback, if_neg hfallback]
    unfold familyKindReason
    by_cases hcdn : family.sourceKind = kSiteFontSourceKindCdn
    · have hmem := h ⟨hcdn, by simpa using hname, hfallback⟩
      rw [if_pos hcdn, if_pos hcdn]
      simp only [hmem]
    · rw [if_neg hcdn, if_neg hcdn]
  unfold validFamily
  rw [hreason]

theorem family_keptPart (family : BundleFontFamily) :
    (keptPart bundle family).family = family.family ∧
      (keptPart bundle family).fallback = family.fallback ∧
      (keptPart bundle family).sourceKind = family.sourceKind ∧
      (keptPart bundle family).sourceKey = family.sourceKey ∧
      (keptPart bundle family).spec = family.spec := by
  unfold keptPart
  split
  · exact ⟨rfl, rfl, rfl, rfl, rfl⟩
  · exact ⟨rfl, rfl, rfl, rfl, rfl⟩

theorem map_family_keptPart (families : List BundleFontFamily) :
    (families.map (keptPart bundle)).map BundleFontFamily.family =
      families.map BundleFontFamily.family := by
  rw [List.map_map]
  exact List.map_congr_left (fun family _ => (family_keptPart bundle family).1)

theorem settings_reported {area : String} {verdict : String -> String -> Verdict}
    {settings : SortedMap String String} {e : String × String} (he : e ∈ settings.entries)
    (hdropped : e ∉ (keptSettings verdict settings).entries) :
    e.1 ∈ unknownSettings verdict settings ∨
      exists p, p ∈ settingProblems area verdict settings ∧ p.area = area ∧ p.item = e.1 := by
  cases hverdict : verdict e.1 e.2 with
  | keep =>
      exact absurd (List.mem_filter.mpr ⟨he, decide_eq_true hverdict⟩) hdropped
  | unknown =>
      exact Or.inl (List.mem_map.mpr ⟨e, List.mem_filter.mpr ⟨he, decide_eq_true hverdict⟩, rfl⟩)
  | problem reason =>
      refine Or.inr ⟨⟨area, e.1, reason⟩, ?_, rfl, rfl⟩
      refine List.mem_filterMap.mpr ⟨e, he, ?_⟩
      rw [hverdict]

theorem reported_all : Reported bundle := by
  constructor
  · intro e he hdropped
    rcases @settings_reported "content" _ _ _ he hdropped with hunknown | ⟨p, hp, hparts⟩
    · exact Or.inl (List.mem_append_left _ hunknown)
    · refine Or.inr ⟨p, ?_, hparts⟩
      exact List.mem_append_left _ (List.mem_append_left _ (List.mem_append_left _ hp))
  · intro e he hdropped
    rcases @settings_reported "tokens" _ _ _ he hdropped with hunknown | ⟨p, hp, hparts⟩
    · exact Or.inl (List.mem_append_right _ hunknown)
    · refine Or.inr ⟨p, ?_, hparts⟩
      exact List.mem_append_left _ (List.mem_append_left _ (List.mem_append_right _ hp))
  · refine ⟨droppedItems BundleFontSource.sourceKey validSource [] bundle.sources,
      keptItems BundleFontFamily.family (validFamily bundle (prunedSources bundle).names) []
        bundle.families,
      droppedItems BundleFontFamily.family (validFamily bundle (prunedSources bundle).names) []
        bundle.families, ?_, perm_keptItems [] bundle.families, prunedFamilies_items bundle,
      ?_, ?_⟩
    · have hitems : (pruneUnusableBundleItems bundle).sources =
          keptItems BundleFontSource.sourceKey validSource [] bundle.sources :=
        prunedSources_items bundle
      rw [hitems]
      exact perm_keptItems [] bundle.sources
    · rw [← (prunedSources_problems bundle).1]
      unfold problemsOf
      rw [List.map_append, List.map_append, prunedFamilies_problems]
      exact (List.sublist_append_right _ _).append
        (droppedItems_sublist bundle (prunedSources bundle).names [] bundle.families)
    · intro family face hfamily hface hlost
      rcases lostFaces_reported bundle (prunedSources bundle).names [] bundle.families hfamily
        hface hlost with ⟨p, hp, hparts⟩
      refine ⟨p, List.mem_append_right _ ?_, hparts⟩
      rw [prunedFamilies_problems]
      exact hp

/-!
# Pruning again
-/

theorem keptSettings_again {verdict : String -> String -> Verdict}
    (settings : SortedMap String String) (area : String) :
    keptSettings verdict (keptSettings verdict settings) = keptSettings verdict settings ∧
      unknownSettings verdict (keptSettings verdict settings) = [] ∧
      settingProblems area verdict (keptSettings verdict settings) = [] := by
  have hkept : forall e, e ∈ (keptSettings verdict settings).entries -> verdict e.1 e.2 = .keep :=
    fun e he => of_decide_eq_true (List.mem_filter.mp he).2
  constructor
  · refine SortedMap.ext ?_
    exact List.filter_eq_self.mpr (fun e he => decide_eq_true (hkept e he))
  constructor
  · unfold unknownSettings
    rw [List.map_eq_nil_iff, List.filter_eq_nil_iff]
    intro e he
    rw [hkept e he]
    decide
  · unfold settingProblems
    rw [List.filterMap_eq_nil_iff]
    intro e he
    rw [hkept e he]

theorem keptFaces_keptPart (family : BundleFontFamily) :
    keptPart bundle (keptPart bundle family) = keptPart bundle family ∧
      ((keptPart bundle family).sourceKind = kSiteFontSourceKindUploaded ->
        faceProblems bundle (keptPart bundle family) = []) := by
  unfold keptPart
  by_cases huploaded : family.sourceKind = kSiteFontSourceKindUploaded
  · rw [if_pos huploaded]
    dsimp only
    rw [if_pos huploaded]
    have hgood : forall face, face ∈ keptFaces bundle family -> faceReason bundle face = "" :=
      fun face hface => of_decide_eq_true (List.mem_filter.mp hface).2
    constructor
    · have hself : keptFaces bundle { family with faces := keptFaces bundle family } =
          keptFaces bundle family :=
        List.filter_eq_self.mpr (fun face hface => decide_eq_true (hgood face hface))
      rw [hself]
    · intro _
      unfold faceProblems
      rw [List.map_eq_nil_iff, List.filter_eq_nil_iff]
      intro face hface
      simp [hgood face hface]
  · rw [if_neg huploaded, if_neg huploaded]
    exact ⟨rfl, fun h => absurd h huploaded⟩

theorem validFamily_keptPart {keys : List String} {family : BundleFontFamily}
    (h : validFamily bundle keys family = true) :
    validFamily bundle keys (keptPart bundle family) = true := by
  have hreason : familyReason bundle keys family = "" := of_decide_eq_true h
  refine decide_eq_true ?_
  rw [← hreason]
  rcases family_keptPart bundle family with ⟨hname, hfallback, hkind, hkey, hspec⟩
  have hagain := (keptFaces_keptPart bundle family).1
  unfold familyReason
  rw [hname, hfallback]
  have hkindReason : (familyKindReason bundle keys (keptPart bundle family)).1 =
      (familyKindReason bundle keys family).1 := by
    unfold familyKindReason
    rw [hkind, hkey, hspec]
    by_cases huploaded : family.sourceKind = kSiteFontSourceKindUploaded
    · have hcdn : family.sourceKind ≠ kSiteFontSourceKindCdn := by
        rw [huploaded]
        decide
      rw [if_neg hcdn, if_neg hcdn, if_pos huploaded, if_pos huploaded]
      have hfaces : keptFaces bundle (keptPart bundle family) = keptFaces bundle family := by
        unfold keptPart at hagain ⊢
        rw [if_pos huploaded] at hagain ⊢
        dsimp only at hagain
        rw [if_pos huploaded] at hagain
        exact congrArg BundleFontFamily.faces hagain
      rw [hfaces]
    · rw [if_neg huploaded, if_neg huploaded]
      split
      · split
        · rfl
        split
        · rfl
        · rfl
      split
      · rfl
      · rfl
  rw [hkindReason]

/-!
# The condition
-/

theorem names_subset_validKeys (hsources : NoThird BundleFontSource.sourceKey validSource
    bundle.sources) {key : String} (h : key ∈ (prunedSources bundle).names) :
    key ∈ validKeys bundle := by
  rw [prunedSources_names, mem_namesAfter_nil_iff hsources] at h
  exact (mem_validKeys bundle).mpr h.1

theorem mem_keptKeys (hsources : NoThird BundleFontSource.sourceKey validSource bundle.sources)
    {key : String} :
    (exists source, source ∈ (pruneUnusableBundleItems bundle).sources ∧
      source.sourceKey = key) <-> key ∈ validKeys bundle := by
  have hitems : (pruneUnusableBundleItems bundle).sources =
      firstOfEach BundleFontSource.sourceKey validSource [] bundle.sources := by
    rw [← keptItems_eq_firstOfEach hsources]
    exact prunedSources_items bundle
  rw [hitems, mem_validKeys, ← mem_map_firstOfEach List.not_mem_nil, List.mem_map]

/-- In a bundle that meets the condition, a family is judged as by the valid sources, wherever
its name is free. -/
theorem prunedFamilies_eq_firstOfEach (h : NoHarmfulRepeat bundle) :
    (keptItems BundleFontFamily.family (validFamily bundle (prunedSources bundle).names) []
        bundle.families =
      firstOfEach BundleFontFamily.family (validFamily bundle (validKeys bundle)) []
        bundle.families) ∧
      forall before family after, bundle.families = before ++ family :: after ->
        namesAfter BundleFontFamily.family (validFamily bundle (validKeys bundle)) [] before =
          namesAfter BundleFontFamily.family
            (validFamily bundle (prunedSources bundle).names) [] before := by
  have hjudged : forall before family after, bundle.families = before ++ family :: after ->
      family.family ∉ namesAfter BundleFontFamily.family
        (validFamily bundle (validKeys bundle)) [] before ->
      validFamily bundle (validKeys bundle) family =
        validFamily bundle (prunedSources bundle).names family := by
    intro before family after heq hfree
    refine validFamily_congr bundle (fun hasks => ⟨fun hkey => ?_,
      names_subset_validKeys bundle h.sources⟩)
    rcases h.asked before family after heq hasks hkey with hheld | hheld
    · rw [prunedSources_names, mem_namesAfter_nil_iff h.sources]
      exact hheld
    · have hbefore : NoThird BundleFontFamily.family (validFamily bundle (validKeys bundle))
          before := h.families.sublist (by rw [heq]; exact List.sublist_append_left _ _)
      exact absurd ((mem_namesAfter_nil_iff hbefore).mpr hheld) hfree
  constructor
  · rw [← (passes_agree hjudged).1]
    exact keptItems_eq_firstOfEach h.families
  · intro before family after heq
    refine (passes_agree (fun front f rest hsplit => ?_)).2
    exact hjudged front f (rest ++ family :: after) (by rw [heq, hsplit]; simp)

theorem noHarmfulRepeat_of_law (h : PruningLaw bundle) : NoHarmfulRepeat bundle := by
  have hsources : NoThird BundleFontSource.sourceKey validSource bundle.sources := by
    refine noThird_of_map_eq ?_
    rw [← prunedSources_items]
    exact congrArg (List.map BundleFontSource.sourceKey) h.sources_first
  -- A family that is judged by the source it names finds it among the names still taken.
  have hjudged : forall before family after, bundle.families = before ++ family :: after ->
      family.family ∉ namesAfter BundleFontFamily.family
        (validFamily bundle (prunedSources bundle).names) [] before ->
      AsksForSource family -> family.sourceKey ∈ validKeys bundle ->
      family.sourceKey ∈ (prunedSources bundle).names := by
    intro before family after heq hfree hasks hkey
    refine Decidable.byContradiction (fun hmissing => ?_)
    refine h.cdn_kept family ?_ hasks.1 ((mem_keptKeys bundle hsources).mpr hkey) ?_
    · rw [heq]
      exact List.mem_append_right _ List.mem_cons_self
    · exact (missing_mem_problemsOf bundle).mpr
        ⟨before, family, after, heq, hasks, hfree, hmissing, rfl, rfl⟩
  have hagree : forall before family after, bundle.families = before ++ family :: after ->
      family.family ∉ namesAfter BundleFontFamily.family
        (validFamily bundle (prunedSources bundle).names) [] before ->
      validFamily bundle (prunedSources bundle).names family =
        validFamily bundle (validKeys bundle) family :=
    fun before family after heq hfree => validFamily_congr bundle (fun hasks =>
      ⟨names_subset_validKeys bundle hsources, hjudged before family after heq hfree hasks⟩)
  have hkeys : validFamily bundle
      ((pruneUnusableBundleItems bundle).sources.map BundleFontSource.sourceKey) =
        validFamily bundle (validKeys bundle) := by
    funext family
    refine validFamily_congr bundle (fun _ => ?_)
    rw [← mem_keptKeys bundle hsources, List.mem_map]
  have hfamilies : NoThird BundleFontFamily.family (validFamily bundle (validKeys bundle))
      bundle.families := by
    have hnames := congrArg (List.map BundleFontFamily.family) h.families_first
    rw [map_family_keptPart, hkeys] at hnames
    refine noThird_of_map_eq ?_
    rw [← (passes_agree hagree).1, ← hnames, ← map_family_keptPart bundle]
    exact congrArg (List.map BundleFontFamily.family) (prunedFamilies_items bundle).symm
  refine ⟨hsources, hfamilies, fun before family after heq hasks hkey => ?_⟩
  by_cases htaken : family.family ∈ namesAfter BundleFontFamily.family
      (validFamily bundle (prunedSources bundle).names) [] before
  · have hbefore : NoThird BundleFontFamily.family (validFamily bundle (validKeys bundle))
        before := hfamilies.sublist (by rw [heq]; exact List.sublist_append_left _ _)
    have hsame := (@passes_agree _ _ _ BundleFontFamily.family _
      before [] (validFamily bundle (validKeys bundle)) (fun front f rest hsplit =>
        hagree front f (rest ++ family :: after) (by rw [heq, hsplit]; simp))).2
    rw [hsame] at htaken
    exact Or.inr ((mem_namesAfter_nil_iff hbefore).mp htaken)
  · have hkept := hjudged before family after heq htaken hasks hkey
    rw [prunedSources_names, mem_namesAfter_nil_iff hsources] at hkept
    exact Or.inl hkept

theorem pruned_sources (h : NoHarmfulRepeat bundle) :
    (pruneUnusableBundleItems bundle).sources =
      firstOfEach BundleFontSource.sourceKey validSource [] bundle.sources := by
  rw [← keptItems_eq_firstOfEach h.sources]
  exact prunedSources_items bundle

theorem pruned_families (h : NoHarmfulRepeat bundle) :
    (pruneUnusableBundleItems bundle).families =
      (firstOfEach BundleFontFamily.family (validFamily bundle (validKeys bundle)) []
        bundle.families).map (keptPart bundle) := by
  rw [← (prunedFamilies_eq_firstOfEach bundle h).1]
  exact prunedFamilies_items bundle

theorem prunedSources_again (h : NoHarmfulRepeat bundle) :
    (prunedSources (pruneUnusableBundleItems bundle)).items =
        (pruneUnusableBundleItems bundle).sources ∧
      (prunedSources (pruneUnusableBundleItems bundle)).problems = [] ∧
      forall key, key ∈ (prunedSources (pruneUnusableBundleItems bundle)).names <->
        key ∈ validKeys bundle := by
  have hspec := @firstOfEach_spec _ _ _ BundleFontSource.sourceKey validSource [] bundle.sources
  rw [← pruned_sources bundle h] at hspec
  rcases passes_of_nodup hspec.1 (fun source hsource => (hspec.2 source hsource).2.1)
    (fun source _ => @List.not_mem_nil _ source.sourceKey) with ⟨hkept, hdropped, hnames⟩
  refine ⟨?_, ?_, fun key => ?_⟩
  · rw [prunedSources_items, hkept]
  · have hitems := (prunedSources_problems (pruneUnusableBundleItems bundle)).1
    rw [hdropped] at hitems
    exact List.map_eq_nil_iff.mp hitems
  · rw [prunedSources_names, hnames, ← mem_keptKeys bundle h.sources, List.mem_map]
    simp

theorem prunedFamilies_again (h : NoHarmfulRepeat bundle) :
    (prunedFamilies (pruneUnusableBundleItems bundle)).items =
        (pruneUnusableBundleItems bundle).families ∧
      (prunedFamilies (pruneUnusableBundleItems bundle)).problems = [] := by
  have hspec := @firstOfEach_spec _ _ _ BundleFontFamily.family
    (validFamily bundle (validKeys bundle)) [] bundle.families
  have hpart : forall family, family ∈ (pruneUnusableBundleItems bundle).families ->
      exists whole, validFamily bundle (validKeys bundle) whole = true ∧
        family = keptPart bundle whole := by
    intro family hfamily
    rw [pruned_families bundle h] at hfamily
    rcases List.mem_map.mp hfamily with ⟨whole, hwhole, heq⟩
    exact ⟨whole, (hspec.2 whole hwhole).2.1, heq.symm⟩
  have hnodup : ((pruneUnusableBundleItems bundle).families.map
      BundleFontFamily.family).Nodup := by
    rw [pruned_families bundle h, map_family_keptPart]
    exact hspec.1
  have hvalid : forall family, family ∈ (pruneUnusableBundleItems bundle).families ->
      validFamily (pruneUnusableBundleItems bundle)
        (prunedSources (pruneUnusableBundleItems bundle)).names family = true := by
    intro family hfamily
    rcases hpart family hfamily with ⟨whole, hwhole, heq⟩
    have hsame : validFamily (pruneUnusableBundleItems bundle)
        (prunedSources (pruneUnusableBundleItems bundle)).names family =
          validFamily bundle (validKeys bundle) family :=
      validFamily_congr bundle (fun _ => (prunedSources_again bundle h).2.2 _)
    rw [hsame, heq]
    exact validFamily_keptPart bundle hwhole
  rcases passes_of_nodup hnodup hvalid
    (fun family _ => @List.not_mem_nil _ family.family) with ⟨hkept, hdropped, -⟩
  constructor
  · rw [prunedFamilies_items, hkept]
    refine List.map_congr_left (fun family hfamily => ?_) |>.trans (List.map_id _)
    rcases hpart family hfamily with ⟨whole, -, heq⟩
    rw [heq]
    exact (keptFaces_keptPart bundle whole).1
  · rw [prunedFamilies_problems]
    refine familyProblems_eq_nil _ _ _ hdropped (fun family hfamily huploaded => ?_)
    rcases hpart family hfamily with ⟨whole, -, heq⟩
    rw [heq] at huploaded ⊢
    exact (keptFaces_keptPart bundle whole).2 huploaded

theorem pruned_again (h : NoHarmfulRepeat bundle) :
    pruneUnusableBundleItems (pruneUnusableBundleItems bundle) =
        pruneUnusableBundleItems bundle ∧
      problemsOf (pruneUnusableBundleItems bundle) = [] ∧
      unknownKeysOf (pruneUnusableBundleItems bundle) = [] := by
  rcases @keptSettings_again (contentVerdict bundle) bundle.content "content" with
    ⟨hcontent, hcontentUnknown, hcontentProblems⟩
  rcases @keptSettings_again tokenVerdict bundle.tokens "tokens" with
    ⟨htokens, htokensUnknown, htokensProblems⟩
  rcases prunedSources_again bundle h with ⟨hsources, hsourceProblems, -⟩
  rcases prunedFamilies_again bundle h with ⟨hfamilies, hfamilyProblems⟩
  refine ⟨?_, ?_, ?_⟩
  · have hparts : forall (content tokens : SortedMap String String) sources families,
        content = (pruneUnusableBundleItems bundle).content ->
        tokens = (pruneUnusableBundleItems bundle).tokens ->
        sources = (pruneUnusableBundleItems bundle).sources ->
        families = (pruneUnusableBundleItems bundle).families ->
        { pruneUnusableBundleItems bundle with
          content := content, tokens := tokens, sources := sources, families := families } =
          pruneUnusableBundleItems bundle := by
      intro content tokens sources families h₁ h₂ h₃ h₄
      rw [h₁, h₂, h₃, h₄]
    exact hparts _ _ _ _ hcontent htokens hsources hfamilies
  · unfold problemsOf
    rw [hsourceProblems, hfamilyProblems, List.append_nil, List.append_nil]
    exact List.append_eq_nil_iff.mpr ⟨hcontentProblems, htokensProblems⟩
  · exact List.append_eq_nil_iff.mpr ⟨hcontentUnknown, htokensUnknown⟩

theorem law_of_noHarmfulRepeat (h : NoHarmfulRepeat bundle) : PruningLaw bundle := by
  have hsources := @firstOfEach_spec _ _ _ BundleFontSource.sourceKey validSource []
    bundle.sources
  have hfamilies := @firstOfEach_spec _ _ _ BundleFontFamily.family
    (validFamily bundle (validKeys bundle)) [] bundle.families
  have hkeys : validFamily bundle
      ((pruneUnusableBundleItems bundle).sources.map BundleFontSource.sourceKey) =
        validFamily bundle (validKeys bundle) := by
    funext family
    refine validFamily_congr bundle (fun _ => ?_)
    rw [← mem_keptKeys bundle h.sources, List.mem_map]
  constructor
  case keys_distinct =>
    rw [pruned_sources bundle h]
    exact hsources.1
  case names_distinct =>
    rw [pruned_families bundle h, map_family_keptPart]
    exact hfamilies.1
  case sources_first => exact pruned_sources bundle h
  case families_first =>
    rw [hkeys]
    exact pruned_families bundle h
  case cdn_named =>
    intro family hfamily hcdn
    rw [pruned_families bundle h] at hfamily
    rcases List.mem_map.mp hfamily with ⟨whole, hwhole, heq⟩
    rcases family_keptPart bundle whole with ⟨-, -, hkind, hkey, -⟩
    rw [mem_keptKeys bundle h.sources, ← heq, hkey]
    rw [← heq, hkind] at hcdn
    have hvalid := (hfamilies.2 whole hwhole).2.1
    refine Decidable.byContradiction (fun hmissing => ?_)
    have hreason : familyReason bundle (validKeys bundle) whole = "" := of_decide_eq_true hvalid
    unfold familyReason at hreason
    split at hreason
    · exact absurd hreason (by decide)
    split at hreason
    · exact absurd hreason (by decide)
    unfold familyKindReason at hreason
    rw [if_pos hcdn, if_pos hmissing] at hreason
    have htext := congrArg String.toList hreason
    simp at htext
  case cdn_kept =>
    intro family hfamily hcdn hkept hreported
    rcases (missing_mem_problemsOf bundle).mp hreported with
      ⟨before, asking, after, heq, hasks, hfree, hmissing, -, hkey⟩
    rw [mem_keptKeys bundle h.sources, ← hkey] at hkept
    rcases h.asked before asking after heq hasks hkept with hheld | hheld
    · rw [prunedSources_names, mem_namesAfter_nil_iff h.sources] at hmissing
      exact hmissing hheld
    · have hbefore : NoThird BundleFontFamily.family (validFamily bundle (validKeys bundle))
          before := h.families.sublist (by rw [heq]; exact List.sublist_append_left _ _)
      rw [← (prunedFamilies_eq_firstOfEach bundle h).2 before asking after heq,
        mem_namesAfter_nil_iff hbefore] at hfree
      exact hfree hheld
  case reported => exact reported_all bundle
  case again => exact pruned_again bundle h

/-- Pruning keeps its law exactly on the bundles in which no repeat frees a key or name that is
asked for again. -/
theorem pruningLaw_iff : PruningLaw bundle <-> NoHarmfulRepeat bundle :=
  ⟨noHarmfulRepeat_of_law bundle, law_of_noHarmfulRepeat bundle⟩

end Bundle

def threeServices : ThemeBundle Unit :=
  let service : BundleFontSource :=
    ⟨"google", "Google Fonts", "https://fonts.googleapis.com", "", []⟩
  { content := SortedMap.empty, tokens := SortedMap.empty
    sources := [service, service, service], families := []
    appSections := SortedMap.empty, assets := SortedMap.empty }

/-- The third of them is kept beside the first. -/
theorem threeServices_notPruningLaw : Not (PruningLaw threeServices) := by
  intro h
  have hdistinct := h.keys_distinct
  revert hdistinct
  decide

end Branding
end ServerComponents
