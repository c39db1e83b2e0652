import Mathlib.Logic.Relation
import ServerComponents.Images.ImageFormats

/-!
# SVG documents

The constructs in front of a root element as a relation on texts.  The recogniser accepts
the documents whose root is `svg`, and no others.
-/

namespace ServerComponents
namespace Images

/-!
# First occurrences
-/

/-- The closing text begins nowhere before the end of the body. -/
def ClosesFirst (close body left : List UInt8) : Prop :=
  forall k, k < body.length -> Not (close <+: (body ++ (close ++ left)).drop k)

theorem closesFirst_nil (close left : List UInt8) : ClosesFirst close [] left := by
  intro k hk
  cases hk

theorem closesFirst_cons {close body left : List UInt8} {b : UInt8} :
    ClosesFirst close (b :: body) left <->
      Not (close <+: b :: (body ++ (close ++ left))) ∧ ClosesFirst close body left := by
  unfold ClosesFirst
  constructor
  · intro h
    constructor
    · exact h 0 (Nat.succ_pos _)
    · intro k hk
      exact h (k + 1) (Nat.succ_lt_succ hk)
  · intro ⟨hfirst, hrest⟩ k hk
    cases k with
    | zero => exact hfirst
    | succ k => exact hrest k (Nat.lt_of_succ_lt_succ hk)

variable {body left : List UInt8}

theorem closesFirst_single {b : UInt8} :
    ClosesFirst [b] body left <-> b ∉ body := by
  induction body with
  | nil => exact iff_of_true (closesFirst_nil _ _) List.not_mem_nil
  | cons c body ih =>
      rw [closesFirst_cons, ih, List.cons_prefix_cons, List.mem_cons, not_or]
      simp only [List.nil_prefix, and_true]

variable {text left : List UInt8}

theorem behind_eq_some_iff {close : List UInt8} (hclose : close ≠ []) :
    behind close text = some left <->
      exists body, text = body ++ (close ++ left) ∧ ClosesFirst close body left := by
  induction text with
  | nil =>
      refine iff_of_false (fun h => nomatch h) ?_
      intro hclosed
      rcases hclosed with ⟨body, htext, _⟩
      have hnil := List.append_eq_nil_iff.mp htext.symm
      exact hclose (List.append_eq_nil_iff.mp hnil.2).1
  | cons b rest ih =>
      unfold behind
      by_cases hprefix : close.isPrefixOf (b :: rest) = true
      case pos =>
        rw [if_pos hprefix]
        obtain ⟨tail, htail⟩ := List.isPrefixOf_iff_prefix.mp hprefix
        rw [← htail, List.drop_left, Option.some.injEq]
        constructor
        · intro hleft
          rw [hleft]
          exact ⟨[], rfl, closesFirst_nil _ _⟩
        · intro hclosed
          rcases hclosed with ⟨body, htext, hfirst⟩
          cases body with
          | nil => exact List.append_cancel_left htext
          | cons c body =>
              have hnot := (closesFirst_cons.mp hfirst).1
              rw [← List.cons_append, ← htext] at hnot
              exact absurd (List.prefix_append close tail) hnot
      case neg =>
        rw [if_neg hprefix, ih]
        constructor
        · intro hclosed
          rcases hclosed with ⟨body, htext, hfirst⟩
          refine ⟨b :: body, by rw [htext, List.cons_append], closesFirst_cons.mpr ⟨?_, hfirst⟩⟩
          rw [← htext]
          intro h
          exact hprefix (List.isPrefixOf_iff_prefix.mpr h)
        · intro hclosed
          rcases hclosed with ⟨body, htext, hfirst⟩
          cases body with
          | nil =>
              refine absurd (List.isPrefixOf_iff_prefix.mpr ?_) hprefix
              rw [htext]
              exact List.prefix_append close left
          | cons c body =>
              have htail := (List.cons.inj htext).2
              exact ⟨body, htail, (closesFirst_cons.mp hfirst).2⟩

theorem behind_byte_iff {b : UInt8} :
    behind [b] text = some left <-> exists body, text = body ++ b :: left ∧ b ∉ body := by
  rw [behind_eq_some_iff (List.cons_ne_nil b [])]
  simp only [closesFirst_single, List.singleton_append]

theorem skipDelimited_iff {opening close : List UInt8} (hclose : close ≠ [])
    : skipDelimited opening close text = some left <->
      exists body, text = opening ++ (body ++ (close ++ left)) ∧ ClosesFirst close body left := by
  unfold skipDelimited
  constructor
  · intro h
    split at h
    case isTrue hopening =>
      obtain ⟨rest, hrest⟩ := List.isPrefixOf_iff_prefix.mp hopening
      rw [← hrest, List.drop_left] at h
      obtain ⟨body, hbody, hfirst⟩ := (behind_eq_some_iff hclose).mp h
      exact ⟨body, by rw [← hrest, hbody], hfirst⟩
    case isFalse => cases h
  · intro ⟨body, htext, hfirst⟩
    have hopening : opening.isPrefixOf text = true := by
      rw [htext]
      exact List.isPrefixOf_iff_prefix.mpr (List.prefix_append _ _)
    rw [if_pos hopening, htext, List.drop_left]
    exact (behind_eq_some_iff hclose).mpr ⟨body, rfl, hfirst⟩

/-!
# Document types
-/

theorem idxOf?_split {b : UInt8} {text : List UInt8} {i : Nat} (h : text.idxOf? b = some i) :
    exists head left, text = head ++ b :: left ∧ b ∉ head ∧ head.length = i := by
  induction text generalizing i with
  | nil => cases h
  | cons c rest ih =>
      rw [List.idxOf?_cons] at h
      split at h
      case isTrue hsame =>
        cases h
        exact ⟨[], rest, by rw [beq_iff_eq.mp hsame, List.nil_append], List.not_mem_nil, rfl⟩
      case isFalse hother =>
        obtain ⟨j, hj, rfl⟩ := Option.map_eq_some_iff.mp h
        obtain ⟨head, left, hrest, hhead, hlength⟩ := ih hj
        refine ⟨c :: head, left, by rw [hrest, List.cons_append], ?_, by rw [← hlength]; rfl⟩
        intro hmem
        cases List.mem_cons.mp hmem with
        | inl hc => exact hother (beq_iff_eq.mpr hc.symm)
        | inr hin => exact hhead hin

theorem idxOf?_append {b : UInt8} {head : List UInt8} (h : b ∉ head) (left : List UInt8) :
    (head ++ b :: left).idxOf? b = some head.length := by
  induction head with
  | nil => rw [List.nil_append, List.idxOf?_cons, if_pos (beq_self_eq_true b)]; rfl
  | cons c head ih =>
      have hother : Not ((c == b) = true) := by
        intro hc
        exact h (List.mem_cons.mpr (Or.inl (beq_iff_eq.mp hc).symm))
      have hin : b ∉ head := fun hmem => h (List.mem_cons_of_mem c hmem)
      rw [List.cons_append, List.idxOf?_cons, if_neg hother, ih hin]
      rfl

theorem idxOf?_lt {b : UInt8} {head : List UInt8} (h : b ∈ head) (left : List UInt8) :
    exists i, (head ++ left).idxOf? b = some i ∧ i < head.length := by
  obtain ⟨before, after, hhead, hbefore⟩ := List.eq_append_cons_of_mem h
  refine ⟨before.length, ?_, ?_⟩
  · rw [hhead, List.append_assoc, List.cons_append]
    exact idxOf?_append hbefore _
  · rw [hhead, List.length_append, List.length_cons]
    omega

theorem lt_idxOf? {b c : UInt8} (hne : c ≠ b) {head : List UInt8} (h : b ∉ head)
    {left : List UInt8} {i : Nat} (hi : (head ++ c :: left).idxOf? b = some i) :
    head.length < i := by
  obtain ⟨before, after, htext, hbefore, hlength⟩ := idxOf?_split hi
  rw [← hlength]
  by_contra hle
  have hprefix : before ++ [b] <+: head ++ [c] := by
    have hfirst : before ++ [b] <+: head ++ c :: left := by
      rw [htext]
      exact ⟨after, by rw [List.append_assoc, List.singleton_append]⟩
    have hsecond : head ++ [c] <+: head ++ c :: left :=
      ⟨left, by rw [List.append_assoc, List.singleton_append]⟩
    refine List.prefix_of_prefix_length_le hfirst hsecond ?_
    rw [List.length_append, List.length_append, List.length_singleton, List.length_singleton]
    omega
  have hmem : b ∈ head ++ [c] :=
    hprefix.subset (List.mem_append_right _ (List.mem_singleton_self b))
  cases List.mem_append.mp hmem with
  | inl hin => exact h hin
  | inr hlast => exact hne (List.mem_singleton.mp hlast).symm

/-- What is left behind the name of a document type. -/
def doctypeRest (body : List UInt8) : Option (List UInt8) :=
  match body.idxOf? 91, body.idxOf? 62 with
  | some subset, none => (behind [93] (body.drop subset)).bind (behind [62])
  | some subset, some ending =>
      if subset < ending then (behind [93] (body.drop subset)).bind (behind [62])
      else behind [62] body
  | none, _ => behind [62] body

theorem skipDoctype_eq (text : List UInt8) : skipDoctype text =
    if (octets "<!DOCTYPE").isPrefixOf text then
      doctypeRest (text.drop (octets "<!DOCTYPE").length) else none := rfl

theorem doctypeRest_subset {body : List UInt8} {subset : Nat}
    (hsubset : body.idxOf? 91 = some subset)
    (hfirst : forall ending, body.idxOf? 62 = some ending -> subset < ending) :
    doctypeRest body = (behind [93] (body.drop subset)).bind (behind [62]) := by
  unfold doctypeRest
  rw [hsubset]
  cases hending : body.idxOf? 62 with
  | none => rfl
  | some ending => exact if_pos (hfirst ending hending)

theorem doctypeRest_plain {body : List UInt8}
    (hfirst : forall subset, body.idxOf? 91 = some subset ->
      exists ending, body.idxOf? 62 = some ending ∧ ending ≤ subset) :
    doctypeRest body = behind [62] body := by
  unfold doctypeRest
  cases hsubset : body.idxOf? 91 with
  | none => rfl
  | some subset =>
      obtain ⟨ending, hending, hle⟩ := hfirst subset hsubset
      rw [hending]
      exact if_neg (Nat.not_lt.mpr hle)

def IsPlainType (body left : List UInt8) : Prop :=
  exists declaration, body = declaration ++ 62 :: left ∧ 62 ∉ declaration ∧ 91 ∉ declaration

def IsSubsetType (body left : List UInt8) : Prop :=
  exists head subset tail, body = head ++ 91 :: (subset ++ 93 :: (tail ++ 62 :: left)) ∧
    62 ∉ head ∧ 91 ∉ head ∧ 93 ∉ subset ∧ 62 ∉ tail

theorem doctypeRest_of_plainType (h : IsPlainType body left) :
    doctypeRest body = some left := by
  obtain ⟨declaration, hbody, hend, hopen⟩ := h
  rw [doctypeRest_plain]
  · exact behind_byte_iff.mpr ⟨declaration, hbody, hend⟩
  · intro subset hsubset
    rw [hbody] at hsubset ⊢
    exact ⟨_, idxOf?_append hend left, Nat.le_of_lt (lt_idxOf? (by decide) hopen hsubset)⟩

theorem doctypeRest_of_subsetType (h : IsSubsetType body left) :
    doctypeRest body = some left := by
  obtain ⟨head, subset, tail, hbody, hend, hopen, hclose, htail⟩ := h
  have hat : body.idxOf? 91 = some head.length := by
    rw [hbody]
    exact idxOf?_append hopen _
  rw [doctypeRest_subset hat]
  · rw [hbody, List.drop_left]
    have hsubset : behind [93] (91 :: (subset ++ 93 :: (tail ++ 62 :: left))) =
        some (tail ++ 62 :: left) := by
      refine behind_byte_iff.mpr ⟨91 :: subset, rfl, ?_⟩
      intro hmem
      cases List.mem_cons.mp hmem with
      | inl hsame => exact absurd hsame (by decide)
      | inr hin => exact hclose hin
    rw [hsubset]
    exact behind_byte_iff.mpr ⟨tail, rfl, htail⟩
  · intro ending hending
    rw [hbody] at hending
    exact lt_idxOf? (by decide) hend hending

theorem subsetType_of_doctypeRest {opens : Nat} (hat : body.idxOf? 91 = some opens)
    (hfirst : forall ending, body.idxOf? 62 = some ending -> opens < ending)
    (h : doctypeRest body = some left) : IsSubsetType body left := by
  rw [doctypeRest_subset hat hfirst] at h
  obtain ⟨head, rest, hbody, hopen, hlength⟩ := idxOf?_split hat
  rw [hbody, ← hlength, List.drop_left] at h
  obtain ⟨mid, hmid, hleft⟩ := Option.bind_eq_some_iff.mp h
  obtain ⟨bracketed, hbracketed, hclose⟩ := behind_byte_iff.mp hmid
  obtain ⟨tail, htail, hend⟩ := behind_byte_iff.mp hleft
  have hhead : 62 ∉ head := by
    intro hmem
    obtain ⟨ending, hending, hlt⟩ := idxOf?_lt hmem (91 :: rest)
    rw [← hbody] at hending
    have hlater := hfirst ending hending
    omega
  cases bracketed with
  | nil => exact absurd (List.cons.inj hbracketed).1 (by decide)
  | cons b subset =>
      obtain ⟨hb, hrest⟩ := List.cons.inj hbracketed
      refine ⟨head, subset, tail, ?_, hhead, hopen, ?_, hend⟩
      · rw [hbody, hrest, htail]
        rfl
      · exact fun hmem => hclose (List.mem_cons_of_mem b hmem)

theorem plainType_of_doctypeRest (hfirst : forall opens, body.idxOf? 91 = some opens ->
      exists ending, body.idxOf? 62 = some ending ∧ ending ≤ opens)
    (h : doctypeRest body = some left) : IsPlainType body left := by
  rw [doctypeRest_plain hfirst] at h
  obtain ⟨declaration, hbody, hend⟩ := behind_byte_iff.mp h
  refine ⟨declaration, hbody, hend, ?_⟩
  intro hmem
  obtain ⟨opens, hopens, hlt⟩ := idxOf?_lt hmem (62 :: left)
  rw [← hbody] at hopens
  obtain ⟨ending, hending, hle⟩ := hfirst opens hopens
  rw [hbody, idxOf?_append hend left] at hending
  have hsame := Option.some.inj hending
  omega

theorem doctypeRest_iff :
    doctypeRest body = some left <-> IsPlainType body left ∨ IsSubsetType body left := by
  constructor
  · intro h
    by_cases hsubset : exists opens, body.idxOf? 91 = some opens ∧
        forall ending, body.idxOf? 62 = some ending -> opens < ending
    case pos =>
      obtain ⟨opens, hat, hfirst⟩ := hsubset
      exact Or.inr (subsetType_of_doctypeRest hat hfirst h)
    case neg =>
      refine Or.inl (plainType_of_doctypeRest ?_ h)
      intro opens hat
      by_contra hnone
      apply hsubset
      refine ⟨opens, hat, ?_⟩
      intro ending hending
      by_contra hle
      exact hnone ⟨ending, hending, Nat.not_lt.mp hle⟩
  · intro h
    cases h with
    | inl hplain => exact doctypeRest_of_plainType hplain
    | inr hsubset => exact doctypeRest_of_subsetType hsubset

theorem skipDoctype_iff : skipDoctype text = some left <->
    exists body, text = octets "<!DOCTYPE" ++ body ∧
      (IsPlainType body left ∨ IsSubsetType body left) := by
  rw [skipDoctype_eq]
  constructor
  · intro h
    split at h
    case isTrue hname =>
      obtain ⟨body, hbody⟩ := List.isPrefixOf_iff_prefix.mp hname
      rw [← hbody, List.drop_left] at h
      exact ⟨body, hbody.symm, doctypeRest_iff.mp h⟩
    case isFalse => cases h
  · intro ⟨body, htext, hbody⟩
    have hname : (octets "<!DOCTYPE").isPrefixOf text = true := by
      rw [htext]
      exact List.isPrefixOf_iff_prefix.mpr (List.prefix_append _ _)
    rw [if_pos hname, htext, List.drop_left]
    exact doctypeRest_iff.mpr hbody

/-!
# What stands in front of a root
-/

/-- One construct in front of the root is taken away. -/
inductive Skips : List UInt8 -> List UInt8 -> Prop where
  | space {b : UInt8} {left : List UInt8} (h : isXmlWhitespace b = true) : Skips (b :: left) left
  | instruction {body left : List UInt8} (h : ClosesFirst (octets "?>") body left) :
      Skips (octets "<?" ++ (body ++ (octets "?>" ++ left))) left
  | comment {body left : List UInt8} (h : ClosesFirst (octets "-->") body left) :
      Skips (octets "<!--" ++ (body ++ (octets "-->" ++ left))) left
  | doctype {body left : List UInt8} (h : IsPlainType body left ∨ IsSubsetType body left) :
      Skips (octets "<!DOCTYPE" ++ body) left

theorem skips_of_skipConstruct (h : skipConstruct text = some left) :
    Skips text left := by
  unfold skipConstruct at h
  cases Option.or_eq_some_iff.mp h with
  | inl hinstruction =>
      obtain ⟨body, htext, hfirst⟩ := (skipDelimited_iff (by decide)).mp hinstruction
      rw [htext]
      exact Skips.instruction hfirst
  | inr hother =>
      cases Option.or_eq_some_iff.mp hother.2 with
      | inl hcomment =>
          obtain ⟨body, htext, hfirst⟩ := (skipDelimited_iff (by decide)).mp hcomment
          rw [htext]
          exact Skips.comment hfirst
      | inr hdoctype =>
          obtain ⟨body, htext, hbody⟩ := skipDoctype_iff.mp hdoctype.2
          rw [htext]
          exact Skips.doctype hbody

theorem skipDelimited_none {opening close text : List UInt8}
    (h : opening.isPrefixOf text = false) : skipDelimited opening close text = none := by
  unfold skipDelimited
  rw [h]
  rfl

theorem Skips.cases_construct (h : Skips text left) :
    (exists b, isXmlWhitespace b = true ∧ text = b :: left) ∨
      ((exists rest, text = 60 :: rest) ∧ skipConstruct text = some left) := by
  cases h with
  | space h => exact Or.inl ⟨_, h, rfl⟩
  | @instruction body left h =>
      refine Or.inr ⟨⟨_, rfl⟩, ?_⟩
      unfold skipConstruct
      rw [(skipDelimited_iff (by decide)).mpr ⟨body, rfl, h⟩]
      rfl
  | @comment body left h =>
      refine Or.inr ⟨⟨_, rfl⟩, ?_⟩
      unfold skipConstruct
      rw [skipDelimited_none rfl, (skipDelimited_iff (by decide)).mpr ⟨body, rfl, h⟩]
      rfl
  | @doctype body left h =>
      refine Or.inr ⟨⟨_, rfl⟩, ?_⟩
      unfold skipConstruct
      rw [skipDelimited_none rfl, skipDelimited_none rfl, skipDoctype_iff.mpr ⟨body, rfl, h⟩]
      rfl

/-- The constructs in front of a text are taken away, one after the other. -/
def Leads : List UInt8 -> List UInt8 -> Prop := Relation.ReflTransGen Skips

theorem leads_dropWhile (text : List UInt8) : Leads text (text.dropWhile isXmlWhitespace) := by
  induction text with
  | nil => exact Relation.ReflTransGen.refl
  | cons b rest ih =>
      by_cases hspace : isXmlWhitespace b = true
      case pos =>
        rw [List.dropWhile_cons_of_pos hspace]
        exact Relation.ReflTransGen.head (Skips.space hspace) ih
      case neg =>
        rw [List.dropWhile_cons_of_neg hspace]
        exact Relation.ReflTransGen.refl

theorem leads_skipProlog (rounds : Nat) (text : List UInt8) :
    Leads text (skipProlog rounds text) := by
  induction rounds generalizing text with
  | zero => exact Relation.ReflTransGen.refl
  | succ rounds ih =>
      have hspace := leads_dropWhile text
      unfold skipProlog
      dsimp only
      split
      case h_1 left hskip =>
        exact Relation.ReflTransGen.trans hspace
          (Relation.ReflTransGen.head (skips_of_skipConstruct hskip) (ih left))
      case h_2 => exact hspace

/-!
# Roots
-/

/-- A tag, and no declaration, instruction or comment. -/
def IsElementStart (text : List UInt8) : Prop :=
  exists b rest, text = 60 :: b :: rest ∧ b ≠ 33 ∧ b ≠ 63

/-- `<svg`, and a byte behind which the name does not go on. -/
def IsSvgTag (text : List UInt8) : Prop :=
  exists next rest, text = octets "<svg" ++ next :: rest ∧
    (isXmlWhitespace next || next == 62 || next == 47) = true

theorem IsSvgTag.isElementStart {text : List UInt8} (h : IsSvgTag text) :
    IsElementStart text := by
  obtain ⟨next, rest, htext, _⟩ := h
  exact ⟨115, _, htext, by decide, by decide⟩

theorem skipConstruct_element {text : List UInt8} (h : IsElementStart text) :
    skipConstruct text = none := by
  obtain ⟨b, rest, htext, hdeclaration, hinstruction⟩ := h
  have hfirst : (octets "<?").isPrefixOf text = false := by
    rw [htext]
    show ((60 : UInt8) == 60 && ((63 : UInt8) == b && true)) = false
    simpa using Ne.symm hinstruction
  have hsecond : (octets "<!--").isPrefixOf text = false := by
    rw [htext]
    show ((60 : UInt8) == 60 && ((33 : UInt8) == b && _)) = false
    simp [Ne.symm hdeclaration]
  have hthird : (octets "<!DOCTYPE").isPrefixOf text = false := by
    rw [htext]
    show ((60 : UInt8) == 60 && ((33 : UInt8) == b && _)) = false
    simp [Ne.symm hdeclaration]
  unfold skipConstruct
  rw [skipDelimited_none hfirst, skipDelimited_none hsecond, skipDoctype_eq, hthird]
  rfl

theorem dropWhile_tag (rest : List UInt8) :
    (60 :: rest).dropWhile isXmlWhitespace = 60 :: rest :=
  List.dropWhile_cons_of_neg (by decide)

theorem skipProlog_element {text : List UInt8} (h : IsElementStart text) (rounds : Nat) :
    skipProlog rounds text = text := by
  cases rounds with
  | zero => rfl
  | succ rounds =>
      have hskip := skipConstruct_element h
      obtain ⟨b, rest, htext, _⟩ := h
      unfold skipProlog
      dsimp only
      rw [htext] at hskip ⊢
      rw [dropWhile_tag, hskip]

theorem skipProlog_space {b : UInt8} (h : isXmlWhitespace b = true) (rounds : Nat)
    (left : List UInt8) :
    skipProlog (rounds + 1) (b :: left) = skipProlog (rounds + 1) left := by
  rw [skipProlog, skipProlog, List.dropWhile_cons_of_pos h]

theorem skipProlog_construct {rest left : List UInt8}
    (h : skipConstruct (60 :: rest) = some left) (rounds : Nat) :
    skipProlog (rounds + 1) (60 :: rest) = skipProlog rounds left := by
  rw [skipProlog, dropWhile_tag, h]

theorem skipProlog_of_leads {text root : List UInt8} (h : Leads text root)
    (hroot : IsElementStart root) {rounds : Nat} (hrounds : text.length < rounds) :
    skipProlog rounds text = root := by
  induction h using Relation.ReflTransGen.head_induction_on generalizing rounds with
  | refl => exact skipProlog_element hroot rounds
  | @head text left hstep _ ih =>
      cases rounds with
      | zero => cases hrounds
      | succ rounds =>
          cases hstep.cases_construct with
          | inl hspace =>
              obtain ⟨b, hb, rfl⟩ := hspace
              rw [skipProlog_space hb]
              exact ih (Nat.lt_of_succ_lt hrounds)
          | inr hconstruct =>
              obtain ⟨⟨rest, rfl⟩, hskip⟩ := hconstruct
              have hlength := skipConstruct_length hskip
              rw [skipProlog_construct hskip]
              exact ih (by omega)

def withoutMark (bytes : List UInt8) : List UInt8 :=
  if ([239, 187, 191] : List UInt8).isPrefixOf bytes then bytes.drop 3 else bytes

def HasSvgRoot (bytes : List UInt8) : Prop :=
  exists root, Leads (withoutMark bytes) root ∧ IsSvgTag root

def isSvgTag (root : List UInt8) : Bool :=
  if (octets "<svg").isPrefixOf root then
    match root.drop (octets "<svg").length with
    | [] => false
    | next :: _ => isXmlWhitespace next || next == 62 || next == 47
  else false

theorem isSvgTag_iff (root : List UInt8) : isSvgTag root = true <-> IsSvgTag root := by
  unfold isSvgTag IsSvgTag
  constructor
  · intro h
    split at h
    case isTrue hname =>
      obtain ⟨rest, hrest⟩ := List.isPrefixOf_iff_prefix.mp hname
      rw [← hrest, List.drop_left] at h
      cases rest with
      | nil => cases h
      | cons next rest => exact ⟨next, rest, hrest.symm, h⟩
    case isFalse => cases h
  · intro ⟨next, rest, hroot, hnext⟩
    have hname : (octets "<svg").isPrefixOf root = true := by
      rw [hroot]
      exact List.isPrefixOf_iff_prefix.mpr (List.prefix_append _ _)
    rw [if_pos hname, hroot, List.drop_left]
    exact hnext

theorem isSvgDocument_eq (bytes : List UInt8) : isSvgDocument bytes =
    isSvgTag (skipProlog ((withoutMark bytes).length + 1) (withoutMark bytes)) := rfl

theorem isSvgDocument_iff (bytes : List UInt8) :
    isSvgDocument bytes = true <-> HasSvgRoot bytes := by
  rw [isSvgDocument_eq, isSvgTag_iff]
  constructor
  · intro h
    exact ⟨_, leads_skipProlog _ _, h⟩
  · intro ⟨root, hleads, hroot⟩
    rw [skipProlog_of_leads hleads hroot.isElementStart (Nat.lt_succ_self _)]
    exact hroot

end Images
end ServerComponents
