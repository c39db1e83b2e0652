import Mathlib.Data.List.Basic

/-!
# Blocks of headers

A text is followed by headers, each on a line of its own.  The written block does not show
where the text ends and which of its lines are headers; it is read back with as many headers
as it can have.
-/

namespace ServerComponents
namespace HeaderBlocks

abbrev Header := List Char × List Char

def written (h : Header) : List Char :=
  h.1 ++ ':' :: ' ' :: h.2

def block (text : List Char) (headers : List Header) : List Char :=
  text ++ headers.flatMap (fun h => '\n' :: written h)

/-!
## Reading
-/

/-- The name and the value of the header that the first line is, if it has a colon with a
blank behind it. -/
def cutHeader : List Char -> Option Header
  | [] => none
  | '\n' :: _ => none
  | ':' :: ' ' :: rest => some ([], rest)
  | c :: rest => (cutHeader rest).map (fun h => (c :: h.1, h.2))

/-- Each line behind the first that can be a header is one. -/
def readBlock : List Char -> List Char × List Header
  | [] => ([], [])
  | c :: rest =>
      match (if c = '\n' then cutHeader (readBlock rest).1 else none) with
      | some h => ([], h :: (readBlock rest).2)
      | none => (c :: (readBlock rest).1, (readBlock rest).2)

/-- No line behind the first one can be a header. -/
def NoHeader (text : List Char) : Prop :=
  forall before after, text = before ++ '\n' :: after -> cutHeader after = none

structure PlainHeader (h : Header) : Prop where
  oneLine : '\n' ∉ h.1
  unmarked : Not ([':', ' '] <:+: h.1)
  value : NoHeader h.2

/-- The block shows where the text and each header begins. -/
structure Plain (text : List Char) (headers : List Header) : Prop where
  text : NoHeader text
  headers : forall h, h ∈ headers -> PlainHeader h

/-!
## Headers of a line
-/

variable {text : List Char}

section

attribute [local simp] cutHeader

theorem written_of_cutHeader {h : Header} (hcut : cutHeader text = some h) :
    written h = text := by
  fun_induction cutHeader text generalizing h with
  | case1 => simp at hcut
  | case2 => simp at hcut
  | case3 rest =>
      cases hcut
      rfl
  | case4 c rest hbreak hmark ih =>
      rcases Option.map_eq_some_iff.mp hcut with ⟨h', hrest, rfl⟩
      rw [<- ih hrest]
      rfl

theorem cutHeader_written {h : Header} (hline : '\n' ∉ h.1)
    (hmark : Not ([':', ' '] <:+: h.1)) : cutHeader (written h) = some h := by
  rcases h with ⟨name, value⟩
  induction name with
  | nil => rfl
  | cons c name ih =>
      have hrest : cutHeader (name ++ ':' :: ' ' :: value) = some (name, value) := by
        refine ih (fun hmem => hline (List.mem_cons_of_mem _ hmem)) ?_
        exact fun hocc => hmark (hocc.trans (List.suffix_cons c name).isInfix)
      have hc : c ≠ '\n' := fun heq => hline (heq ▸ List.mem_cons_self)
      have hcolon : c = ':' -> forall rest, name ++ ':' :: ' ' :: value ≠ ' ' :: rest := by
        rintro rfl rest heq
        cases name with
        | nil => simp at heq
        | cons d name =>
            cases heq
            exact hmark ⟨[], name, rfl⟩
      show cutHeader (c :: (name ++ ':' :: ' ' :: value)) = some (c :: name, value)
      rw [cutHeader, hrest]
      · rfl
      · exact hc
      · exact fun rest hhead => hcolon hhead rest

theorem plain_of_cutHeader {h : Header} (hcut : cutHeader text = some h) :
    '\n' ∉ h.1 ∧ Not ([':', ' '] <:+: h.1) := by
  fun_induction cutHeader text generalizing h with
  | case1 => simp at hcut
  | case2 => simp at hcut
  | case3 rest =>
      cases hcut
      exact ⟨List.not_mem_nil, by simp⟩
  | case4 c rest hbreak hmark ih =>
      rcases Option.map_eq_some_iff.mp hcut with ⟨h', hrest, rfl⟩
      rcases ih hrest with ⟨hline, hunmarked⟩
      constructor
      · intro hmem
        rcases List.mem_cons.mp hmem with heq | hmem
        · exact hbreak heq.symm
        · exact hline hmem
      · intro hocc
        rcases List.infix_cons_iff.mp hocc with hprefix | hocc
        · rcases h' with ⟨name, value⟩
          rcases List.cons_prefix_cons.mp hprefix with ⟨rfl, hname⟩
          cases name with
          | nil => simp at hname
          | cons d name =>
              rcases List.cons_prefix_cons.mp hname with ⟨rfl, -⟩
              have htext := written_of_cutHeader hrest
              exact hmark (name ++ ':' :: ' ' :: value) rfl htext.symm
        · exact hunmarked hocc

/-!
## Texts without headers
-/

end

theorem noHeader_nil : NoHeader [] := by
  intro before after h
  simp at h

theorem NoHeader.tail {c : Char} (h : NoHeader (c :: text)) :
    NoHeader text := by
  intro before after htext
  exact h (c :: before) after (by rw [htext, List.cons_append])

theorem NoHeader.cons {c : Char} (h : NoHeader text)
    (hc : c = '\n' -> cutHeader text = none) : NoHeader (c :: text) := by
  intro before after htext
  cases before with
  | nil =>
      rcases List.cons.inj htext with ⟨hhead, rfl⟩
      exact hc hhead
  | cons d before =>
      rcases List.cons.inj htext with ⟨-, rfl⟩
      exact h before after rfl

theorem NoHeader.append {line text : List Char} (h : NoHeader text) (hline : '\n' ∉ line) :
    NoHeader (line ++ text) := by
  induction line with
  | nil => exact h
  | cons c line ih =>
      refine (ih fun hmem => hline (List.mem_cons_of_mem _ hmem)).cons ?_
      exact fun hc => absurd (hc ▸ List.mem_cons_self) hline

theorem PlainHeader.noHeader_written {h : Header} (hplain : PlainHeader h) :
    NoHeader (written h) := by
  have hvalue : NoHeader (':' :: ' ' :: h.2) :=
    (hplain.value.cons (by simp)).cons (by simp)
  exact hvalue.append hplain.oneLine

/-!
## Blocks and their readings
-/

theorem block_readBlock (text : List Char) :
    block (readBlock text).1 (readBlock text).2 = text := by
  induction text with
  | nil => rfl
  | cons c rest ih =>
      unfold readBlock
      split
      · rename_i h hcut
        split at hcut
        · rename_i hc
          show '\n' :: written h ++ (readBlock rest).2.flatMap _ = c :: rest
          rw [written_of_cutHeader hcut, hc]
          exact congrArg _ ih
        · simp at hcut
      · exact congrArg _ ih

theorem plain_readBlock (text : List Char) :
    Plain (readBlock text).1 (readBlock text).2 := by
  induction text with
  | nil => exact ⟨noHeader_nil, by simp [readBlock]⟩
  | cons c rest ih =>
      unfold readBlock
      split
      · rename_i h hcut
        split at hcut
        · rcases plain_of_cutHeader hcut with ⟨hline, hmark⟩
          have hwritten := written_of_cutHeader hcut
          have hvalue : NoHeader h.2 := by
            intro before after htext
            refine ih.text (h.1 ++ ':' :: ' ' :: before) after ?_
            rw [<- hwritten, written, htext]
            simp
          refine ⟨noHeader_nil, fun h' hmem => ?_⟩
          rcases List.mem_cons.mp hmem with rfl | hmem
          · exact ⟨hline, hmark, hvalue⟩
          · exact ih.headers h' hmem
        · simp at hcut
      · rename_i hcut
        exact ⟨ih.text.cons (fun hc => by simpa [hc] using hcut), ih.headers⟩

theorem readBlock_append {text rest : List Char} (htext : NoHeader text)
    (hrest : (readBlock rest).1 = []) :
    readBlock (text ++ rest) = (text, (readBlock rest).2) := by
  induction text with
  | nil => exact Prod.ext hrest rfl
  | cons c text ih =>
      have htail := ih htext.tail
      show readBlock (c :: (text ++ rest)) = _
      rw [readBlock, htail]
      have hcut : (if c = '\n' then cutHeader text else none) = none := by
        split
        · rename_i hc
          exact htext [] text (by rw [hc, List.nil_append])
        · rfl
      simp only [hcut]

theorem readBlock_block {headers : List Header}
    (h : Plain text headers) : readBlock (block text headers) = (text, headers) := by
  have hheaders : forall headers : List Header, (forall h, h ∈ headers -> PlainHeader h) ->
      readBlock (headers.flatMap (fun h => '\n' :: written h)) = ([], headers) := by
    intro headers hplain
    induction headers with
    | nil => rfl
    | cons h headers ih =>
        have hrest := ih fun h' hmem => hplain h' (List.mem_cons_of_mem _ hmem)
        have hh := hplain h List.mem_cons_self
        have hline := readBlock_append hh.noHeader_written (congrArg Prod.fst hrest)
        show readBlock ('\n' :: (written h ++ headers.flatMap _)) = _
        rw [readBlock, hline, hrest]
        simp only [cutHeader_written hh.oneLine hh.unmarked, if_true]
  have hread := hheaders headers h.headers
  unfold block
  rw [readBlock_append h.text (congrArg Prod.fst hread), hread]

theorem block_injective {text text' : List Char} {headers headers' : List Header}
    (h : Plain text headers) (h' : Plain text' headers')
    (hblock : block text headers = block text' headers') :
    text = text' ∧ headers = headers' := by
  have hread : (text, headers) = (text', headers') := by
    rw [<- readBlock_block h, <- readBlock_block h', hblock]
  exact ⟨congrArg Prod.fst hread, congrArg Prod.snd hread⟩

end HeaderBlocks
end ServerComponents
