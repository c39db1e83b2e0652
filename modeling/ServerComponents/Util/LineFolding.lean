import Mathlib.Data.List.GetD
import ServerComponents.Util.ICalGenerator
import ServerComponents.Util.JsonValue

/-!
# Folded lines

What the segments of a folded line are: whole characters, within the budget,
and the line again when the folds are taken out.
-/

namespace ServerComponents
namespace Util
namespace ICalGenerator

open Text.ContentLines (crlf hasCrlf hasCrlf_cons hasCrlf_append)
open Value (utf8_cons utf8_append)

/-!
## Character boundaries
-/

theorem isContinuation_eq (c : UInt8) :
    isContinuation c = decide (128 ≤ c.toNat ∧ c.toNat < 192) := by
  have hall : forall n : Fin 256, isContinuation (UInt8.ofNat n.val) =
      decide (128 ≤ (UInt8.ofNat n.val).toNat ∧ (UInt8.ofNat n.val).toNat < 192) := by
    decide +kernel
  have hc := hall ⟨c.toNat, c.toNat_lt⟩
  rwa [UInt8.ofNat_toNat] at hc

theorem utf8EncodeChar_shape (c : Char) :
    exists lead tails, String.utf8EncodeChar c = lead :: tails ∧ isContinuation lead = false ∧
      (forall b, b ∈ tails -> isContinuation b = true) ∧ tails.length ≤ 3 := by
  have hshape : forall (n : Nat) (ns : List Nat), (n < 128 ∨ 192 ≤ n ∧ n < 256) -> ns.length ≤ 3 ->
      exists lead tails, UInt8.ofNat n :: ns.map (fun m => UInt8.ofNat (m % 64 + 128)) =
        lead :: tails ∧ isContinuation lead = false ∧
        (forall b, b ∈ tails -> isContinuation b = true) ∧ tails.length ≤ 3 := by
    intro n ns hn hns
    refine ⟨_, _, rfl, ?_, ?_, by rwa [List.length_map]⟩
    · rw [isContinuation_eq, UInt8.toNat_ofNat']
      simp only [decide_eq_false_iff_not]
      omega
    · intro b hb
      rcases List.mem_map.mp hb with ⟨m, -, rfl⟩
      rw [isContinuation_eq, UInt8.toNat_ofNat']
      simp only [decide_eq_true_eq]
      omega
  unfold String.utf8EncodeChar
  dsimp only
  generalize c.val.toNat = v
  split
  · exact hshape v [] (by omega) (by simp)
  split
  · exact hshape (v / 64 % 32 + 192) [v] (by omega) (by simp)
  split
  · exact hshape (v / 4096 % 16 + 224) [v / 64, v] (by omega) (by simp)
  · exact hshape (v / 262144 % 8 + 240) [v / 4096, v / 64, v] (by omega) (by simp)

/-- Some character boundary lies at most three bytes before a position, and the bytes after it
up to the position continue its character. -/
theorem exists_boundary (cs : List Char) {take : Nat} (htake : take < (utf8 cs).length) :
    exists ds es, cs = ds ++ es ∧ (utf8 ds).length ≤ take ∧ take ≤ (utf8 ds).length + 3 ∧
      isContinuation ((utf8 cs).getD (utf8 ds).length 0) = false ∧
      forall i, (utf8 ds).length < i -> i ≤ take ->
        isContinuation ((utf8 cs).getD i 0) = true := by
  induction cs generalizing take with
  | nil => exact absurd htake (Nat.not_lt_zero take)
  | cons c cs ih =>
      rcases utf8EncodeChar_shape c with ⟨lead, tails, hc, hlead, htails, hlength⟩
      rw [utf8_cons, hc] at htake ⊢
      by_cases hinside : take ≤ tails.length
      · refine ⟨[], c :: cs, rfl, Nat.zero_le _, Nat.le_trans hinside (by omega), hlead, ?_⟩
        intro i hpos hi
        obtain ⟨j, rfl⟩ : exists j, i = j + 1 := ⟨i - 1, by omega⟩
        have hj : j < tails.length := by omega
        rw [List.cons_append, List.getD_cons_succ, List.getD_append _ _ _ _ hj,
          List.getD_eq_getElem _ _ hj]
        exact htails _ (List.getElem_mem hj)
      · rw [List.length_append, List.length_cons] at htake
        rcases @ih (take - (tails.length + 1)) (by omega) with
          ⟨ds, es, rfl, hle, hnear, hstart, hrest⟩
        have hds : (utf8 (c :: ds)).length = tails.length + 1 + (utf8 ds).length := by
          rw [utf8_cons, hc, List.length_append, List.length_cons]
        have hbyte : forall i, (lead :: tails ++ utf8 (ds ++ es)).getD (tails.length + 1 + i) 0 =
            (utf8 (ds ++ es)).getD i 0 := by
          intro i
          rw [List.getD_append_right _ _ _ _ (by simp)]
          simp
        refine ⟨c :: ds, es, rfl, by omega, by omega, ?_, ?_⟩
        · rw [hds, hbyte]
          exact hstart
        · intro i hi hi'
          obtain ⟨j, rfl⟩ : exists j, i = tails.length + 1 + j := ⟨i - (tails.length + 1), by omega⟩
          rw [hbyte]
          exact hrest j (by omega) (by omega)

theorem backOff_eq {line : Bytes} {start take : Nat} (hle : start ≤ take)
    (hstart : start = 0 ∨ isContinuation (line.getD start 0) = false)
    (hrest : forall i, start < i -> i ≤ take -> isContinuation (line.getD i 0) = true) :
    backOff line take = start := by
  induction take with
  | zero => exact (Nat.le_zero.mp hle).symm
  | succ take ih =>
      unfold backOff
      by_cases hlast : start = take + 1
      · have hbyte : isContinuation (line.getD (take + 1) 0) = false := by
          rcases hstart with hzero | hstart
          · omega
          · rwa [hlast] at hstart
        rw [hbyte, hlast]
        rfl
      · rw [hrest (take + 1) (by omega) (Nat.le_refl _)]
        exact ih (by omega) fun i hi hi' => hrest i hi (by omega)

theorem segmentLength_whole {budget : Nat} (hbudget : 4 ≤ budget) {cs : List Char} (hcs : cs ≠ []) :
    exists ds es, cs = ds ++ es ∧ ds ≠ [] ∧ (utf8 ds).length ≤ budget ∧
      segmentLength budget (utf8 cs) = (utf8 ds).length := by
  unfold segmentLength
  dsimp only
  by_cases hlong : min budget (utf8 cs).length < (utf8 cs).length
  · rw [if_pos hlong]
    rcases exists_boundary cs hlong with ⟨ds, es, hsplit, hle, hnear, hstart, hrest⟩
    have hback := backOff_eq hle (Or.inr hstart) hrest
    have hne : (utf8 ds).length ≠ 0 := by omega
    rw [hback, if_neg hne]
    refine ⟨ds, es, hsplit, ?_, by omega, rfl⟩
    intro hnil
    rw [hnil] at hne
    exact hne rfl
  · rw [if_neg hlong]
    exact ⟨cs, [], (List.append_nil cs).symm, hcs, by omega, by omega⟩

/-!
## The segments
-/

/-- A run of the loop that ends, whatever number of rounds it takes. -/
inductive LoopEnds : Bool -> Bytes -> Bytes -> Prop where
  | done (firstSegment : Bool) : LoopEnds firstSegment [] []
  | segment {firstSegment : Bool} {line rest : Bytes} (hline : line ≠ [])
      (hrest : LoopEnds false
        (line.drop (segmentLength (if firstSegment then 75 else 74) line)) rest) :
      LoopEnds firstSegment line
        ((if firstSegment then [] else crlf ++ [32]) ++
          line.take (segmentLength (if firstSegment then 75 else 74) line) ++ rest)

theorem loopEnds_foldSegments {fuel : Nat} {firstSegment : Bool} {line : Bytes}
    (hfuel : line.length ≤ fuel) :
    LoopEnds firstSegment line (foldSegments fuel firstSegment line) := by
  induction fuel generalizing firstSegment line with
  | zero =>
      rw [List.eq_nil_of_length_eq_zero (Nat.le_zero.mp hfuel)]
      exact LoopEnds.done firstSegment
  | succ fuel ih =>
      by_cases hnil : line = []
      · rw [hnil]
        exact LoopEnds.done firstSegment
      have hpos : 0 < segmentLength (if firstSegment then 75 else 74) line :=
        segmentLength_pos (by split <;> decide) hnil
      have hlength := List.length_pos_iff.mpr hnil
      simp only [foldSegments, hnil, if_false]
      exact LoopEnds.segment hnil (ih (by rw [List.length_drop]; omega))

theorem utf8_ne_nil {cs : List Char} (hcs : cs ≠ []) : utf8 cs ≠ [] := by
  cases cs with
  | nil => exact absurd rfl hcs
  | cons c cs =>
      rcases utf8EncodeChar_shape c with ⟨lead, tails, hc, -⟩
      rw [utf8_cons, hc]
      exact List.cons_ne_nil _ _

theorem foldSegments_step {fuel : Nat} (firstSegment : Bool) {cs : List Char} (hcs : cs ≠ [])
    (hfuel : (utf8 cs).length ≤ fuel + 1) :
    exists ds es, cs = ds ++ es ∧ (utf8 ds).length ≤ (if firstSegment then 75 else 74) ∧
      (utf8 es).length ≤ fuel ∧
      foldSegments (fuel + 1) firstSegment (utf8 cs) =
        (if firstSegment then [] else crlf ++ [32]) ++ utf8 ds ++
          foldSegments fuel false (utf8 es) := by
  have hbudget : 4 ≤ (if firstSegment then 75 else 74) := by split <;> decide
  rcases segmentLength_whole hbudget hcs with ⟨ds, es, hsplit, hds, hbound, htake⟩
  have hpos := List.length_pos_iff.mpr (utf8_ne_nil hds)
  have hparts : utf8 cs = utf8 ds ++ utf8 es := by rw [hsplit, utf8_append]
  have hlength : (utf8 cs).length = (utf8 ds).length + (utf8 es).length := by
    rw [hparts, List.length_append]
  refine ⟨ds, es, hsplit, hbound, by omega, ?_⟩
  simp only [foldSegments, utf8_ne_nil hcs, if_false, htake]
  rw [hparts, List.take_left, List.drop_left]

/-- The later segments as they are written: a fold in front of each. -/
def foldedBefore (pieces : List (List Char)) : Bytes :=
  pieces.flatMap fun piece => crlf ++ [32] ++ utf8 piece

theorem foldSegments_rest {fuel : Nat} {cs : List Char} (hfuel : (utf8 cs).length ≤ fuel) :
    exists pieces : List (List Char), pieces.flatten = cs ∧
      foldSegments fuel false (utf8 cs) = foldedBefore pieces ∧
      forall piece, piece ∈ pieces -> (utf8 piece).length ≤ 74 := by
  by_cases hnil : cs = []
  · rw [hnil]
    exact ⟨[], rfl, by cases fuel <;> rfl, by simp⟩
  induction fuel generalizing cs with
  | zero => exact absurd (List.eq_nil_of_length_eq_zero (Nat.le_zero.mp hfuel)) (utf8_ne_nil hnil)
  | succ fuel ih =>
      rcases foldSegments_step false hnil hfuel with
        ⟨ds, es, hsplit, hbound, hrest, hstep⟩
      have hpieces : exists pieces : List (List Char), pieces.flatten = es ∧
          foldSegments fuel false (utf8 es) = foldedBefore pieces ∧
          forall piece, piece ∈ pieces -> (utf8 piece).length ≤ 74 := by
        by_cases hes : es = []
        · rw [hes]
          exact ⟨[], rfl, by cases fuel <;> rfl, by simp⟩
        · exact ih hrest hes
      rcases hpieces with ⟨pieces, hflatten, hfolded, hall⟩
      refine ⟨ds :: pieces, ?_, ?_, ?_⟩
      · rw [List.flatten_cons, hflatten, hsplit]
      · rw [hstep, hfolded]
        rfl
      · intro piece hpiece
        rcases List.mem_cons.mp hpiece with rfl | hpiece
        · exact hbound
        · exact hall piece hpiece

theorem foldLine_pieces (cs : List Char) :
    exists first pieces, first ++ pieces.flatten = cs ∧
      foldLine (utf8 cs) = utf8 first ++ foldedBefore pieces ∧
      (utf8 first).length ≤ 75 ∧ forall piece, piece ∈ pieces -> (utf8 piece).length ≤ 74 := by
  unfold foldLine
  split
  · rename_i hshort
    exact ⟨cs, [], List.append_nil cs, (List.append_nil _).symm, hshort, by simp⟩
  · rename_i hlong
    have hcs : cs ≠ [] := by
      rintro rfl
      exact hlong (Nat.zero_le 75)
    obtain ⟨fuel, hfuel⟩ : exists fuel, (utf8 cs).length = fuel + 1 :=
      ⟨(utf8 cs).length - 1, by omega⟩
    rw [hfuel]
    rcases foldSegments_step true hcs (Nat.le_of_eq hfuel) with
      ⟨ds, es, hsplit, hbound, hrest, hstep⟩
    rcases foldSegments_rest hrest with ⟨pieces, hflatten, hfolded, hall⟩
    exact ⟨ds, pieces, by rw [hflatten, hsplit], by rw [hstep, hfolded]; rfl, hbound, hall⟩

/-!
## Taking the folds out
-/

def removeFolds : Bytes -> Bytes
  | [] => []
  | 13 :: 10 :: 32 :: rest => removeFolds rest
  | c :: rest => c :: removeFolds rest

theorem removeFolds_cons {c : UInt8} {rest : Bytes} (h : Not (c = 13 ∧ rest.head? = some 10)) :
    removeFolds (c :: rest) = c :: removeFolds rest := by
  rw [removeFolds]
  rintro r rfl rfl
  exact h ⟨rfl, rfl⟩

theorem splitCrlf_cons {c : UInt8} {rest line : Bytes} {lines : List Bytes}
    (h : Not (c = 13 ∧ rest.head? = some 10)) (hrest : splitCrlf rest = line :: lines) :
    splitCrlf (c :: rest) = (c :: line) :: lines := by
  rw [splitCrlf, hrest]
  rintro r rfl rfl
  exact h ⟨rfl, rfl⟩

theorem noBreak_cons {c : UInt8} {text rest : Bytes} (htext : hasCrlf (c :: text) = false)
    (hrest : rest.head? ≠ some 10) : Not (c = 13 ∧ (text ++ rest).head? = some 10) := by
  rintro ⟨hc, hhead⟩
  cases text with
  | nil => exact hrest hhead
  | cons d text => exact (hasCrlf_cons.mp htext).1 ⟨hc, hhead⟩

theorem removeFolds_append {text rest : Bytes} (htext : hasCrlf text = false)
    (hrest : rest.head? ≠ some 10) : removeFolds (text ++ rest) = text ++ removeFolds rest := by
  induction text with
  | nil => rfl
  | cons c text ih =>
      rw [List.cons_append, removeFolds_cons (noBreak_cons htext hrest),
        ih (hasCrlf_cons.mp htext).2]
      rfl

theorem splitCrlf_line {text rest : Bytes} (htext : hasCrlf text = false) :
    splitCrlf (text ++ (crlf ++ rest)) = text :: splitCrlf rest := by
  induction text with
  | nil => rfl
  | cons c text ih =>
      exact splitCrlf_cons (noBreak_cons htext (by simp [crlf])) (ih (hasCrlf_cons.mp htext).2)

theorem foldedBefore_head (pieces : List (List Char)) :
    (foldedBefore pieces).head? ≠ some 10 := by
  cases pieces with
  | nil => simp [foldedBefore]
  | cons piece pieces => simp [foldedBefore, crlf]

theorem removeFolds_foldedBefore {pieces : List (List Char)}
    (hpieces : hasCrlf (utf8 pieces.flatten) = false) :
    removeFolds (foldedBefore pieces) = utf8 pieces.flatten := by
  induction pieces with
  | nil => rfl
  | cons piece pieces ih =>
      rw [List.flatten_cons, utf8_append] at hpieces ⊢
      rcases hasCrlf_append hpieces with ⟨hpiece, hrest⟩
      rw [← ih hrest, ← removeFolds_append hpiece (foldedBefore_head pieces)]
      rfl

theorem splitCrlf_foldedBefore {first : Bytes} {pieces : List (List Char)}
    (hfirst : hasCrlf first = false) (hpieces : hasCrlf (utf8 pieces.flatten) = false) :
    splitCrlf (first ++ (foldedBefore pieces ++ crlf)) =
      first :: pieces.map fun piece => 32 :: utf8 piece := by
  induction pieces generalizing first with
  | nil => exact splitCrlf_line hfirst
  | cons piece pieces ih =>
      rw [List.flatten_cons, utf8_append] at hpieces
      rcases hasCrlf_append hpieces with ⟨hpiece, hrest⟩
      have hspace : hasCrlf (32 :: utf8 piece) = false :=
        hasCrlf_cons.mpr ⟨fun h => absurd h.1 (by decide), hpiece⟩
      have hparts : foldedBefore (piece :: pieces) ++ crlf =
          crlf ++ (32 :: utf8 piece ++ (foldedBefore pieces ++ crlf)) := by
        simp [foldedBefore]
      rw [hparts, splitCrlf_line hfirst, ih hspace hrest]
      rfl

/-- Folding a text without a line break ends, is undone by taking the folds out, and gives
physical lines of at most 75 octets, each of whole characters. -/
theorem foldLine_folds {cs : List Char} (hline : hasCrlf (utf8 cs) = false) :
    ((utf8 cs).length ≤ 75 ∨ LoopEnds true (utf8 cs) (foldLine (utf8 cs))) ∧
      removeFolds (foldLine (utf8 cs)) = utf8 cs ∧
      (exists (first : List Char) (pieces : List (List Char)), first ++ pieces.flatten = cs ∧
        splitCrlf (foldLine (utf8 cs) ++ crlf) =
          utf8 first :: pieces.map fun piece => 32 :: utf8 piece) ∧
      forall physical, physical ∈ splitCrlf (foldLine (utf8 cs) ++ crlf) ->
        physical.length ≤ 75 := by
  have hends : (utf8 cs).length ≤ 75 ∨ LoopEnds true (utf8 cs) (foldLine (utf8 cs)) := by
    by_cases hshort : (utf8 cs).length ≤ 75
    · exact Or.inl hshort
    · right
      rw [foldLine, if_neg hshort]
      exact loopEnds_foldSegments (Nat.le_refl _)
  rcases foldLine_pieces cs with ⟨first, pieces, hcs, hfolded, hfirst, hpieces⟩
  have hparts : utf8 cs = utf8 first ++ utf8 pieces.flatten := by rw [← hcs, utf8_append]
  rcases hasCrlf_append (hparts ▸ hline) with ⟨hfirstLine, hrestLine⟩
  have hlines : splitCrlf (foldLine (utf8 cs) ++ crlf) =
      utf8 first :: pieces.map fun piece => 32 :: utf8 piece := by
    rw [hfolded, List.append_assoc]
    exact splitCrlf_foldedBefore hfirstLine hrestLine
  refine ⟨hends, ?_, ⟨first, pieces, hcs, hlines⟩, ?_⟩
  · rw [hfolded, removeFolds_append hfirstLine (foldedBefore_head pieces),
      removeFolds_foldedBefore hrestLine, hparts]
  · rw [hlines]
    intro physical hphysical
    rcases List.mem_cons.mp hphysical with rfl | hphysical
    · exact hfirst
    · rcases List.mem_map.mp hphysical with ⟨piece, hpiece, rfl⟩
      have hbound := hpieces piece hpiece
      rw [List.length_cons]
      omega

/-- Forty characters of two bytes: the cut after 75 octets lies inside one. -/
theorem foldLine_folds_odd_cut :
    (removeFolds (foldLine (utf8 (List.replicate 40 'é'))) = utf8 (List.replicate 40 'é')) ∧
      (splitCrlf (foldLine (utf8 (List.replicate 40 'é')) ++ crlf)).map List.length = [74, 7] :=
  ⟨(@foldLine_folds (List.replicate 40 'é') (by decide)).2.1, by decide⟩

end ICalGenerator
end Util
end ServerComponents
