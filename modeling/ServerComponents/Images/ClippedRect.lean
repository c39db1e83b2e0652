import ServerComponents.Images.ImageFormats
import Mathlib.Data.Rat.Floor
import Mathlib.Tactic.Linarith
import Mathlib.Tactic.Positivity

/-!
# Clipped rectangles

A rectangle that is too large is scaled to the width or to the height of the clip.  The
other side is the exact one, cut to whole pixels.
-/

namespace ServerComponents
namespace Images

/-- `static_cast<int>` of an exact quotient. -/
def truncated (q : Rat) : Int := q.num.tdiv q.den

def exactSide (side target whole : Int) : Int :=
  truncated ((side : Rat) * ((target : Rat) / (whole : Rat)))

def ImageLibrary.exactly (library : ImageLibrary) : ImageLibrary :=
  { library with scaledSide := exactSide }

/-- Less than a pixel lies between a side and the exact one. -/
def WithinAPixel (exact : Rat) (side : Int) : Prop := |exact - side| < 1

/-- A rectangle of at least one pixel, inside the clip and in the source's proportions. -/
structure Clips (source clip result : Rect) : Prop where
  width_pos : 1 ≤ result.width
  height_pos : 1 ≤ result.height
  width_le : result.width ≤ clip.width
  height_le : result.height ≤ clip.height
  proportions :
    WithinAPixel ((source.height : Rat) * result.width / source.width) result.height ∨
      WithinAPixel ((source.width : Rat) * result.height / source.height) result.width

/-- The side that is derived reaches a pixel. -/
def KeepsPixel (source clip : Rect) : Prop :=
  source.width ≤ source.height * clip.width ∧
    (source.height ≤ source.width * clip.height ∨
      source.height * clip.width < source.width * (clip.height + 1))

/-!
# The derived side
-/

theorem truncated_of_nonneg {q : Rat} (h : 0 ≤ q) : truncated q = ⌊q⌋ := by
  unfold truncated
  rw [Int.tdiv_eq_ediv_of_nonneg (Rat.num_nonneg.mpr h), Rat.floor_def']

theorem exactSide_eq {side target whole : Int} (hside : 0 ≤ side) (htarget : 0 ≤ target)
    (hwhole : 0 < whole) : exactSide side target whole = side * target / whole := by
  have hnonneg : (0 : Rat) ≤ (side : Rat) * ((target : Rat) / (whole : Rat)) := by positivity
  have hquotient : (side : Rat) * ((target : Rat) / (whole : Rat)) =
      ((side * target : Int) : Rat) / ((whole.toNat : Nat) : Rat) := by
    have hcast : ((whole.toNat : Nat) : Rat) = (whole : Rat) := by
      exact_mod_cast Int.toNat_of_nonneg hwhole.le
    rw [hcast, ← mul_div_assoc]
    push_cast
    rfl
  unfold exactSide
  rw [truncated_of_nonneg hnonneg, hquotient, Rat.floor_intCast_div_natCast,
    Int.toNat_of_nonneg hwhole.le]

theorem withinAPixel_quotient (a b : Int) {c : Int} (hc : 0 < c) :
    WithinAPixel ((a : Rat) * b / c) (a * b / c) := by
  have hpos : (0 : Rat) < c := by exact_mod_cast hc
  have hlow : ((a * b / c : Int) : Rat) ≤ (a : Rat) * b / c := by
    rw [le_div_iff₀ hpos]
    exact_mod_cast Int.ediv_mul_le (a * b) hc.ne'
  have hhigh : (a : Rat) * b / c < ((a * b / c : Int) : Rat) + 1 := by
    rw [div_lt_iff₀ hpos]
    exact_mod_cast Int.lt_ediv_add_one_mul_self (a * b) hc
  unfold WithinAPixel
  rw [abs_lt]
  constructor
  · linarith only [hlow]
  · linarith only [hhigh]

section Clipping

variable (library : ImageLibrary) {source clip : Rect}

theorem getClippedRect_cases (hwidth : 0 < source.width) (hheight : 0 < source.height)
    (hclipWidth : 0 < clip.width) (hclipHeight : 0 < clip.height) :
    (source.width ≤ clip.width ∧ source.height ≤ clip.height ∧
        getClippedRect library.exactly source clip = source) ∨
      (clip.width < source.width ∧
        source.height * clip.width / source.width ≤ clip.height ∧
        getClippedRect library.exactly source clip =
          ⟨clip.width, source.height * clip.width / source.width⟩) ∨
      (clip.height < source.height ∧
        (source.width ≤ clip.width ∨
          clip.height < source.height * clip.width / source.width) ∧
        getClippedRect library.exactly source clip =
          ⟨source.width * clip.height / source.height, clip.height⟩) := by
  have hbyWidth : scaleRectToWidth library.exactly source clip.width =
      ⟨clip.width, source.height * clip.width / source.width⟩ := by
    change Rect.mk clip.width (exactSide source.height clip.width source.width) = _
    rw [exactSide_eq hheight.le hclipWidth.le hwidth]
  have hbyHeight : scaleRectToHeight library.exactly source clip.height =
      ⟨source.width * clip.height / source.height, clip.height⟩ := by
    change Rect.mk (exactSide source.width clip.height source.height) clip.height = _
    rw [exactSide_eq hwidth.le hclipHeight.le hheight]
  unfold getClippedRect
  rw [hbyWidth, hbyHeight]
  by_cases hlow : source.height ≤ clip.height
  · by_cases hnarrow : source.width ≤ clip.width
    · rw [if_pos ⟨hlow, hnarrow⟩]
      exact Or.inl ⟨hnarrow, hlow, rfl⟩
    · have hwide : clip.width < source.width := by omega
      have hfits : source.height * clip.width / source.width ≤ clip.height := by
        have hshrunk : source.height * clip.width / source.width ≤ source.height := by
          refine Int.ediv_le_of_le_mul hwidth ?_
          exact Int.mul_le_mul_of_nonneg_left hwide.le hheight.le
        omega
      rw [if_neg (fun hboth => hnarrow hboth.2), if_pos hlow]
      exact Or.inr (Or.inl ⟨hwide, hfits, rfl⟩)
  · have htall : clip.height < source.height := by omega
    rw [if_neg (fun hboth => hlow hboth.1), if_neg hlow]
    by_cases hnarrow : source.width ≤ clip.width
    · rw [if_pos hnarrow]
      exact Or.inr (Or.inr ⟨htall, Or.inl hnarrow, rfl⟩)
    · have hwide : clip.width < source.width := by omega
      rw [if_neg hnarrow]
      dsimp only
      by_cases hfits : source.height * clip.width / source.width ≤ clip.height
      · rw [if_pos hfits]
        exact Or.inr (Or.inl ⟨hwide, hfits, rfl⟩)
      · rw [if_neg hfits]
        exact Or.inr (Or.inr ⟨htall, Or.inr (by omega), rfl⟩)

theorem getClippedRect_clips_iff (hwidth : 0 < source.width) (hheight : 0 < source.height)
    (hclipWidth : 0 < clip.width) (hclipHeight : 0 < clip.height) :
    Clips source clip (getClippedRect library.exactly source clip) <->
      KeepsPixel source clip := by
  have hcases := getClippedRect_cases library hwidth hheight hclipWidth hclipHeight
  unfold KeepsPixel
  rcases hcases with ⟨hnarrow, hlow, heq⟩ | ⟨hwide, hfits, heq⟩ | ⟨htall, hscaled, heq⟩
  · rw [heq]
    have hself : WithinAPixel ((source.height : Rat) * source.width / source.width)
        source.height := by
      have hquotient := withinAPixel_quotient source.height source.width hwidth
      rwa [Int.mul_ediv_cancel _ hwidth.ne'] at hquotient
    constructor
    · intro _
      constructor
      · nlinarith
      · exact Or.inl (by nlinarith)
    · intro _
      exact ⟨hwidth, hheight, hnarrow, hlow, Or.inl hself⟩
  · rw [heq]
    have hreach : 1 ≤ source.height * clip.width / source.width <->
        source.width ≤ source.height * clip.width := by
      rw [Int.le_ediv_iff_mul_le hwidth, Int.one_mul]
    have hbelow : source.height * clip.width < source.width * (clip.height + 1) := by
      rw [Int.mul_comm source.width, ← Int.ediv_lt_iff_lt_mul hwidth]
      omega
    constructor
    · intro h
      exact ⟨hreach.mp h.height_pos, Or.inr hbelow⟩
    · intro h
      exact ⟨hclipWidth, hreach.mpr h.1, Int.le_refl _, hfits,
        Or.inl (withinAPixel_quotient source.height clip.width hwidth)⟩
  · rw [heq]
    have hreach : 1 ≤ source.width * clip.height / source.height <->
        source.height ≤ source.width * clip.height := by
      rw [Int.le_ediv_iff_mul_le hheight, Int.one_mul]
    have habove : source.width * (clip.height + 1) ≤ source.height * clip.width := by
      rcases hscaled with hnarrow | hover
      · nlinarith
      · rw [Int.mul_comm source.width, ← Int.le_ediv_iff_mul_le hwidth]
        omega
    have hfits : source.width * clip.height / source.height ≤ clip.width := by
      refine Int.ediv_le_of_le_mul hheight ?_
      nlinarith
    have hwideEnough : source.width ≤ source.height * clip.width := by nlinarith
    constructor
    · intro h
      exact ⟨hwideEnough, Or.inl (hreach.mp h.width_pos)⟩
    · intro h
      have htallEnough : source.height ≤ source.width * clip.height := by
        rcases h.2 with hside | hbelow
        · exact hside
        · omega
      exact ⟨hreach.mpr htallEnough, hclipHeight, hfits, Int.le_refl _,
        Or.inr (withinAPixel_quotient source.width clip.height hheight)⟩

end Clipping

def noCodecs : ImageLibrary where
  getImageDimensions := fun _ _ => .error (.runtimeError "unreadable")
  resizeImage := fun _ _ _ _ => .error (.runtimeError "unreadable")
  scaledSide := exactSide

/-- The height decides, and the width is derived. -/
theorem tall_clips : Clips ⟨12, 20⟩ ⟨8, 10⟩
    (getClippedRect noCodecs.exactly ⟨12, 20⟩ ⟨8, 10⟩) :=
  (getClippedRect_clips_iff noCodecs (by decide) (by decide) (by decide) (by decide)).mpr
    (by unfold KeepsPixel; decide)

/-- A banner of a thousand pixels loses its only line. -/
theorem banner_notClips : Not (Clips ⟨1000, 1⟩ ⟨800, 800⟩
    (getClippedRect noCodecs.exactly ⟨1000, 1⟩ ⟨800, 800⟩)) := by
  intro h
  have hheight := h.height_pos
  have hlost : exactSide 1 800 1000 = 0 := by
    rw [exactSide_eq (by decide) (by decide) (by decide)]
    rfl
  change 1 ≤ exactSide 1 800 1000 at hheight
  rw [hlost] at hheight
  contradiction

end Images
end ServerComponents
