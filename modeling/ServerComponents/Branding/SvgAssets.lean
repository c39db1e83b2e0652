import ServerComponents.Branding.ThemeBundle
import ServerComponents.Images.SvgDocuments

/-!
# SVG assets

An asset of a theme is taken for an SVG image by a text near its front, an upload by its
root element.
-/

namespace ServerComponents
namespace Branding

open Images (HasSvgRoot IsSvgTag Leads Skips isSvgDocument isXmlWhitespace octets withoutMark)

/-!
# Recognised types
-/

/-- The bytes of one of the four raster formats. -/
def isRaster (bytes : FileBytes) : Bool :=
  startsWith bytes [0x89, 0x50, 0x4E, 0x47, 0x0D, 0x0A, 0x1A, 0x0A] ||
    startsWith bytes [0xFF, 0xD8, 0xFF] ||
    (startsWith bytes (asciiBytes "GIF87a") || startsWith bytes (asciiBytes "GIF89a")) ||
    (startsWith bytes (asciiBytes "RIFF") && startsWith (bytes.drop 8) (asciiBytes "WEBP"))

/-- The text `<svg` begins before byte 509. -/
def HasSvgText (bytes : FileBytes) : Prop :=
  exists p, p ≤ 508 ∧ octets "<svg" <+: bytes.drop p

theorem isInfixOf_iff {a : Type} [BEq a] [LawfulBEq a] {part text : List a} :
    isInfixOf part text = true <-> part <:+: text := by
  induction text with
  | nil =>
      unfold isInfixOf
      rw [List.isEmpty_iff, List.infix_nil]
  | cons x rest ih =>
      unfold isInfixOf
      rw [Bool.or_eq_true, List.isPrefixOf_iff_prefix, ih, List.infix_cons_iff]

theorem infix_take_iff {part bytes : FileBytes} {n : Nat} :
    part <:+: bytes.take n <-> exists p, p + part.length ≤ n ∧ part <+: bytes.drop p := by
  constructor
  · intro ⟨before, after, htake⟩
    refine ⟨before.length, ?_, ?_⟩
    · have hlength := congrArg List.length htake
      rw [List.length_append, List.length_append, List.length_take] at hlength
      omega
    · rw [← List.take_append_drop n bytes, ← htake, List.append_assoc, List.append_assoc,
        List.drop_left]
      exact List.prefix_append _ _
  · intro ⟨p, hle, rest, hrest⟩
    have hprefix : bytes.take p ++ part <+: bytes.take n := by
      refine List.prefix_take_iff.mpr ⟨⟨rest, ?_⟩, ?_⟩
      · rw [List.append_assoc, hrest, List.take_append_drop]
      · rw [List.length_append, List.length_take]
        omega
    exact (List.suffix_append _ _).isInfix.trans hprefix.isInfix

theorem hasSvgText_iff (bytes : FileBytes) :
    HasSvgText bytes <-> isInfixOf (asciiBytes "<svg") (bytes.take 512) = true := by
  rw [isInfixOf_iff, infix_take_iff]
  unfold HasSvgText
  apply exists_congr
  intro p
  have hlength : (asciiBytes "<svg").length = 4 := by decide
  rw [hlength]
  exact and_congr_left' (Nat.add_le_add_iff_right (n := 4)).symm

variable {bytes : FileBytes}

theorem imageType_of_raster (h : isRaster bytes = true) :
    imageTypeFromMagicBytes bytes ∈ ["png", "jpeg", "gif", "webp"] := by
  unfold isRaster at h
  unfold imageTypeFromMagicBytes
  split
  case isTrue => decide
  case isFalse hpng =>
    split
    case isTrue => decide
    case isFalse hjpeg =>
      split
      case isTrue => decide
      case isFalse hgif =>
        rw [Bool.eq_false_of_not_eq_true hpng, Bool.eq_false_of_not_eq_true hjpeg,
          Bool.eq_false_of_not_eq_true hgif, Bool.false_or, Bool.false_or, Bool.false_or] at h
        rw [if_pos h]
        decide

theorem imageType_eq (h : isRaster bytes = false) :
    imageTypeFromMagicBytes bytes =
      if isInfixOf (asciiBytes "<svg") (bytes.take 512) then "svg" else "" := by
  unfold isRaster at h
  simp only [Bool.or_eq_false_iff] at h
  obtain ⟨⟨⟨hpng, hjpeg⟩, hgif⟩, hwebp⟩ := h
  unfold imageTypeFromMagicBytes
  rw [hpng, hjpeg, hgif.1, hgif.2, hwebp]
  rfl

theorem isRaster_iff (bytes : FileBytes) : isRaster bytes = true <->
    imageTypeFromMagicBytes bytes ∈ ["png", "jpeg", "gif", "webp"] := by
  constructor
  · exact imageType_of_raster
  · intro h
    by_contra hraster
    rw [imageType_eq (Bool.eq_false_of_not_eq_true hraster)] at h
    split at h
    case isTrue => revert h; decide
    case isFalse => revert h; decide

theorem imageType_of_text (hraster : isRaster bytes = false)
    (htext : HasSvgText bytes) : imageTypeFromMagicBytes bytes = "svg" := by
  rw [imageType_eq hraster]
  exact if_pos ((hasSvgText_iff bytes).mp htext)

theorem imageType_of_other (hraster : isRaster bytes = false)
    (htext : Not (HasSvgText bytes)) : imageTypeFromMagicBytes bytes = "" := by
  rw [imageType_eq hraster]
  exact if_neg (fun h => htext ((hasSvgText_iff bytes).mpr h))

/-!
# Documents
-/

/-- A document type or a root of HTML, in capital or small letters. -/
def IsHtmlStart (text : List UInt8) : Prop :=
  exists start next rest, text = start ++ next :: rest ∧
    start.map (fun b => if 65 ≤ b ∧ b ≤ 90 then b + 32 else b) ∈
      [octets "<!doctype html", octets "<html"] ∧
    (isXmlWhitespace next || next == 62 || next == 47) = true

def IsHtmlDocument (bytes : FileBytes) : Prop :=
  exists text, Leads (withoutMark bytes) text ∧ IsHtmlStart text

/-- What is no raster is an SVG asset if it is an SVG document, and HTML is no image. -/
def OneNotion (bytes : FileBytes) : Prop :=
  imageTypeFromMagicBytes bytes ∉ ["png", "jpeg", "gif", "webp"] ->
    (imageTypeFromMagicBytes bytes = "svg" <-> isSvgDocument bytes = true) ∧
      (IsHtmlDocument bytes -> imageTypeFromMagicBytes bytes = "")

/-- The root is `svg`, and the text is nowhere near the front. -/
def LateRoot (bytes : FileBytes) : Prop := HasSvgRoot bytes ∧ Not (HasSvgText bytes)

/-- The text is near the front, and the root is another one. -/
def StrayText (bytes : FileBytes) : Prop := HasSvgText bytes ∧ Not (HasSvgRoot bytes)

/-- A document type of HTML in front of an `svg` root. -/
def HtmlAroundSvg (bytes : FileBytes) : Prop := IsHtmlDocument bytes ∧ HasSvgRoot bytes

theorem imageType_svg_iff (hraster : isRaster bytes = false) :
    imageTypeFromMagicBytes bytes = "svg" <-> HasSvgText bytes := by
  constructor
  · intro htype
    by_contra htext
    rw [imageType_of_other hraster htext] at htype
    exact absurd htype (by decide)
  · exact imageType_of_text hraster

theorem oneNotion_iff (bytes : FileBytes) : OneNotion bytes <->
    (isRaster bytes = false ->
      Not (LateRoot bytes) ∧ Not (StrayText bytes) ∧ Not (HtmlAroundSvg bytes)) := by
  unfold OneNotion
  rw [← isRaster_iff, Bool.not_eq_true]
  apply forall_congr'
  intro hraster
  rw [imageType_svg_iff hraster, Images.isSvgDocument_iff]
  unfold LateRoot StrayText HtmlAroundSvg
  constructor
  · intro ⟨hsame, hhtml⟩
    refine ⟨?_, ?_, ?_⟩
    · exact fun ⟨hroot, htext⟩ => htext (hsame.mpr hroot)
    · exact fun ⟨htext, hroot⟩ => hroot (hsame.mp htext)
    · intro ⟨hdocument, hroot⟩
      have htype := imageType_of_text hraster (hsame.mpr hroot)
      rw [hhtml hdocument] at htype
      exact absurd htype (by decide)
  · intro ⟨hlate, hstray, haround⟩
    constructor
    · constructor
      · intro htext
        by_contra hroot
        exact hstray ⟨htext, hroot⟩
      · intro hroot
        by_contra htext
        exact hlate ⟨hroot, htext⟩
    · intro hdocument
      apply imageType_of_other hraster
      intro htext
      apply hstray
      exact ⟨htext, fun hroot => haround ⟨hdocument, hroot⟩⟩

def page : FileBytes := asciiBytes "<html><svg></svg></html>"

/-- An HTML page with a drawing is admitted as an image. -/
theorem page_notOneNotion : assetProblem? ("page.svg", page) = none ∧
    imageTypeFromMagicBytes page = "svg" ∧ isSvgDocument page = false ∧
    Not (OneNotion page) := by
  refine ⟨by decide, by decide, by decide, ?_⟩
  intro h
  have hsame := (h (by decide)).1
  revert hsame
  decide

end Branding
end ServerComponents
