import ServerComponents.Basics
import Mathlib.Data.List.Infix

/-!
# Image formats

Rasters are decoded and resized by a library.  A vector is known by its label and by the
text in front of its root element.
-/

namespace ServerComponents
namespace Images

inductive ImageType where
  | bmp
  | jpeg
  | png
  deriving Repr, DecidableEq

structure Rect where
  width : Int
  height : Int
  deriving Repr, DecidableEq

structure PhotoData where
  bytes : List UInt8
  type : String
  width : Int
  height : Int
  lastUpdatedAtUs : Int
  deriving Repr, DecidableEq

/-- The codecs, and `static_cast<int>(side * (target / whole))` in doubles. -/
structure ImageLibrary where
  getImageDimensions : List UInt8 -> ImageType -> Except Exn Rect
  resizeImage : List UInt8 -> Int -> Int -> ImageType -> Except Exn (List UInt8)
  scaledSide : Int -> Int -> Int -> Int

/-!
# Rectangles
-/

section Rectangles

variable (library : ImageLibrary)

def scaleRectToWidth (rect : Rect) (width : Int) : Rect where
  width := width
  height := library.scaledSide rect.height width rect.width

def scaleRectToHeight (rect : Rect) (height : Int) : Rect where
  width := library.scaledSide rect.width height rect.height
  height := height

def getClippedRect (inputRect clippedRect : Rect) : Rect :=
  if inputRect.height ≤ clippedRect.height ∧ inputRect.width ≤ clippedRect.width then
    inputRect
  else if inputRect.height ≤ clippedRect.height then
    scaleRectToWidth library inputRect clippedRect.width
  else if inputRect.width ≤ clippedRect.width then
    scaleRectToHeight library inputRect clippedRect.height
  else
    let result := scaleRectToWidth library inputRect clippedRect.width
    if result.height ≤ clippedRect.height then result
    else scaleRectToHeight library inputRect clippedRect.height

/-- A raster that is too large is resized; its type has been looked up before. -/
def enforceMaxDimensions (imageBytes : List UInt8) (imageType : String)
    (imageTypeEnum : ImageType) (maxWidth maxHeight : Int) : Except Exn PhotoData := do
  let dims ← library.getImageDimensions imageBytes imageTypeEnum
  if dims.width ≤ maxWidth ∧ dims.height ≤ maxHeight then
    pure { bytes := imageBytes, type := imageType, width := dims.width
           height := dims.height, lastUpdatedAtUs := 0 }
  else
    let clipped := getClippedRect library dims { width := maxWidth, height := maxHeight }
    let bytes ← library.resizeImage imageBytes clipped.width clipped.height imageTypeEnum
    pure { bytes := bytes, type := imageType, width := clipped.width
           height := clipped.height, lastUpdatedAtUs := 0 }

end Rectangles

/-!
# Labels
-/

def imageTypeFromString (type : String) : Option ImageType :=
  if type = "jpeg" ∨ type = "jpg" then some .jpeg
  else if type = "png" then some .png
  else if type = "bmp" then some .bmp
  else none

def subtypeOf (type : String) : List Char :=
  (type.toList.reverse.takeWhile (fun c => c != '/')).reverse

def isVectorType (type : String) : Bool :=
  subtypeOf type == "svg".toList || subtypeOf type == "svg+xml".toList

/-!
# Documents
-/

def octets (text : String) : List UInt8 :=
  text.toList.map (fun c => UInt8.ofNat c.toNat)

def isXmlWhitespace (b : UInt8) : Bool := b == 32 || b == 9 || b == 13 || b == 10

/-- What is left behind the first occurrence of a text. -/
def behind (close : List UInt8) : List UInt8 -> Option (List UInt8)
  | [] => none
  | b :: rest =>
      if close.isPrefixOf (b :: rest) then some ((b :: rest).drop close.length)
      else behind close rest

def skipDelimited (opening close rest : List UInt8) : Option (List UInt8) :=
  if opening.isPrefixOf rest then behind close (rest.drop opening.length) else none

/-- The end of a document type is the first `>` behind its internal subset, if it has
one. -/
def skipDoctype (rest : List UInt8) : Option (List UInt8) :=
  let kOpen := octets "<!DOCTYPE"
  if kOpen.isPrefixOf rest then
    let body := rest.drop kOpen.length
    match body.idxOf? 91, body.idxOf? 62 with
    | some subset, none => (behind [93] (body.drop subset)).bind (behind [62])
    | some subset, some ending =>
        if subset < ending then (behind [93] (body.drop subset)).bind (behind [62])
        else behind [62] body
    | none, _ => behind [62] body
  else none

/-- The three constructs that may stand in front of the root. -/
def skipConstruct (rest : List UInt8) : Option (List UInt8) :=
  (skipDelimited (octets "<?") (octets "?>") rest).or
    ((skipDelimited (octets "<!--") (octets "-->") rest).or (skipDoctype rest))

/-- Each round takes a construct away, so one for each byte is enough. -/
def skipProlog : Nat -> List UInt8 -> List UInt8
  | 0, rest => rest
  | rounds + 1, rest =>
      let rest := rest.dropWhile isXmlWhitespace
      match skipConstruct rest with
      | some behindIt => skipProlog rounds behindIt
      | none => rest

def isSvgDocument (bytes : List UInt8) : Bool :=
  let kUtf8ByteOrderMark : List UInt8 := [239, 187, 191]
  let rest := if kUtf8ByteOrderMark.isPrefixOf bytes then bytes.drop 3 else bytes
  let root := skipProlog (rest.length + 1) rest
  let kRoot := octets "<svg"
  if kRoot.isPrefixOf root then
    match root.drop kRoot.length with
    | [] => false
    | next :: _ => isXmlWhitespace next || next == 62 || next == 47
  else false

theorem behind_length {close rest left : List UInt8} (h : behind close rest = some left) :
    left.length ≤ rest.length := by
  induction rest with
  | nil => cases h
  | cons b rest ih =>
      unfold behind at h
      split at h
      · cases h
        simp
      · exact Nat.le_succ_of_le (ih h)

theorem skipDelimited_length {opening close rest left : List UInt8} (hopening : opening ≠ [])
    (h : skipDelimited opening close rest = some left) : left.length < rest.length := by
  unfold skipDelimited at h
  split at h
  · rename_i hprefix
    have hle := (List.isPrefixOf_iff_prefix.mp hprefix).length_le
    have hpos := List.length_pos_iff.mpr hopening
    have hleft := behind_length h
    rw [List.length_drop] at hleft
    omega
  · cases h

theorem skipDoctype_length {rest left : List UInt8} (h : skipDoctype rest = some left) :
    left.length < rest.length := by
  unfold skipDoctype at h
  dsimp only at h
  split at h
  · rename_i hprefix
    have hle := (List.isPrefixOf_iff_prefix.mp hprefix).length_le
    have hpos : 0 < (octets "<!DOCTYPE").length := by decide
    have hbody : (rest.drop (octets "<!DOCTYPE").length).length < rest.length := by
      rw [List.length_drop]
      omega
    have hsubset : forall subset,
        (behind [93] ((rest.drop (octets "<!DOCTYPE").length).drop subset)).bind
          (behind [62]) = some left -> left.length < rest.length := by
      intro subset hbind
      rcases Option.bind_eq_some_iff.mp hbind with ⟨mid, hmid, hend⟩
      have hdrop := behind_length hmid
      have hlast := behind_length hend
      rw [List.length_drop] at hdrop
      omega
    split at h
    · exact hsubset _ h
    · split at h
      · exact hsubset _ h
      · exact (behind_length h).trans_lt hbody
    · exact (behind_length h).trans_lt hbody
  · cases h

theorem skipConstruct_length {rest left : List UInt8} (h : skipConstruct rest = some left) :
    left.length < rest.length := by
  unfold skipConstruct at h
  rcases Option.or_eq_some_iff.mp h with hfirst | ⟨_, h⟩
  · exact skipDelimited_length (by decide) hfirst
  · rcases Option.or_eq_some_iff.mp h with hsecond | ⟨_, hthird⟩
    · exact skipDelimited_length (by decide) hsecond
    · exact skipDoctype_length hthird

end Images
end ServerComponents
