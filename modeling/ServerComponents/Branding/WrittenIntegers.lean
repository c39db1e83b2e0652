import ServerComponents.Branding.ThemeDocument
import ServerComponents.Branding.ThemeImport

/-!
# Integers of a theme file

An integer is cut to 32 bits when it is read, and a text is read up to the first character
that is no digit.
-/

namespace ServerComponents
namespace Branding

open Relational
open Rest (Json)

def leadingInteger (text : String) : Int :=
  let (negative, digits) := scanInteger text.toList
  if negative then - decimal digits else decimal digits

/-- The bounds at which `strtol` stops. -/
def clampLong (v : Int) : Int :=
  max (-9223372036854775808) (min v 9223372036854775807)

theorem atoi_eq (text : String) : atoi text = toInt32 (clampLong (leadingInteger text)) := rfl

/-- Spaces, a sign and digits, with nothing behind them. -/
def isNumeral (text : String) : Bool :=
  match text.toList.dropWhile isSpace with
  | '-' :: rest => !rest.isEmpty && rest.all Char.isDigit
  | '+' :: rest => !rest.isEmpty && rest.all Char.isDigit
  | rest => !rest.isEmpty && rest.all Char.isDigit

/-- The integer that a member says, if it says one. -/
def writtenInteger : Option Json -> Option Int
  | some (.int number) => some number
  | some (.str text) => if isNumeral text then some (leadingInteger text) else none
  | _ => none

/-!
# Versions
-/

theorem migrateBundleJson_eq (json : Json) :
    migrateBundleJson json = migrateFrom json (versionOf json) := rfl

def writtenFormatVersion (json : Json) : Int :=
  (writtenInteger (json.child? "format_version")).getD 0

/-- The migration and the reader take the version that the document says. -/
def TakesVersion (json : Json) : Prop :=
  migrateBundleJson json = migrateFrom json (writtenFormatVersion json) ∧
    readBundleFormatVersion json = writtenFormatVersion json

theorem TakesVersion.refused {json : Json} (h : TakesVersion json)
    (hnewer : kCurrentFormatVersion < writtenFormatVersion json) :
    exists reason, migrateBundleJson json = .error reason := by
  have hpos : Not (writtenFormatVersion json ≤ 0) := by
    unfold kCurrentFormatVersion at hnewer
    omega
  rw [h.1]
  unfold migrateFrom
  rw [if_neg hpos, if_pos hnewer]
  exact ⟨_, rfl⟩

/-- The version fits 32 bits, and a text is a numeral or is read as no version. -/
def VersionFits (json : Json) : Prop :=
  match json.child? "format_version" with
  | some (.int number) => IsInt32 number
  | some (.str text) =>
      if isNumeral text then IsInt32 (leadingInteger text)
      else (4294967296 : Int) ∣ clampLong (leadingInteger text)
  | _ => True

/-!
# Weights
-/

def writtenWeight : Option Json -> Option Int
  | some (.real written _) => if written.den = 1 then some written.num else none
  | field => writtenInteger field

/-- A number, or a text that is not empty. -/
def IsSaid : Json -> Prop
  | .real _ _ => True
  | field => valueAsString field ≠ ""

/-- The face has a weight that is not left to the default. -/
def SaysWeight (face : Json) : Prop :=
  exists field, face.child? "weight" = some field ∧ IsSaid field

/-- A face that is kept says a weight that is usable, and is stored with it. -/
def TakesWeight (face : Json) : Prop :=
  forall bundle : ThemeBundle Json, SaysWeight face -> faceReason bundle (readFace face) = "" ->
    exists weight, writtenWeight (face.child? "weight") = some weight ∧
      1 ≤ weight ∧ weight ≤ 1000 ∧
      forall (family : BundleFontFamily) (nextFaceId : Nat),
        (facesOf bundle { family with faces := [readFace face] } nextFaceId).map
          SiteFontFace.weight = [weight]

/-- A weight that is usable after it has been cut is usable as it stands, and a `double` is
the default. -/
def WeightFits (face : Json) : Prop :=
  match face.child? "weight" with
  | some (.int number) =>
      1 ≤ number % 4294967296 ∧ number % 4294967296 ≤ 1000 -> 1 ≤ number ∧ number ≤ 1000
  | some (.str text) =>
      text ≠ "" -> 1 ≤ clampLong (leadingInteger text) % 4294967296 ∧
        clampLong (leadingInteger text) % 4294967296 ≤ 1000 ->
      isNumeral text = true ∧ 1 ≤ leadingInteger text ∧ leadingInteger text ≤ 1000
  | some (.real written _) => written = 400
  | _ => True

def facesIn (json : Json) : List Json :=
  (elementsOf ((json.child? "fonts").bind (fun fonts => fonts.child? "families"))).flatMap
    (fun family => elementsOf (family.child? "faces"))

def TakesIntegers (json : Json) : Prop :=
  TakesVersion json ∧ forall face, face ∈ facesIn json -> TakesWeight face

def IntegersFit (json : Json) : Prop :=
  VersionFits json ∧ forall face, face ∈ facesIn json -> WeightFits face

/-!
# Cutting
-/

theorem isInt32_toInt32 (v : Int) : IsInt32 (toInt32 v) := by
  unfold IsInt32 toInt32 Int.bmod
  dsimp only
  split
  · omega
  · omega

theorem toInt32_eq_self_iff (v : Int) : toInt32 v = v <-> IsInt32 v := by
  constructor
  · intro h
    rw [← h]
    exact isInt32_toInt32 v
  · exact toInt32_of_isInt32

theorem toInt32_eq_zero_iff (v : Int) : toInt32 v = 0 <-> (4294967296 : Int) ∣ v := by
  unfold toInt32 Int.bmod
  dsimp only
  split
  · omega
  · omega

theorem toInt32_usable_iff (v : Int) : (1 ≤ toInt32 v ∧ toInt32 v ≤ 1000) <->
    (1 ≤ v % 4294967296 ∧ v % 4294967296 ≤ 1000) := by
  unfold toInt32 Int.bmod
  dsimp only
  split
  · omega
  · omega

theorem clampLong_of_isInt32 {v : Int} (h : IsInt32 v) : clampLong v = v := by
  unfold IsInt32 at h
  unfold clampLong
  omega

theorem atoi_eq_leading_iff (text : String) :
    atoi text = leadingInteger text <-> IsInt32 (leadingInteger text) := by
  rw [atoi_eq]
  constructor
  · intro h
    rw [← h]
    exact isInt32_toInt32 _
  · intro h
    rw [clampLong_of_isInt32 h]
    exact toInt32_of_isInt32 h

/-!
# The version
-/

theorem readBundleFormatVersion_eq (json : Json) :
    readBundleFormatVersion json = versionOf json := by
  unfold readBundleFormatVersion fieldInt versionOf
  cases hfield : json.child? "format_version" with
  | none => rfl
  | some field =>
    cases field with
    | int number => rfl
    | bool flag =>
      cases flag with
      | false => decide
      | true => decide
    | null => rfl
    | arr values => rfl
    | obj children => rfl
    | real written shown => rfl
    | str text =>
      show (if text = "" then (0 : Int) else atoi text) = atoi text
      by_cases hempty : text = ""
      case pos =>
        rw [hempty, if_pos rfl]
        decide
      case neg => rw [if_neg hempty]

theorem takesVersion_iff_versionOf (json : Json) :
    TakesVersion json <-> versionOf json = writtenFormatVersion json := by
  unfold TakesVersion
  rw [migrateBundleJson_eq, readBundleFormatVersion_eq]
  constructor
  · exact fun h => h.2
  · intro h
    rw [h]
    exact ⟨rfl, rfl⟩

theorem takesVersion_iff (json : Json) : TakesVersion json <-> VersionFits json := by
  rw [takesVersion_iff_versionOf]
  unfold writtenFormatVersion VersionFits versionOf
  cases hfield : json.child? "format_version" with
  | none => exact iff_of_true rfl trivial
  | some field =>
    cases field with
    | int number => exact toInt32_eq_self_iff number
    | bool flag => exact iff_of_true rfl trivial
    | null => exact iff_of_true rfl trivial
    | arr values => exact iff_of_true rfl trivial
    | obj children => exact iff_of_true rfl trivial
    | real written shown => exact iff_of_true rfl trivial
    | str text =>
      dsimp only [writtenInteger]
      by_cases hnumeral : isNumeral text = true
      case pos =>
        rw [if_pos hnumeral, if_pos hnumeral]
        exact atoi_eq_leading_iff text
      case neg =>
        rw [if_neg hnumeral, if_neg hnumeral, atoi_eq]
        exact toInt32_eq_zero_iff _

/-!
# The weight of a face
-/

/-- A bundle that holds an OpenType font under every name it is asked for. -/
def fontBundle (file : String) : ThemeBundle Json :=
  { content := SortedMap.empty
    tokens := SortedMap.empty
    sources := []
    families := []
    appSections := SortedMap.empty
    assets := SortedMap.empty.set file (asciiBytes "OTTO") }

theorem faceReason_fontBundle (face : BundleFontFace)
    (h : 1 ≤ face.weight ∧ face.weight ≤ 1000) : faceReason (fontBundle face.file) face = "" := by
  have hin : Not (face.weight < 1 ∨ 1000 < face.weight) := by omega
  have hfound : (fontBundle face.file).assets.find? face.file = some (asciiBytes "OTTO") :=
    SortedMap.find?_set_self _ _ _
  have hfont : Not (fontFormatFromMagicBytes (asciiBytes "OTTO") = "") := by decide
  unfold faceReason
  rw [if_neg hin, hfound]
  exact if_neg hfont

theorem usable_of_faceReason {bundle : ThemeBundle Json} {face : BundleFontFace}
    (h : faceReason bundle face = "") :
    (1 ≤ face.weight ∧ face.weight ≤ 1000) ∧
      exists bytes, bundle.assets.find? face.file = some bytes := by
  unfold faceReason at h
  split at h
  case isTrue hout =>
    simp at h
  case isFalse hin =>
    cases hfound : bundle.assets.find? face.file with
    | none =>
      rw [hfound] at h
      simp at h
    | some bytes => exact ⟨by omega, bytes, rfl⟩

theorem weights_facesOf {bundle : ThemeBundle Json} {face : BundleFontFace} {bytes : FileBytes}
    (hfound : bundle.assets.find? face.file = some bytes) (family : BundleFontFamily)
    (nextFaceId : Nat) :
    (facesOf bundle { family with faces := [face] } nextFaceId).map SiteFontFace.weight =
      [face.weight] := by
  unfold facesOf
  dsimp only
  rw [List.filterMap_cons, hfound]
  rfl

theorem takesWeight_iff_usable (face : Json) : TakesWeight face <->
    (SaysWeight face -> 1 ≤ (readFace face).weight ∧ (readFace face).weight ≤ 1000 ->
      writtenWeight (face.child? "weight") = some (readFace face).weight) := by
  constructor
  · intro htakes hnonempty husable
    have hgood := faceReason_fontBundle (readFace face) husable
    obtain ⟨weight, hwritten, _, _, hrows⟩ :=
      htakes (fontBundle (readFace face).file) hnonempty hgood
    obtain ⟨_, bytes, hfound⟩ := usable_of_faceReason hgood
    have hrow := hrows ⟨"", "", "", "", "", []⟩ 0
    rw [weights_facesOf hfound] at hrow
    rw [hwritten]
    exact congrArg some (List.cons.inj hrow).1.symm
  · intro hread bundle hnonempty hgood
    obtain ⟨husable, bytes, hfound⟩ := usable_of_faceReason hgood
    exact ⟨_, hread hnonempty husable, husable.1, husable.2, weights_facesOf hfound⟩

theorem valueAsString_int (number : Int) : valueAsString (.int number) ≠ "" := by
  cases number with
  | ofNat n => exact Nat.repr_ne_empty
  | negSucc n =>
    show "-" ++ Nat.repr (n + 1) ≠ ""
    simp

theorem kept_int_iff (number : Int) :
    (1 ≤ toInt32 number ∧ toInt32 number ≤ 1000 -> number = toInt32 number) <->
      (1 ≤ number % 4294967296 ∧ number % 4294967296 ≤ 1000 -> 1 ≤ number ∧ number ≤ 1000) := by
  rw [toInt32_usable_iff]
  apply forall_congr'
  intro husable
  constructor
  · intro h
    rw [h]
    exact (toInt32_usable_iff number).mpr husable
  · intro h
    refine (toInt32_of_isInt32 ?_).symm
    unfold IsInt32
    omega

theorem kept_str_iff (text : String) :
    (1 ≤ atoi text ∧ atoi text ≤ 1000 -> writtenInteger (some (.str text)) = some (atoi text)) <->
      (1 ≤ clampLong (leadingInteger text) % 4294967296 ∧
        clampLong (leadingInteger text) % 4294967296 ≤ 1000 ->
          isNumeral text = true ∧ 1 ≤ leadingInteger text ∧ leadingInteger text ≤ 1000) := by
  rw [atoi_eq, toInt32_usable_iff]
  apply forall_congr'
  intro husable
  unfold writtenInteger
  dsimp only
  constructor
  · intro h
    split at h
    case isTrue hnumeral =>
      have hleading := Option.some.inj h
      rw [hleading]
      exact ⟨hnumeral, (toInt32_usable_iff _).mpr husable⟩
    case isFalse => cases h
  · intro ⟨hnumeral, hlow, hhigh⟩
    have hfits : IsInt32 (leadingInteger text) := by
      unfold IsInt32
      omega
    rw [if_pos hnumeral, clampLong_of_isInt32 hfits, toInt32_of_isInt32 hfits]

theorem saysWeight_iff {face field : Json} (hfield : face.child? "weight" = some field) :
    SaysWeight face <-> IsSaid field := by
  unfold SaysWeight
  rw [hfield]
  constructor
  · intro ⟨_, hsame, hsays⟩
    cases hsame
    exact hsays
  · intro hsays
    exact ⟨field, rfl, hsays⟩

theorem weight_of_text {face field : Json} (hfield : face.child? "weight" = some field)
    (hnonempty : valueAsString field ≠ "") (hint : forall number, field ≠ .int number) :
    (readFace face).weight = atoi (valueAsString field) := by
  show fieldInt face "weight" 400 = _
  unfold fieldInt
  rw [hfield]
  cases field with
  | int number => exact absurd rfl (hint number)
  | real written shown => exact absurd rfl hnonempty
  | bool flag => exact if_neg hnonempty
  | null => exact if_neg hnonempty
  | arr values => exact if_neg hnonempty
  | obj children => exact if_neg hnonempty
  | str text => exact if_neg hnonempty

theorem weight_of_real {face : Json} {written : Rat} {shown : String}
    (hfield : face.child? "weight" = some (.real written shown)) :
    (readFace face).weight = 400 := by
  show fieldInt face "weight" 400 = _
  unfold fieldInt
  rw [hfield]
  rfl

theorem writtenWeight_real (written : Rat) (shown : String) (weight : Int) :
    writtenWeight (some (.real written shown)) = some weight <-> written = weight := by
  unfold writtenWeight
  dsimp only
  constructor
  · intro h
    split at h
    case isTrue hden =>
      cases h
      exact Rat.ext rfl hden
    case isFalse => cases h
  · intro h
    rw [h, if_pos (Rat.den_intCast weight), Rat.num_intCast]

theorem weight_of_int {face : Json} {number : Int}
    (hfield : face.child? "weight" = some (.int number)) :
    (readFace face).weight = toInt32 number := by
  show fieldInt face "weight" 400 = _
  unfold fieldInt
  rw [hfield]

theorem takesWeight_iff (face : Json) : TakesWeight face <-> WeightFits face := by
  rw [takesWeight_iff_usable]
  unfold WeightFits
  cases hfield : face.child? "weight" with
  | none =>
    refine iff_of_true ?_ trivial
    intro ⟨_, h, _⟩
    rw [hfield] at h
    cases h
  | some field =>
    rw [saysWeight_iff hfield]
    cases field with
    | int number =>
      rw [weight_of_int hfield]
      refine Iff.trans ?_ (kept_int_iff number)
      constructor
      · intro h husable
        exact Option.some.inj (h (valueAsString_int number) husable)
      · intro h _ husable
        exact congrArg some (h husable)
    | bool flag =>
      refine iff_of_true ?_ trivial
      intro hsays husable
      rw [weight_of_text hfield hsays (fun _ h => nomatch h)] at husable
      refine absurd husable ?_
      cases flag with
      | false => decide
      | true => decide
    | null => exact iff_of_true (fun hsays => absurd rfl hsays) trivial
    | arr values => exact iff_of_true (fun hsays => absurd rfl hsays) trivial
    | obj children => exact iff_of_true (fun hsays => absurd rfl hsays) trivial
    | real written shown =>
      rw [weight_of_real hfield, writtenWeight_real]
      exact ⟨fun h => h trivial (by decide), fun h _ _ => h⟩
    | str text =>
      show (text ≠ "" -> _) <-> _
      apply forall_congr'
      intro hnonempty
      rw [weight_of_text hfield hnonempty (fun _ h => nomatch h)]
      exact kept_str_iff text

def newerFormat : Json :=
  .obj [("format", .str "honuware.site-theme"), ("format_version", .int 4294967297)]

end Branding
end ServerComponents
