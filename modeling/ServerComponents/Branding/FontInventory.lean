import Mathlib.Data.List.Sort
import ServerComponents.Branding.Site
import ServerComponents.Relational.SideBySide

/-!
# The fonts as served

What a page loads: a stylesheet for each font service in use, the hosts to warm up, and
the uploaded faces.
-/

namespace ServerComponents
namespace Branding

open Relational

structure FontFaceDescriptor where
  family : String
  weight : Int
  style : String
  format : String
  url : String
  deriving Repr, DecidableEq

structure SiteFontInventory where
  stylesheets : List String
  preconnects : List BundleFontPreconnect
  faces : List FontFaceDescriptor
  deriving Repr, DecidableEq

/-!
# Texts
-/

def isTrue (value : String) : Bool :=
  decide (value = "t" ∨ value = "true" ∨ value = "TRUE")

def trimLine (line : List Char) : List Char :=
  ((line.reverse.dropWhile (fun c => c == '\r' || c == ' ')).reverse).dropWhile
    (fun c => c == ' ')

def parsePreconnectLine (line : List Char) : Option BundleFontPreconnect :=
  let line := trimLine line
  let href := String.ofList (line.takeWhile (fun c => c != '|'))
  let flag := String.ofList ((line.dropWhile (fun c => c != '|')).drop 1)
  if line = [] then none
  else if isValidFontSourceUrl href then some ⟨href, isTrue flag⟩
  else none

def parsePreconnectLines (lines : String) : List BundleFontPreconnect :=
  (lines.toList.splitOn '\n').filterMap parsePreconnectLine

def buildFontStylesheetUrl (baseUrl : String) (specs : List String) (querySuffix : String) :
    String :=
  let valid := specs.filter isValidFontSpec
  if isValidFontSourceUrl baseUrl = false ∨ valid = [] then ""
  else
    baseUrl ++ "?" ++ String.intercalate "&" valid ++
      (if querySuffix ≠ "" ∧ isValidFontSpec querySuffix = true then "&" ++ querySuffix else "")

/-!
# Tables
-/

def OrdinalLe (font font' : Nat × SiteFont) : Prop := font.2.ordinal ≤ font'.2.ordinal

instance : DecidableRel OrdinalLe := fun _ _ => inferInstanceAs (Decidable (_ ≤ _))

instance : Std.Total OrdinalLe := ⟨fun font font' => Nat.le_total font.2.ordinal font'.2.ordinal⟩

instance : IsTrans (Nat × SiteFont) OrdinalLe := ⟨fun _ _ _ h h' => Nat.le_trans h h'⟩

/-- `GetActiveFonts`: the ids stand in order already, and the sort is stable. -/
def activeFonts (t : SiteFonts) : List (Nat × SiteFont) :=
  (t.fonts.entries.filter (fun e => e.2.active)).insertionSort OrdinalLe

/-- `sourcesById`: the active source with an id. -/
def activeSource? (t : SiteFonts) (id : String) : Option SiteFontSource :=
  (t.sources.entries.find? (fun e => e.2.active && decide (toString e.2.id = id))).map Prod.snd

def pushSpec (t : SiteFonts) (specs : SortedMap String (List String)) (font : Nat × SiteFont) :
    SortedMap String (List String) :=
  match font.2.fontSourceId with
  | none => specs
  | some id =>
      if font.2.sourceKind = kSiteFontSourceKindCdn ∧ font.2.spec ≠ "" ∧
          (activeSource? t (toString id)).isSome = true then
        specs.set (toString id) ((specs.find? (toString id)).getD [] ++ [font.2.spec])
      else specs

def specsBySource (t : SiteFonts) : SortedMap String (List String) :=
  (activeFonts t).foldl (pushSpec t) SortedMap.empty

def pushPreconnect (preconnects : List BundleFontPreconnect)
    (preconnect : BundleFontPreconnect) : List BundleFontPreconnect :=
  if preconnects.any (fun existing => decide (existing.url = preconnect.url)) then preconnects
  else preconnects ++ [preconnect]

def pushSource (t : SiteFonts) (served : List String × List BundleFontPreconnect)
    (entry : String × List String) : List String × List BundleFontPreconnect :=
  match activeSource? t entry.1 with
  | none => served
  | some source =>
      let url := buildFontStylesheetUrl source.baseUrl entry.2 source.querySuffix
      if url = "" then served
      else
        (served.1 ++ [url],
          (parsePreconnectLines source.preconnectLines).foldl pushPreconnect served.2)

def describeFace (faceUrlPrefix family : String) (face : SiteFontFace) :
    Option FontFaceDescriptor :=
  if isValidFontFamilyName family = false ∨ face.format = "" then none
  else
    some
      { family := family
        weight := face.weight
        style := face.style
        format := face.format
        url := faceUrlPrefix ++ toString face.id }

/-- The order of a family's faces: weight, then style. -/
def FaceLe (face face' : SiteFontFace) : Prop :=
  face.weight < face'.weight ∨ (face.weight = face'.weight ∧ face.style ≤ face'.style)

instance : DecidableRel FaceLe := fun _ _ => inferInstanceAs (Decidable (_ ∨ _))

def servedFaces (faceUrlPrefix : String) (font : Nat × SiteFont) : List FontFaceDescriptor :=
  (font.2.faces.insertionSort FaceLe).filterMap (describeFace faceUrlPrefix font.2.family)

def loadSiteFontInventory (t : SiteFonts) (faceUrlPrefix : String) : SiteFontInventory :=
  let served := (specsBySource t).entries.foldl (pushSource t) ([], [])
  { stylesheets := served.1
    preconnects := served.2
    faces := (activeFonts t).flatMap (servedFaces faceUrlPrefix) }

end Branding
end ServerComponents
