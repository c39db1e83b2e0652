import ServerComponents.Basics
import ServerComponents.Branding.ThemeBundle
import ServerComponents.Rest.Json

/-!
# Theme bundles in JSON

A theme file is rewritten to the current format and then read.  No reader throws: what has
the wrong type is read as a neighbouring spelling or as nothing.
-/

namespace ServerComponents
namespace Branding

open Relational
open Rest (Json)

/-- `std::atoi`: `strtol`, which stops at the bounds of a `long`, cut to 32 bits. -/
def atoi (text : String) : Int :=
  let (negative, digits) := scanInteger text.toList
  let v : Int := if negative then - decimal digits else decimal digits
  toInt32 (max (-9223372036854775808) (min v 9223372036854775807))

def valueAsString : Json -> String
  | .str text => text
  | .int number => toString number
  | .bool flag => if flag then "true" else "false"
  | _ => ""

def fieldString (object : Json) (name : String) : String :=
  match object.child? name with
  | some field => valueAsString field
  | none => ""

def fieldInt (object : Json) (name : String) (fallback : Int) : Int :=
  match object.child? name with
  | none => fallback
  | some (.int number) => toInt32 number
  | some field =>
      let text := valueAsString field
      if text = "" then fallback else atoi text

def fieldBool (object : Json) (name : String) (fallback : Bool) : Bool :=
  match object.child? name with
  | none => fallback
  | some (.bool flag) => flag
  | some field =>
      let text := valueAsString field
      decide (text = "true" ∨ text = "t" ∨ text = "1")

/-- The members of an object, nothing for another value. -/
def membersOf : Option Json -> List (String × Json)
  | some (.obj children) => children
  | _ => []

def elementsOf : Option Json -> List Json
  | some (.arr values) => values
  | _ => []

def isLabelledLinksSlot (key : String) : Bool := decide (key = "site_social_links")

def packLines (lines : List String) : String := String.intercalate "\n" lines

/-- A link without a URL packs without a bar. -/
def packLabelledLink (entry : Json) : String :=
  let label := if entry.hasChildren then fieldString entry "label" else valueAsString entry
  let url := if entry.hasChildren then fieldString entry "url" else ""
  if url = "" then label else label ++ "|" ++ url

/-!
# Migration
-/

structure BundleMigration where
  src : Int
  dst : Int
  description : String
  apply : Json -> Json

def kCurrentFormatVersion : Int := 1
def kOldestSupportedFormatVersion : Int := 1

/-- The chain is empty: the first published format is the current one. -/
def bundleMigrations : List BundleMigration := []

def versionOf (json : Json) : Int :=
  match json.child? "format_version" with
  | some (.int number) => toInt32 number
  | some (.str text) => atoi text
  | _ => 0

/-- The steps of the chain that fit, in turn. -/
def runMigrations (migrations : List BundleMigration) (start : Json × Int × List String) :
    Json × Int × List String :=
  migrations.foldl (fun (json, version, applied) migration =>
    if migration.src = version then
      (migration.apply json, migration.dst, applied ++ [migration.description])
    else (json, version, applied)) start

/-- `json[key] = value` of an object. -/
def assignMember (json : Json) (key : String) (value : Json) : Json :=
  match json with
  | .obj children => .obj (SortedMap.setEntry key value children)
  | json => json

/-- The rewritten document with the steps applied, or the reason to refuse it. -/
def migrateFrom (json : Json) (version : Int) : Except String (Json × List String) :=
  if version ≤ 0 then .error "That theme file does not say which format version it is."
  else if kCurrentFormatVersion < version then
    .error ("That theme file was made by a newer version of this site (format " ++
      toString version ++ ", this build understands " ++ toString kCurrentFormatVersion ++ ").")
  else if version < kOldestSupportedFormatVersion then
    .error ("That theme file is too old to be read (format " ++ toString version ++ ").")
  else
    let (json, version, applied) := runMigrations bundleMigrations (json, version, [])
    if version ≠ kCurrentFormatVersion then
      .error ("This build cannot migrate that theme file (stopped at format " ++
        toString version ++ ").")
    else .ok (assignMember json "format_version" (.int version), applied)

def migrateBundleJson (json : Json) : Except String (Json × List String) :=
  migrateFrom json (versionOf json)

/-!
# Reading
-/

def kThemeBundleFormat : String := "honuware.site-theme"

def readBundleFormatVersion (json : Json) : Int := fieldInt json "format_version" 0

def contentValue (key : String) (value : Json) : String :=
  match value with
  | .arr entries =>
      packLines (entries.map (if isLabelledLinksSlot key then packLabelledLink
        else valueAsString))
  | value => valueAsString value

/-- A map from the members of an object, a later one over an earlier one. -/
def readMembers {value : Type} (read : String -> Json -> value)
    (members : List (String × Json)) : SortedMap String value :=
  members.foldl (fun m e => m.set e.1 (read e.1 e.2)) SortedMap.empty

def readPreconnect (p : Json) : BundleFontPreconnect where
  url := fieldString p "url"
  crossorigin := fieldBool p "crossorigin" false

def readSource (entry : Json) : BundleFontSource where
  sourceKey := fieldString entry "source_key"
  displayName := fieldString entry "display_name"
  baseUrl := fieldString entry "base_url"
  querySuffix := fieldString entry "query_suffix"
  preconnects := (elementsOf (entry.child? "preconnects")).map readPreconnect

def readFace (f : Json) : BundleFontFace where
  weight := fieldInt f "weight" 400
  style := fieldString f "style"
  file := fieldString f "file"

def readFamily (entry : Json) : BundleFontFamily where
  family := fieldString entry "family"
  fallback := fieldString entry "fallback"
  sourceKind := fieldString entry "source_kind"
  sourceKey := fieldString entry "source_key"
  spec := fieldString entry "spec"
  faces := (elementsOf (entry.child? "faces")).map readFace

/-- The members of the document that no app owns. -/
def reservedMembers : List String :=
  ["format", "format_version", "name", "description", "exported_at", "exported_from",
    "theme", "fonts"]

/-- The bundle without its files, or the reason to refuse the document. -/
def themeBundleFromJson (json : Json) : Except String (ThemeBundle Json) :=
  if json.hasChildren = false then .error "That file is not a theme bundle."
  else
    let format := fieldString json "format"
    if format ≠ kThemeBundleFormat then
      .error ("That file is not a theme bundle (format is \"" ++ format ++ "\").")
    else
      let theme := json.child? "theme"
      let fonts := json.child? "fonts"
      .ok
        { content := readMembers contentValue
            (membersOf (theme.bind (fun theme => theme.child? "content")))
          tokens := readMembers (fun _ value => valueAsString value)
            (membersOf (theme.bind (fun theme => theme.child? "tokens")))
          sources := (elementsOf (fonts.bind (fun fonts => fonts.child? "sources"))).map
            readSource
          families := (elementsOf (fonts.bind (fun fonts => fonts.child? "families"))).map
            readFamily
          appSections := readMembers (fun _ body => body)
            ((membersOf (some json)).filter (fun e => decide (e.1 ∉ reservedMembers)))
          assets := SortedMap.empty }

end Branding
end ServerComponents
