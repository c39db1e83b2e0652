import ServerComponents.Branding.ThemeFile
import Mathlib.Logic.Equiv.List

/-!
# Theme files

A theme file is a flat archive: the document first, then one entry for each file.  What
the library says of an uploaded archive is arbitrary; nothing is read that is declared too
large.
-/

namespace ServerComponents
namespace Branding

open Relational
open Rest (Json)

def kThemeBundleJsonName : String := "theme.json"
def kMaxBundleJsonBytes : Nat := 1024 * 1024

/-!
# Archives
-/

/-- `zip_stat_index`: the name, empty where the library has none, and the declared size. -/
structure ZipStat where
  name : String
  size : Option Nat
  deriving Repr, DecidableEq

/-- An entry: its stat, whether it can be opened, and what a read gives. -/
structure ZipEntry where
  stat : Option ZipStat
  opens : Bool
  content : Option FileBytes
  deriving Repr, DecidableEq

inductive ZipOpened where
  | noSource
  | notZip
  | noEntries
  | archive (entries : List ZipEntry)
  deriving Repr, DecidableEq

/-- `libzip`: an archive of entries in their order, and the entries of an archive. -/
structure ZipLibrary where
  pack : List (String × FileBytes) -> Option FileBytes
  read : FileBytes -> ZipOpened

def storedEntry (file : String × FileBytes) : ZipEntry where
  stat := some ⟨file.1, some file.2.length⟩
  opens := true
  content := some file.2

/-- Entries come out as they went in, and no two have one name. -/
structure ZipLibrary.Faithful (zip : ZipLibrary) : Prop where
  packs : forall entries, (entries.map Prod.fst).Nodup -> exists bytes,
    zip.pack entries = some bytes ∧ bytes ≠ [] ∧
      zip.read bytes = .archive (entries.map storedEntry)
  refuses : forall entries, Not ((entries.map Prod.fst).Nodup) -> zip.pack entries = none

/-!
# Writing
-/

def themeBundleToZip (zip : ZipLibrary) (options : ThemeBundleExportOptions)
    (bundle : ThemeBundle Json) : FileBytes :=
  if bundle.assets.entries.all (fun asset => isValidBundleAssetName asset.1) then
    (zip.pack ((kThemeBundleJsonName, jsonBytes (themeBundleToJson options bundle)) ::
      bundle.assets.entries)).getD []
  else []

/-!
# Reading
-/

structure ReadEntries where
  jsonText : FileBytes
  names : List String
  assets : SortedMap String FileBytes
  totalBytes : Nat

def ReadEntries.initial : ReadEntries := ⟨[], [], SortedMap.empty, 0⟩

def kUnreadable : String := "That theme file could not be read."

def entryCap (name : String) : Nat :=
  if name = kThemeBundleJsonName then kMaxBundleJsonBytes else kMaxBundleAssetBytes

/-- The name and the size of an entry that may be read. -/
def checkEntry (totalBytes : Nat) (entry : ZipEntry) : Except String (String × Nat) :=
  match entry.stat with
  | none => .error kUnreadable
  | some stat =>
      if stat.name = "" ∨ stat.name.toList.getLast? = some '/' then
        .error "That theme file contains folders, which a theme cannot have."
      else if stat.name ≠ kThemeBundleJsonName ∧ isValidBundleAssetName stat.name = false then
        .error ("\"" ++ stat.name ++ "\" is not a usable file name.")
      else
        match stat.size with
        | none => .error kUnreadable
        | some size =>
            if entryCap stat.name < size then
              .error ("\"" ++ stat.name ++ "\" is larger than we can accept.")
            else if kMaxBundleTotalBytes < totalBytes + size then
              .error "That theme file's contents add up to more than we can accept."
            else .ok (stat.name, size)

/-- `zip_fread` of the declared size, which is not called for an empty entry. -/
def readContent (entry : ZipEntry) (size : Nat) : Option FileBytes :=
  if entry.opens = false then none
  else if size = 0 then some []
  else
    match entry.content with
    | none => none
    | some bytes => if bytes.length < size then none else some (bytes.take size)

def readEntry (done : ReadEntries) (entry : ZipEntry) : Except String ReadEntries :=
  match checkEntry done.totalBytes entry with
  | .error reason => .error reason
  | .ok (name, size) =>
      match readContent entry size with
      | none => .error ("\"" ++ name ++ "\" could not be read.")
      | some bytes =>
          if name = kThemeBundleJsonName then
            .ok { done with jsonText := bytes, totalBytes := done.totalBytes + size }
          else
            .ok
              { done with
                names := done.names ++ [name]
                assets := done.assets.set name bytes
                totalBytes := done.totalBytes + size }

def readEntries : ReadEntries -> List ZipEntry -> Except String ReadEntries
  | done, [] => .ok done
  | done, entry :: rest =>
      match readEntry done entry with
      | .error reason => .error reason
      | .ok done => readEntries done rest

/-- The text of the document and the files, or the reason against the archive. -/
def readArchive (zip : ZipLibrary) (zipBytes : FileBytes) :
    Except String (FileBytes × SortedMap String FileBytes) :=
  if zipBytes = [] then .error "That file is empty."
  else
    match zip.read zipBytes with
    | .noSource => .error "That file could not be read."
    | .notZip => .error "That file is not a theme file (it is not a .zip)."
    | .noEntries => .error kUnreadable
    | .archive entries =>
        if kMaxBundleAssets + 1 < entries.length then
          .error "That theme file has more files in it than we can accept."
        else
          match readEntries ReadEntries.initial entries with
          | .error reason => .error reason
          | .ok done =>
              if done.jsonText = [] then
                .error "That theme file has no theme.json in it."
              else if findCaseInsensitiveDuplicate done.names ≠ "" then
                .error ("Two files in that theme are both called \"" ++
                  findCaseInsensitiveDuplicate done.names ++ "\".")
              else .ok (done.jsonText, done.assets)

/-- `Json::Value::FromText`: a value, or the exception of inspecting an error value. -/
abbrev JsonLoader := FileBytes -> Except Exn Json

/-- `ThemeBundleFromZip`: what it throws, or the reason against the file, or the document
with the files. -/
def themeBundleFromZip (zip : ZipLibrary) (fromText : JsonLoader) (zipBytes : FileBytes) :
    Except Exn (Except String (Json × SortedMap String FileBytes)) :=
  match readArchive zip zipBytes with
  | .error reason => .ok (.error reason)
  | .ok (jsonText, assets) =>
      match fromText jsonText with
      | .error err => .error err
      | .ok json =>
          if json.hasChildren then .ok (.ok (json, assets))
          else .ok (.error "The theme.json in that file could not be read.")

end Branding
end ServerComponents
