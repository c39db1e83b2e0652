import ServerComponents.Branding.ExportedFiles
import ServerComponents.Branding.ThemeDocument

/-!
# Theme directories

A theme as a directory: the document, and one file for each asset beside it.  A directory
is a map from names to bytes; it is listed in no particular order.
-/

namespace ServerComponents
namespace Branding

open Relational
open Rest (Json)

/-- What a path leads to.  Folders inside a directory are left out. -/
inductive Place where
  | absent
  | file
  | directory (files : SortedMap String FileBytes)

def filesOf : Place -> SortedMap String FileBytes
  | .directory files => files
  | _ => SortedMap.empty

/-!
# Writing
-/

/-- The assets in turn, up to one whose name is not usable: the reason against it, and the
files that stand there then. -/
def writeAssets : SortedMap String FileBytes -> List (String × FileBytes) ->
    String × SortedMap String FileBytes
  | files, [] => ("", files)
  | files, (name, bytes) :: rest =>
      if isValidBundleAssetName name = false then
        ("\"" ++ name ++ "\" is not a usable file name.", files)
      else writeAssets (files.set name bytes) rest

/-- The document over the files, and then the assets. -/
def writeFiles (document : ThemeDocument) (files : SortedMap String FileBytes) :
    String × Place :=
  let (reason, files) := writeAssets
    (files.set kThemeBundleJsonName (jsonBytes (documentToJson document)))
    document.bundle.assets.entries
  (reason, .directory files)

/-- `WriteThemeBundleDirectory`: the reason against it, empty if there is none, and what the
path leads to afterwards.  Writing a file succeeds. -/
def writeThemeBundleDirectory (document : ThemeDocument) (directory : String) (force : Bool) :
    Place -> String × Place
  | .absent => writeFiles document SortedMap.empty
  | .file => (directory ++ " is not a directory.", .file)
  | .directory files =>
      if (files.find? kThemeBundleJsonName).isSome && !force then
        (directory ++ " already holds a theme. Use --force to replace it.", .directory files)
      else writeFiles document files

/-!
# Reading
-/

/-- The order in which a directory is listed. -/
structure Listing where
  order : SortedMap String FileBytes -> List (String × FileBytes)
  perm : forall files, (order files).Perm files.entries

def isManifest (file : String × FileBytes) : Bool := decide (file.1 = kThemeBundleJsonName)

def takeFile (done : ReadEntries) (file : String × FileBytes) : ReadEntries :=
  if isManifest file then
    { done with jsonText := file.2, totalBytes := done.totalBytes + file.2.length }
  else
    { done with
      names := done.names ++ [file.1]
      assets := done.assets.set file.1 file.2
      totalBytes := done.totalBytes + file.2.length }

/-- A file is read when its name is usable and its size acceptable. -/
def readFile (done : ReadEntries) (file : String × FileBytes) : Except String ReadEntries :=
  if !isManifest file && !isValidBundleAssetName file.1 then
    .error ("\"" ++ file.1 ++ "\" is not a usable file name.")
  else if entryCap file.1 < file.2.length then
    .error ("\"" ++ file.1 ++ "\" is larger than we can accept.")
  else if kMaxBundleTotalBytes < done.totalBytes + file.2.length then
    .error "That theme's files add up to more than we can accept."
  else .ok (takeFile done file)

def readFiles : ReadEntries -> List (String × FileBytes) -> Except String ReadEntries
  | done, [] => .ok done
  | done, file :: rest =>
      match readFile done file with
      | .error reason => .error reason
      | .ok done => readFiles done rest

/-- The text of the document and the assets, or the reason against the files. -/
def readListed (directory : String) (files : List (String × FileBytes)) :
    Except String (FileBytes × SortedMap String FileBytes) :=
  match readFiles ReadEntries.initial files with
  | .error reason => .error reason
  | .ok done =>
      if done.jsonText = [] then .error (directory ++ " has no theme.json in it.")
      else if kMaxBundleAssets < done.assets.entries.length then
        .error "That theme has more files in it than we can accept."
      else if findCaseInsensitiveDuplicate done.names ≠ "" then
        .error ("Two files in that theme are both called \"" ++
          findCaseInsensitiveDuplicate done.names ++ "\".")
      else .ok (done.jsonText, done.assets)

/-- `ReadThemeBundleDirectory` into an empty map: what it throws, or the reason against the
directory, or the document with the files. -/
def readThemeBundleDirectory (listing : Listing) (fromText : JsonLoader) (directory : String) :
    Place -> Except Exn (Except String (Json × SortedMap String FileBytes))
  | .directory files =>
      match readListed directory (listing.order files) with
      | .error reason => .ok (.error reason)
      | .ok (jsonText, assets) =>
          match fromText jsonText with
          | .error err => .error err
          | .ok json =>
              if json.hasChildren then .ok (.ok (json, assets))
              else .ok (.error ("The theme.json in " ++ directory ++ " could not be read."))
  | _ => .ok (.error (directory ++ " is not a directory."))

/-!
# Files in turn
-/

/-- A file that the reader takes, whatever it has read before. -/
def Readable (file : String × FileBytes) : Prop :=
  (isManifest file = true ∨ isValidBundleAssetName file.1 = true) ∧
    file.2.length ≤ entryCap file.1

theorem totalBytes_takeFile (done : ReadEntries) (file : String × FileBytes) :
    (takeFile done file).totalBytes = done.totalBytes + file.2.length := by
  unfold takeFile
  split
  · rfl
  · rfl

theorem readFile_eq_ok_iff {done done' : ReadEntries} {file : String × FileBytes} :
    readFile done file = .ok done' <-> Readable file ∧
      done.totalBytes + file.2.length ≤ kMaxBundleTotalBytes ∧ takeFile done file = done' := by
  unfold readFile Readable
  constructor
  · intro h
    split at h
    case isTrue => cases h
    case isFalse hname =>
      split at h
      case isTrue => cases h
      case isFalse hcap =>
        split at h
        case isTrue => cases h
        case isFalse htotal =>
          cases h
          have husable : isManifest file = true ∨ isValidBundleAssetName file.1 = true := by
            cases hmanifest : isManifest file with
            | true => exact Or.inl rfl
            | false => exact Or.inr (by simpa [hmanifest] using hname)
          exact ⟨⟨husable, Nat.not_lt.mp hcap⟩, Nat.not_lt.mp htotal, rfl⟩
  · intro ⟨⟨hname, hcap⟩, htotal, htake⟩
    have husable : Not ((!isManifest file && !isValidBundleAssetName file.1) = true) := by
      rw [Bool.and_eq_true, Bool.not_eq_true', Bool.not_eq_true']
      intro ⟨hmanifest, hinvalid⟩
      cases hname with
      | inl hyes => exact absurd hyes (Bool.eq_false_iff.mp hmanifest)
      | inr hvalid => exact absurd hvalid (Bool.eq_false_iff.mp hinvalid)
    rw [if_neg husable, if_neg (Nat.not_lt.mpr hcap), if_neg (Nat.not_lt.mpr htotal), htake]

theorem readFiles_eq_ok_iff {files : List (String × FileBytes)} {done done' : ReadEntries}
    (hdone : done.totalBytes ≤ kMaxBundleTotalBytes) :
    readFiles done files = .ok done' <-> (forall file, file ∈ files -> Readable file) ∧
      done.totalBytes + assetBytes files ≤ kMaxBundleTotalBytes ∧
        files.foldl takeFile done = done' := by
  induction files generalizing done with
  | nil =>
      unfold readFiles assetBytes
      simp only [List.map_nil, List.sum_nil, Nat.add_zero, hdone, List.foldl_nil, true_and,
        List.not_mem_nil, false_implies, implies_true, Except.ok.injEq]
  | cons file rest ih =>
      have hsum : assetBytes (file :: rest) = file.2.length + assetBytes rest := rfl
      rw [List.forall_mem_cons, hsum, List.foldl_cons, readFiles]
      constructor
      · intro h
        cases hread : readFile done file with
        | error reason =>
            rw [hread] at h
            cases h
        | ok next =>
            obtain ⟨hfile, htotal, hnext⟩ := readFile_eq_ok_iff.mp hread
            rw [hread, ← hnext] at h
            have hbound := totalBytes_takeFile done file
            obtain ⟨hrest, hsmall, hlast⟩ := (ih (by omega)).mp h
            exact ⟨⟨hfile, hrest⟩, by omega, hlast⟩
      · intro ⟨⟨hfile, hrest⟩, htotal, hlast⟩
        have hbound := totalBytes_takeFile done file
        rw [readFile_eq_ok_iff.mpr ⟨hfile, by omega, rfl⟩]
        exact (ih (by omega)).mpr ⟨hrest, by omega, hlast⟩

theorem foldl_takeFile (files : List (String × FileBytes)) (done : ReadEntries) :
    let assets := files.filter (fun file => !isManifest file)
    (files.foldl takeFile done).names = done.names ++ assets.map Prod.fst ∧
      (files.foldl takeFile done).assets = assets.foldl (fun m e => m.set e.1 e.2) done.assets ∧
      (files.foldl takeFile done).jsonText =
        (files.filter isManifest).foldl (fun _ file => file.2) done.jsonText := by
  induction files generalizing done with
  | nil => exact ⟨(List.append_nil _).symm, rfl, rfl⟩
  | cons file rest ih =>
      obtain ⟨hnames, hassets, htext⟩ := ih (takeFile done file)
      dsimp only
      rw [List.foldl_cons, hnames, hassets, htext]
      unfold takeFile
      cases hmanifest : isManifest file with
      | true => simp [hmanifest]
      | false => simp [hmanifest]

end Branding
end ServerComponents
