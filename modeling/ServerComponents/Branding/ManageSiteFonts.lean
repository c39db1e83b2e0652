import ServerComponents.Branding.ReplaceImport
import ServerComponents.Branding.ThemeBundleExport
import ServerComponents.Rest.Json

/-!
# Managing the fonts of a site

The editor puts the whole inventory.  The payload is checked first; then the sources are
matched by their keys and the families by their names, and what is not listed is deleted.
The transaction is rolled back when anything throws.
-/

namespace ServerComponents
namespace Branding

open Relational Control
open Rest (Json Response)

/-!
# The payload
-/

/-- Who asks, as the gate of the endpoints sees them. -/
inductive Access where
  | loggedOut
  | loggedIn
  | admin
  deriving DecidableEq

/-- What stops a check: a response, or an exception. -/
inductive Refusal where
  | response (response : Response)
  | thrown (e : Exn)

abbrev Checked (a : Type) := Except Refusal a

def refuse {a : Type} (detail : String) : Checked a :=
  .error (.response (Rest.ErrorResponse.validationError detail))

/-- `Get<std::string>` of a member, which throws on anything but a text. -/
def memberText (object : Json) (name : String) : Except Exn String :=
  match object.child? name with
  | none => .ok ""
  | some (.str text) => .ok text
  | some _ => .error (.runtimeError "std::get: wrong index for variant")

def checkedText (object : Json) (name : String) : Checked String :=
  (memberText object name).mapError .thrown

def requireThat (condition : Bool) (detail : String) : Checked Unit :=
  if condition then .ok () else refuse detail

def requireAdmin : Access -> Checked Unit
  | .loggedOut => .error (.response (Rest.ErrorResponse.notAuthenticated "Login required"))
  | .loggedIn => .error (.response (Rest.ErrorResponse.notAuthorized "Admin required"))
  | .admin => .ok ()

/-- The key of a source that passes, after the keys before it. -/
def checkSource (keys : List String) (source : Json) : Checked String := do
  let key ← checkedText source "source_key"
  let baseUrl ← checkedText source "base_url"
  requireThat (decide (key ≠ "")) "Every font source needs a key."
  requireThat (decide (key ∉ keys)) ("Two font sources share the key '" ++ key ++ "'.")
  requireThat (isValidFontSourceUrl baseUrl)
    (key ++ ": the address must be an https:// URL.")
  let suffix ← checkedText source "query_suffix"
  requireThat (decide (suffix = "") || isValidFontSpec suffix)
    (key ++ ": that URL suffix is not a valid query fragment.")
  let _ ← checkedText source "preconnect_lines"
  .ok key

/-- The name of a family that passes, after the names before it. -/
def checkFamily (names : List String) (family : Json) : Checked String := do
  let name ← checkedText family "family"
  let fallback ← checkedText family "fallback"
  let kind ← checkedText family "source_kind"
  requireThat (isValidFontFamilyName name)
    ("'" ++ name ++ "' is not a usable font family name.")
  requireThat (decide (name ∉ names)) ("Two families are both called '" ++ name ++ "'.")
  requireThat (decide (fallback ≠ "") && isValidFontFamilyList fallback)
    (name ++ ": needs a fallback (for example sans-serif).")
  requireThat (decide (kind = kSiteFontSourceKindCdn ∨ kind = kSiteFontSourceKindUploaded ∨
      kind = kSiteFontSourceKindSystem))
    (name ++ ": unknown font source kind '" ++ kind ++ "'.")
  if kind = kSiteFontSourceKindCdn then do
    let spec ← checkedText family "spec"
    requireThat (isValidFontSpec spec) (name ++ ": that font specification is not valid.")
    let key ← checkedText family "source_key"
    requireThat (decide (key ≠ "")) (name ++ ": a downloaded font needs a source.")
    .ok name
  else .ok name

def checkEach (check : List String -> Json -> Checked String) :
    List String -> List Json -> Checked (List String)
  | done, [] => .ok done
  | done, item :: rest => do
      let name ← check done item
      checkEach check (done ++ [name]) rest

def payloadSources (body : Json) : List Json := elementsOf (body.child? "sources")

def payloadFamilies (body : Json) : List Json := elementsOf (body.child? "families")

def checkPayload (body : Json) : Checked Unit := do
  let _ ← checkEach checkSource [] (payloadSources body)
  let _ ← checkEach checkFamily [] (payloadFamilies body)
  .ok ()

/-!
# Reconciling
-/

structure SourcePayload where
  key : String
  displayName : String
  baseUrl : String
  querySuffix : String
  preconnectLines : String

structure FamilyPayload where
  name : String
  fallback : String
  kind : String
  sourceKey : String
  spec : String

def sourcePayload (source : Json) : Except Exn SourcePayload := do
  let key ← memberText source "source_key"
  let displayName ← memberText source "display_name"
  let baseUrl ← memberText source "base_url"
  let querySuffix ← memberText source "query_suffix"
  let preconnectLines ← memberText source "preconnect_lines"
  .ok ⟨key, displayName, baseUrl, querySuffix, preconnectLines⟩

/-- Only a downloaded family has a source and a specification. -/
def familyPayload (family : Json) : Except Exn FamilyPayload := do
  let name ← memberText family "family"
  let fallback ← memberText family "fallback"
  let kind ← memberText family "source_kind"
  if kind = kSiteFontSourceKindCdn then do
    let sourceKey ← memberText family "source_key"
    let spec ← memberText family "spec"
    .ok ⟨name, fallback, kind, sourceKey, spec⟩
  else .ok ⟨name, fallback, kind, "", ""⟩

def SourcePayload.row (source : SourcePayload) (id : Nat) (active : Bool) : SiteFontSource where
  id := id
  displayName := source.displayName
  baseUrl := source.baseUrl
  querySuffix := source.querySuffix
  preconnectLines := source.preconnectLines
  active := active

/-- The id of the source, 0 if the payload does not list its key; 0 is stored as NULL. -/
def FamilyPayload.sourceId (family : FamilyPayload) (ids : SortedMap String Nat) :
    Option Nat :=
  if family.kind = kSiteFontSourceKindCdn then ids.find? family.sourceKey else none

def FamilyPayload.row (family : FamilyPayload) (ids : SortedMap String Nat) (ordinal : Nat)
    (active : Bool) (faces : List SiteFontFace) : SiteFont where
  family := family.name
  fallback := family.fallback
  sourceKind := family.kind
  fontSourceId := family.sourceId ids
  spec := family.spec
  ordinal := ordinal
  active := active
  faces := faces

namespace SiteFonts

/-- `GetSourceByKey`, and `UpdateSource` of the row or `AddSource`. -/
def writeSource (t : SiteFonts) (source : SourcePayload) : SiteFonts × Nat :=
  match h : t.sources.find? source.key with
  | some row =>
      (t.setSource source.key (source.row row.id row.active)
        (fun _ _ h' hid => t.sourceIds h' h hid), row.id)
  | none =>
      (t.setSource source.key (source.row t.nextSourceId true)
        (fun _ _ h' hid => absurd hid (Nat.ne_of_lt (t.freshSource h'))), t.nextSourceId)

/-- `UpdateFont`: the faces of the row are rows of their own, and stay. -/
def rewriteFont (t : SiteFonts) (id : Nat) (row : SiteFont) : SiteFonts :=
  { t.updateFont id row with nextFaceId := t.nextFaceId }

end SiteFonts

def reconcileSources : List Json -> SortedMap String Nat ->
    Work SiteFonts Exn (SortedMap String Nat)
  | [], ids => Work.done ids
  | source :: rest, ids => fun t =>
      match sourcePayload source with
      | .error e => (.error e, t)
      | .ok source =>
          reconcileSources rest (ids.set source.key (t.writeSource source).2)
            (t.writeSource source).1

/-- `GetFontByFamily`, and `UpdateFont` of its row or `AddFont`. -/
def reconcileFamily (ids : SortedMap String Nat) (ordinal : Nat) (family : FamilyPayload)
    (t : SiteFonts) : SiteFonts :=
  match t.getFontByFamily family.name with
  | none => t.addFont (family.row ids ordinal true [])
  | some (id, row) => t.rewriteFont id (family.row ids ordinal row.active row.faces)

/-- The names of the families that are kept. -/
def reconcileFamilies (ids : SortedMap String Nat) : Nat -> List Json ->
    Work SiteFonts Exn (List String)
  | _, [] => Work.done []
  | ordinal, family :: rest => fun t =>
      match familyPayload family with
      | .error e => (.error e, t)
      | .ok family =>
          ((reconcileFamilies ids (ordinal + 10) rest).bind fun names =>
            Work.done (family.name :: names)) (reconcileFamily ids ordinal family t)

/-- What the payload does not list is deleted, the families before the sources. -/
def dropUnkept (keys names : List String) (t : SiteFonts) : SiteFonts :=
  (t.keepFonts (fun family => decide (family ∈ names))).keepSources
    (fun key => decide (key ∈ keys))

def savedBody (keys names : List String) : String :=
  (Json.obj [("families", .int names.length), ("sources", .int keys.length)]).toText

def reconcile (body : Json) : Work SiteFonts Exn Response :=
  (reconcileSources (payloadSources body) SortedMap.empty).bind fun ids =>
    (reconcileFamilies ids 10 (payloadFamilies body)).bind fun names =>
      (Work.modify (dropUnkept ids.keys names)).bind fun _ =>
        Work.done ⟨200, [("Content-Type", "application/json")], savedBody ids.keys names⟩

/-- The body is what the JSON library makes of the request's. -/
def putManageSiteFonts (access : Access) (parsed : Except Exn Json) :
    Work SiteFonts Exn Response := fun t =>
  match requireAdmin access with
  | .error (.response response) => (.ok response, t)
  | .error (.thrown e) => (.error e, t)
  | .ok () =>
      match parsed with
      | .error e => (.error e, t)
      | .ok body =>
          if body.hasChildren = false then
            (.ok (Rest.ErrorResponse.badRequest "No message body."), t)
          else
            match checkPayload body with
            | .error (.response response) => (.ok response, t)
            | .error (.thrown e) => (.error e, t)
            | .ok () => reconcile body t

/-- The handler of the route; what throws is rolled back. -/
def handlePut (access : Access) (parsed : Except Exn Json) (t : SiteFonts) :
    Response × SiteFonts :=
  match putManageSiteFonts access parsed t with
  | (.ok response, t') => (response, t')
  | (.error _, _) => (Rest.ErrorResponse.internalError, t)

end Branding
end ServerComponents
