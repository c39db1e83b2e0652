import ServerComponents.Branding.Packings

/-!
# Theme documents

A bundle with what its document says about itself.  It is written as one object, in which
the sections of the apps stand beside the members of the format.
-/

namespace ServerComponents
namespace Branding

open Relational
open Rest (Json)

def IsInt32 (v : Int) : Prop := -2147483648 ≤ v ∧ v < 2147483648

instance (v : Int) : Decidable (IsInt32 v) := inferInstanceAs (Decidable (_ ∧ _))

theorem toInt32_of_isInt32 {v : Int} (h : IsInt32 v) : toInt32 v = v := by
  unfold IsInt32 at h
  unfold toInt32 Int.bmod
  dsimp only
  split
  · omega
  · omega

structure Envelope where
  formatVersion : Int
  name : String
  description : String
  exportedAt : String
  exportedFromApp : String
  exportedFromSite : String
  exportedFromHonuware : String
  deriving Repr, DecidableEq

structure ThemeDocument where
  envelope : Envelope
  bundle : ThemeBundle Json

/-- A version that is not set is written as the current one. -/
def writtenVersion (formatVersion : Int) : Int :=
  if 0 < formatVersion then formatVersion else kCurrentFormatVersion

def exportedFromJson (envelope : Envelope) : Json :=
  jsonObject [("app", .str envelope.exportedFromApp), ("site", .str envelope.exportedFromSite),
    ("honuware", .str envelope.exportedFromHonuware)]

def themeJson (bundle : ThemeBundle Json) : Json :=
  jsonObject [("content", settingsJson kThemeBundleContentKeys contentJson bundle.content),
    ("tokens", settingsJson (siteThemeTokens.map ThemeToken.key) (fun _ => Json.str)
      bundle.tokens)]

def fontsJson (bundle : ThemeBundle Json) : Json :=
  jsonObject [("sources", .arr (bundle.sources.map sourceJson)),
    ("families", .arr (bundle.families.map familyJson))]

def documentMembers (document : ThemeDocument) : List (String × Json) :=
  [("format", .str kThemeBundleFormat),
    ("format_version", .int (writtenVersion document.envelope.formatVersion)),
    ("name", .str document.envelope.name), ("description", .str document.envelope.description),
    ("exported_at", .str document.envelope.exportedAt),
    ("exported_from", exportedFromJson document.envelope),
    ("theme", themeJson document.bundle), ("fonts", fontsJson document.bundle)]

def documentToJson (document : ThemeDocument) : Json :=
  jsonObject (documentMembers document ++ document.bundle.appSections.entries)

def readEnvelope (json : Json) : Envelope :=
  let exportedFrom := json.child? "exported_from"
  let provenance := fun name => match exportedFrom with
    | some exportedFrom => fieldString exportedFrom name
    | none => ""
  { formatVersion := readBundleFormatVersion json
    name := fieldString json "name"
    description := fieldString json "description"
    exportedAt := fieldString json "exported_at"
    exportedFromApp := provenance "app"
    exportedFromSite := provenance "site"
    exportedFromHonuware := provenance "honuware" }

def documentFromJson (json : Json) : Except String ThemeDocument := do
  let bundle ← themeBundleFromJson json
  .ok ⟨readEnvelope json, bundle⟩

/-!
# Objects
-/

variable {members : List (String × Json)}

theorem child?_jsonObject (hnodup : (members.map Prod.fst).Nodup) {name : String} {value : Json}
    (h : (name, value) ∈ members) : (jsonObject members).child? name = some value :=
  SortedMap.find?_foldl_set hnodup h SortedMap.empty

theorem child?_jsonObject_none {name : String}
    (h : name ∉ members.map Prod.fst) : (jsonObject members).child? name = none :=
  SortedMap.find?_foldl_set_of_notMem h SortedMap.empty

theorem fieldString_jsonObject (hnodup : (members.map Prod.fst).Nodup) {name text : String}
    (h : (name, Json.str text) ∈ members ∨ (text = "" ∧ name ∉ members.map Prod.fst)) :
    fieldString (jsonObject members) name = text := by
  unfold fieldString
  rcases h with hmem | ⟨hempty, hnot⟩
  · rw [child?_jsonObject hnodup hmem]
    rfl
  · rw [child?_jsonObject_none hnot, hempty]

theorem find?_readMembers {value : Type} (read : String -> Json -> value)
    (m : SortedMap String Json) (name : String) :
    (readMembers read m.entries).find? name = (m.find? name).map (read name) := by
  have hfold : readMembers read m.entries =
      (m.entries.map (fun e => (e.1, read e.1 e.2))).foldl (fun m e => m.set e.1 e.2)
        SortedMap.empty := by
    rw [List.foldl_map]
    rfl
  have hkeys : (m.entries.map (fun e => (e.1, read e.1 e.2))).map Prod.fst = m.keys := by
    rw [List.map_map]
    rfl
  rw [hfold]
  cases hfind : m.find? name with
  | none =>
      refine SortedMap.find?_foldl_set_of_notMem ?_ SortedMap.empty
      rw [hkeys, ← SortedMap.find?_isSome_iff, hfind]
      decide
  | some body =>
      refine SortedMap.find?_foldl_set ?_ (e := (name, read name body)) ?_ SortedMap.empty
      · rw [hkeys]
        exact m.keys_sorted.imp ne_of_lt
      · exact List.mem_map.mpr ⟨(name, body), SortedMap.mem_of_find? hfind, rfl⟩

theorem readMembers_settingsJson (keys : List String) (write : String -> String -> Json)
    (read : String -> Json -> String) (settings : SortedMap String String) :
    readMembers read (membersOf (some (settingsJson keys write settings))) =
      SortedMap.tabulate keys
        (fun key => read key (write key ((settings.find? key).getD ""))) := by
  have hmembers : membersOf (some (settingsJson keys write settings)) =
      (SortedMap.tabulate keys
        (fun key => write key ((settings.find? key).getD ""))).entries := by
    unfold settingsJson jsonObject membersOf SortedMap.tabulate
    rw [List.foldl_map]
  rw [hmembers]
  refine SortedMap.ext_find? (fun key => ?_)
  rw [find?_readMembers, SortedMap.find?_tabulate, SortedMap.find?_tabulate]
  split
  · rfl
  · rfl

/-!
# Fonts
-/

theorem readPreconnect_preconnectJson (preconnect : BundleFontPreconnect) :
    readPreconnect (preconnectJson preconnect) = preconnect := by
  have hnodup : ([("url", Json.str preconnect.url),
      ("crossorigin", Json.bool preconnect.crossorigin)].map Prod.fst).Nodup := by
    change ["url", "crossorigin"].Nodup
    decide
  have hflag : fieldBool (preconnectJson preconnect) "crossorigin" false =
      preconnect.crossorigin := by
    unfold fieldBool preconnectJson
    rw [child?_jsonObject hnodup (List.mem_cons_of_mem _ List.mem_cons_self)]
  unfold readPreconnect
  rw [hflag]
  unfold preconnectJson
  rw [fieldString_jsonObject hnodup (Or.inl List.mem_cons_self)]

theorem elementsOf_child {values : List Json} {name : String}
    (hnodup : (members.map Prod.fst).Nodup)
    (h : (name, Json.arr values) ∈ members ∨ (values = [] ∧ name ∉ members.map Prod.fst)) :
    elementsOf ((jsonObject members).child? name) = values := by
  rcases h with hmem | ⟨hempty, hnot⟩
  · rw [child?_jsonObject hnodup hmem]
    rfl
  · rw [child?_jsonObject_none hnot, hempty]
    rfl

theorem map_read_map {element : Type} {read : Json -> element} {write : element -> Json}
    {elements : List element} (h : forall e, e ∈ elements -> read (write e) = e) :
    (elements.map write).map read = elements := by
  rw [List.map_map]
  exact (List.map_congr_left h).trans (List.map_id _)

theorem readSource_sourceJson (source : BundleFontSource) :
    readSource (sourceJson source) = source := by
  have hnodup : ([("source_key", Json.str source.sourceKey),
      ("display_name", .str source.displayName), ("base_url", .str source.baseUrl),
      ("query_suffix", .str source.querySuffix),
      ("preconnects", .arr (source.preconnects.map preconnectJson))].map Prod.fst).Nodup := by
    change ["source_key", "display_name", "base_url", "query_suffix", "preconnects"].Nodup
    decide
  unfold readSource sourceJson
  rw [@fieldString_jsonObject _ hnodup _ source.sourceKey (Or.inl (by simp)),
    @fieldString_jsonObject _ hnodup _ source.displayName (Or.inl (by simp)),
    @fieldString_jsonObject _ hnodup _ source.baseUrl (Or.inl (by simp)),
    @fieldString_jsonObject _ hnodup _ source.querySuffix (Or.inl (by simp)),
    @elementsOf_child _ (source.preconnects.map preconnectJson) _ hnodup (Or.inl (by simp)),
    map_read_map (fun p _ => readPreconnect_preconnectJson p)]

theorem readFace_faceJson {face : BundleFontFace} (h : IsInt32 face.weight) :
    readFace (faceJson face) = face := by
  have hnodup : ([("weight", Json.int face.weight), ("style", .str face.style),
      ("file", .str face.file)].map Prod.fst).Nodup := by
    change ["weight", "style", "file"].Nodup
    decide
  have hweight : fieldInt (faceJson face) "weight" 400 = face.weight := by
    unfold fieldInt faceJson
    rw [child?_jsonObject hnodup List.mem_cons_self]
    exact toInt32_of_isInt32 h
  unfold readFace
  rw [hweight]
  unfold faceJson
  rw [@fieldString_jsonObject _ hnodup _ face.style (Or.inl (by simp)),
    @fieldString_jsonObject _ hnodup _ face.file (Or.inl (by simp))]

def familyMembers (family : BundleFontFamily) : List (String × Json) :=
  [("family", .str family.family), ("fallback", .str family.fallback),
      ("source_kind", .str family.sourceKind)] ++
    (if family.sourceKey = "" then [] else [("source_key", .str family.sourceKey)]) ++
    (if family.spec = "" then [] else [("spec", .str family.spec)]) ++
    (if family.faces = [] then [] else [("faces", .arr (family.faces.map faceJson))])

theorem names_familyMembers (family : BundleFontFamily) :
    (familyMembers family).map Prod.fst = ["family", "fallback", "source_kind"] ++
      (if family.sourceKey = "" then [] else ["source_key"]) ++
      (if family.spec = "" then [] else ["spec"]) ++
      (if family.faces = [] then [] else ["faces"]) := by
  unfold familyMembers
  simp only [List.map_append, apply_ite (List.map Prod.fst)]
  rfl

theorem nodup_familyMembers (family : BundleFontFamily) :
    ((familyMembers family).map Prod.fst).Nodup := by
  have hall : ["family", "fallback", "source_kind", "source_key", "spec", "faces"].Nodup := by
    decide
  have hopt : forall (absent : Prop) [Decidable absent] (name : String),
      (if absent then [] else [name]).Sublist [name] := by
    intro absent _ name
    split
    · exact List.nil_sublist _
    · exact List.Sublist.refl _
  rw [names_familyMembers]
  exact ((((List.Sublist.refl _).append (hopt _ _)).append (hopt _ _)).append (hopt _ _)).nodup
    hall

theorem readFamily_familyJson {family : BundleFontFamily}
    (h : forall face, face ∈ family.faces -> IsInt32 face.weight) :
    readFamily (familyJson family) = family := by
  have hnodup := nodup_familyMembers family
  have hkey : ("source_key", Json.str family.sourceKey) ∈ familyMembers family ∨
      (family.sourceKey = "" ∧ "source_key" ∉ (familyMembers family).map Prod.fst) := by
    by_cases hempty : family.sourceKey = ""
    · refine Or.inr ⟨hempty, ?_⟩
      rw [names_familyMembers, if_pos hempty]
      split <;> split <;> decide
    · exact Or.inl (by simp [familyMembers, hempty])
  have hspec : ("spec", Json.str family.spec) ∈ familyMembers family ∨
      (family.spec = "" ∧ "spec" ∉ (familyMembers family).map Prod.fst) := by
    by_cases hempty : family.spec = ""
    · refine Or.inr ⟨hempty, ?_⟩
      rw [names_familyMembers, if_pos hempty]
      split <;> split <;> decide
    · exact Or.inl (by simp [familyMembers, hempty])
  have hfaces : ("faces", Json.arr (family.faces.map faceJson)) ∈ familyMembers family ∨
      (family.faces.map faceJson = [] ∧ "faces" ∉ (familyMembers family).map Prod.fst) := by
    by_cases hempty : family.faces = []
    · refine Or.inr ⟨by rw [hempty]; rfl, ?_⟩
      rw [names_familyMembers, if_pos hempty]
      split <;> split <;> decide
    · exact Or.inl (by simp [familyMembers, hempty])
  change readFamily (jsonObject (familyMembers family)) = family
  unfold readFamily
  rw [@fieldString_jsonObject _ hnodup _ family.family (Or.inl (by simp [familyMembers])),
    @fieldString_jsonObject _ hnodup _ family.fallback (Or.inl (by simp [familyMembers])),
    @fieldString_jsonObject _ hnodup _ family.sourceKind (Or.inl (by simp [familyMembers])),
    fieldString_jsonObject hnodup hkey, fieldString_jsonObject hnodup hspec,
    elementsOf_child hnodup hfaces,
    map_read_map (fun face hface => readFace_faceJson (h face hface))]

/-!
# The document
-/

/-- The bundle that a written document is read as: with a value for every registered setting,
with a version, and without the files. -/
def readBack (document : ThemeDocument) : ThemeDocument where
  envelope := { document.envelope with
    formatVersion := writtenVersion document.envelope.formatVersion }
  bundle :=
    { content := SortedMap.tabulate kThemeBundleContentKeys (fun key =>
        contentValue key (contentJson key ((document.bundle.content.find? key).getD "")))
      tokens := SortedMap.tabulate (siteThemeTokens.map ThemeToken.key) (fun key =>
        (document.bundle.tokens.find? key).getD "")
      sources := document.bundle.sources
      families := document.bundle.families
      appSections := document.bundle.appSections
      assets := SortedMap.empty }

/-- What the C++ types and the format ask of a document that is written. -/
structure Writable (document : ThemeDocument) : Prop where
  version : IsInt32 document.envelope.formatVersion
  weights : forall family, family ∈ document.bundle.families ->
    forall face, face ∈ family.faces -> IsInt32 face.weight
  sections : forall name, name ∈ document.bundle.appSections.keys -> name ∉ reservedMembers

theorem names_documentMembers (document : ThemeDocument) :
    (documentMembers document).map Prod.fst = reservedMembers := rfl

section Document

variable {document : ThemeDocument}

theorem nodup_members (h : Writable document) :
    ((documentMembers document ++ document.bundle.appSections.entries).map Prod.fst).Nodup := by
  rw [List.map_append, names_documentMembers]
  refine List.nodup_append.mpr ⟨by decide, document.bundle.appSections.keys_sorted.imp ne_of_lt,
    ?_⟩
  intro name hreserved name' hsection heq
  rw [← heq] at hsection
  exact h.sections name hsection hreserved

theorem child?_document (h : Writable document) {name : String} {value : Json}
    (hmem : (name, value) ∈ documentMembers document) :
    (documentToJson document).child? name = some value :=
  child?_jsonObject (nodup_members h) (List.mem_append_left _ hmem)

theorem fieldString_document (h : Writable document) {name text : String}
    (hmem : (name, Json.str text) ∈ documentMembers document) :
    fieldString (documentToJson document) name = text :=
  fieldString_jsonObject (nodup_members h) (Or.inl (List.mem_append_left _ hmem))

theorem readEnvelope_document (h : Writable document) :
    readEnvelope (documentToJson document) = (readBack document).envelope := by
  have hversion : IsInt32 (writtenVersion document.envelope.formatVersion) := by
    have hint := h.version
    unfold writtenVersion
    split
    · exact hint
    · decide
  have hformat : readBundleFormatVersion (documentToJson document) =
      writtenVersion document.envelope.formatVersion := by
    unfold readBundleFormatVersion fieldInt
    rw [child?_document h (List.mem_cons_of_mem _ List.mem_cons_self)]
    exact toInt32_of_isInt32 hversion
  have hfrom := @child?_document document h "exported_from"
    (exportedFromJson document.envelope) (by simp [documentMembers])
  have hnodup : ([("app", Json.str document.envelope.exportedFromApp),
      ("site", .str document.envelope.exportedFromSite),
      ("honuware", .str document.envelope.exportedFromHonuware)].map Prod.fst).Nodup := by
    change ["app", "site", "honuware"].Nodup
    decide
  unfold readEnvelope
  rw [hformat, hfrom]
  unfold exportedFromJson
  dsimp only
  rw [@fieldString_document _ h _ document.envelope.name (by simp [documentMembers]),
    @fieldString_document _ h _ document.envelope.description (by simp [documentMembers]),
    @fieldString_document _ h _ document.envelope.exportedAt (by simp [documentMembers]),
    @fieldString_jsonObject _ hnodup _ document.envelope.exportedFromApp (Or.inl (by simp)),
    @fieldString_jsonObject _ hnodup _ document.envelope.exportedFromSite (Or.inl (by simp)),
    @fieldString_jsonObject _ hnodup _ document.envelope.exportedFromHonuware (Or.inl (by simp))]
  rfl

theorem readSections_document (h : Writable document) :
    readMembers (fun _ body => body)
        ((membersOf (some (documentToJson document))).filter
          (fun e => decide (e.1 ∉ reservedMembers))) =
      document.bundle.appSections := by
  generalize hobject : ((documentMembers document ++
    document.bundle.appSections.entries).foldl (fun m e => m.set e.1 e.2)
      (SortedMap.empty : SortedMap String Json)) = object
  have hmembers : membersOf (some (documentToJson document)) = object.entries := by
    rw [← hobject]
    rfl
  have hfilter : (object.entries.filter (fun e => decide (e.1 ∉ reservedMembers))) =
      (object.filter (fun e => decide (e.1 ∉ reservedMembers))).entries := rfl
  rw [hmembers, hfilter]
  refine SortedMap.ext_find? (fun name => ?_)
  rw [find?_readMembers, SortedMap.find?_filter]
  have hlookup : (Option.map (fun body => body) ((object.find? name).filter
      (fun _ => decide (name ∉ reservedMembers)))) =
        if name ∈ reservedMembers then none else object.find? name := by
    by_cases hreserved : name ∈ reservedMembers
    · simp [hreserved]
    · rw [if_neg hreserved]
      cases object.find? name with
      | none => rfl
      | some body => simp [hreserved]
  rw [hlookup]
  cases hsection : document.bundle.appSections.find? name with
  | none =>
      split
      · rfl
      · rename_i hreserved
        rw [← hobject]
        refine SortedMap.find?_foldl_set_of_notMem ?_ SortedMap.empty
        rw [List.map_append, names_documentMembers, List.mem_append]
        intro hmem
        rcases hmem with hmem | hmem
        · exact hreserved hmem
        · have hsome := SortedMap.find?_isSome_iff.mpr hmem
          rw [hsection] at hsome
          cases hsome
  | some body =>
      rw [if_neg (h.sections name (SortedMap.find?_some hsection)), ← hobject]
      exact SortedMap.find?_foldl_set (nodup_members h) (e := (name, body))
        (List.mem_append_right _ (SortedMap.mem_of_find? hsection)) SortedMap.empty

theorem documentFromJson_documentToJson (h : Writable document) :
    documentFromJson (documentToJson document) = .ok (readBack document) := by
  have htheme := @child?_document document h "theme" (themeJson document.bundle)
    (by simp [documentMembers])
  have hfonts := @child?_document document h "fonts" (fontsJson document.bundle)
    (by simp [documentMembers])
  have hthemeNames : ([("content", settingsJson kThemeBundleContentKeys contentJson
      document.bundle.content), ("tokens", settingsJson (siteThemeTokens.map ThemeToken.key)
        (fun _ => Json.str) document.bundle.tokens)].map Prod.fst).Nodup := by
    change ["content", "tokens"].Nodup
    decide
  have hfontNames : ([("sources", Json.arr (document.bundle.sources.map sourceJson)),
      ("families", Json.arr (document.bundle.families.map familyJson))].map Prod.fst).Nodup := by
    change ["sources", "families"].Nodup
    decide
  have hcontent : (themeJson document.bundle).child? "content" =
      some (settingsJson kThemeBundleContentKeys contentJson document.bundle.content) :=
    child?_jsonObject hthemeNames List.mem_cons_self
  have htokens : (themeJson document.bundle).child? "tokens" =
      some (settingsJson (siteThemeTokens.map ThemeToken.key) (fun _ => Json.str)
        document.bundle.tokens) :=
    child?_jsonObject hthemeNames (List.mem_cons_of_mem _ List.mem_cons_self)
  have hsources : elementsOf ((fontsJson document.bundle).child? "sources") =
      document.bundle.sources.map sourceJson :=
    elementsOf_child hfontNames (Or.inl List.mem_cons_self)
  have hfamilies : elementsOf ((fontsJson document.bundle).child? "families") =
      document.bundle.families.map familyJson :=
    elementsOf_child hfontNames (Or.inl (List.mem_cons_of_mem _ List.mem_cons_self))
  have hbundle : themeBundleFromJson (documentToJson document) =
      .ok (readBack document).bundle := by
    have hchildren : (documentToJson document).hasChildren = true := rfl
    unfold themeBundleFromJson
    rw [hchildren, if_neg (by decide), @fieldString_document _ h _ kThemeBundleFormat
      (by simp [documentMembers]), htheme, hfonts]
    dsimp only [Option.bind_some]
    rw [if_neg (fun hne => hne rfl), hcontent, htokens, hsources, hfamilies,
      readMembers_settingsJson, readMembers_settingsJson, readSections_document h,
      map_read_map (fun source _ => readSource_sourceJson source),
      map_read_map (fun family hfamily => readFamily_familyJson (h.weights family hfamily))]
    rfl
  unfold documentFromJson
  rw [hbundle, readEnvelope_document h]
  rfl

theorem documentToJson_readBack
    (hsame : forall key, contentJson key (contentValue key (contentJson key
      ((document.bundle.content.find? key).getD ""))) =
        contentJson key ((document.bundle.content.find? key).getD "")) :
    documentToJson (readBack document) = documentToJson document := by
  have hversion : writtenVersion (writtenVersion document.envelope.formatVersion) =
      writtenVersion document.envelope.formatVersion := by
    by_cases hset : 0 < document.envelope.formatVersion
    · have hwritten : writtenVersion document.envelope.formatVersion =
          document.envelope.formatVersion := if_pos hset
      rw [hwritten, hwritten]
    · have hwritten : writtenVersion document.envelope.formatVersion = kCurrentFormatVersion :=
        if_neg hset
      rw [hwritten]
      rfl
  have hsettings : forall (keys : List String) (write : String -> String -> Json)
      (settings settings' : SortedMap String String),
      (forall key, key ∈ keys -> write key ((settings.find? key).getD "") =
        write key ((settings'.find? key).getD "")) ->
      settingsJson keys write settings = settingsJson keys write settings' := by
    intro keys write settings settings' heq
    unfold settingsJson
    rw [List.map_congr_left (fun key hkey => by rw [heq key hkey])]
  have htheme : themeJson (readBack document).bundle = themeJson document.bundle := by
    unfold themeJson
    rw [hsettings kThemeBundleContentKeys contentJson (readBack document).bundle.content
      document.bundle.content, hsettings (siteThemeTokens.map ThemeToken.key)
      (fun _ => Json.str) (readBack document).bundle.tokens document.bundle.tokens]
    · intro key hkey
      unfold readBack
      dsimp only
      rw [SortedMap.find?_tabulate, if_pos hkey]
      rfl
    · intro key hkey
      unfold readBack
      dsimp only
      rw [SortedMap.find?_tabulate, if_pos hkey]
      exact hsame key
  have hmembers : documentMembers (readBack document) = documentMembers document := by
    have hfonts : fontsJson (readBack document).bundle = fontsJson document.bundle := by
      dsimp only [fontsJson, readBack]
    have hfrom : exportedFromJson (readBack document).envelope =
        exportedFromJson document.envelope := by
      dsimp only [exportedFromJson, readBack]
    have hset : (readBack document).envelope.formatVersion =
        writtenVersion document.envelope.formatVersion := rfl
    unfold documentMembers
    rw [htheme, hfonts, hfrom, hset, hversion]
    dsimp only [readBack]
  have hsections : (readBack document).bundle.appSections = document.bundle.appSections := by
    dsimp only [readBack]
  unfold documentToJson
  rw [hmembers, hsections]

end Document

/-!
# The round trip
-/

/-- The settings with the empty text for every key that has none. -/
def fillMissing (keys : List String) (settings : SortedMap String String) :
    SortedMap String String :=
  keys.foldl (fun m key => if (m.find? key).isSome then m else m.set key "") settings

theorem find?_fillMissing (keys : List String) (settings : SortedMap String String)
    (key : String) : (fillMissing keys settings).find? key =
      if key ∈ keys then some ((settings.find? key).getD "") else settings.find? key := by
  unfold fillMissing
  induction keys generalizing settings with
  | nil => rfl
  | cons first rest ih =>
      rw [List.foldl_cons, ih]
      by_cases hset : (settings.find? first).isSome = true
      · rw [if_pos hset]
        by_cases hrest : key ∈ rest
        · rw [if_pos hrest, if_pos (List.mem_cons_of_mem first hrest)]
        · by_cases hfirst : key = first
          · rcases Option.isSome_iff_exists.mp hset with ⟨value, hvalue⟩
            rw [if_neg hrest, if_pos (by rw [hfirst]; exact List.mem_cons_self), hfirst, hvalue]
            rfl
          · rw [if_neg hrest, if_neg (fun hmem => (List.mem_cons.mp hmem).elim hfirst hrest)]
      · rw [if_neg hset]
        have hnone : settings.find? first = none := by simpa using hset
        by_cases hfirst : key = first
        · rw [hfirst, SortedMap.find?_set_self, if_pos List.mem_cons_self, hnone]
          split
          · rfl
          · rfl
        · rw [SortedMap.find?_set_of_ne settings "" hfirst]
          have hmem : key ∈ first :: rest <-> key ∈ rest := by simp [hfirst]
          simp only [hmem]

/-- The document with its missing settings filled and its version set, without its files. -/
def restored (document : ThemeDocument) : ThemeDocument where
  envelope := { document.envelope with
    formatVersion := writtenVersion document.envelope.formatVersion }
  bundle := { document.bundle with
    content := fillMissing kThemeBundleContentKeys document.bundle.content
    tokens := fillMissing (siteThemeTokens.map ThemeToken.key) document.bundle.tokens
    assets := SortedMap.empty }

/-- Registered settings, normalised lines, and no link to nowhere that keeps its bar. -/
structure Restorable (document : ThemeDocument) : Prop extends Writable document where
  contentKeys : forall key, key ∈ document.bundle.content.keys -> key ∈ kThemeBundleContentKeys
  tokenKeys : forall key, key ∈ document.bundle.tokens.keys ->
    key ∈ siteThemeTokens.map ThemeToken.key
  normalised : forall key value, document.bundle.content.find? key = some value ->
    isLinesSlot key = true ->
    normalizeLineEndings value = value ∧ value.toList.getLast? ≠ some '\n'
  links : forall value, document.bundle.content.find? "site_social_links" = some value ->
    forall line, line ∈ unpackLines value -> Not (EndsInFirstBar line)

theorem packLabelledLink_json (link : String × String) :
    packLabelledLink (jsonObject [("label", .str link.1), ("url", .str link.2)]) =
      packLink link := by
  have hnodup : ([("label", Json.str link.1), ("url", Json.str link.2)].map Prod.fst).Nodup := by
    change ["label", "url"].Nodup
    decide
  rw [packLabelledLink_eq]
  unfold readLink
  have hchildren : (jsonObject [("label", Json.str link.1),
      ("url", Json.str link.2)]).hasChildren = true := rfl
  rw [hchildren, if_pos rfl, if_pos rfl,
    @fieldString_jsonObject _ hnodup _ link.1 (Or.inl (by simp)),
    @fieldString_jsonObject _ hnodup _ link.2 (Or.inl (by simp))]

theorem contentValue_contentJson {key value : String}
    (hnormal : isLinesSlot key = true ->
      normalizeLineEndings value = value ∧ value.toList.getLast? ≠ some '\n')
    (hlinks : key = "site_social_links" ->
      forall line, line ∈ unpackLines value -> Not (EndsInFirstBar line)) :
    contentValue key (contentJson key value) = value := by
  unfold contentJson
  by_cases hlabelled : isLabelledLinksSlot key = true
  · have hkey : key = "site_social_links" := of_decide_eq_true hlabelled
    rcases hnormal (by rw [hkey]; decide) with ⟨hending, hlast⟩
    have hpacked := (packLabelledLinks_unpackLabelledLinks hending hlast).mpr (hlinks hkey)
    rw [if_pos hlabelled]
    unfold contentValue
    dsimp only
    rw [if_pos hlabelled, List.map_map]
    refine Eq.trans ?_ hpacked
    unfold packLabelledLinks unpackLabelledLinks
    exact congrArg packLines (List.map_congr_left (fun link _ => packLabelledLink_json link))
  · rw [if_neg hlabelled]
    by_cases hlines : isLinesSlot key = true
    · rcases hnormal hlines with ⟨hending, hlast⟩
      rw [if_pos hlines]
      unfold contentValue
      dsimp only
      rw [if_neg hlabelled, map_read_map (fun line _ => rfl)]
      exact packLines_unpackLines hending hlast
    · rw [if_neg hlines]
      rfl

section RoundTrip

variable {document : ThemeDocument}

theorem Restorable.content (h : Restorable document) (key : String) :
    contentValue key (contentJson key ((document.bundle.content.find? key).getD "")) =
      (document.bundle.content.find? key).getD "" := by
  cases hvalue : document.bundle.content.find? key with
  | none =>
      refine contentValue_contentJson (fun _ => ⟨rfl, by decide⟩) ?_
      intro _ line hline
      cases hline
  | some value =>
      refine contentValue_contentJson (h.normalised key value hvalue) ?_
      intro hkey
      rw [hkey] at hvalue
      exact h.links value hvalue

theorem tabulate_eq_fillMissing {keys : List String} {settings : SortedMap String String}
    (h : forall key, key ∈ settings.keys -> key ∈ keys) :
    SortedMap.tabulate keys (fun key => (settings.find? key).getD "") =
      fillMissing keys settings := by
  refine SortedMap.ext_find? (fun key => ?_)
  rw [SortedMap.find?_tabulate, find?_fillMissing]
  by_cases hkey : key ∈ keys
  · rw [if_pos hkey, if_pos hkey]
  · rw [if_neg hkey, if_neg hkey, SortedMap.find?_none (fun hmem => hkey (h key hmem))]

theorem readBack_eq_restored (h : Restorable document) : readBack document = restored document := by
  have hcontent : SortedMap.tabulate kThemeBundleContentKeys (fun key =>
      contentValue key (contentJson key ((document.bundle.content.find? key).getD ""))) =
        fillMissing kThemeBundleContentKeys document.bundle.content := by
    rw [← tabulate_eq_fillMissing h.contentKeys]
    exact congrArg (SortedMap.tabulate kThemeBundleContentKeys) (funext h.content)
  unfold readBack restored
  rw [hcontent, tabulate_eq_fillMissing h.tokenKeys]

/-- A document is read back as it was, with its missing settings and its version filled and
without its files, and a second round writes the same document. -/
theorem document_roundTrip (h : Restorable document) :
    documentFromJson (documentToJson document) = .ok (restored document) ∧
      forall again, documentFromJson (documentToJson document) = .ok again ->
        documentToJson again = documentToJson document := by
  have hread := documentFromJson_documentToJson h.toWritable
  have hsecond : documentToJson (readBack document) = documentToJson document :=
    documentToJson_readBack (fun key => by rw [h.content key])
  constructor
  · rw [hread, readBack_eq_restored h]
  · intro again hagain
    rw [hread] at hagain
    cases hagain
    exact hsecond

end RoundTrip

/-- A look with two links, a font of its own and a section of an app. -/
def sunrise : ThemeDocument where
  envelope := ⟨1, "Sunrise", "", "2026-05-01", "studio", "example.org", "1.0"⟩
  bundle :=
    { content := SortedMap.empty.set "site_social_links" "Imprint|/imprint\nBlog"
      tokens := SortedMap.empty.set "site_theme_radius_card" "4px"
      sources := []
      families := [⟨"Barlow", "sans-serif", "uploaded", "", "", [⟨700, "normal", "barlow.woff2"⟩]⟩]
      appSections := SortedMap.empty.set "page_content" (.obj [])
      assets := SortedMap.empty }

theorem sunrise_restorable : Restorable sunrise where
  version := by decide
  weights := by
    change forall family, family ∈ [_] -> _
    simp only [List.mem_singleton]
    intro family hfamily face hface
    rw [hfamily, List.mem_singleton] at hface
    rw [hface]
    decide
  sections := by decide
  contentKeys := by decide
  tokenKeys := by decide
  normalised := by
    intro key value hvalue _
    have hmem := SortedMap.mem_of_find? hvalue
    cases List.mem_singleton.mp hmem
    exact ⟨by decide, by decide⟩
  links := by
    intro value hvalue
    have hmem := SortedMap.mem_of_find? hvalue
    cases List.mem_singleton.mp hmem
    intro line hline hends
    rcases hends with ⟨label, -, hlast⟩
    have hend := congrArg List.getLast? hlast
    rw [List.getLast?_concat] at hend
    revert hend
    have hall : forall line, line ∈ unpackLines "Imprint|/imprint\nBlog" ->
        line.toList.getLast? ≠ some '|' := by
      decide
    exact hall line hline

theorem sunrise_roundTrip : documentFromJson (documentToJson sunrise) = .ok (restored sunrise) :=
  (document_roundTrip sunrise_restorable).1

/-- A look that has not been given a version, with a link to nowhere and a file. -/
def draft : ThemeDocument where
  envelope := ⟨0, "Draft", "", "", "", "", ""⟩
  bundle :=
    { content := SortedMap.empty.set "site_social_links" "Imprint|"
      tokens := SortedMap.empty, sources := [], families := []
      appSections := SortedMap.empty
      assets := SortedMap.empty.set "logo.png" [137, 80, 78, 71] }

/-- It comes back with a version, without the bar of its link and without its file. -/
theorem draft_changed : exists read, documentFromJson (documentToJson draft) = .ok read ∧
    read.envelope.formatVersion ≠ draft.envelope.formatVersion ∧
    read.bundle.content.find? "site_social_links" ≠
      draft.bundle.content.find? "site_social_links" ∧
    read.bundle.assets.find? "logo.png" ≠ draft.bundle.assets.find? "logo.png" := by
  have hwritable : Writable draft := by
    refine ⟨by decide, ?_, ?_⟩
    · intro family hfamily
      cases hfamily
    · intro name hname
      cases hname
  refine ⟨readBack draft, documentFromJson_documentToJson hwritable, by decide, ?_, by decide⟩
  unfold readBack
  dsimp only
  rw [SortedMap.find?_tabulate, if_pos (by decide)]
  decide

end Branding
end ServerComponents
