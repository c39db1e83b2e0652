import ServerComponents.Branding.ThemeBundleExport
import ServerComponents.Util.JsonValue
import ServerComponents.Text.Percent

/-!
# The document of a theme file

A bundle is written with an entry for every registered setting, whether the bundle has a
value for it or not.  Lists that are stored packed are written as lists.
-/

namespace ServerComponents
namespace Branding

open Relational
open Rest (Json)

/-!
# Packed lists
-/

/-- The lines of a stored text; trailing empty ones are no lines. -/
def unpackLines (stored : String) : List String :=
  if stored = "" then []
  else
    (((normalizeLineEndings stored).toList.splitOn '\n').rdropWhile List.isEmpty).map
      String.ofList

/-- The label and the address of a line; a line without a bar is all label. -/
def unpackLabelledLink (line : String) : String × String :=
  (String.ofList (line.toList.takeWhile (fun c => c != '|')),
    String.ofList ((line.toList.dropWhile (fun c => c != '|')).drop 1))

/-!
# Writing
-/

/-- What an export is told about itself; `formatVersion` is the current one. -/
structure ThemeBundleExportOptions where
  name : String
  description : String
  exportedAt : String
  app : String
  site : String
  honuwareVersion : String
  deriving Repr, DecidableEq

/-- The members stand in the order of their names. -/
def jsonObject (members : List (String × Json)) : Json :=
  .obj (members.foldl (fun m e => m.set e.1 e.2)
    (SortedMap.empty : SortedMap String Json)).entries

def isLinesSlot (key : String) : Bool :=
  (findContentSlot key).any (fun slot => decide (slot.type = .lines))

/-- A slot's value in the shape that the file has for it. -/
def contentJson (key value : String) : Json :=
  if isLabelledLinksSlot key then
    .arr (((unpackLines value).map unpackLabelledLink).map (fun link =>
      jsonObject [("label", .str link.1), ("url", .str link.2)]))
  else if isLinesSlot key then .arr ((unpackLines value).map Json.str)
  else .str value

def preconnectJson (preconnect : BundleFontPreconnect) : Json :=
  jsonObject [("url", .str preconnect.url), ("crossorigin", .bool preconnect.crossorigin)]

def sourceJson (source : BundleFontSource) : Json :=
  jsonObject [("source_key", .str source.sourceKey), ("display_name", .str source.displayName),
    ("base_url", .str source.baseUrl), ("query_suffix", .str source.querySuffix),
    ("preconnects", .arr (source.preconnects.map preconnectJson))]

def faceJson (face : BundleFontFace) : Json :=
  jsonObject [("weight", .int face.weight), ("style", .str face.style), ("file", .str face.file)]

/-- Only the members that the family's kind uses. -/
def familyJson (family : BundleFontFamily) : Json :=
  jsonObject
    ([("family", .str family.family), ("fallback", .str family.fallback),
        ("source_kind", .str family.sourceKind)] ++
      (if family.sourceKey = "" then [] else [("source_key", .str family.sourceKey)]) ++
      (if family.spec = "" then [] else [("spec", .str family.spec)]) ++
      (if family.faces = [] then [] else [("faces", .arr (family.faces.map faceJson))]))

def settingsJson (keys : List String) (write : String -> String -> Json)
    (settings : SortedMap String String) : Json :=
  jsonObject (keys.map (fun key => (key, write key ((settings.find? key).getD ""))))

/-- The members of the document before the sections of the apps. -/
def envelopeMembers (options : ThemeBundleExportOptions) (bundle : ThemeBundle Json) :
    List (String × Json) :=
  [("format", .str kThemeBundleFormat), ("format_version", .int kCurrentFormatVersion),
    ("name", .str options.name), ("description", .str options.description),
    ("exported_at", .str options.exportedAt),
    ("exported_from", jsonObject [("app", .str options.app), ("site", .str options.site),
      ("honuware", .str options.honuwareVersion)]),
    ("theme", jsonObject [
      ("content", settingsJson kThemeBundleContentKeys contentJson bundle.content),
      ("tokens", settingsJson (siteThemeTokens.map ThemeToken.key) (fun _ => Json.str)
        bundle.tokens)]),
    ("fonts", jsonObject [("sources", .arr (bundle.sources.map sourceJson)),
      ("families", .arr (bundle.families.map familyJson))])]

def themeBundleToJson (options : ThemeBundleExportOptions) (bundle : ThemeBundle Json) : Json :=
  jsonObject (envelopeMembers options bundle ++ bundle.appSections.entries)

def jsonBytes (json : Json) : FileBytes := Util.utf8 json.toText.toList

theorem hasChildren_themeBundleToJson (options : ThemeBundleExportOptions)
    (bundle : ThemeBundle Json) : (themeBundleToJson options bundle).hasChildren = true := rfl

/-!
# Lengths
-/

theorem length_utf8 (cs : List Char) : cs.length ≤ (Util.utf8 cs).length := by
  induction cs with
  | nil => exact Nat.le_refl _
  | cons c rest ih =>
      rw [Util.Value.utf8_cons, List.length_append, List.length_cons]
      have hpos : 0 < (String.utf8EncodeChar c).length := by
        rw [String.length_utf8EncodeChar]
        exact Char.utf8Size_pos c
      omega

theorem length_le_intercalate {sep part : List Char} {parts : List (List Char)}
    (h : part ∈ parts) : part.length ≤ (sep.intercalate parts).length := by
  induction parts with
  | nil => cases h
  | cons first rest ih =>
      cases rest with
      | nil =>
          rw [List.intercalate_singleton, List.mem_singleton.mp h]
      | cons second rest =>
          rw [List.intercalate_cons_cons, List.length_append, List.length_append]
          rcases List.mem_cons.mp h with heq | hrest
          · rw [heq]
            omega
          · have hle := ih hrest
            omega

theorem membersOf_eq_map (children : List (String × Json)) :
    Json.membersOf children =
      children.map (fun e => Json.quoted e.1 ++ ":" ++ e.2.toText) := by
  induction children with
  | nil => rfl
  | cons first rest ih =>
      unfold Json.membersOf
      rw [ih]
      rfl

theorem length_member {children : List (String × Json)} {key text : String}
    (h : (key, Json.str text) ∈ children) :
    text.toList.length ≤ (jsonBytes (.obj children)).length := by
  have hquoted : text.toList.length ≤ (Json.quoted text).toList.length := by
    unfold Json.quoted
    have hescaped := Util.Value.length_escaped text.toList
    simp only [String.toList_ofList, List.length_cons, List.length_append, List.length_nil]
    omega
  have hmember : (Json.quoted text).toList.length ≤
      (Json.quoted key ++ ":" ++ (Json.str text).toText).toList.length := by
    unfold Json.toText
    simp only [String.toList_append, List.length_append]
    omega
  have hmembers : (Json.quoted key ++ ":" ++ (Json.str text).toText).toList.length ≤
      (String.intercalate "," (Json.membersOf children)).toList.length := by
    rw [String.toList_intercalate, membersOf_eq_map]
    exact length_le_intercalate (List.mem_map_of_mem (List.mem_map.mpr ⟨_, h, rfl⟩))
  have hobject : (String.intercalate "," (Json.membersOf children)).toList.length ≤
      (Json.obj children).toText.toList.length := by
    unfold Json.toText
    simp only [String.toList_append, List.length_append]
    omega
  have hbytes := length_utf8 (Json.obj children).toText.toList
  unfold jsonBytes
  omega

section Bounds

variable {members : List (String × Json)} {n : Nat}

theorem length_escapeChar_le (c : Char) : (Util.utf8 (Json.escapeChar c)).length ≤ 6 := by
  have hcontrol : forall n, n < 32 -> (Util.utf8 ['\\', 'u', '0', '0', Json.hexDigit (n / 16),
      Json.hexDigit (n % 16)]).length ≤ 6 := by decide
  unfold Json.escapeChar
  split_ifs with _ _ _ _ _ _ _ hlow
  any_goals decide
  · exact hcontrol _ hlow
  · have hsize := Char.utf8Size_le_four c
    simp only [Util.utf8, List.flatMap_singleton, String.length_utf8EncodeChar]
    omega

theorem length_str_le (text : String) :
    (jsonBytes (.str text)).length ≤ 6 * text.utf8ByteSize + 2 := by
  have hsize := length_utf8 text.toList
  rw [Util.utf8, ← Text.utf8_eq, Text.length_utf8] at hsize
  have hescaped : (Util.utf8 (text.toList.flatMap Json.escapeChar)).length ≤
      6 * text.toList.length := by
    generalize text.toList = cs
    induction cs with
    | nil => exact Nat.le_refl _
    | cons c rest ih =>
        have hfirst := length_escapeChar_le c
        rw [List.flatMap_cons, Util.Value.utf8_append, List.length_append, List.length_cons]
        omega
  have hquote : (Util.utf8 ['"']).length = 1 := by decide
  unfold jsonBytes Json.toText Json.quoted
  rw [String.toList_ofList, ← List.singleton_append, Util.Value.utf8_append,
    Util.Value.utf8_append, List.length_append, List.length_append]
  omega

theorem length_intercalate_le {parts : List (List Char)}
    (h : forall part, part ∈ parts -> (Util.utf8 part).length ≤ n) :
    (Util.utf8 (",".toList.intercalate parts)).length ≤ parts.length * (n + 1) := by
  induction parts with
  | nil => exact Nat.zero_le _
  | cons first rest ih =>
      have hfirst := h first List.mem_cons_self
      have hrest := ih (fun part hpart => h part (List.mem_cons_of_mem _ hpart))
      rw [List.length_cons, Nat.succ_mul]
      cases rest with
      | nil =>
          rw [List.intercalate_singleton]
          omega
      | cons second rest =>
          rw [List.intercalate_cons_cons, Util.Value.utf8_append, Util.Value.utf8_append,
            List.length_append, List.length_append]
          have hcomma : (Util.utf8 ",".toList).length = 1 := by decide
          omega

theorem length_obj_le (h : forall e, e ∈ members ->
      (jsonBytes (.str e.1)).length + (jsonBytes e.2).length ≤ n) :
    (jsonBytes (.obj members)).length ≤ members.length * (n + 2) + 2 := by
  have hparts : forall part, part ∈ (Json.membersOf members).map String.toList ->
      (Util.utf8 part).length ≤ n + 1 := by
    rw [membersOf_eq_map, List.map_map]
    intro part hpart
    rcases List.mem_map.mp hpart with ⟨e, he, rfl⟩
    have hcolon : (Util.utf8 ":".toList).length = 1 := by decide
    simp only [Function.comp_apply, String.toList_append, Util.Value.utf8_append,
      List.length_append, hcolon]
    exact (Nat.add_right_comm _ 1 _).trans_le (Nat.succ_le_succ (h e he))
  have hmembers := length_intercalate_le hparts
  rw [List.length_map, membersOf_eq_map, List.length_map] at hmembers
  change _ ≤ members.length * (n + 2) at hmembers
  unfold jsonBytes Json.toText
  simp only [String.toList_append, String.toList_intercalate, String.toList_ofList,
    Util.Value.utf8_append, List.length_append, membersOf_eq_map] at hmembers ⊢
  have hopen : (Util.utf8 ['\x7b']).length = 1 := by decide
  have hclose : (Util.utf8 ['\x7d']).length = 1 := by decide
  omega

theorem mem_foldl_set {members : List (String × Json)} {m : SortedMap String Json}
    {e : String × Json} (h : e ∈ (members.foldl (fun m e => m.set e.1 e.2) m).entries) :
    e ∈ m.entries ∨ e ∈ members := by
  induction members generalizing m with
  | nil => exact Or.inl h
  | cons first rest ih =>
      rcases ih h with h | h
      · rcases SortedMap.mem_set h with rfl | h
        · exact Or.inr List.mem_cons_self
        · exact Or.inl h
      · exact Or.inr (List.mem_cons_of_mem _ h)

theorem length_jsonObject_le (h : forall e, e ∈ members ->
      (jsonBytes (.str e.1)).length + (jsonBytes e.2).length ≤ n) :
    (jsonBytes (jsonObject members)).length ≤ members.length * (n + 2) + 2 := by
  have hsubset : (members.foldl (fun m e => m.set e.1 e.2)
      (SortedMap.empty : SortedMap String Json)).entries ⊆ members :=
    fun e he => (mem_foldl_set he).resolve_left List.not_mem_nil
  have hlength := ((SortedMap.nodup_entries _).subperm hsubset).length_le
  exact (length_obj_le (fun e he => h e (hsubset he))).trans
    (Nat.add_le_add_right (Nat.mul_le_mul_right _ hlength) 2)

theorem length_settingsJson_le {keys : List String} {write : String -> String -> Json}
    {settings : SortedMap String String} (h : forall key, key ∈ keys ->
      (jsonBytes (.str key)).length +
        (jsonBytes (write key ((settings.find? key).getD ""))).length ≤ n) :
    (jsonBytes (settingsJson keys write settings)).length ≤ keys.length * (n + 2) + 2 := by
  have hmembers : forall e, e ∈ keys.map (fun key =>
      (key, write key ((settings.find? key).getD ""))) ->
      (jsonBytes (.str e.1)).length + (jsonBytes e.2).length ≤ n :=
    List.forall_mem_map.mpr h
  have hlength := length_jsonObject_le hmembers
  rw [List.length_map] at hlength
  exact hlength

end Bounds

end Branding
end ServerComponents
