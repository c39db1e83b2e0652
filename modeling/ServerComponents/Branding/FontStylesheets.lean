import ServerComponents.Text.Uri
import ServerComponents.Branding.FontInventory

/-!
# Addresses of font stylesheets

The address of a stylesheet is the one of its source with a query: a parameter for each
family, and one more for the suffix.
-/

namespace ServerComponents
namespace Branding

def suffixParameters (querySuffix : String) : List String :=
  if querySuffix = "" then [] else [querySuffix]

/-- The stylesheet comes from the host and the path of the source, and asks for what the source
asks for, for each family, and for the suffix.  Without families there is no stylesheet. -/
def StylesheetOf (baseUrl : String) (specs : List String) (querySuffix : String)
    (url : String) : Prop :=
  if specs = [] then url = ""
  else exists base parts, Uri.parse baseUrl.toList = some base ∧
    Uri.parse url.toList = some parts ∧ parts.scheme = base.scheme ∧
    parts.authority = base.authority ∧ parts.path = base.path ∧
    Uri.parameters parts.query = Uri.parameters base.query ++
      (specs ++ suffixParameters querySuffix).map String.toList

structure AcceptedStylesheet (baseUrl : String) (specs : List String) (querySuffix : String) :
    Prop where
  baseUrl : isValidFontSourceUrl baseUrl = true
  specs : forall spec, spec ∈ specs -> isValidFontSpec spec = true
  querySuffix : querySuffix = "" ∨ isValidFontSpec querySuffix = true

/-- The base is an identifier without query and fragment, and every percent sign behind it
begins an escape. -/
structure PlainSource (baseUrl : String) (specs : List String) (querySuffix : String) :
    Prop where
  baseUrl : exists base, Uri.parse baseUrl.toList = some base ∧ base.query = none ∧
    base.fragment = none
  specs : forall spec, spec ∈ specs -> Uri.Escaped spec.toList
  querySuffix : Uri.Escaped querySuffix.toList

/-!
# Signs of specs
-/

theorem isQueryChar_of_isAsciiAlnum {c : Char} (h : isAsciiAlnum c = true) :
    Uri.isQueryChar c = true := by
  have hunreserved : Uri.isUnreserved c = true := by
    unfold isAsciiAlnum at h
    unfold Uri.isUnreserved Uri.isAlpha Uri.isDigit
    rw [h, Bool.true_or]
  unfold Uri.isQueryChar Uri.isPathChar
  simp [hunreserved]

theorem isQueryChar_of_isHexDigit {c : Char} (h : Uri.isHexDigit c = true) :
    Uri.isQueryChar c = true := by
  refine isQueryChar_of_isAsciiAlnum ?_
  unfold Uri.isHexDigit Uri.isDigit at h
  unfold isAsciiAlnum
  simp only [Bool.or_eq_true, Bool.and_eq_true, decide_eq_true_eq] at h ⊢
  rcases h with (hdigit | hupper) | hlower
  · exact Or.inr hdigit
  · exact Or.inl (Or.inl ⟨hupper.1, hupper.2.trans (by decide)⟩)
  · exact Or.inl (Or.inr ⟨hlower.1, hlower.2.trans (by decide)⟩)

theorem mem_of_isValidFontSpec {spec : String} (h : isValidFontSpec spec = true) {c : Char}
    (hc : c ∈ spec.toList) : isAsciiAlnum c = true ∨ c ∈ "=:@.,+-_;%".toList := by
  unfold isValidFontSpec at h
  split at h
  · cases h
  · split at h
    · cases h
    · simpa using List.all_eq_true.mp h c hc

theorem spec_signs {spec : String} (h : isValidFontSpec spec = true) {c : Char}
    (hc : c ∈ spec.toList) : (c = '%' ∨ Uri.isQueryChar c = true) ∧ c ≠ '&' ∧ c ≠ '#' := by
  have hother : "=:@.,+-_;%".toList.all (fun d =>
      (d = '%' ∨ Uri.isQueryChar d = true) ∧ d ≠ '&' ∧ d ≠ '#') = true := by
    decide
  rcases mem_of_isValidFontSpec h hc with halnum | hmem
  · refine ⟨Or.inr (isQueryChar_of_isAsciiAlnum halnum), ?_, ?_⟩
    · rintro rfl
      exact absurd halnum (by decide)
    · rintro rfl
      exact absurd halnum (by decide)
  · exact of_decide_eq_true (List.all_eq_true.mp hother c hmem)

theorem specs_ne_empty {spec : String} (h : isValidFontSpec spec = true) : spec ≠ "" := by
  rintro rfl
  exact absurd h (by decide)

/-!
# The query
-/

section Query

variable {baseUrl querySuffix : String} {specs : List String}

def pieces (specs : List String) (querySuffix : String) : List (List Char) :=
  (specs ++ suffixParameters querySuffix).map String.toList

theorem forall_pieces {holds : List Char -> Prop} :
    (forall piece, piece ∈ pieces specs querySuffix -> holds piece) <->
      (forall spec, spec ∈ specs -> holds spec.toList) ∧
        (querySuffix ≠ "" -> holds querySuffix.toList) := by
  unfold pieces suffixParameters
  rw [List.forall_mem_map, List.forall_mem_append]
  split
  · rename_i hempty
    simp [hempty]
  · rename_i hgiven
    simp [hgiven]

theorem pieces_ne_nil (hne : specs ≠ []) : pieces specs querySuffix ≠ [] := by
  unfold pieces
  simp [hne]

variable (h : AcceptedStylesheet baseUrl specs querySuffix)

include h

theorem buildFontStylesheetUrl_toList (hne : specs ≠ []) :
    (buildFontStylesheetUrl baseUrl specs querySuffix).toList =
      baseUrl.toList ++ '?' :: ['&'].intercalate (pieces specs querySuffix) := by
  have hvalid : specs.filter isValidFontSpec = specs := List.filter_eq_self.mpr h.specs
  unfold buildFontStylesheetUrl
  rw [hvalid]
  simp only [h.baseUrl, hne, Bool.true_eq_false, or_self, if_false]
  unfold pieces suffixParameters
  rcases h.querySuffix with hempty | hgiven
  · simp [hempty, String.toList_intercalate]
  · have hne' := specs_ne_empty hgiven
    have hmap : specs.map String.toList ≠ [] := by simpa using hne
    simp [hne', hgiven, String.toList_intercalate, Text.intercalate_concat hmap]

theorem piece_signs {piece : List Char} (hpiece : piece ∈ pieces specs querySuffix) {c : Char}
    (hc : c ∈ piece) : (c = '%' ∨ Uri.isQueryChar c = true) ∧ c ≠ '&' ∧ c ≠ '#' := by
  have hall : forall piece, piece ∈ pieces specs querySuffix -> forall c, c ∈ piece ->
      (c = '%' ∨ Uri.isQueryChar c = true) ∧ c ≠ '&' ∧ c ≠ '#' := by
    rw [forall_pieces]
    refine ⟨fun spec hspec c hc => spec_signs (h.specs spec hspec) hc, fun hne c hc => ?_⟩
    exact spec_signs (h.querySuffix.resolve_left hne) hc
  exact hall piece hpiece c hc

theorem query_signs {c : Char}
    (hc : c ∈ ['&'].intercalate (pieces specs querySuffix)) :
    (c = '%' ∨ Uri.isQueryChar c = true) ∧ c ≠ '#' := by
  rcases Text.mem_intercalate hc with rfl | ⟨piece, hpiece, hmem⟩
  · decide
  · have hsigns := piece_signs h hpiece hmem
    exact ⟨hsigns.1, hsigns.2.2⟩

theorem parameters_query (hne : specs ≠ []) :
    (['&'].intercalate (pieces specs querySuffix)).splitOn '&' = pieces specs querySuffix :=
  List.splitOn_intercalate '&'
    (fun _ hpiece hmem => (piece_signs h hpiece hmem).2.1 rfl) (pieces_ne_nil hne)

theorem encoded_query_iff :
    Uri.encoded Uri.isQueryChar (['&'].intercalate (pieces specs querySuffix)) = true <->
      forall piece, piece ∈ pieces specs querySuffix -> Uri.Escaped piece := by
  rw [Uri.encoded_iff (by decide) (fun _ => isQueryChar_of_isHexDigit),
    Uri.escaped_intercalate]
  constructor
  · exact And.left
  · exact fun hescaped => ⟨hescaped, fun c hc => (query_signs h hc).1⟩

theorem hash_not_mem_query : '#' ∉ ['&'].intercalate (pieces specs querySuffix) :=
  fun hmem => (query_signs h hmem).2 rfl

theorem not_parameters_of_query (hne : specs ≠ []) (query : List Char) :
    Uri.parameters (some (query ++ '?' :: ['&'].intercalate (pieces specs querySuffix))) ≠
      Uri.parameters (some query) ++ pieces specs querySuffix := by
  intro heq
  have hlength := congrArg List.length heq
  have hcount := Uri.length_splitOn_append '&' query
    ('?' :: ['&'].intercalate (pieces specs querySuffix))
  have hrest : (('?' :: ['&'].intercalate (pieces specs querySuffix)).splitOn '&').length =
      (pieces specs querySuffix).length := by
    rw [List.splitOn_cons_eq_if_modifyHead, if_neg (by decide), List.length_modifyHead,
      parameters_query h hne]
  rw [List.length_append] at hlength
  simp only [Uri.parameters] at hlength
  omega

theorem plainBase_of_stylesheetOf (hne : specs ≠ []) {base parts : Uri.Components}
    (hbase : Uri.parse baseUrl.toList = some base)
    (hparts : Uri.parse (buildFontStylesheetUrl baseUrl specs querySuffix).toList = some parts)
    (hparameters : Uri.parameters parts.query =
      Uri.parameters base.query ++ pieces specs querySuffix) :
    '?' ∉ baseUrl.toList ∧ '#' ∉ baseUrl.toList := by
  rw [buildFontStylesheetUrl_toList h hne] at hparts
  have hsplit := (Uri.parse_eq_some_iff.mp hbase).1
  have hsplit' := (Uri.parse_eq_some_iff.mp hparts).1
  have hhash : '#' ∉ baseUrl.toList := by
    intro hmem
    rw [Uri.split_query_of_hash hmem hsplit hsplit'] at hparameters
    exact pieces_ne_nil hne (List.self_eq_append_right.mp hparameters)
  refine ⟨fun hmem => ?_, hhash⟩
  have hrest := hash_not_mem_query h
  rcases Uri.split_query_of_query hmem hhash (by simpa using hrest) hsplit hsplit' with
    ⟨query, hquery, hquery'⟩
  rw [hquery, hquery'] at hparameters
  exact not_parameters_of_query h hne query hparameters

end Query

/-!
# Addresses
-/

/-- The query is written behind the base whatever the base has, and percent signs are not
looked at. -/
theorem stylesheetOf_iff {baseUrl querySuffix : String} {specs : List String}
    (h : AcceptedStylesheet baseUrl specs querySuffix) :
    StylesheetOf baseUrl specs querySuffix (buildFontStylesheetUrl baseUrl specs querySuffix) <->
      (specs ≠ [] -> PlainSource baseUrl specs querySuffix) := by
  by_cases hne : specs = []
  · subst hne
    simp [StylesheetOf, buildFontStylesheetUrl]
  rw [StylesheetOf, if_neg hne]
  have htext := buildFontStylesheetUrl_toList h hne
  have hrest := hash_not_mem_query h
  constructor
  · rintro ⟨base, parts, hbase, hparts, -, -, -, hparameters⟩ -
    rcases plainBase_of_stylesheetOf h hne hbase hparts hparameters with ⟨hquery, hhash⟩
    rcases Uri.parse_eq_some_iff.mp hbase with ⟨hsplit, hvalid⟩
    have hnone := (Uri.signs_of_split hsplit).mpr ⟨hquery, hhash⟩
    have hescaped : forall piece, piece ∈ pieces specs querySuffix -> Uri.Escaped piece := by
      rw [htext, Uri.parse_eq_some_iff, Uri.split_append hquery hhash hrest, hsplit] at hparts
      rcases hparts with ⟨heq, hvalid'⟩
      cases heq
      rw [Uri.valid_withQuery hnone.1, Bool.and_eq_true] at hvalid'
      exact (encoded_query_iff h).mp hvalid'.2
    rcases forall_pieces.mp hescaped with ⟨hspecs, hsuffix⟩
    refine ⟨⟨base, hbase, hnone⟩, hspecs, ?_⟩
    rcases h.querySuffix with rfl | hgiven
    · exact Uri.escaped_of_not_mem (by simp)
    · exact hsuffix (specs_ne_empty hgiven)
  · intro hplain
    rcases hplain hne with ⟨⟨base, hbase, hnone⟩, hspecs, hsuffix⟩
    rcases Uri.parse_eq_some_iff.mp hbase with ⟨hsplit, hvalid⟩
    rcases (Uri.signs_of_split hsplit).mp hnone with ⟨hquery, hhash⟩
    have hencoded := (encoded_query_iff h).mpr (forall_pieces.mpr ⟨hspecs, fun _ => hsuffix⟩)
    refine ⟨base, { base with query := some (['&'].intercalate (pieces specs querySuffix)) },
      hbase, ?_, rfl, rfl, rfl, ?_⟩
    · rw [htext, Uri.parse_eq_some_iff, Uri.split_append hquery hhash hrest, hsplit,
        Uri.valid_withQuery hnone.1, hvalid, hencoded]
      exact ⟨rfl, rfl⟩
    · rw [hnone.1]
      exact parameters_query h hne

/-- A source whose address has a parameter of its own. -/
theorem kitSource_not_stylesheetOf :
    AcceptedStylesheet "https://fonts.test/css2?kit=1" ["family=Barlow"] "display=swap" ∧
      buildFontStylesheetUrl "https://fonts.test/css2?kit=1" ["family=Barlow"] "display=swap" =
        "https://fonts.test/css2?kit=1?family=Barlow&display=swap" ∧
      Not (StylesheetOf "https://fonts.test/css2?kit=1" ["family=Barlow"] "display=swap"
        "https://fonts.test/css2?kit=1?family=Barlow&display=swap") := by
  refine ⟨⟨by decide, by decide, by decide⟩, by decide, ?_⟩
  rw [StylesheetOf, if_neg (by decide)]
  rintro ⟨base, parts, hbase, hparts, -, -, -, hparameters⟩
  have hbase' : (Uri.parse "https://fonts.test/css2?kit=1".toList).map Uri.Components.query =
      some (some "kit=1".toList) := by decide
  have hparts' : (Uri.parse
      "https://fonts.test/css2?kit=1?family=Barlow&display=swap".toList).map
        Uri.Components.query =
      some (some "kit=1?family=Barlow&display=swap".toList) := by decide
  rw [hbase] at hbase'
  rw [hparts] at hparts'
  rw [Option.some.inj hbase', Option.some.inj hparts'] at hparameters
  exact absurd (congrArg List.length hparameters) (by decide)

theorem stylesheetOf_shipped :
    StylesheetOf "https://fonts.test/css2" ["family=Roboto:ital,wght@0,300;1,400"]
      "display=swap" (buildFontStylesheetUrl "https://fonts.test/css2"
        ["family=Roboto:ital,wght@0,300;1,400"] "display=swap") := by
  refine (stylesheetOf_iff ⟨by decide, by decide, by decide⟩).mpr fun _ => ?_
  refine ⟨?_, ?_, Uri.escaped_of_not_mem (by decide)⟩
  · exact ⟨⟨"https".toList, some "fonts.test".toList, "/css2".toList, none, none⟩,
      by decide, rfl, rfl⟩
  · intro spec hspec
    obtain rfl := List.mem_singleton.mp hspec
    exact Uri.escaped_of_not_mem (by decide)

end Branding
end ServerComponents
