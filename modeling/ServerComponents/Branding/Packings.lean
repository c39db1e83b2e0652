import ServerComponents.Branding.ThemeFile
import ServerComponents.Text.Lines

/-!
# Stored packings

Lists are stored as lines, and the fields of a line are separated by a bar.  Nothing is
escaped.
-/

namespace ServerComponents
namespace Branding

open Rest (Json)

def packPreconnect (preconnect : BundleFontPreconnect) : String :=
  preconnect.url ++ "|" ++ (if preconnect.crossorigin then "true" else "false")

def packPreconnects (preconnects : List BundleFontPreconnect) : String :=
  packLines (preconnects.map packPreconnect)

def unpackLabelledLinks (stored : String) : List (String × String) :=
  (unpackLines stored).map unpackLabelledLink

/-- The line of a link; without a URL it has no bar. -/
def packLink (link : String × String) : String :=
  if link.2 = "" then link.1 else link.1 ++ "|" ++ link.2

def packLabelledLinks (links : List (String × String)) : String :=
  packLines (links.map packLink)

def readLink (entry : Json) : String × String :=
  (if entry.hasChildren then fieldString entry "label" else valueAsString entry,
    if entry.hasChildren then fieldString entry "url" else "")

theorem packLabelledLink_eq (entry : Json) : packLabelledLink entry = packLink (readLink entry) :=
  rfl

/-- The first bar of a line is its last character. -/
def EndsInFirstBar (line : String) : Prop :=
  exists label : List Char, '|' ∉ label ∧ line.toList = label ++ ['|']

/-- Two lists of links with the same entries, apart from empty ones at the end. -/
def SameLinks (links links' : List (String × String)) : Prop :=
  links.rdropWhile (fun link => decide (link = ("", ""))) =
    links'.rdropWhile (fun link => decide (link = ("", "")))

/-!
# Lines
-/

theorem toList_packLines (lines : List String) :
    (packLines lines).toList = ['\n'].intercalate (lines.map String.toList) := by
  unfold packLines
  rw [String.toList_intercalate]
  rfl

theorem normalizeChars_of_not_mem {cs : List Char} (h : '\r' ∉ cs) : normalizeChars cs = cs := by
  induction cs using normalizeChars.induct with
  | case1 rest ih => exact absurd List.mem_cons_self h
  | case2 rest _ ih => exact absurd List.mem_cons_self h
  | case3 c rest _ hne ih =>
      have hrest : '\r' ∉ rest := fun hmem => h (List.mem_cons_of_mem c hmem)
      rw [normalizeChars, ih hrest]
      · assumption
      · assumption
  | case4 => rfl

theorem not_mem_normalizeChars (cs : List Char) : '\r' ∉ normalizeChars cs := by
  induction cs using normalizeChars.induct with
  | case1 rest ih =>
      rw [normalizeChars]
      simpa using ih
  | case2 rest hrest ih =>
      rw [normalizeChars]
      · simpa using ih
      · assumption
  | case3 c rest _ hne ih =>
      rw [normalizeChars]
      · intro hmem
        rcases List.mem_cons.mp hmem with heq | hmem
        · exact hne heq.symm
        · exact ih hmem
      · assumption
      · assumption
  | case4 => exact List.not_mem_nil

/-- Lines without line endings are unpacked as they were packed, without empty ones at the
end. -/
theorem unpackLines_packLines {lines : List String}
    (hlines : forall line, line ∈ lines -> '\n' ∉ line.toList ∧ '\r' ∉ line.toList) :
    unpackLines (packLines lines) = lines.rdropWhile (fun line => line.toList.isEmpty) := by
  have hpieces : forall piece, piece ∈ lines.map String.toList ->
      '\n' ∉ piece ∧ '\r' ∉ piece := by
    intro piece hpiece
    rcases List.mem_map.mp hpiece with ⟨line, hline, rfl⟩
    exact hlines line hline
  have hunpacked : unpackLines (packLines lines) =
      (((lines.map String.toList).rdropWhile List.isEmpty)).map String.ofList := by
    unfold unpackLines
    by_cases hnone : lines = []
    · rw [hnone]
      rfl
    have hreturns : '\r' ∉ (packLines lines).toList := by
      rw [toList_packLines]
      intro hmem
      rcases Text.mem_intercalate hmem with hsep | ⟨piece, hpiece, hmem⟩
      · exact absurd hsep (by decide)
      · exact (hpieces piece hpiece).2 hmem
    have hsplit : ((normalizeLineEndings (packLines lines)).toList.splitOn '\n') =
        lines.map String.toList := by
      unfold normalizeLineEndings
      rw [String.toList_ofList, normalizeChars_of_not_mem hreturns, toList_packLines]
      refine List.splitOn_intercalate '\n' (fun piece hpiece => (hpieces piece hpiece).1) ?_
      simpa using hnone
    by_cases hempty : packLines lines = ""
    · have hsplit' := hsplit
      rw [hempty] at hsplit'
      have hone : lines.map String.toList = [[]] := hsplit'.symm
      rw [if_pos hempty, hone]
      rfl
    · rw [if_neg hempty, hsplit]
  rw [hunpacked, Text.rdropWhile_map, List.map_map]
  exact (List.map_congr_left (fun line _ => String.ofList_toList)).trans (List.map_id _)

theorem map_unpackLines {stored : String} (hnormal : normalizeLineEndings stored = stored)
    (hend : stored.toList.getLast? ≠ some '\n') (hne : stored ≠ "") :
    (unpackLines stored).map String.toList = stored.toList.splitOn '\n' := by
  have hchars : stored.toList ≠ [] := fun hnil => hne (String.toList_injective hnil)
  unfold unpackLines
  rw [if_neg hne, hnormal, Text.rdropWhile_splitOn hchars hend, List.map_map]
  exact (List.map_congr_left (fun piece _ => String.toList_ofList)).trans (List.map_id _)

theorem packLines_unpackLines {stored : String} (hnormal : normalizeLineEndings stored = stored)
    (hend : stored.toList.getLast? ≠ some '\n') : packLines (unpackLines stored) = stored := by
  by_cases hne : stored = ""
  · rw [hne]
    rfl
  · refine String.toList_injective ?_
    rw [toList_packLines, map_unpackLines hnormal hend hne, List.intercalate_splitOn]

/-!
# Labelled links
-/

theorem packLink_unpackLabelledLink (line : String) :
    packLink (unpackLabelledLink line) = line <-> Not (EndsInFirstBar line) := by
  have hparts : unpackLabelledLink line =
      (String.ofList (Text.before '|' line.toList), String.ofList (Text.after '|' line.toList)) :=
    rfl
  rw [hparts]
  unfold packLink
  dsimp only
  by_cases hbar : '|' ∈ line.toList
  · have hjoin := Text.before_after hbar
    by_cases hafter : Text.after '|' line.toList = []
    · rw [hafter] at hjoin ⊢
      constructor
      · intro heq
        have hlength := congrArg List.length hjoin
        have hsame := congrArg (fun text : String => text.toList.length) heq
        rw [if_pos rfl] at hsame
        simp only [String.toList_ofList] at hsame
        simp only [List.length_append, List.length_cons, List.length_nil] at hlength
        omega
      · intro hnot
        exact absurd ⟨_, Text.not_mem_before, hjoin.symm⟩ hnot
    · have hurl : String.ofList (Text.after '|' line.toList) ≠ "" := by
        intro hempty
        have hnil := congrArg String.toList hempty
        rw [String.toList_ofList] at hnil
        exact hafter hnil
      have hpacked : String.ofList (Text.before '|' line.toList) ++ "|" ++
          String.ofList (Text.after '|' line.toList) = line := by
        refine String.toList_injective ?_
        simp only [String.toList_append, String.toList_ofList]
        rw [List.append_assoc]
        exact hjoin
      rw [if_neg hurl]
      constructor
      · intro _ hends
        rcases hends with ⟨label, hlabel, hline⟩
        rw [hline, Text.after_append hlabel] at hafter
        exact hafter rfl
      · exact fun _ => hpacked
  · rw [Text.after_of_not_mem hbar, Text.before_of_not_mem hbar, String.ofList_toList,
      if_pos rfl]
    constructor
    · intro _ hends
      rcases hends with ⟨label, -, hline⟩
      refine hbar ?_
      rw [hline]
      exact List.mem_append_right label List.mem_cons_self
    · exact fun _ => rfl

variable {link : String × String}

theorem unpackLabelledLink_packLink (h : '|' ∉ link.1.toList) :
    unpackLabelledLink (packLink link) = link := by
  have hparts : forall line : String, unpackLabelledLink line =
      (String.ofList (Text.before '|' line.toList), String.ofList (Text.after '|' line.toList)) :=
    fun _ => rfl
  rcases link with ⟨label, url⟩
  rw [hparts]
  unfold packLink
  dsimp only at h ⊢
  by_cases hurl : url = ""
  · rw [if_pos hurl, Text.before_of_not_mem h, Text.after_of_not_mem h, hurl,
      String.ofList_toList]
  · have htext : (label ++ "|" ++ url).toList = label.toList ++ '|' :: url.toList := by
      simp only [String.toList_append]
      rw [List.append_assoc]
      rfl
    rw [if_neg hurl, htext, Text.before_append h, Text.after_append h, String.ofList_toList,
      String.ofList_toList]

theorem packLink_eq_empty :
    (packLink link).toList.isEmpty = decide (link = ("", "")) := by
  rcases link with ⟨label, url⟩
  unfold packLink
  dsimp only
  by_cases hurl : url = ""
  · rw [if_pos hurl, hurl]
    by_cases hlabel : label = ""
    · rw [hlabel]
      rfl
    · have hne : label.toList ≠ [] := fun hnil => hlabel (String.toList_injective hnil)
      simp [hlabel, hne]
  · rw [if_neg hurl]
    simp [hurl]

theorem not_mem_packLink {c : Char} (hc : c ≠ '|')
    (hlabel : c ∉ link.1.toList) (hurl : c ∉ link.2.toList) : c ∉ (packLink link).toList := by
  intro hpacked
  unfold packLink at hpacked
  split at hpacked
  · exact hlabel hpacked
  · simp only [String.toList_append, List.mem_append] at hpacked
    rcases hpacked with (hpacked | hpacked) | hpacked
    · exact hlabel hpacked
    · exact hc (List.mem_singleton.mp hpacked)
    · exact hurl hpacked

theorem unpackLabelledLinks_packLabelledLinks {links : List (String × String)}
    (hbars : forall link, link ∈ links -> '|' ∉ link.1.toList)
    (hlines : forall link, link ∈ links ->
      ('\n' ∉ link.1.toList ∧ '\n' ∉ link.2.toList) ∧
        '\r' ∉ link.1.toList ∧ '\r' ∉ link.2.toList) :
    unpackLabelledLinks (packLabelledLinks links) =
      links.rdropWhile (fun link => decide (link = ("", ""))) := by
  unfold unpackLabelledLinks packLabelledLinks
  rw [unpackLines_packLines, Text.rdropWhile_map, List.map_map]
  · simp only [packLink_eq_empty]
    refine (List.map_congr_left (fun link hlink => ?_)).trans (List.map_id _)
    exact unpackLabelledLink_packLink
      (hbars link ((List.rdropWhile_prefix _ links).subset hlink))
  · intro line hline
    rcases List.mem_map.mp hline with ⟨link, hlink, rfl⟩
    rcases hlines link hlink with ⟨⟨hlabel, hurl⟩, hlabel', hurl'⟩
    exact ⟨not_mem_packLink (by decide) hlabel hurl, not_mem_packLink (by decide) hlabel' hurl'⟩

theorem packLabelledLinks_unpackLabelledLinks {stored : String}
    (hnormal : normalizeLineEndings stored = stored) (hend : stored.toList.getLast? ≠ some '\n') :
    packLabelledLinks (unpackLabelledLinks stored) = stored <->
      forall line, line ∈ unpackLines stored -> Not (EndsInFirstBar line) := by
  have hmap : packLabelledLinks (unpackLabelledLinks stored) =
      packLines ((unpackLines stored).map (fun line => packLink (unpackLabelledLink line))) := by
    unfold packLabelledLinks unpackLabelledLinks
    rw [List.map_map]
    rfl
  have hpacked := packLines_unpackLines hnormal hend
  rw [hmap]
  constructor
  · intro heq line hline
    have hne : stored ≠ "" := by
      intro hempty
      rw [hempty] at hline
      cases hline
    have hpieces := map_unpackLines hnormal hend hne
    have hlines : forall line, line ∈ unpackLines stored -> '\n' ∉ line.toList := by
      intro line hline
      refine (@Text.mem_splitOn _ _ '\n' stored.toList line.toList ?_).1
      rw [← hpieces]
      exact List.mem_map_of_mem hline
    have hne' : unpackLines stored ≠ [] := fun hnil => by
      rw [hnil] at hline
      cases hline
    have hsame := congrArg String.toList (heq.trans hpacked.symm)
    rw [toList_packLines, toList_packLines] at hsame
    have hlists := Text.intercalate_injective ?_ ?_ (by simpa using hne') (by simpa using hne')
      hsame
    · rw [List.map_map, List.map_inj_left] at hlists
      exact (packLink_unpackLabelledLink line).mp (String.toList_injective (hlists line hline))
    · intro piece hpiece
      rcases List.mem_map.mp hpiece with ⟨packed, hpacked, rfl⟩
      rcases List.mem_map.mp hpacked with ⟨line, hline, rfl⟩
      refine not_mem_packLink (by decide) ?_ ?_
      · unfold unpackLabelledLink
        rw [String.toList_ofList]
        exact fun hmem => hlines line hline (Text.mem_of_mem_before hmem)
      · unfold unpackLabelledLink
        rw [String.toList_ofList]
        exact fun hmem => hlines line hline (Text.mem_of_mem_after hmem)
    · intro piece hpiece
      rcases List.mem_map.mp hpiece with ⟨line, hline, rfl⟩
      exact hlines line hline
  · intro h
    have hself : (unpackLines stored).map (fun line => packLink (unpackLabelledLink line)) =
        unpackLines stored :=
      (List.map_congr_left (fun line hline =>
        (packLink_unpackLabelledLink line).mpr (h line hline))).trans (List.map_id _)
    rw [hself, hpacked]

theorem mem_unpackLabelledLinks {stored : String} (h : link ∈ unpackLabelledLinks stored) :
    '|' ∉ link.1.toList ∧ '\r' ∉ link.1.toList ∧ '\r' ∉ link.2.toList := by
  rcases List.mem_map.mp h with ⟨line, hline, rfl⟩
  have hreturn : '\r' ∉ line.toList := by
    unfold unpackLines at hline
    split at hline
    · cases hline
    · rcases List.mem_map.mp hline with ⟨piece, hpiece, rfl⟩
      have hsplit := (List.rdropWhile_prefix _ _).subset hpiece
      rw [String.toList_ofList]
      intro hmem
      have hchars := (Text.mem_splitOn hsplit).2 _ hmem
      unfold normalizeLineEndings at hchars
      rw [String.toList_ofList] at hchars
      exact not_mem_normalizeChars _ hchars
  unfold unpackLabelledLink
  simp only [String.toList_ofList]
  exact ⟨Text.not_mem_before, fun hmem => hreturn (Text.mem_of_mem_before hmem),
    fun hmem => hreturn (Text.mem_of_mem_after hmem)⟩

/-!
# Preconnects
-/

theorem validUrl_chars {url : String} (h : isValidFontSourceUrl url = true) :
    (exists rest, url.toList = 'h' :: rest) ∧ '\n' ∉ url.toList := by
  unfold isValidFontSourceUrl at h
  split at h
  · cases h
  split at h
  · cases h
  rename_i hcontrol
  split at h
  · cases h
  rename_i hprefix
  have hstart : hasPrefix "https://" url = true := by
    by_cases hhttps : hasPrefix "https://" url = true
    · exact hhttps
    · exact absurd (by simp [hhttps]) hprefix
  unfold hasPrefix at hstart
  rcases List.isPrefixOf_iff_prefix.mp hstart with ⟨rest, hrest⟩
  constructor
  · exact ⟨"ttps://".toList ++ rest, hrest.symm⟩
  · intro hmem
    refine hcontrol (List.any_eq_true.mpr ⟨'\n', hmem, by decide⟩)

theorem trimLine_of_ends {line rest init : List Char} {c d : Char} (hfront : line = c :: rest)
    (hback : line = init ++ [d]) (hc : c ≠ ' ') (hd : d ≠ ' ' ∧ d ≠ '\r') :
    trimLine line = line := by
  unfold trimLine
  have hreverse : line.reverse = d :: init.reverse := by
    rw [hback]
    simp
  rw [hreverse, List.dropWhile_cons_of_neg (by simp [hd.1, hd.2]), ← hreverse,
    List.reverse_reverse, hfront, List.dropWhile_cons_of_neg (by simp [hc])]

theorem parsePreconnectLine_packPreconnect {preconnect : BundleFontPreconnect}
    (hvalid : isValidFontSourceUrl preconnect.url = true)
    (hbar : '|' ∉ preconnect.url.toList) :
    parsePreconnectLine (packPreconnect preconnect).toList = some preconnect := by
  rcases preconnect with ⟨url, crossorigin⟩
  dsimp only at hvalid hbar
  rcases (validUrl_chars hvalid).1 with ⟨rest, hurl⟩
  have hflag : exists init, (if crossorigin then "true" else "false").toList = init ++ ['e'] := by
    cases crossorigin with
    | true => exact ⟨"tru".toList, rfl⟩
    | false => exact ⟨"fals".toList, rfl⟩
  rcases hflag with ⟨init, hinit⟩
  have htext : (packPreconnect ⟨url, crossorigin⟩).toList =
      url.toList ++ '|' :: (if crossorigin then "true" else "false").toList := by
    unfold packPreconnect
    simp only [String.toList_append]
    rw [List.append_assoc]
    rfl
  have htrim : trimLine (packPreconnect ⟨url, crossorigin⟩).toList =
      (packPreconnect ⟨url, crossorigin⟩).toList := by
    refine @trimLine_of_ends _ (rest ++ '|' :: (if crossorigin then "true" else "false").toList)
      (url.toList ++ '|' :: init) 'h' 'e' ?_ ?_ (by decide) (by decide)
    · rw [htext, hurl]
      rfl
    · rw [htext, hinit]
      simp
  have hhref : Text.before '|' (packPreconnect ⟨url, crossorigin⟩).toList = url.toList := by
    rw [htext, Text.before_append hbar]
  have hafter : Text.after '|' (packPreconnect ⟨url, crossorigin⟩).toList =
      (if crossorigin then "true" else "false").toList := by
    rw [htext, Text.after_append hbar]
  have hne : (packPreconnect ⟨url, crossorigin⟩).toList ≠ [] := by
    rw [htext]
    simp
  unfold parsePreconnectLine
  dsimp only
  rw [htrim]
  change (if (packPreconnect ⟨url, crossorigin⟩).toList = [] then none
    else if isValidFontSourceUrl (String.ofList (Text.before '|'
        (packPreconnect ⟨url, crossorigin⟩).toList)) then
      some (BundleFontPreconnect.mk
        (String.ofList (Text.before '|' (packPreconnect ⟨url, crossorigin⟩).toList))
        (isTrue (String.ofList (Text.after '|' (packPreconnect ⟨url, crossorigin⟩).toList))))
    else none) = _
  rw [hhref, hafter, String.ofList_toList, String.ofList_toList, if_neg hne, if_pos hvalid]
  cases crossorigin with
  | true => rfl
  | false => rfl

theorem mem_parsePreconnectLines {lines : String} {preconnect : BundleFontPreconnect}
    (h : preconnect ∈ parsePreconnectLines lines) : '|' ∉ preconnect.url.toList := by
  rcases List.mem_filterMap.mp h with ⟨line, -, hparsed⟩
  unfold parsePreconnectLine at hparsed
  dsimp only at hparsed
  split at hparsed
  · cases hparsed
  split at hparsed
  · cases hparsed
    dsimp only
    rw [String.toList_ofList]
    exact Text.not_mem_before
  · cases hparsed

theorem parsePreconnectLines_packPreconnects {preconnects : List BundleFontPreconnect}
    (hvalid : forall p, p ∈ preconnects -> isValidFontSourceUrl p.url = true)
    (hbars : forall p, p ∈ preconnects -> '|' ∉ p.url.toList) :
    parsePreconnectLines (packPreconnects preconnects) = preconnects := by
  by_cases hnone : preconnects = []
  · rw [hnone]
    decide
  have hsplit : (packPreconnects preconnects).toList.splitOn '\n' =
      preconnects.map (fun p => (packPreconnect p).toList) := by
    unfold packPreconnects
    rw [toList_packLines, List.map_map]
    refine List.splitOn_intercalate '\n' (fun line hline => ?_) (by simpa using hnone)
    rcases List.mem_map.mp hline with ⟨p, hp, rfl⟩
    have hurl := (validUrl_chars (hvalid p hp)).2
    unfold packPreconnect
    simp only [Function.comp_apply, String.toList_append, List.mem_append]
    intro hmem
    rcases hmem with (hmem | hmem) | hmem
    · exact hurl hmem
    · exact absurd hmem (by decide)
    · cases hcross : p.crossorigin with
      | true =>
          rw [hcross] at hmem
          exact absurd hmem (by decide)
      | false =>
          rw [hcross] at hmem
          exact absurd hmem (by decide)
  unfold parsePreconnectLines
  rw [hsplit, List.filterMap_map]
  refine (List.filterMap_congr (fun p hp => ?_)).trans List.filterMap_some
  exact parsePreconnectLine_packPreconnect (hvalid p hp) (hbars p hp)

/-!
# The packings
-/

/-- Where each packing gives back what was packed. -/
theorem packings_iff (preconnects : List BundleFontPreconnect) (stored : String)
    (links : List (String × String)) :
    ((forall p, p ∈ preconnects -> isValidFontSourceUrl p.url = true) ->
      (parsePreconnectLines (packPreconnects preconnects) = preconnects <->
        forall p, p ∈ preconnects -> '|' ∉ p.url.toList)) ∧
    (normalizeLineEndings stored = stored -> stored.toList.getLast? ≠ some '\n' ->
      packLines (unpackLines stored) = stored ∧
        (packLabelledLinks (unpackLabelledLinks stored) = stored <->
          forall line, line ∈ unpackLines stored -> Not (EndsInFirstBar line))) ∧
    ((forall link, link ∈ links -> '\n' ∉ link.1.toList ∧ '\n' ∉ link.2.toList) ->
      (SameLinks (unpackLabelledLinks (packLabelledLinks links)) links <->
        forall link, link ∈ links ->
          '|' ∉ link.1.toList ∧ '\r' ∉ link.1.toList ∧ '\r' ∉ link.2.toList)) := by
  refine ⟨?_, ?_, ?_⟩
  · intro hvalid
    constructor
    · intro heq p hp
      rw [← heq] at hp
      exact mem_parsePreconnectLines hp
    · exact parsePreconnectLines_packPreconnects hvalid
  · intro hnormal hend
    exact ⟨packLines_unpackLines hnormal hend,
      packLabelledLinks_unpackLabelledLinks hnormal hend⟩
  · intro hlines
    constructor
    · intro hsame link hlink
      by_cases hempty : link = ("", "")
      · rw [hempty]
        exact ⟨List.not_mem_nil, List.not_mem_nil, List.not_mem_nil⟩
      · have hkept := @Text.mem_rdropWhile _
          (fun link : String × String => decide (link = ("", ""))) _ _ hlink
          (decide_eq_false hempty)
        unfold SameLinks at hsame
        rw [← hsame] at hkept
        exact mem_unpackLabelledLinks ((List.rdropWhile_prefix _ _).subset hkept)
    · intro h
      unfold SameLinks
      rw [unpackLabelledLinks_packLabelledLinks (fun link hlink => (h link hlink).1)
        (fun link hlink => ⟨hlines link hlink, (h link hlink).2⟩), List.rdropWhile_idempotent]

/-- A link to nowhere loses its bar. -/
theorem barAtEnd_notPacked : normalizeLineEndings "Imprint|" = "Imprint|" ∧
    "Imprint|".toList.getLast? ≠ some '\n' ∧
    Not (packLabelledLinks (unpackLabelledLinks "Imprint|") = "Imprint|") := by
  decide

end Branding
end ServerComponents
