import ServerComponents.Branding.ThemeImport

/-!
# Dry runs

What a dry run says is what the import would do, as long as the importers of the apps
raise nothing.
-/

namespace ServerComponents
namespace Branding

open Relational Control
open Rest (Json)

variable {app : Type}

/-!
# The sections
-/

section Sections

variable {sections : SectionRegistry app} {strictness : BundleStrictness} {merge : Bool}
  {bundle : ThemeBundle Json}

/-- The importers in turn throw nothing, refuse nothing and report nothing. -/
def QuietSections (sections : SectionRegistry app) (bundle : ThemeBundle Json) (merge : Bool) :
    List (String × Json) -> Site app -> Prop
  | [], _ => True
  | (name, body) :: rest, site =>
      match sections name with
      | none => QuietSections sections bundle merge rest site
      | some importer =>
          exists site', importer bundle body merge site = (.ok ("", []), site') ∧
            QuietSections sections bundle merge rest site'

theorem importSections_extends {entries : List (String × Json)} {problems : List BundleProblem}
    {site site' : Site app} {answer : String × List BundleProblem}
    (h : importSections sections strictness merge bundle entries problems site =
      (.ok answer, site')) :
    exists more, answer.2 = problems ++ more := by
  induction entries generalizing problems site with
  | nil =>
      cases h
      exact ⟨[], (List.append_nil problems).symm⟩
  | cons e rest ih =>
      rcases e with ⟨name, body⟩
      unfold importSections at h
      rcases hsection : sections name with _ | importer
      · rw [hsection] at h
        exact ih h
      · rw [hsection] at h
        dsimp only at h
        rcases himport : importer bundle body merge site with ⟨outcome, site₁⟩
        cases outcome with
        | error thrown =>
            rw [Work.bind_error himport] at h
            cases h
        | ok value =>
            rcases value with ⟨reason, own⟩
            rw [Work.bind_ok himport] at h
            dsimp only at h
            split at h
            · rcases ih h with ⟨more, hmore⟩
              exact ⟨own ++ more, by rw [hmore, List.append_assoc]⟩
            · split at h
              · cases h
                exact ⟨own, rfl⟩
              · rcases ih h with ⟨more, hmore⟩
                exact ⟨own ++ [⟨"section:" ++ name, "", reason⟩] ++ more,
                  by rw [hmore]; simp only [List.append_assoc]⟩

theorem importSections_quiet_iff {entries : List (String × Json)}
    {problems : List BundleProblem} {site : Site app} :
    (exists site', importSections sections strictness merge bundle entries problems site =
      (.ok ("", problems), site')) <->
      QuietSections sections bundle merge entries site := by
  induction entries generalizing problems site with
  | nil => simp [importSections, QuietSections]
  | cons e rest ih =>
      rcases e with ⟨name, body⟩
      unfold importSections QuietSections
      rcases sections name with _ | importer
      · exact ih
      · dsimp only
        rcases himport : importer bundle body merge site with ⟨outcome, site₁⟩
        cases outcome with
        | error thrown =>
            rw [Work.bind_error himport]
            constructor
            · rintro ⟨site', h⟩
              cases h
            · rintro ⟨site', h, _⟩
              cases h
        | ok value =>
            rcases value with ⟨reason, own⟩
            rw [Work.bind_ok himport]
            dsimp only
            by_cases hquiet : reason = "" ∧ own = []
            · rcases hquiet with ⟨hreason, hown⟩
              rw [if_pos hreason, hown, List.append_nil, ih, hreason]
              constructor
              · intro h
                exact ⟨site₁, rfl, h⟩
              · rintro ⟨site', h, hrest⟩
                cases h
                exact hrest
            · constructor
              · rintro ⟨site', h⟩
                exfalso
                apply hquiet
                split at h
                · rename_i hreason
                  rcases importSections_extends h with ⟨more, hmore⟩
                  have hnil : own ++ more = [] := by
                    have hlong : problems ++ [] = problems ++ (own ++ more) := by
                      rw [List.append_nil, ← List.append_assoc]
                      exact hmore
                    exact (List.append_cancel_left hlong).symm
                  exact ⟨hreason, (List.append_eq_nil_iff.mp hnil).1⟩
                · rename_i hreason
                  split at h
                  · simp only [Work.done_apply, Prod.mk.injEq, Except.ok.injEq] at h
                    exact absurd h.1.1 hreason
                  · rcases importSections_extends h with ⟨more, hmore⟩
                    have hlength := congrArg List.length hmore
                    simp only [List.length_append, List.length_cons, List.length_nil] at hlength
                    omega
              · rintro ⟨site', h, _⟩
                cases h
                exact absurd ⟨rfl, rfl⟩ hquiet

end Sections

/-!
# Dry runs
-/

section DryRuns

variable {sections : SectionRegistry app} {json : Json}
  {assets : SortedMap String FileBytes} {options : ThemeBundleImportOptions}

/-- A dry run writes nothing, and its report is that of the import. -/
def DryRunPredicts (sections : SectionRegistry app) (json : Json)
    (assets : SortedMap String FileBytes) (options : ThemeBundleImportOptions)
    (site : Site app) : Prop :=
  (importThemeBundleJson sections json assets { options with dryRun := true } site).2 = site ∧
    (importThemeBundleJson sections json assets { options with dryRun := true } site).1 =
      (importThemeBundleJson sections json assets { options with dryRun := false } site).1

/-- The importers of the apps, run in turn after the framework's half, are quiet. -/
def AppliesQuietly (sections : SectionRegistry app) (bundle : ThemeBundle Json) (merge : Bool)
    (site : Site app) : Prop :=
  QuietSections sections bundle merge bundle.appSections.entries (applyLook bundle merge site)

theorem decideImport_dryRun (dryRun : Bool) :
    decideImport sections json assets { options with dryRun := dryRun } =
      decideImport sections json assets options := rfl

theorem readImport_ok {bundle : ThemeBundle Json} {report : BundleImportReport}
    (h : readImport json assets = .ok (bundle, report)) : report.ok = false := by
  unfold readImport at h
  dsimp only at h
  split at h
  · cases h
  · split at h
    · cases h
    · cases h
      rfl

variable {bundle : ThemeBundle Json} {report : BundleImportReport}
  (h : decideImport sections json assets options = .ok (bundle, report))

include h in
theorem decideImport_ok : report.ok = false := by
  unfold decideImport at h
  split at h
  · cases h
  · rename_i raw first hread
    split at h
    · cases h
    · split at h
      · cases h
      · cases h
        have hok := readImport_ok hread
        exact hok

theorem finishReport_eq_iff {report : BundleImportReport} (hok : report.ok = false)
    (answer : String × List BundleProblem) :
    { report with ok := true } = finishReport report answer <->
      answer = ("", report.problems) := by
  rcases answer with ⟨error, problems⟩
  unfold finishReport
  split
  · rename_i herror
    dsimp only at herror
    rw [herror]
    constructor
    · intro h
      have hproblems := congrArg BundleImportReport.problems h
      dsimp only at hproblems
      rw [hproblems]
    · intro h
      cases h
      rfl
  · rename_i herror
    constructor
    · intro h
      have htrue : true = report.ok := congrArg BundleImportReport.ok h
      rw [hok] at htrue
      cases htrue
    · intro h
      cases h
      exact absurd rfl herror

include h in
theorem importThemeBundleJson_dryRun (site : Site app) :
    importThemeBundleJson sections json assets { options with dryRun := true } site =
      (.ok { report with ok := true }, site) := by
  unfold importThemeBundleJson
  rw [decideImport_dryRun true, h]
  rfl

include h in
theorem importThemeBundleJson_apply (site : Site app) :
    importThemeBundleJson sections json assets { options with dryRun := false } site =
      ((importSections sections options.strictness options.merge bundle
        bundle.appSections.entries report.problems).bind
          (fun answer => Work.done (finishReport report answer)))
            (applyLook bundle options.merge site) := by
  unfold importThemeBundleJson
  rw [decideImport_dryRun false, h]
  rfl

include h in
theorem dryRunPredicts_of_decided (site : Site app) :
    DryRunPredicts sections json assets options site <->
      AppliesQuietly sections bundle options.merge site := by
  have hok := decideImport_ok h
  unfold DryRunPredicts AppliesQuietly
  rw [importThemeBundleJson_dryRun h, importThemeBundleJson_apply h,
    ← @importSections_quiet_iff app sections options.strictness _ bundle _ report.problems]
  rcases himport : importSections sections options.strictness options.merge bundle
      bundle.appSections.entries report.problems (applyLook bundle options.merge site)
    with ⟨answered, site'⟩
  cases answered with
  | error thrown =>
      rw [Work.bind_error himport]
      constructor
      · rintro ⟨_, hreport⟩
        cases hreport
      · rintro ⟨_, hsite⟩
        cases hsite
  | ok answer =>
      rw [Work.bind_ok himport]
      constructor
      · rintro ⟨_, hreport⟩
        have hsame := (finishReport_eq_iff hok answer).mp (Except.ok.inj hreport)
        rw [hsame]
        exact ⟨site', rfl⟩
      · rintro ⟨_, hsite⟩
        cases hsite
        refine ⟨rfl, ?_⟩
        rw [(finishReport_eq_iff hok ("", report.problems)).mpr rfl]
        rfl

end DryRuns

/-- A theme file with a section of an app and nothing else. -/
def pageContentTheme : Json :=
  .obj [("format", .str "honuware.site-theme"), ("format_version", .int 1),
    ("page_content", .obj [])]

def skipsRow : SectionRegistry Unit := fun name =>
  if name = "page_content" then
    some (fun _ _ _ =>
      Work.done ("", [⟨"section:page_content", "row 3", "names a missing image."⟩]))
  else none

def emptySite : Site Unit := ⟨SortedMap.empty, SortedMap.empty, SiteFonts.empty, ()⟩

end Branding
end ServerComponents
