import ServerComponents.Text.HeaderBlocks
import ServerComponents.Scheduler.JobScheduler

/-!
# Keys of targets

The key of a target is its url, its email and its password on lines of their own, and then
the lines of its headers.  The password and the headers may have line breaks themselves, and
then the key does not show where they begin.
-/

namespace ServerComponents
namespace Scheduler

open HeaderBlocks

def OneLine (text : String) : Prop :=
  '\n' ∉ text.toList

instance (text : String) : Decidable (OneLine text) :=
  inferInstanceAs (Decidable (Not ('\n' ∈ text.toList)))

/-- The jobs run with the same credentials and login headers. -/
structure SameTarget (a b : ScheduledJob) : Prop where
  serverUrl : a.serverUrl = b.serverUrl
  serviceAccountEmail : a.serviceAccountEmail = b.serviceAccountEmail
  serviceAccountPassword : a.serviceAccountPassword = b.serviceAccountPassword
  headers : a.headers = b.headers

/-- A line break with a colon and a blank on the line behind it. -/
def HasHeaderLine (text : String) : Prop :=
  exists before line after, text.toList = before ++ '\n' :: (line ++ ':' :: ' ' :: after) ∧
    '\n' ∉ line

/-- No line of the password or of a header's value reads like a header, and the names are
texts of one line without a colon and a blank in them. -/
structure PlainTarget (job : ScheduledJob) : Prop where
  serviceAccountPassword : Not (HasHeaderLine job.serviceAccountPassword)
  names : forall h, h ∈ job.headers -> OneLine h.1 ∧ Not ([':', ' '] <:+: h.1.toList)
  values : forall h, h ∈ job.headers -> Not (HasHeaderLine h.2)

/-!
## The key as a block of headers
-/

def headerText (h : String × String) : Header :=
  (h.1.toList, h.2.toList)

theorem headerText_injective : Function.Injective headerText := by
  intro h h' heq
  exact Prod.ext (String.toList_injective (congrArg Prod.fst heq))
    (String.toList_injective (congrArg Prod.snd heq))

theorem targetKey_toList (job : ScheduledJob) :
    (targetKey job).toList = job.serverUrl.toList ++ '\n' ::
      (job.serviceAccountEmail.toList ++ '\n' ::
        block job.serviceAccountPassword.toList (job.headers.map headerText)) := by
  have hheaders : forall (headers : List (String × String)) (key : String),
      (headers.foldl (fun key h => key ++ "\n" ++ h.1 ++ ": " ++ h.2) key).toList =
        block key.toList (headers.map headerText) := by
    intro headers
    induction headers with
    | nil => simp [block]
    | cons h headers ih =>
        intro key
        rw [List.foldl_cons, ih]
        simp [block, written, headerText]
  unfold targetKey
  rw [hheaders]
  simp [block]

theorem cutHeader_eq_none_iff {text : List Char} :
    cutHeader text = none <->
      Not (exists line after, text = line ++ ':' :: ' ' :: after ∧ '\n' ∉ line) := by
  constructor
  · rintro hcut ⟨line, after, rfl, hline⟩
    induction line with
    | nil => simp [cutHeader] at hcut
    | cons c line ih =>
        rw [List.cons_append] at hcut
        have hc : c ≠ '\n' := fun heq => hline (heq ▸ List.mem_cons_self)
        have hrest : '\n' ∉ line := fun hmem => hline (List.mem_cons_of_mem _ hmem)
        unfold cutHeader at hcut
        split at hcut
        · rename_i heq
          simp at heq
        · rename_i heq
          exact hc (List.cons.inj heq).1
        · simp at hcut
        · rename_i heq
          rcases List.cons.inj heq with ⟨rfl, rfl⟩
          exact ih hrest (Option.map_eq_none_iff.mp hcut)
  · intro h
    cases hcut : cutHeader text with
    | none => rfl
    | some header =>
        have hline := (plain_of_cutHeader hcut).1
        exact absurd ⟨header.1, header.2, (written_of_cutHeader hcut).symm, hline⟩ h

theorem noHeader_iff (text : String) : NoHeader text.toList <-> Not (HasHeaderLine text) := by
  constructor
  · rintro h ⟨before, line, after, htext, hline⟩
    exact cutHeader_eq_none_iff.mp (h before _ htext) ⟨line, after, rfl, hline⟩
  · intro h before after htext
    rw [cutHeader_eq_none_iff]
    rintro ⟨line, rest, rfl, hline⟩
    exact h ⟨before, line, rest, htext, hline⟩

theorem plainTarget_iff (job : ScheduledJob) :
    PlainTarget job <->
      Plain job.serviceAccountPassword.toList (job.headers.map headerText) := by
  constructor
  · intro h
    refine ⟨(noHeader_iff _).mpr h.serviceAccountPassword, fun header hmem => ?_⟩
    rcases List.mem_map.mp hmem with ⟨h', hmem', rfl⟩
    exact ⟨(h.names h' hmem').1, (h.names h' hmem').2,
      (noHeader_iff _).mpr (h.values h' hmem')⟩
  · intro h
    have hheader : forall h', h' ∈ job.headers -> PlainHeader (headerText h') :=
      fun h' hmem => h.headers _ (List.mem_map_of_mem hmem)
    refine ⟨(noHeader_iff _).mp h.text, fun h' hmem => ?_, fun h' hmem => ?_⟩
    · exact ⟨(hheader h' hmem).oneLine, (hheader h' hmem).unmarked⟩
    · exact (noHeader_iff _).mp (hheader h' hmem).value

theorem append_break_inj {line line' rest rest' : List Char} (hline : '\n' ∉ line)
    (hline' : '\n' ∉ line') (h : line ++ '\n' :: rest = line' ++ '\n' :: rest') :
    line = line' ∧ rest = rest' := by
  induction line generalizing line' with
  | nil =>
      cases line' with
      | nil => exact ⟨rfl, (List.cons.inj h).2⟩
      | cons c line' => exact absurd ((List.cons.inj h).1 ▸ List.mem_cons_self) hline'
  | cons c line ih =>
      cases line' with
      | nil => exact absurd ((List.cons.inj h).1 ▸ List.mem_cons_self) hline
      | cons c' line' =>
          rcases List.cons.inj h with ⟨rfl, htail⟩
          have hinj := ih (fun hmem => hline (List.mem_cons_of_mem _ hmem))
            (fun hmem => hline' (List.mem_cons_of_mem _ hmem)) htail
          exact ⟨by rw [hinj.1], hinj.2⟩

/-!
# Shared keys
-/

/-- The target with the same key that its key reads as. -/
def rewritten (job : ScheduledJob) : ScheduledJob :=
  let parts := readBlock (block job.serviceAccountPassword.toList (job.headers.map headerText))
  { job with
    serviceAccountPassword := String.ofList parts.1
    headers := parts.2.map (fun h => (String.ofList h.1, String.ofList h.2)) }

theorem headerText_ofList (headers : List Header) :
    (headers.map fun h => (String.ofList h.1, String.ofList h.2)).map headerText = headers := by
  rw [List.map_map]
  conv => rhs; rw [<- List.map_id headers]
  refine List.map_congr_left fun h _ => ?_
  simp [headerText]

theorem targetKey_rewritten (job : ScheduledJob) :
    targetKey (rewritten job) = targetKey job := by
  rw [<- String.toList_inj, targetKey_toList, targetKey_toList]
  simp only [rewritten, headerText_ofList, String.toList_ofList, block_readBlock]

theorem plainTarget_rewritten (job : ScheduledJob) : PlainTarget (rewritten job) := by
  rw [plainTarget_iff]
  simp only [rewritten, headerText_ofList, String.toList_ofList]
  exact plain_readBlock _

theorem PlainTarget.of_same {a b : ScheduledJob} (h : PlainTarget a) (hsame : SameTarget a b) :
    PlainTarget b where
  serviceAccountPassword := hsame.serviceAccountPassword ▸ h.serviceAccountPassword
  names := hsame.headers ▸ h.names
  values := hsame.headers ▸ h.values

/-- A plain target has its key for itself among the plain ones, and every other target shares
its key with a plain one that is different. -/
theorem targetKey_separates_iff {job : ScheduledJob} (hurl : OneLine job.serverUrl)
    (hemail : OneLine job.serviceAccountEmail) :
    (forall other : ScheduledJob, OneLine other.serverUrl -> OneLine other.serviceAccountEmail ->
        PlainTarget other -> targetKey other = targetKey job -> SameTarget other job) <->
      PlainTarget job := by
  constructor
  · intro h
    have hplain := plainTarget_rewritten job
    exact hplain.of_same (h (rewritten job) hurl hemail hplain (targetKey_rewritten job))
  · intro hjob other hurl' hemail' hother hkey
    have htext := congrArg String.toList hkey
    rw [targetKey_toList, targetKey_toList] at htext
    rcases append_break_inj hurl' hurl htext with ⟨hsameUrl, hrest⟩
    rcases append_break_inj hemail' hemail hrest with ⟨hsameEmail, hblock⟩
    rcases block_injective ((plainTarget_iff other).mp hother) ((plainTarget_iff job).mp hjob)
      hblock with ⟨hpassword, hheaders⟩
    exact ⟨String.toList_injective hsameUrl, String.toList_injective hsameEmail,
      String.toList_injective hpassword, headerText_injective.list_map hheaders⟩

/-- A service account of one tenant, whose password goes on like the header of the tenant. -/
def tenantJob : ScheduledJob :=
  ⟨"refresh", "POST", "/api/refresh", 60, "https://honuware.test", "jobs@honuware.test",
    "secret", [("X-Honuware-Site", "studio")]⟩

def controlJob : ScheduledJob :=
  { tenantJob with
    serviceAccountPassword := "secret\nX-Honuware-Site: studio", headers := [] }

theorem targetKey_tenantJob_controlJob :
    OneLine tenantJob.serverUrl ∧ OneLine tenantJob.serviceAccountEmail ∧
      OneLine controlJob.serverUrl ∧ OneLine controlJob.serviceAccountEmail ∧
      targetKey tenantJob = targetKey controlJob ∧ Not (SameTarget tenantJob controlJob) := by
  refine ⟨by decide, by decide, by decide, by decide, by decide, fun h => ?_⟩
  exact absurd h.headers (by decide)

theorem targetKey_separates_tenantJob :
    PlainTarget tenantJob ∧
      forall other : ScheduledJob, OneLine other.serverUrl -> OneLine other.serviceAccountEmail ->
        PlainTarget other -> targetKey other = targetKey tenantJob ->
          SameTarget other tenantJob := by
  have hheader : forall text : String, OneLine text -> Not (HasHeaderLine text) := by
    rintro text hline ⟨before, line, after, htext, -⟩
    exact hline (by rw [htext]; simp)
  have hplain : PlainTarget tenantJob := by
    refine ⟨hheader _ (by decide), ?_, ?_⟩
    · intro h hmem
      obtain rfl := List.mem_singleton.mp hmem
      exact ⟨by decide, by decide⟩
    · intro h hmem
      obtain rfl := List.mem_singleton.mp hmem
      exact hheader _ (by decide)
  exact ⟨hplain, (targetKey_separates_iff (by decide) (by decide)).mpr hplain⟩

end Scheduler
end ServerComponents
