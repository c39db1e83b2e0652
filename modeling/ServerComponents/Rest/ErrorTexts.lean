import ServerComponents.Rest.Endpoints

/-!
# What becomes of error texts

Two runs of a request whose exceptions differ in their texts.  The catch clauses choose
by the type, so the status and the headers do not tell the runs apart; the body does
where a clause writes the text into it.
-/

namespace ServerComponents
namespace Rest

open Control

def SameType (t t' : Thrown) : Prop := t.type = t'.type

structure Exchange.SameButText (x x' : Exchange) : Prop where
  segments : x.segments = x'.segments
  body : x.body = x'.body
  setup : Work.Alike SameType x.setup x'.setup
  parse : Work.Alike SameType x.parse x'.parse
  work : forall k, Work.Alike SameType (x.work k) (x'.work k)
  importBundle : Work.Alike SameType x.importBundle x'.importBundle

section Inner

variable {x x' : Exchange}

theorem alike_andThen {first first' rest rest' : Handling (Option Json)}
    (hfirst : Work.Alike SameType first first') (hrest : Work.Alike SameType rest rest') :
    Work.Alike SameType (andThen first rest) (andThen first' rest') := by
  apply hfirst.bind
  intro result
  cases result with
  | some value => exact Work.alike_done _
  | none => exact hrest

theorem isException_congr {t t' : Thrown} (h : SameType t t') :
    t.isException = t'.isException := by
  unfold Thrown.isException
  rw [h]

theorem alike_same {a : Type} (w : Handling a) : Work.Alike SameType w w := by
  apply Work.Alike.refl
  intro t
  show t.type = t.type
  rfl

theorem alike_guarded (h : x.SameButText x') (resp : Response) :
    Work.Alike SameType (guarded resp x) (guarded resp x') := by
  apply (h.work 0).catching
  intro c hc t t' _
  rw [List.mem_singleton.mp hc]
  exact ⟨rfl, alike_same _⟩

theorem alike_loginInner (h : x.SameButText x') :
    Work.Alike SameType (loginInner x) (loginInner x') := by
  apply alike_andThen (h.work 0)
  apply alike_andThen _ (h.work 2)
  apply (h.work 1).catching
  intro c hc t t' hsame
  rcases List.mem_pair.mp hc with hc | hc
  · rw [hc]
    refine ⟨by dsimp only; rw [hsame], ?_⟩
    intro resp
    exact Work.SameEnd.error resp hsame
  · rw [hc]
    exact ⟨rfl, alike_same _⟩

theorem alike_registerInner (h : x.SameButText x') :
    Work.Alike SameType (registerInner x) (registerInner x') := by
  apply alike_andThen (h.work 0)
  apply alike_andThen _ (h.work 2)
  apply (h.work 1).catching
  intro c hc t t' hsame
  rw [List.mem_singleton.mp hc]
  exact ⟨isException_congr hsame, alike_same _⟩

theorem alike_verifyInner (h : x.SameButText x') :
    Work.Alike SameType (verifyInner x) (verifyInner x') := by
  apply alike_andThen (h.work 0)
  apply alike_andThen
  · apply (h.work 1).catching
    intro c hc t t' hsame
    rw [List.mem_singleton.mp hc]
    exact ⟨isException_congr hsame, alike_same _⟩
  · apply alike_andThen _ (h.work 3)
    apply (h.work 2).catching
    intro c hc t t' hsame
    rw [List.mem_singleton.mp hc]
    exact ⟨rfl, alike_same _⟩

theorem alike_importTransaction (h : x.SameButText x') :
    Work.Alike SameType (importTransaction x) (importTransaction x') := by
  apply alike_andThen (h.work 0)
  apply h.importBundle.bind
  intro report
  exact alike_same _

end Inner

/-!
# The try block
-/

section TryBlock

variable {h : Handler} {x x' : Exchange}

theorem alike_call (hinner : Work.Alike SameType (h.inner x) (h.inner x')) :
    Work.Alike SameType (h.call x) (h.call x') :=
  hinner.bind (fun _ => alike_same _)

theorem alike_tryBlock (hx : x.SameButText x')
    (hinner : Work.Alike SameType (h.inner x) (h.inner x')) :
    Work.Alike SameType (h.tryBlock x) (h.tryBlock x') := by
  have hcall : Work.Alike SameType (x.parse.bind (fun _ => h.call x))
      (x'.parse.bind (fun _ => h.call x')) :=
    hx.parse.bind (fun _ => alike_call hinner)
  apply hx.setup.bind
  intro value
  cases h.emptyBody with
  | unchecked => exact alike_call hinner
  | returns detail =>
      dsimp only
      rw [hx.body]
      split
      · exact alike_same _
      · exact hcall
  | endsAndReturns detail =>
      dsimp only
      rw [hx.body]
      split
      · exact alike_same _
      · exact hcall
  | branches detail =>
      dsimp only
      rw [hx.body]
      split
      · exact alike_same _
      · exact hcall

end TryBlock

/-!
# The catch clauses
-/

/-- Responses that differ in their bodies at most. -/
structure SameHead (resp resp' : Response) : Prop where
  status : resp.status = resp'.status
  headers : resp.headers = resp'.headers

namespace CatchStyle

/-- No clause writes the text of this exception into the response. -/
def Quiet (style : CatchStyle) (t : Thrown) : Prop :=
  style ≠ .echoes ∧ (style = .echoesInvalidArgument -> t.type ≠ .invalidArgument)

variable {style : CatchStyle} {c : Clause Response Thrown Flow} {t t' : Thrown}

theorem catches_congr (hc : c ∈ style.clauses) (h : SameType t t') :
    c.catches t = c.catches t' := by
  have htype : forall type : ExceptionType, (t.type == type) = (t'.type == type) := by
    intro type
    rw [h]
  cases style with
  | echoes =>
      rw [List.mem_singleton.mp hc]
      exact isException_congr h
  | internalError =>
      rw [List.mem_singleton.mp hc]
      exact isException_congr h
  | notAuthenticated =>
      rw [List.mem_singleton.mp hc]
      rfl
  | ok =>
      rw [List.mem_singleton.mp hc]
      rfl
  | echoesInvalidArgument =>
      rcases List.mem_pair.mp hc with hc | hc <;> rw [hc]
      · exact htype _
      · exact isException_congr h
  | signIn =>
      rcases List.mem_pair.mp hc with hc | hc <;> rw [hc]
      · exact htype _
      · exact isException_congr h

/-- A clause answers texts of one type with one status and the same headers, and with one
response where it is quiet. -/
theorem respond_congr (hc : c ∈ style.clauses) (hcatches : c.catches t = true)
    (t' : Thrown) (resp : Response) :
    exists answer answer', c.body t resp = (.ok .fallsThrough, answer) ∧
      c.body t' resp = (.ok .fallsThrough, answer') ∧ SameHead answer answer' ∧
      (style.Quiet t -> answer = answer') := by
  have hhead : forall code detail detail', SameHead (ErrorResponse.create code detail [])
      (ErrorResponse.create code detail' []) :=
    fun _ _ _ => ⟨rfl, rfl⟩
  cases style with
  | echoes =>
      rw [List.mem_singleton.mp hc]
      refine ⟨_, _, rfl, rfl, hhead _ _ _, ?_⟩
      intro hquiet
      exact absurd rfl hquiet.1
  | internalError =>
      rw [List.mem_singleton.mp hc]
      exact ⟨_, _, rfl, rfl, ⟨rfl, rfl⟩, fun _ => rfl⟩
  | notAuthenticated =>
      rw [List.mem_singleton.mp hc]
      exact ⟨_, _, rfl, rfl, ⟨rfl, rfl⟩, fun _ => rfl⟩
  | ok =>
      rw [List.mem_singleton.mp hc]
      exact ⟨_, _, rfl, rfl, ⟨rfl, rfl⟩, fun _ => rfl⟩
  | echoesInvalidArgument =>
      rcases List.mem_pair.mp hc with hc | hc
      · rw [hc] at hcatches ⊢
        refine ⟨_, _, rfl, rfl, hhead _ _ _, ?_⟩
        intro hquiet
        exact absurd (by simpa using hcatches) (hquiet.2 rfl)
      · rw [hc]
        exact ⟨_, _, rfl, rfl, ⟨rfl, rfl⟩, fun _ => rfl⟩
  | signIn =>
      rcases List.mem_pair.mp hc with hc | hc <;> rw [hc] <;>
        exact ⟨_, _, rfl, rfl, ⟨rfl, rfl⟩, fun _ => rfl⟩

end CatchStyle

/-!
# The answers
-/

section Answers

variable {urlDecode : String -> Except Thrown String} {h : Handler} {x x' : Exchange}

def AgreeWhen (condition : Prop) (a a' : Answer) : Prop :=
  SameHead a.response a'.response ∧ (condition -> a.response = a'.response)

theorem agreeWhen_refl (condition : Prop) (a : Answer) : AgreeWhen condition a a :=
  ⟨⟨rfl, rfl⟩, fun _ => rfl⟩

theorem answer_congr (hx : x.SameButText x')
    (hend : Work.SameEnd SameType (h.tryBlock x (Response.ofStatus 200))
      (h.tryBlock x' (Response.ofStatus 200))) :
    AgreeWhen (forall t, h.raised x = some t -> h.catches.Quiet t)
      (h.answer urlDecode x) (h.answer urlDecode x') := by
  have hsegments : h.decodeSegments urlDecode x = h.decodeSegments urlDecode x' := by
    unfold Handler.decodeSegments
    rw [hx.segments]
  unfold Handler.answer
  rw [← hsegments]
  cases h.decodeSegments urlDecode x with
  | error t => exact agreeWhen_refl _ _
  | ok segments =>
  dsimp only
  rcases htry : h.tryBlock x (Response.ofStatus 200) with ⟨outcome, resp⟩
  rcases htry' : h.tryBlock x' (Response.ofStatus 200) with ⟨outcome', resp'⟩
  rw [htry, htry'] at hend
  cases hend with
  | ok flow =>
      rw [Work.catching_ok htry, Work.catching_ok htry']
      exact agreeWhen_refl _ _
  | @error t t' _ hsame =>
      have hraised : h.raised x = some t := by
        unfold Handler.raised
        rw [htry]
        rfl
      rw [Work.catching_error htry, Work.catching_error htry']
      have hchoice : h.catches.clauses.find? (fun c => c.catches t) =
          h.catches.clauses.find? (fun c => c.catches t') :=
        List.find?_congr (fun c hc => CatchStyle.catches_congr hc hsame)
      rw [← hchoice]
      cases hfind : h.catches.clauses.find? (fun c => c.catches t) with
      | none => exact ⟨⟨rfl, rfl⟩, fun _ => rfl⟩
      | some c =>
          have hcatches : c.catches t = true := by
            simpa using List.find?_some hfind
          rcases CatchStyle.respond_congr (List.mem_of_find?_eq_some hfind) hcatches t' resp
            with ⟨answer, answer', hbody, hbody', hhead, hequal⟩
          dsimp only
          rw [hbody, hbody']
          exact ⟨hhead, fun hquiet => hequal (hquiet t hraised)⟩

/-!
# The import
-/

def ImportQuiet (x : Exchange) : Prop :=
  forall resp resp' t, x.setup (Response.ofStatus 200) = (.ok (), resp) ->
    importTransaction x resp = (.error t, resp') -> t.isException = false

theorem importFailed_head (t t' : Thrown) (resp : Response) :
    exists result result' answer answer',
      importFailed t resp = (.ok (some result), answer) ∧
        importFailed t' resp = (.ok (some result'), answer') ∧
        answer.status = 500 ∧ SameHead answer answer' := by
  have hcontext : forall serverContext, ErrorResponse.internalError serverContext =
      ErrorResponse.internalError "" :=
    fun _ => rfl
  have hstopped : forall t, importFailed t resp =
      (.ok (some (bundleImportReportToJson (importFailure t.what))),
        (((ErrorResponse.internalError "").setHeader "Content-Type" "application/json").write
          (bundleImportReportToJson (importFailure t.what)).toText).setCode 500) := by
    intro t
    unfold importFailed
    rw [hcontext]
    rfl
  refine ⟨_, _, _, _, hstopped t, hstopped t', by simp [Response.setCode], ?_⟩
  constructor <;> simp [Response.setCode, Response.write]

theorem runImport_error {resp resp' : Response} {t : Thrown}
    (himport : importTransaction x resp = (.error t, resp')) :
    runImport x resp =
      if t.isException then importFailed t resp' else (.error t, resp') := by
  unfold runImport
  rw [Work.catching_error himport]
  by_cases hexception : t.isException = true
  · simp [catchException, hexception]
  · simp [catchException, hexception]

theorem AgreeWhen.mono {condition condition' : Prop} {a a' : Answer}
    (h : AgreeWhen condition a a') (himp : condition' -> condition) :
    AgreeWhen condition' a a' :=
  ⟨h.1, fun hcondition => h.2 (himp hcondition)⟩

open ManageSiteThemeBundle in
theorem tryBlock_import {resp resp' : Response} (hsetup : x.setup resp = (.ok (), resp')) :
    handlePost.tryBlock x resp =
      match runImport x resp' with
      | (.ok result, answer) =>
          (.ok .fallsThrough, Finish.apply (result.getD .null) .jsonIfOk answer)
      | (.error t, answer) => (.error t, answer) := by
  show (x.setup.bind (fun _ => handlePost.call x)) resp = _
  rw [Work.bind, hsetup]
  show ((runImport x).bind _) resp' = _
  rw [Work.bind]
  rcases runImport x resp' with ⟨outcome, answer⟩
  cases outcome <;> rfl

open ManageSiteThemeBundle in
theorem import_congr (hx : x.SameButText x') :
    AgreeWhen
      ((forall t, handlePost.raised x = some t -> handlePost.catches.Quiet t) ∧ ImportQuiet x)
      (handlePost.answer urlDecode x) (handlePost.answer urlDecode x') := by
  have hsetup := hx.setup (Response.ofStatus 200)
  have hfirst : Work.SameEnd SameType (handlePost.tryBlock x (Response.ofStatus 200))
        (handlePost.tryBlock x' (Response.ofStatus 200)) ->
      AgreeWhen
        ((forall t, handlePost.raised x = some t -> handlePost.catches.Quiet t) ∧
          ImportQuiet x)
        (handlePost.answer urlDecode x) (handlePost.answer urlDecode x') :=
    fun hend => (answer_congr hx hend).mono And.left
  rcases hout : x.setup (Response.ofStatus 200) with ⟨outcome, resp⟩
  rcases hout' : x'.setup (Response.ofStatus 200) with ⟨outcome', resp'⟩
  rw [hout, hout'] at hsetup
  cases hsetup with
  | @error t t' _ hsame =>
      apply hfirst
      show Work.SameEnd SameType ((x.setup.bind (fun _ => handlePost.call x)) _)
        ((x'.setup.bind (fun _ => handlePost.call x')) _)
      rw [Work.bind, Work.bind, hout, hout']
      exact Work.SameEnd.error resp hsame
  | ok value =>
  have himport := alike_importTransaction hx resp
  rcases htransaction : importTransaction x resp with ⟨result, resp₁⟩
  rcases htransaction' : importTransaction x' resp with ⟨result', resp₁'⟩
  rw [htransaction, htransaction'] at himport
  cases himport with
  | ok value =>
      apply hfirst
      rw [tryBlock_import hout, tryBlock_import hout', runImport, runImport,
        Work.catching_ok htransaction, Work.catching_ok htransaction']
      exact Work.SameEnd.ok _ _
  | @error t t' _ hsame =>
      have hrun := runImport_error htransaction
      have hrun' := runImport_error htransaction'
      rw [← isException_congr hsame] at hrun'
      by_cases hexception : t.isException = true
      · rw [if_pos hexception] at hrun hrun'
        rcases importFailed_head t t' resp₁ with
          ⟨result, result', answer, answer', hfailed, hfailed', hstatus, hhead⟩
        rw [hfailed] at hrun
        rw [hfailed'] at hrun'
        have hstatus' : answer'.status = 500 := by rw [← hhead.status, hstatus]
        have htry : handlePost.tryBlock x (Response.ofStatus 200) =
            (.ok .fallsThrough, answer) := by
          rw [tryBlock_import hout, hrun]
          simp [Finish.apply, hstatus]
        have htry' : handlePost.tryBlock x' (Response.ofStatus 200) =
            (.ok .fallsThrough, answer') := by
          rw [tryBlock_import hout', hrun']
          simp [Finish.apply, hstatus']
        constructor
        · unfold Handler.answer
          rw [Work.catching_ok htry, Work.catching_ok htry']
          exact hhead
        · intro hquiet
          rw [hquiet.2 resp resp₁ t hout htransaction] at hexception
          cases hexception
      · rw [if_neg hexception] at hrun hrun'
        apply hfirst
        rw [tryBlock_import hout, tryBlock_import hout', hrun, hrun']
        exact Work.SameEnd.error resp₁ hsame

end Answers

def Endpoint.importsTheme : Endpoint -> Bool
  | postManageSiteThemeBundleValidate => true
  | postManageSiteThemeBundle => true
  | _ => false

theorem alike_inner {x x' : Exchange} (hx : x.SameButText x') {e : Endpoint}
    (he : e.importsTheme = false) :
    Work.Alike SameType (e.handler.inner x) (e.handler.inner x') := by
  cases e with
  | postManageSiteThemeBundleValidate => cases he
  | postManageSiteThemeBundle => cases he
  | login => exact alike_loginInner hx
  | register => exact alike_registerInner hx
  | verify => exact alike_verifyInner hx
  | getUserInfo => exact alike_guarded hx _
  | setUserInfo => exact alike_guarded hx _
  | updateUserPassword => exact alike_guarded hx _
  | me => exact alike_guarded hx _
  | remember => exact alike_guarded hx _
  | logout => exact alike_guarded hx _
  | _ => exact hx.work 0

/-- Runs that differ in error texts have answers with one status and the same headers, and
the same answer where no text reaches a clause that writes it. -/
theorem errorTexts (urlDecode : String -> Except Thrown String) (e : Endpoint)
    (x x' : Exchange) (hx : x.SameButText x') :
    SameHead (e.handler.answer urlDecode x).response (e.handler.answer urlDecode x').response ∧
      ((forall t, e.handler.raised x = some t -> e.handler.catches.Quiet t) ->
        (e.importsTheme = true -> ImportQuiet x) ->
        (e.handler.answer urlDecode x).response =
          (e.handler.answer urlDecode x').response) := by
  cases he : e.importsTheme with
  | true =>
      have hhandler : e.handler = ManageSiteThemeBundle.handlePost := by
        cases e with
        | postManageSiteThemeBundleValidate => rfl
        | postManageSiteThemeBundle => rfl
        | _ => cases he
      rw [hhandler]
      have hagree := @import_congr urlDecode x x' hx
      exact ⟨hagree.1, fun hraised himport => hagree.2 ⟨hraised, himport rfl⟩⟩
  | false =>
      have hagree := @answer_congr urlDecode _ x x' hx
        (alike_tryBlock hx (alike_inner hx he) (Response.ofStatus 200))
      exact ⟨hagree.1, fun hraised _ => hagree.2 hraised⟩

/-!
# A theme that could not be applied
-/

/-- A request whose work fails in the database with this text. -/
def failingRequest (what : String) : Exchange where
  segments := []
  body := "theme"
  setup := pure ()
  parse := pure ()
  work := fun _ => pure none
  importBundle := Work.raise ⟨.failure, what⟩

theorem sameButText_failingRequest (what what' : String) :
    (failingRequest what).SameButText (failingRequest what') where
  segments := rfl
  body := rfl
  setup := alike_same _
  parse := alike_same _
  work := fun _ => alike_same _
  importBundle := fun resp => Work.SameEnd.error resp rfl

theorem quoted_length (text text' : String) :
    (Json.quoted (text ++ text')).length =
      (Json.quoted text).length + (text'.toList.flatMap Json.escapeChar).length := by
  simp only [Json.quoted, String.length_ofList, String.toList_append, List.flatMap_append,
    List.length_cons, List.length_append]
  omega

theorem report_length (what : String) :
    (bundleImportReportToJson (importFailure what)).toText.length =
      (bundleImportReportToJson (importFailure "")).toText.length +
        (what.toList.flatMap Json.escapeChar).length := by
  have herror : forall what, Not ((importFailure what).error = "") := by
    intro what hempty
    have hlength := congrArg String.length hempty
    simp [importFailure] at hlength
  have herrors : forall what, (Json.quoted (importFailure what).error).length =
      (Json.quoted "The theme file could not be applied: ").length +
        (what.toList.flatMap Json.escapeChar).length :=
    fun what => quoted_length _ what
  unfold bundleImportReportToJson
  rw [if_neg (herror what), if_neg (herror "")]
  simp only [List.cons_append, List.nil_append, Json.toText, Json.membersOf,
    String.intercalate_cons_cons, String.length_append, herrors]
  have hrest : forall what, (importFailure what).ok = false := fun _ => rfl
  rw [hrest what, hrest ""]
  simp only [importFailure, String.toList_empty, List.flatMap_nil, List.length_nil]
  omega

theorem answer_failingRequest (urlDecode : String -> Except Thrown String) (what : String) :
    (Endpoint.postManageSiteThemeBundle.handler.answer urlDecode (failingRequest what)).response
      = (((ErrorResponse.internalError "").setHeader "Content-Type" "application/json").write
          (bundleImportReportToJson (importFailure what)).toText).setCode 500 := rfl

/-- The report of an import tells the texts apart. -/
theorem errorTexts_import :
    Not (forall (urlDecode : String -> Except Thrown String) (e : Endpoint)
      (x x' : Exchange), x.SameButText x' ->
        (e.handler.answer urlDecode x).response =
          (e.handler.answer urlDecode x').response) := by
  intro h
  have hsame := h .ok .postManageSiteThemeBundle (failingRequest "a") (failingRequest "ab")
    (sameButText_failingRequest "a" "ab")
  rw [answer_failingRequest, answer_failingRequest] at hsame
  have hlength := congrArg (fun resp => resp.body.length) hsame
  simp only [Response.setCode_body, Response.write_body, String.length_append,
    report_length "a", report_length "ab"] at hlength
  have hshort : ("a".toList.flatMap Json.escapeChar).length = 1 := by decide
  have hlong : ("ab".toList.flatMap Json.escapeChar).length = 2 := by decide
  omega

/-- A request whose work throws in the database before it has answered. -/
def throwingRequest (what : String) : Exchange :=
  { failingRequest what with work := fun _ => Work.raise ⟨.failure, what⟩ }

theorem sameButText_throwingRequest (what what' : String) :
    (throwingRequest what).SameButText (throwingRequest what') :=
  { sameButText_failingRequest what what' with
    work := fun _ resp => Work.SameEnd.error resp rfl }

/-- A request for a reset that fails in the database is answered with 500, whatever the
database says. -/
theorem errorTexts_sample :
    Endpoint.forgotPassword.handler.raised (throwingRequest "a") = some ⟨.failure, "a"⟩ ∧
      (Endpoint.forgotPassword.handler.answer .ok (throwingRequest "a")).response.status = 500 ∧
      (Endpoint.forgotPassword.handler.answer .ok (throwingRequest "a")).response =
        (Endpoint.forgotPassword.handler.answer .ok (throwingRequest "ab")).response := by
  have hraised : Endpoint.forgotPassword.handler.raised (throwingRequest "a") =
      some ⟨.failure, "a"⟩ := rfl
  refine ⟨hraised, rfl, ?_⟩
  apply (errorTexts .ok .forgotPassword _ _ (sameButText_throwingRequest "a" "ab")).2
  · intro t ht
    rw [hraised] at ht
    cases ht
    exact ⟨by decide, fun hechoes => by cases hechoes⟩
  · intro himports
    cases himports

end Rest
end ServerComponents
