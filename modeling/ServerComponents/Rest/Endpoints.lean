import ServerComponents.Rest.Handlers

/-!
# Every request is answered once

The handlers of all registered routes.  Where a handler returns on an empty body it skips
`resp.end()`; the two resets branch instead, and the two updates of a user end the
response before they return.
-/

namespace ServerComponents
namespace Rest

open Control

/-- The registered routes that take the response object. -/
inductive Endpoint where
  | accountActivation
  | addItem
  | addItemFetchPrimaryKey
  | getDbSchema
  | deleteItem
  | deletePhoto
  | forgotPassword
  | getFilteredTableRows
  | getFkOptions
  | getPhoto
  | getRow
  | getRowByValues
  | getRowsByColumn
  | getScaledPhoto
  | getTableRows
  | getUserInfo
  | hasPhoto
  | health
  | login
  | logout
  | getManageSiteFonts
  | putManageSiteFonts
  | postManageSiteFontFace
  | deleteManageSiteFontFace
  | getManageSiteTheme
  | putManageSiteTheme
  | getManageSiteThemeBundle
  | postManageSiteThemeBundleValidate
  | postManageSiteThemeBundle
  | me
  | register
  | remember
  | resetPassword
  | resolveFkDisplay
  | setUserInfo
  | siteAsset
  | siteFontFace
  | siteInfo
  | updateItem
  | updateUserPassword
  | uploadPhoto
  | uploadUserPhoto
  | verify
  deriving DecidableEq, Repr

/-!
# The rows of tables
-/

namespace AddItem

def handlePost : Handler :=
  { emptyBody := .returns "No message body.", finish := .ok, catches := .echoes }

end AddItem

namespace AddItemFetchPrimaryKey

def handlePost : Handler :=
  { emptyBody := .returns "No message body.", finish := .json
    catches := .echoesInvalidArgument }

end AddItemFetchPrimaryKey

namespace GetDbSchema

def handlePost : Handler := { finish := .json, catches := .echoesInvalidArgument }

end GetDbSchema

namespace DeleteItem

def handlePost : Handler := { decoded := [0, 1, 2], finish := .ok, catches := .echoes }

end DeleteItem

namespace GetFilteredTableRows

def handlePost : Handler :=
  { emptyBody := .returns "No message body.", finish := .json, catches := .echoes }

end GetFilteredTableRows

namespace GetFkOptions

def handlePost : Handler :=
  { emptyBody := .returns "No message body.", finish := .json, catches := .echoes }

end GetFkOptions

namespace GetRow

/-- The third segment, the value, is not decoded. -/
def handlePost : Handler := { decoded := [0, 1], finish := .json, catches := .echoes }

end GetRow

namespace GetRowByValues

def handlePost : Handler :=
  { emptyBody := .returns "No message body.", finish := .json, catches := .echoes }

end GetRowByValues

namespace GetRowsByColumn

def handlePost : Handler := { decoded := [0, 1], finish := .json, catches := .echoes }

end GetRowsByColumn

namespace GetTableRows

def handlePost : Handler := { decoded := [0], finish := .json, catches := .echoes }

end GetTableRows

namespace ResolveFkDisplay

def handlePost : Handler :=
  { emptyBody := .returns "No message body.", finish := .json, catches := .echoes }

end ResolveFkDisplay

namespace UpdateItem

def handlePost : Handler :=
  { emptyBody := .returns "No message body.", finish := .ok, catches := .echoes }

end UpdateItem

/-!
# Accounts
-/

namespace AccountActivation

def handlePost : Handler := { decoded := [0, 1], catches := .echoes }

end AccountActivation

namespace ForgotPassword

def handlePost : Handler :=
  { emptyBody := .branches "Request body required", catches := .internalError }

end ForgotPassword

namespace GetUserInfo

def handlePost : Handler :=
  { inner := guarded ErrorResponse.notAuthenticated, finish := .jsonIfOk
    catches := .notAuthenticated }

end GetUserInfo

namespace Login

def handlePost : Handler :=
  { emptyBody := .returns "No message body.", inner := loginInner, catches := .signIn }

end Login

namespace Logout

def handlePost : Handler := { inner := guarded (Response.ofStatus 200), catches := .ok }

end Logout

namespace Me

def handleGet : Handler :=
  { inner := guarded ErrorResponse.notAuthenticated, catches := .notAuthenticated }

end Me

namespace Register

def handlePost : Handler :=
  { emptyBody := .returns "Request body required", inner := registerInner
    catches := .echoes }

end Register

namespace Remember

def handlePost : Handler :=
  { inner := guarded ErrorResponse.notAuthenticated, catches := .notAuthenticated }

end Remember

namespace ResetPassword

def handlePost : Handler :=
  { emptyBody := .branches "Request body required", catches := .internalError }

end ResetPassword

namespace SetUserInfo

def handlePost : Handler :=
  { emptyBody := .endsAndReturns "No message body."
    inner := guarded ErrorResponse.notAuthenticated, catches := .notAuthenticated }

end SetUserInfo

namespace UpdateUserPassword

def handlePost : Handler :=
  { emptyBody := .endsAndReturns "No message body."
    inner := guarded ErrorResponse.notAuthenticated, catches := .notAuthenticated }

end UpdateUserPassword

namespace Verify

def handlePost : Handler :=
  { emptyBody := .returns "Request body required", inner := verifyInner
    catches := .echoes }

end Verify

/-!
# Photos and the site
-/

namespace DeletePhoto

def handleDelete : Handler := { catches := .internalError }

end DeletePhoto

namespace GetPhoto

def handleGet : Handler := { catches := .internalError }

end GetPhoto

namespace GetScaledPhoto

def handleGet : Handler := { catches := .internalError }

end GetScaledPhoto

namespace HasPhoto

def handleGet : Handler := { finish := .jsonIfOk, catches := .internalError }

end HasPhoto

namespace UploadPhoto

def handlePost : Handler := { finish := .jsonIfOk, catches := .internalError }

end UploadPhoto

namespace UploadUserPhoto

def handlePost : Handler := { finish := .jsonIfOk, catches := .internalError }

end UploadUserPhoto

namespace Health

/-- The setup collects the databases that are probed. -/
def handleGet : Handler := { finish := .health, catches := .internalError }

end Health

namespace ManageSiteFonts

def handleGet : Handler := { finish := .jsonIfOk, catches := .internalError }

def handlePut : Handler := { finish := .jsonIfOk, catches := .internalError }

def handlePostFace : Handler := { finish := .jsonIfOk, catches := .internalError }

def handleDeleteFace : Handler := { finish := .jsonIfOk, catches := .internalError }

end ManageSiteFonts

namespace ManageSiteTheme

def handleGet : Handler := { finish := .jsonIfOk, catches := .internalError }

def handlePut : Handler := { finish := .jsonIfOk, catches := .internalError }

end ManageSiteTheme

namespace ManageSiteThemeBundle

def handleGet : Handler := { catches := .internalError }

def handlePostValidate : Handler :=
  { inner := runImport, finish := .jsonIfOk, catches := .internalError }

def handlePost : Handler :=
  { inner := runImport, finish := .jsonIfOk, catches := .internalError }

end ManageSiteThemeBundle

namespace SiteAsset

def handleGet : Handler := { catches := .internalError }

end SiteAsset

namespace SiteFontFace

def handleGet : Handler := { catches := .internalError }

end SiteFontFace

namespace SiteInfo

def handleGet : Handler := { finish := .siteInfo, catches := .internalError }

end SiteInfo

def Endpoint.handler : Endpoint -> Handler
  | accountActivation => AccountActivation.handlePost
  | addItem => AddItem.handlePost
  | addItemFetchPrimaryKey => AddItemFetchPrimaryKey.handlePost
  | getDbSchema => GetDbSchema.handlePost
  | deleteItem => DeleteItem.handlePost
  | deletePhoto => DeletePhoto.handleDelete
  | forgotPassword => ForgotPassword.handlePost
  | getFilteredTableRows => GetFilteredTableRows.handlePost
  | getFkOptions => GetFkOptions.handlePost
  | getPhoto => GetPhoto.handleGet
  | getRow => GetRow.handlePost
  | getRowByValues => GetRowByValues.handlePost
  | getRowsByColumn => GetRowsByColumn.handlePost
  | getScaledPhoto => GetScaledPhoto.handleGet
  | getTableRows => GetTableRows.handlePost
  | getUserInfo => GetUserInfo.handlePost
  | hasPhoto => HasPhoto.handleGet
  | health => Health.handleGet
  | login => Login.handlePost
  | logout => Logout.handlePost
  | getManageSiteFonts => ManageSiteFonts.handleGet
  | putManageSiteFonts => ManageSiteFonts.handlePut
  | postManageSiteFontFace => ManageSiteFonts.handlePostFace
  | deleteManageSiteFontFace => ManageSiteFonts.handleDeleteFace
  | getManageSiteTheme => ManageSiteTheme.handleGet
  | putManageSiteTheme => ManageSiteTheme.handlePut
  | getManageSiteThemeBundle => ManageSiteThemeBundle.handleGet
  | postManageSiteThemeBundleValidate => ManageSiteThemeBundle.handlePostValidate
  | postManageSiteThemeBundle => ManageSiteThemeBundle.handlePost
  | me => Me.handleGet
  | register => Register.handlePost
  | remember => Remember.handlePost
  | resetPassword => ResetPassword.handlePost
  | resolveFkDisplay => ResolveFkDisplay.handlePost
  | setUserInfo => SetUserInfo.handlePost
  | siteAsset => SiteAsset.handleGet
  | siteFontFace => SiteFontFace.handleGet
  | siteInfo => SiteInfo.handleGet
  | updateItem => UpdateItem.handlePost
  | updateUserPassword => UpdateUserPassword.handlePost
  | uploadPhoto => UploadPhoto.handlePost
  | uploadUserPhoto => UploadUserPhoto.handlePost
  | verify => Verify.handlePost

/-!
# The end of the response
-/

namespace CatchStyle

def Catches (style : CatchStyle) (t : Thrown) : Prop :=
  style.clauses.any (fun c => c.catches t) = true

theorem clauses_respond {style : CatchStyle} {c : Clause Response Thrown Flow}
    (h : c ∈ style.clauses) (t : Thrown) (resp : Response) :
    exists resp', c.body t resp = (.ok .fallsThrough, resp') := by
  cases style with
  | echoes =>
      rw [List.mem_singleton.mp h]
      exact ⟨_, rfl⟩
  | internalError =>
      rw [List.mem_singleton.mp h]
      exact ⟨_, rfl⟩
  | notAuthenticated =>
      rw [List.mem_singleton.mp h]
      exact ⟨_, rfl⟩
  | ok =>
      rw [List.mem_singleton.mp h]
      exact ⟨_, rfl⟩
  | echoesInvalidArgument =>
      rcases List.mem_pair.mp h with h | h <;> rw [h] <;> exact ⟨_, rfl⟩
  | signIn =>
      rcases List.mem_pair.mp h with h | h <;> rw [h] <;> exact ⟨_, rfl⟩

end CatchStyle

namespace Handler

variable {h : Handler} {x : Exchange}

/-- The handler returns on an empty body without ending the response. -/
def ReturnsUnended (h : Handler) (x : Exchange) : Prop :=
  (exists detail, h.emptyBody = .returns detail) ∧ x.body = "" ∧
    exists resp, x.setup (Response.ofStatus 200) = (.ok (), resp)

def thrownOf : Except Thrown Flow -> Option Thrown
  | .ok _ => none
  | .error t => some t

/-- The exception that the code below throws into the handler's catch clauses. -/
def raised (h : Handler) (x : Exchange) : Option Thrown :=
  thrownOf (h.tryBlock x (Response.ofStatus 200)).1

theorem call_flow {resp resp' : Response} {flow : Flow}
    (hcall : h.call x resp = (.ok flow, resp')) : flow = .fallsThrough := by
  unfold call at hcall
  simp only [Work.bind_eq, Work.bind] at hcall
  split at hcall
  · cases hcall
    rfl
  · cases hcall

theorem parse_call_flow {resp resp' : Response} {flow : Flow}
    (hcall : (x.parse.bind (fun _ => h.call x)) resp = (.ok flow, resp')) :
    flow = .fallsThrough := by
  unfold Work.bind at hcall
  split at hcall
  · exact call_flow hcall
  · cases hcall

theorem tryBlock_returned {resp : Response} :
    h.tryBlock x (Response.ofStatus 200) = (.ok (.returned false), resp) ->
      h.ReturnsUnended x := by
  intro htry
  unfold tryBlock at htry
  rw [Work.bind_eq, Work.bind] at htry
  rcases hsetup : x.setup (Response.ofStatus 200) with ⟨outcome, resp'⟩
  rw [hsetup] at htry
  cases outcome with
  | error t => cases htry
  | ok value =>
  dsimp only at htry
  cases hempty : h.emptyBody with
  | unchecked =>
      rw [hempty] at htry
      have hflow := call_flow htry
      cases hflow
  | returns detail =>
      rw [hempty] at htry
      dsimp only at htry
      split at htry
      · rename_i hbody
        exact ⟨⟨detail, hempty⟩, hbody, resp', hsetup⟩
      · have hflow := parse_call_flow htry
        cases hflow
  | endsAndReturns detail =>
      rw [hempty] at htry
      dsimp only at htry
      split at htry
      · cases htry
      · have hflow := parse_call_flow htry
        cases hflow
  | branches detail =>
      rw [hempty] at htry
      dsimp only at htry
      split at htry
      · cases htry
      · have hflow := parse_call_flow htry
        cases hflow

theorem tryBlock_of_returnsUnended (hreturns : h.ReturnsUnended x) :
    exists resp, h.tryBlock x (Response.ofStatus 200) = (.ok (.returned false), resp) := by
  rcases hreturns with ⟨⟨detail, hempty⟩, hbody, resp, hsetup⟩
  unfold tryBlock
  simp only [Work.bind_eq]
  rw [Work.bind, hsetup]
  dsimp only
  rw [hempty]
  dsimp only
  rw [if_pos hbody]
  exact ⟨_, rfl⟩

/-- A handler ends its response once exactly when its route's segments can be decoded, it
does not return on an empty body, and what is thrown into it is caught. -/
theorem ends_eq_one_iff (urlDecode : String -> Except Thrown String) (h : Handler)
    (x : Exchange) :
    (h.answer urlDecode x).ends = 1 <->
      (exists segments, h.decodeSegments urlDecode x = .ok segments) ∧
        Not (h.ReturnsUnended x) ∧ forall t, h.raised x = some t -> h.catches.Catches t := by
  unfold answer
  cases hdecode : h.decodeSegments urlDecode x with
  | error t =>
      constructor
      · intro hends
        cases hends
      · rintro ⟨⟨segments, hok⟩, _⟩
        cases hok
  | ok segments =>
  dsimp only
  rcases htry : h.tryBlock x (Response.ofStatus 200) with ⟨outcome, resp⟩
  have hunended : h.ReturnsUnended x <-> outcome = .ok (.returned false) := by
    constructor
    · intro hreturns
      rcases tryBlock_of_returnsUnended hreturns with ⟨resp', hblock⟩
      rw [htry] at hblock
      exact congrArg Prod.fst hblock
    · intro houtcome
      rw [houtcome] at htry
      exact tryBlock_returned htry
  have hraised : h.raised x = thrownOf outcome := by
    unfold raised
    rw [htry]
  rw [hunended, hraised]
  cases outcome with
  | error t =>
      rw [Work.catching_error htry]
      cases hfind : h.catches.clauses.find? (fun c => c.catches t) with
      | none =>
          have hnone : Not (h.catches.Catches t) := by
            unfold CatchStyle.Catches
            rw [List.any_eq_true]
            rintro ⟨c, hc, hcatches⟩
            exact List.find?_eq_none.mp hfind c hc hcatches
          constructor
          · intro hends
            cases hends
          · intro hall
            exact absurd (hall.2.2 t rfl) hnone
      | some c =>
          have hcaught : h.catches.Catches t :=
            List.any_eq_true.mpr ⟨c, List.mem_of_find?_eq_some hfind,
              (by simpa using List.find?_some hfind)⟩
          rcases CatchStyle.clauses_respond (List.mem_of_find?_eq_some hfind) t resp with
            ⟨resp', hbody⟩
          dsimp only
          rw [hbody]
          refine ⟨fun _ => ⟨⟨segments, rfl⟩, by simp, ?_⟩, fun _ => rfl⟩
          intro t' ht'
          cases ht'
          exact hcaught
  | ok flow =>
      rw [Work.catching_ok htry]
      cases flow with
      | fallsThrough => simp [thrownOf]
      | returned ended => cases ended <;> simp [thrownOf]

end Handler

/-- A registered handler ends its response once exactly when its path segments can be
decoded, it does not return on an empty body, and what is thrown into it is caught. -/
theorem answeredOnce (urlDecode : String -> Except Thrown String) (e : Endpoint)
    (x : Exchange) :
    (e.handler.answer urlDecode x).ends = 1 <->
      (exists segments, e.handler.decodeSegments urlDecode x = .ok segments) ∧
        Not (e.handler.ReturnsUnended x) ∧
          forall t, e.handler.raised x = some t -> e.handler.catches.Catches t :=
  Handler.ends_eq_one_iff urlDecode e.handler x

/-- A request whose setup goes well and whose body is empty. -/
def emptyRequest : Exchange where
  segments := []
  body := ""
  setup := pure ()
  parse := pure ()
  work := fun _ => pure none
  importBundle := pure {}

/-- A login with an empty body is never answered. -/
theorem answeredOnce_login :
    Not (forall (urlDecode : String -> Except Thrown String) (e : Endpoint) (x : Exchange),
      (e.handler.answer urlDecode x).ends = 1) := by
  intro h
  have hends := h .ok .login emptyRequest
  rw [answeredOnce] at hends
  exact hends.2.1 ⟨⟨"No message body.", rfl⟩, rfl, _, rfl⟩

end Rest
end ServerComponents
