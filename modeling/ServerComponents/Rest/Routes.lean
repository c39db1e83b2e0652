import ServerComponents.Rest.CsrfGuard
import ServerComponents.Rest.Endpoints

/-!
# Which routes the CSRF guard covers

The guard goes by the method and the path of a request.  A route that names no method answers
to GET, and every route that answers to GET answers to HEAD.
-/

namespace ServerComponents
namespace Rest

open CsrfGuard

/-- A segment of a path: a text of the route, or a parameter. -/
inductive Segment where
  | literal (text : String)
  | string
  | int
  deriving DecidableEq, Repr

namespace Segment

def isSigned : List Char -> Bool
  | '-' :: digits => ! digits.isEmpty && digits.all Char.isDigit
  | '+' :: digits => ! digits.isEmpty && digits.all Char.isDigit
  | digits => ! digits.isEmpty && digits.all Char.isDigit

def fits : Segment -> List Char -> Bool
  | literal text, segment => decide (segment = text.toList)
  | string, segment => ! segment.isEmpty
  | int, segment => isSigned segment

end Segment

def fitsAll : List Segment -> List (List Char) -> Bool
  | [], [] => true
  | s :: pattern, segment :: path => s.fits segment && fitsAll pattern path
  | _, _ => false

def fitsPath (pattern : List Segment) (path : List Char) : Bool :=
  match path with
  | '/' :: rest => fitsAll pattern (rest.splitOn '/')
  | _ => false

namespace Endpoint

def api (name : String) (parameters : List Segment) : List Segment :=
  .literal "api" :: .literal name :: parameters

def manage (name : String) (parameters : List Segment) : List Segment :=
  .literal "api" :: .literal "manage" :: .literal name :: parameters

def path : Endpoint -> List Segment
  | accountActivation => api "account_activation" [.string, .string]
  | addItem => api "add_item" []
  | addItemFetchPrimaryKey => api "add_item_fetch_primary_key" []
  | getDbSchema => api "get_db_schema" []
  | deleteItem => api "delete_item" [.string, .string, .string]
  | deletePhoto => api "delete_photo" [.string, .int]
  | forgotPassword => api "forgot_password" []
  | getFilteredTableRows => api "get_filtered_table_rows" []
  | getFkOptions => api "get_fk_options" []
  | getPhoto => api "get_photo" [.string, .int]
  | getRow => api "get_row" [.string, .string, .string]
  | getRowByValues => api "get_row_by_values" []
  | getRowsByColumn => api "get_rows_by_column" [.string, .string, .int, .int, .int]
  | getScaledPhoto => api "get_scaled_photo" [.string, .int, .int, .int]
  | getTableRows => api "get_table_rows" [.string]
  | getUserInfo => api "get_user_info" []
  | hasPhoto => api "has_photo" [.string, .int]
  | health => api "health" []
  | login => api "login" []
  | logout => api "logout" []
  | getManageSiteFonts => manage "site_fonts" []
  | putManageSiteFonts => manage "site_fonts" []
  | postManageSiteFontFace => manage "site_font_face" [.int, .int, .string]
  | deleteManageSiteFontFace => manage "site_font_face" [.int]
  | getManageSiteTheme => manage "site_theme" []
  | putManageSiteTheme => manage "site_theme" []
  | getManageSiteThemeBundle => manage "site_theme_bundle" []
  | postManageSiteThemeBundleValidate => manage "site_theme_bundle" [.literal "validate"]
  | postManageSiteThemeBundle => manage "site_theme_bundle" []
  | me => api "me" []
  | register => api "register" []
  | remember => api "remember" []
  | resetPassword => api "reset_password" []
  | resolveFkDisplay => api "resolve_fk_display" []
  | setUserInfo => api "set_user_info" []
  | siteAsset => api "site_asset" [.string]
  | siteFontFace => api "site_font_face" [.int]
  | siteInfo => api "site_info" []
  | updateItem => api "update_item" []
  | updateUserPassword => api "update_user_password" []
  | uploadPhoto => api "upload_photo" [.string, .int, .string]
  | uploadUserPhoto => api "upload_user_photo" [.string]
  | verify => api "verify" []

/-- The method that the route is registered with, which may be left out. -/
def method? : Endpoint -> Option HTTPMethod
  | accountActivation => none
  | addItem => some .post
  | addItemFetchPrimaryKey => some .post
  | getDbSchema => none
  | deleteItem => none
  | deletePhoto => some .post
  | forgotPassword => some .post
  | getFilteredTableRows => some .post
  | getFkOptions => some .post
  | getPhoto => some .get
  | getRow => none
  | getRowByValues => some .post
  | getRowsByColumn => none
  | getScaledPhoto => some .get
  | getTableRows => none
  | getUserInfo => some .post
  | hasPhoto => some .get
  | health => some .get
  | login => some .post
  | logout => some .post
  | getManageSiteFonts => some .get
  | putManageSiteFonts => some .put
  | postManageSiteFontFace => some .post
  | deleteManageSiteFontFace => some .delete
  | getManageSiteTheme => some .get
  | putManageSiteTheme => some .put
  | getManageSiteThemeBundle => some .get
  | postManageSiteThemeBundleValidate => some .post
  | postManageSiteThemeBundle => some .post
  | me => some .get
  | register => some .post
  | remember => some .post
  | resetPassword => some .post
  | resolveFkDisplay => some .post
  | setUserInfo => some .post
  | siteAsset => some .get
  | siteFontFace => some .get
  | siteInfo => some .get
  | updateItem => some .post
  | updateUserPassword => some .post
  | uploadPhoto => some .post
  | uploadUserPhoto => some .post
  | verify => some .post

def method (e : Endpoint) : HTTPMethod := e.method?.getD .get

end Endpoint

/-- The application table of a statement that inserts, updates or deletes. -/
inductive ChangedTable where
  | named
  | table (name : String)
  deriving DecidableEq, Repr

namespace Endpoint

def photoTables : List ChangedTable :=
  [.table "photo_instances", .table "source_photos", .table "scaled_photos",
    .table "table_item_photos"]

def fontTables : List ChangedTable :=
  [.table "site_font_sources", .table "site_fonts", .table "site_font_faces"]

/-- The tables that the statements of the handler change, where these are kept, other than
sessions, device tokens, the records of attempts, and the scaled photos of a GET. -/
def changes : Endpoint -> List ChangedTable
  | accountActivation => [.table "email_verifications", .table "people"]
  | addItem => [.named]
  | addItemFetchPrimaryKey => [.named]
  | deleteItem => .named :: photoTables
  | deletePhoto => photoTables
  | forgotPassword => [.table "password_reset_tokens"]
  | putManageSiteFonts => fontTables
  | postManageSiteFontFace => [.table "site_font_faces"]
  | deleteManageSiteFontFace => [.table "site_font_faces"]
  | putManageSiteTheme => [.table "config_secrets"]
  | postManageSiteThemeBundle => .table "config_secrets" :: .table "site_assets" :: fontTables
  | register => [.table "people", .table "email_verifications"]
  | resetPassword => [.table "password_reset_tokens", .table "people"]
  | setUserInfo => [.table "people"]
  | updateItem => [.named]
  | updateUserPassword => [.table "people"]
  | uploadPhoto => photoTables
  | uploadUserPhoto => photoTables
  | verify => [.table "email_verifications", .table "people"]
  | _ => []

/-- A request with this method asks for a route with that one. -/
def routed : HTTPMethod -> HTTPMethod
  | .head => .get
  | asked => asked

/-- The router hands the request to the handler of this route. -/
def Reaches (e : Endpoint) (req : Request) : Prop :=
  routed req.method = e.method ∧ fitsPath e.path (pathOnly req.url) = true

def isBootstrap (e : Endpoint) : Bool :=
  kBootstrapPaths.any (fun path => fitsPath e.path path.toList)

/-- No request without the token gets to a handler that changes data. -/
def Covered (e : Endpoint) : Prop :=
  forall req, e.Reaches req -> beforeHandle true req = none -> e.changes ≠ [] ->
    tokenMatches req = true

/-- The handler only reads, or its route has a method that the guard looks at. -/
def Guarded (e : Endpoint) : Prop := e.changes = [] ∨ isStateChanging e.method = true

instance (e : Endpoint) : Decidable e.Guarded := inferInstanceAs (Decidable (_ ∨ _))

theorem routed_of_stateChanging {asked m : HTTPMethod} (h : routed asked = m)
    (hm : isStateChanging m = true) : isStateChanging asked = true := by
  cases asked with
  | head =>
      rw [← h] at hm
      cases hm
  | _ =>
      rw [← h] at hm
      exact hm

theorem not_isBootstrap {e : Endpoint} {req : Request} (h : e.isBootstrap = false)
    (hreaches : e.Reaches req) : CsrfGuard.isBootstrap req.url = false := by
  cases hurl : CsrfGuard.isBootstrap req.url with
  | false => rfl
  | true =>
      rcases List.any_eq_true.mp hurl with ⟨path, hmem, heq⟩
      have hfits := hreaches.2
      rw [of_decide_eq_true heq] at hfits
      have hbootstrap : e.isBootstrap = true := List.any_eq_true.mpr ⟨path, hmem, hfits⟩
      rw [h] at hbootstrap
      cases hbootstrap

/-- A request for the route, with its own method and without any header. -/
def bare (e : Endpoint) : Request where
  method := e.method
  url := e.path.flatMap (fun s =>
    match s with
    | .literal text => '/' :: text.toList
    | .string => ['/', 'x']
    | .int => ['/', '1'])
  cookieHeader := []
  csrfHeader := []

theorem reaches_bare (e : Endpoint) : e.Reaches e.bare := by
  cases e <;> exact ⟨rfl, by decide⟩

theorem covered_of_guarded {e : Endpoint} (h : e.isBootstrap = false) (hguarded : e.Guarded) :
    e.Covered := by
  intro req hreaches hpassed hchanges
  rcases hguarded with hreads | hmethod
  · exact absurd hreads hchanges
  · have hasked := routed_of_stateChanging hreaches.1 hmethod
    rcases tokenMatches_of_beforeHandle hpassed hasked with hbootstrap | htoken
    · rw [not_isBootstrap h hreaches] at hbootstrap
      cases hbootstrap
    · exact htoken

theorem guarded_of_covered {e : Endpoint} (h : e.Covered) : e.Guarded := by
  by_cases hchanges : e.changes = []
  · exact Or.inl hchanges
  · right
    cases hmethod : isStateChanging e.method with
    | true => rfl
    | false =>
        have hpassed : beforeHandle true e.bare = none := by
          change (if true = false then none
            else if isStateChanging e.method = false then none else _) = none
          rw [hmethod]
          rfl
        have htoken := h e.bare (reaches_bare e) hpassed hchanges
        cases htoken

theorem guarded_iff (e : Endpoint) : e.Guarded <-> e ≠ deleteItem ∧ e ≠ accountActivation := by
  cases e <;> decide

theorem covered_iff {e : Endpoint} (h : e.isBootstrap = false) :
    e.Covered <-> e ≠ deleteItem ∧ e ≠ accountActivation := by
  rw [← guarded_iff]
  exact ⟨guarded_of_covered, covered_of_guarded h⟩

theorem covered_updateItem : updateItem.Covered :=
  (covered_iff (by decide)).mpr ⟨by decide, by decide⟩

/-- A link is enough to delete rows. -/
theorem deleteItem_uncovered :
    Not (forall e : Endpoint, e.isBootstrap = false -> e.Covered) := by
  intro h
  have hguarded := guarded_of_covered (h deleteItem (by decide))
  revert hguarded
  decide

end Endpoint

end Rest
end ServerComponents
