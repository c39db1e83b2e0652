import ServerComponents.Auth.AuthHelper
import ServerComponents.Branding.ManageSiteFonts

/-!
# Managing and serving the theme of a site

The editor puts copy and theme values under their keys; all are checked before one is
written.  A page is served the copy that passes its check, and the theme under its CSS
variables, where a font role is resolved to the stack of the family that it names.
-/

namespace ServerComponents
namespace Branding

open Relational Control
open Rest (Json Response)

/-!
# Writing
-/

def fieldText : Json -> Except Exn String
  | .str text => .ok text
  | _ => .error (.runtimeError "std::get: wrong index for variant")

def tokenTypeName : ThemeTokenType -> String
  | .color => "color"
  | .length => "length"
  | .fontFamily => "font"
  | .weight => "weight"

def acceptSlotValue (slot : ContentSlot) (text : String) : Checked String :=
  let value := normalizeLineEndings text
  let reason := validateSlotValue slot.type value
  if reason = "" then .ok value else refuse (slot.key ++ ": " ++ reason)

def acceptTokenValue (token : ThemeToken) (value : String) : Checked String :=
  if value ≠ "" ∧ isValidThemeTokenValue token.type value = false then
    refuse (token.key ++ ": not a valid " ++ tokenTypeName token.type ++ " value.")
  else .ok value

/-- The registered fields that are there, in the order of the registry. -/
def gatherWrites {entry : Type} (key : entry -> String) (accept : entry -> String -> Checked String)
    (fields : Json) : List entry -> Checked (List (String × String))
  | [] => .ok []
  | e :: rest =>
      match fields.child? (key e) with
      | none => gatherWrites key accept fields rest
      | some field => do
          let text ← (fieldText field).mapError .thrown
          let value ← accept e text
          let writes ← gatherWrites key accept fields rest
          .ok ((key e, value) :: writes)

def childWrites {entry : Type} (key : entry -> String) (accept : entry -> String -> Checked String)
    (registry : List entry) (child : Option Json) : Checked (List (String × String)) :=
  match child with
  | none => .ok []
  | some fields =>
      if fields.hasChildren then gatherWrites key accept fields registry else .ok []

def themeWrites (body : Json) : Checked (List (String × String)) := do
  let content ← childWrites ContentSlot.key acceptSlotValue siteContentSlots
    (body.child? "content")
  let theme ← childWrites ThemeToken.key acceptTokenValue siteThemeTokens
    (body.child? "theme")
  .ok (content ++ theme)

section Endpoint

variable {app : Type}

def Site.addSecrets (site : Site app) (writes : List (String × String)) : Site app :=
  writes.foldl Site.addSecret site

namespace ManageSiteTheme

def savedBody (writes : List (String × String)) : String :=
  (Json.obj [("saved", .int writes.length)]).toText

def putManageSiteTheme (databaseAvailable : Bool) (access : Access) (parsed : Except Exn Json) :
    Work (Site app) Exn Response := fun site =>
  if databaseAvailable = false then
    (.ok (Rest.ErrorResponse.internalError "Database unavailable"), site)
  else
    match requireAdmin access with
    | .error (.response response) => (.ok response, site)
    | .error (.thrown e) => (.error e, site)
    | .ok () =>
        match parsed with
        | .error e => (.error e, site)
        | .ok body =>
            if body.hasChildren = false then
              (.ok (Rest.ErrorResponse.badRequest "No message body."), site)
            else
              match themeWrites body with
              | .error (.response response) => (.ok response, site)
              | .error (.thrown e) => (.error e, site)
              | .ok writes =>
                  if writes = [] then
                    (.ok (Rest.ErrorResponse.badRequest
                      "No recognised branding fields in the request."), site)
                  else
                    (.ok ⟨200, [("Content-Type", "application/json")], savedBody writes⟩,
                      site.addSecrets writes)

/-- The handler of the route; what throws is rolled back. -/
def handlePut (databaseAvailable : Bool) (access : Access) (parsed : Except Exn Json)
    (site : Site app) : Response × Site app :=
  match putManageSiteTheme databaseAvailable access parsed site with
  | (.ok response, site') => (response, site')
  | (.error _, _) => (Rest.ErrorResponse.internalError, site)

end ManageSiteTheme

/-!
# Serving
-/

def rampVariables (name : String) : List String :=
  ["100", "200", "300", "400", "500", "600", "700"].map (fun step =>
    "--palette-" ++ name ++ "-" ++ step)

/-- The CSS variables of the tokens, in the order of the registry. -/
def cssVariables : List String :=
  rampVariables "primary" ++ rampVariables "secondary" ++ rampVariables "tertiary" ++
    rampVariables "quaternary" ++ rampVariables "quinary" ++ rampVariables "grey" ++
    ["--palette-surface-tint", "--palette-surface-subtle", "--theme-primary",
      "--theme-on-primary", "--theme-primary-hover", "--theme-accent", "--theme-on-accent",
      "--theme-ink", "--theme-text", "--theme-text-muted", "--theme-surface",
      "--theme-surface-tint", "--theme-background", "--theme-border",
      "--theme-inverse-surface", "--theme-on-inverse-surface", "--theme-success",
      "--theme-on-success", "--theme-warn", "--theme-on-warn", "--theme-danger",
      "--theme-on-danger", "--theme-info", "--theme-on-info"] ++
    ["--radius-control", "--radius-panel", "--radius-card", "--radius-pill"] ++
    ["--font-body", "--font-heading", "--font-display"] ++
    ["--text-xs", "--text-sm", "--text-base", "--text-lg", "--text-xl", "--text-2xl"] ++
    ["--weight-regular", "--weight-medium", "--weight-semibold", "--weight-bold",
      "--weight-menu", "--weight-heading", "--weight-display"]

def themeVariables : List (ThemeToken × String) := siteThemeTokens.zip cssVariables

def fontRoles : List String := ["--font-body", "--font-heading", "--font-display"]

def normalizeSlotValue (type : SlotType) (value : String) : String :=
  let normalized := normalizeLineEndings value
  if validateSlotValue type normalized = "" then normalized else ""

def loadSiteContent (site : Site app) : SortedMap String String :=
  siteContentSlots.foldl (fun content slot =>
    content.set slot.key (normalizeSlotValue slot.type (site.lookupSecret slot.key)))
    SortedMap.empty

/-- A value that does not pass its check is left out. -/
def loadSiteTheme (site : Site app) : SortedMap String String :=
  themeVariables.foldl (fun theme t =>
    if isValidThemeTokenValue t.1.type (site.lookupSecret t.1.key) = true then
      theme.set t.2 (site.lookupSecret t.1.key)
    else theme) SortedMap.empty

def composeFontStack (family fallback : String) : String :=
  if isValidFontFamilyName family = false then ""
  else "'" ++ family ++ "'" ++ (if fallback = "" then "" else ", " ++ fallback)

def lookupFontStack (fonts : SiteFonts) (family : String) : String :=
  if isValidFontFamilyName family = false then ""
  else
    match fonts.getFontByFamily family with
    | none => ""
    | some (_, row) => composeFontStack row.family row.fallback

def resolveFontRole (fonts : SiteFonts) (theme : SortedMap String String) (role : String) :
    SortedMap String String :=
  match theme.find? role with
  | none => theme
  | some family =>
      let stack := lookupFontStack fonts family
      if stack = "" then theme.erase role else theme.set role stack

def resolveFontRoles (fonts : SiteFonts) (roles : List String)
    (theme : SortedMap String String) : SortedMap String String :=
  roles.foldl (resolveFontRole fonts) theme

/-- What a page is served, without the blocks of the app. -/
structure SiteInfo where
  displayName : String
  websiteUrl : String
  logoUrl : String
  content : SortedMap String String
  theme : SortedMap String String
  fonts : SiteFontInventory

/-- A blank display name gives way to the one of the tenant's row. -/
def getSiteInfo (tenantDisplayName : String) (site : Site app) : SiteInfo :=
  let studioName := site.lookupSecret Auth.Secrets.kMailSenderName
  { displayName := if studioName = "" then tenantDisplayName else studioName
    websiteUrl := site.lookupSecret Auth.Secrets.kWebsiteAddressLogin
    logoUrl := site.lookupSecret kSiteLogoUrl
    content := loadSiteContent site
    theme := resolveFontRoles site.fonts fontRoles (loadSiteTheme site)
    fonts := loadSiteFontInventory site.fonts "/api/site_font_face/" }

end Endpoint

/-!
# What is gathered
-/

section Gathering

variable {entry : Type} {key : entry -> String} {accept : entry -> String -> Checked String}
  {fields : Json} {registry : List entry} {writes : List (String × String)}

theorem gatherWrites_field (h : gatherWrites key accept fields registry = .ok writes) {e : entry}
    (he : e ∈ registry) {field : Json} (hfield : fields.child? (key e) = some field) :
    exists text value, field = .str text ∧ accept e text = .ok value ∧
      (key e, value) ∈ writes := by
  induction registry generalizing writes with
  | nil => cases he
  | cons first rest ih =>
      unfold gatherWrites at h
      split at h
      · rename_i hnone
        rcases List.mem_cons.mp he with rfl | hrest
        · rw [hfield] at hnone
          cases hnone
        · exact ih h hrest
      · rename_i found hfound
        rcases exceptBind_ok h with ⟨text, htext, h⟩
        rcases exceptBind_ok h with ⟨value, hvalue, h⟩
        rcases exceptBind_ok h with ⟨later, hlater, h⟩
        cases h
        rcases List.mem_cons.mp he with rfl | hrest
        · rw [hfield] at hfound
          cases hfound
          cases field with
          | str text' =>
              cases htext
              exact ⟨text, value, rfl, hvalue, List.mem_cons_self⟩
          | _ => cases htext
        · rcases ih hlater hrest with ⟨text', value', hstr, haccept, hmem⟩
          exact ⟨text', value', hstr, haccept, List.mem_cons_of_mem _ hmem⟩

theorem gatherWrites_write (h : gatherWrites key accept fields registry = .ok writes)
    {write : String × String} (hwrite : write ∈ writes) :
    exists e text, e ∈ registry ∧ write.1 = key e ∧ fields.child? (key e) = some (.str text) ∧
      accept e text = .ok write.2 := by
  induction registry generalizing writes with
  | nil =>
      cases h
      cases hwrite
  | cons first rest ih =>
      unfold gatherWrites at h
      split at h
      · rcases ih h hwrite with ⟨e, text, he, hrest⟩
        exact ⟨e, text, List.mem_cons_of_mem _ he, hrest⟩
      · rename_i field hfield
        rcases exceptBind_ok h with ⟨text, htext, h⟩
        rcases exceptBind_ok h with ⟨value, hvalue, h⟩
        rcases exceptBind_ok h with ⟨later, hlater, h⟩
        cases h
        rcases List.mem_cons.mp hwrite with rfl | hrest
        · cases field with
          | str text' =>
              cases htext
              exact ⟨first, text, List.mem_cons_self, rfl, hfield, hvalue⟩
          | _ => cases htext
        · rcases ih hlater hrest with ⟨e, text', he, hsame⟩
          exact ⟨e, text', List.mem_cons_of_mem _ he, hsame⟩

theorem childWrites_eq {child : Option Json}
    (h : childWrites key accept registry child = .ok writes) :
    (exists fields, child = some fields ∧
        gatherWrites key accept fields registry = .ok writes) ∨
      (writes = [] ∧ forall fields name, child = some fields -> fields.child? name = none) := by
  cases child with
  | none =>
      cases h
      exact Or.inr ⟨rfl, fun _ _ hnone => nomatch hnone⟩
  | some fields =>
      unfold childWrites at h
      dsimp only at h
      split at h
      · exact Or.inl ⟨fields, rfl, h⟩
      · rename_i hleaf
        cases h
        refine Or.inr ⟨rfl, ?_⟩
        intro fields' name hfields
        cases hfields
        cases fields with
        | obj children => exact absurd rfl hleaf
        | _ => rfl

end Gathering

/-- The field of the payload under a key of one of its two parts. -/
def payloadField (body : Json) (part key : String) : Option Json :=
  (body.child? part).bind (fun fields => fields.child? key)

section Payload

variable {entry : Type} {key : entry -> String} {accept : entry -> String -> Checked String}
  {registry : List entry} {body : Json} {part : String} {writes : List (String × String)}

theorem childWrites_field
    (h : childWrites key accept registry (body.child? part) = .ok writes) {e : entry}
    (he : e ∈ registry) {field : Json} (hfield : payloadField body part (key e) = some field) :
    exists text value, field = .str text ∧ accept e text = .ok value ∧
      (key e, value) ∈ writes := by
  rcases Option.bind_eq_some_iff.mp hfield with ⟨fields, hpart, hchild⟩
  rcases childWrites_eq h with ⟨fields', hfields, hgather⟩ | ⟨_, hnone⟩
  · rw [hpart] at hfields
    cases hfields
    exact gatherWrites_field hgather he hchild
  · rw [hnone fields (key e) hpart] at hchild
    cases hchild

theorem childWrites_write
    (h : childWrites key accept registry (body.child? part) = .ok writes)
    {write : String × String} (hwrite : write ∈ writes) :
    exists e text, e ∈ registry ∧ write.1 = key e ∧
      payloadField body part (key e) = some (.str text) ∧ accept e text = .ok write.2 := by
  rcases childWrites_eq h with ⟨fields, hfields, hgather⟩ | ⟨hnil, _⟩
  · rcases gatherWrites_write hgather hwrite with ⟨e, text, he, hkey, hchild, haccept⟩
    refine ⟨e, text, he, hkey, ?_, haccept⟩
    unfold payloadField
    rw [hfields]
    exact hchild
  · rw [hnil] at hwrite
    cases hwrite

end Payload

theorem acceptSlotValue_ok {slot : ContentSlot} {text value : String}
    (h : acceptSlotValue slot text = .ok value) :
    value = normalizeLineEndings text ∧ validateSlotValue slot.type value = "" := by
  unfold acceptSlotValue at h
  dsimp only at h
  split at h
  · rename_i hvalid
    cases h
    exact ⟨rfl, hvalid⟩
  · cases h

theorem acceptTokenValue_ok {token : ThemeToken} {text value : String}
    (h : acceptTokenValue token text = .ok value) :
    value = text ∧ (text = "" ∨ isValidThemeTokenValue token.type text = true) := by
  unfold acceptTokenValue at h
  split at h
  · cases h
  · rename_i hvalid
    cases h
    refine ⟨rfl, ?_⟩
    by_cases hempty : text = ""
    · exact Or.inl hempty
    · exact Or.inr (by simpa [hempty] using hvalid)

/-!
# What is stored
-/

section Stored

variable {app : Type} {writes : List (String × String)}

theorem secrets_addSecrets (site : Site app) (writes : List (String × String)) :
    (site.addSecrets writes).secrets =
      writes.foldl (fun m e => m.set e.1 e.2) site.secrets := by
  induction writes generalizing site with
  | nil => rfl
  | cons write rest ih => exact ih (site.addSecret write)

theorem fonts_addSecrets (site : Site app) (writes : List (String × String)) :
    (site.addSecrets writes).fonts = site.fonts := by
  induction writes generalizing site with
  | nil => rfl
  | cons write rest ih => exact ih (site.addSecret write)

theorem lookupSecret_of_notMem (site : Site app) {key : String}
    (h : key ∉ writes.map Prod.fst) :
    (site.addSecrets writes).lookupSecret key = site.lookupSecret key := by
  unfold Site.lookupSecret
  rw [secrets_addSecrets, SortedMap.find?_foldl_set_of_notMem h]

theorem lookupSecret_of_mem (site : Site app) {key value : String}
    (hmem : (key, value) ∈ writes)
    (hsame : forall write, write ∈ writes -> write.1 = key -> write.2 = value) :
    (site.addSecrets writes).lookupSecret key = value := by
  induction writes generalizing site with
  | nil => cases hmem
  | cons write rest ih =>
      have hrest : forall write', write' ∈ rest -> write'.1 = key -> write'.2 = value :=
        fun write' hwrite' => hsame write' (List.mem_cons_of_mem _ hwrite')
      change ((site.addSecret write).addSecrets rest).lookupSecret key = value
      by_cases hlater : key ∈ rest.map Prod.fst
      · rcases List.mem_map.mp hlater with ⟨write', hwrite', hkey⟩
        refine ih (site.addSecret write) ?_ hrest
        rw [← hkey, ← hrest write' hwrite' hkey]
        exact hwrite'
      · rw [lookupSecret_of_notMem (site.addSecret write) hlater]
        rcases List.mem_cons.mp hmem with rfl | hmem
        · unfold Site.lookupSecret Site.addSecret
          dsimp only
          rw [SortedMap.find?_set_self]
          rfl
        · exact absurd (List.mem_map_of_mem hmem) hlater

variable {body : Json}

theorem themeWrites_ok (h : themeWrites body = .ok writes) :
    exists content theme, writes = content ++ theme ∧
      childWrites ContentSlot.key acceptSlotValue siteContentSlots (body.child? "content") =
        .ok content ∧
      childWrites ThemeToken.key acceptTokenValue siteThemeTokens (body.child? "theme") =
        .ok theme := by
  rcases exceptBind_ok h with ⟨content, hcontent, h⟩
  rcases exceptBind_ok h with ⟨theme, htheme, h⟩
  cases h
  exact ⟨content, theme, rfl, hcontent, htheme⟩

theorem slotKey_ne_tokenKey {slot : ContentSlot} {token : ThemeToken}
    (hslot : slot ∈ siteContentSlots) (htoken : token ∈ siteThemeTokens) :
    slot.key ≠ token.key := by
  intro heq
  apply contentKeys_not_token token htoken
  rw [← heq]
  exact List.mem_cons_of_mem _ (List.mem_map_of_mem hslot)

theorem themeWrites_write (h : themeWrites body = .ok writes) {write : String × String}
    (hwrite : write ∈ writes) :
    (exists slot text, slot ∈ siteContentSlots ∧ write.1 = slot.key ∧
      payloadField body "content" slot.key = some (.str text) ∧
        write.2 = normalizeLineEndings text) ∨
    exists token text, token ∈ siteThemeTokens ∧ write.1 = token.key ∧
      payloadField body "theme" token.key = some (.str text) ∧ write.2 = text := by
  rcases themeWrites_ok h with ⟨content, theme, rfl, hcontent, htheme⟩
  rcases List.mem_append.mp hwrite with hmem | hmem
  · rcases childWrites_write hcontent hmem with ⟨slot, text, hslot, hkey, hfield, haccept⟩
    exact Or.inl ⟨slot, text, hslot, hkey, hfield, (acceptSlotValue_ok haccept).1⟩
  · rcases childWrites_write htheme hmem with ⟨token, text, htoken, hkey, hfield, haccept⟩
    exact Or.inr ⟨token, text, htoken, hkey, hfield, (acceptTokenValue_ok haccept).1⟩

theorem stored_slot (h : themeWrites body = .ok writes) (site : Site app) {slot : ContentSlot}
    (hslot : slot ∈ siteContentSlots) {field : Json}
    (hfield : payloadField body "content" slot.key = some field) :
    exists text, field = .str text ∧
      validateSlotValue slot.type (normalizeLineEndings text) = "" ∧
        (site.addSecrets writes).lookupSecret slot.key = normalizeLineEndings text := by
  rcases themeWrites_ok h with ⟨content, theme, hwrites, hcontent, _⟩
  rcases childWrites_field hcontent hslot hfield with ⟨text, value, hstr, haccept, hmem⟩
  rcases acceptSlotValue_ok haccept with ⟨hvalue, hvalid⟩
  refine ⟨text, hstr, hvalue ▸ hvalid, ?_⟩
  apply lookupSecret_of_mem
  · rw [hwrites, ← hvalue]
    exact List.mem_append_left _ hmem
  · intro write hwrite hkey
    rcases themeWrites_write h hwrite with
      ⟨slot', text', _, hkey', hfield', heq⟩ | ⟨token, _, htoken, hkey', _⟩
    · rw [← hkey', hkey, hfield, hstr] at hfield'
      cases hfield'
      exact heq
    · exact absurd (hkey.symm.trans hkey') (slotKey_ne_tokenKey hslot htoken)

theorem stored_token (h : themeWrites body = .ok writes) (site : Site app)
    {token : ThemeToken} (htoken : token ∈ siteThemeTokens) {field : Json}
    (hfield : payloadField body "theme" token.key = some field) :
    exists text, field = .str text ∧
      (text = "" ∨ isValidThemeTokenValue token.type text = true) ∧
        (site.addSecrets writes).lookupSecret token.key = text := by
  rcases themeWrites_ok h with ⟨content, theme, hwrites, _, htheme⟩
  rcases childWrites_field htheme htoken hfield with ⟨text, value, hstr, haccept, hmem⟩
  rcases acceptTokenValue_ok haccept with ⟨hvalue, hvalid⟩
  refine ⟨text, hstr, hvalid, ?_⟩
  apply lookupSecret_of_mem
  · rw [hwrites, ← hvalue]
    exact List.mem_append_right _ hmem
  · intro write hwrite hkey
    rcases themeWrites_write h hwrite with
      ⟨slot, _, hslot, hkey', _⟩ | ⟨token', text', _, hkey', hfield', heq⟩
    · exact absurd (hkey'.symm.trans hkey) (slotKey_ne_tokenKey hslot htoken)
    · rw [← hkey', hkey, hfield, hstr] at hfield'
      cases hfield'
      exact heq

theorem stored_other (h : themeWrites body = .ok writes) (site : Site app) {key : String}
    (hslot : forall slot, slot ∈ siteContentSlots -> slot.key = key ->
      payloadField body "content" key = none)
    (htoken : forall token, token ∈ siteThemeTokens -> token.key = key ->
      payloadField body "theme" key = none) :
    (site.addSecrets writes).lookupSecret key = site.lookupSecret key := by
  apply lookupSecret_of_notMem
  intro hmem
  rcases List.mem_map.mp hmem with ⟨write, hwrite, hkey⟩
  rcases themeWrites_write h hwrite with
    ⟨slot, text, hmem, hkey', hfield, _⟩ | ⟨token, text, hmem, hkey', hfield, _⟩
  · have heq : slot.key = key := hkey'.symm.trans hkey
    rw [heq, hslot slot hmem heq] at hfield
    cases hfield
  · have heq : token.key = key := hkey'.symm.trans hkey
    rw [heq, htoken token hmem heq] at hfield
    cases hfield

end Stored

/-!
# What is served
-/

section Served

variable {app : Type} {fonts : SiteFonts} {theme theme' : SortedMap String String}

theorem slotKeys_nodup : (siteContentSlots.map ContentSlot.key).Nodup := by decide

theorem cssVariables_nodup : cssVariables.Nodup := by decide +kernel

theorem fontRoles_nodup : fontRoles.Nodup := by decide

theorem fontFamily_iff_role : forall t, t ∈ themeVariables ->
    (t.1.type = .fontFamily <-> t.2 ∈ fontRoles) := by
  decide

theorem themeVariables_token {t : ThemeToken × String} (h : t ∈ themeVariables) :
    t.1 ∈ siteThemeTokens := (List.of_mem_zip h).1

theorem variables_nodup : (themeVariables.map Prod.snd).Nodup := by
  have hvariables : themeVariables.map Prod.snd = cssVariables :=
    List.map_snd_zip (by decide)
  rw [hvariables]
  exact cssVariables_nodup

theorem find?_loadSiteContent (site : Site app) {slot : ContentSlot}
    (hslot : slot ∈ siteContentSlots) :
    (loadSiteContent site).find? slot.key =
      some (normalizeSlotValue slot.type (site.lookupSecret slot.key)) := by
  have hpairs : loadSiteContent site =
      (siteContentSlots.map (fun slot => (slot.key,
        normalizeSlotValue slot.type (site.lookupSecret slot.key)))).foldl
          (fun m e => m.set e.1 e.2) SortedMap.empty := by
    rw [List.foldl_map]
    rfl
  have hkeys : (siteContentSlots.map (fun slot => (slot.key,
      normalizeSlotValue slot.type (site.lookupSecret slot.key)))).map Prod.fst =
        siteContentSlots.map ContentSlot.key := by
    rw [List.map_map]
    rfl
  rw [hpairs]
  exact SortedMap.find?_foldl_set (hkeys ▸ slotKeys_nodup)
    (List.mem_map_of_mem hslot) SortedMap.empty

theorem find?_loadSiteTheme (site : Site app) {t : ThemeToken × String}
    (ht : t ∈ themeVariables) :
    (loadSiteTheme site).find? t.2 =
      if isValidThemeTokenValue t.1.type (site.lookupSecret t.1.key) = true then
        some (site.lookupSecret t.1.key)
      else none := by
  have hpairs : loadSiteTheme site =
      ((themeVariables.filter (fun t => isValidThemeTokenValue t.1.type
        (site.lookupSecret t.1.key))).map (fun t => (t.2, site.lookupSecret t.1.key))).foldl
          (fun m e => m.set e.1 e.2) SortedMap.empty := by
    rw [List.foldl_map, List.foldl_filter]
    rfl
  have hkeys : forall tokens : List (ThemeToken × String),
      (tokens.map (fun t => (t.2, site.lookupSecret t.1.key))).map Prod.fst =
        tokens.map Prod.snd := by
    intro tokens
    rw [List.map_map]
    rfl
  rw [hpairs]
  split
  · rename_i hvalid
    have hmem : t ∈ themeVariables.filter (fun t => isValidThemeTokenValue t.1.type
        (site.lookupSecret t.1.key)) := List.mem_filter.mpr ⟨ht, hvalid⟩
    have hnodup : ((themeVariables.filter (fun t => isValidThemeTokenValue t.1.type
        (site.lookupSecret t.1.key))).map Prod.snd).Nodup :=
      variables_nodup.sublist (List.filter_sublist.map Prod.snd)
    rw [← hkeys] at hnodup
    exact SortedMap.find?_foldl_set hnodup (List.mem_map_of_mem hmem) SortedMap.empty
  · rename_i hinvalid
    apply SortedMap.find?_foldl_set_of_notMem
    rw [hkeys]
    intro hmem
    rcases List.mem_map.mp hmem with ⟨t', ht', heq⟩
    rcases List.mem_filter.mp ht' with ⟨hmem', hvalid⟩
    have hsame : t' = t := List.inj_on_of_nodup_map variables_nodup hmem' ht heq
    exact hinvalid (hsame ▸ hvalid)

theorem find?_erase (theme : SortedMap String String) (role cssVariable : String) :
    (theme.erase role).find? cssVariable =
      if cssVariable = role then none else theme.find? cssVariable := by
  by_cases heq : cssVariable = role
  · rw [if_pos heq]
    apply SortedMap.find?_none
    intro hmem
    exact (SortedMap.mem_keys_erase hmem).2 heq
  · rw [if_neg heq]
    change (theme.filter (fun e => decide (e.1 ≠ role))).find? cssVariable = theme.find? cssVariable
    rw [SortedMap.find?_filter]
    cases theme.find? cssVariable <;> simp [heq]

/-- The stack that a role with this family is served, if there is one. -/
def stackOf (fonts : SiteFonts) (family : String) : Option String :=
  if lookupFontStack fonts family = "" then none else some (lookupFontStack fonts family)

theorem find?_resolveFontRole (role cssVariable : String) :
    (resolveFontRole fonts theme role).find? cssVariable =
      if cssVariable = role then (theme.find? cssVariable).bind (stackOf fonts)
      else theme.find? cssVariable := by
  unfold resolveFontRole
  by_cases heq : cssVariable = role
  · rw [if_pos heq, heq]
    cases hfind : theme.find? role with
    | none => exact hfind
    | some family =>
        rw [Option.bind_some]
        unfold stackOf
        dsimp only
        split
        · rw [find?_erase, if_pos rfl]
        · exact SortedMap.find?_set_self _ _ _
  · rw [if_neg heq]
    cases theme.find? role with
    | none => rfl
    | some family =>
        dsimp only
        split
        · rw [find?_erase, if_neg heq]
        · exact SortedMap.find?_set_of_ne _ _ heq

theorem find?_resolveFontRoles {roles : List String} (hnodup : roles.Nodup)
    (cssVariable : String) :
    (resolveFontRoles fonts roles theme).find? cssVariable =
      if cssVariable ∈ roles then (theme.find? cssVariable).bind (stackOf fonts)
      else theme.find? cssVariable := by
  induction roles generalizing theme with
  | nil => rfl
  | cons role rest ih =>
      rcases List.nodup_cons.mp hnodup with ⟨hnot, hrest⟩
      change (resolveFontRoles fonts rest (resolveFontRole fonts theme role)).find? cssVariable = _
      rw [ih hrest, find?_resolveFontRole]
      by_cases heq : cssVariable = role
      · rw [if_pos heq, if_neg (heq ▸ hnot), if_pos (heq ▸ List.mem_cons_self)]
      · rw [if_neg heq]
        by_cases hmem : cssVariable ∈ rest
        · rw [if_pos hmem, if_pos (List.mem_cons_of_mem _ hmem)]
        · rw [if_neg hmem, if_neg (fun hin => hmem ((List.mem_cons.mp hin).resolve_left heq))]

end Served

end Branding
end ServerComponents
