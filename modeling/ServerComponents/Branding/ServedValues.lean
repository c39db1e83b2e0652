import ServerComponents.Branding.ManageSiteTheme
import ServerComponents.Branding.Packings

/-!
# Accepted values are served

A value that the editor accepts is stored, and what is stored is served, unless the value is
for a font role: there the whole value is looked up as the name of a family, while a list of
families passes the check.
-/

namespace ServerComponents
namespace Branding

open Relational
open Rest (Json Response)

/-!
# The first family of a list
-/

/-- The text before the first comma that stands outside quotes. -/
def firstPiece : Bool -> List Char -> List Char
  | _, [] => []
  | quoted, c :: rest =>
      if c = ',' ∧ quoted = false then []
      else c :: firstPiece (if c = '"' then !quoted else quoted) rest

def trimSpaces (cs : List Char) : List Char :=
  ((cs.dropWhile (fun c => c == ' ')).reverse.dropWhile (fun c => c == ' ')).reverse

/-- The family that a list names first, without its quotes. -/
def firstFamily (value : String) : String :=
  String.ofList ((trimSpaces (firstPiece false value.toList)).filter (fun c => c != '"'))

/-!
# What is to be served
-/

/-- The stack of a stored family with this name, and nothing only if there is none. -/
structure ServesFamily (fonts : SiteFonts) (family : String) (served : Option String) :
    Prop where
  composed : forall stack, served = some stack -> exists font, font ∈ fonts.rowsOf family ∧
    stack = composeFontStack font.2.family font.2.fallback
  absent : served = none -> fonts.rowsOf family = []

structure ServesPayload (body : Json) (fonts : SiteFonts) (info : SiteInfo) : Prop where
  content : forall slot, slot ∈ siteContentSlots -> forall field,
    payloadField body "content" slot.key = some field -> exists text, field = .str text ∧
      info.content.find? slot.key = some (normalizeLineEndings text)
  theme : forall t, t ∈ themeVariables -> t.1.type ≠ .fontFamily -> forall field,
    payloadField body "theme" t.1.key = some field -> exists text, field = .str text ∧
      info.theme.find? t.2 = if text = "" then none else some text
  roles : forall t, t ∈ themeVariables -> t.1.type = .fontFamily -> forall field,
    payloadField body "theme" t.1.key = some field -> exists text, field = .str text ∧
      (text = "" -> info.theme.find? t.2 = none) ∧
      (text ≠ "" -> ServesFamily fonts (firstFamily text) (info.theme.find? t.2))

/-- What the payload has no field for is served as before. -/
structure KeepsRest (body : Json) (before info : SiteInfo) : Prop where
  content : forall slot, slot ∈ siteContentSlots ->
    payloadField body "content" slot.key = none ->
      info.content.find? slot.key = before.content.find? slot.key
  theme : forall t, t ∈ themeVariables -> payloadField body "theme" t.1.key = none ->
    info.theme.find? t.2 = before.theme.find? t.2
  displayName : info.displayName = before.displayName
  websiteUrl : info.websiteUrl = before.websiteUrl
  logoUrl : info.logoUrl = before.logoUrl
  fonts : info.fonts = before.fonts

section Claim

variable {app : Type} (tenantDisplayName : String)

def ServesAccepted (body : Json) (site site' : Site app) : Prop :=
  ServesPayload body site'.fonts (getSiteInfo tenantDisplayName site') ∧
    KeepsRest body (getSiteInfo tenantDisplayName site) (getSiteInfo tenantDisplayName site')

/-- After an answer of 200 what was put is served, and after any other all is as before. -/
structure PutServes (databaseAvailable : Bool) (access : Access) (parsed : Except Exn Json)
    (site : Site app) : Prop where
  accepted : (ManageSiteTheme.handlePut databaseAvailable access parsed site).1.status = 200 ->
    exists body, parsed = .ok body ∧ ServesAccepted tenantDisplayName body site
      (ManageSiteTheme.handlePut databaseAvailable access parsed site).2
  refused : (ManageSiteTheme.handlePut databaseAvailable access parsed site).1.status ≠ 200 ->
    (ManageSiteTheme.handlePut databaseAvailable access parsed site).2 = site

/-!
# When it is
-/

/-- The value names its first family as it stands, or no family at all. -/
def NamesPlainly (fonts : SiteFonts) (value : String) : Prop :=
  (isValidFontFamilyName value = true ∧ firstFamily value = value) ∨
    (fonts.rowsOf (firstFamily value) = [] ∧
      (isValidFontFamilyName value = true -> fonts.rowsOf value = []))

instance (fonts : SiteFonts) (value : String) : Decidable (NamesPlainly fonts value) :=
  inferInstanceAs (Decidable (_ ∨ _))

/-- The font roles of the payload name their families plainly. -/
def RolesResolve (body : Json) (site : Site app) : Prop :=
  forall t, t ∈ themeVariables -> t.1.type = .fontFamily -> forall text,
    payloadField body "theme" t.1.key = some (.str text) -> text ≠ "" ->
      NamesPlainly site.fonts text

end Claim

/-!
# Stacks
-/

section Stacks

variable {fonts : SiteFonts} {value : String}

variable (h : isValidFontFamilyName value = true)

include h in
theorem fontFamilyList_of_name :
    isValidFontFamilyList value = true := by
  unfold isValidFontFamilyName at h
  unfold isValidFontFamilyList
  split at h
  · cases h
  · rename_i hsize
    rw [not_or] at hsize
    have hchars : forall c, c ∈ value.toList ->
        (isAsciiAlnum c || c == ' ' || c == '-' || c == '_') = true := List.all_eq_true.mp h
    have hquote : value.toList.count '"' = 0 := by
      rw [List.count_eq_zero]
      intro hmem
      exact absurd (hchars '"' hmem) (by decide)
    have hbytes : Not (value = "" ∨ 256 < value.utf8ByteSize) := by
      rintro (hempty | hlong)
      · exact hsize.1 hempty
      · have hshort : Not (kMaxFamilyBytes < value.utf8ByteSize) := hsize.2
        unfold kMaxFamilyBytes at hshort
        omega
    rw [if_neg hbytes, hquote, Bool.and_eq_true]
    refine ⟨?_, rfl⟩
    rw [List.all_eq_true]
    intro c hc
    have hname := hchars c hc
    simp only [Bool.or_eq_true] at hname ⊢
    tauto

include h in
theorem name_ne_empty : value ≠ "" := by
  rintro rfl
  cases h

include h in
theorem apostrophe_notMem :
    '\'' ∉ value.toList := by
  unfold isValidFontFamilyName at h
  split at h
  · cases h
  · intro hmem
    exact absurd (List.all_eq_true.mp h _ hmem) (by decide)

include h in
theorem composeFontStack_toList (fallback : String) :
    (composeFontStack value fallback).toList = '\'' :: (value.toList ++ '\'' ::
      (if fallback = "" then [] else ',' :: ' ' :: fallback.toList)) := by
  unfold composeFontStack
  rw [if_neg (by rw [h]; decide), String.toList_append, String.toList_append, String.toList_append]
  split
  · simp
  · rw [String.toList_append]
    simp

include h in
theorem composeFontStack_ne_empty {fallback : String} : composeFontStack value fallback ≠ "" := by
  intro heq
  have hlist := composeFontStack_toList h fallback
  rw [heq] at hlist
  cases hlist

include h in
theorem composeFontStack_family {value' fallback fallback' : String}
    (heq : composeFontStack value fallback = composeFontStack value' fallback') :
    value = value' := by
  have h' : isValidFontFamilyName value' = true := by
    cases hvalid : isValidFontFamilyName value' with
    | true => rfl
    | false =>
        have hempty : composeFontStack value' fallback' = "" := by
          unfold composeFontStack
          rw [if_pos hvalid]
        exact absurd (heq.trans hempty) (composeFontStack_ne_empty h)
  have hlist := composeFontStack_toList h fallback
  have hlist' := composeFontStack_toList h' fallback'
  have hname : forall cs rest : List Char, '\'' ∉ cs ->
      (cs ++ '\'' :: rest).takeWhile (fun c => c != '\'') = cs := by
    intro cs rest hcs
    rw [List.takeWhile_append_of_pos]
    · simp
    · intro c hc
      exact bne_iff_ne.mpr (fun hquote => hcs (hquote ▸ hc))
  rw [heq, hlist', List.cons.injEq] at hlist
  have hsame := congrArg (List.takeWhile (fun c => c != '\'')) hlist.2
  rw [hname _ _ (apostrophe_notMem h'), hname _ _ (apostrophe_notMem h)] at hsame
  exact (String.toList_injective hsame).symm

include h in
theorem stackOf_of_name {id : Nat} {font : SiteFont}
    (hfont : fonts.getFontByFamily value = some (id, font)) :
    stackOf fonts value = some (composeFontStack value font.fallback) := by
  have hstack : lookupFontStack fonts value = composeFontStack value font.fallback := by
    unfold lookupFontStack
    rw [if_neg (by rw [h]; decide), hfont]
    dsimp only
    rw [(SiteFonts.mem_of_getFontByFamily hfont).2]
  unfold stackOf
  rw [hstack, if_neg (composeFontStack_ne_empty h)]

theorem stackOf_of_none (h : isValidFontFamilyName value = true -> fonts.rowsOf value = []) :
    stackOf fonts value = none := by
  unfold stackOf lookupFontStack
  cases hvalid : isValidFontFamilyName value with
  | false => rfl
  | true =>
      have hfont : fonts.getFontByFamily value = none := List.head?_eq_none_iff.mpr (h hvalid)
      rw [hfont]
      rfl

theorem servesFamily_iff :
    ServesFamily fonts (firstFamily value) (stackOf fonts value) <->
      NamesPlainly fonts value := by
  by_cases hnone : isValidFontFamilyName value = true -> fonts.rowsOf value = []
  · -- Nothing is served, so there must be no family.
    rw [stackOf_of_none hnone]
    constructor
    · intro h
      exact Or.inr ⟨h.absent rfl, hnone⟩
    · intro h
      refine ⟨fun _ hstack => (nomatch hstack), fun _ => ?_⟩
      rcases h with ⟨hvalid, hplain⟩ | ⟨hrows, _⟩
      · rw [hplain]
        exact hnone hvalid
      · exact hrows
  · rcases Classical.not_imp.mp hnone with ⟨hvalid, hstored⟩
    rcases hfont : fonts.getFontByFamily value with _ | ⟨id, font⟩
    · exact absurd (SiteFonts.getFontByFamily_none hfont) hstored
    · rw [stackOf_of_name hvalid hfont]
      have hmem := SiteFonts.mem_of_getFontByFamily hfont
      constructor
      · intro h
        rcases h.composed _ rfl with ⟨font', hfont', hstack⟩
        have hsame := composeFontStack_family hvalid hstack
        exact Or.inl ⟨hvalid, (hsame.trans (SiteFonts.mem_rowsOf.mp hfont').2).symm⟩
      · intro h
        have hplain : firstFamily value = value := by
          rcases h with ⟨_, hplain⟩ | ⟨_, hmissing⟩
          · exact hplain
          · exact absurd (hmissing hvalid) hstored
        refine ⟨?_, fun hnone => (nomatch hnone)⟩
        intro stack hstack
        refine ⟨(id, font), ?_, ?_⟩
        · rw [hplain]
          exact SiteFonts.mem_rowsOf.mpr hmem
        · rw [← Option.some.inj hstack, hmem.2]

end Stacks

/-!
# The endpoint
-/

section Endpoint

variable {app : Type} {databaseAvailable : Bool} {access : Access} {parsed : Except Exn Json}

/-- The checks pass, and there is something to write. -/
structure Accepts (databaseAvailable : Bool) (access : Access) (parsed : Except Exn Json)
    (body : Json) (writes : List (String × String)) : Prop where
  database : databaseAvailable = true
  admin : access = .admin
  parsed : parsed = .ok body
  gathered : themeWrites body = .ok writes
  nonempty : writes ≠ []

theorem gatherWrites_refused {entry : Type} {key : entry -> String}
    {accept : entry -> String -> Checked String} {fields : Json} {registry : List entry}
    {response : Response}
    (haccept : forall e text, accept e text = .error (.response response) ->
      response.status = 400)
    (h : gatherWrites key accept fields registry = .error (.response response)) :
    response.status = 400 := by
  induction registry with
  | nil => cases h
  | cons first rest ih =>
      unfold gatherWrites at h
      split at h
      · exact ih h
      · rename_i field _
        cases htext : fieldText field with
        | error e =>
            rw [htext] at h
            cases h
        | ok text =>
            rw [htext] at h
            change (accept first text >>= fun value => _) = _ at h
            cases hvalue : accept first text with
            | error refusal =>
                rw [hvalue] at h
                cases h
                exact haccept first text hvalue
            | ok value =>
                rw [hvalue] at h
                change (gatherWrites key accept fields rest >>= fun writes => _) = _ at h
                cases hlater : gatherWrites key accept fields rest with
                | error refusal =>
                    rw [hlater] at h
                    cases h
                    exact ih hlater
                | ok writes =>
                    rw [hlater] at h
                    cases h

theorem childWrites_refused {entry : Type} {key : entry -> String}
    {accept : entry -> String -> Checked String} {child : Option Json} {registry : List entry}
    {response : Response}
    (haccept : forall e text, accept e text = .error (.response response) ->
      response.status = 400)
    (h : childWrites key accept registry child = .error (.response response)) :
    response.status = 400 := by
  cases child with
  | none => cases h
  | some fields =>
      unfold childWrites at h
      dsimp only at h
      split at h
      · exact gatherWrites_refused haccept h
      · cases h

theorem themeWrites_refused {body : Json} {response : Response}
    (h : themeWrites body = .error (.response response)) : response.status = 400 := by
  have hslot : forall slot text, acceptSlotValue slot text = .error (.response response) ->
      response.status = 400 := by
    intro slot text hrefused
    unfold acceptSlotValue refuse at hrefused
    dsimp only at hrefused
    split at hrefused
    · cases hrefused
    · cases hrefused
      rfl
  have htoken : forall token text, acceptTokenValue token text = .error (.response response) ->
      response.status = 400 := by
    intro token text hrefused
    unfold acceptTokenValue refuse at hrefused
    split at hrefused
    · cases hrefused
      rfl
    · cases hrefused
  unfold themeWrites at h
  cases hcontent : childWrites ContentSlot.key acceptSlotValue siteContentSlots
      (body.child? "content") with
  | error refusal =>
      rw [hcontent] at h
      cases h
      exact childWrites_refused hslot hcontent
  | ok content =>
      rw [hcontent] at h
      change (childWrites ThemeToken.key acceptTokenValue siteThemeTokens (body.child? "theme")
        >>= fun theme => _) = _ at h
      cases htheme : childWrites ThemeToken.key acceptTokenValue siteThemeTokens
          (body.child? "theme") with
      | error refusal =>
          rw [htheme] at h
          cases h
          exact childWrites_refused htoken htheme
      | ok theme =>
          rw [htheme] at h
          cases h

theorem themeWrites_of_leaf {body : Json} (h : body.hasChildren = false) :
    themeWrites body = .ok [] := by
  cases body with
  | obj children => cases h
  | _ => rfl

theorem handlePut_accepted {body : Json} {writes : List (String × String)}
    (h : Accepts databaseAvailable access parsed body writes) (site : Site app) :
    ManageSiteTheme.handlePut databaseAvailable access parsed site =
      (⟨200, [("Content-Type", "application/json")], ManageSiteTheme.savedBody writes⟩,
        site.addSecrets writes) := by
  have hchildren : Not (body.hasChildren = false) := by
    intro hleaf
    have hnone := h.gathered
    rw [themeWrites_of_leaf hleaf] at hnone
    exact h.nonempty (Except.ok.inj hnone).symm
  unfold ManageSiteTheme.handlePut ManageSiteTheme.putManageSiteTheme requireAdmin
  rw [h.database, h.admin, h.parsed]
  dsimp only
  rw [if_neg (by decide), if_neg hchildren, h.gathered]
  dsimp only
  rw [if_neg h.nonempty]

theorem handlePut_refused
    (h : Not (exists body writes, Accepts databaseAvailable access parsed body writes))
    (site : Site app) :
    (ManageSiteTheme.handlePut databaseAvailable access parsed site).1.status ≠ 200 ∧
      (ManageSiteTheme.handlePut databaseAvailable access parsed site).2 = site := by
  unfold ManageSiteTheme.handlePut ManageSiteTheme.putManageSiteTheme
  by_cases hdatabase : databaseAvailable = false
  · rw [if_pos hdatabase]
    exact ⟨show 500 ≠ 200 by decide, rfl⟩
  · rw [if_neg hdatabase]
    cases access with
    | loggedOut => exact ⟨show 401 ≠ 200 by decide, rfl⟩
    | loggedIn => exact ⟨show 403 ≠ 200 by decide, rfl⟩
    | admin =>
        dsimp only [requireAdmin]
        cases parsed with
        | error e => exact ⟨show 500 ≠ 200 by decide, rfl⟩
        | ok body =>
            dsimp only
            by_cases hleaf : body.hasChildren = false
            · rw [if_pos hleaf]
              exact ⟨show 400 ≠ 200 by decide, rfl⟩
            · rw [if_neg hleaf]
              cases hgathered : themeWrites body with
              | error refusal =>
                  cases refusal with
                  | response response =>
                      refine ⟨?_, rfl⟩
                      change response.status ≠ 200
                      rw [themeWrites_refused hgathered]
                      decide
                  | thrown e => exact ⟨show 500 ≠ 200 by decide, rfl⟩
              | ok writes =>
                  dsimp only
                  by_cases hnone : writes = []
                  · rw [if_pos hnone]
                    exact ⟨show 400 ≠ 200 by decide, rfl⟩
                  · exact absurd ⟨body, writes, by simpa using hdatabase, rfl, rfl, hgathered,
                      hnone⟩ h

end Endpoint

/-!
# What a page gets
-/

section Page

variable {app : Type} {tenantDisplayName : String} {body : Json}
  {writes : List (String × String)} {site : Site app}

theorem served_theme {t : ThemeToken × String} (ht : t ∈ themeVariables) :
    (getSiteInfo tenantDisplayName site).theme.find? t.2 =
      if t.1.type = .fontFamily then
        ((loadSiteTheme site).find? t.2).bind (stackOf site.fonts)
      else (loadSiteTheme site).find? t.2 := by
  change (resolveFontRoles site.fonts fontRoles (loadSiteTheme site)).find? t.2 = _
  rw [find?_resolveFontRoles fontRoles_nodup]
  by_cases hrole : t.2 ∈ fontRoles
  · rw [if_pos hrole, if_pos ((fontFamily_iff_role t ht).mpr hrole)]
  · rw [if_neg hrole, if_neg (fun htype => hrole ((fontFamily_iff_role t ht).mp htype))]

theorem normalizeLineEndings_idem (text : String) :
    normalizeLineEndings (normalizeLineEndings text) = normalizeLineEndings text := by
  unfold normalizeLineEndings
  rw [String.toList_ofList, normalizeChars_of_not_mem (not_mem_normalizeChars text.toList)]

theorem served_slot (h : themeWrites body = .ok writes) {slot : ContentSlot}
    (hslot : slot ∈ siteContentSlots) {field : Json}
    (hfield : payloadField body "content" slot.key = some field) :
    exists text, field = .str text ∧
      (loadSiteContent (site.addSecrets writes)).find? slot.key =
        some (normalizeLineEndings text) := by
  rcases stored_slot h site hslot hfield with ⟨text, rfl, hvalid, hstored⟩
  refine ⟨text, rfl, ?_⟩
  rw [find?_loadSiteContent _ hslot, hstored]
  unfold normalizeSlotValue
  dsimp only
  rw [normalizeLineEndings_idem, if_pos hvalid]

theorem loaded_token (h : themeWrites body = .ok writes) {t : ThemeToken × String}
    (ht : t ∈ themeVariables) {field : Json}
    (hfield : payloadField body "theme" t.1.key = some field) :
    exists text, field = .str text ∧
      (loadSiteTheme (site.addSecrets writes)).find? t.2 =
        if text = "" then none else some text := by
  rcases stored_token h site (themeVariables_token ht) hfield with ⟨text, rfl, hvalid, hstored⟩
  refine ⟨text, rfl, ?_⟩
  rw [find?_loadSiteTheme _ ht, hstored]
  by_cases hempty : text = ""
  · rw [if_pos hempty, if_neg]
    rw [hempty]
    cases t.1.type <;> decide
  · rw [if_neg hempty, if_pos (hvalid.resolve_left hempty)]

theorem keepsRest (h : themeWrites body = .ok writes) :
    KeepsRest body (getSiteInfo tenantDisplayName site)
      (getSiteInfo tenantDisplayName (site.addSecrets writes)) := by
  have hother : forall key, (forall slot, slot ∈ siteContentSlots -> slot.key ≠ key) ->
      (forall token, token ∈ siteThemeTokens -> token.key ≠ key) ->
        (site.addSecrets writes).lookupSecret key = site.lookupSecret key := by
    intro key hslots htokens
    apply stored_other h
    · exact fun slot hslot heq => absurd heq (hslots slot hslot)
    · exact fun token htoken heq => absurd heq (htokens token htoken)
  have hname := hother Auth.Secrets.kMailSenderName (by decide) (by decide)
  have hwebsite := hother Auth.Secrets.kWebsiteAddressLogin (by decide) (by decide)
  have hlogo := hother kSiteLogoUrl (by decide) (by decide)
  constructor
  · intro slot hslot hnone
    change (loadSiteContent _).find? slot.key = (loadSiteContent _).find? slot.key
    rw [find?_loadSiteContent _ hslot, find?_loadSiteContent _ hslot, stored_other h]
    · exact fun _ _ _ => hnone
    · exact fun token htoken heq => absurd heq.symm (slotKey_ne_tokenKey hslot htoken)
  · intro t ht hnone
    have htoken := themeVariables_token ht
    have hsame : (loadSiteTheme (site.addSecrets writes)).find? t.2 =
        (loadSiteTheme site).find? t.2 := by
      rw [find?_loadSiteTheme _ ht, find?_loadSiteTheme _ ht, stored_other h]
      · exact fun slot hslot heq => absurd heq (slotKey_ne_tokenKey hslot htoken)
      · exact fun _ _ _ => hnone
    rw [served_theme ht, served_theme ht, hsame, fonts_addSecrets]
  · simp only [getSiteInfo, hname]
  · exact hwebsite
  · exact hlogo
  · simp only [getSiteInfo, fonts_addSecrets]

end Page

/-!
# The two agree
-/

section Claim

variable {app : Type} {tenantDisplayName : String} {body : Json}
  {writes : List (String × String)} {site : Site app}

theorem served_role (h : themeWrites body = .ok writes) {t : ThemeToken × String}
    (ht : t ∈ themeVariables) (htype : t.1.type = .fontFamily) {text : String}
    (hfield : payloadField body "theme" t.1.key = some (.str text)) :
    (getSiteInfo tenantDisplayName (site.addSecrets writes)).theme.find? t.2 =
      if text = "" then none else stackOf site.fonts text := by
  rcases @loaded_token app body writes site h t ht _ hfield with ⟨text', hstr, hloaded⟩
  cases hstr
  rw [served_theme ht, if_pos htype, hloaded, fonts_addSecrets]
  split
  · rfl
  · rfl

theorem servesAccepted_iff (h : themeWrites body = .ok writes) :
    ServesAccepted tenantDisplayName body site (site.addSecrets writes) <->
      RolesResolve body site := by
  constructor
  · rintro ⟨hserves, _⟩ t ht htype text hfield hne
    rcases hserves.roles t ht htype _ hfield with ⟨text', hstr, _, hfamily⟩
    cases hstr
    have hserved := hfamily hne
    rw [served_role h ht htype hfield, if_neg hne, fonts_addSecrets] at hserved
    exact servesFamily_iff.mp hserved
  · intro hroles
    refine ⟨?_, keepsRest h⟩
    constructor
    · intro slot hslot field hfield
      exact served_slot h hslot hfield
    · intro t ht htype field hfield
      rcases @loaded_token app body writes site h t ht _ hfield with ⟨text, hstr, hloaded⟩
      refine ⟨text, hstr, ?_⟩
      rw [served_theme ht, if_neg htype, hloaded]
    · intro t ht htype field hfield
      rcases stored_token h site (themeVariables_token ht) hfield with ⟨text, rfl, _, _⟩
      refine ⟨text, rfl, ?_, ?_⟩
      · intro hempty
        rw [served_role h ht htype hfield, if_pos hempty]
      · intro hne
        rw [served_role h ht htype hfield, if_neg hne, fonts_addSecrets]
        exact servesFamily_iff.mpr (hroles t ht htype text hfield hne)

/-- What the editor accepts is served exactly when each font role that it puts names its
family plainly. -/
theorem putServes_iff (tenantDisplayName : String) (databaseAvailable : Bool) (access : Access)
    (parsed : Except Exn Json) (site : Site app) :
    PutServes tenantDisplayName databaseAvailable access parsed site <->
      forall body writes, Accepts databaseAvailable access parsed body writes ->
        RolesResolve body site := by
  constructor
  · intro hserves body writes haccepts
    have hput := handlePut_accepted haccepts site
    rcases hserves.accepted (by rw [hput]) with ⟨body', hparsed, hserved⟩
    rw [haccepts.parsed] at hparsed
    cases hparsed
    rw [hput] at hserved
    exact (servesAccepted_iff haccepts.gathered).mp hserved
  · intro hroles
    by_cases haccepts : exists body writes, Accepts databaseAvailable access parsed body writes
    · rcases haccepts with ⟨body, writes, haccepts⟩
      have hput := handlePut_accepted haccepts site
      constructor
      · intro _
        refine ⟨body, haccepts.parsed, ?_⟩
        rw [hput]
        exact (servesAccepted_iff haccepts.gathered).mpr (hroles body writes haccepts)
      · intro hrefused
        rw [hput] at hrefused
        exact absurd rfl hrefused
    · rcases handlePut_refused haccepts site with ⟨hstatus, hsame⟩
      exact ⟨fun haccepted => absurd haccepted hstatus, fun _ => hsame⟩

end Claim

def barlowSite : Site Unit where
  secrets := SortedMap.empty
  assets := SortedMap.empty
  fonts := SiteFonts.empty.addFont ⟨"Barlow", "sans-serif", "system", none, "", 10, true, []⟩
  app := ()

def quotedBarlow : Json :=
  .obj [("theme", .obj [("site_theme_font_body", .str "\"Barlow\"")])]

/-- The quoted name of a stored family is accepted, and the role is not served. -/
theorem quotedBarlow_not_putServes :
    (ManageSiteTheme.handlePut true .admin (.ok quotedBarlow) barlowSite).1.status = 200 ∧
      firstFamily "\"Barlow\"" = "Barlow" ∧ barlowSite.fonts.rowsOf "Barlow" ≠ [] ∧
        Not (PutServes "" true .admin (.ok quotedBarlow) barlowSite) := by
  have haccepts : Accepts true .admin (.ok quotedBarlow) quotedBarlow
      [("site_theme_font_body", "\"Barlow\"")] := ⟨rfl, rfl, rfl, rfl, by decide⟩
  have hput := handlePut_accepted haccepts barlowSite
  refine ⟨by rw [hput], by decide, by decide, ?_⟩
  intro hserves
  rcases hserves.accepted (by rw [hput]) with ⟨body, hparsed, hserved⟩
  cases hparsed
  rw [hput, servesAccepted_iff haccepts.gathered] at hserved
  have hplain := hserved (⟨"site_theme_font_body", .fontFamily⟩, "--font-body") (by decide)
    rfl "\"Barlow\"" rfl (by decide)
  exact absurd hplain (by decide)

end Branding
end ServerComponents
