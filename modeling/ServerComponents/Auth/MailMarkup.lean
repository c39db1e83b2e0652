import ServerComponents.Auth.MailLinks
import ServerComponents.Auth.MailTemplates

/-!
# The markup of the mails

The bodies are HTML, and the builders write the texts into them as they are.
-/

namespace ServerComponents
namespace Auth
namespace Mail

open Relational Rest Text Markup

/-- Places are in texts and in the values of this attribute. -/
def PlacesIn (name : String) : Token String -> Bool
  | .text _ => true
  | .tag _ _ attributes _ =>
      attributes.all (fun a => a.1 == name.toList || a.2.all Sym.isChar)
  | .declaration => true

/-- A body has the tokens of its template, with the values in texts and in links. -/
structure ReadsAs (body : String) (template : List (Sym String))
    (values : String -> List Char) : Prop where
  tokens : List.Forall₂ SameToken (tokenize (chars body.toList))
    ((tokenize template).map (Token.fill values))
  intended : forall t, t ∈ tokenize template -> PlacesIn "href" t = true

theorem sameBreaks_normalizeFrom (previous : Option Char) (text : List Char) :
    SameBreaks (chars (normalizeFrom previous text) : List (Sym String)) (chars text) := by
  induction text generalizing previous with
  | nil => exact SameBreaks.nil
  | cons c rest ih =>
      unfold normalizeFrom
      split
      · rename_i hline
        rw [hline.1]
        exact (ih _).lineFeed
      · exact (ih _).cons _

/-!
# The templates
-/

def verifyMailKeys : List String :=
  ["email_from", "first_name", "last_name", "studio_name", "website_address",
    "api_link_prefix", "activation_link", "encoded_secret"]

def verifyMailTemplate : List (Sym String) :=
  symbols verifyMailKeys kMailTemplatePrefix.toList ++
    .slot "encoded_secret" :: symbols verifyMailKeys kMailTemplateSuffix.toList

def passwordResetKeys : List String :=
  ["studio_name", "first_name", "email", "reset_link", "ttl_minutes"]

def passwordResetTemplate : List (Sym String) :=
  symbols passwordResetKeys kBodyTemplate.toList

def welcomeKeys : List String :=
  ["first_name", "email", "temporary_password", "studio_name"]

def welcomeTemplate : List (Sym String) := symbols welcomeKeys kWelcomeMailTemplate.toList

/-- What the places of a template are, and how they stand in its text. -/
structure PlacedAs (template : List (Sym String)) (expected : List (Place String)) : Prop where
  places : Markup.places template = expected
  intended : forall t, t ∈ tokenize template -> PlacesIn "href" t = true

set_option maxRecDepth 2000 in
theorem placedAs_verifyMailTemplate :
    PlacedAs verifyMailTemplate
        [.text "studio_name", .text "first_name", .attribute "website_address",
          .attribute "activation_link", .attribute "email_from",
          .attribute "encoded_secret"] ∧
      Spaced "website_address" (symbols verifyMailKeys kMailTemplatePrefix.toList) = true ∧
      symbols verifyMailKeys kMailTemplateSuffix.toList = chars kMailTemplateSuffix.toList := by
  have hstart : kMailTemplatePrefix.toList = _ := String.toList_ofList
  have hend : kMailTemplateSuffix.toList = _ := String.toList_ofList
  unfold verifyMailTemplate
  rw [hstart, hend]
  refine ⟨⟨?_, ?_⟩, ?_, ?_⟩ <;> decide +kernel

set_option maxRecDepth 4000 in
theorem placedAs_passwordResetTemplate :
    PlacedAs passwordResetTemplate
        [.text "studio_name", .text "studio_name", .text "first_name", .text "studio_name",
          .text "email", .attribute "reset_link", .text "ttl_minutes"] ∧
      Spaced "ttl_minutes" passwordResetTemplate = true := by
  have htext : kBodyTemplate.toList = _ := String.toList_ofList
  unfold passwordResetTemplate
  rw [htext]
  refine ⟨⟨?_, ?_⟩, ?_⟩ <;> decide

set_option maxRecDepth 8000 in
theorem placedAs_welcomeTemplate :
    PlacedAs welcomeTemplate
        [.text "studio_name", .text "studio_name", .text "first_name", .text "studio_name",
          .text "email", .text "temporary_password", .text "studio_name"] ∧
      Spaced "temporary_password" welcomeTemplate = true := by
  have htext : kWelcomeMailTemplate.toList = _ := String.toList_ofList
  unfold welcomeTemplate
  rw [htext]
  refine ⟨⟨?_, ?_⟩, ?_⟩ <;> decide +kernel

theorem readsAs_of_write {body : String} {template : List (Sym String)}
    {expected : List (Place String)} {values : String -> List Char}
    (hplaced : PlacedAs template expected)
    (hbody : SameBreaks (chars body.toList) (fill values template))
    (hadmits : forall p, p ∈ expected -> p.Admits values) :
    ReadsAs body template values where
  tokens := by
    rw [← tokenize_fill]
    · exact tokenize_sameBreaks hbody
    · rw [hplaced.places]
      exact hadmits
  intended := hplaced.intended

/-!
# The activation mail
-/

/-- The texts of an activation mail hold no markup, and no placeholder that comes later. -/
structure HarmlessVerifyMail (emailFrom encodedSecret firstNameTo lastNameTo : String)
    (branding : TenantBranding) (apiLinkPrefix activationLink : String) : Prop where
  studio : Inert branding.studioName.toList
  name : Inert firstNameTo.toList
  site : '"' ∉ branding.websiteUrl.toList
  link : '"' ∉ activationLink.toList
  secret : '"' ∉ encodedSecret.toList
  unexpanded : Unexpanded (verifyMailEntries emailFrom encodedSecret firstNameTo lastNameTo
    branding apiLinkPrefix activationLink) (symbols verifyMailKeys kMailTemplatePrefix.toList)

section VerifyMail

variable {emailFrom encodedSecret firstNameTo lastNameTo : String} {branding : TenantBranding}
  {apiLinkPrefix activationLink : String}

theorem sameBreaks_verifyMail (h : Unexpanded (verifyMailEntries emailFrom encodedSecret
      firstNameTo lastNameTo branding apiLinkPrefix activationLink)
      (symbols verifyMailKeys kMailTemplatePrefix.toList)) :
    SameBreaks (chars (generateVerifyMailBody emailFrom encodedSecret firstNameTo lastNameTo
        branding apiLinkPrefix activationLink).toList)
      (fill (valueOf (verifyMailEntries emailFrom encodedSecret firstNameTo lastNameTo branding
        apiLinkPrefix activationLink)) verifyMailTemplate) := by
  have hlast : "website_address" ∈ verifyMailKeys ∧
      forall k, k ∈ verifyMailKeys -> k ≤ "website_address" := by
    decide
  have hformat : (formatString kMailTemplatePrefix (keyValueTable (verifyMailEntries emailFrom
      encodedSecret firstNameTo lastNameTo branding apiLinkPrefix activationLink))).toList =
        write (valueOf (verifyMailEntries emailFrom encodedSecret firstNameTo lastNameTo
          branding apiLinkPrefix activationLink))
          (symbols verifyMailKeys kMailTemplatePrefix.toList) :=
    formatString_write nodup_verifyMailEntries plainKeys_verifyMailEntries hlast
      placedAs_verifyMailTemplate.2.1 h
  have hsecret : valueOf (verifyMailEntries emailFrom encodedSecret firstNameTo lastNameTo
      branding apiLinkPrefix activationLink) "encoded_secret" = encodedSecret.toList := rfl
  rw [generateVerifyMailBody_toList]
  generalize verifyMailEntries emailFrom encodedSecret firstNameTo lastNameTo branding
    apiLinkPrefix activationLink = entries at hformat hsecret ⊢
  have hsuffix : formatEntries kMailTemplateSuffix.toList (keyValueTable entries).entries =
      kMailTemplateSuffix.toList := by
    rcases kMailTemplateSuffix_split with ⟨after, htext, _, hopen⟩
    rw [htext]
    exact formatEntries_of_plain hopen
  rw [formatString, String.toList_ofList] at hformat
  rw [hformat, hsuffix, chars_append, chars_append, List.append_assoc, verifyMailTemplate,
    fill_append, fill_slot_cons, placedAs_verifyMailTemplate.2.2, hsecret, fill_chars,
    ← chars_write]
  exact (sameBreaks_normalizeFrom _ _).append
    ((sameBreaks_refl _).append (sameBreaks_normalizeFrom _ _))

theorem readsAs_verifyMail (h : HarmlessVerifyMail emailFrom encodedSecret firstNameTo
    lastNameTo branding apiLinkPrefix activationLink) :
    ReadsAs (generateVerifyMailBody emailFrom encodedSecret firstNameTo lastNameTo branding
        apiLinkPrefix activationLink)
      verifyMailTemplate
      (valueOf (verifyMailEntries emailFrom encodedSecret firstNameTo lastNameTo branding
        apiLinkPrefix activationLink)) := by
  apply readsAs_of_write placedAs_verifyMailTemplate.1 (sameBreaks_verifyMail h.unexpanded)
  intro p hp
  simp only [List.mem_cons, List.not_mem_nil, or_false] at hp
  rcases hp with hp | hp | hp | hp | hp | hp <;> rw [hp]
  · exact h.studio
  · exact h.name
  · exact h.site
  · exact h.link
  · exact (plainValue_encode emailFrom).not_mem (by decide)
  · exact h.secret

end VerifyMail

/-!
# The reset mail
-/

def resetLinkEntries (data : PasswordResetMailData) (branding : TenantBranding) :
    List (String × String) :=
  [("website_url", branding.websiteUrl), ("reset_path", data.resetPath),
    ("email", urlEncodeQueryValue data.email), ("secret", urlEncodeQueryValue data.secret)]

def resetLinkKeys : List String := ["website_url", "reset_path", "email", "secret"]

def resetLinkTemplate : List (Sym String) := symbols resetLinkKeys kLinkTemplate.toList

def resetLink (data : PasswordResetMailData) (branding : TenantBranding) : String :=
  branding.websiteUrl ++ data.resetPath ++ "?email=" ++ urlEncodeQueryValue data.email ++
    "&secret=" ++ urlEncodeQueryValue data.secret

def passwordResetEntries (data : PasswordResetMailData) (branding : TenantBranding) :
    List (String × String) :=
  [("studio_name", branding.studioName), ("first_name", data.firstName),
    ("email", data.email), ("reset_link", resetLink data branding),
    ("ttl_minutes", toString data.ttlMinutes)]

/-- So do those of a reset mail, where the link is one of the texts. -/
structure HarmlessPasswordResetMail (data : PasswordResetMailData)
    (branding : TenantBranding) : Prop where
  studio : Inert branding.studioName.toList
  name : Inert data.firstName.toList
  email : Inert data.email.toList
  site : '"' ∉ branding.websiteUrl.toList
  path : '"' ∉ data.resetPath.toList
  unexpandedLink : Unexpanded (resetLinkEntries data branding) resetLinkTemplate
  unexpanded : Unexpanded (passwordResetEntries data branding) passwordResetTemplate

section PasswordReset

variable {data : PasswordResetMailData} {branding : TenantBranding}

set_option maxRecDepth 2000 in
theorem resetLinkTemplate_eq :
    resetLinkTemplate =
      .slot "website_url" :: .slot "reset_path" :: (chars "?email=".toList ++
        .slot "email" :: (chars "&secret=".toList ++ [.slot "secret"])) := by
  have htext : kLinkTemplate.toList = _ := String.toList_ofList
  unfold resetLinkTemplate
  rw [htext]
  decide

theorem nodup_resetLinkKeys : resetLinkKeys.Nodup := by
  decide

theorem buildPasswordResetLink_of_unexpanded
    (h : Unexpanded (resetLinkEntries data branding) resetLinkTemplate) :
    buildPasswordResetLink branding.websiteUrl data.resetPath data.email data.secret =
      resetLink data branding := by
  have hkeys : forall key, key ∈ resetLinkKeys -> PlainKey key := by
    decide
  have hlast : "website_url" ∈ resetLinkKeys ∧
      forall k, k ∈ resetLinkKeys -> k ≤ "website_url" := by
    decide
  have hspaced : Spaced "website_url" resetLinkTemplate = true := by
    rw [resetLinkTemplate_eq]
    decide
  have hformat : (formatString kLinkTemplate (keyValueTable (resetLinkEntries data
      branding))).toList = write (valueOf (resetLinkEntries data branding)) resetLinkTemplate :=
    formatString_write nodup_resetLinkKeys (plainKeys_of_keys rfl hkeys) hlast hspaced h
  apply String.toList_injective
  show (formatString kLinkTemplate (keyValueTable (resetLinkEntries data branding))).toList = _
  have hnil : forall f, write f [] = [] := fun _ => rfl
  rw [hformat, resetLinkTemplate_eq, write_slot_cons, write_slot_cons, write_append,
    write_chars, write_slot_cons, write_append, write_chars, write_slot_cons, hnil]
  show branding.websiteUrl.toList ++ (data.resetPath.toList ++ ("?email=".toList ++
    ((urlEncodeQueryValue data.email).toList ++ ("&secret=".toList ++
      ((urlEncodeQueryValue data.secret).toList ++ []))))) = _
  simp only [resetLink, String.toList_append, List.append_assoc, List.append_nil,
    -String.reduceToList]

theorem not_mem_resetLink (hsite : '"' ∉ branding.websiteUrl.toList)
    (hpath : '"' ∉ data.resetPath.toList) : '"' ∉ (resetLink data branding).toList := by
  have hemail : '"' ∉ (urlEncodeQueryValue data.email).toList :=
    (plainValue_encode data.email).not_mem (by decide)
  have hsecret : '"' ∉ (urlEncodeQueryValue data.secret).toList :=
    (plainValue_encode data.secret).not_mem (by decide)
  have hplain : '"' ∉ "?email=".toList ∧ '"' ∉ "&secret=".toList := by
    decide
  simp only [resetLink, String.toList_append, List.mem_append, hsite, hpath, hemail, hsecret,
    hplain.1, hplain.2, or_false, not_false_eq_true, -String.reduceToList]

theorem inert_toString_int (n : Int) : Inert (toString n).toList := by
  apply inert_of_not_mem
  intro hmem
  rcases mem_toString_int hmem with h | h
  · revert h
    decide
  · revert h
    decide

theorem sameBreaks_passwordResetMail
    (hlink : Unexpanded (resetLinkEntries data branding) resetLinkTemplate)
    (h : Unexpanded (passwordResetEntries data branding) passwordResetTemplate) :
    SameBreaks (chars (generatePasswordResetMailBody data branding).toList)
      (fill (valueOf (passwordResetEntries data branding)) passwordResetTemplate) := by
  have hnodup : passwordResetKeys.Nodup := by
    decide
  have hkeys : forall key, key ∈ passwordResetKeys -> PlainKey key := by
    decide
  have hlast : "ttl_minutes" ∈ passwordResetKeys ∧
      forall k, k ∈ passwordResetKeys -> k ≤ "ttl_minutes" := by
    decide
  have hformat : (formatString kBodyTemplate (keyValueTable (passwordResetEntries data
      branding))).toList = write (valueOf (passwordResetEntries data branding))
        passwordResetTemplate :=
    formatString_write hnodup (plainKeys_of_keys rfl hkeys) hlast placedAs_passwordResetTemplate.2 h
  have hbody : generatePasswordResetMailBody data branding =
      normalizeCrLf (formatString kBodyTemplate (keyValueTable (passwordResetEntries data
        branding))) := by
    unfold generatePasswordResetMailBody passwordResetEntries
    rw [buildPasswordResetLink_of_unexpanded hlink]
  rw [hbody, normalizeCrLf, String.toList_ofList, hformat, ← chars_write]
  exact sameBreaks_normalizeFrom _ _

theorem readsAs_passwordResetMail (h : HarmlessPasswordResetMail data branding) :
    ReadsAs (generatePasswordResetMailBody data branding) passwordResetTemplate
      (valueOf (passwordResetEntries data branding)) := by
  apply readsAs_of_write placedAs_passwordResetTemplate.1
    (sameBreaks_passwordResetMail h.unexpandedLink h.unexpanded)
  intro p hp
  simp only [List.mem_cons, List.not_mem_nil, or_false] at hp
  rcases hp with hp | hp | hp | hp | hp | hp | hp <;> rw [hp]
  · exact h.studio
  · exact h.studio
  · exact h.name
  · exact h.studio
  · exact h.email
  · exact not_mem_resetLink h.site h.path
  · exact inert_toString_int data.ttlMinutes

end PasswordReset

/-!
# The welcome mail
-/

def welcomeEntries (data : QuickAccountWelcomeData) (branding : TenantBranding) :
    List (String × String) :=
  [("first_name", data.firstName), ("email", data.email),
    ("temporary_password", data.temporaryPassword), ("studio_name", branding.studioName)]

structure HarmlessWelcomeMail (data : QuickAccountWelcomeData) (branding : TenantBranding) :
    Prop where
  studio : Inert branding.studioName.toList
  name : Inert data.firstName.toList
  email : Inert data.email.toList
  password : Inert data.temporaryPassword.toList
  unexpanded : Unexpanded (welcomeEntries data branding) welcomeTemplate

theorem readsAs_welcomeMail {data : QuickAccountWelcomeData} {branding : TenantBranding}
    (h : HarmlessWelcomeMail data branding) :
    ReadsAs (generateQuickAccountWelcomeBody data branding) welcomeTemplate
      (valueOf (welcomeEntries data branding)) := by
  have hnodup : welcomeKeys.Nodup := by
    decide
  have hkeys : forall key, key ∈ welcomeKeys -> PlainKey key := by
    decide
  have hlast : "temporary_password" ∈ welcomeKeys ∧
      forall k, k ∈ welcomeKeys -> k ≤ "temporary_password" := by
    decide
  have hformat : (formatString kWelcomeMailTemplate (keyValueTable (welcomeEntries data
      branding))).toList = write (valueOf (welcomeEntries data branding)) welcomeTemplate :=
    formatString_write hnodup (plainKeys_of_keys rfl hkeys) hlast placedAs_welcomeTemplate.2
      h.unexpanded
  have hbreaks : SameBreaks (chars (generateQuickAccountWelcomeBody data branding).toList)
      (fill (valueOf (welcomeEntries data branding)) welcomeTemplate) := by
    show SameBreaks (chars (normalizeCrLf (formatString kWelcomeMailTemplate (keyValueTable
      (welcomeEntries data branding)))).toList) _
    rw [normalizeCrLf, String.toList_ofList, hformat, ← chars_write]
    exact sameBreaks_normalizeFrom _ _
  apply readsAs_of_write placedAs_welcomeTemplate.1 hbreaks
  intro p hp
  simp only [List.mem_cons, List.not_mem_nil, or_false] at hp
  rcases hp with hp | hp | hp | hp | hp | hp | hp <;> rw [hp]
  · exact h.studio
  · exact h.studio
  · exact h.name
  · exact h.studio
  · exact h.email
  · exact h.password
  · exact h.studio

/-!
# The three mails
-/

theorem mailMarkup :
    (forall (emailFrom encodedSecret firstNameTo lastNameTo : String)
      (branding : TenantBranding) (apiLinkPrefix activationLink : String),
      HarmlessVerifyMail emailFrom encodedSecret firstNameTo lastNameTo branding apiLinkPrefix
          activationLink ->
        ReadsAs (generateVerifyMailBody emailFrom encodedSecret firstNameTo lastNameTo branding
            apiLinkPrefix activationLink)
          verifyMailTemplate
          (valueOf (verifyMailEntries emailFrom encodedSecret firstNameTo lastNameTo branding
            apiLinkPrefix activationLink))) ∧
      (forall (data : PasswordResetMailData) (branding : TenantBranding),
        HarmlessPasswordResetMail data branding ->
          ReadsAs (generatePasswordResetMailBody data branding) passwordResetTemplate
            (valueOf (passwordResetEntries data branding))) ∧
      forall (data : QuickAccountWelcomeData) (branding : TenantBranding),
        HarmlessWelcomeMail data branding ->
          ReadsAs (generateQuickAccountWelcomeBody data branding) welcomeTemplate
            (valueOf (welcomeEntries data branding)) := by
  refine ⟨?_, ?_, ?_⟩
  · intro emailFrom encodedSecret firstNameTo lastNameTo branding apiLinkPrefix activationLink h
    exact readsAs_verifyMail h
  · intro data branding h
    exact readsAs_passwordResetMail h
  · intro data branding h
    exact readsAs_welcomeMail h

/-!
# A first name with a link
-/

theorem unexpanded_of_plain {entries : List (String × String)}
    (h : forall e, e ∈ entries -> '{' ∉ e.2.toList) (symbols : List (Sym String)) :
    Unexpanded entries symbols := by
  intro e he _ e' _ _ hmentions
  exact h e he (hmentions.subset (by simp [placeholder]))

def sampleEntries (firstName : String) : List (String × String) :=
  verifyMailEntries "ann@example.com" "-__-" firstName "Lee" sampleBranding "api/" "activate"

def sampleLink : String := "<a href=//example.net>Ann</a>"

set_option maxRecDepth 2000 in
theorem tokens_sampleLink :
    (tokenize (fill (valueOf (sampleEntries sampleLink)) verifyMailTemplate)).length ≠
      (tokenize verifyMailTemplate).length := by
  have hstart : kMailTemplatePrefix.toList = _ := String.toList_ofList
  have hsuffix : kMailTemplateSuffix.toList = _ := String.toList_ofList
  unfold verifyMailTemplate
  rw [hstart, hsuffix]
  decide +kernel

/-- A person who registers can put a link into the activation mail. -/
theorem mailMarkup_link :
    Not (forall (emailFrom encodedSecret firstNameTo lastNameTo : String)
      (branding : TenantBranding) (apiLinkPrefix activationLink : String),
      ReadsAs (generateVerifyMailBody emailFrom encodedSecret firstNameTo lastNameTo branding
          apiLinkPrefix activationLink)
        verifyMailTemplate
        (valueOf (verifyMailEntries emailFrom encodedSecret firstNameTo lastNameTo branding
          apiLinkPrefix activationLink))) := by
  intro h
  have hreads := (h "ann@example.com" "-__-" sampleLink "Lee" sampleBranding "api/"
    "activate").tokens.length_eq
  have hplain : forall e, e ∈ sampleEntries sampleLink -> '{' ∉ e.2.toList := by
    decide
  have hbody := (tokenize_sameBreaks (sameBreaks_verifyMail
    (unexpanded_of_plain hplain _))).length_eq
  rw [hreads, List.length_map] at hbody
  exact tokens_sampleLink hbody.symm

def sampleReset : PasswordResetMailData where
  firstName := "Ann & Bo"
  email := "ann@example.com"
  secret := "-__-"
  resetPath := "reset-password"
  ttlMinutes := 60

def sampleWelcome : QuickAccountWelcomeData where
  firstName := "Ann & Bo"
  email := "ann@example.com"
  temporaryPassword := "a7-b9"

theorem mailMarkup_sample :
    ReadsAs (generateVerifyMailBody "ann@example.com" "-__-" "Ann & Bo" "Lee" sampleBranding
        "api/" "activate") verifyMailTemplate (valueOf (sampleEntries "Ann & Bo")) ∧
      ReadsAs (generatePasswordResetMailBody sampleReset sampleBranding) passwordResetTemplate
        (valueOf (passwordResetEntries sampleReset sampleBranding)) ∧
      ReadsAs (generateQuickAccountWelcomeBody sampleWelcome sampleBranding) welcomeTemplate
        (valueOf (welcomeEntries sampleWelcome sampleBranding)) := by
  have hinert : forall text : String, '<' ∉ text.toList -> Inert text.toList :=
    fun _ h => inert_of_not_mem h
  refine ⟨mailMarkup.1 _ _ _ _ _ _ _ ?_, mailMarkup.2.1 _ _ ?_, mailMarkup.2.2 _ _ ?_⟩
  · constructor
    · exact hinert _ (by decide)
    · exact hinert _ (by decide)
    · decide
    · decide
    · decide
    · exact unexpanded_of_plain (by decide) _
  · constructor
    · exact hinert _ (by decide)
    · exact hinert _ (by decide)
    · exact hinert _ (by decide)
    · decide
    · decide
    · exact unexpanded_of_plain (by decide) _
    · exact unexpanded_of_plain (by decide) _
  · constructor
    · exact hinert _ (by decide)
    · exact hinert _ (by decide)
    · exact hinert _ (by decide)
    · exact hinert _ (by decide)
    · exact unexpanded_of_plain (by decide) _

end Mail
end Auth
end ServerComponents
