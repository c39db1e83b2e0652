import ServerComponents.Auth.EmailVerifications
import ServerComponents.Auth.MailBodies
import ServerComponents.Auth.PasswordReset

/-!
# The links in the mails

What a browser reads from a mailed link, and what the server makes of it when it is
posted back.  The reset compares what was posted; the activation decodes it once more.
-/

namespace ServerComponents
namespace Auth

open Relational Rest Text

/-- The encoder leaves the characters of URL-safe base64 alone. -/
def IsBase64Url (c : Char) : Bool := c.isAlphanum || c == '-' || c == '_'

def KeepsBase64Url (urlEncode : String -> String) : Prop :=
  forall text : String, (forall c, c ∈ text.toList -> IsBase64Url c = true) ->
    urlEncode text = text

/-- Boost's decoder: a text without escapes stands for itself, and an escape of three
characters becomes one byte, if it is not refused. -/
structure DecodesEscapes (urlDecode : UrlDecode) : Prop where
  plain : forall text : String, '%' ∉ text.toList -> urlDecode text = .ok text
  shorter : forall text decoded : String, '%' ∈ text.toList ->
    urlDecode text = .ok decoded -> decoded.utf8ByteSize < text.utf8ByteSize

/-- The secret goes into a mail as URL-safe base64, which decodes to it. -/
structure EncodesSecret (sodium : Sodium) (secretBytes : Blob) : Prop where
  plain : forall c, c ∈ (sodium.base64Encode secretBytes).toList -> IsBase64Url c = true
  inverse : sodium.base642bin (sodium.base64Encode secretBytes) = some secretBytes

def VerifyMail.body (urlEncode : String -> String) (mail : VerifyMail) : String :=
  Mail.generateVerifyMailBody mail.personInfo.email (urlEncode mail.secret)
    mail.personInfo.firstName mail.personInfo.lastName mail.branding mail.apiLinkPrefix
    mail.activationLink

def PasswordResetMail.body (firstName : String) (mail : PasswordResetMail) : String :=
  Mail.generatePasswordResetMailBody
    { firstName := firstName, email := mail.email, secret := mail.secret
      resetPath := mail.resetPath, ttlMinutes := mail.ttlMinutes } mail.branding

/-- The texts that a browser reads from the mailed link. -/
structure LinkReads (body email secret : String) : Prop where
  email : queryValue? "email" (queryOfLastLink body.toList) = some email
  secret : queryValue? "secret" (queryOfLastLink body.toList) = some secret

/-- What the link posts makes `VerifyPersonEmail` look up this address and hash. -/
def ActivationRoundTrip (urlDecode : UrlDecode) (sodium : Sodium) (body email : String)
    (secretBytes : Blob) : Prop :=
  exists postedEmail postedSecret, LinkReads body postedEmail postedSecret ∧
    decodeLink urlDecode sodium postedEmail postedSecret =
      .ok (email, sodium.hashBinary secretBytes)

/-- What the link posts makes `CompleteReset` look up this address and hash. -/
def ResetRoundTrip (sodium : Sodium) (body email : String) (secretBytes : Blob) : Prop :=
  exists postedEmail postedSecret, LinkReads body postedEmail postedSecret ∧
    postedEmail = email ∧
      PasswordResetHelper.hashPresentedSecret sodium postedSecret =
        sodium.hashBinary secretBytes

namespace Mail

/-!
# The query of a mailed link
-/

def linkQuery (email secret : List Char) : List Char :=
  ("email".toList ++ '=' :: email) ++ '&' :: ("secret".toList ++ '=' :: secret)

def PlainValue (value : List Char) : Prop :=
  forall c, c ∈ value -> IsEncoded c = true

theorem PlainValue.not_mem {value : List Char} {c : Char} (h : PlainValue value)
    (hc : IsEncoded c = false) : c ∉ value := by
  intro hmem
  rw [h c hmem] at hc
  cases hc

theorem plainValue_encode (text : String) :
    PlainValue (urlEncodeQueryValue text).toList := by
  intro c hc
  rw [urlEncodeQueryValue, String.toList_ofList] at hc
  exact mem_encodeBytes hc

theorem isEncoded_of_isBase64Url {c : Char} (h : IsBase64Url c = true) :
    IsEncoded c = true := by
  simp only [IsBase64Url, IsEncoded, Bool.or_eq_true] at h ⊢
  grind

section Query

variable {email secret : List Char}

theorem not_mem_linkQuery {c : Char} (hemail : PlainValue email) (hsecret : PlainValue secret)
    (hc : IsEncoded c = false) (hkeys : c ∉ linkQuery [] []) :
    c ∉ linkQuery email secret := by
  unfold linkQuery at hkeys ⊢
  simp only [List.mem_append, List.mem_cons, List.not_mem_nil, or_false, not_or,
    -String.reduceToList] at hkeys ⊢
  exact ⟨⟨hkeys.1.1, hkeys.1.2, hemail.not_mem hc⟩, hkeys.2.1, hkeys.2.2.1, hkeys.2.2.2,
    hsecret.not_mem hc⟩

theorem linkQuery_append (email secret : List Char) :
    linkQuery email [] ++ secret = linkQuery email secret := by
  unfold linkQuery
  generalize "email".toList = emailKey
  generalize "secret".toList = secretKey
  simp

theorem format_linkQuery {entries : List (String × String)}
    (hnodup : (entries.map Prod.fst).Nodup) (hkeys : PlainKeys entries) :
    formatEntries (linkQuery email secret) (keyValueTable entries).entries =
      linkQuery (formatEntries email (keyValueTable entries).entries)
        (formatEntries secret (keyValueTable entries).entries) := by
  have hplain : '{' ∉ "email".toList ∧ '{' ∉ "secret".toList := by decide
  unfold linkQuery
  rw [format_split hnodup hkeys (by decide) (by decide) (by decide),
    format_split hnodup hkeys (by decide) (by decide) (by decide),
    format_split hnodup hkeys (by decide) (by decide) (by decide),
    formatEntries_of_plain hplain.1, formatEntries_of_plain hplain.2]

theorem normalizeFrom_linkQuery (hemail : PlainValue email) (hsecret : PlainValue secret)
    (previous : Option Char) (site after : List Char) :
    normalizeFrom previous (site ++ '?' :: (linkQuery email secret ++ '"' :: after)) =
      normalizeFrom previous site ++ '?' :: (linkQuery email secret ++
        '"' :: normalizeFrom (some '"') after) := by
  have hline : '\n' ∉ linkQuery email secret :=
    not_mem_linkQuery hemail hsecret (by decide) (by decide)
  rw [normalizeFrom_split (by decide), normalizeFrom_split (by decide),
    normalizeFrom_of_plain hline]

theorem linkReads_of_query {body : String} {site after : List Char}
    (hbody : body.toList = site ++ '?' :: (linkQuery email secret ++ '"' :: after))
    (hemail : PlainValue email) (hsecret : PlainValue secret) (hafter : '"' ∉ after)
    {e s : String} (he : formValue? email = some e) (hs : formValue? secret = some s) :
    LinkReads body e s := by
  have hquery : queryOfLastLink body.toList = linkQuery email secret := by
    rw [hbody]
    exact queryOfLastLink_append
      (not_mem_linkQuery hemail hsecret (by decide) (by decide)) hafter
  have hamp : '&' ∉ email := hemail.not_mem (by decide)
  have hamp' : '&' ∉ secret := hsecret.not_mem (by decide)
  have hfield : '&' ∉ "email".toList ++ '=' :: email := by
    simpa using hamp
  have hfield' : '&' ∉ "secret".toList ++ '=' :: secret := by
    simpa using hamp'
  have htwo := @queryValue?_two "email" "secret" "email".toList "secret".toList email secret
    (by decide) (by decide +kernel) (by decide) (by decide +kernel)
    (by decide) hfield hfield'
  constructor
  · rw [hquery]
    exact htwo.1.trans he
  · rw [hquery]
    exact htwo.2.trans hs

end Query

/-!
# The link of the activation mail
-/

set_option maxRecDepth 2000 in
theorem kMailTemplatePrefix_split :
    exists site, kMailTemplatePrefix.toList =
      site ++ '?' :: linkQuery (placeholder "email_from") [] := by
  have htext : kMailTemplatePrefix.toList = _ := String.toList_ofList
  refine ⟨kMailTemplatePrefix.toList.take 335, ?_⟩
  rw [htext]
  decide

set_option maxRecDepth 2000 in
theorem kMailTemplateSuffix_split :
    exists after, kMailTemplateSuffix.toList = '"' :: after ∧ '"' ∉ after ∧
      '{' ∉ '"' :: after := by
  have htext : kMailTemplateSuffix.toList = _ := String.toList_ofList
  refine ⟨kMailTemplateSuffix.toList.tail, ?_⟩
  rw [htext]
  decide

def verifyMailEntries (emailFrom encodedSecret firstNameTo lastNameTo : String)
    (branding : TenantBranding) (apiLinkPrefix activationLink : String) :
    List (String × String) :=
  [("email_from", urlEncodeQueryValue emailFrom), ("first_name", firstNameTo),
    ("last_name", lastNameTo), ("studio_name", branding.studioName),
    ("website_address", branding.websiteUrl), ("api_link_prefix", apiLinkPrefix),
    ("activation_link", activationLink), ("encoded_secret", encodedSecret)]

section VerifyMail

variable {emailFrom encodedSecret firstNameTo lastNameTo : String} {branding : TenantBranding}
  {apiLinkPrefix activationLink : String}

theorem nodup_verifyMailEntries :
    ((verifyMailEntries emailFrom encodedSecret firstNameTo lastNameTo branding apiLinkPrefix
      activationLink).map Prod.fst).Nodup := by
  simp [verifyMailEntries]

theorem plainKeys_verifyMailEntries :
    PlainKeys (verifyMailEntries emailFrom encodedSecret firstNameTo lastNameTo branding
      apiLinkPrefix activationLink) := by
  have hkeys : forall key, key ∈ ["email_from", "first_name", "last_name", "studio_name",
      "website_address", "api_link_prefix", "activation_link", "encoded_secret"] ->
      PlainKey key := by
    decide
  exact plainKeys_of_keys rfl hkeys

theorem generateVerifyMailBody_toList :
    (generateVerifyMailBody emailFrom encodedSecret firstNameTo lastNameTo branding
      apiLinkPrefix activationLink).toList =
      normalizeFrom none (formatEntries kMailTemplatePrefix.toList
        (keyValueTable (verifyMailEntries emailFrom encodedSecret firstNameTo lastNameTo
          branding apiLinkPrefix activationLink)).entries) ++
      encodedSecret.toList ++
      normalizeFrom none (formatEntries kMailTemplateSuffix.toList
        (keyValueTable (verifyMailEntries emailFrom encodedSecret firstNameTo lastNameTo
          branding apiLinkPrefix activationLink)).entries) := by
  have htable : (buildKeyValueTable emailFrom firstNameTo lastNameTo branding apiLinkPrefix
      activationLink).set "encoded_secret" encodedSecret =
      keyValueTable (verifyMailEntries emailFrom encodedSecret firstNameTo lastNameTo branding
        apiLinkPrefix activationLink) := rfl
  unfold generateVerifyMailBody
  rw [htable]
  simp only [normalizeCrLf, formatString, String.toList_append, String.toList_ofList]

theorem generateVerifyMailBody_eq :
    exists site after, '"' ∉ after ∧
      (generateVerifyMailBody emailFrom encodedSecret firstNameTo lastNameTo branding
        apiLinkPrefix activationLink).toList =
        site ++ '?' :: (linkQuery (urlEncodeQueryValue emailFrom).toList encodedSecret.toList ++
          '"' :: after) := by
  rcases kMailTemplatePrefix_split with ⟨site, hstart⟩
  rcases kMailTemplateSuffix_split with ⟨after, hsuffix, hquote, hbrace⟩
  rw [generateVerifyMailBody_toList]
  have hmem : ("email_from", urlEncodeQueryValue emailFrom) ∈ verifyMailEntries emailFrom
      encodedSecret firstNameTo lastNameTo branding apiLinkPrefix activationLink := by
    simp [verifyMailEntries]
  have hnodup := @nodup_verifyMailEntries emailFrom encodedSecret firstNameTo lastNameTo
    branding apiLinkPrefix activationLink
  have hkeys := @plainKeys_verifyMailEntries emailFrom encodedSecret firstNameTo lastNameTo
    branding apiLinkPrefix activationLink
  generalize verifyMailEntries emailFrom encodedSecret firstNameTo lastNameTo branding
    apiLinkPrefix activationLink = entries at hmem hnodup hkeys ⊢
  have hemail := plainValue_encode emailFrom
  have hopen : '{' ∉ (urlEncodeQueryValue emailFrom).toList := hemail.not_mem (by decide)
  have hvalue := format_placeholder_plain hnodup hkeys hmem hopen
  have hnil : formatEntries [] (keyValueTable entries).entries = [] :=
    formatEntries_of_plain (by simp)
  have hline : '\n' ∉ linkQuery (urlEncodeQueryValue emailFrom).toList [] :=
    not_mem_linkQuery hemail (fun _ h => by cases h) (by decide) (by decide)
  rw [hstart, format_split hnodup hkeys (by decide) (by decide) (by decide),
    format_linkQuery hnodup hkeys, hvalue, hnil, normalizeFrom_split (by decide),
    normalizeFrom_of_plain hline, hsuffix, formatEntries_of_plain hbrace]
  refine ⟨normalizeFrom none (formatEntries site (keyValueTable entries).entries),
    normalizeFrom (some '"') after, fun h => hquote (mem_normalizeFrom (by decide) h), ?_⟩
  have hstart : normalizeFrom none ('"' :: after) = '"' :: normalizeFrom (some '"') after := by
    simp [normalizeFrom]
  rw [hstart]
  rw [← linkQuery_append _ encodedSecret.toList]
  generalize linkQuery (urlEncodeQueryValue emailFrom).toList [] = query
  simp

end VerifyMail

/-!
# The link of the reset mail
-/

set_option maxRecDepth 2000 in
theorem kLinkTemplate_split :
    exists site, kLinkTemplate.toList =
      site ++ '?' :: linkQuery (placeholder "email") (placeholder "secret") := by
  have htext : kLinkTemplate.toList = _ := String.toList_ofList
  refine ⟨kLinkTemplate.toList.take 25, ?_⟩
  rw [htext]
  decide

set_option maxRecDepth 4000 in
theorem kBodyTemplate_split :
    exists before middle after, kBodyTemplate.toList =
        before ++ '"' :: (placeholder "reset_link" ++ '"' :: (middle ++ ' ' ::
          (placeholder "ttl_minutes" ++ ' ' :: after))) ∧
      '"' ∉ middle ∧ '{' ∉ middle ∧ '"' ∉ after ∧ '{' ∉ after := by
  have htext : kBodyTemplate.toList = _ := String.toList_ofList
  refine ⟨kBodyTemplate.toList.take 369, (kBodyTemplate.toList.drop 383).take 56,
    kBodyTemplate.toList.drop 454, ?_⟩
  rw [htext]
  decide

theorem buildPasswordResetLink_eq (websiteUrl resetPath email secret : String) :
    exists site, (buildPasswordResetLink websiteUrl resetPath email secret).toList =
      site ++ '?' :: linkQuery (urlEncodeQueryValue email).toList
        (urlEncodeQueryValue secret).toList := by
  rcases kLinkTemplate_split with ⟨site, htemplate⟩
  rw [buildPasswordResetLink, formatString, String.toList_ofList]
  generalize hentries : [("website_url", websiteUrl), ("reset_path", resetPath),
    ("email", urlEncodeQueryValue email), ("secret", urlEncodeQueryValue secret)] = entries
  have hnodup : (entries.map Prod.fst).Nodup := by
    simp [← hentries]
  have hkeys : PlainKeys entries := by
    have hall : forall key, key ∈ ["website_url", "reset_path", "email", "secret"] ->
        PlainKey key := by
      decide
    rw [← hentries]
    exact plainKeys_of_keys rfl hall
  have hemail : formatEntries (placeholder "email") (keyValueTable entries).entries =
      (urlEncodeQueryValue email).toList :=
    format_placeholder_plain hnodup hkeys (e := ("email", urlEncodeQueryValue email))
      (by simp [← hentries]) ((plainValue_encode email).not_mem (by decide))
  have hsecret : formatEntries (placeholder "secret") (keyValueTable entries).entries =
      (urlEncodeQueryValue secret).toList :=
    format_placeholder_plain hnodup hkeys (e := ("secret", urlEncodeQueryValue secret))
      (by simp [← hentries]) ((plainValue_encode secret).not_mem (by decide))
  refine ⟨formatEntries site (keyValueTable entries).entries, ?_⟩
  rw [htemplate, format_split hnodup hkeys (by decide) (by decide) (by decide),
    format_linkQuery hnodup hkeys, hemail, hsecret]

theorem mem_toString_int {n : Int} {c : Char} (h : c ∈ (toString n).toList) :
    c = '-' ∨ c.isDigit = true := by
  have hdigits : forall m : Nat, c ∈ m.repr.toList -> c.isDigit = true := by
    intro m hc
    rw [Nat.toList_repr] at hc
    exact Nat.isDigit_of_mem_toDigits (by decide) (by decide) hc
  rw [Int.toString_eq_repr] at h
  cases n with
  | ofNat m => exact Or.inr (hdigits m h)
  | negSucc m =>
      have hrepr : (Int.negSucc m).repr = "-" ++ (m + 1).repr := rfl
      rw [hrepr, String.toList_append] at h
      rcases List.mem_append.mp h with hsign | hc
      · exact Or.inl (List.mem_singleton.mp hsign)
      · exact Or.inr (hdigits (m + 1) hc)

theorem generatePasswordResetMailBody_eq (data : PasswordResetMailData)
    (branding : TenantBranding) :
    exists site after, '"' ∉ after ∧
      (generatePasswordResetMailBody data branding).toList =
        site ++ '?' :: (linkQuery (urlEncodeQueryValue data.email).toList
          (urlEncodeQueryValue data.secret).toList ++ '"' :: after) := by
  rcases kBodyTemplate_split with
    ⟨before, middle, after, htemplate, hmiddle, hmiddle', hafter, hafter'⟩
  rcases buildPasswordResetLink_eq branding.websiteUrl data.resetPath data.email
    data.secret with ⟨site, hlink⟩
  rw [generatePasswordResetMailBody, normalizeCrLf, formatString, String.toList_ofList,
    String.toList_ofList]
  generalize buildPasswordResetLink branding.websiteUrl data.resetPath data.email
    data.secret = link at hlink ⊢
  generalize hentries : [("studio_name", branding.studioName), ("first_name", data.firstName),
    ("email", data.email), ("reset_link", link), ("ttl_minutes", toString data.ttlMinutes)] =
    entries
  have hnodup : (entries.map Prod.fst).Nodup := by
    simp [← hentries]
  have hkeys : PlainKeys entries := by
    have hall : forall key, key ∈ ["studio_name", "first_name", "email", "reset_link",
        "ttl_minutes"] -> PlainKey key := by
      decide
    rw [← hentries]
    exact plainKeys_of_keys rfl hall
  have hnumber : forall c, c ≠ '-' -> c.isDigit = false ->
      c ∉ (toString data.ttlMinutes).toList := by
    intro c hsign hdigit hc
    rcases mem_toString_int hc with h | h
    · exact hsign h
    · rw [hdigit] at h
      cases h
  have hminutes : formatEntries (placeholder "ttl_minutes") (keyValueTable entries).entries =
      (toString data.ttlMinutes).toList :=
    format_placeholder_plain hnodup hkeys (e := ("ttl_minutes", toString data.ttlMinutes))
      (by simp [← hentries]) (hnumber '{' (by decide) (by decide))
  rcases format_placeholder hnodup hkeys (e := ("reset_link", link)) (by simp [← hentries])
    with ⟨later, hlater, hreset⟩
  have hemail := plainValue_encode data.email
  have hsecret := plainValue_encode data.secret
  have hquery : '{' ∉ linkQuery (urlEncodeQueryValue data.email).toList
      (urlEncodeQueryValue data.secret).toList :=
    not_mem_linkQuery hemail hsecret (by decide) (by decide)
  rw [hlink, formatEntries_split (fun e he => hkeys.not_mem_placeholder (hlater e he)
    (by decide) (by decide) (by decide)), formatEntries_of_plain hquery] at hreset
  refine ⟨normalizeFrom none (formatEntries before (keyValueTable entries).entries ++
      '"' :: formatEntries site later),
    normalizeFrom (some '"') (middle ++ ' ' :: ((toString data.ttlMinutes).toList ++
      ' ' :: after)), ?_, ?_⟩
  · intro h
    have hmem := mem_normalizeFrom (by decide) h
    simp only [List.mem_append, List.mem_cons, hmiddle, hafter,
      hnumber '"' (by decide) (by decide), or_false, false_or] at hmem
    revert hmem
    decide
  · rw [htemplate, format_split hnodup hkeys (by decide) (by decide) (by decide),
      format_split hnodup hkeys (by decide) (by decide) (by decide), hreset,
      format_split hnodup hkeys (by decide) (by decide) (by decide),
      formatEntries_of_plain hmiddle',
      format_split hnodup hkeys (by decide) (by decide) (by decide), hminutes,
      formatEntries_of_plain hafter']
    rw [← normalizeFrom_linkQuery hemail hsecret]
    simp

end Mail

/-!
# The round trips
-/

section RoundTrips

variable {urlDecode : UrlDecode} {urlEncode : String -> String} {sodium : Sodium}
  {secretBytes : Blob}

theorem EncodesSecret.plainValue (h : EncodesSecret sodium secretBytes) :
    Mail.PlainValue (sodium.base64Encode secretBytes).toList :=
  fun c hc => Mail.isEncoded_of_isBase64Url (h.plain c hc)

theorem EncodesSecret.not_mem (h : EncodesSecret sodium secretBytes) {c : Char}
    (hc : IsBase64Url c = false) : c ∉ (sodium.base64Encode secretBytes).toList := by
  intro hmem
  rw [h.plain c hmem] at hc
  cases hc

theorem EncodesSecret.bytes (h : EncodesSecret sodium secretBytes) :
    sodium.base64Decode (sodium.base64Encode secretBytes) = .ok secretBytes := by
  rw [Sodium.base64Decode, h.inverse]

theorem formValue?_urlEncode (text : String) :
    formValue? (Mail.urlEncodeQueryValue text).toList = some text := by
  rw [Mail.urlEncodeQueryValue, String.toList_ofList]
  exact formValue?_encodeBytes text

theorem linkReads_verifyMail (hencode : KeepsBase64Url urlEncode)
    (hsecret : EncodesSecret sodium secretBytes) {mail : VerifyMail}
    (hmail : mail.secret = sodium.base64Encode secretBytes) :
    LinkReads (mail.body urlEncode) mail.personInfo.email mail.secret := by
  have hplain : Mail.PlainValue mail.secret.toList := by
    rw [hmail]
    exact hsecret.plainValue
  have hkept : urlEncode mail.secret = mail.secret := by
    rw [hmail]
    exact hencode _ hsecret.plain
  have hplus : '+' ∉ mail.secret.toList := by
    rw [hmail]
    exact hsecret.not_mem (by decide)
  have hpercent : '%' ∉ mail.secret.toList := by
    rw [hmail]
    exact hsecret.not_mem (by decide)
  rw [VerifyMail.body, hkept]
  rcases @Mail.generateVerifyMailBody_eq mail.personInfo.email mail.secret
    mail.personInfo.firstName mail.personInfo.lastName mail.branding mail.apiLinkPrefix
    mail.activationLink with ⟨site, after, hafter, hbody⟩
  exact Mail.linkReads_of_query hbody (Mail.plainValue_encode _) hplain hafter
    (formValue?_urlEncode _)
    (formValue?_of_plain hplus hpercent)

theorem linkReads_passwordResetMail (firstName : String) (mail : PasswordResetMail) :
    LinkReads (mail.body firstName) mail.email mail.secret := by
  rw [PasswordResetMail.body]
  rcases Mail.generatePasswordResetMailBody_eq
    { firstName := firstName, email := mail.email, secret := mail.secret
      resetPath := mail.resetPath, ttlMinutes := mail.ttlMinutes } mail.branding
    with ⟨site, after, hafter, hbody⟩
  exact Mail.linkReads_of_query hbody (Mail.plainValue_encode _) (Mail.plainValue_encode _)
    hafter (formValue?_urlEncode _) (formValue?_urlEncode _)

theorem LinkReads.unique {body email secret email' secret' : String}
    (h : LinkReads body email secret) (h' : LinkReads body email' secret') :
    email' = email ∧ secret' = secret := by
  constructor
  · exact Option.some.inj (h'.email.symm.trans h.email)
  · exact Option.some.inj (h'.secret.symm.trans h.secret)

theorem decodeLink_ok {emailEncoded encodedSecret email secretHash : String}
    (h : decodeLink urlDecode sodium emailEncoded encodedSecret = .ok (email, secretHash)) :
    urlDecode emailEncoded = .ok email := by
  rcases exceptBind_ok h with ⟨secret, _, hrest⟩
  rcases exceptBind_ok hrest with ⟨bytes, _, hrest'⟩
  rcases exceptBind_ok hrest' with ⟨email', hemail, hpair⟩
  cases hpair
  exact hemail

/--
A fresh reset link always works.  A fresh activation link works for the addresses
without a percent sign, because the address is decoded twice.
-/
theorem mailedLinks (hdecode : DecodesEscapes urlDecode) (hencode : KeepsBase64Url urlEncode)
    (hsecret : EncodesSecret sodium secretBytes) {mail : VerifyMail}
    (hmail : mail.secret = sodium.base64Encode secretBytes) {firstName : String}
    {reset : PasswordResetMail} (hreset : reset.secret = sodium.base64Encode secretBytes) :
    ActivationRoundTrip urlDecode sodium (mail.body urlEncode) mail.personInfo.email
          secretBytes ∧
        ResetRoundTrip sodium (reset.body firstName) reset.email secretBytes <->
      '%' ∉ mail.personInfo.email.toList := by
  have hactivation := linkReads_verifyMail hencode hsecret hmail
  constructor
  · rintro ⟨⟨postedEmail, postedSecret, hreads, hlink⟩, _⟩ hpercent
    rw [(hactivation.unique hreads).1] at hlink
    have hshorter := hdecode.shorter _ _ hpercent (decodeLink_ok hlink)
    exact Nat.lt_irrefl _ hshorter
  · intro hpercent
    have hplain : '%' ∉ mail.secret.toList := by
      rw [hmail]
      exact hsecret.not_mem (by decide)
    refine ⟨⟨_, _, hactivation, ?_⟩, ⟨_, _, linkReads_passwordResetMail firstName reset, rfl, ?_⟩⟩
    · unfold decodeLink
      rw [hdecode.plain _ hplain, hdecode.plain _ hpercent, hmail]
      simp only [bind, Except.bind, hsecret.bytes]
      rfl
    · rw [PasswordResetHelper.hashPresentedSecret, hreset, hsecret.bytes]

/-!
# A run
-/

/-- Boost's decoder on texts that stay valid UTF-8. -/
def strictUrlDecode : UrlDecode := fun text =>
  match (strictDecode? text.toList).bind text? with
  | some decoded => .ok decoded
  | none => .error (.invalidArgument "pct_string_view")

theorem decodesEscapes_strictUrlDecode : DecodesEscapes strictUrlDecode where
  plain := by
    intro text hpercent
    simp only [strictUrlDecode, strictDecode?_of_plain hpercent, Option.bind_some, ← utf8_eq,
      text?_utf8]
  shorter := by
    intro text decoded hpercent h
    unfold strictUrlDecode at h
    split at h
    · rename_i decoded' hdecoded
      cases h
      rcases Option.bind_eq_some_iff.mp hdecoded with ⟨bytes, hbytes, htext⟩
      have hlength := length_strictDecode? hbytes
      rw [if_pos hpercent, ← utf8_eq, ← utf8_of_text? htext, length_utf8, length_utf8] at hlength
      exact hlength
    · cases h

def sampleSodium : Sodium :=
  { Sodium.plain with
    base64Encode := fun bytes => if bytes = [251, 255, 254] then "-__-" else ""
    base642bin := fun text => if text = "-__-" then some [251, 255, 254] else none }

theorem encodesSecret_sample : EncodesSecret sampleSodium [251, 255, 254] where
  plain := by
    apply List.all_eq_true.mp
    decide
  inverse := by decide

def sampleBranding : TenantBranding where
  studioName := "Studio"
  senderName := "Studio"
  senderAddress := "studio@example.com"
  websiteUrl := "https://studio.example.com/"

def sampleVerifyMail (email : String) : VerifyMail where
  personInfo := { email := email, firstName := "Ann", lastName := "Lee" }
  secret := "-__-"
  branding := sampleBranding
  apiLinkPrefix := "api/"
  activationLink := "activate"
  subject := "Activate your account"

def sampleResetMail (email : String) : PasswordResetMail where
  email := email
  secret := "-__-"
  resetPath := "reset-password"
  ttlMinutes := 60
  branding := sampleBranding
  sender := { name := "Studio", address := "studio@example.com" }

theorem mailedLinks_plus :
    ActivationRoundTrip strictUrlDecode sampleSodium
        ((sampleVerifyMail "ann+test@example.com").body id) "ann+test@example.com"
        [251, 255, 254] ∧
      ResetRoundTrip sampleSodium ((sampleResetMail "ann+test@example.com").body "Ann")
        "ann+test@example.com" [251, 255, 254] :=
  (@mailedLinks _ _ _ _ decodesEscapes_strictUrlDecode (fun _ _ => rfl) encodesSecret_sample
    (sampleVerifyMail "ann+test@example.com") (by decide) "Ann"
    (sampleResetMail "ann+test@example.com") (by decide)).mpr (by decide +kernel)

/-- The address of this account is not the one that its link activates. -/
theorem activationLink_percent :
    LinkReads ((sampleVerifyMail "ann%40b@example.com").body id) "ann%40b@example.com" "-__-" ∧
      decodeLink strictUrlDecode sampleSodium "ann%40b@example.com" "-__-" =
        .ok ("ann@b@example.com", sampleSodium.hashBinary [251, 255, 254]) ∧
      Not (ActivationRoundTrip strictUrlDecode sampleSodium
        ((sampleVerifyMail "ann%40b@example.com").body id) "ann%40b@example.com"
        [251, 255, 254]) := by
  have hreads : LinkReads ((sampleVerifyMail "ann%40b@example.com").body id)
      "ann%40b@example.com" "-__-" :=
    linkReads_verifyMail (fun _ _ => rfl) encodesSecret_sample (by decide)
  have hlink : decodeLink strictUrlDecode sampleSodium "ann%40b@example.com" "-__-" =
      .ok ("ann@b@example.com", sampleSodium.hashBinary [251, 255, 254]) := by
    decide +kernel
  refine ⟨hreads, hlink, ?_⟩
  rintro ⟨postedEmail, postedSecret, hposted, hdecoded⟩
  rw [(hreads.unique hposted).1, (hreads.unique hposted).2, hlink] at hdecoded
  revert hdecoded
  decide +kernel

end RoundTrips

end Auth
end ServerComponents
