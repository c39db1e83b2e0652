import ServerComponents.Auth.AuthHelper
import ServerComponents.Rest.DisplayTemplate
import ServerComponents.Text.Percent

/-!
# The bodies of the mails

The three builders, with their templates as the source has them.
-/

namespace ServerComponents
namespace Auth
namespace Mail

open Relational Rest Text

/-- A carriage return before each line feed that has none. -/
def normalizeFrom (previous : Option Char) : List Char -> List Char
  | [] => []
  | c :: rest =>
      if c = '\n' ∧ previous ≠ some '\r' then
        '\r' :: c :: normalizeFrom (some c) rest
      else c :: normalizeFrom (some c) rest

def normalizeCrLf (text : String) : String := String.ofList (normalizeFrom none text.toList)

theorem normalizeFrom_split {c : Char} (hc : c ≠ '\n') (previous : Option Char)
    (before after : List Char) :
    normalizeFrom previous (before ++ c :: after) =
      normalizeFrom previous before ++ c :: normalizeFrom (some c) after := by
  induction before generalizing previous with
  | nil => simp [normalizeFrom, hc]
  | cons x before ih =>
      simp only [List.cons_append, normalizeFrom, ih]
      split <;> rfl

theorem normalizeFrom_of_plain {text : List Char} (h : '\n' ∉ text)
    (previous : Option Char) : normalizeFrom previous text = text := by
  induction text generalizing previous with
  | nil => rfl
  | cons c rest ih =>
      rw [List.mem_cons, not_or] at h
      have hc : Not (c = '\n' ∧ previous ≠ some '\r') := fun hline => h.1 hline.1.symm
      rw [normalizeFrom, if_neg hc, ih h.2]

theorem mem_normalizeFrom {c : Char} (hc : c ≠ '\r') {previous : Option Char}
    {text : List Char} (h : c ∈ normalizeFrom previous text) : c ∈ text := by
  induction text generalizing previous with
  | nil => exact h
  | cons x rest ih =>
      rw [normalizeFrom] at h
      split at h <;> simp only [List.mem_cons, hc, false_or] at h ⊢
      · exact h.imp_right ih
      · exact h.imp_right ih

def urlEncodeQueryValue (value : String) : String := String.ofList (encodeBytes (utf8 value))

def keyValueTable (entries : List (String × String)) : KeyValueTable :=
  entries.foldl (fun table e => table.set e.1 e.2) SortedMap.empty

variable {entries : List (String × String)}

theorem lookup_of_mem (hnodup : (entries.map Prod.fst).Nodup)
    {e : String × String} (he : e ∈ entries) : entries.lookup e.1 = some e.2 := by
  induction entries with
  | nil => cases he
  | cons first rest ih =>
      rw [List.map_cons, List.nodup_cons] at hnodup
      rw [List.lookup_cons]
      rcases List.mem_cons.mp he with he | he
      · rw [he, beq_self_eq_true]
      · have hne : (e.1 == first.1) = false := by
          apply beq_eq_false_iff_ne.mpr
          intro heq
          exact hnodup.1 (heq ▸ List.mem_map_of_mem he)
        rw [hne]
        exact ih hnodup.2 he

theorem keyValueTable_values (hnodup : (entries.map Prod.fst).Nodup) {e : String × String}
    (he : e ∈ (keyValueTable entries).entries) : e.2 = (entries.lookup e.1).getD "" := by
  have hfold : forall (rest : List (String × String)) (m : KeyValueTable),
      (forall e, e ∈ rest -> e ∈ entries) ->
      (forall e, e ∈ m.entries -> e.2 = (entries.lookup e.1).getD "") ->
      forall e, e ∈ (rest.foldl (fun table e => table.set e.1 e.2) m).entries ->
        e.2 = (entries.lookup e.1).getD "" := by
    intro rest
    induction rest with
    | nil => exact fun m _ hm => hm
    | cons first rest ih =>
        intro m hrest hm
        apply ih _ (fun e he => hrest e (List.mem_cons_of_mem first he))
        intro e he
        rcases SortedMap.mem_set he with he | he
        · rw [he, lookup_of_mem hnodup (hrest first (by simp)), Option.getD_some]
        · exact hm e he
  exact hfold entries SortedMap.empty (fun e he => he) (fun e he => by cases he) e he

theorem mem_keys_keyValueTable {k : String} :
    k ∈ (keyValueTable entries).keys <-> k ∈ entries.map Prod.fst := by
  have hfold : forall (rest : List (String × String)) (m : KeyValueTable),
      k ∈ (rest.foldl (fun table e => table.set e.1 e.2) m).keys <->
        k ∈ rest.map Prod.fst ∨ k ∈ m.keys := by
    intro rest
    induction rest with
    | nil =>
        intro m
        simp
    | cons first rest ih =>
        intro m
        rw [List.foldl_cons, ih, SortedMap.mem_keys_set, List.map_cons, List.mem_cons]
        tauto
  rw [keyValueTable, hfold]
  simp [SortedMap.keys, SortedMap.empty]

theorem keyValueTable_entries (hnodup : (entries.map Prod.fst).Nodup) :
    (keyValueTable entries).entries =
      (keyValueTable entries).keys.map (fun k => (k, (entries.lookup k).getD "")) :=
  SortedMap.entries_eq_map (f := fun k => (entries.lookup k).getD "")
    (fun _ he => keyValueTable_values hnodup he)

/-!
# Formatting with such a table
-/

def isKeyChar (c : Char) : Bool := c.isLower || c == '_'

def PlainKeys (entries : List (String × String)) : Prop :=
  forall e, e ∈ entries -> forall c, c ∈ e.1.toList -> isKeyChar c = true

def PlainKey (key : String) : Prop := forall c, c ∈ key.toList -> isKeyChar c = true

instance (key : String) : Decidable (PlainKey key) := List.decidableBAll _ _

theorem PlainKey.not_mem {key : String} (h : PlainKey key) {c : Char}
    (hc : isKeyChar c = false) : c ∉ key.toList := by
  intro hmem
  rw [h c hmem] at hc
  cases hc

theorem plainKeys_of_keys {keys : List String}
    (hentries : entries.map Prod.fst = keys) (hkeys : forall key, key ∈ keys -> PlainKey key) :
    PlainKeys entries := by
  intro e he
  apply hkeys e.1
  rw [← hentries]
  exact List.mem_map_of_mem he

section Format

variable {entries : List (String × String)} {e : String × String}

theorem PlainKeys.not_mem (hkeys : PlainKeys entries) (he : e ∈ entries)
    {c : Char} (hc : isKeyChar c = false) : c ∉ e.1.toList := by
  intro hmem
  rw [hkeys e he c hmem] at hc
  cases hc

theorem PlainKeys.not_mem_placeholder (hkeys : PlainKeys entries)
    (he : e ∈ entries) {c : Char} (hc : isKeyChar c = false) (hopen : c ≠ '{')
    (hclose : c ≠ '}') : c ∉ placeholder e.1 := by
  simp only [placeholder, List.mem_cons, List.mem_append, List.not_mem_nil, or_false, not_or]
  exact ⟨hopen, hkeys.not_mem he hc, hclose⟩

theorem mem_keyValueTable (hnodup : (entries.map Prod.fst).Nodup)
    (he : e ∈ (keyValueTable entries).entries) : e ∈ entries := by
  have hkey : e.1 ∈ entries.map Prod.fst :=
    mem_keys_keyValueTable.mp (List.mem_map_of_mem he)
  rcases List.mem_map.mp hkey with ⟨e', he', hfst⟩
  have hvalue := keyValueTable_values hnodup he
  rw [← hfst, lookup_of_mem hnodup he', Option.getD_some] at hvalue
  have hsame : e = e' := Prod.ext hfst.symm hvalue
  rw [hsame]
  exact he'

theorem format_split (hnodup : (entries.map Prod.fst).Nodup) (hkeys : PlainKeys entries)
    {c : Char} (hc : isKeyChar c = false) (hopen : c ≠ '{') (hclose : c ≠ '}')
    (before after : List Char) :
    formatEntries (before ++ c :: after) (keyValueTable entries).entries =
      formatEntries before (keyValueTable entries).entries ++
        c :: formatEntries after (keyValueTable entries).entries :=
  formatEntries_split (fun _ he =>
    hkeys.not_mem_placeholder (mem_keyValueTable hnodup he) hc hopen hclose)

theorem format_placeholder (hnodup : (entries.map Prod.fst).Nodup) (hkeys : PlainKeys entries)
    (he : e ∈ entries) :
    exists later, (forall e', e' ∈ later -> e' ∈ entries) ∧
      formatEntries (placeholder e.1) (keyValueTable entries).entries =
        formatEntries e.2.toList later := by
  have hkey : e.1 ∈ (keyValueTable entries).keys :=
    mem_keys_keyValueTable.mpr (List.mem_map_of_mem he)
  have hvalue : (entries.lookup e.1).getD "" = e.2 := by
    rw [lookup_of_mem hnodup he, Option.getD_some]
  have hopen : '{' ∉ e.1.toList := hkeys.not_mem he (by decide)
  have hclose : '}' ∉ e.1.toList := hkeys.not_mem he (by decide)
  rcases @formatEntries_placeholder _ (fun k => (entries.lookup k).getD "") e.1 hkey hopen
    hclose with ⟨later, hlater, heq⟩
  refine ⟨later.map (fun k => (k, (entries.lookup k).getD "")), ?_, ?_⟩
  · intro e' he'
    apply mem_keyValueTable hnodup
    rw [keyValueTable_entries hnodup]
    exact (hlater.map (fun k => (k, (entries.lookup k).getD ""))).subset he'
  · rw [keyValueTable_entries hnodup, heq, hvalue]

theorem format_placeholder_plain (hnodup : (entries.map Prod.fst).Nodup)
    (hkeys : PlainKeys entries) (he : e ∈ entries) (hvalue : '{' ∉ e.2.toList) :
    formatEntries (placeholder e.1) (keyValueTable entries).entries = e.2.toList := by
  rcases format_placeholder hnodup hkeys he with ⟨later, _, heq⟩
  rw [heq, formatEntries_of_plain hvalue]

end Format

/-!
# The activation mail
-/

def kMailTemplatePrefix : String :=
"<!DOCTYPE html>
<html lang=\"en\">
<head>
    <meta charset=\"UTF-8\">
    <meta name=\"viewport\" content=\"width=device-width, initial-scale=1.0\">
    <title>Email Verification</title>
</head>
<body>
    <h1>\x7bstudio_name\x7d Account Activation</h1>
    <p>Greetings \x7bfirst_name\x7d,</p>
    <p/>
    <p><a href=\"\x7bwebsite_address\x7d\x7bactivation_link\x7d?email=\x7bemail_from\x7d&secret="

def kMailTemplateSuffix : String :=
"\">Click here to activate your account.</a></p>
</body>
</html>
"

def buildKeyValueTable (emailFrom firstNameTo lastNameTo : String)
    (branding : TenantBranding) (apiLinkPrefix activationLink : String) : KeyValueTable :=
  keyValueTable
    [("email_from", urlEncodeQueryValue emailFrom), ("first_name", firstNameTo),
      ("last_name", lastNameTo), ("studio_name", branding.studioName),
      ("website_address", branding.websiteUrl), ("api_link_prefix", apiLinkPrefix),
      ("activation_link", activationLink)]

def generateVerifyMailBody (emailFrom encodedSecret firstNameTo lastNameTo : String)
    (branding : TenantBranding) (apiLinkPrefix activationLink : String) : String :=
  let table := (buildKeyValueTable emailFrom firstNameTo lastNameTo branding apiLinkPrefix
    activationLink).set "encoded_secret" encodedSecret
  normalizeCrLf (formatString kMailTemplatePrefix table) ++ encodedSecret ++
    normalizeCrLf (formatString kMailTemplateSuffix table)

/-!
# The reset mail
-/

def kLinkTemplate : String :=
  "\x7bwebsite_url\x7d\x7breset_path\x7d?email=\x7bemail\x7d&secret=\x7bsecret\x7d"

def kBodyTemplate : String :=
"<!DOCTYPE html>
<html lang=\"en\">
<head>
    <meta charset=\"UTF-8\">
    <meta name=\"viewport\" content=\"width=device-width, initial-scale=1.0\">
    <title>Reset your \x7bstudio_name\x7d password</title>
</head>
<body>
    <h1>\x7bstudio_name\x7d</h1>
    <p>Hello \x7bfirst_name\x7d,</p>
    <p>Someone asked to reset the password for the \x7bstudio_name\x7d account \x7bemail\x7d.</p>
    <p><a href=\"\x7breset_link\x7d\">Reset your password</a></p>
    <p>This link expires in \x7bttl_minutes\x7d minutes and works once.</p>
    <p>If you didn't ask for this, ignore this email. Your password has not changed.</p>
</body>
</html>
"

def buildPasswordResetLink (websiteUrl resetPath email secret : String) : String :=
  formatString kLinkTemplate (keyValueTable
    [("website_url", websiteUrl), ("reset_path", resetPath),
      ("email", urlEncodeQueryValue email), ("secret", urlEncodeQueryValue secret)])

structure PasswordResetMailData where
  firstName : String
  email : String
  secret : String
  resetPath : String
  ttlMinutes : Int
  deriving Repr, DecidableEq

def generatePasswordResetMailBody (data : PasswordResetMailData)
    (branding : TenantBranding) : String :=
  normalizeCrLf (formatString kBodyTemplate (keyValueTable
    [("studio_name", branding.studioName), ("first_name", data.firstName),
      ("email", data.email),
      ("reset_link",
        buildPasswordResetLink branding.websiteUrl data.resetPath data.email data.secret),
      ("ttl_minutes", toString data.ttlMinutes)]))

/-!
# The welcome mail
-/

def kWelcomeMailTemplate : String :=
"<!DOCTYPE html>
<html lang=\"en\">
<head>
    <meta charset=\"UTF-8\">
    <meta name=\"viewport\" content=\"width=device-width, initial-scale=1.0\">
    <title>Welcome to \x7bstudio_name\x7d</title>
    <style>
        body \x7b font-family: Arial, sans-serif; line-height: 1.6; color: #333; max-width: 600px; margin: 0 auto; padding: 20px; \x7d
        .header \x7b background-color: #4a5568; color: white; padding: 20px; text-align: center; \x7d
        .content \x7b padding: 20px; background-color: #f7fafc; \x7d
        .details \x7b background-color: #edf2f7; padding: 15px; margin: 15px 0; border-radius: 4px; \x7d
        .password \x7b font-family: monospace; font-size: 18px; font-weight: bold; color: #2d3748; \x7d
        .warning \x7b color: #c53030; font-weight: bold; \x7d
        .footer \x7b text-align: center; padding: 20px; color: #718096; font-size: 12px; \x7d
    </style>
</head>
<body>
    <div class=\"header\">
        <h1>\x7bstudio_name\x7d</h1>
        <h2>Welcome!</h2>
    </div>
    <div class=\"content\">
        <p>Hello \x7bfirst_name\x7d,</p>
        <p>An account has been created for you at \x7bstudio_name\x7d. You can use it to view your bookings, manage your profile, and more.</p>
        <div class=\"details\">
            <p><strong>Email:</strong> \x7bemail\x7d</p>
            <p><strong>Temporary Password:</strong> <span class=\"password\">\x7btemporary_password\x7d</span></p>
        </div>
        <p class=\"warning\">Please change your password immediately after your first login.</p>
        <p>If you have any questions, please don't hesitate to contact us.</p>
    </div>
    <div class=\"footer\">
        <p>\x7bstudio_name\x7d</p>
    </div>
</body>
</html>
"

structure QuickAccountWelcomeData where
  firstName : String
  email : String
  temporaryPassword : String
  deriving Repr, DecidableEq

def generateQuickAccountWelcomeBody (data : QuickAccountWelcomeData)
    (branding : TenantBranding) : String :=
  normalizeCrLf (formatString kWelcomeMailTemplate (keyValueTable
    [("first_name", data.firstName), ("email", data.email),
      ("temporary_password", data.temporaryPassword),
      ("studio_name", branding.studioName)]))

end Mail
end Auth
end ServerComponents
