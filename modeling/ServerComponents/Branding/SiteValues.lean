import Mathlib.Data.String.Basic

/-!
# Values of a site's look

The content slots and the theme tokens with the rules for their values, the rules for
names in a theme file, and what bytes are taken for.
-/

namespace ServerComponents
namespace Branding

inductive SlotType where
  | line
  | lines
  | markdown
  | url
  | color
  deriving Repr, DecidableEq

inductive ThemeTokenType where
  | color
  | length
  | fontFamily
  | weight
  deriving Repr, DecidableEq

structure ContentSlot where
  key : String
  type : SlotType
  deriving Repr, DecidableEq

structure ThemeToken where
  key : String
  type : ThemeTokenType
  deriving Repr, DecidableEq

def kSiteLogoUrl : String := "site_logo_url"

def siteContentSlots : List ContentSlot :=
  [⟨"site_logo_alt", .line⟩, ⟨"site_browser_title", .line⟩, ⟨"site_favicon_url", .url⟩,
    ⟨"site_hero_headline", .line⟩, ⟨"site_hero_subline", .line⟩,
    ⟨"site_hero_image_url", .url⟩, ⟨"site_tagline_lines", .lines⟩,
    ⟨"site_tagline_image_url", .url⟩, ⟨"site_address_lines", .lines⟩,
    ⟨"site_contact_email", .line⟩, ⟨"site_about_heading", .line⟩,
    ⟨"site_about_markdown", .markdown⟩, ⟨"site_start_intro", .line⟩,
    ⟨"site_membership_blurb", .line⟩, ⟨"site_social_links", .lines⟩]

def ramp (name : String) : List ThemeToken :=
  ["100", "200", "300", "400", "500", "600", "700"].map (fun step =>
    ⟨"site_theme_palette_" ++ name ++ "_" ++ step, .color⟩)

def siteThemeTokens : List ThemeToken :=
  ramp "primary" ++ ramp "secondary" ++ ramp "tertiary" ++ ramp "quaternary" ++
    ramp "quinary" ++ ramp "grey" ++
    ["site_theme_palette_surface_tint", "site_theme_palette_surface_subtle",
      "site_theme_primary", "site_theme_on_primary", "site_theme_primary_hover",
      "site_theme_accent", "site_theme_on_accent", "site_theme_ink", "site_theme_text",
      "site_theme_text_muted", "site_theme_surface", "site_theme_surface_tint",
      "site_theme_background", "site_theme_border", "site_theme_inverse_surface",
      "site_theme_on_inverse_surface", "site_theme_success", "site_theme_on_success",
      "site_theme_warn", "site_theme_on_warn", "site_theme_danger", "site_theme_on_danger",
      "site_theme_info", "site_theme_on_info"].map (fun key => ⟨key, .color⟩) ++
    ["site_theme_radius_control", "site_theme_radius_panel", "site_theme_radius_card",
      "site_theme_radius_pill"].map (fun key => ⟨key, .length⟩) ++
    ["site_theme_font_body", "site_theme_font_heading",
      "site_theme_font_display"].map (fun key => ⟨key, .fontFamily⟩) ++
    ["site_theme_text_xs", "site_theme_text_sm", "site_theme_text_base",
      "site_theme_text_lg", "site_theme_text_xl",
      "site_theme_text_2xl"].map (fun key => ⟨key, .length⟩) ++
    ["site_theme_weight_regular", "site_theme_weight_medium", "site_theme_weight_semibold",
      "site_theme_weight_bold", "site_theme_weight_menu", "site_theme_weight_heading",
      "site_theme_weight_display"].map (fun key => ⟨key, .weight⟩)

def findContentSlot (key : String) : Option ContentSlot :=
  siteContentSlots.find? (fun slot => decide (key = slot.key))

def findThemeToken (key : String) : Option ThemeToken :=
  siteThemeTokens.find? (fun token => decide (key = token.key))

/-!
# Characters
-/

def isHexDigit (c : Char) : Bool :=
  ('0' ≤ c && c ≤ '9') || ('a' ≤ c && c ≤ 'f') || ('A' ≤ c && c ≤ 'F')

def isControlByte (c : Char) : Bool := decide (c.toNat < 0x20) || decide (c.toNat = 0x7F)

def isAsciiAlnum (c : Char) : Bool :=
  ('A' ≤ c && c ≤ 'Z') || ('a' ≤ c && c ≤ 'z') || ('0' ≤ c && c ≤ '9')

def hasControlOrSpace (value : String) : Bool :=
  value.toList.any (fun c => isControlByte c || c == ' ')

def hasDisallowedControlByte (value : String) (allowNewline allowTab : Bool) : Bool :=
  value.toList.any (fun c =>
    isControlByte c && !(allowNewline && c == '\n') && !(allowTab && c == '\t'))

def hasPrefix (start value : String) : Bool := start.toList.isPrefixOf value.toList

/-- `\r\n` and a lone `\r` become `\n`. -/
def normalizeChars : List Char -> List Char
  | '\r' :: '\n' :: rest => '\n' :: normalizeChars rest
  | '\r' :: rest => '\n' :: normalizeChars rest
  | c :: rest => c :: normalizeChars rest
  | [] => []

def normalizeLineEndings (value : String) : String :=
  String.ofList (normalizeChars value.toList)

/-!
# Values of slots and tokens
-/

def kMaxLineBytes : Nat := 1024
def kMaxLinesBytes : Nat := 4096
def kMaxMarkdownBytes : Nat := 65536
def kMaxUrlBytes : Nat := 2048

def isValidHexColor (value : String) : Bool :=
  match value.toList with
  | '#' :: digits => digits.length == 6 && digits.all isHexDigit
  | _ => false

def isValidSiteUrl (value : String) : Bool :=
  if kMaxUrlBytes < value.utf8ByteSize then false
  else if hasControlOrSpace value then false
  else if hasPrefix "http://" value then decide (7 < value.utf8ByteSize)
  else if hasPrefix "https://" value then decide (8 < value.utf8ByteSize)
  else
    match value.toList with
    | '/' :: second :: _ => second != '/' && second != '\\'
    | ['/'] => true
    | _ => false

def isValidCssLength (value : String) : Bool :=
  if value = "" ∨ 16 < value.utf8ByteSize then false
  else if value = "0" then true
  else
    let whole := value.toList.takeWhile Char.isDigit
    let rest := value.toList.dropWhile Char.isDigit
    let places := if rest.head? = some '.' then rest.tail.takeWhile Char.isDigit else []
    let unit := if rest.head? = some '.' then rest.tail.dropWhile Char.isDigit else rest
    !(whole.isEmpty && places.isEmpty) &&
      ["px", "rem", "em", "%", "pt"].any (fun u => decide (u.toList = unit))

def isValidFontFamilyList (value : String) : Bool :=
  if value = "" ∨ 256 < value.utf8ByteSize then false
  else
    value.toList.all (fun c =>
      c == '"' || isAsciiAlnum c || c == ' ' || c == '-' || c == '_' || c == ',') &&
      value.toList.count '"' % 2 == 0

def tooLongMessage (limit : Nat) : String :=
  "Value is longer than the " ++ toString limit ++ "-byte limit for this field."

/-- The reason against the value, empty if there is none. -/
def validateSlotValue (type : SlotType) (value : String) : String :=
  if value = "" then ""
  else
    match type with
    | .line =>
        if kMaxLineBytes < value.utf8ByteSize then tooLongMessage kMaxLineBytes
        else if value.toList.any (fun c => c == '\n' || c == '\r') then
          "Value must be a single line."
        else if hasDisallowedControlByte value false false then
          "Value contains a control character."
        else ""
    | .lines =>
        if kMaxLinesBytes < value.utf8ByteSize then tooLongMessage kMaxLinesBytes
        else if hasDisallowedControlByte value true false then
          "Value contains a control character."
        else ""
    | .markdown =>
        if kMaxMarkdownBytes < value.utf8ByteSize then tooLongMessage kMaxMarkdownBytes
        else if hasDisallowedControlByte value true true then
          "Value contains a control character."
        else ""
    | .url =>
        if kMaxUrlBytes < value.utf8ByteSize then tooLongMessage kMaxUrlBytes
        else if isValidSiteUrl value then ""
        else "Value must be an http(s) URL or a root-relative path beginning with '/'."
    | .color =>
        if isValidHexColor value then "" else "Value must be a color in #RRGGBB form."

def isValidThemeTokenValue (type : ThemeTokenType) (value : String) : Bool :=
  if value = "" then false
  else
    match type with
    | .color => isValidHexColor value
    | .length => isValidCssLength value
    | .fontFamily => isValidFontFamilyList value
    | .weight =>
        decide (value.utf8ByteSize ≤ 4) && value.toList.all Char.isDigit &&
          decide (1 ≤ Nat.ofDigitChars 10 value.toList 0) &&
          decide (Nat.ofDigitChars 10 value.toList 0 ≤ 1000)

/-!
# Fonts
-/

def kMaxFamilyBytes : Nat := 64
def kMaxSpecBytes : Nat := 256

def isValidFontSourceUrl (value : String) : Bool :=
  if value = "" ∨ kMaxUrlBytes < value.utf8ByteSize then false
  else if hasControlOrSpace value then false
  else if !hasPrefix "https://" value || decide (value.utf8ByteSize ≤ 8) then false
  else
    value.toList.all (fun c =>
      c != '"' && c != Char.ofNat 39 && c != '<' && c != '>' && c != '\\')

def isValidFontFamilyName (value : String) : Bool :=
  if value = "" ∨ kMaxFamilyBytes < value.utf8ByteSize then false
  else value.toList.all (fun c => isAsciiAlnum c || c == ' ' || c == '-' || c == '_')

def isValidFontSpec (value : String) : Bool :=
  if value = "" ∨ kMaxSpecBytes < value.utf8ByteSize then false
  else if hasControlOrSpace value then false
  else
    value.toList.all (fun c =>
      isAsciiAlnum c || "=:@.,+-_;%".toList.contains c)

/-!
# Names and bytes of files
-/

abbrev FileBytes := List UInt8

def kMaxAssetNameBytes : Nat := 64
def kMaxBundleAssets : Nat := 64
def kMaxBundleAssetBytes : Nat := 8 * 1024 * 1024
def kMaxBundleTotalBytes : Nat := 64 * 1024 * 1024

def kThemeBundleAssetUrlPrefix : String := "/api/site_asset/"

def isInfixOf {a : Type} [BEq a] (part : List a) : List a -> Bool
  | [] => part.isEmpty
  | x :: rest => part.isPrefixOf (x :: rest) || isInfixOf part rest

def isValidBundleAssetName (name : String) : Bool :=
  if name = "" ∨ kMaxAssetNameBytes < name.utf8ByteSize then false
  else
    name.toList.head?.any isAsciiAlnum &&
      name.toList.all (fun c => isAsciiAlnum c || c == '.' || c == '_' || c == '-') &&
      !isInfixOf ['.', '.'] name.toList

def isExternalUrlValue (value : String) : Bool := isInfixOf [':', '/', '/'] value.toList

def isBundleAssetReference (value : String) : Bool :=
  if value = "" ∨ isExternalUrlValue value = true then false
  else isValidBundleAssetName value

def toLowerAscii (value : String) : String := value.map Char.toLower

/-- The first name that differs from one before it only in case. -/
def findCaseInsensitiveDuplicate (names : List String) : String :=
  go [] names
where
  go (seen : List String) : List String -> String
    | [] => ""
    | name :: rest =>
        if toLowerAscii name ∈ seen then name else go (toLowerAscii name :: seen) rest

def asciiBytes (text : String) : FileBytes := text.toList.map (fun c => UInt8.ofNat c.toNat)

def startsWith (bytes start : FileBytes) : Bool := start.isPrefixOf bytes

def fontFormatFromMagicBytes (bytes : FileBytes) : String :=
  if startsWith bytes (asciiBytes "wOF2") then "woff2"
  else if startsWith bytes (asciiBytes "wOFF") then "woff"
  else if startsWith bytes (asciiBytes "OTTO") then "otf"
  else if startsWith bytes [0, 1, 0, 0] then "ttf"
  else if startsWith bytes (asciiBytes "true") then "ttf"
  else if startsWith bytes (asciiBytes "ttcf") then "ttf"
  else ""

def imageTypeFromMagicBytes (bytes : FileBytes) : String :=
  if startsWith bytes [0x89, 0x50, 0x4E, 0x47, 0x0D, 0x0A, 0x1A, 0x0A] then "png"
  else if startsWith bytes [0xFF, 0xD8, 0xFF] then "jpeg"
  else if startsWith bytes (asciiBytes "GIF87a") || startsWith bytes (asciiBytes "GIF89a") then
    "gif"
  else if startsWith bytes (asciiBytes "RIFF") &&
      startsWith (bytes.drop 8) (asciiBytes "WEBP") then
    "webp"
  else if isInfixOf (asciiBytes "<svg") (bytes.take 512) then "svg"
  else ""

end Branding
end ServerComponents
