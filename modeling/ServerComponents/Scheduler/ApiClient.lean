import ServerComponents.Basics
import ServerComponents.Rest.CsrfGuard

/-!
# The API client of the scheduler

The client keeps the cookies of the server and sends them back, with the CSRF token in a
header.  The server reads the token from the cookie header with code of its own; the two
agree.
-/

namespace ServerComponents
namespace Scheduler

open Relational
open Rest
open Text

namespace ApiClient

/-- Equality up to the case of ASCII letters. -/
def iEquals (a b : String) : Bool :=
  a.toList.map Char.toLower == b.toList.map Char.toLower

def isStateChanging (method : String) : Bool :=
  iEquals method "POST" || iEquals method "PUT" || iEquals method "PATCH" ||
    iEquals method "DELETE"

/-- Only the part before the attributes counts; without a name nothing is stored. -/
def storeSetCookie (cookies : KeyValueTable) (setCookieValue : List Char) : KeyValueTable :=
  match cut '=' (trim isSpace (before ';' setCookieValue)) with
  | none => cookies
  | some (name, value) =>
      if trim isSpace name = [] then cookies
      else
        cookies.set (String.ofList (trim isSpace name)) (String.ofList (trim isSpace value))

structure HttpResponse where
  headers : List (String × String)
  setCookies : List String

/-- The header map first, then the separate list, so that the last occurrence wins. -/
def harvestSetCookies (cookies : KeyValueTable) (response : HttpResponse) : KeyValueTable :=
  let fromHeaders := (response.headers.filter (fun h => iEquals h.1 "Set-Cookie")).foldl
    (fun cookies h => storeSetCookie cookies h.2.toList) cookies
  response.setCookies.foldl (fun cookies value => storeSetCookie cookies value.toList)
    fromHeaders

def appendCookie (out : List Char) (cookie : String × String) : List Char :=
  (if out = [] then [] else out ++ [';', ' ']) ++ cookie.1.toList ++ '=' :: cookie.2.toList

def buildCookieHeader (cookies : KeyValueTable) : List Char :=
  cookies.entries.foldl appendCookie []

/-- The token goes with the methods that change state, when the client has one. -/
def setToken (headers : KeyValueTable) (method : String) (csrft : Option String) :
    KeyValueTable :=
  match isStateChanging method, csrft with
  | true, some value => headers.set CsrfGuard.kCsrfHeaderName value
  | _, _ => headers

/-- The headers of a request; those of the job are applied last. -/
def executeOnce (cookies : KeyValueTable) (method body : String)
    (extraHeaders : List (String × String)) : KeyValueTable :=
  let headers := SortedMap.empty
  let headers :=
    if body = "" then headers else headers.set "Content-Type" "application/json"
  let headers :=
    if buildCookieHeader cookies = [] then headers
    else headers.set "Cookie" (String.ofList (buildCookieHeader cookies))
  let headers := setToken headers method (cookies.find? CsrfGuard.kCsrfCookieName)
  extraHeaders.foldl (fun headers h => headers.set h.1 h.2) headers

def headerValue (headers : KeyValueTable) (name : String) : List Char :=
  ((headers.find? name).getD "").toList

/-!
# The cookies that are kept
-/

/-- A name and a value that stand unchanged between the separators of a header. -/
structure PlainCookie (cookie : String × String) : Prop where
  named : cookie.1.toList ≠ []
  noEquals : '=' ∉ cookie.1.toList
  noSeparator : ';' ∉ cookie.1.toList
  valueNoSeparator : ';' ∉ cookie.2.toList
  name : Trimmed isSpace cookie.1.toList
  value : Trimmed isSpace cookie.2.toList

def PlainJar (cookies : KeyValueTable) : Prop :=
  forall cookie, cookie ∈ cookies.entries -> PlainCookie cookie

section Jar

variable {cookies : KeyValueTable}

theorem plainJar_empty : PlainJar SortedMap.empty := by
  intro cookie h
  cases h

theorem PlainJar.storeSetCookie (h : PlainJar cookies) (setCookieValue : List Char) :
    PlainJar (storeSetCookie cookies setCookieValue) := by
  unfold ApiClient.storeSetCookie
  cases hcut : cut '=' (trim isSpace (before ';' setCookieValue)) with
  | none => exact h
  | some sides =>
      rcases sides with ⟨name, value⟩
      rcases cut_some hcut with ⟨hequals, hname, hvalue⟩
      dsimp only
      split
      · exact h
      · rename_i hnamed
        intro cookie hcookie
        rcases SortedMap.mem_set hcookie with rfl | hold
        · constructor
          · simpa using hnamed
          · intro hmem
            exact hequals (mem_of_mem_trim (by simpa using hmem))
          · intro hmem
            exact not_mem_before (mem_of_mem_trim (hname _ (mem_of_mem_trim (by simpa using hmem))))
          · intro hmem
            exact not_mem_before
              (mem_of_mem_trim (hvalue _ (mem_of_mem_trim (by simpa using hmem))))
          · simpa using trimmed_trim
          · simpa using trimmed_trim
        · exact h cookie hold

theorem plainJar_foldl {source : Type} {value : source -> List Char} (sources : List source)
    (h : PlainJar cookies) :
    PlainJar (sources.foldl (fun cookies s => storeSetCookie cookies (value s)) cookies) := by
  induction sources generalizing cookies with
  | nil => exact h
  | cons s rest ih => exact ih (h.storeSetCookie (value s))

theorem PlainJar.harvestSetCookies (h : PlainJar cookies) (response : HttpResponse) :
    PlainJar (harvestSetCookies cookies response) :=
  plainJar_foldl _ (plainJar_foldl _ h)

def harvested (responses : List HttpResponse) : KeyValueTable :=
  responses.foldl ApiClient.harvestSetCookies SortedMap.empty

theorem plainJar_harvested (responses : List HttpResponse) : PlainJar (harvested responses) := by
  unfold harvested
  have hrun : forall (responses : List HttpResponse) (cookies : KeyValueTable),
      PlainJar cookies -> PlainJar (responses.foldl ApiClient.harvestSetCookies cookies) := by
    intro responses
    induction responses with
    | nil => intro cookies h; exact h
    | cons response rest ih => intro cookies h; exact ih _ (h.harvestSetCookies response)
  exact hrun responses _ plainJar_empty

end Jar

/-!
# The header that is built
-/

section Header

def pairText (cookie : String × String) : List Char :=
  cookie.1.toList ++ '=' :: cookie.2.toList

theorem foldl_appendCookie {out : List Char} (hout : out ≠ []) (entries : List (String × String)) :
    entries.foldl appendCookie out =
      out ++ entries.flatMap (fun cookie => ';' :: ' ' :: pairText cookie) := by
  induction entries generalizing out with
  | nil => simp
  | cons cookie rest ih =>
      have hnext : appendCookie out cookie = out ++ ';' :: ' ' :: pairText cookie := by
        simp [appendCookie, hout, pairText]
      rw [List.foldl_cons, hnext, ih (by simp), List.flatMap_cons, List.append_assoc]

theorem PlainCookie.pair_noSeparator {cookie : String × String} (h : PlainCookie cookie) :
    ';' ∉ pairText cookie := by
  intro hmem
  rcases List.mem_append.mp hmem with hname | hvalue
  · exact h.noSeparator hname
  · rcases List.mem_cons.mp hvalue with heq | hvalue
    · exact absurd heq (by decide)
    · exact h.valueNoSeparator hvalue

theorem splitOn_pairs {first : List Char} {entries : List (String × String)}
    (hfirst : ';' ∉ first) (hplain : forall cookie, cookie ∈ entries -> PlainCookie cookie) :
    (first ++ entries.flatMap (fun cookie => ';' :: ' ' :: pairText cookie)).splitOn ';' =
      first :: entries.map (fun cookie => ' ' :: pairText cookie) := by
  unfold List.splitOn
  induction entries generalizing first with
  | nil =>
      rw [List.flatMap_nil, List.append_nil, List.map_nil]
      refine List.splitOnP_eq_singleton (fun c hc => ?_)
      have hne : c ≠ ';' := fun heq => hfirst (heq ▸ hc)
      simpa using hne
  | cons cookie rest ih =>
      rw [List.flatMap_cons, List.map_cons, List.cons_append]
      have hcookie : ';' ∉ ' ' :: pairText cookie := by
        intro hmem
        rcases List.mem_cons.mp hmem with heq | hmem
        · exact absurd heq (by decide)
        · exact (hplain cookie List.mem_cons_self).pair_noSeparator hmem
      rw [List.splitOnP_append_cons_of_forall_mem _ ';' (by simp),
        ih hcookie (fun c hc => hplain c (List.mem_cons_of_mem cookie hc))]
      intro c hc
      have hne : c ≠ ';' := fun heq => hfirst (heq ▸ hc)
      simpa using hne

theorem isSpace_of_isBlank (c : Char) (h : CsrfGuard.isBlank c = true) : isSpace c = true := by
  unfold CsrfGuard.isBlank at h
  rcases (by simpa using h : c = ' ' ∨ c = '\t') with rfl | rfl <;> decide

theorem PlainCookie.cookieOfPair {cookie : String × String} (h : PlainCookie cookie)
    (name : String) :
    CsrfGuard.cookieOfPair name.toList (pairText cookie) =
      if cookie.1 = name then some cookie.2.toList else none := by
  have hname : Trimmed CsrfGuard.isBlank cookie.1.toList := h.name.mono isSpace_of_isBlank
  have hvalue : Trimmed CsrfGuard.isBlank cookie.2.toList := h.value.mono isSpace_of_isBlank
  have hpair : Trimmed CsrfGuard.isBlank (pairText cookie) := by
    constructor
    · intro c hc
      refine hname.front c ?_
      cases hlist : cookie.1.toList with
      | nil => exact absurd hlist h.named
      | cons c' rest =>
          rw [pairText, hlist] at hc
          exact hc
    · intro c hc
      rw [pairText, List.getLast?_append] at hc
      cases hlist : cookie.2.toList with
      | nil =>
          rw [hlist] at hc
          cases hc
          rfl
      | cons c' rest =>
          refine hvalue.back c ?_
          rw [hlist] at hc ⊢
          simpa [List.getLast?_cons_cons] using hc
  unfold CsrfGuard.cookieOfPair
  rw [trim_of_trimmed hpair, pairText, cut_append h.noEquals]
  simp only [trim_of_trimmed hname, trim_of_trimmed hvalue, String.toList_inj]

theorem cookieOfPair_space {name pair : List Char} :
    CsrfGuard.cookieOfPair name (' ' :: pair) = CsrfGuard.cookieOfPair name pair := by
  unfold CsrfGuard.cookieOfPair
  rw [trim_cons_blank (by decide)]

theorem findSome?_pairs {entries : List (String × String)} (name : String)
    (hplain : forall cookie, cookie ∈ entries -> PlainCookie cookie) :
    (entries.map (fun cookie => ' ' :: pairText cookie)).findSome?
        (CsrfGuard.cookieOfPair name.toList) =
      (entries.find? (fun cookie => decide (cookie.1 = name))).map
        (fun cookie => cookie.2.toList) := by
  induction entries with
  | nil => rfl
  | cons cookie rest ih =>
      have hrest := ih (fun c hc => hplain c (List.mem_cons_of_mem cookie hc))
      have hcookie := (hplain cookie List.mem_cons_self).cookieOfPair name
      rw [List.map_cons, List.findSome?_cons, cookieOfPair_space, hcookie]
      by_cases hname : cookie.1 = name
      · simp [hname]
      · simpa [hname] using hrest

theorem getCookieValue_buildCookieHeader {cookies : KeyValueTable} (h : PlainJar cookies)
    (name : String) :
    CsrfGuard.getCookieValue (buildCookieHeader cookies) name.toList =
      ((cookies.find? name).getD "").toList := by
  unfold CsrfGuard.getCookieValue buildCookieHeader SortedMap.find?
  cases hentries : cookies.entries with
  | nil => simp [CsrfGuard.cookieOfPair, cut, trim]
  | cons cookie rest =>
      have hplain : forall c, c ∈ cookie :: rest -> PlainCookie c := by
        intro c hc
        exact h c (by rw [hentries]; exact hc)
      have hcookie := hplain cookie List.mem_cons_self
      have hrest : forall c, c ∈ rest -> PlainCookie c :=
        fun c hc => hplain c (List.mem_cons_of_mem cookie hc)
      have hfirst : appendCookie [] cookie = pairText cookie := by
        simp [appendCookie, pairText]
      rw [List.foldl_cons, hfirst, foldl_appendCookie (by simp [pairText]),
        splitOn_pairs hcookie.pair_noSeparator hrest, List.findSome?_cons,
        hcookie.cookieOfPair name, findSome?_pairs name hrest]
      by_cases hname : cookie.1 = name
      · simp [hname]
      · cases hfind : rest.find? (fun cookie => decide (cookie.1 = name)) with
        | none => simp [hname, hfind]
        | some found => simp [hname, hfind]

end Header

/-!
# The request that is sent
-/

section Request

variable {cookies headers : KeyValueTable} {extraHeaders : List (String × String)}

theorem find?_foldl_set {name : String} (h : forall e, e ∈ extraHeaders -> e.1 ≠ name) :
    (extraHeaders.foldl (fun headers e => headers.set e.1 e.2) headers).find? name =
      headers.find? name := by
  induction extraHeaders generalizing headers with
  | nil => rfl
  | cons e rest ih =>
      rw [List.foldl_cons, ih (fun e' he' => h e' (List.mem_cons_of_mem e he'))]
      exact SortedMap.find?_set_of_ne headers e.2 (h e List.mem_cons_self).symm

/-- Names are compared with their case, as the client's table compares them; the two names in
another case are not looked at. -/
def LeavesToken (extraHeaders : List (String × String)) : Prop :=
  forall e, e ∈ extraHeaders -> e.1 ≠ "Cookie" ∧ e.1 ≠ CsrfGuard.kCsrfHeaderName

theorem find?_setToken (headers : KeyValueTable) (method : String) (csrft : Option String) :
    (setToken headers method csrft).find? "Cookie" = headers.find? "Cookie" := by
  unfold setToken
  split
  · exact SortedMap.find?_set_of_ne headers _ (by decide)
  · rfl

theorem setToken_none (headers : KeyValueTable) (method : String) :
    setToken headers method none = headers := by
  unfold setToken
  cases isStateChanging method <;> rfl

theorem setToken_some (headers : KeyValueTable) {method : String} (value : String)
    (h : isStateChanging method = true) :
    setToken headers method (some value) = headers.set CsrfGuard.kCsrfHeaderName value := by
  unfold setToken
  rw [h]

theorem headerValue_cookie (method body : String) (h : LeavesToken extraHeaders) :
    headerValue (executeOnce cookies method body extraHeaders) "Cookie" =
      buildCookieHeader cookies := by
  unfold headerValue executeOnce
  rw [find?_foldl_set (fun e he => (h e he).1), find?_setToken]
  have hbody : (if body = "" then SortedMap.empty
      else (SortedMap.empty : KeyValueTable).set "Content-Type" "application/json").find?
        "Cookie" = none := by
    split
    · rfl
    · rw [SortedMap.find?_set_of_ne _ _ (by decide)]
      rfl
  by_cases hempty : buildCookieHeader cookies = []
  · rw [if_pos hempty, hbody, hempty]
    rfl
  · rw [if_neg hempty, SortedMap.find?_set_self]
    simp

theorem headerValue_token {method : String} (body : String) (h : LeavesToken extraHeaders)
    (hmethod : isStateChanging method = true) :
    headerValue (executeOnce cookies method body extraHeaders) CsrfGuard.kCsrfHeaderName =
      ((cookies.find? CsrfGuard.kCsrfCookieName).getD "").toList := by
  unfold headerValue executeOnce
  rw [find?_foldl_set (fun e he => (h e he).2)]
  cases hcsrft : cookies.find? CsrfGuard.kCsrfCookieName with
  | some csrft => simp [setToken_some _ csrft hmethod, SortedMap.find?_set_self]
  | none =>
      have hbody : (if body = "" then SortedMap.empty
          else (SortedMap.empty : KeyValueTable).set "Content-Type" "application/json").find?
            CsrfGuard.kCsrfHeaderName = none := by
        split
        · rfl
        · rw [SortedMap.find?_set_of_ne _ _ (by decide)]
          rfl
      by_cases hempty : buildCookieHeader cookies = []
      · simp only [setToken_none, if_pos hempty, hbody]
      · simp only [setToken_none, if_neg hempty]
        rw [SortedMap.find?_set_of_ne _ _ (by decide), hbody]

/-- After any answers of the server, the token that a state-changing request carries is the
one that the server finds in its cookie header, so the guard lets the request through
unless the token is empty. -/
theorem token_agrees (responses : List HttpResponse) {method : String} (body : String)
    (h : LeavesToken extraHeaders) (hmethod : isStateChanging method = true) :
    let headers := executeOnce (harvested responses) method body extraHeaders
    let presented := headerValue headers CsrfGuard.kCsrfHeaderName
    presented = CsrfGuard.getCookieValue (headerValue headers "Cookie")
        CsrfGuard.kCsrfCookieName.toList ∧
      (presented ≠ [] -> forall enabled serverMethod url, CsrfGuard.beforeHandle enabled
        ⟨serverMethod, url, headerValue headers "Cookie", presented⟩ = none) := by
  intro headers presented
  have hcookie : headerValue headers "Cookie" = buildCookieHeader (harvested responses) :=
    headerValue_cookie method body h
  have hpresented : presented =
      (((harvested responses).find? CsrfGuard.kCsrfCookieName).getD "").toList :=
    headerValue_token body h hmethod
  have hfound := getCookieValue_buildCookieHeader (plainJar_harvested responses)
    CsrfGuard.kCsrfCookieName
  have hagrees : presented = CsrfGuard.getCookieValue (headerValue headers "Cookie")
      CsrfGuard.kCsrfCookieName.toList := by
    rw [hcookie, hfound, hpresented]
  refine ⟨hagrees, fun hne enabled serverMethod url => ?_⟩
  have htoken : CsrfGuard.tokenMatches
      ⟨serverMethod, url, headerValue headers "Cookie", presented⟩ = true := by
    unfold CsrfGuard.tokenMatches
    dsimp only
    rw [← hagrees]
    simp [hne]
  unfold CsrfGuard.beforeHandle
  rw [htoken]
  simp

def rotatedToken : List HttpResponse :=
  [⟨[("set-cookie", "csrft=old; Path=/")], ["xcsrft=a", "csrft=old; Path=/"]⟩,
    ⟨[], ["csrft=; Max-Age=0", "csrf=b=c; HttpOnly", " csrft = new "]⟩]

theorem token_agrees_rotatedToken :
    (LeavesToken [("X-Honuware-Site", "studio")] ∧ isStateChanging "post" = true) ∧
      headerValue (executeOnce (harvested rotatedToken) "post" "\x7b\x7d"
        [("X-Honuware-Site", "studio")]) CsrfGuard.kCsrfHeaderName =
          CsrfGuard.getCookieValue (headerValue (executeOnce (harvested rotatedToken) "post"
            "\x7b\x7d" [("X-Honuware-Site", "studio")]) "Cookie")
              CsrfGuard.kCsrfCookieName.toList := by
  have hleaves : LeavesToken [("X-Honuware-Site", "studio")] := by
    intro e he
    rw [List.mem_singleton.mp he]
    decide
  have hmethod : isStateChanging "post" = true := by decide
  exact ⟨⟨hleaves, hmethod⟩, (token_agrees rotatedToken "\x7b\x7d" hleaves hmethod).1⟩

example : (harvested rotatedToken).find? CsrfGuard.kCsrfCookieName = some "new" := by
  decide

end Request

end ApiClient

end Scheduler
end ServerComponents
