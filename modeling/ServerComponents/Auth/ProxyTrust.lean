import ServerComponents.Auth.LoginGate
import ServerComponents.Text.Fields

/-!
# The address of a client

Behind a trusted proxy the address is read from the front of `X-Forwarded-For`.  The proxy
appends the peer that it saw, so the front is what the client itself has sent.
-/

namespace ServerComponents
namespace Auth

open Relational Statements
open Text

/-- What the resolver reads of a request; a header that is missing reads as empty. -/
structure ForwardedRequest where
  forwardedFor : List Char
  remoteIpAddress : List Char
  deriving Repr, DecidableEq

/-- Only the first entry is taken for the viewer. -/
def resolveViewerIp (trusted : Bool) (req : ForwardedRequest) : List Char :=
  if trusted = false then []
  else if req.forwardedFor = [] then []
  else trim isSpace (before ',' req.forwardedFor)

def resolveClientIp (trusted : Bool) (req : ForwardedRequest) : List Char :=
  let viewer := resolveViewerIp trusted req
  if viewer ≠ [] then viewer else req.remoteIpAddress

/-- The text of an address: one entry of a list, without blanks. -/
structure Address where
  text : List Char
  named : text ≠ []
  plain : forall c, c ∈ text -> c ≠ ',' ∧ isSpace c = false

def appendPeer (sent : List Char) (peer : Address) : List Char :=
  if sent = [] then peer.text else sent ++ ',' :: ' ' :: peer.text

def throughProxy (proxy peer : Address) (sent : List Char) : ForwardedRequest where
  forwardedFor := appendPeer sent peer
  remoteIpAddress := proxy.text

def namedFirst (proxy peer : Address) (sent : List Char) : List Char :=
  if sent = [] then peer.text
  else if trim isSpace (before ',' sent) = [] then proxy.text
  else trim isSpace (before ',' sent)

/-- The first entry of a list, without the blanks around it. -/
structure FirstEntry (sent entry : List Char) : Prop where
  trimmed : Trimmed isSpace entry
  inside : ',' ∉ entry
  stands : exists left right rest, sent = left ++ entry ++ right ++ rest ∧
    (forall c, c ∈ left ++ right -> isSpace c = true) ∧ (rest = [] ∨ rest.head? = some ',')

/-- The address that the text of the client names.  A client that sends nothing counts as
naming itself, and a blank first entry as naming the proxy. -/
inductive Names (proxy peer : Address) (sent : List Char) : List Char -> Prop
  | peer (h : sent = []) : Names proxy peer sent peer.text
  | proxy (h : sent ≠ []) (first : FirstEntry sent []) : Names proxy peer sent proxy.text
  | entry {entry : List Char} (h : entry ≠ []) (first : FirstEntry sent entry) :
      Names proxy peer sent entry

section Resolved

variable {proxy peer : Address} {sent : List Char}

theorem Address.trim_text (peer : Address) : trim isSpace peer.text = peer.text := by
  apply trim_of_trimmed
  constructor
  · intro c hc
    exact (peer.plain c (List.mem_of_head? hc)).2
  · intro c hc
    exact (peer.plain c (List.mem_of_getLast? hc)).2

theorem Address.before_text (peer : Address) : before ',' peer.text = peer.text :=
  before_of_not_mem (fun h => (peer.plain ',' h).1 rfl)

theorem FirstEntry.eq {entry : List Char} (h : FirstEntry sent entry) :
    entry = trim isSpace (before ',' sent) := by
  rcases h.stands with ⟨left, right, rest, hsent, hblank, hrest⟩
  have hcomma : ',' ∉ left ++ entry ++ right := by
    intro hmem
    rcases List.mem_append.mp hmem with hmem | hmem
    · rcases List.mem_append.mp hmem with hmem | hmem
      · exact absurd (hblank ',' (List.mem_append_left _ hmem)) (by decide)
      · exact h.inside hmem
    · exact absurd (hblank ',' (List.mem_append_right _ hmem)) (by decide)
  have hbefore : before ',' sent = left ++ entry ++ right := by
    rcases hrest with hrest | hrest
    · rw [hsent, hrest, List.append_nil, before_of_not_mem hcomma]
    · rcases List.head?_eq_some_iff.mp hrest with ⟨tail, htail⟩
      rw [hsent, htail, before_append hcomma]
  rw [hbefore]
  exact (trim_surrounded h.trimmed hblank).symm

theorem firstEntry_trim (sent : List Char) :
    FirstEntry sent (trim isSpace (before ',' sent)) := by
  refine ⟨trimmed_trim, fun h => not_mem_before (mem_of_mem_trim h), ?_⟩
  rcases exists_surrounds isSpace (before ',' sent) with ⟨left, right, htext, hblank⟩
  refine ⟨left, right, sent.dropWhile (fun c => c != ','), ?_, hblank, ?_⟩
  · rw [← htext]
    exact List.takeWhile_append_dropWhile.symm
  · cases hdrop : sent.dropWhile (fun c => c != ',') with
    | nil => exact Or.inl rfl
    | cons c rest =>
        have hnot := List.head_dropWhile_not (fun c => c != ',') (l := sent) (by simp [hdrop])
        simp only [hdrop, List.head_cons, bne_eq_false_iff_eq] at hnot
        rw [hnot]
        exact Or.inr rfl

theorem names_iff {address : List Char} :
    Names proxy peer sent address <-> address = namedFirst proxy peer sent := by
  unfold namedFirst
  constructor
  · intro h
    cases h with
    | peer h => rw [if_pos h]
    | proxy h first => rw [if_neg h, if_pos first.eq.symm]
    | entry h first =>
        have hsent : sent ≠ [] := by
          intro hnil
          rw [hnil] at first
          exact h first.eq
        rw [if_neg hsent, ← first.eq, if_neg h]
  · intro h
    have hfirst := firstEntry_trim sent
    rw [h]
    by_cases hsent : sent = []
    · rw [if_pos hsent]
      exact Names.peer hsent
    · rw [if_neg hsent]
      by_cases hblank : trim isSpace (before ',' sent) = []
      · rw [if_pos hblank]
        rw [hblank] at hfirst
        exact Names.proxy hsent hfirst
      · rw [if_neg hblank]
        exact Names.entry hblank hfirst

theorem namedFirst_ne_nil (proxy peer : Address) (sent : List Char) :
    namedFirst proxy peer sent ≠ [] := by
  unfold namedFirst
  split
  · exact peer.named
  · split
    · exact proxy.named
    · assumption

theorem before_appendPeer (h : sent ≠ []) :
    before ',' (appendPeer sent peer) = before ',' sent := by
  unfold appendPeer
  rw [if_neg h]
  by_cases hcomma : ',' ∈ sent
  · exact before_append_of_mem hcomma
  · rw [before_append hcomma, before_of_not_mem hcomma]

theorem resolveClientIp_throughProxy (proxy peer : Address) (sent : List Char) :
    resolveClientIp true (throughProxy proxy peer sent) = namedFirst proxy peer sent := by
  unfold resolveClientIp resolveViewerIp throughProxy namedFirst
  by_cases hsent : sent = []
  · subst hsent
    simp [appendPeer, peer.named, peer.before_text, peer.trim_text]
  · have hforwarded : appendPeer sent peer ≠ [] := by
      simp [appendPeer, hsent]
    simp only [Bool.true_eq_false, if_false, hforwarded, hsent, before_appendPeer hsent]
    by_cases hblank : trim isSpace (before ',' sent) = []
    · simp [hblank]
    · simp [hblank]

end Resolved

/-!
# The cap
-/

section Cap

variable [Citext]

/-- The gates, by the address of the client. -/
def gates (secrets : SecretsHelperPtr) (email : String) :
    List (String -> Sql LoginGateResult) :=
  [LoginGate.checkBeforeLogin secrets email, LoginGate.checkBeforeForgotPassword secrets email,
    LoginGate.checkBeforeVerify secrets, LoginGate.checkBeforeRemember secrets,
    LoginGate.checkBeforeResetPassword secrets]

/-- Under all settings and from every database, every gate answers the two addresses alike. -/
def GatesAlike (ip ip' : String) : Prop :=
  forall secrets email gate, gate ∈ gates secrets email -> forall (env : Env) (db : AuthDb),
    Prog.transact env (gate ip) db = Prog.transact env (gate ip') db

theorem checkIp_answer (env : Env) (db : AuthDb) (ip : String) (kind : AttemptKind)
    (windowMicros ipThreshold : Int) :
    Prog.transact env (LoginGate.checkIp ip kind windowMicros ipThreshold) db =
      (.ok (if ip ≠ "" ∧ ipThreshold ≤ LoginGate.countForIp db env.now ip kind windowMicros
        then .rateLimitedIp else .allow), db) :=
  @Prog.transact_of_wp _ _ _ _ _ _ (fun answer db' => (answer, db') = _) _
    (LoginGate.wp_checkIp.mpr rfl) (fun _ _ h => by cases h)

/-- One failed verification, from one address. -/
def failedFrom (ip : String) : AuthDb :=
  { AuthDb.empty with
    loginAttempts :=
      { rows := [{ id := 1, emailLower := "", ip := ip, attemptedAt := 0, success := false
                   kind := .verify }]
        nextId := 2
        noClash := by simp } }

def capOfOne : SecretsHelperPtr := some { lookupSecret := fun _ _ => .ok "1" }

theorem checkBeforeVerify_failedFrom {ip ip' : String} (h : ip ≠ "") :
    (Prog.transact (Env.ofClock 0 "") (LoginGate.checkBeforeVerify capOfOne ip)
      (failedFrom ip')).1 = .ok (if ip' = ip then .rateLimitedIp else .allow) := by
  apply @Prog.transact_of_wp _ _ _ _ _ _ (fun answer _ => answer = _) _ _ (fun _ _ h => h)
  have hone : forall key fallback,
      int64Secret capOfOne (failedFrom ip') key fallback = .ok 1 := fun _ _ => rfl
  simp only [LoginGate.checkBeforeVerify, LoginGate.checkBeforeByIp, h, if_false,
    Prog.bind_eq, Prog.wp_bind, wp_lookupInt64Secret, hone, LoginGate.wp_checkIp]
  by_cases heq : ip' = ip
  · simp [heq, h, failedFrom, LoginGate.countForIp, LoginAttempts.failureCountForIp,
      LoginAttempts.RecentFailure, Env.ofClock]
  · simp [heq, h, failedFrom, LoginGate.countForIp, LoginAttempts.failureCountForIp]

theorem eq_of_gatesAlike {ip ip' : String} (hip : ip ≠ "") (hip' : ip' ≠ "")
    (h : GatesAlike ip ip') : ip = ip' := by
  have hverify := h capOfOne "" (LoginGate.checkBeforeVerify capOfOne) (by simp [gates])
    (Env.ofClock 0 "") (failedFrom ip)
  have hanswer := congrArg Prod.fst hverify
  rw [checkBeforeVerify_failedFrom hip, checkBeforeVerify_failedFrom hip'] at hanswer
  by_contra hne
  simp [hne] at hanswer

/-- Two requests of one peer resolve to one address, and every gate answers them alike,
exactly when their texts name one address.  The cap counts by that address. -/
theorem resolveClientIp_same_iff (proxy peer : Address) (sent sent' : List Char) :
    (resolveClientIp true (throughProxy proxy peer sent) =
        resolveClientIp true (throughProxy proxy peer sent') <->
      exists address, Names proxy peer sent address ∧ Names proxy peer sent' address) ∧
    (GatesAlike (String.ofList (resolveClientIp true (throughProxy proxy peer sent)))
        (String.ofList (resolveClientIp true (throughProxy proxy peer sent'))) <->
      exists address, Names proxy peer sent address ∧ Names proxy peer sent' address) ∧
    forall address, Names proxy peer sent address ->
      forall env db kind windowMicros ipThreshold,
        (Prog.transact env (LoginGate.checkIp
            (String.ofList (resolveClientIp true (throughProxy proxy peer sent))) kind
            windowMicros ipThreshold) db).1 = .ok .rateLimitedIp <->
          ipThreshold ≤ LoginGate.countForIp db env.now (String.ofList address) kind
            windowMicros := by
  have hnamed : forall sent, String.ofList (namedFirst proxy peer sent) ≠ "" := by
    intro sent h
    exact namedFirst_ne_nil proxy peer sent (String.ofList_injective h)
  simp only [resolveClientIp_throughProxy, names_iff, exists_eq_left]
  refine ⟨trivial, ⟨fun h => ?_, fun h => ?_⟩, ?_⟩
  · exact String.ofList_injective (eq_of_gatesAlike (hnamed sent) (hnamed sent') h)
  · intro secrets email gate _ env db
    rw [h]
  · rintro address rfl env db kind windowMicros ipThreshold
    simp [checkIp_answer, hnamed sent]

omit [Citext] in
theorem resolveClientIp_named (proxy peer named : Address) :
    resolveClientIp true (throughProxy proxy peer named.text) = named.text := by
  rw [resolveClientIp_throughProxy, namedFirst, if_neg named.named, named.before_text,
    named.trim_text, if_neg named.named]

/-- An address that is longer than all of these. -/
def longAddress (length : Nat) : Address where
  text := List.replicate (length + 1) '1'
  named := by simp
  plain := by
    intro c hc
    rw [List.eq_of_mem_replicate hc]
    decide

omit [Citext] in
theorem exists_unrecorded (attempts : List LoginAttempt) :
    exists named : Address, forall a, a ∈ attempts -> a.ip ≠ String.ofList named.text := by
  have hbound : exists length, forall a, a ∈ attempts -> a.ip.toList.length ≤ length := by
    induction attempts with
    | nil => exact ⟨0, by simp⟩
    | cons first rest ih =>
        rcases ih with ⟨length, hrest⟩
        refine ⟨max first.ip.toList.length length, ?_⟩
        intro a ha
        rcases List.mem_cons.mp ha with ha | ha
        · rw [ha]
          exact Nat.le_max_left _ _
        · exact Nat.le_trans (hrest a ha) (Nat.le_max_right _ _)
  rcases hbound with ⟨length, hlength⟩
  refine ⟨longAddress length, ?_⟩
  intro a ha heq
  have hle := hlength a ha
  rw [heq] at hle
  simp only [longAddress, String.toList_ofList, List.length_replicate] at hle
  omega

theorem checkIp_unrecorded {env : Env} {db : AuthDb} {ip : String}
    (hfresh : forall a, a ∈ db.loginAttempts.rows -> a.ip ≠ ip) (kind : AttemptKind)
    (windowMicros : Int) {ipThreshold : Int} (h : 0 < ipThreshold) :
    Prog.transact env (LoginGate.checkIp ip kind windowMicros ipThreshold) db =
      (.ok .allow, db) := by
  have hcount : LoginAttempts.failureCountForIp db env.now ip kind windowMicros = 0 := by
    unfold LoginAttempts.failureCountForIp
    rw [List.countP_eq_zero.mpr]
    · rfl
    · intro a ha
      simp [hfresh a ha]
  have hbelow : Not (ipThreshold ≤ LoginGate.countForIp db env.now ip kind windowMicros) := by
    unfold LoginGate.countForIp
    split <;> omega
  rw [checkIp_answer, if_neg (fun hboth => hbelow hboth.2)]

theorem cap_evaded (proxy peer : Address) (env : Env) (db : AuthDb) (kind : AttemptKind)
    (windowMicros : Int) {ipThreshold : Int} (h : 0 < ipThreshold) :
    exists sent, Prog.transact env
      (LoginGate.checkIp
        (String.ofList (resolveClientIp true (throughProxy proxy peer sent))) kind
        windowMicros ipThreshold) db = (.ok .allow, db) := by
  rcases exists_unrecorded db.loginAttempts.rows with ⟨named, hfresh⟩
  refine ⟨named.text, ?_⟩
  rw [resolveClientIp_named]
  exact checkIp_unrecorded hfresh kind windowMicros h

end Cap

section Spoofed

attribute [local instance] Citext.plain

def proxyAddress : Address where
  text := "10.0.0.1".toList
  named := by simp
  plain := by simp [isSpace]

def peerAddress : Address where
  text := "203.0.113.7".toList
  named := by simp
  plain := by simp [isSpace]

def peerFailed : AuthDb :=
  (Prog.transact (Env.ofClock 1000 "")
    (LoginAttempts.recordAttempt "ann@example.com" "203.0.113.7" .login false)
    AuthDb.empty).2

theorem cap_evaded_peer :
    exists sent, Prog.transact (Env.ofClock 2000 "")
      (LoginGate.checkIp
        (String.ofList (resolveClientIp true (throughProxy proxyAddress peerAddress sent)))
        .login 1000 1) peerFailed = (.ok .allow, peerFailed) :=
  cap_evaded proxyAddress peerAddress _ _ _ _ (by decide)

def peerCheck (sent : List Char) : Except Exn LoginGateResult :=
  (Prog.transact (Env.ofClock 2000 "")
    (LoginGate.checkIp
      (String.ofList (resolveClientIp true (throughProxy proxyAddress peerAddress sent)))
      .login LoginGate.kDefaultLoginFailureWindowMicros 1) peerFailed).1

/-- The client is refused under its own address, and let in under another. -/
theorem resolveClientIp_spoofed :
    resolveClientIp true (throughProxy proxyAddress peerAddress []) ≠
        resolveClientIp true
          (throughProxy proxyAddress peerAddress "198.51.100.1".toList) ∧
      peerCheck [] = .ok .rateLimitedIp ∧
      peerCheck "198.51.100.1".toList = .ok .allow := by
  refine ⟨by decide, ?_, ?_⟩
  · rfl
  · rfl

end Spoofed

end Auth
end ServerComponents
