import ServerComponents.Auth.EmailVerificationProtocol

/-!
# Runs of the email-verification protocol

The law of every interleaving: one pending row for each person, one acceptance of
each secret, and a bound on the wrong secrets that are compared with it.  A wrong
secret presented through the activation link is compared and not counted, because
its transaction is rolled back.
-/

namespace ServerComponents
namespace Auth

open Relational Statements Protocols

section Runs

variable [Citext]

namespace VerificationCall

variable (urlDecode : UrlDecode) (sodium : Sodium) (personId : Nat) (account : String)
  (limit : Nat)

def Wrong (call : VerificationCall) (outcome : Except Exn VerificationReply) : Prop :=
  if call.viaLink then exists err, outcome = .error err
  else outcome = .ok (.answered { answer := .rejected, recorded := some false })

def Effect (call : VerificationCall) (base : AuthDb) (env : Env)
    (outcome : Except Exn VerificationReply) (final : AuthDb) : Prop :=
  match call.issuedHash? sodium with
  | some hash => IssueEffect personId account hash base env outcome final
  | none =>
      exists hash, call.secretHash? urlDecode sodium = some hash ∧
        PresentEffect personId account limit (fun _ => True) call.Wrong hash base env
          outcome final

def Idle (call : VerificationCall) (outcome : Except Exn VerificationReply) : Prop :=
  forall reply, outcome = .ok reply ->
    call.tokenBytes? = none ∧ reply.accepted = false

variable {urlDecode sodium personId account limit} {call : VerificationCall}

theorem transacts_of_error {p : Sql VerificationReply} {err : Exn} (hp : p = .fail err) :
    Prog.Transacts (verificationKey personId account) (Owned personId account)
      (call.Effect urlDecode sodium personId account limit) call.Idle p := by
  rw [hp]
  intro reply h
  cases h

theorem transacts_issuing {p : Sql VerificationReply} {tokenBytes : Blob}
    (htoken : call.tokenBytes? = some tokenBytes)
    (hp : Prog.Transacts (verificationKey personId account) (Owned personId account)
      (IssueEffect personId account (sodium.hashBinary tokenBytes))
      Fails p) :
    Prog.Transacts (verificationKey personId account) (Owned personId account)
      (call.Effect urlDecode sodium personId account limit) call.Idle p := by
  apply hp.mono
  · intro base env outcome final heffect
    simpa [Effect, issuedHash?, htoken] using heffect
  · intro outcome h reply hreply
    rcases h with ⟨err, h⟩
    rw [h] at hreply
    cases hreply

theorem transacts_presenting {p : Sql VerificationReply} {email hash : String}
    (htoken : call.tokenBytes? = none)
    (hpresented : call.presented urlDecode sodium = .ok (email, hash))
    (hp : Presents personId account limit hash (fun _ => True) call.Wrong
      (fun outcome => forall reply, outcome = .ok reply -> reply.accepted = false) p) :
    Prog.Transacts (verificationKey personId account) (Owned personId account)
      (call.Effect urlDecode sodium personId account limit) call.Idle p := by
  apply hp.mono
  · intro base env outcome final heffect
    simp only [Effect, issuedHash?, htoken, Option.map_none]
    exact ⟨hash, by simp [secretHash?, hpresented, Except.toOption], heffect⟩
  · intro outcome h reply hreply
    exact ⟨htoken, h reply hreply⟩

theorem transacts_verifyCall {email encodedSecret ip userAgent : String}
    (hop : call.op = .verify email encodedSecret ip userAgent)
    (hconcerns : call.Concerns urlDecode sodium account) (hlimited : call.LimitedBy limit) :
    Prog.Transacts (verificationKey personId account) (Owned personId account)
      (call.Effect urlDecode sodium personId account limit) call.Idle
      (call.program urlDecode sodium personId) := by
  have hpresented : call.presented urlDecode sodium =
      decodeLink urlDecode sodium email encodedSecret := by
    simp [presented, hop]
  simp only [program, hop]
  cases hlink : decodeLink urlDecode sodium email encodedSecret with
  | error err =>
      have hfail : verifyPersonEmail urlDecode sodium call.secrets email encodedSecret =
          .fail err := by
        simp [verifyPersonEmail, hlink, Prog.ofExcept, Prog.bind]
      have hidle : forall reply, reply.accepted = false -> call.Idle (.ok reply) := by
        intro reply hreply reply' h
        cases h
        exact ⟨by simp [tokenBytes?, hop], hreply⟩
      simp only [verify, hfail, Prog.bind_eq, Prog.bind_assoc]
      apply Prog.transacts_bind
      apply (LoginGate.readOnly_checkBeforeByIp call.secrets _ _ _ _ _ ip).transacts
      intro gate
      cases gate with
      | error err =>
          intro reply h
          cases h
      | ok gate =>
          dsimp only
          split
          · exact hidle _ rfl
          · exact hidle _ rfl
  | ok pair =>
      rw [hlink] at hpresented
      apply transacts_presenting (by simp [tokenBytes?, hop]) hpresented
      have hsame := hconcerns.1 pair.1 pair.2 hpresented
      apply transacts_present_bind (transacts_verify hlink hsame hlimited)
      · exact fun _ _ => trivial
      · intro reply hreply
        cases hreply
        simp [Prog.Keeps, Wrong, viaLink, hop]
      · exact fun _ _ => trivial
      · intro err h
        cases h
      · intro outcome h
        cases outcome with
        | error err =>
            intro reply hreply
            cases hreply
        | ok reply =>
            intro reply' hreply'
            cases hreply'
            simpa [VerificationReply.accepted] using h reply rfl

theorem transacts_activateCall {email token : String} (hop : call.op = .activate email token)
    (hconcerns : call.Concerns urlDecode sodium account) (hlimited : call.LimitedBy limit) :
    Prog.Transacts (verificationKey personId account) (Owned personId account)
      (call.Effect urlDecode sodium personId account limit) call.Idle
      (call.program urlDecode sodium personId) := by
  simp only [program, hop]
  cases hemail : urlDecode email with
  | error err => exact transacts_of_error rfl
  | ok email' =>
      cases htoken : urlDecode token with
      | error err => exact transacts_of_error rfl
      | ok token' =>
          have hpresented : call.presented urlDecode sodium =
              decodeLink urlDecode sodium email' token' := by
            simp [presented, hop, hemail, htoken, bind, Except.bind]
          change Prog.Transacts _ _ _ _
            ((accountActivation urlDecode sodium call.secrets email' token').bind
              (fun url => Prog.done (VerificationReply.redirected url)))
          cases hlink : decodeLink urlDecode sodium email' token' with
          | error err =>
              have hfail : (accountActivation urlDecode sodium call.secrets email' token').bind
                  (fun url => Prog.done (VerificationReply.redirected url)) = .fail err := by
                simp [accountActivation, verifyPersonEmail, hlink, Prog.ofExcept, Prog.bind]
              exact transacts_of_error hfail
          | ok pair =>
              rw [hlink] at hpresented
              apply transacts_presenting (by simp [tokenBytes?, hop]) hpresented
              have hsame := hconcerns.1 pair.1 pair.2 hpresented
              apply transacts_present_bind (transacts_accountActivation hlink hsame hlimited)
              · exact fun _ _ => trivial
              · intro url h
                rcases h with ⟨err, h⟩
                cases h
              · exact fun _ _ => trivial
              · intro err _
                simp [Wrong, viaLink, hop]
              · intro outcome h
                rcases h with ⟨err, h⟩
                rw [h]
                intro reply hreply
                cases hreply

theorem transacts_program (hconcerns : call.Concerns urlDecode sodium account)
    (hlimited : call.LimitedBy limit) :
    Prog.Transacts (verificationKey personId account) (Owned personId account)
      (call.Effect urlDecode sodium personId account limit) call.Idle
      (call.program urlDecode sodium personId) := by
  cases hop : call.op with
  | issue personInfo sendEmail tokenBytes =>
      have htoken : call.tokenBytes? = some tokenBytes := by simp [tokenBytes?, hop]
      apply transacts_issuing htoken
      simp only [program, hop]
      exact transacts_issue_bind transacts_issueVerification (fun _ => trivial)
  | issueByEmail email tokenBytes =>
      have htoken : call.tokenBytes? = some tokenBytes := by simp [tokenBytes?, hop]
      apply transacts_issuing htoken
      simp only [program, hop]
      exact transacts_issue_bind
        (transacts_addEmailVerificationByEmail (hconcerns.2 email tokenBytes hop))
        (fun _ => trivial)
  | verify email encodedSecret ip userAgent =>
      exact transacts_verifyCall hop hconcerns hlimited
  | activate email token => exact transacts_activateCall hop hconcerns hlimited

end VerificationCall

/-!
# The law of a run
-/

abbrev VerificationSystem (thread : Type) :=
  RowSystem thread Env AuthDb Exn VerificationReply

abbrev VerificationEvent (thread : Type) := RowEvent thread Env AuthDb

variable {thread : Type} [DecidableEq thread] (urlDecode : UrlDecode) (sodium : Sodium)
  (personId : Nat) (account : String) (limit : Nat) (calls : thread -> VerificationCall)

def verificationSystem (db : AuthDb) : VerificationSystem thread :=
  RowSystem.start db (fun t => (calls t).program urlDecode sodium personId)

def reachedBy (db : AuthDb) (es : List (VerificationEvent thread)) :
    VerificationSystem thread :=
  after RowSystem.step (verificationSystem urlDecode sodium personId calls db) es

def presentedHash (t : thread) : Option String := (calls t).secretHash? urlDecode sodium

/-- The event commits a new pending secret of the account. -/
def IssuesSecret (s : VerificationSystem thread) (e : VerificationEvent thread)
    (hash : String) (expiresAt : Int) : Prop :=
  exists t reply row, s.Ends e t (.ok reply) ∧ (calls t).issuedHash? sodium = some hash ∧
    pending (s.step e).committed personId = some row ∧ row.tokenHash = hash ∧
    row.expiresAt = expiresAt

/-- The event commits a presentation that has consumed the pending row. -/
def AcceptsSecret (s : VerificationSystem thread) (e : VerificationEvent thread)
    (t : thread) (hash : String) : Prop :=
  exists reply, s.Ends e t (.ok reply) ∧ presentedHash urlDecode sodium calls t = some hash ∧
    (pending s.committed personId).isSome ∧ pending (s.step e).committed personId = none

/-- The holder of the row is a presentation whose secret is not the row's, which has
this hash. -/
def ComparesWrong (hash : String) (s : VerificationSystem thread) : Bool :=
  match s.held with
  | none => false
  | some h =>
      decide ((pending s.committed personId).map EmailVerification.tokenHash = some hash) &&
        decide ((presentedHash urlDecode sodium calls h.thread).isSome ∧
          presentedHash urlDecode sodium calls h.thread ≠ some hash)

/-- The statement compares a wrong secret with the one that has this hash. -/
def wrongGuess (hash : String) (s : VerificationSystem thread)
    (e : VerificationEvent thread) : Bool :=
  match e with
  | .statement t i =>
      ! ComparesWrong urlDecode sodium personId calls hash s &&
        ComparesWrong urlDecode sodium personId calls hash (s.statementStep t i)
  | _ => false

structure VerificationLaw (db : AuthDb) (es : List (VerificationEvent thread)) : Prop where
  onePending : forall pre post r r', es = pre ++ post ->
    r ∈ (reachedBy urlDecode sodium personId calls db pre).committed.emailVerifications.rows ->
    r' ∈ (reachedBy urlDecode sodium personId calls db pre).committed.emailVerifications.rows ->
    r.personId = r'.personId -> r = r'
  /-- A positive answer comes from an accepted secret. -/
  answered : forall pre e post t reply hash, es = pre ++ e :: post ->
    (reachedBy urlDecode sodium personId calls db pre).Ends e t (.ok reply) ->
    presentedHash urlDecode sodium calls t = some hash -> reply.accepted = true ->
    AcceptsSecret urlDecode sodium personId calls
      (reachedBy urlDecode sodium personId calls db pre) e t hash
  /-- An accepted secret is the current one, live when its statement took the row. -/
  accepted : forall pre e post t hash, es = pre ++ e :: post ->
    AcceptsSecret urlDecode sodium personId calls
      (reachedBy urlDecode sodium personId calls db pre) e t hash ->
    exists h row, (reachedBy urlDecode sodium personId calls db pre).held = some h ∧
      h.thread = t ∧
      pending (reachedBy urlDecode sodium personId calls db pre).committed personId =
        some row ∧
      row.tokenHash = hash ∧ row.attempts < limit ∧ (h.taken.now : Int) < row.expiresAt
  atMostOnce : forall pre e mid e' post t t' hash, es = pre ++ e :: (mid ++ e' :: post) ->
    AcceptsSecret urlDecode sodium personId calls
      (reachedBy urlDecode sodium personId calls db pre) e t hash ->
    Not (AcceptsSecret urlDecode sodium personId calls
      (reachedBy urlDecode sodium personId calls db (pre ++ e :: mid)) e' t' hash)
  /-- A presentation that has compared a wrong secret ends with one more attempt. -/
  counted : forall pre e post t outcome h hash row, es = pre ++ e :: post ->
    (reachedBy urlDecode sodium personId calls db pre).Ends e t outcome ->
    (reachedBy urlDecode sodium personId calls db pre).held = some h -> h.thread = t ->
    presentedHash urlDecode sodium calls t = some hash ->
    pending (reachedBy urlDecode sodium personId calls db pre).committed personId =
      some row ->
    row.tokenHash ≠ hash ->
    pending (reachedBy urlDecode sodium personId calls db (pre ++ [e])).committed personId =
      some (EmailVerifications.claimed row)
  bounded : forall pre e post hash expiresAt, es = pre ++ e :: post ->
    IssuesSecret sodium personId calls
      (reachedBy urlDecode sodium personId calls db pre) e hash expiresAt ->
    countAlong RowSystem.step (wrongGuess urlDecode sodium personId calls hash)
      (reachedBy urlDecode sodium personId calls db (pre ++ [e])) post ≤ limit

/-- Secrets are drawn at random: no two hashes are the same. -/
structure FreshTokens (db : AuthDb) : Prop where
  injective : Function.Injective sodium.hashBinary
  distinct : forall t t' tokenBytes, (calls t).tokenBytes? = some tokenBytes ->
    (calls t').tokenBytes? = some tokenBytes -> t = t'
  unused : forall t tokenBytes r, (calls t).tokenBytes? = some tokenBytes ->
    r ∈ db.emailVerifications.rows -> r.tokenHash ≠ sodium.hashBinary tokenBytes

/-- A statement of the activation link that meets a live row presents its secret. -/
def RightThroughLink (s : VerificationSystem thread) (e : VerificationEvent thread) : Prop :=
  forall t i row hash, e = .statement t i -> (calls t).viaLink = true ->
    pending s.committed personId = some row -> row.attempts < limit ->
    (i.now : Int) < row.expiresAt ->
    presentedHash urlDecode sodium calls t = some hash -> row.tokenHash = hash

/-- The calls are about the account, and nothing outside changes its row. -/
structure AccountRun (db : AuthDb) (es : List (VerificationEvent thread)) : Prop where
  owned : Owned personId account db
  concerns : forall t, (calls t).Concerns urlDecode sodium account
  limited : forall t, (calls t).LimitedBy limit
  outside : forall change, RowEvent.outside change ∈ es ->
    forall s, verificationKey personId account (change s) =
      verificationKey personId account s

/-!
# The steps of a run
-/

/-- The transactions as a contract about the account's row. -/
def verificationContract : Contract thread Env AuthDb Exn VerificationReply
    (Option EmailVerification × Option Nat) where
  key := verificationKey personId account
  admits := Owned personId account
  effect := fun t => (calls t).Effect urlDecode sodium personId account limit
  idle := fun t => (calls t).Idle
  admits_of_key := by
    intro db db' hkey howned
    exact (key_eq hkey).2.trans howned
  admits_of_effect := by
    intro t base env outcome final _ heffect
    unfold VerificationCall.Effect at heffect
    split at heffect
    · exact heffect.1
    · rcases heffect with ⟨_, _, _, hcompared, _⟩
      exact hcompared.owned

def pendingLink (db : AuthDb) : Links Unit String :=
  fun _ => (pending db personId).map (fun row =>
    { code := row.tokenHash, expiresAt := row.expiresAt, attempts := row.attempts })

def systemLink (s : VerificationSystem thread) : Links Unit String :=
  pendingLink personId s.committed

def commitLabel (s : VerificationSystem thread) (h : Held thread Env AuthDb) :
    LinkEvent Unit String :=
  match (calls h.thread).issuedHash? sodium with
  | some hash =>
      match pending h.version personId with
      | some row => .issue () hash row.expiresAt
      | none => .idle
  | none =>
      match presentedHash urlDecode sodium calls h.thread with
      | none => .idle
      | some hash =>
          if (pending s.committed personId).map EmailVerification.tokenHash = some hash then
            .accept () hash h.taken.now
          else .guess () hash h.taken.now

def verificationLabel (s : VerificationSystem thread) (e : VerificationEvent thread) :
    LinkEvent Unit String :=
  match e with
  | .commit t =>
      match s.holds? t with
      | none => .idle
      | some h =>
          if s.Returned t then
            commitLabel urlDecode sodium personId calls s h
          else .idle
  | _ => .idle

section Steps

variable {urlDecode sodium personId account limit calls} {db : AuthDb}
  {s : VerificationSystem thread} {e : VerificationEvent thread} {t : thread}
  {es pre mid post : List (VerificationEvent thread)} {hash : String}

variable (hrun : AccountRun urlDecode sodium personId account limit calls db es)

include hrun in
theorem sound_reached (hes : es = pre ++ post) :
    (verificationContract urlDecode sodium personId account limit calls).Sound
      (reachedBy urlDecode sodium personId calls db pre) := by
  apply Contract.Sound.after
  · apply Contract.sound_start hrun.owned
    intro t
    exact VerificationCall.transacts_program (hrun.concerns t) (hrun.limited t)
  · intro e he
    cases e with
    | outside change => exact hrun.outside change (by simp [hes, he])
    | _ => exact trivial

include hrun in
omit [DecidableEq thread] in
theorem lawful_event (he : e ∈ es) :
    (verificationContract urlDecode sodium personId account limit calls).Lawful e := by
  cases e with
  | outside change => exact hrun.outside change he
  | _ => exact trivial

variable (hs : (verificationContract urlDecode sodium personId account limit calls).Sound s)
variable {h : Held thread Env AuthDb}

include hs in
theorem compared_of_ends {outcome : Except Exn VerificationReply}
    (hends : s.Ends e t outcome) (hheld : s.held = some h) (ht : h.thread = t)
    (hissued : (calls t).issuedHash? sodium = none) :
    exists hash row, presentedHash urlDecode sodium calls t = some hash ∧
      pending s.committed personId = some row ∧ row.attempts < limit ∧
      (h.taken.now : Int) < row.expiresAt ∧
      pending h.version personId =
        (if row.tokenHash = hash then none else some (EmailVerifications.claimed row)) ∧
      (row.tokenHash ≠ hash -> (calls t).Wrong outcome) := by
  rcases hs.ends hends with ⟨hnone, _⟩ | ⟨h', hheld', ht', _, hkey, heffect⟩
  · exact absurd ht (Contract.holds?_eq_none.mp hnone h hheld)
  · rw [hheld] at hheld'
    cases hheld'
    change (calls t).Effect urlDecode sodium personId account limit h.base h.taken outcome
      h.version at heffect
    simp only [VerificationCall.Effect, hissued] at heffect
    rcases heffect with ⟨hash, hhash, row, hcompared, hanswer⟩
    refine ⟨hash, row, hhash, ?_, hcompared.attempts_lt, hcompared.unexpired,
      hcompared.after, ?_⟩
    · rw [(key_eq hkey).1]
      exact hcompared.before
    · intro hcode
      rw [if_neg hcode] at hanswer
      exact hanswer

include hs in
theorem issued_of_ends {reply : VerificationReply}
    (hends : s.Ends e t (.ok reply)) (hheld : s.held = some h) (ht : h.thread = t)
    (hissued : (calls t).issuedHash? sodium = some hash) :
    exists row, pending h.version personId = some row ∧ row.tokenHash = hash ∧
      row.attempts = 0 := by
  rcases hs.ends hends with ⟨hnone, _⟩ | ⟨h', hheld', ht', _, hkey, heffect⟩
  · exact absurd ht (Contract.holds?_eq_none.mp hnone h hheld)
  · rw [hheld] at hheld'
    cases hheld'
    change (calls t).Effect urlDecode sodium personId account limit h.base h.taken (.ok reply)
      h.version at heffect
    simp only [VerificationCall.Effect, hissued] at heffect
    exact heffect.2 reply rfl

theorem pendingLink_congr {db' : AuthDb} (h : pending db' personId = pending db personId) :
    pendingLink personId db' = pendingLink personId db := by
  funext o
  simp [pendingLink, h]

variable {row : EmailVerification}

omit [DecidableEq thread] in
theorem systemLink_of_pending (h : pending s.committed personId = some row) :
    systemLink personId s () = some ⟨row.tokenHash, row.expiresAt, row.attempts⟩ := by
  simp [systemLink, pendingLink, h]

omit [Citext] in
theorem onlyAt_unit {before after : Links Unit String} : OnlyAt () before after :=
  fun o ho => absurd (Subsingleton.elim o ()) ho

omit [DecidableEq thread] in
theorem presentedHash_of_issued (h : (calls t).issuedHash? sodium = some hash) :
    presentedHash urlDecode sodium calls t = none := by
  unfold VerificationCall.issuedHash? VerificationCall.tokenBytes? at h
  cases hop : (calls t).op with
  | verify email encodedSecret ip userAgent => simp [hop] at h
  | activate email token => simp [hop] at h
  | _ =>
      simp [presentedHash, VerificationCall.secretHash?, VerificationCall.presented, hop,
        Except.toOption]

omit [DecidableEq thread] in
theorem issuedHash_of_presented (h : presentedHash urlDecode sodium calls t = some hash) :
    (calls t).issuedHash? sodium = none := by
  cases hissued : (calls t).issuedHash? sodium with
  | none => rfl
  | some hash' =>
      rw [presentedHash_of_issued hissued] at h
      cases h

variable (hlawful : (verificationContract urlDecode sodium personId account limit calls).Lawful e)

include hlawful hs in
theorem link_step :
    LinkStep limit (systemLink personId s) (systemLink personId (s.step e))
      (verificationLabel urlDecode sodium personId calls s e) := by
  change LinkStep limit (pendingLink personId s.committed)
    (pendingLink personId (s.step e).committed) _
  cases e with
  | statement t i =>
      apply LinkStep.idle
      change pendingLink personId (s.statementStep t i).committed = _
      rw [(RowSystem.statementStep_frame s t i).1]
  | rollback t =>
      apply LinkStep.idle
      rcases s.step_rollback t with hstep | ⟨err, _, hstep⟩
      · rw [hstep]
      · rw [hstep]
        unfold RowSystem.finish
        split <;> rfl
  | outside change =>
      apply LinkStep.idle
      exact pendingLink_congr (key_eq (hlawful s.committed)).1
  | commit t =>
      simp only [verificationLabel]
      cases hholds : s.holds? t with
      | none =>
          apply LinkStep.idle
          rcases s.step_commit t with hstep | ⟨value, _, hstep⟩
          · rw [hstep]
          · rw [hstep, RowSystem.finish_of_none hholds]
      | some h =>
          dsimp only
          split
          · rename_i hreturned
            rcases hreturned.ends with ⟨reply, hends⟩
            have hcommitted : (s.step (.commit t)).committed = h.version := by
              rw [hends.step_eq, RowSystem.finish_of_some hholds]
              rfl
            rw [hcommitted]
            rcases Contract.holds?_eq_some.mp hholds with ⟨hheld, ht⟩
            unfold commitLabel
            rw [ht]
            cases hissued : (calls t).issuedHash? sodium with
            | some hash =>
                rcases issued_of_ends hs hends hheld ht hissued with
                  ⟨row, hrow, hhash, hattempts⟩
                simp only [hrow]
                apply LinkStep.issue onlyAt_unit
                simp [pendingLink, hrow, hhash, hattempts]
            | none =>
                dsimp only
                rcases compared_of_ends hs hends hheld ht hissued with
                  ⟨hash, row, hhash, hrow, hattempts, hexpiry, hversion, _⟩
                simp only [hhash, hrow, Option.map_some, Option.some.injEq]
                split
                · rename_i hcode
                  rw [if_pos hcode] at hversion
                  apply LinkStep.accept onlyAt_unit
                    (l := ⟨row.tokenHash, row.expiresAt, row.attempts⟩)
                  · simp [pendingLink, hrow]
                  · exact ⟨hattempts, hexpiry⟩
                  · exact hcode
                  · simp [pendingLink, hversion]
                · rename_i hcode
                  rw [if_neg hcode] at hversion
                  apply LinkStep.guess onlyAt_unit
                    (l := ⟨row.tokenHash, row.expiresAt, row.attempts⟩)
                  · simp [pendingLink, hrow]
                  · exact ⟨hattempts, hexpiry⟩
                  · exact hcode
                  · right
                    simp [pendingLink, hversion, EmailVerifications.claimed]
          · rename_i hnot
            rw [RowSystem.step_commit_of_not hnot]
            exact LinkStep.idle rfl

/-!
# Acceptance
-/

theorem reachedBy_append (db : AuthDb) (pre post : List (VerificationEvent thread)) :
    reachedBy urlDecode sodium personId calls db (pre ++ post) =
      after RowSystem.step (reachedBy urlDecode sodium personId calls db pre) post :=
  after_append _ _ _ _

include hs in
theorem answered_step {reply : VerificationReply} (hends : s.Ends e t (.ok reply))
    (hhash : presentedHash urlDecode sodium calls t = some hash)
    (haccepted : reply.accepted = true) :
    AcceptsSecret urlDecode sodium personId calls s e t hash := by
  have hissued := issuedHash_of_presented hhash
  rcases hs.ends hends with ⟨_, hidle⟩ | ⟨h, hheld, ht, _⟩
  · have hnot := (hidle reply rfl).2
    rw [haccepted] at hnot
    cases hnot
  · rcases compared_of_ends hs hends hheld ht hissued with
      ⟨hash', row, hhash', hrow, _, _, hversion, hwrong⟩
    rw [hhash] at hhash'
    cases hhash'
    have hcode : row.tokenHash = hash := by
      by_contra hcode
      have hanswer := hwrong hcode
      unfold VerificationCall.Wrong at hanswer
      split at hanswer
      · rcases hanswer with ⟨err, herr⟩
        cases herr
      · cases hanswer
        cases haccepted
    refine ⟨reply, hends, hhash, by simp [hrow], ?_⟩
    rw [hends.step_eq, RowSystem.finish_of_some (Contract.holds?_eq_some.mpr ⟨hheld, ht⟩)]
    rw [if_pos hcode] at hversion
    exact hversion

include hs in
theorem AcceptsSecret.live (haccepts : AcceptsSecret urlDecode sodium personId calls s e t hash) :
    exists h row, s.held = some h ∧ h.thread = t ∧
      pending s.committed personId = some row ∧ row.tokenHash = hash ∧
      row.attempts < limit ∧ (h.taken.now : Int) < row.expiresAt := by
  rcases haccepts with ⟨reply, hends, hhash, hbefore, hafter⟩
  have hissued := issuedHash_of_presented hhash
  rw [hends.step_eq] at hafter
  cases hholds : s.holds? t with
  | none =>
      rw [RowSystem.finish_of_none hholds] at hafter
      rw [hafter] at hbefore
      cases hbefore
  | some h =>
      rcases Contract.holds?_eq_some.mp hholds with ⟨hheld, ht⟩
      rcases compared_of_ends hs hends hheld ht hissued with
        ⟨hash', row, hhash', hrow, hattempts, hexpiry, hversion, _⟩
      rw [hhash] at hhash'
      cases hhash'
      refine ⟨h, row, hheld, ht, hrow, ?_, hattempts, hexpiry⟩
      by_contra hcode
      rw [if_neg hcode] at hversion
      rw [RowSystem.finish_of_some hholds] at hafter
      change pending h.version personId = none at hafter
      rw [hafter] at hversion
      cases hversion

/-- The secret has been issued before: it is in the table at the start, or the call
that draws it has ended. -/
def KnownSecret (sodium : Sodium) (calls : thread -> VerificationCall) (db : AuthDb)
    (s : VerificationSystem thread) (hash : String) : Prop :=
  (exists r, r ∈ db.emailVerifications.rows ∧ r.tokenHash = hash) ∨
    exists t, s.ended t = true ∧ (calls t).issuedHash? sodium = some hash

theorem issues_label
    (h : (verificationLabel urlDecode sodium personId calls s e).Issues hash) :
    exists t, e = .commit t ∧ s.ended t = false ∧
      (calls t).issuedHash? sodium = some hash ∧ (s.step e).ended t = true := by
  unfold verificationLabel at h
  split at h
  · rename_i t
    split at h
    · exact h.elim
    · rename_i hheld hholds
      split at h
      · rename_i hreturned
        rcases hreturned.ends with ⟨reply, hends⟩
        have ht := (Contract.holds?_eq_some.mp hholds).2
        unfold commitLabel at h
        rw [ht] at h
        refine ⟨t, rfl, hends.1, ?_, ?_⟩
        · split at h
          · rename_i hash' hissued
            split at h
            · rw [hissued, h]
            · exact h.elim
          · split at h
            · exact h.elim
            · split at h <;> exact h.elim
        · rw [hends.step_eq, RowSystem.finish_of_some hholds]
          simp
      · exact h.elim
  · exact h.elim

theorem ended_after (h : s.ended t = true) (es : List (VerificationEvent thread)) :
    (after RowSystem.step s es).ended t = true := by
  induction es generalizing s with
  | nil => exact h
  | cons e es ih => exact ih (RowSystem.step_ended h)

theorem KnownSecret.after (h : KnownSecret sodium calls db s hash)
    (es : List (VerificationEvent thread)) :
    KnownSecret sodium calls db (after RowSystem.step s es) hash := by
  rcases h with hstart | ⟨t, hended, hissued⟩
  · exact Or.inl hstart
  · exact Or.inr ⟨t, ended_after hended es, hissued⟩

omit [DecidableEq thread] in
theorem KnownSecret.not_issued (hfresh : FreshTokens sodium calls db)
    (h : KnownSecret sodium calls db s hash) (hended : s.ended t = false) :
    (calls t).issuedHash? sodium ≠ some hash := by
  intro hissued
  rcases Option.map_eq_some_iff.mp hissued with ⟨tokenBytes, htoken, hhash⟩
  rcases h with ⟨r, hr, hcode⟩ | ⟨t', hended', hissued'⟩
  · exact hfresh.unused t tokenBytes r htoken hr (hcode.trans hhash.symm)
  · rcases Option.map_eq_some_iff.mp hissued' with ⟨tokenBytes', htoken', hhash'⟩
    have hbytes := hfresh.injective (hhash'.trans hhash.symm)
    rw [hbytes] at htoken'
    rw [hfresh.distinct t t' tokenBytes htoken htoken', hended'] at hended
    cases hended

theorem KnownSecret.neverIssues (hfresh : FreshTokens sodium calls db)
    (h : KnownSecret sodium calls db s hash) (es : List (VerificationEvent thread)) :
    NeverIssues RowSystem.step (verificationLabel urlDecode sodium personId calls) hash s
      es := by
  intro pre e post _ hissues
  rcases issues_label hissues with ⟨t, _, hended, hissued, _⟩
  exact (h.after pre).not_issued hfresh hended hissued

include hrun in
theorem refines_reached_links (hes : es = pre ++ (mid ++ post)) :
    Refines limit RowSystem.step (systemLink personId)
      (verificationLabel urlDecode sodium personId calls)
      (reachedBy urlDecode sodium personId calls db pre) mid := by
  intro mid1 e mid2 hmid
  rw [← reachedBy_append]
  apply link_step
  · have hsplit : es = (pre ++ mid1) ++ (e :: mid2 ++ post) := by simp [hes, hmid]
    exact sound_reached hrun hsplit
  · exact lawful_event hrun (by simp [hes, hmid])

include hrun in
theorem pending_known (hes : es = pre ++ post)
    (hrow : pending (reachedBy urlDecode sodium personId calls db pre).committed personId =
      some row) :
    KnownSecret sodium calls db (reachedBy urlDecode sodium personId calls db pre)
      row.tokenHash := by
  induction pre using List.reverseRecOn generalizing row post with
  | nil => exact Or.inl ⟨row, (pending_some hrow).1, rfl⟩
  | append_singleton pre e ih =>
      have hsplit : es = pre ++ (e :: post) := by simp [hes]
      have hstep := link_step (sound_reached hrun hsplit)
        (lawful_event hrun (show e ∈ es by simp [hes]))
      rw [reachedBy_append] at hrow ⊢
      change pending (RowSystem.step _ e).committed personId = some row at hrow
      change KnownSecret sodium calls db (RowSystem.step _ e) row.tokenHash
      have hlink : systemLink personId (RowSystem.step
          (reachedBy urlDecode sodium personId calls db pre) e) () =
          some ⟨row.tokenHash, row.expiresAt, row.attempts⟩ :=
        systemLink_of_pending hrow
      rcases hstep.origin hlink with hnew | ⟨l, hl, hcode, _⟩
      · have hissues : (verificationLabel urlDecode sodium personId calls
            (reachedBy urlDecode sodium personId calls db pre) e).Issues row.tokenHash := by
          rw [hnew]
          exact rfl
        rcases issues_label hissues with ⟨t, _, _, hissued, hended⟩
        exact Or.inr ⟨t, hended, hissued⟩
      · rcases Option.map_eq_some_iff.mp hl with ⟨row', hrow', hl'⟩
        have hknown := ih hsplit hrow'
        rw [← hl'] at hcode
        have hsame : row'.tokenHash = row.tokenHash := hcode
        rw [← hsame]
        exact hknown.after [e]

/-!
# Counting
-/

def RightHolder (urlDecode : UrlDecode) (sodium : Sodium) (personId : Nat)
    (calls : thread -> VerificationCall) (s : VerificationSystem thread) : Prop :=
  forall h row hash, s.held = some h -> (calls h.thread).viaLink = true ->
    pending s.committed personId = some row ->
    presentedHash urlDecode sodium calls h.thread = some hash -> row.tokenHash = hash

omit [DecidableEq thread] in
theorem RightHolder.congr {s' : VerificationSystem thread}
    (h : RightHolder urlDecode sodium personId calls s)
    (hheld : s'.held.map Held.thread = s.held.map Held.thread)
    (hpending : pending s'.committed personId = pending s.committed personId) :
    RightHolder urlDecode sodium personId calls s' := by
  intro h' row hash hheld' hlink hrow hhash
  rw [hheld'] at hheld
  rcases Option.map_eq_some_iff.mp hheld.symm with ⟨h0, hheld0, hthread⟩
  rw [← hthread] at hlink hhash
  rw [hpending] at hrow
  exact h h0 row hash hheld0 hlink hrow hhash

omit [DecidableEq thread] in
theorem holder_map {s' : VerificationSystem thread} (h : s'.holder? = s.holder?) :
    s'.held.map Held.thread = s.held.map Held.thread := by
  have hmap := congrArg (fun holder => holder.map Prod.fst) h
  simpa [RowSystem.holder?, Function.comp_def] using hmap

include hs in
theorem holder_live (hheld : s.held = some h)
    (hhash : presentedHash urlDecode sodium calls h.thread = some hash)
    (hrow : pending s.committed personId = some row) :
    row.attempts < limit ∧ (h.taken.now : Int) < row.expiresAt := by
  rcases hs.holding h hheld with ⟨_, _, hkey, hlocked⟩
  rcases hlocked.exists_outcome with ⟨outcome, final, heffect⟩
  change (calls h.thread).Effect urlDecode sodium personId account limit h.base h.taken
    outcome final at heffect
  simp only [VerificationCall.Effect, issuedHash_of_presented hhash] at heffect
  rcases heffect with ⟨_, _, row', hcompared, _⟩
  rw [(key_eq hkey).1, hcompared.before] at hrow
  cases hrow
  exact ⟨hcompared.attempts_lt, hcompared.unexpired⟩

include hlawful hs in
theorem RightHolder.step (h : RightHolder urlDecode sodium personId calls s)
    (hright : RightThroughLink urlDecode sodium personId limit calls s e) :
    RightHolder urlDecode sodium personId calls (s.step e) := by
  have hfinish : forall t publish, RightHolder urlDecode sodium personId calls
      (s.finish t publish) := by
    intro t publish
    cases hholds : s.holds? t with
    | none =>
        rw [RowSystem.finish_of_none hholds]
        exact h.congr rfl rfl
    | some h' =>
        rw [RowSystem.finish_of_some hholds]
        intro h'' row hash hheld
        cases hheld
  cases e with
  | statement t i =>
      rcases s.statementStep_frame t i with ⟨hcommitted, _, hholder | ⟨_, hholder⟩⟩
      · exact h.congr (holder_map hholder) (congrArg (pending · personId) hcommitted)
      · intro h' row hash hheld hlink hrow hhash
        have hlive := holder_live (hs.step hlawful) hheld hhash hrow
        change (s.statementStep t i).held = some h' at hheld
        change pending (s.statementStep t i).committed personId = some row at hrow
        rw [hcommitted] at hrow
        simp only [RowSystem.holder?, hheld, Option.map_some, Option.some.injEq,
          Prod.mk.injEq] at hholder
        rcases hholder with ⟨ht, _, htaken⟩
        rw [ht] at hlink hhash
        rw [htaken] at hlive
        exact hright t i row hash rfl hlink hrow hlive.1 hlive.2 hhash
  | commit t =>
      rcases s.step_commit t with hstep | ⟨value, _, hstep⟩
      · rw [hstep]
        exact h
      · rw [hstep]
        exact hfinish t true
  | rollback t =>
      rcases s.step_rollback t with hstep | ⟨err, _, hstep⟩
      · rw [hstep]
        exact h
      · rw [hstep]
        exact hfinish t false
  | outside change =>
      apply h.congr
      · simp [RowSystem.step, Function.comp_def]
      · exact (key_eq (hlawful s.committed)).1

variable (hright : Along RowSystem.step (RightThroughLink urlDecode sodium personId limit calls)
  (verificationSystem urlDecode sodium personId calls db) es)

include hright hrun in
theorem rightHolder_reached (hes : es = pre ++ post) :
    RightHolder urlDecode sodium personId calls
      (reachedBy urlDecode sodium personId calls db pre) := by
  induction pre using List.reverseRecOn generalizing post with
  | nil =>
      intro h row hash hheld
      cases hheld
  | append_singleton pre e ih =>
      have hsplit : es = pre ++ (e :: post) := by simp [hes]
      rw [reachedBy_append]
      exact (ih hsplit).step (sound_reached hrun hsplit)
        (lawful_event hrun (show e ∈ es by simp [hes]))
        (hright pre e post hsplit)

include hs in
theorem counted_step {outcome : Except Exn VerificationReply}
    (hright : RightHolder urlDecode sodium personId calls s)
    (hends : s.Ends e t outcome) (hheld : s.held = some h) (ht : h.thread = t)
    (hhash : presentedHash urlDecode sodium calls t = some hash)
    (hrow : pending s.committed personId = some row) (hwrong : row.tokenHash ≠ hash) :
    outcome.isOk = true ∧
      pending (s.step e).committed personId = some (EmailVerifications.claimed row) := by
  rcases compared_of_ends hs hends hheld ht (issuedHash_of_presented hhash) with
    ⟨hash', row', hhash', hrow', _, _, hversion, hanswer⟩
  rw [hhash] at hhash'
  cases hhash'
  rw [hrow] at hrow'
  cases hrow'
  rw [if_neg hwrong] at hversion
  have hout := hanswer hwrong
  have hverify : (calls t).viaLink = false := by
    cases hlink : (calls t).viaLink with
    | false => rfl
    | true =>
        rw [← ht] at hlink hhash
        exact absurd (hright h row hash hheld hlink hrow hhash) hwrong
  simp only [VerificationCall.Wrong, hverify, Bool.false_eq_true, if_false] at hout
  rw [hends.step_eq, RowSystem.finish_of_some (Contract.holds?_eq_some.mpr ⟨hheld, ht⟩), hout]
  exact ⟨rfl, hversion⟩

def wrongWeight (urlDecode : UrlDecode) (sodium : Sodium) (personId : Nat)
    (calls : thread -> VerificationCall) (hash : String) (s : VerificationSystem thread) :
    Nat :=
  if ComparesWrong urlDecode sodium personId calls hash s = true then 1 else 0

omit [DecidableEq thread] in
theorem comparesWrong_congr {s' : VerificationSystem thread}
    (hheld : s'.held.map Held.thread = s.held.map Held.thread)
    (hpending : pending s'.committed personId = pending s.committed personId) :
    ComparesWrong urlDecode sodium personId calls hash s' =
      ComparesWrong urlDecode sodium personId calls hash s := by
  unfold ComparesWrong
  rw [hpending]
  cases h : s.held with
  | none =>
      rw [h] at hheld
      rw [Option.map_eq_none_iff.mp hheld]
  | some held =>
      rw [h] at hheld
      rcases Option.map_eq_some_iff.mp hheld with ⟨held', hheld', hthread⟩
      rw [hheld']
      simp only [hthread]

omit [DecidableEq thread] in
theorem comparesWrong_iff (hheld : s.held = some h) :
    ComparesWrong urlDecode sodium personId calls hash s = true <->
      exists row hash', pending s.committed personId = some row ∧ row.tokenHash = hash ∧
        presentedHash urlDecode sodium calls h.thread = some hash' ∧ hash' ≠ hash := by
  unfold ComparesWrong
  simp only [hheld, Bool.and_eq_true, decide_eq_true_eq]
  constructor
  · intro hwrong
    rcases Option.map_eq_some_iff.mp hwrong.1 with ⟨row, hrow, hcode⟩
    rcases Option.isSome_iff_exists.mp hwrong.2.1 with ⟨hash', hhash'⟩
    refine ⟨row, hash', hrow, hcode, hhash', ?_⟩
    intro hsame
    rw [hhash', hsame] at hwrong
    exact hwrong.2.2 rfl
  · rintro ⟨row, hash', hrow, hcode, hhash', hne⟩
    rw [hhash', hrow]
    simp [hcode, hne]

include hs in
/-- The end of a transaction that has compared a wrong secret is a guess at the
pending link, and no other end is. -/
theorem guessAt_commit (hholds : s.holds? t = some h) (hreturned : s.Returned t) :
    GuessAt (systemLink personId)
      (verificationLabel urlDecode sodium personId calls) () hash s (.commit t) =
        ComparesWrong urlDecode sodium personId calls hash s := by
  rcases Contract.holds?_eq_some.mp hholds with ⟨hheld, ht⟩
  rcases hreturned.ends with ⟨reply, hends⟩
  have hlabel : verificationLabel urlDecode sodium personId calls s (.commit t) =
      commitLabel urlDecode sodium personId calls s h := by
    simp [verificationLabel, hholds, hreturned]
  rw [Bool.eq_iff_iff, comparesWrong_iff hheld]
  simp only [GuessAt, hlabel, Bool.and_eq_true, PendingCode, decide_eq_true_eq, commitLabel,
    ht]
  cases hissued : (calls t).issuedHash? sodium with
  | some issued =>
      rw [presentedHash_of_issued hissued]
      constructor
      · intro hguess
        cases hrow : pending h.version personId with
        | none => simp [hrow, LinkEvent.isGuess] at hguess
        | some row => simp [hrow, LinkEvent.isGuess] at hguess
      · rintro ⟨_, _, _, _, hnone, _⟩
        cases hnone
  | none =>
      rcases compared_of_ends hs hends hheld ht hissued with
        ⟨hash', row, hhash', hrow, _⟩
      simp only [hhash', hrow, systemLink, pendingLink, Option.map_some, Option.some.injEq]
      constructor
      · intro hguess
        refine ⟨row, hash', rfl, hguess.2, rfl, ?_⟩
        intro hsame
        rw [hsame] at hguess
        have hcode : row.tokenHash = hash := hguess.2
        simp [hcode, LinkEvent.isGuess] at hguess
      · rintro ⟨row', hash'', hrow', hcode, hhash'', hne⟩
        cases hrow'
        cases hhash''
        have hwrong : Not (row.tokenHash = hash') := fun h => hne (h.symm.trans hcode)
        exact ⟨by simp [hwrong, LinkEvent.isGuess], hcode⟩

include hlawful hs in
theorem guess_balance (hright : RightHolder urlDecode sodium personId calls s) :
    (if wrongGuess urlDecode sodium personId calls hash s e = true then 1 else 0) +
        wrongWeight urlDecode sodium personId calls hash s =
      (if GuessAt (systemLink personId)
          (verificationLabel urlDecode sodium personId calls) () hash s e = true
        then 1 else 0) +
        wrongWeight urlDecode sodium personId calls hash (s.step e) := by
  cases e with
  | statement t i =>
      have hidle : GuessAt
          (systemLink personId)
          (verificationLabel urlDecode sodium personId calls) () hash s (.statement t i) =
            false := rfl
      have hguess : wrongGuess urlDecode sodium personId calls hash s (.statement t i) =
          (! ComparesWrong urlDecode sodium personId calls hash s &&
            ComparesWrong urlDecode sodium personId calls hash (s.step (.statement t i))) :=
        rfl
      rcases s.statementStep_frame t i with ⟨hcommitted, _, hholder | ⟨hnone, _⟩⟩
      · have hsame : ComparesWrong urlDecode sodium personId calls hash
            (s.step (.statement t i)) =
              ComparesWrong urlDecode sodium personId calls hash s :=
          comparesWrong_congr (holder_map hholder) (congrArg (pending · personId) hcommitted)
        have hfalse : wrongGuess urlDecode sodium personId calls hash s (.statement t i) =
            false := by
          rw [hguess, hsame]
          simp
        simp [hfalse, hidle, wrongWeight, hsame]
      · have hzero : ComparesWrong urlDecode sodium personId calls hash s = false := by
          simp [ComparesWrong, hnone]
        have hnew : wrongGuess urlDecode sodium personId calls hash s (.statement t i) =
            ComparesWrong urlDecode sodium personId calls hash (s.step (.statement t i)) := by
          rw [hguess, hzero]
          simp
        simp [hnew, hidle, wrongWeight, hzero]
  | outside change =>
      have hsame : ComparesWrong urlDecode sodium personId calls hash
          (s.step (.outside change)) =
            ComparesWrong urlDecode sodium personId calls hash s := by
        apply comparesWrong_congr
        · simp [RowSystem.step, Function.comp_def]
        · exact (key_eq (hlawful s.committed)).1
      have hidle : GuessAt
          (systemLink personId)
          (verificationLabel urlDecode sodium personId calls) () hash s (.outside change) =
            false := rfl
      simp [wrongGuess, wrongWeight, hsame, hidle]
  | rollback t =>
      have hidle : GuessAt
          (systemLink personId)
          (verificationLabel urlDecode sodium personId calls) () hash s (.rollback t) =
            false := rfl
      have hsame : ComparesWrong urlDecode sodium personId calls hash (s.step (.rollback t)) =
          ComparesWrong urlDecode sodium personId calls hash s := by
        rcases s.step_rollback t with hstep | ⟨err, hends, hstep⟩
        · rw [hstep]
        · rw [hstep]
          cases hholds : s.holds? t with
          | none =>
              rw [RowSystem.finish_of_none hholds]
              exact comparesWrong_congr rfl rfl
          | some h =>
              rcases Contract.holds?_eq_some.mp hholds with ⟨hheld, ht⟩
              have hzero : ComparesWrong urlDecode sodium personId calls hash
                  (s.finish t false) = false := by
                simp [RowSystem.finish_of_some hholds, ComparesWrong]
              rw [hzero]
              symm
              apply Bool.eq_false_iff.mpr
              intro hwrong
              rcases (comparesWrong_iff hheld).mp hwrong with
                ⟨row, hash', hrow, hcode, hhash', hne⟩
              rw [ht] at hhash'
              have hcommits := (counted_step hs hright hends hheld ht hhash' hrow
                (fun h => hne (h.symm.trans hcode))).1
              cases hcommits
      simp [wrongGuess, wrongWeight, hsame, hidle]
  | commit t =>
      have hguess : wrongGuess urlDecode sodium personId calls hash s (.commit t) = false :=
        rfl
      simp only [hguess, wrongWeight]
      by_cases hreturned : s.Returned t
      · cases hholds : s.holds? t with
        | none =>
            have hidle : GuessAt
                (systemLink personId)
                (verificationLabel urlDecode sodium personId calls) () hash s (.commit t) =
                  false := by
              simp [GuessAt, verificationLabel, hholds, LinkEvent.isGuess]
            have hsame : ComparesWrong urlDecode sodium personId calls hash
                (s.step (.commit t)) =
                  ComparesWrong urlDecode sodium personId calls hash s := by
              rcases hreturned.ends with ⟨reply, hends⟩
              rw [hends.step_eq, RowSystem.finish_of_none hholds]
              exact comparesWrong_congr rfl rfl
            simp [hidle, hsame]
        | some h =>
            have hzero : ComparesWrong urlDecode sodium personId calls hash
                (s.step (.commit t)) = false := by
              rcases hreturned.ends with ⟨reply, hends⟩
              rw [hends.step_eq]
              simp [RowSystem.finish_of_some hholds, ComparesWrong]
            simp [guessAt_commit hs hholds hreturned, hzero]
      · have hidle : GuessAt
            (systemLink personId)
            (verificationLabel urlDecode sodium personId calls) () hash s (.commit t) =
              false := by
          cases hholds : s.holds? t <;>
            simp [GuessAt, verificationLabel, hholds, hreturned, LinkEvent.isGuess]
        simp [RowSystem.step_commit_of_not hreturned, hidle]

include hs in
theorem label_of_issues {expiresAt : Int}
    (hissues : IssuesSecret sodium personId calls s e hash expiresAt) :
    verificationLabel urlDecode sodium personId calls s e = .issue () hash expiresAt := by
  rcases hissues with ⟨t, reply, row, hends, hissued, hrow, hcode, hexpiry⟩
  rcases hs.ends hends with ⟨_, hidle⟩ | ⟨h, hheld, ht, _⟩
  · have hnone := (hidle reply rfl).1
    simp [VerificationCall.issuedHash?, hnone] at hissued
  · have hholds := Contract.holds?_eq_some.mpr ⟨hheld, ht⟩
    have hreturned : s.Returned t := ⟨hends.1, by simp [hends.2.2, Prog.result?]⟩
    rw [hends.step_eq, RowSystem.finish_of_some hholds] at hrow
    change pending h.version personId = some row at hrow
    rw [hends.2.1]
    simp [verificationLabel, hholds, hreturned, commitLabel, ht, hissued, hrow, hexpiry]

include hright hrun in
theorem bounded_reached {expiresAt : Int} (hfresh : FreshTokens sodium calls db)
    (hes : es = pre ++ e :: post)
    (hissues : IssuesSecret sodium personId calls
      (reachedBy urlDecode sodium personId calls db pre) e hash expiresAt) :
    countAlong RowSystem.step (wrongGuess urlDecode sodium personId calls hash)
      (reachedBy urlDecode sodium personId calls db (pre ++ [e])) post ≤ limit := by
  have hsplit : es = (pre ++ [e]) ++ (post ++ []) := by simp [hes]
  have hs := sound_reached hrun hes
  have hstep := link_step hs (lawful_event hrun (show e ∈ es by simp [hes]))
  rw [label_of_issues hs hissues] at hstep
  rcases hissues with ⟨t, reply, row, hends, hissued, _⟩
  have habsent : Absent (systemLink personId
      (reachedBy urlDecode sodium personId calls db pre)) hash := by
    intro o l hl hcode
    rcases Option.map_eq_some_iff.mp hl with ⟨row', hrow', hl'⟩
    rw [← hl'] at hcode
    have hknown := pending_known hrun hes hrow'
    have hsame : row'.tokenHash = hash := hcode
    rw [hsame] at hknown
    exact hknown.not_issued hfresh hends.1 hissued
  have htracked := tracked_issue habsent hstep
  have hknown : KnownSecret sodium calls db
      (reachedBy urlDecode sodium personId calls db (pre ++ [e])) hash := by
    right
    refine ⟨t, ?_, hissued⟩
    rw [reachedBy_append]
    change (RowSystem.step _ e).ended t = true
    rw [hends.step_eq]
    unfold RowSystem.finish
    split <;> simp
  have hrefines := refines_reached_links hrun hsplit
  have hafter : RowSystem.step (reachedBy urlDecode sodium personId calls db pre) e =
      reachedBy urlDecode sodium personId calls db (pre ++ [e]) := by
    rw [reachedBy_append]
    rfl
  rw [hafter] at htracked
  have hnever : NeverIssues RowSystem.step
      (verificationLabel urlDecode sodium personId calls) hash
      (reachedBy urlDecode sodium personId calls db (pre ++ [e])) post :=
    hknown.neverIssues hfresh post
  have hguesses := guesses_le htracked (Nat.zero_le _) hrefines hnever
  have hbalance : countAlong RowSystem.step
        (wrongGuess urlDecode sodium personId calls hash)
        (reachedBy urlDecode sodium personId calls db (pre ++ [e])) post +
          wrongWeight urlDecode sodium personId calls hash
            (reachedBy urlDecode sodium personId calls db (pre ++ [e])) =
      countAlong RowSystem.step
        (GuessAt (systemLink personId)
          (verificationLabel urlDecode sodium personId calls) () hash)
        (reachedBy urlDecode sodium personId calls db (pre ++ [e])) post +
          wrongWeight urlDecode sodium personId calls hash
            (after RowSystem.step
              (reachedBy urlDecode sodium personId calls db (pre ++ [e])) post) := by
    apply countAlong_balance
    intro mid e' post' hpost
    rw [← reachedBy_append]
    have hsplit' : es = (pre ++ [e] ++ mid) ++ (e' :: post') := by simp [hes, hpost]
    exact guess_balance (sound_reached hrun hsplit')
      (lawful_event hrun (show e' ∈ es by simp [hes, hpost]))
      (rightHolder_reached hrun hright hsplit')
  by_cases hwrong : ComparesWrong urlDecode sodium personId calls hash
      (after RowSystem.step
        (reachedBy urlDecode sodium personId calls db (pre ++ [e])) post) = true
  · have hone : wrongWeight urlDecode sodium personId calls hash
        (after RowSystem.step
          (reachedBy urlDecode sodium personId calls db (pre ++ [e])) post) = 1 := by
      simp [wrongWeight, hwrong]
    have hcount := tracked_after htracked hrefines hnever
    rw [← reachedBy_append] at hwrong hcount
    cases hheld : (reachedBy urlDecode sodium personId calls db (pre ++ [e] ++ post)).held with
    | none =>
        unfold ComparesWrong at hwrong
        rw [hheld] at hwrong
        cases hwrong
    | some h =>
        rcases (comparesWrong_iff hheld).mp hwrong with
          ⟨row', hash', hrow', hcode, hhash', _⟩
        have hlive := holder_live (sound_reached hrun
          (show es = (pre ++ [e] ++ post) ++ [] by simp [hes])) hheld hhash' hrow'
        have hattempts := (hcount () ⟨row'.tokenHash, row'.expiresAt, row'.attempts⟩
          (systemLink_of_pending hrow') hcode).2.2
        simp only [Nat.zero_add] at hattempts
        have hle : countAlong RowSystem.step
            (GuessAt (systemLink personId)
              (verificationLabel urlDecode sodium personId calls) () hash)
            (reachedBy urlDecode sodium personId calls db (pre ++ [e])) post ≤
              row'.attempts := by
          refine Nat.le_trans (countAlong_le ?_ _ _) hattempts
          intro s' e' hguess
          simp only [GuessAt, Bool.and_eq_true] at hguess
          exact hguess.1
        omega
  · have hzero : wrongWeight urlDecode sodium personId calls hash
        (after RowSystem.step
          (reachedBy urlDecode sodium personId calls db (pre ++ [e])) post) = 0 := by
      simp [wrongWeight, hwrong]
    omega

end Steps

theorem emailVerification (db : AuthDb) (es : List (VerificationEvent thread))
    (hrun : AccountRun urlDecode sodium personId account limit calls db es)
    (hfresh : FreshTokens sodium calls db)
    (hright : Along RowSystem.step (RightThroughLink urlDecode sodium personId limit calls)
      (verificationSystem urlDecode sodium personId calls db) es) :
    VerificationLaw urlDecode sodium personId limit calls db es := by
  constructor
  · intro pre post r r' _ hr hr' hperson
    exact Table.eq_of_clash EmailVerification.Clash.symm hr hr' (Or.inr hperson)
  · intro pre e post t reply hash hes hends hhash haccepted
    exact answered_step (sound_reached hrun hes) hends hhash haccepted
  · intro pre e post t hash hes haccepts
    exact haccepts.live (sound_reached hrun hes)
  · intro pre e mid e' post t t' hash hes haccepts haccepts'
    have hs := sound_reached hrun hes
    rcases haccepts.live hs with ⟨_, row, _, _, hrow, hcode, _⟩
    have hknown := pending_known hrun hes hrow
    rw [hcode] at hknown
    have hafter : reachedBy urlDecode sodium personId calls db (pre ++ e :: mid) =
        after RowSystem.step (RowSystem.step
          (reachedBy urlDecode sodium personId calls db pre) e) mid :=
      reachedBy_append _ _ _
    have hgone : Absent (systemLink personId (RowSystem.step
        (reachedBy urlDecode sodium personId calls db pre) e)) hash := by
      rcases haccepts with ⟨_, _, _, _, hnone⟩
      intro o l hl
      simp [systemLink, pendingLink, hnone] at hl
    have hsplit : es = (pre ++ [e]) ++ (mid ++ (e' :: post)) := by simp [hes]
    have hrefines := refines_reached_links hrun hsplit
    rw [reachedBy_append] at hrefines
    have habsent := absent_after hgone hrefines ((hknown.after [e]).neverIssues hfresh mid)
    have hsplit' : es = (pre ++ e :: mid) ++ (e' :: post) := by simp [hes]
    rcases haccepts'.live (sound_reached hrun hsplit') with
      ⟨_, row', _, _, hrow', hcode', _⟩
    rw [hafter] at hrow'
    exact habsent () ⟨row'.tokenHash, row'.expiresAt, row'.attempts⟩
      (systemLink_of_pending hrow') hcode'
  · intro pre e post t outcome h hash row hes hends hheld ht hhash hrow hwrong
    rw [reachedBy_append]
    exact (counted_step (sound_reached hrun hes) (rightHolder_reached hrun hright hes)
      hends hheld ht hhash hrow hwrong).2
  · intro pre e post hash expiresAt hes hissues
    exact bounded_reached hrun hright hfresh hes hissues

end Runs

/-!
# A wrong guess through either endpoint
-/

section SampleRuns

attribute [local instance] Citext.plain

def onePendingVerification : AuthDb :=
  { onePerson with
    emailVerifications :=
      { rows := [{ id := 1, personId := 1, tokenHash := "s1", expiresAt := 5000
                   attempts := 0 }]
        nextId := 2
        noClash := List.pairwise_singleton _ _ } }

def wrongSecret (viaLink : Bool) : VerificationCall where
  secrets := some (SecretsHelper.ofSettings [(Secrets.kEmailVerificationAttemptLimit, "5")])
  op := if viaLink then .activate "ann@example.com" "s2"
    else .verify "ann@example.com" "s2" "" ""

def guessStatements (viaLink : Bool) : List (VerificationEvent Bool) :=
  [.statement viaLink (Env.ofClock 1000 "a"), .statement viaLink (Env.ofClock 1001 "b"),
    .statement viaLink (Env.ofClock 1002 "c")]

/-- Through the activation link the guess is rolled back, so it is not counted. -/
theorem verificationLaw_fails :
    Not (VerificationLaw .ok Sodium.plain 1 5 wrongSecret onePendingVerification
      (guessStatements true ++ [.rollback true])) := by
  intro hlaw
  have hrow : pending (reachedBy .ok Sodium.plain 1 wrongSecret onePendingVerification
      (guessStatements true)).committed 1 =
        some { id := 1, personId := 1, tokenHash := "s1", expiresAt := 5000
               attempts := 0 } := by
    decide
  have hends : (reachedBy .ok Sodium.plain 1 wrongSecret onePendingVerification
      (guessStatements true)).Ends (.rollback true) true
        (.error (.runtimeError
          "PersonHelper::VerifyPersonEmail - Email verification failed.")) :=
    ⟨by decide, rfl, rfl⟩
  have hthread : (reachedBy .ok Sodium.plain 1 wrongSecret onePendingVerification
      (guessStatements true)).held.map (fun h => h.thread) = some true := by
    decide
  rcases Option.map_eq_some_iff.mp hthread with ⟨h, hheld, ht⟩
  have hcounted := hlaw.counted (guessStatements true) (.rollback true) [] true _ h "s2" _
    rfl hends hheld ht (by decide) hrow (by decide)
  have hafter : pending (reachedBy .ok Sodium.plain 1 wrongSecret onePendingVerification
      (guessStatements true ++ [.rollback true])).committed 1 =
        some { id := 1, personId := 1, tokenHash := "s1", expiresAt := 5000
               attempts := 0 } := by
    decide
  rw [hafter] at hcounted
  revert hcounted
  decide

/-- Through the endpoint it is committed. -/
theorem emailVerification_sample :
    VerificationLaw .ok Sodium.plain 1 5 (fun _ : Bool => wrongSecret false)
      onePendingVerification (guessStatements false ++ [.commit false]) := by
  apply emailVerification .ok Sodium.plain 1 "ann@example.com" 5 (fun _ => wrongSecret false)
    onePendingVerification (guessStatements false ++ [RowEvent.commit false])
  · constructor
    · show ownerOf onePendingVerification "ann@example.com" = some 1
      decide
    · intro t
      constructor
      · intro email hash hpresented
        have hemail : email = "ann@example.com" :=
          congrArg Prod.fst (Except.ok.inj hpresented).symm
        rw [hemail]
        decide
      · intro email tokenBytes hop
        cases hop
    · intro t helper db text v hhelper htext hv
      cases hhelper
      cases htext
      have hfive : stoi "5" = .ok 5 := by decide
      have hv' : v = 5 := Except.ok.inj (hv.symm.trans hfive)
      omega
    · intro change hchange
      simp [guessStatements] at hchange
  · refine ⟨Sodium.plain_injective, ?_, ?_⟩
    · intro t t' tokenBytes htoken
      cases htoken
    · intro t tokenBytes r htoken
      cases htoken
  · intro pre e post hes t i row hash he hlink
    cases hlink

end SampleRuns

end Auth
end ServerComponents
