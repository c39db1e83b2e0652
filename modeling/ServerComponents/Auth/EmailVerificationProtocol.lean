import ServerComponents.Auth.EmailVerifications
import ServerComponents.Protocols.OneTimeLink
import ServerComponents.Statements.RowLock

/-!
# The email-verification protocol

Any number of transactions that issue a verification secret to one account, or
present one through either endpoint, with their statements interleaved in any
order.  They compete for the account's verification row.  Whatever other
transactions do, they leave that row and the owner of the address alone.
-/

namespace ServerComponents
namespace Auth

open Relational Statements Protocols

section Protocol

variable [Citext]

inductive VerificationOp where
  | issue (personInfo : PersonInfo) (sendEmail : Bool) (tokenBytes : Blob)
  | issueByEmail (email : String) (tokenBytes : Blob)
  | verify (email encodedSecret ip userAgent : String)
  | activate (email base64EncodedActivationToken : String)

structure VerificationCall where
  secrets : SecretsHelperPtr
  op : VerificationOp

inductive VerificationReply where
  | issued
  | answered (reply : VerifyReply)
  | redirected (url : String)
  deriving Repr, DecidableEq

def VerificationReply.accepted : VerificationReply -> Bool
  | issued => false
  | answered reply => reply.answer = .verified
  | redirected _ => true

namespace VerificationCall

variable (urlDecode : UrlDecode) (sodium : Sodium)

/-- The transaction of a call.  The route of the activation link decodes its two
arguments once more. -/
def program (personId : Nat) (call : VerificationCall) : Sql VerificationReply :=
  match call.op with
  | .issue personInfo sendEmail tokenBytes => do
      let _ ← issueVerification sodium call.secrets tokenBytes personId personInfo sendEmail
      pure .issued
  | .issueByEmail email tokenBytes => do
      let _ ← EmailVerifications.addEmailVerificationByEmail call.secrets email
        (sodium.hashBinary tokenBytes)
      pure .issued
  | .verify email encodedSecret ip userAgent => do
      let reply ← verify urlDecode sodium call.secrets email encodedSecret ip userAgent
      pure (.answered reply)
  | .activate email token => do
      let email' ← Prog.ofExcept (urlDecode email)
      let token' ← Prog.ofExcept (urlDecode token)
      let url ← accountActivation urlDecode sodium call.secrets email' token'
      pure (.redirected url)

def presented (call : VerificationCall) : Except Exn (String × String) :=
  match call.op with
  | .verify email encodedSecret _ _ => decodeLink urlDecode sodium email encodedSecret
  | .activate email token => do
      let email' ← urlDecode email
      let token' ← urlDecode token
      decodeLink urlDecode sodium email' token'
  | _ => .error (.runtimeError "nothing presented")

def secretHash? (call : VerificationCall) : Option String :=
  (call.presented urlDecode sodium).toOption.map Prod.snd

def tokenBytes? (call : VerificationCall) : Option Blob :=
  match call.op with
  | .issue _ _ tokenBytes => some tokenBytes
  | .issueByEmail _ tokenBytes => some tokenBytes
  | _ => none

def issuedHash? (call : VerificationCall) : Option String :=
  call.tokenBytes?.map sodium.hashBinary

def viaLink (call : VerificationCall) : Bool :=
  match call.op with
  | .activate _ _ => true
  | _ => false

def Concerns (account : String) (call : VerificationCall) : Prop :=
  (forall email hash, call.presented urlDecode sodium = .ok (email, hash) ->
    sameEmail email account = true) ∧
  (forall email tokenBytes, call.op = .issueByEmail email tokenBytes ->
    sameEmail email account = true)

def LimitedBy (limit : Nat) (call : VerificationCall) : Prop :=
  forall helper db text v, call.secrets = some helper ->
    helper.lookupSecret db Secrets.kEmailVerificationAttemptLimit = .ok text ->
    stoi text = .ok v -> v ≤ limit

end VerificationCall

/-!
# The account's verification row
-/

def pending (db : AuthDb) (personId : Nat) : Option EmailVerification :=
  db.emailVerifications.find? (fun r => r.personId == personId)

def ownerOf (db : AuthDb) (account : String) : Option Nat :=
  (People.personByEmail db account).map Person.id

def verificationKey (personId : Nat) (account : String) (db : AuthDb) :
    Option EmailVerification × Option Nat :=
  (pending db personId, ownerOf db account)

section Rows

variable {db db' : AuthDb} {personId : Nat} {account : String}

theorem pending_some {row : EmailVerification} (h : pending db personId = some row) :
    row ∈ db.emailVerifications.rows ∧ row.personId = personId := by
  rcases Table.find?_some h with ⟨hmem, hsel⟩
  exact ⟨hmem, by simpa using hsel⟩

theorem pending_of_mem {row : EmailVerification} (hmem : row ∈ db.emailVerifications.rows)
    (hperson : row.personId = personId) : pending db personId = some row := by
  cases hfind : pending db personId with
  | none =>
      have hnot := Table.find?_none hfind hmem
      simp [hperson] at hnot
  | some row' =>
      rcases pending_some hfind with ⟨hmem', hperson'⟩
      rw [Table.eq_of_clash EmailVerification.Clash.symm hmem' hmem
        (Or.inr (hperson'.trans hperson.symm))]

theorem claimAttempt_cases {limit : Int} {env : Env} {reply : Option EmailVerification}
    (h : (do
      let (rows, table) ← orUniqueViolation (db.emailVerifications.update?
        (EmailVerifications.Claimable personId limit env.now) EmailVerifications.claimed)
      pure (rows.head?, { db with emailVerifications := table }) :
        Except Exn (Option EmailVerification × AuthDb)) = .ok (reply, db')) :
    (reply = none ∧ db' = db) ∨
      exists row, pending db personId = some row ∧
        EmailVerifications.Claimable personId limit env.now row = true ∧
        reply = some (EmailVerifications.claimed row) ∧
        pending db' personId = some (EmailVerifications.claimed row) ∧
        db'.people = db.people := by
  cases hupdate : db.emailVerifications.update?
      (EmailVerifications.Claimable personId limit env.now) EmailVerifications.claimed with
  | none => simp [hupdate, orUniqueViolation, bind, Except.bind] at h
  | some pair =>
      simp only [hupdate, orUniqueViolation, bind, Except.bind, pure, Except.pure] at h
      rcases Table.update?_some hupdate with ⟨hchanged, hrows, hnext⟩
      cases hfilter : db.emailVerifications.rows.filter
          (EmailVerifications.Claimable personId limit env.now) with
      | nil =>
          left
          have hnone : forall r, r ∈ db.emailVerifications.rows ->
              EmailVerifications.Claimable personId limit env.now r = false := by
            intro r hr
            have hnot := List.filter_eq_nil_iff.mp hfilter r hr
            simpa using hnot
          have hsame : pair.2 = db.emailVerifications := by
            apply Table.eq_of_rows _ hnext
            rw [hrows]
            conv => rhs; rw [← List.map_id db.emailVerifications.rows]
            apply List.map_congr_left
            intro r hr
            simp [hnone r hr]
          cases h
          rw [hchanged, hfilter, hsame]
          exact ⟨rfl, rfl⟩
      | cons row rest =>
          right
          have hrow : row ∈ db.emailVerifications.rows ∧
              EmailVerifications.Claimable personId limit env.now row = true := by
            have hmem : row ∈ db.emailVerifications.rows.filter
                (EmailVerifications.Claimable personId limit env.now) := by
              simp [hfilter]
            exact List.mem_filter.mp hmem
          have hperson : row.personId = personId := by
            have hsel := hrow.2
            simp only [EmailVerifications.Claimable, Bool.and_eq_true, beq_iff_eq] at hsel
            exact hsel.1.1
          have hreply : reply = some (EmailVerifications.claimed row) := by
            cases h
            simp [hchanged, hfilter]
          have hclaimed : EmailVerifications.claimed row ∈ pair.2.rows := by
            rw [hrows, List.mem_map]
            exact ⟨row, hrow.1, by simp [hrow.2]⟩
          cases h
          exact ⟨row, pending_of_mem hrow.1 hperson, hrow.2, hreply,
            pending_of_mem hclaimed hperson, rfl⟩

theorem keeps_verifyPersonEmail {email : String} {returns : Except Exn Unit -> Prop}
    (h : forall outcome, returns outcome) :
    Prog.Keeps (verificationKey personId account) returns
      (People.verifyPersonEmail email) := by
  unfold People.verifyPersonEmail
  apply Prog.keeps_bind
  apply Prog.readOnly_ask.keeps
  intro outcome
  cases outcome with
  | error err => exact h _
  | ok person =>
      cases person with
      | none => exact h _
      | some p =>
          dsimp only
          split
          · exact h _
          · apply Prog.keeps_exec _ (fun _ _ _ _ => h _)
            intro env db reply version hwrite
            refine ⟨?_, h _⟩
            cases hupdate : db.people.update? (fun r => sameEmail r.email email)
                (People.markVerified env) with
            | none => simp [hupdate, orUniqueViolation, bind, Except.bind] at hwrite
            | some pair =>
                simp only [hupdate, orUniqueViolation, bind, Except.bind, pure,
                  Except.pure] at hwrite
                have hrows := (Table.update?_some hupdate).2.1
                cases hwrite
                have hfind : pair.2.find? (fun r => sameEmail r.email account) = _ :=
                  Table.find?_map hrows (by
                    intro r _
                    cases sameEmail r.email email <;> rfl)
                have howner : ownerOf { db with people := pair.2 } account =
                    ownerOf db account := by
                  simp only [ownerOf, People.personByEmail, hfind, Option.map_map]
                  congr 1
                  funext r
                  cases hsel : sameEmail r.email email <;>
                    simp [hsel, People.markVerified]
                simp only [verificationKey, howner]
                rfl

end Rows

/-!
# What the transactions do
-/

section Effects

variable (personId : Nat) (account : String) (limit : Nat)

def Owned (db : AuthDb) : Prop := ownerOf db account = some personId

/-- The presented hash has been compared with a live row; the attempt counts, or the
right secret has consumed the row. -/
structure Compared (hash : String) (base : AuthDb) (env : Env) (final : AuthDb)
    (row : EmailVerification) : Prop where
  owned : Owned personId account final
  before : pending base personId = some row
  attempts_lt : row.attempts < limit
  unexpired : (env.now : Int) < row.expiresAt
  after : pending final personId =
    if row.tokenHash = hash then none else some (EmailVerifications.claimed row)

def PresentEffect {a : Type} (right wrong : Except Exn a -> Prop) (hash : String)
    (base : AuthDb) (env : Env) (outcome : Except Exn a) (final : AuthDb) : Prop :=
  exists row, Compared personId account limit hash base env final row ∧
    if row.tokenHash = hash then right outcome else wrong outcome

def IssueEffect {a : Type} (hash : String) (_ : AuthDb) (_ : Env)
    (outcome : Except Exn a) (final : AuthDb) : Prop :=
  Owned personId account final ∧
    forall reply, outcome = .ok reply ->
      exists row, pending final personId = some row ∧ row.tokenHash = hash ∧
        row.attempts = 0

/-- The first change of the transaction compares the hash with the pending row. -/
abbrev Presents {a : Type} (hash : String) (right wrong idle : Except Exn a -> Prop)
    (p : Sql a) : Prop :=
  Prog.Transacts (verificationKey personId account) (Owned personId account)
    (PresentEffect personId account limit right wrong hash) idle p

abbrev Fails {a : Type} (outcome : Except Exn a) : Prop := exists err, outcome = .error err

variable {personId account limit} {secrets : SecretsHelperPtr} {hash email : String}

def AttemptsLimited (secrets : SecretsHelperPtr) (limit : Nat) : Prop :=
  forall helper db text v, secrets = some helper ->
    helper.lookupSecret db Secrets.kEmailVerificationAttemptLimit = .ok text ->
    stoi text = .ok v -> v ≤ limit

theorem transacts_lookupAttemptLimit {effect : AuthDb -> Env -> Except Exn Int ->
      AuthDb -> Prop} {idle : Except Exn Int -> Prop}
    (hlimit : AttemptsLimited secrets limit)
    (herror : forall err, idle (.error err))
    (hok : forall v : Int, v ≤ limit -> idle (.ok v)) :
    Prog.Transacts (verificationKey personId account) (Owned personId account) effect idle
      (EmailVerifications.lookupAttemptLimit secrets) := by
  cases secrets with
  | none => exact herror _
  | some helper =>
      apply Prog.transacts_bind
      apply Prog.transacts_ask
      intro env db _
      cases hval : helper.lookupSecret db Secrets.kEmailVerificationAttemptLimit with
      | error err => exact herror err
      | ok val =>
          dsimp only
          split
          · exact herror _
          · apply Prog.transacts_ofExcept
            cases hread : stoi val with
            | error err => exact herror err
            | ok v => exact hok v (hlimit helper db val v rfl hval hread)

variable {row : EmailVerification}

theorem pending_delete {db : AuthDb} (h : pending db personId = some row) :
    pending { db with emailVerifications :=
      db.emailVerifications.delete (fun r => r.id == row.id) } personId = none := by
  cases hfind : pending { db with emailVerifications :=
      db.emailVerifications.delete (fun r => r.id == row.id) } personId with
  | none => rfl
  | some row' =>
      rcases pending_some hfind with ⟨hmem, hperson⟩
      rcases (Table.mem_delete _ _ _).mp hmem with ⟨hmem', hid⟩
      have hsame := pending_of_mem hmem' hperson
      rw [h] at hsame
      cases hsame
      simp at hid

theorem key_eq {db db' : AuthDb}
    (h : verificationKey personId account db' = verificationKey personId account db) :
    pending db' personId = pending db personId ∧ ownerOf db' account = ownerOf db account := by
  simpa [verificationKey] using h

theorem owner_eq {db : AuthDb} {person : Person} (hsame : sameEmail email account = true)
    (howned : Owned personId account db) (h : People.personByEmail db email = some person) :
    person.id = personId := by
  rw [People.personByEmail_congr hsame] at h
  simpa [Owned, ownerOf, h] using howned

theorem locked_compare {base db : AuthDb} {env : Env}
    {attemptLimit : Int} {person : Nat} (hrow : pending base personId = some row)
    (hattempts : row.attempts < limit) (hexpiry : (env.now : Int) < row.expiresAt)
    (howned : Owned personId account db)
    (hclaimed : pending db personId = some (EmailVerifications.claimed row)) :
    Prog.Locked (verificationKey personId account)
      (PresentEffect personId account limit (fun outcome => outcome = .ok true)
        (fun outcome => outcome = .ok false) hash base env)
      (if (EmailVerifications.claimed row).tokenHash = hash then do
        EmailVerifications.deleteEmailVerification (EmailVerifications.claimed row).id
        pure true
      else do
        if attemptLimit ≤ (EmailVerifications.claimed row).attempts then
          AdminAlerts.addAdminAlert
            ("Email verification attempt limit reached for person_id=" ++
              toString person ++ " email=" ++ email)
        pure false) db := by
  split
  · rename_i hright
    have hcode : row.tokenHash = hash := hright
    apply Prog.locked_bind
    apply Prog.locked_exec
    · intro env' s' reply version s'' hkey hwrite hkey' final hfinal
      cases hwrite
      rcases key_eq hkey with ⟨hpending, howner⟩
      rcases key_eq (hfinal.trans hkey') with ⟨hpending', howner'⟩
      refine ⟨row, ⟨?_, hrow, hattempts, hexpiry, ?_⟩, ?_⟩
      · rw [Owned, howner']
        exact howner.trans howned
      · rw [hpending', if_pos hcode]
        exact pending_delete (hpending.trans hclaimed)
      · rw [if_pos hcode]
    · intro env' s' err s'' _ hwrite
      cases hwrite
  · rename_i hwrong
    have hcode : row.tokenHash ≠ hash := hwrong
    have hkeeps : Prog.Keeps (verificationKey personId account)
        (fun outcome => outcome = .ok false) (do
          if attemptLimit ≤ (EmailVerifications.claimed row).attempts then
            AdminAlerts.addAdminAlert
              ("Email verification attempt limit reached for person_id=" ++
                toString person ++ " email=" ++ email)
          pure false) := by
      split
      · apply Prog.keeps_bind
        apply Prog.keeps_exec
        · intro env' s' reply version hwrite
          cases hwrite
          exact ⟨rfl, rfl⟩
        · intro env' s' err hwrite
          cases hwrite
      · rfl
    apply hkeeps.locked
    intro outcome final hkey houtcome
    rcases key_eq hkey with ⟨hpending, howner⟩
    refine ⟨row, ⟨?_, hrow, hattempts, hexpiry, ?_⟩, ?_⟩
    · exact howner.trans howned
    · rw [if_neg hcode]
      exact hpending.trans hclaimed
    · rw [if_neg hcode]
      exact houtcome

theorem transacts_doEmailVerification (hsame : sameEmail email account = true)
    (hlimit : AttemptsLimited secrets limit) :
    Presents personId account limit hash (fun outcome => outcome = .ok true)
      (fun outcome => outcome = .ok false) (fun outcome => outcome ≠ .ok true)
      (EmailVerifications.doEmailVerification secrets email hash) := by
  apply Prog.transacts_bind
  apply Prog.transacts_ask
  intro env db howned
  cases hfind : People.personByEmail db email with
  | none => simp [Prog.Transacts]
  | some person =>
      have hperson := owner_eq hsame howned hfind
      dsimp only
      rw [hperson]
      apply Prog.transacts_bind
      apply transacts_lookupAttemptLimit hlimit
      · intro err
        simp
      intro attemptLimit hbound
      apply Prog.transacts_bind
      apply Prog.transacts_exec
      · intro env base reply version howned hwrite
        rcases claimAttempt_cases hwrite with
          ⟨hreply, hversion⟩ | ⟨row, hrow, hclaim, hreply, hafter, hpeople⟩
        · rw [hreply, hversion]
          constructor
          · intro _
            simp [Prog.Transacts]
          · intro hne
            exact absurd rfl hne
        · constructor
          · intro hversion
            rw [hversion, hrow] at hafter
            have hattempts := congrArg (fun r => r.map EmailVerification.attempts) hafter
            simp [EmailVerifications.claimed] at hattempts
          · intro _ s' hkey
            rcases key_eq hkey with ⟨hpending, howner⟩
            have howned' : Owned personId account s' := by
              rw [Owned, howner, ownerOf, People.personByEmail, hpeople]
              exact howned
            simp only [EmailVerifications.Claimable, Bool.and_eq_true,
              decide_eq_true_eq] at hclaim
            rw [hreply]
            exact locked_compare hrow (by omega) hclaim.2 howned' (hpending.trans hafter)
      · intro err
        simp

theorem Compared.of_key {base final final' : AuthDb} {env : Env}
    (h : Compared personId account limit hash base env final row)
    (hkey : verificationKey personId account final' =
      verificationKey personId account final) :
    Compared personId account limit hash base env final' row := by
  rcases key_eq hkey with ⟨hpending, howner⟩
  exact ⟨howner.trans h.owned, h.before, h.attempts_lt, h.unexpired, hpending.trans h.after⟩

theorem PresentEffect.locked {a b : Type} {right wrong : Except Exn a -> Prop}
    {right' wrong' : Except Exn b -> Prop} {base final : AuthDb} {env : Env}
    {outcome : Except Exn a} {p : Sql b}
    (h : PresentEffect personId account limit right wrong hash base env outcome final)
    (hright : right outcome -> Prog.Keeps (verificationKey personId account) right' p)
    (hwrong : wrong outcome -> Prog.Keeps (verificationKey personId account) wrong' p) :
    Prog.Locked (verificationKey personId account)
      (PresentEffect personId account limit right' wrong' hash base env) p final := by
  rcases h with ⟨row, hcompared, hanswer⟩
  by_cases hcode : row.tokenHash = hash
  · rw [if_pos hcode] at hanswer
    apply (hright hanswer).locked
    intro outcome' final' hkey houtcome
    exact ⟨row, hcompared.of_key hkey, by rw [if_pos hcode]; exact houtcome⟩
  · rw [if_neg hcode] at hanswer
    apply (hwrong hanswer).locked
    intro outcome' final' hkey houtcome
    exact ⟨row, hcompared.of_key hkey, by rw [if_neg hcode]; exact houtcome⟩

theorem transacts_present_bind {a b : Type} {right wrong : Except Exn a -> Prop}
    {right' wrong' idle' : Except Exn b -> Prop} {idle : Except Exn a -> Prop}
    {p : Sql a} {f : a -> Sql b}
    (hp : Presents personId account limit hash right wrong idle p)
    (hright : forall value, right (.ok value) ->
      Prog.Keeps (verificationKey personId account) right' (f value))
    (hwrong : forall value, wrong (.ok value) ->
      Prog.Keeps (verificationKey personId account) wrong' (f value))
    (herrorRight : forall err, right (.error err) -> right' (.error err))
    (herrorWrong : forall err, wrong (.error err) -> wrong' (.error err))
    (hidle : forall outcome, idle outcome ->
      match outcome with
      | .ok value => Presents personId account limit hash right' wrong' idle' (f value)
      | .error err => idle' (.error err)) :
    Presents personId account limit hash right' wrong' idle' (p.bind f) := by
  apply Prog.transacts_bind
  apply hp.mono
  · intro base env outcome final heffect
    cases outcome with
    | ok value => exact heffect.locked (hright value) (hwrong value)
    | error err =>
        rcases heffect with ⟨row, hcompared, hanswer⟩
        refine ⟨row, hcompared, ?_⟩
        split
        · rename_i hcode
          rw [if_pos hcode] at hanswer
          exact herrorRight err hanswer
        · rename_i hcode
          rw [if_neg hcode] at hanswer
          exact herrorWrong err hanswer
  · intro outcome h
    have hrest := hidle outcome h
    cases outcome <;> exact hrest

theorem transacts_verifyPersonEmail {urlDecode : UrlDecode} {sodium : Sodium}
    {emailEncoded encodedSecret : String}
    (hlink : decodeLink urlDecode sodium emailEncoded encodedSecret = .ok (email, hash))
    (hsame : sameEmail email account = true)
    (hlimit : AttemptsLimited secrets limit) :
    Presents personId account limit hash (fun _ => True) Fails Fails
      (verifyPersonEmail urlDecode sodium secrets emailEncoded encodedSecret) := by
  simp only [verifyPersonEmail, hlink]
  apply transacts_present_bind (transacts_doEmailVerification hsame hlimit)
  · intro matched hmatched
    cases hmatched
    exact keeps_verifyPersonEmail (fun _ => trivial)
  · intro matched hmatched
    cases hmatched
    exact ⟨_, rfl⟩
  · intro err _
    exact trivial
  · intro err _
    exact ⟨err, rfl⟩
  · intro outcome hidle
    cases outcome with
    | error err => exact ⟨err, rfl⟩
    | ok matched =>
        cases matched with
        | true => exact absurd rfl hidle
        | false => exact ⟨_, rfl⟩

theorem transacts_present_tryCatch {a : Type} {right wrong right' wrong' : Except Exn a -> Prop}
    {idle idle' : Except Exn a -> Prop} {p : Sql a} {handler : Exn -> Sql a}
    (hp : Presents personId account limit hash right wrong idle p)
    (hright : forall value, right (.ok value) -> right' (.ok value))
    (hwrong : forall value, wrong (.ok value) -> wrong' (.ok value))
    (herrorRight : forall err, right (.error err) ->
      Prog.Keeps (verificationKey personId account) right' (handler err))
    (herrorWrong : forall err, wrong (.error err) ->
      Prog.Keeps (verificationKey personId account) wrong' (handler err))
    (hidle : forall outcome, idle outcome ->
      match outcome with
      | .ok value => idle' (.ok value)
      | .error err => Presents personId account limit hash right' wrong' idle' (handler err)) :
    Presents personId account limit hash right' wrong' idle' (p.tryCatch handler) := by
  apply Prog.transacts_tryCatch
  apply hp.mono
  · intro base env outcome final heffect
    cases outcome with
    | error err => exact heffect.locked (herrorRight err) (herrorWrong err)
    | ok value =>
        rcases heffect with ⟨row, hcompared, hanswer⟩
        refine ⟨row, hcompared, ?_⟩
        split
        · rename_i hcode
          rw [if_pos hcode] at hanswer
          exact hright value hanswer
        · rename_i hcode
          rw [if_neg hcode] at hanswer
          exact hwrong value hanswer
  · intro outcome h
    have hrest := hidle outcome h
    cases outcome <;> exact hrest

theorem keeps_recordVerified {ip userAgent detail : String}
    {returns : Except Exn VerifyReply -> Prop} (h : forall outcome, returns outcome) :
    Prog.Keeps (verificationKey personId account) returns
      ((verifiedPersonId email).bind (fun person =>
        (AuthEvents.recordEvent .emailVerified person ip userAgent detail).bind (fun _ =>
          .done { answer := .verified, recorded := some true }))) := by
  have hread : Prog.ReadOnly (verifiedPersonId email) :=
    Prog.ReadOnly.tryCatch (Prog.ReadOnly.bind Prog.readOnly_ask (fun _ => trivial))
      (fun _ => trivial)
  apply Prog.keeps_bind
  apply hread.keeps
  intro outcome
  cases outcome with
  | error err => exact h _
  | ok person =>
      apply Prog.keeps_bind
      apply Prog.keeps_exec
      · intro env db reply version hwrite
        cases hwrite
        exact ⟨rfl, h _⟩
      · intro env db err _
        exact h _

/-- Whatever keeps the rows may follow on a verified address; a wrong secret ends in an
exception. -/
theorem transacts_verified {a : Type} {urlDecode : UrlDecode} {sodium : Sodium}
    {emailText encodedSecret : String} {next : Unit -> Sql a}
    (hlink : decodeLink urlDecode sodium emailText encodedSecret = .ok (email, hash))
    (hsame : sameEmail email account = true)
    (hlimit : AttemptsLimited secrets limit)
    (hnext : forall value, Prog.Keeps (verificationKey personId account) (fun _ => True)
      (next value)) :
    Presents personId account limit hash (fun _ => True) Fails Fails
      ((verifyPersonEmail urlDecode sodium secrets emailText encodedSecret).bind next) := by
  apply transacts_present_bind (transacts_verifyPersonEmail hlink hsame hlimit)
  · exact fun value _ => hnext value
  · intro _ h
    rcases h with ⟨err, h⟩
    cases h
  · exact fun _ _ => trivial
  · exact fun err _ => ⟨err, rfl⟩
  · intro outcome h
    rcases h with ⟨err, h⟩
    rw [h]
    exact ⟨err, rfl⟩

theorem transacts_verify {urlDecode : UrlDecode} {sodium : Sodium}
    {emailText encodedSecret ip userAgent : String}
    (hlink : decodeLink urlDecode sodium emailText encodedSecret = .ok (email, hash))
    (hsame : sameEmail email account = true)
    (hlimit : AttemptsLimited secrets limit) :
    Presents personId account limit hash (fun _ => True)
      (fun outcome => outcome = .ok { answer := .rejected, recorded := some false })
      (fun outcome => forall reply, outcome = .ok reply -> reply.answer ≠ .verified)
      (verify urlDecode sodium secrets emailText encodedSecret ip userAgent) := by
  apply Prog.transacts_bind
  apply (LoginGate.readOnly_checkBeforeByIp secrets _ _ _ _ _ ip).transacts
  intro gate
  cases gate with
  | error err =>
      intro reply hreply
      cases hreply
  | ok gate =>
      dsimp only
      split
      · intro reply hreply
        cases hreply
        simp
      · have hanswered : Presents personId account limit hash (fun _ => True)
            (fun outcome => outcome = .ok false) (fun outcome => outcome = .ok false)
            (((verifyPersonEmail urlDecode sodium secrets emailText encodedSecret).bind
              (fun _ => .done true)).tryCatch (fun _ => .done false)) := by
          have hverified : Presents personId account limit hash (fun _ => True) Fails Fails
              ((verifyPersonEmail urlDecode sodium secrets emailText encodedSecret).bind
                (fun _ => .done true)) := by
            exact transacts_verified hlink hsame hlimit (fun _ => trivial)
          apply transacts_present_tryCatch hverified
          · exact fun _ _ => trivial
          · intro value h
            rcases h with ⟨err, h⟩
            cases h
          · exact fun _ _ => trivial
          · exact fun _ _ => rfl
          · intro outcome h
            rcases h with ⟨err, h⟩
            rw [h]
            exact rfl
        apply transacts_present_bind hanswered
        · intro success _
          cases success with
          | true => exact keeps_recordVerified (fun _ => trivial)
          | false => exact trivial
        · intro success hfalse
          cases hfalse
          exact rfl
        · exact fun _ _ => trivial
        · intro err h
          cases h
        · intro outcome h
          rw [h]
          intro reply hreply
          cases hreply
          simp

theorem readOnly_activationAddress (helper : SecretsHelper) :
    Prog.ReadOnly ((lookupSecret helper Secrets.kWebsiteAddressLogin).bind
      (fun url => (lookupSecret helper Secrets.kWebsiteLoginLink).bind
        (fun link => .done (url ++ link)))) :=
  Prog.ReadOnly.bind Prog.readOnly_ask (fun _ =>
    Prog.ReadOnly.bind Prog.readOnly_ask (fun _ => trivial))

theorem transacts_accountActivation {urlDecode : UrlDecode} {sodium : Sodium}
    {emailText token : String}
    (hlink : decodeLink urlDecode sodium emailText token = .ok (email, hash))
    (hsame : sameEmail email account = true)
    (hlimit : AttemptsLimited secrets limit) :
    Presents personId account limit hash (fun _ => True) Fails Fails
      (accountActivation urlDecode sodium secrets emailText token) := by
  apply transacts_verified hlink hsame hlimit
  intro _
  cases secrets with
  | none => exact trivial
  | some helper => exact (readOnly_activationAddress helper).keeps (fun _ => trivial)

theorem insertVerification_effect {db version : AuthDb} {env : Env} {expiresAt : Int}
    {reply : Nat} (howned : Owned personId account db)
    (h : (do
      let (row, table) ← orUniqueViolation (db.emailVerifications.insert? (fun id =>
        { id := id, personId := personId, tokenHash := hash
          expiresAt := expiresAt, attempts := 0 }))
      pure (row.id, { db with emailVerifications := table }) : Except Exn (Nat × AuthDb)) =
        .ok (reply, version)) :
    version ≠ db ∧ forall (base : AuthDb) (outcome : Except Exn Nat) final,
      verificationKey personId account final = verificationKey personId account version ->
      IssueEffect personId account hash base env outcome final := by
  cases hinsert : db.emailVerifications.insert? (fun id =>
      { id := id, personId := personId, tokenHash := hash
        expiresAt := expiresAt, attempts := 0 }) with
  | none => simp [hinsert, orUniqueViolation, bind, Except.bind] at h
  | some pair =>
      simp only [hinsert, orUniqueViolation, bind, Except.bind, pure, Except.pure] at h
      rcases Table.insert?_some hinsert with ⟨hrow, hrows, _⟩
      cases h
      constructor
      · intro hsame
        have hlength := congrArg (fun db => db.emailVerifications.rows.length) hsame
        simp [hrows] at hlength
      · intro base outcome final hkey
        rcases key_eq hkey with ⟨hpending, howner⟩
        constructor
        · rw [Owned, howner]
          exact howned
        · intro reply _
          refine ⟨pair.1, ?_, by rw [hrow], by rw [hrow]⟩
          rw [hpending]
          apply pending_of_mem
          · simp [hrows]
          · rw [hrow]

theorem IssueEffect.of_key {a b : Type} {base final final' : AuthDb} {env : Env} {value : a}
    (h : IssueEffect personId account hash base env (.ok value) final)
    (hkey : verificationKey personId account final' = verificationKey personId account final)
    (outcome : Except Exn b) : IssueEffect personId account hash base env outcome final' := by
  rcases key_eq hkey with ⟨hpending, howner⟩
  rcases h.2 value rfl with ⟨row, hrow, hrest⟩
  exact ⟨howner.trans h.1, fun _ _ => ⟨row, hpending.trans hrow, hrest⟩⟩

theorem readOnly_lookupRequired (caller name : String) (read : String -> Except Exn Int) :
    Prog.ReadOnly (EmailVerifications.lookupRequired secrets caller name read) := by
  cases secrets with
  | none => exact trivial
  | some helper =>
      apply Prog.ReadOnly.bind Prog.readOnly_ask
      intro val
      split
      · exact trivial
      · exact Prog.readOnly_ofExcept

theorem transacts_addEmailVerificationById :
    Prog.Transacts (verificationKey personId account) (Owned personId account)
      (IssueEffect personId account hash) Fails
      (EmailVerifications.addEmailVerificationById secrets personId hash) := by
  have hwindow := @readOnly_lookupRequired _ secrets "LookupExpirationWindowMicros"
    Secrets.kEmailVerificationExpirationWindowInMicros stoll
  apply Prog.transacts_bind
  apply Prog.transacts_exec
  · intro env base reply version howned hwrite
    constructor
    · intro _
      apply Prog.transacts_bind
      apply Prog.transacts_ask
      intro _ _ _
      apply Prog.transacts_bind
      apply hwindow.transacts
      intro outcome
      cases outcome with
      | error err => exact ⟨err, rfl⟩
      | ok windowMicros =>
          apply Prog.transacts_exec
          · intro env' db id version' howned' hwrite'
            rcases insertVerification_effect howned' hwrite' with ⟨hne, heffect⟩
            exact ⟨fun hsame => absurd hsame hne, fun _ final hkey =>
              heffect _ _ final hkey⟩
          · intro err
            exact ⟨err, rfl⟩
    · intro _ db hkey
      cases hwrite
      rcases key_eq hkey with ⟨_, howner⟩
      have howned' : Owned personId account db := howner.trans howned
      apply Prog.locked_bind
      apply Prog.readOnly_ask.locked
      intro outcome db' hkey'
      cases outcome with
      | error err => exact ⟨(key_eq hkey').2.trans howned', fun _ h => by cases h⟩
      | ok nowMicros =>
          apply Prog.locked_bind
          apply hwindow.locked
          intro outcome' db'' hkey''
          have howner'' := (key_eq (hkey''.trans hkey')).2
          cases outcome' with
          | error err => exact ⟨howner''.trans howned', fun _ h => by cases h⟩
          | ok windowMicros =>
              apply Prog.locked_exec
              · intro env' db3 id version final hkey3 hwrite' hfinal
                have howned3 : Owned personId account db3 :=
                  ((key_eq hkey3).2.trans howner'').trans howned'
                exact (insertVerification_effect howned3 hwrite').2 _ _ final hfinal
              · intro env' db3 err final hkey3 _ hfinal
                refine ⟨?_, fun _ h => by cases h⟩
                exact ((key_eq (hfinal.trans hkey3)).2.trans howner'').trans howned'
  · intro err
    exact ⟨err, rfl⟩

theorem readOnly_composeVerifyMail (helper : SecretsHelper) (personInfo : PersonInfo)
    (secret : String) : Prog.ReadOnly (composeVerifyMail helper personInfo secret) := by
  unfold composeVerifyMail
  iterate 6
    apply Prog.ReadOnly.bind Prog.readOnly_ask
    intro _
  exact trivial

theorem transacts_issue_bind {a b : Type} {p : Sql a} {f : a -> Sql b}
    (hp : Prog.Transacts (verificationKey personId account) (Owned personId account)
      (IssueEffect personId account hash) Fails p)
    (hread : forall value, Prog.ReadOnly (f value)) :
    Prog.Transacts (verificationKey personId account) (Owned personId account)
      (IssueEffect personId account hash) Fails
      (p.bind f) := by
  apply Prog.transacts_bind
  apply hp.mono
  · intro base env outcome final heffect
    cases outcome with
    | ok value =>
        apply (hread value).locked
        intro outcome' final' hkey
        exact heffect.of_key hkey outcome'
    | error err => exact ⟨heffect.1, fun _ h => by cases h⟩
  · intro outcome h
    rcases h with ⟨err, h⟩
    rw [h]
    exact ⟨err, rfl⟩

theorem transacts_issueVerification {sodium : Sodium} {tokenBytes : Blob}
    {personInfo : PersonInfo} {sendEmail : Bool} :
    Prog.Transacts (verificationKey personId account) (Owned personId account)
      (IssueEffect personId account (sodium.hashBinary tokenBytes))
      Fails
      (issueVerification sodium secrets tokenBytes personId personInfo sendEmail) := by
  apply transacts_issue_bind transacts_addEmailVerificationById
  intro _
  split
  · exact (readOnly_composeVerifyMail _ _ _).bind (fun _ => trivial)
  · exact trivial

theorem transacts_addEmailVerificationByEmail (hsame : sameEmail email account = true) :
    Prog.Transacts (verificationKey personId account) (Owned personId account)
      (IssueEffect personId account hash) Fails
      (EmailVerifications.addEmailVerificationByEmail secrets email hash) := by
  apply Prog.transacts_bind
  apply Prog.transacts_ask
  intro env db howned
  cases hfind : People.personByEmail db email with
  | none => exact ⟨_, rfl⟩
  | some person =>
      dsimp only
      rw [owner_eq hsame howned hfind]
      exact transacts_addEmailVerificationById

end Effects

end Protocol

end Auth
end ServerComponents
