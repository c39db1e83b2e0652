import ServerComponents.Auth.EmailVerificationProtocol
import ServerComponents.Auth.UserInfo

/-!
# Verified addresses

A run is any sequence of registrations, administrative creations, presentations,
resets and profile updates, each a transaction.  The history records which secret
was mailed to which address and which of them came back.
-/

namespace ServerComponents
namespace Auth

open Relational Statements Rest

section Calls

variable [Citext]

inductive AccountOp where
  | register (personInfo : PersonInfo) (password : String) (salt tokenBytes : Blob)
  | createFullyValidatedUser (personInfo : PersonInfo) (password : String) (salt : Blob)
  | verify (email encodedSecret ip userAgent : String)
  | activate (email base64EncodedActivationToken : String)
  | requestReset (email : String) (secretBytes : Blob)
  | completeReset (email secret newPassword : String) (salt : Blob)
  | updateInfo (email : String) (personInfo : PersonInfo)
  | setUserInfo (sessionPersonId : Int) (message : Json)

structure AccountCall where
  env : Env
  secrets : SecretsHelperPtr
  op : AccountOp

inductive AccountReply where
  | registered (mail : Option VerifyMail)
  | created
  | verified (reply : VerifyReply)
  | activated (url : String)
  | resetRequested (result : ResetRequested)
  | resetCompleted (result : PasswordResetResult)
  | updated (changed : Bool)
  | answered (answer : SetUserInfoAnswer)

namespace AccountReply

def mailedTo? : AccountReply -> Option String
  | registered mail => mail.map (fun m => m.personInfo.email)
  | resetRequested result => result.mail.map PasswordResetMail.email
  | _ => none

def accepted : AccountReply -> Bool
  | verified reply => reply.answer = .verified
  | activated _ => true
  | resetCompleted result => result.outcome = .success
  | _ => false

end AccountReply

namespace AccountCall

variable (urlDecode : UrlDecode) (sodium : Sodium)

/-- Registration and the request of a reset always mail, as their endpoints do. -/
def program (call : AccountCall) : Sql AccountReply :=
  match call.op with
  | .register personInfo password salt tokenBytes => do
      let mail ← preliminaryRegisterPerson sodium call.secrets salt tokenBytes personInfo
        password true
      pure (.registered mail)
  | .createFullyValidatedUser personInfo password salt => do
      Auth.createFullyValidatedUser sodium call.secrets salt personInfo password
      pure .created
  | .verify email encodedSecret ip userAgent => do
      let reply ← Auth.verify urlDecode sodium call.secrets email encodedSecret ip userAgent
      pure (.verified reply)
  | .activate email token => do
      let url ← accountActivation urlDecode sodium call.secrets email token
      pure (.activated url)
  | .requestReset email secretBytes => do
      let result ← PasswordResetHelper.requestReset sodium call.secrets true secretBytes
        email
      pure (.resetRequested result)
  | .completeReset email secret newPassword salt => do
      let result ← PasswordResetHelper.completeReset sodium call.secrets salt email secret
        newPassword
      pure (.resetCompleted result)
  | .updateInfo email personInfo => do
      let changed ← Auth.updateInfo email personInfo
      pure (.updated changed)
  | .setUserInfo sessionPersonId message => do
      let answer ← Auth.setUserInfo sessionPersonId message
      pure (.answered answer)

def tokenBytes? (call : AccountCall) : Option Blob :=
  match call.op with
  | .register _ _ _ tokenBytes => some tokenBytes
  | .requestReset _ secretBytes => some secretBytes
  | _ => none

def presentedHash? (call : AccountCall) : Option String :=
  match call.op with
  | .verify email encodedSecret _ _ =>
      (decodeLink urlDecode sodium email encodedSecret).toOption.map Prod.snd
  | .activate email token =>
      (decodeLink urlDecode sodium email token).toOption.map Prod.snd
  | .completeReset _ secret _ _ =>
      some (PasswordResetHelper.hashPresentedSecret sodium secret)
  | _ => none

def entered (call : AccountCall) : List String :=
  match call.op with
  | .createFullyValidatedUser personInfo _ _ => [personInfo.email]
  | _ => []

def update? (call : AccountCall) (db : AuthDb) : Option (Person × PersonInfo) :=
  match call.op with
  | .updateInfo email personInfo =>
      (People.personByEmail db email).map (fun p => (p, personInfo))
  | .setUserInfo sessionPersonId message =>
      (People.personById db sessionPersonId.toNat).map (fun p =>
        (p, overlay message (infoOf p)))
  | _ => none

def newAddress? (call : AccountCall) (db : AuthDb) : Option String :=
  match call.update? db with
  | none => none
  | some (p, personInfo) =>
      if p.emailVerifiedAt.isSome ∧ personInfo.email ≠ "" then
        some (People.sqlValue call.env personInfo.email)
      else none

end AccountCall

/-!
# The history of a run
-/

/-- The addresses with the hashes of the secrets mailed to them, the addresses whose
secret came back, and the ones that an administrator entered. -/
structure AddressHistory where
  mailed : List (String × String)
  proven : List String
  entered : List String

namespace AddressHistory

def empty : AddressHistory := ⟨[], [], []⟩

def Known (history : AddressHistory) (address : String) : Prop :=
  exists known, (known ∈ history.proven ∨ known ∈ history.entered) ∧
    sameEmail known address = true

end AddressHistory

structure AccountState where
  db : AuthDb
  history : AddressHistory

namespace AccountState

variable (urlDecode : UrlDecode) (sodium : Sodium)

/-- A failed call has mailed nothing and proven nothing. -/
def record (history : AddressHistory) (call : AccountCall)
    (outcome : Except Exn AccountReply) : AddressHistory :=
  match outcome with
  | .error _ => history
  | .ok reply =>
      { mailed := history.mailed ++
          (match call.tokenBytes?, reply.mailedTo? with
          | some tokenBytes, some address => [(address, sodium.hashBinary tokenBytes)]
          | _, _ => [])
        proven := history.proven ++
          (if reply.accepted then
            (history.mailed.filter (fun m =>
              some m.2 == call.presentedHash? urlDecode sodium)).map Prod.fst
          else [])
        entered := history.entered ++ call.entered }

def perform (s : AccountState) (call : AccountCall) : AccountState :=
  let (outcome, db) := Prog.transact call.env (call.program urlDecode sodium) s.db
  { db := db, history := record urlDecode sodium s.history call outcome }

def start : AccountState := ⟨AuthDb.empty, AddressHistory.empty⟩

def reached (calls : List AccountCall) : AccountState :=
  after (perform urlDecode sodium) start calls

def VerifiedAddresses (s : AccountState) : Prop :=
  forall p, p ∈ s.db.people.rows -> p.emailVerifiedAt.isSome = true ->
    s.history.Known p.email

/-- A profile update that would store an address which is nobody's yet stores a known
one. -/
def UpdatesKnown (s : AccountState) (call : AccountCall) : Prop :=
  forall address, call.newAddress? s.db = some address ->
    People.personByEmail s.db address = none -> s.history.Known address

end AccountState

end Calls

/-!
# What a transaction proves
-/

section Proves

variable [Citext]

def HasSecret (db : AuthDb) (p : Person) (hash : String) : Prop :=
  (exists r, r ∈ db.emailVerifications.rows ∧ r.personId = p.id ∧ r.tokenHash = hash) ∨
    exists r, r ∈ db.passwordResetTokens.rows ∧ r.personId = p.id ∧ r.tokenHash = hash

/-- No pending secret is new, and no address changes; a person who is newly verified
had the presented secret pending. -/
structure Proves (hash? : Option String) (db db' : AuthDb) : Prop where
  kept : forall p, p ∈ db.people.rows -> exists p', p' ∈ db'.people.rows ∧ p'.id = p.id
  verifications : forall r', r' ∈ db'.emailVerifications.rows ->
    exists r, r ∈ db.emailVerifications.rows ∧ r.personId = r'.personId ∧
      r.tokenHash = r'.tokenHash
  resets : forall r', r' ∈ db'.passwordResetTokens.rows ->
    exists r, r ∈ db.passwordResetTokens.rows ∧ r.personId = r'.personId ∧
      r.tokenHash = r'.tokenHash
  people : forall p', p' ∈ db'.people.rows ->
    exists p, p ∈ db.people.rows ∧ p.id = p'.id ∧ p.email = p'.email ∧
      (p.emailVerifiedAt.isSome = true -> p'.emailVerifiedAt.isSome = true) ∧
      (p'.emailVerifiedAt.isSome = true -> p.emailVerifiedAt.isSome = true ∨
        exists hash, hash? = some hash ∧ HasSecret db p hash)

namespace Proves

variable {hash? : Option String} {db db' db'' : AuthDb}

theorem refl (db : AuthDb) : Proves hash? db db := by
  refine ⟨fun p hp => ⟨p, hp, rfl⟩, ?_, ?_, ?_⟩
  · exact fun r hr => ⟨r, hr, rfl, rfl⟩
  · exact fun r hr => ⟨r, hr, rfl, rfl⟩
  · exact fun p hp => ⟨p, hp, rfl, rfl, fun h => h, Or.inl⟩

theorem of_people (hpeople : db'.people = db.people)
    (hverifications : forall r', r' ∈ db'.emailVerifications.rows ->
      exists r, r ∈ db.emailVerifications.rows ∧ r.personId = r'.personId ∧
        r.tokenHash = r'.tokenHash)
    (hresets : forall r', r' ∈ db'.passwordResetTokens.rows ->
      exists r, r ∈ db.passwordResetTokens.rows ∧ r.personId = r'.personId ∧
        r.tokenHash = r'.tokenHash) : Proves hash? db db' := by
  refine ⟨?_, hverifications, hresets, ?_⟩
  · rw [hpeople]
    exact fun p hp => ⟨p, hp, rfl⟩
  · rw [hpeople]
    exact fun p hp => ⟨p, hp, rfl, rfl, fun h => h, Or.inl⟩

theorem trans (h : Proves none db db') (h' : Proves hash? db' db'') :
    Proves hash? db db'' := by
  refine ⟨?_, ?_, ?_, ?_⟩
  · intro p hp
    rcases h.kept p hp with ⟨p', hp', hid'⟩
    rcases h'.kept p' hp' with ⟨p'', hp'', hid''⟩
    exact ⟨p'', hp'', hid''.trans hid'⟩
  · intro r'' hr''
    rcases h'.verifications r'' hr'' with ⟨r', hr', hperson', hhash'⟩
    rcases h.verifications r' hr' with ⟨r, hr, hperson, hhash⟩
    exact ⟨r, hr, hperson.trans hperson', hhash.trans hhash'⟩
  · intro r'' hr''
    rcases h'.resets r'' hr'' with ⟨r', hr', hperson', hhash'⟩
    rcases h.resets r' hr' with ⟨r, hr, hperson, hhash⟩
    exact ⟨r, hr, hperson.trans hperson', hhash.trans hhash'⟩
  · intro p'' hp''
    rcases h'.people p'' hp'' with ⟨p', hp', hid', hemail', hkeep', hnew'⟩
    rcases h.people p' hp' with ⟨p, hp, hid, hemail, hkeep, hnew⟩
    refine ⟨p, hp, hid.trans hid', hemail.trans hemail', fun hv => hkeep' (hkeep hv), ?_⟩
    intro hv
    rcases hnew' hv with hv' | ⟨hash, hhash, hsecret⟩
    · rcases hnew hv' with hv0 | ⟨hash, hnone, _⟩
      · exact Or.inl hv0
      · cases hnone
    · right
      refine ⟨hash, hhash, ?_⟩
      rcases hsecret with ⟨r', hr', hperson', hcode⟩ | ⟨r', hr', hperson', hcode⟩
      · left
        rcases h.verifications r' hr' with ⟨r, hr, hperson, hsame⟩
        exact ⟨r, hr, by rw [hperson, hperson', hid], hsame.trans hcode⟩
      · right
        rcases h.resets r' hr' with ⟨r, hr, hperson, hsame⟩
        exact ⟨r, hr, by rw [hperson, hperson', hid], hsame.trans hcode⟩

theorem of_tables (h : Proves hash? db db') (hpeople : db''.people = db'.people)
    (hverifications : db''.emailVerifications = db'.emailVerifications)
    (hresets : db''.passwordResetTokens = db'.passwordResetTokens) :
    Proves hash? db db'' := by
  refine ⟨?_, ?_, ?_, ?_⟩
  · rw [hpeople]
    exact h.kept
  · rw [hverifications]
    exact h.verifications
  · rw [hresets]
    exact h.resets
  · rw [hpeople]
    exact h.people

theorem replaced {p row : Person} {hash : String} (h : Proves none db db')
    (hreplaced : People.RowReplaced db' db'' p row) (hverified : row.emailVerifiedAt.isSome)
    (hsecret : HasSecret db p hash) : Proves (some hash) db db'' := by
  have hrows : forall p'', p'' ∈ db''.people.rows -> p'' = row ∨ p'' ∈ db'.people.rows := by
    intro p'' hp''
    rw [hreplaced.rows_eq, List.mem_map] at hp''
    rcases hp'' with ⟨p', hp', hsame⟩
    split at hsame
    · exact Or.inl hsame.symm
    · exact Or.inr (hsame ▸ hp')
  refine ⟨?_, ?_, ?_, ?_⟩
  · intro p0 hp0
    rcases h.kept p0 hp0 with ⟨p', hp', hid'⟩
    refine ⟨if p'.id == p.id then row else p', ?_, ?_⟩
    · rw [hreplaced.rows_eq]
      exact List.mem_map_of_mem hp'
    · split
      · rename_i hid
        rw [hreplaced.id_eq, ← hid']
        exact (beq_iff_eq.mp hid).symm
      · exact hid'
  · rw [hreplaced.rest_eq]
    exact h.verifications
  · rw [hreplaced.rest_eq]
    exact h.resets
  · intro p'' hp''
    rcases hrows p'' hp'' with hrow | hp'
    · rcases h.people p hreplaced.mem with ⟨p0, hp0, hid, hemail, _, _⟩
      rw [hrow]
      refine ⟨p0, hp0, hid.trans hreplaced.id_eq.symm, hemail.trans hreplaced.email_eq.symm,
        fun _ => hverified, ?_⟩
      intro _
      right
      refine ⟨hash, rfl, ?_⟩
      simpa only [HasSecret, hid] using hsecret
    · rcases h.people p'' hp' with ⟨p0, hp0, hid, hemail, hkeep, hnew⟩
      refine ⟨p0, hp0, hid, hemail, hkeep, ?_⟩
      intro hv
      rcases hnew hv with hv0 | ⟨hash', hnone, _⟩
      · exact Or.inl hv0
      · cases hnone

end Proves

end Proves

/-!
# Presentations
-/

variable {sodium : Sodium}

section Presentations

variable [Citext] {env : Env} {db : AuthDb}

theorem wp_claimAttempt {personId : Nat} {attemptLimit : Int}
    {post : Except Exn (Option EmailVerification) -> AuthDb -> Prop}
    (herror : forall err, post (.error err) db)
    (hnone : forall db', Proves none db db' -> post (.ok none) db')
    (hsome : forall row db', row ∈ db.emailVerifications.rows -> row.personId = personId ->
      Proves none db db' -> db'.people = db.people ->
      post (.ok (some (EmailVerifications.claimed row))) db') :
    Prog.wp env (EmailVerifications.claimAttempt personId attemptLimit) post db := by
  rw [EmailVerifications.claimAttempt, Prog.wp_exec]
  cases hupdate : db.emailVerifications.update?
      (EmailVerifications.Claimable personId attemptLimit env.now)
      EmailVerifications.claimed with
  | none => simpa [orUniqueViolation, bind, Except.bind] using herror _
  | some pair =>
      simp only [orUniqueViolation, bind, Except.bind, pure, Except.pure]
      have hproves : Proves none db { db with emailVerifications := pair.2 } := by
        refine Proves.of_people ?_ ?_ ?_
        · rfl
        · intro r' hr'
          rcases (Table.mem_update? hupdate r').mp hr' with ⟨hmem, _⟩ | ⟨r, hmem, _, hr⟩
          · exact ⟨r', hmem, rfl, rfl⟩
          · exact ⟨r, hmem, by rw [← hr]; rfl, by rw [← hr]; rfl⟩
        · exact fun r' hr' => ⟨r', hr', rfl, rfl⟩
      rw [(Table.update?_some hupdate).1]
      cases hfilter : db.emailVerifications.rows.filter
          (EmailVerifications.Claimable personId attemptLimit env.now) with
      | nil => exact hnone _ hproves
      | cons row rest =>
          have hrow := List.mem_filter.mp (show row ∈ db.emailVerifications.rows.filter
            (EmailVerifications.Claimable personId attemptLimit env.now) by simp [hfilter])
          have hperson : row.personId = personId := by
            have hsel := hrow.2
            simp only [EmailVerifications.Claimable, Bool.and_eq_true, beq_iff_eq] at hsel
            exact hsel.1.1
          exact hsome row _ hrow.1 hperson hproves rfl

/-- What a comparison leaves behind: a match is a pending secret of the person that the
address finds. -/
structure Matched (env : Env) (db : AuthDb) (email tokenHash : String)
    (outcome : Except Exn Bool) (db' : AuthDb) : Prop where
  proves : Proves none db db'
  right : outcome = .ok true -> db'.people = db.people ∧
    exists p, People.personByEmail db email = some p ∧ HasSecret db p tokenHash

variable {secrets : SecretsHelperPtr}

theorem wp_doEmailVerification {email tokenHash : String} :
    Prog.wp env (EmailVerifications.doEmailVerification secrets email tokenHash)
      (Matched env db email tokenHash) db := by
  have herror : forall err db', Proves none db db' ->
      Matched env db email tokenHash (.error err) db' :=
    fun err db' hproves => ⟨hproves, fun h => nomatch h⟩
  have hfalse : forall db', Proves none db db' ->
      Matched env db email tokenHash (.ok false) db' :=
    fun db' hproves => ⟨hproves, fun h => nomatch h⟩
  simp only [EmailVerifications.doEmailVerification, People.lookupPersonByEmail,
    Prog.bind_eq, Prog.wp_bind, Prog.wp_ask]
  cases hp : People.personByEmail db email with
  | none => exact herror _ _ (Proves.refl db)
  | some p =>
      apply Prog.wp_bind.mpr
      apply Prog.ReadOnly.wp (readOnly_lookupRequired _ _ _)
      intro outcome
      cases outcome with
      | error err => exact herror _ _ (Proves.refl db)
      | ok attemptLimit =>
          apply Prog.wp_bind.mpr
          apply wp_claimAttempt
          · exact fun err => herror err _ (Proves.refl db)
          · exact fun db' hproves => hfalse _ hproves
          · intro row db' hrow hperson hproves hpeople
            dsimp only
            split
            · rename_i hright
              simp only [Prog.wp_bind, EmailVerifications.deleteEmailVerification,
                Prog.wp_exec]
              refine ⟨hproves.trans ?_, ?_⟩
              · refine Proves.of_people ?_ ?_ ?_
                · rfl
                · intro r' hr'
                  exact ⟨r', ((Table.mem_delete _ _ r').mp hr').1, rfl, rfl⟩
                · exact fun r' hr' => ⟨r', hr', rfl, rfl⟩
              · intro _
                exact ⟨hpeople, p, hp, Or.inl ⟨row, hrow, hperson, hright⟩⟩
            · split
              · exact hfalse _ (hproves.of_tables rfl rfl rfl)
              · exact hfalse _ hproves

theorem wp_personHelper_verifyPersonEmail {urlDecode : UrlDecode}
    {emailEncoded encodedSecret : String} :
    Prog.wp env (verifyPersonEmail urlDecode sodium secrets emailEncoded encodedSecret)
      (fun outcome db' => Proves (if outcome.isOk then
        (decodeLink urlDecode sodium emailEncoded encodedSecret).toOption.map Prod.snd
        else none) db db') db := by
  simp only [verifyPersonEmail, Prog.bind_eq, Prog.wp_bind, Prog.wp_ofExcept]
  cases hlink : decodeLink urlDecode sodium emailEncoded encodedSecret with
  | error err => exact Proves.refl db
  | ok pair =>
      rcases pair with ⟨email, hash⟩
      dsimp only
      apply Prog.wp_mono _ wp_doEmailVerification
      intro outcome db1 hmatched
      cases outcome with
      | error err => exact hmatched.proves
      | ok found =>
          cases found with
          | false => exact hmatched.proves
          | true =>
              rcases hmatched.right rfl with ⟨hpeople, p, hp, hsecret⟩
              apply People.wp_verifyPersonEmail
              · exact fun what => hmatched.proves
              · intro q db2 hq _ hreplaced
                have hsame : q = p := by
                  unfold People.personByEmail at hq hp
                  rw [hpeople, hp] at hq
                  cases hq
                  rfl
                rw [← hsame] at hsecret
                exact hmatched.proves.replaced hreplaced rfl hsecret

theorem wp_verify {urlDecode : UrlDecode} {email encodedSecret ip userAgent : String} :
    Prog.wp env (verify urlDecode sodium secrets email encodedSecret ip userAgent)
      (fun outcome db' => forall reply, outcome = .ok reply ->
        Proves (if reply.answer = .verified then
          (decodeLink urlDecode sodium email encodedSecret).toOption.map Prod.snd
          else none) db db') db := by
  have hrejected : forall {reply : VerifyReply} {db' : AuthDb}, reply.answer ≠ .verified ->
      Proves none db db' ->
      forall reply', (Except.ok reply : Except Exn VerifyReply) = .ok reply' ->
        Proves (if reply'.answer = .verified then
          (decodeLink urlDecode sodium email encodedSecret).toOption.map Prod.snd
          else none) db db' := by
    intro reply db' hne hproves reply' h
    cases h
    rw [if_neg hne]
    exact hproves
  unfold verify
  apply Prog.wp_bind.mpr
  apply (LoginGate.readOnly_checkBeforeByIp secrets _ _ _ _ _ ip).wp
  intro outcome
  cases outcome with
  | error err =>
      intro reply h
      cases h
  | ok gate =>
      dsimp only
      split
      · exact hrejected (by decide) (Proves.refl db)
      · apply Prog.wp_bind.mpr
        apply Prog.wp_tryCatch.mpr
        apply Prog.wp_bind.mpr
        apply Prog.wp_mono _ wp_personHelper_verifyPersonEmail
        intro outcome db1 hproves
        cases outcome with
        | error err => exact hrejected (by decide) hproves
        | ok _ =>
            have hread : Prog.ReadOnly (verifiedPersonId email) :=
              Prog.ReadOnly.tryCatch (Prog.ReadOnly.bind Prog.readOnly_ask (fun _ => trivial))
                (fun _ => trivial)
            simp only [Prog.pure_eq, Prog.wp_done, if_true]
            apply Prog.wp_bind.mpr
            apply hread.wp
            intro outcome
            cases outcome with
            | error err =>
                intro reply h
                cases h
            | ok personId =>
                intro reply h
                cases h
                exact hproves.of_tables rfl rfl rfl

theorem wp_accountActivation {urlDecode : UrlDecode} {email token : String} :
    Prog.wp env (accountActivation urlDecode sodium secrets email token)
      (fun outcome db' => forall url, outcome = .ok url ->
        Proves ((decodeLink urlDecode sodium email token).toOption.map Prod.snd) db db')
      db := by
  unfold accountActivation
  apply Prog.wp_bind.mpr
  apply Prog.wp_mono _ wp_personHelper_verifyPersonEmail
  intro outcome db1 hproves
  cases outcome with
  | error err =>
      intro url h
      cases h
  | ok _ =>
      cases secrets with
      | none =>
          intro url h
          cases h
      | some helper =>
          exact (readOnly_activationAddress helper).wp (fun outcome url _ => hproves)

theorem resets_of_claimed {db' : AuthDb} {link : PasswordResetToken}
    (hlink : link ∈ db.passwordResetTokens.rows)
    (hclaimed : PasswordResetHelper.AttemptClaimed db db' link) :
    forall r', r' ∈ db'.passwordResetTokens.rows ->
      exists r, r ∈ db.passwordResetTokens.rows ∧ r.personId = r'.personId ∧
        r.tokenHash = r'.tokenHash := by
  intro r' hr'
  rw [hclaimed.rows, List.mem_map] at hr'
  rcases hr' with ⟨r, hr, hsame⟩
  split at hsame
  · rw [← hsame]
    exact ⟨link, hlink, rfl, rfl⟩
  · exact ⟨r, hr, by rw [hsame], by rw [hsame]⟩

theorem resetDone_proves {password secret email : String} {db' : AuthDb}
    {p : Person} {link : PasswordResetToken}
    (hdone : PasswordResetHelper.ResetDone sodium password env db db' p)
    (hp : People.personByEmail db email = some p)
    (hlink : PasswordResetHelper.ClaimedLink env db p link)
    (hright : link.tokenHash = PasswordResetHelper.hashPresentedSecret sodium secret) :
    Proves (some (PasswordResetHelper.hashPresentedSecret sodium secret)) db db' := by
  have hmem := (People.personByEmail_some hp).1
  have hsecret : HasSecret db p (PasswordResetHelper.hashPresentedSecret sodium secret) :=
    Or.inr ⟨link, hlink.mem, PasswordResetHelper.claimable_person hlink.claimable, hright⟩
  rcases hdone.people with ⟨hash, _, hrows⟩
  have hreplaced : People.RowReplaced db { db with people := db'.people } p
      (PasswordResetHelper.resetRow env hash p) :=
    ⟨hmem, rfl, rfl, hrows, rfl⟩
  have hproves := (Proves.refl db).replaced hreplaced rfl hsecret
  refine ⟨hproves.kept, ?_, ?_, hproves.people⟩
  · rw [hdone.verifications]
    exact fun r' hr' => ⟨r', hr', rfl, rfl⟩
  · rw [hdone.tokens]
    exact fun r' hr' => ⟨r', ((Table.mem_delete _ _ r').mp hr').1, rfl, rfl⟩

theorem wp_completeReset_proves {salt : Blob} {email secret newPassword : String} :
    Prog.wp env (PasswordResetHelper.completeReset sodium secrets salt email secret
        newPassword)
      (fun outcome db' => forall result, outcome = .ok result ->
        Proves (if result.outcome = .success then
          some (PasswordResetHelper.hashPresentedSecret sodium secret) else none) db db')
      db := by
  apply Prog.wp_mono _ PasswordResetHelper.wp_completeReset
  intro outcome db' heffect result hresult
  cases heffect with
  | rejected => exact Proves.refl db
  | refused => exact Proves.refl db
  | guessed _ _ hlink _ hclaimed =>
      have hresets := resets_of_claimed hlink.mem hclaimed
      rw [hclaimed.rest]
      exact Proves.of_people rfl (fun r' hr' => ⟨r', hr', rfl, rfl⟩) hresets
  | exhausted _ _ _ _ hremoved hrest =>
      rw [hrest]
      refine Proves.of_people rfl (fun r' hr' => ⟨r', hr', rfl, rfl⟩) ?_
      intro r' hr'
      change r' ∈ db'.passwordResetTokens.rows at hr'
      rw [hremoved] at hr'
      exact ⟨r', ((Table.mem_delete _ _ r').mp hr').1, rfl, rfl⟩
  | succeeded _ hp hlink hright hdone =>
      cases hresult
      exact resetDone_proves hdone hp hlink hright
  | aborted => cases hresult

end Presentations

/-!
# Creations
-/

section Creations

variable [Citext] {env : Env} {db : AuthDb}

structure PersonAdded (db db' : AuthDb) (p : Person) : Prop where
  rows : db'.people.rows = db.people.rows ++ [p]
  fresh : forall q, q ∈ db.people.rows -> q.id ≠ p.id
  verifications : db'.emailVerifications = db.emailVerifications
  resets : db'.passwordResetTokens = db.passwordResetTokens

theorem wp_addPerson {email firstName lastName passwordHash : String}
    {post : Except Exn Nat -> AuthDb -> Prop} (herror : forall err, post (.error err) db)
    (hok : forall p db', PersonAdded db db' p -> p.email = email ->
      p.emailVerifiedAt = none -> post (.ok p.id) db') :
    Prog.wp env (People.addPerson email firstName lastName passwordHash) post db := by
  rw [People.addPerson, Prog.wp_exec]
  cases hinsert : db.people.insert? (fun id =>
      { id := id, email := email, firstName := firstName, lastName := lastName
        passwordHash := passwordHash, emailVerifiedAt := none
        mustChangePassword := false, updatedAt := env.now
        failedLoginAttempts := 0, lockedUntil := none }) with
  | none => simpa [orUniqueViolation, bind, Except.bind] using herror _
  | some pair =>
      simp only [orUniqueViolation, bind, Except.bind, pure, Except.pure]
      rcases Table.insert?_some hinsert with ⟨hrow, hrows, _⟩
      apply hok pair.1
      · refine ⟨hrows, ?_, rfl, rfl⟩
        intro q hq hid
        have hclash := pair.2.noClash
        rw [hrows, List.pairwise_append] at hclash
        exact hclash.2.2 q hq pair.1 (by simp) (Or.inl hid)
      · rw [hrow]
      · rw [hrow]

structure Registered (db db' : AuthDb) (p : Person) (tokenHash : String) : Prop where
  fresh : forall q, q ∈ db.people.rows -> q.id ≠ p.id
  unverified : p.emailVerifiedAt = none
  people : db'.people.rows = db.people.rows ++ [p]
  verifications : forall r, r ∈ db'.emailVerifications.rows ->
    (r ∈ db.emailVerifications.rows ∧ r.personId ≠ p.id) ∨
      (r.personId = p.id ∧ r.tokenHash = tokenHash)
  resets : db'.passwordResetTokens = db.passwordResetTokens

theorem wp_addEmailVerificationById {secrets : SecretsHelperPtr} {personId : Nat}
    {tokenHash : String} {post : Except Exn Nat -> AuthDb -> Prop}
    (herror : forall err db', post (.error err) db')
    (hok : forall id table, secrets.isSome = true ->
      (forall r, r ∈ table.rows ->
        (r ∈ db.emailVerifications.rows ∧ r.personId ≠ personId) ∨
          (r.personId = personId ∧ r.tokenHash = tokenHash)) ->
      post (.ok id) { db with emailVerifications := table }) :
    Prog.wp env (EmailVerifications.addEmailVerificationById secrets personId tokenHash)
      post db := by
  simp only [EmailVerifications.addEmailVerificationById,
    EmailVerifications.deleteForPerson, nowUs, Prog.bind_eq, Prog.wp_bind, Prog.wp_exec,
    Prog.wp_ask]
  cases secrets with
  | none => exact herror _ _
  | some helper =>
      apply (readOnly_lookupRequired _ _ _).wp
      intro outcome
      cases outcome with
      | error err => exact herror err _
      | ok windowMicros =>
          dsimp only
          rw [EmailVerifications.insertVerification, Prog.wp_exec]
          cases hinsert : (db.emailVerifications.delete
              (fun r => r.personId == personId)).insert? (fun id =>
                { id := id, personId := personId, tokenHash := tokenHash
                  expiresAt := addInt64 env.now windowMicros, attempts := 0 }) with
          | none => simpa [orUniqueViolation, bind, Except.bind] using herror _ _
          | some pair =>
              simp only [orUniqueViolation, bind, Except.bind, pure, Except.pure]
              rcases Table.insert?_some hinsert with ⟨hrow, hrows, _⟩
              apply hok _ _ rfl
              intro r hr
              rw [hrows, List.mem_append] at hr
              rcases hr with hr | hr
              · rcases (Table.mem_delete _ _ r).mp hr with ⟨hmem, hother⟩
                exact Or.inl ⟨hmem, by simpa using hother⟩
              · rw [List.mem_singleton.mp hr, hrow]
                exact Or.inr ⟨rfl, rfl⟩

theorem wp_lookupSecret_bind {a : Type} {helper : SecretsHelper} {name : String}
    {f : String -> Sql a} {post : Except Exn a -> AuthDb -> Prop}
    (herror : forall err, post (.error err) db)
    (hok : forall value, Prog.wp env (f value) post db) :
    Prog.wp env ((lookupSecret helper name).bind f) post db := by
  apply Prog.wp_bind.mpr
  rw [lookupSecret, Prog.wp_ask]
  cases helper.lookupSecret db name with
  | error err => exact herror err
  | ok value => exact hok value

variable {personInfo : PersonInfo}

theorem wp_composeVerifyMail {helper : SecretsHelper}
    {secret : String} {post : Except Exn VerifyMail -> AuthDb -> Prop}
    (herror : forall err, post (.error err) db)
    (hok : forall mail, mail.personInfo = personInfo -> post (.ok mail) db) :
    Prog.wp env (composeVerifyMail helper personInfo secret) post db := by
  unfold composeVerifyMail
  iterate 6
    refine wp_lookupSecret_bind herror (fun _ => ?_)
  exact hok _ rfl

theorem wp_register {secrets : SecretsHelperPtr} {salt tokenBytes : Blob} {password : String} :
    Prog.wp env (preliminaryRegisterPerson sodium secrets salt tokenBytes personInfo
        password true)
      (fun outcome db' => forall mail, outcome = .ok mail ->
        mail.map (fun m => m.personInfo.email) = some personInfo.email ∧
          exists p, p.email = personInfo.email ∧
            Registered db db' p (sodium.hashBinary tokenBytes)) db := by
  unfold preliminaryRegisterPerson
  apply Prog.wp_bind.mpr
  apply PasswordResetHelper.wp_hashPasswordWithSecrets
  · intro err mail h
    cases h
  intro hash _
  apply Prog.wp_bind.mpr
  apply wp_addPerson
  · intro err mail h
    cases h
  intro p db1 hadded hemail hunverified
  dsimp only
  unfold issueVerification
  apply Prog.wp_bind.mpr
  apply wp_addEmailVerificationById
  · intro err db' mail h
    cases h
  intro id table hsecrets htable
  rcases Option.isSome_iff_exists.mp hsecrets with ⟨helper, hhelper⟩
  rw [hhelper]
  apply Prog.wp_bind.mpr
  apply wp_composeVerifyMail
  · intro err mail h
    cases h
  · intro mail hmail mail' h
    cases h
    refine ⟨by rw [Option.map_some, hmail], p, hemail, hadded.fresh, hunverified, ?_, ?_, ?_⟩
    · exact hadded.rows
    · rw [← hadded.verifications]
      exact htable
    · exact hadded.resets

theorem wp_createFullyValidatedUser {secrets : SecretsHelperPtr} {salt : Blob} {password : String}
    {post : Except Exn Unit -> AuthDb -> Prop} (herror : forall err db', post (.error err) db')
    (hok : forall p db1 db', PersonAdded db db1 p -> p.email = personInfo.email ->
      People.RowReplaced db1 db' p (People.markVerified env p) -> post (.ok ()) db') :
    Prog.wp env (createFullyValidatedUser sodium secrets salt personInfo password) post
      db := by
  have hcreate : forall hash, Prog.wp env
      ((People.addPerson personInfo.email personInfo.firstName personInfo.lastName hash).bind
        (fun _ => People.verifyPersonEmail personInfo.email)) post db := by
    intro hash
    apply Prog.wp_bind.mpr
    apply wp_addPerson (fun err => herror err db)
    intro p db1 hadded hemail _
    apply People.wp_verifyPersonEmail (fun what => herror _ db1)
    intro q db' hq _ hreplaced
    have hmem : p ∈ db1.people.rows := by
      rw [hadded.rows]
      simp
    rw [← hemail, People.personByEmail_of_mem hmem] at hq
    cases hq
    exact hok p db1 db' hadded hemail hreplaced
  unfold createFullyValidatedUser
  split
  · apply Prog.wp_bind.mpr
    exact PasswordResetHelper.wp_hashPasswordWithSecrets (fun err => herror err db)
      (fun hash _ => hcreate hash)
  · apply Prog.wp_bind.mpr
    rw [Prog.wp_ofExcept]
    cases sodium.hashPassword opsLimitInteractive memLimitInteractive salt password with
    | error err => exact herror err db
    | ok hash => exact hcreate hash

end Creations

/-!
# The invariant
-/

section Invariant

variable [Citext]

/-- Every pending secret of an unverified person was mailed to the person's address. -/
structure Backed (s : AccountState) : Prop where
  verified : s.VerifiedAddresses
  mailed : forall p hash, p ∈ s.db.people.rows -> p.emailVerifiedAt = none ->
    HasSecret s.db p hash -> (p.email, hash) ∈ s.history.mailed
  owned : forall r, r ∈ s.db.passwordResetTokens.rows ->
    exists p, p ∈ s.db.people.rows ∧ p.id = r.personId

namespace Backed

variable {s : AccountState} {db' : AuthDb}

theorem recorded (h : Backed s) (urlDecode : UrlDecode) (sodium : Sodium)
    (call : AccountCall) (reply : AccountReply) :
    Backed ⟨s.db, AccountState.record urlDecode sodium s.history call (.ok reply)⟩ := by
  refine ⟨?_, ?_, h.owned⟩
  · intro p hp hverified
    rcases h.verified p hp hverified with ⟨known, hknown, hsame⟩
    exact ⟨known, hknown.imp (List.mem_append_left _) (List.mem_append_left _), hsame⟩
  · intro p hash hp hunverified hsecret
    exact List.mem_append_left _ (h.mailed p hash hp hunverified hsecret)

/-- A transaction that proves what it presents keeps the invariant, when the addresses to
which the presented secret was mailed become known. -/
theorem proves {hash? : Option String} (h : Backed s) (hproves : Proves hash? s.db db')
    (hknown : forall hash address, hash? = some hash -> (address, hash) ∈ s.history.mailed ->
      s.history.Known address) : Backed ⟨db', s.history⟩ := by
  refine ⟨?_, ?_, ?_⟩
  · intro p' hp' hverified
    rcases hproves.people p' hp' with ⟨p, hp, _, hemail, _, hnew⟩
    change s.history.Known p'.email
    rw [← hemail]
    by_cases hbefore : p.emailVerifiedAt.isSome = true
    · exact h.verified p hp hbefore
    · rcases hnew hverified with hv | ⟨hash, hhash, hsecret⟩
      · exact absurd hv hbefore
      · exact hknown hash p.email hhash
          (h.mailed p hash hp (by simpa using hbefore) hsecret)
  · intro p' hash hp' hunverified hsecret
    rcases hproves.people p' hp' with ⟨p, hp, hid, hemail, hkeep, _⟩
    have hbefore : p.emailVerifiedAt = none := by
      by_contra hsome
      have hv := hkeep (Option.isSome_iff_ne_none.mpr hsome)
      rw [hunverified] at hv
      cases hv
    change (p'.email, hash) ∈ s.history.mailed
    rw [← hemail]
    apply h.mailed p hash hp hbefore
    rcases hsecret with ⟨r', hr', hperson, hcode⟩ | ⟨r', hr', hperson, hcode⟩
    · rcases hproves.verifications r' hr' with ⟨r, hr, hperson', hcode'⟩
      exact Or.inl ⟨r, hr, by rw [hperson', hperson, hid], hcode'.trans hcode⟩
    · rcases hproves.resets r' hr' with ⟨r, hr, hperson', hcode'⟩
      exact Or.inr ⟨r, hr, by rw [hperson', hperson, hid], hcode'.trans hcode⟩
  · intro r' hr'
    rcases hproves.resets r' hr' with ⟨r, hr, hperson, _⟩
    rcases h.owned r hr with ⟨p, hp, hid⟩
    rcases hproves.kept p hp with ⟨p', hp', hid'⟩
    exact ⟨p', hp', hid'.trans (hid.trans hperson)⟩

theorem registered {p : Person} {tokenHash : String} (h : Backed s)
    (hregistered : Registered s.db db' p tokenHash)
    (hmailed : (p.email, tokenHash) ∈ s.history.mailed) : Backed ⟨db', s.history⟩ := by
  have hrows : forall q, q ∈ db'.people.rows -> q ∈ s.db.people.rows ∨ q = p := by
    intro q hq
    rw [hregistered.people, List.mem_append, List.mem_singleton] at hq
    exact hq
  refine ⟨?_, ?_, ?_⟩
  · intro q hq hverified
    rcases hrows q hq with hold | hnew
    · exact h.verified q hold hverified
    · rw [hnew, hregistered.unverified] at hverified
      cases hverified
  · intro q hash hq hunverified hsecret
    change (q.email, hash) ∈ s.history.mailed
    rcases hrows q hq with hold | hnew
    · apply h.mailed q hash hold hunverified
      rcases hsecret with ⟨r, hr, hperson, hcode⟩ | ⟨r, hr, hperson, hcode⟩
      · rcases hregistered.verifications r hr with ⟨hmem, _⟩ | ⟨hperson', _⟩
        · exact Or.inl ⟨r, hmem, hperson, hcode⟩
        · exact absurd (hperson.symm.trans hperson') (hregistered.fresh q hold)
      · change r ∈ db'.passwordResetTokens.rows at hr
        rw [hregistered.resets] at hr
        exact Or.inr ⟨r, hr, hperson, hcode⟩
    · rw [hnew] at hsecret
      rcases hsecret with ⟨r, hr, hperson, hcode⟩ | ⟨r, hr, hperson, hcode⟩
      · rcases hregistered.verifications r hr with ⟨_, hother⟩ | ⟨_, hcode'⟩
        · exact absurd hperson hother
        · rw [hnew, ← hcode, hcode']
          exact hmailed
      · change r ∈ db'.passwordResetTokens.rows at hr
        rw [hregistered.resets] at hr
        rcases h.owned r hr with ⟨q', hq', hid⟩
        exact absurd (hid.trans hperson) (hregistered.fresh q' hq')
  · intro r hr
    change r ∈ db'.passwordResetTokens.rows at hr
    rw [hregistered.resets] at hr
    rcases h.owned r hr with ⟨q, hq, hid⟩
    refine ⟨q, ?_, hid⟩
    change q ∈ db'.people.rows
    rw [hregistered.people]
    exact List.mem_append_left _ hq

theorem presented {urlDecode : UrlDecode} {call : AccountCall}
    {reply : AccountReply} (h : Backed s) (htoken : call.tokenBytes? = none)
    (hproves : Proves (if reply.accepted then call.presentedHash? urlDecode sodium else none)
      s.db db') :
    Backed ⟨db', AccountState.record urlDecode sodium s.history call (.ok reply)⟩ := by
  apply (h.recorded urlDecode sodium call reply).proves hproves
  intro hash address hhash hmailed
  split at hhash
  · rename_i haccepted
    simp only [AccountState.record, htoken, List.append_nil] at hmailed
    refine ⟨address, Or.inl ?_, People.sameEmail_self address⟩
    simp only [AccountState.record, haccepted, if_true, List.mem_append, List.mem_map,
      List.mem_filter]
    right
    exact ⟨(address, hash), ⟨hmailed, by simp [hhash]⟩, rfl⟩
  · cases hhash

theorem requested {env : Env} {secretBytes : Blob} {email : String}
    {result : ResetRequested} (h : Backed s)
    (heffect : PasswordResetHelper.RequestEffect sodium s.db env true secretBytes email
      (.ok result) db')
    (hmailed : forall address, result.mail.map PasswordResetMail.email = some address ->
      (address, sodium.hashBinary secretBytes) ∈ s.history.mailed) :
    Backed ⟨db', s.history⟩ := by
  cases heffect with
  | unknown => exact h
  | issued hp hmail hperson hhash hattempts hexpiry hrows =>
      rename_i p row ttlMinutes table mail
      have hmem := (People.personByEmail_some hp).1
      have hcases : forall r, r ∈ table.rows ->
          r ∈ s.db.passwordResetTokens.rows ∨ r = row := by
        intro r hr
        rw [hrows, List.mem_append, List.mem_singleton] at hr
        exact hr.imp_left (fun hr => (List.mem_filter.mp hr).1)
      refine ⟨h.verified, ?_, ?_⟩
      · intro q hash hq hunverified hsecret
        rcases hsecret with hsecret | ⟨r, hr, hperson', hcode⟩
        · exact h.mailed q hash hq hunverified (Or.inl hsecret)
        · rcases hcases r hr with hold | hnew
          · exact h.mailed q hash hq hunverified (Or.inr ⟨r, hold, hperson', hcode⟩)
          · rw [hnew] at hperson' hcode
            have hsame : q = p := People.eq_of_id_eq hq hmem (hperson'.symm.trans hperson)
            rw [hsame, ← hcode, hhash]
            exact hmailed p.email (hmail rfl)
      · intro r hr
        rcases hcases r hr with hold | hnew
        · exact h.owned r hold
        · rw [hnew, hperson]
          exact ⟨p, hmem, rfl⟩

theorem created {env : Env} {p : Person} {db1 : AuthDb} (h : Backed s)
    (hadded : PersonAdded s.db db1 p)
    (hreplaced : People.RowReplaced db1 db' p (People.markVerified env p))
    (hentered : p.email ∈ s.history.entered) : Backed ⟨db', s.history⟩ := by
  have hrows : forall q, q ∈ db'.people.rows ->
      q ∈ s.db.people.rows ∨ q = People.markVerified env p := by
    intro q hq
    rw [hreplaced.rows_eq, hadded.rows, List.mem_map] at hq
    rcases hq with ⟨q0, hq0, hsame⟩
    split at hsame
    · exact Or.inr hsame.symm
    · rename_i hid
      rw [← hsame]
      rcases List.mem_append.mp hq0 with hold | hnew
      · exact Or.inl hold
      · rw [List.mem_singleton.mp hnew] at hid
        simp at hid
  have hverifications : db'.emailVerifications = s.db.emailVerifications := by
    rw [hreplaced.rest_eq]
    exact hadded.verifications
  have hresets : db'.passwordResetTokens = s.db.passwordResetTokens := by
    rw [hreplaced.rest_eq]
    exact hadded.resets
  refine ⟨?_, ?_, ?_⟩
  · intro q hq hverified
    rcases hrows q hq with hold | hnew
    · exact h.verified q hold hverified
    · rw [hnew]
      exact ⟨p.email, Or.inr hentered, People.sameEmail_self _⟩
  · intro q hash hq hunverified hsecret
    rcases hrows q hq with hold | hnew
    · apply h.mailed q hash hold hunverified
      simpa only [HasSecret, hverifications, hresets] using hsecret
    · rw [hnew] at hunverified
      cases hunverified
  · intro r hr
    change r ∈ db'.passwordResetTokens.rows at hr
    rw [hresets] at hr
    rcases h.owned r hr with ⟨q, hq, hid⟩
    refine ⟨q, ?_, hid⟩
    change q ∈ db'.people.rows
    rw [hreplaced.rows_eq, hadded.rows, List.mem_map]
    refine ⟨q, List.mem_append_left _ hq, ?_⟩
    rw [if_neg]
    simpa using hadded.fresh q hq

/-- A profile update of a verified person keeps the invariant when the address that it
stores is known, unless somebody has it already. -/
theorem updated {env : Env} {p : Person} {personInfo : PersonInfo} (h : Backed s)
    (hp : p ∈ s.db.people.rows) (hverified : p.emailVerifiedAt.isSome = true)
    (hupdate : People.updateById s.db p.id
      (People.setFields env (changesOf personInfo)) = .ok db')
    (hknown : personInfo.email ≠ "" ->
      People.personByEmail s.db (People.sqlValue env personInfo.email) = none ->
      s.history.Known (People.sqlValue env personInfo.email)) :
    Backed ⟨db', s.history⟩ := by
  rcases setFields_changesOf env personInfo p with ⟨hid, hsame, hemail⟩
  unfold People.updateById at hupdate
  cases htable : s.db.people.update? (fun r => r.id == p.id)
      (People.setFields env (changesOf personInfo)) with
  | none => simp [htable, orUniqueViolation, bind, Except.bind] at hupdate
  | some pair =>
      simp only [htable, orUniqueViolation, bind, Except.bind, pure, Except.pure,
        Except.ok.injEq] at hupdate
      have hnew : People.setFields env (changesOf personInfo) p ∈ pair.2.rows :=
        (Table.mem_update? htable _).mpr (Or.inr ⟨p, hp, by simp, rfl⟩)
      have hrows : forall q, q ∈ pair.2.rows ->
          (q ∈ s.db.people.rows ∧ q.id ≠ p.id) ∨
            q = People.setFields env (changesOf personInfo) p := by
        intro q hq
        rcases (Table.mem_update? htable q).mp hq with ⟨hmem, hother⟩ | ⟨q0, hq0, hid0, hq⟩
        · exact Or.inl ⟨hmem, by simpa using hother⟩
        · rw [People.eq_of_id_eq hq0 hp (by simpa using hid0)] at hq
          exact Or.inr hq.symm
      have haddress : s.history.Known
          (People.setFields env (changesOf personInfo) p).email := by
        rw [hemail]
        by_cases hempty : personInfo.email = ""
        · rw [if_pos hempty]
          exact h.verified p hp hverified
        · rw [if_neg hempty]
          cases hfind : People.personByEmail s.db
              (People.sqlValue env personInfo.email) with
          | none => exact hknown hempty hfind
          | some q =>
              rcases People.personByEmail_some hfind with ⟨hq, hsameq⟩
              -- another holder of the address would have stopped the update
              have hqp : q.id = p.id := by
                by_contra hother
                have hq' : q ∈ pair.2.rows :=
                  (Table.mem_update? htable _).mpr (Or.inl ⟨hq, by simpa using hother⟩)
                have hclash : Person.Clash q
                    (People.setFields env (changesOf personInfo) p) := by
                  right
                  rw [hemail, if_neg hempty]
                  exact hsameq
                have heq := Table.eq_of_clash Person.Clash.symm hq' hnew hclash
                exact hother (by rw [heq, hid])
              rw [People.eq_of_id_eq hq hp hqp] at hsameq
              rcases h.verified p hp hverified with ⟨known, hmem, hsame'⟩
              refine ⟨known, hmem, ?_⟩
              simp only [sameEmail, beq_iff_eq] at hsameq hsame' ⊢
              exact hsame'.trans hsameq
      rw [← hupdate]
      refine ⟨?_, ?_, ?_⟩
      · intro q hq hv
        rcases hrows q hq with ⟨hold, _⟩ | hq'
        · exact h.verified q hold hv
        · rw [hq']
          exact haddress
      · intro q hash hq hunverified hsecret
        rcases hrows q hq with ⟨hold, _⟩ | hq'
        · exact h.mailed q hash hold hunverified hsecret
        · rw [hq', hsame] at hunverified
          rw [hunverified] at hverified
          cases hverified
      · intro r hr
        rcases h.owned r hr with ⟨q, hq, hidq⟩
        by_cases hother : q.id = p.id
        · exact ⟨_, hnew, by rw [hid, ← hidq, hother]⟩
        · exact ⟨q, (Table.mem_update? htable _).mpr (Or.inl ⟨hq, by simpa using hother⟩),
            hidq⟩

end Backed

/-!
# Runs
-/

variable {urlDecode : UrlDecode} {sodium : Sodium} {s : AccountState} {call : AccountCall}

theorem backed_start : Backed AccountState.start := by
  constructor
  · intro p hp
    cases hp
  · intro p hash hp
    cases hp
  · intro r hr
    cases hr

theorem backed_of_wp (h : Backed s)
    (hwp : Prog.wp call.env (call.program urlDecode sodium) (fun outcome db' =>
      forall reply, outcome = .ok reply ->
        Backed ⟨db', AccountState.record urlDecode sodium s.history call (.ok reply)⟩)
      s.db) : Backed (s.perform urlDecode sodium call) := by
  unfold Prog.wp at hwp
  unfold AccountState.perform Prog.transact
  rcases hrun : (call.program urlDecode sodium).run call.env s.db with ⟨outcome, db'⟩
  rw [hrun] at hwp
  cases outcome with
  | ok reply => exact hwp reply rfl
  | error err => exact h

theorem wp_presented {a : Type} {p : Sql a} {hash? : a -> Option String}
    {answer : a -> AccountReply} (h : Backed s) (htoken : call.tokenBytes? = none)
    (hwp : Prog.wp call.env p (fun outcome db' => forall value, outcome = .ok value ->
      Proves (hash? value) s.db db') s.db)
    (hhash : forall value, hash? value =
      if (answer value).accepted then call.presentedHash? urlDecode sodium else none) :
    Prog.wp call.env (p.bind (fun value => .done (answer value))) (fun outcome db' =>
      forall reply, outcome = .ok reply ->
        Backed ⟨db', AccountState.record urlDecode sodium s.history call (.ok reply)⟩) s.db := by
  apply Prog.wp_bind.mpr
  apply Prog.wp_mono _ hwp
  intro outcome db' hproves
  cases outcome with
  | error err =>
      intro reply hreply
      cases hreply
  | ok value =>
      intro reply hreply
      cases hreply
      apply h.presented htoken
      rw [← hhash value]
      exact hproves value rfl

theorem updatesKnown_at {p : Person} {personInfo : PersonInfo} (h : s.UpdatesKnown call)
    (hupdate : call.update? s.db = some (p, personInfo))
    (hverified : p.emailVerifiedAt.isSome = true) (hemail : personInfo.email ≠ "")
    (hnone : People.personByEmail s.db (People.sqlValue call.env personInfo.email) = none) :
    s.history.Known (People.sqlValue call.env personInfo.email) := by
  apply h _ _ hnone
  simp [AccountCall.newAddress?, hupdate, hverified, hemail]

theorem backed_step (h : Backed s) (hupdates : s.UpdatesKnown call) :
    Backed (s.perform urlDecode sodium call) := by
  apply backed_of_wp h
  have hrecorded := h.recorded urlDecode sodium call
  cases hop : call.op with
  | register personInfo password salt tokenBytes =>
      simp only [AccountCall.program, hop, Prog.bind_eq]
      apply Prog.wp_bind.mpr
      apply Prog.wp_mono _ wp_register
      intro outcome db' hregister
      cases outcome with
      | error err =>
          intro reply hreply
          cases hreply
      | ok mail =>
          intro reply hreply
          cases hreply
          rcases hregister mail rfl with ⟨hmail, p, hemail, hregistered⟩
          apply (hrecorded (.registered mail)).registered hregistered
          simp [AccountState.record, AccountCall.tokenBytes?, hop, AccountReply.mailedTo?,
            hmail, hemail]
  | createFullyValidatedUser personInfo password salt =>
      simp only [AccountCall.program, hop, Prog.bind_eq]
      apply Prog.wp_bind.mpr
      apply wp_createFullyValidatedUser
      · intro err db' reply hreply
        cases hreply
      · intro p db1 db' hadded hemail hreplaced reply hreply
        cases hreply
        apply (hrecorded .created).created hadded hreplaced
        simp [AccountState.record, AccountCall.entered, hop, hemail]
  | verify email encodedSecret ip userAgent =>
      simp only [AccountCall.program, hop, Prog.bind_eq]
      apply wp_presented h (by simp [AccountCall.tokenBytes?, hop]) wp_verify
      intro result
      simp [AccountReply.accepted, AccountCall.presentedHash?, hop]
  | activate email token =>
      simp only [AccountCall.program, hop, Prog.bind_eq]
      apply wp_presented h (by simp [AccountCall.tokenBytes?, hop]) wp_accountActivation
      intro url
      simp [AccountReply.accepted, AccountCall.presentedHash?, hop]
  | requestReset email secretBytes =>
      simp only [AccountCall.program, hop, Prog.bind_eq]
      apply Prog.wp_bind.mpr
      apply Prog.wp_mono _ PasswordResetHelper.wp_requestReset
      intro outcome db' heffect
      cases outcome with
      | error err =>
          intro reply hreply
          cases hreply
      | ok result =>
          intro reply hreply
          cases hreply
          apply (hrecorded (.resetRequested result)).requested heffect
          intro address haddress
          simp [AccountState.record, AccountCall.tokenBytes?, hop, AccountReply.mailedTo?,
            haddress]
  | completeReset email secret newPassword salt =>
      simp only [AccountCall.program, hop, Prog.bind_eq]
      apply wp_presented h (by simp [AccountCall.tokenBytes?, hop]) wp_completeReset_proves
      intro result
      simp [AccountReply.accepted, AccountCall.presentedHash?, hop]
  | updateInfo email personInfo =>
      simp only [AccountCall.program, hop, Prog.bind_eq]
      apply Prog.wp_bind.mpr
      apply wp_updateInfo
      · intro err reply hreply
        cases hreply
      · intro reply hreply
        cases hreply
        exact hrecorded _
      · intro p db' hp hverified hupdate reply hreply
        cases hreply
        have hcalls : call.update? s.db = some (p, personInfo) := by
          simp [AccountCall.update?, hop, hp]
        have hknown := updatesKnown_at hupdates hcalls hverified
        exact (h.updated (People.personByEmail_some hp).1 hverified hupdate hknown).recorded
          urlDecode sodium call _
  | setUserInfo sessionPersonId message =>
      simp only [AccountCall.program, hop, Prog.bind_eq]
      apply Prog.wp_bind.mpr
      apply wp_setUserInfo
      · intro err reply hreply
        cases hreply
      · intro answer reply hreply
        cases hreply
        exact hrecorded _
      · intro p db' hpositive hp hverified hupdate reply hreply
        cases hreply
        have hcalls : call.update? s.db = some (p, overlay message (infoOf p)) := by
          simp [AccountCall.update?, hop, hp]
        have hknown := updatesKnown_at hupdates hcalls hverified
        exact (h.updated (People.personById_some hp).1 hverified hupdate hknown).recorded
          urlDecode sodium call _

theorem backed_after {calls : List AccountCall} (h : Backed s)
    (hupdates : Along (AccountState.perform urlDecode sodium) AccountState.UpdatesKnown s
      calls) : Backed (after (AccountState.perform urlDecode sodium) s calls) := by
  induction calls generalizing s with
  | nil => exact h
  | cons call calls ih =>
      rcases along_cons.mp hupdates with ⟨hcall, hcalls⟩
      exact ih (backed_step h hcall) hcalls

/-- In every state that a run reaches, the verified addresses are known ones, when every
profile update of the run stores a known address. -/
theorem verifiedAddresses (urlDecode : UrlDecode) (sodium : Sodium)
    (calls : List AccountCall)
    (hupdates : Along (AccountState.perform urlDecode sodium) AccountState.UpdatesKnown
      AccountState.start calls) (pre post : List AccountCall) (hcalls : calls = pre ++ post) :
    (AccountState.reached urlDecode sodium pre).VerifiedAddresses := by
  rw [hcalls] at hupdates
  exact (backed_after backed_start (along_append.mp hupdates).1).verified

end Invariant

/-!
# An account that is created and then edited
-/

section SampleRuns

attribute [local instance] Citext.plain

def editedAccount (member value : String) : List AccountCall :=
  [{ env := Env.ofClock 1000 "a", secrets := none
     op := .createFullyValidatedUser
       { email := "ann@example.com", firstName := "Ann", lastName := "Lee" } "pw" [] },
   { env := Env.ofClock 2000 "b", secrets := none
     op := .setUserInfo 1 (.obj [(member, .str value)]) }]

/-- The new address is nobody's, and it stays verified. -/
theorem verifiedAddresses_fails :
    Not (forall pre post, editedAccount "email" "eve@example.com" = pre ++ post ->
      (AccountState.reached .ok Sodium.plain pre).VerifiedAddresses) := by
  intro h
  have hverified := h (editedAccount "email" "eve@example.com") [] rfl
  have hperson : (AccountState.reached .ok Sodium.plain
      (editedAccount "email" "eve@example.com")).db.people.rows.map
        (fun p => (p.email, p.emailVerifiedAt)) = [("eve@example.com", some 1000)] := by
    decide
  have hknown : (AccountState.reached .ok Sodium.plain
      (editedAccount "email" "eve@example.com")).history =
        ⟨[], [], ["ann@example.com"]⟩ := by
    rfl
  have hmem : ("eve@example.com", some (1000 : Int)) ∈ (AccountState.reached .ok Sodium.plain
      (editedAccount "email" "eve@example.com")).db.people.rows.map
        (fun p => (p.email, p.emailVerifiedAt)) := by
    simp [hperson]
  rcases List.mem_map.mp hmem with ⟨p, hp, hfields⟩
  rcases hverified p hp (by simp [(Prod.mk.inj hfields).2]) with ⟨known, hin, hsame⟩
  rw [hknown] at hin
  rw [(Prod.mk.inj hfields).1] at hsame
  simp only [List.not_mem_nil, List.mem_singleton, false_or] at hin
  rw [hin] at hsame
  revert hsame
  decide

/-- A new first name leaves the address as it was. -/
theorem verifiedAddresses_sample :
    (AccountState.reached .ok Sodium.plain
      (editedAccount "first_name" "Anna")).VerifiedAddresses := by
  apply verifiedAddresses .ok Sodium.plain (editedAccount "first_name" "Anna")
    _ (editedAccount "first_name" "Anna") [] (by simp)
  refine along_cons.mpr ⟨?_, ?_⟩
  · intro address hnew
    cases hnew
  · refine along_singleton.mpr ?_
    intro address hnew hnone
    have haddress : address = "ann@example.com" := (Option.some.inj hnew).symm
    have hann : (People.personByEmail (AccountState.reached .ok Sodium.plain
        ((editedAccount "first_name" "Anna").take 1)).db "ann@example.com").isSome = true := by
      decide
    rw [haddress] at hnone
    have hfound : (none : Option Person).isSome = true := hnone ▸ hann
    cases hfound

end SampleRuns

end Auth
end ServerComponents
