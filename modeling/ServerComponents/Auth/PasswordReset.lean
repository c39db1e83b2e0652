import ServerComponents.Auth.Sessions

/-!
# Password resets

The table helper of the pending links, and the two transactions of the reset
helper: a request that mails a link, and the presentation of its secret.
-/

namespace ServerComponents
namespace Auth

open Relational Statements

namespace PasswordResetTokens

variable [Citext]

def deleteForPerson (personId : Nat) : Sql Unit :=
  Prog.exec (fun _ db =>
    .ok ((), { db with
      passwordResetTokens :=
        db.passwordResetTokens.delete (fun r => r.personId == personId) }))

def insertToken (personId : Nat) (tokenHash : String) (expiresAtUs : Int) : Sql Nat :=
  Prog.exec (fun env db => do
    let (row, table) ← orUniqueViolation (db.passwordResetTokens.insert? (fun id =>
      { id := id, personId := personId, tokenHash := tokenHash
        expiresAt := expiresAtUs, attempts := 0, createdAt := env.now }))
    pure (row.id, { db with passwordResetTokens := table }))

def replaceForPerson (personId : Nat) (tokenHash : String) (expiresAtUs : Int) :
    Sql Nat := do
  deleteForPerson personId
  insertToken personId tokenHash expiresAtUs

theorem wp_insertToken {env : Env} {db : AuthDb} {personId : Nat} {tokenHash : String}
    {expiresAtUs : Int} {post : Except Exn Nat -> AuthDb -> Prop}
    (herror : forall err, post (.error err) db)
    (hok : forall row table, table.rows = db.passwordResetTokens.rows ++ [row] ->
      row.personId = personId -> row.tokenHash = tokenHash -> row.attempts = 0 ->
      row.expiresAt = expiresAtUs ->
      post (.ok row.id) { db with passwordResetTokens := table }) :
    Prog.wp env (insertToken personId tokenHash expiresAtUs) post db := by
  rw [insertToken, Prog.wp_exec]
  cases hinsert : db.passwordResetTokens.insert? (fun id =>
      { id := id, personId := personId, tokenHash := tokenHash
        expiresAt := expiresAtUs, attempts := 0, createdAt := env.now }) with
  | none => exact herror _
  | some pair =>
      rcases Table.insert?_some hinsert with ⟨hrow, hrows, _⟩
      exact hok pair.1 pair.2 hrows (by rw [hrow]) (by rw [hrow]) (by rw [hrow])
        (by rw [hrow])

def Claimable (personId attemptLimit now : Nat) (r : PasswordResetToken) : Bool :=
  r.personId == personId && decide (r.attempts < attemptLimit) &&
    decide ((now : Int) < r.expiresAt)

def claimed (r : PasswordResetToken) : PasswordResetToken :=
  { r with attempts := r.attempts + 1 }

def incrementAttempts (personId attemptLimit : Nat) : Sql (Option PasswordResetToken) :=
  Prog.exec (fun env db => do
    let (rows, table) ← orUniqueViolation (db.passwordResetTokens.update?
      (Claimable personId attemptLimit env.now) claimed)
    pure (rows.head?, { db with passwordResetTokens := table }))

end PasswordResetTokens

inductive PasswordResetOutcome where
  | success
  | invalidLink
  | passwordRejected
  deriving Repr, DecidableEq

/-- `personId` is zero unless the outcome is a success. -/
structure PasswordResetResult where
  outcome : PasswordResetOutcome
  personId : Nat
  deriving Repr, DecidableEq

def PasswordResetResult.initial : PasswordResetResult where
  outcome := .invalidLink
  personId := 0

structure PasswordResetMail where
  email : String
  secret : String
  resetPath : String
  ttlMinutes : Int
  branding : TenantBranding
  sender : MailAddress
  deriving Repr, DecidableEq

/-- The person id that `RequestReset` returns, and the mail that it queues. -/
structure ResetRequested where
  personId : Nat
  mail : Option PasswordResetMail
  deriving Repr, DecidableEq

def updatePassword [Citext] (sodium : Sodium) (secrets : SecretsHelperPtr) (salt : Blob)
    (email password : String) : Sql Bool := do
  let person ← People.lookupPersonByEmail email
  match person with
  | none => pure false
  | some p =>
      if isVerified person then do
        let hash ←
          if secrets.isSome then hashPasswordWithSecrets sodium secrets salt password
          else Prog.ofExcept (sodium.hashPassword opsLimitInteractive
            memLimitInteractive salt password)
        People.updatePasswordHash p.id hash
        pure true
      else
        pure false

namespace PasswordResetHelper

def kAttemptLimit : Nat := 5
def kMinuteUs : Int := 60 * 1000000
def kDefaultTtlMinutes : Int := 60
def kDefaultResetPath := "reset-password"

variable [Citext] (sodium : Sodium)

def lookupTtlMinutes (secrets : SecretsHelper) : Sql Int :=
  Prog.tryCatch
    (do
      let text ← lookupSecret secrets Secrets.kAuthPasswordResetTtlMinutes
      let minutes ← Prog.ofExcept (stoll text)
      pure (if 0 < minutes then minutes else kDefaultTtlMinutes))
    (fun _ => pure kDefaultTtlMinutes)

def hashPresentedSecret (secret : String) : String :=
  match sodium.base64Decode secret with
  | .ok bytes => sodium.hashBinary bytes
  | .error _ => ""

/-- `secretBytes` are the random bytes that this call draws; `mail` says whether a
mail helper is there. -/
def requestReset (secrets : SecretsHelperPtr) (mail : Bool) (secretBytes : Blob)
    (email : String) : Sql ResetRequested :=
  match secrets with
  | none => throw (.invalidArgument "PasswordResetHelper::RequestReset - secrets is null")
  | some helper => do
      match ← People.lookupPersonByEmail email with
      | none => pure { personId := 0, mail := none }
      | some person => do
          let ttlMinutes ← lookupTtlMinutes helper
          let now ← nowUs
          let _ ← PasswordResetTokens.replaceForPerson person.id
            (sodium.hashBinary secretBytes) (addInt64 now (mulInt64 ttlMinutes kMinuteUs))
          let path ← lookupSecret helper Secrets.kWebsitePasswordResetLink
          let branding ← loadTenantBranding helper
          let sender ← loadSenderAddress helper
          pure
            { personId := person.id
              mail :=
                if mail then
                  some { email := person.email
                         secret := sodium.base64Encode secretBytes
                         resetPath := if path = "" then kDefaultResetPath else path
                         ttlMinutes := ttlMinutes, branding := branding, sender := sender }
                else none }

def finishReset (secrets : SecretsHelperPtr) (salt : Blob) (person : Person)
    (newPassword : String) : Sql PasswordResetResult := do
  if person.emailVerifiedAt.isNone then
    People.verifyPersonEmail person.email
  let updated ← updatePassword sodium secrets salt person.email newPassword
  if updated = false then
    throw (.runtimeError "PasswordResetHelper::CompleteReset - password update failed")
  else do
    People.setMustChangePassword person.id false
    People.clearLoginLockout person.id
    PasswordResetTokens.deleteForPerson person.id
    logoutPerson person.id
    pure { outcome := .success, personId := person.id }

def completeReset (secrets : SecretsHelperPtr) (salt : Blob)
    (email secret newPassword : String) : Sql PasswordResetResult :=
  if newPassword = "" then
    pure { PasswordResetResult.initial with outcome := .passwordRejected }
  else do
    match ← People.lookupPersonByEmail email with
    | none => pure PasswordResetResult.initial
    | some person => do
        -- the attempt is claimed before the comparison, right or wrong
        match ← PasswordResetTokens.incrementAttempts person.id kAttemptLimit with
        | none => pure PasswordResetResult.initial
        | some link =>
            if link.tokenHash ≠ hashPresentedSecret sodium secret then do
              if kAttemptLimit ≤ link.attempts then
                PasswordResetTokens.deleteForPerson person.id
              pure PasswordResetResult.initial
            else
              finishReset sodium secrets salt person newPassword

/-!
# What the transactions do
-/

/-- The text is the hash of the password, at some cost and with some salt. -/
def HashOf (password hash : String) : Prop :=
  exists opsLimit memLimitBytes salt,
    sodium.pwhash opsLimit memLimitBytes salt password = some hash

def resetRow (env : Env) (hash : String) (p : Person) : Person :=
  { p with
    emailVerifiedAt := some (p.emailVerifiedAt.getD env.now)
    passwordHash := hash, mustChangePassword := false
    failedLoginAttempts := 0, lockedUntil := none, updatedAt := env.now }

structure ResetDone (password : String) (env : Env) (db db' : AuthDb) (p : Person) :
    Prop where
  people : exists hash, HashOf sodium password hash ∧
    db'.people.rows = db.people.rows.map (fun r =>
      if r.id == p.id then resetRow env hash p else r)
  tokens : db'.passwordResetTokens =
    db.passwordResetTokens.delete (fun r => r.personId == p.id)
  deviceTokens : db'.deviceTokens = db.deviceTokens.delete (fun r => r.personId == p.id)
  sessions : db'.sessions = db.sessions.delete (fun r => r.personId == p.id)
  verifications : db'.emailVerifications = db.emailVerifications

section Effects

variable {sodium} {env : Env} {db : AuthDb}

omit [Citext] in
theorem hashPassword_ok {opsLimit memLimitBytes : Nat} {salt : Blob}
    {password hash : String}
    (h : sodium.hashPassword opsLimit memLimitBytes salt password = .ok hash) :
    HashOf sodium password hash := by
  unfold Sodium.hashPassword at h
  split at h
  · cases h
    exact ⟨_, _, _, by assumption⟩
  · cases h

variable {secrets : SecretsHelperPtr}

theorem wp_hashPasswordWithSecrets {salt : Blob}
    {password : String} {post : Except Exn String -> AuthDb -> Prop}
    (herror : forall err, post (.error err) db)
    (hok : forall hash, HashOf sodium password hash -> post (.ok hash) db) :
    Prog.wp env (hashPasswordWithSecrets sodium secrets salt password) post db := by
  have hhash : forall opsLimit memLimitBytes,
      post (sodium.hashPassword opsLimit memLimitBytes salt password) db := by
    intro opsLimit memLimitBytes
    cases h : sodium.hashPassword opsLimit memLimitBytes salt password with
    | error err => exact herror err
    | ok hash => exact hok hash (hashPassword_ok h)
  cases secrets with
  | none =>
      simp only [hashPasswordWithSecrets, Prog.wp_ofExcept]
      exact hhash _ _
  | some helper =>
      simp only [hashPasswordWithSecrets, lookupSecret, Prog.bind_eq, Prog.wp_bind,
        Prog.wp_ask]
      cases helper.lookupSecret db Secrets.kAuthArgon2OpsLimit with
      | error err => exact herror err
      | ok opsStr =>
          cases helper.lookupSecret db Secrets.kAuthArgon2MemLimitKb with
          | error err => exact herror err
          | ok memStr =>
              simp only [Prog.wp_ofExcept]
              exact hhash _ _

theorem wp_updatePassword {salt : Blob}
    {email password : String} {p : Person} {post : Except Exn Bool -> AuthDb -> Prop}
    (hp : People.personByEmail db email = some p) (herror : forall err, post (.error err) db)
    (hrefused : isVerified (some p) = false -> post (.ok false) db)
    (hok : forall hash db', HashOf sodium password hash ->
      People.RowReplaced db db' p
        { p with passwordHash := hash, updatedAt := env.now } ->
      post (.ok true) db') :
    Prog.wp env (updatePassword sodium secrets salt email password) post db := by
  simp only [updatePassword, People.lookupPersonByEmail, Prog.bind_eq, Prog.wp_bind,
    Prog.wp_ask, hp]
  have hmem := (People.personByEmail_some hp).1
  have hstore : forall hash, HashOf sodium password hash ->
      Prog.wp env ((People.updatePasswordHash p.id hash).bind (fun _ => .done true))
        post db := by
    intro hash hhash
    rw [Prog.wp_bind]
    apply People.wp_updatePersonRow_of_mem hmem rfl (fun _ => ⟨rfl, rfl⟩)
    intro db' hreplaced
    exact hok hash db' hhash hreplaced
  split
  · split
    · rw [Prog.wp_bind]
      exact wp_hashPasswordWithSecrets herror hstore
    · rw [Prog.wp_bind, Prog.wp_ofExcept]
      cases h : sodium.hashPassword opsLimitInteractive memLimitInteractive salt
          password with
      | error err => exact herror err
      | ok hash => exact hstore hash (hashPassword_ok h)
  · rename_i hverified
    exact hrefused (by simpa using hverified)

theorem wp_verifyIfNeeded {p : Person} {post : Except Exn Unit -> AuthDb -> Prop}
    (hp : p ∈ db.people.rows) (herror : forall err, post (.error err) db)
    (hok : forall db' row, People.RowReplaced db db' p row ->
      row.emailVerifiedAt = some (p.emailVerifiedAt.getD env.now) ->
      (forall hash, resetRow env hash row = resetRow env hash p) -> post (.ok ()) db') :
    Prog.wp env (if p.emailVerifiedAt.isNone then People.verifyPersonEmail p.email
      else pure ()) post db := by
  cases hverified : p.emailVerifiedAt with
  | none =>
      simp only [Option.isNone_none, if_true]
      apply People.wp_verifyPersonEmail
      · intro what
        exact herror _
      · intro q db' hq _ hreplaced
        rw [People.personByEmail_of_mem hp] at hq
        cases hq
        apply hok db' _ hreplaced
        · simp [People.markVerified, hverified]
        · intro hash
          simp [resetRow, People.markVerified, hverified]
  | some time =>
      simp only [Option.isNone_some, Bool.false_eq_true, if_false, Prog.pure_eq,
        Prog.wp_done]
      exact hok db p (People.RowReplaced.refl hp) (by simp [hverified]) (fun _ => rfl)

/-- A finished reset rewrites the person's row and removes the person's links,
device tokens and sessions. -/
theorem wp_finishReset {salt : Blob} {newPassword : String}
    {p : Person} {post : Except Exn PasswordResetResult -> AuthDb -> Prop} (hp : p ∈ db.people.rows)
    (herror : forall err db', post (.error err) db')
    (hok : forall db', ResetDone sodium newPassword env db db' p ->
      post (.ok { outcome := .success, personId := p.id }) db') :
    Prog.wp env (finishReset sodium secrets salt p newPassword) post db := by
  have hprog : finishReset sodium secrets salt p newPassword =
      (if p.emailVerifiedAt.isNone then People.verifyPersonEmail p.email
        else pure ()).bind (fun _ =>
          (updatePassword sodium secrets salt p.email newPassword).bind (fun updated =>
            if updated = false then
              .fail (.runtimeError
                "PasswordResetHelper::CompleteReset - password update failed")
            else
              (People.setMustChangePassword p.id false).bind (fun _ =>
                (People.clearLoginLockout p.id).bind (fun _ =>
                  (PasswordResetTokens.deleteForPerson p.id).bind (fun _ =>
                    (logoutPerson p.id).bind (fun _ =>
                      .done { outcome := .success, personId := p.id })))))) := by
    unfold finishReset
    cases p.emailVerifiedAt <;> rfl
  rw [hprog, Prog.wp_bind]
  apply wp_verifyIfNeeded hp (fun err => herror err db)
  intro db1 p1 h1 hverified1 hrow1
  have hfind1 : People.personByEmail db1 p.email = some p1 := by
    rw [← h1.email_eq]
    exact People.personByEmail_of_mem h1.row_mem
  rw [Prog.wp_bind]
  apply wp_updatePassword hfind1 (fun err => herror err db1)
  · intro hrefused
    simp [isVerified, hverified1] at hrefused
  intro hash db2 hhash h2
  simp only [Bool.true_eq_false, if_false, Prog.wp_bind]
  apply People.wp_updatePersonRow_of_mem h2.row_mem h1.id_eq.symm (fun _ => ⟨rfl, rfl⟩)
  intro db3 h3
  apply People.wp_updatePersonRow_of_mem h3.row_mem h1.id_eq.symm (fun _ => ⟨rfl, rfl⟩)
  intro db4 h4
  have hreplaced := ((h1.trans h2).trans h3).trans h4
  simp only [PasswordResetTokens.deleteForPerson, Prog.wp_exec, wp_logoutPerson,
    Prog.wp_done]
  apply hok
  have hrow : resetRow env hash p =
      { p1 with
        passwordHash := hash, mustChangePassword := false, failedLoginAttempts := 0
        lockedUntil := none, updatedAt := env.now } := by
    rw [← hrow1 hash]
    simp [resetRow, hverified1]
  have hrest := hreplaced.rest_eq
  refine ⟨⟨hash, hhash, ?_⟩, ?_, ?_, ?_, ?_⟩
  · rw [hrow]
    exact hreplaced.rows_eq
  · rw [hrest]
  · rw [hrest]
  · rw [hrest]
  · rw [hrest]

/-- The person has a link that a presentation can claim. -/
structure ClaimedLink (env : Env) (db : AuthDb) (p : Person) (link : PasswordResetToken) :
    Prop where
  mem : link ∈ db.passwordResetTokens.rows
  claimable : PasswordResetTokens.Claimable p.id kAttemptLimit env.now link = true

structure AttemptClaimed (db db' : AuthDb) (link : PasswordResetToken) : Prop where
  rows : db'.passwordResetTokens.rows = db.passwordResetTokens.rows.map (fun r =>
    if r.id == link.id then PasswordResetTokens.claimed link else r)
  nextId : db'.passwordResetTokens.nextId = db.passwordResetTokens.nextId
  rest : db' = { db with passwordResetTokens := db'.passwordResetTokens }

omit [Citext] in
theorem claimable_person {personId limit now : Nat} {r : PasswordResetToken}
    (h : PasswordResetTokens.Claimable personId limit now r = true) :
    r.personId = personId := by
  simp only [PasswordResetTokens.Claimable, Bool.and_eq_true, beq_iff_eq] at h
  exact h.1.1

theorem token_eq_of_person {r r' : PasswordResetToken}
    (hr : r ∈ db.passwordResetTokens.rows) (hr' : r' ∈ db.passwordResetTokens.rows)
    (hperson : r.personId = r'.personId) : r = r' :=
  Table.eq_of_clash PasswordResetToken.Clash.symm hr hr' (Or.inr hperson)

theorem token_eq_of_id {r r' : PasswordResetToken}
    (hr : r ∈ db.passwordResetTokens.rows) (hr' : r' ∈ db.passwordResetTokens.rows)
    (hid : r.id = r'.id) : r = r' :=
  Table.eq_of_clash PasswordResetToken.Clash.symm hr hr' (Or.inl hid)

theorem wp_incrementAttempts {p : Person}
    {post : Except Exn (Option PasswordResetToken) -> AuthDb -> Prop}
    (hnone : (forall link, Not (ClaimedLink env db p link)) -> post (.ok none) db)
    (hsome : forall link db', ClaimedLink env db p link -> AttemptClaimed db db' link ->
      post (.ok (some (PasswordResetTokens.claimed link))) db') :
    Prog.wp env (PasswordResetTokens.incrementAttempts p.id kAttemptLimit) post db := by
  rw [PasswordResetTokens.incrementAttempts, Prog.wp_exec]
  have hkeep : forall r r', r ∈ db.passwordResetTokens.rows ->
      r' ∈ db.passwordResetTokens.rows ->
      PasswordResetToken.Clash
        (if PasswordResetTokens.Claimable p.id kAttemptLimit env.now r then
          PasswordResetTokens.claimed r else r)
        (if PasswordResetTokens.Claimable p.id kAttemptLimit env.now r' then
          PasswordResetTokens.claimed r' else r') -> PasswordResetToken.Clash r r' := by
    intro r r' _ _ hclash
    split at hclash <;> split at hclash <;> exact hclash
  rcases Table.update?_isSome _ PasswordResetTokens.claimed hkeep with
    ⟨changed, table, hupdate⟩
  rcases Table.update?_some hupdate with ⟨hchanged, hrows, hnextId⟩
  simp only [hupdate, orUniqueViolation, bind, Except.bind, pure, Except.pure]
  cases hfilter : db.passwordResetTokens.rows.filter
      (PasswordResetTokens.Claimable p.id kAttemptLimit env.now) with
  | nil =>
      have hno : forall r, r ∈ db.passwordResetTokens.rows ->
          PasswordResetTokens.Claimable p.id kAttemptLimit env.now r = false := by
        intro r hr
        have h := List.filter_eq_nil_iff.mp hfilter r hr
        simpa using h
      have hsame : table = db.passwordResetTokens := by
        apply Table.eq_of_rows _ hnextId
        rw [hrows, List.map_congr_left (g := id)]
        · exact List.map_id _
        · intro r hr
          rw [hno r hr]
          rfl
      rw [hchanged, hfilter, hsame]
      apply hnone
      intro link hlink
      have h := hno link hlink.mem
      rw [hlink.claimable] at h
      cases h
  | cons link rest =>
      have hin : link ∈ db.passwordResetTokens.rows.filter
          (PasswordResetTokens.Claimable p.id kAttemptLimit env.now) := by
        rw [hfilter]
        exact List.mem_cons_self
      rcases List.mem_filter.mp hin with ⟨hmem, hclaimable⟩
      rw [hchanged, hfilter]
      apply hsome link _ ⟨hmem, hclaimable⟩
      refine ⟨?_, hnextId, rfl⟩
      simp only [hrows]
      apply List.map_congr_left
      intro r hr
      by_cases hid : r.id = link.id
      · rw [token_eq_of_id hr hmem hid]
        simp [hclaimable]
      · have hnot : PasswordResetTokens.Claimable p.id kAttemptLimit env.now r = false := by
          apply Bool.eq_false_iff.mpr
          intro hclaimable'
          apply hid
          rw [token_eq_of_person hr hmem]
          rw [claimable_person hclaimable, claimable_person hclaimable']
        simp [hid, hnot]

theorem AttemptClaimed.delete_eq {db' : AuthDb} {p : Person} {link : PasswordResetToken}
    (h : AttemptClaimed db db' link) (hlink : ClaimedLink env db p link) :
    db'.passwordResetTokens.delete (fun r => r.personId == p.id) =
      db.passwordResetTokens.delete (fun r => r.personId == p.id) := by
  refine Table.eq_of_rows ?_ h.nextId
  have hperson := claimable_person hlink.claimable
  have hkept : forall r, r ∈ db.passwordResetTokens.rows ->
      (! ((if r.id == link.id then PasswordResetTokens.claimed link else r).personId ==
        p.id)) = ! (r.personId == p.id) := by
    intro r hr
    split
    · rename_i hid
      rw [token_eq_of_id hr hlink.mem (by simpa using hid)]
      rfl
    · rfl
  simp only [Table.delete, h.rows, List.filter_map]
  rw [List.filter_congr (q := fun r => ! (r.personId == p.id)) hkept,
    List.map_congr_left (g := id)]
  · exact List.map_id _
  · intro r hr
    rcases List.mem_filter.mp hr with ⟨hmem, hother⟩
    split
    · rename_i hid
      rw [token_eq_of_id hmem hlink.mem (by simpa using hid), hperson] at hother
      simp at hother
    · rfl

variable (sodium) in
inductive CompleteEffect (db : AuthDb) (env : Env) (email secret newPassword : String) :
    Except Exn PasswordResetResult -> AuthDb -> Prop
  | rejected (hempty : newPassword = "") :
      CompleteEffect db env email secret newPassword
        (.ok { outcome := .passwordRejected, personId := 0 }) db
  | refused (hnone : forall p link, People.personByEmail db email = some p ->
      Not (ClaimedLink env db p link)) :
      CompleteEffect db env email secret newPassword (.ok PasswordResetResult.initial) db
  | guessed {p : Person} {link : PasswordResetToken} {db' : AuthDb}
      (hpassword : newPassword ≠ "") (hp : People.personByEmail db email = some p)
      (hlink : ClaimedLink env db p link)
      (hwrong : link.tokenHash ≠ hashPresentedSecret sodium secret)
      (hclaimed : AttemptClaimed db db' link)
      (hattempts : link.attempts + 1 < kAttemptLimit) :
      CompleteEffect db env email secret newPassword (.ok PasswordResetResult.initial) db'
  | exhausted {p : Person} {link : PasswordResetToken} {db' : AuthDb}
      (hpassword : newPassword ≠ "") (hp : People.personByEmail db email = some p)
      (hlink : ClaimedLink env db p link)
      (hwrong : link.tokenHash ≠ hashPresentedSecret sodium secret)
      (hremoved : db'.passwordResetTokens =
        db.passwordResetTokens.delete (fun r => r.personId == p.id))
      (hrest : db' = { db with passwordResetTokens := db'.passwordResetTokens }) :
      CompleteEffect db env email secret newPassword (.ok PasswordResetResult.initial) db'
  | succeeded {p : Person} {link : PasswordResetToken} {db' : AuthDb}
      (hpassword : newPassword ≠ "") (hp : People.personByEmail db email = some p)
      (hlink : ClaimedLink env db p link)
      (hright : link.tokenHash = hashPresentedSecret sodium secret)
      (hdone : ResetDone sodium newPassword env db db' p) :
      CompleteEffect db env email secret newPassword
        (.ok { outcome := .success, personId := p.id }) db'
  | aborted {p : Person} {link : PasswordResetToken} (err : Exn) (db' : AuthDb)
      (hp : People.personByEmail db email = some p) (hlink : ClaimedLink env db p link)
      (hright : link.tokenHash = hashPresentedSecret sodium secret) :
      CompleteEffect db env email secret newPassword (.error err) db'

theorem wp_completeReset {salt : Blob} {email secret newPassword : String} :
    Prog.wp env (completeReset sodium secrets salt email secret newPassword)
      (CompleteEffect sodium db env email secret newPassword) db := by
  unfold completeReset
  split
  · rename_i hempty
    exact CompleteEffect.rejected hempty
  rename_i hpassword
  simp only [People.lookupPersonByEmail, Prog.bind_eq, Prog.wp_bind, Prog.wp_ask]
  cases hp : People.personByEmail db email with
  | none =>
      apply CompleteEffect.refused
      intro p link hp'
      rw [hp] at hp'
      cases hp'
  | some p =>
      simp only [Prog.wp_bind]
      apply wp_incrementAttempts
      · intro hnone
        apply CompleteEffect.refused
        intro p' link hp'
        rw [hp] at hp'
        cases hp'
        exact hnone link
      · intro link db1 hlink hclaimed
        dsimp only
        split
        · rename_i hwrong
          split
          · simp only [Prog.wp_bind, PasswordResetTokens.deleteForPerson, Prog.wp_exec,
              Prog.pure_eq, Prog.wp_done, hclaimed.delete_eq hlink]
            rw [hclaimed.rest]
            exact CompleteEffect.exhausted hpassword hp hlink hwrong rfl rfl
          · rename_i hattempts
            apply CompleteEffect.guessed hpassword hp hlink hwrong hclaimed
            simpa [PasswordResetTokens.claimed] using hattempts
        · rename_i hmatch
          have hright : link.tokenHash = hashPresentedSecret sodium secret := by
            simpa [PasswordResetTokens.claimed] using hmatch
          have hmem : p ∈ db1.people.rows := by
            rw [hclaimed.rest]
            exact (People.personByEmail_some hp).1
          apply wp_finishReset hmem
          · intro err db'
            exact CompleteEffect.aborted err db' hp hlink hright
          · intro db' hdone
            apply CompleteEffect.succeeded hpassword hp hlink hright
            · have hrest := hclaimed.rest
              refine ⟨?_, ?_, ?_, ?_, ?_⟩
              · rcases hdone.people with ⟨hash, hhash, hrows⟩
                refine ⟨hash, hhash, ?_⟩
                rw [hrows, hrest]
              · rw [hdone.tokens, hclaimed.delete_eq hlink]
              · rw [hdone.deviceTokens, hrest]
              · rw [hdone.sessions, hrest]
              · rw [hdone.verifications, hrest]

variable (sodium) in
inductive RequestEffect (db : AuthDb) (env : Env) (sends : Bool) (secretBytes : Blob)
    (email : String) :
    Except Exn ResetRequested -> AuthDb -> Prop
  | unknown (hnone : People.personByEmail db email = none) :
      RequestEffect db env sends secretBytes email (.ok { personId := 0, mail := none }) db
  | issued {p : Person} {row : PasswordResetToken} {ttlMinutes : Int}
      {table : Table PasswordResetToken PasswordResetToken.Clash}
      {mail : Option PasswordResetMail} (hp : People.personByEmail db email = some p)
      (hmail : sends = true -> mail.map PasswordResetMail.email = some p.email)
      (hperson : row.personId = p.id) (hhash : row.tokenHash = sodium.hashBinary secretBytes)
      (hattempts : row.attempts = 0)
      (hexpiry : row.expiresAt = addInt64 env.now (mulInt64 ttlMinutes kMinuteUs))
      (hrows : table.rows =
        db.passwordResetTokens.rows.filter (fun r => ! (r.personId == p.id)) ++ [row]) :
      RequestEffect db env sends secretBytes email (.ok { personId := p.id, mail := mail })
        { db with passwordResetTokens := table }
  | aborted (err : Exn) (db' : AuthDb) : RequestEffect db env sends secretBytes email
      (.error err) db'

theorem readOnly_lookupTtlMinutes (secrets : SecretsHelper) :
    Prog.ReadOnly (lookupTtlMinutes secrets) := by
  apply Prog.ReadOnly.tryCatch
  · apply Prog.ReadOnly.bind Prog.readOnly_ask
    intro text
    exact Prog.ReadOnly.bind Prog.readOnly_ofExcept (fun _ => trivial)
  · exact fun _ => trivial

theorem wp_requestReset {mail : Bool} {secretBytes : Blob} {email : String} :
    Prog.wp env (requestReset sodium secrets mail secretBytes email)
      (RequestEffect sodium db env mail secretBytes email) db := by
  cases secrets with
  | none => exact RequestEffect.aborted _ _
  | some helper =>
      simp only [requestReset, People.lookupPersonByEmail, Prog.bind_eq, Prog.wp_bind,
        Prog.wp_ask]
      cases hp : People.personByEmail db email with
      | none => exact RequestEffect.unknown hp
      | some p =>
          simp only [Prog.wp_bind]
          apply (readOnly_lookupTtlMinutes helper).wp
          intro ttl
          cases ttl with
          | error err => exact RequestEffect.aborted _ _
          | ok ttlMinutes =>
              simp only [nowUs, PasswordResetTokens.replaceForPerson,
                PasswordResetTokens.deleteForPerson, Prog.bind_eq, Prog.wp_bind,
                Prog.wp_ask]
              rw [Prog.wp_exec]
              apply PasswordResetTokens.wp_insertToken
              · intro err
                exact RequestEffect.aborted _ _
              intro row table hrows hperson hhash hattempts hexpiry
              apply Prog.readOnly_ask.wp
              intro path
              cases path with
              | error err => exact RequestEffect.aborted _ _
              | ok path =>
                  apply readOnly_loadTenantBranding.wp
                  intro branding
                  cases branding with
                  | error err => exact RequestEffect.aborted _ _
                  | ok branding =>
                      apply readOnly_loadSenderAddress.wp
                      intro sender
                      cases sender with
                      | error err => exact RequestEffect.aborted _ _
                      | ok sender =>
                          refine RequestEffect.issued hp ?_ hperson hhash hattempts
                            hexpiry hrows
                          intro hsends
                          simp [hsends]

end Effects

end PasswordResetHelper

end Auth
end ServerComponents
