import ServerComponents.Auth.AccountEndpoints
import ServerComponents.Auth.EmailVerificationProtocol
import ServerComponents.Statements.Maintains

/-!
# The fields of an account

Registration refuses empty fields.  Over any sequence of registrations, profile
updates, password changes and resets the stored fields keep its rules, except where a
password change, which checks nothing, replaces a password by an empty one.
-/

namespace ServerComponents
namespace Auth

open Relational Statements Rest PasswordResetHelper

section Fields

variable [Citext] (sodium : Sodium)

structure FieldRules (p : Person) : Prop where
  firstName : p.firstName ≠ ""
  lastName : p.lastName ≠ ""
  email : p.email ≠ ""
  password : exists password, password ≠ "" ∧ HashOf sodium password p.passwordHash

def FieldRulesKept (db : AuthDb) : Prop :=
  forall p, p ∈ db.people.rows -> FieldRules sodium p

/-- The program keeps the rules of the fields at each of its writes. -/
abbrev KeepsRules {a : Type} (p : Sql a) : Prop :=
  Prog.Maintains (FieldRulesKept sodium) (fun _ => True) p

inductive AccountRequest where
  | register (salt tokenBytes : Blob) (message : Json)
  | setUserInfo (sessionPersonId : Int) (message : Json)
  | updateUserPassword (salt : Blob) (sessionPersonId : Int) (message : Json)
      (ip userAgent : String)
  | resetPassword (salt : Blob) (message : Json) (ip userAgent : String)

structure Application where
  hook : PostRegisterHook
  sendMail : VerifyMail -> Except Exn Unit

structure AccountEvent where
  env : Env
  secrets : SecretsHelperPtr
  request : AccountRequest

namespace AccountEvent

def program (app : Application) (e : AccountEvent) : Sql Unit :=
  match e.request with
  | .register salt tokenBytes message => do
      let _ ← Auth.register sodium e.secrets app.hook app.sendMail salt tokenBytes message
      pure ()
  | .setUserInfo sessionPersonId message => do
      let _ ← Auth.setUserInfo sessionPersonId message
      pure ()
  | .updateUserPassword salt sessionPersonId message ip userAgent => do
      let _ ← Auth.updateUserPassword sodium e.secrets salt sessionPersonId message ip
        userAgent
      pure ()
  | .resetPassword salt message ip userAgent => do
      let _ ← Auth.resetPassword sodium e.secrets salt message ip userAgent
      pure ()

def perform (app : Application) (db : AuthDb) (e : AccountEvent) : AuthDb :=
  (Prog.transact e.env (e.program sodium app) db).2

/-- The request replaces the right password of the session's person by an empty one. -/
def EmptiesPassword (db : AuthDb) (e : AccountEvent) : Prop :=
  match e.request with
  | .updateUserPassword _ sessionPersonId message _ _ =>
      textMember message "new_password" = some "" ∧ 0 < sessionPersonId ∧
        exists p oldPassword, People.personById db sessionPersonId.toNat = some p ∧
          p.emailVerifiedAt.isSome = true ∧
          textMember message "old_password" = some oldPassword ∧
          sodium.verifyPassword oldPassword p.passwordHash = true
  | _ => False

end AccountEvent

def HookKeepsPeople (app : Application) : Prop :=
  forall onRegistered, app.hook = some onRegistered -> forall personId email,
    Prog.Keeps (fun db : AuthDb => db.people) (fun _ => True) (onRegistered personId email)

/-!
# What the statements keep
-/

variable {sodium}

theorem maintains_lookup {a : Type} {inv : AuthDb -> Prop}
    {read : Env -> AuthDb -> Except Exn a} :
    Prog.Maintains inv (fun _ => True) (Prog.ask read) :=
  Prog.maintains_ask (fun _ _ _ _ _ => trivial)

theorem maintains_hashPasswordWithSecrets {inv : AuthDb -> Prop} (secrets : SecretsHelperPtr)
    (salt : Blob) (password : String) :
    Prog.Maintains inv (HashOf sodium password)
      (hashPasswordWithSecrets sodium secrets salt password) := by
  cases secrets with
  | none => exact Prog.maintains_ofExcept (fun _ h => hashPassword_ok h)
  | some helper =>
      apply Prog.Maintains.bind maintains_lookup
      intro opsStr _
      apply Prog.Maintains.bind maintains_lookup
      intro memStr _
      exact Prog.maintains_ofExcept (fun _ h => hashPassword_ok h)

theorem maintains_addPerson {email firstName lastName password hash : String}
    (hemail : email ≠ "") (hfirst : firstName ≠ "") (hlast : lastName ≠ "")
    (hpassword : password ≠ "") (hhash : HashOf sodium password hash) :
    KeepsRules sodium (People.addPerson email firstName lastName hash) := by
  apply Prog.maintains_exec
  intro env db reply db' hinv hwrite
  rcases exceptBind_ok hwrite with ⟨⟨row, table⟩, hinsert, hdb⟩
  cases hdb
  rcases Table.insert?_some (orUniqueViolation_ok hinsert) with ⟨hrow, hrows, _⟩
  refine ⟨?_, trivial⟩
  intro p hp
  change p ∈ table.rows at hp
  rw [hrows, List.mem_append, List.mem_singleton] at hp
  rcases hp with hp | hp
  · exact hinv p hp
  · rw [hp, hrow]
    exact ⟨hfirst, hlast, hemail, password, hpassword, hhash⟩

theorem fieldRulesKept_updateById {db db' : AuthDb} {id : Nat} {change : Person -> Person}
    (hinv : FieldRulesKept sodium db)
    (hchange : forall p, FieldRules sodium p -> FieldRules sodium (change p))
    (hupdate : People.updateById db id change = .ok db') : FieldRulesKept sodium db' := by
  rcases exceptBind_ok hupdate with ⟨⟨changed, table⟩, htable, hdb⟩
  cases hdb
  intro p hp
  rcases (Table.mem_update? (orUniqueViolation_ok htable) p).mp hp with
    ⟨hmem, _⟩ | ⟨q, hq, _, hp⟩
  · exact hinv p hmem
  · rw [← hp]
    exact hchange q (hinv q hq)

variable {personId : Nat}

theorem maintains_updatePersonRow {change : Env -> Person -> Person}
    (hchange : forall env p, FieldRules sodium p -> FieldRules sodium (change env p)) :
    KeepsRules sodium (People.updatePersonRow personId change) := by
  have hwrites : KeepsRules sodium (Prog.exec (People.updatePersonReturning personId
        (fun env p => .ok (change env p)))) := by
    apply Prog.maintains_exec
    intro env db reply db' hinv hwrite
    refine ⟨?_, trivial⟩
    unfold People.updatePersonReturning at hwrite
    cases hfind : People.personById db personId with
    | none =>
        rw [hfind] at hwrite
        cases hwrite
        exact hinv
    | some p =>
        rw [hfind] at hwrite
        rcases exceptBind_ok hwrite with ⟨row, hrow, hrest⟩
        cases hrow
        rcases exceptBind_ok hrest with ⟨db'', hupdate, hdb⟩
        cases hdb
        have hp := hinv p (People.personById_some hfind).1
        exact fieldRulesKept_updateById hinv (fun _ _ => hchange env p hp) hupdate
  exact hwrites.bind (fun _ _ => trivial)

theorem maintains_of_people {a : Type} {p : Sql a}
    (h : Prog.Keeps (fun db : AuthDb => db.people) (fun _ => True) p) : KeepsRules sodium p := by
  let invariant : Table Person Person.Clash -> Prop :=
    fun people => forall q, q ∈ people.rows -> FieldRules sodium q
  have hmaintains : Prog.Maintains (fun db : AuthDb => invariant db.people) (fun _ => True) p :=
    h.maintains
  exact hmaintains

theorem keeps_exec_people {a : Type} {write : Env -> AuthDb -> Except Exn (a × AuthDb)}
    (h : forall env db reply db', write env db = .ok (reply, db') -> db'.people = db.people) :
    Prog.Keeps (fun db : AuthDb => db.people) (fun _ => True) (Prog.exec write) :=
  Prog.keeps_exec (fun env db reply db' hwrite => ⟨h env db reply db' hwrite, trivial⟩)
    (fun _ _ _ _ => trivial)

theorem maintains_recordEvent {kind : AuthEventKind} {personId : Int}
    {ip userAgent detailJson : String} :
    KeepsRules sodium (AuthEvents.recordEvent kind personId ip userAgent detailJson) := by
  apply maintains_of_people
  apply keeps_exec_people
  intro env db reply db' hwrite
  cases hwrite
  rfl

theorem maintains_logoutPerson : KeepsRules sodium (logoutPerson personId) := by
  apply maintains_of_people
  apply Prog.keeps_bind
  apply Prog.keeps_exec
  · intro env db reply db' hwrite
    cases hwrite
    refine ⟨rfl, ?_⟩
    apply keeps_exec_people
    intro env db reply db' hwrite
    cases hwrite
    rfl
  · exact fun _ _ _ _ => trivial

theorem maintains_verifyPersonEmail {email : String} :
    KeepsRules sodium (People.verifyPersonEmail email) := by
  apply Prog.Maintains.bind maintains_lookup
  intro person _
  cases person with
  | none => exact trivial
  | some p =>
      dsimp only
      split
      · exact trivial
      · apply Prog.maintains_exec
        intro env db reply db' hinv hwrite
        rcases exceptBind_ok hwrite with ⟨⟨changed, table⟩, htable, hdb⟩
        cases hdb
        refine ⟨?_, trivial⟩
        intro q hq
        rcases (Table.mem_update? (orUniqueViolation_ok htable) q).mp hq with
          ⟨hmem, _⟩ | ⟨r, hr, _, hq⟩
        · exact hinv q hmem
        · rw [← hq]
          have hrules := hinv r hr
          exact ⟨hrules.firstName, hrules.lastName, hrules.email, hrules.password⟩

variable {secrets : SecretsHelperPtr}

theorem maintains_updatePassword {salt : Blob}
    {email password : String} (hpassword : password ≠ "") :
    KeepsRules sodium (updatePassword sodium secrets salt email password) := by
  have hstore : forall (p : Person) hash, HashOf sodium password hash ->
      KeepsRules sodium ((People.updatePasswordHash p.id hash).bind (fun _ => .done true)) := by
    intro p hash hhash
    have hrow : KeepsRules sodium (People.updatePasswordHash p.id hash) := by
      apply maintains_updatePersonRow
      intro env q hrules
      exact ⟨hrules.firstName, hrules.lastName, hrules.email, password, hpassword, hhash⟩
    exact hrow.bind (fun _ _ => trivial)
  apply Prog.Maintains.bind maintains_lookup
  intro person _
  cases person with
  | none => exact trivial
  | some p =>
      dsimp only
      split
      · split
        · exact Prog.Maintains.bind (maintains_hashPasswordWithSecrets secrets salt password)
            (hstore p)
        · exact Prog.Maintains.bind (Prog.maintains_ofExcept (fun _ h => hashPassword_ok h))
            (hstore p)
      · exact trivial

theorem maintains_setMustChangePassword {value : Bool} :
    KeepsRules sodium (People.setMustChangePassword personId value) := by
  apply maintains_updatePersonRow
  intro env p hrules
  exact ⟨hrules.firstName, hrules.lastName, hrules.email, hrules.password⟩

theorem maintains_clearLoginLockout :
    KeepsRules sodium (People.clearLoginLockout personId) := by
  apply maintains_updatePersonRow
  intro env p hrules
  exact ⟨hrules.firstName, hrules.lastName, hrules.email, hrules.password⟩

theorem maintains_deleteResetTokens :
    KeepsRules sodium (PasswordResetTokens.deleteForPerson personId) := by
  apply maintains_of_people
  apply keeps_exec_people
  intro env db reply db' hwrite
  cases hwrite
  rfl

theorem maintains_addEmailVerification {tokenHash : String} :
    KeepsRules sodium (EmailVerifications.addEmailVerificationById secrets personId tokenHash) := by
  have hdelete : KeepsRules sodium (EmailVerifications.deleteForPerson personId) := by
    apply maintains_of_people
    apply keeps_exec_people
    intro env db reply db' hwrite
    cases hwrite
    rfl
  have hinsert : forall expiresAt, KeepsRules sodium
      (EmailVerifications.insertVerification personId tokenHash expiresAt) := by
    intro expiresAt
    apply maintains_of_people
    apply keeps_exec_people
    intro env db reply db' hwrite
    rcases exceptBind_ok hwrite with ⟨pair, _, hdb⟩
    cases hdb
    rfl
  apply Prog.Maintains.bind hdelete
  intro _ _
  apply Prog.Maintains.bind maintains_lookup
  intro nowMicros _
  apply Prog.Maintains.bind (readOnly_lookupRequired _ _ _).maintains
  intro windowMicros _
  exact hinsert _

/-!
# What the requests keep
-/

theorem maintains_preliminaryRegisterPerson
    {salt tokenBytes : Blob} {personInfo : PersonInfo} {password : String}
    (hemail : personInfo.email ≠ "") (hfirst : personInfo.firstName ≠ "")
    (hlast : personInfo.lastName ≠ "") (hpassword : password ≠ "") : KeepsRules sodium
      (preliminaryRegisterPerson sodium secrets salt tokenBytes personInfo password true) := by
  apply Prog.Maintains.bind (maintains_hashPasswordWithSecrets secrets salt password)
  intro hash hhash
  apply Prog.Maintains.bind (maintains_addPerson hemail hfirst hlast hpassword hhash)
  intro id _
  apply Prog.Maintains.bind maintains_addEmailVerification
  intro _ _
  cases secrets with
  | none => exact trivial
  | some helper =>
      apply Prog.Maintains.bind (readOnly_composeVerifyMail helper personInfo _).maintains
      exact fun _ _ => trivial

theorem maintains_runPostRegisterHook {app : Application} (happ : HookKeepsPeople app)
    {email : String} : KeepsRules sodium (runPostRegisterHook app.hook email) := by
  unfold runPostRegisterHook
  cases hhook : app.hook with
  | none => exact trivial
  | some onRegistered =>
      apply Prog.Maintains.tryCatch
      · apply Prog.Maintains.bind maintains_lookup
        intro person _
        cases person with
        | none => exact trivial
        | some p => exact maintains_of_people (happ onRegistered hhook p.id email)
      · exact fun _ => trivial

theorem maintains_register {app : Application} (happ : HookKeepsPeople app)
    {salt tokenBytes : Blob} {message : Json} :
    KeepsRules sodium (register sodium secrets app.hook app.sendMail salt tokenBytes message) := by
  unfold register
  split
  · exact trivial
  cases hfirst : requiredText message "first_name" with
  | none => exact trivial
  | some firstName =>
  cases hlast : requiredText message "last_name" with
  | none => exact trivial
  | some lastName =>
  cases hemail : requiredText message "email" with
  | none => exact trivial
  | some email =>
  cases hpassword : requiredText message "password" with
  | none => exact trivial
  | some password =>
      apply Prog.Maintains.bind (maintains_preliminaryRegisterPerson
        (requiredText_some hemail) (requiredText_some hfirst) (requiredText_some hlast)
        (requiredText_some hpassword))
      intro mail _
      have hsent : KeepsRules sodium (Prog.ofExcept (mail.elim (.ok ()) app.sendMail) : Sql Unit) :=
        Prog.maintains_ofExcept (fun _ _ => trivial)
      apply hsent.bind
      intro _ _
      apply (maintains_runPostRegisterHook happ).bind
      exact fun _ _ => trivial

omit [Citext] in
theorem sqlValue_ne_empty {env : Env} {value : String} (h : value ≠ "") :
    People.sqlValue env value ≠ "" := by
  unfold People.sqlValue
  split
  · intro hempty
    have hdigits : (toString env.now).length = 0 := by rw [hempty]; rfl
    have hpositive : 0 < (Nat.repr env.now).length := Nat.length_repr_pos
    exact absurd hdigits (Nat.ne_of_gt hpositive)
  · exact h

omit [Citext] in
theorem fieldRules_setFields {env : Env} {personInfo : PersonInfo} {p : Person}
    (h : FieldRules sodium p) :
    FieldRules sodium (People.setFields env (changesOf personInfo) p) := by
  have hstep : forall (fields : List (String × String)) (q : Person), FieldRules sodium q ->
      (forall field, field ∈ fields -> field.2 ≠ "") ->
      FieldRules sodium (fields.foldl (People.setField env) q) := by
    intro fields
    induction fields with
    | nil => exact fun q hq _ => hq
    | cons field fields ih =>
        intro q hq hfields
        apply ih
        · have hvalue := @sqlValue_ne_empty env _ (hfields field (by simp))
          unfold People.setField
          split
          · exact ⟨hq.firstName, hq.lastName, hvalue, hq.password⟩
          split
          · exact ⟨hvalue, hq.lastName, hq.email, hq.password⟩
          split
          · exact ⟨hq.firstName, hvalue, hq.email, hq.password⟩
          · exact hq
        · exact fun other hother => hfields other (by simp [hother])
  have hfields : FieldRules sodium
      ((changesOf personInfo).entries.foldl (People.setField env) p) := by
    apply hstep _ _ h
    intro field hfield
    rw [changesOf_entries] at hfield
    simpa using (List.mem_filter.mp hfield).2
  exact ⟨hfields.firstName, hfields.lastName, hfields.email, hfields.password⟩

theorem readOnly_lookupPerson (id : Nat) : Prog.ReadOnly (lookupPerson id) := by
  apply Prog.ReadOnly.bind Prog.readOnly_ask
  intro person
  split <;> exact trivial

theorem maintains_setUserInfo {sessionPersonId : Int} {message : Json} :
    KeepsRules sodium (setUserInfo sessionPersonId message) := by
  have hupdate : forall personId personInfo,
      KeepsRules sodium (People.updatePerson personId (changesOf personInfo)) := by
    intro personId personInfo
    unfold People.updatePerson
    rw [if_pos (allowed_changesOf personInfo)]
    apply Prog.maintains_exec
    intro env db reply db' hinv hwrite
    rcases exceptBind_ok hwrite with ⟨db'', hupdate, hdb⟩
    cases hdb
    exact ⟨fieldRulesKept_updateById hinv (fun _ => fieldRules_setFields) hupdate, trivial⟩
  unfold setUserInfo
  split
  · exact trivial
  split
  · exact trivial
  apply Prog.Maintains.bind (readOnly_lookupPerson _).maintains
  intro info _
  cases info with
  | none => exact trivial
  | some info =>
      have hinfo : KeepsRules sodium (updateInfo info.email (overlay message info)) := by
        apply Prog.Maintains.bind maintains_lookup
        intro person _
        cases person with
        | none => exact trivial
        | some p =>
            dsimp only
            split
            · split
              · exact trivial
              · exact (hupdate _ _).bind (fun _ _ => trivial)
            · exact trivial
      exact hinfo.bind (fun _ _ => trivial)

theorem maintains_finishReset {salt : Blob} {person : Person}
    {newPassword : String} (hpassword : newPassword ≠ "") :
    KeepsRules sodium (finishReset sodium secrets salt person newPassword) := by
  have hverify : KeepsRules sodium
      (if person.emailVerifiedAt.isNone then People.verifyPersonEmail person.email
        else pure () : Sql Unit) := by
    split
    · exact maintains_verifyPersonEmail
    · exact trivial
  have hrest : KeepsRules sodium
      ((updatePassword sodium secrets salt person.email newPassword).bind (fun updated =>
        if updated = false then
          .fail (.runtimeError "PasswordResetHelper::CompleteReset - password update failed")
        else
          (People.setMustChangePassword person.id false).bind (fun _ =>
            (People.clearLoginLockout person.id).bind (fun _ =>
              (PasswordResetTokens.deleteForPerson person.id).bind (fun _ =>
                (logoutPerson person.id).bind (fun _ =>
                  .done (PasswordResetResult.mk .success person.id))))))) := by
    apply (maintains_updatePassword hpassword).bind
    intro updated _
    split
    · exact trivial
    apply maintains_setMustChangePassword.bind
    intro _ _
    apply maintains_clearLoginLockout.bind
    intro _ _
    apply maintains_deleteResetTokens.bind
    intro _ _
    apply maintains_logoutPerson.bind
    exact fun _ _ => trivial
  unfold finishReset
  split
  · rename_i hnone
    rw [if_pos hnone] at hverify
    exact hverify.bind (fun _ _ => hrest)
  · exact hrest

theorem maintains_resetPassword {salt : Blob} {message : Json} {ip userAgent : String} :
    KeepsRules sodium (resetPassword sodium secrets salt message ip userAgent) := by
  unfold resetPassword
  cases hemail : requiredText message "email" with
  | none => exact trivial
  | some email =>
  cases hsecret : requiredText message "secret" with
  | none => exact trivial
  | some secret =>
  cases hpassword : requiredText message "new_password" with
  | none => exact trivial
  | some newPassword =>
      have hgate : Prog.ReadOnly (LoginGate.checkBeforeResetPassword secrets ip) :=
        LoginGate.readOnly_checkBeforeByIp secrets _ _ _ _ _ _
      apply Prog.Maintains.bind hgate.maintains
      intro gate _
      dsimp only
      split
      · exact trivial
      have hreset : KeepsRules sodium
          (completeReset sodium secrets salt email secret newPassword) := by
        have hclaim : forall personId, KeepsRules sodium
            (PasswordResetTokens.incrementAttempts personId kAttemptLimit) := by
          intro personId
          apply maintains_of_people
          apply keeps_exec_people
          intro env db reply db' hwrite
          rcases exceptBind_ok hwrite with ⟨pair, _, hdb⟩
          cases hdb
          rfl
        unfold completeReset
        rw [if_neg (requiredText_some hpassword)]
        apply Prog.Maintains.bind maintains_lookup
        intro person _
        cases person with
        | none => exact trivial
        | some p =>
            apply (hclaim p.id).bind
            intro link _
            cases link with
            | none => exact trivial
            | some link =>
                dsimp only
                split
                · split
                  · exact maintains_deleteResetTokens.bind (fun _ _ => trivial)
                  · exact trivial
                · exact maintains_finishReset (requiredText_some hpassword)
      apply hreset.bind
      intro result _
      cases result.outcome with
      | success => exact maintains_recordEvent.bind (fun _ _ => trivial)
      | invalidLink => exact trivial
      | passwordRejected => exact trivial

theorem maintains_updateUserPassword {salt : Blob}
    {sessionPersonId : Int} {message : Json} {ip userAgent : String}
    (hpassword : textMember message "new_password" ≠ some "") : KeepsRules sodium
      (updateUserPassword sodium secrets salt sessionPersonId message ip userAgent) := by
  unfold updateUserPassword
  split
  · exact trivial
  cases hold : textMember message "old_password" with
  | none => exact trivial
  | some oldPassword =>
  cases hnew : textMember message "new_password" with
  | none => exact trivial
  | some newPassword =>
      have hne : newPassword ≠ "" := fun hempty => hpassword (by rw [hnew, hempty])
      dsimp only
      split
      · exact trivial
      apply Prog.Maintains.bind (readOnly_lookupPerson _).maintains
      intro info _
      cases info with
      | none => exact trivial
      | some info =>
          have hverify : Prog.ReadOnly (verifyPassword sodium info.email oldPassword) := by
            apply Prog.ReadOnly.bind Prog.readOnly_ask
            intro person
            cases person with
            | none => exact trivial
            | some p =>
                dsimp only
                split <;> exact trivial
          apply Prog.Maintains.bind hverify.maintains
          intro verified _
          split
          · exact trivial
          apply (maintains_updatePassword hne).bind
          intro _ _
          apply maintains_setMustChangePassword.bind
          intro _ _
          apply maintains_recordEvent.bind
          exact fun _ _ => trivial

theorem updateUserPassword_refused {salt : Blob}
    {sessionPersonId : Int} {message : Json} {ip userAgent : String} {env : Env} {db : AuthDb}
    (h : Not (0 < sessionPersonId ∧ exists p oldPassword,
      People.personById db sessionPersonId.toNat = some p ∧ p.emailVerifiedAt.isSome = true ∧
        textMember message "old_password" = some oldPassword ∧
        sodium.verifyPassword oldPassword p.passwordHash = true)) :
    Prog.wp env (updateUserPassword sodium secrets salt sessionPersonId message ip userAgent)
      (fun _ db' => db' = db) db := by
  unfold updateUserPassword
  split
  · rfl
  cases hold : textMember message "old_password" with
  | none => rfl
  | some oldPassword =>
  cases hnew : textMember message "new_password" with
  | none => rfl
  | some newPassword =>
      dsimp only
      split
      · rfl
      rename_i hpositive
      simp only [lookupPerson, People.getPersonById, Prog.bind_eq, Prog.wp_bind, Prog.wp_ask]
      cases hp : People.personById db sessionPersonId.toNat with
      | none => rfl
      | some p =>
          split
          · rename_i hverified
            have hfound := People.personByEmail_of_mem (People.personById_some hp).1
            have hwrong : sodium.verifyPassword oldPassword p.passwordHash = false := by
              apply Bool.eq_false_iff.mpr
              intro hright
              exact h ⟨by omega, p, oldPassword, hp, hverified, hold, hright⟩
            simp only [Prog.pure_eq, Prog.wp_done, Option.map_some, verifyPassword,
              People.lookupPersonByEmail, Prog.bind_eq, Prog.wp_bind, Prog.wp_ask, hfound]
            rw [if_pos hverified, Prog.wp_done]
            dsimp only
            rw [if_pos hwrong]
            rfl
          · rfl

theorem fieldRulesKept_transact {a : Type} {p : Sql a} {env : Env} {db : AuthDb}
    (hp : KeepsRules sodium p)
    (h : FieldRulesKept sodium db) :
    FieldRulesKept sodium (Prog.transact env (p.bind (fun _ => .done ())) db).2 := by
  have hbind : KeepsRules sodium (p.bind (fun _ => .done ())) := hp.bind (fun _ _ => trivial)
  exact hbind.transact env h

theorem fieldRulesKept_perform {app : Application} (happ : HookKeepsPeople app) {db : AuthDb}
    {e : AccountEvent} (h : FieldRulesKept sodium db)
    (hempty : Not (e.EmptiesPassword sodium db)) :
    FieldRulesKept sodium (AccountEvent.perform sodium app db e) := by
  rcases e with ⟨env, secrets, request⟩
  cases request with
  | register salt tokenBytes message =>
      exact fieldRulesKept_transact (maintains_register happ) h
  | setUserInfo sessionPersonId message =>
      exact fieldRulesKept_transact maintains_setUserInfo h
  | updateUserPassword salt sessionPersonId message ip userAgent =>
      by_cases hpassword : textMember message "new_password" = some ""
      · have hkept := @updateUserPassword_refused _ sodium secrets salt sessionPersonId message
          ip userAgent env db (fun hright => hempty ⟨hpassword, hright⟩)
        have hsame : Prog.wp env (AccountEvent.program sodium app
            ⟨env, secrets, .updateUserPassword salt sessionPersonId message ip userAgent⟩)
            (fun _ db' => db' = db) db := by
          apply Prog.wp_bind.mpr
          apply Prog.wp_mono _ hkept
          intro outcome db' hdb
          cases outcome <;> exact hdb
        have hdb := Prog.transact_of_wp hsame (fun _ _ _ => rfl)
        unfold AccountEvent.perform
        rw [hdb]
        exact h
      · exact fieldRulesKept_transact (maintains_updateUserPassword hpassword) h
  | resetPassword salt message ip userAgent =>
      exact fieldRulesKept_transact maintains_resetPassword h

end Fields

/-!
# A password change of one person
-/

section SampleChange

attribute [local instance] Citext.plain

def noApplication : Application := ⟨none, fun _ => .ok ()⟩

def changePassword (newPassword : String) : List AccountEvent :=
  [{ env := Env.ofClock 1000 "a", secrets := none
     request := .updateUserPassword [] 1
       (.obj [("old_password", .str "pw"), ("new_password", .str newPassword)]) "" "" }]

end SampleChange

end Auth
end ServerComponents
