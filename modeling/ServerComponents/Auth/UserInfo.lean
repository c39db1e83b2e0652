import ServerComponents.Auth.EmailVerifications
import ServerComponents.Auth.PasswordReset
import ServerComponents.Rest.Json

/-!
# Profile updates

`UpdatePerson` of the table helper, `UpdateInfo` and the look-up of the person
helper, and the transaction of `POST /api/set_user_info`.  A profile update writes
the address and leaves `email_verified_at` alone.
-/

namespace ServerComponents
namespace Auth

open Relational Statements Rest

namespace DbSchema

def kPeopleEmail := "email"
def kPeopleFirstName := "first_name"
def kPeopleLastName := "last_name"
def kDatabaseInfoDefaultNow := "now_us()"

end DbSchema

namespace People

variable [Citext]

def allowedFields : List String :=
  [DbSchema.kPeopleEmail, DbSchema.kPeopleFirstName, DbSchema.kPeopleLastName]

def sqlValue (env : Env) (value : String) : String :=
  if value = DbSchema.kDatabaseInfoDefaultNow then toString env.now else value

def setField (env : Env) (p : Person) (field : String × String) : Person :=
  if field.1 = DbSchema.kPeopleEmail then { p with email := sqlValue env field.2 }
  else if field.1 = DbSchema.kPeopleFirstName then
    { p with firstName := sqlValue env field.2 }
  else if field.1 = DbSchema.kPeopleLastName then
    { p with lastName := sqlValue env field.2 }
  else p

def setFields (env : Env) (keyValueTable : KeyValueTable) (p : Person) : Person :=
  { keyValueTable.entries.foldl (setField env) p with updatedAt := env.now }

def updatePerson (personId : Nat) (keyValueTable : KeyValueTable) : Sql Unit :=
  if keyValueTable.entries.all (fun e => allowedFields.contains e.1) then
    Prog.exec (fun env db => do
      let db' ← updateById db personId (setFields env keyValueTable)
      pure ((), db'))
  else
    throw (.runtimeError "People::UpdatePerson - key not allowed")

end People

section UserInfo

variable [Citext]

def lookupPerson (id : Nat) : Sql (Option PersonInfo) := do
  let person ← People.getPersonById id
  if isVerified person then
    pure (person.map (fun p =>
      { email := p.email, firstName := p.firstName, lastName := p.lastName }))
  else
    pure none

/-- The columns that `UpdateInfo` writes: an empty text is not an update. -/
def changesOf (personInfo : PersonInfo) : KeyValueTable :=
  let changes : KeyValueTable := SortedMap.empty
  let changes :=
    if personInfo.email ≠ "" then changes.set DbSchema.kPeopleEmail personInfo.email
    else changes
  let changes :=
    if personInfo.firstName ≠ "" then
      changes.set DbSchema.kPeopleFirstName personInfo.firstName
    else changes
  if personInfo.lastName ≠ "" then changes.set DbSchema.kPeopleLastName personInfo.lastName
  else changes

def updateInfo (email : String) (personInfo : PersonInfo) : Sql Bool := do
  let person ← People.lookupPersonByEmail email
  match person with
  | none => pure false
  | some p =>
      if isVerified person then
        if (changesOf personInfo).entries = [] then
          pure false
        else do
          People.updatePerson p.id (changesOf personInfo)
          pure true
      else
        pure false

inductive SetUserInfoAnswer where
  | ok
  | badRequest (message : String)
  | notAuthenticated
  deriving Repr, DecidableEq

def textMember (message : Json) (key : String) : Option String :=
  match message.child? key with
  | some (.str value) => some value
  | _ => none

/-- The current data with the members of the message in their places. -/
def overlay (message : Json) (info : PersonInfo) : PersonInfo where
  email := (textMember message DbSchema.kPeopleEmail).getD info.email
  firstName := (textMember message DbSchema.kPeopleFirstName).getD info.firstName
  lastName := (textMember message DbSchema.kPeopleLastName).getD info.lastName

/-- The transaction of the endpoint, for the `int` that the person id of the session is read
into; a session that is not logged in has -1.  Its caller answers an exception as
`notAuthenticated`. -/
def setUserInfo (sessionPersonId : Int) (message : Json) : Sql SetUserInfoAnswer :=
  if message.hasChildren = false then
    pure (.badRequest "Invalid JSON object.")
  else if sessionPersonId ≤ 0 then
    pure .notAuthenticated
  else do
    match ← lookupPerson sessionPersonId.toNat with
    | none => pure .notAuthenticated
    | some info => do
        let _ ← updateInfo info.email (overlay message info)
        pure .ok

/-- `CreateFullyValidatedUser`: an address entered by an administrator. -/
def createFullyValidatedUser (sodium : Sodium) (secrets : SecretsHelperPtr) (salt : Blob)
    (personInfo : PersonInfo) (password : String) : Sql Unit := do
  let hash ←
    if secrets.isSome then hashPasswordWithSecrets sodium secrets salt password
    else Prog.ofExcept (sodium.hashPassword opsLimitInteractive memLimitInteractive salt
      password)
  let _ ← People.addPerson personInfo.email personInfo.firstName personInfo.lastName hash
  People.verifyPersonEmail personInfo.email

end UserInfo

/-!
# What a profile update does
-/

section Effects

variable [Citext]

omit [Citext] in
theorem changesOf_entries (personInfo : PersonInfo) :
    (changesOf personInfo).entries =
      [(DbSchema.kPeopleEmail, personInfo.email),
        (DbSchema.kPeopleFirstName, personInfo.firstName),
        (DbSchema.kPeopleLastName, personInfo.lastName)].filter (fun e => e.2 ≠ "") := by
  have hfirst : Not (DbSchema.kPeopleFirstName < DbSchema.kPeopleEmail) := by decide
  have hlast : Not (DbSchema.kPeopleLastName < DbSchema.kPeopleEmail) := by decide
  have horder : Not (DbSchema.kPeopleLastName < DbSchema.kPeopleFirstName) := by decide
  have hfirst' : DbSchema.kPeopleFirstName ≠ DbSchema.kPeopleEmail := by decide
  have hlast' : DbSchema.kPeopleLastName ≠ DbSchema.kPeopleEmail := by decide
  have horder' : DbSchema.kPeopleLastName ≠ DbSchema.kPeopleFirstName := by decide
  unfold changesOf
  by_cases h1 : personInfo.email = "" <;>
    by_cases h2 : personInfo.firstName = "" <;>
      by_cases h3 : personInfo.lastName = "" <;>
        simp [h1, h2, h3, SortedMap.set, SortedMap.setEntry, SortedMap.empty, hfirst, hlast,
          horder, hfirst', hlast', horder']

omit [Citext] in
theorem allowed_changesOf (personInfo : PersonInfo) :
    (changesOf personInfo).entries.all (fun e => People.allowedFields.contains e.1) =
      true := by
  rw [changesOf_entries, List.all_eq_true]
  intro e he
  have hmem := List.mem_of_mem_filter he
  simp only [List.mem_cons, List.not_mem_nil, or_false] at hmem
  rcases hmem with h | h | h <;> simp [h, People.allowedFields]

omit [Citext] in
theorem setFields_changesOf (env : Env) (personInfo : PersonInfo) (p : Person) :
    (People.setFields env (changesOf personInfo) p).id = p.id ∧
      (People.setFields env (changesOf personInfo) p).emailVerifiedAt =
        p.emailVerifiedAt ∧
      (People.setFields env (changesOf personInfo) p).email =
        (if personInfo.email = "" then p.email
          else People.sqlValue env personInfo.email) := by
  by_cases h1 : personInfo.email = "" <;>
    by_cases h2 : personInfo.firstName = "" <;>
      by_cases h3 : personInfo.lastName = "" <;>
        simp [People.setFields, changesOf_entries, h1, h2, h3, People.setField,
          DbSchema.kPeopleEmail, DbSchema.kPeopleFirstName, DbSchema.kPeopleLastName]

theorem wp_updateInfo {env : Env} {db : AuthDb} {email : String} {personInfo : PersonInfo}
    {post : Except Exn Bool -> AuthDb -> Prop} (herror : forall err, post (.error err) db)
    (hrefused : post (.ok false) db)
    (hok : forall p db', People.personByEmail db email = some p ->
      p.emailVerifiedAt.isSome = true ->
      People.updateById db p.id (People.setFields env (changesOf personInfo)) = .ok db' ->
      post (.ok true) db') :
    Prog.wp env (updateInfo email personInfo) post db := by
  simp only [updateInfo, People.lookupPersonByEmail, Prog.bind_eq, Prog.wp_bind,
    Prog.wp_ask]
  cases hp : People.personByEmail db email with
  | none => exact hrefused
  | some p =>
      dsimp only
      split
      · rename_i hverified
        split
        · exact hrefused
        · simp only [People.updatePerson, allowed_changesOf, if_true, Prog.wp_bind,
            Prog.wp_exec]
          cases hupdate : People.updateById db p.id
              (People.setFields env (changesOf personInfo)) with
          | error err => simpa [hupdate, bind, Except.bind] using herror err
          | ok db' =>
              simpa [hupdate, bind, Except.bind, pure, Except.pure] using
                hok p db' hp hverified hupdate
      · exact hrefused

def infoOf (p : Person) : PersonInfo where
  email := p.email
  firstName := p.firstName
  lastName := p.lastName

theorem wp_setUserInfo {env : Env} {db : AuthDb} {sessionPersonId : Int} {message : Json}
    {post : Except Exn SetUserInfoAnswer -> AuthDb -> Prop}
    (herror : forall err, post (.error err) db)
    (hrefused : forall answer, post (.ok answer) db)
    (hok : forall p db', 0 < sessionPersonId ->
      People.personById db sessionPersonId.toNat = some p ->
      p.emailVerifiedAt.isSome = true ->
      People.updateById db p.id
        (People.setFields env (changesOf (overlay message (infoOf p)))) = .ok db' ->
      post (.ok .ok) db') :
    Prog.wp env (setUserInfo sessionPersonId message) post db := by
  unfold setUserInfo
  split
  · exact hrefused _
  split
  · exact hrefused _
  rename_i hpositive
  simp only [lookupPerson, People.getPersonById, Prog.bind_eq, Prog.wp_bind, Prog.wp_ask]
  cases hp : People.personById db sessionPersonId.toNat with
  | none => exact hrefused _
  | some p =>
      split
      · rename_i hverified
        change Prog.wp env ((updateInfo p.email (overlay message (infoOf p))).bind
          (fun _ => .done SetUserInfoAnswer.ok)) post db
        rw [Prog.wp_bind]
        apply wp_updateInfo herror (hrefused _)
        intro p' db' hp' hverified' hupdate
        rw [People.personByEmail_of_mem (People.personById_some hp).1] at hp'
        cases hp'
        exact hok p db' (by omega) hp hverified hupdate
      · exact hrefused _

end Effects

end Auth
end ServerComponents
