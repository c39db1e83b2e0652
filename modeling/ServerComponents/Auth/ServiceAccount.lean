import ServerComponents.Auth.UserInfo

/-!
# The scheduler's service account

The person, the role, its grants and the assignment are created in one transaction.
Only the row of the person is looked for before.
-/

namespace ServerComponents
namespace Auth

open Relational Statements

structure RoleRow where
  id : Nat
  name : String
  description : String
  deriving Repr, DecidableEq

structure PermissionRow where
  id : Nat
  name : String
  description : String
  deriving Repr, DecidableEq

structure RolePermissionRow where
  id : Nat
  roleId : Nat
  permissionId : Nat
  deriving Repr, DecidableEq

structure RoleAssignmentRow where
  id : Nat
  personId : Nat
  roleId : Nat
  deriving Repr, DecidableEq

def RoleRow.Clash (r r' : RoleRow) : Prop := r.id = r'.id

def PermissionRow.Clash (p p' : PermissionRow) : Prop := p.id = p'.id

def RolePermissionRow.Clash (g g' : RolePermissionRow) : Prop :=
  g.id = g'.id ∨ (g.roleId = g'.roleId ∧ g.permissionId = g'.permissionId)

def RoleAssignmentRow.Clash (a a' : RoleAssignmentRow) : Prop :=
  a.id = a'.id ∨ (a.personId = a'.personId ∧ a.roleId = a'.roleId)

instance : DecidableRel RoleRow.Clash := fun _ _ => inferInstanceAs (Decidable (_ = _))

instance : DecidableRel PermissionRow.Clash :=
  fun _ _ => inferInstanceAs (Decidable (_ = _))

instance : DecidableRel RolePermissionRow.Clash :=
  fun _ _ => inferInstanceAs (Decidable (_ ∨ _))

instance : DecidableRel RoleAssignmentRow.Clash :=
  fun _ _ => inferInstanceAs (Decidable (_ ∨ _))

structure RoleDb [Citext] where
  auth : AuthDb
  roles : Table RoleRow RoleRow.Clash
  permissions : Table PermissionRow PermissionRow.Clash
  rolePermissions : Table RolePermissionRow RolePermissionRow.Clash
  roleAssignments : Table RoleAssignmentRow RoleAssignmentRow.Clash
  deriving DecidableEq

abbrev RoleSql [Citext] (result : Type) := Prog Env RoleDb Exn result

def kSchedulerServiceAccountFirstName := "Scheduler"
def kSchedulerServiceAccountLastName := "Service Account"
def kSchedulerRoleName := "scheduler"
def kSchedulerRoleDescription :=
  "Scheduler service-account role. Least-privilege role for the scheduler " ++
    "helper executable (manage_subscriptions + manage_class_schedule)."
def kManageSubscriptionsPermission := "manage_subscriptions"
def kPermissionManageClassSchedule := "manage_class_schedule"

section Provisioning

variable [Citext]

namespace RoleDb

def roleByName (db : RoleDb) (name : String) : Option RoleRow :=
  db.roles.find? (fun r => r.name == name)

def permissionByName (db : RoleDb) (name : String) : Option PermissionRow :=
  db.permissions.find? (fun p => p.name == name)

def Grants (db : RoleDb) (roleId : Nat) (name : String) : Prop :=
  exists permission grant, permission ∈ db.permissions.rows ∧ permission.name = name ∧
    grant ∈ db.rolePermissions.rows ∧ grant.roleId = roleId ∧
      grant.permissionId = permission.id

end RoleDb

def onAuth {result : Type} (program : Sql result) : RoleSql result :=
  Prog.exec (fun env db =>
    match program.run env db.auth with
    | (.ok value, auth) => .ok (value, { db with auth := auth })
    | (.error err, _) => .error err)

def schedulerRole : RoleSql Nat := do
  match ← Prog.ask (fun _ db => .ok (db.roleByName kSchedulerRoleName)) with
  | some role => pure role.id
  | none =>
      Prog.exec (fun _ db => do
        let (row, table) ← orUniqueViolation (db.roles.insert? (fun id =>
          { id := id, name := kSchedulerRoleName
            description := kSchedulerRoleDescription }))
        pure (row.id, { db with roles := table }))

def addRolePermission (roleId permissionId : Nat) : RoleSql Nat :=
  Prog.exec (fun _ db => do
    let (row, table) ← orUniqueViolation (db.rolePermissions.insert? (fun id =>
      { id := id, roleId := roleId, permissionId := permissionId }))
    pure (row.id, { db with rolePermissions := table }))

def addRoleAssignment (personId roleId : Nat) : RoleSql Nat :=
  Prog.exec (fun _ db => do
    let (row, table) ← orUniqueViolation (db.roleAssignments.insert? (fun id =>
      { id := id, personId := personId, roleId := roleId }))
    pure (row.id, { db with roleAssignments := table }))

/-- The first permission has to be there; the second is granted when it is. -/
def grantSchedulerPermissions (roleId : Nat) : RoleSql Unit := do
  match ← Prog.ask (fun _ db =>
      .ok (db.permissionByName kManageSubscriptionsPermission)) with
  | none =>
      throw (.runtimeError ("EnsureSchedulerServiceAccount: manage_subscriptions " ++
        "permission is missing from the database. PopulatePermissions must run " ++
        "before this function."))
  | some permission => do
      let _ ← addRolePermission roleId permission.id
      match ← Prog.ask (fun _ db =>
          .ok (db.permissionByName kPermissionManageClassSchedule)) with
      | none => pure ()
      | some classSchedule => do
          let _ ← addRolePermission roleId classSchedule.id
          pure ()

/-- `EnsureSchedulerServiceAccount`; the salt is of the password's hash. -/
def ensureSchedulerServiceAccount (sodium : Sodium) (salt : Blob)
    (schedulerEmail password : String) : RoleSql Unit := do
  match ← onAuth (People.lookupPersonByEmail schedulerEmail) with
  | some _ => pure ()
  | none => do
      onAuth (createFullyValidatedUser sodium none salt
        { email := schedulerEmail, firstName := kSchedulerServiceAccountFirstName
          lastName := kSchedulerServiceAccountLastName } password)
      match ← onAuth (People.lookupPersonByEmail schedulerEmail) with
      | none =>
          throw (.runtimeError ("EnsureSchedulerServiceAccount: failed to read back " ++
            "the row we just created"))
      | some person => do
          let roleId ← schedulerRole
          grantSchedulerPermissions roleId
          let _ ← addRoleAssignment person.id roleId
          pure ()

def deletePerson (personId : Nat) (db : RoleDb) : RoleDb :=
  { db with
    auth :=
      { db.auth with
        people := db.auth.people.delete (fun p => p.id == personId)
        deviceTokens := db.auth.deviceTokens.delete (fun t => t.personId == personId)
        sessions := db.auth.sessions.delete (fun s => s.personId == personId)
        passwordResetTokens :=
          db.auth.passwordResetTokens.delete (fun t => t.personId == personId)
        emailVerifications :=
          db.auth.emailVerifications.delete (fun r => r.personId == personId) }
    roleAssignments := db.roleAssignments.delete (fun a => a.personId == personId) }

/-- The sequences are ahead of the keys, and what is referenced is there. -/
structure RoleDb.Consistent (db : RoleDb) : Prop where
  people : forall p, p ∈ db.auth.people.rows -> p.id < db.auth.people.nextId
  roles : forall r, r ∈ db.roles.rows -> r.id < db.roles.nextId
  rolePermissions : forall g, g ∈ db.rolePermissions.rows ->
    g.id < db.rolePermissions.nextId ∧ exists r, r ∈ db.roles.rows ∧ r.id = g.roleId
  roleAssignments : forall a, a ∈ db.roleAssignments.rows ->
    a.id < db.roleAssignments.nextId ∧
      exists p, p ∈ db.auth.people.rows ∧ p.id = a.personId

/-- One verified person has the address, with the role and the grants of a scheduler. -/
def RoleDb.Provisioned (db : RoleDb) (schedulerEmail : String) : Prop :=
  exists person role,
    (forall p, (p ∈ db.auth.people.rows ∧ sameEmail p.email schedulerEmail = true ∧
      p.emailVerifiedAt.isSome = true) <-> p = person) ∧
    role ∈ db.roles.rows ∧ role.name = kSchedulerRoleName ∧
    (exists assignment, assignment ∈ db.roleAssignments.rows ∧
      assignment.personId = person.id ∧ assignment.roleId = role.id) ∧
    db.Grants role.id kManageSubscriptionsPermission ∧
    ((exists p, p ∈ db.permissions.rows ∧ p.name = kPermissionManageClassSchedule) ->
      db.Grants role.id kPermissionManageClassSchedule)

/-- The call succeeds, the account is there afterwards, and an account that was there is
left alone; a call that throws leaves everything as it was. -/
structure Converges (env : Env) (sodium : Sodium) (salt : Blob)
    (schedulerEmail password : String) (db : RoleDb) : Prop where
  succeeds : (Prog.transact env
    (ensureSchedulerServiceAccount sodium salt schedulerEmail password) db).1 = .ok ()
  provisioned : (Prog.transact env (ensureSchedulerServiceAccount sodium salt
    schedulerEmail password) db).2.Provisioned schedulerEmail
  kept : (People.personByEmail db.auth schedulerEmail).isSome = true ->
    (Prog.transact env
      (ensureSchedulerServiceAccount sodium salt schedulerEmail password) db).2 = db
  rolledBack : forall err, (Prog.transact env
    (ensureSchedulerServiceAccount sodium salt schedulerEmail password) db).1 = .error err ->
      (Prog.transact env
        (ensureSchedulerServiceAccount sodium salt schedulerEmail password) db).2 = db

/-!
# What each statement does
-/

theorem wp_onAuth {result : Type} {env : Env} {db : RoleDb} {program : Sql result}
    {post : Except Exn result -> RoleDb -> Prop}
    (herror : forall err auth, program.run env db.auth = (.error err, auth) ->
      post (.error err) db)
    (hok : forall value auth, program.run env db.auth = (.ok value, auth) ->
      post (.ok value) { db with auth := auth }) :
    Prog.wp env (onAuth program) post db := by
  unfold onAuth
  rw [Prog.wp_exec]
  rcases hrun : program.run env db.auth with ⟨outcome, auth⟩
  cases outcome with
  | ok value => exact hok value auth hrun
  | error err => exact herror err auth hrun

theorem wp_lookupOnAuth {env : Env} {db : RoleDb} {email : String}
    {post : Except Exn (Option Person) -> RoleDb -> Prop}
    (h : post (.ok (People.personByEmail db.auth email)) db) :
    Prog.wp env (onAuth (People.lookupPersonByEmail email)) post db := by
  apply wp_onAuth
  · intro err auth hrun
    cases hrun
  · intro value auth hrun
    cases hrun
    exact h

structure VerifiedAdded (auth auth' : AuthDb) (person : Person) : Prop where
  rows : forall q, q ∈ auth'.people.rows <-> q ∈ auth.people.rows ∨ q = person
  id : person.id = auth.people.nextId
  verified : person.emailVerifiedAt.isSome = true

theorem wp_createFullyValidatedUser_fresh {env : Env} {auth : AuthDb} {sodium : Sodium}
    {salt : Blob} {personInfo : PersonInfo} {password : String}
    {post : Except Exn Unit -> AuthDb -> Prop}
    (hahead : forall p, p ∈ auth.people.rows -> p.id < auth.people.nextId)
    (hnone : People.personByEmail auth personInfo.email = none)
    (herror : forall err, sodium.hashPassword opsLimitInteractive memLimitInteractive salt
      password = .error err -> post (.error err) auth)
    (hok : forall hash person auth', sodium.hashPassword opsLimitInteractive
      memLimitInteractive salt password = .ok hash -> VerifiedAdded auth auth' person ->
        person.email = personInfo.email -> post (.ok ()) auth') :
    Prog.wp env (createFullyValidatedUser sodium none salt personInfo password) post auth := by
  unfold createFullyValidatedUser
  rw [if_neg (by simp)]
  apply Prog.wp_bind.mpr
  rw [Prog.wp_ofExcept]
  cases hhash : sodium.hashPassword opsLimitInteractive memLimitInteractive salt password with
  | error err => exact herror err hhash
  | ok hash =>
      apply Prog.wp_bind.mpr
      rw [People.addPerson, Prog.wp_exec]
      have hinserts := (Table.insert?_isSome_iff auth.people (fun id =>
        { id := id, email := personInfo.email, firstName := personInfo.firstName
          lastName := personInfo.lastName, passwordHash := hash, emailVerifiedAt := none
          mustChangePassword := false, updatedAt := env.now
          failedLoginAttempts := 0, lockedUntil := none })).mpr (by
        rintro p hp (hid | hsame)
        · exact absurd hid (Nat.ne_of_lt (hahead p hp))
        · have hnot := Table.find?_none hnone hp
          rw [hnot] at hsame
          cases hsame)
      rcases Option.isSome_iff_exists.mp hinserts with ⟨⟨p, table⟩, hinsert⟩
      rcases Table.insert?_some hinsert with ⟨hp, hrows, -⟩
      simp only [hinsert, orUniqueViolation, bind, Except.bind, pure, Except.pure]
      have hmem : p ∈ table.rows := by
        rw [hrows]
        simp
      have hemail : p.email = personInfo.email := by rw [hp]
      apply People.wp_verifyPersonEmail_unverified (p := p)
      · rw [← hemail]
        exact @People.personByEmail_of_mem _ { auth with people := table } p hmem
      · rw [hp]
      · intro auth' hreplaced
        have hpid : p.id = auth.people.nextId := by rw [hp]
        refine hok hash (People.markVerified env p) auth' hhash ⟨?_, hpid, rfl⟩ hemail
        intro q
        rw [hreplaced.rows_eq]
        change q ∈ table.rows.map _ <-> _
        rw [hrows, List.map_append, List.mem_append]
        have hold : auth.people.rows.map (fun r =>
            if r.id == p.id then People.markVerified env p else r) = auth.people.rows := by
          apply (List.map_congr_left _).trans (List.map_id _)
          intro r hr
          have hne : r.id ≠ p.id := by
            rw [hpid]
            exact Nat.ne_of_lt (hahead r hr)
          simp [hne]
        rw [hold]
        simp

theorem wp_schedulerRole {env : Env} {db : RoleDb}
    {post : Except Exn Nat -> RoleDb -> Prop}
    (hahead : forall r, r ∈ db.roles.rows -> r.id < db.roles.nextId)
    (hfound : forall role, db.roleByName kSchedulerRoleName = some role ->
      post (.ok role.id) db)
    (hnew : forall role table, db.roleByName kSchedulerRoleName = none ->
      role.id = db.roles.nextId -> role.name = kSchedulerRoleName ->
        table.rows = db.roles.rows ++ [role] ->
          post (.ok role.id) { db with roles := table }) :
    Prog.wp env schedulerRole post db := by
  unfold schedulerRole
  apply Prog.wp_bind.mpr
  rw [Prog.wp_ask]
  cases hrole : db.roleByName kSchedulerRoleName with
  | some role => exact hfound role hrole
  | none =>
      dsimp only
      rw [Prog.wp_exec]
      have hinserts := (Table.insert?_isSome_iff db.roles (fun id =>
        { id := id, name := kSchedulerRoleName
          description := kSchedulerRoleDescription })).mpr
        (fun r hr hid => absurd hid (Nat.ne_of_lt (hahead r hr)))
      rcases Option.isSome_iff_exists.mp hinserts with ⟨⟨role, table⟩, hinsert⟩
      rcases Table.insert?_some hinsert with ⟨hmade, hrows, -⟩
      simp only [hinsert, orUniqueViolation, bind, Except.bind, pure, Except.pure]
      exact hnew role table hrole (by rw [hmade]) (by rw [hmade]) hrows

def RoleDb.Granted (db : RoleDb) (roleId permissionId : Nat) : Prop :=
  exists grant, grant ∈ db.rolePermissions.rows ∧ grant.roleId = roleId ∧
    grant.permissionId = permissionId

structure GrantAdded (db db' : RoleDb) (roleId permissionId : Nat) : Prop where
  rows : exists grant, db'.rolePermissions.rows = db.rolePermissions.rows ++ [grant] ∧
    grant.id = db.rolePermissions.nextId ∧ grant.roleId = roleId ∧
      grant.permissionId = permissionId
  nextId : db'.rolePermissions.nextId = db.rolePermissions.nextId + 1
  rest : db' = { db with rolePermissions := db'.rolePermissions }

theorem wp_addRolePermission {env : Env} {db : RoleDb} {roleId permissionId : Nat}
    {post : Except Exn Nat -> RoleDb -> Prop}
    (hahead : forall g, g ∈ db.rolePermissions.rows -> g.id < db.rolePermissions.nextId)
    (hclash : forall err, db.Granted roleId permissionId -> post (.error err) db)
    (hok : forall id db', Not (db.Granted roleId permissionId) ->
      GrantAdded db db' roleId permissionId -> post (.ok id) db') :
    Prog.wp env (addRolePermission roleId permissionId) post db := by
  unfold addRolePermission
  rw [Prog.wp_exec]
  have hinserts := Table.insert?_isSome_iff db.rolePermissions (fun id =>
    { id := id, roleId := roleId, permissionId := permissionId })
  cases hinsert : db.rolePermissions.insert? (fun id =>
      { id := id, roleId := roleId, permissionId := permissionId }) with
  | none =>
      rw [hinsert] at hinserts
      simp only [orUniqueViolation, bind, Except.bind]
      apply hclash
      by_contra hnot
      apply absurd (hinserts.mpr _) (by simp)
      rintro g hg (hid | hpair)
      · exact absurd hid (Nat.ne_of_lt (hahead g hg))
      · exact hnot ⟨g, hg, hpair⟩
  | some pair =>
      rw [hinsert] at hinserts
      rcases pair with ⟨grant, table⟩
      rcases Table.insert?_some hinsert with ⟨hmade, hrows, hnextId⟩
      simp only [orUniqueViolation, bind, Except.bind, pure, Except.pure]
      apply hok
      · rintro ⟨g, hg, hpair⟩
        exact hinserts.mp rfl g hg (Or.inr hpair)
      · exact ⟨⟨grant, hrows, by rw [hmade], by rw [hmade], by rw [hmade]⟩, hnextId, rfl⟩

theorem wp_addRoleAssignment {env : Env} {db : RoleDb} {personId roleId : Nat}
    {post : Except Exn Nat -> RoleDb -> Prop}
    (hahead : forall a, a ∈ db.roleAssignments.rows -> a.id < db.roleAssignments.nextId)
    (hfree : forall a, a ∈ db.roleAssignments.rows -> a.personId ≠ personId)
    (hok : forall assignment table, table.rows = db.roleAssignments.rows ++ [assignment] ->
      assignment.personId = personId -> assignment.roleId = roleId ->
        post (.ok assignment.id) { db with roleAssignments := table }) :
    Prog.wp env (addRoleAssignment personId roleId) post db := by
  unfold addRoleAssignment
  rw [Prog.wp_exec]
  have hinserts := (Table.insert?_isSome_iff db.roleAssignments (fun id =>
    { id := id, personId := personId, roleId := roleId })).mpr (by
      rintro a ha (hid | hpair)
      · exact absurd hid (Nat.ne_of_lt (hahead a ha))
      · exact hfree a ha hpair.1)
  rcases Option.isSome_iff_exists.mp hinserts with ⟨⟨assignment, table⟩, hinsert⟩
  rcases Table.insert?_some hinsert with ⟨hmade, hrows, -⟩
  simp only [hinsert, orUniqueViolation, bind, Except.bind, pure, Except.pure]
  exact hok assignment table hrows (by rw [hmade]) (by rw [hmade])

/-!
# The whole call
-/

def RoleDb.SchedulerPermission (db : RoleDb) (permission : PermissionRow) : Prop :=
  db.permissionByName kManageSubscriptionsPermission = some permission ∨
    db.permissionByName kPermissionManageClassSchedule = some permission

/-- An account that is there is a whole one; without an account, the password can be hashed
and the scheduler role, if it is there, has neither of the grants yet. -/
structure Provisionable (sodium : Sodium) (salt : Blob) (schedulerEmail password : String)
    (db : RoleDb) : Prop where
  existing : (People.personByEmail db.auth schedulerEmail).isSome = true ->
    db.Provisioned schedulerEmail
  hashed : People.personByEmail db.auth schedulerEmail = none ->
    exists hash, sodium.hashPassword opsLimitInteractive memLimitInteractive salt password =
      .ok hash
  ungranted : People.personByEmail db.auth schedulerEmail = none ->
    forall role permission, db.roleByName kSchedulerRoleName = some role ->
      db.SchedulerPermission permission -> Not (db.Granted role.id permission.id)

theorem RoleDb.roleByName_some {db : RoleDb} {name : String} {role : RoleRow}
    (h : db.roleByName name = some role) : role ∈ db.roles.rows ∧ role.name = name := by
  rcases Table.find?_some h with ⟨hmem, hname⟩
  exact ⟨hmem, by simpa using hname⟩

theorem RoleDb.permissionByName_some {db : RoleDb} {name : String}
    {permission : PermissionRow} (h : db.permissionByName name = some permission) :
    permission ∈ db.permissions.rows ∧ permission.name = name := by
  rcases Table.find?_some h with ⟨hmem, hname⟩
  exact ⟨hmem, by simpa using hname⟩

theorem RoleDb.permission_id_ne {db : RoleDb} {permission permission' : PermissionRow}
    (hmem : permission ∈ db.permissions.rows) (hmem' : permission' ∈ db.permissions.rows)
    (hname : permission.name ≠ permission'.name) : permission.id ≠ permission'.id := by
  intro hid
  have heq : permission = permission' :=
    Table.eq_of_clash (fun h => Eq.symm h) hmem hmem' hid
  rw [heq] at hname
  exact hname rfl

theorem GrantAdded.granted_iff {db db' : RoleDb} {roleId permissionId permissionId' : Nat}
    (h : GrantAdded db db' roleId permissionId) (hne : permissionId ≠ permissionId') :
    db'.Granted roleId permissionId' <-> db.Granted roleId permissionId' := by
  rcases h.rows with ⟨grant, hrows, -, -, hpermission⟩
  unfold RoleDb.Granted
  rw [hrows]
  constructor
  · rintro ⟨g, hg, hrole, hpermission'⟩
    rcases List.mem_append.mp hg with hold | hnew
    · exact ⟨g, hold, hrole, hpermission'⟩
    · rw [List.mem_singleton.mp hnew] at hpermission'
      exact absurd (hpermission.symm.trans hpermission') hne
  · rintro ⟨g, hg, hpair⟩
    exact ⟨g, List.mem_append_left _ hg, hpair⟩

theorem GrantAdded.granted {db db' : RoleDb} {roleId permissionId : Nat}
    (h : GrantAdded db db' roleId permissionId) : db'.Granted roleId permissionId := by
  rcases h.rows with ⟨grant, hrows, -, hpair⟩
  exact ⟨grant, by rw [hrows]; simp, hpair⟩

theorem GrantAdded.mono {db db' : RoleDb} {roleId permissionId permissionId' : Nat}
    (h : GrantAdded db db' roleId permissionId) (hgranted : db.Granted roleId permissionId') :
    db'.Granted roleId permissionId' := by
  rcases h.rows with ⟨grant, hrows, -⟩
  rcases hgranted with ⟨g, hg, hpair⟩
  exact ⟨g, by rw [hrows]; exact List.mem_append_left _ hg, hpair⟩

theorem GrantAdded.ahead {db db' : RoleDb} {roleId permissionId : Nat}
    (h : GrantAdded db db' roleId permissionId)
    (hahead : forall g, g ∈ db.rolePermissions.rows -> g.id < db.rolePermissions.nextId) :
    forall g, g ∈ db'.rolePermissions.rows -> g.id < db'.rolePermissions.nextId := by
  rcases h.rows with ⟨grant, hrows, hid, -⟩
  intro g hg
  rw [hrows] at hg
  rw [h.nextId]
  rcases List.mem_append.mp hg with hold | hnew
  · exact Nat.lt_succ_of_lt (hahead g hold)
  · rw [List.mem_singleton.mp hnew, hid]
    exact Nat.lt_succ_self _

structure SchedulerGrants (db db' : RoleDb) (roleId : Nat) : Prop where
  manageSubscriptions : db'.Grants roleId kManageSubscriptionsPermission
  manageClassSchedule :
    (exists p, p ∈ db.permissions.rows ∧ p.name = kPermissionManageClassSchedule) ->
      db'.Grants roleId kPermissionManageClassSchedule
  rest : db' = { db with rolePermissions := db'.rolePermissions }

theorem wp_grantSchedulerPermissions {env : Env} {db : RoleDb} {roleId : Nat}
    {permission : PermissionRow} {post : Except Exn Unit -> RoleDb -> Prop}
    (hahead : forall g, g ∈ db.rolePermissions.rows -> g.id < db.rolePermissions.nextId)
    (hpermission : db.permissionByName kManageSubscriptionsPermission = some permission)
    (hclash : forall err db', (exists permission', db.SchedulerPermission permission' ∧
      db.Granted roleId permission'.id) -> post (.error err) db')
    (hok : forall db', (forall permission', db.SchedulerPermission permission' ->
      Not (db.Granted roleId permission'.id)) -> SchedulerGrants db db' roleId ->
        post (.ok ()) db') :
    Prog.wp env (grantSchedulerPermissions roleId) post db := by
  rcases RoleDb.permissionByName_some hpermission with ⟨hmem, hname⟩
  unfold grantSchedulerPermissions
  apply Prog.wp_bind.mpr
  rw [Prog.wp_ask, hpermission]
  apply Prog.wp_bind.mpr
  apply wp_addRolePermission hahead
  · intro err hgranted
    exact hclash err db ⟨permission, Or.inl hpermission, hgranted⟩
  · intro id db1 hungranted hadded
    have hsubscriptions : forall db' : RoleDb,
        (forall permissionId, db1.Granted roleId permissionId ->
          db'.Granted roleId permissionId) -> db'.permissions = db.permissions ->
          db'.Grants roleId kManageSubscriptionsPermission := by
      intro db' hmono hpermissions
      rcases hmono _ hadded.granted with ⟨g, hg, hrole, hid⟩
      exact ⟨permission, g, by rw [hpermissions]; exact hmem, hname, hg, hrole, hid⟩
    have hpermissions : db1.permissions = db.permissions := by rw [hadded.rest]
    apply Prog.wp_bind.mpr
    rw [Prog.wp_ask]
    have hlookup : db1.permissionByName kPermissionManageClassSchedule =
        db.permissionByName kPermissionManageClassSchedule := by
      unfold RoleDb.permissionByName
      rw [hpermissions]
    rw [hlookup]
    cases hclass : db.permissionByName kPermissionManageClassSchedule with
    | none =>
        apply hok db1
        · rintro permission' (hfound | hfound)
          · rw [hpermission] at hfound
            cases hfound
            exact hungranted
          · rw [hclass] at hfound
            cases hfound
        · refine ⟨hsubscriptions db1 (fun _ h => h) hpermissions, ?_, hadded.rest⟩
          rintro ⟨p, hp, hpname⟩
          have hnot := Table.find?_none hclass hp
          simp [hpname] at hnot
    | some classSchedule =>
        rcases RoleDb.permissionByName_some hclass with ⟨hclassMem, hclassName⟩
        have hne : permission.id ≠ classSchedule.id := by
          apply RoleDb.permission_id_ne hmem hclassMem
          rw [hname, hclassName]
          decide
        apply Prog.wp_bind.mpr
        apply wp_addRolePermission (hadded.ahead hahead)
        · intro err hgranted
          exact hclash err db1
            ⟨classSchedule, Or.inr hclass, (hadded.granted_iff hne).mp hgranted⟩
        · intro id' db2 hungranted' hadded'
          have hpermissions' : db2.permissions = db.permissions := by
            rw [hadded'.rest]
            exact hpermissions
          apply hok db2
          · rintro permission' (hfound | hfound)
            · rw [hpermission] at hfound
              cases hfound
              exact hungranted
            · rw [hclass] at hfound
              cases hfound
              exact fun hgranted => hungranted' ((hadded.granted_iff hne).mpr hgranted)
          · refine ⟨hsubscriptions db2 (fun _ h => hadded'.mono h) hpermissions', ?_, ?_⟩
            · rintro -
              rcases hadded'.granted with ⟨g, hg, hrole, hid⟩
              exact ⟨classSchedule, g, by rw [hpermissions']; exact hclassMem, hclassName, hg,
                hrole, hid⟩
            · rw [hadded'.rest, hadded.rest]

section Runs

variable {env : Env} {sodium : Sodium} {salt : Blob} {schedulerEmail password : String}
  {db : RoleDb}

theorem run_existing (hsome : (People.personByEmail db.auth schedulerEmail).isSome = true) :
    Prog.transact env (ensureSchedulerServiceAccount sodium salt schedulerEmail password) db =
      (.ok (), db) := by
  rcases Option.isSome_iff_exists.mp hsome with ⟨person, hperson⟩
  have hwp : Prog.wp env
      (ensureSchedulerServiceAccount sodium salt schedulerEmail password)
      (fun outcome db' => outcome = .ok () ∧ db' = db) db := by
    unfold ensureSchedulerServiceAccount
    apply Prog.wp_bind.mpr
    apply wp_lookupOnAuth
    rw [hperson]
    exact ⟨rfl, rfl⟩
  unfold Prog.transact
  unfold Prog.wp at hwp
  rcases hrun : (ensureSchedulerServiceAccount sodium salt schedulerEmail password).run env db
    with ⟨outcome, db'⟩
  rw [hrun] at hwp
  rcases hwp with ⟨houtcome, hdb⟩
  dsimp only at houtcome hdb
  rw [houtcome, hdb]

theorem provisioned_of_added {auth : AuthDb} {person : Person} {role : RoleRow}
    {db' : RoleDb} {assignment : RoleAssignmentRow}
    (hnone : People.personByEmail db.auth schedulerEmail = none)
    (hadded : VerifiedAdded db.auth auth person) (hemail : person.email = schedulerEmail)
    (hauth : db'.auth = auth) (hrole : role ∈ db'.roles.rows)
    (hname : role.name = kSchedulerRoleName)
    (hsubscriptions : db'.Grants role.id kManageSubscriptionsPermission)
    (hschedule : (exists p, p ∈ db'.permissions.rows ∧
      p.name = kPermissionManageClassSchedule) ->
        db'.Grants role.id kPermissionManageClassSchedule)
    (hassignment : assignment ∈ db'.roleAssignments.rows)
    (hperson : assignment.personId = person.id) (hroleId : assignment.roleId = role.id) :
    db'.Provisioned schedulerEmail := by
  refine ⟨person, role, ?_, hrole, hname, ⟨assignment, hassignment, hperson, hroleId⟩,
    hsubscriptions, hschedule⟩
  intro p
  rw [hauth, hadded.rows]
  constructor
  · rintro ⟨hold | hnew, hsame, -⟩
    · rw [Table.find?_none hnone hold] at hsame
      cases hsame
    · exact hnew
  · intro heq
    rw [heq, hemail]
    exact ⟨Or.inr rfl, People.sameEmail_self schedulerEmail, hadded.verified⟩

/-- Without an account, the call succeeds exactly when the role has none of the grants and
the password is hashed, and then it leaves a whole account. -/
theorem wp_ensure_fresh {permission : PermissionRow} (hconsistent : db.Consistent)
    (hpermission : db.permissionByName kManageSubscriptionsPermission = some permission)
    (hnone : People.personByEmail db.auth schedulerEmail = none) :
    Prog.wp env (ensureSchedulerServiceAccount sodium salt schedulerEmail password)
      (fun outcome db' =>
        (Provisionable sodium salt schedulerEmail password db ->
          outcome = .ok () ∧ db'.Provisioned schedulerEmail) ∧
        (outcome = .ok () -> Provisionable sodium salt schedulerEmail password db)) db := by
  have hnotReady : forall (err : Exn) (db' : RoleDb),
      Not (Provisionable sodium salt schedulerEmail password db) ->
      (Provisionable sodium salt schedulerEmail password db ->
          (.error err : Except Exn Unit) = .ok () ∧ db'.Provisioned schedulerEmail) ∧
        ((.error err : Except Exn Unit) = .ok () ->
          Provisionable sodium salt schedulerEmail password db) :=
    fun err db' hnot => ⟨fun hready => absurd hready hnot, fun h => (nomatch h)⟩
  have hreadyIf : forall hash, sodium.hashPassword opsLimitInteractive memLimitInteractive
      salt password = .ok hash ->
      (forall role permission', db.roleByName kSchedulerRoleName = some role ->
        db.SchedulerPermission permission' -> Not (db.Granted role.id permission'.id)) ->
        Provisionable sodium salt schedulerEmail password db := by
    intro hash hhash hungranted
    refine ⟨fun hsome => ?_, fun _ => ⟨hash, hhash⟩, fun _ => hungranted⟩
    rw [hnone] at hsome
    cases hsome
  unfold ensureSchedulerServiceAccount
  apply Prog.wp_bind.mpr
  apply wp_lookupOnAuth
  rw [hnone]
  apply Prog.wp_bind.mpr
  apply wp_onAuth
  · intro err auth hrun
    apply hnotReady
    intro hready
    have hwp : Prog.wp env (createFullyValidatedUser sodium none salt
        { email := schedulerEmail, firstName := kSchedulerServiceAccountFirstName
          lastName := kSchedulerServiceAccountLastName } password)
        (fun outcome _ => outcome = .ok ()) db.auth :=
      wp_createFullyValidatedUser_fresh hconsistent.people hnone
        (fun err herr => by
          rcases hready.hashed hnone with ⟨hash, hhash⟩
          rw [herr] at hhash
          cases hhash)
        (fun _ _ _ _ _ _ => rfl)
    have houtcome := Prog.wp_run hwp hrun
    cases houtcome
  · intro value auth hrun
    have hwp : Prog.wp env (createFullyValidatedUser sodium none salt
        { email := schedulerEmail, firstName := kSchedulerServiceAccountFirstName
          lastName := kSchedulerServiceAccountLastName } password)
        (fun outcome auth' => outcome = .ok () -> exists hash person,
          sodium.hashPassword opsLimitInteractive memLimitInteractive salt password =
              .ok hash ∧ VerifiedAdded db.auth auth' person ∧
            person.email = schedulerEmail) db.auth :=
      wp_createFullyValidatedUser_fresh hconsistent.people hnone
        (fun err _ h => (nomatch h))
        (fun hash person auth' hhash hadded hemail _ => ⟨hash, person, hhash, hadded, hemail⟩)
    rcases Prog.wp_run hwp hrun rfl with ⟨hash, person, hhash, hadded, hemail⟩
    have hperson : People.personByEmail auth schedulerEmail = some person := by
      rw [← hemail]
      exact People.personByEmail_of_mem ((hadded.rows person).mpr (Or.inr rfl))
    have hready := hreadyIf hash hhash
    apply Prog.wp_bind.mpr
    apply wp_lookupOnAuth
    rw [hperson]
    have hgrantAhead := fun g hg => (hconsistent.rolePermissions g hg).1
    have hassignmentFree : forall a, a ∈ db.roleAssignments.rows ->
        a.personId ≠ person.id := by
      intro a ha
      rcases (hconsistent.roleAssignments a ha).2 with ⟨p, hp, hid⟩
      rw [← hid, hadded.id]
      exact Nat.ne_of_lt (hconsistent.people p hp)
    have htail : forall (role : RoleRow) (db1 : RoleDb), db1.auth = auth ->
        db1.permissions = db.permissions -> db1.rolePermissions = db.rolePermissions ->
        db1.roleAssignments = db.roleAssignments -> role ∈ db1.roles.rows ->
        role.name = kSchedulerRoleName ->
        ((forall permission', db.SchedulerPermission permission' ->
          Not (db.Granted role.id permission'.id)) <->
          forall role' permission', db.roleByName kSchedulerRoleName = some role' ->
            db.SchedulerPermission permission' ->
              Not (db.Granted role'.id permission'.id)) ->
        Prog.wp env ((grantSchedulerPermissions role.id).bind (fun _ =>
            (addRoleAssignment person.id role.id).bind (fun _ => Prog.done ())))
          (fun outcome db' =>
            (Provisionable sodium salt schedulerEmail password db ->
              outcome = .ok () ∧ db'.Provisioned schedulerEmail) ∧
            (outcome = .ok () -> Provisionable sodium salt schedulerEmail password db)) db1 := by
      intro role db1 hauth hpermissions hgrants hassignments hrole hname hfree
      have hlookup : forall name, db1.permissionByName name = db.permissionByName name := by
        intro name
        unfold RoleDb.permissionByName
        rw [hpermissions]
      have hscheduler : forall permission', db1.SchedulerPermission permission' <->
          db.SchedulerPermission permission' := by
        intro permission'
        unfold RoleDb.SchedulerPermission
        rw [hlookup, hlookup]
      have hgranted : forall permissionId, db1.Granted role.id permissionId <->
          db.Granted role.id permissionId := by
        intro permissionId
        unfold RoleDb.Granted
        rw [hgrants]
      apply Prog.wp_bind.mpr
      apply wp_grantSchedulerPermissions (by rw [hgrants]; exact hgrantAhead)
        ((hlookup _).trans hpermission)
      · rintro err db' ⟨permission', hfound, hclash⟩
        apply hnotReady
        intro hready'
        exact hfree.mpr (hready'.ungranted hnone) permission' ((hscheduler _).mp hfound)
          ((hgranted _).mp hclash)
      · intro db2 hungranted hscheduled
        have hassignments' : db2.roleAssignments = db.roleAssignments := by
          rw [hscheduled.rest]
          exact hassignments
        have hisReady := hready (hfree.mp (fun permission' hfound hclash =>
          hungranted permission' ((hscheduler _).mpr hfound) ((hgranted _).mpr hclash)))
        apply Prog.wp_bind.mpr
        apply wp_addRoleAssignment
        · rw [hassignments']
          exact fun a ha => (hconsistent.roleAssignments a ha).1
        · rw [hassignments']
          exact hassignmentFree
        · intro assignment table htable hpersonId hroleId
          refine ⟨fun _ => ⟨rfl, ?_⟩, fun _ => hisReady⟩
          apply provisioned_of_added hnone hadded hemail
          · change db2.auth = auth
            rw [hscheduled.rest]
            exact hauth
          · change role ∈ db2.roles.rows
            rw [hscheduled.rest]
            exact hrole
          · exact hname
          · exact hscheduled.manageSubscriptions
          · intro hclass
            apply hscheduled.manageClassSchedule
            change exists p, p ∈ db2.permissions.rows ∧ _ at hclass
            rw [hscheduled.rest] at hclass
            exact hclass
          · change assignment ∈ table.rows
            rw [htable]
            simp
          · exact hpersonId
          · exact hroleId
    apply Prog.wp_bind.mpr
    apply @wp_schedulerRole _ env { db with auth := auth } _ hconsistent.roles
    · intro role hrole
      have hrole' : db.roleByName kSchedulerRoleName = some role := hrole
      rcases RoleDb.roleByName_some hrole' with ⟨hmem, hname⟩
      apply htail role { db with auth := auth } rfl rfl rfl rfl hmem hname
      constructor
      · intro h role' permission' hfound hscheduled
        rw [hrole'] at hfound
        cases hfound
        exact h permission' hscheduled
      · intro h permission' hscheduled
        exact h role permission' hrole' hscheduled
    · intro role table hnew hid hname hrows
      have hnew' : db.roleByName kSchedulerRoleName = none := hnew
      apply htail role { db with auth := auth, roles := table } rfl rfl rfl rfl
        (by rw [hrows]; simp) hname
      constructor
      · intro _ role' permission' hfound
        rw [hnew'] at hfound
        cases hfound
      · rintro - permission' - ⟨g, hg, hgrole, -⟩
        rcases (hconsistent.rolePermissions g hg).2 with ⟨r, hr, hrid⟩
        have hlt := hconsistent.roles r hr
        have hid' : role.id = db.roles.nextId := hid
        omega

theorem converges_iff (hconsistent : db.Consistent)
    (hpermission : exists permission, permission ∈ db.permissions.rows ∧
      permission.name = kManageSubscriptionsPermission) :
    Converges env sodium salt schedulerEmail password db <->
      Provisionable sodium salt schedulerEmail password db := by
  cases hperson : People.personByEmail db.auth schedulerEmail with
  | some person =>
      have hsome : (People.personByEmail db.auth schedulerEmail).isSome = true := by
        rw [hperson]
        rfl
      have hrun : Prog.transact env (ensureSchedulerServiceAccount sodium salt
          schedulerEmail password) db = (.ok (), db) := run_existing hsome
      constructor
      · intro h
        have hprovisioned := h.provisioned
        rw [hrun] at hprovisioned
        exact ⟨fun _ => hprovisioned, fun hnone => by simp [hperson] at hnone,
          fun hnone => by simp [hperson] at hnone⟩
      · intro h
        constructor
        · rw [hrun]
        · rw [hrun]
          exact h.existing hsome
        · intro _
          rw [hrun]
        · intro err _
          rw [hrun]
  | none =>
      rcases hpermission with ⟨found, hmem, hname⟩
      have hlookup : exists permission,
          db.permissionByName kManageSubscriptionsPermission = some permission := by
        cases hfind : db.permissionByName kManageSubscriptionsPermission with
        | some permission => exact ⟨permission, rfl⟩
        | none =>
            have hnot := Table.find?_none hfind hmem
            simp [hname] at hnot
      rcases hlookup with ⟨permission, hpermission⟩
      have hwp := @wp_ensure_fresh _ env sodium salt schedulerEmail password db permission
        hconsistent hpermission hperson
      unfold Prog.wp at hwp
      constructor
      · intro h
        apply hwp.2
        have hsucceeds := h.succeeds
        unfold Prog.transact at hsucceeds
        rcases hrun : (ensureSchedulerServiceAccount sodium salt schedulerEmail password).run
          env db with ⟨outcome, db'⟩
        rw [hrun] at hsucceeds
        cases outcome with
        | ok value => rfl
        | error err => cases hsucceeds
      · intro h
        rcases hwp.1 h with ⟨houtcome, hprovisioned⟩
        rcases hrun : (ensureSchedulerServiceAccount sodium salt schedulerEmail password).run
          env db with ⟨outcome, db'⟩
        rw [hrun] at houtcome hprovisioned
        dsimp only at houtcome hprovisioned
        have htransact : Prog.transact env
            (ensureSchedulerServiceAccount sodium salt schedulerEmail password) db =
              (.ok (), db') := by
          unfold Prog.transact
          rw [hrun, houtcome]
        constructor
        · rw [htransact]
        · rw [htransact]
          exact hprovisioned
        · intro hsome
          rw [hperson] at hsome
          cases hsome
        · intro err herr
          rw [htransact] at herr
          cases herr

end Runs

end Provisioning

section Rotation

attribute [local instance] Citext.plain

def populated : RoleDb :=
  { auth := AuthDb.empty
    roles := Table.empty
    permissions :=
      { rows := [{ id := 1, name := "manage_subscriptions", description := "" }]
        nextId := 2
        noClash := by decide }
    rolePermissions := Table.empty
    roleAssignments := Table.empty }

def rotated : RoleDb :=
  deletePerson 1 (Prog.transact (Env.ofClock 0 "")
    (ensureSchedulerServiceAccount Sodium.plain [] "cron@example.com" "old") populated).2

theorem converges_populated :
    (exists permission, permission ∈ populated.permissions.rows ∧
      permission.name = kManageSubscriptionsPermission) ∧
    Converges (Env.ofClock 0 "") Sodium.plain [] "cron@example.com" "old" populated :=
  have hpermission : exists permission, permission ∈ populated.permissions.rows ∧
      permission.name = kManageSubscriptionsPermission :=
    ⟨_, List.mem_singleton.mpr rfl, rfl⟩
  ⟨hpermission, (converges_iff
    { people := fun _ h => absurd h List.not_mem_nil
      roles := fun _ h => absurd h List.not_mem_nil
      rolePermissions := fun _ h => absurd h List.not_mem_nil
      roleAssignments := fun _ h => absurd h List.not_mem_nil } hpermission).mpr
    { existing := fun h => (nomatch h)
      hashed := fun _ => ⟨"old", rfl⟩
      ungranted := fun _ _ _ h => (nomatch h) }⟩

/-- The role kept its grants, and granting again violates the unique constraint. -/
theorem rotated_notConverges :
    rotated.auth.people.rows = [] ∧
    (Prog.transact (Env.ofClock 0 "")
      (ensureSchedulerServiceAccount Sodium.plain [] "cron@example.com" "new") rotated).1 =
        .error (.sql .uniqueViolation) ∧
    Not (Converges (Env.ofClock 0 "") Sodium.plain [] "cron@example.com" "new" rotated) := by
  have hrun : (Prog.transact (Env.ofClock 0 "")
      (ensureSchedulerServiceAccount Sodium.plain [] "cron@example.com" "new") rotated).1 =
        .error (.sql .uniqueViolation) := by
    decide
  refine ⟨by decide, hrun, fun h => ?_⟩
  have hsucceeds := h.succeeds
  rw [hrun] at hsucceeds
  cases hsucceeds

end Rotation

end Auth
end ServerComponents
