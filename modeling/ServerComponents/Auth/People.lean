import ServerComponents.Auth.AuthHelper

/-!
# The people table helper
-/

namespace ServerComponents
namespace Auth

open Relational Statements

namespace People

variable [Citext]

def personByEmail (db : AuthDb) (email : String) : Option Person :=
  db.people.find? (fun p => sameEmail p.email email)

def personById (db : AuthDb) (id : Nat) : Option Person :=
  db.people.find? (fun p => p.id == id)

def lookupPersonByEmail (email : String) : Sql (Option Person) :=
  Prog.ask (fun _ db => .ok (personByEmail db email))

def getPersonById (id : Nat) : Sql (Option Person) :=
  Prog.ask (fun _ db => .ok (personById db id))

def addPerson (email firstName lastName passwordHash : String) : Sql Nat :=
  Prog.exec (fun env db => do
    let (row, table) ← orUniqueViolation (db.people.insert? (fun id =>
      { id := id, email := email, firstName := firstName, lastName := lastName
        passwordHash := passwordHash, emailVerifiedAt := none
        mustChangePassword := false, updatedAt := env.now
        failedLoginAttempts := 0, lockedUntil := none }))
    pure (row.id, { db with people := table }))

/-- `UPDATE people SET ... WHERE id = $1`. -/
def updateById (db : AuthDb) (id : Nat) (change : Person -> Person) :
    Except Exn AuthDb := do
  let (_, table) ← orUniqueViolation
    (db.people.update? (fun p => p.id == id) change)
  pure { db with people := table }

variable {db : AuthDb} {p : Person}

theorem personByEmail_some {email : String} (h : personByEmail db email = some p) :
    p ∈ db.people.rows ∧ sameEmail p.email email = true :=
  Table.find?_some h

theorem personByEmail_congr {email email' : String}
    (same : sameEmail email email' = true) (db : AuthDb) :
    personByEmail db email = personByEmail db email' := by
  simp only [sameEmail, beq_iff_eq] at same
  simp [personByEmail, sameEmail, same]

theorem personById_some {id : Nat}
    (h : personById db id = some p) : p ∈ db.people.rows ∧ p.id = id := by
  have hsome := Table.find?_some h
  exact ⟨hsome.1, by simpa using hsome.2⟩

theorem eq_of_id_eq {p p' : Person} (hp : p ∈ db.people.rows)
    (hp' : p' ∈ db.people.rows) (hid : p.id = p'.id) : p = p' :=
  Table.eq_of_clash Person.Clash.symm hp hp' (Or.inl hid)

theorem personById_of_mem (hp : p ∈ db.people.rows) :
    personById db p.id = some p := by
  cases hfind : personById db p.id with
  | none =>
      have hnot := Table.find?_none hfind hp
      simp at hnot
  | some p' =>
      rcases personById_some hfind with ⟨hp', hid⟩
      rw [eq_of_id_eq hp' hp hid]

/-- One row of the people table was rewritten and nothing else. -/
structure RowReplaced (db db' : AuthDb) (p row : Person) : Prop where
  mem : p ∈ db.people.rows
  id_eq : row.id = p.id
  email_eq : row.email = p.email
  rows_eq : db'.people.rows =
    db.people.rows.map (fun r => if r.id == p.id then row else r)
  rest_eq : db' = { db with people := db'.people }

namespace RowReplaced

variable {db db' : AuthDb} {p row : Person}

theorem find?_eq (h : RowReplaced db db' p row) {sel : Person -> Bool}
    (hsel : sel row = sel p) :
    db'.people.find? sel =
      (db.people.find? sel).map (fun r => if r.id == p.id then row else r) := by
  apply Table.find?_map h.rows_eq
  intro r hr
  cases hid : r.id == p.id with
  | false => rfl
  | true =>
      have hrp : r = p := eq_of_id_eq hr h.mem (by simpa using hid)
      simpa [hrp] using hsel

theorem personByEmail_eq (h : RowReplaced db db' p row) (email : String) :
    personByEmail db' email =
      (personByEmail db email).map (fun r => if r.id == p.id then row else r) :=
  h.find?_eq (by rw [h.email_eq])

theorem personById_eq (h : RowReplaced db db' p row) (id : Nat) :
    personById db' id =
      (personById db id).map (fun r => if r.id == p.id then row else r) :=
  h.find?_eq (by rw [h.id_eq])

end RowReplaced

theorem updateById_const {p row : Person} (hp : p ∈ db.people.rows)
    (hid : row.id = p.id) (hemail : row.email = p.email) :
    exists db', updateById db p.id (fun _ => row) = .ok db' ∧
      RowReplaced db db' p row := by
  have hsame : forall r, r ∈ db.people.rows ->
      (if r.id == p.id then row else r).id = r.id ∧
        (if r.id == p.id then row else r).email = r.email := by
    intro r hr
    cases hrid : r.id == p.id with
    | false => exact ⟨rfl, rfl⟩
    | true =>
        have hrp : r = p := eq_of_id_eq hr hp (by simpa using hrid)
        rw [hrp]
        exact ⟨hid, hemail⟩
  have hkeep : forall r r', r ∈ db.people.rows -> r' ∈ db.people.rows ->
      Person.Clash (if r.id == p.id then row else r)
        (if r'.id == p.id then row else r') -> Person.Clash r r' := by
    intro r r' hr hr' hclash
    unfold Person.Clash at hclash
    rw [(hsame r hr).1, (hsame r hr).2, (hsame r' hr').1, (hsame r' hr').2] at hclash
    exact hclash
  rcases Table.update?_isSome (fun r => r.id == p.id) (fun _ => row) hkeep with
    ⟨changed, table, hupdate⟩
  refine ⟨{ db with people := table }, ?_, ?_⟩
  · simp [updateById, hupdate, orUniqueViolation, bind, Except.bind, pure,
      Except.pure]
  · exact ⟨hp, hid, hemail, (Table.update?_some hupdate).2.1, rfl⟩

/-- `UPDATE people ... WHERE id = $1 RETURNING`, by a rewrite that may fail. -/
def updatePersonReturning (personId : Nat) (change : Env -> Person -> Except Exn Person)
    (env : Env) (db : AuthDb) : Except Exn (Option Person × AuthDb) :=
  match personById db personId with
  | none => .ok (none, db)
  | some p => do
      let row ← change env p
      let db' ← updateById db personId (fun _ => row)
      pure (some row, db')

theorem updatePersonReturning_cases (personId : Nat)
    (change : Env -> Person -> Except Exn Person) (env : Env) (db : AuthDb)
    (hkeep : forall p row, change env p = .ok row ->
      row.id = p.id ∧ row.email = p.email) :
    (personById db personId = none ∧
      updatePersonReturning personId change env db = .ok (none, db)) ∨
    (exists p err, personById db personId = some p ∧
      change env p = .error err ∧
      updatePersonReturning personId change env db = .error err) ∨
    (exists p row db', personById db personId = some p ∧
      change env p = .ok row ∧ RowReplaced db db' p row ∧
      updatePersonReturning personId change env db = .ok (some row, db')) := by
  unfold updatePersonReturning
  cases hfind : personById db personId with
  | none => exact Or.inl ⟨rfl, rfl⟩
  | some p =>
      right
      rcases personById_some hfind with ⟨hp, hid⟩
      cases hchange : change env p with
      | error err =>
          exact Or.inl ⟨p, err, rfl, hchange, by simp [bind, Except.bind, hchange]⟩
      | ok row =>
          right
          rcases hkeep p row hchange with ⟨hrowId, hrowEmail⟩
          rcases updateById_const hp hrowId hrowEmail with
            ⟨db', hupdate, hreplaced⟩
          rw [hid] at hupdate
          exact ⟨p, row, db', rfl, hchange, hreplaced, by
            simp [bind, Except.bind, hchange, hupdate, pure, Except.pure]⟩

def updatePersonRow (personId : Nat) (change : Env -> Person -> Person) : Sql Unit := do
  let _ ← Prog.exec (updatePersonReturning personId (fun env p => .ok (change env p)))
  pure ()

variable {post : Except Exn Unit -> AuthDb -> Prop}

theorem wp_updatePersonRow (env : Env) (db : AuthDb) (personId : Nat)
    {change : Env -> Person -> Person}
    (hkeep : forall p, (change env p).id = p.id ∧ (change env p).email = p.email)
    (hnone : personById db personId = none -> post (.ok ()) db)
    (hsome : forall p db', personById db personId = some p ->
      RowReplaced db db' p (change env p) -> post (.ok ()) db') :
    Prog.wp env (updatePersonRow personId change) post db := by
  simp only [updatePersonRow, Prog.bind_eq, Prog.wp_bind, Prog.wp_exec]
  rcases updatePersonReturning_cases personId (fun env p => .ok (change env p)) env db
      (by intro p row h; cases h; exact hkeep p) with
    ⟨hfind, hwrite⟩ | ⟨p, err, _, hchange, _⟩ |
      ⟨p, row, db', hfind, hchange, hreplaced, hwrite⟩
  · rw [hwrite]
    exact hnone hfind
  · cases hchange
  · cases hchange
    rw [hwrite]
    exact hsome p db' hfind hreplaced

def clearLoginLockout (personId : Nat) : Sql Unit := do
  let _ ← Prog.exec (updatePersonReturning personId (fun env p =>
    .ok { p with failedLoginAttempts := 0, lockedUntil := none, updatedAt := env.now }))
  pure ()

theorem wp_clearLoginLockout (env : Env) (db : AuthDb) (personId : Nat)
    (hnone : personById db personId = none -> post (.ok ()) db)
    (hsome : forall p db', personById db personId = some p ->
      RowReplaced db db' p
        { p with
          failedLoginAttempts := 0, lockedUntil := none, updatedAt := env.now } ->
      post (.ok ()) db') :
    Prog.wp env (clearLoginLockout personId) post db :=
  wp_updatePersonRow env db personId (fun _ => ⟨rfl, rfl⟩) hnone hsome

def updatePasswordHash (personId : Nat) (passwordHash : String) : Sql Unit :=
  updatePersonRow personId (fun env p =>
    { p with passwordHash := passwordHash, updatedAt := env.now })

def setMustChangePassword (personId : Nat) (mustChangePassword : Bool) : Sql Unit :=
  updatePersonRow personId (fun env p =>
    { p with mustChangePassword := mustChangePassword, updatedAt := env.now })

def markVerified (env : Env) (p : Person) : Person :=
  { p with emailVerifiedAt := some (env.now : Int), updatedAt := env.now }

def verifyPersonEmail (email : String) : Sql Unit := do
  match ← lookupPersonByEmail email with
  | none => throw (.runtimeError "People::VerifyPersonEmail - Person not found")
  | some p =>
      if p.emailVerifiedAt.isSome then
        throw (.runtimeError "People::VerifyPersonEmail - EmailVerifiedAt already set")
      else
        Prog.exec (fun env db => do
          let (_, table) ← orUniqueViolation
            (db.people.update? (fun r => sameEmail r.email email) (markVerified env))
          pure ((), { db with people := table }))

theorem sameEmail_self (email : String) : sameEmail email email = true := by
  simp [sameEmail]

theorem personByEmail_of_mem (hp : p ∈ db.people.rows) :
    personByEmail db p.email = some p := by
  cases hfind : personByEmail db p.email with
  | none =>
      have hnot := Table.find?_none hfind hp
      rw [sameEmail_self] at hnot
      cases hnot
  | some p' =>
      rcases personByEmail_some hfind with ⟨hp', hsame⟩
      rw [Table.eq_of_clash Person.Clash.symm hp' hp (Or.inr hsame)]

theorem sameEmail_eq_id {p r : Person} {email : String}
    (hp : personByEmail db email = some p) (hr : r ∈ db.people.rows) :
    sameEmail r.email email = (r.id == p.id) := by
  rcases personByEmail_some hp with ⟨hmem, hsame⟩
  cases hid : r.id == p.id with
  | true =>
      rw [eq_of_id_eq hr hmem (by simpa using hid)]
      exact hsame
  | false =>
      apply Bool.eq_false_iff.mpr
      intro hsame'
      have hclash : sameEmail r.email p.email = true := by
        simp only [sameEmail, beq_iff_eq] at hsame hsame' ⊢
        exact hsame'.trans hsame.symm
      rw [Table.eq_of_clash Person.Clash.symm hr hmem (Or.inr hclash)] at hid
      simp at hid

theorem update?_markVerified (env : Env) {email : String}
    (hfind : personByEmail db email = some p) :
    exists changed table,
      db.people.update? (fun r => sameEmail r.email email) (markVerified env) =
          some (changed, table) ∧
        RowReplaced db { db with people := table } p (markVerified env p) := by
  have hmem := (personByEmail_some hfind).1
  have hrows : db.people.rows.map (fun r =>
        if sameEmail r.email email then markVerified env r else r) =
      db.people.rows.map (fun r =>
        if r.id == p.id then markVerified env p else r) := by
    apply List.map_congr_left
    intro r hr
    rw [sameEmail_eq_id hfind hr]
    cases hid : r.id == p.id with
    | false => rfl
    | true => rw [eq_of_id_eq hr hmem (by simpa using hid)]
  rcases Table.update?_isSome (fun r => sameEmail r.email email) (markVerified env)
    (t := db.people) (by
      intro r r' hr hr' hclash
      cases hsel : sameEmail r.email email <;>
        cases hsel' : sameEmail r'.email email <;>
        simpa [hsel, hsel', Person.Clash, markVerified] using hclash) with
    ⟨changed, table, htable⟩
  refine ⟨changed, table, htable, hmem, rfl, rfl, ?_, rfl⟩
  rw [← hrows]
  exact (Table.update?_some htable).2.1

theorem wp_verifyPersonEmail {env : Env} {email : String}
    (herror : forall what, post (.error (.runtimeError what)) db)
    (hok : forall p db', personByEmail db email = some p ->
      p.emailVerifiedAt = none -> RowReplaced db db' p (markVerified env p) ->
      post (.ok ()) db') :
    Prog.wp env (verifyPersonEmail email) post db := by
  simp only [verifyPersonEmail, lookupPersonByEmail, Prog.bind_eq, Prog.wp_bind,
    Prog.wp_ask]
  cases hfind : personByEmail db email with
  | none => exact herror _
  | some p =>
      dsimp only
      split
      · exact herror _
      · rename_i hunverified
        rw [Prog.wp_exec]
        rcases update?_markVerified env hfind with ⟨changed, table, htable, hreplaced⟩
        simp only [htable, orUniqueViolation, bind, Except.bind, pure, Except.pure]
        exact hok p _ hfind (by simpa using hunverified) hreplaced

theorem wp_verifyPersonEmail_unverified {env : Env} {email : String}
    (hfind : personByEmail db email = some p) (hunverified : p.emailVerifiedAt = none)
    (hok : forall db', RowReplaced db db' p (markVerified env p) -> post (.ok ()) db') :
    Prog.wp env (verifyPersonEmail email) post db := by
  simp only [verifyPersonEmail, lookupPersonByEmail, Prog.bind_eq, Prog.wp_bind,
    Prog.wp_ask, hfind]
  rw [if_neg (by simp [hunverified]), Prog.wp_exec]
  rcases update?_markVerified env hfind with ⟨changed, table, htable, hreplaced⟩
  simp only [htable, orUniqueViolation, bind, Except.bind, pure, Except.pure]
  exact hok _ hreplaced

namespace RowReplaced

variable {db db' db'' : AuthDb} {p row row' : Person}

theorem row_mem (h : RowReplaced db db' p row) : row ∈ db'.people.rows := by
  rw [h.rows_eq, List.mem_map]
  exact ⟨p, h.mem, by simp⟩

theorem refl (hp : p ∈ db.people.rows) :
    RowReplaced db db p p := by
  refine ⟨hp, rfl, rfl, ?_, rfl⟩
  rw [List.map_congr_left (g := id)]
  · exact (List.map_id _).symm
  · intro r hr
    cases hid : r.id == p.id with
    | false => rfl
    | true => exact (eq_of_id_eq hr hp (by simpa using hid)).symm

theorem trans (h : RowReplaced db db' p row) (h' : RowReplaced db' db'' row row') :
    RowReplaced db db'' p row' := by
  refine ⟨h.mem, h'.id_eq.trans h.id_eq, h'.email_eq.trans h.email_eq, ?_, ?_⟩
  · rw [h'.rows_eq, h.rows_eq, List.map_map]
    apply List.map_congr_left
    intro r _
    by_cases hid : r.id = p.id
    · simp [hid, h.id_eq]
    · simp [hid, h.id_eq]
  · rw [h'.rest_eq, h.rest_eq]

end RowReplaced

theorem wp_updatePersonRow_of_mem {env : Env} {personId : Nat}
    {change : Env -> Person -> Person} (hp : p ∈ db.people.rows) (hid : personId = p.id)
    (hkeep : forall p, (change env p).id = p.id ∧ (change env p).email = p.email)
    (hok : forall db', RowReplaced db db' p (change env p) -> post (.ok ()) db') :
    Prog.wp env (updatePersonRow personId change) post db := by
  rw [hid]
  apply wp_updatePersonRow env db p.id hkeep
  · intro hnone
    rw [personById_of_mem hp] at hnone
    cases hnone
  · intro q db' hq hreplaced
    rw [personById_of_mem hp] at hq
    cases hq
    exact hok db' hreplaced

end People

def isVerified (person : Option Person) : Bool :=
  match person with
  | none => false
  | some p => p.emailVerifiedAt.isSome

/-!
# The audit trail
-/

section Trail

variable [Citext]

namespace AuthEvents

/-- A person id that is not positive is stored as `NULL`.  The texts are valid ones: an insert of
header bytes that are not fails, as in `LogoutRequest.recordEvent`. -/
def recordEvent (kind : AuthEventKind) (personId : Int) (ip userAgent : String)
    (detailJson : String) : Sql Unit :=
  Prog.exec (fun env db => .ok ((), { db with
    authEvents := db.authEvents ++
      [{ kind := kind, personId := if 0 < personId then some personId.toNat else none
         ip := ip, userAgent := userAgent, whenUs := env.now
         detailJson := detailJson }] }))

end AuthEvents

namespace AdminAlerts

def addAdminAlert (description : String) : Sql Unit :=
  Prog.exec (fun _ db => .ok ((), { db with
    adminAlerts := db.adminAlerts ++ [description] }))

end AdminAlerts

end Trail

end Auth
end ServerComponents
