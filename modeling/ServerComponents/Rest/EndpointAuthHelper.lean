import ServerComponents.Rest.Writes

/-!
# Who may read and who may write a table

A table is readable when it is in the application's base list, in the lists of an
administrator, or granted by a permission.  Only an administrator or a grant
makes it writable.
-/

namespace ServerComponents
namespace Rest

open Relational

structure Session where
  personId : Int
  deriving Repr, DecidableEq

def Session.isLoggedIn (session : Session) : Bool := session.personId ≠ -1

/-- The answer of a check: the caller passes, or gets this response. -/
inductive Access where
  | granted
  | notAuthenticated (message : String)
  | notAuthorized (message : String)
  deriving Repr, DecidableEq

/-- The first column, in the order of the column names. -/
def stringArrayFromKeyValueTableArrayColumn (rows : List KeyValueTable) :
    Except Exn (List String) :=
  match rows with
  | [] => .ok []
  | first :: _ =>
      match first.keys with
      | [] => .error (.outOfRange "Invalid column index")
      | key :: _ => rows.mapM (fun row =>
          match row.find? key with
          | none => .error (.runtimeError "Inconsistent keys in KeyValueTableArray")
          | some value => .ok value)

namespace TableHelpers

variable {s : Schema} (engine : Engine s) (db : Database s)

def getAllowedTables : Except Exn (List String) := do
  stringArrayFromKeyValueTableArrayColumn
    (← DbCrud.getTableRows engine db "allowed_tables")

def firstColumnOf (tableName : String) : Except Exn (List String) := do
  let columns ← DbMeta.listColumns s tableName
  let t ← sqlTable s tableName
  match columns with
  | [] => throw (.outOfRange "row[0]")
  | column :: _ =>
      pure ((DbCrud.selectRows engine db t (fun _ => true) none).map
        (fun row => (row column).getD ""))

def getAdminTopLevelTables : Except Exn (List String) :=
  firstColumnOf engine db "admin_top_level_tables"

def getAdminNestedTables : Except Exn (List String) :=
  firstColumnOf engine db "admin_nested_tables"

def getRole (name : String) : Except Exn KeyValueTable := do
  let row ← DbCrud.lookupRowByValue engine db "roles" "name" name
  if row.entries = [] then throw (.runtimeError "Roles::GetRole(name) - not found")
  pure row

def filterBy (column : String) (id : Int) : KeyValueTable :=
  SortedMap.empty.set column (toString id)

def getRoleAssignmentsForPerson (personId : Int) : Except Exn (List KeyValueTable) :=
  DbCrud.getRowsByValuesWithOrderBy engine db "role_assignments"
    (filterBy "person_id" personId) "id" true

def getRolePermissionsForRole (roleId : Int) : Except Exn (List KeyValueTable) :=
  DbCrud.getRowsByValuesWithOrderBy engine db "role_permissions"
    (filterBy "role_id" roleId) "id" true

def getTablesForPermissionId (permissionId : Int) : Except Exn (List String) := do
  let rows ← DbCrud.getRowsByValuesWithOrderBy engine db "admin_table_permissions"
    (filterBy "permission_id" permissionId) "table_name" true
  rows.mapM (fun row => row.at "table_name")

end TableHelpers

namespace EndpointAuthHelper

variable {s : Schema} (engine : Engine s) (session : Session) (db : Database s)

def kRoleNameAdmin : String := "admin"

/-- `Session::ActiveUserHasRole` with the admin role; later assignments are not
read once the role is found. -/
def isAdmin : Except Exn Bool := do
  if session.isLoggedIn then
    let roleRow ← TableHelpers.getRole engine db kRoleNameAdmin
    let roleId ← (do stoll (← roleRow.at "id"))
    let assignments ←
      TableHelpers.getRoleAssignmentsForPerson engine db session.personId
    findRole roleId assignments
  else
    throw (.runtimeError "Session::ActiveUserHasRole - not logged in")
where
  findRole (roleId : Int) : List KeyValueTable -> Except Exn Bool
    | [] => .ok false
    | kv :: rest => do
        let rid ← (do stoll (← kv.at "role_id"))
        if rid = roleId then pure true else findRole roleId rest

/-- The permission ids of the caller, as a set. -/
def userPermissionIds : Except Exn (SortedMap Int Unit) := do
  let assignments ←
    TableHelpers.getRoleAssignmentsForPerson engine db session.personId
  assignments.foldlM (fun permissionIds kv => do
    let roleId ← (do stoll (← kv.at "role_id"))
    let rpRows ← TableHelpers.getRolePermissionsForRole engine db roleId
    rpRows.foldlM (fun (permissionIds : SortedMap Int Unit) rpKv => do
      let permId ← (do stoll (← rpKv.at "permission_id"))
      pure (permissionIds.set permId ())) permissionIds) SortedMap.empty

def addTablesIfNew (tables newTables : List String) : List String :=
  newTables.foldl (fun tables t => if tables.contains t then tables else tables ++ [t])
    tables

theorem mem_addTablesIfNew {tables newTables : List String} {t : String} :
    t ∈ addTablesIfNew tables newTables <-> t ∈ tables ∨ t ∈ newTables := by
  unfold addTablesIfNew
  induction newTables generalizing tables with
  | nil => simp
  | cons t' rest ih =>
      rw [List.foldl_cons, ih]
      by_cases hmem : t' ∈ tables
      · simp only [List.contains_iff_mem.mpr hmem, if_true, List.mem_cons]
        constructor
        · exact Or.imp_right Or.inr
        · rintro (h | h | h)
          · exact Or.inl h
          · exact Or.inl (h ▸ hmem)
          · exact Or.inr h
      · simp [hmem, or_assoc]

def getPermissionGrantedTables : Except Exn (List String) :=
  if session.isLoggedIn then do
    let permissionIds ← userPermissionIds engine session db
    permissionIds.keys.foldlM (fun tables permId => do
      let granted ← TableHelpers.getTablesForPermissionId engine db permId
      pure (addTablesIfNew tables granted)) []
  else
    .ok []

/-- The tables that a logged-in caller sees besides the base list, and the
exception that cut the collection short. -/
def extraTables : List String × Option Exn :=
  match isAdmin engine session db with
  | .error err => ([], some err)
  | .ok true =>
      match TableHelpers.getAdminTopLevelTables engine db with
      | .error err => ([], some err)
      | .ok topLevel =>
          match TableHelpers.getAdminNestedTables engine db with
          | .error err => (topLevel, some err)
          | .ok nested => (topLevel ++ nested, none)
  | .ok false =>
      match getPermissionGrantedTables engine session db with
      | .error err => ([], some err)
      | .ok granted => (granted, none)

/-- The allowed tables, and the exception that was logged and swallowed. -/
def getAllowedTables : Except Exn (List String × Option Exn) := do
  let tables ← TableHelpers.getAllowedTables engine db
  if session.isLoggedIn then
    let (extra, swallowed) := extraTables engine session db
    pure (addTablesIfNew tables extra, swallowed)
  else
    pure (tables, none)

/-- `IsTableAllowed`.  After a swallowed database error the transaction is
aborted, and every later statement fails. -/
def isTableAllowed (tableName : String) : Except Exn (Bool × Option Exn) := do
  let (tables, swallowed) ← getAllowedTables engine session db
  pure (tables.contains tableName, swallowed)

def kNotAuthorizedToModify : String := "Not authorized to modify this table"

def requireTableWriteAccess (tableName : String) : Access :=
  if session.isLoggedIn then
    match isAdmin engine session db with
    | .error _ => .notAuthorized kNotAuthorizedToModify
    | .ok true => .granted
    | .ok false =>
        match getPermissionGrantedTables engine session db with
        | .error _ => .notAuthorized kNotAuthorizedToModify
        | .ok tables =>
            if tableName ∈ tables then .granted
            else .notAuthorized kNotAuthorizedToModify
  else
    .notAuthenticated "Login required"

def PubliclyReadable (tableName : String) : Prop :=
  exists tables, TableHelpers.getAllowedTables engine db = .ok tables ∧ tableName ∈ tables

theorem isTableAllowed_cases {tableName : String} {swallowed : Option Exn}
    (h : isTableAllowed engine session db tableName = .ok (true, swallowed)) :
    PubliclyReadable engine db tableName ∨
      requireTableWriteAccess engine session db tableName = .granted := by
  unfold isTableAllowed getAllowedTables at h
  cases hbase : TableHelpers.getAllowedTables engine db with
  | error err =>
      rw [hbase] at h
      cases h
  | ok tables =>
      simp only [hbase, bind, Except.bind, pure, Except.pure] at h
      by_cases hmem : tableName ∈ tables
      · exact Or.inl ⟨tables, hbase, hmem⟩
      · right
        unfold requireTableWriteAccess
        cases hlogged : session.isLoggedIn with
        | false =>
            simp only [hlogged, Bool.false_eq_true, if_false] at h
            simp [hmem] at h
        | true =>
            simp only [hlogged, if_true] at h ⊢
            unfold extraTables at h
            cases hadmin : isAdmin engine session db with
            | error err =>
                simp only [hadmin] at h
                simp [mem_addTablesIfNew, hmem] at h
            | ok admin =>
                cases admin with
                | true => rfl
                | false =>
                    simp only [hadmin] at h ⊢
                    cases hgranted : getPermissionGrantedTables engine session db with
                    | error err =>
                        simp only [hgranted] at h
                        simp [mem_addTablesIfNew, hmem] at h
                    | ok granted =>
                        simp only [hgranted] at h ⊢
                        have hin : tableName ∈ granted := by
                          simp only [List.contains_eq_mem, mem_addTablesIfNew, hmem,
                            false_or, Except.ok.injEq, Prod.mk.injEq,
                            decide_eq_true_eq] at h
                          exact h.1
                        rw [if_pos hin]

/-- The exception that the check of a caller swallows. -/
def swallowedException : Option Exn :=
  if session.isLoggedIn then (extraTables engine session db).2 else none

theorem isTableAllowed_swallowed {tableName : String} {allowed : Bool}
    {swallowed : Option Exn}
    (h : isTableAllowed engine session db tableName = .ok (allowed, swallowed)) :
    swallowed = swallowedException engine session db := by
  unfold isTableAllowed getAllowedTables at h
  unfold swallowedException
  cases hbase : TableHelpers.getAllowedTables engine db with
  | error err =>
      rw [hbase] at h
      cases h
  | ok tables =>
      cases hlogged : session.isLoggedIn with
      | true =>
          simp only [hbase, hlogged, bind, Except.bind, pure, Except.pure, if_true] at h
          cases h
          rfl
      | false =>
          simp only [hbase, hlogged, bind, Except.bind, pure, Except.pure,
            Bool.false_eq_true, if_false] at h
          cases h
          rfl

theorem isTableAllowed_of_public {tableName : String}
    (h : PubliclyReadable engine db tableName) :
    isTableAllowed engine session db tableName =
      .ok (true, swallowedException engine session db) := by
  rcases h with ⟨tables, hbase, hmem⟩
  unfold isTableAllowed getAllowedTables swallowedException
  cases hlogged : session.isLoggedIn with
  | true => simp [hbase, mem_addTablesIfNew, hmem, bind, Except.bind, pure, Except.pure]
  | false => simp [hbase, hmem, bind, Except.bind, pure, Except.pure]

theorem listReadable_of_allowed {tableName : String} {swallowed : Option Exn}
    (h : isTableAllowed engine session db tableName = .ok (true, swallowed)) :
    exists tables, TableHelpers.getAllowedTables engine db = .ok tables := by
  unfold isTableAllowed getAllowedTables at h
  cases hbase : TableHelpers.getAllowedTables engine db with
  | error err =>
      rw [hbase] at h
      cases h
  | ok tables => exact ⟨tables, rfl⟩

/-- A caller who is no administrator may read what a permission lets it write. -/
theorem isTableAllowed_of_granted {tableName other : String}
    (hbase : exists tables, TableHelpers.getAllowedTables engine db = .ok tables)
    (hother : requireTableWriteAccess engine session db other ≠ .granted)
    (h : requireTableWriteAccess engine session db tableName = .granted) :
    exists swallowed, isTableAllowed engine session db tableName = .ok (true, swallowed) := by
  rcases hbase with ⟨tables, hbase⟩
  unfold requireTableWriteAccess at h hother
  cases hlogged : session.isLoggedIn with
  | false => simp [hlogged] at h
  | true =>
      simp only [hlogged, if_true] at h hother
      cases hadmin : isAdmin engine session db with
      | error err => simp [hadmin] at h
      | ok admin =>
          cases admin with
          | true => simp [hadmin] at hother
          | false =>
              simp only [hadmin] at h
              cases hgranted : getPermissionGrantedTables engine session db with
              | error err => simp [hgranted] at h
              | ok granted =>
                  have hin : tableName ∈ granted := by
                    by_contra hnot
                    simp [hgranted, hnot] at h
                  refine ⟨none, ?_⟩
                  simp [isTableAllowed, getAllowedTables, hbase, hlogged, extraTables, hadmin,
                    hgranted, mem_addTablesIfNew, hin, bind, Except.bind, pure, Except.pure]

end EndpointAuthHelper

end Rest
end ServerComponents
