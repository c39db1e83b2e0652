import Mathlib.Data.List.Perm.Basic
import Mathlib.Data.List.TakeWhile
import ServerComponents.Rest.Permissions
import ServerComponents.Text.JsonGrammar

/-!
# The role tables

The people, roles, grants and implications as typed rows, and the database by name
that they stand for.  Numbers are stored as decimal text and compared as numbers; the
order in which a query returns its rows is left open.
-/

namespace ServerComponents
namespace Rest

open Relational

/-- A `bigint` value. -/
abbrev Bigint := { v : Int // IsInt64 v }

structure RolePerson where
  id : Bigint
  emailVerifiedAt : Option Bigint
  deriving DecidableEq

structure RoleAssignment where
  id : Bigint
  personId : Bigint
  roleId : Bigint
  deriving DecidableEq

structure RolePermission where
  id : Bigint
  roleId : Bigint
  permissionId : Bigint
  deriving DecidableEq

structure Permission where
  id : Bigint
  name : String
  deriving DecidableEq

structure PermissionImplication where
  id : Bigint
  permissionId : Bigint
  impliesPermissionId : Bigint
  deriving DecidableEq

structure AdminTablePermission where
  id : Bigint
  tableName : String
  permissionId : Bigint
  deriving DecidableEq

/-- The tables, with the primary keys that are looked up and the foreign keys into the
permissions. -/
structure RoleTables where
  people : List RolePerson
  assignments : List RoleAssignment
  grants : List RolePermission
  permissions : List Permission
  implications : List PermissionImplication
  tablePermissions : List AdminTablePermission
  people_unique : people.Pairwise (fun p p' => p.id ≠ p'.id)
  permissions_unique : permissions.Pairwise (fun p p' => p.id ≠ p'.id)
  grants_known : forall g, g ∈ grants -> exists p, p ∈ permissions ∧ p.id = g.permissionId
  implied_known : forall e, e ∈ implications ->
    exists p, p ∈ permissions ∧ p.id = e.impliesPermissionId

/-!
# The database by name
-/

def numberColumnInfo (name : String) (primaryKey : Bool) : ColumnInfo where
  columnName := name
  primaryKey := primaryKey
  nullable := false
  isText := false

def textColumnInfo (name : String) : ColumnInfo where
  columnName := name
  primaryKey := false
  nullable := true
  isText := true

def number (v : Bigint) : String := toString v.val

def rowOf (cells : List (String × Option String)) : Row :=
  fun column => (cells.lookup column).join

def peopleTable : TableInfo where
  tableName := "people"
  columns := [numberColumnInfo "id" true, numberColumnInfo "email_verified_at" false]

def RolePerson.row (p : RolePerson) : Row :=
  rowOf [("id", some (number p.id)), ("email_verified_at", p.emailVerifiedAt.map number)]

def roleAssignmentsTable : TableInfo where
  tableName := "role_assignments"
  columns := [numberColumnInfo "id" true, numberColumnInfo "person_id" false,
    numberColumnInfo "role_id" false]

def RoleAssignment.row (a : RoleAssignment) : Row :=
  rowOf [("id", some (number a.id)), ("person_id", some (number a.personId)),
    ("role_id", some (number a.roleId))]

def rolePermissionsTable : TableInfo where
  tableName := "role_permissions"
  columns := [numberColumnInfo "id" true, numberColumnInfo "role_id" false,
    numberColumnInfo "permission_id" false]

def RolePermission.row (g : RolePermission) : Row :=
  rowOf [("id", some (number g.id)), ("role_id", some (number g.roleId)),
    ("permission_id", some (number g.permissionId))]

def permissionsTable : TableInfo where
  tableName := "permissions"
  columns := [numberColumnInfo "id" true, textColumnInfo "name"]

def Permission.row (p : Permission) : Row :=
  rowOf [("id", some (number p.id)), ("name", some p.name)]

def permissionImplicationsTable : TableInfo where
  tableName := "permission_implications"
  columns := [numberColumnInfo "id" true, numberColumnInfo "permission_id" false,
    numberColumnInfo "implies_permission_id" false]

def PermissionImplication.row (e : PermissionImplication) : Row :=
  rowOf [("id", some (number e.id)), ("permission_id", some (number e.permissionId)),
    ("implies_permission_id", some (number e.impliesPermissionId))]

def adminTablePermissionsTable : TableInfo where
  tableName := "admin_table_permissions"
  columns := [numberColumnInfo "id" true, textColumnInfo "table_name",
    numberColumnInfo "permission_id" false]

def AdminTablePermission.row (t : AdminTablePermission) : Row :=
  rowOf [("id", some (number t.id)), ("table_name", some t.tableName),
    ("permission_id", some (number t.permissionId))]

/-- The tables and columns that the readers of permissions name. -/
def roleSchema : Schema where
  tables := [peopleTable, roleAssignmentsTable, rolePermissionsTable, permissionsTable,
    permissionImplicationsTable, adminTablePermissionsTable]
  folded := by decide +kernel

namespace RoleTables

def toDatabase (tables : RoleTables) : Database roleSchema where
  rows := fun tableName =>
    if tableName = "people" then tables.people.map RolePerson.row
    else if tableName = "role_assignments" then tables.assignments.map RoleAssignment.row
    else if tableName = "role_permissions" then tables.grants.map RolePermission.row
    else if tableName = "permissions" then tables.permissions.map Permission.row
    else if tableName = "permission_implications" then
      tables.implications.map PermissionImplication.row
    else if tableName = "admin_table_permissions" then
      tables.tablePermissions.map AdminTablePermission.row
    else []

end RoleTables

def isTextColumn (column : String) : Bool := column = "name" || column = "table_name"

/-- The engine of these tables, for any order of the returned rows. -/
def roleEngine (arrange : String -> Option (String × Bool) -> List Row -> List Row)
    (arrange_perm : forall table order rows, (arrange table order rows).Perm rows) :
    Engine roleSchema where
  castable := fun _ column value =>
    if isTextColumn column then .ok ()
    else
      match stoll value with
      | .ok _ => .ok ()
      | .error _ => .error (.sql .invalidTextRepresentation)
  equals := fun _ column cell value =>
    if isTextColumn column then decide (cell = some value)
    else
      match cell.bind (fun text => (stoll text).toOption), (stoll value).toOption with
      | some v, some w => v = w
      | _, _ => false
  ilike := fun _ _ cell pattern => decide (cell = some pattern)
  arrange := arrange
  arrange_perm := arrange_perm

/-!
# Numbers as text
-/

theorem decimal_toDigits (n : Nat) : decimal (Nat.toDigits 10 n) = n :=
  Nat.ofDigitChars_ten_toDigits

theorem takeWhile_toDigits (n : Nat) :
    (Nat.toDigits 10 n).takeWhile Char.isDigit = Nat.toDigits 10 n := by
  apply List.takeWhile_eq_self_iff.mpr
  intro c hc
  exact Nat.isDigit_of_mem_toDigits (by decide) (by decide) hc

theorem not_space_of_isDigit {c : Char} (h : c.isDigit = true) :
    isSpace c = false ∧ c ≠ '-' ∧ c ≠ '+' := by
  simp only [Char.isDigit, ge_iff_le, Bool.and_eq_true, decide_eq_true_eq] at h
  have hlow : 48 ≤ c.toNat := h.1
  refine ⟨?_, ?_, ?_⟩
  · simp only [isSpace, Bool.or_eq_false_iff, beq_eq_false_iff_ne, Bool.and_eq_false_iff,
      decide_eq_false_iff_not, not_le]
    refine ⟨?_, Or.inr (by omega)⟩
    intro hc
    rw [hc] at hlow
    revert hlow
    decide
  · intro hc
    rw [hc] at hlow
    revert hlow
    decide
  · intro hc
    rw [hc] at hlow
    revert hlow
    decide

theorem scanInteger_toDigits (n : Nat) :
    scanInteger (Nat.toDigits 10 n) = (false, Nat.toDigits 10 n) := by
  have htake := takeWhile_toDigits n
  have hdigit : forall c, c ∈ Nat.toDigits 10 n -> c.isDigit = true :=
    fun c hc => Nat.isDigit_of_mem_toDigits (by decide) (by decide) hc
  have hne : Nat.toDigits 10 n ≠ [] := Nat.toDigits_ne_nil
  generalize Nat.toDigits 10 n = digits at htake hdigit hne
  cases digits with
  | nil => exact absurd rfl hne
  | cons c rest =>
      rcases not_space_of_isDigit (hdigit c (by simp)) with ⟨hspace, hminus, hplus⟩
      unfold scanInteger
      rw [List.dropWhile_cons_of_neg (by simp [hspace])]
      split
      · rename_i heq
        exact absurd (List.cons.inj heq).1 hminus
      · rename_i heq
        exact absurd (List.cons.inj heq).1 hplus
      · rename_i heq
        rw [htake]

theorem scanInteger_minus (n : Nat) :
    scanInteger ('-' :: Nat.toDigits 10 n) = (true, Nat.toDigits 10 n) := by
  unfold scanInteger
  rw [List.dropWhile_cons_of_neg (by decide)]
  exact congrArg (Prod.mk true) (takeWhile_toDigits n)

theorem stoll_number (v : Bigint) : stoll (number v) = .ok v.val := by
  rcases v with ⟨v, hv⟩
  have hne : forall n, Nat.toDigits 10 n ≠ [] := fun n => Nat.toDigits_ne_nil
  cases v with
  | ofNat n =>
      have htext : (toString (Int.ofNat n)).toList = Nat.toDigits 10 n :=
        Nat.toList_repr
      have hscan : scanInteger (toString (Int.ofNat n)).toList =
          (false, Nat.toDigits 10 n) := by
        rw [htext, scanInteger_toDigits]
      unfold stoll number
      rw [hscan]
      split
      · rename_i heq
        exact absurd (Prod.mk.inj heq).2 (hne n)
      · rename_i heq
        cases (Prod.mk.inj heq).1
      · rename_i heq
        rw [← (Prod.mk.inj heq).2, decimal_toDigits]
        exact if_pos hv
  | negSucc n =>
      have hscan : scanInteger (toString (Int.negSucc n)).toList =
          (true, Nat.toDigits 10 (n + 1)) := by
        rw [Text.JsonGrammar.toList_negSucc, scanInteger_minus]
      unfold stoll number
      rw [hscan]
      split
      · rename_i heq
        exact absurd (Prod.mk.inj heq).2 (hne (n + 1))
      · rename_i heq
        rw [← (Prod.mk.inj heq).2, decimal_toDigits]
        exact if_pos hv
      · rename_i heq
        cases (Prod.mk.inj heq).1

end Rest
end ServerComponents
