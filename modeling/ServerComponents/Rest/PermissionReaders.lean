import Mathlib.Data.List.Pairwise
import ServerComponents.Rest.Redaction
import ServerComponents.Rest.RoleTables

/-!
# What the readers of permissions agree on

The readers walk the grants themselves, and only the closure follows the implications.
They agree with the closure exactly when the implications add nothing to the grants.
-/

namespace ServerComponents
namespace Rest

open Relational

/-!
# Collecting over a list
-/

theorem foldlM_collects {a b key error : Type} (mem : b -> key -> Prop) (good : b -> Prop)
    {adds : a -> key -> Prop} {f : b -> a -> Except error b} {xs : List a}
    (hstep : forall acc x, good acc -> x ∈ xs -> exists acc', f acc x = .ok acc' ∧ good acc' ∧
      forall k, mem acc' k <-> mem acc k ∨ adds x k) (acc : b) (hacc : good acc) :
    exists acc', xs.foldlM f acc = .ok acc' ∧ good acc' ∧
      forall k, mem acc' k <-> mem acc k ∨ exists x, x ∈ xs ∧ adds x k := by
  induction xs generalizing acc with
  | nil => exact ⟨acc, rfl, hacc, fun k => by simp⟩
  | cons x rest ih =>
      rcases hstep acc x hacc (by simp) with ⟨next, hnext, hgood, hadds⟩
      rcases ih (fun acc y hy hmem => hstep acc y hy (List.mem_cons_of_mem x hmem)) next hgood
        with ⟨result, hresult, hgood', hmem⟩
      refine ⟨result, ?_, hgood', ?_⟩
      · rw [List.foldlM_cons, hnext]
        exact hresult
      · intro k
        rw [hmem, hadds, or_assoc]
        simp [or_and_right, exists_or]

theorem perm_map {a b : Type} {f : a -> b} {xs : List a} {ys : List b}
    (h : ys.Perm (xs.map f)) : exists zs : List a, zs.Perm xs ∧ ys = zs.map f := by
  have hcomp : (fun ys xs => ys.Perm (xs.map f)) ys xs := h
  rw [← List.eq_map_comp_perm] at hcomp
  rcases hcomp with ⟨zs, hys, hperm⟩
  exact ⟨zs, hperm, hys⟩

/-!
# Reading a table of typed rows
-/

theorem toKeyValueTable_at {columns : List String} {row : Row} {c : String}
    (h : c ∈ columns) : (toKeyValueTable columns row).at c = .ok ((row c).getD "") := by
  rcases toKeyValueTable_spec columns row with ⟨hkeys, hvalues⟩
  rcases List.mem_map.mp ((hkeys c).mpr h) with ⟨e, he, hc⟩
  unfold KeyValueTable.at
  rw [← hc, SortedMap.find?_of_mem he, hvalues e he]

theorem toKeyValueTable_ne_nil {columns : List String} {row : Row} (h : columns ≠ []) :
    (toKeyValueTable columns row).entries ≠ [] := by
  rcases List.exists_mem_of_ne_nil columns h with ⟨c, hc⟩
  intro hnil
  have hkey := ((toKeyValueTable_spec columns row).1 c).mpr hc
  rw [SortedMap.keys, hnil] at hkey
  cases hkey

section Reading

variable {arrange : String -> Option (String × Bool) -> List Row -> List Row}
  (arrange_perm : forall table order rows, (arrange table order rows).Perm rows)
  (tables : RoleTables)

structure Stores {a : Type} (t : TableInfo) (list : List a) (encode : a -> Row) : Prop where
  found : roleSchema.find? t.tableName = some t
  rows : tables.toDatabase.rows t.tableName = list.map encode

theorem stores_people : Stores tables peopleTable tables.people RolePerson.row where
  found := rfl
  rows := rfl

theorem stores_assignments :
    Stores tables roleAssignmentsTable tables.assignments RoleAssignment.row where
  found := rfl
  rows := rfl

theorem stores_grants :
    Stores tables rolePermissionsTable tables.grants RolePermission.row where
  found := rfl
  rows := rfl

theorem stores_permissions :
    Stores tables permissionsTable tables.permissions Permission.row where
  found := rfl
  rows := rfl

theorem stores_implications :
    Stores tables permissionImplicationsTable tables.implications PermissionImplication.row where
  found := rfl
  rows := rfl

theorem stores_tablePermissions :
    Stores tables adminTablePermissionsTable tables.tablePermissions
      AdminTablePermission.row where
  found := rfl
  rows := rfl

section Columns

variable {tables} {a : Type} {t : TableInfo} {list : List a} {encode : a -> Row}
  (h : Stores tables t list encode)

include h

theorem Stores.known : t ∈ roleSchema.tables := (Schema.find?_some h.found).1

theorem Stores.named : sqlTable roleSchema t.tableName = .ok t := by
  unfold sqlTable
  rw [(roleSchema.folded t h.known).1, h.found]

theorem Stores.listColumns : DbMeta.listColumns roleSchema t.tableName = .ok t.names := by
  unfold DbMeta.listColumns
  rw [h.named]
  exact congrArg Except.ok (if_pos rfl)

theorem Stores.sqlColumn {c : String} (hc : c ∈ t.names) : sqlColumn t c = .ok c := by
  have hfold := (roleSchema.folded t h.known).2 c hc
  unfold Rest.sqlColumn
  rw [hfold, if_pos hc]

theorem Stores.selectRows {column value : String} {matching : a -> Bool}
    (order : Option (String × Bool))
    (hequals : forall x, (roleEngine arrange arrange_perm).equals t.tableName column
      (encode x column) value = matching x) :
    exists xs : List a, xs.Perm (list.filter matching) ∧
      DbCrud.selectRows (roleEngine arrange arrange_perm) tables.toDatabase t
        (DbCrud.holdsAll (roleEngine arrange arrange_perm) t [(column, value)]) order =
        xs.map encode := by
  apply perm_map
  refine (arrange_perm t.tableName order _).trans (List.Perm.of_eq ?_)
  rw [h.rows, List.filter_map]
  congr 1
  apply List.filter_congr
  intro x _
  show DbCrud.holdsAll _ t [(column, value)] (encode x) = matching x
  unfold DbCrud.holdsAll
  simp only [List.all_cons, List.all_nil, Bool.and_true]
  exact hequals x

theorem Stores.whereClause {column value : String} (hc : column ∈ t.names)
    (hcast : (roleEngine arrange arrange_perm).castable t.tableName column value = .ok ()) :
    DbCrud.whereClause (roleEngine arrange arrange_perm) t [(column, value)] =
      .ok [(column, value)] := by
  unfold DbCrud.whereClause
  simp only [List.mapM_cons, List.mapM_nil, h.sqlColumn hc, bind, Except.bind, hcast, pure,
    Except.pure]

omit h in
theorem castable_number {column : String} (hnumber : isTextColumn column = false)
    (tableName : String) (v : Bigint) :
    (roleEngine arrange arrange_perm).castable tableName column (number v) = .ok () := by
  show (if isTextColumn column then _ else _) = _
  rw [hnumber, stoll_number]
  rfl

omit h in
theorem equals_number {column : String} (hnumber : isTextColumn column = false)
    (tableName : String) (v w : Bigint) :
    (roleEngine arrange arrange_perm).equals tableName column (some (number v)) (number w) =
      decide (v = w) := by
  show (if isTextColumn column then _ else _) = _
  rw [hnumber]
  simp only [Bool.false_eq_true, if_false, Option.bind_some, stoll_number, Except.toOption]
  exact decide_eq_decide.mpr Subtype.ext_iff.symm

theorem Stores.getRowsByValuesWithOrderBy (column order : String) (key : a -> Bigint)
    (hcolumn : column ∈ t.names) (horder : order ∈ t.names)
    (hnumber : isTextColumn column = false)
    (hkey : forall x, encode x column = some (number (key x))) (v : Bigint) :
    exists xs : List a, xs.Perm (list.filter (fun x => key x = v)) ∧
      DbCrud.getRowsByValuesWithOrderBy (roleEngine arrange arrange_perm) tables.toDatabase
        t.tableName (TableHelpers.filterBy column v.val) order true =
        .ok (xs.map (fun x => toKeyValueTable t.names (encode x))) := by
  have hequals : forall x, (roleEngine arrange arrange_perm).equals t.tableName column
      (encode x column) (number v) = decide (key x = v) := by
    intro x
    rw [hkey x]
    exact equals_number arrange_perm hnumber t.tableName (key x) v
  rcases h.selectRows arrange_perm (some (order, true)) hequals with ⟨xs, hperm, hselect⟩
  refine ⟨xs, hperm, ?_⟩
  have hentries : (TableHelpers.filterBy column v.val).entries = [(column, number v)] := rfl
  have hkeys : (TableHelpers.filterBy column v.val).keys = [column] := rfl
  unfold DbCrud.getRowsByValuesWithOrderBy DbCrud.lookupDatabaseColumnInfoByColumnName
    DbCrud.checkKeysInTable
  simp only [h.listColumns, h.named, hentries, hkeys, bind, Except.bind, horder, if_true,
    List.forM, hcolumn, reduceCtorEq, if_false, pure, Except.pure,
    h.sqlColumn horder, h.whereClause arrange_perm hcolumn (castable_number arrange_perm hnumber
      t.tableName v),
    hselect, List.map_map]
  rfl

theorem Stores.lookupRowByValue (column value : String) {matching : a -> Bool}
    (hcolumn : column ∈ t.names)
    (hcast : (roleEngine arrange arrange_perm).castable t.tableName column value = .ok ())
    (hequals : forall x, (roleEngine arrange arrange_perm).equals t.tableName column
      (encode x column) value = matching x) :
    exists xs : List a, xs.Perm (list.filter matching) ∧
      DbCrud.lookupRowByValue (roleEngine arrange arrange_perm) tables.toDatabase t.tableName
        column value = .ok (DbCrud.oneRow t.names (xs.map encode)) := by
  rcases h.selectRows arrange_perm none hequals with ⟨xs, hperm, hselect⟩
  refine ⟨xs, hperm, ?_⟩
  unfold DbCrud.lookupRowByValue DbCrud.lookupDatabaseColumnInfoByColumnName
  rw [h.listColumns, h.named]
  simp only [bind, Except.bind, hcolumn, if_true, h.whereClause arrange_perm hcolumn hcast, hselect,
    pure, Except.pure]

theorem Stores.lookupRow_of_mem (column : String) (key : a -> Bigint)
    (hcolumn : column ∈ t.names) (hnumber : isTextColumn column = false)
    (hkey : forall x, encode x column = some (number (key x)))
    (hunique : list.Pairwise (fun x y => key x ≠ key y)) {x : a} (hx : x ∈ list) :
    DbCrud.lookupRowByValue (roleEngine arrange arrange_perm) tables.toDatabase t.tableName
      column (number (key x)) = .ok (toKeyValueTable t.names (encode x)) := by
  have hequals : forall y, (roleEngine arrange arrange_perm).equals t.tableName column
      (encode y column) (number (key x)) = decide (key y = key x) := by
    intro y
    rw [hkey y]
    exact equals_number arrange_perm hnumber t.tableName (key y) (key x)
  rcases h.lookupRowByValue arrange_perm column _ hcolumn (castable_number arrange_perm hnumber
    t.tableName (key x)) hequals
    with ⟨xs, hperm, hlookup⟩
  have honly : forall y, y ∈ xs -> y = x := by
    intro y hy
    rcases List.mem_filter.mp (hperm.mem_iff.mp hy) with ⟨hmem, hsame⟩
    have hsymm : Std.Symm (fun x y => key x ≠ key y) := ⟨fun _ _ hne => Ne.symm hne⟩
    by_contra hne
    exact hunique.forall hmem hx hne (of_decide_eq_true hsame)
  have hin : x ∈ xs := hperm.mem_iff.mpr (List.mem_filter.mpr ⟨hx, by simp⟩)
  rw [hlookup]
  cases xs with
  | nil => cases hin
  | cons y rest =>
      have hy := honly y (by simp)
      rw [hy]
      rfl

end Columns

/-!
# What each look-up finds
-/

theorem getRoleAssignmentsForPerson_ok (personId : Bigint) :
    exists xs : List RoleAssignment,
      xs.Perm (tables.assignments.filter (fun a => a.personId = personId)) ∧
      TableHelpers.getRoleAssignmentsForPerson (roleEngine arrange arrange_perm)
        tables.toDatabase personId.val =
        .ok (xs.map (fun a => toKeyValueTable roleAssignmentsTable.names a.row)) :=
  (stores_assignments tables).getRowsByValuesWithOrderBy arrange_perm "person_id" "id"
    RoleAssignment.personId (by decide) (by decide) rfl (fun _ => rfl) personId

theorem getRolePermissionsForRole_ok (roleId : Bigint) :
    exists xs : List RolePermission,
      xs.Perm (tables.grants.filter (fun g => g.roleId = roleId)) ∧
      TableHelpers.getRolePermissionsForRole (roleEngine arrange arrange_perm)
        tables.toDatabase roleId.val =
        .ok (xs.map (fun g => toKeyValueTable rolePermissionsTable.names g.row)) :=
  (stores_grants tables).getRowsByValuesWithOrderBy arrange_perm "role_id" "id"
    RolePermission.roleId (by decide) (by decide) rfl (fun _ => rfl) roleId

theorem mapM_ok {a b error : Type} {f : a -> Except error b} {g : a -> b} {xs : List a}
    (h : forall x, x ∈ xs -> f x = .ok (g x)) : xs.mapM f = .ok (xs.map g) := by
  induction xs with
  | nil => rfl
  | cons x rest ih =>
      rw [List.mapM_cons, h x (by simp), ih (fun y hy => h y (List.mem_cons_of_mem x hy))]
      rfl

theorem getTablesForPermissionId_ok (permissionId : Bigint) :
    exists ts : List String,
      TableHelpers.getTablesForPermissionId (roleEngine arrange arrange_perm)
        tables.toDatabase permissionId.val = .ok ts ∧
      forall t, t ∈ ts <-> exists u, u ∈ tables.tablePermissions ∧
        u.permissionId = permissionId ∧ u.tableName = t := by
  rcases (stores_tablePermissions tables).getRowsByValuesWithOrderBy arrange_perm
    "permission_id" "table_name" AdminTablePermission.permissionId (by decide) (by decide) rfl
    (fun _ => rfl) permissionId with ⟨xs, hperm, hrows⟩
  refine ⟨xs.map AdminTablePermission.tableName, ?_, ?_⟩
  · unfold TableHelpers.getTablesForPermissionId
    have hread : DbCrud.getRowsByValuesWithOrderBy (roleEngine arrange arrange_perm)
        tables.toDatabase "admin_table_permissions"
        (TableHelpers.filterBy "permission_id" permissionId.val) "table_name" true = _ := hrows
    rw [hread]
    show List.mapM _ (List.map _ xs) = _
    rw [List.mapM_map]
    apply mapM_ok
    intro u _
    exact toKeyValueTable_at (by decide)
  · intro t
    simp only [List.mem_map, hperm.mem_iff, List.mem_filter, decide_eq_true_eq, and_assoc]

omit arrange in
theorem permission_unique {tables : RoleTables} {p p' : Permission} (hp : p ∈ tables.permissions)
    (hp' : p' ∈ tables.permissions) (hid : p.id = p'.id) : p = p' := by
  have hsymm : Std.Symm (fun p p' : Permission => p.id ≠ p'.id) :=
    ⟨fun _ _ hne => Ne.symm hne⟩
  by_contra hne
  exact tables.permissions_unique.forall hp hp' hne hid

theorem getPermissionById_ok {tables : RoleTables} {p : Permission} (hp : p ∈ tables.permissions) :
    TableHelpers.getPermissionById (roleEngine arrange arrange_perm) tables.toDatabase
      p.id.val = .ok (toKeyValueTable permissionsTable.names p.row) := by
  have hrow := (stores_permissions tables).lookupRow_of_mem arrange_perm "id" Permission.id
    (by decide) rfl (fun _ => rfl) tables.permissions_unique hp
  have hread : DbCrud.lookupRowByValue (roleEngine arrange arrange_perm) tables.toDatabase
      "permissions" "id" (toString p.id.val) = _ := hrow
  unfold TableHelpers.getPermissionById TableHelpers.getPermissionBy
  rw [hread]
  show (if _ then _ else _) = _
  rw [if_neg (toKeyValueTable_ne_nil (by decide))]
  rfl

theorem getPermissionByName_cases (name : String) :
    (exists p, p ∈ tables.permissions ∧ p.name = name ∧
      TableHelpers.getPermissionByName (roleEngine arrange arrange_perm) tables.toDatabase
        name = .ok (toKeyValueTable permissionsTable.names p.row)) ∨
    (exists err, TableHelpers.getPermissionByName (roleEngine arrange arrange_perm)
        tables.toDatabase name = .error err) ∧
      forall p, p ∈ tables.permissions -> p.name ≠ name := by
  have hequals : forall p : Permission, (roleEngine arrange arrange_perm).equals "permissions"
      "name" (p.row "name") name = decide (p.name = name) := by
    intro p
    show decide (some p.name = some name) = decide (p.name = name)
    simp
  rcases (stores_permissions tables).lookupRowByValue arrange_perm "name" name (by decide) rfl
    hequals with ⟨xs, hperm, hlookup⟩
  have hread : DbCrud.lookupRowByValue (roleEngine arrange arrange_perm) tables.toDatabase
      "permissions" "name" name = _ := hlookup
  unfold TableHelpers.getPermissionByName TableHelpers.getPermissionBy
  rw [hread]
  cases xs with
  | nil =>
      refine Or.inr ⟨⟨_, rfl⟩, ?_⟩
      intro p hp hname
      have hmem : p ∈ ([] : List Permission) :=
        hperm.mem_iff.mpr (List.mem_filter.mpr ⟨hp, by simp [hname]⟩)
      cases hmem
  | cons p rest =>
      have hmem := List.mem_filter.mp (hperm.mem_iff.mp (List.mem_cons_self (a := p)))
      refine Or.inl ⟨p, hmem.1, of_decide_eq_true hmem.2, ?_⟩
      show (if _ then _ else _) = _
      rw [if_neg]
      · rfl
      · exact toKeyValueTable_ne_nil (by decide)

theorem getPersonById_ok {tables : RoleTables} {person : RolePerson}
    (hperson : person ∈ tables.people) :
    TableHelpers.getPersonById (roleEngine arrange arrange_perm) tables.toDatabase
      person.id.val = .ok (toKeyValueTable peopleTable.names person.row) :=
  (stores_people tables).lookupRow_of_mem arrange_perm "id" RolePerson.id (by decide) rfl
    (fun _ => rfl) tables.people_unique hperson

/-!
# What the readers see
-/

def RoleTables.grantedIds (tables : RoleTables) (personId : Bigint) : List Bigint :=
  (tables.assignments.filter (fun a => a.personId = personId)).flatMap (fun a =>
    (tables.grants.filter (fun g => g.roleId = a.roleId)).map RolePermission.permissionId)

theorem mem_grantedIds {tables : RoleTables} {personId id : Bigint} :
    id ∈ tables.grantedIds personId <-> exists a, a ∈ tables.assignments ∧
      a.personId = personId ∧ exists g, g ∈ tables.grants ∧ g.roleId = a.roleId ∧
        g.permissionId = id := by
  simp only [RoleTables.grantedIds, List.mem_flatMap, List.mem_filter, List.mem_map,
    decide_eq_true_eq, and_assoc]

open EndpointAuthHelper in
theorem findInGrants_ok (targetPermId : Bigint) (xs : List RolePermission) :
    activeUserHasPermission.findInGrants targetPermId.val
      (xs.map (fun g => toKeyValueTable rolePermissionsTable.names g.row)) =
      .ok (decide (exists g, g ∈ xs ∧ g.permissionId = targetPermId)) := by
  induction xs with
  | nil => simp [activeUserHasPermission.findInGrants]
  | cons g rest ih =>
      have hread : (toKeyValueTable rolePermissionsTable.names g.row).at "permission_id" =
          .ok (number g.permissionId) := toKeyValueTable_at (by decide)
      rw [List.map_cons, activeUserHasPermission.findInGrants, hread]
      simp only [bind, Except.bind, stoll_number, pure, Except.pure, ih]
      by_cases hsame : g.permissionId = targetPermId
      · simp [hsame]
      · have hval : Not (g.permissionId.val = targetPermId.val) :=
          fun h => hsame (Subtype.ext h)
        simp [hsame, hval]

open EndpointAuthHelper in
theorem findInRoles_ok (targetPermId : Bigint) (xs : List RoleAssignment) :
    activeUserHasPermission.findInRoles (roleEngine arrange arrange_perm) tables.toDatabase
      targetPermId.val
      (xs.map (fun a => toKeyValueTable roleAssignmentsTable.names a.row)) =
      .ok (decide (exists a, a ∈ xs ∧ exists g, g ∈ tables.grants ∧ g.roleId = a.roleId ∧
        g.permissionId = targetPermId)) := by
  induction xs with
  | nil => simp [activeUserHasPermission.findInRoles]
  | cons a rest ih =>
      have hread : (toKeyValueTable roleAssignmentsTable.names a.row).at "role_id" =
          .ok (number a.roleId) := toKeyValueTable_at (by decide)
      rcases getRolePermissionsForRole_ok arrange_perm tables a.roleId with ⟨gs, hperm, hgrants⟩
      rw [List.map_cons, activeUserHasPermission.findInRoles, hread]
      simp only [bind, Except.bind, stoll_number, pure, Except.pure, hgrants,
        findInGrants_ok, ih, hperm.mem_iff, List.mem_filter, decide_eq_true_eq, and_assoc]
      by_cases hfirst : exists g, g ∈ tables.grants ∧ g.roleId = a.roleId ∧
          g.permissionId = targetPermId
      · simp [hfirst]
      · simp [hfirst]

open EndpointAuthHelper in
theorem activeUserHasPermission_ok {tables : RoleTables} {name : String} {p : Permission}
    (personId : Bigint)
    (hlogged : personId.val ≠ -1)
    (hfound : TableHelpers.getPermissionByName (roleEngine arrange arrange_perm)
      tables.toDatabase name = .ok (toKeyValueTable permissionsTable.names p.row)) :
    activeUserHasPermission (roleEngine arrange arrange_perm) ⟨personId.val⟩
      tables.toDatabase name = .ok (decide (p.id ∈ tables.grantedIds personId)) := by
  have hlogged' : (Session.mk personId.val).isLoggedIn = true := by
    simpa [Session.isLoggedIn] using hlogged
  have hread : (toKeyValueTable permissionsTable.names p.row).at "id" = .ok (number p.id) :=
    toKeyValueTable_at (by decide)
  rcases getRoleAssignmentsForPerson_ok arrange_perm tables personId with ⟨xs, hperm, hassignments⟩
  unfold activeUserHasPermission
  simp only [hlogged', if_true, hfound, bind, Except.bind, hread, stoll_number, hassignments,
    findInRoles_ok, Except.ok.injEq, decide_eq_decide, mem_grantedIds]
  simp only [hperm.mem_iff, List.mem_filter, decide_eq_true_eq, and_assoc]

theorem isVerified_ok {person : RolePerson} (hverified : person.emailVerifiedAt ≠ none) :
    PersonHelper.isVerified (toKeyValueTable peopleTable.names person.row) = .ok true := by
  rcases Option.ne_none_iff_exists'.mp hverified with ⟨at_, hat⟩
  have hread : (toKeyValueTable peopleTable.names person.row).at "email_verified_at" =
      .ok ((person.row "email_verified_at").getD "") := toKeyValueTable_at (by decide)
  have hcell : (person.row "email_verified_at").getD "" = number at_ := by
    show (person.emailVerifiedAt.map number).getD "" = number at_
    rw [hat]
    rfl
  have hne : number at_ ≠ "" := by
    intro hempty
    have hread := stoll_number at_
    rw [hempty] at hread
    cases hread
  unfold PersonHelper.isVerified
  rw [if_neg (toKeyValueTable_ne_nil (by decide)), hread, hcell]
  simp only [bind, Except.bind, pure, Except.pure, hne, ne_eq, not_false_eq_true, decide_true]

theorem foldlM_roles {b key : Type} (mem : b -> key -> Prop)
    {adds : RolePermission -> key -> Prop} {f : b -> KeyValueTable -> Except Exn b}
    (hstep : forall acc g, g ∈ tables.grants -> exists acc',
      f acc (toKeyValueTable rolePermissionsTable.names g.row) = .ok acc' ∧
        forall k, mem acc' k <-> mem acc k ∨ adds g k)
    (personId : Bigint) (acc : b) (hacc : forall k, Not (mem acc k)) :
    exists acc', (do
        let assignments ← TableHelpers.getRoleAssignmentsForPerson
          (roleEngine arrange arrange_perm) tables.toDatabase personId.val
        assignments.foldlM (fun acc (kv : KeyValueTable) => do
          let roleId ← (do stoll (← kv.at "role_id"))
          let rpRows ← TableHelpers.getRolePermissionsForRole
            (roleEngine arrange arrange_perm) tables.toDatabase roleId
          rpRows.foldlM f acc) acc) = .ok acc' ∧
      forall k, mem acc' k <-> exists a, a ∈ tables.assignments ∧ a.personId = personId ∧
        exists g, g ∈ tables.grants ∧ g.roleId = a.roleId ∧ adds g k := by
  rcases getRoleAssignmentsForPerson_ok arrange_perm tables personId with ⟨xs, hperm, hassignments⟩
  have hroles : forall acc a, True -> a ∈ xs -> exists acc', (do
      let roleId ← (do
        stoll (← (toKeyValueTable roleAssignmentsTable.names (RoleAssignment.row a)).at
          "role_id"))
      let rpRows ← TableHelpers.getRolePermissionsForRole
        (roleEngine arrange arrange_perm) tables.toDatabase roleId
      rpRows.foldlM f acc) = .ok acc' ∧ True ∧ forall k, mem acc' k <-> mem acc k ∨
        exists g, g ∈ tables.grants ∧ g.roleId = a.roleId ∧ adds g k := by
    intro acc a _ _
    have hread : (toKeyValueTable roleAssignmentsTable.names a.row).at "role_id" =
        .ok (number a.roleId) := toKeyValueTable_at (by decide)
    rcases getRolePermissionsForRole_ok arrange_perm tables a.roleId with ⟨gs, hgs, hgrants⟩
    have hmem : forall g, g ∈ gs <-> g ∈ tables.grants ∧ g.roleId = a.roleId := by
      intro g
      simp only [hgs.mem_iff, List.mem_filter, decide_eq_true_eq]
    rcases foldlM_collects mem (fun _ => True)
      (fun acc g _ hg => by
        rcases hstep acc g ((hmem g).mp hg).1 with ⟨acc', hok, hadds⟩
        exact ⟨acc', hok, trivial, hadds⟩) acc trivial with ⟨acc', hok, _, hadds⟩
    refine ⟨acc', ?_, trivial, ?_⟩
    · simp only [hread, bind, Except.bind, stoll_number, hgrants, List.foldlM_map]
      exact hok
    · intro k
      simp only [hadds, hmem, and_assoc]
  rcases foldlM_collects mem (fun _ => True) hroles acc trivial with ⟨acc', hok, _, hadds⟩
  refine ⟨acc', ?_, ?_⟩
  · simp only [hassignments, bind, Except.bind, List.foldlM_map]
    exact hok
  · intro k
    rw [hadds, or_iff_right (hacc k)]
    simp only [hperm.mem_iff, List.mem_filter, decide_eq_true_eq, and_assoc]

theorem not_mem_empty {key value : Type} [LinearOrder key] (k : key) :
    k ∉ (SortedMap.empty : SortedMap key value).keys := by
  simp [SortedMap.keys, SortedMap.empty]

theorem getPermissionsForUser_ok {tables : RoleTables} {person : RolePerson}
    (hperson : person ∈ tables.people)
    (hverified : person.emailVerifiedAt ≠ none) :
    exists names, PersonHelper.getPermissionsForUser (roleEngine arrange arrange_perm)
        tables.toDatabase person.id.val = .ok names ∧ names.Nodup ∧
      forall name, name ∈ names <-> exists p, p ∈ tables.permissions ∧ p.name = name ∧
        p.id ∈ tables.grantedIds person.id := by
  have hstep : forall (uniquePerms : SortedMap String Unit) (g : RolePermission),
      g ∈ tables.grants -> exists uniquePerms' : SortedMap String Unit,
        PersonHelper.addPermissionName (roleEngine arrange arrange_perm) tables.toDatabase
          uniquePerms (toKeyValueTable rolePermissionsTable.names g.row) = .ok uniquePerms' ∧
      forall name, name ∈ uniquePerms'.keys <-> name ∈ uniquePerms.keys ∨
        exists p, p ∈ tables.permissions ∧ p.id = g.permissionId ∧ p.name = name := by
    intro uniquePerms g hg
    rcases tables.grants_known g hg with ⟨p, hp, hid⟩
    have hread : (toKeyValueTable rolePermissionsTable.names g.row).at "permission_id" =
        .ok (number g.permissionId) := toKeyValueTable_at (by decide)
    have hname : (toKeyValueTable permissionsTable.names p.row).at "name" = .ok p.name :=
      toKeyValueTable_at (by decide)
    refine ⟨uniquePerms.set p.name (), ?_, ?_⟩
    · unfold PersonHelper.addPermissionName
      simp only [hread, bind, Except.bind, stoll_number, ← hid,
        getPermissionById_ok arrange_perm hp, hname, pure, Except.pure]
    · intro name
      rw [SortedMap.mem_keys_set, or_comm]
      apply or_congr_right
      constructor
      · intro hsame
        exact ⟨p, hp, hid, hsame.symm⟩
      · rintro ⟨p', hp', hid', hname'⟩
        rw [← hname', permission_unique hp hp' (hid.trans hid'.symm)]
  rcases foldlM_roles arrange_perm tables
    (fun (uniquePerms : SortedMap String Unit) name => name ∈ uniquePerms.keys)
    (f := PersonHelper.addPermissionName (roleEngine arrange arrange_perm) tables.toDatabase)
    hstep person.id SortedMap.empty not_mem_empty with ⟨uniquePerms, hok, hmem⟩
  refine ⟨uniquePerms.keys, ?_, uniquePerms.keys_sorted.imp (fun h => ne_of_lt h), ?_⟩
  · unfold PersonHelper.getPermissionsForUser
    rcases getRoleAssignmentsForPerson_ok arrange_perm tables person.id with ⟨xs, _, hassignments⟩
    simp only [hassignments, bind, Except.bind] at hok
    simp only [getPersonById_ok arrange_perm hperson, isVerified_ok hverified, bind, Except.bind,
      if_true,
      hassignments]
    rw [hok]
    rfl
  · intro name
    rw [hmem]
    constructor
    · rintro ⟨a, ha, hperson, g, hg, hrole, p, hp, hid, hname⟩
      exact ⟨p, hp, hname, mem_grantedIds.mpr ⟨a, ha, hperson, g, hg, hrole, hid.symm⟩⟩
    · rintro ⟨p, hp, hname, hid⟩
      rcases mem_grantedIds.mp hid with ⟨a, ha, hperson, g, hg, hrole, hid⟩
      exact ⟨a, ha, hperson, g, hg, hrole, p, hp, hid.symm, hname⟩

theorem userPermissionIds_ok (personId : Bigint) :
    exists permissionIds, EndpointAuthHelper.userPermissionIds
        (roleEngine arrange arrange_perm) ⟨personId.val⟩ tables.toDatabase =
        .ok permissionIds ∧
      forall id, id ∈ permissionIds.keys <->
        exists granted, granted ∈ tables.grantedIds personId ∧ granted.val = id := by
  have hstep : forall (permissionIds : SortedMap Int Unit) (g : RolePermission),
      g ∈ tables.grants -> exists permissionIds' : SortedMap Int Unit, (do
        let permId ← (do
          stoll (← (toKeyValueTable rolePermissionsTable.names g.row).at "permission_id"))
        pure (permissionIds.set permId ())) = .ok permissionIds' ∧
      forall id, id ∈ permissionIds'.keys <-> id ∈ permissionIds.keys ∨
        g.permissionId.val = id := by
    intro permissionIds g _
    have hread : (toKeyValueTable rolePermissionsTable.names g.row).at "permission_id" =
        .ok (number g.permissionId) := toKeyValueTable_at (by decide)
    refine ⟨permissionIds.set g.permissionId.val (), ?_, ?_⟩
    · simp only [hread, bind, Except.bind, stoll_number, pure, Except.pure]
    · intro id
      rw [SortedMap.mem_keys_set, or_comm]
      exact or_congr_right eq_comm
  rcases foldlM_roles arrange_perm tables
    (fun (permissionIds : SortedMap Int Unit) id => id ∈ permissionIds.keys)
    (f := fun permissionIds rpKv => do
      let permId ← (do stoll (← rpKv.at "permission_id"))
      pure (permissionIds.set permId ())) hstep personId SortedMap.empty not_mem_empty
    with ⟨permissionIds, hok, hmem⟩
  refine ⟨permissionIds, hok, ?_⟩
  intro id
  rw [hmem]
  constructor
  · rintro ⟨a, ha, hperson, g, hg, hrole, hid⟩
    exact ⟨g.permissionId, mem_grantedIds.mpr ⟨a, ha, hperson, g, hg, hrole, rfl⟩, hid⟩
  · rintro ⟨granted, hgranted, hid⟩
    rcases mem_grantedIds.mp hgranted with ⟨a, ha, hperson, g, hg, hrole, hsame⟩
    exact ⟨a, ha, hperson, g, hg, hrole, by rw [hsame, hid]⟩

theorem nodup_addTablesIfNew {tables newTables : List String} (h : tables.Nodup) :
    (EndpointAuthHelper.addTablesIfNew tables newTables).Nodup := by
  unfold EndpointAuthHelper.addTablesIfNew
  induction newTables generalizing tables with
  | nil => exact h
  | cons t rest ih =>
      rw [List.foldl_cons]
      apply ih
      split
      · exact h
      · rename_i hnew
        apply List.nodup_append.mpr
        refine ⟨h, List.nodup_singleton t, ?_⟩
        intro x hx y hy hsame
        rw [List.mem_singleton.mp hy] at hsame
        exact hnew (List.contains_iff_mem.mpr (hsame ▸ hx))

theorem getPermissionGrantedTables_ok {personId : Bigint} (hlogged : personId.val ≠ -1) :
    exists ts, EndpointAuthHelper.getPermissionGrantedTables
        (roleEngine arrange arrange_perm) ⟨personId.val⟩ tables.toDatabase = .ok ts ∧
      ts.Nodup ∧
      forall t, t ∈ ts <-> exists u, u ∈ tables.tablePermissions ∧ u.tableName = t ∧
        u.permissionId ∈ tables.grantedIds personId := by
  have hlogged' : (Session.mk personId.val).isLoggedIn = true := by
    simpa [Session.isLoggedIn] using hlogged
  rcases userPermissionIds_ok arrange_perm tables personId with ⟨permissionIds, hids, hmem⟩
  unfold EndpointAuthHelper.getPermissionGrantedTables
  simp only [hlogged', if_true, hids]
  have hstep : forall (ts : List String) (permId : Int), ts.Nodup ->
      permId ∈ permissionIds.keys -> exists ts' : List String, (do
        let granted ← TableHelpers.getTablesForPermissionId (roleEngine arrange arrange_perm)
          tables.toDatabase permId
        pure (EndpointAuthHelper.addTablesIfNew ts granted)) = .ok ts' ∧ ts'.Nodup ∧
        forall t, t ∈ ts' <-> t ∈ ts ∨ exists u, u ∈ tables.tablePermissions ∧
          u.permissionId.val = permId ∧ u.tableName = t := by
    intro ts permId hts hin
    rcases (hmem permId).mp hin with ⟨granted, _, hval⟩
    subst hval
    rcases getTablesForPermissionId_ok arrange_perm tables granted with ⟨unlocked, hread, hunlocked⟩
    refine ⟨EndpointAuthHelper.addTablesIfNew ts unlocked, ?_, nodup_addTablesIfNew hts, ?_⟩
    · rw [hread]
      rfl
    · intro t
      simp only [EndpointAuthHelper.mem_addTablesIfNew, hunlocked, Subtype.ext_iff]
  rcases foldlM_collects (fun (ts : List String) t => t ∈ ts) List.Nodup hstep []
    List.nodup_nil with ⟨ts, hok, hnodup, hts⟩
  refine ⟨ts, hok, hnodup, ?_⟩
  intro t
  rw [hts]
  constructor
  · rintro (hnone | ⟨permId, hin, u, hu, hval, ht⟩)
    · cases hnone
    · rcases (hmem permId).mp hin with ⟨granted, hgranted, hsame⟩
      have hid : u.permissionId = granted := Subtype.ext (hval.trans hsame.symm)
      exact ⟨u, hu, ht, hid ▸ hgranted⟩
  · rintro ⟨u, hu, ht, hgranted⟩
    exact Or.inr ⟨u.permissionId.val, (hmem _).mpr ⟨u.permissionId, hgranted, rfl⟩, u, hu,
      rfl, ht⟩

/-!
# The closure
-/

theorem mem_keys_foldl_set {ids : List Int} {m : SortedMap Int Unit} {id : Int} :
    id ∈ (ids.foldl (fun result id => result.set id ()) m).keys <-> id ∈ ids ∨ id ∈ m.keys := by
  induction ids generalizing m with
  | nil => simp
  | cons first rest ih =>
      rw [List.foldl_cons, ih, SortedMap.mem_keys_set, List.mem_cons]
      constructor
      · rintro (h | h | h)
        · exact Or.inl (Or.inr h)
        · exact Or.inl (Or.inl h)
        · exact Or.inr h
      · rintro ((h | h) | h)
        · exact Or.inr (Or.inl h)
        · exact Or.inl h
        · exact Or.inr (Or.inr h)

theorem mem_impliedBy {id implied : Int} :
    implied ∈ TableHelpers.PermissionImplications.impliedBy (roleEngine arrange arrange_perm)
        tables.toDatabase id <->
      exists e, e ∈ tables.implications ∧
        (roleEngine arrange arrange_perm).equals "permission_implications" "permission_id"
          (some (number e.permissionId)) (toString id) = true ∧
        e.impliesPermissionId.val = implied := by
  have hrows : tables.toDatabase.rows "permission_implications" =
      tables.implications.map PermissionImplication.row := rfl
  have hcell : forall e : PermissionImplication,
      (e.row "implies_permission_id").bind (fun text => (stoll text).toOption) =
        some e.impliesPermissionId.val := by
    intro e
    show (stoll (number e.impliesPermissionId)).toOption = _
    rw [stoll_number]
    rfl
  unfold TableHelpers.PermissionImplications.impliedBy
  rw [hrows, List.filterMap_map, List.mem_filterMap]
  apply exists_congr
  intro e
  apply and_congr_right
  intro _
  show (if (roleEngine arrange arrange_perm).equals "permission_implications" "permission_id"
    (some (number e.permissionId)) (toString id) then _ else _) = _ <-> _
  rw [hcell e]
  split
  · rename_i hjoin
    simp only [hjoin, Option.some.injEq, true_and]
  · rename_i hjoin
    simp only [hjoin, reduceCtorEq, false_and]

theorem expandClosure_ok (seeds : List Int) :
    exists closure, TableHelpers.PermissionImplications.expandClosure
        (roleEngine arrange arrange_perm) tables.toDatabase seeds = .ok closure ∧
      forall id, id ∈ closure.keys <-> Reachable (TableHelpers.PermissionImplications.impliedBy
        (roleEngine arrange arrange_perm) tables.toDatabase) seeds id := by
  have hnamed : sqlTable roleSchema "permission_implications" =
      .ok permissionImplicationsTable := (stores_implications tables).named
  unfold TableHelpers.PermissionImplications.expandClosure
  simp only [hnamed, bind, Except.bind, pure, Except.pure]
  split
  · rename_i hnone
    refine ⟨_, rfl, ?_⟩
    intro id
    rw [mem_keys_foldl_set, hnone]
    constructor
    · rintro (h | h)
      · cases h
      · cases h
    · rintro ⟨seed, hseed, _⟩
      cases hseed
  · refine ⟨_, rfl, ?_⟩
    intro id
    have hrounds : id ∈ recursiveUnion (TableHelpers.PermissionImplications.impliedBy
        (roleEngine arrange arrange_perm) tables.toDatabase)
        (tables.toDatabase.rows permissionImplicationsTable.tableName).length seeds <->
        Reachable (TableHelpers.PermissionImplications.impliedBy
          (roleEngine arrange arrange_perm) tables.toDatabase) seeds id := by
      apply mem_recursiveUnion (tables.implications.map (fun e => e.impliesPermissionId.val))
      · intro m n hn
        rcases (mem_impliedBy arrange_perm tables).mp hn with ⟨e, he, _, hval⟩
        exact List.mem_map.mpr ⟨e, he, hval⟩
      · rw [(stores_implications tables).rows, List.length_map, List.length_map]
    rw [mem_keys_foldl_set, hrounds, mem_keys_foldl_set]
    constructor
    · rintro (h | h | h)
      · exact h
      · exact ⟨id, h, Relation.ReflTransGen.refl⟩
      · cases h
    · exact Or.inl

/-- Holding the first permission confers the second. -/
def RoleTables.Implies (tables : RoleTables) (p q : Bigint) : Prop :=
  exists e, e ∈ tables.implications ∧ e.permissionId = p ∧ e.impliesPermissionId = q

/-- In the closure of what the roles of the person are granted. -/
def Held (personId id : Bigint) : Prop :=
  exists closure, TableHelpers.PermissionImplications.expandClosure
      (roleEngine arrange arrange_perm) tables.toDatabase
      ((tables.grantedIds personId).map Subtype.val) = .ok closure ∧
    id.val ∈ closure.keys

theorem impliedBy_iff_implies (p : Bigint) (n : Int) :
    n ∈ TableHelpers.PermissionImplications.impliedBy (roleEngine arrange arrange_perm)
        tables.toDatabase p.val <-> exists q, q.val = n ∧ tables.Implies p q := by
  rw [mem_impliedBy]
  constructor
  · rintro ⟨e, he, hjoin, hval⟩
    have hsame := equals_number arrange_perm
      (show isTextColumn "permission_id" = false from rfl) "permission_implications"
        e.permissionId p
    exact ⟨e.impliesPermissionId, hval, e, he,
      of_decide_eq_true (hsame.symm.trans hjoin), rfl⟩
  · rintro ⟨q, hval, e, he, hp, hq⟩
    refine ⟨e, he, ?_, by rw [hq, hval]⟩
    have hsame := equals_number arrange_perm
      (show isTextColumn "permission_id" = false from rfl) "permission_implications"
        e.permissionId p
    exact hsame.trans (decide_eq_true hp)

theorem held_iff {personId id : Bigint} :
    Held arrange_perm tables personId id <-> exists granted,
      granted ∈ tables.grantedIds personId ∧
        Relation.ReflTransGen tables.Implies granted id := by
  rcases expandClosure_ok arrange_perm tables ((tables.grantedIds personId).map Subtype.val)
    with ⟨closure, hok, hmem⟩
  have hheld : Held arrange_perm tables personId id <-> id.val ∈ closure.keys := by
    constructor
    · rintro ⟨closure', hok', hin⟩
      rw [hok] at hok'
      cases hok'
      exact hin
    · exact fun hin => ⟨closure, hok, hin⟩
  rw [hheld, hmem]
  constructor
  · rintro ⟨seed, hseed, hpath⟩
    rcases List.mem_map.mp hseed with ⟨granted, hgranted, hval⟩
    -- every node on the path is a `bigint`, because each edge ends in one
    have htyped : forall n, Relation.ReflTransGen (fun m n => n ∈
        TableHelpers.PermissionImplications.impliedBy (roleEngine arrange arrange_perm)
          tables.toDatabase m) seed n ->
        exists q : Bigint, q.val = n ∧ Relation.ReflTransGen tables.Implies granted q := by
      intro n hn
      induction hn with
      | refl => exact ⟨granted, hval, Relation.ReflTransGen.refl⟩
      | tail _ hedge ih =>
          rcases ih with ⟨q, hq, hpath⟩
          subst hq
          rcases (impliedBy_iff_implies arrange_perm tables q _).mp hedge
            with ⟨q', hq', himplies⟩
          exact ⟨q', hq', hpath.tail himplies⟩
    rcases htyped _ hpath with ⟨q, hq, hpath⟩
    exact ⟨granted, hgranted, Subtype.ext hq ▸ hpath⟩
  · rintro ⟨granted, hgranted, hpath⟩
    refine ⟨granted.val, List.mem_map_of_mem hgranted, ?_⟩
    clear hheld
    induction hpath with
    | refl => exact Relation.ReflTransGen.refl
    | tail _ himplies ih =>
        exact ih.tail ((impliedBy_iff_implies arrange_perm tables _ _).mpr
          ⟨_, rfl, himplies⟩)

theorem Held.of_granted {tables : RoleTables} {personId id : Bigint}
    (h : id ∈ tables.grantedIds personId) : Held arrange_perm tables personId id :=
  (held_iff arrange_perm tables).mpr ⟨id, h, Relation.ReflTransGen.refl⟩

/-!
# The law of the readers
-/

variable (person : RolePerson)

/-- A failed look-up is a refusal, in every database. -/
structure FailuresRefused : Prop where
  guard : forall {s : Schema} (engine : Engine s) (db : Database s) (session : Session)
    (name : String) (err : Exn),
    EndpointAuthHelper.activeUserHasPermission engine session db name = .error err ->
      EndpointAuthHelper.requirePermission engine session db name ≠ .granted
  tables : forall {s : Schema} (engine : Engine s) (db : Database s) (session : Session)
    (tableName : String) (err : Exn),
    EndpointAuthHelper.isAdmin engine session db ≠ .ok true ->
      EndpointAuthHelper.getPermissionGrantedTables engine session db = .error err ->
      EndpointAuthHelper.requireTableWriteAccess engine session db tableName ≠ .granted

/-- Every reader sees the closure of what the person is granted. -/
structure PermissionLaw : Prop where
  required : forall name,
    EndpointAuthHelper.requirePermission (roleEngine arrange arrange_perm) ⟨person.id.val⟩
        tables.toDatabase name = .granted <->
      exists p, p ∈ tables.permissions ∧ p.name = name ∧
        Held arrange_perm tables person.id p.id
  listed : exists names, PersonHelper.getPermissionsForUser (roleEngine arrange arrange_perm)
      tables.toDatabase person.id.val = .ok names ∧ names.Nodup ∧
    forall name, name ∈ names <-> exists p, p ∈ tables.permissions ∧ p.name = name ∧
      Held arrange_perm tables person.id p.id
  unlocked : exists ts, EndpointAuthHelper.getPermissionGrantedTables
      (roleEngine arrange arrange_perm) ⟨person.id.val⟩ tables.toDatabase = .ok ts ∧
    ts.Nodup ∧
    forall t, t ∈ ts <-> exists u, u ∈ tables.tablePermissions ∧ u.tableName = t ∧
      Held arrange_perm tables person.id u.permissionId
  refused : FailuresRefused

def FindsByName (p : Permission) (name : String) : Prop :=
  TableHelpers.getPermissionByName (roleEngine arrange arrange_perm) tables.toDatabase name =
    .ok (toKeyValueTable permissionsTable.names p.row)

/-- What the implications add to the grants is there already. -/
structure NothingImplied : Prop where
  named : forall p, p ∈ tables.permissions -> Held arrange_perm tables person.id p.id ->
    exists q, q ∈ tables.permissions ∧ q.name = p.name ∧
      FindsByName arrange_perm tables q p.name ∧ q.id ∈ tables.grantedIds person.id
  tables : forall u, u ∈ tables.tablePermissions ->
    Held arrange_perm tables person.id u.permissionId ->
    exists u', u' ∈ tables.tablePermissions ∧ u'.tableName = u.tableName ∧
      u'.permissionId ∈ tables.grantedIds person.id

theorem NothingImplied.of_closed {tables : RoleTables} {person : RolePerson}
    (hclosed : forall p q, p ∈ tables.grantedIds person.id -> tables.Implies p q ->
      q ∈ tables.grantedIds person.id)
    (hnames : forall p q, p ∈ tables.permissions -> q ∈ tables.permissions ->
      p.name = q.name -> p = q) : NothingImplied arrange_perm tables person := by
  have hgranted : forall id, Held arrange_perm tables person.id id ->
      id ∈ tables.grantedIds person.id := by
    intro id hheld
    rcases (held_iff arrange_perm tables).mp hheld with ⟨granted, hgranted, hpath⟩
    clear hheld
    induction hpath with
    | refl => exact hgranted
    | tail _ himplies ih => exact hclosed _ _ ih himplies
  constructor
  · intro p hp hheld
    rcases getPermissionByName_cases arrange_perm tables p.name with
      ⟨q, hq, hname, hfound⟩ | ⟨_, hnone⟩
    · have hsame := hnames q p hq hp hname
      subst hsame
      exact ⟨q, hq, rfl, hfound, hgranted q.id hheld⟩
    · exact absurd rfl (hnone p hp)
  · intro u hu hheld
    exact ⟨u, hu, rfl, hgranted u.permissionId hheld⟩

theorem requirePermission_iff (hlogged : person.id.val ≠ -1) (name : String) :
    EndpointAuthHelper.requirePermission (roleEngine arrange arrange_perm) ⟨person.id.val⟩
        tables.toDatabase name = .granted <->
      exists q, q ∈ tables.permissions ∧ q.name = name ∧
        FindsByName arrange_perm tables q name ∧ q.id ∈ tables.grantedIds person.id := by
  have hlogged' : (Session.mk person.id.val).isLoggedIn = true := by
    simpa [Session.isLoggedIn] using hlogged
  unfold EndpointAuthHelper.requirePermission
  rw [if_pos hlogged']
  rcases getPermissionByName_cases arrange_perm tables name with
    ⟨q, hq, hname, hfound⟩ | ⟨⟨err, hfails⟩, hnone⟩
  · rw [activeUserHasPermission_ok arrange_perm person.id hlogged hfound]
    by_cases hgranted : q.id ∈ tables.grantedIds person.id
    · simp only [hgranted, decide_true, true_iff]
      exact ⟨q, hq, hname, hfound, hgranted⟩
    · simp only [hgranted, decide_false, reduceCtorEq, false_iff]
      rintro ⟨q', hq', hname', hfound', hgranted'⟩
      -- the same look-up ends at one row, and the row holds the id
      have hid := Except.ok.inj (hfound.symm.trans hfound')
      have hread : (toKeyValueTable permissionsTable.names q.row).at "id" =
          .ok (number q.id) := toKeyValueTable_at (by decide)
      have hread' : (toKeyValueTable permissionsTable.names q'.row).at "id" =
          .ok (number q'.id) := toKeyValueTable_at (by decide)
      rw [hid, hread'] at hread
      have hnumber : stoll (number q'.id) = stoll (number q.id) :=
        congrArg stoll (Except.ok.inj hread)
      rw [stoll_number, stoll_number] at hnumber
      have hsame : q'.id = q.id := Subtype.ext (Except.ok.inj hnumber)
      exact hgranted (hsame ▸ hgranted')
  · have hfalse : EndpointAuthHelper.activeUserHasPermission (roleEngine arrange arrange_perm)
        ⟨person.id.val⟩ tables.toDatabase name = .error err := by
      unfold EndpointAuthHelper.activeUserHasPermission
      simp only [hlogged', if_true, hfails, bind, Except.bind]
    rw [hfalse]
    simp only [reduceCtorEq, false_iff]
    rintro ⟨q, hq, hname, _⟩
    exact hnone q hq hname

theorem failuresRefused : FailuresRefused := by
  constructor
  · intro s engine db session name err herr
    unfold EndpointAuthHelper.requirePermission
    rw [herr]
    split <;> simp
  · intro s engine db session tableName err hadmin herr
    unfold EndpointAuthHelper.requireTableWriteAccess
    rw [herr]
    split
    · split
      · simp
      · rename_i htrue
        exact absurd htrue hadmin
      · simp
    · simp

theorem permissionReaders (hperson : person ∈ tables.people)
    (hverified : person.emailVerifiedAt ≠ none) (hlogged : person.id.val ≠ -1) :
    PermissionLaw arrange_perm tables person <->
      NothingImplied arrange_perm tables person := by
  rcases getPermissionsForUser_ok arrange_perm hperson hverified
    with ⟨names, hnames, hnamesNodup, hlisted⟩
  rcases getPermissionGrantedTables_ok arrange_perm tables hlogged
    with ⟨ts, hts, htsNodup, hunlocked⟩
  constructor
  · intro hlaw
    constructor
    · intro p hp hheld
      have hgranted := (hlaw.required p.name).mpr ⟨p, hp, rfl, hheld⟩
      exact (requirePermission_iff arrange_perm tables person hlogged p.name).mp hgranted
    · intro u hu hheld
      rcases hlaw.unlocked with ⟨ts', hts', _, hunlocked'⟩
      rw [hts] at hts'
      cases hts'
      exact (hunlocked u.tableName).mp ((hunlocked' u.tableName).mpr ⟨u, hu, rfl, hheld⟩)
  · intro hnothing
    constructor
    · intro name
      rw [requirePermission_iff arrange_perm tables person hlogged]
      constructor
      · rintro ⟨q, hq, hname, _, hgranted⟩
        exact ⟨q, hq, hname, Held.of_granted arrange_perm hgranted⟩
      · rintro ⟨p, hp, hname, hheld⟩
        subst hname
        exact hnothing.named p hp hheld
    · refine ⟨names, hnames, hnamesNodup, ?_⟩
      intro name
      rw [hlisted]
      constructor
      · rintro ⟨p, hp, hname, hgranted⟩
        exact ⟨p, hp, hname, Held.of_granted arrange_perm hgranted⟩
      · rintro ⟨p, hp, hname, hheld⟩
        rcases hnothing.named p hp hheld with ⟨q, hq, hsame, _, hgranted⟩
        exact ⟨q, hq, hsame.trans hname, hgranted⟩
    · refine ⟨ts, hts, htsNodup, ?_⟩
      intro t
      rw [hunlocked]
      constructor
      · rintro ⟨u, hu, ht, hgranted⟩
        exact ⟨u, hu, ht, Held.of_granted arrange_perm hgranted⟩
      · rintro ⟨u, hu, ht, hheld⟩
        rcases hnothing.tables u hu hheld with ⟨u', hu', hsame, hgranted⟩
        exact ⟨u', hu', hsame.trans ht, hgranted⟩
    · exact failuresRefused

end Reading

def sampleEditor : RolePerson := ⟨⟨1, by decide⟩, some ⟨1, by decide⟩⟩

def sampleEdit : Permission := ⟨⟨1, by decide⟩, "edit"⟩

def sampleView : Permission := ⟨⟨2, by decide⟩, "view"⟩

def sampleRoles (granted : List Bigint)
    (hgranted : forall id, id ∈ granted -> id = sampleEdit.id ∨ id = sampleView.id) :
    RoleTables where
  people := [sampleEditor]
  assignments := [⟨⟨1, by decide⟩, ⟨1, by decide⟩, ⟨1, by decide⟩⟩]
  grants := granted.map (fun id => ⟨⟨1, by decide⟩, ⟨1, by decide⟩, id⟩)
  permissions := [sampleEdit, sampleView]
  implications := [⟨⟨1, by decide⟩, sampleEdit.id, sampleView.id⟩]
  tablePermissions := [⟨⟨1, by decide⟩, "pages", sampleView.id⟩]
  people_unique := List.pairwise_singleton _ _
  permissions_unique := by decide
  grants_known := by
    intro g hg
    rcases List.mem_map.mp hg with ⟨id, hid, rfl⟩
    rcases hgranted id hid with h | h
    · exact ⟨sampleEdit, by simp, h.symm⟩
    · exact ⟨sampleView, by simp, h.symm⟩
  implied_known := by decide

theorem permissionReaders_sample :
    PermissionLaw (fun _ _ rows => List.Perm.refl rows)
      (sampleRoles [sampleEdit.id, sampleView.id] (by decide)) sampleEditor := by
  refine (permissionReaders (fun _ _ rows => List.Perm.refl rows) _ sampleEditor (by decide)
    (by decide) (by decide)).mpr (NothingImplied.of_closed _ ?_ ?_)
  · rintro p q _ ⟨e, he, _, hq⟩
    rw [List.mem_singleton.mp he] at hq
    rw [← hq]
    decide
  · intro p q hp hq hname
    have hnames : forall p, p ∈ [sampleEdit, sampleView] -> forall q,
        q ∈ [sampleEdit, sampleView] -> p.name = q.name -> p = q := by decide
    exact hnames p hp q hq hname

/-- Editing is granted and implies viewing, and the guard refuses the viewer. -/
theorem permissionLaw_fails :
    sampleEditor ∈ (sampleRoles [sampleEdit.id] (by decide)).people ∧
      sampleEditor.emailVerifiedAt ≠ none ∧ sampleEditor.id.val ≠ -1 ∧
      Not (PermissionLaw (fun _ _ rows => List.Perm.refl rows)
        (sampleRoles [sampleEdit.id] (by decide)) sampleEditor) := by
  refine ⟨by decide, by decide, by decide, ?_⟩
  intro hlaw
  have hheld : Held (fun _ _ rows => List.Perm.refl rows)
      (sampleRoles [sampleEdit.id] (by decide)) sampleEditor.id sampleView.id := by
    refine (held_iff _ _).mpr ⟨sampleEdit.id, by decide, ?_⟩
    exact Relation.ReflTransGen.single ⟨_, List.mem_singleton.mpr rfl, rfl, rfl⟩
  have hgranted := (hlaw.required "view").mpr
    ⟨sampleView, List.mem_cons_of_mem _ (List.mem_singleton.mpr rfl), rfl, hheld⟩
  rcases (requirePermission_iff _ _ sampleEditor (by decide) "view").mp hgranted
    with ⟨q, hq, hname, _, hgranted⟩
  rcases List.mem_cons.mp hq with h | h
  · subst h
    exact absurd hname (by decide)
  · rw [List.mem_singleton.mp h] at hgranted
    exact absurd hgranted (by decide)

end Rest
end ServerComponents
