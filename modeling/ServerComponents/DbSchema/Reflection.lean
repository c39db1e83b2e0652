import ServerComponents.DbSchema.LiveSchema
import ServerComponents.DbSchema.Outline
import ServerComponents.Relational.Placement

/-!
# Reading the schema of a database

The tables without foreign keys are added first, and then, again and again, the first
table whose parents are all there.  Nothing ends this when no table is left to add but
some are waiting.
-/

namespace ServerComponents
namespace DbSchema

open Control
open Relational

structure ForeignKeyRef where
  parentTable : String
  parentColumn : String
  deriving Repr, DecidableEq

def ForeignKeyRef.reference (ref : ForeignKeyRef) (tableName columnName : String)
    (nullable : Bool) : ForeignKeyReference where
  parent := ⟨ref.parentTable, ref.parentColumn⟩
  child := ⟨tableName, columnName⟩
  nullable := nullable

abbrev ForeignKeyTable := List (String × ForeignKeyRef)

structure ChildTableInfo where
  tableName : String
  parents : List String
  deriving Repr, DecidableEq

/-- The entry of a column that has one stays. -/
def ForeignKeyTable.insert (foreignKeyTable : ForeignKeyTable) (childColumn : String)
    (ref : ForeignKeyRef) : ForeignKeyTable :=
  if (foreignKeyTable.lookup childColumn).isSome then foreignKeyTable
  else foreignKeyTable ++ [(childColumn, ref)]

/-- One parent for one column, as the first row of the query has them. -/
def makeForeignKeyTable (s : LiveSchema) (tableInfo : ChildTableInfo) :
    Except Exn ForeignKeyTable :=
  tableInfo.parents.foldlM (fun foreignKeyTable parentTable => do
    let row ← s.getParentChildForeignKeyColumns parentTable tableInfo.tableName
    pure (foreignKeyTable.insert row.childColumn ⟨parentTable, row.parentColumn⟩)) []

def addReflectedColumn (s : LiveSchema) (tableName : String)
    (foreignKeyTable : ForeignKeyTable) (databaseColumnInfo : DatabaseColumnInfo) :
    Work DatabaseInfo Exn Unit :=
  match foreignKeyTable.lookup databaseColumnInfo.columnName with
  | some ref => do
      let isNullable ← DatabaseInfo.lift
        (s.isForeignKeyNullable tableName databaseColumnInfo.columnName)
      if isNullable then
        DatabaseInfo.addColumnForeignKeyRefNullable ref.parentTable ref.parentColumn
          tableName databaseColumnInfo.columnName
      else
        DatabaseInfo.addColumnForeignKeyRef ref.parentTable ref.parentColumn
          tableName databaseColumnInfo.columnName
  | none => do
      let databaseType ← DatabaseInfo.lift
        (databaseTypesFromDatabaseColumnInfo databaseColumnInfo)
      if databaseColumnInfo.primaryKey then
        DatabaseInfo.addColumnPrimaryKey tableName databaseColumnInfo.columnName databaseType
      else if databaseColumnInfo.unique then
        DatabaseInfo.addColumnUnique tableName databaseColumnInfo.columnName databaseType
      else
        DatabaseInfo.addColumnSimple tableName databaseColumnInfo.columnName databaseType

def addTableToDatabaseInfo (s : LiveSchema) (tableInfo : ChildTableInfo)
    (tablesAdded : List String) : Work DatabaseInfo Exn (List String) := do
  let databaseColumnInfoArray ← DatabaseInfo.lift (s.columns tableInfo.tableName)
  DatabaseInfo.addTable tableInfo.tableName
  let foreignKeyTable ← DatabaseInfo.lift (makeForeignKeyTable s tableInfo)
  databaseColumnInfoArray.forM (addReflectedColumn s tableInfo.tableName foreignKeyTable)
  (s.listTableUniqueValuesArrayForTable tableInfo.tableName).forM
    (DatabaseInfo.addUniqueConstraintHelper tableInfo.tableName)
  pure (tablesAdded ++ [tableInfo.tableName])

def filterBasedOnAllowedTables (tables allowedTables : List String) : List String :=
  tables.filter (fun table => decide (table ∈ allowedTables))

def buildChildTableInfoList (s : LiveSchema) (rootTables allowedTables : List String) :
    List ChildTableInfo :=
  ((filterBasedOnAllowedTables s.listTables allowedTables).filter
    (fun table => decide (table ∉ rootTables))).map
    (fun table => ⟨table, s.listParentTables table⟩)

def areAllParentsAdded (tablesAdded : List String) (tableInfo : ChildTableInfo) : Bool :=
  tableInfo.parents.all (fun parent => decide (parent ∈ tablesAdded))

/-- The schema as far as it is read, and the tables in it. -/
structure Reflected where
  databaseInfo : DatabaseInfo
  tablesAdded : List String

def Reflected.add (s : LiveSchema) (reflected : Reflected) (tableInfo : ChildTableInfo) :
    Except Exn Reflected :=
  match addTableToDatabaseInfo s tableInfo reflected.tablesAdded reflected.databaseInfo with
  | (.ok tablesAdded, databaseInfo) => .ok ⟨databaseInfo, tablesAdded⟩
  | (.error err, _) => .error err

def addRootTables (s : LiveSchema) (databaseName : String) (allowedTables : List String) :
    Except Exn Reflected :=
  (filterBasedOnAllowedTables s.listRootTables allowedTables).foldlM
    (fun reflected rootTable => reflected.add s ⟨rootTable, []⟩)
    ⟨DatabaseInfo.empty databaseName, []⟩

/-- The `while` loop, for so many rounds: a round adds the first table whose parents are all
there.  A round that finds none is followed by the same round. -/
def addChildTables (s : LiveSchema) :
    Nat -> Reflected -> List ChildTableInfo -> Option (Except Exn DatabaseInfo)
  | _, reflected, [] => some (.ok reflected.databaseInfo)
  | 0, _, _ => none
  | fuel + 1, reflected, tableInfoList =>
      match tableInfoList.find? (areAllParentsAdded reflected.tablesAdded) with
      | none => addChildTables s fuel reflected tableInfoList
      | some tableInfo =>
          match reflected.add s tableInfo with
          | .error err => some (.error err)
          | .ok reflected' =>
              addChildTables s fuel reflected'
                (tableInfoList.eraseP (areAllParentsAdded reflected.tablesAdded))

def databaseInfoFromDatabase (s : LiveSchema) (databaseName : String)
    (allowedTables : List String) (fuel : Nat) : Option (Except Exn DatabaseInfo) :=
  match addRootTables s databaseName allowedTables with
  | .error err => some (.error err)
  | .ok reflected =>
      addChildTables s fuel reflected
        (buildChildTableInfoList s reflected.tablesAdded allowedTables)

def ReflectsTo (s : LiveSchema) (databaseName : String) (allowedTables : List String)
    (result : Except Exn DatabaseInfo) : Prop :=
  exists fuel, databaseInfoFromDatabase s databaseName allowedTables fuel = some result

/-!
# What the database says of a table
-/

namespace LiveSchema

variable (s : LiveSchema)

def allowed (allowedTables : List String) : List String :=
  filterBasedOnAllowedTables s.listTables allowedTables

def columnNames (tableName : String) : List String :=
  match s.columns tableName with
  | .ok columns => columns.map DatabaseColumnInfo.columnName
  | .error _ => []

/-- The columns of a table that are taken for references. -/
def foreignKeys (tableName : String) : ForeignKeyTable :=
  match makeForeignKeyTable s ⟨tableName, s.listParentTables tableName⟩ with
  | .ok foreignKeyTable => foreignKeyTable
  | .error _ => []

/-- The column can be added: what it refers to is there, or its type is known. -/
def AcceptsColumn (tableName : String) (foreignKeyTable : ForeignKeyTable)
    (column : DatabaseColumnInfo) : Prop :=
  match foreignKeyTable.lookup column.columnName with
  | some ref =>
      (exists isNullable, s.isNullable tableName column.columnName = some isNullable) ∧
        ref.parentColumn ∈ s.columnNames ref.parentTable
  | none =>
      exists databaseType, databaseTypesFromDatabaseColumnInfo column = .ok databaseType

/-- The table can be added behind its parents: its columns are listed, each once, and can
be added. -/
def Accepts (tableName : String) : Prop :=
  exists columns, s.columns tableName = .ok columns ∧
    (columns.map DatabaseColumnInfo.columnName).Nodup ∧
    forall column, column ∈ columns ->
      s.AcceptsColumn tableName (s.foreignKeys tableName) column

/-- What becomes of a column that is taken for a reference. -/
def columnReference? (tableName : String) (foreignKeyTable : ForeignKeyTable)
    (column : DatabaseColumnInfo) : Option ForeignKeyReference :=
  (foreignKeyTable.lookup column.columnName).map (fun ref =>
    ref.reference tableName column.columnName
      ((s.isNullable tableName column.columnName).getD false))

end LiveSchema

/-!
# Adding the columns of a table
-/

section Columns

variable {s : LiveSchema} {d : DatabaseInfo} {others : List (String × List String)}
  {tableName : String} {columns : List String} {foreignKeyTable : ForeignKeyTable}

/-- The tables before the last are those of the database, and the references of the last one
are on columns that it has. -/
structure FillingFrom (s : LiveSchema) (d : DatabaseInfo)
    (others : List (String × List String)) (tableName : String) (columns : List String) :
    Prop where
  filling : Filling d others tableName columns
  others : forall entry, entry ∈ others -> entry.2 = s.columnNames entry.1
  children : forall ref, ref ∈ d.references -> ref.child.tableName = tableName ->
    ref.child.columnName ∈ columns

theorem FillingFrom.find?_eq_none (h : FillingFrom s d others tableName columns)
    {columnName : String} (hnew : columnName ∉ columns) :
    d.foreignKeyManager.find? ⟨tableName, columnName⟩ = none := by
  refine List.find?_eq_none.mpr (fun ref href heq => hnew ?_)
  have hchild : ref.child = ⟨tableName, columnName⟩ := by simpa using heq
  have hcolumn := h.children ref href (by rw [hchild])
  rw [hchild] at hcolumn
  exact hcolumn

theorem exists_columnInfo (tableName : String) (column : DatabaseColumnInfo)
    (databaseType : DatabaseTypes) :
    exists columnInfo : ColumnInfo, columnInfo.columnName = column.columnName ∧
      (if column.primaryKey then
        DatabaseInfo.addColumnPrimaryKey tableName column.columnName databaseType
      else if column.unique then
        DatabaseInfo.addColumnUnique tableName column.columnName databaseType
      else DatabaseInfo.addColumnSimple tableName column.columnName databaseType) =
        DatabaseInfo.alterTable tableName (TableInfo.addColumn columnInfo) := by
  split
  · exact ⟨_, rfl, rfl⟩
  · split
    · exact ⟨_, rfl, rfl⟩
    · exact ⟨_, rfl, rfl⟩

variable {column : DatabaseColumnInfo}

theorem addReflectedColumn_reference {ref : ForeignKeyRef}
    {isNullable : Bool} (hlookup : foreignKeyTable.lookup column.columnName = some ref)
    (hnullable : s.isNullable tableName column.columnName = some isNullable) :
    addReflectedColumn s tableName foreignKeyTable column d =
      DatabaseInfo.addReferencingColumn ⟨ref.parentTable, ref.parentColumn⟩
        ⟨tableName, column.columnName⟩ isNullable d := by
  have hread : s.isForeignKeyNullable tableName column.columnName = .ok isNullable := by
    unfold LiveSchema.isForeignKeyNullable
    rw [hnullable]
  unfold addReflectedColumn
  simp only [hlookup, Work.bind_eq]
  rw [hread, DatabaseInfo.lift_ok]
  cases isNullable with
  | true => rfl
  | false => rfl

theorem addReflectedColumn_plain (s : LiveSchema) (d : DatabaseInfo) (tableName : String)
    {databaseType : DatabaseTypes} (hlookup : foreignKeyTable.lookup column.columnName = none)
    (htype : databaseTypesFromDatabaseColumnInfo column = .ok databaseType) :
    exists columnInfo : ColumnInfo, columnInfo.columnName = column.columnName ∧
      addReflectedColumn s tableName foreignKeyTable column d =
        DatabaseInfo.alterTable tableName (TableInfo.addColumn columnInfo) d := by
  rcases exists_columnInfo tableName column databaseType with ⟨columnInfo, hname, hway⟩
  refine ⟨columnInfo, hname, ?_⟩
  unfold addReflectedColumn
  simp only [hlookup, Work.bind_eq]
  rw [htype, DatabaseInfo.lift_ok, hway]

theorem FillingFrom.parentColumns (h : FillingFrom s d others tableName columns)
    {parentTable : String} (hparent : parentTable ∈ others.map Prod.fst) :
    (parentTable, s.columnNames parentTable) ∈ d.outline := by
  rcases List.mem_map.mp hparent with ⟨entry, hentry, rfl⟩
  rw [h.filling.outline, ← h.others entry hentry]
  exact List.mem_append_left _ hentry

variable (hparents : forall columnName ref, foreignKeyTable.lookup columnName = some ref ->
  ref.parentTable ∈ others.map Prod.fst)

include hparents in
theorem addReflectedColumn_accepted (h : FillingFrom s d others tableName columns)
    (hnew : column.columnName ∉ columns)
    (haccepts : s.AcceptsColumn tableName foreignKeyTable column) :
    exists d', addReflectedColumn s tableName foreignKeyTable column d = (.ok (), d') ∧
      FillingFrom s d' others tableName (columns ++ [column.columnName]) ∧
      d'.references =
        d.references ++ (s.columnReference? tableName foreignKeyTable column).toList := by
  unfold LiveSchema.AcceptsColumn at haccepts
  unfold LiveSchema.columnReference?
  cases hlookup : foreignKeyTable.lookup column.columnName with
  | none =>
      rw [hlookup] at haccepts
      rcases haccepts with ⟨databaseType, htype⟩
      rcases addReflectedColumn_plain s d tableName hlookup htype with
        ⟨columnInfo, hname, hrun⟩
      rw [← hname] at hnew ⊢
      rcases h.filling.addColumn_new hnew with ⟨d', hadd, hfilling, hreferences⟩
      refine ⟨d', hrun.trans hadd, ⟨hfilling, h.others, ?_⟩, ?_⟩
      · intro ref href hchild
        rw [hreferences] at href
        exact List.mem_append_left _ (h.children ref href hchild)
      · rw [hreferences]
        exact (List.append_nil _).symm
  | some ref =>
      rw [hlookup] at haccepts
      rcases haccepts with ⟨⟨isNullable, hnullable⟩, hcolumn⟩
      have hparent := h.parentColumns (hparents _ ref hlookup)
      have hadded := @Filling.addReferencingColumn_new d others tableName columns h.filling
        (ref.reference tableName column.columnName isNullable) _ rfl hnew hparent hcolumn
        (h.find?_eq_none hnew)
      rcases hadded with ⟨d', hadd, hfilling, hreferences⟩
      refine ⟨d', (addReflectedColumn_reference hlookup hnullable).trans hadd,
        ⟨hfilling, h.others, ?_⟩, ?_⟩
      · intro ref' href hchild
        rw [hreferences] at href
        rcases List.mem_append.mp href with hold | hlast
        · exact List.mem_append_left _ (h.children ref' hold hchild)
        · rw [List.mem_singleton.mp hlast]
          exact List.mem_append_right _ List.mem_cons_self
      · rw [hreferences, hnullable]
        rfl

include hparents in
theorem addReflectedColumn_refused (h : FillingFrom s d others tableName columns)
    (hbad : column.columnName ∈ columns ∨
      Not (s.AcceptsColumn tableName foreignKeyTable column)) :
    exists err d', addReflectedColumn s tableName foreignKeyTable column d =
      (.error err, d') := by
  unfold LiveSchema.AcceptsColumn at hbad
  cases hlookup : foreignKeyTable.lookup column.columnName with
  | none =>
      rw [hlookup] at hbad
      cases htype : databaseTypesFromDatabaseColumnInfo column with
      | error err =>
          refine ⟨err, d, ?_⟩
          unfold addReflectedColumn
          simp only [hlookup, Work.bind_eq]
          rw [htype, DatabaseInfo.lift_error]
      | ok databaseType =>
          rcases hbad with hknown | hnot
          · rcases addReflectedColumn_plain s d tableName hlookup htype with
              ⟨columnInfo, hname, hrun⟩
            rw [← hname] at hknown
            rcases h.filling.addColumn_known hknown with ⟨err, hadd⟩
            exact ⟨err, d, hrun.trans hadd⟩
          · exact absurd ⟨databaseType, htype⟩ hnot
  | some ref =>
      rw [hlookup] at hbad
      cases hnullable : s.isNullable tableName column.columnName with
      | none =>
          have hread : exists err,
              s.isForeignKeyNullable tableName column.columnName = .error err := by
            unfold LiveSchema.isForeignKeyNullable
            rw [hnullable]
            exact ⟨_, rfl⟩
          rcases hread with ⟨err, hread⟩
          refine ⟨err, d, ?_⟩
          unfold addReflectedColumn
          simp only [hlookup, Work.bind_eq]
          rw [hread, DatabaseInfo.lift_error]
      | some isNullable =>
          have hmissing : column.columnName ∈ columns ∨
              forall parentColumns, (ref.parentTable, parentColumns) ∈ d.outline ->
                ref.parentColumn ∉ parentColumns := by
            rcases hbad with hknown | hnot
            · exact Or.inl hknown
            · refine Or.inr (fun parentColumns hparent hcolumn => hnot ?_)
              have hentry := DatabaseInfo.eq_of_mem_outline hparent
                (h.parentColumns (hparents _ ref hlookup)) rfl
              rw [(Prod.mk.inj hentry).2] at hcolumn
              exact ⟨⟨isNullable, hnullable⟩, hcolumn⟩
          have hrefused := @Filling.addReferencingColumn_refused d others tableName columns
            h.filling (ref.reference tableName column.columnName isNullable) rfl hmissing
          rcases hrefused with ⟨err, d', hadd⟩
          exact ⟨err, d', (addReflectedColumn_reference hlookup hnullable).trans hadd⟩

theorem forM_cons_ok {a : Type} {f : a -> Work DatabaseInfo Exn Unit} {x : a} {rest : List a}
    {d' : DatabaseInfo} (h : f x d = (.ok (), d')) : (x :: rest).forM f d = rest.forM f d' :=
  Work.bind_ok h

theorem forM_cons_error {a : Type} {f : a -> Work DatabaseInfo Exn Unit} {x : a}
    {rest : List a} {err : Exn} {d' : DatabaseInfo} (h : f x d = (.error err, d')) :
    (x :: rest).forM f d = (.error err, d') :=
  Work.bind_error h

theorem append_cons_names (columns : List String) (column : DatabaseColumnInfo)
    (rest : List DatabaseColumnInfo) :
    columns ++ (column :: rest).map DatabaseColumnInfo.columnName =
      (columns ++ [column.columnName]) ++ rest.map DatabaseColumnInfo.columnName := by
  rw [List.map_cons, List.append_assoc, List.singleton_append]

include hparents in
theorem forM_addReflectedColumn_accepted {rest : List DatabaseColumnInfo}
    (haccepts : forall column, column ∈ rest ->
      s.AcceptsColumn tableName foreignKeyTable column) :
    forall d columns, FillingFrom s d others tableName columns ->
      (columns ++ rest.map DatabaseColumnInfo.columnName).Nodup ->
      exists d', rest.forM (addReflectedColumn s tableName foreignKeyTable) d = (.ok (), d') ∧
        FillingFrom s d' others tableName
          (columns ++ rest.map DatabaseColumnInfo.columnName) ∧
        d'.references =
          d.references ++ rest.filterMap (s.columnReference? tableName foreignKeyTable) := by
  induction rest with
  | nil =>
      intro d columns h _
      refine ⟨d, rfl, ?_, (List.append_nil _).symm⟩
      rw [List.map_nil, List.append_nil]
      exact h
  | cons column rest ih =>
      intro d columns h hnodup
      have hnew : column.columnName ∉ columns := by
        intro hmem
        exact (List.nodup_append.mp hnodup).2.2 _ hmem _ List.mem_cons_self rfl
      rcases addReflectedColumn_accepted hparents h hnew (haccepts column List.mem_cons_self)
        with ⟨d', hrun, hfilling, hreferences⟩
      rw [append_cons_names] at hnodup ⊢
      rcases ih (fun c hc => haccepts c (List.mem_cons_of_mem column hc)) d' _ hfilling hnodup
        with ⟨d'', hrest, hfilled, hrefs⟩
      refine ⟨d'', (forM_cons_ok hrun).trans hrest, hfilled, ?_⟩
      rw [hrefs, hreferences, List.append_assoc, List.filterMap_cons]
      cases s.columnReference? tableName foreignKeyTable column with
      | none => rfl
      | some ref => rfl

include hparents in
theorem forM_addReflectedColumn_refused {rest : List DatabaseColumnInfo} :
    forall d columns, FillingFrom s d others tableName columns -> columns.Nodup ->
      Not ((columns ++ rest.map DatabaseColumnInfo.columnName).Nodup ∧
        forall column, column ∈ rest -> s.AcceptsColumn tableName foreignKeyTable column) ->
      exists err d', rest.forM (addReflectedColumn s tableName foreignKeyTable) d =
        (.error err, d') := by
  induction rest with
  | nil =>
      intro d columns _ hnodup hbad
      refine absurd ⟨?_, fun column hcolumn => by cases hcolumn⟩ hbad
      rw [List.map_nil, List.append_nil]
      exact hnodup
  | cons column rest ih =>
      intro d columns h hnodup hbad
      by_cases hhead : column.columnName ∉ columns ∧
          s.AcceptsColumn tableName foreignKeyTable column
      case neg =>
        have hrefused : column.columnName ∈ columns ∨
            Not (s.AcceptsColumn tableName foreignKeyTable column) := by
          by_cases hknown : column.columnName ∈ columns
          · exact Or.inl hknown
          · exact Or.inr (fun haccepts => hhead ⟨hknown, haccepts⟩)
        rcases addReflectedColumn_refused hparents h hrefused with ⟨err, d', hrun⟩
        exact ⟨err, d', forM_cons_error hrun⟩
      case pos =>
        rcases addReflectedColumn_accepted hparents h hhead.1 hhead.2 with
          ⟨d', hrun, hfilling, -⟩
        have hnodup' : (columns ++ [column.columnName]).Nodup := by
          rw [← List.concat_eq_append]
          exact hnodup.concat hhead.1
        rw [append_cons_names] at hbad
        have hbad' : Not (((columns ++ [column.columnName]) ++
            rest.map DatabaseColumnInfo.columnName).Nodup ∧
            forall c, c ∈ rest -> s.AcceptsColumn tableName foreignKeyTable c) := by
          rintro ⟨hnames, haccepts⟩
          refine hbad ⟨hnames, fun c hc => ?_⟩
          rcases List.mem_cons.mp hc with rfl | hc
          · exact hhead.2
          · exact haccepts c hc
        rcases ih d' _ hfilling hnodup' hbad' with ⟨err, d'', hrest⟩
        exact ⟨err, d'', (forM_cons_ok hrun).trans hrest⟩

theorem listTableUniqueValuesArrayForTable_columns (s : LiveSchema) (tableName : String)
    {tableUniqueValues : TableUniqueValues}
    (h : tableUniqueValues ∈ s.listTableUniqueValuesArrayForTable tableName) :
    Not (tableUniqueValues.columns = []) := by
  rcases List.mem_map.mp h with ⟨entry, hentry, rfl⟩
  have hlength : 1 < entry.2.length := by simpa using (List.mem_filter.mp hentry).2
  exact List.ne_nil_of_length_pos (Nat.lt_of_succ_lt hlength)

theorem forM_addUniqueConstraintHelper {tableUniqueValuesArray : List TableUniqueValues}
    (hcolumns : forall tableUniqueValues, tableUniqueValues ∈ tableUniqueValuesArray ->
      Not (tableUniqueValues.columns = [])) :
    forall d, Filling d others tableName columns ->
      exists d', tableUniqueValuesArray.forM
          (DatabaseInfo.addUniqueConstraintHelper tableName) d = (.ok (), d') ∧
        Filling d' others tableName columns ∧ d'.references = d.references := by
  induction tableUniqueValuesArray with
  | nil => exact fun d h => ⟨d, rfl, h, rfl⟩
  | cons tableUniqueValues rest ih =>
      intro d h
      rcases h.addUniqueConstraintHelper (hcolumns _ List.mem_cons_self) with
        ⟨d', hrun, hfilling, hreferences⟩
      rcases ih (fun t ht => hcolumns t (List.mem_cons_of_mem _ ht)) d' hfilling with
        ⟨d'', hrest, hfilled, hrefs⟩
      exact ⟨d'', (forM_cons_ok hrun).trans hrest, hfilled, hrefs.trans hreferences⟩

end Columns

/-!
# Adding a table
-/

section Tables

variable {s : LiveSchema}

theorem mem_parentChildRows {parentTable childTable : String} {row : ForeignKeyRow} :
    row ∈ s.parentChildRows parentTable childTable <->
      row ∈ s.foreignKeyRows ∧ row.parentTable = parentTable ∧
        row.childTable = childTable := by
  unfold LiveSchema.parentChildRows
  rw [(s.arrange_perm _).mem_iff, List.mem_filter, decide_eq_true_eq]

theorem mem_listParentTables {parentTable childTable : String} :
    parentTable ∈ s.listParentTables childTable <->
      exists row, row ∈ s.foreignKeyRows ∧ row.parentTable = parentTable ∧
        row.childTable = childTable := by
  unfold LiveSchema.listParentTables
  rw [List.mem_map]
  constructor
  · rintro ⟨row, hrow, hparent⟩
    rw [(s.arrange_perm _).mem_iff, List.mem_filter, decide_eq_true_eq] at hrow
    exact ⟨row, hrow.1, hparent, hrow.2⟩
  · rintro ⟨row, hrow, hparent, hchild⟩
    refine ⟨row, ?_, hparent⟩
    rw [(s.arrange_perm _).mem_iff, List.mem_filter, decide_eq_true_eq]
    exact ⟨hrow, hchild⟩

theorem exists_parentChildRow {parentTable childTable : String}
    (h : parentTable ∈ s.listParentTables childTable) :
    exists row rows, s.parentChildRows parentTable childTable = row :: rows := by
  rcases mem_listParentTables.mp h with ⟨row, hrow, hparent, hchild⟩
  have hmem := mem_parentChildRows.mpr ⟨hrow, hparent, hchild⟩
  cases hrows : s.parentChildRows parentTable childTable with
  | nil =>
      rw [hrows] at hmem
      cases hmem
  | cons first rows => exact ⟨first, rows, rfl⟩

theorem lookup_append {foreignKeyTable : ForeignKeyTable} {name name' : String}
    {ref : ForeignKeyRef} :
    (foreignKeyTable ++ [(name', ref)]).lookup name =
      (foreignKeyTable.lookup name).or (if name = name' then some ref else none) := by
  induction foreignKeyTable with
  | nil =>
      by_cases h : name = name'
      · simp [h]
      · have hne : (name == name') = false := beq_eq_false_iff_ne.mpr h
        simp [List.lookup_cons, h, hne]
  | cons entry rest ih =>
      rw [List.cons_append, List.lookup_cons, List.lookup_cons, ih]
      by_cases h : name = entry.1
      · simp [h]
      · have hne : (name == entry.1) = false := beq_eq_false_iff_ne.mpr h
        rw [hne]

theorem lookup_insert (foreignKeyTable : ForeignKeyTable) (name name' : String)
    (ref : ForeignKeyRef) :
    (foreignKeyTable.insert name' ref).lookup name =
      (foreignKeyTable.lookup name).or (if name = name' then some ref else none) := by
  unfold ForeignKeyTable.insert
  split
  case isFalse => exact lookup_append
  case isTrue h =>
    by_cases hname : name = name'
    · rw [hname, Option.or_of_isSome h]
    · rw [if_neg hname, Option.or_none]

/-- What the first rows of the query say of a column, parent after parent. -/
def LiveSchema.firstReference? (s : LiveSchema) (childTable : String) (parents : List String)
    (columnName : String) : Option ForeignKeyRef :=
  parents.findSome? (fun parentTable =>
    (s.parentChildRows parentTable childTable).head?.bind (fun row =>
      if columnName = row.childColumn then some ⟨parentTable, row.parentColumn⟩ else none))

theorem foldlM_foreignKeyTable (tableName : String) {parents : List String}
    (hparents : forall parentTable, parentTable ∈ parents ->
      parentTable ∈ s.listParentTables tableName) :
    forall start : ForeignKeyTable, exists foreignKeyTable : ForeignKeyTable,
      parents.foldlM (fun (foreignKeyTable : ForeignKeyTable) parentTable => do
        let row ← s.getParentChildForeignKeyColumns parentTable tableName
        pure (foreignKeyTable.insert row.childColumn ⟨parentTable, row.parentColumn⟩)) start =
          (.ok foreignKeyTable : Except Exn ForeignKeyTable) ∧
      forall columnName, foreignKeyTable.lookup columnName =
        (start.lookup columnName).or (s.firstReference? tableName parents columnName) := by
  induction parents with
  | nil => exact fun start => ⟨start, rfl, fun columnName => (Option.or_none).symm⟩
  | cons parentTable rest ih =>
      intro start
      rcases exists_parentChildRow (hparents parentTable List.mem_cons_self) with
        ⟨row, rows, hrows⟩
      have hread : s.getParentChildForeignKeyColumns parentTable tableName = .ok row := by
        unfold LiveSchema.getParentChildForeignKeyColumns
        rw [hrows]
      rcases ih (fun p hp => hparents p (List.mem_cons_of_mem parentTable hp))
          (start.insert row.childColumn ⟨parentTable, row.parentColumn⟩) with
        ⟨foreignKeyTable, hfold, hlookup⟩
      refine ⟨foreignKeyTable, ?_, ?_⟩
      · rw [List.foldlM_cons, hread]
        exact hfold
      · intro columnName
        rw [hlookup, lookup_insert, Option.or_assoc]
        unfold LiveSchema.firstReference?
        rw [List.findSome?_cons, hrows]
        by_cases h : columnName = row.childColumn
        · simp [h]
        · simp [h]

theorem makeForeignKeyTable_eq (s : LiveSchema) (tableName : String) :
    makeForeignKeyTable s ⟨tableName, s.listParentTables tableName⟩ =
      .ok (s.foreignKeys tableName) ∧
    forall columnName, (s.foreignKeys tableName).lookup columnName =
      s.firstReference? tableName (s.listParentTables tableName) columnName := by
  rcases foldlM_foreignKeyTable tableName (fun _ h => h) [] with
    ⟨foreignKeyTable, hfold, hlookup⟩
  have htable : makeForeignKeyTable s ⟨tableName, s.listParentTables tableName⟩ =
      .ok foreignKeyTable := hfold
  have hkeys : s.foreignKeys tableName = foreignKeyTable := by
    unfold LiveSchema.foreignKeys
    rw [htable]
  rw [hkeys]
  exact ⟨htable, hlookup⟩

theorem lookup_foreignKeys_parent {tableName columnName : String} {ref : ForeignKeyRef}
    (h : (s.foreignKeys tableName).lookup columnName = some ref) :
    ref.parentTable ∈ s.listParentTables tableName := by
  rw [(makeForeignKeyTable_eq s tableName).2] at h
  rcases List.exists_of_findSome?_eq_some h with ⟨parentTable, hmem, hfound⟩
  rcases Option.bind_eq_some_iff.mp hfound with ⟨row, -, hrow⟩
  split at hrow
  · rw [← Option.some.inj hrow]
    exact hmem
  · cases hrow

def LiveSchema.tableReferences (s : LiveSchema) (tableName : String) :
    List ForeignKeyReference :=
  match s.columns tableName with
  | .ok columns =>
      columns.filterMap (s.columnReference? tableName (s.foreignKeys tableName))
  | .error _ => []

theorem child_of_mem_tableReferences {tableName : String} {ref : ForeignKeyReference}
    (h : ref ∈ s.tableReferences tableName) : ref.child.tableName = tableName := by
  unfold LiveSchema.tableReferences at h
  split at h
  · rcases List.mem_filterMap.mp h with ⟨column, -, hcolumn⟩
    rcases Option.map_eq_some_iff.mp hcolumn with ⟨key, -, rfl⟩
    rfl
  · cases h

/-- The tables that have been added are those of the database. -/
structure Agrees (s : LiveSchema) (reflected : Reflected) : Prop where
  outline : reflected.databaseInfo.outline =
    reflected.tablesAdded.map (fun tableName => (tableName, s.columnNames tableName))
  references : reflected.databaseInfo.references =
    reflected.tablesAdded.flatMap s.tableReferences
  accepts : forall tableName, tableName ∈ reflected.tablesAdded -> s.Accepts tableName

theorem agrees_empty (s : LiveSchema) (databaseName : String) :
    Agrees s ⟨DatabaseInfo.empty databaseName, []⟩ where
  outline := rfl
  references := rfl
  accepts := by
    intro tableName h
    cases h

section Add

variable {reflected : Reflected} {tableName : String}

theorem Agrees.map_fst (h : Agrees s reflected) :
    reflected.databaseInfo.outline.map Prod.fst = reflected.tablesAdded := by
  rw [h.outline, List.map_map]
  exact List.map_id _

theorem Agrees.nodup (h : Agrees s reflected) : reflected.tablesAdded.Nodup := by
  rw [← h.map_fst]
  exact reflected.databaseInfo.nodup_outline

theorem Agrees.fillingFrom (h : Agrees s reflected) (hnew : tableName ∉ reflected.tablesAdded) :
    exists d, DatabaseInfo.addTable tableName reflected.databaseInfo = (.ok (), d) ∧
      FillingFrom s d reflected.databaseInfo.outline tableName [] ∧
      d.references = reflected.databaseInfo.references := by
  rw [← h.map_fst] at hnew
  rcases DatabaseInfo.addTable_new hnew with ⟨d, hrun, houtline, hreferences⟩
  refine ⟨d, hrun, ⟨⟨houtline⟩, ?_, ?_⟩, hreferences⟩
  · intro entry hentry
    rw [h.outline] at hentry
    rcases List.mem_map.mp hentry with ⟨name, -, rfl⟩
    rfl
  · intro ref href hchild
    rw [hreferences, h.references] at href
    rcases List.mem_flatMap.mp href with ⟨name, hname, hmem⟩
    rw [child_of_mem_tableReferences hmem] at hchild
    rw [h.map_fst, ← hchild] at hnew
    exact absurd hname hnew

variable (hparents : forall parentTable, parentTable ∈ s.listParentTables tableName -> parentTable
  ∈ reflected.tablesAdded)

include hparents

theorem Agrees.parents (h : Agrees s reflected) (columnName : String) (ref : ForeignKeyRef)
    (hlookup : (s.foreignKeys tableName).lookup columnName = some ref) :
    ref.parentTable ∈ reflected.databaseInfo.outline.map Prod.fst := by
  rw [h.map_fst]
  exact hparents _ (lookup_foreignKeys_parent hlookup)

theorem add_accepted (h : Agrees s reflected) (hnew : tableName ∉ reflected.tablesAdded)
    (haccepts : s.Accepts tableName) :
    exists reflected', reflected.add s ⟨tableName, s.listParentTables tableName⟩ =
        .ok reflected' ∧
      Agrees s reflected' ∧ reflected'.tablesAdded = reflected.tablesAdded ++ [tableName] := by
  rcases haccepts with ⟨columns, hcolumns, hnodup, hall⟩
  rcases h.fillingFrom hnew with ⟨d, hadd, hfilling, hsame⟩
  have hkeys := (makeForeignKeyTable_eq s tableName).1
  rcases forM_addReflectedColumn_accepted (h.parents hparents) hall d [] hfilling
      (by rw [List.nil_append]; exact hnodup) with ⟨d', hrun, hfilled, hreferences⟩
  rcases forM_addUniqueConstraintHelper
      (fun t ht => listTableUniqueValuesArrayForTable_columns s tableName ht) d' hfilled.filling
      with ⟨d'', hunique, hlast, hrefs⟩
  refine ⟨⟨d'', reflected.tablesAdded ++ [tableName]⟩, ?_, ⟨?_, ?_, ?_⟩, rfl⟩
  · have hwork : addTableToDatabaseInfo s ⟨tableName, s.listParentTables tableName⟩
        reflected.tablesAdded reflected.databaseInfo =
          (.ok (reflected.tablesAdded ++ [tableName]), d'') := by
      unfold addTableToDatabaseInfo
      simp only [Work.bind_eq]
      rw [hcolumns, DatabaseInfo.lift_ok, Work.bind_ok hadd, hkeys, DatabaseInfo.lift_ok,
        Work.bind_ok hrun, Work.bind_ok hunique]
      rfl
    unfold Reflected.add
    rw [hwork]
  · rw [hlast.outline, h.outline, List.map_append, List.map_singleton, List.nil_append]
    unfold LiveSchema.columnNames
    rw [hcolumns]
  · rw [hrefs, hreferences, hsame, h.references, List.flatMap_append, List.flatMap_singleton]
    unfold LiveSchema.tableReferences
    rw [hcolumns]
  · intro name hname
    rcases List.mem_append.mp hname with hold | hlast
    · exact h.accepts name hold
    · rw [List.mem_singleton.mp hlast]
      exact ⟨columns, hcolumns, hnodup, hall⟩

theorem add_refused (h : Agrees s reflected)
    (hbad : tableName ∈ reflected.tablesAdded ∨ Not (s.Accepts tableName)) :
    exists err, reflected.add s ⟨tableName, s.listParentTables tableName⟩ = .error err := by
  have hfails : exists err d, addTableToDatabaseInfo s
      ⟨tableName, s.listParentTables tableName⟩ reflected.tablesAdded reflected.databaseInfo =
        (.error err, d) := by
    unfold addTableToDatabaseInfo
    simp only [Work.bind_eq]
    cases hcolumns : s.columns tableName with
    | error err => exact ⟨err, _, DatabaseInfo.lift_error⟩
    | ok columns =>
        rw [DatabaseInfo.lift_ok]
        by_cases hknown : tableName ∈ reflected.tablesAdded
        case pos =>
          rw [← h.map_fst] at hknown
          rcases DatabaseInfo.addTable_known hknown with ⟨err, hadd⟩
          exact ⟨err, _, Work.bind_error hadd⟩
        case neg =>
          rcases h.fillingFrom hknown with ⟨d, hadd, hfilling, -⟩
          have hnot : Not (([] ++ columns.map DatabaseColumnInfo.columnName).Nodup ∧
              forall column, column ∈ columns ->
                s.AcceptsColumn tableName (s.foreignKeys tableName) column) := by
            rintro ⟨hnodup, hall⟩
            refine hbad.elim hknown (fun hrefused => hrefused ?_)
            exact ⟨columns, hcolumns, hnodup, hall⟩
          rcases forM_addReflectedColumn_refused (h.parents hparents) d [] hfilling
            List.nodup_nil hnot with ⟨err, d', hrun⟩
          refine ⟨err, d', ?_⟩
          rw [Work.bind_ok hadd, (makeForeignKeyTable_eq s tableName).1, DatabaseInfo.lift_ok,
            Work.bind_error hrun]
  rcases hfails with ⟨err, d, hfails⟩
  refine ⟨err, ?_⟩
  unfold Reflected.add
  rw [hfails]

end Add

end Tables

end DbSchema
end ServerComponents
