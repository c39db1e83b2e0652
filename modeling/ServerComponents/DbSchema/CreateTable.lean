import ServerComponents.DbSchema.DatabaseInfo

/-!
# The statement that creates a table

`GenerateCreateTableSql` writes the fields of a table one after another, and their
constraints behind them.  The statement is kept as its parts as well, with the same
text.
-/

namespace ServerComponents
namespace DbSchema

def DatabaseTypes.sqlType : DatabaseTypes -> String
  | .int => "INT"
  | .serial => "SERIAL"
  | .bool => "BOOL"
  | .double => "FLOAT8"
  | .string => "VARCHAR"
  | .json => "JSON"
  | .bytes => "BYTEA"
  | .date => "DATE"
  | .time => "TIME"
  | .uuid => "UUID"
  | .null => "NULL"
  | .timestamp => "TIMESTAMP"
  | .timestamptz => "TIMESTAMPTZ"
  | .bigint => "BIGINT"
  | .bigserial => "BIGSERIAL"
  | .citext => "CITEXT"

def ForeignKeyManager.getForeignReferenceOfField (manager : ForeignKeyManager)
    (field : TableColumnPair) : Option TableColumnPair :=
  (manager.find? field).map ForeignKeyReference.parent

/-!
# The text
-/

def fieldSql (columnInfo : ColumnInfo) : String :=
  columnInfo.columnName ++ " " ++ columnInfo.databaseType.sqlType ++
    (if columnInfo.primaryKey then " PRIMARY KEY"
    else
      (if columnInfo.unique then " UNIQUE"
      else if !columnInfo.nullable then " NOT NULL"
      else "") ++
      (if columnInfo.defaultValue ≠ "" then " DEFAULT " ++ columnInfo.defaultValue else ""))

def referenceSql (databaseInfo : DatabaseInfo) (tableName : String)
    (columnInfo : ColumnInfo) : Option String :=
  if columnInfo.primaryKey then none
  else
    (databaseInfo.foreignKeyManager.getForeignReferenceOfField
      ⟨tableName, columnInfo.columnName⟩).map (fun parent =>
        "CONSTRAINT fk_" ++ tableName ++ "_" ++ columnInfo.columnName ++ " FOREIGN KEY(" ++
          columnInfo.columnName ++ ") REFERENCES " ++ parent.tableName ++ "(" ++
            parent.columnName ++ ") ON DELETE CASCADE")

def constraintName (name : String) : String :=
  if name ≠ "" then "CONSTRAINT " ++ name ++ " " else ""

def uniqueSql (tableUniqueValues : TableUniqueValues) : String :=
  constraintName tableUniqueValues.name ++ "UNIQUE (" ++
    String.intercalate ", " tableUniqueValues.columns ++ ")"

def checkSql (tableCheckConstraint : TableCheckConstraint) : String :=
  constraintName tableCheckConstraint.name ++ "CHECK (" ++
    tableCheckConstraint.expression ++ ")"

def generateCreateTableSql (ifNotExistsMode : Bool) (databaseInfo : DatabaseInfo)
    (tableName : String) : Except Exn String := do
  let tableInfo ← databaseInfo.getTableInfo tableName
  pure ((if ifNotExistsMode then "CREATE TABLE IF NOT EXISTS " else "CREATE TABLE ") ++
    tableName ++ " (" ++
      String.intercalate ", " (tableInfo.columnInfoList.map fieldSql ++
        (tableInfo.columnInfoList.filterMap (referenceSql databaseInfo tableName) ++
          (tableInfo.tableUniqueValuesArray.map uniqueSql ++
            tableInfo.tableCheckConstraintArray.map checkSql))) ++ ")")

/-!
# The parts
-/

inductive FieldClause where
  | primaryKey
  | unique
  | notNull
  | default (value : String)
  deriving Repr, DecidableEq

structure Field where
  columnName : String
  sqlType : String
  clauses : List FieldClause
  deriving Repr, DecidableEq

structure ForeignKey where
  columnName : String
  parent : TableColumnPair
  deriving Repr, DecidableEq

structure CreateTable where
  ifNotExists : Bool
  tableName : String
  fields : List Field
  foreignKeys : List ForeignKey
  uniques : List TableUniqueValues
  checks : List TableCheckConstraint
  deriving Repr, DecidableEq

def FieldClause.toSql : FieldClause -> String
  | .primaryKey => " PRIMARY KEY"
  | .unique => " UNIQUE"
  | .notNull => " NOT NULL"
  | .default value => " DEFAULT " ++ value

def Field.toSql (field : Field) : String :=
  field.columnName ++ " " ++ field.sqlType ++
    String.join (field.clauses.map FieldClause.toSql)

def ForeignKey.toSql (tableName : String) (foreignKey : ForeignKey) : String :=
  "CONSTRAINT fk_" ++ tableName ++ "_" ++ foreignKey.columnName ++ " FOREIGN KEY(" ++
    foreignKey.columnName ++ ") REFERENCES " ++ foreignKey.parent.tableName ++ "(" ++
      foreignKey.parent.columnName ++ ") ON DELETE CASCADE"

def CreateTable.toSql (stmt : CreateTable) : String :=
  (if stmt.ifNotExists then "CREATE TABLE IF NOT EXISTS " else "CREATE TABLE ") ++
    stmt.tableName ++ " (" ++
      String.intercalate ", " (stmt.fields.map Field.toSql ++
        (stmt.foreignKeys.map (ForeignKey.toSql stmt.tableName) ++
          (stmt.uniques.map uniqueSql ++ stmt.checks.map checkSql))) ++ ")"

def defaultClauses (columnInfo : ColumnInfo) : List FieldClause :=
  if columnInfo.defaultValue ≠ "" then [.default columnInfo.defaultValue] else []

def fieldClauses (columnInfo : ColumnInfo) : List FieldClause :=
  if columnInfo.primaryKey then [.primaryKey]
  else
    (if columnInfo.unique then [.unique]
    else if !columnInfo.nullable then [.notNull]
    else []) ++ defaultClauses columnInfo

def fieldOf (columnInfo : ColumnInfo) : Field where
  columnName := columnInfo.columnName
  sqlType := columnInfo.databaseType.sqlType
  clauses := fieldClauses columnInfo

def referenceOf (databaseInfo : DatabaseInfo) (tableName : String)
    (columnInfo : ColumnInfo) : Option ForeignKey :=
  (databaseInfo.foreignKeyManager.getForeignReferenceOfField
    ⟨tableName, columnInfo.columnName⟩).map (fun parent => ⟨columnInfo.columnName, parent⟩)

def writtenReference (databaseInfo : DatabaseInfo) (tableName : String)
    (columnInfo : ColumnInfo) : Option ForeignKey :=
  if columnInfo.primaryKey then none else referenceOf databaseInfo tableName columnInfo

def createTableOf (ifNotExistsMode : Bool) (databaseInfo : DatabaseInfo)
    (tableInfo : TableInfo) : CreateTable where
  ifNotExists := ifNotExistsMode
  tableName := tableInfo.tableName
  fields := tableInfo.columnInfoList.map fieldOf
  foreignKeys :=
    tableInfo.columnInfoList.filterMap (writtenReference databaseInfo tableInfo.tableName)
  uniques := tableInfo.tableUniqueValuesArray
  checks := tableInfo.tableCheckConstraintArray

theorem fieldSql_eq (columnInfo : ColumnInfo) :
    fieldSql columnInfo = (fieldOf columnInfo).toSql := by
  unfold fieldSql Field.toSql fieldOf fieldClauses defaultClauses
  split
  · simp [FieldClause.toSql]
  · split
    · split
      · simp [FieldClause.toSql, String.append_assoc]
      · simp [FieldClause.toSql]
    · split
      · split
        · simp [FieldClause.toSql, String.append_assoc]
        · simp [FieldClause.toSql]
      · split
        · simp [FieldClause.toSql]
        · simp

theorem referenceSql_eq (databaseInfo : DatabaseInfo) (tableName : String)
    (columnInfo : ColumnInfo) :
    referenceSql databaseInfo tableName columnInfo =
      (writtenReference databaseInfo tableName columnInfo).map (ForeignKey.toSql tableName) := by
  unfold referenceSql writtenReference referenceOf
  split
  · rfl
  · rw [Option.map_map]
    rfl

theorem getTableInfo_of_mem {databaseInfo : DatabaseInfo} {tableInfo : TableInfo}
    (h : tableInfo ∈ databaseInfo.tableInfoList) :
    databaseInfo.getTableInfo tableInfo.tableName = .ok tableInfo := by
  unfold DatabaseInfo.getTableInfo
  cases hfind : databaseInfo.tableInfoList.find?
      (fun other => decide (other.tableName = tableInfo.tableName)) with
  | none =>
      have hnot := List.find?_eq_none.mp hfind tableInfo h
      simp at hnot
  | some other =>
      have hother : other ∈ databaseInfo.tableInfoList := List.mem_of_find?_eq_some hfind
      have hname : other.tableName = tableInfo.tableName := by
        simpa using List.find?_some hfind
      have heq : other = tableInfo :=
        List.inj_on_of_nodup_map databaseInfo.distinct hother h hname
      rw [heq]

theorem generateCreateTableSql_eq {databaseInfo : DatabaseInfo} {tableInfo : TableInfo}
    (h : tableInfo ∈ databaseInfo.tableInfoList) (ifNotExistsMode : Bool) :
    generateCreateTableSql ifNotExistsMode databaseInfo tableInfo.tableName =
      .ok (createTableOf ifNotExistsMode databaseInfo tableInfo).toSql := by
  have hfields : tableInfo.columnInfoList.map fieldSql =
      (tableInfo.columnInfoList.map fieldOf).map Field.toSql := by
    rw [List.map_map]
    exact List.map_congr_left (fun columnInfo _ => fieldSql_eq columnInfo)
  have hreferences :
      tableInfo.columnInfoList.filterMap (referenceSql databaseInfo tableInfo.tableName) =
        (tableInfo.columnInfoList.filterMap
          (writtenReference databaseInfo tableInfo.tableName)).map
            (ForeignKey.toSql tableInfo.tableName) := by
    rw [List.map_filterMap]
    exact List.filterMap_congr (fun columnInfo _ => referenceSql_eq _ _ columnInfo)
  unfold generateCreateTableSql
  simp only [getTableInfo_of_mem h, bind, Except.bind, pure, Except.pure]
  rw [hfields, hreferences]
  rfl

/-!
# What the statement says of the schema
-/

def FieldClause.default? : FieldClause -> Option String
  | .default value => some value
  | _ => none

/-- The field has every property of its column, and each of them once. -/
structure FieldReproduces (columnInfo : ColumnInfo) (field : Field) : Prop where
  columnName : field.columnName = columnInfo.columnName
  sqlType : field.sqlType = columnInfo.databaseType.sqlType
  primaryKey : field.clauses.count .primaryKey = if columnInfo.primaryKey then 1 else 0
  unique : field.clauses.count .unique = if columnInfo.unique then 1 else 0
  default : field.clauses.filterMap FieldClause.default? =
    if columnInfo.defaultValue ≠ "" then [columnInfo.defaultValue] else []
  required : columnInfo.nullable = false ->
    .notNull ∈ field.clauses ∨ .primaryKey ∈ field.clauses
  nullable : columnInfo.nullable = true -> .notNull ∉ field.clauses

/-- The statement has all columns, foreign keys and constraints of its table. -/
structure Reproduces (databaseInfo : DatabaseInfo) (tableInfo : TableInfo)
    (stmt : CreateTable) : Prop where
  fields : List.Forall₂ FieldReproduces tableInfo.columnInfoList stmt.fields
  foreignKeys : stmt.foreignKeys =
    tableInfo.columnInfoList.filterMap (referenceOf databaseInfo tableInfo.tableName)
  uniques : stmt.uniques = tableInfo.tableUniqueValuesArray
  checks : stmt.checks = tableInfo.tableCheckConstraintArray

/-- A primary key is nothing else, and a unique column may be null. -/
structure OneClause (databaseInfo : DatabaseInfo) (tableName : String)
    (columnInfo : ColumnInfo) : Prop where
  ofPrimaryKey : columnInfo.primaryKey = true -> columnInfo.unique = false ∧
    columnInfo.defaultValue = "" ∧ referenceOf databaseInfo tableName columnInfo = none
  ofUnique : columnInfo.primaryKey = false -> columnInfo.unique = true ->
    columnInfo.nullable = true

@[simp] theorem mem_defaultClauses {columnInfo : ColumnInfo} {clause : FieldClause} :
    clause ∈ defaultClauses columnInfo <->
      columnInfo.defaultValue ≠ "" ∧ clause = .default columnInfo.defaultValue := by
  unfold defaultClauses
  split
  · simp_all
  · simp_all

theorem count_defaultClauses (columnInfo : ColumnInfo) (clause : FieldClause)
    (h : clause.default? = none) : (defaultClauses columnInfo).count clause = 0 := by
  rw [List.count_eq_zero, mem_defaultClauses]
  intro hmem
  rw [hmem.2] at h
  cases h

@[simp] theorem default_defaultClauses (columnInfo : ColumnInfo) :
    (defaultClauses columnInfo).filterMap FieldClause.default? =
      if columnInfo.defaultValue ≠ "" then [columnInfo.defaultValue] else [] := by
  unfold defaultClauses
  split
  · rfl
  · rfl

theorem fieldReproduces_clause {columnInfo : ColumnInfo} (first : List FieldClause)
    (hclauses : fieldClauses columnInfo = first ++ defaultClauses columnInfo)
    (hprimary : first.count .primaryKey = if columnInfo.primaryKey then 1 else 0)
    (hunique : first.count .unique = if columnInfo.unique then 1 else 0)
    (hdefault : first.filterMap FieldClause.default? = [])
    (hnull : columnInfo.nullable = true <-> .notNull ∉ first) :
    FieldReproduces columnInfo (fieldOf columnInfo) := by
  constructor
  · rfl
  · rfl
  · have hrest := count_defaultClauses columnInfo .primaryKey rfl
    simp [fieldOf, hclauses, hprimary, hrest]
  · have hrest := count_defaultClauses columnInfo .unique rfl
    simp [fieldOf, hclauses, hunique, hrest]
  · simp [fieldOf, hclauses, hdefault]
  · intro hnullable
    have hmem : FieldClause.notNull ∈ first := by
      by_contra hnot
      rw [hnull.mpr hnot] at hnullable
      cases hnullable
    exact Or.inl (by simp [fieldOf, hclauses, hmem])
  · intro hnullable
    simp [fieldOf, hclauses, hnull.mp hnullable]

theorem fieldReproduces_iff (columnInfo : ColumnInfo) :
    FieldReproduces columnInfo (fieldOf columnInfo) <->
      (columnInfo.primaryKey = true -> columnInfo.unique = false ∧
        columnInfo.defaultValue = "") ∧
      (columnInfo.primaryKey = false -> columnInfo.unique = true ->
        columnInfo.nullable = true) := by
  constructor
  · intro h
    constructor
    · intro hprimary
      have hclauses : (fieldOf columnInfo).clauses = [.primaryKey] := by
        simp [fieldOf, fieldClauses, hprimary]
      have hunique := h.unique
      have hdefault := h.default
      rw [hclauses] at hunique hdefault
      constructor
      · by_contra hnot
        simp [hnot] at hunique
      · by_contra hnot
        rw [if_pos hnot] at hdefault
        cases hdefault
    · intro hprimary hunique
      by_contra hnullable
      have hclauses : (fieldOf columnInfo).clauses = .unique :: defaultClauses columnInfo := by
        simp [fieldOf, fieldClauses, hprimary, hunique]
      have hrequired := h.required (by simpa using hnullable)
      rw [hclauses] at hrequired
      simp at hrequired
  · intro h
    cases hprimary : columnInfo.primaryKey with
    | true =>
        rcases h.1 hprimary with ⟨hunique, hdefault⟩
        constructor
        · rfl
        · rfl
        · simp [fieldOf, fieldClauses, hprimary]
        · simp [fieldOf, fieldClauses, hprimary, hunique]
        · simp [fieldOf, fieldClauses, hprimary, hdefault, FieldClause.default?]
        · intro _
          exact Or.inr (by simp [fieldOf, fieldClauses, hprimary])
        · intro _
          simp [fieldOf, fieldClauses, hprimary]
    | false =>
        cases hunique : columnInfo.unique with
        | true =>
            refine fieldReproduces_clause [.unique] ?_ ?_ ?_ ?_ ?_
            · simp [fieldClauses, hprimary, hunique]
            · simp [hprimary]
            · simp [hunique]
            · rfl
            · simp [h.2 hprimary hunique]
        | false =>
            cases hnull : columnInfo.nullable with
            | true =>
                refine fieldReproduces_clause [] ?_ ?_ ?_ ?_ ?_
                · simp [fieldClauses, hprimary, hunique, hnull]
                · simp [hprimary]
                · simp [hunique]
                · rfl
                · simp [hnull]
            | false =>
                refine fieldReproduces_clause [.notNull] ?_ ?_ ?_ ?_ ?_
                · simp [fieldClauses, hprimary, hunique, hnull]
                · simp [hprimary]
                · simp [hunique]
                · rfl
                · simp [hnull]

theorem length_filterMap_le {a b : Type} {f g : a -> Option b} {l : List a}
    (h : forall x, x ∈ l -> f x = none ∨ f x = g x) :
    (l.filterMap f).length ≤ (l.filterMap g).length := by
  induction l with
  | nil => exact Nat.le_refl _
  | cons x rest ih =>
      have hrest := ih (fun y hy => h y (List.mem_cons_of_mem x hy))
      rw [List.filterMap_cons, List.filterMap_cons]
      rcases h x (by simp) with hnone | hsame
      · rw [hnone]
        cases g x with
        | none => exact hrest
        | some v => exact Nat.le_succ_of_le hrest
      · rw [hsame]
        cases g x with
        | none => exact hrest
        | some v => exact Nat.succ_le_succ hrest

theorem filterMap_eq_iff {a b : Type} {f g : a -> Option b} {l : List a}
    (h : forall x, x ∈ l -> f x = none ∨ f x = g x) :
    l.filterMap f = l.filterMap g <-> forall x, x ∈ l -> f x = g x := by
  constructor
  · induction l with
    | nil => simp
    | cons x rest ih =>
        intro heq
        have hrest : forall y, y ∈ rest -> f y = none ∨ f y = g y :=
          fun y hy => h y (List.mem_cons_of_mem x hy)
        have hfewer := length_filterMap_le hrest
        have hx : f x = g x := by
          rcases h x (by simp) with hnone | hsame
          · cases hg : g x with
            | none => exact hnone
            | some v =>
                have hlength := congrArg List.length heq
                rw [List.filterMap_cons, hnone, List.filterMap_cons, hg] at hlength
                simp only [List.length_cons] at hlength
                omega
          · exact hsame
        have htail : rest.filterMap f = rest.filterMap g := by
          rw [List.filterMap_cons, List.filterMap_cons, hx] at heq
          cases hg : g x with
          | none =>
              rw [hg] at heq
              exact heq
          | some v =>
              rw [hg] at heq
              exact (List.cons.inj heq).2
        intro y hy
        rcases List.mem_cons.mp hy with hhere | hlater
        · rw [hhere]
          exact hx
        · exact ih hrest htail y hlater
  · intro hall
    exact List.filterMap_congr hall

theorem writtenReference_eq_iff (databaseInfo : DatabaseInfo) (tableName : String)
    (columnInfo : ColumnInfo) :
    writtenReference databaseInfo tableName columnInfo =
        referenceOf databaseInfo tableName columnInfo <->
      (columnInfo.primaryKey = true -> referenceOf databaseInfo tableName columnInfo = none) := by
  unfold writtenReference
  cases columnInfo.primaryKey with
  | true => simp [eq_comm]
  | false => simp

theorem reproduces_iff (ifNotExistsMode : Bool) (databaseInfo : DatabaseInfo)
    (tableInfo : TableInfo) :
    Reproduces databaseInfo tableInfo (createTableOf ifNotExistsMode databaseInfo tableInfo) <->
      forall columnInfo, columnInfo ∈ tableInfo.columnInfoList ->
        OneClause databaseInfo tableInfo.tableName columnInfo := by
  have hfields : List.Forall₂ FieldReproduces tableInfo.columnInfoList
      (tableInfo.columnInfoList.map fieldOf) <->
        forall columnInfo, columnInfo ∈ tableInfo.columnInfoList ->
          FieldReproduces columnInfo (fieldOf columnInfo) := by
    rw [List.forall₂_map_right_iff, List.forall₂_same]
  have hreferences : tableInfo.columnInfoList.filterMap
      (writtenReference databaseInfo tableInfo.tableName) =
        tableInfo.columnInfoList.filterMap (referenceOf databaseInfo tableInfo.tableName) <->
          forall columnInfo, columnInfo ∈ tableInfo.columnInfoList ->
            (columnInfo.primaryKey = true ->
              referenceOf databaseInfo tableInfo.tableName columnInfo = none) := by
    rw [filterMap_eq_iff]
    · simp only [writtenReference_eq_iff]
    · intro columnInfo _
      unfold writtenReference
      cases columnInfo.primaryKey with
      | true => exact Or.inl rfl
      | false => exact Or.inr rfl
  constructor
  · intro h columnInfo hmem
    have hfield := (fieldReproduces_iff columnInfo).mp (hfields.mp h.fields columnInfo hmem)
    constructor
    · intro hprimary
      have hothers := hfield.1 hprimary
      exact ⟨hothers.1, hothers.2, hreferences.mp h.foreignKeys columnInfo hmem hprimary⟩
    · exact hfield.2
  · intro h
    constructor
    · refine hfields.mpr (fun columnInfo hmem => (fieldReproduces_iff columnInfo).mpr ?_)
      constructor
      · intro hprimary
        have hothers := (h columnInfo hmem).ofPrimaryKey hprimary
        exact ⟨hothers.1, hothers.2.1⟩
      · exact (h columnInfo hmem).ofUnique
    · exact hreferences.mpr (fun columnInfo hmem hprimary =>
        ((h columnInfo hmem).ofPrimaryKey hprimary).2.2)
    · rfl
    · rfl

theorem generateCreateTableSql_reproduces_iff (ifNotExistsMode : Bool)
    (databaseInfo : DatabaseInfo) :
    (forall tableInfo, tableInfo ∈ databaseInfo.tableInfoList -> exists stmt,
      stmt = createTableOf ifNotExistsMode databaseInfo tableInfo ∧
        generateCreateTableSql ifNotExistsMode databaseInfo tableInfo.tableName =
          .ok stmt.toSql ∧
        Reproduces databaseInfo tableInfo stmt) <->
      forall tableInfo, tableInfo ∈ databaseInfo.tableInfoList ->
        forall columnInfo, columnInfo ∈ tableInfo.columnInfoList ->
          OneClause databaseInfo tableInfo.tableName columnInfo := by
  constructor
  · intro h tableInfo hmem
    rcases h tableInfo hmem with ⟨stmt, hstmt, _, hreproduces⟩
    rw [hstmt] at hreproduces
    exact (reproduces_iff ifNotExistsMode databaseInfo tableInfo).mp hreproduces
  · intro h tableInfo hmem
    exact ⟨_, rfl, generateCreateTableSql_eq hmem ifNotExistsMode,
      (reproduces_iff ifNotExistsMode databaseInfo tableInfo).mpr (h tableInfo hmem)⟩

/-- `source_key` of `site_font_sources`: unique, and declared without a null. -/
def siteFontSources : DatabaseInfo :=
  ((do
    DatabaseInfo.addTable "site_font_sources"
    DatabaseInfo.addColumnPrimaryKey "site_font_sources" "site_font_source_id" .bigserial
    DatabaseInfo.addColumnUnique "site_font_sources" "source_key" .string :
      Control.Work DatabaseInfo Exn Unit) (DatabaseInfo.empty "site")).2

theorem generateCreateTableSql_uniqueNull :
    generateCreateTableSql false siteFontSources "site_font_sources" =
      .ok ("CREATE TABLE site_font_sources (site_font_source_id BIGSERIAL PRIMARY KEY, " ++
        "source_key VARCHAR UNIQUE)") ∧
    Not (forall tableInfo, tableInfo ∈ siteFontSources.tableInfoList ->
      Reproduces siteFontSources tableInfo (createTableOf false siteFontSources tableInfo)) := by
  constructor
  · decide
  · intro h
    have hcolumn : exists tableInfo, tableInfo ∈ siteFontSources.tableInfoList ∧
        exists columnInfo, columnInfo ∈ tableInfo.columnInfoList ∧
          columnInfo.primaryKey = false ∧ columnInfo.unique = true ∧
            columnInfo.nullable = false := by
      decide
    rcases hcolumn with ⟨tableInfo, htable, columnInfo, hmem, hprimary, hunique, hnullable⟩
    have hclause := (reproduces_iff _ _ _).mp (h tableInfo htable) columnInfo hmem
    have hnull := hclause.ofUnique hprimary hunique
    rw [hnullable] at hnull
    cases hnull

end DbSchema
end ServerComponents
