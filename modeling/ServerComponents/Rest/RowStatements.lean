import ServerComponents.Auth.UserInfo
import ServerComponents.Rest.Writes

/-!
# The statements of row writes

How `DbCrud` turns a table of values into an `INSERT` or an `UPDATE`.  A value that
equals an allowed keyword is written into the text of the statement, whichever column
it is for; every other value is a parameter.
-/

namespace ServerComponents
namespace Rest

open Relational

/-- A value in the text of a statement: a keyword, or the parameter `$n`. -/
inductive SqlValue where
  | keyword (text : String)
  | param (number : Nat)
  deriving Repr, DecidableEq

def SqlValue.text : SqlValue -> String
  | .keyword text => text
  | .param number => "$" ++ toString number

structure ExecParamsHelper where
  params : List String
  deriving Repr, DecidableEq

def ExecParamsHelper.addParam (helper : ExecParamsHelper) (param : String) :
    SqlValue × ExecParamsHelper :=
  (.param (helper.params.length + 1), ⟨helper.params ++ [param]⟩)

inductive RowKind where
  | insert (returning : Option String)
  | update (columnName : String) (lookup : SqlValue)
  deriving Repr, DecidableEq

structure RowStatement where
  tableName : String
  kind : RowKind
  columns : List String
  values : List SqlValue
  params : List String
  deriving Repr, DecidableEq

def RowStatement.assignments (stmt : RowStatement) : List (String × SqlValue) :=
  stmt.columns.zip stmt.values

def stringArrayToCommaSeparatedString (stringArray : List String) : String :=
  ", ".intercalate stringArray

def RowStatement.sql (stmt : RowStatement) : String :=
  let columns := stringArrayToCommaSeparatedString stmt.columns
  let values := stringArrayToCommaSeparatedString (stmt.values.map SqlValue.text)
  match stmt.kind with
  | .insert none =>
      "INSERT INTO " ++ stmt.tableName ++ " (" ++ columns ++ ") VALUES (" ++ values ++ ")"
  | .insert (some primaryKey) =>
      "INSERT INTO " ++ stmt.tableName ++ " (" ++ columns ++ ") VALUES (" ++ values ++
        ") RETURNING " ++ primaryKey
  | .update columnName lookup =>
      "UPDATE " ++ stmt.tableName ++ " SET (" ++ columns ++ ") = ROW(" ++ values ++
        ") WHERE " ++ columnName ++ " = " ++ lookup.text

namespace DbCrud

/-- Every value is compared with the keywords, for all columns at once. -/
def generateInsertParams (allowedSqlKeywords : List String) :
    List (String × String) -> ExecParamsHelper -> List SqlValue × ExecParamsHelper
  | [], helper => ([], helper)
  | e :: rest, helper =>
      if e.2 ∈ allowedSqlKeywords then
        let (values, helper') := generateInsertParams allowedSqlKeywords rest helper
        (.keyword e.2 :: values, helper')
      else
        let (value, helper') := helper.addParam e.2
        let (values, helper'') := generateInsertParams allowedSqlKeywords rest helper'
        (value :: values, helper'')

def generateInsertColumnNames (table : KeyValueTable) : List String :=
  table.keys.map escSqlName

variable (s : Schema)

def generateAddRowToTableSql (tableName : String) (table : KeyValueTable)
    (allowedSqlKeywords : List String) : Except Exn RowStatement := do
  let columns ← DbMeta.listColumns s tableName
  checkKeysInTable table columns
  let (values, helper) := generateInsertParams allowedSqlKeywords table.entries ⟨[]⟩
  pure
    { tableName := escSqlName tableName, kind := .insert none
      columns := generateInsertColumnNames table, values := values, params := helper.params }

def generateAddRowToTableFetchIntPrimaryKeySql (tableName : String) (table : KeyValueTable)
    (allowedSqlKeywords : List String) : Except Exn RowStatement := do
  let columns ← DbMeta.listColumns s tableName
  checkKeysInTable table columns
  let (values, helper) := generateInsertParams allowedSqlKeywords table.entries ⟨[]⟩
  let primaryKey ← primaryKeyOf (s := s) tableName
  pure
    { tableName := escSqlName tableName, kind := .insert (some primaryKey)
      columns := generateInsertColumnNames table, values := values, params := helper.params }

/-- The value that finds the row is the first parameter. -/
def generateUpdateRowSql (tableName columnName columnValue : String) (table : KeyValueTable)
    (allowedSqlKeywords : List String) : Except Exn RowStatement := do
  let columns ← DbMeta.listColumns s tableName
  checkKeysInTable table columns
  lookupDatabaseColumnInfoByColumnName columns columnName
  let (param, helper) := (ExecParamsHelper.mk []).addParam columnValue
  let (values, helper') := generateInsertParams allowedSqlKeywords table.entries helper
  pure
    { tableName := escSqlName tableName, kind := .update (escSqlName columnName) param
      columns := generateInsertColumnNames table, values := values, params := helper'.params }

end DbCrud

open Auth in
def updatePersonSql (s : Schema) (personId : Int) (keyValueTable : KeyValueTable) :
    Except Exn RowStatement :=
  if keyValueTable.entries.all (fun e => People.allowedFields.contains e.1) then
    DbCrud.generateUpdateRowSql s "people" "id" (toString personId)
      (keyValueTable.set "updated_at" DbSchema.kDatabaseInfoDefaultNow)
      [DbSchema.kDatabaseInfoDefaultNow]
  else .error (.runtimeError "People::UpdatePerson - key not allowed")

inductive RowWrite where
  | updatePerson (personId : Int) (keyValueTable : KeyValueTable)
  | addRowToTable (tableName : String) (table : KeyValueTable)
      (allowedSqlKeywords : List String)
  | addRowToTableFetchPrimaryKey (tableName : String) (table : KeyValueTable)
      (allowedSqlKeywords : List String)
  | updateRow (tableName columnName columnValue : String) (table : KeyValueTable)
      (allowedSqlKeywords : List String)

namespace RowWrite

def statement (s : Schema) : RowWrite -> Except Exn RowStatement
  | updatePerson personId keyValueTable => updatePersonSql s personId keyValueTable
  | addRowToTable tableName table keywords =>
      DbCrud.generateAddRowToTableSql s tableName table keywords
  | addRowToTableFetchPrimaryKey tableName table keywords =>
      DbCrud.generateAddRowToTableFetchIntPrimaryKeySql s tableName table keywords
  | updateRow tableName columnName columnValue table keywords =>
      DbCrud.generateUpdateRowSql s tableName columnName columnValue table keywords

def callerValues : RowWrite -> KeyValueTable
  | updatePerson _ keyValueTable => keyValueTable
  | addRowToTable _ table _ => table
  | addRowToTableFetchPrimaryKey _ table _ => table
  | updateRow _ _ _ table _ => table

def keywords : RowWrite -> List String
  | updatePerson _ _ => [Auth.DbSchema.kDatabaseInfoDefaultNow]
  | addRowToTable _ _ keywords => keywords
  | addRowToTableFetchPrimaryKey _ _ keywords => keywords
  | updateRow _ _ _ _ keywords => keywords

/-- The columns for which the program itself asks for a keyword. -/
def requested : RowWrite -> List String
  | updatePerson _ _ => ["updated_at"]
  | _ => []

end RowWrite

/-- Every value of the caller is the parameter of its column, and a keyword stands only
where the program asked for it. -/
structure LiteralStorage (stmt : RowStatement) (callerValues : KeyValueTable)
    (requested : List String) : Prop where
  bound : forall e, e ∈ callerValues.entries -> exists n, stmt.params[n]? = some e.2 ∧
    forall value, (e.1, value) ∈ stmt.assignments <-> value = .param (n + 1)
  keywords : forall column text, (column, .keyword text) ∈ stmt.assignments ->
    column ∈ requested

/-!
# What is assigned
-/

section Assignments

variable {keywords : List String}

def Assigns (keywords params : List String) (e : String × String) (value : SqlValue) : Prop :=
  if e.2 ∈ keywords then value = .keyword e.2
  else exists n, value = .param (n + 1) ∧ params[n]? = some e.2

theorem Assigns.keyword {params : List String} {e : String × String} {value : SqlValue}
    (h : Assigns keywords params e value) (he : e.2 ∈ keywords) : value = .keyword e.2 := by
  rwa [Assigns, if_pos he] at h

theorem Assigns.param {params : List String} {e : String × String} {value : SqlValue}
    (h : Assigns keywords params e value) (he : e.2 ∉ keywords) :
    exists n, value = .param (n + 1) ∧ params[n]? = some e.2 := by
  rwa [Assigns, if_neg he] at h

theorem generateInsertParams_spec (entries : List (String × String))
    (helper : ExecParamsHelper) :
    helper.params <+: (DbCrud.generateInsertParams keywords entries helper).2.params ∧
      List.Forall₂
        (Assigns keywords (DbCrud.generateInsertParams keywords entries helper).2.params)
        entries (DbCrud.generateInsertParams keywords entries helper).1 := by
  induction entries generalizing helper with
  | nil => exact ⟨List.prefix_refl _, List.Forall₂.nil⟩
  | cons e rest ih =>
      rw [DbCrud.generateInsertParams]
      split
      · rename_i hkeyword
        refine ⟨(ih helper).1, List.Forall₂.cons ?_ (ih helper).2⟩
        rw [Assigns, if_pos hkeyword]
      · rename_i hkeyword
        have hrest := ih (helper.addParam e.2).2
        refine ⟨(List.prefix_append _ _).trans hrest.1, List.Forall₂.cons ?_ hrest.2⟩
        rw [Assigns, if_neg hkeyword]
        refine ⟨helper.params.length, rfl, ?_⟩
        rcases hrest.1 with ⟨later, hlater⟩
        rw [← hlater, List.getElem?_append_left (by simp [ExecParamsHelper.addParam])]
        simp [ExecParamsHelper.addParam]

theorem mem_zip_assigns {params : List String} {entries : List (String × String)}
    {values : List SqlValue} (h : List.Forall₂ (Assigns keywords params) entries values) :
    (forall column value, (column, value) ∈ (entries.map Prod.fst).zip values ->
        exists e, e ∈ entries ∧ e.1 = column ∧ Assigns keywords params e value) ∧
      (forall e, e ∈ entries -> exists value,
        (e.1, value) ∈ (entries.map Prod.fst).zip values ∧ Assigns keywords params e value) := by
  induction h with
  | nil => simp
  | cons hfirst hrest ih =>
      rename_i e value rest values
      constructor
      · intro column value' hmem
        rw [List.map_cons, List.zip_cons_cons] at hmem
        rcases List.mem_cons.mp hmem with h | h
        · cases h
          exact ⟨e, by simp, rfl, hfirst⟩
        · rcases ih.1 column value' h with ⟨e', he', hcolumn, hassigns⟩
          exact ⟨e', List.mem_cons_of_mem e he', hcolumn, hassigns⟩
      · intro e' he'
        rw [List.map_cons, List.zip_cons_cons]
        rcases List.mem_cons.mp he' with h | h
        · rw [h]
          exact ⟨value, by simp, hfirst⟩
        · rcases ih.2 e' h with ⟨value', hmem, hassigns⟩
          exact ⟨value', List.mem_cons_of_mem _ hmem, hassigns⟩

theorem zip_unique {columns : List String} {values : List SqlValue} (h : columns.Nodup)
    {column : String} {value value' : SqlValue} (hvalue : (column, value) ∈ columns.zip values)
    (hvalue' : (column, value') ∈ columns.zip values) : value = value' := by
  induction columns generalizing values with
  | nil => cases hvalue
  | cons c columns ih =>
      cases values with
      | nil => cases hvalue
      | cons v values =>
          rw [List.nodup_cons] at h
          rw [List.zip_cons_cons, List.mem_cons] at hvalue hvalue'
          have hnot : forall w, column = c -> (column, w) ∉ columns.zip values := by
            intro w heq hmem
            exact h.1 (heq ▸ (List.of_mem_zip hmem).1)
          rcases hvalue with h1 | h1 <;> rcases hvalue' with h2 | h2
          · cases h1
            cases h2
            rfl
          · cases h1
            exact absurd h2 (hnot value' rfl)
          · cases h2
            exact absurd h1 (hnot value rfl)
          · exact ih h.2 h1 h2

end Assignments

/-!
# The statements of the operations
-/

section Statements

variable {s : Schema} {stmt : RowStatement} {keywords : List String}

theorem listColumns_folded {tableName c : String} {columns : List String}
    (h : DbMeta.listColumns s tableName = .ok columns) (hc : c ∈ columns) :
    escSqlName c = c := by
  unfold DbMeta.listColumns sqlTable at h
  cases hfind : s.find? (escSqlName tableName) with
  | none =>
      rw [hfind] at h
      cases h
  | some t =>
      simp only [hfind, bind, Except.bind, pure, Except.pure] at h
      cases h
      split at hc
      · exact (s.folded t (Schema.find?_some hfind).1).2 c hc
      · cases hc

variable {table : KeyValueTable}

theorem checkKeysInTable_ok {columns : List String} {u : Unit}
    (h : DbCrud.checkKeysInTable table columns = .ok u) {key : String}
    (hkey : key ∈ table.keys) : key ∈ columns := by
  unfold DbCrud.checkKeysInTable at h
  generalize table.keys = keys at h hkey
  induction keys with
  | nil => cases hkey
  | cons first rest ih =>
      by_cases hfirst : first ∈ columns
      · simp only [List.forM, hfirst, if_true, bind, Except.bind] at h
        rcases List.mem_cons.mp hkey with heq | hmem
        · rw [heq]
          exact hfirst
        · exact ih h hmem
      · simp only [List.forM, hfirst, if_false, bind, Except.bind] at h
        cases h

/-- The statement writes the entries of this table. -/
structure WritesTable (stmt : RowStatement) (keywords : List String)
    (table : KeyValueTable) : Prop where
  columns : stmt.columns = table.keys
  values : List.Forall₂ (Assigns keywords stmt.params) table.entries stmt.values

theorem columnNames_eq {tableName : String} {columns : List String}
    {u : Unit} (hcolumns : DbMeta.listColumns s tableName = .ok columns)
    (hkeys : DbCrud.checkKeysInTable table columns = .ok u) :
    DbCrud.generateInsertColumnNames table = table.keys := by
  unfold DbCrud.generateInsertColumnNames
  calc
    table.keys.map escSqlName = table.keys.map id := by
      apply List.map_congr_left
      intro key hkey
      exact listColumns_folded hcolumns (checkKeysInTable_ok hkeys hkey)
    _ = table.keys := List.map_id _

theorem writesTable_insert {tableName : String}
    (h : DbCrud.generateAddRowToTableSql s tableName table keywords = .ok stmt) :
    WritesTable stmt keywords table := by
  rcases exceptBind_ok h with ⟨columns, hcolumns, hrest⟩
  rcases exceptBind_ok hrest with ⟨u, hkeys, hstmt⟩
  cases hstmt
  exact ⟨columnNames_eq hcolumns hkeys, (generateInsertParams_spec _ _).2⟩

theorem writesTable_insertFetch {tableName : String}
    (h : DbCrud.generateAddRowToTableFetchIntPrimaryKeySql s tableName table keywords =
      .ok stmt) : WritesTable stmt keywords table := by
  rcases exceptBind_ok h with ⟨columns, hcolumns, hrest⟩
  rcases exceptBind_ok hrest with ⟨u, hkeys, hprimary⟩
  rcases exceptBind_ok hprimary with ⟨primaryKey, _, hstmt⟩
  cases hstmt
  exact ⟨columnNames_eq hcolumns hkeys, (generateInsertParams_spec _ _).2⟩

theorem writesTable_update {tableName columnName columnValue : String}
    (h : DbCrud.generateUpdateRowSql s tableName columnName columnValue table keywords =
      .ok stmt) : WritesTable stmt keywords table := by
  rcases exceptBind_ok h with ⟨columns, hcolumns, hrest⟩
  rcases exceptBind_ok hrest with ⟨u, hkeys, hlookup⟩
  rcases exceptBind_ok hlookup with ⟨u', _, hstmt⟩
  cases hstmt
  exact ⟨columnNames_eq hcolumns hkeys, (generateInsertParams_spec _ _).2⟩

theorem writesTable_statement {write : RowWrite} (h : write.statement s = .ok stmt) :
    exists table, WritesTable stmt write.keywords table ∧
      (forall e, e ∈ write.callerValues.entries -> e ∈ table.entries) ∧
      forall e, e ∈ table.entries ->
        e ∈ write.callerValues.entries ∨ e.1 ∈ write.requested := by
  cases write with
  | updatePerson personId keyValueTable =>
      change updatePersonSql s personId keyValueTable = .ok stmt at h
      unfold updatePersonSql at h
      split at h
      · rename_i hallowed
        refine ⟨_, writesTable_update h, ?_, ?_⟩
        · intro e he
          apply SortedMap.mem_setEntry_of_ne he
          have hfield := List.all_eq_true.mp hallowed e he
          rw [List.contains_iff_mem] at hfield
          intro heq
          rw [heq] at hfield
          revert hfield
          decide
        · intro e he
          rcases SortedMap.mem_set he with h1 | h1
          · right
            rw [h1]
            simp [RowWrite.requested]
          · exact Or.inl h1
      · cases h
  | addRowToTable tableName table keywords =>
      exact ⟨table, writesTable_insert h, fun _ he => he, fun _ he => Or.inl he⟩
  | addRowToTableFetchPrimaryKey tableName table keywords =>
      exact ⟨table, writesTable_insertFetch h, fun _ he => he, fun _ he => Or.inl he⟩
  | updateRow tableName columnName columnValue table keywords =>
      exact ⟨table, writesTable_update h, fun _ he => he, fun _ he => Or.inl he⟩

/-- The values of a caller are stored literally exactly when none of them is a keyword
that the operation allows. -/
theorem literalStorage {write : RowWrite} (h : write.statement s = .ok stmt) :
    LiteralStorage stmt write.callerValues write.requested <->
      forall e, e ∈ write.callerValues.entries -> e.2 ∉ write.keywords := by
  rcases writesTable_statement h with ⟨table, hwrites, hcaller, hadded⟩
  have hmem := mem_zip_assigns hwrites.values
  have hassignments : stmt.assignments = (table.entries.map Prod.fst).zip stmt.values := by
    rw [RowStatement.assignments, hwrites.columns, SortedMap.keys]
  have hnodup : (table.entries.map Prod.fst).Nodup :=
    table.keys_sorted.imp (fun hlt => ne_of_lt hlt)
  constructor
  · intro hliteral e he hkeyword
    rcases hmem.2 e (hcaller e he) with ⟨value, hzip, hassigns⟩
    rcases hliteral.bound e he with ⟨n, _, hparam⟩
    rw [← hassignments] at hzip
    have hvalue := (hparam value).mp hzip
    rw [hassigns.keyword hkeyword] at hvalue
    cases hvalue
  · intro hnone
    constructor
    · intro e he
      rcases hmem.2 e (hcaller e he) with ⟨value, hzip, hassigns⟩
      rcases hassigns.param (hnone e he) with ⟨n, hvalue, hparam⟩
      refine ⟨n, hparam, ?_⟩
      intro value'
      rw [hassignments]
      constructor
      · intro hzip'
        rw [zip_unique hnodup hzip' hzip, hvalue]
      · intro hvalue'
        rw [hvalue', ← hvalue]
        exact hzip
    · intro column text hkeyword
      rw [hassignments] at hkeyword
      rcases hmem.1 column _ hkeyword with ⟨e, he, hcolumn, hassigns⟩
      rcases hadded e he with h1 | h1
      · rcases hassigns.param (hnone e h1) with ⟨n, hvalue, _⟩
        cases hvalue
      · rwa [hcolumn] at h1

/-!
# A run
-/

/-- The table of people, as far as a profile update names it. -/
def storedPeopleSchema : Schema where
  tables :=
    [{ tableName := "people"
       columns :=
        [{ columnName := "id", primaryKey := true, nullable := false, isText := false },
          { columnName := "email", primaryKey := false, nullable := false, isText := true },
          { columnName := "first_name", primaryKey := false, nullable := false, isText := true },
          { columnName := "last_name", primaryKey := false, nullable := false, isText := true },
          { columnName := "updated_at", primaryKey := false, nullable := false,
            isText := false }] }]
  folded := by decide +kernel

def firstName (value : String) : KeyValueTable :=
  SortedMap.empty.set "first_name" value

def firstNameStatement (value : SqlValue) (params : List String) : RowStatement where
  tableName := "people"
  kind := .update "id" (.param 1)
  columns := ["first_name", "updated_at"]
  values := [value, .keyword "now_us()"]
  params := params

theorem literalStorage_ann :
    LiteralStorage (firstNameStatement (.param 2) ["7", "Ann"]) (firstName "Ann")
      ["updated_at"] := by
  apply (@literalStorage storedPeopleSchema _ (.updatePerson 7 (firstName "Ann")) ?_).mpr
  · decide
  · decide +kernel

/-- A first name that is the keyword becomes a piece of SQL. -/
theorem literalStorage_fails :
    updatePersonSql storedPeopleSchema 7 (firstName "now_us()") =
        .ok (firstNameStatement (.keyword "now_us()") ["7"]) ∧
      (firstNameStatement (.keyword "now_us()") ["7"]).sql =
        "UPDATE people SET (first_name, updated_at) = ROW(now_us(), now_us()) WHERE id = $1" ∧
      Not (LiteralStorage (firstNameStatement (.keyword "now_us()") ["7"])
        (firstName "now_us()") ["updated_at"]) := by
  refine ⟨by decide +kernel, by decide +kernel, ?_⟩
  intro h
  have hrequested := h.keywords "first_name" "now_us()" (by decide)
  revert hrequested
  decide

end Statements

end Rest
end ServerComponents
