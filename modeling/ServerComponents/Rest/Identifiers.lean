import ServerComponents.Rest.CountedPages
import ServerComponents.Rest.SqlNoninterference
import ServerComponents.Text.SqlNames

/-!
# What the names in a statement denote

A generator is given names by its caller and takes others from the schema.  They stand in
its statement folded to lower case and quoted where that is needed, or as they are.
-/

namespace ServerComponents
namespace Rest

open Relational

inductive Spelling where
  | escaped
  | bare
  deriving Repr, DecidableEq

/-- The driver's `quote_name`. -/
def sqlQuoteName (name : String) : String := String.ofList (Text.quoteName name.toList)

def Spelling.text : Spelling -> String -> String
  | .escaped, name => quotedName sqlQuoteName (escSqlName name)
  | .bare, name => name

abbrev NameUse := String × Spelling

def escapedNames (names : List String) : List NameUse :=
  names.map (fun name => (name, .escaped))

def bareNames (names : List String) : List NameUse :=
  names.map (fun name => (name, .bare))

/-!
# The names of a call
-/

def schemaColumns (s : Schema) (tableName : String) : List String :=
  match s.find? tableName with
  | none => []
  | some t => t.names

def schemaPrimaryKey (s : Schema) (tableName : String) : String :=
  match s.find? tableName with
  | none => ""
  | some t =>
      ((t.columns.find? (fun c => c.primaryKey)).map ColumnInfo.columnName).getD ""

def CrudCall.tableUse : CrudCall -> NameUse
  | .addRowToTable tableName _ _ => (tableName, .escaped)
  | .addRowToTableFetchPrimaryKey tableName _ _ => (tableName, .escaped)
  | .lookupRowByValue tableName _ _ => (tableName, .escaped)
  | .lookupRowByValues tableName _ => (tableName, .escaped)
  | .getTableRows tableName => (tableName, .bare)
  | .getRowsByColumn tableName _ _ _ _ => (tableName, .escaped)
  | .getRowsByValues tableName _ _ _ _ _ => (tableName, .escaped)
  | .getRowsByValuesWithOrderBy tableName _ _ _ => (tableName, .escaped)
  | .getTableRowCount tableName => (tableName, .escaped)
  | .getRow tableName _ _ => (tableName, .escaped)
  | .updateRow tableName _ _ _ _ => (tableName, .escaped)
  | .deleteRow tableName _ _ => (tableName, .escaped)
  | .deleteRowByValues tableName _ => (tableName, .escaped)
  | .searchRowsByILike tableName _ _ _ _ _ _ => (tableName, .escaped)
  | .lookupRowsByPrimaryKeyValues tableName _ _ => (tableName, .escaped)

def CrudCall.columnUses (s : Schema) : CrudCall -> List NameUse
  | .addRowToTable _ table _ => escapedNames table.keys
  | .addRowToTableFetchPrimaryKey tableName table _ =>
      escapedNames table.keys ++ bareNames [schemaPrimaryKey s tableName]
  | .lookupRowByValue tableName columnName _ =>
      escapedNames (schemaColumns s tableName ++ [columnName])
  | .lookupRowByValues tableName lookupValues =>
      escapedNames (schemaColumns s tableName ++ lookupValues.keys)
  | .getTableRows tableName => bareNames (schemaColumns s tableName)
  | .getRowsByColumn tableName columnName _ _ _ =>
      escapedNames (schemaColumns s tableName ++ [columnName])
  | .getRowsByValues tableName sortColumnName lookupValues _ _ _ =>
      escapedNames (schemaColumns s tableName ++ lookupValues.keys ++ [sortColumnName])
  | .getRowsByValuesWithOrderBy tableName lookupValues orderByColumn _ =>
      escapedNames (schemaColumns s tableName ++ lookupValues.keys ++ [orderByColumn])
  | .getTableRowCount _ => []
  | .getRow tableName columnName _ =>
      escapedNames (schemaColumns s tableName ++ [columnName])
  | .updateRow _ columnName _ table _ => escapedNames (table.keys ++ [columnName])
  | .deleteRow _ columnName _ => escapedNames [columnName]
  | .deleteRowByValues _ keyValueTable => escapedNames keyValueTable.keys
  | .searchRowsByILike tableName sortColumnName searchColumns _ _ _ _ =>
      escapedNames (schemaColumns s tableName ++ searchColumns ++ [sortColumnName])
  | .lookupRowsByPrimaryKeyValues _ primaryKeyColumn _ => escapedNames [primaryKeyColumn]

/-!
# The names in a statement
-/

section Statements

variable (quoteName : String -> String)

def CrudStatement.tableText : CrudStatement -> String
  | .write stmt => (stmt.quoted quoteName).tableName
  | .select stmt => quotedName quoteName stmt.tableName
  | .tableRows tableName _ => tableName
  | .count tableName => quotedName quoteName tableName
  | .selectIn tableName _ _ _ => quotedName quoteName tableName
  | .delete tableName _ _ => quotedName quoteName tableName

def RowKind.columnTexts : RowKind -> List String
  | .insert returning => returning.toList
  | .update columnName _ => [columnName]

def Filter.columnTexts : Filter -> List String
  | .all => []
  | .equals conditions => conditions.map (fun condition => quotedName quoteName condition.1)
  | .search columns _ => columns.map (quotedName quoteName)

def CrudStatement.columnTexts : CrudStatement -> List String
  | .write stmt =>
      (stmt.quoted quoteName).columns ++ (stmt.quoted quoteName).kind.columnTexts
  | .select stmt =>
      stmt.columns.map (quotedName quoteName) ++ stmt.filter.columnTexts quoteName ++
        (stmt.order.map (fun order => quotedName quoteName order.1)).toList
  | .tableRows _ columns => columns
  | .count _ => []
  | .selectIn _ columnName _ _ => [quotedName quoteName columnName]
  | .delete _ conditions _ =>
      conditions.map (fun condition => quotedName quoteName condition.1)

end Statements

/-- What a text names, as a table or as a column. -/
def namedText (reserved : String -> Bool) (text : String) : Option String :=
  (Text.namedBy reserved text.toList).map String.ofList

/-- The table is the one of the call, every column is the one that the call means, and
different columns stay different. -/
structure DenotesExactly (s : Schema) (reserved : String -> Bool) (call : CrudCall)
    (stmt : CrudStatement) : Prop where
  table : namedText reserved (stmt.tableText sqlQuoteName) = some call.tableUse.1
  columns : List.Forall₂ (fun use text => namedText reserved text = some use.1)
    (call.columnUses s) (stmt.columnTexts sqlQuoteName)
  known : exists t, s.find? call.tableUse.1 = some t ∧
    forall use, use ∈ call.columnUses s -> use.1 ∈ t.names
  distinct : forall i j : Nat, forall (use use' : NameUse) (text text' : String),
    (call.columnUses s)[i]? = some use -> (stmt.columnTexts sqlQuoteName)[i]? = some text ->
    (call.columnUses s)[j]? = some use' -> (stmt.columnTexts sqlQuoteName)[j]? = some text' ->
      namedText reserved text = namedText reserved text' -> use.1 = use'.1

/-- A name that can be read back from how it is written. -/
structure Readable (reserved : String -> Bool) (use : NameUse) : Prop where
  folded : escSqlName use.1 = use.1
  fits : Text.nameBytes use.1.toList ≤ Text.kMaxNameBytes
  nonempty : use.1 ≠ ""
  word : use.2 = .bare -> Text.IsWord use.1.toList
  free : use.2 = .bare ∨ isSimpleName use.1 = true -> reserved use.1 = false

/-- The table and the columns are there, and their names can be read back. -/
structure CrudCall.WellNamed (s : Schema) (reserved : String -> Bool) (call : CrudCall) :
    Prop where
  table : Readable reserved call.tableUse
  known : exists t, s.find? call.tableUse.1 = some t ∧
    forall use, use ∈ call.columnUses s -> use.1 ∈ t.names
  columns : forall use, use ∈ call.columnUses s -> Readable reserved use

/-!
# Reading names back
-/

theorem toList_escSqlName (name : String) :
    (escSqlName name).toList = Text.foldName name.toList :=
  String.toList_map

theorem escSqlName_eq_iff (name : String) :
    escSqlName name = name <-> Text.foldName name.toList = name.toList := by
  rw [← toList_escSqlName, String.toList_inj]

theorem namedText_eq_iff (reserved : String -> Bool) (text name : String) :
    namedText reserved text = some name <->
      Text.namedBy reserved text.toList = some name.toList := by
  unfold namedText
  rw [Option.map_eq_some_iff]
  constructor
  · rintro ⟨read, hread, hname⟩
    rw [hread, ← hname, String.toList_ofList]
  · intro h
    exact ⟨name.toList, h, String.ofList_toList⟩

theorem isSimpleName_isWord {name : String} (h : isSimpleName name = true) :
    Text.IsWord name.toList := by
  unfold isSimpleName at h
  split at h
  · cases h
  · rename_i first rest heq
    rw [heq]
    rw [Bool.and_eq_true, Bool.or_eq_true] at h
    constructor
    · unfold Text.isNameStart
      rcases h.1 with hletter | hunderscore
      · rw [hletter]
        rfl
      · rw [hunderscore, Bool.or_true]
        rfl
    · intro c hc
      have hpart := List.all_eq_true.mp h.2 c hc
      unfold Text.isNamePart Text.isNameStart
      unfold Char.isAlphanum at hpart
      grind

theorem namedText_bare_iff (reserved : String -> Bool) (name : String) :
    namedText reserved (Spelling.bare.text name) = some name <->
      Readable reserved (name, .bare) := by
  rw [namedText_eq_iff]
  change Text.namedBy reserved name.toList = some name.toList <-> _
  rw [Text.namedBy_self_iff, ← escSqlName_eq_iff, String.ofList_toList]
  constructor
  · rintro ⟨hword, hfold, hfits, hfree⟩
    refine ⟨hfold, hfits, ?_, fun _ => hword, fun _ => hfree⟩
    rintro hempty
    rw [show name = "" from hempty] at hword
    exact hword
  · intro h
    exact ⟨h.word rfl, h.folded, h.fits, h.free (Or.inl rfl)⟩

/-- An escaped name is read back when it is in lower case, unless it is a keyword that is
not quoted. -/
theorem namedText_escaped_iff (reserved : String -> Bool) (name : String) :
    namedText reserved (Spelling.escaped.text name) = some name <->
      Readable reserved (name, .escaped) := by
  rw [namedText_eq_iff]
  change Text.namedBy reserved (quotedName sqlQuoteName (escSqlName name)).toList =
    some name.toList <-> _
  have hcut := Text.cutName_foldName_iff Text.kMaxNameBytes name.toList
  rw [← escSqlName_eq_iff] at hcut
  have hfolded := toList_escSqlName name
  unfold quotedName
  by_cases hsimple : isSimpleName (escSqlName name) = true
  · have hagain : Text.foldName (escSqlName name).toList = Text.foldName name.toList := by
      rw [hfolded, Text.foldName_foldName]
    rw [if_pos hsimple, Text.namedBy_word reserved (isSimpleName_isWord hsimple), hagain]
    constructor
    · intro h
      split at h
      · cases h
      · rename_i hfree
        rcases hcut.mp (Option.some.inj h) with ⟨hfold, hfits⟩
        rw [← hfolded, hfold, String.ofList_toList] at hfree
        refine ⟨hfold, hfits, ?_, fun hbare => (nomatch hbare), fun _ => by simpa using hfree⟩
        rintro hempty
        rw [hfold, show name = "" from hempty] at hsimple
        cases hsimple
    · intro h
      have hfree := h.free (Or.inr (by rw [← h.folded]; exact hsimple))
      have hread : String.ofList (Text.foldName name.toList) = name := by
        rw [← hfolded, h.folded, String.ofList_toList]
      rw [hread, hfree]
      exact congrArg some (hcut.mpr ⟨h.folded, h.fits⟩)
  · rw [if_neg hsimple]
    change Text.namedBy reserved
      (String.ofList (Text.quoteName (escSqlName name).toList)).toList = _ <-> _
    rw [String.toList_ofList, Text.namedBy_quoteName, hfolded]
    constructor
    · intro h
      split at h
      · cases h
      · rename_i hsome
        rcases hcut.mp (Option.some.inj h) with ⟨hfold, hfits⟩
        refine ⟨hfold, hfits, ?_, fun hbare => (nomatch hbare), ?_⟩
        · intro hempty
          rw [show name = "" from hempty] at hsome
          exact hsome rfl
        · rintro (hbare | hname)
          · cases hbare
          · rw [hfold] at hsimple
            exact absurd hname hsimple
    · intro h
      have hsome : Text.foldName name.toList ≠ [] := by
        intro hnil
        rw [← hfolded, h.folded] at hnil
        exact h.nonempty (String.toList_eq_nil_iff.mp hnil)
      rw [if_neg hsome]
      exact congrArg some (hcut.mpr ⟨h.folded, h.fits⟩)

theorem namedText_iff (reserved : String -> Bool) (use : NameUse) :
    namedText reserved (use.2.text use.1) = some use.1 <-> Readable reserved use := by
  rcases use with ⟨name, spelling⟩
  cases spelling with
  | escaped => exact namedText_escaped_iff reserved name
  | bare => exact namedText_bare_iff reserved name

/-!
# The names of a statement are those of its call
-/

section Generators

variable {s : Schema}

/-- How the names of a call stand in its statement. -/
def spelled (uses : List NameUse) : List String := uses.map (fun use => use.2.text use.1)

theorem spelled_append (uses uses' : List NameUse) :
    spelled (uses ++ uses') = spelled uses ++ spelled uses' :=
  List.map_append

theorem spelled_escapedNames (names : List String) :
    spelled (escapedNames names) =
      (names.map escSqlName).map (quotedName sqlQuoteName) := by
  simp [spelled, escapedNames, Spelling.text]

theorem spelled_bareNames (names : List String) : spelled (bareNames names) = names := by
  simp [spelled, bareNames, Spelling.text, Function.comp_def]

theorem listColumns_schemaColumns {tableName : String} {columns : List String}
    (h : DbMeta.listColumns s tableName = .ok columns) :
    columns = schemaColumns s tableName := by
  unfold schemaColumns
  cases hfind : s.find? tableName with
  | some t =>
      rcases Schema.find?_some hfind with ⟨hmem, hname⟩
      have hfolded := (s.folded t hmem).1
      rw [hname] at hfolded
      unfold DbMeta.listColumns sqlTable at h
      rw [hfolded, hfind] at h
      cases h
      exact if_pos hname
  | none =>
      unfold DbMeta.listColumns at h
      rcases exceptBind_ok h with ⟨t, ht, hcolumns⟩
      rcases sqlTable_ok ht with ⟨-, hname⟩
      cases hcolumns
      refine if_neg (fun hexact => ?_)
      unfold sqlTable at ht
      rw [← hname, hexact, hfind] at ht
      cases ht

theorem primaryKeyOf_schemaPrimaryKey {tableName primaryKey : String}
    (h : DbCrud.primaryKeyOf (s := s) tableName = .ok primaryKey) :
    primaryKey = schemaPrimaryKey s tableName := by
  unfold DbCrud.primaryKeyOf at h
  rcases exceptBind_ok h with ⟨columns, hcolumns, h⟩
  rcases exceptBind_ok h with ⟨t, ht, h⟩
  cases h
  have hlisted := listColumns_schemaColumns hcolumns
  unfold schemaColumns at hlisted
  unfold schemaPrimaryKey
  rcases sqlTable_ok ht with ⟨-, hname⟩
  cases hfind : s.find? tableName with
  | none =>
      rw [hfind] at hlisted
      have hnone : t.columns.find? (fun c =>
          c.primaryKey && ([] : List String).contains c.columnName) = none :=
        List.find?_eq_none.mpr (by simp)
      rw [hlisted]
      change ((t.columns.find? (fun c =>
        c.primaryKey && ([] : List String).contains c.columnName)).map _).getD "" = ""
      rw [hnone]
      rfl
  | some t' =>
      rcases Schema.find?_some hfind with ⟨hmem, hname'⟩
      have hfolded := (s.folded t' hmem).1
      rw [hname'] at hfolded
      have hsame : t = t' := by
        unfold sqlTable at ht
        rw [hfolded, hfind] at ht
        cases ht
        rfl
      rw [hfind] at hlisted
      rw [hsame, hlisted]
      have hall : t'.columns.find? (fun c => c.primaryKey && t'.names.contains c.columnName) =
          t'.columns.find? (fun c => c.primaryKey) := by
        apply List.find?_congr
        intro c hc
        have hlists : t'.names.contains c.columnName = true :=
          List.contains_iff_mem.mpr (List.mem_map_of_mem hc)
        rw [hlists, Bool.and_true]
      rw [hall]

theorem whereClause_columns (entries : List (String × String)) (helper : ExecParamsHelper) :
    (DbCrud.whereClauseFromKeyValueTable entries helper).1.map Prod.fst =
      (entries.map Prod.fst).map escSqlName := by
  induction entries generalizing helper with
  | nil => rfl
  | cons e rest ih =>
      simp only [DbCrud.whereClauseFromKeyValueTable, List.map_cons, ih]

theorem columnTexts_equals (conditions : List (String × SqlValue)) :
    conditions.map (fun condition => quotedName sqlQuoteName condition.1) =
      (conditions.map Prod.fst).map (quotedName sqlQuoteName) := by
  rw [List.map_map]
  rfl

theorem countedSelect_columns (columns : List String) (tableName sortColumnName : String)
    (asc : Bool) (pageSize page : Int) (filter : Filter) (helper : ExecParamsHelper) :
    (DbCrud.countedSelect columns tableName sortColumnName asc pageSize page filter
        helper).columnTexts sqlQuoteName =
      spelled (escapedNames columns) ++ filter.columnTexts sqlQuoteName ++
        spelled (escapedNames [sortColumnName]) := by
  rw [spelled_escapedNames, spelled_escapedNames]
  rfl

theorem selectByColumn_columns {tableName columnName value : String} {stmt : CrudStatement}
    (h : DbCrud.selectByColumn s tableName columnName value = .ok stmt) :
    stmt.columnTexts sqlQuoteName =
        spelled (escapedNames (schemaColumns s tableName ++ [columnName])) ∧
      stmt.tableText sqlQuoteName = Spelling.escaped.text tableName := by
  rcases exceptBind_ok h with ⟨columns, hcolumns, hrest⟩
  rcases exceptBind_ok hrest with ⟨u, _, hstmt⟩
  cases hstmt
  rw [listColumns_schemaColumns hcolumns, spelled_escapedNames, List.map_append,
    List.map_append]
  exact ⟨List.append_nil _, rfl⟩

/-- The statement of a call writes the names that the call means. -/
structure Spells (s : Schema) (call : CrudCall) (stmt : CrudStatement) : Prop where
  table : stmt.tableText sqlQuoteName = call.tableUse.2.text call.tableUse.1
  columns : stmt.columnTexts sqlQuoteName = spelled (call.columnUses s)

theorem spells_counted {columns lookups : List String} {call : CrudCall}
    {tableName sortColumnName : String} {asc : Bool} {pageSize page : Int} {filter : Filter}
    {helper : ExecParamsHelper} (htable : call.tableUse = (tableName, .escaped))
    (hfilter : filter.columnTexts sqlQuoteName = spelled (escapedNames lookups))
    (huses : call.columnUses s = escapedNames (columns ++ lookups ++ [sortColumnName])) :
    Spells s call
      (DbCrud.countedSelect columns tableName sortColumnName asc pageSize page filter
        helper) := by
  constructor
  · rw [htable]
    rfl
  · rw [countedSelect_columns, hfilter, huses]
    simp only [spelled_escapedNames, List.map_append]

theorem spelled_conditions (lookupValues : KeyValueTable) (helper : ExecParamsHelper) :
    (Filter.equals (DbCrud.whereClauseFromKeyValueTable lookupValues.entries
      helper).1).columnTexts sqlQuoteName = spelled (escapedNames lookupValues.keys) := by
  change List.map _ _ = _
  rw [columnTexts_equals, whereClause_columns, spelled_escapedNames]
  rfl

theorem spells_generate {call : CrudCall} {stmt : CrudStatement}
    (h : call.generate s = .ok (some stmt)) : Spells s call stmt := by
  cases call with
  | addRowToTable tableName table keywords =>
      rcases exceptMap_ok h with ⟨row, hrow, heq⟩
      cases heq
      rcases exceptBind_ok hrow with ⟨columns, _, hrest⟩
      rcases exceptBind_ok hrest with ⟨u, _, hstmt⟩
      cases hstmt
      refine ⟨rfl, ?_⟩
      change _ = spelled (escapedNames table.keys)
      rw [spelled_escapedNames]
      exact List.append_nil _
  | addRowToTableFetchPrimaryKey tableName table keywords =>
      rcases exceptMap_ok h with ⟨row, hrow, heq⟩
      cases heq
      rcases exceptBind_ok hrow with ⟨columns, _, hrest⟩
      rcases exceptBind_ok hrest with ⟨u, _, hprimary⟩
      rcases exceptBind_ok hprimary with ⟨primaryKey, hkey, hstmt⟩
      cases hstmt
      refine ⟨rfl, ?_⟩
      change _ = spelled (escapedNames table.keys ++ bareNames [schemaPrimaryKey s tableName])
      rw [spelled_append, spelled_escapedNames, spelled_bareNames,
        ← primaryKeyOf_schemaPrimaryKey hkey]
      rfl
  | lookupRowByValue tableName columnName value =>
      have hstmt' := exceptSome_ok h
      exact ⟨(selectByColumn_columns hstmt').2, (selectByColumn_columns hstmt').1⟩
  | lookupRowByValues tableName lookupValues =>
      rcases statement_ok h with ⟨columns, hcolumns, hstmt⟩
      cases hstmt
      refine ⟨rfl, ?_⟩
      change _ ++ Filter.columnTexts sqlQuoteName _ ++ [] =
        spelled (escapedNames (schemaColumns s tableName ++ lookupValues.keys))
      rw [List.append_nil, spelled_conditions, listColumns_schemaColumns hcolumns]
      simp only [spelled_escapedNames, List.map_append]
      rfl
  | getTableRows tableName =>
      rcases statement_ok h with ⟨columns, hcolumns, hstmt⟩
      cases hstmt
      refine ⟨rfl, ?_⟩
      change columns = spelled (bareNames (schemaColumns s tableName))
      rw [spelled_bareNames, listColumns_schemaColumns hcolumns]
  | getRowsByColumn tableName columnName asc pageSize page =>
      rcases statement_ok h with ⟨columns, hcolumns, hrest⟩
      rcases exceptBind_ok hrest with ⟨u, _, hstmt⟩
      cases hstmt
      refine ⟨rfl, ?_⟩
      change _ = spelled (escapedNames (schemaColumns s tableName ++ [columnName]))
      rw [spelled_escapedNames, ← listColumns_schemaColumns hcolumns, List.map_append,
        List.map_append]
      exact congrArg (fun texts => texts ++ _) (List.append_nil _)
  | getRowsByValues tableName sortColumnName lookupValues asc pageSize page =>
      rcases statement_ok h with ⟨columns, hcolumns, hrest⟩
      rcases exceptBind_ok hrest with ⟨u, _, hfilter⟩
      have hlisted := listColumns_schemaColumns hcolumns
      split at hfilter
      · rename_i hempty
        cases hfilter
        refine spells_counted rfl  ?_ (by rw [hlisted]; rfl)
        rw [SortedMap.keys, hempty]
        rfl
      · rcases exceptBind_ok hfilter with ⟨u', _, hstmt⟩
        cases hstmt
        exact spells_counted rfl (spelled_conditions lookupValues _) (by rw [hlisted]; rfl)
  | getRowsByValuesWithOrderBy tableName lookupValues orderByColumn asc =>
      rcases statement_ok h with ⟨columns, hcolumns, hrest⟩
      rcases exceptBind_ok hrest with ⟨u, _, hfilter⟩
      split at hfilter
      · cases hfilter
      · rcases exceptBind_ok hfilter with ⟨u', _, hstmt⟩
        cases hstmt
        refine ⟨rfl, ?_⟩
        change _ ++ Filter.columnTexts sqlQuoteName _ ++ _ = spelled
          (escapedNames (schemaColumns s tableName ++ lookupValues.keys ++ [orderByColumn]))
        rw [spelled_conditions, listColumns_schemaColumns hcolumns]
        simp only [spelled_escapedNames, List.map_append]
        rfl
  | getTableRowCount tableName =>
      cases h
      exact ⟨rfl, rfl⟩
  | getRow tableName columnName value =>
      have hstmt' := exceptSome_ok h
      exact ⟨(selectByColumn_columns hstmt').2, (selectByColumn_columns hstmt').1⟩
  | updateRow tableName columnName value table keywords =>
      rcases exceptMap_ok h with ⟨row, hrow, heq⟩
      cases heq
      rcases exceptBind_ok hrow with ⟨columns, _, hrest⟩
      rcases exceptBind_ok hrest with ⟨u, _, hlookup⟩
      rcases exceptBind_ok hlookup with ⟨u', _, hstmt⟩
      cases hstmt
      refine ⟨rfl, ?_⟩
      change _ = spelled (escapedNames (table.keys ++ [columnName]))
      rw [spelled_escapedNames, List.map_append, List.map_append]
      rfl
  | deleteRow tableName columnName value =>
      rcases statement_ok h with ⟨columns, _, hrest⟩
      rcases exceptBind_ok hrest with ⟨u, _, hstmt⟩
      cases hstmt
      exact ⟨rfl, rfl⟩
  | deleteRowByValues tableName keyValueTable =>
      rcases statement_ok h with ⟨columns, _, hrest⟩
      rw [deleteConditions_eq] at hrest
      rcases exceptBind_ok hrest with ⟨result, hresult, hstmt⟩
      rcases exceptBind_ok hresult with ⟨u, _, hconditions⟩
      cases hconditions
      cases hstmt
      exact ⟨rfl, spelled_conditions keyValueTable ⟨[]⟩⟩
  | searchRowsByILike tableName sortColumnName searchColumns text asc pageSize page =>
      rcases statement_ok h with ⟨columns, hcolumns, hrest⟩
      rcases exceptBind_ok hrest with ⟨u, _, hchecked⟩
      rcases exceptBind_ok hchecked with ⟨u', _, hfilter⟩
      have hlisted := listColumns_schemaColumns hcolumns
      split at hfilter
      · rename_i hempty
        cases hfilter
        refine spells_counted rfl  ?_ (by rw [hlisted]; rfl)
        rw [hempty]
        rfl
      · cases hfilter
        refine spells_counted rfl ?_ (by rw [hlisted]; rfl)
        rw [spelled_escapedNames]
        rfl
  | lookupRowsByPrimaryKeyValues tableName columnName values =>
      cases lookupRowsByPrimaryKeyValuesSql_some (Except.ok.inj h)
      exact ⟨rfl, rfl⟩

end Generators

/-!
# When the names denote what was meant
-/

theorem forall₂_getElem? {a b : Type} {r : a -> b -> Prop} {xs : List a} {ys : List b}
    (h : List.Forall₂ r xs ys) {i : Nat} {x : a} {y : b} (hx : xs[i]? = some x)
    (hy : ys[i]? = some y) : r x y := by
  induction h generalizing i with
  | nil => simp at hx
  | cons hfirst _ ih =>
      cases i with
      | zero =>
          cases hx
          cases hy
          exact hfirst
      | succ i => exact ih hx hy

section Denoting

variable {s : Schema} {reserved : String -> Bool} {call : CrudCall} {stmt : CrudStatement}

theorem denotes_spelled_iff (reserved : String -> Bool) (uses : List NameUse) :
    List.Forall₂ (fun use text => namedText reserved text = some use.1) uses
        (spelled uses) <->
      forall use, use ∈ uses -> Readable reserved use := by
  unfold spelled
  rw [List.forall₂_map_right_iff, List.forall₂_same]
  exact forall₂_congr (fun use _ => namedText_iff reserved use)

/-- A statement that is sent denotes what its call means exactly when the names of the call
are known and can be read back. -/
theorem denotesExactly_iff (reserved : String -> Bool)
    (h : call.generate s = .ok (some stmt)) :
    DenotesExactly s reserved call stmt <-> call.WellNamed s reserved := by
  have hspells := spells_generate h
  have htable := namedText_iff reserved call.tableUse
  have hcolumns := denotes_spelled_iff reserved (call.columnUses s)
  rw [← hspells.table] at htable
  rw [← hspells.columns] at hcolumns
  constructor
  · intro hdenotes
    exact ⟨htable.mp hdenotes.table, hdenotes.known, hcolumns.mp hdenotes.columns⟩
  · intro hnamed
    have hread := hcolumns.mpr hnamed.columns
    refine ⟨htable.mpr hnamed.table, hread, hnamed.known, ?_⟩
    intro i j use use' text text' huse htext huse' htext' hsame
    have hfirst := forall₂_getElem? hread huse htext
    have hsecond := forall₂_getElem? hread huse' htext'
    rw [hsame, hsecond] at hfirst
    exact (Option.some.inj hfirst).symm

end Denoting

/-!
# A field name that is a keyword
-/

/-- Some of the words that Postgres does not read as names. -/
def sqlKeywords : List String := ["current_user", "order", "select", "user"]

def isSqlKeyword (word : String) : Bool := sqlKeywords.contains word

def noteById : CrudCall := .getRow "notes" "id" "1"

def selectNotes (columnName value : String) : CrudStatement :=
  .select
    { columns := ["id"], counted := false, tableName := "notes"
      filter := .equals [(columnName, .param 1)], order := none, paging := none
      params := [value] }

theorem readable_of_simple {reserved : String -> Bool} {name : String} (spelling : Spelling)
    (hsimple : isSimpleName name = true) (hfolded : escSqlName name = name)
    (hfits : Text.nameBytes name.toList ≤ Text.kMaxNameBytes) (hnonempty : name ≠ "")
    (hfree : reserved name = false) : Readable reserved (name, spelling) :=
  ⟨hfolded, hfits, hnonempty, fun _ => isSimpleName_isWord hsimple, fun _ => hfree⟩

theorem denotesExactly_noteById :
    DenotesExactly notesSchema isSqlKeyword noteById (selectNotes "id" "1") := by
  refine (denotesExactly_iff isSqlKeyword (by decide +kernel)).mpr ⟨?_, ?_, ?_⟩
  · exact readable_of_simple _ (by decide) (by decide +kernel) (by decide) (by decide) (by decide)
  · exact ⟨notesTable, rfl, by decide⟩
  · have hid : forall use, use ∈ noteById.columnUses notesSchema -> use.1 = "id" := by decide
    rintro ⟨name, spelling⟩ huse
    cases hid _ huse
    exact readable_of_simple _ (by decide) (by decide +kernel) (by decide) (by decide) (by decide)

def noteByCurrentUser : CrudCall :=
  .lookupRowByValues "notes" (SortedMap.empty.set "current_user" "1")

/-- The field names of a look-up are not checked. -/
theorem currentUser_isNoColumn :
    noteByCurrentUser.generate notesSchema =
        .ok (some (selectNotes "current_user" "1")) ∧
      (selectNotes "current_user" "1").text sqlQuoteName =
        "SELECT id FROM notes WHERE current_user = $1" ∧
      Not (DenotesExactly notesSchema isSqlKeyword noteByCurrentUser
        (selectNotes "current_user" "1")) := by
  refine ⟨by decide +kernel, by decide +kernel, ?_⟩
  intro h
  rcases h.known with ⟨t, hfind, hknown⟩
  have ht : t = notesTable := Option.some.inj (hfind.symm.trans rfl)
  have hmem := hknown ("current_user", .escaped) (by decide)
  rw [ht] at hmem
  revert hmem
  decide

end Rest
end ServerComponents
