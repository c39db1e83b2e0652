import ServerComponents.Rest.CrudStatements

/-!
# What the text of a statement depends on

Two calls that differ in values only send one text, and every value is bound to the
placeholder that stands where the value belongs.
-/

namespace ServerComponents
namespace Rest

open Relational

/-- A value as it is given: a keyword goes into the text, any other is bound. -/
inductive Given where
  | keyword (text : String)
  | value (text : String)
  deriving Repr, DecidableEq

def givenValue (keywords : List String) (value : String) : Given :=
  if value ∈ keywords then .keyword value else .value value

def givenEntries (keywords : List String) (entries : List (String × String)) :
    List (Use × Given) :=
  entries.map (fun e => (.column (escSqlName e.1), givenValue keywords e.2))

def givenPage (pageSize page : Int) : List (Use × Given) :=
  [(.limit, .value (toString pageSize)), (.offset, .value (toString (pageOffset page pageSize)))]

def CrudCall.given : CrudCall -> List (Use × Given)
  | .addRowToTable _ table keywords => givenEntries keywords table.entries
  | .addRowToTableFetchPrimaryKey _ table keywords => givenEntries keywords table.entries
  | .lookupRowByValue _ columnName lookupValue =>
      [(.column (escSqlName columnName), .value lookupValue)]
  | .lookupRowByValues _ lookupValues => givenEntries [] lookupValues.entries
  | .getTableRows _ => []
  | .getRowsByColumn _ _ _ pageSize page => givenPage pageSize page
  | .getRowsByValues _ _ lookupValues _ pageSize page =>
      givenEntries [] lookupValues.entries ++ givenPage pageSize page
  | .getRowsByValuesWithOrderBy _ lookupValues _ _ => givenEntries [] lookupValues.entries
  | .getTableRowCount _ => []
  | .getRow _ columnName columnValue =>
      [(.column (escSqlName columnName), .value columnValue)]
  | .updateRow _ columnName columnValue table keywords =>
      givenEntries keywords table.entries ++
        [(.column (escSqlName columnName), .value columnValue)]
  | .deleteRow _ columnName columnValue =>
      [(.column (escSqlName columnName), .value columnValue)]
  | .deleteRowByValues _ keyValueTable => givenEntries [] keyValueTable.entries
  | .searchRowsByILike _ _ searchColumns searchText _ pageSize page =>
      (if searchColumns = [] then []
        else [(.searched (searchColumns.map escSqlName),
          .value ("%" ++ searchText ++ "%"))]) ++ givenPage pageSize page
  | .lookupRowsByPrimaryKeyValues _ primaryKeyColumn values =>
      values.map (fun value => (.column (escSqlName primaryKeyColumn), .value value))

def StandsFor (params : List String) : Given -> SqlValue -> Prop
  | .keyword text, value => value = .keyword text
  | .value text, value => exists n, value = .param (n + 1) ∧ params[n]? = some text

def Matches (params : List String) (given : Use × Given) (use : Use × SqlValue) : Prop :=
  use.1 = given.1 ∧ StandsFor params given.2 use.2

/-- Every value stands where it belongs, and the placeholders are `$1` to `$n`, each of
them once. -/
structure WellBound (given : List (Use × Given)) (stmt : CrudStatement) : Prop where
  uses : List.Forall₂ (Matches stmt.params) given stmt.uses
  numbers : stmt.placeholders.Perm (List.range' 1 stmt.params.length)

/-- The same columns in the same order, and for each column the same keyword or no
keyword. -/
def SameEntries (keywords : List String) (entries entries' : List (String × String)) :
    Prop :=
  List.Forall₂ (fun e e' => e.1 = e'.1 ∧
    ((e.2 ∈ keywords ∧ e'.2 = e.2) ∨ (e.2 ∉ keywords ∧ e'.2 ∉ keywords))) entries entries'

inductive SameShape : CrudCall -> CrudCall -> Prop where
  | addRowToTable {tableName : String} {table table' : KeyValueTable}
      {keywords : List String} (h : SameEntries keywords table.entries table'.entries) :
      SameShape (.addRowToTable tableName table keywords)
        (.addRowToTable tableName table' keywords)
  | addRowToTableFetchPrimaryKey {tableName : String} {table table' : KeyValueTable}
      {keywords : List String} (h : SameEntries keywords table.entries table'.entries) :
      SameShape (.addRowToTableFetchPrimaryKey tableName table keywords)
        (.addRowToTableFetchPrimaryKey tableName table' keywords)
  | lookupRowByValue {tableName columnName value value' : String} :
      SameShape (.lookupRowByValue tableName columnName value)
        (.lookupRowByValue tableName columnName value')
  | lookupRowByValues {tableName : String} {table table' : KeyValueTable}
      (h : table.keys = table'.keys) :
      SameShape (.lookupRowByValues tableName table) (.lookupRowByValues tableName table')
  | getTableRows {tableName : String} :
      SameShape (.getTableRows tableName) (.getTableRows tableName)
  | getRowsByColumn {tableName columnName : String} {asc : Bool}
      {pageSize pageSize' page page' : Int} :
      SameShape (.getRowsByColumn tableName columnName asc pageSize page)
        (.getRowsByColumn tableName columnName asc pageSize' page')
  | getRowsByValues {tableName sortColumnName : String} {table table' : KeyValueTable}
      {asc : Bool} {pageSize pageSize' page page' : Int} (h : table.keys = table'.keys) :
      SameShape (.getRowsByValues tableName sortColumnName table asc pageSize page)
        (.getRowsByValues tableName sortColumnName table' asc pageSize' page')
  | getRowsByValuesWithOrderBy {tableName orderByColumn : String}
      {table table' : KeyValueTable} {asc : Bool} (h : table.keys = table'.keys) :
      SameShape (.getRowsByValuesWithOrderBy tableName table orderByColumn asc)
        (.getRowsByValuesWithOrderBy tableName table' orderByColumn asc)
  | getTableRowCount {tableName : String} :
      SameShape (.getTableRowCount tableName) (.getTableRowCount tableName)
  | getRow {tableName columnName value value' : String} :
      SameShape (.getRow tableName columnName value) (.getRow tableName columnName value')
  | updateRow {tableName columnName value value' : String} {table table' : KeyValueTable}
      {keywords : List String} (h : SameEntries keywords table.entries table'.entries) :
      SameShape (.updateRow tableName columnName value table keywords)
        (.updateRow tableName columnName value' table' keywords)
  | deleteRow {tableName columnName value value' : String} :
      SameShape (.deleteRow tableName columnName value)
        (.deleteRow tableName columnName value')
  | deleteRowByValues {tableName : String} {table table' : KeyValueTable}
      (h : table.keys = table'.keys) :
      SameShape (.deleteRowByValues tableName table) (.deleteRowByValues tableName table')
  | searchRowsByILike {tableName sortColumnName text text' : String}
      {searchColumns : List String} {asc : Bool} {pageSize pageSize' page page' : Int} :
      SameShape
        (.searchRowsByILike tableName sortColumnName searchColumns text asc pageSize page)
        (.searchRowsByILike tableName sortColumnName searchColumns text' asc pageSize' page')
  | lookupRowsByPrimaryKeyValues {tableName columnName : String} {values values' : List String}
      (h : values.length = values'.length) :
      SameShape (.lookupRowsByPrimaryKeyValues tableName columnName values)
        (.lookupRowsByPrimaryKeyValues tableName columnName values')

/-!
# Binding
-/

section Binding

variable {keywords : List String}

def boundValues (keywords : List String) (entries : List (String × String)) : List String :=
  (entries.filter (fun e => decide (e.2 ∉ keywords))).map Prod.snd

theorem boundValues_keyword {e : String × String} {rest : List (String × String)}
    (h : e.2 ∈ keywords) : boundValues keywords (e :: rest) = boundValues keywords rest := by
  simp [boundValues, h]

theorem boundValues_value {e : String × String} {rest : List (String × String)}
    (h : e.2 ∉ keywords) :
    boundValues keywords (e :: rest) = e.2 :: boundValues keywords rest := by
  simp [boundValues, h]

theorem generateInsertParams_params (keywords : List String) (entries : List (String × String))
    (helper : ExecParamsHelper) :
    (DbCrud.generateInsertParams keywords entries helper).2.params =
      helper.params ++ boundValues keywords entries := by
  induction entries generalizing helper with
  | nil => simp [DbCrud.generateInsertParams, boundValues]
  | cons e rest ih =>
      rw [DbCrud.generateInsertParams]
      split
      · rename_i hkeyword
        rw [boundValues_keyword hkeyword]
        exact ih helper
      · rename_i hfree
        rw [boundValues_value hfree]
        show (DbCrud.generateInsertParams keywords rest (helper.addParam e.2).2).2.params = _
        rw [ih]
        simp [ExecParamsHelper.addParam]

theorem generateInsertParams_numbers (entries : List (String × String))
    (helper : ExecParamsHelper) :
    (DbCrud.generateInsertParams keywords entries helper).1.filterMap SqlValue.number? =
      List.range' (helper.params.length + 1) (boundValues keywords entries).length := by
  induction entries generalizing helper with
  | nil => simp [DbCrud.generateInsertParams, boundValues]
  | cons e rest ih =>
      rw [DbCrud.generateInsertParams]
      split
      · rename_i hkeyword
        rw [boundValues_keyword hkeyword]
        exact ih helper
      · rename_i hfree
        have hrest := ih (helper.addParam e.2).2
        have hlength : (helper.addParam e.2).2.params.length =
            helper.params.length + 1 := by
          simp [ExecParamsHelper.addParam]
        rw [hlength] at hrest
        rw [boundValues_value hfree, List.length_cons, List.range'_succ, ← hrest]
        rfl

variable {entries entries' : List (String × String)}

theorem generateInsertParams_congr
    (h : SameEntries keywords entries entries') {helper helper' : ExecParamsHelper}
    (hlength : helper.params.length = helper'.params.length) :
    (DbCrud.generateInsertParams keywords entries helper).1 =
        (DbCrud.generateInsertParams keywords entries' helper').1 ∧
      (DbCrud.generateInsertParams keywords entries helper).2.params.length =
        (DbCrud.generateInsertParams keywords entries' helper').2.params.length := by
  induction h generalizing helper helper' with
  | nil => exact ⟨rfl, hlength⟩
  | cons hfirst hrest ih =>
      rename_i e e' rest rest'
      rcases hfirst.2 with ⟨hkeyword, hsame⟩ | ⟨hfree, hfree'⟩
      · have htail := ih hlength
        simp only [DbCrud.generateInsertParams, hsame, hkeyword, if_true]
        exact ⟨congrArg _ htail.1, htail.2⟩
      · have hnext : (helper.addParam e.2).2.params.length =
            (helper'.addParam e'.2).2.params.length := by
          simp [ExecParamsHelper.addParam, hlength]
        have htail := ih hnext
        simp only [DbCrud.generateInsertParams, hfree, hfree', if_false]
        refine ⟨?_, htail.2⟩
        rw [htail.1]
        simp [ExecParamsHelper.addParam, hlength]

theorem SameEntries.keys (h : SameEntries keywords entries entries') :
    entries.map Prod.fst = entries'.map Prod.fst := by
  induction h with
  | nil => rfl
  | cons hfirst _ ih => rw [List.map_cons, List.map_cons, hfirst.1, ih]

theorem sameEntries_of_keys
    (h : entries.map Prod.fst = entries'.map Prod.fst) : SameEntries [] entries entries' := by
  induction entries generalizing entries' with
  | nil =>
      cases entries' with
      | nil => exact List.Forall₂.nil
      | cons e' rest' => cases h
  | cons e rest ih =>
      cases entries' with
      | nil => cases h
      | cons e' rest' =>
          rw [List.map_cons, List.map_cons, List.cons.injEq] at h
          exact List.Forall₂.cons ⟨h.1, Or.inr ⟨by simp, by simp⟩⟩ (ih h.2)

theorem whereClause_eq (entries : List (String × String)) (helper : ExecParamsHelper) :
    DbCrud.whereClauseFromKeyValueTable entries helper =
      (((entries.map Prod.fst).map escSqlName).zip
          (DbCrud.generateInsertParams [] entries helper).1,
        (DbCrud.generateInsertParams [] entries helper).2) := by
  induction entries generalizing helper with
  | nil => rfl
  | cons e rest ih =>
      simp only [DbCrud.whereClauseFromKeyValueTable, DbCrud.generateInsertParams, ih,
        List.not_mem_nil, if_false, List.map_cons, List.zip_cons_cons]

theorem deleteConditions_eq (columns : List String) (entries : List (String × String))
    (helper : ExecParamsHelper) :
    DbCrud.deleteConditions columns entries helper =
      ((entries.map Prod.fst).forM (DbCrud.lookupDatabaseColumnInfoByColumnName columns) >>=
        fun _ => .ok (DbCrud.whereClauseFromKeyValueTable entries helper)) := by
  induction entries generalizing helper with
  | nil => rfl
  | cons e rest ih =>
      simp only [DbCrud.deleteConditions, List.map_cons, List.forM, ih]
      cases DbCrud.lookupDatabaseColumnInfoByColumnName columns e.1 with
      | error err => rfl
      | ok u =>
          cases (rest.map Prod.fst).forM
              (DbCrud.lookupDatabaseColumnInfoByColumnName columns) with
          | error err => rfl
          | ok u' => rfl

theorem addParams_eq (columnName : String) (values : List String)
    (helper : ExecParamsHelper) :
    DbCrud.addParams values helper =
      DbCrud.generateInsertParams [] (values.map (fun value => (columnName, value)))
        helper := by
  induction values generalizing helper with
  | nil => rfl
  | cons value rest ih =>
      simp only [DbCrud.addParams, DbCrud.generateInsertParams, List.map_cons, ih,
        List.not_mem_nil, if_false]

theorem addParams_uses (columnName : String) (values : List String)
    (helper : ExecParamsHelper) :
    (DbCrud.addParams values helper).1.map (fun value =>
        (Use.column (escSqlName columnName), value)) =
      columnUses ((((values.map (fun value => (columnName, value))).map Prod.fst).map
        escSqlName).zip (DbCrud.addParams values helper).1) := by
  induction values generalizing helper with
  | nil => rfl
  | cons value rest ih =>
      have htail := ih (helper.addParam value).2
      simp only [DbCrud.addParams, List.map_cons, List.zip_cons_cons, columnUses, htail]

theorem Matches.mono {params later : List String} {given : Use × Given}
    {use : Use × SqlValue} (h : Matches params given use) :
    Matches (params ++ later) given use := by
  refine ⟨h.1, ?_⟩
  rcases given with ⟨purpose, keyword | text⟩
  · exact h.2
  · rcases h.2 with ⟨n, hvalue, hparam⟩
    refine ⟨n, hvalue, ?_⟩
    rw [List.getElem?_append_left (List.getElem?_eq_some_iff.mp hparam).1]
    exact hparam

def useNumbers (uses : List (Use × SqlValue)) : List Nat :=
  uses.filterMap (fun use => use.2.number?)

theorem useNumbers_append (uses uses' : List (Use × SqlValue)) :
    useNumbers (uses ++ uses') = useNumbers uses ++ useNumbers uses' :=
  List.filterMap_append

theorem Assigns.standsFor {params : List String} {e : String × String} {value : SqlValue}
    (h : Assigns keywords params e value) :
    StandsFor params (givenValue keywords e.2) value := by
  unfold Assigns at h
  unfold givenValue
  by_cases hkeyword : e.2 ∈ keywords
  · rw [if_pos hkeyword] at h ⊢
    exact h
  · rw [if_neg hkeyword] at h ⊢
    exact h

/-- Up to here every value stands where it belongs, and the placeholders are those of the
parameters that have been bound. -/
structure BoundSoFar (given : List (Use × Given)) (uses : List (Use × SqlValue))
    (first : Nat) (params : List String) : Prop where
  matched : List.Forall₂ (Matches params) given uses
  numbers : useNumbers uses = List.range' (first + 1) (params.length - first)
  bound : first ≤ params.length

theorem boundSoFar_entries (keywords : List String) (entries : List (String × String))
    (helper : ExecParamsHelper) :
    BoundSoFar (givenEntries keywords entries)
      (columnUses (((entries.map Prod.fst).map escSqlName).zip
        (DbCrud.generateInsertParams keywords entries helper).1))
      helper.params.length (DbCrud.generateInsertParams keywords entries helper).2.params := by
  have hassigns := (@generateInsertParams_spec keywords entries helper).2
  have hlength := hassigns.length_eq
  constructor
  · generalize (DbCrud.generateInsertParams keywords entries helper).2.params = params
      at hassigns
    generalize (DbCrud.generateInsertParams keywords entries helper).1 = values at hassigns
    clear hlength
    induction hassigns with
    | nil => exact List.Forall₂.nil
    | cons hfirst hrest ih => exact List.Forall₂.cons ⟨rfl, hfirst.standsFor⟩ ih
  · rw [generateInsertParams_params, List.length_append, Nat.add_sub_cancel_left,
      ← generateInsertParams_numbers]
    generalize (DbCrud.generateInsertParams keywords entries helper).1 = values at hlength
    have hzip : (((entries.map Prod.fst).map escSqlName).zip values).map Prod.snd =
        values := by
      apply List.map_snd_zip
      simp [hlength]
    calc
      useNumbers (columnUses (((entries.map Prod.fst).map escSqlName).zip values)) =
          ((((entries.map Prod.fst).map escSqlName).zip values).map Prod.snd).filterMap
            SqlValue.number? := by
        unfold useNumbers columnUses
        rw [List.filterMap_map, List.filterMap_map]
        rfl
      _ = values.filterMap SqlValue.number? := by
        rw [hzip]
  · rw [generateInsertParams_params]
    simp

theorem BoundSoFar.wellBound {given : List (Use × Given)} {stmt : CrudStatement}
    (h : BoundSoFar given stmt.uses 0 stmt.params) : WellBound given stmt := by
  refine ⟨h.matched, ?_⟩
  show (useNumbers stmt.uses).Perm _
  rw [h.numbers]
  exact List.Perm.refl _

theorem BoundSoFar.nil (first : Nat) (params : List String) (h : params.length = first) :
    BoundSoFar [] [] first params := by
  refine ⟨List.Forall₂.nil, ?_, by omega⟩
  rw [h, Nat.sub_self]
  rfl

theorem BoundSoFar.addParam {given : List (Use × Given)} {uses : List (Use × SqlValue)}
    {first : Nat} {helper : ExecParamsHelper} (h : BoundSoFar given uses first helper.params)
    (purpose : Use) (text : String) :
    BoundSoFar (given ++ [(purpose, .value text)])
      (uses ++ [(purpose, (helper.addParam text).1)]) first
      (helper.addParam text).2.params := by
  have hbound := h.bound
  constructor
  · apply List.rel_append
    · exact h.matched.imp (fun _ _ hmatch => hmatch.mono)
    · refine List.Forall₂.cons ⟨rfl, helper.params.length, rfl, ?_⟩ List.Forall₂.nil
      simp [ExecParamsHelper.addParam]
  · rw [useNumbers_append, h.numbers]
    have hlength : (helper.addParam text).2.params.length - first =
        helper.params.length - first + 1 := by
      simp only [ExecParamsHelper.addParam, List.length_append, List.length_singleton]
      omega
    have hnext : first + 1 + (helper.params.length - first) = helper.params.length + 1 := by
      omega
    rw [hlength, List.range'_concat, Nat.one_mul, hnext]
    rfl
  · simp only [ExecParamsHelper.addParam, List.length_append, List.length_singleton]
    omega

theorem boundSoFar_single (purpose : Use) (text : String) :
    BoundSoFar [(purpose, .value text)] [(purpose, .param 1)] 0
      ((ExecParamsHelper.mk []).addParam text).2.params :=
  (BoundSoFar.nil 0 [] rfl : BoundSoFar [] [] 0 (ExecParamsHelper.mk []).params).addParam
    purpose text

theorem boundSoFar_whereClause (entries : List (String × String)) :
    BoundSoFar (givenEntries [] entries)
      (columnUses (DbCrud.whereClauseFromKeyValueTable entries ⟨[]⟩).1) 0
      (DbCrud.whereClauseFromKeyValueTable entries ⟨[]⟩).2.params := by
  rw [whereClause_eq]
  exact boundSoFar_entries [] entries ⟨[]⟩

theorem boundSoFar_addParams (columnName : String) (values : List String) :
    BoundSoFar
      (values.map (fun value => (Use.column (escSqlName columnName), Given.value value)))
      ((DbCrud.addParams values ⟨[]⟩).1.map (fun value =>
        (Use.column (escSqlName columnName), value)))
      0 (DbCrud.addParams values ⟨[]⟩).2.params := by
  have hentries := boundSoFar_entries []
    (values.map (fun value => (columnName, value))) ⟨[]⟩
  rw [← addParams_eq, ← addParams_uses, givenEntries, List.map_map] at hentries
  exact hentries

theorem wellBound_countedSelect {given : List (Use × Given)} {filter : Filter}
    {helper : ExecParamsHelper} (h : BoundSoFar given filter.uses 0 helper.params)
    (columns : List String) (tableName sortColumnName : String) (asc : Bool)
    (pageSize page : Int) :
    WellBound (given ++ givenPage pageSize page)
      (DbCrud.countedSelect columns tableName sortColumnName asc pageSize page filter
        helper) := by
  have hpaged := (h.addParam .limit (toString pageSize)).addParam .offset
    (toString (pageOffset page pageSize))
  rw [List.append_assoc, List.append_assoc] at hpaged
  exact BoundSoFar.wellBound hpaged

end Binding

section Generators

variable {s : Schema}

theorem exceptMap_ok {error a b : Type} {x : Except error a} {f : a -> b} {w : b}
    (h : x.map f = .ok w) : exists v, x = .ok v ∧ f v = w := by
  cases x with
  | error err => cases h
  | ok v =>
      cases h
      exact ⟨v, rfl, rfl⟩

theorem exceptSome_ok {error a : Type} {x : Except error a} {v : a}
    (h : x.map some = .ok (some v)) : x = .ok v := by
  rcases exceptMap_ok h with ⟨w, hw, heq⟩
  rw [hw, Option.some.inj heq]

/-- A statement is built after the columns of its table have been read. -/
theorem statement_ok {error a b : Type} {x : Except error a} {f : a -> Except error b} {v : b}
    (h : (x >>= f).map some = .ok (some v)) : exists w, x = .ok w ∧ f w = .ok v :=
  exceptBind_ok (exceptSome_ok h)

theorem lookupRowsByPrimaryKeyValuesSql_some {tableName columnName : String}
    {values : List String} {stmt : CrudStatement}
    (h : DbCrud.lookupRowsByPrimaryKeyValuesSql tableName columnName values = some stmt) :
    stmt = .selectIn (escSqlName tableName) (escSqlName columnName)
      (DbCrud.addParams values ⟨[]⟩).1 (DbCrud.addParams values ⟨[]⟩).2.params := by
  unfold DbCrud.lookupRowsByPrimaryKeyValuesSql at h
  split at h
  · cases h
  · exact (Option.some.inj h).symm

theorem wellBound_selectByColumn {tableName columnName value : String}
    {stmt : CrudStatement}
    (h : DbCrud.selectByColumn s tableName columnName value = .ok stmt) :
    WellBound [(.column (escSqlName columnName), .value value)] stmt := by
  rcases exceptBind_ok h with ⟨columns, _, hrest⟩
  rcases exceptBind_ok hrest with ⟨u, _, hstmt⟩
  cases hstmt
  exact BoundSoFar.wellBound (boundSoFar_single _ _)

theorem wellBound_insert {tableName : String} {table : KeyValueTable}
    {keywords : List String} (returning : Option String) :
    WellBound (givenEntries keywords table.entries)
      (.write
        { tableName := tableName, kind := .insert returning
          columns := DbCrud.generateInsertColumnNames table
          values := (DbCrud.generateInsertParams keywords table.entries ⟨[]⟩).1
          params := (DbCrud.generateInsertParams keywords table.entries ⟨[]⟩).2.params }) := by
  have hentries := boundSoFar_entries keywords table.entries ⟨[]⟩
  apply BoundSoFar.wellBound
  show BoundSoFar _ (columnUses _ ++ []) 0 _
  rw [List.append_nil]
  exact hentries

theorem wellBound_update {tableName columnName columnValue : String}
    {table : KeyValueTable} {keywords : List String} {stmt : RowStatement}
    (h : DbCrud.generateUpdateRowSql s tableName columnName columnValue table keywords =
      .ok stmt) :
    WellBound (givenEntries keywords table.entries ++
      [(.column (escSqlName columnName), .value columnValue)]) (.write stmt) := by
  rcases exceptBind_ok h with ⟨columns, _, hrest⟩
  rcases exceptBind_ok hrest with ⟨u, _, hlookup⟩
  rcases exceptBind_ok hlookup with ⟨u', _, hstmt⟩
  cases hstmt
  have hentries := boundSoFar_entries keywords table.entries ⟨[columnValue]⟩
  have hparams := generateInsertParams_params keywords table.entries
    ⟨[columnValue]⟩
  constructor
  · apply List.rel_append hentries.matched
    refine List.Forall₂.cons ⟨rfl, 0, rfl, ?_⟩ List.Forall₂.nil
    show (DbCrud.generateInsertParams keywords table.entries ⟨[columnValue]⟩).2.params[0]? = _
    rw [hparams]
    rfl
  · show (useNumbers (_ ++ _)).Perm (List.range' 1
      (DbCrud.generateInsertParams keywords table.entries ⟨[columnValue]⟩).2.params.length)
    rw [useNumbers_append]
    have hnumbers := hentries.numbers
    rw [hparams] at hnumbers ⊢
    have hcount : ([columnValue] ++ boundValues keywords table.entries).length =
        (boundValues keywords table.entries).length + 1 := by
      simp
    show (useNumbers (columnUses _) ++ [1]).Perm _
    rw [hcount, List.range'_succ]
    refine (List.perm_append_singleton _ _).trans (List.Perm.cons 1 ?_)
    refine List.Perm.of_eq (hnumbers.trans ?_)
    rw [hcount]
    rfl

theorem wellBound_generate {call : CrudCall} {stmt : CrudStatement}
    (h : call.generate s = .ok (some stmt)) : WellBound call.given stmt := by
  cases call with
  | addRowToTable tableName table keywords =>
      rcases exceptMap_ok h with ⟨row, hrow, heq⟩
      cases heq
      rcases exceptBind_ok hrow with ⟨columns, _, hrest⟩
      rcases exceptBind_ok hrest with ⟨u, _, hstmt⟩
      cases hstmt
      exact wellBound_insert none
  | addRowToTableFetchPrimaryKey tableName table keywords =>
      rcases exceptMap_ok h with ⟨row, hrow, heq⟩
      cases heq
      rcases exceptBind_ok hrow with ⟨columns, _, hrest⟩
      rcases exceptBind_ok hrest with ⟨u, _, hprimary⟩
      rcases exceptBind_ok hprimary with ⟨primaryKey, _, hstmt⟩
      cases hstmt
      exact wellBound_insert (some primaryKey)
  | lookupRowByValue tableName columnName value =>
      have hstmt' := exceptSome_ok h
      exact wellBound_selectByColumn hstmt'
  | lookupRowByValues tableName lookupValues =>
      rcases statement_ok h with ⟨columns, _, hstmt⟩
      cases hstmt
      apply BoundSoFar.wellBound
      show BoundSoFar _ (columnUses _ ++ []) 0 _
      rw [List.append_nil]
      exact boundSoFar_whereClause lookupValues.entries
  | getTableRows tableName =>
      rcases statement_ok h with ⟨columns, _, hstmt⟩
      cases hstmt
      exact BoundSoFar.wellBound (BoundSoFar.nil 0 _ rfl)
  | getRowsByColumn tableName columnName asc pageSize page =>
      rcases statement_ok h with ⟨columns, _, hrest⟩
      rcases exceptBind_ok hrest with ⟨u, _, hstmt⟩
      cases hstmt
      exact BoundSoFar.wellBound ((boundSoFar_single .limit (toString pageSize)).addParam
        .offset (toString (pageOffset page pageSize)))
  | getRowsByValues tableName sortColumnName lookupValues asc pageSize page =>
      rcases statement_ok h with ⟨columns, _, hrest⟩
      rcases exceptBind_ok hrest with ⟨u, _, hfilter⟩
      split at hfilter
      · rename_i hempty
        cases hfilter
        show WellBound (givenEntries [] lookupValues.entries ++ _) _
        rw [hempty]
        exact wellBound_countedSelect (BoundSoFar.nil 0 _ rfl) _ _ _ _ _ _
      · rcases exceptBind_ok hfilter with ⟨u', _, hstmt⟩
        cases hstmt
        exact wellBound_countedSelect (boundSoFar_whereClause _) _ _ _ _ _ _
  | getRowsByValuesWithOrderBy tableName lookupValues orderByColumn asc =>
      rcases statement_ok h with ⟨columns, _, hrest⟩
      rcases exceptBind_ok hrest with ⟨u, _, hfilter⟩
      split at hfilter
      · cases hfilter
      · rcases exceptBind_ok hfilter with ⟨u', _, hstmt⟩
        cases hstmt
        apply BoundSoFar.wellBound
        show BoundSoFar _ (columnUses _ ++ []) 0 _
        rw [List.append_nil]
        exact boundSoFar_whereClause lookupValues.entries
  | getTableRowCount tableName =>
      cases h
      exact BoundSoFar.wellBound (BoundSoFar.nil 0 _ rfl)
  | getRow tableName columnName value =>
      have hstmt' := exceptSome_ok h
      exact wellBound_selectByColumn hstmt'
  | updateRow tableName columnName value table keywords =>
      rcases exceptMap_ok h with ⟨row, hrow, heq⟩
      cases heq
      exact wellBound_update hrow
  | deleteRow tableName columnName value =>
      rcases statement_ok h with ⟨columns, _, hrest⟩
      rcases exceptBind_ok hrest with ⟨u, _, hstmt⟩
      cases hstmt
      exact BoundSoFar.wellBound (boundSoFar_single _ _)
  | deleteRowByValues tableName keyValueTable =>
      rcases statement_ok h with ⟨columns, _, hrest⟩
      rw [deleteConditions_eq] at hrest
      rcases exceptBind_ok hrest with ⟨result, hresult, hstmt⟩
      rcases exceptBind_ok hresult with ⟨u, _, hconditions⟩
      cases hconditions
      cases hstmt
      apply BoundSoFar.wellBound
      exact boundSoFar_whereClause keyValueTable.entries
  | searchRowsByILike tableName sortColumnName searchColumns text asc pageSize page =>
      rcases statement_ok h with ⟨columns, _, hrest⟩
      rcases exceptBind_ok hrest with ⟨u, _, hchecked⟩
      rcases exceptBind_ok hchecked with ⟨u', _, hfilter⟩
      show WellBound ((if searchColumns = [] then [] else _) ++ _) _
      split at hfilter
      · rename_i hempty
        cases hfilter
        rw [if_pos hempty]
        exact wellBound_countedSelect (BoundSoFar.nil 0 _ rfl) _ _ _ _ _ _
      · rename_i hsome
        cases hfilter
        rw [if_neg hsome]
        exact wellBound_countedSelect (boundSoFar_single _ _) _ _ _ _ _ _
  | lookupRowsByPrimaryKeyValues tableName columnName values =>
      cases lookupRowsByPrimaryKeyValuesSql_some (Except.ok.inj h)
      exact BoundSoFar.wellBound (boundSoFar_addParams columnName values)

/-!
# Texts
-/

def CrudCall.sentText (s : Schema) (quoteName : String -> String) (call : CrudCall) :
    Except Exn (Option String) :=
  (call.generate s).map (Option.map (CrudStatement.text quoteName))

def textOf (quoteName : String -> String) (x : Except Exn CrudStatement) :
    Except Exn (Option String) :=
  x.map (fun stmt => some (stmt.text quoteName))

theorem sentText_of {call : CrudCall} {x : Except Exn CrudStatement}
    (h : call.generate s = x.map some) (quoteName : String -> String) :
    call.sentText s quoteName = textOf quoteName x := by
  unfold CrudCall.sentText textOf
  rw [h]
  cases x with
  | error err => rfl
  | ok stmt => rfl

def rowTextOf (quoteName : String -> String) (x : Except Exn RowStatement) :
    Except Exn (Option String) :=
  x.map (fun stmt => some (CrudStatement.text quoteName (.write stmt)))

theorem sentText_ofRow {call : CrudCall} {x : Except Exn RowStatement}
    (h : call.generate s = x.map (some ∘ .write)) (quoteName : String -> String) :
    call.sentText s quoteName = rowTextOf quoteName x := by
  unfold CrudCall.sentText rowTextOf
  rw [h]
  cases x with
  | error err => rfl
  | ok stmt => rfl

theorem exceptMap_congr {error a b c : Type} {x : Except error a}
    {f f' : a -> Except error b} {g : b -> c} (h : forall v, (f v).map g = (f' v).map g) :
    (x >>= f).map g = (x >>= f').map g := by
  cases x with
  | error err => rfl
  | ok v => exact h v

theorem checkKeysInTable_congr {table table' : KeyValueTable} (h : table.keys = table'.keys)
    (columns : List String) :
    DbCrud.checkKeysInTable table columns = DbCrud.checkKeysInTable table' columns := by
  unfold DbCrud.checkKeysInTable
  rw [h]

theorem whereClause_congr {table table' : KeyValueTable} (h : table.keys = table'.keys) :
    (DbCrud.whereClauseFromKeyValueTable table.entries ⟨[]⟩).1 =
        (DbCrud.whereClauseFromKeyValueTable table'.entries ⟨[]⟩).1 ∧
      (DbCrud.whereClauseFromKeyValueTable table.entries ⟨[]⟩).2.params.length =
        (DbCrud.whereClauseFromKeyValueTable table'.entries ⟨[]⟩).2.params.length := by
  have hkeys : table.entries.map Prod.fst = table'.entries.map Prod.fst := h
  have hvalues := @generateInsertParams_congr _ _ _ (sameEntries_of_keys hkeys) ⟨[]⟩ ⟨[]⟩ rfl
  rw [whereClause_eq, whereClause_eq, hkeys]
  refine ⟨?_, hvalues.2⟩
  rw [hvalues.1]

theorem entries_nil_congr {table table' : KeyValueTable} (h : table.keys = table'.keys) :
    table.entries = [] <-> table'.entries = [] := by
  have hkeys : table.entries.map Prod.fst = table'.entries.map Prod.fst := h
  rw [← List.map_eq_nil_iff, hkeys, List.map_eq_nil_iff]

variable {pageSize pageSize' page page' : Int}

theorem countedSelect_text (quoteName : String -> String) {columns : List String}
    {tableName sortColumnName : String} {asc : Bool}
    {filter : Filter} {helper helper' : ExecParamsHelper}
    (h : helper.params.length = helper'.params.length) :
    (DbCrud.countedSelect columns tableName sortColumnName asc pageSize page filter
        helper).text quoteName =
      (DbCrud.countedSelect columns tableName sortColumnName asc pageSize' page' filter
        helper').text quoteName := by
  show SelectStatement.text quoteName _ = SelectStatement.text quoteName _
  unfold SelectStatement.text
  congr 1
  show pagingText (some ⟨true, .param (helper.params.length + 1),
      .param ((helper.params ++ [toString pageSize]).length + 1)⟩) =
    pagingText (some ⟨true, .param (helper'.params.length + 1),
      .param ((helper'.params ++ [toString pageSize']).length + 1)⟩)
  rw [List.length_append, List.length_append, h]
  rfl

theorem selectByColumn_text (quoteName : String -> String)
    {tableName columnName value value' : String} :
    textOf quoteName (DbCrud.selectByColumn s tableName columnName value) =
      textOf quoteName (DbCrud.selectByColumn s tableName columnName value') := by
  apply exceptMap_congr
  intro columns
  apply exceptMap_congr
  intro u
  rfl

theorem rowText_congr (quoteName : String -> String) (tableName : String) (kind : RowKind)
    {columns columns' : List String} {values values' : List SqlValue}
    {params params' : List String} (hcolumns : columns = columns')
    (hvalues : values = values') :
    CrudStatement.text quoteName (.write ⟨tableName, kind, columns, values, params⟩) =
      CrudStatement.text quoteName (.write ⟨tableName, kind, columns', values', params'⟩) := by
  rw [hcolumns, hvalues]
  rfl

section Texts

variable {tableName : String} {table table' : KeyValueTable} {keywords : List String}

theorem addRowToTable_text (h : SameEntries keywords table.entries table'.entries)
    (quoteName : String -> String) :
    rowTextOf quoteName (DbCrud.generateAddRowToTableSql s tableName table keywords) =
      rowTextOf quoteName (DbCrud.generateAddRowToTableSql s tableName table' keywords) := by
  have hkeys : table.keys = table'.keys := h.keys
  have hvalues := @generateInsertParams_congr _ _ _ h ⟨[]⟩ ⟨[]⟩ rfl
  unfold DbCrud.generateAddRowToTableSql rowTextOf
  simp only [checkKeysInTable_congr hkeys]
  apply exceptMap_congr
  intro columns
  apply exceptMap_congr
  intro u
  exact congrArg (fun text => Except.ok (some text))
    (rowText_congr quoteName _ _ (congrArg (List.map escSqlName) hkeys) hvalues.1)

theorem addRowToTableFetchPrimaryKey_text
    (h : SameEntries keywords table.entries table'.entries)
    (quoteName : String -> String) :
    rowTextOf quoteName
        (DbCrud.generateAddRowToTableFetchIntPrimaryKeySql s tableName table keywords) =
      rowTextOf quoteName
        (DbCrud.generateAddRowToTableFetchIntPrimaryKeySql s tableName table' keywords) := by
  have hkeys : table.keys = table'.keys := h.keys
  have hvalues := @generateInsertParams_congr _ _ _ h ⟨[]⟩ ⟨[]⟩ rfl
  unfold DbCrud.generateAddRowToTableFetchIntPrimaryKeySql rowTextOf
  simp only [checkKeysInTable_congr hkeys]
  apply exceptMap_congr
  intro columns
  apply exceptMap_congr
  intro u
  apply exceptMap_congr
  intro primaryKey
  exact congrArg (fun text => Except.ok (some text))
    (rowText_congr quoteName _ _ (congrArg (List.map escSqlName) hkeys) hvalues.1)

theorem updateRow_text {columnName value value' : String}
    (h : SameEntries keywords table.entries table'.entries)
    (quoteName : String -> String) :
    rowTextOf quoteName
        (DbCrud.generateUpdateRowSql s tableName columnName value table keywords) =
      rowTextOf quoteName
        (DbCrud.generateUpdateRowSql s tableName columnName value' table' keywords) := by
  have hkeys : table.keys = table'.keys := h.keys
  have hvalues := @generateInsertParams_congr _ _ _ h ⟨[value]⟩ ⟨[value']⟩ rfl
  unfold DbCrud.generateUpdateRowSql rowTextOf
  simp only [checkKeysInTable_congr hkeys]
  apply exceptMap_congr
  intro columns
  apply exceptMap_congr
  intro u
  apply exceptMap_congr
  intro u'
  exact congrArg (fun text => Except.ok (some text))
    (rowText_congr quoteName _ _ (congrArg (List.map escSqlName) hkeys) hvalues.1)

theorem selectText_congr (quoteName : String -> String) (columns : List String)
    (counted : Bool) (order : Option (String × Bool)) (paging : Option Paging)
    {conditions conditions' : List (String × SqlValue)} {params params' : List String}
    (h : conditions = conditions') :
    CrudStatement.text quoteName (.select
        ⟨columns, counted, tableName, .equals conditions, order, paging, params⟩) =
      CrudStatement.text quoteName (.select
        ⟨columns, counted, tableName, .equals conditions', order, paging, params'⟩) := by
  rw [h]
  rfl

theorem lookupRowByValues_text (h : table.keys = table'.keys)
    (quoteName : String -> String) :
    textOf quoteName (DbCrud.generateLookupRowByValuesSql s tableName table) =
      textOf quoteName (DbCrud.generateLookupRowByValuesSql s tableName table') := by
  apply exceptMap_congr
  intro columns
  exact congrArg (fun text => Except.ok (some text))
    (selectText_congr quoteName _ _ _ _ (whereClause_congr h).1)

theorem getRowsByValues_text {sortColumnName : String} {asc : Bool} (h : table.keys = table'.keys)
    (quoteName : String -> String) :
    textOf quoteName (DbCrud.generateGetRowsByValuesSql s tableName sortColumnName table
        asc pageSize page) =
      textOf quoteName (DbCrud.generateGetRowsByValuesSql s tableName sortColumnName table'
        asc pageSize' page') := by
  have hwhere := whereClause_congr h
  unfold DbCrud.generateGetRowsByValuesSql textOf
  simp only [checkKeysInTable_congr h, entries_nil_congr h]
  apply exceptMap_congr
  intro columns
  apply exceptMap_congr
  intro u
  split
  · exact congrArg (fun text => Except.ok (some text)) (countedSelect_text quoteName rfl)
  · apply exceptMap_congr
    intro u'
    rw [hwhere.1]
    exact congrArg (fun text => Except.ok (some text))
      (countedSelect_text quoteName hwhere.2)

theorem getRowsByValuesWithOrderBy_text {orderByColumn : String} {asc : Bool}
    (h : table.keys = table'.keys) (quoteName : String -> String) :
    textOf quoteName
        (DbCrud.generateGetRowsByValuesWithOrderBySql s tableName table orderByColumn asc) =
      textOf quoteName
        (DbCrud.generateGetRowsByValuesWithOrderBySql s tableName table' orderByColumn
          asc) := by
  unfold DbCrud.generateGetRowsByValuesWithOrderBySql textOf
  simp only [checkKeysInTable_congr h, entries_nil_congr h]
  apply exceptMap_congr
  intro columns
  apply exceptMap_congr
  intro u
  split
  · rfl
  · apply exceptMap_congr
    intro u'
    exact congrArg (fun text => Except.ok (some text))
      (selectText_congr quoteName _ _ _ _ (whereClause_congr h).1)

theorem deleteRowByValues_text (h : table.keys = table'.keys)
    (quoteName : String -> String) :
    textOf quoteName (DbCrud.generateDeleteRowByValuesSql s tableName table) =
      textOf quoteName (DbCrud.generateDeleteRowByValuesSql s tableName table') := by
  have hkeys : table.entries.map Prod.fst = table'.entries.map Prod.fst := h
  have hwhere := (whereClause_congr h).1
  unfold DbCrud.generateDeleteRowByValuesSql textOf
  simp only [deleteConditions_eq, hkeys]
  apply exceptMap_congr
  intro columns
  cases (table'.entries.map Prod.fst).forM
      (DbCrud.lookupDatabaseColumnInfoByColumnName columns) with
  | error err => rfl
  | ok u =>
      show Except.ok (some (CrudStatement.text quoteName (.delete _ _ _))) =
        Except.ok (some (CrudStatement.text quoteName (.delete _ _ _)))
      unfold CrudStatement.text
      rw [hwhere]

theorem searchRowsByILike_text {sortColumnName text text' : String}
    {searchColumns : List String} {asc : Bool} (quoteName : String -> String) :
    textOf quoteName (DbCrud.generateSearchRowsByILikeSql s tableName sortColumnName
        searchColumns text asc pageSize page) =
      textOf quoteName (DbCrud.generateSearchRowsByILikeSql s tableName sortColumnName
        searchColumns text' asc pageSize' page') := by
  unfold DbCrud.generateSearchRowsByILikeSql textOf
  apply exceptMap_congr
  intro columns
  apply exceptMap_congr
  intro u
  apply exceptMap_congr
  intro u'
  split
  · exact congrArg (fun text => Except.ok (some text)) (countedSelect_text quoteName rfl)
  · exact congrArg (fun text => Except.ok (some text)) (countedSelect_text quoteName rfl)

theorem lookupRowsByPrimaryKeyValues_text {columnName : String}
    {values values' : List String} (h : values.length = values'.length)
    (quoteName : String -> String) :
    (DbCrud.lookupRowsByPrimaryKeyValuesSql tableName columnName values).map
        (CrudStatement.text quoteName) =
      (DbCrud.lookupRowsByPrimaryKeyValuesSql tableName columnName values').map
        (CrudStatement.text quoteName) := by
  have hentries : (values.map (fun value => ("", value))).map Prod.fst =
      (values'.map (fun value => ("", value))).map Prod.fst := by
    simp [Function.comp_def, List.map_const', h]
  have hparams : (DbCrud.addParams values ⟨[]⟩).1 = (DbCrud.addParams values' ⟨[]⟩).1 := by
    rw [addParams_eq "", addParams_eq ""]
    exact (generateInsertParams_congr (sameEntries_of_keys hentries) rfl).1
  have hempty : values = [] <-> values' = [] := by
    rw [← List.length_eq_zero_iff, h, List.length_eq_zero_iff]
  unfold DbCrud.lookupRowsByPrimaryKeyValuesSql
  simp only [hempty]
  split
  · rfl
  · show some (CrudStatement.text quoteName (.selectIn _ _ _ _)) =
      some (CrudStatement.text quoteName (.selectIn _ _ _ _))
    unfold CrudStatement.text
    rw [hparams]

end Texts

theorem sentText_sameShape {call call' : CrudCall} (h : SameShape call call')
    (quoteName : String -> String) :
    call.sentText s quoteName = call'.sentText s quoteName := by
  cases h with
  | addRowToTable h =>
      rw [sentText_ofRow rfl, sentText_ofRow rfl]
      exact addRowToTable_text h quoteName
  | addRowToTableFetchPrimaryKey h =>
      rw [sentText_ofRow rfl, sentText_ofRow rfl]
      exact addRowToTableFetchPrimaryKey_text h quoteName
  | lookupRowByValue =>
      rw [sentText_of rfl, sentText_of rfl]
      exact selectByColumn_text quoteName
  | lookupRowByValues h =>
      rw [sentText_of rfl, sentText_of rfl]
      exact lookupRowByValues_text h quoteName
  | getTableRows => rfl
  | getRowsByColumn =>
      rw [sentText_of rfl, sentText_of rfl]
      apply exceptMap_congr
      intro columns
      apply exceptMap_congr
      intro u
      rfl
  | getRowsByValues h =>
      rw [sentText_of rfl, sentText_of rfl]
      exact getRowsByValues_text h quoteName
  | getRowsByValuesWithOrderBy h =>
      rw [sentText_of rfl, sentText_of rfl]
      exact getRowsByValuesWithOrderBy_text h quoteName
  | getTableRowCount => rfl
  | getRow =>
      rw [sentText_of rfl, sentText_of rfl]
      exact selectByColumn_text quoteName
  | updateRow h =>
      rw [sentText_ofRow rfl, sentText_ofRow rfl]
      exact updateRow_text h quoteName
  | deleteRow =>
      rw [sentText_of rfl, sentText_of rfl]
      apply exceptMap_congr
      intro columns
      apply exceptMap_congr
      intro u
      rfl
  | deleteRowByValues h =>
      rw [sentText_of rfl, sentText_of rfl]
      exact deleteRowByValues_text h quoteName
  | searchRowsByILike =>
      rw [sentText_of rfl, sentText_of rfl]
      exact searchRowsByILike_text quoteName
  | lookupRowsByPrimaryKeyValues h =>
      exact congrArg Except.ok (lookupRowsByPrimaryKeyValues_text h quoteName)

end Generators

/-- The texts of all generators depend on names, keywords and flags only, and the
placeholders stand where the values that are bound to them belong. -/
theorem sqlText_values (s : Schema) (quoteName : String -> String) :
    (forall call call', SameShape call call' ->
      call.sentText s quoteName = call'.sentText s quoteName) ∧
    forall (call : CrudCall) (stmt : CrudStatement),
      call.generate s = .ok (some stmt) -> WellBound call.given stmt := by
  constructor
  · intro call call' h
    exact sentText_sameShape h quoteName
  · intro call stmt h
    exact wellBound_generate h

def peopleNamed (firstName : String) (page : Int) : CrudCall :=
  .getRowsByValues "people" "id" (SortedMap.empty.set "first_name" firstName) true 10 page

/-- The second page of the people with one first name. -/
def peopleNamedStatement (firstName : String) : CrudStatement :=
  .select
    { columns := ["id", "email", "first_name", "last_name", "updated_at"], counted := true
      tableName := "people", filter := .equals [("first_name", .param 1)]
      order := some ("id", true)
      paging := some { nullIf := true, limit := .param 2, offset := .param 3 }
      params := [firstName, "10", "20"] }

theorem sqlText_values_people :
    (peopleNamed "Ann" 2).sentText storedPeopleSchema id =
        (peopleNamed "' OR 1 = 1" 3).sentText storedPeopleSchema id ∧
      WellBound (peopleNamed "Ann" 2).given (peopleNamedStatement "Ann") := by
  constructor
  · exact (sqlText_values storedPeopleSchema id).1 _ _ (SameShape.getRowsByValues rfl)
  · exact (sqlText_values storedPeopleSchema id).2 _ _ (by decide +kernel)

def Use.columns : Use -> List String
  | .column name => [name]
  | .searched columns => columns
  | .limit => []
  | .offset => []

/-- The columns that a placeholder is used for. -/
def CrudStatement.columnsFor (stmt : CrudStatement) (number : Nat) : List String :=
  stmt.uses.flatMap (fun use => if use.2 = .param number then use.1.columns else [])

def namesLike (searchText : String) : CrudCall :=
  .searchRowsByILike "people" "id" ["first_name", "last_name"] searchText true 10 0

def namesLikeStatement (searchText : String) : CrudStatement :=
  .select
    { columns := ["id", "email", "first_name", "last_name", "updated_at"], counted := true
      tableName := "people", filter := .search ["first_name", "last_name"] (.param 1)
      order := some ("id", true)
      paging := some { nullIf := true, limit := .param 2, offset := .param 3 }
      params := ["%" ++ searchText ++ "%", "10", "0"] }

/-- A search binds its pattern once for all its columns and the page to no column, and a
list of keys has a placeholder for each key. -/
theorem sqlText_sharedPattern :
    Not (forall (call : CrudCall) (stmt : CrudStatement),
      call.generate storedPeopleSchema = .ok (some stmt) ->
        forall n, n < stmt.params.length -> exists column,
          stmt.columnsFor (n + 1) = [column]) ∧
      (namesLike "ann").sentText storedPeopleSchema id = .ok (some
        ("SELECT id, email, first_name, last_name, updated_at, COUNT(*) OVER() AS " ++
          "_total_count FROM people WHERE (first_name::text ILIKE $1 OR last_name::text " ++
          "ILIKE $1) ORDER BY id ASC LIMIT NULLIF($2, 0) OFFSET $3")) ∧
      CrudCall.sentText storedPeopleSchema id
          (.lookupRowsByPrimaryKeyValues "people" "id" ["7"]) ≠
        CrudCall.sentText storedPeopleSchema id
          (.lookupRowsByPrimaryKeyValues "people" "id" ["7", "8"]) := by
  refine ⟨?_, by decide +kernel, by decide +kernel⟩
  intro h
  rcases h (namesLike "ann") (namesLikeStatement "ann") (by decide +kernel) 0 (by decide) with
    ⟨column, hcolumn⟩
  have hshared : (namesLikeStatement "ann").columnsFor 1 = ["first_name", "last_name"] := by
    decide
  rw [hshared] at hcolumn
  cases hcolumn

end Rest
end ServerComponents
