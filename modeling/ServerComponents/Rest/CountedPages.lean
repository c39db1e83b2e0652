import ServerComponents.Rest.Noninterference
import ServerComponents.Rest.RoleTables

/-!
# Pages with a count

Two operations answer one page of a table together with a count.  One counts the table
in a statement of its own; the other reads the count from the first row of its page.
-/

namespace ServerComponents
namespace Rest

open Relational SortedMap

/-- What a client asks for when it wants a page with a count. -/
structure PageRequest where
  tableName : String
  sortColumnName : String
  lookupValues : KeyValueTable
  asc : Bool
  pageSize : Int
  page : Int

def Json.reports (answer : Json) (total : Nat) : Prop :=
  answer.child? "totalCount" = some (.int total)

section Requests

variable {s : Schema} (engine : Engine s) (columnRedactions : ColumnRedactionSet)
  (db : Database s)

def byColumn (request : PageRequest) : Except Exn Json :=
  DatabaseRESTHelper.getRowsByColumnWithCount engine columnRedactions db request.tableName
    request.sortColumnName request.asc request.pageSize request.page

def byValues (request : PageRequest) : Except Exn Json :=
  DatabaseRESTHelper.getRowsByValuesWithCount engine columnRedactions db request.tableName
    request.sortColumnName request.lookupValues request.asc request.pageSize request.page

def matchingRows (t : TableInfo) (request : PageRequest) : List Row :=
  (db.rows t.tableName).filter (DbCrud.holdsAll engine t request.lookupValues.entries)

/-- Without a filter the two answer the same, and each reports the rows that match. -/
structure CountsAgree (request : PageRequest) : Prop where
  same : request.lookupValues.entries = [] ->
    byValues engine columnRedactions db request = byColumn engine columnRedactions db request
  matching : forall t answer, s.find? request.tableName = some t ->
    byValues engine columnRedactions db request = .ok answer ->
      answer.reports (matchingRows engine db t request).length
  all : forall t answer, s.find? request.tableName = some t ->
    byColumn engine columnRedactions db request = .ok answer ->
      answer.reports (db.rows t.tableName).length

/-- The request names columns of a table and sorts by none that is called like the count, its
values can be read at their types, and its page is not before the first one. -/
structure PageRequest.Admitted (request : PageRequest) (t : TableInfo) : Prop where
  found : s.find? request.tableName = some t
  sorted : request.sortColumnName ∈ t.names
  keys : forall k, k ∈ request.lookupValues.keys -> k ∈ t.names
  castable : forall e, e ∈ request.lookupValues.entries ->
    engine.castable t.tableName e.1 e.2 = .ok ()
  unambiguous : request.sortColumnName ≠ kTotalCount
  pageSize : 0 ≤ request.pageSize
  offset : 0 ≤ pageOffset request.page request.pageSize

/-- No column with the name of the count is shown. -/
def CountHidden (t : TableInfo) : Prop :=
  kTotalCount ∈ t.names -> columnRedactions.contains (t.tableName, kTotalCount) = true

/-- The page has a row, is not cut to none, and loses no column to the count. -/
def PageRequest.ShowsRows (request : PageRequest) (t : TableInfo) (rows : List Row) : Prop :=
  pageOffset request.page request.pageSize < rows.length ∧
    (request.lookupValues.entries = [] ->
      request.pageSize ≠ 0 ∧ CountHidden columnRedactions t)

end Requests

/-!
# Names
-/

section Names

variable {s : Schema} {tableName : String} {t : TableInfo}

theorem sqlTable_of_exact (h : s.find? tableName = some t) :
    sqlTable s tableName = .ok t := by
  rcases Schema.find?_some h with ⟨hmem, hname⟩
  apply sqlTable_of_find
  rw [← hname, (s.folded t hmem).1, hname]
  exact h

theorem listColumns_of_exact (h : s.find? tableName = some t) :
    DbMeta.listColumns s tableName = .ok t.names := by
  unfold DbMeta.listColumns
  rw [sqlTable_of_exact h]
  exact congrArg Except.ok (if_pos (Schema.find?_some h).2)

theorem sqlColumn_of_mem (h : s.find? tableName = some t) {c : String} (hc : c ∈ t.names) :
    sqlColumn t c = .ok c := by
  unfold sqlColumn
  rw [(s.folded t (Schema.find?_some h).1).2 c hc, if_pos hc]

theorem countedSortColumn_of_mem (h : s.find? tableName = some t) {c : String}
    (hc : c ∈ t.names) (hne : c ≠ kTotalCount) : countedSortColumn t c = .ok c := by
  unfold countedSortColumn
  rw [sqlColumn_of_mem h hc]
  exact if_neg hne

theorem listColumns_cases (s : Schema) (tableName : String) :
    (exists t, s.find? tableName = some t) ∨
      DbMeta.listColumns s tableName = .error (.sql .undefinedTable) ∨
        DbMeta.listColumns s tableName = .ok [] := by
  cases htable : sqlTable s tableName with
  | error e =>
      refine Or.inr (Or.inl ?_)
      have he : e = .sql .undefinedTable := by
        unfold sqlTable at htable
        split at htable
        · cases htable
          rfl
        · cases htable
      rw [he] at htable
      unfold DbMeta.listColumns
      rw [htable]
      rfl
  | ok t =>
      by_cases hname : t.tableName = tableName
      · left
        exists t
        rw [← find?_of_sqlTable htable, ← (sqlTable_ok htable).2, hname]
      · refine Or.inr (Or.inr ?_)
        unfold DbMeta.listColumns
        rw [htable]
        exact congrArg Except.ok (if_neg hname)

end Names

/-!
# One page
-/

theorem exceptForM_ok {error a : Type} {f : a -> Except error Unit} {l : List a}
    (h : forall x, x ∈ l -> f x = .ok ()) : l.forM f = .ok () := by
  induction l with
  | nil => rfl
  | cons x rest ih =>
      rw [List.forM, h x (by simp)]
      exact ih (fun y hy => h y (List.mem_cons_of_mem x hy))

theorem mem_keys_applyRedactions {columnRedactions : ColumnRedactionSet}
    {tableName k : String} {m : KeyValueTable} :
    k ∈ (DatabaseRESTHelper.applyRedactions columnRedactions tableName m).keys <->
      k ∈ m.keys ∧ columnRedactions.contains (tableName, k) = false := by
  unfold DatabaseRESTHelper.applyRedactions
  rw [SortedMap.mem_keys_filterKeys, Bool.not_eq_true']

theorem exceptForM_passes {error a : Type} {f : a -> Except error Unit} {l : List a}
    (h : l.forM f = .ok ()) (x : a) (hx : x ∈ l) : f x = .ok () := by
  induction l with
  | nil => cases hx
  | cons y rest ih =>
      rw [List.forM] at h
      rcases exceptBind_ok h with ⟨_, hy, hrest⟩
      rcases List.mem_cons.mp hx with heq | hmem
      · rw [heq]
        exact hy
      · exact ih hrest hmem

theorem exceptMapM_passes {error a b : Type} {f : a -> Except error b} {l : List a}
    {values : List b} (h : l.mapM f = .ok values) (x : a) (hx : x ∈ l) :
    exists value, f x = .ok value := by
  induction l generalizing values with
  | nil => cases hx
  | cons y rest ih =>
      rw [List.mapM_cons] at h
      rcases exceptBind_ok h with ⟨value, hy, h⟩
      rcases exceptBind_ok h with ⟨values', hrest, -⟩
      rcases List.mem_cons.mp hx with heq | hmem
      · rw [heq]
        exact ⟨value, hy⟩
      · exact ih hrest hmem

section Pages

variable {s : Schema} (columnRedactions : ColumnRedactionSet) (t : TableInfo)

def shownRow (columns : List String) (row : Row) : KeyValueTable :=
  DatabaseRESTHelper.applyRedactions columnRedactions t.tableName (toKeyValueTable columns row)

/-- The answer that shows these columns of the rows with this count. -/
def pageAnswer (columns : List String) (rows : List Row) (total : Int) : Except Exn Json := do
  let dataResults ← makeDataResultsFromKeyValueTableArray
    (rows.map (shownRow columnRedactions t columns))
  pure (jsonFromDataResultsWithCount dataResults total)

theorem mem_keys_shownRow {columns : List String} {row : Row} {k : String} :
    k ∈ (shownRow columnRedactions t columns row).keys <->
      k ∈ columns ∧ columnRedactions.contains (t.tableName, k) = false := by
  unfold shownRow
  rw [mem_keys_applyRedactions, (toKeyValueTable_spec columns row).1]

theorem pageAnswer_ok (columns : List String) (rows : List Row) (total : Int) :
    exists dataResults, dataResults.dataTable.length = rows.length ∧
      (rows ≠ [] -> forall k, k ∈ dataResults.sortedColumnNames <->
        k ∈ columns ∧ columnRedactions.contains (t.tableName, k) = false) ∧
      pageAnswer columnRedactions t columns rows total =
        .ok (jsonFromDataResultsWithCount dataResults total) := by
  cases rows with
  | nil => exact ⟨⟨[], []⟩, rfl, fun h => absurd rfl h, rfl⟩
  | cons first rest =>
      have hcheck : forall table,
          table ∈ (first :: rest).map (shownRow columnRedactions t columns) ->
            table.keys.all (fun key =>
              (shownRow columnRedactions t columns first).keys.contains key) = true := by
        intro table htable
        rcases List.mem_map.mp htable with ⟨row, -, rfl⟩
        rw [List.all_eq_true]
        intro k hk
        rw [List.contains_iff_mem]
        exact (mem_keys_shownRow columnRedactions t).mpr
          ((mem_keys_shownRow columnRedactions t).mp hk)
      unfold pageAnswer makeDataResultsFromKeyValueTableArray
      rw [List.map_cons]
      dsimp only
      rw [← List.map_cons, exceptForM_ok (fun table htable => if_pos (hcheck table htable))]
      refine ⟨_, ?_, fun _ k => mem_keys_shownRow columnRedactions t, rfl⟩
      simp

theorem reports_iff (dataResults : DataResults) (total : Int) (n : Nat) :
    (jsonFromDataResultsWithCount dataResults total).reports n <-> total = n := by
  have hchild : (jsonFromDataResultsWithCount dataResults total).child? "totalCount" =
      some (.int total) := rfl
  unfold Json.reports
  rw [hchild]
  simp

theorem dataResults_eq {dataResults dataResults' : DataResults} {total total' : Int}
    (h : jsonFromDataResultsWithCount dataResults total =
      jsonFromDataResultsWithCount dataResults' total') :
    dataResults.dataTable.length = dataResults'.dataTable.length ∧
      dataResults.sortedColumnNames = dataResults'.sortedColumnNames := by
  unfold jsonFromDataResultsWithCount at h
  simp only [Json.obj.injEq, List.cons.injEq, Prod.mk.injEq, Json.arr.injEq, true_and] at h
  have hnames := Json.arr.inj h.2.1
  exact ⟨by simpa using congrArg List.length h.1,
    List.map_injective_iff.mpr (fun _ _ heq => Json.str.inj heq) hnames⟩

theorem pageAnswer_counted (h : CountHidden columnRedactions t) :
    pageAnswer columnRedactions t (countedColumns t.names) =
      pageAnswer columnRedactions t t.names := by
  have hshown : shownRow columnRedactions t (countedColumns t.names) =
      shownRow columnRedactions t t.names := by
    funext row
    refine SortedMap.ext_values (fun c => (row c).getD "") (fun k => ?_)
      (fun e he => (toKeyValueTable_spec _ row).2 e (List.mem_filter.mp he).1)
      (fun e he => (toKeyValueTable_spec _ row).2 e (List.mem_filter.mp he).1)
    rw [mem_keys_shownRow, mem_keys_shownRow, mem_countedColumns]
    refine ⟨fun hk => ⟨hk.1.1, hk.2⟩, fun hk => ⟨⟨hk.1, ?_⟩, hk.2⟩⟩
    rintro rfl
    rw [h hk.1] at hk
    cases hk.2
  unfold pageAnswer
  rw [hshown]

theorem countHidden_of_eq {rows : List Row} {total total' : Int} (hne : rows ≠ [])
    (h : pageAnswer columnRedactions t (countedColumns t.names) rows total =
      pageAnswer columnRedactions t t.names rows total') : CountHidden columnRedactions t := by
  rcases pageAnswer_ok columnRedactions t (countedColumns t.names) rows total with
    ⟨counted, -, hcounted, hcountedAnswer⟩
  rcases pageAnswer_ok columnRedactions t t.names rows total' with
    ⟨shown, -, hshown, hshownAnswer⟩
  rw [hcountedAnswer, hshownAnswer] at h
  have hnames := (dataResults_eq (Except.ok.inj h)).2
  intro hown
  by_contra hvisible
  have hin := (hshown hne kTotalCount).mpr ⟨hown, Bool.eq_false_iff.mpr hvisible⟩
  rw [← hnames] at hin
  exact (mem_countedColumns.mp ((hcounted hne kTotalCount).mp hin).1).2 rfl

theorem countedPage_eq {rows : List Row} {columns : List String}
    (hlength : IsInt64 rows.length) (pageSize page : Int) :
    DbCrud.countedPage columns rows pageSize page =
      (limitOffset (if pageSize = 0 then none else some pageSize) (pageOffset page pageSize)
        rows).bind (fun pageRows => .ok (pageRows.map (toKeyValueTable (countedColumns columns)),
          if pageRows = [] then 0 else (rows.length : Int))) := by
  unfold DbCrud.countedPage
  cases limitOffset (if pageSize = 0 then none else some pageSize) (pageOffset page pageSize)
      rows with
  | error e => rfl
  | ok pageRows =>
      have hread : stoll (toString rows.length) = .ok (rows.length : Int) :=
        stoll_number ⟨rows.length, hlength⟩
      cases pageRows with
      | nil => rfl
      | cons first rest =>
          change (do
            let totalCount ← stoll ((((toKeyValueTable columns first).set kTotalCount
              (toString rows.length)).find? kTotalCount).getD "")
            pure (((first :: rest).map (fun row => (toKeyValueTable columns row).set
              kTotalCount (toString rows.length))).map
                (fun row : KeyValueTable => row.erase kTotalCount), totalCount)) = _
          rw [find?_set_self, Option.getD_some, hread, List.map_map]
          have hcomp : ((fun row : KeyValueTable => row.erase kTotalCount) ∘
              fun row => (toKeyValueTable columns row).set kTotalCount
                (toString rows.length)) = toKeyValueTable (countedColumns columns) :=
            funext (fun row => erase_count columns row _)
          rw [hcomp]
          rfl

end Pages

/-!
# The two operations
-/

section Operations

variable {s : Schema} (engine : Engine s) (columnRedactions : ColumnRedactionSet)
  (db : Database s) {request : PageRequest} {t : TableInfo}

def arranged (t : TableInfo) (request : PageRequest) (rows : List Row) : List Row :=
  engine.arrange t.tableName (some (request.sortColumnName, request.asc)) rows

theorem length_arranged (t : TableInfo) (request : PageRequest) (rows : List Row) :
    (arranged engine t request rows).length = rows.length :=
  (engine.arrange_perm _ _ rows).length_eq

theorem byColumn_eq (hfind : s.find? request.tableName = some t)
    (hsort : request.sortColumnName ∈ t.names) :
    byColumn engine columnRedactions db request =
      (limitOffset (some request.pageSize) (pageOffset request.page request.pageSize)
        (arranged engine t request (db.rows t.tableName))).bind (fun rows =>
          pageAnswer columnRedactions t t.names rows (db.rows t.tableName).length) := by
  have hname := (Schema.find?_some hfind).2
  have hrows : DbCrud.selectRows engine db t (fun _ => true)
      (some (request.sortColumnName, request.asc)) =
      arranged engine t request (db.rows t.tableName) := by
    unfold DbCrud.selectRows arranged
    rw [List.filter_eq_self.mpr (fun _ _ => rfl)]
  have hcolumn : DbCrud.lookupDatabaseColumnInfoByColumnName t.names
      request.sortColumnName = .ok () := if_pos hsort
  unfold byColumn DatabaseRESTHelper.getRowsByColumnWithCount DbCrud.getRowsByColumn
    DbCrud.getTableRowCount
  rw [listColumns_of_exact hfind, sqlTable_of_exact hfind]
  simp only [bind, Except.bind, hcolumn, sqlColumn_of_mem hfind hsort, hrows]
  cases limitOffset (some request.pageSize) (pageOffset request.page request.pageSize)
      (arranged engine t request (db.rows t.tableName)) with
  | error e => rfl
  | ok rows =>
      unfold pageAnswer shownRow
      rw [hname]
      simp only [pure, Except.pure, List.map_map, Function.comp_def]
      rfl

theorem checkKeysInTable_of_mem {table : KeyValueTable} {columns : List String}
    (h : forall k, k ∈ table.keys -> k ∈ columns) :
    DbCrud.checkKeysInTable table columns = .ok () :=
  exceptForM_ok (fun k hk => if_pos (h k hk))

theorem whereClause_of_mem (hfind : s.find? request.tableName = some t)
    {conditions : List (String × String)}
    (hkeys : forall e, e ∈ conditions -> e.1 ∈ t.names)
    (hcastable : forall e, e ∈ conditions -> engine.castable t.tableName e.1 e.2 = .ok ()) :
    DbCrud.whereClause engine t conditions = .ok conditions := by
  unfold DbCrud.whereClause
  induction conditions with
  | nil => rfl
  | cons e rest ih =>
      rw [List.mapM_cons, sqlColumn_of_mem hfind (hkeys e (by simp)),
        ih (fun e' he' => hkeys e' (List.mem_cons_of_mem e he'))
          (fun e' he' => hcastable e' (List.mem_cons_of_mem e he'))]
      simp only [bind, Except.bind, hcastable e (by simp)]
      rfl

theorem byValues_eq (hunambiguous : request.sortColumnName ≠ kTotalCount)
    (hfind : s.find? request.tableName = some t) (hsort : request.sortColumnName ∈ t.names)
    (hkeys : forall k, k ∈ request.lookupValues.keys -> k ∈ t.names)
    (hcastable : forall e, e ∈ request.lookupValues.entries ->
      engine.castable t.tableName e.1 e.2 = .ok ())
    (hlength : IsInt64 (matchingRows engine db t request).length) :
    byValues engine columnRedactions db request =
      (limitOffset (if request.pageSize = 0 then none else some request.pageSize)
        (pageOffset request.page request.pageSize)
        (arranged engine t request (matchingRows engine db t request))).bind (fun rows =>
          pageAnswer columnRedactions t (countedColumns t.names) rows
            (if rows = [] then 0 else (matchingRows engine db t request).length)) := by
  have hname := (Schema.find?_some hfind).2
  have hcolumn : DbCrud.lookupDatabaseColumnInfoByColumnName t.names
      request.sortColumnName = .ok () := if_pos hsort
  have hconditions := whereClause_of_mem engine hfind
    (fun e he => hkeys e.1 (List.mem_map_of_mem he)) hcastable
  have hrows : DbCrud.selectRows engine db t
      (DbCrud.holdsAll engine t request.lookupValues.entries)
      (some (request.sortColumnName, request.asc)) =
      arranged engine t request (matchingRows engine db t request) := rfl
  have hsorted : IsInt64 (arranged engine t request
      (matchingRows engine db t request)).length := by
    rw [length_arranged]
    exact hlength
  have hcount := @countedPage_eq _ t.names hsorted request.pageSize request.page
  unfold byValues DatabaseRESTHelper.getRowsByValuesWithCount DbCrud.getRowsByValues
  rw [listColumns_of_exact hfind, sqlTable_of_exact hfind]
  simp only [bind, Except.bind, hcolumn, checkKeysInTable_of_mem hkeys,
    countedSortColumn_of_mem hfind hsort hunambiguous, hconditions, hrows, hcount]
  cases limitOffset (if request.pageSize = 0 then none else some request.pageSize)
      (pageOffset request.page request.pageSize)
      (arranged engine t request (matchingRows engine db t request)) with
  | error e => rfl
  | ok rows =>
      unfold pageAnswer shownRow
      rw [hname, length_arranged]
      simp only [List.map_map, Function.comp_def]
      rfl

theorem byValues_ok (hfind : s.find? request.tableName = some t) {answer : Json}
    (h : byValues engine columnRedactions db request = .ok answer) :
    request.sortColumnName ∈ t.names ∧ request.sortColumnName ≠ kTotalCount ∧
      (forall k, k ∈ request.lookupValues.keys -> k ∈ t.names) ∧
      forall e, e ∈ request.lookupValues.entries ->
        engine.castable t.tableName e.1 e.2 = .ok () := by
  unfold byValues DatabaseRESTHelper.getRowsByValuesWithCount DbCrud.getRowsByValues at h
  rw [listColumns_of_exact hfind, sqlTable_of_exact hfind] at h
  rcases exceptBind_ok h with ⟨counted, hcounted, -⟩
  rcases exceptBind_ok hcounted with ⟨columns, hcolumns, hcounted⟩
  cases hcolumns
  rcases exceptBind_ok hcounted with ⟨_, hcolumn, hcounted⟩
  rcases exceptBind_ok hcounted with ⟨_, hchecked, hcounted⟩
  rcases exceptBind_ok hcounted with ⟨t', ht', hcounted⟩
  cases ht'
  rcases exceptBind_ok hcounted with ⟨sortColumn, hsortColumn, hcounted⟩
  rcases exceptBind_ok hcounted with ⟨conditions, hconditions, -⟩
  have hkeys : forall k, k ∈ request.lookupValues.keys -> k ∈ t.names := by
    intro k hk
    by_contra hnot
    have hpassed := exceptForM_passes hchecked k hk
    rw [if_neg hnot] at hpassed
    cases hpassed
  have hsort : request.sortColumnName ∈ t.names := by
    by_contra hnot
    unfold DbCrud.lookupDatabaseColumnInfoByColumnName at hcolumn
    rw [if_neg hnot] at hcolumn
    cases hcolumn
  rcases sqlColumn_of_counted hsortColumn with ⟨hfound, hunambiguous⟩
  rw [sqlColumn_of_mem hfind hsort] at hfound
  rw [← Except.ok.inj hfound] at hunambiguous
  refine ⟨hsort, hunambiguous, hkeys, ?_⟩
  · intro e he
    rcases exceptMapM_passes hconditions e he with ⟨condition, hcondition⟩
    rw [sqlColumn_of_mem hfind (hkeys e.1 (List.mem_map_of_mem he))] at hcondition
    rcases exceptBind_ok hcondition with ⟨column, hcolumn', hcondition⟩
    cases hcolumn'
    rcases exceptBind_ok hcondition with ⟨_, hcast, -⟩
    exact hcast

theorem byColumn_ok (hfind : s.find? request.tableName = some t) {answer : Json}
    (h : byColumn engine columnRedactions db request = .ok answer) :
    request.sortColumnName ∈ t.names := by
  unfold byColumn DatabaseRESTHelper.getRowsByColumnWithCount DbCrud.getRowsByColumn at h
  rw [listColumns_of_exact hfind] at h
  rcases exceptBind_ok h with ⟨rows, hrows, -⟩
  rcases exceptBind_ok hrows with ⟨columns, hcolumns, hrows⟩
  cases hcolumns
  rcases exceptBind_ok hrows with ⟨_, hcolumn, -⟩
  by_contra hnot
  unfold DbCrud.lookupDatabaseColumnInfoByColumnName at hcolumn
  rw [if_neg hnot] at hcolumn
  cases hcolumn

theorem byValues_ambiguous (hfind : s.find? request.tableName = some t)
    (hsort : request.sortColumnName ∈ t.names) (hcount : request.sortColumnName = kTotalCount)
    (hfilter : request.lookupValues.entries = []) :
    byValues engine columnRedactions db request = .error (.sql .ambiguousColumn) := by
  have hcolumn : DbCrud.lookupDatabaseColumnInfoByColumnName t.names
      request.sortColumnName = .ok () := if_pos hsort
  have hkeys : DbCrud.checkKeysInTable request.lookupValues t.names = .ok () :=
    checkKeysInTable_of_mem (by simp [SortedMap.keys, hfilter])
  have hambiguous : countedSortColumn t request.sortColumnName =
      .error (.sql .ambiguousColumn) := by
    unfold countedSortColumn
    rw [sqlColumn_of_mem hfind hsort]
    exact if_pos hcount
  unfold byValues DatabaseRESTHelper.getRowsByValuesWithCount DbCrud.getRowsByValues
  rw [listColumns_of_exact hfind, sqlTable_of_exact hfind]
  simp only [bind, Except.bind, hcolumn, hkeys, hambiguous]

theorem byColumn_not_ambiguous (hfind : s.find? request.tableName = some t)
    (hsort : request.sortColumnName ∈ t.names) :
    byColumn engine columnRedactions db request ≠ .error (.sql .ambiguousColumn) := by
  rw [byColumn_eq engine columnRedactions db hfind hsort]
  unfold limitOffset
  split_ifs
  · nofun
  · dsimp only
    split_ifs
    · nofun
    · rcases pageAnswer_ok columnRedactions t t.names _ _ with ⟨_, -, -, hok⟩
      exact fun h => nomatch hok.symm.trans h

theorem refused_alike (hfilter : request.lookupValues.entries = [])
    (hnames : forall t, s.find? request.tableName = some t ->
      request.sortColumnName ∉ t.names) :
    byValues engine columnRedactions db request =
      byColumn engine columnRedactions db request := by
  have hempty : request.lookupValues = SortedMap.empty := SortedMap.ext hfilter
  have hrefused : forall columns, request.sortColumnName ∉ columns ->
      DbMeta.listColumns s request.tableName = .ok columns ->
        byValues engine columnRedactions db request =
          byColumn engine columnRedactions db request := by
    intro columns hnot hcolumns
    unfold byValues byColumn DatabaseRESTHelper.getRowsByValuesWithCount
      DatabaseRESTHelper.getRowsByColumnWithCount DbCrud.getRowsByValues
      DbCrud.getRowsByColumn DbCrud.lookupDatabaseColumnInfoByColumnName
    rw [hcolumns]
    simp only [bind, Except.bind, if_neg hnot]
  rcases listColumns_cases s request.tableName with ⟨t, hfind⟩ | hmissing | hnone
  · exact hrefused t.names (hnames t hfind) (listColumns_of_exact hfind)
  · unfold byValues byColumn DatabaseRESTHelper.getRowsByValuesWithCount
      DatabaseRESTHelper.getRowsByColumnWithCount DbCrud.getRowsByValues
      DbCrud.getRowsByColumn
    rw [hmissing]
    rfl
  · exact hrefused [] (by simp) hnone

end Operations

/-!
# When the counts agree
-/

theorem limitOffset_none {rows : List Row} {offset : Int} (hoffset : 0 ≤ offset) :
    limitOffset none offset rows = .ok (rows.drop offset.toNat) := by
  unfold limitOffset
  rw [if_neg (by omega)]

theorem limitOffset_some (rows : List Row) {n offset : Int} (hoffset : 0 ≤ offset)
    (hn : 0 ≤ n) :
    limitOffset (some n) offset rows = .ok ((rows.drop offset.toNat).take n.toNat) := by
  unfold limitOffset
  rw [if_neg (by omega)]
  exact if_neg (by omega)

theorem limitOffset_bounds {rows pageRows : List Row} {pageSize offset : Int}
    (h : limitOffset (if pageSize = 0 then none else some pageSize) offset rows =
      .ok pageRows) : 0 ≤ pageSize ∧ 0 ≤ offset := by
  unfold limitOffset at h
  split at h
  · cases h
  · refine ⟨?_, by omega⟩
    by_cases hzero : pageSize = 0
    · omega
    · rw [if_neg hzero] at h
      dsimp only at h
      split at h
      · cases h
      · omega

theorem limitOffset_past {rows : List Row} {pageSize offset : Int} (hsize : 0 ≤ pageSize)
    (hoffset : 0 ≤ offset) (h : (rows.length : Int) ≤ offset) :
    limitOffset (if pageSize = 0 then none else some pageSize) offset rows = .ok [] := by
  have hdrop : rows.drop offset.toNat = [] := by
    rw [List.drop_eq_nil_iff]
    omega
  by_cases hzero : pageSize = 0
  · rw [if_pos hzero, limitOffset_none hoffset, hdrop]
  · rw [if_neg hzero, limitOffset_some _ hoffset hsize, hdrop, List.take_nil]

theorem limitOffset_ne_nil {rows pageRows : List Row} {pageSize offset : Int}
    (hlt : offset < rows.length)
    (h : limitOffset (if pageSize = 0 then none else some pageSize) offset rows =
      .ok pageRows) : pageRows ≠ [] := by
  rcases limitOffset_bounds h with ⟨hsize, hoffset⟩
  have hdrop : rows.drop offset.toNat ≠ [] := by
    intro hnil
    rw [List.drop_eq_nil_iff] at hnil
    omega
  by_cases hzero : pageSize = 0
  · rw [if_pos hzero, limitOffset_none hoffset] at h
    cases h
    exact hdrop
  · rw [if_neg hzero, limitOffset_some _ hoffset hsize] at h
    cases h
    intro hnil
    rcases List.take_eq_nil_iff.mp hnil with hn | hn
    · omega
    · exact hdrop hn

section Agreement

variable {s : Schema} (engine : Engine s) (columnRedactions : ColumnRedactionSet)
  (db : Database s) {request : PageRequest} {t : TableInfo}

theorem matchingRows_all (hfilter : request.lookupValues.entries = []) :
    matchingRows engine db t request = db.rows t.tableName := by
  unfold matchingRows
  rw [hfilter]
  exact List.filter_eq_self.mpr (fun _ _ => rfl)

theorem pageAnswer_reports {columns : List String} {rows : List Row} {total : Int} {n : Nat}
    {answer : Json} (h : pageAnswer columnRedactions t columns rows total = .ok answer) :
    answer.reports n <-> total = n := by
  rcases pageAnswer_ok columnRedactions t columns rows total with ⟨dataResults, -, -, hok⟩
  rw [hok] at h
  cases h
  exact reports_iff dataResults total n

theorem isInt64_filter (hlength : IsInt64 (db.rows t.tableName).length) :
    IsInt64 (matchingRows engine db t request).length := by
  have hle : (matchingRows engine db t request).length ≤ (db.rows t.tableName).length :=
    List.length_filter_le _ _
  unfold IsInt64 at hlength ⊢
  omega

theorem outOfBounds_alike (hunambiguous : request.sortColumnName ≠ kTotalCount)
    (hfilter : request.lookupValues.entries = [])
    (hfind : s.find? request.tableName = some t) (hsort : request.sortColumnName ∈ t.names)
    (hlength : IsInt64 (db.rows t.tableName).length)
    (hbounds : Not (0 ≤ request.pageSize ∧ 0 ≤ pageOffset request.page request.pageSize)) :
    byValues engine columnRedactions db request =
      byColumn engine columnRedactions db request := by
  have hall := matchingRows_all engine db (t := t) hfilter
  rw [byValues_eq engine columnRedactions db hunambiguous hfind hsort
    (by simp [SortedMap.keys, hfilter]) (by simp [hfilter]) (by rw [hall]; exact hlength),
    byColumn_eq engine columnRedactions db hfind hsort, hall]
  have hzero : request.pageSize ≠ 0 := by
    intro hzero
    rw [hzero, pageOffset_empty] at hbounds
    exact hbounds ⟨le_refl 0, le_refl 0⟩
  rw [if_neg hzero]
  have hrefused : limitOffset (some request.pageSize) (pageOffset request.page request.pageSize)
      (arranged engine t request (db.rows t.tableName)) = .error (.sql .invalidRowCount) := by
    unfold limitOffset
    by_cases hoffset : pageOffset request.page request.pageSize < 0
    · rw [if_pos hoffset]
    · rw [if_neg hoffset]
      exact if_pos (by omega)
  rw [hrefused]
  rfl

theorem byValues_reports_iff (hlength : IsInt64 (db.rows t.tableName).length)
    (hadmitted : request.Admitted engine t) :
    (forall answer, byValues engine columnRedactions db request = .ok answer ->
        answer.reports (matchingRows engine db t request).length) <->
      matchingRows engine db t request = [] ∨
        pageOffset request.page request.pageSize < (matchingRows engine db t request).length := by
  have heq := byValues_eq engine columnRedactions db hadmitted.unambiguous hadmitted.found
    hadmitted.sorted hadmitted.keys hadmitted.castable (isInt64_filter engine db hlength)
  have harranged := length_arranged engine t request (matchingRows engine db t request)
  constructor
  · intro h
    by_contra hnot
    rw [not_or, not_lt] at hnot
    rw [limitOffset_past hadmitted.pageSize hadmitted.offset
      (by rw [harranged]; exact hnot.2)] at heq
    rcases pageAnswer_ok columnRedactions t (countedColumns t.names) [] 0 with
      ⟨dataResults, -, -, hok⟩
    have hreports := h _ (heq.trans hok)
    rw [reports_iff] at hreports
    exact hnot.1 (List.length_eq_zero_iff.mp (by omega))
  · intro h answer hanswer
    rw [heq] at hanswer
    rcases exceptBind_ok hanswer with ⟨rows, hrows, hanswer⟩
    rw [pageAnswer_reports columnRedactions hanswer]
    rcases h with hnil | hlt
    · rw [hnil]
      exact ite_self _
    · rw [if_neg (limitOffset_ne_nil (by rw [harranged]; exact hlt) hrows)]

/-- Without a filter the two answers are one exactly when the page shows a row with all its
columns, or there is none to show. -/
theorem same_iff (hlength : IsInt64 (db.rows t.tableName).length)
    (hfilter : request.lookupValues.entries = []) (hadmitted : request.Admitted engine t) :
    byValues engine columnRedactions db request = byColumn engine columnRedactions db request <->
      db.rows t.tableName = [] ∨
        (pageOffset request.page request.pageSize < (db.rows t.tableName).length ∧
          request.pageSize ≠ 0 ∧ CountHidden columnRedactions t) := by
  have hall := matchingRows_all engine db (t := t) hfilter
  have hvalues := byValues_eq engine columnRedactions db hadmitted.unambiguous hadmitted.found
    hadmitted.sorted hadmitted.keys hadmitted.castable (by rw [hall]; exact hlength)
  have hcolumn := byColumn_eq engine columnRedactions db hadmitted.found hadmitted.sorted
  rw [hall] at hvalues
  have harranged := length_arranged engine t request (db.rows t.tableName)
  generalize arranged engine t request (db.rows t.tableName) = sorted at *
  rw [limitOffset_some _ hadmitted.offset hadmitted.pageSize] at hcolumn
  rcases pageAnswer_ok columnRedactions t t.names
    ((sorted.drop (pageOffset request.page request.pageSize).toNat).take request.pageSize.toNat)
    (db.rows t.tableName).length with ⟨shown, hshown, -, hshownAnswer⟩
  have hcolumn := hcolumn.trans hshownAnswer
  have hpage : request.pageSize ≠ 0 ->
      limitOffset (if request.pageSize = 0 then none else some request.pageSize)
        (pageOffset request.page request.pageSize) sorted =
          .ok ((sorted.drop (pageOffset request.page request.pageSize).toNat).take
            request.pageSize.toNat) := by
    intro hsize
    rw [if_neg hsize]
    exact limitOffset_some sorted hadmitted.offset hadmitted.pageSize
  constructor
  · intro hsame
    rw [hcolumn] at hsame
    refine or_iff_not_imp_left.mpr (fun hsome => ?_)
    have hlt : pageOffset request.page request.pageSize < (db.rows t.tableName).length := by
      by_contra hpast
      rw [limitOffset_past hadmitted.pageSize hadmitted.offset
        (by rw [harranged]; exact not_lt.mp hpast)] at hvalues
      have hreports := (reports_iff shown (db.rows t.tableName).length
        (db.rows t.tableName).length).mpr rfl
      have htotal := (pageAnswer_reports columnRedactions
        (hvalues.symm.trans hsame)).mp hreports
      exact hsome (List.length_eq_zero_iff.mp (by simpa using htotal.symm))
    have hsize : request.pageSize ≠ 0 := by
      intro hzero
      rw [hzero, if_pos rfl, pageOffset_empty, limitOffset_none (le_refl 0)] at hvalues
      rcases pageAnswer_ok columnRedactions t (countedColumns t.names) sorted
        (if sorted = [] then 0 else ((db.rows t.tableName).length : Int))
        with ⟨every, hevery, -, heveryAnswer⟩
      have hjson := (hvalues.trans heveryAnswer).symm.trans hsame
      have hdata := (dataResults_eq (Except.ok.inj hjson)).1
      rw [hevery, hshown, hzero, harranged] at hdata
      exact hsome (List.length_eq_zero_iff.mp (by simpa using hdata))
    refine ⟨hlt, hsize, ?_⟩
    have hne := limitOffset_ne_nil (by rw [harranged]; exact hlt) (hpage hsize)
    rw [hpage hsize] at hvalues
    exact countHidden_of_eq columnRedactions t hne
      ((hvalues.symm.trans hsame).trans hshownAnswer.symm)
  · intro h
    rw [hcolumn, hvalues, ← hshownAnswer]
    rcases h with hnil | ⟨hlt, hsize, hhidden⟩
    · have hsorted : sorted = [] := List.length_eq_zero_iff.mp (by rw [harranged, hnil]; rfl)
      rw [hsorted, hnil, limitOffset_past hadmitted.pageSize hadmitted.offset
        (by simpa using hadmitted.offset)]
      simp
      rfl
    · have hne := limitOffset_ne_nil (by rw [harranged]; exact hlt) (hpage hsize)
      rw [hpage hsize, ← pageAnswer_counted columnRedactions t hhidden]
      change pageAnswer columnRedactions t _ _ (if _ then 0 else _) = _
      rw [if_neg hne]

/-- The operations agree exactly when a page that they admit shows a row with all its columns,
unless there is none, and no table is sorted by a column that is called like the count. -/
theorem countsAgree_iff
    (hlength : forall t, t ∈ s.tables -> IsInt64 (db.rows t.tableName).length) :
    CountsAgree engine columnRedactions db request <->
      (forall t, request.Admitted engine t ->
        matchingRows engine db t request = [] ∨
          request.ShowsRows columnRedactions t (matchingRows engine db t request)) ∧
      (request.lookupValues.entries = [] -> request.sortColumnName = kTotalCount ->
        forall t, s.find? request.tableName = some t -> kTotalCount ∉ t.names) := by
  constructor
  · intro h
    refine ⟨fun t hadmitted => ?_, fun hfilter hcount t hfind hown => ?_⟩
    · have hbigint := hlength t (Schema.find?_some hadmitted.found).1
      rcases (byValues_reports_iff engine columnRedactions db hbigint hadmitted).mp
        (fun answer => h.matching t answer hadmitted.found) with hnil | hlt
      · exact Or.inl hnil
      · refine or_iff_not_imp_left.mpr (fun hsome => ⟨hlt, fun hfilter => ?_⟩)
        rw [matchingRows_all engine db hfilter] at hsome
        rcases (same_iff engine columnRedactions db hbigint hfilter hadmitted).mp
          (h.same hfilter) with hnil | hshown
        · exact absurd hnil hsome
        · exact hshown.2
    · have hsort : request.sortColumnName ∈ t.names := by
        rw [hcount]
        exact hown
      have hsame := h.same hfilter
      rw [byValues_ambiguous engine columnRedactions db hfind hsort hcount hfilter] at hsame
      exact byColumn_not_ambiguous engine columnRedactions db hfind hsort hsame.symm
  · rintro ⟨h, hcount⟩
    constructor
    · intro hfilter
      by_cases hnames : forall t, s.find? request.tableName = some t ->
          request.sortColumnName ∉ t.names
      · exact refused_alike engine columnRedactions db hfilter hnames
      · simp only [not_forall, not_not] at hnames
        rcases hnames with ⟨t, hfind, hsort⟩
        have hbigint := hlength t (Schema.find?_some hfind).1
        have hunambiguous : request.sortColumnName ≠ kTotalCount := fun heq =>
          hcount hfilter heq t hfind (heq ▸ hsort)
        by_cases hbounds : 0 ≤ request.pageSize ∧ 0 ≤ pageOffset request.page request.pageSize
        · have hadmitted : request.Admitted engine t :=
            { found := hfind
              sorted := hsort
              keys := by simp [SortedMap.keys, hfilter]
              castable := by simp [hfilter]
              unambiguous := hunambiguous
              pageSize := hbounds.1
              offset := hbounds.2 }
          rw [same_iff engine columnRedactions db hbigint hfilter hadmitted]
          rw [← matchingRows_all engine db hfilter]
          rcases h t hadmitted with hnil | hshown
          · exact Or.inl hnil
          · exact Or.inr ⟨hshown.1, hshown.2 hfilter⟩
        · exact outOfBounds_alike engine columnRedactions db hunambiguous hfilter hfind hsort
            hbigint hbounds
    · intro t answer hfind hanswer
      rcases byValues_ok engine columnRedactions db hfind hanswer with
        ⟨hsort, hunambiguous, hkeys, hcastable⟩
      have hbigint := hlength t (Schema.find?_some hfind).1
      have hpage := hanswer
      rw [byValues_eq engine columnRedactions db hunambiguous hfind hsort hkeys hcastable
        (isInt64_filter engine db hbigint)] at hpage
      rcases exceptBind_ok hpage with ⟨rows, hrows, -⟩
      rcases limitOffset_bounds hrows with ⟨hsize, hoffset⟩
      have hadmitted : request.Admitted engine t :=
        ⟨hfind, hsort, hkeys, hcastable, hunambiguous, hsize, hoffset⟩
      refine (byValues_reports_iff engine columnRedactions db hbigint hadmitted).mpr ?_ answer
        hanswer
      exact (h t hadmitted).imp_right (fun hshown => hshown.1)
    · intro t answer hfind hanswer
      rw [byColumn_eq engine columnRedactions db hfind
        (byColumn_ok engine columnRedactions db hfind hanswer)] at hanswer
      rcases exceptBind_ok hanswer with ⟨rows, -, hanswer⟩
      rw [pageAnswer_reports columnRedactions hanswer]

end Agreement

/-!
# A page past the end
-/

def notesTable : TableInfo where
  tableName := "notes"
  columns := [{ columnName := "id", primaryKey := true, nullable := false, isText := false }]

def notesSchema : Schema where
  tables := [notesTable]
  folded := by decide +kernel

def notesDatabase : Database notesSchema where
  rows := fun _ => [fun _ => some "1"]

def pageOfNotes (pageSize page : Int) : PageRequest where
  tableName := "notes"
  sortColumnName := "id"
  lookupValues := SortedMap.empty
  asc := true
  pageSize := pageSize
  page := page

theorem notes_lengths : forall t, t ∈ notesSchema.tables ->
    IsInt64 (notesDatabase.rows t.tableName).length := by
  decide

theorem countsAgree_iff_firstNotes :
    CountsAgree (Engine.plain notesSchema) [] notesDatabase (pageOfNotes 10 0) := by
  refine (countsAgree_iff (Engine.plain notesSchema) [] notesDatabase notes_lengths).mpr
    ⟨fun t hadmitted => ?_, fun _ hcount => absurd hcount (by decide)⟩
  cases hadmitted.found
  exact Or.inr ⟨by decide, fun _ => ⟨by decide, fun hown => absurd hown (by decide)⟩⟩

/-- The second page of a table with one row says that there is none. -/
theorem secondPage_forgetsRows :
    Not (CountsAgree (Engine.plain notesSchema) [] notesDatabase (pageOfNotes 10 1)) := by
  intro h
  have hfind : notesSchema.find? (pageOfNotes 10 1).tableName = some notesTable := rfl
  have hanswer := byValues_eq (Engine.plain notesSchema) [] notesDatabase (by decide) hfind
    (List.mem_singleton_self _) (by simp [pageOfNotes, SortedMap.keys, SortedMap.empty])
    (by simp [pageOfNotes, SortedMap.empty]) (by decide)
  have hreports := h.matching notesTable _ hfind (hanswer.trans rfl)
  rw [reports_iff] at hreports
  revert hreports
  decide

end Rest
end ServerComponents
