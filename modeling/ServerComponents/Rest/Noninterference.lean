import ServerComponents.Rest.Redaction

/-!
# Noninterference of the read operations
-/

namespace ServerComponents
namespace Rest

open Relational

section Noninterference

variable {s : Schema} {columnRedactions : ColumnRedactionSet}

/-!
# The operations that redact
-/

theorem map_applyRedactions_eq {tableName : String} {rows rows' : List KeyValueTable}
    (h : List.Forall₂ (SimilarRow columnRedactions s tableName) rows rows') :
    rows.map (DatabaseRESTHelper.applyRedactions columnRedactions tableName) =
      rows'.map (DatabaseRESTHelper.applyRedactions columnRedactions tableName) :=
  map_eq_map_of_forall₂ h (fun _ _ hrow => applyRedactions_eq hrow.similar)

theorem noninterference_getTableValues (tableName : String) :
    Noninterference columnRedactions s (.getTableValues tableName) := by
  intro _ engine horder db db' hagree
  apply SameOutcome.bind_eq (getTableRows_related horder hagree tableName)
  intro rows rows' hrows
  rw [map_applyRedactions_eq hrows]

theorem noninterference_getRowsByColumn (tableName columnName : String) (asc : Bool)
    (pageSize page : Int) :
    Noninterference columnRedactions s
      (.getRowsByColumn tableName columnName asc pageSize page) := by
  intro hnames engine horder db db' hagree
  apply SameOutcome.bind_eq (getRowsByColumn_related horder hagree tableName
    (hnames columnName (by simp [ReadOp.namedColumns])) asc pageSize page)
  intro rows rows' hrows
  rw [map_applyRedactions_eq hrows]

theorem noninterference_getRowsByColumnWithCount (tableName columnName : String)
    (asc : Bool) (pageSize page : Int) :
    Noninterference columnRedactions s
      (.getRowsByColumnWithCount tableName columnName asc pageSize page) := by
  intro hnames engine horder db db' hagree
  apply SameOutcome.bind_eq (getRowsByColumn_related horder hagree tableName
    (hnames columnName (by simp [ReadOp.namedColumns])) asc pageSize page)
  intro rows rows' hrows
  have hcount : DbCrud.getTableRowCount db tableName =
      DbCrud.getTableRowCount db' tableName := by
    unfold DbCrud.getTableRowCount
    cases sqlTable s tableName with
    | error err => rfl
    | ok t => simp [bind, Except.bind, (hagree t.tableName).length_eq]
  rw [map_applyRedactions_eq hrows, hcount]

theorem noninterference_getRowsByValuesWithCount (tableName sortColumnName : String)
    (lookupValues : KeyValueTable) (asc : Bool) (pageSize page : Int) :
    Noninterference columnRedactions s
      (.getRowsByValuesWithCount tableName sortColumnName lookupValues asc pageSize
        page) := by
  intro hnames engine horder db db' hagree
  apply SameOutcome.bind_eq (getRowsByValues_related horder hagree tableName
    (hnames sortColumnName (by simp [ReadOp.namedColumns]))
    (fun c hc => hnames c (List.mem_cons_of_mem _ hc)) asc pageSize page)
  intro p p' hp
  rcases p with ⟨rows, totalCount⟩
  rcases p' with ⟨rows', totalCount'⟩
  rcases hp with ⟨hrows, hcount⟩
  dsimp only at hrows hcount ⊢
  rw [map_applyRedactions_eq hrows, hcount]

theorem noninterference_getRow (tableName columnName value : String) :
    Noninterference columnRedactions s (.getRow tableName columnName value) := by
  intro hnames engine horder db db' hagree
  apply SameOutcome.bind_eq (lookupRowByValue_related horder hagree tableName
    (hnames columnName (by simp [ReadOp.namedColumns])) value)
  intro row row' hrow
  rw [applyRedactions_eq hrow]

theorem noninterference_getRowByValues (tableName : String)
    (lookupValues : KeyValueTable) :
    Noninterference columnRedactions s (.getRowByValues tableName lookupValues) := by
  intro hnames engine horder db db' hagree
  apply SameOutcome.bind_eq (lookupRowByValues_related horder hagree tableName hnames)
  intro row row' hrow
  rw [applyRedactions_eq hrow]

theorem noninterference_getTableValue (tableName columnName value : String) :
    Noninterference columnRedactions s (.getTableValue tableName columnName value) := by
  intro hnames engine horder db db' hagree
  apply SameOutcome.bind_eq (lookupRowByValue_related horder hagree tableName
    (hnames columnName (by simp [ReadOp.namedColumns])) value)
  intro row row' hrow
  rw [applyRedactions_eq hrow]

/-!
# The picker operations
-/

/-- A redacted column of the table shows through the template: the template
mentions it, or it mentions a column that is replaced before it, whose value can
bring the placeholder in. -/
def Shows (columnRedactions : ColumnRedactionSet) (s : Schema)
    (tableName primaryKeyColumn displayTemplate : String) : Prop :=
  ColumnOf s tableName primaryKeyColumn ∧
    Visible columnRedactions tableName primaryKeyColumn ∧
    exists c, ColumnOf s tableName c ∧ Not (Visible columnRedactions tableName c) ∧
      (Mentions displayTemplate.toList c ∨
        exists k, ColumnOf s tableName k ∧ Mentions displayTemplate.toList k ∧ k < c)

section Covered

variable {tableName primaryKeyColumn displayTemplate : String}
  (hvisible : ColumnOf s tableName primaryKeyColumn ->
    Visible columnRedactions tableName primaryKeyColumn)
  (hcovered : Not (Shows columnRedactions s tableName primaryKeyColumn displayTemplate))

include hvisible hcovered

theorem formatString_eq {row row' : KeyValueTable}
    (hkey : ColumnOf s tableName primaryKeyColumn)
    (hrow : SimilarRow columnRedactions s tableName row row') :
    formatString displayTemplate row = formatString displayTemplate row' := by
  unfold formatString
  apply congrArg String.ofList
  apply formatEntries_eq hrow.similar row.sorted
  intro e he hhidden
  have hcolumn := hrow.columns e.1 (List.mem_map_of_mem he)
  constructor
  · intro hmention
    exact hcovered ⟨hkey, hvisible hkey, e.1, hcolumn, hhidden, Or.inl hmention⟩
  · intro e' he' hmention hlt
    have hcolumn' := hrow.columns e'.1 (List.mem_map_of_mem he')
    exact hcovered
      ⟨hkey, hvisible hkey, e.1, hcolumn, hhidden, Or.inr ⟨e'.1, hcolumn', hmention, hlt⟩⟩

omit hcovered in
theorem find?_key_eq {row row' : KeyValueTable}
    (hrow : SimilarRow columnRedactions s tableName row row') :
    row.find? primaryKeyColumn = row'.find? primaryKeyColumn := by
  by_cases hkey : ColumnOf s tableName primaryKeyColumn
  · exact hrow.similar.find?_eq (hvisible hkey)
  · have hnot : primaryKeyColumn ∉ row.keys := fun h => hkey (hrow.columns _ h)
    have hnot' : primaryKeyColumn ∉ row'.keys := by
      rw [← hrow.similar.keys_eq]
      exact hnot
    rw [SortedMap.find?_none hnot, SortedMap.find?_none hnot']

theorem resolveDisplayValues_eq {rows rows' : List KeyValueTable}
    (hrows : List.Forall₂ (SimilarRow columnRedactions s tableName) rows rows') :
    DbCrud.resolveDisplayValues rows primaryKeyColumn displayTemplate =
      DbCrud.resolveDisplayValues rows' primaryKeyColumn displayTemplate := by
  unfold DbCrud.resolveDisplayValues
  generalize (SortedMap.empty : KeyValueTable) = result
  induction hrows generalizing result with
  | nil => rfl
  | cons hfirst hrest ih =>
      rename_i row row' rest rest'
      rw [List.foldl_cons, List.foldl_cons, ← find?_key_eq hvisible hfirst, ih]
      cases hkey : row.find? primaryKeyColumn with
      | none => rfl
      | some pkValue =>
          have hcolumn := hfirst.columns _ (SortedMap.find?_some hkey)
          dsimp only
          rw [formatString_eq hvisible hcovered hcolumn hfirst]

theorem fkOptions_eq {rows rows' : List KeyValueTable}
    (hrows : List.Forall₂ (SimilarRow columnRedactions s tableName) rows rows')
    (totalCount : Int) :
    DatabaseRESTHelper.fkOptions primaryKeyColumn displayTemplate rows totalCount =
      DatabaseRESTHelper.fkOptions primaryKeyColumn displayTemplate rows' totalCount := by
  unfold DatabaseRESTHelper.fkOptions
  rw [resolveDisplayValues_eq hvisible hcovered hrows]
  dsimp only
  congr 4
  generalize DbCrud.resolveDisplayValues rows' _ _ = displayValues
  induction hrows with
  | nil => rfl
  | cons hfirst hrest ih =>
      rw [List.filterMap_cons, List.filterMap_cons, ih,
        DatabaseRESTHelper.fkOption, find?_key_eq hvisible hfirst,
        ← DatabaseRESTHelper.fkOption]

end Covered

theorem noninterference_getFkOptions {tableName primaryKeyColumn displayTemplate : String}
    (hcovered : Not (Shows columnRedactions s tableName primaryKeyColumn displayTemplate))
    (searchText : String) (pageSize : Int) :
    Noninterference columnRedactions s
      (.getFkOptions tableName primaryKeyColumn displayTemplate searchText pageSize) := by
  intro hnamed engine horder db db' hagree
  have hnames : Visible columnRedactions (escSqlName tableName)
    (escSqlName primaryKeyColumn) := hnamed primaryKeyColumn (List.mem_singleton_self _)
  have hvisible : ColumnOf s tableName primaryKeyColumn ->
      Visible columnRedactions tableName primaryKeyColumn := by
    intro hkey
    rw [hkey.folded.1, hkey.folded.2] at hnames
    exact hnames
  have hrows : SameOutcome (fun p p' => List.Forall₂
        (SimilarRow columnRedactions s tableName) p.1 p'.1 ∧ p.2 = p'.2)
      (DatabaseRESTHelper.fkRows engine db tableName primaryKeyColumn displayTemplate
        searchText pageSize)
      (DatabaseRESTHelper.fkRows engine db' tableName primaryKeyColumn displayTemplate
        searchText pageSize) := by
    unfold DatabaseRESTHelper.fkRows
    split
    · exact getRowsByValues_related horder hagree tableName hnames
        (fun c hc => absurd hc List.not_mem_nil) true pageSize 0
    · apply searchRowsByILike_related horder hagree tableName searchText hnames
      intro hkey c hc hcolumn
      by_contra hhidden
      split at hc
      · rw [List.mem_singleton.mp hc] at hhidden
        exact hhidden (hvisible hkey)
      · exact hcovered
          ⟨hkey, hvisible hkey, c, hcolumn, hhidden, Or.inl (mentions_of_parsed hc)⟩
  apply SameOutcome.bind_eq hrows
  intro p p' hp
  rcases p with ⟨rows, totalCount⟩
  rcases p' with ⟨rows', totalCount'⟩
  rcases hp with ⟨hrows, hcount⟩
  dsimp only at hrows hcount ⊢
  rw [hcount]
  exact congrArg Except.ok (fkOptions_eq hvisible hcovered hrows totalCount')

theorem noninterference_resolveFkDisplay
    {tableName primaryKeyColumn displayTemplate : String}
    (hcovered : Not (Shows columnRedactions s (escSqlName tableName) primaryKeyColumn
      displayTemplate)) (values : List String) :
    Noninterference columnRedactions s
      (.resolveFkDisplay tableName primaryKeyColumn displayTemplate values) := by
  intro hnamed engine horder db db' hagree
  have hnames : Visible columnRedactions (escSqlName tableName)
    (escSqlName primaryKeyColumn) := hnamed primaryKeyColumn (List.mem_singleton_self _)
  have hvisible : ColumnOf s (escSqlName tableName) primaryKeyColumn ->
      Visible columnRedactions (escSqlName tableName) primaryKeyColumn := by
    intro hkey
    rw [hkey.folded.2] at hnames
    exact hnames
  apply SameOutcome.bind_eq
    (lookupRowsByPrimaryKeyValues_related horder hagree tableName values hnames)
  intro rows rows' hrows
  rw [resolveDisplayValues_eq hvisible hcovered hrows]

/-!
# Two databases that the picker tells apart
-/

section Leak

def single (s : Schema) (tableName : String) (row : Row) : Database s where
  rows := fun name => if name = tableName then [row] else []

def rowWith (base : String -> String) (c value : String) : Row :=
  fun k => some (if k = c then value else base k)

variable {base : String -> String}

theorem agree_single {tableName c : String}
    (hhidden : Not (Visible columnRedactions tableName c)) (value value' : String) :
    Agree columnRedactions (single s tableName (rowWith base c value))
      (single s tableName (rowWith base c value')) := by
  intro name
  unfold single
  dsimp only
  split
  · rename_i hname
    apply List.Forall₂.cons _ List.Forall₂.nil
    intro k hk
    have hkc : k ≠ c := by
      intro h
      rw [h, hname] at hk
      exact hhidden hk
    simp [rowWith, hkc]
  · exact List.Forall₂.nil

theorem rowOrderIgnores_plain : RowOrderIgnores columnRedactions (Engine.plain s) :=
  fun _ _ _ _ _ h => h

theorem entries_rowWith (names : List String) (base : String -> String)
    (c value : String) :
    (toKeyValueTable names (rowWith base c value)).entries =
      (toKeyValueTable names (rowWith base c value)).keys.map
        (fun k => (k, if k = c then value else base k)) :=
  SortedMap.entries_eq_map (fun e he => (toKeyValueTable_spec names _).2 e he)

theorem exists_leak {t : TableInfo} {displayTemplate c : String} (hc : c ∈ t.names)
    (hshown : Mentions displayTemplate.toList c ∨
      exists k, k ∈ t.names ∧ Mentions displayTemplate.toList k ∧ k < c) :
    exists base text, Mentions text c ∧ forall value,
      formatString displayTemplate (toKeyValueTable t.names (rowWith base c value)) =
        String.ofList (Text.replaceAll (placeholder c) value.toList text) := by
  have hkeys : forall base value k, k ∈ t.names ->
      k ∈ (toKeyValueTable t.names (rowWith base c value)).keys :=
    fun base value k hk => ((toKeyValueTable_spec t.names _).1 k).mpr hk
  rcases hshown with hmention | ⟨k, hk, hmention, hlt⟩
  · refine ⟨fun k => String.ofList (placeholder k), displayTemplate.toList, hmention, ?_⟩
    intro value
    unfold formatString
    rw [entries_rowWith, formatEntries_one (hkeys _ _ c hc) (SortedMap.keys_sorted _)]
    · rw [if_pos rfl]
    · intro k' _ hk'
      simp [hk']
  · refine ⟨fun k' => String.ofList (if k' = k then placeholder c else placeholder k'),
      Text.replaceAll (placeholder k) (placeholder c) displayTemplate.toList,
      Text.infix_replaceAll hmention (placeholder_ne_nil k), ?_⟩
    intro value
    have hkc : k ≠ c := ne_of_lt hlt
    unfold formatString
    rw [entries_rowWith, formatEntries_two (hkeys _ _ k hk) (hkeys _ _ c hc) hlt
      (SortedMap.keys_sorted _)]
    · simp [hkc]
    · intro k' _ hk' hc'
      simp [hk', hc']

theorem leak_ne {text : List Char} {c : String} (hmention : Mentions text c) :
    String.ofList (Text.replaceAll (placeholder c) "".toList text) ≠
      String.ofList (Text.replaceAll (placeholder c) "x".toList text) := by
  intro h
  apply Text.replaceAll_ne hmention (placeholder_ne_nil c)
    (show "".toList.length ≠ "x".toList.length by decide)
  simpa using congrArg String.toList h

theorem find?_rowWith {t : TableInfo} {c value k : String} (hk : k ∈ t.names) (hkc : k ≠ c) :
    (toKeyValueTable t.names (rowWith base c value)).find? k = some (base k) := by
  have hmem := ((toKeyValueTable_spec t.names (rowWith base c value)).1 k).mpr hk
  rcases List.mem_map.mp hmem with ⟨e, he, hek⟩
  rw [← hek, SortedMap.find?_of_mem he, (toKeyValueTable_spec t.names _).2 e he]
  simp [rowWith, hek, hkc]

theorem resolveDisplayValues_single {row : KeyValueTable}
    {primaryKeyColumn displayTemplate pkValue : String}
    (hkey : row.find? primaryKeyColumn = some pkValue) (htemplate : displayTemplate ≠ "") :
    DbCrud.resolveDisplayValues [row] primaryKeyColumn displayTemplate =
      SortedMap.empty.set pkValue (formatString displayTemplate row) := by
  simp [DbCrud.resolveDisplayValues, hkey, htemplate]

theorem sqlTable_of_find {tableName : String} {t : TableInfo}
    (h : s.find? (escSqlName tableName) = some t) : sqlTable s tableName = .ok t := by
  simp [sqlTable, h]

theorem run_resolve_single {tableName primaryKeyColumn displayTemplate c value : String}
    {t : TableInfo} (hfind : s.find? (escSqlName tableName) = some t)
    (hkey : primaryKeyColumn ∈ t.names) (hkc : primaryKeyColumn ≠ c)
    (htemplate : displayTemplate ≠ "") :
    DatabaseRESTHelper.resolveFkDisplay (Engine.plain s)
        (single s t.tableName (rowWith base c value)) tableName primaryKeyColumn
        displayTemplate [base primaryKeyColumn] =
      .ok (.obj [("resolved", .obj [(base primaryKeyColumn,
        .str (formatString displayTemplate
          (toKeyValueTable t.names (rowWith base c value))))])]) := by
  have hfolded : escSqlName primaryKeyColumn = primaryKeyColumn :=
    (s.folded t (Schema.find?_some hfind).1).2 _ hkey
  have hrows : DbCrud.lookupRowsByPrimaryKeyValues (Engine.plain s)
      (single s t.tableName (rowWith base c value)) tableName primaryKeyColumn
      [base primaryKeyColumn] =
      .ok [toKeyValueTable t.names (rowWith base c value)] := by
    simp [DbCrud.lookupRowsByPrimaryKeyValues, sqlTable_of_find hfind, sqlColumn,
      hfolded, hkey, Engine.plain, DbCrud.selectRows, single, rowWith, hkc, bind,
      Except.bind, pure, Except.pure, List.forM]
  unfold DatabaseRESTHelper.resolveFkDisplay
  rw [hrows]
  have hfound : (toKeyValueTable t.names (rowWith base c value)).find? primaryKeyColumn =
      some (base primaryKeyColumn) := find?_rowWith hkey hkc
  simp only [bind, Except.bind, resolveDisplayValues_single hfound htemplate]
  rfl

theorem run_options_single {tableName primaryKeyColumn displayTemplate c value : String}
    {t : TableInfo} (hfind : s.find? tableName = some t)
    (halias : kTotalCount ∉ t.names) (hkey : primaryKeyColumn ∈ t.names)
    (hkc : primaryKeyColumn ≠ c) (htemplate : displayTemplate ≠ "") :
    DatabaseRESTHelper.getFkOptions (Engine.plain s)
        (single s tableName (rowWith base c value)) tableName primaryKeyColumn
        displayTemplate "" 0 =
      .ok (.obj [("options", .arr [.obj [
          ("display", .str (formatString displayTemplate
            (toKeyValueTable t.names (rowWith base c value)))),
          ("value", .str (base primaryKeyColumn))]]),
        ("total_count", .int 1)]) := by
  rcases Schema.find?_some hfind with ⟨hmem, hname⟩
  have hfoldedTable : escSqlName tableName = tableName := by
    rw [← hname]
    exact (s.folded t hmem).1
  have hfoldedKey : escSqlName primaryKeyColumn = primaryKeyColumn :=
    (s.folded t hmem).2 _ hkey
  have htable : sqlTable s tableName = .ok t :=
    sqlTable_of_find (by rw [hfoldedTable]; exact hfind)
  have hcolumns : DbMeta.listColumns s tableName = .ok t.names := by
    simp [DbMeta.listColumns, htable, hname, bind, Except.bind, pure, Except.pure]
  have hpage : DbCrud.countedPage t.names [rowWith base c value] 0 0 =
      .ok ([toKeyValueTable t.names (rowWith base c value)], 1) := by
    have herase : ((toKeyValueTable t.names (rowWith base c value)).set kTotalCount
        (Nat.repr 1)).erase kTotalCount = toKeyValueTable t.names (rowWith base c value) :=
      (erase_count _ _ _).trans (by rw [countedColumns_eq halias])
    have hone : stoll (Nat.repr 1) = .ok 1 := by decide
    simp [DbCrud.countedPage, limitOffset, DbCrud.extractTotalCount, bind, Except.bind,
      SortedMap.find?_set_self, pure, Except.pure, herase, hone]
  have hrows : DbCrud.getRowsByValues (Engine.plain s)
      (single s tableName (rowWith base c value)) tableName primaryKeyColumn
      SortedMap.empty true 0 0 =
      .ok ([toKeyValueTable t.names (rowWith base c value)], 1) := by
    have hselected : DbCrud.selectRows (Engine.plain s)
        (single s tableName (rowWith base c value)) t
        (DbCrud.holdsAll (Engine.plain s) t []) (some (primaryKeyColumn, true)) =
        [rowWith base c value] := by
      simp [DbCrud.selectRows, Engine.plain, single, hname, DbCrud.holdsAll]
    simp only [DbCrud.getRowsByValues, hcolumns, htable, bind, Except.bind,
      DbCrud.lookupDatabaseColumnInfoByColumnName, hkey, if_true]
    have hkeys : DbCrud.checkKeysInTable SortedMap.empty t.names = .ok () := rfl
    have hwhere : DbCrud.whereClause (Engine.plain s) t
        (SortedMap.empty : KeyValueTable).entries = .ok [] := rfl
    have hunambiguous : primaryKeyColumn ≠ kTotalCount := ne_of_mem_of_not_mem hkey halias
    simp only [hkeys, hwhere, countedSortColumn, sqlColumn, hfoldedKey, hkey, if_true, bind,
      Except.bind, if_neg hunambiguous, hselected, hpage]
  have hfound : (toKeyValueTable t.names (rowWith base c value)).find? primaryKeyColumn =
      some (base primaryKeyColumn) := find?_rowWith hkey hkc
  simp only [DatabaseRESTHelper.getFkOptions, DatabaseRESTHelper.fkRows, if_true, hrows,
    bind, Except.bind, DatabaseRESTHelper.fkOptions,
    resolveDisplayValues_single hfound htemplate]
  simp [DatabaseRESTHelper.fkOption, hfound, SortedMap.find?_set_self, pure, Except.pure]

end Leak

/-!
# When the operations keep the columns hidden
-/

/-- The same operation, with any search text, page size or values. -/
inductive Alike : ReadOp -> ReadOp -> Prop
  | same (op : ReadOp) : Alike op op
  | options (tableName primaryKeyColumn displayTemplate searchText searchText' : String)
      (pageSize pageSize' : Int) :
      Alike (.getFkOptions tableName primaryKeyColumn displayTemplate searchText pageSize)
        (.getFkOptions tableName primaryKeyColumn displayTemplate searchText' pageSize')
  | display (tableName primaryKeyColumn displayTemplate : String)
      (values values' : List String) :
      Alike (.resolveFkDisplay tableName primaryKeyColumn displayTemplate values)
        (.resolveFkDisplay tableName primaryKeyColumn displayTemplate values')

/-- The operation drops the redacted columns, or none shows through its template.
The picker's options need the table's name as it is; the display folds it. -/
def KeepsHidden (columnRedactions : ColumnRedactionSet) (s : Schema) : ReadOp -> Prop
  | .getFkOptions tableName primaryKeyColumn displayTemplate _ _ =>
      Not (Shows columnRedactions s tableName primaryKeyColumn displayTemplate)
  | .resolveFkDisplay tableName primaryKeyColumn displayTemplate _ =>
      Not (Shows columnRedactions s (escSqlName tableName) primaryKeyColumn
        displayTemplate)
  | _ => True

theorem noninterference_of_keepsHidden {op : ReadOp}
    (h : KeepsHidden columnRedactions s op) : Noninterference columnRedactions s op := by
  cases op with
  | getTableValues tableName => exact noninterference_getTableValues tableName
  | getRowsByColumn tableName columnName asc pageSize page =>
      exact noninterference_getRowsByColumn tableName columnName asc pageSize page
  | getRowsByColumnWithCount tableName columnName asc pageSize page =>
      exact noninterference_getRowsByColumnWithCount tableName columnName asc pageSize page
  | getRowsByValuesWithCount tableName sortColumnName lookupValues asc pageSize page =>
      exact noninterference_getRowsByValuesWithCount tableName sortColumnName lookupValues
        asc pageSize page
  | getRow tableName columnName value =>
      exact noninterference_getRow tableName columnName value
  | getRowByValues tableName lookupValues =>
      exact noninterference_getRowByValues tableName lookupValues
  | getTableValue tableName columnName value =>
      exact noninterference_getTableValue tableName columnName value
  | getFkOptions tableName primaryKeyColumn displayTemplate searchText pageSize =>
      exact noninterference_getFkOptions h searchText pageSize
  | resolveFkDisplay tableName primaryKeyColumn displayTemplate values =>
      exact noninterference_resolveFkDisplay h values

theorem Alike.keepsHidden {op op' : ReadOp} (h : Alike op op')
    (hkeeps : KeepsHidden columnRedactions s op) : KeepsHidden columnRedactions s op' := by
  cases h with
  | same => exact hkeeps
  | options => exact hkeeps
  | display => exact hkeeps

section Necessity

variable {tableName primaryKeyColumn displayTemplate : String}

theorem Shows.cases (h : Shows columnRedactions s tableName primaryKeyColumn
      displayTemplate) :
    exists t c, s.find? tableName = some t ∧ primaryKeyColumn ∈ t.names ∧
      primaryKeyColumn ≠ c ∧ Not (Visible columnRedactions tableName c) ∧
      c ∈ t.names ∧ displayTemplate ≠ "" ∧
      (Mentions displayTemplate.toList c ∨
        exists k, k ∈ t.names ∧ Mentions displayTemplate.toList k ∧ k < c) := by
  rcases h with ⟨⟨t, hfind, hkey⟩, hvisible, c, ⟨t', hfind', hc⟩, hhidden, hshown⟩
  rw [hfind] at hfind'
  cases hfind'
  have hkc : primaryKeyColumn ≠ c := fun h => hhidden (h ▸ hvisible)
  have hnonempty : forall k, Mentions displayTemplate.toList k -> displayTemplate ≠ "" := by
    intro k hk hempty
    rw [hempty] at hk
    exact placeholder_ne_nil k (List.infix_nil.mp hk)
  rcases hshown with hmention | ⟨k, ⟨t', hfind', hk⟩, hmention, hlt⟩
  · exact ⟨t, c, hfind, hkey, hkc, hhidden, hc, hnonempty c hmention, Or.inl hmention⟩
  · rw [hfind] at hfind'
    cases hfind'
    exact ⟨t, c, hfind, hkey, hkc, hhidden, hc, hnonempty k hmention,
      Or.inr ⟨k, hk, hmention, hlt⟩⟩

theorem interferes_getFkOptions
    (halias : forall t, t ∈ s.tables -> kTotalCount ∉ t.names)
    (h : Shows columnRedactions s tableName primaryKeyColumn displayTemplate) :
    Not (Noninterference columnRedactions s
      (.getFkOptions tableName primaryKeyColumn displayTemplate "" 0)) := by
  intro hsame
  have hvisible := h.2.1
  have hfolded := h.1.folded
  rcases h.cases with ⟨t, c, hfind, hkey, hkc, hhidden, hc, htemplate, hshown⟩
  rcases exists_leak hc hshown with ⟨base, text, hmention, htext⟩
  have hnames : NamesNoRedacted columnRedactions
      (.getFkOptions tableName primaryKeyColumn displayTemplate "" 0) := by
    intro c' hc'
    rw [List.mem_singleton.mp hc', ReadOp.tableName, hfolded.1, hfolded.2]
    exact hvisible
  have hagree : Agree columnRedactions (single s tableName (rowWith base c ""))
    (single s tableName (rowWith base c "x")) := agree_single hhidden "" "x"
  have hequal := hsame hnames (Engine.plain s) rowOrderIgnores_plain _ _ hagree
  have hfree := halias t (Schema.find?_some hfind).1
  simp only [ReadOp.run, run_options_single hfind hfree hkey hkc htemplate, htext] at hequal
  exact leak_ne hmention (by simpa using hequal)

theorem interferes_resolveFkDisplay
    (h : Shows columnRedactions s (escSqlName tableName) primaryKeyColumn
      displayTemplate) :
    exists values, Not (Noninterference columnRedactions s
      (.resolveFkDisplay tableName primaryKeyColumn displayTemplate values)) := by
  have hvisible := h.2.1
  have hfolded := h.1.folded
  rcases h.cases with ⟨t, c, hfind, hkey, hkc, hhidden, hc, htemplate, hshown⟩
  rcases exists_leak hc hshown with ⟨base, text, hmention, htext⟩
  refine ⟨[base primaryKeyColumn], ?_⟩
  intro hsame
  have hnames : NamesNoRedacted columnRedactions
      (.resolveFkDisplay tableName primaryKeyColumn displayTemplate
        [base primaryKeyColumn]) := by
    intro c' hc'
    rw [List.mem_singleton.mp hc', ReadOp.tableName, hfolded.2]
    exact hvisible
  rw [← (Schema.find?_some hfind).2] at hhidden
  have hagree : Agree columnRedactions (single s t.tableName (rowWith base c ""))
    (single s t.tableName (rowWith base c "x")) := agree_single hhidden "" "x"
  have hequal := hsame hnames (Engine.plain s) rowOrderIgnores_plain _ _ hagree
  simp only [ReadOp.run, run_resolve_single hfind hkey hkc htemplate, htext] at hequal
  exact leak_ne hmention (by simpa using hequal)

end Necessity

/-- An operation keeps the redacted columns hidden, for all search texts, pages
and values, exactly under the condition. -/
theorem redaction (columnRedactions : ColumnRedactionSet) (s : Schema) (op : ReadOp)
    (halias : forall t, t ∈ s.tables -> kTotalCount ∉ t.names) :
    (forall op', Alike op op' -> Noninterference columnRedactions s op') <->
      KeepsHidden columnRedactions s op := by
  constructor
  · intro hsame
    cases op with
    | getFkOptions tableName primaryKeyColumn displayTemplate searchText pageSize =>
        intro hshows
        exact interferes_getFkOptions halias hshows (hsame _ (Alike.options _ _ _ _ _ _ _))
    | resolveFkDisplay tableName primaryKeyColumn displayTemplate values =>
        intro hshows
        rcases interferes_resolveFkDisplay hshows with ⟨values', hnot⟩
        exact hnot (hsame _ (Alike.display _ _ _ _ _))
    | _ => exact trivial
  · intro hkeeps op' halike
    exact noninterference_of_keepsHidden (halike.keepsHidden hkeeps)

end Noninterference

/-!
## A template with the password hash
-/

section People

def peopleColumn (name : String) : ColumnInfo where
  columnName := name
  primaryKey := decide (name = "id")
  nullable := false
  isText := decide (name ≠ "id")

def peopleSchema : Schema where
  tables := [{ tableName := "people"
               columns := [peopleColumn "id", peopleColumn "email",
                 peopleColumn "password_hash"] }]
  folded := by decide +kernel

def passwordHashRedacted : ColumnRedactionSet := [("people", "password_hash")]

theorem redaction_rows :
    Noninterference passwordHashRedacted peopleSchema (.getTableValues "people") :=
  (redaction passwordHashRedacted peopleSchema (.getTableValues "people") (by decide)).mpr trivial
    _ (Alike.same _)

/-- The options of the picker show the redacted hash. -/
theorem noninterference_fails :
    Not (forall op, Noninterference passwordHashRedacted peopleSchema op) := by
  intro hsame
  have hfind : exists t, peopleSchema.find? "people" = some t ∧
      t.names = ["id", "email", "password_hash"] := ⟨_, rfl, rfl⟩
  rcases hfind with ⟨t, hfind, hnames⟩
  have hshows : Shows passwordHashRedacted peopleSchema "people" "id"
      "\x7bemail\x7d \x7bpassword_hash\x7d" :=
    ⟨⟨t, hfind, by rw [hnames]; decide⟩, by decide, "password_hash",
      ⟨t, hfind, by rw [hnames]; decide⟩, fun h => h (by decide),
      Or.inl (by decide)⟩
  exact interferes_getFkOptions (by decide) hshows (hsame _)

end People

end Rest
end ServerComponents
