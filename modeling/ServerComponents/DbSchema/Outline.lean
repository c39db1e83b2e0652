import ServerComponents.DbSchema.SchemaCalls

/-!
# The outline of a schema

The names of the tables with the names of their columns.  While one table is filled, it
stands last, and a call on it can be read off the outline: it adds its column, or it
throws for a name that is there.
-/

namespace ServerComponents
namespace DbSchema

open Control

variable {tableInfo : TableInfo} {columnInfo : ColumnInfo}

namespace TableInfo

def columnNames (tableInfo : TableInfo) : List String :=
  tableInfo.columnInfoList.map ColumnInfo.columnName

def outline (tableInfo : TableInfo) : String × List String :=
  (tableInfo.tableName, tableInfo.columnNames)

theorem addColumn_new (h : columnInfo.columnName ∉ tableInfo.columnNames) :
    exists tableInfo', addColumn columnInfo tableInfo = .ok tableInfo' ∧
      tableInfo'.outline =
        (tableInfo.tableName, tableInfo.columnNames ++ [columnInfo.columnName]) := by
  unfold columnNames at h
  unfold addColumn
  rw [dif_neg h]
  refine ⟨_, rfl, congrArg (Prod.mk tableInfo.tableName) ?_⟩
  exact List.map_append

theorem addColumn_known (h : columnInfo.columnName ∈ tableInfo.columnNames) :
    exists err, addColumn columnInfo tableInfo = .error err := by
  unfold columnNames at h
  unfold addColumn
  rw [dif_pos h]
  exact ⟨_, rfl⟩

theorem addUniqueConstraintHelper_new
    {tableUniqueValues : TableUniqueValues} (h : Not (tableUniqueValues.columns = [])) :
    exists tableInfo', addUniqueConstraintHelper tableUniqueValues tableInfo = .ok tableInfo' ∧
      tableInfo'.outline = tableInfo.outline := by
  unfold addUniqueConstraintHelper
  rw [if_neg h]
  exact ⟨_, rfl, rfl⟩

theorem mem_columnNames {columnName : String} :
    columnName ∈ tableInfo.columnNames <->
      exists info, tableInfo.getColumn columnName = .ok info := by
  unfold getColumn
  constructor
  · intro h
    rcases List.mem_map.mp h with ⟨info, hinfo, hname⟩
    cases hfind : tableInfo.columnInfoList.find?
        (fun info => decide (info.columnName = columnName)) with
    | none =>
        have hnot := List.find?_eq_none.mp hfind info hinfo
        simp [hname] at hnot
    | some info' => exact ⟨info', rfl⟩
  · rintro ⟨info, hinfo⟩
    cases hfind : tableInfo.columnInfoList.find?
        (fun info => decide (info.columnName = columnName)) with
    | none =>
        rw [hfind] at hinfo
        cases hinfo
    | some info' =>
        have hname : info'.columnName = columnName := by simpa using List.find?_some hfind
        rw [← hname]
        exact List.mem_map_of_mem (List.mem_of_find?_eq_some hfind)

end TableInfo

namespace DatabaseInfo

def outline (d : DatabaseInfo) : List (String × List String) :=
  d.tableInfoList.map TableInfo.outline

def references (d : DatabaseInfo) : List ForeignKeyReference :=
  d.foreignKeyManager.foreignKeyReferences

variable {d : DatabaseInfo} {tableName : String}

theorem map_fst_outline (d : DatabaseInfo) :
    d.outline.map Prod.fst = d.tableInfoList.map TableInfo.tableName := by
  unfold outline
  rw [List.map_map]
  rfl

theorem nodup_outline (d : DatabaseInfo) : (d.outline.map Prod.fst).Nodup := by
  rw [map_fst_outline]
  exact d.distinct

theorem eq_of_mem_outline {entry entry' : String × List String} (h : entry ∈ d.outline)
    (h' : entry' ∈ d.outline) (heq : entry.1 = entry'.1) : entry = entry' :=
  List.inj_on_of_nodup_map d.nodup_outline h h' heq

theorem getTableInfo_of_mem {columns : List String} (h : (tableName, columns) ∈ d.outline) :
    exists tableInfo, d.getTableInfo tableName = .ok tableInfo ∧
      tableInfo.outline = (tableName, columns) := by
  rcases List.mem_map.mp h with ⟨tableInfo, hmem, houtline⟩
  have hname : tableInfo.tableName = tableName := congrArg Prod.fst houtline
  unfold getTableInfo
  cases hfind : d.tableInfoList.find? (fun t => decide (t.tableName = tableName)) with
  | none =>
      have hnot := List.find?_eq_none.mp hfind tableInfo hmem
      simp [hname] at hnot
  | some tableInfo' =>
      have hname' : tableInfo'.tableName = tableName := by simpa using List.find?_some hfind
      have hmem' : tableInfo'.outline ∈ d.outline :=
        List.mem_map_of_mem (List.mem_of_find?_eq_some hfind)
      refine ⟨tableInfo', rfl, ?_⟩
      exact eq_of_mem_outline hmem' h hname'

theorem getTableInfo_mem
    (h : d.getTableInfo tableName = .ok tableInfo) : tableInfo.outline ∈ d.outline := by
  unfold getTableInfo at h
  cases hfind : d.tableInfoList.find? (fun t => decide (t.tableName = tableName)) with
  | none =>
      rw [hfind] at h
      cases h
  | some tableInfo' =>
      rw [hfind] at h
      cases h
      exact List.mem_map_of_mem (List.mem_of_find?_eq_some hfind)

theorem addTable_new (h : tableName ∉ d.outline.map Prod.fst) :
    exists d', addTable tableName d = (.ok (), d') ∧
      d'.outline = d.outline ++ [(tableName, [])] ∧ d'.references = d.references := by
  rw [map_fst_outline] at h
  unfold addTable
  rw [dif_neg h]
  refine ⟨_, rfl, ?_, rfl⟩
  unfold outline
  rw [List.map_append]
  rfl

theorem addTable_known (h : tableName ∈ d.outline.map Prod.fst) :
    exists err, addTable tableName d = (.error err, d) := by
  rw [map_fst_outline] at h
  unfold addTable
  rw [dif_pos h]
  exact ⟨_, rfl⟩

end DatabaseInfo

/-!
# The table that is filled
-/

/-- The table stands last with these columns. -/
structure Filling (d : DatabaseInfo) (others : List (String × List String))
    (tableName : String) (columns : List String) : Prop where
  outline : d.outline = others ++ [(tableName, columns)]

namespace Filling

variable {d : DatabaseInfo} {others : List (String × List String)} {tableName : String}
  {columns : List String}

variable (h : Filling d others tableName columns)

include h in
theorem mem : (tableName, columns) ∈ d.outline := by
  rw [h.outline]
  exact List.mem_append_right others List.mem_cons_self

include h in
theorem not_mem :
    tableName ∉ others.map Prod.fst := by
  have hnodup := d.nodup_outline
  rw [h.outline, List.map_append] at hnodup
  intro hmem
  exact (List.nodup_append.mp hnodup).2.2 _ hmem _ List.mem_cons_self rfl

include h in
theorem outline_eq (ht : d.getTableInfo tableName = .ok tableInfo) :
    tableInfo.outline = (tableName, columns) :=
  DatabaseInfo.eq_of_mem_outline (DatabaseInfo.getTableInfo_mem ht) h.mem
    (DatabaseInfo.getTableInfo_ok ht)

include h in
theorem replaceTable
    {columns' : List String} (houtline : tableInfo.outline = (tableName, columns')) :
    Filling (d.replaceTable tableInfo) others tableName columns' := by
  have hname : tableInfo.tableName = tableName := congrArg Prod.fst houtline
  constructor
  have hreplace : (d.replaceTable tableInfo).outline =
      d.outline.map (fun entry =>
        if entry.1 = tableName then tableInfo.outline else entry) := by
    unfold DatabaseInfo.outline DatabaseInfo.replaceTable
    rw [List.map_map, List.map_map]
    refine List.map_congr_left (fun t _ => ?_)
    by_cases ht : t.tableName = tableName
    · simp [ht, hname, TableInfo.outline]
    · simp [ht, hname, TableInfo.outline]
  have hothers : others.map (fun entry =>
      if entry.1 = tableName then tableInfo.outline else entry) = others := by
    refine (List.map_congr_left ?_).trans (List.map_id others)
    intro entry hentry
    refine if_neg (fun heq => h.not_mem ?_)
    rw [← heq]
    exact List.mem_map_of_mem hentry
  rw [hreplace, h.outline, List.map_append, hothers, List.map_singleton, if_pos rfl, houtline]

include h in
theorem alterTable {columns' : List String} {change : TableInfo -> Except Exn TableInfo}
    (hchange : forall tableInfo, tableInfo.outline = (tableName, columns) ->
      exists tableInfo', change tableInfo = .ok tableInfo' ∧
        tableInfo'.outline = (tableName, columns')) :
    exists d', DatabaseInfo.alterTable tableName change d = (.ok (), d') ∧
      Filling d' others tableName columns' ∧ d'.references = d.references := by
  rcases DatabaseInfo.getTableInfo_of_mem h.mem with ⟨tableInfo, ht, houtline⟩
  rcases hchange tableInfo houtline with ⟨tableInfo', hok, houtline'⟩
  rcases DatabaseInfo.alterTable_spec d tableName change with
    ⟨err, -, herror⟩ | ⟨t, t', ht', hok', hrun⟩
  · have hrefused := herror tableInfo ht
    rw [hok] at hrefused
    cases hrefused
  · have htable : t = tableInfo := Except.ok.inj (ht'.symm.trans ht)
    rw [htable] at hok'
    have hresult : t' = tableInfo' := Except.ok.inj (hok'.symm.trans hok)
    rw [hresult] at hrun
    exact ⟨_, hrun, h.replaceTable houtline', rfl⟩

include h in
theorem addColumn_new (hnew : columnInfo.columnName ∉ columns) :
    exists d', DatabaseInfo.alterTable tableName (TableInfo.addColumn columnInfo) d =
        (.ok (), d') ∧
      Filling d' others tableName (columns ++ [columnInfo.columnName]) ∧
      d'.references = d.references := by
  refine h.alterTable (fun tableInfo houtline => ?_)
  have hname : tableInfo.tableName = tableName := congrArg Prod.fst houtline
  have hcolumns : tableInfo.columnNames = columns := congrArg Prod.snd houtline
  rw [← hcolumns] at hnew ⊢
  rw [← hname]
  exact TableInfo.addColumn_new hnew

include h in
theorem addColumn_known (hknown : columnInfo.columnName ∈ columns) :
    exists err, DatabaseInfo.alterTable tableName (TableInfo.addColumn columnInfo) d =
      (.error err, d) := by
  rcases DatabaseInfo.alterTable_spec d tableName (TableInfo.addColumn columnInfo) with
    ⟨err, hrun, -⟩ | ⟨t, t', ht, hadded, -⟩
  · exact ⟨err, hrun⟩
  · have hcolumns : t.columnNames = columns := congrArg Prod.snd (h.outline_eq ht)
    rw [← hcolumns] at hknown
    rcases TableInfo.addColumn_known hknown with ⟨err, hrefused⟩
    rw [hadded] at hrefused
    cases hrefused

include h in
theorem addUniqueConstraintHelper
    {tableUniqueValues : TableUniqueValues} (hcolumns : Not (tableUniqueValues.columns = [])) :
    exists d', DatabaseInfo.addUniqueConstraintHelper tableName tableUniqueValues d =
        (.ok (), d') ∧
      Filling d' others tableName columns ∧ d'.references = d.references := by
  refine h.alterTable (fun tableInfo houtline => ?_)
  rw [← houtline]
  exact TableInfo.addUniqueConstraintHelper_new hcolumns

include h in
theorem addReferencingColumn_new {ref : ForeignKeyReference} {parentColumns : List String}
    (hchild : ref.child.tableName = tableName) (hnew : ref.child.columnName ∉ columns)
    (hparent : (ref.parent.tableName, parentColumns) ∈ d.outline)
    (hcolumn : ref.parent.columnName ∈ parentColumns)
    (hfree : d.foreignKeyManager.find? ref.child = none) :
    exists d', DatabaseInfo.addReferencingColumn ref.parent ref.child ref.nullable d =
        (.ok (), d') ∧
      Filling d' others tableName (columns ++ [ref.child.columnName]) ∧
      d'.references = d.references ++ [ref] := by
  rcases DatabaseInfo.getTableInfo_of_mem hparent with ⟨tableInfo, ht, houtline⟩
  have hnames : tableInfo.columnNames = parentColumns := congrArg Prod.snd houtline
  rw [← hnames] at hcolumn
  rcases TableInfo.mem_columnNames.mp hcolumn with ⟨parent, hfound⟩
  have hinfo : d.column ref.parent = .ok parent :=
    DatabaseInfo.column_ok.mpr ⟨tableInfo, ht, hfound⟩
  rcases DatabaseInfo.getTableInfo_of_mem h.mem with ⟨childInfo, hchildInfo, -⟩
  rcases addForeignKeyReference_new hfree with ⟨manager, hadd, hreferences⟩
  rw [addReferencingColumn_eq hinfo (by rw [hchild]; exact hchildInfo) hadd, hchild]
  have hfilling : Filling { d with foreignKeyManager := manager } others tableName columns :=
    ⟨h.outline⟩
  have hname : (ref.columnInfo parent).columnName ∉ columns := hnew
  rcases hfilling.addColumn_new hname with ⟨d', hrun, hfilled, hsame⟩
  exact ⟨d', hrun, hfilled, hsame.trans hreferences⟩

include h in
theorem addReferencingColumn_refused
    {ref : ForeignKeyReference} (hchild : ref.child.tableName = tableName)
    (hbad : ref.child.columnName ∈ columns ∨
      forall parentColumns, (ref.parent.tableName, parentColumns) ∈ d.outline ->
        ref.parent.columnName ∉ parentColumns) :
    exists err d', DatabaseInfo.addReferencingColumn ref.parent ref.child ref.nullable d =
      (.error err, d') := by
  rcases addReferencingColumn_spec d ref with ⟨err, hrun⟩ | ⟨parent, t, manager, hparent, ht, hadd⟩
  · exact ⟨err, d, hrun⟩
  · rcases hbad with hknown | hmissing
    · rw [addReferencingColumn_eq hparent ht hadd, hchild]
      have hfilling : Filling { d with foreignKeyManager := manager } others tableName columns :=
        ⟨h.outline⟩
      have hname : (ref.columnInfo parent).columnName ∈ columns := hknown
      rcases hfilling.addColumn_known hname with ⟨err, hrun⟩
      exact ⟨err, _, hrun⟩
    · rcases DatabaseInfo.column_ok.mp hparent with ⟨tableInfo, htable, hcolumn⟩
      have hmem := DatabaseInfo.getTableInfo_mem htable
      unfold TableInfo.outline at hmem
      rw [DatabaseInfo.getTableInfo_ok htable] at hmem
      exact absurd (TableInfo.mem_columnNames.mpr ⟨parent, hcolumn⟩) (hmissing _ hmem)

end Filling

end DbSchema
end ServerComponents
