import ServerComponents.Relational.SameOutcome
import ServerComponents.Rest.DatabaseRESTHelper

/-!
# Redacted columns and what the read paths show

Two databases that differ in redacted columns only are read by the same call.
The seven operations that drop the redacted columns answer alike.  The picker
operations answer alike exactly when no redacted column shows through the
display template.
-/

namespace ServerComponents
namespace Rest

open Relational

inductive ReadOp where
  | getTableValues (tableName : String)
  | getRowsByColumn (tableName columnName : String) (asc : Bool) (pageSize page : Int)
  | getRowsByColumnWithCount (tableName columnName : String) (asc : Bool)
      (pageSize page : Int)
  | getRowsByValuesWithCount (tableName sortColumnName : String)
      (lookupValues : KeyValueTable) (asc : Bool) (pageSize page : Int)
  | getRow (tableName columnName value : String)
  | getRowByValues (tableName : String) (lookupValues : KeyValueTable)
  | getTableValue (tableName columnName value : String)
  | getFkOptions (tableName primaryKeyColumn displayTemplate searchText : String)
      (pageSize : Int)
  | resolveFkDisplay (tableName primaryKeyColumn displayTemplate : String)
      (values : List String)

namespace ReadOp

def tableName : ReadOp -> String
  | getTableValues tableName => tableName
  | getRowsByColumn tableName _ _ _ _ => tableName
  | getRowsByColumnWithCount tableName _ _ _ _ => tableName
  | getRowsByValuesWithCount tableName _ _ _ _ _ => tableName
  | getRow tableName _ _ => tableName
  | getRowByValues tableName _ => tableName
  | getTableValue tableName _ _ => tableName
  | getFkOptions tableName _ _ _ _ => tableName
  | resolveFkDisplay tableName _ _ _ => tableName

def namedColumns : ReadOp -> List String
  | getTableValues _ => []
  | getRowsByColumn _ columnName _ _ _ => [columnName]
  | getRowsByColumnWithCount _ columnName _ _ _ => [columnName]
  | getRowsByValuesWithCount _ sortColumnName lookupValues _ _ _ =>
      sortColumnName :: lookupValues.keys
  | getRow _ columnName _ => [columnName]
  | getRowByValues _ lookupValues => lookupValues.keys
  | getTableValue _ columnName _ => [columnName]
  | getFkOptions _ primaryKeyColumn _ _ _ => [primaryKeyColumn]
  | resolveFkDisplay _ primaryKeyColumn _ _ => [primaryKeyColumn]

def run {s : Schema} (engine : Engine s) (columnRedactions : ColumnRedactionSet)
    (db : Database s) : ReadOp -> Except Exn Json
  | .getTableValues tableName =>
      DatabaseRESTHelper.getTableValues engine columnRedactions db tableName
  | .getRowsByColumn tableName columnName asc pageSize page =>
      DatabaseRESTHelper.getRowsByColumn engine columnRedactions db tableName columnName asc
        pageSize page
  | .getRowsByColumnWithCount tableName columnName asc pageSize page =>
      DatabaseRESTHelper.getRowsByColumnWithCount engine columnRedactions db tableName columnName
        asc pageSize page
  | .getRowsByValuesWithCount tableName sortColumnName lookupValues asc pageSize page =>
      DatabaseRESTHelper.getRowsByValuesWithCount engine columnRedactions db tableName
        sortColumnName lookupValues asc pageSize page
  | .getRow tableName columnName value =>
      DatabaseRESTHelper.getRow engine columnRedactions db tableName columnName value
  | .getRowByValues tableName lookupValues =>
      DatabaseRESTHelper.getRowByValues engine columnRedactions db tableName lookupValues
  | .getTableValue tableName columnName value =>
      DatabaseRESTHelper.getTableValue engine columnRedactions db tableName columnName value
  | .getFkOptions tableName primaryKeyColumn displayTemplate searchText pageSize =>
      DatabaseRESTHelper.getFkOptions engine db tableName primaryKeyColumn displayTemplate
        searchText pageSize
  | .resolveFkDisplay tableName primaryKeyColumn displayTemplate values =>
      DatabaseRESTHelper.resolveFkDisplay engine db tableName primaryKeyColumn displayTemplate
        values

end ReadOp

section Redaction

variable {s : Schema} (columnRedactions : ColumnRedactionSet)

def ColumnOf (s : Schema) (tableName columnName : String) : Prop :=
  exists t, s.find? tableName = some t ∧ columnName ∈ t.names

def Visible (tableName columnName : String) : Prop :=
  (tableName, columnName) ∉ columnRedactions

instance (tableName columnName : String) :
    Decidable (Visible columnRedactions tableName columnName) :=
  inferInstanceAs (Decidable (_ ∉ _))

/-- Two rows of a table agree except in redacted columns. -/
def AgreeingRows (tableName : String) (row row' : Row) : Prop :=
  forall c, Visible columnRedactions tableName c -> row c = row' c

def Agree (db db' : Database s) : Prop :=
  forall tableName, List.Forall₂ (AgreeingRows columnRedactions tableName)
    (db.rows tableName) (db'.rows tableName)

/-- The order of the rows comes from the columns that are not redacted. -/
def RowOrderIgnores (engine : Engine s) : Prop :=
  forall tableName order rows rows',
    (forall c asc, order = some (c, asc) -> Visible columnRedactions tableName c) ->
    List.Forall₂ (AgreeingRows columnRedactions tableName) rows rows' ->
    List.Forall₂ (AgreeingRows columnRedactions tableName)
      (engine.arrange tableName order rows) (engine.arrange tableName order rows')

/-- The request names no redacted column; SQL reads the folded names. -/
def NamesNoRedacted (op : ReadOp) : Prop :=
  forall c, c ∈ op.namedColumns ->
    Visible columnRedactions (escSqlName op.tableName) (escSqlName c)

def Noninterference (s : Schema) (op : ReadOp) : Prop :=
  NamesNoRedacted columnRedactions op ->
    forall engine : Engine s, RowOrderIgnores columnRedactions engine ->
    forall db db' : Database s, Agree columnRedactions db db' ->
      op.run engine columnRedactions db = op.run engine columnRedactions db'

/-- The rows of a result agree at the visible columns of the table. -/
structure SimilarRow (s : Schema) (tableName : String) (row row' : KeyValueTable) :
    Prop where
  similar : SortedMap.Similar (Visible columnRedactions tableName) row row'
  columns : forall c, c ∈ row.keys -> ColumnOf s tableName c

/-!
# Related rows
-/

section Rules

variable {columnRedactions} {engine : Engine s} {db db' : Database s}
  {visible : String -> Prop} {tableName : String}
variable {columns : List String}

theorem toKeyValueTable_similar {row row' : Row}
    (hrows : forall c, c ∈ columns -> visible c -> row c = row' c) :
    SortedMap.Similar visible (toKeyValueTable columns row)
      (toKeyValueTable columns row') := by
  have hfold : forall m m' : KeyValueTable, SortedMap.Similar visible m m' ->
      SortedMap.Similar visible
        (columns.foldl (fun kv c => kv.set c ((row c).getD "")) m)
        (columns.foldl (fun kv c => kv.set c ((row' c).getD "")) m') := by
    induction columns with
    | nil => exact fun m m' h => h
    | cons c columns ih =>
        intro m m' h
        apply ih (fun c' hc' => hrows c' (List.mem_cons_of_mem c hc'))
        apply h.set
        intro hc
        rw [hrows c (by simp) hc]
  exact hfold _ _ SortedMap.similar_empty

theorem toKeyValueTable_spec (columns : List String) (row : Row) :
    (forall c, c ∈ (toKeyValueTable columns row).keys <-> c ∈ columns) ∧
      forall e, e ∈ (toKeyValueTable columns row).entries ->
        e.2 = (row e.1).getD "" := by
  have hfold : forall (columns : List String) (m : KeyValueTable),
      (forall e, e ∈ m.entries -> e.2 = (row e.1).getD "") ->
      (forall c, c ∈ (columns.foldl (fun kv c => kv.set c ((row c).getD "")) m).keys <->
          c ∈ columns ∨ c ∈ m.keys) ∧
        forall e, e ∈ (columns.foldl (fun kv c => kv.set c ((row c).getD "")) m).entries ->
          e.2 = (row e.1).getD "" := by
    intro columns
    induction columns with
    | nil => exact fun m h => ⟨by simp, h⟩
    | cons c columns ih =>
        intro m h
        have hset : forall e, e ∈ (m.set c ((row c).getD "")).entries ->
            e.2 = (row e.1).getD "" := by
          intro e he
          rcases SortedMap.mem_set he with he | he
          · rw [he]
          · exact h e he
        rcases ih _ hset with ⟨hkeys, hvalues⟩
        refine ⟨?_, hvalues⟩
        intro c'
        rw [List.foldl_cons, hkeys, SortedMap.mem_keys_set, List.mem_cons]
        constructor
        · rintro (h | h | h)
          · exact Or.inl (Or.inr h)
          · exact Or.inl (Or.inl h)
          · exact Or.inr h
        · rintro ((h | h) | h)
          · exact Or.inr (Or.inl h)
          · exact Or.inl h
          · exact Or.inr (Or.inr h)
  rcases hfold columns SortedMap.empty (fun e he => by cases he) with ⟨hkeys, hvalues⟩
  refine ⟨?_, hvalues⟩
  intro c
  rw [toKeyValueTable, hkeys]
  simp [SortedMap.keys, SortedMap.empty]

variable {t : TableInfo}

theorem find?_of_sqlTable (h : sqlTable s tableName = .ok t) :
    s.find? (escSqlName tableName) = some t := by
  unfold sqlTable at h
  split at h
  · cases h
  · rename_i hfind
    cases h
    exact hfind

theorem sqlTable_ok (h : sqlTable s tableName = .ok t) :
    t ∈ s.tables ∧ t.tableName = escSqlName tableName :=
  Schema.find?_some (find?_of_sqlTable h)

theorem sqlColumn_ok {columnName column : String}
    (h : sqlColumn t columnName = .ok column) : column = escSqlName columnName := by
  unfold sqlColumn at h
  split at h
  · cases h
    rfl
  · cases h

theorem ColumnOf.folded {c : String} (h : ColumnOf s tableName c) :
    escSqlName tableName = tableName ∧ escSqlName c = c := by
  rcases h with ⟨t, hfind, hc⟩
  rcases Schema.find?_some hfind with ⟨hmem, hname⟩
  rcases s.folded t hmem with ⟨htable, hcolumns⟩
  rw [hname] at htable
  exact ⟨htable, hcolumns c hc⟩

theorem listColumns_ok {c : String} (ht : sqlTable s tableName = .ok t)
    (hcolumns : DbMeta.listColumns s tableName = .ok columns) (hc : c ∈ columns) :
    t.tableName = tableName ∧ ColumnOf s tableName c := by
  unfold DbMeta.listColumns at hcolumns
  rw [ht] at hcolumns
  by_cases hname : t.tableName = tableName
  · simp only [bind, Except.bind, pure, Except.pure, hname, if_true] at hcolumns
    cases hcolumns
    have hfind := find?_of_sqlTable ht
    rw [← (sqlTable_ok ht).2, hname] at hfind
    exact ⟨hname, t, hfind, hc⟩
  · simp only [bind, Except.bind, pure, Except.pure, hname, if_false] at hcolumns
    cases hcolumns
    cases hc

theorem checkSearchColumns_ok {searchColumns columns : List String}
    (h : DbCrud.checkSearchColumns searchColumns columns = .ok ()) :
    forall c, c ∈ searchColumns -> c ∈ columns := by
  unfold DbCrud.checkSearchColumns at h
  induction searchColumns with
  | nil => simp
  | cons first rest ih =>
      by_cases hfirst : first ∈ columns
      · simp only [List.forM, hfirst, if_true, bind, Except.bind] at h
        intro c hc
        rcases List.mem_cons.mp hc with hc | hc
        · rw [hc]
          exact hfirst
        · exact ih h c hc
      · simp only [List.forM, hfirst, if_false, bind, Except.bind] at h
        cases h

theorem lookupDatabaseColumnInfo_ok {columnName : String}
    (h : DbCrud.lookupDatabaseColumnInfoByColumnName columns columnName = .ok ()) :
    columnName ∈ columns := by
  unfold DbCrud.lookupDatabaseColumnInfoByColumnName at h
  split at h
  · assumption
  · cases h

theorem whereClause_ok {conditions conditions' : List (String × String)}
    (h : DbCrud.whereClause engine t conditions = .ok conditions') {e : String × String}
    (he : e ∈ conditions') : exists e', e' ∈ conditions ∧ e.1 = escSqlName e'.1 := by
  unfold DbCrud.whereClause at h
  induction conditions generalizing conditions' with
  | nil =>
      cases h
      cases he
  | cons first rest ih =>
      rw [List.mapM_cons] at h
      cases hcolumn : sqlColumn t first.1 with
      | error err =>
          rw [hcolumn] at h
          cases h
      | ok column =>
          cases hcast : engine.castable t.tableName column first.2 with
          | error err =>
              simp only [hcolumn, hcast, bind, Except.bind] at h
              cases h
          | ok value =>
              simp only [hcolumn, hcast, bind, Except.bind, pure, Except.pure] at h
              split at h
              · cases h
              · rename_i rest' hrest
                cases h
                rcases List.mem_cons.mp he with he | he
                · rw [he]
                  exact ⟨first, by simp, sqlColumn_ok hcolumn⟩
                · rcases ih hrest he with ⟨e', he', hname⟩
                  exact ⟨e', List.mem_cons_of_mem first he', hname⟩

variable {conditions : List (String × String)}

theorem whereClause_visible {lookupValues : KeyValueTable} (ht : sqlTable s tableName = .ok t)
    (hlookup : forall c, c ∈ lookupValues.keys ->
      Visible columnRedactions (escSqlName tableName) (escSqlName c))
    (h : DbCrud.whereClause engine t lookupValues.entries = .ok conditions) :
    forall e, e ∈ conditions -> Visible columnRedactions t.tableName e.1 := by
  intro e he
  rcases whereClause_ok h he with ⟨e', he', hname⟩
  rw [(sqlTable_ok ht).2, hname]
  exact hlookup e'.1 (List.mem_map_of_mem he')

theorem holdsAll_eq {row row' : Row}
    (hvisible : forall e, e ∈ conditions -> Visible columnRedactions t.tableName e.1)
    (hrows : AgreeingRows columnRedactions t.tableName row row') :
    DbCrud.holdsAll engine t conditions row = DbCrud.holdsAll engine t conditions row' := by
  unfold DbCrud.holdsAll
  rw [Bool.eq_iff_iff, List.all_eq_true, List.all_eq_true]
  constructor
  · intro h e he
    rw [← hrows e.1 (hvisible e he)]
    exact h e he
  · intro h e he
    rw [hrows e.1 (hvisible e he)]
    exact h e he

section TwoRuns

variable (horder : RowOrderIgnores columnRedactions engine)
  (hagree : Agree columnRedactions db db')

include horder hagree

theorem selectRows_related {filter : Row -> Bool} {order : Option (String × Bool)}
    (hfilter : forall row row', AgreeingRows columnRedactions t.tableName row row' ->
      filter row = filter row')
    (hsort : forall c asc, order = some (c, asc) ->
      Visible columnRedactions t.tableName c) :
    List.Forall₂ (AgreeingRows columnRedactions t.tableName)
      (DbCrud.selectRows engine db t filter order)
      (DbCrud.selectRows engine db' t filter order) :=
  horder _ _ _ _ hsort (forall₂_filter (hagree t.tableName) hfilter)

end TwoRuns

theorem limitOffset_related {a a' : Type} {related : a -> a' -> Prop} {rows : List a}
    {rows' : List a'} (limit : Option Int) (offset : Int)
    (hrows : List.Forall₂ related rows rows') :
    SameOutcome (List.Forall₂ related) (limitOffset limit offset rows)
      (limitOffset limit offset rows') := by
  have hdrop := List.forall₂_drop offset.toNat hrows
  unfold limitOffset
  split
  · exact SameOutcome.error _
  · split
    · exact SameOutcome.ok hdrop
    · rename_i n
      split
      · exact SameOutcome.error _
      · exact SameOutcome.ok (List.forall₂_take n.toNat hdrop)

theorem toKeyValueTable_similarRow {row row' : Row}
    (hcolumns : forall c, c ∈ columns -> t.tableName = tableName ∧ ColumnOf s tableName c)
    (hrow : AgreeingRows columnRedactions t.tableName row row') :
    SimilarRow columnRedactions s tableName (toKeyValueTable columns row)
      (toKeyValueTable columns row') where
  similar := by
    apply toKeyValueTable_similar
    intro c hc hvisible
    apply hrow c
    rw [(hcolumns c hc).1]
    exact hvisible
  columns := fun c hc => (hcolumns c (((toKeyValueTable_spec columns row).1 c).mp hc)).2

theorem map_toKeyValueTable_similarRow {rows rows' : List Row}
    (hcolumns : forall c, c ∈ columns -> t.tableName = tableName ∧ ColumnOf s tableName c)
    (hrows : List.Forall₂ (AgreeingRows columnRedactions t.tableName) rows rows') :
    List.Forall₂ (SimilarRow columnRedactions s tableName)
      (rows.map (toKeyValueTable columns)) (rows'.map (toKeyValueTable columns)) :=
  forall₂_map hrows (fun _ _ hrow => toKeyValueTable_similarRow hcolumns hrow)

/-- The columns of a counted page, whose own name the count takes. -/
def countedColumns (columns : List String) : List String :=
  columns.filter (fun c => c ≠ kTotalCount)

theorem mem_countedColumns {c : String} :
    c ∈ countedColumns columns <-> c ∈ columns ∧ c ≠ kTotalCount := by
  simp [countedColumns]

theorem countedColumns_eq (halias : kTotalCount ∉ columns) :
    countedColumns columns = columns :=
  List.filter_eq_self.mpr (fun _ hc => decide_eq_true (ne_of_mem_of_not_mem hc halias))

theorem erase_count (columns : List String) (row : Row) (count : String) :
    ((toKeyValueTable columns row).set kTotalCount count).erase kTotalCount =
      toKeyValueTable (countedColumns columns) row := by
  have hspec := toKeyValueTable_spec columns row
  have hcounted := toKeyValueTable_spec (countedColumns columns) row
  refine SortedMap.ext_values (fun c => (row c).getD "") (fun k => ?_) (fun e he => ?_)
    hcounted.2
  · rw [hcounted.1, mem_countedColumns, ← hspec.1, SortedMap.erase,
      SortedMap.mem_keys_filterKeys, SortedMap.mem_keys_set, decide_eq_true_eq]
    exact and_congr_left (fun hne => or_iff_right hne)
  · rcases List.mem_filter.mp he with ⟨hmem, hne⟩
    rcases SortedMap.mem_set hmem with rfl | hmem
    · exact absurd rfl (of_decide_eq_true hne)
    · exact hspec.2 e hmem

theorem sqlColumn_of_counted {columnName column : String}
    (h : countedSortColumn t columnName = .ok column) :
    sqlColumn t columnName = .ok column ∧ column ≠ kTotalCount := by
  rcases exceptBind_ok h with ⟨found, hfound, h⟩
  split at h
  · cases h
  · cases h
    exact ⟨hfound, ‹_›⟩

theorem countedPage_related {rows rows' : List Row} (pageSize page : Int)
    (hcolumns : forall c, c ∈ columns -> t.tableName = tableName ∧ ColumnOf s tableName c)
    (hrows : List.Forall₂ (AgreeingRows columnRedactions t.tableName) rows rows') :
    SameOutcome (fun p p' => List.Forall₂
        (SimilarRow columnRedactions s tableName) p.1 p'.1 ∧ p.2 = p'.2)
      (DbCrud.countedPage columns rows pageSize page)
      (DbCrud.countedPage columns rows' pageSize page) := by
  unfold DbCrud.countedPage
  apply SameOutcome.bind (limitOffset_related _ _ hrows)
  intro pageRows pageRows' hpage
  rw [hrows.length_eq]
  have hresults : List.Forall₂ (fun m m' : KeyValueTable =>
      SimilarRow columnRedactions s tableName (m.erase kTotalCount)
          (m'.erase kTotalCount) ∧
        m.find? kTotalCount = m'.find? kTotalCount)
      (pageRows.map (fun row => (toKeyValueTable columns row).set kTotalCount
        (toString rows'.length)))
      (pageRows'.map (fun row => (toKeyValueTable columns row).set kTotalCount
        (toString rows'.length))) := by
    apply forall₂_map hpage
    intro row row' hrow
    have hsimilar := toKeyValueTable_similarRow hcolumns hrow
    constructor
    · constructor
      · exact (hsimilar.similar.set (fun _ => rfl)).filterKeys _
      · intro c hc
        rcases SortedMap.mem_keys_erase hc with ⟨hset, hne⟩
        rcases SortedMap.mem_keys_set.mp hset with h | h
        · exact absurd h hne
        · exact hsimilar.columns c h
    · rw [SortedMap.find?_set_self, SortedMap.find?_set_self]
  generalize pageRows.map _ = results at hresults ⊢
  generalize pageRows'.map _ = results' at hresults ⊢
  unfold DbCrud.extractTotalCount
  cases hresults with
  | nil => exact SameOutcome.ok ⟨List.Forall₂.nil, rfl⟩
  | cons hfirst hrest =>
      dsimp only
      rw [hfirst.2]
      apply SameOutcome.bind_same
      intro totalCount _
      exact SameOutcome.ok
        ⟨forall₂_map (List.Forall₂.cons hfirst hrest) (fun m m' h => h.1), rfl⟩

/-!
# Related results of the reading functions
-/

section TwoRuns

variable (horder : RowOrderIgnores columnRedactions engine)
  (hagree : Agree columnRedactions db db')

include horder hagree

theorem getTableRows_related (tableName : String) :
    SameOutcome (List.Forall₂ (SimilarRow columnRedactions s tableName))
      (DbCrud.getTableRows engine db tableName)
      (DbCrud.getTableRows engine db' tableName) := by
  unfold DbCrud.getTableRows
  apply SameOutcome.bind_same
  intro columns hcolumns
  apply SameOutcome.bind_same
  intro t ht
  apply SameOutcome.ok
  exact map_toKeyValueTable_similarRow (fun c hc => listColumns_ok ht hcolumns hc)
    (selectRows_related horder hagree (fun _ _ _ => rfl) (by simp))

omit horder hagree in
theorem sort_visible {columnName sortColumn : String} {asc : Bool}
    (ht : sqlTable s tableName = .ok t) (hcolumn : sqlColumn t columnName = .ok sortColumn)
    (hsort : Visible columnRedactions (escSqlName tableName) (escSqlName columnName))
    (c : String) (asc' : Bool) (h : some (sortColumn, asc) = some (c, asc')) :
    Visible columnRedactions t.tableName c := by
  cases h
  rw [(sqlTable_ok ht).2, sqlColumn_ok hcolumn]
  exact hsort

theorem getRowsByColumn_related (tableName : String) {columnName : String}
    (hsort : Visible columnRedactions (escSqlName tableName) (escSqlName columnName))
    (asc : Bool) (pageSize page : Int) :
    SameOutcome (List.Forall₂ (SimilarRow columnRedactions s tableName))
      (DbCrud.getRowsByColumn engine db tableName columnName asc pageSize page)
      (DbCrud.getRowsByColumn engine db' tableName columnName asc pageSize page) := by
  unfold DbCrud.getRowsByColumn
  apply SameOutcome.bind_same
  intro columns hcolumns
  apply SameOutcome.bind_same
  intro _ _
  apply SameOutcome.bind_same
  intro t ht
  apply SameOutcome.bind_same
  intro sortColumn hsortColumn
  apply SameOutcome.bind (limitOffset_related _ _
    (selectRows_related horder hagree (fun _ _ _ => rfl)
      (sort_visible ht hsortColumn hsort)))
  intro rows rows' hrows
  exact SameOutcome.ok
    (map_toKeyValueTable_similarRow (fun c hc => listColumns_ok ht hcolumns hc) hrows)

theorem getRowsByValues_related (tableName : String) {sortColumnName : String}
    {lookupValues : KeyValueTable}
    (hsort : Visible columnRedactions (escSqlName tableName) (escSqlName sortColumnName))
    (hlookup : forall c, c ∈ lookupValues.keys ->
      Visible columnRedactions (escSqlName tableName) (escSqlName c))
    (asc : Bool) (pageSize page : Int) :
    SameOutcome (fun p p' => List.Forall₂
        (SimilarRow columnRedactions s tableName) p.1 p'.1 ∧ p.2 = p'.2)
      (DbCrud.getRowsByValues engine db tableName sortColumnName lookupValues asc
        pageSize page)
      (DbCrud.getRowsByValues engine db' tableName sortColumnName lookupValues asc
        pageSize page) := by
  unfold DbCrud.getRowsByValues
  apply SameOutcome.bind_same
  intro columns hcolumns
  apply SameOutcome.bind_same
  intro _ _
  apply SameOutcome.bind_same
  intro _ _
  apply SameOutcome.bind_same
  intro t ht
  apply SameOutcome.bind_same
  intro sortColumn hsortColumn
  apply SameOutcome.bind_same
  intro conditions hconditions
  apply countedPage_related pageSize page (fun c hc => listColumns_ok ht hcolumns hc)
  apply selectRows_related horder hagree
  · intro row row' hrows
    exact holdsAll_eq (whereClause_visible ht hlookup hconditions) hrows
  · exact sort_visible ht (sqlColumn_of_counted hsortColumn).1 hsort

theorem lookupRow_related
    (hcolumns : forall c, c ∈ columns -> t.tableName = tableName ∧ ColumnOf s tableName c)
    (hvisible : forall e, e ∈ conditions -> Visible columnRedactions t.tableName e.1) :
    SortedMap.Similar (Visible columnRedactions tableName)
      (DbCrud.oneRow columns
        (DbCrud.selectRows engine db t (DbCrud.holdsAll engine t conditions) none))
      (DbCrud.oneRow columns
        (DbCrud.selectRows engine db' t (DbCrud.holdsAll engine t conditions) none)) := by
  have hrows : List.Forall₂ (AgreeingRows columnRedactions t.tableName)
      (DbCrud.selectRows engine db t (DbCrud.holdsAll engine t conditions) none)
      (DbCrud.selectRows engine db' t (DbCrud.holdsAll engine t conditions) none) :=
    selectRows_related horder hagree (fun row row' h => holdsAll_eq hvisible h) (by simp)
  generalize DbCrud.selectRows engine db t _ none = rows at hrows ⊢
  generalize DbCrud.selectRows engine db' t _ none = rows' at hrows ⊢
  cases hrows with
  | nil => exact SortedMap.similar_empty
  | cons hfirst hrest => exact (toKeyValueTable_similarRow hcolumns hfirst).similar

theorem lookupRowByValue_related (tableName : String) {columnName : String}
    (hlookup : Visible columnRedactions (escSqlName tableName) (escSqlName columnName))
    (lookupValue : String) :
    SameOutcome (SortedMap.Similar (Visible columnRedactions tableName))
      (DbCrud.lookupRowByValue engine db tableName columnName lookupValue)
      (DbCrud.lookupRowByValue engine db' tableName columnName lookupValue) := by
  unfold DbCrud.lookupRowByValue
  apply SameOutcome.bind_same
  intro columns hcolumns
  apply SameOutcome.bind_same
  intro _ _
  apply SameOutcome.bind_same
  intro t ht
  apply SameOutcome.bind_same
  intro conditions hconditions
  apply SameOutcome.ok
  apply lookupRow_related horder hagree (fun c hc => listColumns_ok ht hcolumns hc)
  intro e he
  rcases whereClause_ok hconditions he with ⟨e', he', hname⟩
  rw [(sqlTable_ok ht).2, hname, List.mem_singleton.mp he']
  exact hlookup

theorem lookupRowByValues_related (tableName : String) {lookupValues : KeyValueTable}
    (hlookup : forall c, c ∈ lookupValues.keys ->
      Visible columnRedactions (escSqlName tableName) (escSqlName c)) :
    SameOutcome (SortedMap.Similar (Visible columnRedactions tableName))
      (DbCrud.lookupRowByValues engine db tableName lookupValues)
      (DbCrud.lookupRowByValues engine db' tableName lookupValues) := by
  unfold DbCrud.lookupRowByValues
  apply SameOutcome.bind_same
  intro columns hcolumns
  split
  · exact SameOutcome.error _
  · apply SameOutcome.bind_same
    intro t ht
    apply SameOutcome.bind_same
    intro conditions hconditions
    apply SameOutcome.ok
    exact lookupRow_related horder hagree
      (fun c hc => listColumns_ok ht hcolumns hc)
      (whereClause_visible ht hlookup hconditions)

/-- The searched columns are all columns of the table by the time that the rows
are compared with the text. -/
theorem searchRowsByILike_related (tableName : String) {sortColumnName : String}
    {searchColumns : List String} (searchText : String)
    (hsort : Visible columnRedactions (escSqlName tableName) (escSqlName sortColumnName))
    (hsearch : ColumnOf s tableName sortColumnName ->
      forall c, c ∈ searchColumns -> ColumnOf s tableName c ->
        Visible columnRedactions tableName c)
    (asc : Bool) (pageSize page : Int) :
    SameOutcome (fun p p' => List.Forall₂
        (SimilarRow columnRedactions s tableName) p.1 p'.1 ∧ p.2 = p'.2)
      (DbCrud.searchRowsByILike engine db tableName sortColumnName searchColumns
        searchText asc pageSize page)
      (DbCrud.searchRowsByILike engine db' tableName sortColumnName searchColumns
        searchText asc pageSize page) := by
  unfold DbCrud.searchRowsByILike
  apply SameOutcome.bind_same
  intro columns hcolumns
  apply SameOutcome.bind_same
  intro _ hsortOk
  apply SameOutcome.bind_same
  intro _ hsearchOk
  apply SameOutcome.bind_same
  intro t ht
  apply SameOutcome.bind_same
  intro sortColumn hsortColumn
  apply countedPage_related pageSize page (fun c hc => listColumns_ok ht hcolumns hc)
  apply selectRows_related horder hagree
  · intro row row' hrows
    have hsame : forall c, c ∈ searchColumns ->
        row (escSqlName c) = row' (escSqlName c) := by
      intro c hc
      rcases listColumns_ok ht hcolumns (checkSearchColumns_ok hsearchOk c hc) with
        ⟨htable, hcolumn⟩
      apply hrows
      rw [htable, hcolumn.folded.2]
      exact hsearch
        (listColumns_ok ht hcolumns (lookupDatabaseColumnInfo_ok hsortOk)).2 c hc hcolumn
    unfold DbCrud.matchesSearch
    congr 1
    rw [Bool.eq_iff_iff, List.any_eq_true, List.any_eq_true]
    constructor
    · rintro ⟨c, hc, hmatch⟩
      exact ⟨c, hc, by rw [← hsame c hc]; exact hmatch⟩
    · rintro ⟨c, hc, hmatch⟩
      exact ⟨c, hc, by rw [hsame c hc]; exact hmatch⟩
  · exact sort_visible ht (sqlColumn_of_counted hsortColumn).1 hsort

theorem lookupRowsByPrimaryKeyValues_related (tableName : String)
    {primaryKeyColumn : String} (values : List String)
    (hlookup : Visible columnRedactions (escSqlName tableName)
      (escSqlName primaryKeyColumn)) :
    SameOutcome (List.Forall₂ (SimilarRow columnRedactions s (escSqlName tableName)))
      (DbCrud.lookupRowsByPrimaryKeyValues engine db tableName primaryKeyColumn values)
      (DbCrud.lookupRowsByPrimaryKeyValues engine db' tableName primaryKeyColumn
        values) := by
  unfold DbCrud.lookupRowsByPrimaryKeyValues
  split
  · exact SameOutcome.ok List.Forall₂.nil
  · apply SameOutcome.bind_same
    intro t ht
    apply SameOutcome.bind_same
    intro column hcolumn
    apply SameOutcome.bind_same
    intro _ _
    apply SameOutcome.ok
    apply map_toKeyValueTable_similarRow
      (fun c hc => ⟨(sqlTable_ok ht).2, t, find?_of_sqlTable ht, hc⟩)
    apply selectRows_related horder hagree
    · intro row row' hrows
      have hsame : row column = row' column := by
        apply hrows
        rw [(sqlTable_ok ht).2, sqlColumn_ok hcolumn]
        exact hlookup
      rw [hsame]
    · simp

end TwoRuns

theorem applyRedactions_eq {row row' : KeyValueTable}
    (h : SortedMap.Similar (Visible columnRedactions tableName) row row') :
    DatabaseRESTHelper.applyRedactions columnRedactions tableName row =
      DatabaseRESTHelper.applyRedactions columnRedactions tableName row' := by
  apply h.filterKeys_eq
  intro c hc
  simpa [Visible] using hc

end Rules

end Redaction

end Rest
end ServerComponents
