import ServerComponents.Relational.Pages
import ServerComponents.Rest.CountedPages

/-!
# Pages that cover a table

Every page of a table is a query of its own, which orders the rows by one column and lets
the database arrange those that hold the same value there.
-/

namespace ServerComponents
namespace Rest

open Relational

/-- What is read in pages: all rows, those with given values, or those found by a text. -/
inductive PagedSelect where
  | all
  | byValues (lookupValues : KeyValueTable)
  | search (searchColumns : List String) (searchText : String)

/-- A selection of a table's rows, and the column and the direction that order them. -/
structure PagedQuery where
  tableName : String
  sortColumnName : String
  asc : Bool
  select : PagedSelect

section Queries

variable {s : Schema} (engine : Engine s) (db : Database s)

def PagedQuery.ask (query : PagedQuery) (pageSize page : Int) :
    Except Exn (List KeyValueTable) :=
  match query.select with
  | .all =>
      DbCrud.getRowsByColumn engine db query.tableName query.sortColumnName query.asc
        pageSize page
  | .byValues lookupValues =>
      Prod.fst <$> DbCrud.getRowsByValues engine db query.tableName query.sortColumnName
        lookupValues query.asc pageSize page
  | .search searchColumns searchText =>
      Prod.fst <$> DbCrud.searchRowsByILike engine db query.tableName query.sortColumnName
        searchColumns searchText query.asc pageSize page

def PagedSelect.keeps (t : TableInfo) : PagedSelect -> Row -> Bool
  | .all => fun _ => true
  | .byValues lookupValues => DbCrud.holdsAll engine t lookupValues.entries
  | .search searchColumns searchText =>
      DbCrud.matchesSearch engine t searchColumns searchText

def PagedQuery.matching (query : PagedQuery) (t : TableInfo) : List Row :=
  (db.rows t.tableName).filter (query.select.keeps engine t)

def PagedSelect.Admitted (t : TableInfo) : PagedSelect -> Prop
  | .all => True
  | .byValues lookupValues =>
      (forall k, k ∈ lookupValues.keys -> k ∈ t.names) ∧
        forall e, e ∈ lookupValues.entries -> engine.castable t.tableName e.1 e.2 = .ok ()
  | .search searchColumns _ => forall c, c ∈ searchColumns -> c ∈ t.names

structure PagedQuery.Admitted (query : PagedQuery) (t : TableInfo) : Prop where
  found : s.find? query.tableName = some t
  sorted : query.sortColumnName ∈ t.names
  select : query.select.Admitted engine t
  noAlias : kTotalCount ∉ t.names

end Queries

/-- How the values of each table's columns are ordered. -/
abbrev CellOrder := String -> String -> RowOrder (Option String)

def CellOrder.rows (cells : CellOrder) (tableName columnName : String) (asc : Bool) :
    RowOrder Row :=
  let order := (cells tableName columnName).on (fun row : Row => row columnName)
  if asc then order else order.reversed

/-- The same database at another query: it sorts as asked, and is free in the rest. -/
structure Engine.Answers {s : Schema} (engine : Engine s) (cells : CellOrder)
    (engine' : Engine s) : Prop where
  castable : engine'.castable = engine.castable
  equals : engine'.equals = engine.equals
  ilike : engine'.ilike = engine.ilike
  sorted : forall tableName columnName asc rows,
    (cells.rows tableName columnName asc).Arranges rows
      (engine'.arrange tableName (some (columnName, asc)) rows)

/-- Pages are asked for one after the other, up to the first short one. -/
inductive Collects (ask : Nat -> Except Exn (List KeyValueTable)) (p : Nat) :
    Nat -> List KeyValueTable -> Prop
  | last {k : Nat} {rows : List KeyValueTable} (h : ask k = .ok rows)
      (hshort : rows.length < p) : Collects ask p k rows
  | next {k : Nat} {rows rest : List KeyValueTable} (h : ask k = .ok rows)
      (hfull : rows.length = p) (hrest : Collects ask p (k + 1) rest) :
      Collects ask p k (rows ++ rest)

/-- However each query arranges what its order does not tell apart, the pages hold every
matching row exactly once. -/
def PagesCover {s : Schema} (engine : Engine s) (cells : CellOrder) (db : Database s)
    (query : PagedQuery) (t : TableInfo) (p : Nat) : Prop :=
  forall engines : Nat -> Engine s, (forall k, engine.Answers cells (engines k)) ->
    exists all, Collects (fun k => query.ask (engines k) db p k) p 0 all ∧
      all.Perm ((query.matching engine db t).map (toKeyValueTable t.names))

/-- The last page starts at a number that an `int` holds. -/
def OffsetsFit (p : Nat) (rows : List Row) : Prop := rows.length / p * p < 2147483648

/-- No page ends between two rows that are shown differently and have the same sort key. -/
def KeysUnsplit (cells : CellOrder) (query : PagedQuery) (t : TableInfo) (p : Nat)
    (rows : List Row) : Prop :=
  forall k, (cells.rows t.tableName query.sortColumnName query.asc).Unsplit
    (toKeyValueTable t.names) rows (k * p)

/-!
# One page
-/

section Page

variable {s : Schema} (engine : Engine s) (db : Database s) {query : PagedQuery}
  {t : TableInfo}

def PagedQuery.arranged (query : PagedQuery) (t : TableInfo) (rows : List Row) : List Row :=
  engine.arrange t.tableName (some (query.sortColumnName, query.asc)) rows

theorem fst_countedPage {columns : List String} {rows : List Row} {p : Nat}
    (hp : 0 < p) (halias : kTotalCount ∉ columns) (hlength : IsInt64 rows.length)
    (page : Int) :
    Prod.fst <$> DbCrud.countedPage columns rows p page =
      (limitOffset (some (p : Int)) (pageOffset page p) rows).map
        (List.map (toKeyValueTable columns)) := by
  have hsize : Not ((p : Int) = 0) := by omega
  rw [countedPage_eq hlength, countedColumns_eq halias, if_neg hsize]
  cases limitOffset (some (p : Int)) (pageOffset page p) rows with
  | error e => rfl
  | ok pageRows => rfl

theorem ask_eq (h : query.Admitted engine t) {p : Nat} (hp : 0 < p) (page : Int)
    (hlength : IsInt64 (query.matching engine db t).length) :
    query.ask engine db p page =
      (limitOffset (some (p : Int)) (pageOffset page p)
        (query.arranged engine t (query.matching engine db t))).map
          (List.map (toKeyValueTable t.names)) := by
  have hcolumn : DbCrud.lookupDatabaseColumnInfoByColumnName t.names
      query.sortColumnName = .ok () := if_pos h.sorted
  have hsorted : IsInt64 (query.arranged engine t (query.matching engine db t)).length := by
    rw [PagedQuery.arranged, (engine.arrange_perm _ _ _).length_eq]
    exact hlength
  have hunambiguous := ne_of_mem_of_not_mem h.sorted h.noAlias
  have hcount := fst_countedPage hp h.noAlias hsorted page
  rcases query with ⟨tableName, sortColumnName, asc, select⟩
  unfold PagedQuery.ask
  cases select with
  | all =>
      unfold DbCrud.getRowsByColumn
      rw [listColumns_of_exact h.found, sqlTable_of_exact h.found]
      simp only [bind, Except.bind, hcolumn, sqlColumn_of_mem h.found h.sorted]
      rfl
  | byValues lookupValues =>
      rcases h.select with ⟨hkeys, hcastable⟩
      let request : PageRequest := ⟨tableName, sortColumnName, lookupValues, asc, p, page⟩
      have hfound : s.find? request.tableName = some t := h.found
      have hconditions := whereClause_of_mem engine hfound
        (fun e he => hkeys e.1 (List.mem_map_of_mem he)) hcastable
      rw [← hcount]
      unfold DbCrud.getRowsByValues
      rw [listColumns_of_exact h.found, sqlTable_of_exact h.found]
      simp only [bind, Except.bind, hcolumn, checkKeysInTable_of_mem hkeys,
        countedSortColumn_of_mem h.found h.sorted hunambiguous, hconditions]
      rfl
  | search searchColumns searchText =>
      have hchecked : DbCrud.checkSearchColumns searchColumns t.names = .ok () :=
        exceptForM_ok (fun c hc => if_pos (h.select c hc))
      rw [← hcount]
      unfold DbCrud.searchRowsByILike
      rw [listColumns_of_exact h.found, sqlTable_of_exact h.found]
      simp only [bind, Except.bind, hcolumn, hchecked,
        countedSortColumn_of_mem h.found h.sorted hunambiguous]
      rfl

theorem pageOffset_fits {k p : Nat} (h : k * p < 2147483648) :
    pageOffset k p = (k * p : Nat) := by
  unfold pageOffset toInt32 Int.bmod
  rw [← Int.natCast_mul]
  simp only
  split <;> omega

theorem pageOffset_wraps {k p : Nat} (hlow : 2147483648 ≤ k * p) (hhigh : k * p < 4294967296) :
    pageOffset k p < 0 := by
  unfold pageOffset toInt32 Int.bmod
  rw [← Int.natCast_mul]
  simp only
  split <;> omega

end Page

/-!
# All pages
-/

theorem Collects.unique {ask : Nat -> Except Exn (List KeyValueTable)} {p k : Nat}
    {all all' : List KeyValueTable} (h : Collects ask p k all) (h' : Collects ask p k all') :
    all = all' := by
  induction h generalizing all' with
  | last hask hshort =>
      cases h' with
      | last hask' _ => exact Except.ok.inj (hask.symm.trans hask')
      | next hask' hfull _ =>
          rw [← Except.ok.inj (hask.symm.trans hask')] at hfull
          omega
  | next hask hfull _ ih =>
      cases h' with
      | last hask' hshort =>
          rw [← Except.ok.inj (hask.symm.trans hask')] at hshort
          omega
      | next hask' _ hrest =>
          rw [Except.ok.inj (hask.symm.trans hask'), ih hrest]

section Cover

variable {s : Schema} {engine : Engine s} {cells : CellOrder} {db : Database s}
  {query : PagedQuery} {t : TableInfo}
variable {engine' : Engine s}

theorem Engine.Answers.matching_eq (h : engine.Answers cells engine') :
    query.matching engine' db t = query.matching engine db t := by
  unfold PagedQuery.matching
  cases query.select with
  | all => rfl
  | byValues lookupValues =>
      unfold PagedSelect.keeps DbCrud.holdsAll
      rw [h.equals]
  | search searchColumns searchText =>
      unfold PagedSelect.keeps DbCrud.matchesSearch
      rw [h.ilike]

theorem Engine.Answers.admitted (h : engine.Answers cells engine')
    (hquery : query.Admitted engine t) : query.Admitted engine' t := by
  refine ⟨hquery.found, hquery.sorted, ?_, hquery.noAlias⟩
  have hselect := hquery.select
  generalize query.select = select at hselect ⊢
  cases select with
  | all => trivial
  | byValues lookupValues =>
      refine ⟨hselect.1, ?_⟩
      rw [h.castable]
      exact hselect.2
  | search searchColumns searchText => exact hselect

theorem exists_answers (engine : Engine s) (cells : CellOrder) {tableName columnName : String}
    {asc : Bool} {rows arranged : List Row}
    (h : (cells.rows tableName columnName asc).Arranges rows arranged) :
    exists engine' : Engine s, engine.Answers cells engine' ∧
      engine'.arrange tableName (some (columnName, asc)) rows = arranged := by
  classical
  choose sort hsort using fun (key : String × String × Bool) (l : List Row) =>
    (cells.rows key.1 key.2.1 key.2.2).exists_arranges l
  let arrange : String -> Option (String × Bool) -> List Row -> List Row :=
    fun tableName' order l =>
      match order with
      | none => l
      | some (columnName', asc') =>
          if tableName' = tableName ∧ columnName' = columnName ∧ asc' = asc ∧ l = rows then
            arranged
          else sort (tableName', columnName', asc') l
  have hsorted : forall tableName' columnName' asc' l,
      (cells.rows tableName' columnName' asc').Arranges l
        (arrange tableName' (some (columnName', asc')) l) := by
    intro tableName' columnName' asc' l
    change (cells.rows tableName' columnName' asc').Arranges l (if _ then _ else _)
    split
    · rename_i heq
      rcases heq with ⟨rfl, rfl, rfl, rfl⟩
      exact h
    · exact hsort (tableName', columnName', asc') l
  refine ⟨{ engine with
      arrange := arrange
      arrange_perm := ?_ }, ⟨rfl, rfl, rfl, hsorted⟩, ?_⟩
  · intro tableName' order l
    cases order with
    | none => exact List.Perm.refl l
    | some key => exact (hsorted tableName' key.1 key.2 l).perm
  · exact if_pos ⟨rfl, rfl, rfl, rfl⟩

variable {p : Nat} {engines : Nat -> Engine s}

variable (hlength : IsInt64 (db.rows t.tableName).length) (hadmitted : query.Admitted engine t)

include hadmitted hlength in
theorem ask_page (hp : 0 < p) (hanswers : engine.Answers cells engine') (page : Int) :
    query.ask engine' db p page =
      (limitOffset (some (p : Int)) (pageOffset page p)
        (query.arranged engine' t (query.matching engine db t))).map
          (List.map (toKeyValueTable t.names)) := by
  have hfilter : IsInt64 (query.matching engine' db t).length := by
    have hle : (query.matching engine' db t).length ≤ (db.rows t.tableName).length :=
      List.length_filter_le _ _
    unfold IsInt64 at hlength ⊢
    omega
  rw [ask_eq engine' db (hanswers.admitted hadmitted) hp page hfilter, hanswers.matching_eq]

include hadmitted hlength in
theorem ask_fits (hp : 0 < p)
    (hanswers : engine.Answers cells engine') {k : Nat} (hk : k * p < 2147483648) :
    query.ask engine' db p k =
      .ok ((((query.arranged engine' t (query.matching engine db t)).drop (k * p)).take p).map
        (toKeyValueTable t.names)) := by
  rw [ask_page hlength hadmitted hp hanswers, pageOffset_fits hk,
    limitOffset_some _ (by omega) (by omega)]
  rfl

include hadmitted hlength in
theorem ask_wraps (hp : 0 < p)
    (hanswers : engine.Answers cells engine') {k : Nat} (hlow : 2147483648 ≤ k * p)
    (hhigh : k * p < 4294967296) :
    query.ask engine' db p k = .error (.sql .invalidRowCount) := by
  rw [ask_page hlength hadmitted hp hanswers, limitOffset, if_pos (pageOffset_wraps hlow hhigh)]
  rfl

theorem length_arrangedRows (query : PagedQuery) (t : TableInfo) (engine' : Engine s)
    (rows : List Row) : (query.arranged engine' t rows).length = rows.length :=
  (engine'.arrange_perm _ _ rows).length_eq

include hadmitted hlength in
theorem collects_pages (hp : 0 < p) (hanswers : forall k, engine.Answers cells (engines k))
    (hfit : OffsetsFit p (query.matching engine db t)) (m k : Nat)
    (hm : k + m = (query.matching engine db t).length / p) :
    Collects (fun k => query.ask (engines k) db p k) p k
      (((List.range (m + 1)).flatMap (fun i =>
        ((query.arranged (engines (k + i)) t (query.matching engine db t)).drop
          ((k + i) * p)).take p)).map (toKeyValueTable t.names)) := by
  generalize hrows : query.matching engine db t = rows at *
  have hdiv : rows.length / p * p ≤ rows.length := Nat.div_mul_le_self _ _
  have hask : forall i, i ≤ rows.length / p ->
      query.ask (engines i) db p i =
        .ok ((((query.arranged (engines i) t rows).drop (i * p)).take p).map
          (toKeyValueTable t.names)) := by
    intro i hi
    have hle : i * p ≤ rows.length / p * p := Nat.mul_le_mul_right p hi
    have hpage := ask_fits hlength hadmitted hp (hanswers i)
      (Nat.lt_of_le_of_lt hle hfit)
    rw [hrows] at hpage
    exact hpage
  induction m generalizing k with
  | zero =>
      have hlast : (List.range 1).flatMap (fun i =>
          ((query.arranged (engines (k + i)) t rows).drop ((k + i) * p)).take p) =
            ((query.arranged (engines k) t rows).drop (k * p)).take p := by
        simp
      rw [hlast]
      apply Collects.last (hask k (by omega))
      rw [List.length_map, List.length_take, List.length_drop, length_arrangedRows]
      have hlt := @Nat.lt_div_mul_add rows.length p hp
      rw [Nat.add_zero] at hm
      have hk : k * p = rows.length / p * p := by rw [← hm]
      omega
  | succ m ih =>
      have hnext := ih (k + 1) (by omega)
      rw [List.range_succ_eq_map, List.flatMap_cons, List.map_append, List.flatMap_map]
      simp only [Nat.succ_eq_add_one, Nat.add_right_comm k 1, ← Nat.add_assoc] at hnext ⊢
      refine Collects.next (hask k (by omega)) ?_ hnext
      have hle : (k + 1) * p ≤ rows.length / p * p := Nat.mul_le_mul_right p (by omega)
      rw [List.length_map, List.length_take, List.length_drop, length_arrangedRows, Nat.add_zero]
      rw [Nat.succ_mul] at hle
      omega

include hadmitted hlength in
theorem not_collects (hp : 0 < p) (hp' : p < 2147483648)
    (hanswers : forall k, engine.Answers cells (engines k))
    (hfit : Not (OffsetsFit p (query.matching engine db t))) {k : Nat}
    {all : List KeyValueTable} (hk : k ≤ (query.matching engine db t).length / p)
    (hreached : k * p < 2147483648 + p)
    (h : Collects (fun k => query.ask (engines k) db p k) p k all) : False := by
  have hdiv : (query.matching engine db t).length / p * p ≤
      (query.matching engine db t).length := Nat.div_mul_le_self _ _
  unfold OffsetsFit at hfit
  -- A page before the offset stops to fit is full, and the next one is reached.
  have hpage : forall {j : Nat} {rows : List KeyValueTable},
      j ≤ (query.matching engine db t).length / p -> j * p < 2147483648 + p ->
        query.ask (engines j) db p j = .ok rows ->
          rows.length = p ∧ j + 1 ≤ (query.matching engine db t).length / p ∧
            (j + 1) * p < 2147483648 + p := by
    intro j rows hj hreach hask
    by_cases hlow : j * p < 2147483648
    · rw [ask_fits hlength hadmitted hp (hanswers j) hlow] at hask
      have hlt : j < (query.matching engine db t).length / p := by
        rcases Nat.lt_or_eq_of_le hj with hlt | heq
        · exact hlt
        · rw [heq] at hlow
          omega
      have hle : (j + 1) * p ≤ (query.matching engine db t).length / p * p :=
        Nat.mul_le_mul_right p hlt
      rw [← Except.ok.inj hask, List.length_map, List.length_take, List.length_drop,
        length_arrangedRows]
      rw [Nat.succ_mul] at hle ⊢
      exact ⟨by omega, hlt, by omega⟩
    · rw [ask_wraps hlength hadmitted hp (hanswers j) (by omega) (by omega)] at hask
      cases hask
  induction h with
  | last hask hshort =>
      rcases hpage hk hreached hask with ⟨hfull, -⟩
      omega
  | next hask hfull hrest ih =>
      rcases hpage hk hreached hask with ⟨-, hk', hreached'⟩
      exact ih hk' hreached'

include hadmitted hlength in
theorem collects_all (hp : 0 < p) (hanswers : forall k, engine.Answers cells (engines k))
    (hfit : OffsetsFit p (query.matching engine db t)) :
    Collects (fun k => query.ask (engines k) db p k) p 0
      ((RowOrder.pages (fun k => query.arranged (engines k) t (query.matching engine db t)) p
        ((query.matching engine db t).length / p + 1)).map (toKeyValueTable t.names)) := by
  have hcollects := collects_pages hlength hadmitted hp hanswers hfit
    ((query.matching engine db t).length / p) 0 (Nat.zero_add _)
  simp only [Nat.zero_add] at hcollects
  exact hcollects

theorem arranges_arranged (hanswers : forall k, engine.Answers cells (engines k))
    (rows : List Row) (k : Nat) :
    (cells.rows t.tableName query.sortColumnName query.asc).Arranges rows
      (query.arranged (engines k) t rows) :=
  (hanswers k).sorted t.tableName query.sortColumnName query.asc rows

theorem exists_engines (engine : Engine s) (cells : CellOrder) (query : PagedQuery)
    (t : TableInfo) {rows : List Row} {arrangements : Nat -> List Row}
    (h : forall k, (cells.rows t.tableName query.sortColumnName query.asc).Arranges rows
      (arrangements k)) :
    exists engines : Nat -> Engine s, (forall k, engine.Answers cells (engines k)) ∧
      (fun k => query.arranged (engines k) t rows) = arrangements := by
  choose engines hengines using fun k => exists_answers engine cells (h k)
  exact ⟨engines, fun k => (hengines k).1, funext (fun k => (hengines k).2)⟩

include hadmitted hlength in
theorem offsetsFit_of_pagesCover (hp : 0 < p) (hp' : p < 2147483648)
    (h : PagesCover engine cells db query t p) :
    OffsetsFit p (query.matching engine db t) := by
  by_contra hfit
  rcases (cells.rows t.tableName query.sortColumnName query.asc).exists_arranges
    (query.matching engine db t) with ⟨arranged, harranged⟩
  rcases exists_engines engine cells query t (fun _ : Nat => harranged) with
    ⟨engines, hanswers, -⟩
  rcases h engines hanswers with ⟨all, hall, -⟩
  exact not_collects hlength hadmitted hp hp' hanswers hfit (Nat.zero_le _) (by omega) hall

include hadmitted hlength in
theorem keysUnsplit_of_pagesCover (hp : 0 < p) (hfit : OffsetsFit p (query.matching engine db t))
    (h : PagesCover engine cells db query t p) :
    KeysUnsplit cells query t p (query.matching engine db t) := by
  have hrows : (query.matching engine db t).length ≤
      ((query.matching engine db t).length / p + 1) * p := by
    rw [Nat.succ_mul]
    exact Nat.le_of_lt (Nat.lt_div_mul_add hp)
  apply (RowOrder.perm_pages_iff _ hrows).mp
  intro arrangements harranges
  rcases exists_engines engine cells query t harranges with ⟨engines, hanswers, heq⟩
  rcases h engines hanswers with ⟨all, hall, hperm⟩
  have hpages := collects_all hlength hadmitted hp hanswers hfit
  rw [heq] at hpages
  rw [hpages.unique hall]
  exact hperm

/-- The pages cover what matches, in whatever way the database arranges rows with the same
sort key, exactly when no page ends between two such rows that are shown differently and the
offset of the last page fits its type. -/
theorem pagesCover_iff {s : Schema} {engine : Engine s} {cells : CellOrder} {db : Database s}
    {query : PagedQuery} {t : TableInfo} {p : Nat} (hadmitted : query.Admitted engine t)
    (hp : 1 ≤ p) (hp' : p < 2147483648) (hlength : IsInt64 (db.rows t.tableName).length) :
    PagesCover engine cells db query t p <->
      KeysUnsplit cells query t p (query.matching engine db t) ∧
        OffsetsFit p (query.matching engine db t) := by
  constructor
  · intro h
    have hfit := offsetsFit_of_pagesCover hlength hadmitted hp hp' h
    exact ⟨keysUnsplit_of_pagesCover hlength hadmitted hp hfit h, hfit⟩
  · rintro ⟨hunsplit, hfit⟩ engines hanswers
    have hrows : (query.matching engine db t).length ≤
        ((query.matching engine db t).length / p + 1) * p := by
      rw [Nat.succ_mul]
      exact Nat.le_of_lt (Nat.lt_div_mul_add hp)
    refine ⟨_, collects_all hlength hadmitted hp hanswers hfit, ?_⟩
    exact (RowOrder.perm_pages_iff _ hrows).mpr hunsplit _
      (arranges_arranged hanswers (query.matching engine db t))

end Cover

/-!
# Two rows with the same key
-/

def textOrder : RowOrder (Option String) where
  le := fun x y =>
    match x, y with
    | some x, some y => decide (x ≤ y)
    | some _, none => true
    | none, some _ => false
    | none, none => true
  total := by
    rintro (_ | x) (_ | y)
    · exact Or.inl rfl
    · exact Or.inr rfl
    · exact Or.inl rfl
    · simpa using le_total x y
  trans := by
    rintro (_ | x) (_ | y) (_ | z)
    all_goals simp
    exact le_trans

def tasksTable : TableInfo where
  tableName := "tasks"
  columns := [
    { columnName := "id", primaryKey := true, nullable := false, isText := true },
    { columnName := "kind", primaryKey := false, nullable := false, isText := true }]

def tasksSchema : Schema where
  tables := [tasksTable]
  folded := by decide +kernel

def task (id kind : String) : Row := fun c =>
  if c = "id" then some id else if c = "kind" then some kind else none

def tasksDatabase : Database tasksSchema where
  rows := fun _ => [task "1" "home", task "2" "home"]

def tasksBy (sortColumnName : String) : PagedQuery where
  tableName := "tasks"
  sortColumnName := sortColumnName
  asc := true
  select := .all

theorem tasksBy_admitted {c : String} (h : c ∈ tasksTable.names) :
    (tasksBy c).Admitted (Engine.plain tasksSchema) tasksTable :=
  ⟨rfl, h, trivial, by decide⟩

/-- Sorted by the column that tells them apart, two tasks stand on two pages. -/
theorem pagesCover_tasksById :
    PagesCover (Engine.plain tasksSchema) (fun _ _ => textOrder) tasksDatabase (tasksBy "id")
      tasksTable 1 := by
  refine (pagesCover_iff (tasksBy_admitted (by decide)) (by decide) (by decide)
    (by decide)).mpr ⟨?_, by unfold OffsetsFit; decide⟩
  intro k x y hx hy htied hshown hsplits
  apply hshown
  have hrows : (tasksBy "id").matching (Engine.plain tasksSchema) tasksDatabase tasksTable =
      [task "1" "home", task "2" "home"] := rfl
  rw [hrows] at hx hy
  simp only [List.mem_cons, List.not_mem_nil, or_false] at hx hy
  rcases hx with rfl | rfl <;> rcases hy with rfl | rfl
  · rfl
  · exact absurd htied.2 (by decide)
  · exact absurd htied.1 (by decide)
  · rfl

/-- Sorted by a column in which they are the same, they may share one. -/
theorem pages_missTask :
    Not (PagesCover (Engine.plain tasksSchema) (fun _ _ => textOrder) tasksDatabase
      (tasksBy "kind") tasksTable 1) := by
  intro h
  have hunsplit := keysUnsplit_of_pagesCover (by decide) (tasksBy_admitted (by decide))
    (by decide) (by unfold OffsetsFit; decide) h
  have hrows : (tasksBy "kind").matching (Engine.plain tasksSchema) tasksDatabase tasksTable =
      [task "1" "home", task "2" "home"] := rfl
  rw [hrows] at hunsplit
  apply hunsplit 1 (task "1" "home") (task "2" "home") (by simp) (by simp)
  · constructor
    · decide
    · decide
  · intro hsame
    have hid := congrArg (fun row : KeyValueTable => row.find? "id") hsame
    revert hid
    decide
  · constructor
    · decide
    · decide

end Rest
end ServerComponents
