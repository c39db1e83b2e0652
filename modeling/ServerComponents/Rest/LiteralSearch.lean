import ServerComponents.Text.Like
import ServerComponents.Rest.CountedPages

/-!
# Searching for options

The picker of a foreign key searches the columns of the display template for a text, which
becomes a pattern of `ILIKE`.
-/

namespace ServerComponents
namespace Rest

open Like

/-- `::text ILIKE` as Postgres has it: the value is cast to text, letters are equal in either
case, and NULL matches nothing. -/
structure Engine.MatchesPatterns {s : Schema} (engine : Engine s) (fold : Char -> Char)
    (asText : String -> String -> String -> String) : Prop where
  ilike : forall table column cell pattern, engine.ilike table column cell pattern =
    match cell with
    | none => false
    | some value =>
        likeMatch (pattern.toList.map fold) ((asText table column value).toList.map fold)

structure FkQuery where
  tableName : String
  primaryKeyColumn : String
  displayTemplate : String
  pageSize : Int

def FkQuery.columns (query : FkQuery) : List String :=
  if parseTemplateColumns query.displayTemplate = [] then [query.primaryKeyColumn]
  else parseTemplateColumns query.displayTemplate

/-- The table has the columns and none that is named like the alias, and the page has a size;
all but the alias is checked. -/
structure FkQuery.Answerable (query : FkQuery) (s : Schema) (t : TableInfo) : Prop where
  found : s.find? query.tableName = some t
  key : query.primaryKeyColumn ∈ t.names
  columns : forall c, c ∈ query.columns -> c ∈ t.names
  pageSize : 0 ≤ query.pageSize
  noAlias : kTotalCount ∉ t.names

def rowContains (fold : Char -> Char) (asText : String -> String -> String -> String)
    (t : TableInfo) (columns : List String) (searchText : String) (row : Row) : Bool :=
  columns.any (fun c =>
    match row c with
    | none => false
    | some value =>
        decide (ContainsText fold searchText.toList (asText t.tableName c value).toList))

section Answers

variable {s : Schema} (engine : Engine s) (db : Database s) (query : FkQuery) (t : TableInfo)

def firstPage (keep : Row -> Bool) : Json :=
  let rows := engine.arrange t.tableName (some (query.primaryKeyColumn, true))
    ((db.rows t.tableName).filter keep)
  let page := if query.pageSize = 0 then rows else rows.take query.pageSize.toNat
  DatabaseRESTHelper.fkOptions query.primaryKeyColumn query.displayTemplate
    (page.map (toKeyValueTable t.names)) rows.length

end Answers

/-- The search finds the rows that have the text in a column of the template. -/
def LiteralSearch (fold : Char -> Char) (searchText : String) : Prop :=
  forall (s : Schema) (engine : Engine s) (asText : String -> String -> String -> String),
    engine.MatchesPatterns fold asText ->
    forall (db : Database s) (query : FkQuery) (t : TableInfo),
      query.Answerable s t -> IsInt64 (db.rows t.tableName).length ->
      DatabaseRESTHelper.getFkOptions engine db query.tableName query.primaryKeyColumn
          query.displayTemplate searchText query.pageSize =
        .ok (firstPage engine db query t
          (rowContains fold asText t query.columns searchText))

/-!
# One search
-/

variable {fold : Char -> Char}

section Search

variable {s : Schema} {engine : Engine s} {db : Database s} {query : FkQuery} {t : TableInfo}

theorem any_eq_of_mem {a : Type} {l : List a} {test test' : a -> Bool}
    (h : forall x, x ∈ l -> test x = test' x) : l.any test = l.any test' := by
  induction l with
  | nil => rfl
  | cons x l ih =>
      rw [List.any_cons, List.any_cons, h x List.mem_cons_self,
        ih fun y hy => h y (List.mem_cons_of_mem x hy)]

theorem FkQuery.columns_ne_nil (query : FkQuery) : query.columns ≠ [] := by
  unfold FkQuery.columns
  split
  · exact List.cons_ne_nil _ _
  · assumption

theorem countedPage_first {rows : List Row} {columns : List String}
    (halias : kTotalCount ∉ columns) (hlength : IsInt64 rows.length) {pageSize : Int}
    (hsize : 0 ≤ pageSize) :
    DbCrud.countedPage columns rows pageSize 0 =
      .ok ((if pageSize = 0 then rows else rows.take pageSize.toNat).map
        (toKeyValueTable columns), (rows.length : Int)) := by
  rw [countedPage_eq hlength, countedColumns_eq halias, pageOffset_zero]
  by_cases hzero : pageSize = 0
  · rw [if_pos hzero, if_pos hzero]
    cases rows with
    | nil => rfl
    | cons row rows => rfl
  · rw [if_neg hzero, if_neg hzero]
    have hpage : limitOffset (some pageSize) 0 rows = .ok (rows.take pageSize.toNat) := by
      unfold limitOffset
      rw [if_neg (by decide)]
      dsimp only
      rw [if_neg (Int.not_lt.mpr hsize)]
      rfl
    rw [hpage]
    cases rows with
    | nil => simp [Except.bind]
    | cons row rows =>
        have hne : (row :: rows).take pageSize.toNat ≠ [] := by
          have hpos : pageSize.toNat ≠ 0 := by omega
          simp [hpos]
        simp [Except.bind, hne]

theorem getFkOptions_eq (h : query.Answerable s t)
    (hlength : IsInt64 (db.rows t.tableName).length) {searchText : String}
    (hne : searchText ≠ "") :
    DatabaseRESTHelper.getFkOptions engine db query.tableName query.primaryKeyColumn
        query.displayTemplate searchText query.pageSize =
      .ok (firstPage engine db query t
        (DbCrud.matchesSearch engine t query.columns searchText)) := by
  have hcolumn : DbCrud.lookupDatabaseColumnInfoByColumnName t.names
      query.primaryKeyColumn = .ok () := if_pos h.key
  have hchecked : DbCrud.checkSearchColumns query.columns t.names = .ok () :=
    exceptForM_ok (fun c hc => if_pos (h.columns c hc))
  have hselected : IsInt64 (DbCrud.selectRows engine db t
      (DbCrud.matchesSearch engine t query.columns searchText)
      (some (query.primaryKeyColumn, true))).length := by
    have hle := List.length_filter_le
      (DbCrud.matchesSearch engine t query.columns searchText) (db.rows t.tableName)
    unfold DbCrud.selectRows
    rw [(engine.arrange_perm _ _ _).length_eq]
    unfold IsInt64 at hlength ⊢
    omega
  have hrows : DatabaseRESTHelper.fkRows engine db query.tableName query.primaryKeyColumn
      query.displayTemplate searchText query.pageSize =
        DbCrud.countedPage t.names (DbCrud.selectRows engine db t
          (DbCrud.matchesSearch engine t query.columns searchText)
          (some (query.primaryKeyColumn, true))) query.pageSize 0 := by
    unfold DatabaseRESTHelper.fkRows
    rw [if_neg hne]
    show DbCrud.searchRowsByILike engine db query.tableName query.primaryKeyColumn
      query.columns searchText true query.pageSize 0 = _
    unfold DbCrud.searchRowsByILike
    rw [listColumns_of_exact h.found, sqlTable_of_exact h.found]
    simp only [bind, Except.bind, hcolumn, hchecked,
      countedSortColumn_of_mem h.found h.key (ne_of_mem_of_not_mem h.key h.noAlias)]
  unfold DatabaseRESTHelper.getFkOptions
  rw [hrows, countedPage_first h.noAlias hselected h.pageSize]
  rfl

theorem matchesSearch_eq {asText : String -> String -> String -> String}
    (hengine : engine.MatchesPatterns fold asText) (h : query.Answerable s t)
    (searchText : String) (row : Row) :
    DbCrud.matchesSearch engine t query.columns searchText row =
      query.columns.any (fun c =>
        match row c with
        | none => false
        | some value => searches fold searchText.toList (asText t.tableName c value).toList) := by
  have hempty : query.columns.isEmpty = false := by
    simpa using query.columns_ne_nil
  unfold DbCrud.matchesSearch
  rw [hempty, Bool.false_or]
  refine any_eq_of_mem fun c hc => ?_
  rw [(s.folded t (Schema.find?_some h.found).1).2 c (h.columns c hc), hengine.ilike]
  cases row c with
  | none => rfl
  | some value => simp [searches]

theorem matchesSearch_literal (hfold : CaseFold fold)
    {asText : String -> String -> String -> String}
    (hengine : engine.MatchesPatterns fold asText) (h : query.Answerable s t)
    {searchText : String} (hliteral : Literal searchText.toList) :
    DbCrud.matchesSearch engine t query.columns searchText =
      rowContains fold asText t query.columns searchText := by
  funext row
  rw [matchesSearch_eq hengine h]
  unfold rowContains
  refine any_eq_of_mem fun c _ => ?_
  cases row c with
  | none => rfl
  | some value =>
      rw [Bool.eq_iff_iff, decide_eq_true_eq]
      exact searches_iff hfold hliteral

end Search

/-!
# A table with one value
-/

def patternEngine (s : Schema) (fold : Char -> Char) : Engine s :=
  { Engine.plain s with
    ilike := fun _ _ cell pattern =>
      match cell with
      | none => false
      | some value => likeMatch (pattern.toList.map fold) (value.toList.map fold) }

theorem patternEngine_matches (s : Schema) (fold : Char -> Char) :
    (patternEngine s fold).MatchesPatterns fold (fun _ _ value => value) where
  ilike := fun _ _ cell _ => by cases cell <;> rfl

def valueDatabase (value : String) : Database roleSchema where
  rows := fun _ => [fun _ => some value]

def nameQuery : FkQuery where
  tableName := "permissions"
  primaryKeyColumn := "name"
  displayTemplate := "\x7bname\x7d"
  pageSize := 50

theorem nameQuery_columns : nameQuery.columns = ["name"] := by
  decide

theorem nameQuery_answerable : nameQuery.Answerable roleSchema permissionsTable where
  found := by decide
  key := by decide
  columns := by decide
  pageSize := by decide
  noAlias := by decide

theorem firstPage_inj {value : String} {keep keep' : Row -> Bool}
    (h : firstPage (patternEngine roleSchema fold) (valueDatabase value) nameQuery
        permissionsTable keep =
      firstPage (patternEngine roleSchema fold) (valueDatabase value) nameQuery
        permissionsTable keep') :
    keep (fun _ => some value) = keep' (fun _ => some value) := by
  have htotal : forall keep : Row -> Bool,
      (firstPage (patternEngine roleSchema fold) (valueDatabase value) nameQuery
        permissionsTable keep).child? "total_count" =
          some (.int (([fun _ => some value].filter keep).length : Nat)) := fun _ => rfl
  have hchild := congrArg (fun json : Json => json.child? "total_count") h
  simp only [htotal] at hchild
  have hlength : ([fun _ => some value].filter keep).length =
      ([fun _ => some value].filter keep').length := by
    exact Int.ofNat.inj (Json.int.inj (Option.some.inj hchild))
  cases hkeep : keep (fun _ => some value) with
  | true =>
      cases hkeep' : keep' (fun _ => some value) with
      | true => rfl
      | false => simp [hkeep, hkeep'] at hlength
  | false =>
      cases hkeep' : keep' (fun _ => some value) with
      | true => simp [hkeep, hkeep'] at hlength
      | false => rfl

theorem LiteralSearch.value {searchText : String}
    (h : LiteralSearch fold searchText) (hne : searchText ≠ "") (value : String) :
    searches fold searchText.toList value.toList = true <->
      ContainsText fold searchText.toList value.toList := by
  have hlength : IsInt64 ((valueDatabase value).rows permissionsTable.tableName).length := by
    simp [valueDatabase, IsInt64]
  have hanswer := h roleSchema (patternEngine roleSchema fold) _
    (patternEngine_matches roleSchema fold) (valueDatabase value) nameQuery permissionsTable
    nameQuery_answerable hlength
  rw [getFkOptions_eq nameQuery_answerable hlength hne] at hanswer
  have hsame := firstPage_inj (Except.ok.inj hanswer)
  rw [matchesSearch_eq (patternEngine_matches roleSchema fold) nameQuery_answerable] at hsame
  simp only [rowContains, nameQuery_columns, List.any_cons, List.any_nil, Bool.or_false]
    at hsame
  rw [hsame, decide_eq_true_eq]

/-!
# Texts
-/

theorem literalSearch_iff {fold : Char -> Char} (hfold : CaseFold fold) {searchText : String}
    (hne : searchText ≠ "") :
    LiteralSearch fold searchText <-> Literal searchText.toList := by
  constructor
  · intro h
    by_contra hspecial
    rcases exists_searches_ne hfold hspecial with ⟨value, hvalue⟩
    refine hvalue ?_
    have hiff := h.value hne (String.ofList value)
    rwa [String.toList_ofList] at hiff
  · intro hliteral s engine asText hengine db query t hquery hlength
    rw [getFkOptions_eq hquery hlength hne, matchesSearch_literal hfold hengine hquery hliteral]

/-- The search for a price also finds other ones. -/
theorem percent_not_literalSearch : Not (LiteralSearch Char.toLower "5%0") := by
  intro h
  have hvalue := (h.value (by decide) "5 or 10").mp (by decide)
  exact absurd hvalue (by decide)

theorem literalSearch_smith : LiteralSearch Char.toLower "SMITH" :=
  (literalSearch_iff caseFold_toLower (by decide)).mpr (by decide)

end Rest
end ServerComponents
