import ServerComponents.Rest.CountedPages
import ServerComponents.Rest.SqlNoninterference
import ServerComponents.Rest.WriteEndpoints
import ServerComponents.Text.JsonGrammar

/-!
# Filtered rows

The endpoint that answers one page of the rows that match a filter.  The page and its size are
64-bit integers in the request and of type `int` behind it.
-/

namespace ServerComponents
namespace Rest

open Relational

/-- What `std::get` throws when a value is of another type. -/
def badVariantAccess : Exn := .runtimeError "std::get: wrong index for variant"

namespace Json

def getString : Json -> Except Exn String
  | str value => .ok value
  | _ => .error badVariantAccess

def getBool : Json -> Except Exn Bool
  | bool value => .ok value
  | _ => .error badVariantAccess

def getInt64 : Json -> Except Exn Int
  | int value => .ok value
  | _ => .error badVariantAccess

end Json

/-- The fields of the request, before the casts. -/
structure FilteredRowsMessage where
  tableName : String
  columnName : String
  asc : Bool
  pageSize : Int
  page : Int

namespace GetFilteredTableRows

open WriteRequest (requireChild requireObject)

def requireString (value : Json) (what : String) : Except Exn String :=
  match value with
  | .str text => .ok text
  | _ => .error (.invalidArgument what)

def parse (message : Json) : Except Exn FilteredRowsMessage := do
  requireObject message
  let tableNameValue ← requireChild message "table_name"
  let columnNameValue ← requireChild message "column_name"
  let ascValue ← requireChild message "asc"
  let pageSizeValue ← requireChild message "page_size"
  let pageValue ← requireChild message "page"
  let tableName ← requireString tableNameValue "table_name must be a string."
  let columnName ← requireString columnNameValue "column_name must be a string."
  let asc ← ascValue.getBool
  let pageSize ← pageSizeValue.getInt64
  let page ← pageValue.getInt64
  pure { tableName := tableName, columnName := columnName, asc := asc
         pageSize := pageSize, page := page }

def addFilterPair (lookupValues : KeyValueTable) (pair : Json) : Except Exn KeyValueTable := do
  match pair.child? "column_name", pair.child? "column_value" with
  | none, _ => throw (.invalidArgument "filter_pairs entry missing column_name.")
  | some _, none => throw (.invalidArgument "filter_pairs entry missing column_value.")
  | some pairColumnName, some pairColumnValue =>
      let value ← pairColumnValue.getString
      let name ← pairColumnName.getString
      pure (lookupValues.set name value)

def filterPairs (message : Json) : Except Exn KeyValueTable :=
  match message.child? "filter_pairs" with
  | some (.arr pairs) => pairs.foldlM addFilterPair SortedMap.empty
  | _ => .ok SortedMap.empty

def pageRequest (fields : FilteredRowsMessage) (lookupValues : KeyValueTable) :
    PageRequest where
  tableName := fields.tableName
  sortColumnName := fields.columnName
  lookupValues := lookupValues
  asc := fields.asc
  pageSize := toInt32 fields.pageSize
  page := toInt32 fields.page

section Endpoint

variable {s : Schema} (engine : Engine s) (columnRedactions : ColumnRedactionSet)
  (session : Session) (db : Database s)

/-- The page that a request asks for, when nothing before its first statement on the table
refuses it. -/
def accept (message : Json) : Except Exn PageRequest := do
  let fields ← parse message
  let (allowed, swallowed) ←
    EndpointAuthHelper.isTableAllowed engine session db fields.tableName
  if allowed then
    let lookupValues ← filterPairs message
    match swallowed with
    | some (.sql err) => throw (.sql err)
    | _ => pure (pageRequest fields lookupValues)
  else
    throw (.invalidArgument ("Table(" ++ fields.tableName ++ ") is not an allowed table."))

def getFilteredTableRows (message : Json) : Except Exn Json := do
  let request ← accept engine session db message
  byValues engine columnRedactions db request

end Endpoint

end GetFilteredTableRows

/-!
# The offset in the statement
-/

/-- The texts that are bound where a value of this use stands. -/
def CrudStatement.boundTo (stmt : CrudStatement) (purpose : Use) : List String :=
  stmt.uses.filterMap fun use =>
    if use.1 = purpose then use.2.number?.bind fun number => stmt.params[number - 1]?
    else none

def PageRequest.call (request : PageRequest) : CrudCall :=
  .getRowsByValues request.tableName request.sortColumnName request.lookupValues request.asc
    request.pageSize request.page

def Given.text? : Given -> Option String
  | .keyword _ => none
  | .value text => some text

theorem filterMap_matches {params : List String} {given : List (Use × Given)}
    {uses : List (Use × SqlValue)} (h : List.Forall₂ (Matches params) given uses)
    (purpose : Use) :
    uses.filterMap (fun use =>
        if use.1 = purpose then use.2.number?.bind fun number => params[number - 1]?
        else none) =
      given.filterMap fun value => if value.1 = purpose then value.2.text? else none := by
  induction h with
  | nil => rfl
  | @cons value use given uses hmatch _ ih =>
      rw [List.filterMap_cons, List.filterMap_cons, ih, hmatch.1]
      have hbound : (use.2.number?.bind fun number => params[number - 1]?) = value.2.text? := by
        have hstands := hmatch.2
        cases hvalue : value.2 with
        | keyword text =>
            rw [hvalue] at hstands
            have huse : use.2 = .keyword text := hstands
            rw [huse]
            rfl
        | value text =>
            rw [hvalue] at hstands
            rcases hstands with ⟨n, huse, hparam⟩
            rw [huse]
            exact hparam
      rw [hbound]

theorem boundTo_offset {s : Schema} {request : PageRequest} {stmt : CrudStatement}
    (h : request.call.generate s = .ok (some stmt)) :
    stmt.boundTo .offset = [toString (pageOffset request.page request.pageSize)] := by
  have hbound := (wellBound_generate h).uses
  have hcolumns : forall entries : List (String × String),
      (givenEntries [] entries).filterMap
        (fun value => if value.1 = Use.offset then value.2.text? else none) = [] := by
    intro entries
    rw [List.filterMap_eq_nil_iff]
    intro value hvalue
    rcases List.mem_map.mp hvalue with ⟨e, -, rfl⟩
    rfl
  unfold CrudStatement.boundTo
  rw [filterMap_matches hbound]
  show (givenEntries [] request.lookupValues.entries ++
    givenPage request.pageSize request.page).filterMap _ = _
  rw [List.filterMap_append, hcolumns]
  rfl

/-!
# The arithmetic of a page
-/

theorem pageOffset_cast (page pageSize : Int) :
    pageOffset (toInt32 page) (toInt32 pageSize) = toInt32 (page * pageSize) := by
  unfold pageOffset toInt32
  rw [Int.bmod_mul_bmod, Int.mul_bmod_bmod]

namespace GetFilteredTableRows

open WriteRequest (requireChild)

section Law

variable {s : Schema} (engine : Engine s) (columnRedactions : ColumnRedactionSet)
  (session : Session) (db : Database s)

/-- The page and its size as the request gives them. -/
def Gives (message : Json) (page pageSize : Int) : Prop :=
  message.child? "page" = some (.int page) ∧ message.child? "page_size" = some (.int pageSize)

/-- The request is refused, or the offset in its statement is the product. -/
def OffsetIsProduct (message : Json) : Prop :=
  forall page pageSize, Gives message page pageSize ->
    (exists err, getFilteredTableRows engine columnRedactions session db message = .error err) ∨
      exists request stmt, accept engine session db message = .ok request ∧
        request.call.generate s = .ok (some stmt) ∧
        stmt.boundTo .offset = [toString (page * pageSize)]

/-- A page that is admitted behind the casts is one whose product is of type `int`. -/
def ProductFits (message : Json) : Prop :=
  forall page pageSize request t, Gives message page pageSize ->
    accept engine session db message = .ok request -> request.Admitted engine t ->
      toInt32 (page * pageSize) = page * pageSize

variable {engine} {session} {db}

theorem parse_gives {message : Json} {fields : FilteredRowsMessage}
    (h : parse message = .ok fields) : Gives message fields.page fields.pageSize := by
  have hchild : forall {key : String} {value : Json}, requireChild message key = .ok value ->
      message.child? key = some value := by
    intro key value hvalue
    unfold requireChild at hvalue
    split at hvalue
    · cases hvalue
    · rename_i found hfound
      rw [hfound, Except.ok.inj hvalue]
  have hint : forall {value : Json} {n : Int}, value.getInt64 = .ok n -> value = .int n := by
    intro value n hvalue
    cases value <;> cases hvalue
    rfl
  unfold parse at h
  rcases exceptBind_ok h with ⟨_, -, h⟩
  rcases exceptBind_ok h with ⟨_, -, h⟩
  rcases exceptBind_ok h with ⟨_, -, h⟩
  rcases exceptBind_ok h with ⟨_, -, h⟩
  rcases exceptBind_ok h with ⟨pageSizeValue, hpageSize, h⟩
  rcases exceptBind_ok h with ⟨pageValue, hpage, h⟩
  rcases exceptBind_ok h with ⟨_, -, h⟩
  rcases exceptBind_ok h with ⟨_, -, h⟩
  rcases exceptBind_ok h with ⟨_, -, h⟩
  rcases exceptBind_ok h with ⟨pageSize, hsize, h⟩
  rcases exceptBind_ok h with ⟨page, hnumber, h⟩
  rw [← Except.ok.inj h]
  exact ⟨by rw [hchild hpage, hint hnumber], by rw [hchild hpageSize, hint hsize]⟩

variable {request : PageRequest}

theorem accept_offset {message : Json} {page pageSize : Int}
    (h : accept engine session db message = .ok request) (hgives : Gives message page pageSize) :
    pageOffset request.page request.pageSize = toInt32 (page * pageSize) := by
  unfold accept at h
  rcases exceptBind_ok h with ⟨fields, hfields, h⟩
  rcases exceptBind_ok h with ⟨⟨allowed, swallowed⟩, -, h⟩
  have hfound := parse_gives hfields
  have hpage : fields.page = page := by
    have heq := hfound.1.symm.trans hgives.1
    simpa using heq
  have hsize : fields.pageSize = pageSize := by
    have heq := hfound.2.symm.trans hgives.2
    simpa using heq
  have hrequest : exists lookupValues, request = pageRequest fields lookupValues := by
    dsimp only at h
    split at h
    · rcases exceptBind_ok h with ⟨lookupValues, -, h⟩
      refine ⟨lookupValues, ?_⟩
      split at h
      · cases h
      · exact (Except.ok.inj h).symm
    · cases h
  rcases hrequest with ⟨lookupValues, rfl⟩
  rw [← hpage, ← hsize]
  exact pageOffset_cast fields.page fields.pageSize

theorem admitted_of_ok {answer : Json}
    (hlength : forall t, t ∈ s.tables -> IsInt64 (db.rows t.tableName).length)
    (h : byValues engine columnRedactions db request = .ok answer) :
    exists t, request.Admitted engine t := by
  have hfound : exists t, s.find? request.tableName = some t := by
    rcases listColumns_cases s request.tableName with hfind | hmissing | hnone
    · exact hfind
    · unfold byValues DatabaseRESTHelper.getRowsByValuesWithCount DbCrud.getRowsByValues at h
      rw [hmissing] at h
      cases h
    · unfold byValues DatabaseRESTHelper.getRowsByValuesWithCount DbCrud.getRowsByValues
        DbCrud.lookupDatabaseColumnInfoByColumnName at h
      rw [hnone] at h
      cases h
  rcases hfound with ⟨t, hfind⟩
  rcases byValues_ok engine columnRedactions db hfind h with
    ⟨hsort, hunambiguous, hkeys, hcastable⟩
  have hmem := (Schema.find?_some hfind).1
  rw [byValues_eq engine columnRedactions db hunambiguous hfind hsort hkeys hcastable
    (isInt64_filter engine db (hlength t hmem))] at h
  rcases exceptBind_ok h with ⟨rows, hrows, -⟩
  rcases limitOffset_bounds hrows with ⟨hsize, hoffset⟩
  exact ⟨t, hfind, hsort, hkeys, hcastable, hunambiguous, hsize, hoffset⟩

theorem ok_of_admitted {t : TableInfo}
    (hlength : forall t, t ∈ s.tables -> IsInt64 (db.rows t.tableName).length)
    (h : request.Admitted engine t) :
    exists answer, byValues engine columnRedactions db request = .ok answer := by
  have hmem := (Schema.find?_some h.found).1
  rw [byValues_eq engine columnRedactions db h.unambiguous h.found h.sorted h.keys h.castable
    (isInt64_filter engine db (hlength t hmem))]
  have hrows : exists rows, limitOffset
      (if request.pageSize = 0 then none else some request.pageSize)
      (pageOffset request.page request.pageSize)
      (arranged engine t request (matchingRows engine db t request)) = .ok rows := by
    split
    · exact ⟨_, limitOffset_none h.offset⟩
    · exact ⟨_, limitOffset_some _ h.offset h.pageSize⟩
  rcases hrows with ⟨rows, hrows⟩
  rw [hrows]
  rcases pageAnswer_ok columnRedactions t (countedColumns t.names) rows
    (if rows = [] then 0 else ((matchingRows engine db t request).length : Int)) with
    ⟨shown, -, -, hshown⟩
  exact ⟨_, hshown⟩

theorem generate_of_admitted {t : TableInfo}
    (h : request.Admitted engine t) : exists stmt, request.call.generate s = .ok (some stmt) := by
  have hcolumn : DbCrud.lookupDatabaseColumnInfoByColumnName t.names
      request.sortColumnName = .ok () := if_pos h.sorted
  have hstmt : exists stmt, DbCrud.generateGetRowsByValuesSql s request.tableName
      request.sortColumnName request.lookupValues request.asc request.pageSize request.page =
        .ok stmt := by
    unfold DbCrud.generateGetRowsByValuesSql
    rw [listColumns_of_exact h.found]
    simp only [bind, Except.bind, hcolumn]
    split
    · exact ⟨_, rfl⟩
    · rw [checkKeysInTable_of_mem h.keys]
      exact ⟨_, rfl⟩
  rcases hstmt with ⟨stmt, hstmt⟩
  exact ⟨stmt, congrArg (Except.map some) hstmt⟩

/-- The offset is the product exactly when every page that is admitted behind the casts has a
product of type `int`. -/
theorem offsetIsProduct_iff
    (hlength : forall t, t ∈ s.tables -> IsInt64 (db.rows t.tableName).length)
    (message : Json) :
    OffsetIsProduct engine columnRedactions session db message ↔
      ProductFits engine session db message := by
  constructor
  · intro h page pageSize request t hgives haccept hadmitted
    rcases h page pageSize hgives with ⟨err, herr⟩ | ⟨request', stmt, haccept', hstmt, hbound⟩
    · rcases ok_of_admitted columnRedactions hlength hadmitted with ⟨answer, hanswer⟩
      unfold getFilteredTableRows at herr
      rw [haccept] at herr
      rw [show (Except.ok request >>= byValues engine columnRedactions db) =
        byValues engine columnRedactions db request from rfl, hanswer] at herr
      cases herr
    · obtain rfl : request' = request := by
        rw [haccept] at haccept'
        exact (Except.ok.inj haccept').symm
      rw [boundTo_offset hstmt, accept_offset haccept hgives] at hbound
      exact Text.JsonGrammar.toString_int_injective (List.singleton_inj.mp hbound)
  · intro h page pageSize hgives
    cases hanswer : getFilteredTableRows engine columnRedactions session db message with
    | error err => exact Or.inl ⟨err, rfl⟩
    | ok answer =>
        right
        unfold getFilteredTableRows at hanswer
        rcases exceptBind_ok hanswer with ⟨request, haccept, hpage⟩
        rcases admitted_of_ok columnRedactions hlength hpage with ⟨t, hadmitted⟩
        rcases generate_of_admitted hadmitted with ⟨stmt, hstmt⟩
        refine ⟨request, stmt, haccept, hstmt, ?_⟩
        rw [boundTo_offset hstmt, accept_offset haccept hgives,
          h page pageSize request t hgives haccept hadmitted]

end Law

/-!
## A page past the range of `int`
-/

def allowedTables : TableInfo where
  tableName := "allowed_tables"
  columns := [{ columnName := "table_name", primaryKey := true, nullable := false
                isText := true }]

def sharedNotesSchema : Schema where
  tables := [allowedTables, notesTable]
  folded := by decide +kernel

/-- One note in a table that everybody may read. -/
def sharedNotes : Database sharedNotesSchema where
  rows := fun table =>
    if table = "notes" then [fun _ => some "1"] else [fun _ => some "notes"]

def nobody : Session where
  personId := -1

def notesMessage (page : Int) : Json :=
  .obj [("table_name", .str "notes"), ("column_name", .str "id"), ("asc", .bool true),
    ("page_size", .int 1), ("page", .int page)]

theorem sharedNotes_lengths : forall t, t ∈ sharedNotesSchema.tables ->
    IsInt64 (sharedNotes.rows t.tableName).length := by
  decide

theorem offsetIsProduct_thirdPage :
    OffsetIsProduct (Engine.plain sharedNotesSchema) [] nobody sharedNotes (notesMessage 3) := by
  refine (offsetIsProduct_iff [] sharedNotes_lengths (notesMessage 3)).mpr ?_
  rintro page pageSize request t ⟨hpage, hsize⟩ - -
  cases hpage
  cases hsize
  decide

/-- The page 2^32 is answered with the first page. -/
theorem farPage_wraps :
    Not (OffsetIsProduct (Engine.plain sharedNotesSchema) [] nobody sharedNotes
      (notesMessage 4294967296)) := by
  intro h
  rcases h 4294967296 1 ⟨rfl, rfl⟩ with ⟨err, herr⟩ | ⟨request, stmt, haccept, hstmt, hbound⟩
  · have hok : (getFilteredTableRows (Engine.plain sharedNotesSchema) [] nobody sharedNotes
        (notesMessage 4294967296)).toBool = true := by
      decide +kernel
    rw [herr] at hok
    cases hok
  · rw [boundTo_offset hstmt, accept_offset haccept ⟨rfl, rfl⟩] at hbound
    exact absurd hbound (by decide)

end GetFilteredTableRows

end Rest
end ServerComponents
