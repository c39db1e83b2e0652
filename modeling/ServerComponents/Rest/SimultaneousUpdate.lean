import ServerComponents.Rest.CountedPages
import ServerComponents.Rest.WriteEndpoints

/-!
# One update in several statements

`UpdateTableValue` sends one statement for the values that it keeps and one for each column
that it clears, and each of them looks its rows up again.
-/

namespace ServerComponents
namespace Rest

open Relational

/-- What Postgres does beside the columns of an update: the value that a text is stored as,
and the constraints of the database. -/
structure UpdateEngine (s : Schema) extends Engine s where
  stored : String -> String -> String -> String
  accepts : Database s -> Except Exn Unit
  equals_null : forall tableName columnName value,
    equals tableName columnName none value = false

def Row.assign (row : Row) (assigned : List (String × Option String)) : Row := fun c =>
  match assigned.find? (fun e => decide (e.1 = c)) with
  | none => row c
  | some e => e.2

def Database.mapRows {s : Schema} (db : Database s) (tableName : String) (f : Row -> Row) :
    Database s where
  rows := fun name => if name = tableName then (db.rows name).map f else db.rows name

namespace UpdateEngine

variable {s : Schema} (engine : UpdateEngine s)

def updateWhere (t : TableInfo) (assigned : List (String × Option String))
    (columnName value : String) (db : Database s) : Except Exn (Database s × String) := do
  engine.castable t.tableName columnName value
  let db' := db.mapRows t.tableName (fun row =>
    if engine.equals t.tableName columnName (row columnName) value then row.assign assigned
    else row)
  engine.accepts db'
  pure (db', "")

def readValues (t : TableInfo) (values : List (String × String)) :
    Except Exn (List (String × Option String)) :=
  values.mapM (fun e => do
    let column ← sqlColumn t e.1
    engine.castable t.tableName column e.2
    pure (column, some (engine.stored t.tableName column e.2)))

def execute (others : Change -> Database s -> Except Exn (Database s × String)) :
    Change -> Database s -> Except Exn (Database s × String)
  | .update tableName values columnName value => fun db => do
      let t ← sqlTable s tableName
      let assigned ← engine.readValues t values.entries
      let lookup ← sqlColumn t columnName
      engine.updateWhere t assigned lookup value db
  | .setNull tableName column columnName value => fun db => do
      let t ← sqlTable s tableName
      let cleared ← sqlColumn t column
      let lookup ← sqlColumn t columnName
      engine.updateWhere t [(cleared, none)] lookup value db
  | change => others change

/-- Updates as they are executed here, and the other changes in any way. -/
def writeEngine (others : Change -> Database s -> Except Exn (Database s × String)) :
    WriteEngine s where
  toEngine := engine.toEngine
  execute := engine.execute others

end UpdateEngine

/-- New values for the columns of the rows that are looked up. -/
structure ColumnUpdate where
  tableName : String
  columnName : String
  value : String
  values : KeyValueTable

namespace ColumnUpdate

def json (update : ColumnUpdate) : Json :=
  .obj (update.values.entries.map (fun e => (e.1, .str e.2)))

def cleared (update : ColumnUpdate) (t : TableInfo) : List String :=
  (update.values.entries.filter (DatabaseRESTHelper.isCleared t)).map Prod.fst

def kept (update : ColumnUpdate) (t : TableInfo) : KeyValueTable :=
  update.values.filterKeys (fun key => ! (update.cleared t).contains key)

section Updates

variable {s : Schema} (engine : UpdateEngine s)
  (others : Change -> Database s -> Except Exn (Database s × String)) (db : Database s)
  (update : ColumnUpdate) (t : TableInfo)

def run : Except Exn Unit × Database s :=
  Tx.run (DatabaseRESTHelper.updateTableValue (engine.writeEngine others) s.tables
    update.tableName update.columnName update.value update.json) db

def isMatch (lookup : String) (row : Row) : Bool :=
  engine.equals t.tableName lookup (row lookup) update.value

/-- All supplied columns at once: an empty text is NULL, except where it is kept. -/
def meant (row : Row) : Row := fun c =>
  match update.values.find? c with
  | none => row c
  | some v =>
      if DatabaseRESTHelper.isCleared t (c, v) then none
      else some (engine.stored t.tableName c v)

def setAtOnce : Except Exn (Database s) :=
  if update.values.entries = [] then .ok db
  else do
    (update.kept t).entries.forM (fun e => engine.castable t.tableName e.1 e.2)
    engine.castable t.tableName update.columnName update.value
    let db' := db.mapRows t.tableName (fun row =>
      if update.isMatch engine t update.columnName row then update.meant engine t row
      else row)
    engine.accepts db'
    pure db'

/-- The table is the one with all columns set at once, and a name that is no column of the
table changes nothing. -/
structure IsSimultaneous : Prop where
  sets : update.columnName ∈ t.names -> forall db', update.setAtOnce engine db t = .ok db' ->
    update.run engine others db = (.ok (), db')
  refuses : update.columnName ∈ t.names -> forall e, update.setAtOnce engine db t = .error e ->
    exists e', update.run engine others db = (.error e', db)
  unknown : update.columnName ∉ t.names ->
    exists e, update.run engine others db = (.error e, db)

/-!
# The statements one by one
-/

/-- A row for which the kept values are set and these columns are cleared. -/
def settled (done : List String) (row : Row) : Row := fun c =>
  if c ∈ done then none
  else
    match (update.kept t).find? c with
    | none => row c
    | some v => some (engine.stored t.tableName c v)

/-- The database when these columns are cleared in the rows that matched at first. -/
def stage (lookup : String) (done : List String) : Database s :=
  db.mapRows t.tableName (fun row =>
    if update.isMatch engine t lookup row then update.settled engine t done row else row)

/-- The kept values leave the rows where the lookup finds them. -/
def staysFound (lookup : String) : Bool :=
  match (update.kept t).find? lookup with
  | none => true
  | some v =>
      engine.equals t.tableName lookup (some (engine.stored t.tableName lookup v)) update.value

end Updates

def upTo (name : String) : List String -> List String
  | [] => []
  | c :: rest => if c = name then [c] else c :: upTo name rest

section Updates

variable {s : Schema} (engine : UpdateEngine s)
  (others : Change -> Database s -> Except Exn (Database s × String)) (db : Database s)
  (update : ColumnUpdate) (t : TableInfo)

def reached (lookup : String) : List String :=
  if update.staysFound engine t lookup then upTo lookup (update.cleared t) else []

def Castable (lookup : String) : Prop :=
  (forall e, e ∈ (update.kept t).entries -> engine.castable t.tableName e.1 e.2 = .ok ()) ∧
    engine.castable t.tableName lookup update.value = .ok ()

/-- No statement on the way is refused by a constraint. -/
def StepsAccepted (lookup : String) : Prop :=
  forall done, done <+: update.reached engine t lookup ->
    engine.accepts (update.stage engine db t lookup done) = .ok ()

/-- The statements on the way are accepted exactly when the update as a whole is, and a
column that is not reached any more was NULL before. -/
def ReachesAll : Prop :=
  (engine.accepts (update.stage engine db t update.columnName (update.cleared t)) = .ok () <->
      update.StepsAccepted engine db t update.columnName) ∧
    (engine.accepts (update.stage engine db t update.columnName (update.cleared t)) = .ok () ->
      forall row c, row ∈ db.rows t.tableName ->
        update.isMatch engine t update.columnName row = true -> c ∈ update.cleared t ->
          c ∉ update.reached engine t update.columnName -> row c = none)

/-- A value is kept, or a column is cleared in a statement that fails. -/
def RefusesName : Prop :=
  (update.kept t).entries ≠ [] ∨
    (update.cleared t ≠ [] ∧
      (escSqlName update.columnName ∈ t.names ->
        update.Castable engine t (escSqlName update.columnName) ->
          Not (update.StepsAccepted engine db t (escSqlName update.columnName))))

end Updates

/-!
# Stages
-/

section Stages

variable {s : Schema} {engine : UpdateEngine s} {db : Database s} {update : ColumnUpdate}
  {t : TableInfo} {lookup : String}

theorem mapRows_mapRows (db : Database s) (tableName : String) (f g : Row -> Row) :
    (db.mapRows tableName f).mapRows tableName g = db.mapRows tableName (g ∘ f) := by
  unfold Database.mapRows
  congr 1
  funext name
  by_cases hname : name = tableName
  · simp [hname]
  · simp [hname]

theorem mapRows_self (db : Database s) (tableName : String) :
    db.mapRows tableName (fun row => row) = db := by
  unfold Database.mapRows
  cases db
  congr 1
  funext name
  split
  · exact List.map_id _
  · rfl

theorem mem_cleared {c : String} :
    c ∈ update.cleared t <-> exists v, (c, v) ∈ update.values.entries ∧
      DatabaseRESTHelper.isCleared t (c, v) = true := by
  unfold cleared
  rw [List.mem_map]
  constructor
  · rintro ⟨⟨k, v⟩, he, rfl⟩
    exact ⟨v, List.mem_filter.mp he⟩
  · rintro ⟨v, he, hcleared⟩
    exact ⟨(c, v), List.mem_filter.mpr ⟨he, hcleared⟩, rfl⟩

theorem mem_kept {e : String × String} :
    e ∈ (update.kept t).entries <-> e ∈ update.values.entries ∧ e.1 ∉ update.cleared t := by
  change e ∈ update.values.entries.filter _ <-> _
  rw [List.mem_filter]
  simp

theorem find?_kept {c v : String} (h : (update.kept t).find? c = some v) :
    update.values.find? c = some v ∧ c ∉ update.cleared t := by
  rcases mem_kept.mp (SortedMap.mem_of_find? h) with ⟨hmem, hnot⟩
  exact ⟨SortedMap.find?_eq_some_iff.mpr hmem, hnot⟩

theorem settled_cleared (row : Row) :
    update.settled engine t (update.cleared t) row = update.meant engine t row := by
  funext c
  unfold settled meant
  cases hvalue : update.values.find? c with
  | none =>
      have hnot : c ∉ update.cleared t := by
        intro hmem
        rcases mem_cleared.mp hmem with ⟨v, hv, -⟩
        rw [SortedMap.find?_eq_some_iff.mpr hv] at hvalue
        cases hvalue
      rw [if_neg hnot]
      cases hkept : (update.kept t).find? c with
      | none => rfl
      | some v =>
          rw [(find?_kept hkept).1] at hvalue
          cases hvalue
  | some v =>
      have hmem := SortedMap.mem_of_find? hvalue
      cases hcleared : DatabaseRESTHelper.isCleared t (c, v) with
      | true =>
          rw [if_pos (mem_cleared.mpr ⟨v, hmem, hcleared⟩)]
          simp [hcleared]
      | false =>
          have hnot : c ∉ update.cleared t := by
            intro h
            rcases mem_cleared.mp h with ⟨v', hv', hcleared'⟩
            rw [SortedMap.find?_eq_some_iff.mpr hv'] at hvalue
            rw [Option.some.inj hvalue, hcleared] at hcleared'
            cases hcleared'
          have hkept : (update.kept t).find? c = some v :=
            SortedMap.find?_eq_some_iff.mpr (mem_kept.mpr ⟨hmem, hnot⟩)
          rw [if_neg hnot, hkept]
          simp [hcleared]

theorem settled_append (done : List String) (c : String) (row : Row) :
    (update.settled engine t done row).assign [(c, none)] =
      update.settled engine t (done ++ [c]) row := by
  funext c'
  unfold Row.assign settled
  by_cases hc : c = c'
  · simp [hc]
  · simp [hc, Ne.symm hc]

theorem isMatch_settled {done : List String} {row : Row}
    (hrow : update.isMatch engine t lookup row = true) :
    update.isMatch engine t lookup (update.settled engine t done row) =
      (decide (lookup ∉ done) && update.staysFound engine t lookup) := by
  unfold isMatch settled staysFound
  by_cases hdone : lookup ∈ done
  · simp [hdone, engine.equals_null]
  · rw [if_neg hdone]
    cases hkept : (update.kept t).find? lookup with
    | none =>
        unfold isMatch at hrow
        simpa [hdone] using hrow
    | some v => simp [hdone]

theorem mapRows_stage (done : List String) (c : String) :
    (update.stage engine db t lookup done).mapRows t.tableName (fun row =>
        if engine.equals t.tableName lookup (row lookup) update.value then
          row.assign [(c, none)]
        else row) =
      if lookup ∉ done ∧ update.staysFound engine t lookup = true then
        update.stage engine db t lookup (done ++ [c])
      else update.stage engine db t lookup done := by
  have hrows : forall done', (forall row, update.isMatch engine t lookup row = true ->
      (if update.isMatch engine t lookup (update.settled engine t done row) then
        (update.settled engine t done row).assign [(c, none)]
      else update.settled engine t done row) = update.settled engine t done' row) ->
        (update.stage engine db t lookup done).mapRows t.tableName (fun row =>
          if engine.equals t.tableName lookup (row lookup) update.value then
            row.assign [(c, none)]
          else row) = update.stage engine db t lookup done' := by
    intro done' hsettled
    unfold stage
    rw [mapRows_mapRows]
    congr 1
    funext row
    cases hrow : update.isMatch engine t lookup row with
    | true =>
        simp only [Function.comp_def, hrow, if_true]
        exact hsettled row hrow
    | false =>
        have hequals : engine.equals t.tableName lookup (row lookup) update.value = false :=
          hrow
        simp [hrow, hequals]
  split
  · rename_i hfound
    apply hrows
    intro row hrow
    rw [isMatch_settled hrow, hfound.2]
    simp [hfound.1, settled_append]
  · rename_i hlost
    apply hrows
    intro row hrow
    rw [isMatch_settled hrow, if_neg]
    simpa using hlost

end Stages

/-!
# Runs
-/

section Runs

variable {s : Schema} {engine : UpdateEngine s}
  {others : Change -> Database s -> Except Exn (Database s × String)} {db : Database s}
  {update : ColumnUpdate} {t : TableInfo} {lookup : String}

def clears (engine : UpdateEngine s)
    (others : Change -> Database s -> Except Exn (Database s × String))
    (update : ColumnUpdate) (columns : List String) : Tx s Unit :=
  columns.forM (fun column => do
    let _ ← DbCrud.execute (engine.writeEngine others)
      (.setNull update.tableName column update.columnName update.value)
    pure ())

theorem clears_cons (hfind : s.find? update.tableName = some t)
    (hlookup : sqlColumn t update.columnName = .ok lookup) {c : String} (hc : c ∈ t.names)
    (rest : List String) (db' : Database s) :
    clears engine others update (c :: rest) db' =
      (engine.castable t.tableName lookup update.value).bind (fun _ =>
        let next := db'.mapRows t.tableName (fun row =>
          if engine.equals t.tableName lookup (row lookup) update.value then
            row.assign [(c, none)]
          else row)
        (engine.accepts next).bind (fun _ => clears engine others update rest next)) := by
  have hexecute : (engine.writeEngine others).execute
      (.setNull update.tableName c update.columnName update.value) db' =
        engine.updateWhere t [(c, none)] lookup update.value db' := by
    change (do
      let t ← sqlTable s update.tableName
      let cleared ← sqlColumn t c
      let lookup ← sqlColumn t update.columnName
      engine.updateWhere t [(cleared, none)] lookup update.value db') = _
    rw [sqlTable_of_exact hfind]
    simp only [bind, Except.bind, sqlColumn_of_mem hfind hc, hlookup]
  unfold clears
  rw [List.forM]
  simp only [bind, DbCrud.execute, hexecute, UpdateEngine.updateWhere]
  cases engine.castable t.tableName lookup update.value with
  | error e => rfl
  | ok _ =>
      dsimp only [Except.bind]
      cases engine.accepts (db'.mapRows t.tableName (fun row =>
          if engine.equals t.tableName lookup (row lookup) update.value then
            row.assign [(c, none)]
          else row)) with
      | error e => rfl
      | ok _ => rfl

variable (others) in
theorem clears_lost (hfind : s.find? update.tableName = some t)
    (hlookup : sqlColumn t update.columnName = .ok lookup) {columns : List String}
    (hcolumns : forall c, c ∈ columns -> c ∈ t.names)
    (hcastable : engine.castable t.tableName lookup update.value = .ok ()) {done : List String}
    (hlost : Not (lookup ∉ done ∧ update.staysFound engine t lookup = true))
    (haccepted : engine.accepts (update.stage engine db t lookup done) = .ok ()) :
    clears engine others update columns (update.stage engine db t lookup done) =
      .ok ((), update.stage engine db t lookup done) := by
  induction columns with
  | nil => rfl
  | cons c rest ih =>
      rw [clears_cons hfind hlookup (hcolumns c (by simp)), hcastable]
      dsimp only [Except.bind]
      rw [mapRows_stage, if_neg hlost, haccepted]
      exact ih (fun c' hc' => hcolumns c' (List.mem_cons_of_mem c hc'))

variable (others) in
theorem clears_found (hfind : s.find? update.tableName = some t)
    (hlookup : sqlColumn t update.columnName = .ok lookup) {columns : List String}
    (hcolumns : forall c, c ∈ columns -> c ∈ t.names)
    (hcastable : engine.castable t.tableName lookup update.value = .ok ())
    (hstays : update.staysFound engine t lookup = true) {done : List String}
    (hdone : lookup ∉ done)
    (haccepted : engine.accepts (update.stage engine db t lookup done) = .ok ()) :
    ((forall more, more <+: upTo lookup columns ->
        engine.accepts (update.stage engine db t lookup (done ++ more)) = .ok ()) ->
      clears engine others update columns (update.stage engine db t lookup done) =
        .ok ((), update.stage engine db t lookup (done ++ upTo lookup columns))) ∧
    (Not (forall more, more <+: upTo lookup columns ->
        engine.accepts (update.stage engine db t lookup (done ++ more)) = .ok ()) ->
      exists e, clears engine others update columns (update.stage engine db t lookup done) =
        .error e) := by
  induction columns generalizing done with
  | nil =>
      constructor
      · intro _
        rw [upTo, List.append_nil]
        rfl
      · intro hrefused
        refine absurd (fun more hmore => ?_) hrefused
        rw [List.prefix_nil.mp hmore, List.append_nil]
        exact haccepted
  | cons c rest ih =>
      have hrest : forall c', c' ∈ rest -> c' ∈ t.names :=
        fun c' hc' => hcolumns c' (List.mem_cons_of_mem c hc')
      rw [clears_cons hfind hlookup (hcolumns c (by simp)), hcastable]
      dsimp only [Except.bind]
      rw [mapRows_stage, if_pos ⟨hdone, hstays⟩]
      have hfirst : [c] <+: upTo lookup (c :: rest) := by
        unfold upTo
        split
        · exact List.prefix_refl [c]
        · exact List.prefix_cons_inj c |>.mpr (List.nil_prefix)
      cases hnext : engine.accepts (update.stage engine db t lookup (done ++ [c])) with
      | error e =>
          refine ⟨fun hall => ?_, fun _ => ⟨e, rfl⟩⟩
          rw [hall [c] hfirst] at hnext
          cases hnext
      | ok _ =>
          dsimp only
          by_cases hc : c = lookup
          · -- The lookup column itself is cleared, and the rows are lost.
            have hlost : Not (lookup ∉ done ++ [c] ∧ update.staysFound engine t lookup = true) :=
              fun h => h.1 (by simp [hc])
            have hlast : upTo lookup (c :: rest) = [c] := by simp [upTo, hc]
            rw [hlast, clears_lost others hfind hlookup hrest hcastable hlost hnext]
            refine ⟨fun _ => rfl, fun hrefused => absurd (fun more hmore => ?_) hrefused⟩
            rcases List.prefix_cons_iff.mp hmore with rfl | ⟨more', rfl, hmore'⟩
            · rw [List.append_nil]
              exact haccepted
            · rw [List.prefix_nil.mp hmore']
              exact hnext
          · have hnotDone : lookup ∉ done ++ [c] := by
              simp [hdone, Ne.symm hc]
            have hmore : upTo lookup (c :: rest) = c :: upTo lookup rest := by simp [upTo, hc]
            have hsplit : (forall more, more <+: upTo lookup (c :: rest) ->
                engine.accepts (update.stage engine db t lookup (done ++ more)) = .ok ()) <->
                  forall more, more <+: upTo lookup rest ->
                    engine.accepts (update.stage engine db t lookup (done ++ [c] ++ more)) =
                      .ok () := by
              rw [hmore]
              constructor
              · intro h more hprefix
                rw [List.append_assoc]
                exact h (c :: more) ((List.prefix_cons_inj c).mpr hprefix)
              · intro h more hprefix
                rcases List.prefix_cons_iff.mp hprefix with rfl | ⟨more', rfl, hprefix'⟩
                · rw [List.append_nil]
                  exact haccepted
                · have hstage := h more' hprefix'
                  rw [List.append_assoc] at hstage
                  exact hstage
            have hstep := ih hrest hnotDone hnext
            have hassoc : done ++ c :: upTo lookup rest = done ++ [c] ++ upTo lookup rest :=
              List.append_cons done c _
            rw [hsplit, hmore, hassoc]
            exact hstep

theorem kept_keys (hkeys : forall k, k ∈ update.values.keys -> k ∈ t.names) {k : String}
    (h : k ∈ (update.kept t).keys) : k ∈ t.names :=
  hkeys k (SortedMap.mem_keys_filterKeys.mp h).1

theorem cleared_names (hkeys : forall k, k ∈ update.values.keys -> k ∈ t.names) {c : String}
    (h : c ∈ update.cleared t) : c ∈ t.names := by
  rcases mem_cleared.mp h with ⟨v, hmem, -⟩
  exact hkeys c (List.mem_map.mpr ⟨(c, v), hmem, rfl⟩)

variable (others) in
theorem clears_all (hfind : s.find? update.tableName = some t)
    (hkeys : forall k, k ∈ update.values.keys -> k ∈ t.names)
    (hlookup : sqlColumn t update.columnName = .ok lookup)
    (hcastable : engine.castable t.tableName lookup update.value = .ok ())
    (haccepted : engine.accepts (update.stage engine db t lookup []) = .ok ()) :
    (update.StepsAccepted engine db t lookup ->
      clears engine others update (update.cleared t) (update.stage engine db t lookup []) =
        .ok ((), update.stage engine db t lookup (update.reached engine t lookup))) ∧
    (Not (update.StepsAccepted engine db t lookup) ->
      exists e, clears engine others update (update.cleared t)
        (update.stage engine db t lookup []) = .error e) := by
  have hcolumns : forall c, c ∈ update.cleared t -> c ∈ t.names :=
    fun c hc => cleared_names hkeys hc
  unfold StepsAccepted reached
  cases hstays : update.staysFound engine t lookup with
  | true =>
      have hfound := clears_found others hfind hlookup hcolumns hcastable hstays
        (List.not_mem_nil) haccepted
      simpa using hfound
  | false =>
      have hlost : Not (lookup ∉ ([] : List String) ∧
          update.staysFound engine t lookup = true) := by simp [hstays]
      have hsame := clears_lost others hfind hlookup hcolumns hcastable hlost
        haccepted
      refine ⟨fun _ => hsame, fun hrefused => absurd (fun done hdone => ?_) hrefused⟩
      have hnil : done = [] := by simpa using hdone
      rw [hnil]
      exact haccepted

theorem find?_assigned {columns : List (String × String)} {c : String} :
    (columns.map (fun e => (e.1, some (engine.stored t.tableName e.1 e.2)))).find?
        (fun e => decide (e.1 = c)) =
      (columns.find? (fun e => decide (e.1 = c))).map (fun e =>
        (e.1, some (engine.stored t.tableName e.1 e.2))) := by
  rw [List.find?_map]
  rfl

theorem assign_kept (row : Row) :
    row.assign ((update.kept t).entries.map (fun e =>
        (e.1, some (engine.stored t.tableName e.1 e.2)))) =
      update.settled engine t [] row := by
  funext c
  unfold Row.assign settled SortedMap.find?
  rw [find?_assigned, if_neg List.not_mem_nil]
  cases h : (update.kept t).entries.find? (fun e => decide (e.1 = c)) with
  | none => rfl
  | some e =>
      have hc : e.1 = c := by simpa using List.find?_some h
      simp [hc]

variable (engine) (db) (lookup) in
theorem stage_nil (hkept : (update.kept t).entries = []) :
    update.stage engine db t lookup [] = db := by
  have hsame : (fun row => if update.isMatch engine t lookup row then
      update.settled engine t [] row else row) = fun row => row := by
    funext row
    rw [← assign_kept, hkept]
    exact ite_self _
  unfold stage
  rw [hsame, mapRows_self]

theorem readValues_ok (hfind : s.find? update.tableName = some t)
    {values : List (String × String)} (hnames : forall e, e ∈ values -> e.1 ∈ t.names)
    (hcastable : forall e, e ∈ values -> engine.castable t.tableName e.1 e.2 = .ok ()) :
    engine.readValues t values =
      .ok (values.map (fun e => (e.1, some (engine.stored t.tableName e.1 e.2)))) := by
  unfold UpdateEngine.readValues
  induction values with
  | nil => rfl
  | cons e rest ih =>
      rw [List.mapM_cons, sqlColumn_of_mem hfind (hnames e (by simp)),
        ih (fun e' he' => hnames e' (List.mem_cons_of_mem e he'))
          (fun e' he' => hcastable e' (List.mem_cons_of_mem e he'))]
      simp only [bind, Except.bind, hcastable e (by simp)]
      rfl

theorem castable_of_readValues (hfind : s.find? update.tableName = some t)
    {values : List (String × String)} (hnames : forall e, e ∈ values -> e.1 ∈ t.names)
    {assigned : List (String × Option String)} (h : engine.readValues t values = .ok assigned) :
    forall e, e ∈ values -> engine.castable t.tableName e.1 e.2 = .ok () := by
  intro e he
  rcases exceptMapM_passes h e he with ⟨value, hvalue⟩
  rw [sqlColumn_of_mem hfind (hnames e he)] at hvalue
  rcases exceptBind_ok hvalue with ⟨column, hcolumn, hvalue⟩
  cases hcolumn
  rcases exceptBind_ok hvalue with ⟨_, hcastable, -⟩
  exact hcastable

theorem cleared_ne_nil (hvalues : update.values.entries ≠ [])
    (hkept : (update.kept t).entries = []) : update.cleared t ≠ [] := by
  intro hcleared
  rcases List.exists_mem_of_ne_nil _ hvalues with ⟨e, he⟩
  have hmem : e ∈ (update.kept t).entries := mem_kept.mpr ⟨he, by simp [hcleared]⟩
  rw [hkept] at hmem
  cases hmem

theorem tx_run_ok {a : Type} {p : Tx s a} {db db' : Database s} {value : a}
    (h : p db = .ok (value, db')) : Tx.run p db = (.ok value, db') := by
  unfold Tx.run
  rw [h]

theorem tx_run_error {a : Type} {p : Tx s a} {db : Database s} {e : Exn}
    (h : p db = .error e) : Tx.run p db = (.error e, db) := by
  unfold Tx.run
  rw [h]

variable (hfind : s.find? update.tableName = some t)
  (hkeys : forall k, k ∈ update.values.keys -> k ∈ t.names)

include hfind hkeys

theorem updateRow_eq (hcolumn : update.columnName ∈ t.names) :
    DbCrud.updateRow (engine.writeEngine others) update.tableName update.columnName
        update.value (update.kept t) db =
      (engine.readValues t (update.kept t).entries).bind (fun assigned =>
        (engine.updateWhere t assigned update.columnName update.value db).map
          (fun result : Database s × String => ((), result.1))) := by
  have hchecked : DbCrud.checkKeysInTable (update.kept t) t.names = .ok () :=
    checkKeysInTable_of_mem (fun k hk => kept_keys hkeys hk)
  have hlookupColumn : DbCrud.lookupDatabaseColumnInfoByColumnName t.names
      update.columnName = .ok () := if_pos hcolumn
  have hexecute : (engine.writeEngine others).execute
      (.update update.tableName (update.kept t) update.columnName update.value) db =
        (engine.readValues t (update.kept t).entries).bind (fun assigned =>
          engine.updateWhere t assigned update.columnName update.value db) := by
    change (do
      let t' ← sqlTable s update.tableName
      let assigned ← engine.readValues t' (update.kept t).entries
      let lookup ← sqlColumn t' update.columnName
      engine.updateWhere t' assigned lookup update.value db) = _
    rw [sqlTable_of_exact hfind]
    simp only [bind, Except.bind, sqlColumn_of_mem hfind hcolumn]
  unfold DbCrud.updateRow
  rw [listColumns_of_exact hfind]
  simp only [bind, Except.bind, Tx.lift, Except.map, hchecked, hlookupColumn, DbCrud.execute,
    hexecute]
  cases engine.readValues t (update.kept t).entries with
  | error e => rfl
  | ok assigned =>
      dsimp only
      cases engine.updateWhere t assigned update.columnName update.value db with
      | error e => rfl
      | ok result => rfl

variable (engine) (others) (db) in
theorem updateRow_kept (hcolumn : update.columnName ∈ t.names) :
    (update.Castable engine t update.columnName ->
        engine.accepts (update.stage engine db t update.columnName []) = .ok () ->
      DbCrud.updateRow (engine.writeEngine others) update.tableName update.columnName
        update.value (update.kept t) db =
          .ok ((), update.stage engine db t update.columnName [])) ∧
    (Not (update.Castable engine t update.columnName ∧
        engine.accepts (update.stage engine db t update.columnName []) = .ok ()) ->
      exists e, DbCrud.updateRow (engine.writeEngine others) update.tableName
        update.columnName update.value (update.kept t) db = .error e) := by
  have hnames : forall e, e ∈ (update.kept t).entries -> e.1 ∈ t.names :=
    fun e he => kept_keys hkeys (List.mem_map_of_mem he)
  have hstage : db.mapRows t.tableName (fun row =>
      if engine.equals t.tableName update.columnName (row update.columnName) update.value then
        row.assign ((update.kept t).entries.map (fun e =>
          (e.1, some (engine.stored t.tableName e.1 e.2))))
      else row) = update.stage engine db t update.columnName [] := by
    simp only [assign_kept]
    rfl
  rw [updateRow_eq hfind hkeys hcolumn]
  constructor
  · intro hcastable haccepted
    rw [readValues_ok hfind hnames hcastable.1]
    simp only [UpdateEngine.updateWhere, bind, Except.bind, hcastable.2, hstage, haccepted]
    rfl
  · intro hrefused
    cases hread : engine.readValues t (update.kept t).entries with
    | error e => exact ⟨e, rfl⟩
    | ok assigned =>
        have hvalues := castable_of_readValues hfind hnames hread
        rw [readValues_ok hfind hnames hvalues] at hread
        rw [← Except.ok.inj hread]
        simp only [UpdateEngine.updateWhere, bind, Except.bind, hstage]
        cases hcast : engine.castable t.tableName update.columnName update.value with
        | error e => exact ⟨e, rfl⟩
        | ok _ =>
            cases haccepted : engine.accepts (update.stage engine db t update.columnName []) with
            | error e => exact ⟨e, rfl⟩
            | ok _ => exact absurd ⟨⟨hvalues, hcast⟩, haccepted⟩ hrefused

theorem keyValueTableFromJsonValue_eq :
    keyValueTableFromJsonValue s.tables update.tableName update.json = .ok update.values := by
  have hinfo : DatabaseInfo.getTableInfo s.tables update.tableName = .ok t := by
    unfold DatabaseInfo.getTableInfo
    rw [show s.tables.find? (fun t => t.tableName == update.tableName) = some t from hfind]
  have hfold : forall (entries : List (String × String)) (table : KeyValueTable),
      (forall e, e ∈ entries -> e.1 ∈ t.names) ->
        (entries.map (fun e => (e.1, Json.str e.2))).foldlM
            (fun (keyValueTable : KeyValueTable) (e : String × Json) =>
              if e.1 ∈ t.names then
                (Except.ok (keyValueTable.set e.1 e.2.toSimpleString) : Except Exn KeyValueTable)
              else .error (.invalidArgument
                ("DatabaseRESTHelper::AddTableValue - invalid key: " ++ e.1))) table =
          .ok (entries.foldl (fun table e => table.set e.1 e.2) table) := by
    intro entries
    induction entries with
    | nil => intro table _; rfl
    | cons e rest ih =>
        intro table hnames
        rw [List.map_cons, List.foldlM_cons, if_pos (hnames e (by simp))]
        exact ih _ (fun e' he' => hnames e' (List.mem_cons_of_mem e he'))
  unfold keyValueTableFromJsonValue json
  rw [hinfo]
  refine (hfold update.values.entries SortedMap.empty
    (fun e he => hkeys e.1 (List.mem_map_of_mem he))).trans ?_
  rw [SortedMap.foldl_set_entries]

variable (engine) (others) (db) in
theorem updateTableValue_eq :
    DatabaseRESTHelper.updateTableValue (engine.writeEngine others) s.tables update.tableName
        update.columnName update.value update.json db =
      if (update.kept t).entries ≠ [] then
        (DbCrud.updateRow (engine.writeEngine others) update.tableName update.columnName
          update.value (update.kept t) db).bind (fun result : Unit × Database s =>
            clears engine others update (update.cleared t) result.2)
      else clears engine others update (update.cleared t) db := by
  have hread := keyValueTableFromJsonValue_eq hfind hkeys
  have hinfo : DatabaseInfo.getTableInfo s.tables update.tableName = .ok t := by
    unfold DatabaseInfo.getTableInfo
    rw [show s.tables.find? (fun t => t.tableName == update.tableName) = some t from hfind]
  unfold DatabaseRESTHelper.updateTableValue
  simp only [bind, Tx.lift, hread, hinfo, Except.map, Except.bind]
  by_cases hkept : (update.kept t).entries ≠ []
  · have hcondition := hkept
    unfold kept cleared at hcondition
    rw [if_pos hcondition, if_pos hkept]
    rfl
  · have hcondition := hkept
    unfold kept cleared at hcondition
    rw [if_neg hcondition, if_neg hkept]
    rfl

/-- Without values to keep, each statement that clears a column looks the rows up by whatever
the name is read as. -/
theorem run_cleared (hvalid : engine.accepts db = .ok ()) (hkept : (update.kept t).entries = [])
    (hcleared : update.cleared t ≠ []) (hlookup : sqlColumn t update.columnName = .ok lookup) :
    (update.Castable engine t lookup -> update.StepsAccepted engine db t lookup ->
      update.run engine others db =
        (.ok (), update.stage engine db t lookup (update.reached engine t lookup))) ∧
    (Not (update.Castable engine t lookup ∧ update.StepsAccepted engine db t lookup) ->
      exists e, update.run engine others db = (.error e, db)) := by
  have hnil := stage_nil engine db lookup hkept
  have haccepted : engine.accepts (update.stage engine db t lookup []) = .ok () := by
    rw [hnil]
    exact hvalid
  have hcall := updateTableValue_eq engine others db hfind hkeys
  rw [if_neg (not_not.mpr hkept)] at hcall
  constructor
  · intro hcastable hsteps
    apply tx_run_ok
    rw [hcall]
    have hclears := (clears_all others hfind hkeys hlookup hcastable.2
      haccepted).1 hsteps
    rw [hnil] at hclears
    exact hclears
  · intro hrefused
    by_cases hcast : engine.castable t.tableName lookup update.value = .ok ()
    · have hnotSteps : Not (update.StepsAccepted engine db t lookup) := fun hsteps =>
        hrefused ⟨⟨by simp [hkept], hcast⟩, hsteps⟩
      rcases (clears_all others hfind hkeys hlookup hcast haccepted).2 hnotSteps
        with ⟨e, he⟩
      rw [hnil] at he
      exact ⟨e, tx_run_error (hcall.trans he)⟩
    · rcases List.exists_cons_of_ne_nil hcleared with ⟨c, rest, hrest⟩
      have hc : c ∈ t.names := cleared_names hkeys (by simp [hrest])
      rw [hrest, clears_cons hfind hlookup hc] at hcall
      cases hcast' : engine.castable t.tableName lookup update.value with
      | error e =>
          rw [hcast'] at hcall
          exact ⟨e, tx_run_error hcall⟩
      | ok _ => exact absurd hcast' hcast

variable (others) in
theorem run_known (hvalid : engine.accepts db = .ok ()) (hvalues : update.values.entries ≠ [])
    (hcolumn : update.columnName ∈ t.names) :
    (update.Castable engine t update.columnName ->
        update.StepsAccepted engine db t update.columnName ->
      update.run engine others db = (.ok (), update.stage engine db t update.columnName
        (update.reached engine t update.columnName))) ∧
    (Not (update.Castable engine t update.columnName ∧
        update.StepsAccepted engine db t update.columnName) ->
      exists e, update.run engine others db = (.error e, db)) := by
  have hlookup := sqlColumn_of_mem hfind hcolumn
  by_cases hkept : (update.kept t).entries = []
  · exact run_cleared hfind hkeys hvalid hkept (cleared_ne_nil hvalues hkept) hlookup
  · have hcall := updateTableValue_eq engine others db hfind hkeys
    rw [if_pos hkept] at hcall
    rcases updateRow_kept engine others db hfind hkeys hcolumn
      with ⟨hpasses, hfails⟩
    constructor
    · intro hcastable hsteps
      have hfirst := hsteps [] List.nil_prefix
      rw [hpasses hcastable hfirst] at hcall
      exact tx_run_ok (hcall.trans
        ((clears_all others hfind hkeys hlookup hcastable.2 hfirst).1 hsteps))
    · intro hrefused
      by_cases hfirst : update.Castable engine t update.columnName ∧
          engine.accepts (update.stage engine db t update.columnName []) = .ok ()
      · have hnotSteps : Not (update.StepsAccepted engine db t update.columnName) :=
          fun hsteps => hrefused ⟨hfirst.1, hsteps⟩
        rw [hpasses hfirst.1 hfirst.2] at hcall
        rcases (clears_all others hfind hkeys hlookup hfirst.1.2 hfirst.2).2
          hnotSteps with ⟨e, he⟩
        exact ⟨e, tx_run_error (hcall.trans he)⟩
      · rcases hfails hfirst with ⟨e, he⟩
        rw [he] at hcall
        exact ⟨e, tx_run_error hcall⟩

end Runs

/-!
# When it is one update
-/

section Law

variable {s : Schema} {engine : UpdateEngine s}
  {others : Change -> Database s -> Except Exn (Database s × String)} {db : Database s}
  {update : ColumnUpdate} {t : TableInfo}

theorem setAtOnce_eq (hvalues : update.values.entries ≠ []) :
    update.setAtOnce engine db t = (do
      (update.kept t).entries.forM (fun e => engine.castable t.tableName e.1 e.2)
      engine.castable t.tableName update.columnName update.value
      engine.accepts (update.stage engine db t update.columnName (update.cleared t))
      pure (update.stage engine db t update.columnName (update.cleared t))) := by
  have hstage : db.mapRows t.tableName (fun row =>
      if update.isMatch engine t update.columnName row then update.meant engine t row
      else row) = update.stage engine db t update.columnName (update.cleared t) := by
    unfold stage
    simp only [settled_cleared]
  unfold setAtOnce
  rw [if_neg hvalues, hstage]

theorem setAtOnce_ok_iff (hvalues : update.values.entries ≠ []) {db' : Database s} :
    update.setAtOnce engine db t = .ok db' <->
      update.Castable engine t update.columnName ∧
        engine.accepts (update.stage engine db t update.columnName (update.cleared t)) = .ok () ∧
          update.stage engine db t update.columnName (update.cleared t) = db' := by
  rw [setAtOnce_eq hvalues]
  constructor
  · intro h
    rcases exceptBind_ok h with ⟨_, hkept, h⟩
    rcases exceptBind_ok h with ⟨_, hcast, h⟩
    rcases exceptBind_ok h with ⟨_, haccepted, h⟩
    exact ⟨⟨exceptForM_passes hkept, hcast⟩, haccepted, Except.ok.inj h⟩
  · rintro ⟨⟨hkept, hcast⟩, haccepted, hdb⟩
    rw [exceptForM_ok hkept, hcast, haccepted, hdb]
    rfl

theorem reached_subset {c lookup : String} (h : c ∈ update.reached engine t lookup) :
    c ∈ update.cleared t := by
  have hupTo : forall columns : List String, c ∈ upTo lookup columns -> c ∈ columns := by
    intro columns
    induction columns with
    | nil => exact id
    | cons c' rest ih =>
        intro hmem
        unfold upTo at hmem
        split at hmem
        · exact List.mem_cons.mpr (Or.inl (List.mem_singleton.mp hmem))
        · rcases List.mem_cons.mp hmem with heq | hrest
          · exact List.mem_cons.mpr (Or.inl heq)
          · exact List.mem_cons_of_mem c' (ih hrest)
  unfold reached at h
  split at h
  · exact hupTo _ h
  · cases h

theorem stage_reached_iff {lookup : String} :
    update.stage engine db t lookup (update.reached engine t lookup) =
        update.stage engine db t lookup (update.cleared t) <->
      forall row c, row ∈ db.rows t.tableName -> update.isMatch engine t lookup row = true ->
        c ∈ update.cleared t -> c ∉ update.reached engine t lookup -> row c = none := by
  constructor
  · intro h row c hrow hmatch hcleared hmissed
    have hrows := congrArg (fun db' : Database s => db'.rows t.tableName) h
    simp only [stage, Database.mapRows, if_true] at hrows
    have hsame := congrFun (List.map_inj_left.mp hrows row hrow) c
    simp only [hmatch, if_true, settled, if_pos hcleared, if_neg hmissed] at hsame
    cases hkept : (update.kept t).find? c with
    | none =>
        rw [hkept] at hsame
        exact hsame
    | some v => exact absurd hcleared (find?_kept hkept).2
  · intro h
    unfold stage Database.mapRows
    congr 1
    funext name
    split
    · rename_i hname
      rw [hname]
      apply List.map_congr_left
      intro row hrow
      cases hmatch : update.isMatch engine t lookup row with
      | false => rfl
      | true =>
          simp only [if_true]
          funext c
          unfold settled
          by_cases hcleared : c ∈ update.cleared t
          · rw [if_pos hcleared]
            by_cases hreached : c ∈ update.reached engine t lookup
            · rw [if_pos hreached]
            · rw [if_neg hreached, h row c hrow hmatch hcleared hreached]
              cases hkept : (update.kept t).find? c with
              | none => rfl
              | some v => exact absurd hcleared (find?_kept hkept).2
          · rw [if_neg hcleared, if_neg (fun hreached => hcleared (reached_subset hreached))]
    · rfl

variable (hfind : s.find? update.tableName = some t)
  (hkeys : forall k, k ∈ update.values.keys -> k ∈ t.names)

include hfind hkeys

theorem run_nothing
    (hvalues : update.values.entries = []) : update.run engine others db = (.ok (), db) := by
  have hkept : (update.kept t).entries = [] := by
    change update.values.entries.filter _ = []
    rw [hvalues]
    rfl
  have hcleared : update.cleared t = [] := by
    unfold cleared
    rw [hvalues]
    rfl
  apply tx_run_ok
  rw [updateTableValue_eq engine others db hfind hkeys, if_neg (not_not.mpr hkept), hcleared]
  rfl

theorem run_unknownKept
    (hcolumn : update.columnName ∉ t.names) (hkept : (update.kept t).entries ≠ []) :
    exists e, update.run engine others db = (.error e, db) := by
  have hchecked : DbCrud.checkKeysInTable (update.kept t) t.names = .ok () :=
    checkKeysInTable_of_mem (fun k hk => kept_keys hkeys hk)
  have hrow : exists e, DbCrud.updateRow (engine.writeEngine others) update.tableName
      update.columnName update.value (update.kept t) db = .error e := by
    refine ⟨.invalidArgument ("LookupDatabaseColumnInfoByColumnName - column name not found: " ++
      update.columnName), ?_⟩
    unfold DbCrud.updateRow DbCrud.lookupDatabaseColumnInfoByColumnName
    rw [listColumns_of_exact hfind]
    simp only [bind, Except.bind, Tx.lift, Except.map, hchecked, if_neg hcolumn]
  rcases hrow with ⟨e, he⟩
  have hcall := updateTableValue_eq engine others db hfind hkeys
  rw [if_pos hkept, he] at hcall
  exact ⟨e, tx_run_error hcall⟩

theorem run_unknownCleared (hcolumn : escSqlName update.columnName ∉ t.names)
    (hkept : (update.kept t).entries = []) (hcleared : update.cleared t ≠ []) :
    exists e, update.run engine others db = (.error e, db) := by
  have hlookup : sqlColumn t update.columnName = .error (.sql .undefinedColumn) := if_neg hcolumn
  rcases List.exists_cons_of_ne_nil hcleared with ⟨c, rest, hrest⟩
  have hc : c ∈ t.names := cleared_names hkeys (by simp [hrest])
  have hexecute : (engine.writeEngine others).execute
      (.setNull update.tableName c update.columnName update.value) db =
        .error (.sql .undefinedColumn) := by
    change (do
      let t' ← sqlTable s update.tableName
      let cleared ← sqlColumn t' c
      let lookup ← sqlColumn t' update.columnName
      engine.updateWhere t' [(cleared, none)] lookup update.value db) = _
    rw [sqlTable_of_exact hfind]
    simp only [bind, Except.bind, sqlColumn_of_mem hfind hc, hlookup]
  have hcall := updateTableValue_eq engine others db hfind hkeys
  rw [if_neg (not_not.mpr hkept), hrest] at hcall
  refine ⟨.sql .undefinedColumn, tx_run_error (hcall.trans ?_)⟩
  unfold clears
  rw [List.forM]
  simp only [bind, DbCrud.execute, hexecute]
  rfl

theorem refusesName_iff
    (hvalid : engine.accepts db = .ok ()) (hcolumn : update.columnName ∉ t.names) :
    (exists e, update.run engine others db = (.error e, db)) <->
      update.RefusesName engine db t := by
  constructor
  · rintro ⟨e, he⟩
    by_cases hkept : (update.kept t).entries = []
    · right
      have hvalues : update.values.entries ≠ [] := by
        intro hvalues
        rw [run_nothing hfind hkeys hvalues] at he
        cases he
      have hcleared := cleared_ne_nil hvalues hkept
      refine ⟨hcleared, ?_⟩
      intro hfolded hcastable hsteps
      have hlookup : sqlColumn t update.columnName = .ok (escSqlName update.columnName) :=
        if_pos hfolded
      rw [(run_cleared hfind hkeys hvalid hkept hcleared hlookup).1 hcastable hsteps] at he
      cases he
    · exact Or.inl hkept
  · intro h
    by_cases hkept : (update.kept t).entries = []
    · rcases h with hsome | ⟨hcleared, hfails⟩
      · exact absurd hkept hsome
      · by_cases hfolded : escSqlName update.columnName ∈ t.names
        · have hlookup : sqlColumn t update.columnName = .ok (escSqlName update.columnName) :=
            if_pos hfolded
          exact (run_cleared hfind hkeys hvalid hkept hcleared hlookup).2
            (fun hall => hfails hfolded hall.1 hall.2)
        · exact run_unknownCleared hfind hkeys hfolded hkept hcleared
    · exact run_unknownKept hfind hkeys hcolumn hkept

/-- The call is one update exactly when, for a column of the table, its statements are accepted
as the whole is and miss no value that was there, and for another name one of them fails. -/
theorem isSimultaneous_iff (hvalid : engine.accepts db = .ok ()) :
    update.IsSimultaneous engine others db t <->
      (update.columnName ∈ t.names -> update.Castable engine t update.columnName ->
        update.ReachesAll engine db t) ∧
      (update.columnName ∉ t.names -> update.RefusesName engine db t) := by
  constructor
  · intro h
    refine ⟨?_, fun hcolumn => (refusesName_iff hfind hkeys hvalid hcolumn).mp
      (h.unknown hcolumn)⟩
    intro hcolumn hcastable
    by_cases hvalues : update.values.entries = []
    · have hnone : update.cleared t = [] := by
        unfold cleared
        rw [hvalues]
        rfl
      have hreached : update.reached engine t update.columnName = [] := by
        unfold reached
        rw [hnone]
        exact ite_self _
      unfold ReachesAll StepsAccepted
      rw [hreached, hnone]
      simp
    · rcases run_known others hfind hkeys hvalid hvalues hcolumn with
        ⟨hpasses, hfails⟩
      have hsteps : engine.accepts (update.stage engine db t update.columnName
          (update.cleared t)) = .ok () -> update.StepsAccepted engine db t update.columnName ∧
            update.stage engine db t update.columnName
                (update.reached engine t update.columnName) =
              update.stage engine db t update.columnName (update.cleared t) := by
        intro haccepted
        have hrun := h.sets hcolumn _
          ((setAtOnce_ok_iff hvalues).mpr ⟨hcastable, haccepted, rfl⟩)
        by_cases hall : update.StepsAccepted engine db t update.columnName
        · refine ⟨hall, ?_⟩
          rw [hpasses hcastable hall] at hrun
          exact congrArg Prod.snd hrun
        · rcases hfails (fun hboth => hall hboth.2) with ⟨e, he⟩
          rw [he] at hrun
          cases hrun
      refine ⟨⟨fun haccepted => (hsteps haccepted).1, ?_⟩,
        fun haccepted => stage_reached_iff.mp (hsteps haccepted).2⟩
      intro hall
      cases hset : update.setAtOnce engine db t with
      | ok db' => exact ((setAtOnce_ok_iff hvalues).mp hset).2.1
      | error e =>
          rcases h.refuses hcolumn e hset with ⟨e', he'⟩
          rw [hpasses hcastable hall] at he'
          cases he'
  · rintro ⟨hknown, hunknown⟩
    refine ⟨?_, ?_, fun hcolumn => (refusesName_iff hfind hkeys hvalid hcolumn).mpr
      (hunknown hcolumn)⟩
    · intro hcolumn db' hset
      by_cases hvalues : update.values.entries = []
      · unfold setAtOnce at hset
        rw [if_pos hvalues] at hset
        rw [run_nothing hfind hkeys hvalues, Except.ok.inj hset]
      · rcases (setAtOnce_ok_iff hvalues).mp hset with ⟨hcastable, haccepted, hdb⟩
        rcases hknown hcolumn hcastable with ⟨hsteps, hmissed⟩
        rw [(run_known others hfind hkeys hvalid hvalues hcolumn).1 hcastable (hsteps.mp haccepted),
          stage_reached_iff.mpr (hmissed haccepted), hdb]
    · intro hcolumn e hset
      by_cases hvalues : update.values.entries = []
      · unfold setAtOnce at hset
        rw [if_pos hvalues] at hset
        cases hset
      · apply (run_known others hfind hkeys hvalid hvalues hcolumn).2
        rintro ⟨hcastable, hall⟩
        have haccepted := (hknown hcolumn hcastable).1.mpr hall
        rw [(setAtOnce_ok_iff hvalues).mpr ⟨hcastable, haccepted, rfl⟩] at hset
        cases hset

end Law

end ColumnUpdate

/-!
# A lookup column that changes
-/

def UpdateEngine.plain (s : Schema) : UpdateEngine s where
  toEngine := Engine.plain s
  stored := fun _ _ value => value
  accepts := fun _ => .ok ()
  equals_null := fun _ _ _ => rfl

def contactsTable : TableInfo where
  tableName := "contacts"
  columns := [textColumn "email", { textColumn "phone" with nullable := true }]

def contactsSchema : Schema where
  tables := [contactsTable]
  folded := by decide +kernel

def contactsDatabase : Database contactsSchema where
  rows := fun _ => [fun c => if c = "email" then some "old" else some "555"]

def moveContact (columnName value : String) : ColumnUpdate where
  tableName := "contacts"
  columnName := columnName
  value := value
  values := (SortedMap.empty.set "email" "new").set "phone" ""

def noChange (_ : Change) (db : Database contactsSchema) :
    Except Exn (Database contactsSchema × String) := .ok (db, "")

theorem moveContact_keys {columnName value : String} :
    forall k, k ∈ (moveContact columnName value).values.keys -> k ∈ contactsTable.names := by
  intro k hk
  have hkeys : ((SortedMap.empty.set "email" "new").set "phone" "" : KeyValueTable).keys =
      ["email", "phone"] := by decide
  change k ∈ ((SortedMap.empty.set "email" "new").set "phone" "" : KeyValueTable).keys at hk
  rw [hkeys] at hk
  simpa [contactsTable, TableInfo.names, textColumn] using hk

/-- Found by its phone, the contact gets a new address and loses the phone. -/
theorem isSimultaneous_byPhone :
    (moveContact "phone" "555").IsSimultaneous (UpdateEngine.plain contactsSchema) noChange
      contactsDatabase contactsTable := by
  refine (ColumnUpdate.isSimultaneous_iff rfl moveContact_keys rfl).mpr ⟨?_, ?_⟩
  · intro _ _
    refine ⟨⟨fun _ _ _ => rfl, fun _ => rfl⟩, ?_⟩
    intro _ row c _ _ hcleared hmissed
    have hreached : (moveContact "phone" "555").reached (UpdateEngine.plain contactsSchema)
        contactsTable "phone" = (moveContact "phone" "555").cleared contactsTable := by
      decide
    rw [show (moveContact "phone" "555").columnName = "phone" from rfl, hreached] at hmissed
    exact absurd hcleared hmissed
  · intro hnot
    exact absurd (by decide) hnot

/-- Found by the address that changes, the contact keeps the phone. -/
theorem moveContact_keepsPhone :
    Not ((moveContact "email" "old").IsSimultaneous (UpdateEngine.plain contactsSchema) noChange
      contactsDatabase contactsTable) := by
  intro h
  have hrun := h.sets (by decide) _ rfl
  have hphones := congrArg (fun result : Except Exn Unit × Database contactsSchema =>
    (result.2.rows "contacts").map (fun row => row "phone")) hrun
  revert hphones
  decide +kernel

end Rest
end ServerComponents
