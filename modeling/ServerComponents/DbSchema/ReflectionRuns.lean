import ServerComponents.DbSchema.Reflection

/-!
# Where reading a schema ends

A run adds tables while one is ready.  What it has added agrees with the database; what
keeps it from an end is a table that can never be placed.
-/

namespace ServerComponents
namespace DbSchema

open Control
open Relational

section Runs

variable {s : LiveSchema} {allowedTables : List String}

namespace LiveSchema

variable (s allowedTables)

/-- The table can be placed: no path along its foreign keys is endless or leaves the allowed
tables. -/
def PlaceableTable (tableName : String) : Prop :=
  Placeable s.listParentTables (s.allowed allowedTables) tableName

/-- One of the tables that can be placed cannot be added, or is listed twice. -/
def Refuses : Prop :=
  exists tableName, s.PlaceableTable allowedTables tableName ∧
    (Not (s.Accepts tableName) ∨ 1 < (s.allowed allowedTables).count tableName)

end LiveSchema

/-- The tables that have been added, and those that wait. -/
structure Progress (s : LiveSchema) (allowedTables : List String) (reflected : Reflected)
    (waiting : List String) : Prop where
  agrees : Agrees s reflected
  ordered : InOrder s.listParentTables reflected.tablesAdded
  placeable : forall tableName, tableName ∈ reflected.tablesAdded ->
    s.PlaceableTable allowedTables tableName
  perm : (reflected.tablesAdded ++ waiting).Perm (s.allowed allowedTables)

section Step

variable {reflected : Reflected} {waiting rest : List String} {tableName : String}

theorem Progress.step (h : Progress s allowedTables reflected waiting)
    (hwaiting : waiting.Perm (tableName :: rest))
    (hparents : forall parentTable, parentTable ∈ s.listParentTables tableName ->
      parentTable ∈ reflected.tablesAdded) :
    (exists err, reflected.add s ⟨tableName, s.listParentTables tableName⟩ = .error err ∧
      s.Refuses allowedTables) ∨
    exists reflected', reflected.add s ⟨tableName, s.listParentTables tableName⟩ =
        .ok reflected' ∧
      Progress s allowedTables reflected' rest ∧
      reflected'.tablesAdded = reflected.tablesAdded ++ [tableName] := by
  have hperm : (reflected.tablesAdded ++ tableName :: rest).Perm (s.allowed allowedTables) :=
    (hwaiting.symm.append_left reflected.tablesAdded).trans h.perm
  have hmem : tableName ∈ s.allowed allowedTables :=
    hperm.mem_iff.mp (List.mem_append_right _ List.mem_cons_self)
  have hplaceable : s.PlaceableTable allowedTables tableName :=
    Placeable.place hmem (fun p hp => h.placeable p (hparents p hp))
  by_cases hknown : tableName ∈ reflected.tablesAdded
  case pos =>
    rcases add_refused hparents h.agrees (Or.inl hknown) with ⟨err, hrun⟩
    refine Or.inl ⟨err, hrun, tableName, hplaceable, Or.inr ?_⟩
    have hadded : 0 < reflected.tablesAdded.count tableName := List.count_pos_iff.mpr hknown
    rw [← hperm.count_eq, List.count_append, List.count_cons_self]
    omega
  case neg =>
    by_cases haccepts : s.Accepts tableName
    case neg =>
      rcases add_refused hparents h.agrees (Or.inr haccepts) with ⟨err, hrun⟩
      exact Or.inl ⟨err, hrun, tableName, hplaceable, Or.inl haccepts⟩
    case pos =>
      rcases add_accepted hparents h.agrees hknown haccepts with
        ⟨reflected', hrun, hagrees, htables⟩
      refine Or.inr ⟨reflected', hrun, ⟨hagrees, ?_, ?_, ?_⟩, htables⟩
      · rw [htables]
        exact h.ordered.append hparents
      · intro name hname
        rw [htables] at hname
        rcases List.mem_append.mp hname with hold | hlast
        · exact h.placeable name hold
        · rw [List.mem_singleton.mp hlast]
          exact hplaceable
      · rw [htables, List.append_assoc, List.singleton_append]
        exact hperm

theorem Progress.stuck (h : Progress s allowedTables reflected waiting)
    (hstuck : forall name, name ∈ waiting ->
      exists parentTable, parentTable ∈ s.listParentTables name ∧
        parentTable ∉ reflected.tablesAdded) :
    Not (s.Refuses allowedTables) ∧
      forall name, name ∈ waiting -> Not (s.PlaceableTable allowedTables name) := by
  have hcover : forall name, name ∈ s.allowed allowedTables ->
      name ∈ reflected.tablesAdded ∨ name ∈ waiting :=
    fun name hname => List.mem_append.mp (h.perm.mem_iff.mpr hname)
  have hwaiting : forall name, name ∈ waiting ->
      Not (s.PlaceableTable allowedTables name) := by
    intro name hname hplaceable
    rcases hstuck name hname with ⟨parentTable, hparent, hnot⟩
    exact hnot (Placeable.placed hcover hstuck (hplaceable.of_needs hparent))
  refine ⟨?_, hwaiting⟩
  rintro ⟨name, hplaceable, hbad⟩
  have hadded : name ∈ reflected.tablesAdded := Placeable.placed hcover hstuck hplaceable
  rcases hbad with hrefused | htwice
  · exact hrefused (h.agrees.accepts name hadded)
  · have hnot : name ∉ waiting := fun hname => hwaiting name hname hplaceable
    rw [← h.perm.count_eq, List.count_append, List.count_eq_zero_of_not_mem hnot,
      List.count_eq_one_of_mem h.agrees.nodup hadded] at htwice
    exact absurd htwice (Nat.lt_irrefl 1)

end Step

/-!
## The tables without foreign keys
-/

def childTableInfo (s : LiveSchema) (tableName : String) : ChildTableInfo :=
  ⟨tableName, s.listParentTables tableName⟩

theorem mem_foreignKeyRows {row : ForeignKeyRow} :
    row ∈ s.foreignKeyRows <->
      exists kcu, kcu ∈ s.keyColumnUsage ∧ exists tc, tc ∈ s.constraints ∧
        kcu.of tc = true ∧ tc.isForeignKey = true ∧
        exists ccu, ccu ∈ s.constraintColumnUsage ∧ ccu.of tc = true ∧
          row = ⟨ccu.tableName, ccu.columnName, kcu.tableName, kcu.columnName⟩ := by
  unfold LiveSchema.foreignKeyRows
  simp only [List.mem_flatMap, List.mem_map, List.mem_filter, Bool.and_eq_true]
  constructor
  · rintro ⟨kcu, hkcu, tc, ⟨htc, hof, hkey⟩, ccu, ⟨hccu, hofTc⟩, hrow⟩
    exact ⟨kcu, hkcu, tc, htc, hof, hkey, ccu, hccu, hofTc, hrow.symm⟩
  · rintro ⟨kcu, hkcu, tc, htc, hof, hkey, ccu, hccu, hofTc, hrow⟩
    exact ⟨kcu, hkcu, tc, ⟨htc, hof, hkey⟩, ccu, ⟨hccu, hofTc⟩, hrow.symm⟩

theorem listParentTables_root {tableName : String} (h : tableName ∉ s.childTables) :
    s.listParentTables tableName = [] := by
  refine List.eq_nil_iff_forall_not_mem.mpr (fun parentTable hparent => h ?_)
  rcases mem_listParentTables.mp hparent with ⟨row, hrow, -, hchild⟩
  rcases mem_foreignKeyRows.mp hrow with ⟨kcu, hkcu, tc, htc, hof, hkey, ccu, -, -, rfl⟩
  rw [← hchild]
  refine List.mem_map_of_mem (List.mem_filter.mpr ⟨hkcu, ?_⟩)
  refine List.any_eq_true.mpr ⟨tc, htc, ?_⟩
  rw [hof, hkey]
  rfl

theorem foldlM_roots {roots children : List String}
    (hroots : forall tableName, tableName ∈ roots -> s.listParentTables tableName = []) :
    forall reflected, Progress s allowedTables reflected (roots ++ children) ->
      (exists err, roots.foldlM
          (fun (reflected : Reflected) rootTable => reflected.add s ⟨rootTable, []⟩)
          reflected = .error err ∧ s.Refuses allowedTables) ∨
      exists reflected', roots.foldlM
          (fun (reflected : Reflected) rootTable => reflected.add s ⟨rootTable, []⟩)
          reflected = .ok reflected' ∧
        Progress s allowedTables reflected' children ∧
        reflected'.tablesAdded = reflected.tablesAdded ++ roots := by
  induction roots with
  | nil => exact fun reflected h => Or.inr ⟨reflected, rfl, h, (List.append_nil _).symm⟩
  | cons root rest ih =>
      intro reflected h
      have hroot := hroots root List.mem_cons_self
      have hstep := h.step (List.Perm.refl _) (fun p hp => by rw [hroot] at hp; cases hp)
      rw [hroot] at hstep
      rcases hstep with ⟨err, hrun, hrefuses⟩ | ⟨reflected', hrun, hprogress, htables⟩
      · refine Or.inl ⟨err, ?_, hrefuses⟩
        rw [List.foldlM_cons, hrun]
        rfl
      · rcases ih (fun t ht => hroots t (List.mem_cons_of_mem root ht)) reflected' hprogress with
          ⟨err, hrest, hrefuses⟩ | ⟨reflected'', hrest, hlast, htables'⟩
        · refine Or.inl ⟨err, ?_, hrefuses⟩
          rw [List.foldlM_cons, hrun]
          exact hrest
        · refine Or.inr ⟨reflected'', ?_, hlast, ?_⟩
          · rw [List.foldlM_cons, hrun]
            exact hrest
          · rw [htables', htables, List.append_assoc, List.singleton_append]

theorem perm_filter_not {a : Type} (p : a -> Bool) (l : List a) :
    (l.filter p ++ l.filter (fun x => !p x)).Perm l :=
  List.filter_append_perm p l

theorem addRootTables_spec (s : LiveSchema) (databaseName : String)
    (allowedTables : List String) :
    (exists err, addRootTables s databaseName allowedTables = .error err ∧
      s.Refuses allowedTables) ∨
    exists reflected waiting, addRootTables s databaseName allowedTables = .ok reflected ∧
      Progress s allowedTables reflected waiting ∧
      buildChildTableInfoList s reflected.tablesAdded allowedTables =
        waiting.map (childTableInfo s) := by
  have hroots : filterBasedOnAllowedTables s.listRootTables allowedTables =
      (s.allowed allowedTables).filter (fun table => decide (table ∉ s.childTables)) :=
    List.filter_comm _ _ _
  have hstart : Progress s allowedTables ⟨DatabaseInfo.empty databaseName, []⟩
      ((s.allowed allowedTables).filter (fun table => decide (table ∉ s.childTables)) ++
        (s.allowed allowedTables).filter (fun table => !decide (table ∉ s.childTables))) :=
    { agrees := agrees_empty s databaseName
      ordered := inOrder_nil
      placeable := fun tableName h => by cases h
      perm := perm_filter_not _ _ }
  have hparents : forall tableName,
      tableName ∈ (s.allowed allowedTables).filter
        (fun table => decide (table ∉ s.childTables)) ->
      s.listParentTables tableName = [] :=
    fun tableName h => listParentTables_root (by simpa using (List.mem_filter.mp h).2)
  unfold addRootTables
  rw [hroots]
  rcases foldlM_roots hparents _ hstart with hrefused | ⟨reflected, hrun, hprogress, htables⟩
  · exact Or.inl hrefused
  · refine Or.inr ⟨reflected, _, hrun, hprogress, ?_⟩
    unfold buildChildTableInfoList
    refine congrArg (List.map _) (List.filter_congr (fun table htable => ?_))
    have hallowed : table ∈ s.allowed allowedTables := htable
    rw [htables, List.nil_append]
    by_cases hchild : table ∈ s.childTables
    · simp [hchild]
    · simp [hchild, hallowed]

/-!
## The loop
-/

theorem addChildTables_stuck {reflected : Reflected} {tableInfoList : List ChildTableInfo}
    (hne : Not (tableInfoList = []))
    (hstuck : tableInfoList.find? (areAllParentsAdded reflected.tablesAdded) = none) :
    forall fuel, addChildTables s fuel reflected tableInfoList = none := by
  intro fuel
  induction fuel with
  | zero =>
      cases tableInfoList with
      | nil => exact absurd rfl hne
      | cons first rest => rfl
  | succ fuel ih =>
      cases tableInfoList with
      | nil => exact absurd rfl hne
      | cons first rest =>
          unfold addChildTables
          rw [hstuck]
          exact ih

section Rounds

variable {reflected : Reflected} {tableInfoList : List ChildTableInfo}
  {tableInfo : ChildTableInfo}
  (hfind : tableInfoList.find? (areAllParentsAdded reflected.tablesAdded) = some tableInfo)

include hfind

theorem addChildTables_error {err : Exn} (hadd : reflected.add s tableInfo = .error err)
    (fuel : Nat) :
    addChildTables s (fuel + 1) reflected tableInfoList = some (.error err) := by
  cases tableInfoList with
  | nil => cases hfind
  | cons first rest =>
      unfold addChildTables
      simp only [hfind, hadd]

theorem addChildTables_next {reflected' : Reflected}
    (hadd : reflected.add s tableInfo = .ok reflected') (fuel : Nat) :
    addChildTables s (fuel + 1) reflected tableInfoList =
      addChildTables s fuel reflected'
        (tableInfoList.eraseP (areAllParentsAdded reflected.tablesAdded)) := by
  cases tableInfoList with
  | nil => cases hfind
  | cons first rest =>
      conv_lhs => unfold addChildTables
      simp only [hfind, hadd]

end Rounds

theorem areAllParentsAdded_iff {tablesAdded : List String} {tableInfo : ChildTableInfo} :
    areAllParentsAdded tablesAdded tableInfo = true <->
      forall parentTable, parentTable ∈ tableInfo.parents -> parentTable ∈ tablesAdded := by
  unfold areAllParentsAdded
  rw [List.all_eq_true]
  simp only [decide_eq_true_eq]

inductive RoundsEnd (s : LiveSchema) (allowedTables : List String) (reflected : Reflected)
    (tableInfoList : List ChildTableInfo) : Prop
  | throws (fuel : Nat) (err : Exn)
      (hrun : addChildTables s fuel reflected tableInfoList = some (.error err))
      (hrefuses : s.Refuses allowedTables)
  | returns (fuel : Nat) (last : Reflected)
      (hrun : addChildTables s fuel reflected tableInfoList = some (.ok last.databaseInfo))
      (hprogress : Progress s allowedTables last [])
  | never (hrun : forall fuel, addChildTables s fuel reflected tableInfoList = none)
      (hrefuses : Not (s.Refuses allowedTables))
      (hwaiting : exists tableName, tableName ∈ s.allowed allowedTables ∧
        Not (s.PlaceableTable allowedTables tableName))

theorem find?_ready {ready : ChildTableInfo -> Bool} {waiting : List String}
    {tableInfo : ChildTableInfo}
    (h : (waiting.map (childTableInfo s)).find? ready = some tableInfo) :
    exists tableName rest, tableInfo = childTableInfo s tableName ∧
      ready tableInfo = true ∧ waiting.Perm (tableName :: rest) ∧
      (waiting.map (childTableInfo s)).eraseP ready = rest.map (childTableInfo s) := by
  rcases List.find?_eq_some_iff_append.mp h with ⟨hready, before, behind, heq, hbefore⟩
  rcases List.map_eq_append_iff.mp heq with ⟨front, back, hwaiting, hfront, hback⟩
  rcases List.map_eq_cons_iff.mp hback with ⟨tableName, tail, hcons, hname, htail⟩
  refine ⟨tableName, front ++ tail, hname.symm, hready, ?_, ?_⟩
  · rw [hwaiting, hcons]
    exact List.perm_middle
  · have hnone : forall b, b ∈ before -> Not (ready b = true) := by
      intro b hb
      simpa using hbefore b hb
    rw [heq, List.eraseP_append_right _ hnone, List.eraseP_cons_of_pos hready, List.map_append,
      hfront, htail]

theorem addChildTables_spec (waiting : List String) :
    forall reflected, Progress s allowedTables reflected waiting ->
      RoundsEnd s allowedTables reflected (waiting.map (childTableInfo s)) := by
  induction hlength : waiting.length generalizing waiting with
  | zero =>
      intro reflected h
      rw [List.length_eq_zero_iff] at hlength
      subst hlength
      exact RoundsEnd.returns 0 reflected rfl h
  | succ n ih =>
      intro reflected h
      have hne : Not (waiting.map (childTableInfo s) = []) := by
        intro hnil
        rw [List.map_eq_nil_iff.mp hnil] at hlength
        cases hlength
      cases hfind : (waiting.map (childTableInfo s)).find?
          (areAllParentsAdded reflected.tablesAdded) with
      | none =>
          have hstuck : forall name, name ∈ waiting ->
              exists parentTable, parentTable ∈ s.listParentTables name ∧
                parentTable ∉ reflected.tablesAdded := by
            intro name hname
            have hnot := List.find?_eq_none.mp hfind _ (List.mem_map_of_mem hname)
            rw [areAllParentsAdded_iff] at hnot
            push Not at hnot
            exact hnot
          rcases h.stuck hstuck with ⟨hrefuses, hwaiting⟩
          have hmem : exists name, name ∈ waiting :=
            List.exists_mem_of_length_pos (by rw [hlength]; exact Nat.succ_pos n)
          rcases hmem with ⟨name, hname⟩
          exact RoundsEnd.never (addChildTables_stuck hne hfind) hrefuses
            ⟨name, h.perm.mem_iff.mp (List.mem_append_right _ hname), hwaiting name hname⟩
      | some tableInfo =>
          rcases find?_ready hfind with ⟨tableName, rest, rfl, hready, hperm, herase⟩
          rcases h.step hperm (areAllParentsAdded_iff.mp hready) with
            ⟨err, hrun, hrefuses⟩ | ⟨reflected', hrun, hprogress, -⟩
          · exact RoundsEnd.throws 1 err (addChildTables_error hfind hrun 0) hrefuses
          · have hrest : rest.length = n := by
              have hcount := hperm.length_eq
              rw [hlength, List.length_cons] at hcount
              omega
            have hstep : forall fuel, addChildTables s (fuel + 1) reflected
                (waiting.map (childTableInfo s)) =
                addChildTables s fuel reflected' (rest.map (childTableInfo s)) := by
              intro fuel
              rw [addChildTables_next hfind hrun, herase]
            cases ih rest hrest reflected' hprogress with
            | throws fuel err hthrows hrefuses =>
                exact RoundsEnd.throws (fuel + 1) err ((hstep fuel).trans hthrows) hrefuses
            | returns fuel last hreturns hlast =>
                exact RoundsEnd.returns (fuel + 1) last ((hstep fuel).trans hreturns) hlast
            | never hnever hrefuses hwaiting =>
                refine RoundsEnd.never (fun fuel => ?_) hrefuses hwaiting
                cases fuel with
                | zero =>
                    cases hlist : waiting.map (childTableInfo s) with
                    | nil => exact absurd hlist hne
                    | cons first others => rfl
                | succ fuel => exact (hstep fuel).trans (hnever fuel)

/-!
## The call
-/

theorem databaseInfoFromDatabase_of_roots {databaseName : String} {reflected : Reflected}
    {waiting : List String}
    (hroots : addRootTables s databaseName allowedTables = .ok reflected)
    (hlist : buildChildTableInfoList s reflected.tablesAdded allowedTables =
      waiting.map (childTableInfo s)) (fuel : Nat) :
    databaseInfoFromDatabase s databaseName allowedTables fuel =
      addChildTables s fuel reflected (waiting.map (childTableInfo s)) := by
  unfold databaseInfoFromDatabase
  simp only [hroots, hlist]

inductive CallEnds (s : LiveSchema) (databaseName : String) (allowedTables : List String) : Prop
  | throws (err : Exn) (hrun : ReflectsTo s databaseName allowedTables (.error err))
      (hrefuses : s.Refuses allowedTables)
  | returns (last : Reflected)
      (hrun : ReflectsTo s databaseName allowedTables (.ok last.databaseInfo))
      (hprogress : Progress s allowedTables last [])
  | never (hrun : forall result, Not (ReflectsTo s databaseName allowedTables result))
      (hrefuses : Not (s.Refuses allowedTables))
      (hwaiting : exists tableName, tableName ∈ s.allowed allowedTables ∧
        Not (s.PlaceableTable allowedTables tableName))

theorem databaseInfoFromDatabase_spec (s : LiveSchema) (databaseName : String)
    (allowedTables : List String) : CallEnds s databaseName allowedTables := by
  rcases addRootTables_spec s databaseName allowedTables with
    ⟨err, hroots, hrefuses⟩ | ⟨reflected, waiting, hroots, hprogress, hlist⟩
  · refine CallEnds.throws err ⟨0, ?_⟩ hrefuses
    unfold databaseInfoFromDatabase
    rw [hroots]
  · have hcall := databaseInfoFromDatabase_of_roots hroots hlist
    cases addChildTables_spec waiting reflected hprogress with
    | throws fuel err hrun hrefuses =>
        exact CallEnds.throws err ⟨fuel, (hcall fuel).trans hrun⟩ hrefuses
    | returns fuel last hrun hlast =>
        exact CallEnds.returns last ⟨fuel, (hcall fuel).trans hrun⟩ hlast
    | never hrun hrefuses hwaiting =>
        refine CallEnds.never ?_ hrefuses hwaiting
        rintro result ⟨fuel, hresult⟩
        rw [hcall, hrun] at hresult
        cases hresult

theorem addChildTables_mono {result : Except Exn DatabaseInfo} (extra : Nat) :
    forall fuel reflected tableInfoList,
      addChildTables s fuel reflected tableInfoList = some result ->
      addChildTables s (fuel + extra) reflected tableInfoList = some result := by
  intro fuel
  induction fuel with
  | zero =>
      intro reflected tableInfoList h
      cases tableInfoList with
      | nil =>
          rw [← h]
          cases extra with
          | zero => rfl
          | succ extra => rfl
      | cons first rest => cases h
  | succ fuel ih =>
      intro reflected tableInfoList h
      rw [Nat.succ_add]
      cases tableInfoList with
      | nil => exact h
      | cons first rest =>
          unfold addChildTables at h ⊢
          cases hfind : (first :: rest).find? (areAllParentsAdded reflected.tablesAdded) with
          | none =>
              simp only [hfind] at h ⊢
              exact ih _ _ h
          | some tableInfo =>
              simp only [hfind] at h ⊢
              cases hadd : reflected.add s tableInfo with
              | error err =>
                  simp only [hadd] at h ⊢
                  exact h
              | ok reflected' =>
                  simp only [hadd] at h ⊢
                  exact ih _ _ h

theorem ReflectsTo.unique {databaseName : String} {result result' : Except Exn DatabaseInfo}
    (h : ReflectsTo s databaseName allowedTables result)
    (h' : ReflectsTo s databaseName allowedTables result') : result = result' := by
  rcases h with ⟨fuel, h⟩
  rcases h' with ⟨fuel', h'⟩
  unfold databaseInfoFromDatabase at h h'
  cases hroots : addRootTables s databaseName allowedTables with
  | error err =>
      rw [hroots] at h h'
      exact Option.some.inj (h.symm.trans h')
  | ok reflected =>
      rw [hroots] at h h'
      have hlong := addChildTables_mono fuel' _ _ _ h
      have hlong' := addChildTables_mono fuel _ _ _ h'
      rw [Nat.add_comm] at hlong'
      exact Option.some.inj (hlong.symm.trans hlong')

/-- Reading a schema comes to an end iff each allowed table can be placed, or one of those
that can be placed is refused. -/
theorem databaseInfoFromDatabase_ends_iff (s : LiveSchema) (databaseName : String)
    (allowedTables : List String) :
    (exists result, ReflectsTo s databaseName allowedTables result) <->
      (forall tableName, tableName ∈ s.allowed allowedTables ->
        s.PlaceableTable allowedTables tableName) ∨ s.Refuses allowedTables := by
  cases databaseInfoFromDatabase_spec s databaseName allowedTables with
  | throws err hrun hrefuses => exact ⟨fun _ => Or.inr hrefuses, fun _ => ⟨_, hrun⟩⟩
  | returns last hrun hprogress =>
      refine ⟨fun _ => Or.inl (fun tableName hname => hprogress.placeable tableName ?_),
        fun _ => ⟨_, hrun⟩⟩
      have hmem := hprogress.perm.mem_iff.mpr hname
      rw [List.append_nil] at hmem
      exact hmem
  | never hrun hrefuses hwaiting =>
      constructor
      · rintro ⟨result, hresult⟩
        exact absurd hresult (hrun result)
      · rintro (hplaceable | hbad)
        · rcases hwaiting with ⟨tableName, hname, hnot⟩
          exact absurd (hplaceable tableName hname) hnot
        · exact absurd hbad hrefuses

/-!
# What is read
-/

/-- The schema has each allowed table once, behind its parents and with all its columns,
and each reference of the database. -/
structure Complete (s : LiveSchema) (allowedTables : List String) (d : DatabaseInfo) : Prop where
  tables : (d.outline.map Prod.fst).Perm (s.allowed allowedTables)
  ordered : forall before tableName behind,
    d.outline.map Prod.fst = before ++ tableName :: behind ->
      forall row, row ∈ s.references -> row.childTable = tableName -> row.parentTable ∈ before
  columns : forall entry, entry ∈ d.outline -> entry.2 = s.columnNames entry.1
  references : forall row, row ∈ s.references ->
    row.childTable ∈ s.allowed allowedTables ->
      exists ref, ref ∈ d.references ∧ ref.parent = ⟨row.parentTable, row.parentColumn⟩ ∧
        ref.child = ⟨row.childTable, row.childColumn⟩

/-- For each reference of an allowed table, the first row of the query for its two tables
is this reference, and no parent listed before claims the column. -/
def LiveSchema.FirstRowsRight (s : LiveSchema) (allowedTables : List String) : Prop :=
  forall row, row ∈ s.references -> row.childTable ∈ s.allowed allowedTables ->
    s.firstReference? row.childTable (s.listParentTables row.childTable) row.childColumn =
      some ⟨row.parentTable, row.parentColumn⟩

theorem Constraint.mem_references {c : Constraint} {row : ForeignKeyRow}
    (h : row ∈ c.references) :
    c.isForeignKey = true ∧ row.childTable = c.tableName ∧ row.childColumn ∈ c.columns ∧
      c.usage c.tableName row.childColumn ∈ c.keyColumnUsage ∧
      c.usage row.parentTable row.parentColumn ∈ c.constraintColumnUsage := by
  unfold references at h
  unfold isForeignKey keyColumnUsage constraintColumnUsage
  cases hkind : c.kind with
  | foreignKey parentTable parentColumns =>
      rw [hkind] at h
      rcases List.mem_map.mp h with ⟨⟨column, parentColumn⟩, hpair, rfl⟩
      rcases List.of_mem_zip hpair with ⟨hcolumn, hparent⟩
      exact ⟨rfl, rfl, hcolumn, List.mem_map_of_mem hcolumn, List.mem_map_of_mem hparent⟩
  | primaryKey =>
      rw [hkind] at h
      cases h
  | unique =>
      rw [hkind] at h
      cases h
  | check =>
      rw [hkind] at h
      cases h

theorem usage_of (c : Constraint) (tableName columnName : String) :
    (c.usage tableName columnName).of c = true :=
  decide_eq_true ⟨rfl, rfl⟩

theorem references_subset {row : ForeignKeyRow} (h : row ∈ s.references) :
    row ∈ s.foreignKeyRows := by
  rcases List.mem_flatMap.mp h with ⟨c, hc, hrow⟩
  rcases Constraint.mem_references hrow with ⟨hkey, hchild, -, hkcu, hccu⟩
  refine mem_foreignKeyRows.mpr ⟨_, List.mem_flatMap.mpr ⟨c, hc, hkcu⟩, c, hc, usage_of c _ _,
    hkey, _, List.mem_flatMap.mpr ⟨c, hc, hccu⟩, usage_of c _ _, ?_⟩
  rcases row with ⟨parentTable, parentColumn, childTable, childColumn⟩
  rw [show childTable = c.tableName from hchild]
  rfl

theorem childColumn_mem {row : ForeignKeyRow} (h : row ∈ s.references)
    {columns : List DatabaseColumnInfo} (hcolumns : s.columns row.childTable = .ok columns) :
    exists column, column ∈ columns ∧ column.columnName = row.childColumn := by
  rcases List.mem_flatMap.mp h with ⟨c, hc, hrow⟩
  rcases Constraint.mem_references hrow with ⟨-, hchild, hcolumn, -, -⟩
  rw [hchild] at hcolumns
  exact List.mem_map.mp (s.constrained c hc columns hcolumns _ hcolumn)

theorem mem_tableReferences {tableName columnName : String} {parent : TableColumnPair}
    {columns : List DatabaseColumnInfo} (hcolumns : s.columns tableName = .ok columns) :
    (exists ref, ref ∈ s.tableReferences tableName ∧ ref.parent = parent ∧
      ref.child = ⟨tableName, columnName⟩) <->
    (exists column, column ∈ columns ∧ column.columnName = columnName) ∧
      s.firstReference? tableName (s.listParentTables tableName) columnName =
        some ⟨parent.tableName, parent.columnName⟩ := by
  unfold LiveSchema.tableReferences
  rw [hcolumns, ← (makeForeignKeyTable_eq s tableName).2]
  constructor
  · rintro ⟨ref, href, rfl, hchild⟩
    rcases List.mem_filterMap.mp href with ⟨column, hcolumn, hmap⟩
    rcases Option.map_eq_some_iff.mp hmap with ⟨key, hkey, rfl⟩
    have hname : column.columnName = columnName := congrArg TableColumnPair.columnName hchild
    refine ⟨⟨column, hcolumn, hname⟩, ?_⟩
    rw [← hname, hkey]
    rfl
  · rintro ⟨⟨column, hcolumn, rfl⟩, hkey⟩
    refine ⟨ForeignKeyRef.reference ⟨parent.tableName, parent.columnName⟩ tableName
      column.columnName ((s.isNullable tableName column.columnName).getD false),
      List.mem_filterMap.mpr ⟨column, hcolumn, ?_⟩, rfl, rfl⟩
    unfold LiveSchema.columnReference?
    rw [hkey]
    rfl

theorem Progress.complete_iff {last : Reflected} (h : Progress s allowedTables last []) :
    Complete s allowedTables last.databaseInfo <-> s.FirstRowsRight allowedTables := by
  have hperm := h.perm
  rw [List.append_nil] at hperm
  have hfound : forall row, row ∈ s.references -> row.childTable ∈ s.allowed allowedTables ->
      ((exists ref, ref ∈ last.databaseInfo.references ∧
          ref.parent = ⟨row.parentTable, row.parentColumn⟩ ∧
          ref.child = ⟨row.childTable, row.childColumn⟩) <->
        s.firstReference? row.childTable (s.listParentTables row.childTable) row.childColumn =
          some ⟨row.parentTable, row.parentColumn⟩) := by
    intro row hrow hchild
    have hadded : row.childTable ∈ last.tablesAdded := hperm.mem_iff.mpr hchild
    rcases h.agrees.accepts _ hadded with ⟨columns, hcolumns, -, -⟩
    have htable := @mem_tableReferences s row.childTable row.childColumn
      ⟨row.parentTable, row.parentColumn⟩ columns hcolumns
    rw [h.agrees.references]
    constructor
    · rintro ⟨ref, href, hparent, hname⟩
      rcases List.mem_flatMap.mp href with ⟨tableName, -, hmem⟩
      have hsame : tableName = row.childTable := by
        rw [← child_of_mem_tableReferences hmem, hname]
      rw [hsame] at hmem
      exact (htable.mp ⟨ref, hmem, hparent, hname⟩).2
    · intro hfirst
      rcases htable.mpr ⟨childColumn_mem hrow hcolumns, hfirst⟩ with ⟨ref, hmem, hparent, hname⟩
      exact ⟨ref, List.mem_flatMap.mpr ⟨_, hadded, hmem⟩, hparent, hname⟩
  constructor
  · intro hcomplete row hrow hchild
    exact (hfound row hrow hchild).mp (hcomplete.references row hrow hchild)
  · intro hright
    refine ⟨?_, ?_, ?_, fun row hrow hchild =>
      (hfound row hrow hchild).mpr (hright row hrow hchild)⟩
    · rw [h.agrees.map_fst]
      exact hperm
    · intro before tableName behind heq row hrow hchild
      rw [h.agrees.map_fst] at heq
      exact h.ordered before tableName behind heq row.parentTable
        (mem_listParentTables.mpr ⟨row, references_subset hrow, rfl, hchild⟩)
    · intro entry hentry
      rw [h.agrees.outline] at hentry
      rcases List.mem_map.mp hentry with ⟨tableName, -, rfl⟩
      rfl

/-- Reading a schema gives all of it iff each allowed table can be placed and added and is
listed once, and the first rows of the queries are the references. -/
theorem databaseInfoFromDatabase_complete_iff (s : LiveSchema) (databaseName : String)
    (allowedTables : List String) :
    (exists d, ReflectsTo s databaseName allowedTables (.ok d) ∧
      Complete s allowedTables d) <->
    (forall tableName, tableName ∈ s.allowed allowedTables ->
      s.PlaceableTable allowedTables tableName ∧ s.Accepts tableName) ∧
      (s.allowed allowedTables).Nodup ∧ s.FirstRowsRight allowedTables := by
  have hnever : s.Refuses allowedTables ->
      (forall tableName, tableName ∈ s.allowed allowedTables -> s.Accepts tableName) ->
      Not (s.allowed allowedTables).Nodup := by
    rintro ⟨tableName, hplaceable, hbad⟩ haccepts hnodup
    rcases hbad with hrefused | htwice
    · exact hrefused (haccepts tableName hplaceable.mem)
    · rw [List.count_eq_one_of_mem hnodup hplaceable.mem] at htwice
      exact Nat.lt_irrefl 1 htwice
  cases databaseInfoFromDatabase_spec s databaseName allowedTables with
  | throws err hrun hrefuses =>
      constructor
      · rintro ⟨d, hresult, -⟩
        cases hresult.unique hrun
      · rintro ⟨hall, hnodup, -⟩
        exact absurd hnodup (hnever hrefuses (fun t ht => (hall t ht).2))
  | never hrun hrefuses hwaiting =>
      constructor
      · rintro ⟨d, hresult, -⟩
        exact absurd hresult (hrun _)
      · rintro ⟨hall, -, -⟩
        rcases hwaiting with ⟨tableName, hname, hnot⟩
        exact absurd (hall tableName hname).1 hnot
  | returns last hrun hprogress =>
      have hperm := hprogress.perm
      rw [List.append_nil] at hperm
      constructor
      · rintro ⟨d, hresult, hcomplete⟩
        have hd : d = last.databaseInfo := Except.ok.inj (hresult.unique hrun)
        rw [hd] at hcomplete
        refine ⟨fun tableName hname => ?_, hperm.nodup_iff.mp hprogress.agrees.nodup,
          hprogress.complete_iff.mp hcomplete⟩
        have hadded := hperm.mem_iff.mpr hname
        exact ⟨hprogress.placeable tableName hadded, hprogress.agrees.accepts tableName hadded⟩
      · rintro ⟨-, -, hright⟩
        exact ⟨_, hrun, hprogress.complete_iff.mpr hright⟩

/-!
## A table that refers to itself, and one that refers to another twice
-/

def LiveSchema.ofTables (tables : List String) (constraints : List Constraint)
    (columns : String -> List DatabaseColumnInfo)
    (constrained : forall c, c ∈ constraints -> forall column, column ∈ c.columns ->
      column ∈ (columns c.tableName).map DatabaseColumnInfo.columnName) : LiveSchema where
  tables := tables
  constraints := constraints
  columns := fun tableName => .ok (columns tableName)
  constrained := by
    intro c hc infos hinfos column hcolumn
    rw [← Except.ok.inj hinfos]
    exact constrained c hc column hcolumn
  isNullable := fun _ _ => some true
  arrange := id
  arrange_perm := fun rows => List.Perm.refl rows

def integerColumn (columnName : String) : DatabaseColumnInfo where
  columnName := columnName
  dataType := "integer"
  udtName := "int4"
  primaryKey := false
  unique := false

/-- Each employee has a manager, who is one. -/
def employees : LiveSchema :=
  LiveSchema.ofTables ["employees"]
    [⟨"public", "employees_manager_fkey", "employees", .foreignKey "employees" ["id"],
      ["manager"]⟩]
    (fun _ => [integerColumn "id", integerColumn "manager"])
    (by simp [integerColumn])

/-- The table waits for itself. -/
theorem reflect_employees :
    Not (exists result, ReflectsTo employees "company" ["employees"] result) := by
  have hroots : addRootTables employees "company" ["employees"] =
      .ok ⟨DatabaseInfo.empty "company", []⟩ := rfl
  have hlist : buildChildTableInfoList employees [] ["employees"] =
      ["employees"].map (childTableInfo employees) := rfl
  have hnever := @addChildTables_stuck employees ⟨DatabaseInfo.empty "company", []⟩
    (["employees"].map (childTableInfo employees)) (List.cons_ne_nil _ _) rfl
  rintro ⟨result, fuel, hresult⟩
  rw [databaseInfoFromDatabase_of_roots hroots hlist, hnever fuel] at hresult
  cases hresult

def messages : LiveSchema :=
  LiveSchema.ofTables ["users", "messages"]
    [⟨"public", "messages_sender_fkey", "messages", .foreignKey "users" ["id"], ["sender"]⟩,
      ⟨"public", "messages_recipient_fkey", "messages", .foreignKey "users" ["id"],
        ["recipient"]⟩]
    (fun tableName =>
      if tableName = "users" then [integerColumn "id"]
      else [integerColumn "sender", integerColumn "recipient"])
    (by simp [integerColumn])

def messageReferences : List ForeignKeyReference :=
  [⟨⟨"users", "id"⟩, ⟨"messages", "sender"⟩, true⟩]

theorem messages_reflected :
    exists d, ReflectsTo messages "company" ["users", "messages"] (.ok d) ∧
      d.references = messageReferences := by
  have hrun : (databaseInfoFromDatabase messages "company" ["users", "messages"] 1).map
      (fun result => result.toOption.map DatabaseInfo.references) =
        some (some messageReferences) := by
    decide +kernel
  rcases Option.map_eq_some_iff.mp hrun with ⟨result, hresult, hreferences⟩
  cases result with
  | error err => cases hreferences
  | ok d => exact ⟨d, ⟨1, hresult⟩, Option.some.inj hreferences⟩

/-- The recipient is read as a column like any other. -/
theorem reflect_messages :
    (exists d, ReflectsTo messages "company" ["users", "messages"] (.ok d)) ∧
      Not (exists d, ReflectsTo messages "company" ["users", "messages"] (.ok d) ∧
        Complete messages ["users", "messages"] d) := by
  rcases messages_reflected with ⟨d, hrun, hreferences⟩
  refine ⟨⟨d, hrun⟩, ?_⟩
  rintro ⟨d', hrun', hcomplete⟩
  have hsame : d' = d := Except.ok.inj (hrun'.unique hrun)
  have hrow : ForeignKeyRow.mk "users" "id" "messages" "recipient" ∈ messages.references := by
    decide
  have hchild : "messages" ∈ messages.allowed ["users", "messages"] := by decide
  rcases hcomplete.references _ hrow hchild with ⟨ref, href, -, hname⟩
  rw [hsame, hreferences] at href
  rw [List.mem_singleton.mp href] at hname
  exact absurd (congrArg TableColumnPair.columnName hname) (by decide)

end Runs

end DbSchema
end ServerComponents
