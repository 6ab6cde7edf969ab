import Enfyra.Core.InitRelations

/-!
Phase 2 of `createInitMetadata`: the column rows of each snapshot table. The loop of a table
reads the table's rows once, before it starts (`existingColumns`); it inserts a row for each
snapshot column none of them names, updates the row that names it when `detectColumnChanges`
sees a change, and then deletes the rows whose name the snapshot no longer has.

Every write of that loop lands on a row of its own table: it inserts rows of the table, and
it updates and deletes by the id of a row it read, which no row of another table holds while
the ids stay distinct. So the loop of one table leaves every other table's rows as they
were. A table whose snapshot columns and prior rows have distinct names ends up with one
row per snapshot column, up to order, and a table with no column row yet gets them in the
snapshot's order, holding `columnInsert`'s fields. There `defaultValue` and `options` are
`JSON.stringify(value || null)`, so a default of `false`, `0` or `''` is stored as NULL; and
a row that differs from its snapshot column in `isHidden` only is left as it is, since
`detectColumnChanges` does not compare `isHidden`.
-/

namespace Enfyra.CoreInitSqlService

/-! ### The rows the loop of one table writes -/

/-- While the loop of table `tableId` runs, the ids stay distinct, and a row that holds the id
of one of the rows the loop read (`owned`) is a row of the table. -/
structure OwnsIds (tableId : Value) (owned : List Value) (rows : List Record) : Prop where
  unique : IdsUnique rows
  owner : ∀ row ∈ rows, column row "id" ∈ owned → column row "tableId" = tableId

/-- What a write of the loop of table `tableId` keeps: the ownership, and the rows of every
other table. -/
structure Confined (tableId : Value) (owned : List Value) (rows rows' : List Record) :
    Prop where
  owns : OwnsIds tableId owned rows'
  others : ∀ other, other ≠ tableId →
    rowsWhere rows' "tableId" other = rowsWhere rows "tableId" other

theorem Confined.refl {tableId : Value} {owned : List Value} {rows : List Record}
    (h : OwnsIds tableId owned rows) : Confined tableId owned rows rows :=
  ⟨h, fun _ _ => rfl⟩

theorem Confined.trans {tableId : Value} {owned : List Value} {rows rows' rows'' : List Record}
    (h₁ : Confined tableId owned rows rows') (h₂ : Confined tableId owned rows' rows'') :
    Confined tableId owned rows rows'' :=
  ⟨h₂.owns, fun other hne => (h₂.others other hne).trans (h₁.others other hne)⟩

/-- A loop whose every step is confined to the table is. -/
theorem confined_foldl {α : Type} {tableId : Value} {owned : List Value}
    {f : List Record → α → List Record} :
    ∀ (as : List α) {rows : List Record},
      (∀ a ∈ as, ∀ rows, OwnsIds tableId owned rows → Confined tableId owned rows (f rows a)) →
      OwnsIds tableId owned rows → Confined tableId owned rows (as.foldl f rows)
  | [], _, _, h => .refl h
  | a :: as, rows, hf, h =>
      have hstep := hf a (List.mem_cons_self _ _) rows h
      hstep.trans (confined_foldl as (fun b hb => hf b (List.mem_cons_of_mem _ hb)) hstep.owns)

/-- The loop starts owning the ids of the rows it read. -/
theorem ownsIds_rowsWhere {rows : List Record} (h : IdsUnique rows) (tableId : Value) :
    OwnsIds tableId ((rowsWhere rows "tableId" tableId).map (column · "id")) rows := by
  refine ⟨h, fun row hrow hid => ?_⟩
  obtain ⟨read, hread, hreadId⟩ := List.mem_map.mp hid
  have hmem := List.mem_filter.mp hread
  rw [← h.eq_of_id hmem.1 hrow hreadId]
  simpa using hmem.2

theorem rowsWhere_insertRow (rows : List Record) (data : Record) (value : Value) :
    rowsWhere (insertRow rows data) "tableId" value = rowsWhere rows "tableId" value ++
      if column data "tableId" = value then [("id", nextId rows) :: data] else [] := by
  simp only [rowsWhere, insertRow, List.filter_append]
  congr 1
  split <;> simp_all [column, Record.get?_cons]

/-- An insert of a row of the table. -/
theorem confined_insertRow {tableId : Value} {owned : List Value} {rows : List Record}
    (h : OwnsIds tableId owned rows) {data : Record} (hdata : column data "tableId" = tableId) :
    Confined tableId owned rows (insertRow rows data) := by
  refine ⟨⟨idsUnique_insertRow h.unique data, fun row hrow hid => ?_⟩, fun other hne => ?_⟩
  · rcases List.mem_append.mp hrow with hrow | hrow
    · exact h.owner row hrow hid
    · rw [List.mem_singleton.mp hrow]
      simpa [column, Record.get?_cons] using hdata
  · rw [rowsWhere_insertRow, if_neg (hdata.symm ▸ Ne.symm hne), List.append_nil]

/-- An update by id leaves every column it does not set. -/
theorem column_updateById_row {data : Record} {key : String} (hkey : key ∉ data.map Prod.fst)
    (id : Value) (row : Record) :
    column (if column row "id" = id then data.foldl (fun r p => r.set p.1 p.2) row else row)
      key = column row key := by
  split
  · exact column_assign_of_not_mem hkey row
  · rfl

/-- An update of a row the loop read, with data that sets neither `id` nor `tableId`. -/
theorem confined_updateById {tableId : Value} {owned : List Value} {rows : List Record}
    (h : OwnsIds tableId owned rows) {id : Value} (hid : id ∈ owned) {data : Record}
    (hkeyId : "id" ∉ data.map Prod.fst) (hkeyTable : "tableId" ∉ data.map Prod.fst) :
    Confined tableId owned rows (updateById rows id data) := by
  refine ⟨⟨idsUnique_updateById h.unique hkeyId id, ?_⟩, fun other hne => ?_⟩
  · intro row hrow hrowId
    obtain ⟨read, hread, rfl⟩ := List.mem_map.mp hrow
    rw [column_updateById_row hkeyTable]
    exact h.owner read hread (by rwa [column_updateById_row hkeyId] at hrowId)
  · refine filter_map_eq_filter (fun row _ => by rw [column_updateById_row hkeyTable])
      fun row hrow hother => ?_
    have hne' : column row "id" ≠ id := fun he =>
      hne ((of_decide_eq_true hother).symm.trans (h.owner row hrow (he ▸ hid)))
    exact if_neg hne'

/-- A delete of a row the loop read. -/
theorem confined_deleteById {tableId : Value} {owned : List Value} {rows : List Record}
    (h : OwnsIds tableId owned rows) {id : Value} (hid : id ∈ owned) :
    Confined tableId owned rows (deleteById rows id) := by
  refine ⟨⟨h.unique.sublist (List.filter_sublist _),
    fun row hrow => h.owner row (List.mem_filter.mp hrow).1⟩, fun other hne => ?_⟩
  simp only [rowsWhere, deleteById, List.filter_filter]
  refine List.filter_congr fun row hrow => ?_
  by_cases hother : column row "tableId" = other
  · have hne' : column row "id" ≠ id := fun he =>
      hne (hother.symm.trans (h.owner row hrow (he ▸ hid)))
    simp [hother, hne']
  · simp [hother]

/-! ### Phase 2 -/

@[simp] theorem column_columnInsert_tableId (tableId : Value) (col : Record) :
    column (columnInsert tableId col) "tableId" = tableId := by
  simp [column, columnInsert]

theorem columnUpdate_keys {key : String} (hkey : key ∈ ["id", "name", "tableId"])
    (col : Record) : key ∉ (columnUpdate col).map Prod.fst := fun hmem => by
  have := mem_keys_definedFields hmem
  simp only [List.mem_cons, List.mem_singleton, List.not_mem_nil, or_false] at hkey
  rcases hkey with rfl | rfl | rfl <;> simp at this

/-- One snapshot column, in the loop of table `tableId` that read `existing`. -/
theorem confined_syncColumn {tableId : Value} {existing rows : List Record} {col : Record}
    (h : OwnsIds tableId (existing.map (column · "id")) rows) :
    Confined tableId (existing.map (column · "id")) rows (syncColumn tableId existing rows col) := by
  unfold syncColumn
  split
  · exact confined_insertRow h (column_columnInsert_tableId tableId col)
  · rename_i exist hexist
    have hread : exist ∈ existing :=
      (List.mem_filter.mp (List.mem_of_getLast?_eq_some hexist)).1
    split
    · exact confined_updateById h (List.mem_map_of_mem _ hread)
        (columnUpdate_keys (by simp) col) (columnUpdate_keys (by simp) col)
    · exact .refl h

/-- The loop of a table writes only rows of the table. -/
theorem confined_syncColumns (ids : Record) {rows : List Record} (h : IdsUnique rows)
    {entry : String × Record} {tableId : Value} (hid : tableIdOf ids entry.1 = some tableId) :
    Confined tableId ((rowsWhere rows "tableId" tableId).map (column · "id")) rows
      (syncColumns ids rows entry) := by
  simp only [syncColumns, hid]
  have hcolumns := @confined_foldl _ _ _ (syncColumn tableId (rowsWhere rows "tableId" tableId))
    (objectsOf (entry.2.get? "columns")) rows (fun _ _ _ h' => confined_syncColumn h')
    (ownsIds_rowsWhere h tableId)
  exact hcolumns.trans (confined_foldl _ (fun row hrow _ h' => confined_deleteById h'
    (List.mem_map_of_mem _ (List.mem_filter.mp hrow).1)) hcolumns.owns)

theorem idsUnique_syncColumns (ids : Record) {rows : List Record} (h : IdsUnique rows)
    (entry : String × Record) : IdsUnique (syncColumns ids rows entry) := by
  cases hid : tableIdOf ids entry.1 with
  | none => simpa [syncColumns, hid] using h
  | some tableId => exact (confined_syncColumns ids h hid).owns.unique

/-- The loop of a table leaves the rows of every other table. -/
theorem rowsWhere_syncColumns_of_ne (ids : Record) {rows : List Record} (h : IdsUnique rows)
    {entry : String × Record} {other : Value} (hne : tableIdOf ids entry.1 ≠ some other) :
    rowsWhere (syncColumns ids rows entry) "tableId" other = rowsWhere rows "tableId" other := by
  cases hid : tableIdOf ids entry.1 with
  | none => simp [syncColumns, hid]
  | some tableId =>
      exact (confined_syncColumns ids h hid).others other fun he => hne (he ▸ hid)

theorem idsUnique_foldl_syncColumns (ids : Record) :
    ∀ (snapshot : List (String × Record)) {rows : List Record}, IdsUnique rows →
      IdsUnique (snapshot.foldl (syncColumns ids) rows)
  | [], _, h => h
  | entry :: snapshot, _, h =>
      idsUnique_foldl_syncColumns ids snapshot (idsUnique_syncColumns ids h entry)

theorem rowsWhere_foldl_syncColumns_of_ne (ids : Record) {other : Value} :
    ∀ (snapshot : List (String × Record)) {rows : List Record}, IdsUnique rows →
      (∀ entry ∈ snapshot, tableIdOf ids entry.1 ≠ some other) →
      rowsWhere (snapshot.foldl (syncColumns ids) rows) "tableId" other =
        rowsWhere rows "tableId" other
  | [], _, _, _ => rfl
  | entry :: snapshot, _, h, hne => by
      rw [List.foldl_cons, rowsWhere_foldl_syncColumns_of_ne ids snapshot
        (idsUnique_syncColumns ids h entry) fun e he => hne e (List.mem_cons_of_mem _ he),
        rowsWhere_syncColumns_of_ne ids h (hne entry (List.mem_cons_self _ _))]

/-- The loop of a table with no column row inserts every snapshot column. -/
theorem rowsWhere_foldl_syncColumn_fresh (tableId : Value) :
    ∀ (columns : List Record) (rows : List Record),
      (rowsWhere (columns.foldl (syncColumn tableId []) rows) "tableId" tableId).map List.tail =
        (rowsWhere rows "tableId" tableId).map List.tail ++ columns.map (columnInsert tableId)
  | [], _ => by simp
  | col :: columns, rows => by
      rw [List.foldl_cons, rowsWhere_foldl_syncColumn_fresh tableId columns,
        show syncColumn tableId [] rows col = insertRow rows (columnInsert tableId col) from rfl,
        rowsWhere_insertRow, if_pos (column_columnInsert_tableId tableId col)]
      simp

theorem rowsWhere_syncColumns_fresh (ids : Record) {rows : List Record}
    {entry : String × Record} {tableId : Value} (hid : tableIdOf ids entry.1 = some tableId)
    (hfresh : rowsWhere rows "tableId" tableId = []) :
    (rowsWhere (syncColumns ids rows entry) "tableId" tableId).map List.tail =
      (objectsOf (entry.2.get? "columns")).map (columnInsert tableId) := by
  simp only [syncColumns, hid, hfresh, List.filter_nil, List.foldl_nil]
  rw [rowsWhere_foldl_syncColumn_fresh, hfresh, List.map_nil, List.nil_append]

/-! ### The names of a table's column rows -/

/-- What the loop of a table reads of a column row: its id and its name. -/
def idName (row : Record) : Value × Value := (column row "id", column row "name")

theorem existingColumn_eq_none {existing : List Record} {col : Record} :
    existingColumn existing col = none ↔
      ∀ row ∈ existing, some (column row "name") ≠ col.get? "name" := by
  simp [existingColumn, List.filter_eq_nil_iff]

/-- An update that sets none of `id`, `name` and `tableId` leaves the ids and names of every
table's rows. -/
theorem idNames_updateById {data : Record} (hkeys : ∀ key ∈ ["id", "name", "tableId"],
      key ∉ data.map Prod.fst) (rows : List Record) (id tableId : Value) :
    (rowsWhere (updateById rows id data) "tableId" tableId).map idName =
      (rowsWhere rows "tableId" tableId).map idName := by
  simp only [rowsWhere, updateById, List.filter_map, List.map_map]
  have hkeep := fun key hkey => column_updateById_row (hkeys key hkey) id
  congr 1
  · funext row
    simp [idName, hkeep "id" (by simp), hkeep "name" (by simp)]
  · congr 1
    funext row
    simp [hkeep "tableId" (by simp)]

theorem mem_ids_syncColumn {tableId : Value} {existing rows : List Record} {col : Record}
    {id : Value} (h : id ∈ rows.map (column · "id")) :
    id ∈ (syncColumn tableId existing rows col).map (column · "id") := by
  unfold syncColumn
  split
  · rw [insertRow, List.map_append]
    exact List.mem_append_left _ h
  · split
    · rwa [map_updateById _ (column_assign_of_not_mem (columnUpdate_keys (by simp) col))]
    · exact h

/-- One snapshot column: a column none of the rows read names gets a new row, with the next
id; otherwise the ids and names stay. -/
theorem idNames_syncColumn (tableId : Value) (existing rows : List Record) (col : Record) :
    (rowsWhere (syncColumn tableId existing rows col) "tableId" tableId).map idName =
      (rowsWhere rows "tableId" tableId).map idName ++
        if existingColumn existing col = none then [(nextId rows, column col "name")] else [] := by
  unfold syncColumn
  split
  · rename_i hnone
    rw [rowsWhere_insertRow, if_pos (column_columnInsert_tableId tableId col), if_pos hnone]
    simp [idName, column, Record.get?_cons, columnInsert]
  · rename_i exist hexist
    rw [hexist, if_neg (Option.some_ne_none _), List.append_nil]
    split
    · exact idNames_updateById (fun key hkey => columnUpdate_keys hkey col) _ _ _
    · rfl

/-- The column loop of a table: the ids and names of its rows are those it started with,
then one new row for each snapshot column that none of the rows read names, with an id
none of them has. -/
theorem idNames_foldl_syncColumn (tableId : Value) (existing : List Record) :
    ∀ (columns rows : List Record),
      (∀ e ∈ existing, column e "id" ∈ rows.map (column · "id")) →
      ∃ added, (rowsWhere (columns.foldl (syncColumn tableId existing) rows) "tableId"
          tableId).map idName = (rowsWhere rows "tableId" tableId).map idName ++ added ∧
        added.map Prod.snd = (columns.filter fun col => existingColumn existing col = none).map
          (column · "name") ∧
        ∀ p ∈ added, p.1 ∉ existing.map (column · "id")
  | [], _, _ => ⟨[], by simp, rfl, by simp⟩
  | col :: columns, rows, hexisting => by
      obtain ⟨added, hrows, hnames, hfresh⟩ := idNames_foldl_syncColumn tableId existing columns
        (syncColumn tableId existing rows col) fun e he => mem_ids_syncColumn (hexisting e he)
      refine ⟨(if existingColumn existing col = none then [(nextId rows, column col "name")]
        else []) ++ added, ?_, ?_, fun p hp => ?_⟩
      · rw [List.foldl_cons, hrows, idNames_syncColumn, List.append_assoc]
      · rw [List.filter_cons]
        split <;> simp_all
      · rcases List.mem_append.mp hp with hp | hp
        · split at hp
          · rw [List.mem_singleton.mp hp]
            intro hnext
            obtain ⟨e, he, hid⟩ := List.mem_map.mp hnext
            obtain ⟨row, hrow, hrowId⟩ := List.mem_map.mp (hexisting e he)
            exact nextId_fresh hrow (hrowId.trans hid)
          · cases hp
        · exact hfresh p hp

theorem idNames_foldl_deleteById (toRemove rows : List Record) (tableId : Value) :
    (rowsWhere (toRemove.foldl (fun rows r => deleteById rows (column r "id")) rows) "tableId"
        tableId).map idName =
      ((rowsWhere rows "tableId" tableId).map idName).filter fun p =>
        toRemove.all fun r => p.1 ≠ column r "id" := by
  rw [foldl_deleteById, List.filter_map]
  simp only [rowsWhere, List.filter_filter, Bool.and_comm]
  rfl

/-- The loop of a table whose snapshot columns have distinct names, all given, and whose rows
have distinct names, leaves it one row per snapshot column, up to order. -/
theorem columnNames_syncColumns_perm (ids : Record) {rows : List Record} (hids : IdsUnique rows)
    {entry : String × Record} {tableId : Value} (hid : tableIdOf ids entry.1 = some tableId)
    (hnamed : ∀ col ∈ objectsOf (entry.2.get? "columns"), (col.get? "name").isSome)
    (hcolumns : ((objectsOf (entry.2.get? "columns")).map (column · "name")).Nodup)
    (hprior : ((rowsWhere rows "tableId" tableId).map (column · "name")).Nodup) :
    ((rowsWhere (syncColumns ids rows entry) "tableId" tableId).map (column · "name")).Perm
      ((objectsOf (entry.2.get? "columns")).map (column · "name")) := by
  set columns := objectsOf (entry.2.get? "columns")
  set existing := rowsWhere rows "tableId" tableId
  have hget : ∀ col ∈ columns, col.get? "name" = some (column col "name") := fun col hcol => by
    obtain ⟨v, hv⟩ := Option.isSome_iff_exists.mp (hnamed col hcol)
    simp [column, hv]
  have hgiven : ∀ v : Value, some v ∈ columns.map (·.get? "name") ↔ v ∈ columns.map (column · "name") :=
    fun v => by
      simp only [List.mem_map]
      exact ⟨fun ⟨col, hcol, h⟩ => ⟨col, hcol, Option.some.inj ((hget col hcol).symm.trans h)⟩,
        fun ⟨col, hcol, h⟩ => ⟨col, hcol, (hget col hcol).trans (congrArg some h)⟩⟩
  have hexistingIds : IdsUnique existing := hids.sublist (List.filter_sublist _)
  obtain ⟨added, hloop, haddedNames, hfresh⟩ := idNames_foldl_syncColumn tableId existing columns
    rows fun e he => List.mem_map_of_mem _ (List.mem_filter.mp he).1
  -- the rows after the call, by id and name
  have hfinal : (rowsWhere (syncColumns ids rows entry) "tableId" tableId).map idName =
      (existing.map idName ++ added).filter fun p =>
        (existing.filter fun row => some (column row "name") ∉ columns.map (·.get? "name")).all
          fun r => p.1 ≠ column r "id" := by
    simp only [syncColumns, hid]
    rw [idNames_foldl_deleteById, hloop]
  -- a row read survives exactly when the snapshot names it; every new row survives
  have hkept : ∀ e ∈ existing,
      ((existing.filter fun row => some (column row "name") ∉ columns.map (·.get? "name")).all
        fun r => column e "id" ≠ column r "id") = decide (column e "name" ∈ columns.map (column · "name")) := by
    intro e he
    by_cases hname : column e "name" ∈ columns.map (column · "name")
    · simp only [hname, decide_True, List.all_eq_true, List.mem_filter, decide_eq_true_eq]
      rintro r ⟨hr, hrname⟩ hsame
      exact hrname ((hgiven _).mpr (hexistingIds.eq_of_id hr he hsame.symm ▸ hname))
    · simp only [hname, decide_False, List.all_eq_false, List.mem_filter]
      exact ⟨e, ⟨he, by simpa [hgiven] using hname⟩, by simp⟩
  have hnames : (rowsWhere (syncColumns ids rows entry) "tableId" tableId).map (column · "name") =
      (existing.filter fun e => column e "name" ∈ columns.map (column · "name")).map
        (column · "name") ++
      (columns.filter fun col => existingColumn existing col = none).map (column · "name") := by
    have hsnd : ∀ rs : List Record, rs.map (column · "name") = (rs.map idName).map Prod.snd :=
      fun rs => by simp [idName]
    rw [hsnd, hfinal, List.filter_append, List.map_append, List.filter_map, List.map_map,
      ← haddedNames]
    congr 1
    · congr 1
      exact List.filter_congr fun e he => hkept e he
    · rw [List.filter_eq_self.mpr fun p hp => ?_]
      simp only [List.all_eq_true, List.mem_filter, decide_eq_true_eq]
      rintro r ⟨hr, -⟩ hsame
      exact hfresh p hp (hsame ▸ List.mem_map_of_mem _ hr)
  rw [hnames]
  have hnone : ∀ col ∈ columns, existingColumn existing col = none →
      ∀ e ∈ existing, column e "name" ≠ column col "name" := fun col hcol hcolNone e he hsame =>
    existingColumn_eq_none.mp hcolNone e he (by rw [hsame, hget col hcol])
  have hdisjoint : List.Disjoint
      ((existing.filter fun e => column e "name" ∈ columns.map (column · "name")).map
        (column · "name"))
      ((columns.filter fun col => existingColumn existing col = none).map (column · "name")) := by
    intro v hfirst hsecond
    obtain ⟨e, he, rfl⟩ := List.mem_map.mp hfirst
    obtain ⟨col, hcol, hsame⟩ := List.mem_map.mp hsecond
    have hcol' := List.mem_filter.mp hcol
    exact hnone col hcol'.1 (of_decide_eq_true hcol'.2) e (List.mem_filter.mp he).1 hsame.symm
  refine (List.perm_ext_iff_of_nodup
    ((hprior.sublist ((List.filter_sublist _).map _)).append
      (hcolumns.sublist ((List.filter_sublist _).map _)) hdisjoint) hcolumns).mpr fun v => ?_
  constructor
  · intro hv
    rcases List.mem_append.mp hv with hv | hv
    · obtain ⟨e, he, rfl⟩ := List.mem_map.mp hv
      exact of_decide_eq_true (List.mem_filter.mp he).2
    · obtain ⟨col, hcol, rfl⟩ := List.mem_map.mp hv
      exact List.mem_map_of_mem _ (List.mem_filter.mp hcol).1
  · intro hv
    obtain ⟨col, hcol, rfl⟩ := List.mem_map.mp hv
    by_cases hread : existingColumn existing col = none
    · exact List.mem_append_right _
        (List.mem_map_of_mem _ (List.mem_filter.mpr ⟨hcol, decide_eq_true hread⟩))
    · obtain ⟨e, he, hsame⟩ : ∃ e ∈ existing, column e "name" = column col "name" := by
        by_contra hnot
        push_neg at hnot
        exact hread (existingColumn_eq_none.mpr fun e he h =>
          hnot e he (Option.some.inj (h.trans (hget col hcol))))
      exact List.mem_append_left _ (List.mem_map.mpr
        ⟨e, List.mem_filter.mpr ⟨he, decide_eq_true (hsame ▸ hv)⟩, hsame⟩)

section Naming

variable (getJunctionTableName : Value → Value → Value → Value)
  (getForeignKeyColumnName : Value → Value)

theorem createInitMetadata_columnDefinition (snapshot : List (String × Record))
    (tables : MetadataTables) :
    (createInitMetadata getJunctionTableName getForeignKeyColumnName snapshot
      tables).columnDefinition =
      snapshot.foldl (syncColumns (syncTables snapshot tables.tableDefinition).1)
        tables.columnDefinition := rfl

/-- For a snapshot with distinct table names, only the loop of a table writes its column
rows: the table's rows after the call are those its own loop leaves, and that loop starts
from the rows the table had before the call. -/
theorem rowsWhere_createInitMetadata_columnDefinition (snapshot : List (String × Record))
    (tables : MetadataTables) (hnodup : (snapshot.map Prod.fst).Nodup)
    (hnames : ∀ e ∈ snapshot, e.2.get? "name" = some (.str e.1))
    (htableIds : IdsUnique tables.tableDefinition)
    (hcolumnIds : IdsUnique tables.columnDefinition)
    {A : String} {definition : Record} {tableId : Value} (hA : (A, definition) ∈ snapshot)
    (hid : tableIdOf (syncTables snapshot tables.tableDefinition).1 A = some tableId) :
    ∃ rows, IdsUnique rows ∧
      rowsWhere rows "tableId" tableId = rowsWhere tables.columnDefinition "tableId" tableId ∧
      rowsWhere (createInitMetadata getJunctionTableName getForeignKeyColumnName snapshot
          tables).columnDefinition "tableId" tableId =
        rowsWhere (syncColumns (syncTables snapshot tables.tableDefinition).1 rows
          (A, definition)) "tableId" tableId := by
  obtain ⟨pre, post, rfl⟩ := List.append_of_mem hA
  set ids := (syncTables (pre ++ (A, definition) :: post) tables.tableDefinition).1
  have hA' : A ∉ (pre ++ post).map Prod.fst := by
    rw [List.map_append, List.map_cons, List.nodup_middle, ← List.map_append] at hnodup
    simpa using (List.nodup_cons.mp hnodup).1
  -- no other table of the snapshot has this id
  have hother : ∀ e ∈ pre ++ post, tableIdOf ids e.1 ≠ some tableId := fun e he hsame =>
    hA' (tableIdOf_injective hnames htableIds hsame hid ▸ List.mem_map_of_mem _ he)
  have hpre := idsUnique_foldl_syncColumns ids pre hcolumnIds
  refine ⟨pre.foldl (syncColumns ids) tables.columnDefinition, hpre,
    rowsWhere_foldl_syncColumns_of_ne ids pre hcolumnIds
      fun e he => hother e (List.mem_append_left _ he), ?_⟩
  rw [createInitMetadata_columnDefinition, List.foldl_append, List.foldl_cons,
    rowsWhere_foldl_syncColumns_of_ne ids post (idsUnique_syncColumns ids hpre _)
      fun e he => hother e (List.mem_append_right _ he)]

/-- For a snapshot with distinct table names, a table with no column row before the call
ends up with one row per snapshot column, in the snapshot's order: its new id, then
`columnInsert`'s fields. -/
theorem createInitMetadata_fresh_columns (snapshot : List (String × Record))
    (tables : MetadataTables) (hnodup : (snapshot.map Prod.fst).Nodup)
    (hnames : ∀ e ∈ snapshot, e.2.get? "name" = some (.str e.1))
    (htableIds : IdsUnique tables.tableDefinition)
    (hcolumnIds : IdsUnique tables.columnDefinition)
    {A : String} {definition : Record} {tableId : Value} (hA : (A, definition) ∈ snapshot)
    (hid : tableIdOf (syncTables snapshot tables.tableDefinition).1 A = some tableId)
    (hfresh : rowsWhere tables.columnDefinition "tableId" tableId = []) :
    (rowsWhere (createInitMetadata getJunctionTableName getForeignKeyColumnName snapshot
        tables).columnDefinition "tableId" tableId).map List.tail =
      (objectsOf (definition.get? "columns")).map (columnInsert tableId) := by
  obtain ⟨rows, -, hbefore, hafter⟩ := rowsWhere_createInitMetadata_columnDefinition
    getJunctionTableName getForeignKeyColumnName snapshot tables hnodup hnames htableIds
    hcolumnIds hA hid
  rw [hafter]
  exact rowsWhere_syncColumns_fresh _ hid (hbefore.trans hfresh)

/-- For a snapshot with distinct table names, a table whose snapshot columns carry distinct
names and whose column rows had distinct names ends up with one row per snapshot column,
up to order: the column rows its snapshot no longer names are deleted, and no column gets a
second row. -/
theorem createInitMetadata_columns_perm (snapshot : List (String × Record))
    (tables : MetadataTables) (hnodup : (snapshot.map Prod.fst).Nodup)
    (hnames : ∀ e ∈ snapshot, e.2.get? "name" = some (.str e.1))
    (htableIds : IdsUnique tables.tableDefinition)
    (hcolumnIds : IdsUnique tables.columnDefinition)
    {A : String} {definition : Record} {tableId : Value} (hA : (A, definition) ∈ snapshot)
    (hid : tableIdOf (syncTables snapshot tables.tableDefinition).1 A = some tableId)
    (hnamed : ∀ col ∈ objectsOf (definition.get? "columns"), (col.get? "name").isSome)
    (hcolumns : ((objectsOf (definition.get? "columns")).map (column · "name")).Nodup)
    (hprior : ((rowsWhere tables.columnDefinition "tableId" tableId).map
      (column · "name")).Nodup) :
    ((rowsWhere (createInitMetadata getJunctionTableName getForeignKeyColumnName snapshot
        tables).columnDefinition "tableId" tableId).map (column · "name")).Perm
      ((objectsOf (definition.get? "columns")).map (column · "name")) := by
  obtain ⟨rows, hrows, hbefore, hafter⟩ := rowsWhere_createInitMetadata_columnDefinition
    getJunctionTableName getForeignKeyColumnName snapshot tables hnodup hnames htableIds
    hcolumnIds hA hid
  rw [hafter]
  exact columnNames_syncColumns_perm _ hrows hid hnamed hcolumns (hbefore ▸ hprior)

end Naming

/-- `settings` had the column `archived`, and its snapshot marks it hidden; it adds the column
`active`, whose default is `false`. -/
def settingsSnapshot : List (String × Record) :=
  [("settings", [("name", .str "settings"), ("columns", .arr [
    .obj [("name", .str "archived"), ("type", .str "boolean"), ("isNullable", .bool true),
      ("isPrimary", .bool false), ("isGenerated", .bool false), ("defaultValue", .null),
      ("options", .null), ("isUpdatable", .bool true), ("isHidden", .bool true)],
    .obj [("name", .str "active"), ("type", .str "boolean"), ("defaultValue", .bool false)]])])]

/-- The database before the call: `settings` with its visible column `archived`. -/
def settingsTables : MetadataTables :=
  ⟨[[("id", .num 1), ("name", .str "settings")]],
    [[("id", .num 1), ("name", .str "archived"), ("tableId", .num 1), ("type", .str "boolean"),
      ("isNullable", .bool true), ("isPrimary", .bool false), ("isGenerated", .bool false),
      ("defaultValue", .null), ("options", .null), ("isUpdatable", .bool true),
      ("isHidden", .bool false)]], []⟩

/-- After the call `archived` is still visible, and the default of `active` is NULL. -/
theorem createInitMetadata_settings_columns :
    (createInitMetadata junctionNameOf foreignKeyOf settingsSnapshot
        settingsTables).columnDefinition.map
      (fun row => (column row "name", column row "isHidden", column row "defaultValue")) =
      [(.str "archived", .bool false, .null), (.str "active", .bool false, .null)] := rfl

end Enfyra.CoreInitSqlService
