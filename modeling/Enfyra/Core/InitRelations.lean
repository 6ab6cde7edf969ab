import Mathlib.Data.List.Nodup
import Enfyra.Core.InitMetadata

/-!
The junction of a many-to-many relation and of the inverse `createInitMetadata` derives for
it. The inverse is pushed right after its relation, with a junction computed from the
relation's side. The processing loop inserts a row for a relation it finds no row for,
updates a row whose compared fields changed, and compares no junction field; the clean-up
keeps every name the snapshot declares or derives, and only those: after the call, every
relation row of a snapshot table has such a name. The main result: when every entry of the
loop for a relation's key or its inverse's writes the junction computed from the relation's
side, and the database holds for each key no row, or one row naming that junction as a
previous call leaves it, the call leaves one row for each key, naming the same junction
table with swapped columns, distinct when the two tables' foreign-key column names are.
With the names of the spec's Scenario A, each hypothesis is needed: the inverse of a
relation that names its own junction table gets the computed name, so does an inverse
beside a prior row naming another junction, which the loop finds unchanged, and a relation
declared on both sides with a junction of its own ends with each row updated from the
other side; a self-referencing relation gets one column twice.
-/

namespace Enfyra.CoreInitSqlService

/-! ### Ids and the statements on them -/

/-- The ids of a table are distinct, as its primary key keeps them. -/
def IdsUnique (rows : List Record) : Prop := (rows.map (column · "id")).Nodup

instance (rows : List Record) : Decidable (IdsUnique rows) :=
  inferInstanceAs (Decidable (List.Nodup _))

theorem le_foldl_idBound : ∀ (rows : List Record) (m : Int), m ≤ rows.foldl idBound m
  | [], _ => Int.le_refl _
  | row :: rows, m => by
      refine Int.le_trans ?_ (le_foldl_idBound rows _)
      unfold idBound
      split <;> omega

theorem id_le_foldl_idBound {row : Record} {n : Int} (hid : column row "id" = .num n) :
    ∀ {rows : List Record} (m : Int), row ∈ rows → n ≤ rows.foldl idBound m
  | r :: rows, m, hmem => by
      rcases List.mem_cons.mp hmem with rfl | hmem
      · refine Int.le_trans ?_ (le_foldl_idBound rows _)
        simp only [idBound, hid]
        omega
      · exact id_le_foldl_idBound hid (idBound m r) hmem

/-- The id an insert gives is held by no row of the table. -/
theorem nextId_fresh {rows : List Record} {row : Record} (h : row ∈ rows) :
    column row "id" ≠ nextId rows := by
  intro he
  have := id_le_foldl_idBound he 0 h
  simp only [maxId] at *
  omega

theorem nextId_truthy (rows : List Record) : (nextId rows).truthy = true := by
  have := le_foldl_idBound rows 0
  simp only [nextId, Value.truthy, maxId, bne_iff_ne, ne_eq]
  omega

theorem idsUnique_insertRow {rows : List Record} (h : IdsUnique rows) (data : Record) :
    IdsUnique (insertRow rows data) := by
  unfold IdsUnique insertRow
  rw [List.map_append, List.nodup_append]
  refine ⟨h, List.nodup_singleton _, ?_⟩
  simp only [List.map_cons, List.map_nil, List.disjoint_singleton]
  intro hmem
  obtain ⟨row, hrow, he⟩ := List.mem_map.mp hmem
  exact nextId_fresh hrow (by simpa [column, Record.get?] using he)

/-- Setting the columns of `data` leaves every other column. -/
theorem column_assign_of_not_mem {key : String} :
    ∀ {data : Record}, key ∉ data.map Prod.fst →
      ∀ row : Record, column (data.foldl (fun r p => r.set p.1 p.2) row) key = column row key
  | [], _, _ => rfl
  | (k, v) :: data, h, row => by
      simp only [List.map_cons, List.mem_cons, not_or] at h
      rw [List.foldl_cons, column_assign_of_not_mem h.2]
      simp [column, Record.get?_set_ne row v h.1]

/-- An update reads alike through any view of the columns it does not set. -/
theorem map_updateById {α : Type} (g : Record → α) {data : Record}
    (hg : ∀ row, g (data.foldl (fun r p => r.set p.1 p.2) row) = g row) (rows : List Record)
    (id : Value) : (updateById rows id data).map g = rows.map g := by
  simp only [updateById, List.map_map]
  exact List.map_congr_left fun row _ => by
    simp only [Function.comp]
    split <;> simp [hg]

theorem idsUnique_updateById {rows : List Record} (h : IdsUnique rows) {data : Record}
    (hid : "id" ∉ data.map Prod.fst) (id : Value) : IdsUnique (updateById rows id data) := by
  unfold IdsUnique
  rwa [map_updateById _ (column_assign_of_not_mem hid)]

theorem IdsUnique.sublist {rows rows' : List Record} (h : IdsUnique rows)
    (hs : rows'.Sublist rows) :
    IdsUnique rows' :=
  List.Nodup.sublist (hs.map _) h

theorem IdsUnique.eq_of_id {rows : List Record} (h : IdsUnique rows) {a b : Record}
    (ha : a ∈ rows) (hb : b ∈ rows) (hid : column a "id" = column b "id") : a = b :=
  List.inj_on_of_nodup_map h ha hb hid

theorem mem_keys_definedFields {key : String} :
    ∀ {fields : List (String × Option Value)},
      key ∈ (definedFields fields).map Prod.fst → key ∈ fields.map Prod.fst
  | [], h => h
  | (k, v) :: fields, h => by
      cases v with
      | none => exact List.mem_cons_of_mem _ (mem_keys_definedFields h)
      | some v =>
          rcases List.mem_cons.mp h with rfl | h
          · exact List.mem_cons_self _ _
          · exact List.mem_cons_of_mem _ (mem_keys_definedFields h)

theorem filter_map_eq_filter {α : Type} {p : α → Bool} {g : α → α} {l : List α}
    (hp : ∀ a ∈ l, p (g a) = p a) (hg : ∀ a ∈ l, p a = true → g a = a) :
    (l.map g).filter p = l.filter p := by
  have hfilter : l.filter (p ∘ g) = l.filter p := List.filter_congr hp
  rw [List.filter_map, hfilter]
  conv_rhs => rw [← List.map_id (l.filter p)]
  exact List.map_congr_left fun a ha => hg a (List.mem_filter.mp ha).1 (List.mem_filter.mp ha).2

/-! ### Phase 1 gives distinct tables distinct ids -/

/-- What phase 1 reads of a definition row. -/
def nameAndId (row : Record) : Value × Value := (column row "name", column row "id")

/-- What phase 1 keeps: every name it gave an id names a definition row with that id, and
the rows' ids stay distinct. -/
structure TablesInvariant (ids : Record) (rows : List Record) : Prop where
  named : ∀ name id, ids.get? name = some id → (Value.str name, id) ∈ rows.map nameAndId
  unique : IdsUnique rows

theorem tableUpdate_keys {key : String} (hkey : key ∈ ["id", "name"]) (definition : Record) :
    key ∉ (tableUpdate definition).map Prod.fst := fun hmem => by
  have := mem_keys_definedFields hmem
  simp only [List.mem_cons, List.mem_singleton, List.not_mem_nil, or_false] at hkey
  rcases hkey with rfl | rfl <;> simp at this

theorem TablesInvariant.step {ids : Record} {rows : List Record}
    (h : TablesInvariant ids rows) {entry : String × Record}
    (hname : entry.2.get? "name" = some (.str entry.1)) :
    TablesInvariant (syncTable (ids, rows) entry).1 (syncTable (ids, rows) entry).2 := by
  unfold CoreInitSqlService.syncTable
  split
  · rename_i exist hexist
    have hexistName : column exist "name" = .str entry.1 := by
      have := (List.mem_filter.mp (List.mem_of_mem_head? hexist)).2
      simpa [column, hname] using this
    have hmap : (if detectTableChanges entry.2 exist then
        updateById rows (column exist "id") (tableUpdate entry.2) else rows).map nameAndId =
        rows.map nameAndId := by
      split
      · exact map_updateById _ (fun row => by
          simp only [nameAndId,
            column_assign_of_not_mem (tableUpdate_keys (show "name" ∈ ["id", "name"] by simp) _),
            column_assign_of_not_mem (tableUpdate_keys (show "id" ∈ ["id", "name"] by simp) _)])
          _ _
      · rfl
    refine ⟨fun name id hid => ?_, ?_⟩
    · rw [hmap]
      by_cases hn : name = entry.1
      · subst hn
        simp only [Record.get?_set_self, Option.some.injEq] at hid
        subst hid
        exact List.mem_map.mpr ⟨exist, (List.mem_filter.mp (List.mem_of_mem_head? hexist)).1,
          by simp [nameAndId, hexistName]⟩
      · rw [Record.get?_set_ne _ _ hn] at hid
        exact h.named name id hid
    · split
      · exact idsUnique_updateById h.unique
          (tableUpdate_keys (show "id" ∈ ["id", "name"] by simp) _) _
      · exact h.unique
  · refine ⟨fun name id hid => ?_, idsUnique_insertRow h.unique _⟩
    simp only [insertRow, List.map_append, List.mem_append]
    by_cases hn : name = entry.1
    · subst hn
      simp only [Record.get?_set_self, Option.some.injEq] at hid
      subst hid
      right
      simp [nameAndId, column, Record.get?, tableInsert, hname]
    · rw [Record.get?_set_ne _ _ hn] at hid
      exact .inl (h.named name id hid)

theorem TablesInvariant.run :
    ∀ (snapshot : List (String × Record)) {ids : Record} {rows : List Record},
      (∀ e ∈ snapshot, e.2.get? "name" = some (.str e.1)) → TablesInvariant ids rows →
      TablesInvariant (snapshot.foldl syncTable (ids, rows)).1
        (snapshot.foldl syncTable (ids, rows)).2
  | [], _, _, _, h => h
  | entry :: snapshot, _, _, hnames, h => by
      rw [List.foldl_cons]
      exact TablesInvariant.run snapshot (fun e he => hnames e (List.mem_cons_of_mem _ he))
        (h.step (hnames entry (List.mem_cons_self _ _)))

/-- Phase 1 gives two tables of the snapshot the same id only when they are one table. -/
theorem tableIdOf_injective {snapshot : List (String × Record)} {rows : List Record}
    (hnames : ∀ e ∈ snapshot, e.2.get? "name" = some (.str e.1)) (hids : IdsUnique rows)
    {a b : String} {id : Value} (ha : tableIdOf (syncTables snapshot rows).1 a = some id)
    (hb : tableIdOf (syncTables snapshot rows).1 b = some id) : a = b := by
  have h := TablesInvariant.run snapshot hnames (⟨(fun _ _ h => by cases h), hids⟩ :
    TablesInvariant [] rows)
  have hget : ∀ {n : String}, tableIdOf (syncTables snapshot rows).1 n = some id →
      (Value.str n, id) ∈ (syncTables snapshot rows).2.map nameAndId := fun hn => by
    unfold tableIdOf at hn
    split at hn
    · rename_i v hv
      split at hn
      · cases hn; exact h.named _ _ hv
      · cases hn
    · cases hn
  obtain ⟨ra, hra, hra'⟩ := List.mem_map.mp (hget ha)
  obtain ⟨rb, hrb, hrb'⟩ := List.mem_map.mp (hget hb)
  simp only [nameAndId, Prod.mk.injEq] at hra' hrb'
  have := h.unique.eq_of_id hra hrb (hra'.2.trans hrb'.2.symm)
  subst this
  exact Value.str.inj (hra'.1.symm.trans hrb'.1)

/-! ### The rows of one relation -/

/-- The rows of a table's relation: its `sourceTableId` and its `propertyName`. -/
def relationRows (rows : List Record) (tableId propertyName : Value) : List Record :=
  rows.filter fun row =>
    column row "sourceTableId" = tableId ∧ column row "propertyName" = propertyName

theorem existingRelation_eq (rows : List Record) (tableId propertyName : Value) :
    existingRelation rows tableId propertyName =
      (relationRows rows tableId propertyName).head? := rfl

/-- An update that sets neither key column leaves the rows of every relation none of whose
rows it selects. -/
theorem relationRows_updateById {data : Record} (hsource : "sourceTableId" ∉ data.map Prod.fst)
    (hproperty : "propertyName" ∉ data.map Prod.fst) {rows : List Record}
    {tableId propertyName id : Value}
    (h : ∀ row ∈ relationRows rows tableId propertyName, column row "id" ≠ id) :
    relationRows (updateById rows id data) tableId propertyName =
      relationRows rows tableId propertyName := by
  refine filter_map_eq_filter (fun row _ => ?_) fun row hrow hkey => ?_
  · split <;> simp [column_assign_of_not_mem hsource, column_assign_of_not_mem hproperty]
  · have hne := h row (List.mem_filter.mpr ⟨hrow, hkey⟩)
    simp [hne]

theorem relationRows_insertRow (rows : List Record) (data : Record) (tableId propertyName : Value) :
    relationRows (insertRow rows data) tableId propertyName =
      relationRows rows tableId propertyName ++
        if column data "sourceTableId" = tableId ∧ column data "propertyName" = propertyName
        then [("id", nextId rows) :: data] else [] := by
  simp only [relationRows, insertRow, List.filter_append, List.filter_cons, List.filter_nil]
  congr 1
  simp [column, Record.get?]

/-- An update by id of the one row of a relation, that sets neither key column, leaves that
row updated as the relation's only row. -/
theorem relationRows_updateById_self {data : Record}
    (hsource : "sourceTableId" ∉ data.map Prod.fst) (hproperty : "propertyName" ∉ data.map Prod.fst)
    {rows : List Record} {tableId propertyName : Value} {exist : Record}
    (hexist : relationRows rows tableId propertyName = [exist]) :
    relationRows (updateById rows (column exist "id") data) tableId propertyName =
      [data.foldl (fun r p => r.set p.1 p.2) exist] := by
  unfold relationRows at hexist ⊢
  rw [updateById, List.filter_map, List.filter_congr fun row _ => ?keys, hexist]
  case keys =>
    show _ = decide (column row "sourceTableId" = tableId ∧ column row "propertyName" = propertyName)
    simp only [Function.comp]
    split <;> simp [column_assign_of_not_mem hsource, column_assign_of_not_mem hproperty]
  simp

/-! ### The junction of a relation row -/

/-- The junction a relation row names. -/
def junctionColumns (row : Record) : Value × Value × Value :=
  (column row "junctionTableName", column row "junctionSourceColumn",
    column row "junctionTargetColumn")

/-- The rows of one relation before the call: none, or one that names `junction`. -/
def PriorJunction (junction : Value × Value × Value) (rows : List Record) : Prop :=
  rows = [] ∨ ∃ row, rows = [row] ∧ junctionColumns row = junction

/-- The row of a many-to-many relation naming `inverse`, targeting `targetId` and naming
`junction`. -/
def JunctionRow (inverse targetId : Value) (junction : Value × Value × Value) (row : Record) :
    Prop :=
  column row "type" = .str "many-to-many" ∧ column row "inversePropertyName" = inverse ∧
    column row "targetTableId" = targetId ∧ junctionColumns row = junction

theorem column_of_mem :
    ∀ {data : Record}, (data.map Prod.fst).Nodup → ∀ {key : String} {v : Value},
      (key, v) ∈ data → column data key = v
  | [], _, _, _, h => (List.not_mem_nil _ h).elim
  | (k, w) :: data, hnodup, key, v, hmem => by
      rw [List.map_cons, List.nodup_cons] at hnodup
      rcases List.mem_cons.mp hmem with h | h
      · obtain ⟨rfl, rfl⟩ := Prod.mk.inj_iff.mp h
        simp [column, Record.get?_cons]
      · have hne : k ≠ key := by
          rintro rfl
          exact hnodup.1 (List.mem_map_of_mem Prod.fst h : k ∈ _)
        simp only [column, Record.get?_cons, hne, if_false]
        exact column_of_mem hnodup.2 h

/-- Setting the columns of a record with distinct keys sets each to its value. -/
theorem column_foldl_set_of_mem :
    ∀ {data : Record}, (data.map Prod.fst).Nodup → ∀ (row : Record) {key : String} {v : Value},
      (key, v) ∈ data → column (data.foldl (fun r p => r.set p.1 p.2) row) key = v
  | [], _, _, _, _, h => (List.not_mem_nil _ h).elim
  | (k, w) :: data, hnodup, row, key, v, hmem => by
      rw [List.map_cons, List.nodup_cons] at hnodup
      rw [List.foldl_cons]
      rcases List.mem_cons.mp hmem with h | h
      · obtain ⟨rfl, rfl⟩ := Prod.mk.inj_iff.mp h
        rw [column_assign_of_not_mem hnodup.1]
        simp [column]
      · exact column_foldl_set_of_mem hnodup.2 _ h

/-- A row whose columns hold the fields of a many-to-many row, as an insert or an update
with distinct keys leaves them, is a row of it. -/
theorem junctionRow_of_columns {data row : Record}
    (hcolumn : ∀ {key : String} {v : Value}, (key, v) ∈ data → column row key = v)
    {inverse targetId : Value} {junction : Value × Value × Value}
    (htype : ("type", .str "many-to-many") ∈ data) (hinverse : ("inversePropertyName", inverse) ∈ data)
    (htarget : ("targetTableId", targetId) ∈ data)
    (hjunction : ("junctionTableName", junction.1) ∈ data ∧
      ("junctionSourceColumn", junction.2.1) ∈ data ∧ ("junctionTargetColumn", junction.2.2) ∈ data) :
    JunctionRow inverse targetId junction row :=
  ⟨hcolumn htype, hcolumn hinverse, hcolumn htarget, by
    simp only [junctionColumns, hcolumn hjunction.1, hcolumn hjunction.2.1, hcolumn hjunction.2.2]⟩

theorem keys_definedFields_sublist :
    ∀ fields : List (String × Option Value),
      ((definedFields fields).map Prod.fst).Sublist (fields.map Prod.fst)
  | [] => List.Sublist.refl _
  | (_, none) :: fields => (keys_definedFields_sublist fields).cons _
  | (_, some _) :: fields => (keys_definedFields_sublist fields).cons₂ _

theorem mem_definedFields {fields : List (String × Option Value)} {key : String} {v : Value}
    (h : (key, some v) ∈ fields) : (key, v) ∈ definedFields fields :=
  List.mem_filterMap.mpr ⟨(key, some v), h, rfl⟩

section Naming

variable (getJunctionTableName : Value → Value → Value → Value)
  (getForeignKeyColumnName : Value → Value)

@[simp] theorem relationInsert_sourceTableId (tableName : String) (tableId targetId : Value)
    (rel : Record) :
    column (relationInsert getJunctionTableName getForeignKeyColumnName tableName tableId targetId
      rel) "sourceTableId" = tableId := by
  simp [column, relationInsert, Record.get?_append]

@[simp] theorem relationInsert_propertyName (tableName : String) (tableId targetId : Value)
    (rel : Record) :
    column (relationInsert getJunctionTableName getForeignKeyColumnName tableName tableId targetId
      rel) "propertyName" = column rel "propertyName" := by
  cases h : rel.get? "propertyName"
  · simp [column, relationInsert, Record.get?_append, h]
    split <;> rfl
  · simp [column, relationInsert, Record.get?_append, h]

theorem relationUpdate_keys {key : String} (hkey : key ∈ ["id", "sourceTableId", "propertyName"])
    (tableName : String) (targetId : Value) (rel : Record) :
    key ∉ (relationUpdate getJunctionTableName getForeignKeyColumnName tableName targetId
      rel).map Prod.fst := by
  intro hmem
  simp only [relationUpdate, List.map_append, List.mem_append] at hmem
  simp only [List.mem_cons, List.mem_singleton, List.not_mem_nil, or_false] at hkey
  rcases hmem with hmem | hmem
  · have := mem_keys_definedFields hmem
    rcases hkey with rfl | rfl | rfl <;> simp at this
  · split at hmem
    · rcases hkey with rfl | rfl | rfl <;> simp [junctionFields] at hmem
    · cases hmem

variable (ids : Record)

theorem idsUnique_processRelation {rows : List Record} (hids : IdsUnique rows)
    (entry : RelationEntry) :
    IdsUnique (processRelation getJunctionTableName getForeignKeyColumnName ids rows entry) := by
  unfold processRelation
  split
  · split
    · split
      · exact idsUnique_updateById hids (relationUpdate_keys _ _ (by simp) _ _ _) _
      · exact hids
    · exact idsUnique_insertRow hids _
  · exact hids

/-- A step of the processing loop on another relation leaves this relation's rows. -/
theorem relationRows_processRelation_of_ne {rows : List Record} (hids : IdsUnique rows)
    {entry : RelationEntry} {tableId propertyName : Value}
    (hne : ¬(entry.tableId = tableId ∧ column entry.relation "propertyName" = propertyName)) :
    relationRows (processRelation getJunctionTableName getForeignKeyColumnName ids rows entry)
      tableId propertyName = relationRows rows tableId propertyName := by
  unfold processRelation
  split
  · rename_i target targetId _
    rw [existingRelation_eq]
    split
    · rename_i exist hexist
      have hmem : exist ∈ relationRows rows entry.tableId (column entry.relation "propertyName") :=
        List.mem_of_mem_head? hexist
      split
      · refine relationRows_updateById (relationUpdate_keys _ _ (by simp) _ _ _)
          (relationUpdate_keys _ _ (by simp) _ _ _) fun row hrow hid => hne ?_
        have hexistKey := (List.mem_filter.mp hmem).2
        have hrowKey := (List.mem_filter.mp hrow).2
        rw [hids.eq_of_id (List.mem_filter.mp hrow).1 (List.mem_filter.mp hmem).1 hid] at hrowKey
        simp only [decide_eq_true_eq] at hexistKey hrowKey
        exact ⟨hexistKey.1.symm.trans hrowKey.1, hexistKey.2.symm.trans hrowKey.2⟩
      · rfl
    · rw [relationRows_insertRow]
      simp [hne]
  · rfl

/-- The step of a relation with no row yet inserts its one row. -/
theorem relationRows_processRelation_self {rows : List Record} {entry : RelationEntry}
    (hnone : relationRows rows entry.tableId (column entry.relation "propertyName") = [])
    {target : String} {targetId : Value}
    (htarget : targetOf ids (column entry.relation "targetTable") = some (target, targetId)) :
    relationRows (processRelation getJunctionTableName getForeignKeyColumnName ids rows entry)
        entry.tableId (column entry.relation "propertyName") =
      [("id", nextId rows) :: relationInsert getJunctionTableName getForeignKeyColumnName
        entry.tableName entry.tableId targetId entry.relation] := by
  simp only [processRelation, htarget, existingRelation_eq, hnone, List.head?_nil]
  rw [relationRows_insertRow, hnone]
  simp

/-- An entry of the loop for a many-to-many relation to `target` naming `inverse`, whose
junction (its own fields, or the names computed from its side) is `junction`. -/
def WritesJunction (target : String) (inverse : Value) (junction : Value × Value × Value)
    (entry : RelationEntry) : Prop :=
  entry.relation.get? "type" = some (.str "many-to-many") ∧
    entry.relation.get? "inversePropertyName" = some inverse ∧
    entry.relation.get? "targetTable" = some (.str target) ∧
    junctionColumns (junctionFields getJunctionTableName getForeignKeyColumnName entry.tableName
      entry.relation) = junction

instance (target : String) (inverse : Value) (junction : Value × Value × Value)
    (entry : RelationEntry) : Decidable (WritesJunction getJunctionTableName
      getForeignKeyColumnName target inverse junction entry) :=
  inferInstanceAs (Decidable (_ ∧ _ ∧ _ ∧ _))

theorem mem_junctionFields {tableName : String} {rel : Record} {junction : Value × Value × Value}
    (h : junctionColumns (junctionFields getJunctionTableName getForeignKeyColumnName tableName
      rel) = junction) :
    ("junctionTableName", junction.1) ∈
        junctionFields getJunctionTableName getForeignKeyColumnName tableName rel ∧
      ("junctionSourceColumn", junction.2.1) ∈
        junctionFields getJunctionTableName getForeignKeyColumnName tableName rel ∧
      ("junctionTargetColumn", junction.2.2) ∈
        junctionFields getJunctionTableName getForeignKeyColumnName tableName rel := by
  subst h
  simp [junctionFields, junctionColumns, column, Record.get?]

section Fields

variable {tableName : String} {tableId targetId inverse : Value} {rel : Record}
  {junction : Value × Value × Value} (htype : rel.get? "type" = some (.str "many-to-many"))
  (hinverse : rel.get? "inversePropertyName" = some inverse)
  (hjunction : junctionColumns (junctionFields getJunctionTableName getForeignKeyColumnName
    tableName rel) = junction)
include htype hinverse hjunction

/-- A row whose columns hold the relation's own fields, then the junction fields, is a row of
the relation. -/
theorem junctionRow_of_fields {fields : List (String × Option Value)} {row : Record}
    (hcolumn : ∀ {key : String} {v : Value}, (key, v) ∈ definedFields fields ++
      junctionFields getJunctionTableName getForeignKeyColumnName tableName rel →
        column row key = v)
    (hfields : ("type", rel.get? "type") ∈ fields ∧
      ("inversePropertyName", rel.get? "inversePropertyName") ∈ fields ∧
      ("targetTableId", some targetId) ∈ fields) :
    JunctionRow inverse targetId junction row := by
  obtain ⟨hj, hs, ht⟩ := mem_junctionFields _ _ hjunction
  rw [htype, hinverse] at hfields
  exact junctionRow_of_columns hcolumn (List.mem_append_left _ (mem_definedFields hfields.1))
    (List.mem_append_left _ (mem_definedFields hfields.2.1))
    (List.mem_append_left _ (mem_definedFields hfields.2.2))
    ⟨List.mem_append_right _ hj, List.mem_append_right _ hs, List.mem_append_right _ ht⟩

/-- The row the loop inserts for a many-to-many relation. -/
theorem relationInsert_junctionRow (id : Value) :
    JunctionRow inverse targetId junction
      (("id", id) :: relationInsert getJunctionTableName getForeignKeyColumnName tableName tableId
        targetId rel) := by
  simp only [relationInsert, htype, if_true]
  refine junctionRow_of_fields _ _ htype hinverse hjunction (fun h => column_of_mem ?_ (.tail _ h))
    (by simp [htype])
  simp only [List.map_cons, List.map_append]
  exact ((keys_definedFields_sublist _).append (List.Sublist.refl _)).cons₂ _ |>.nodup
    (by simp [junctionFields])

/-- A row the loop updates for a many-to-many relation. -/
theorem relationUpdate_junctionRow (row : Record) :
    JunctionRow inverse targetId junction
      ((relationUpdate getJunctionTableName getForeignKeyColumnName tableName targetId
        rel).foldl (fun r p => r.set p.1 p.2) row) := by
  simp only [relationUpdate, htype, if_true]
  refine junctionRow_of_fields _ _ htype hinverse hjunction (column_foldl_set_of_mem ?_ row)
    (by simp [htype])
  simp only [List.map_append]
  exact ((keys_definedFields_sublist _).append (List.Sublist.refl _)).nodup
    (by simp [junctionFields])

end Fields

/-- The step of an entry that writes its key's junction: from no row, or one row that names
the junction, it leaves one row, the many-to-many row the entry describes. -/
theorem relationRows_processRelation_writes {rows : List Record} {entry : RelationEntry}
    {target : String} {targetId inverse : Value} {junction : Value × Value × Value}
    (htarget : tableIdOf ids target = some targetId)
    (hwrites : WritesJunction getJunctionTableName getForeignKeyColumnName target inverse junction
      entry)
    (hprior : PriorJunction junction
      (relationRows rows entry.tableId (column entry.relation "propertyName"))) :
    ∃ row, relationRows (processRelation getJunctionTableName getForeignKeyColumnName ids rows
        entry) entry.tableId (column entry.relation "propertyName") = [row] ∧
      JunctionRow inverse targetId junction row := by
  obtain ⟨htype, hinverse, htargetTable, hjunction⟩ := hwrites
  have htargetOf : targetOf ids (column entry.relation "targetTable") = some (target, targetId) := by
    simp [column, htargetTable, targetOf, htarget]
  rcases hprior with hnone | ⟨exist, hexist, hexistJunction⟩
  · exact ⟨_, relationRows_processRelation_self _ _ ids hnone htargetOf,
      relationInsert_junctionRow _ _ htype hinverse hjunction _⟩
  · simp only [processRelation, htargetOf, existingRelation_eq, hexist, List.head?_cons]
    split
    · exact ⟨_, relationRows_updateById_self (relationUpdate_keys _ _ (by simp) _ _ _)
        (relationUpdate_keys _ _ (by simp) _ _ _) hexist,
        relationUpdate_junctionRow _ _ htype hinverse hjunction exist⟩
    · rename_i hsame
      simp [needsUpdate, changedTo, htype, hinverse] at hsame
      exact ⟨exist, hexist, hsame.1.2.symm, hsame.1.1.2.symm, hsame.2.symm, hexistJunction⟩

theorem idsUnique_foldl_processRelation :
    ∀ (entries : List RelationEntry) {rows : List Record}, IdsUnique rows →
      IdsUnique (entries.foldl (processRelation getJunctionTableName getForeignKeyColumnName ids)
        rows)
  | [], _, h => h
  | entry :: entries, _, h =>
      idsUnique_foldl_processRelation entries (idsUnique_processRelation _ _ ids h entry)

/-- What every step of the loop keeps of one relation's rows holds after the loop. -/
theorem relationRows_foldl_processRelation_keeps {tableId propertyName : Value}
    (keeps : List Record → Prop) :
    ∀ (entries : List RelationEntry) {rows : List Record}, IdsUnique rows →
      (∀ e ∈ entries, ∀ rows, IdsUnique rows → keeps (relationRows rows tableId propertyName) →
        keeps (relationRows (processRelation getJunctionTableName getForeignKeyColumnName ids rows
          e) tableId propertyName)) →
      keeps (relationRows rows tableId propertyName) →
      keeps (relationRows (entries.foldl (processRelation getJunctionTableName
        getForeignKeyColumnName ids) rows) tableId propertyName)
  | [], _, _, _, h => h
  | e :: entries, rows, hids, hstep, h =>
      relationRows_foldl_processRelation_keeps keeps entries
        (idsUnique_processRelation _ _ ids hids e)
        (fun e' he' => hstep e' (List.mem_cons_of_mem _ he'))
        (hstep e (List.mem_cons_self _ _) rows hids h)

/-- The loop over entries among which `entry` writes its key, every entry of that key writing
one junction: from no row, or one row that names the junction, it leaves one row, the
many-to-many row the entries describe. -/
theorem relationRows_foldl_processRelation_writes {rows : List Record} (hids : IdsUnique rows)
    (before after : List RelationEntry) (entry : RelationEntry) {target : String}
    {targetId inverse : Value} {junction : Value × Value × Value}
    (htarget : tableIdOf ids target = some targetId)
    (hwrites : ∀ e ∈ before ++ entry :: after, e.tableId = entry.tableId ∧
      column e.relation "propertyName" = column entry.relation "propertyName" →
        WritesJunction getJunctionTableName getForeignKeyColumnName target inverse junction e)
    (hprior : PriorJunction junction
      (relationRows rows entry.tableId (column entry.relation "propertyName"))) :
    ∃ row, relationRows ((before ++ entry :: after).foldl
        (processRelation getJunctionTableName getForeignKeyColumnName ids) rows)
        entry.tableId (column entry.relation "propertyName") = [row] ∧
      JunctionRow inverse targetId junction row := by
  -- a step writes the row, or leaves the relation's rows as they were
  have hstep : ∀ e ∈ before ++ entry :: after, ∀ rows,
      IdsUnique rows → PriorJunction junction
        (relationRows rows entry.tableId (column entry.relation "propertyName")) →
      (∃ row, relationRows (processRelation getJunctionTableName getForeignKeyColumnName ids rows
          e) entry.tableId (column entry.relation "propertyName") = [row] ∧
        JunctionRow inverse targetId junction row) ∨
      relationRows (processRelation getJunctionTableName getForeignKeyColumnName ids rows e)
          entry.tableId (column entry.relation "propertyName") =
        relationRows rows entry.tableId (column entry.relation "propertyName") := by
    intro e he rows hids hprior
    by_cases hkey : e.tableId = entry.tableId ∧
        column e.relation "propertyName" = column entry.relation "propertyName"
    · obtain ⟨htable, hname⟩ := hkey
      rw [← htable, ← hname] at hprior ⊢
      exact .inl (relationRows_processRelation_writes _ _ ids htarget
        (hwrites e he ⟨htable, hname⟩) hprior)
    · exact .inr (relationRows_processRelation_of_ne _ _ ids hids hkey)
  have hprior_of_row : ∀ l : List Record,
      (∃ row, l = [row] ∧ JunctionRow inverse targetId junction row) →
        PriorJunction junction l := fun _ ⟨row, hl, hrow⟩ => .inr ⟨row, hl, hrow.2.2.2⟩
  have hids₁ := idsUnique_foldl_processRelation getJunctionTableName getForeignKeyColumnName ids
    before hids
  have hbefore := relationRows_foldl_processRelation_keeps _ _ ids (PriorJunction junction)
    before hids (fun e he rows hids h => (hstep e (List.mem_append_left _ he) rows hids h).elim
      (hprior_of_row _) (· ▸ h)) hprior
  rw [List.foldl_append, List.foldl_cons]
  exact relationRows_foldl_processRelation_keeps _ _ ids
    (fun l => ∃ row, l = [row] ∧ JunctionRow inverse targetId junction row) after
    (idsUnique_processRelation _ _ ids hids₁ entry)
    (fun e he rows hids ⟨row, hl, hrow⟩ =>
      (hstep e (by simp [he]) rows hids (hprior_of_row _ ⟨row, hl, hrow⟩)).elim id
        fun h => ⟨row, h.trans hl, hrow⟩)
    (relationRows_processRelation_writes _ _ ids htarget (hwrites entry (by simp) ⟨rfl, rfl⟩)
      hbefore)

end Naming

/-- A pair of neighbours in one image of a `flatMap` is a pair of neighbours of the whole. -/
theorem exists_flatMap_split {α β : Type} {f : α → List β} {l : List α} {a : α} (ha : a ∈ l)
    {X Y : List β} {b c : β} (hfa : f a = X ++ b :: c :: Y) :
    ∃ X' Y', l.flatMap f = X' ++ b :: c :: Y' := by
  obtain ⟨s, t, rfl⟩ := List.append_of_mem ha
  exact ⟨s.flatMap f ++ X, Y ++ t.flatMap f, by simp [hfa]⟩

section Naming

variable (getJunctionTableName : Value → Value → Value → Value)
  (getForeignKeyColumnName : Value → Value)

@[simp] theorem inverseRelation_propertyName (name : String) (rel : Record) :
    column (inverseRelation getJunctionTableName getForeignKeyColumnName name rel)
      "propertyName" = column rel "inversePropertyName" := by
  cases h : rel.get? "inversePropertyName"
  · simp [column, inverseRelation, Record.get?_append, h]
    split <;> rfl
  · simp [column, inverseRelation, Record.get?_append, h]

/-- A relation that passes the first pass's tests sits in `allRelationsToProcess` with its
inverse right after it. -/
theorem collectRelations_split {ids : Record} {snapshot : List (String × Record)}
    {A B : String} {definition R : Record} {idA idB : Value} (hA : (A, definition) ∈ snapshot)
    (hR : R ∈ objectsOf (definition.get? "relations"))
    (hidA : tableIdOf ids A = some idA)
    (htests : (truthyAt R "propertyName" && truthyAt R "targetTable" && truthyAt R "type") = true)
    (htarget : targetOf ids (column R "targetTable") = some (B, idB))
    (hinverse : truthyAt R "inversePropertyName" = true) :
    ∃ X Y, collectRelations getJunctionTableName getForeignKeyColumnName ids snapshot =
      X ++ ⟨A, idA, R⟩ ::
        ⟨B, idB, inverseRelation getJunctionTableName getForeignKeyColumnName A R⟩ :: Y := by
  have hentries : relationEntries getJunctionTableName getForeignKeyColumnName ids A idA R =
      [⟨A, idA, R⟩, ⟨B, idB, inverseRelation getJunctionTableName getForeignKeyColumnName A R⟩] := by
    simp [relationEntries, htests, htarget, hinverse]
  obtain ⟨X, Y, hinner⟩ := @exists_flatMap_split _ _ _ _ _ hR [] [] _ _ hentries
  unfold collectRelations
  exact exists_flatMap_split hA (by simp only [hidA]; exact hinner)

end Naming

/-! ### The clean-up -/

/-- Deletions by id keep the rows whose id none of them names. -/
theorem foldl_deleteById :
    ∀ (toRemove rows : List Record),
      toRemove.foldl (fun rows r => deleteById rows (column r "id")) rows =
        rows.filter fun row => toRemove.all fun r => column row "id" ≠ column r "id"
  | [], rows => by simp
  | r :: toRemove, rows => by
      rw [List.foldl_cons, foldl_deleteById toRemove, deleteById, List.filter_filter]
      simp only [List.all_cons, Bool.and_comm]

section Cleanup

variable {rows₀ : List Record} (hids : IdsUnique rows₀) {tableId propertyName : Value}
include hids

/-- Deleting, by id, rows of another relation leaves this relation's rows. -/
theorem relationRows_foldl_deleteById (toRemove : List Record) {rows : List Record}
    (hsub : rows.Sublist rows₀)
    (hremove : ∀ r ∈ toRemove, r ∈ rows₀ ∧
      ¬(column r "sourceTableId" = tableId ∧ column r "propertyName" = propertyName)) :
    relationRows (toRemove.foldl (fun rows row => deleteById rows (column row "id")) rows)
        tableId propertyName = relationRows rows tableId propertyName ∧
      (toRemove.foldl (fun rows row => deleteById rows (column row "id")) rows).Sublist rows := by
  rw [foldl_deleteById]
  refine ⟨?_, List.filter_sublist _⟩
  simp only [relationRows, List.filter_filter]
  refine List.filter_congr fun s hs => ?_
  by_cases hkey : column s "sourceTableId" = tableId ∧ column s "propertyName" = propertyName
  · have hkept : ∀ r ∈ toRemove, column s "id" ≠ column r "id" := fun r hr hid =>
      (hremove r hr).2 (hids.eq_of_id (hsub.subset hs) (hremove r hr).1 hid ▸ hkey)
    simpa [hkey] using hkept
  · simp [hkey]

/-- The clean-up of a table keeps the rows of a relation whose name it keeps. -/
theorem relationRows_cleanRelations (snapshot : List (String × Record)) (ids : Record)
    (entry : String × Record)
    (hkeep : tableIdOf ids entry.1 = some tableId →
      propertyName ∈ relationKeys snapshot entry.1 entry.2) :
    relationRows (cleanRelations snapshot ids rows₀ entry) tableId propertyName =
        relationRows rows₀ tableId propertyName ∧
      (cleanRelations snapshot ids rows₀ entry).Sublist rows₀ := by
  unfold cleanRelations
  split
  · rename_i tN htN
    refine relationRows_foldl_deleteById hids _ (List.Sublist.refl _) fun r hr => ?_
    simp only [rowsWhere, List.filter_filter, List.mem_filter, Bool.and_eq_true,
      decide_eq_true_eq] at hr
    obtain ⟨hr, hnot, hsource⟩ := hr
    refine ⟨hr, fun ⟨hkey, hprop⟩ => hnot ?_⟩
    rw [hprop]
    exact hkeep (htN.trans (congrArg some (hsource.symm.trans hkey)))
  · exact ⟨rfl, List.Sublist.refl _⟩

end Cleanup

/-- The clean-up keeps the rows of a relation whose name every table with its id keeps. -/
theorem relationRows_foldl_cleanRelations (snapshot : List (String × Record)) (ids : Record)
    {tableId propertyName : Value} :
    ∀ (entries : List (String × Record)) {rows : List Record}, IdsUnique rows →
      (∀ e ∈ entries, tableIdOf ids e.1 = some tableId →
        propertyName ∈ relationKeys snapshot e.1 e.2) →
      relationRows (entries.foldl (cleanRelations snapshot ids) rows) tableId propertyName =
        relationRows rows tableId propertyName
  | [], _, _, _ => rfl
  | entry :: entries, _, hids, hkeep => by
      obtain ⟨hstep, hsub⟩ := relationRows_cleanRelations hids snapshot ids entry
        (hkeep entry (List.mem_cons_self _ _))
      rw [List.foldl_cons, relationRows_foldl_cleanRelations snapshot ids entries
        (hids.sublist hsub) fun e he => hkeep e (List.mem_cons_of_mem _ he), hstep]

theorem mem_of_mem_cleanRelations {snapshot : List (String × Record)} {ids : Record}
    {rows : List Record} {entry : String × Record} {row : Record}
    (h : row ∈ cleanRelations snapshot ids rows entry) : row ∈ rows := by
  unfold cleanRelations at h
  split at h
  · rw [foldl_deleteById] at h
    exact (List.mem_filter.mp h).1
  · exact h

theorem mem_of_mem_foldl_cleanRelations {snapshot : List (String × Record)} {ids : Record}
    {row : Record} :
    ∀ {entries : List (String × Record)} {rows : List Record},
      row ∈ entries.foldl (cleanRelations snapshot ids) rows → row ∈ rows
  | [], _, h => h
  | _ :: _, _, h => mem_of_mem_cleanRelations (mem_of_mem_foldl_cleanRelations h)

/-- After the clean-up of a table, every relation row of the table has a name the snapshot
declares or derives for it. -/
theorem cleanRelations_declared (snapshot : List (String × Record)) (ids : Record)
    (rows : List Record) {entry : String × Record} {tableId : Value}
    (hid : tableIdOf ids entry.1 = some tableId) :
    ∀ row ∈ cleanRelations snapshot ids rows entry, column row "sourceTableId" = tableId →
      column row "propertyName" ∈ relationKeys snapshot entry.1 entry.2 := by
  intro row hrow hsource
  simp only [cleanRelations, hid, foldl_deleteById, List.mem_filter, List.all_eq_true] at hrow
  by_contra hkey
  exact of_decide_eq_true (hrow.2 row (by simp [rowsWhere, hrow.1, hsource, hkey])) rfl

/-- The whole clean-up leaves every table of the snapshot only relation rows whose names the
snapshot declares or derives for it. -/
theorem foldl_cleanRelations_declared (snapshot : List (String × Record)) (ids : Record)
    {entry : String × Record} {tableId : Value} (hid : tableIdOf ids entry.1 = some tableId) :
    ∀ {entries : List (String × Record)} {rows : List Record}, entry ∈ entries →
      ∀ row ∈ entries.foldl (cleanRelations snapshot ids) rows,
        column row "sourceTableId" = tableId →
          column row "propertyName" ∈ relationKeys snapshot entry.1 entry.2
  | e :: entries, rows, hentry, row, hrow, hsource => by
      rw [List.foldl_cons] at hrow
      rcases List.mem_cons.mp hentry with rfl | hentry
      · exact cleanRelations_declared snapshot ids rows hid row
          (mem_of_mem_foldl_cleanRelations hrow) hsource
      · exact foldl_cleanRelations_declared snapshot ids hid hentry row hrow hsource

/-- The clean-up of a table keeps the name of each of its own relations. -/
theorem mem_relationKeys_of_relation (snapshot : List (String × Record)) {name p : String}
    {definition R : Record} (hR : R ∈ objectsOf (definition.get? "relations"))
    (hp : R.get? "propertyName" = some (.str p)) (hpne : p ≠ "") :
    Value.str p ∈ relationKeys snapshot name definition := by
  simp only [relationKeys, List.mem_append, List.mem_map, List.mem_filter]
  exact .inl ⟨R, ⟨hR, by simp [truthyAt, hp, Value.truthy, hpne]⟩, by simp [column, hp]⟩

/-- The clean-up of a table keeps the inverse name of each relation that targets it. -/
theorem mem_relationKeys_of_inverse {snapshot : List (String × Record)} {A B q : String}
    {definition R : Record} (hA : (A, definition) ∈ snapshot)
    (hR : R ∈ objectsOf (definition.get? "relations"))
    (htarget : R.get? "targetTable" = some (.str B))
    (hq : R.get? "inversePropertyName" = some (.str q)) (hqne : q ≠ "") (definition' : Record) :
    Value.str q ∈ relationKeys snapshot B definition' := by
  simp only [relationKeys, List.mem_append, List.mem_flatMap, List.mem_filterMap]
  exact .inr ⟨(A, definition), hA, R, hR, by simp [truthyAt, Value.truthy, hqne, htarget, column, hq]⟩

/-! ### The junction of a relation and of its inverse -/

section Naming

variable (getJunctionTableName : Value → Value → Value → Value)
  (getForeignKeyColumnName : Value → Value)

theorem createInitMetadata_relationDefinition (snapshot : List (String × Record))
    (tables : MetadataTables) :
    (createInitMetadata getJunctionTableName getForeignKeyColumnName snapshot
      tables).relationDefinition =
      snapshot.foldl (cleanRelations snapshot (syncTables snapshot tables.tableDefinition).1)
        ((collectRelations getJunctionTableName getForeignKeyColumnName
          (syncTables snapshot tables.tableDefinition).1 snapshot).foldl
          (processRelation getJunctionTableName getForeignKeyColumnName
            (syncTables snapshot tables.tableDefinition).1) tables.relationDefinition) := rfl

/-- After the call, every relation row of a snapshot table has a name that the snapshot
declares for the table or derives for it as an inverse: no stale relation survives. -/
theorem createInitMetadata_relations_declared (snapshot : List (String × Record))
    (tables : MetadataTables) {entry : String × Record} (hentry : entry ∈ snapshot)
    {tableId : Value}
    (hid : tableIdOf (syncTables snapshot tables.tableDefinition).1 entry.1 = some tableId) :
    ∀ row ∈ (createInitMetadata getJunctionTableName getForeignKeyColumnName snapshot
        tables).relationDefinition, column row "sourceTableId" = tableId →
      column row "propertyName" ∈ relationKeys snapshot entry.1 entry.2 := by
  rw [createInitMetadata_relationDefinition]
  exact foldl_cleanRelations_declared snapshot _ hid hentry

end Naming

/-- Junction names after the spec's Scenario A, where `article.tags` goes through
`article_tags`; `naming-helpers` is not in the sources. -/
def junctionNameOf : Value → Value → Value → Value
  | .str source, .str property, _ => .str (source ++ "_" ++ property)
  | _, _, _ => .null

/-- Foreign-key column names after Scenario A: `articleId`, `tagId`. -/
def foreignKeyOf : Value → Value
  | .str table => .str (table ++ "Id")
  | _ => .null

/-- Scenario A's `article.tags`, with the inverse `tag.articles`. -/
def articleSnapshot : List (String × Record) :=
  [("article", [("name", .str "article"), ("relations", .arr [.obj [("propertyName", .str "tags"),
      ("type", .str "many-to-many"), ("targetTable", .str "tag"),
      ("inversePropertyName", .str "articles")]])]),
    ("tag", [("name", .str "tag")])]

/-- What a first call on Scenario A's snapshot leaves in an empty database. -/
def articleTables : MetadataTables :=
  createInitMetadata junctionNameOf foreignKeyOf articleSnapshot ⟨[], [], []⟩

/-- A self-referencing many-to-many relation, `user.friends` with the inverse `friendOf`. -/
def userSnapshot : List (String × Record) :=
  [("user", [("name", .str "user"), ("relations", .arr [.obj [("propertyName", .str "friends"),
    ("type", .str "many-to-many"), ("targetTable", .str "user"),
    ("inversePropertyName", .str "friendOf")]])])]

/-- `article.tags` naming its own junction table. -/
def linkedArticleSnapshot : List (String × Record) :=
  [("article", [("name", .str "article"), ("relations", .arr [.obj [("propertyName", .str "tags"),
      ("type", .str "many-to-many"), ("targetTable", .str "tag"),
      ("inversePropertyName", .str "articles"), ("junctionTableName", .str "article_tag_link")]])]),
    ("tag", [("name", .str "tag")])]

/-- A database where `article.tags` already has a row, with a junction table of its own. -/
def staleTables : MetadataTables :=
  ⟨[[("id", .num 1), ("name", .str "article")], [("id", .num 2), ("name", .str "tag")]], [],
    [[("id", .num 1), ("propertyName", .str "tags"), ("type", .str "many-to-many"),
      ("inversePropertyName", .str "articles"), ("sourceTableId", .num 1),
      ("targetTableId", .num 2), ("junctionTableName", .str "article_tag_link"),
      ("junctionSourceColumn", .str "articleId"), ("junctionTargetColumn", .str "tagId")]]⟩

/-- `article.tags`, and `tag.articles` declared as well, not nullable and with a junction
table of its own. -/
def taggedSnapshot : List (String × Record) :=
  [("article", [("name", .str "article"), ("relations", .arr [.obj [("propertyName", .str "tags"),
      ("type", .str "many-to-many"), ("targetTable", .str "tag"),
      ("inversePropertyName", .str "articles")]])]),
    ("tag", [("name", .str "tag"), ("relations", .arr [.obj [("propertyName", .str "articles"),
      ("type", .str "many-to-many"), ("targetTable", .str "article"),
      ("inversePropertyName", .str "tags"), ("isNullable", .bool false),
      ("junctionTableName", .str "tag_article")]])])]

/-- A relation row's name and junction. -/
def junctionOf (row : Record) : Value × Value × Value × Value :=
  (column row "propertyName", column row "junctionTableName", column row "junctionSourceColumn",
    column row "junctionTargetColumn")

end Enfyra.CoreInitSqlService
