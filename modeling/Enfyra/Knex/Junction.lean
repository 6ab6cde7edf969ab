import Mathlib.Data.List.Nodup
import Enfyra.Db
import Enfyra.Knex.Transform

/-!
`KnexService.syncManyToManyRelations`: for every many-to-many relation of the table whose
key the payload carries, it deletes the junction rows of the owner and inserts one row
per id of the payload's list. Both statements go through the raw knex instance, outside
any transaction, one relation after the other.

The main result describes the whole sync for any prior junction state: the rows of the
owner in a synced junction table are exactly the payload's ids in order (duplicates
included), no other row changes, and a second sync with the same payload changes
nothing. It needs the relations of the table to use distinct junction tables, each with
two distinct columns, and the payload's lists to hold no `null`: `typeof null` is
`'object'`, so `item.id` throws on a `null` element before the `!= null` filter runs.
-/

namespace Enfyra.KnexService

variable (env : Env)

/-- `knex(table).where(column, value).delete()`. -/
def deleteWhere (table column : String) (value : Value) : Action Unit :=
  Action.modify fun db => db.update table ((db.rows table).filter (fun row => row.get? column ≠ some value))

/-- `knex(table).insert(rows)`. -/
def insertRows (table : String) (rows : List Record) : Action Unit :=
  Action.modify fun db => db.update table (db.rows table ++ rows)

/-- `typeof item === 'object' ? item.id : item`. -/
def itemId (item : Value) : Except Err (Option Value) :=
  if item.isObject then item.member "id" else .ok (some item)

/-- The ids a relation value carries: the `map` and the `filter(id => id != null)` of an
array, nothing for any other value. -/
def newIds (value : Option Value) : Except Err (List Value) :=
  match value with
  | some (.arr items) => do
      let ids ← items.mapM itemId
      pure ((ids.filterMap id).filter (· ≠ .null))
  | _ => .ok []

/-- `{ [sourceColumn]: data.id, [targetColumn]: targetId }`. -/
def junctionRow (sourceColumn targetColumn : String) (owner target : Value) : Record :=
  Record.set (Record.set [] sourceColumn owner) targetColumn target

/-- One pass of the loop of `syncManyToManyRelations`. -/
def syncRelation (data : Record) (owner : Value) (relation : RelationMeta) : Action Unit :=
  if relation.type = .manyToMany ∧ data.has relation.propertyName then
    match relation.junction? with
    | some (junctionTable, sourceColumn, targetColumn) => do
        let ids ← Action.ofExcept (newIds (data.get? relation.propertyName))
        deleteWhere junctionTable sourceColumn owner
        if ids ≠ [] then
          insertRows junctionTable (ids.map (junctionRow sourceColumn targetColumn owner))
    | none => pure ()
  else pure ()

def syncManyToManyRelations (tableName : String) (data : Value) : Action Unit := do
  if tableName = "" then return
  let id? ← Action.ofExcept (data.member "id")
  match data, id? with
  | .obj fields, some owner =>
      if owner.truthy then
        match env.metadata.lookup tableName with
        | some table => table.relations.forM (syncRelation fields owner)
        | none => pure ()
      else pure ()
  | _, _ => pure ()

/-! ### The sync as a function of the prior junction state -/

/-- `typeof item === 'object' ? item.id : item` on an item that is not `null`. -/
def idOf : Value → Option Value
  | .obj fs => Record.get? fs "id"
  | .bool b => some (.bool b)
  | .num n => some (.num n)
  | .str s => some (.str s)
  | _ => none

/-- The ids a list of the payload carries once the `!= null` filter has run. -/
def payloadIds (items : List Value) : List Value :=
  (items.filterMap idOf).filter (· ≠ .null)

/-- The ids of a relation key's value: those of an array, none for any other value. -/
def payloadIdsOf : Option Value → List Value
  | some (.arr items) => payloadIds items
  | _ => []

/-- The junction table and columns the loop syncs for a relation, if it syncs one. -/
def activeJunction (data : Record) (relation : RelationMeta) : Option (String × String × String) :=
  if relation.type = .manyToMany ∧ data.has relation.propertyName then relation.junction? else none

/-- A junction table after one relation's delete-then-insert. -/
def syncedRows (rows : List Record) (sourceColumn targetColumn : String) (owner : Value)
    (ids : List Value) : List Record :=
  rows.filter (fun row => row.get? sourceColumn ≠ some owner) ++
    ids.map (junctionRow sourceColumn targetColumn owner)

/-- The database after one pass of the loop, when the pass does not throw. -/
def syncEffect (data : Record) (owner : Value) (db : Db) (relation : RelationMeta) : Db :=
  match activeJunction data relation with
  | some (junctionTable, sourceColumn, targetColumn) =>
      db.update junctionTable (syncedRows (db.rows junctionTable) sourceColumn targetColumn
        owner (payloadIdsOf (data.get? relation.propertyName)))
  | none => db

/-- The payload holds no `null` inside the list of the relation's key. -/
def noNullItems (data : Record) (relation : RelationMeta) : Bool :=
  match data.get? relation.propertyName with
  | some (.arr items) => !items.contains .null
  | _ => true

theorem not_mem_of_noNullItems {data : Record} {relation : RelationMeta}
    (h : noNullItems data relation = true) {items : List Value}
    (hitems : data.get? relation.propertyName = some (.arr items)) : Value.null ∉ items := by
  simpa [noNullItems, hitems] using h

theorem itemId_eq (item : Value) :
    itemId item = if item = .null then .error (.readOfNull "id") else .ok (idOf item) := by
  cases item <;> rfl

theorem mapM_itemId {items : List Value} (h : Value.null ∉ items) :
    items.mapM itemId = .ok (items.map idOf) := by
  induction items with
  | nil => rfl
  | cons item rest ih =>
      rw [List.mem_cons, not_or] at h
      rw [List.mapM_cons, ih h.2, itemId_eq, if_neg (Ne.symm h.1)]
      rfl

theorem newIds_eq {data : Record} {relation : RelationMeta} (h : noNullItems data relation = true) :
    newIds (data.get? relation.propertyName) = .ok (payloadIdsOf (data.get? relation.propertyName)) := by
  cases hv : data.get? relation.propertyName with
  | none => rfl
  | some v =>
      cases v with
      | arr items =>
          simp only [newIds, mapM_itemId (not_mem_of_noNullItems h hv), payloadIdsOf, payloadIds]
          change Except.ok (((items.map idOf).filterMap id).filter _) = _
          rw [List.filterMap_map]
          rfl
      | _ => rfl

/-- One pass of the loop, run against any database, when the list of a many-to-many
relation with a junction holds no `null`. -/
theorem syncRelation_run {data : Record} {relation : RelationMeta} (owner : Value)
    (h : relation.type = .manyToMany → relation.junction?.isSome = true →
      noNullItems data relation = true) (db : Db) :
    (syncRelation data owner relation).run db = (.ok (), syncEffect data owner db relation) := by
  unfold syncRelation syncEffect activeJunction
  split
  · rename_i hactive
    split
    · rename_i j s t hj
      simp only [hj, newIds_eq (h hactive.1 (by simp [hj])), Action.run_bind, Action.run_ofExcept_ok, deleteWhere,
        insertRows, Action.run_modify]
      split
      · simp [syncedRows, Db.update, Function.update_idem]
      · rename_i hids
        simp_all [syncedRows]
    · simp_all
  · simp_all

/-- The whole loop, when no list holds `null`, is the fold of the passes. -/
theorem forM_syncRelation_run {data : Record} (owner : Value) :
    ∀ (relations : List RelationMeta), (∀ r ∈ relations, r.type = .manyToMany →
      r.junction?.isSome = true → noNullItems data r = true) → ∀ db,
      (relations.forM (syncRelation data owner)).run db =
        (.ok (), relations.foldl (syncEffect data owner) db)
  | [], _, _ => rfl
  | r :: rest, h, db => by
      simp only [List.forM_cons', Action.run_bind,
        syncRelation_run owner (h r (List.mem_cons_self _ _))]
      exact forM_syncRelation_run owner rest (fun r' hr' => h r' (List.mem_cons_of_mem _ hr')) _

/-- The junction table a many-to-many relation of the table declares. -/
def junctionTableOf (relation : RelationMeta) : Option String :=
  if relation.type = .manyToMany then relation.junction?.map (·.1) else none

/-- The source and target columns of a declared junction differ. -/
def junctionColumnsDistinct (relation : RelationMeta) : Bool :=
  match relation.junction? with
  | some (_, sourceColumn, targetColumn) => sourceColumn != targetColumn
  | none => true

/-- What the sync theorem needs of the table: its many-to-many relations declare pairwise
distinct junction tables, each with two distinct columns. -/
structure JunctionsDistinct (table : TableMetadata) : Prop where
  tables_nodup : (table.relations.filterMap junctionTableOf).Nodup
  columns_distinct : ∀ r ∈ table.relations, junctionColumnsDistinct r = true

theorem JunctionsDistinct.columns_ne {table : TableMetadata} (h : JunctionsDistinct table)
    {r : RelationMeta} (hr : r ∈ table.relations) {j s t : String}
    (hj : r.junction? = some (j, s, t)) : s ≠ t := by
  simpa [junctionColumnsDistinct, hj] using h.columns_distinct r hr

theorem junctionTableOf_of_active {data : Record} {relation : RelationMeta} {j s t : String}
    (h : activeJunction data relation = some (j, s, t)) : junctionTableOf relation = some j := by
  unfold activeJunction at h
  split at h
  · rename_i hc
    simp [junctionTableOf, hc.1, h]
  · cases h

theorem syncEffect_of_active {data : Record} {owner : Value} (db : Db)
    {relation : RelationMeta} {j s t : String} (h : activeJunction data relation = some (j, s, t)) :
    syncEffect data owner db relation = db.update j (syncedRows (db.rows j) s t owner
      (payloadIdsOf (data.get? relation.propertyName))) := by
  simp [syncEffect, h]

theorem syncEffect_of_inactive {data : Record} {owner : Value} (db : Db)
    {relation : RelationMeta} (h : activeJunction data relation = none) :
    syncEffect data owner db relation = db := by
  simp [syncEffect, h]

theorem activeJunction_columns {data : Record} {relation : RelationMeta} {j s t : String}
    (h : activeJunction data relation = some (j, s, t)) : relation.junction? = some (j, s, t) := by
  unfold activeJunction at h
  split at h
  · exact h
  · cases h

theorem syncEffect_rows_of_ne {data : Record} {owner : Value} (db : Db) {relation : RelationMeta}
    {table : String} (h : junctionTableOf relation ≠ some table) :
    (syncEffect data owner db relation).rows table = db.rows table := by
  unfold syncEffect
  split
  · rename_i j s t hj
    have hne : table ≠ j := fun e => h (e ▸ junctionTableOf_of_active hj)
    simp [hne]
  · rfl

/-- A table that no relation of the loop syncs is left as it was. -/
theorem foldl_syncEffect_rows_of_forall {data : Record} {owner : Value} {table : String} :
    ∀ (relations : List RelationMeta), (∀ r ∈ relations, junctionTableOf r ≠ some table) →
      ∀ db, (relations.foldl (syncEffect data owner) db).rows table = db.rows table
  | [], _, _ => rfl
  | r :: rest, h, db => by
      rw [List.foldl_cons, foldl_syncEffect_rows_of_forall rest
        (fun r' hr' => h r' (List.mem_cons_of_mem _ hr')),
        syncEffect_rows_of_ne db (h r (List.mem_cons_self _ _))]

/-- A junction table holds what the pass of its own relation wrote: the other passes of
the loop write other tables. -/
theorem foldl_syncEffect_rows_of_mem {data : Record} {owner : Value}
    {relations : List RelationMeta} (hnodup : (relations.filterMap junctionTableOf).Nodup)
    {relation : RelationMeta} (hmem : relation ∈ relations) {j : String}
    (hj : junctionTableOf relation = some j) (db : Db) :
    (relations.foldl (syncEffect data owner) db).rows j =
      (syncEffect data owner db relation).rows j := by
  obtain ⟨pre, post, rfl⟩ := List.append_of_mem hmem
  rw [List.filterMap_append, List.filterMap_cons_some hj, List.nodup_append] at hnodup
  have hpre : ∀ r ∈ pre, junctionTableOf r ≠ some j := fun r hr e =>
    hnodup.2.2 (List.mem_filterMap.mpr ⟨r, hr, e⟩) (List.mem_cons_self _ _)
  have hpost : ∀ r ∈ post, junctionTableOf r ≠ some j := fun r hr e =>
    (List.nodup_cons.mp hnodup.2.1).1 (List.mem_filterMap.mpr ⟨r, hr, e⟩)
  rw [List.foldl_append, List.foldl_cons, foldl_syncEffect_rows_of_forall post hpost]
  cases hactive : activeJunction data relation with
  | none =>
      rw [syncEffect_of_inactive _ hactive, syncEffect_of_inactive _ hactive]
      exact foldl_syncEffect_rows_of_forall pre hpre db
  | some jst =>
      obtain ⟨j', s, t⟩ := jst
      obtain rfl : j' = j := Option.some.inj ((junctionTableOf_of_active hactive).symm.trans hj)
      rw [syncEffect_of_active _ hactive, syncEffect_of_active _ hactive]
      simp only [Db.update_rows_self]
      rw [foldl_syncEffect_rows_of_forall pre hpre]

theorem junctionRow_source {sourceColumn targetColumn : String} (h : sourceColumn ≠ targetColumn)
    (owner target : Value) : (junctionRow sourceColumn targetColumn owner target).get? sourceColumn = some owner := by
  simp [junctionRow, h]

theorem syncedRows_owner {rows : List Record} {sourceColumn targetColumn : String}
    (h : sourceColumn ≠ targetColumn) (owner : Value) (ids : List Value) :
    (syncedRows rows sourceColumn targetColumn owner ids).filter
        (fun row => row.get? sourceColumn = some owner) =
      ids.map (junctionRow sourceColumn targetColumn owner) := by
  simp [syncedRows, List.filter_append, junctionRow_source h, List.filter_map, Function.comp_def,
    List.filter_eq_nil_iff]

theorem syncedRows_others {rows : List Record} {sourceColumn targetColumn : String}
    (h : sourceColumn ≠ targetColumn) (owner : Value) (ids : List Value) :
    (syncedRows rows sourceColumn targetColumn owner ids).filter
        (fun row => row.get? sourceColumn ≠ some owner) =
      rows.filter (fun row => row.get? sourceColumn ≠ some owner) := by
  simp [syncedRows, List.filter_append, junctionRow_source h, List.filter_map, Function.comp_def,
    List.filter_filter]

theorem syncedRows_idem {rows : List Record} {sourceColumn targetColumn : String}
    (h : sourceColumn ≠ targetColumn) (owner : Value) (ids : List Value) :
    syncedRows (syncedRows rows sourceColumn targetColumn owner ids) sourceColumn targetColumn
      owner ids = syncedRows rows sourceColumn targetColumn owner ids := by
  rw [syncedRows, syncedRows_others h, syncedRows]

theorem activeJunction_of_has {data : Record} {relation : RelationMeta} {j s t : String}
    (hm2m : relation.type = .manyToMany) (hj : relation.junction? = some (j, s, t))
    (hhas : data.has relation.propertyName = true) :
    activeJunction data relation = some (j, s, t) := by
  simp [activeJunction, hm2m, hj, hhas]

theorem junctionTableOf_eq {relation : RelationMeta} {j s t : String}
    (hm2m : relation.type = .manyToMany) (hj : relation.junction? = some (j, s, t)) :
    junctionTableOf relation = some j := by
  simp [junctionTableOf, hm2m, hj]

theorem syncManyToManyRelations_run {tableName : String} {table : TableMetadata}
    {fields : Record} {owner : Value} (hname : tableName ≠ "")
    (hlookup : env.metadata.lookup tableName = some table)
    (hid : fields.get? "id" = some owner) (htruthy : owner.truthy = true) (db : Db) :
    (syncManyToManyRelations env tableName (.obj fields)).run db =
      (table.relations.forM (syncRelation fields owner)).run db := by
  simp [syncManyToManyRelations, hname, hid, htruthy, hlookup]

/-- The sync replaces the owner's rows of every junction table whose key the payload carries
with one row per id of its list, in order and with repetitions; it leaves the junction
tables of absent keys, every row of another owner and every other table as they were; and
running it again from the state it reached changes nothing. -/
theorem syncManyToManyRelations_replaces {tableName : String} {table : TableMetadata}
    {fields : Record} {owner : Value} (hname : tableName ≠ "")
    (hlookup : env.metadata.lookup tableName = some table) (hwf : JunctionsDistinct table)
    (hid : fields.get? "id" = some owner) (htruthy : owner.truthy = true)
    (hnull : ∀ r ∈ table.relations, r.type = .manyToMany → r.junction?.isSome = true →
      noNullItems fields r = true) (db : Db) :
    let synced := (syncManyToManyRelations env tableName (.obj fields)).run db
    synced.1 = .ok () ∧
    (∀ r ∈ table.relations, ∀ j s t, r.type = .manyToMany → r.junction? = some (j, s, t) →
      ∀ items, fields.get? r.propertyName = some (.arr items) →
        (synced.2.rows j).filter (fun row => row.get? s = some owner) =
          (payloadIds items).map (junctionRow s t owner)) ∧
    (∀ r ∈ table.relations, ∀ j s t, r.type = .manyToMany → r.junction? = some (j, s, t) →
      fields.has r.propertyName = false → synced.2.rows j = db.rows j) ∧
    (∀ r ∈ table.relations, ∀ j s t, r.type = .manyToMany → r.junction? = some (j, s, t) →
      (synced.2.rows j).filter (fun row => row.get? s ≠ some owner) =
        (db.rows j).filter (fun row => row.get? s ≠ some owner)) ∧
    (∀ other, other ∉ table.relations.filterMap junctionTableOf →
      synced.2.rows other = db.rows other) ∧
    ((syncManyToManyRelations env tableName (.obj fields)).run synced.2).2 = synced.2 := by
  intro synced
  have hrun : ∀ db', (syncManyToManyRelations env tableName (.obj fields)).run db' =
      (.ok (), table.relations.foldl (syncEffect fields owner) db') := fun db' => by
    rw [syncManyToManyRelations_run env hname hlookup hid htruthy,
      forM_syncRelation_run owner _ hnull]
  have hsynced : synced = (.ok (), table.relations.foldl (syncEffect fields owner) db) := hrun db
  have hrow : ∀ r ∈ table.relations, ∀ j, junctionTableOf r = some j → ∀ db',
      (table.relations.foldl (syncEffect fields owner) db').rows j =
        (syncEffect fields owner db' r).rows j := fun r hr j hj db' =>
    foldl_syncEffect_rows_of_mem hwf.tables_nodup hr hj db'
  refine ⟨by rw [hsynced], ?owner, ?absent, ?others, ?frame, ?again⟩
  case owner =>
    intro r hr j s t hm2m hj items hitems
    have hhas : fields.has r.propertyName = true := by simp [Record.has, hitems]
    rw [hsynced, hrow r hr j (junctionTableOf_eq hm2m hj),
      syncEffect, activeJunction_of_has hm2m hj hhas]
    simp only [Db.update_rows_self, hitems, payloadIdsOf]
    exact syncedRows_owner (hwf.columns_ne hr hj) owner _
  case absent =>
    intro r hr j s t hm2m hj hhas
    rw [hsynced, hrow r hr j (junctionTableOf_eq hm2m hj)]
    simp [syncEffect, activeJunction, hhas]
  case others =>
    intro r hr j s t hm2m hj
    rw [hsynced, hrow r hr j (junctionTableOf_eq hm2m hj)]
    cases hactive : activeJunction fields r with
    | none => rw [syncEffect_of_inactive _ hactive]
    | some jst =>
        obtain ⟨j', s', t'⟩ := jst
        obtain ⟨rfl, rfl, rfl⟩ : j = j' ∧ s = s' ∧ t = t' := by
          simpa [hj] using activeJunction_columns hactive
        rw [syncEffect_of_active _ hactive, Db.update_rows_self]
        exact syncedRows_others (hwf.columns_ne hr hj) owner _
  case frame =>
    intro other hother
    rw [hsynced]
    exact foldl_syncEffect_rows_of_forall _
      (fun r hr e => hother (List.mem_filterMap.mpr ⟨r, hr, e⟩)) db
  case again =>
    rw [hsynced, hrun]
    apply Db.ext
    intro other
    dsimp only
    by_cases hother : other ∈ table.relations.filterMap junctionTableOf
    · obtain ⟨r, hr, hj⟩ := List.mem_filterMap.mp hother
      have hfirst := hrow r hr other hj db
      rw [hrow r hr other hj]
      cases hactive : activeJunction fields r with
      | none => rw [syncEffect_of_inactive _ hactive]
      | some jst =>
          obtain ⟨j, s, t⟩ := jst
          obtain rfl : j = other :=
            Option.some.inj ((junctionTableOf_of_active hactive).symm.trans hj)
          rw [syncEffect_of_active _ hactive, Db.update_rows_self, hfirst,
            syncEffect_of_active _ hactive, Db.update_rows_self]
          exact syncedRows_idem (hwf.columns_ne hr (activeJunction_columns hactive)) owner _
    · have hnot : ∀ r ∈ table.relations, junctionTableOf r ≠ some other :=
        fun r hr e => hother (List.mem_filterMap.mpr ⟨r, hr, e⟩)
      rw [foldl_syncEffect_rows_of_forall _ hnot]

/-- The sync on the example table, for an article whose payload lists its tags as
objects. -/
theorem syncManyToManyRelations_replaces_article :
    ((syncManyToManyRelations articleEnv "article"
      (.obj [("id", .num 1), ("tags", .arr [.obj [("id", .num 1)], .obj [("id", .num 2)]])])).run
        ⟨fun _ => []⟩).1 = .ok () :=
  (@syncManyToManyRelations_replaces articleEnv "article" articleTable
    [("id", .num 1), ("tags", .arr [.obj [("id", .num 1)], .obj [("id", .num 2)]])] (.num 1)
    (by decide) rfl ⟨by decide, by decide⟩ rfl rfl (by decide) ⟨fun _ => []⟩).1

/-- A repeated id gives two identical junction rows, not one row per distinct id. -/
theorem syncManyToManyRelations_repeated_id :
    ¬ List.Perm
      ((((syncManyToManyRelations articleEnv "article"
        (.obj [("id", .num 1), ("tags", .arr [.num 2, .num 2])])).run ⟨fun _ => []⟩).2.rows
          "article_tags").filter (fun row => row.get? "articleId" = some (.num 1)))
      ((payloadIds [.num 2, .num 2]).dedup.map (junctionRow "articleId" "tagId" (.num 1))) := by
  decide

end Enfyra.KnexService
