import Enfyra.Query.SelectLegacy
import Enfyra.Knex.Update

/-!
The entry points of `QueryBuilderService` around its executors, on SQL: the branch of
`sqlExecutor` that builds the `WHERE`, `insert` with the `insertWithCascade` of
`KnexService` it calls, and the helpers by `id` (`findById`, `insertAndGet`, `updateById`,
`deleteById`).

`sqlExecutor` converts a filter without logical operators into `WhereCondition`s, as
`mongoExecutor` does, and keeps `applyWhereToKnex` for them; but it first sends every filter
with a key, or with logical operators, to `buildWhereClause` or `applyRelationFilters`, and a
filter with no key converts to no condition. So `applyWhereToKnex` never runs from
`sqlExecutor`, and the SQL side of the comparison of the two compilers of `WhereCondition`s
is reached only through `update`, `delete` and `count`.

`relationHandler.insertWithCascade`, which stores a record with its relations, is not in the
sources and is a parameter; as for updates, the metadata is always loaded, so the fallback to
a plain insert is not modelled. Where a result needs to know what the handler writes, its
contract is `AppendsWithId`: it appends the record it is handed under the `id` it resolves
to. `where('id', undefined)` is refused by knex before it runs.

The results: an array insert appends the stamped records in order and resolves to their
`id`s; under a fresh truthy `id`, `insertAndGet` resolves to the row it appended, and
`deleteById` of that `id` gives the database back and reports one row.
-/

namespace Enfyra

namespace QueryBuilderService

/-! ### The `WHERE` of `sqlExecutor` -/

/-- The metadata tables, whose filters skip relation filtering. -/
def systemTables : List String :=
  ["table_definition", "column_definition", "relation_definition", "method_definition"]

/-- What builds the `WHERE` of `sqlExecutor`. -/
inductive WhereSource where
  /-- `applyRelationFilters`, for a filter that uses a relation of the table. -/
  | relationFilters
  /-- `buildWhereClause`. -/
  | buildWhereClause
  /-- `applyWhereToKnex` on the converted conditions, prefixed with the table. -/
  | applyWhereToKnex (conditions : List WhereCondition)
  /-- No `WHERE`. -/
  | none
  deriving DecidableEq, Repr

/-- `else if (queryOptions.where && queryOptions.where.length > 0)`. -/
def legacyWhere : Option (List WhereCondition) → WhereSource
  | some conditions => if conditions ≠ [] then .applyWhereToKnex conditions else .none
  | none => .none

/-- The branch of `sqlExecutor` that builds the `WHERE`. `usesRelations` is what the table's
metadata and `separateFilters` (not in the sources) report: the table has relations and the
filter uses one. -/
def whereSource (hasLogicalOperators : Record → Bool) (usesRelations : Bool) (table : String)
    (filter : Option Record) : WhereSource :=
  let whereConditions := (whereOf hasLogicalOperators filter).map (·.map (qualify table))
  match filter with
  | some originalFilter =>
    if hasLogicalOperators originalFilter || !originalFilter.isEmpty then
      if table ∉ systemTables && usesRelations then .relationFilters else .buildWhereClause
    else legacyWhere whereConditions
  | none => legacyWhere whereConditions

/-- `sqlExecutor` never runs `applyWhereToKnex`: a filter that converts to a condition has a
key, and a filter with a key goes to `buildWhereClause` or `applyRelationFilters`. -/
theorem whereSource_ne_applyWhereToKnex (hasLogicalOperators : Record → Bool)
    (usesRelations : Bool) (table : String) (filter : Option Record)
    (conditions : List WhereCondition) :
    whereSource hasLogicalOperators usesRelations table filter ≠
      .applyWhereToKnex conditions := by
  cases filter with
  | none => simp [whereSource, whereOf, legacyWhere]
  | some originalFilter =>
    simp only [whereSource]
    by_cases hbranch : (hasLogicalOperators originalFilter || !originalFilter.isEmpty) = true
    · rw [if_pos hbranch]
      split_ifs <;> simp
    · rw [if_neg hbranch]
      simp only [Bool.or_eq_true, Bool.not_eq_true', not_or, Bool.not_eq_false,
        List.isEmpty_iff] at hbranch
      obtain ⟨hlogical, rfl⟩ := hbranch
      simp [whereOf, hlogical, filterConditions, legacyWhere]

/-! ### The `ORDER BY` of `sqlExecutor` -/

/-- `mainTableSorts`: the sort fields without a dot, prefixed with the table. A field with a
dot is a relation sort, which goes to `expandFieldsSql` only. -/
def mainTableSorts (table : String) (sort : List SortOption) : List SortOption :=
  (sort.filter fun option => !option.field.toList.contains '.').map fun option =>
    { option with field := table ++ "." ++ option.field }

/-- The `orderBy` calls of `sqlExecutor`: `queryOptions.sort` is `mainTableSorts`, and a field
without a dot is prefixed with the table there once more. -/
def orderBy (table : String) (sort : List SortOption) : List SortOption :=
  (mainTableSorts table sort).map (qualifySort table)

theorem contains_dot_prefixed (table field : String) :
    (table ++ "." ++ field).toList.contains '.' = true := by
  simp [String.data_append]

/-- `sqlExecutor` orders by the sort fields without a dot, in their order, each prefixed with
the table once; a sort on a relation path is not in the main query's `ORDER BY`. -/
theorem orderBy_eq (table : String) (sort : List SortOption) :
    orderBy table sort = mainTableSorts table sort := by
  rw [orderBy, mainTableSorts, List.map_map]
  congr 1
  funext option
  exact if_pos (contains_dot_prefixed table option.field)

end QueryBuilderService

/-! ### Inserts and the helpers by `id` -/

namespace KnexService

/-- `if (data[key] === undefined) data[key] = value`: the object is changed in place, so a new
property goes last. -/
def setIfUndefined (data : Record) (key : String) (value : Value) : Record :=
  if data.get? key = none then data.set key value else data

theorem get?_setIfUndefined (data : Record) (key : String) (value : Value) (other : String) :
    (setIfUndefined data key value).get? other =
      if other = key then some ((data.get? key).getD value) else data.get? other := by
  unfold setIfUndefined
  by_cases hother : other = key
  · subst hother
    cases h : data.get? other <;> simp [h]
  · split_ifs <;> simp [hother]

/-- The timestamps `insertWithCascade` adds to a table that is not named like a junction table:
`createdAt`, then `updatedAt`, each `fn.now()` when the data lacks it. -/
def stampTimestamps (tableName : String) (data : Record) : Record :=
  if isJunctionName tableName then data else
    setIfUndefined (setIfUndefined data "createdAt" currentTimestamp) "updatedAt"
      currentTimestamp

/-- `insertWithCascade(tableName, data)`: the stamped data handed to
`relationHandler.insertWithCascade`. -/
def insertWithCascade (relationHandler : String → Record → Action Value) (tableName : String)
    (data : Record) : Action Value :=
  relationHandler tableName (stampTimestamps tableName data)

/-- A stamped record reads both timestamps, the data's own where it has them; every other
property is the data's. -/
theorem get?_stampTimestamps {tableName : String} (hname : isJunctionName tableName = false)
    (data : Record) (key : String) :
    (stampTimestamps tableName data).get? key =
      if key = "createdAt" ∨ key = "updatedAt" then some ((data.get? key).getD currentTimestamp)
      else data.get? key := by
  simp only [stampTimestamps, hname, Bool.false_eq_true, if_false, get?_setIfUndefined]
  by_cases hu : key = "updatedAt"
  · subst hu
    simp
  · by_cases hc : key = "createdAt" <;> simp [hu, hc]

/-- What `relationHandler.insertWithCascade` is taken to do on `table`: append the record it is
handed under the `id` it resolves to, `newId record db`. -/
def AppendsWithId (relationHandler : String → Record → Action Value) (table : String)
    (newId : Record → Db → Value) : Prop :=
  ∀ record db, (relationHandler table record).run db =
    (.ok (newId record db), db.update table (db.rows table ++ [record.set "id" (newId record db)]))

end KnexService

namespace Db

@[simp] theorem update_update (db : Db) (table : String) (rows rows' : List Record) :
    (db.update table rows).update table rows' = db.update table rows' :=
  ext fun other => by by_cases h : other = table <;> simp [update_rows, h]

@[simp] theorem update_self (db : Db) (table : String) : db.update table (db.rows table) = db :=
  ext fun other => by by_cases h : other = table <;> simp [update_rows, h]

end Db

namespace QueryBuilderService

open KnexService (stampTimestamps AppendsWithId)

/-- The data of `insert`: one record or an array of them. -/
inductive InsertData where
  | one (record : Record)
  | many (records : List Record)

/-- `insert({ table, data })` on SQL: `insertWithCascade` for each record, one after the
other, the results in order. -/
def insert (relationHandler : String → Record → Action Value) (table : String) :
    InsertData → Action Value
  | .one record => KnexService.insertWithCascade relationHandler table record
  | .many records => .arr <$> records.mapM (KnexService.insertWithCascade relationHandler table)

/-- `knex(table).where('id', id).first()`. -/
def findById (table : String) (id : Value) (db : Db) : Option Record :=
  (db.rows table).find? fun row => row.get? "id" = some id

/-- `insertAndGet(table, data)` on SQL: the insert, then the row read back by the `id` it
resolved to, or by the data's own `id` when that is falsy. Knex refuses an `undefined`
binding before the read runs. -/
def insertAndGet (relationHandler : String → Record → Action Value) (table : String)
    (data : Record) : Action (Option Record) := do
  let insertedId ← KnexService.insertWithCascade relationHandler table data
  match (if insertedId.truthy then some insertedId else data.get? "id") with
  | some recordId => ⟨fun db => (.ok (findById table recordId db), db)⟩
  | none => throw (.backend "Undefined binding(s) detected when compiling FIRST")

/-- `updateById(table, id, data)` on SQL: `KnexService.updateWithCascade`, then the row read
back by its `id`. -/
def updateById (relationHandler : String → Value → Record → Action Unit) (table : String)
    (id data : Value) : Action (Option Record) := do
  KnexService.updateWithCascade relationHandler table id data
  ⟨fun db => (.ok (findById table id db), db)⟩

/-- `deleteById(table, id)` on SQL: one `DELETE` of the rows with that `id` through the wrapped
builder, where `KnexService` registers no delete handler; it resolves to their number. -/
def deleteById (table : String) (id : Value) : Action Nat :=
  ⟨fun db => (.ok ((db.rows table).filter fun row => row.get? "id" = some id).length,
    db.update table ((db.rows table).filter fun row => row.get? "id" ≠ some id))⟩

section Inserts

variable {relationHandler : String → Record → Action Value} {table : String}
  {newId : Record → Db → Value}

/-- The row an insert of `data` appends. -/
def insertedRow (table : String) (newId : Record → Db → Value) (data : Record) (db : Db) :
    Record :=
  (stampTimestamps table data).set "id" (newId (stampTimestamps table data) db)

theorem insertWithCascade_run (hhandler : AppendsWithId relationHandler table newId)
    (data : Record) (db : Db) :
    (KnexService.insertWithCascade relationHandler table data).run db =
      (.ok (newId (stampTimestamps table data) db),
        db.update table (db.rows table ++ [insertedRow table newId data db])) :=
  hhandler _ db

/-- The loop of an array insert appends the stamped records in order, each under the `id` it
resolved to, and collects those `id`s. -/
theorem mapM_insertWithCascade (hhandler : AppendsWithId relationHandler table newId) :
    ∀ (records : List Record) (db : Db), ∃ ids : List Value, ids.length = records.length ∧
      (records.mapM (KnexService.insertWithCascade relationHandler table)).run db = (.ok ids,
        db.update table (db.rows table ++ List.zipWith
          (fun record id => (stampTimestamps table record).set "id" id) records ids))
  | [], db => ⟨[], rfl, by rw [List.mapM_nil]; simp⟩
  | record :: rest, db => by
    obtain ⟨ids, hlength, hrest⟩ := mapM_insertWithCascade hhandler rest
      (db.update table (db.rows table ++ [insertedRow table newId record db]))
    refine ⟨newId (stampTimestamps table record) db :: ids, by simp [hlength], ?_⟩
    rw [List.mapM_cons, Action.run_bind, insertWithCascade_run hhandler]
    simp only [Action.run_bind, hrest, Action.run_pure, Db.update_update, Db.update_rows_self]
    simp [insertedRow]

/-- An array insert resolves to the `id`s of its records, appended in order. -/
theorem insert_many (hhandler : AppendsWithId relationHandler table newId)
    (records : List Record) (db : Db) :
    ∃ ids : List Value, ids.length = records.length ∧
      (insert relationHandler table (.many records)).run db = (.ok (.arr ids),
        db.update table (db.rows table ++ List.zipWith
          (fun record id => (stampTimestamps table record).set "id" id) records ids)) := by
  obtain ⟨ids, hlength, hrun⟩ := mapM_insertWithCascade hhandler records db
  refine ⟨ids, hlength, ?_⟩
  rw [insert, ← bind_pure_comp, Action.run_bind, hrun]
  rfl

/-- A handler that appends under the next integer `id`, as an auto-increment key does. -/
def appendNext (table : String) (record : Record) : Action Value :=
  ⟨fun db => (.ok (.num ((db.rows table).length + 1)),
    db.update table (db.rows table ++ [record.set "id" (.num ((db.rows table).length + 1))]))⟩

/-- The `id` `appendNext` gives a record of `table`. -/
def nextRowId (table : String) (_record : Record) (db : Db) : Value :=
  .num ((db.rows table).length + 1)

/-- The two posts `postsDb` starts from. -/
def postsDb : Db := ⟨fun table => if table = "post" then
  [[("id", .num 1), ("title", .str "a")], [("id", .num 2), ("title", .str "b")]] else []⟩

theorem insert_many_posts : AppendsWithId appendNext "post" (nextRowId "post") ∧
    ∃ ids : List Value, ids.length = 2 ∧
      (insert appendNext "post" (.many [[("title", .str "c")], [("title", .str "d")]])).run
        postsDb = (.ok (.arr ids), postsDb.update "post" (postsDb.rows "post" ++ List.zipWith
          (fun record id => (stampTimestamps "post" record).set "id" id)
          [[("title", .str "c")], [("title", .str "d")]] ids)) :=
  ⟨fun _ _ => rfl, @insert_many appendNext "post" (nextRowId "post") (fun _ _ => rfl)
    [[("title", .str "c")], [("title", .str "d")]] postsDb⟩

/-- A row appended under an `id` no other row of its table has is the one found by it. -/
theorem findById_append_fresh {db : Db} {row : Record} {id : Value}
    (hrow : row.get? "id" = some id)
    (hfresh : ∀ other ∈ db.rows table, other.get? "id" ≠ some id) :
    findById table id (db.update table (db.rows table ++ [row])) = some row := by
  rw [findById, Db.update_rows_self, List.find?_append,
    List.find?_eq_none.mpr fun other hother => by simpa using hfresh other hother]
  simp [hrow]

/-- Deleting by the `id` of a row appended under a fresh `id` removes that row only. -/
theorem deleteById_append_fresh {db : Db} {row : Record} {id : Value}
    (hrow : row.get? "id" = some id)
    (hfresh : ∀ other ∈ db.rows table, other.get? "id" ≠ some id) :
    (deleteById table id).run (db.update table (db.rows table ++ [row])) = (.ok 1, db) := by
  have hkept : (db.rows table).filter (fun other => other.get? "id" ≠ some id) = db.rows table :=
    List.filter_eq_self.mpr fun other hother => by simpa using hfresh other hother
  have hgone : (db.rows table).filter (fun other => other.get? "id" = some id) = [] :=
    List.filter_eq_nil_iff.mpr fun other hother => by simpa using hfresh other hother
  simp only [deleteById, Db.update_rows_self, List.filter_append, hkept, hgone]
  simp [hrow]

theorem insertAndGet_run (hhandler : AppendsWithId relationHandler table newId) {data : Record}
    {db : Db} (hid : (newId (stampTimestamps table data) db).truthy = true)
    (hfresh : ∀ row ∈ db.rows table,
      row.get? "id" ≠ some (newId (stampTimestamps table data) db)) :
    (insertAndGet relationHandler table data).run db =
      (.ok (some (insertedRow table newId data db)),
        db.update table (db.rows table ++ [insertedRow table newId data db])) := by
  rw [insertAndGet, Action.run_bind, insertWithCascade_run hhandler]
  simp only [hid, if_true]
  rw [← findById_append_fresh (by simp [insertedRow]) hfresh]

/-- `insertAndGet` resolves to the row it appended, stamped and under its fresh `id`, and
`deleteById` of that `id` gives the database back and reports one row. -/
theorem insertAndGet_deleteById (hhandler : AppendsWithId relationHandler table newId)
    {data : Record} {db : Db} (hid : (newId (stampTimestamps table data) db).truthy = true)
    (hfresh : ∀ row ∈ db.rows table,
      row.get? "id" ≠ some (newId (stampTimestamps table data) db)) :
    (insertAndGet relationHandler table data).run db =
      (.ok (some (insertedRow table newId data db)),
        db.update table (db.rows table ++ [insertedRow table newId data db])) ∧
    (deleteById table (newId (stampTimestamps table data) db)).run
      (db.update table (db.rows table ++ [insertedRow table newId data db])) = (.ok 1, db) :=
  ⟨insertAndGet_run hhandler hid hfresh, deleteById_append_fresh (by simp [insertedRow]) hfresh⟩

theorem insertAndGet_deleteById_posts :
    AppendsWithId appendNext "post" (nextRowId "post") ∧
    (nextRowId "post" (stampTimestamps "post" [("title", .str "c")]) postsDb).truthy = true ∧
    (∀ row ∈ postsDb.rows "post", row.get? "id" ≠
      some (nextRowId "post" (stampTimestamps "post" [("title", .str "c")]) postsDb)) ∧
    (insertAndGet appendNext "post" [("title", .str "c")]).run postsDb =
      (.ok (some (insertedRow "post" (nextRowId "post") [("title", .str "c")] postsDb)),
        postsDb.update "post" (postsDb.rows "post" ++
          [insertedRow "post" (nextRowId "post") [("title", .str "c")] postsDb])) ∧
    (deleteById "post"
        (nextRowId "post" (stampTimestamps "post" [("title", .str "c")]) postsDb)).run
      (postsDb.update "post" (postsDb.rows "post" ++
        [insertedRow "post" (nextRowId "post") [("title", .str "c")] postsDb])) =
      (.ok 1, postsDb) :=
  have hid : (nextRowId "post" (stampTimestamps "post" [("title", .str "c")]) postsDb).truthy =
    true := by decide
  have hfresh : ∀ row ∈ postsDb.rows "post", row.get? "id" ≠
      some (nextRowId "post" (stampTimestamps "post" [("title", .str "c")]) postsDb) := by decide
  ⟨fun _ _ => rfl, hid, hfresh, @insertAndGet_deleteById appendNext "post" (nextRowId "post")
    (fun _ _ => rfl) _ _ hid hfresh⟩

end Inserts

end QueryBuilderService

end Enfyra
