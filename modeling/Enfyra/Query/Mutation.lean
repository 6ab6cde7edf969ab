import Enfyra.Knex.Update
import Enfyra.Query.Where

/-!
`QueryBuilderService.update`, `delete` and `count` on both backends. On SQL they apply
`applyWhereToKnex` to a builder of the table when there are conditions, and the database
resolves the columns of the query (`sqlWhere`); `update` first selects the matched rows,
then calls `KnexService.updateWithCascade` for each, one after the other, with no
transaction around the loop. The database may reject that select as a whole (`rejected`,
its verdict beyond the columns: a lost connection, a lock wait timeout). On the document
store they compile the conditions with `whereToMongoFilter`. The document store is
modelled as its collections; its `count` and `deleteMany` are what MongoDB does with a
filter. The `returning` option of `update`, its document branch and the `afterSelect`
handlers of the select are not modelled.

The results: a rejected update either was rejected at its select and wrote nothing, or
keeps every write that ran before the failing step; on supported conditions on distinct
fields of the queried table and mirrored data, under a database that compares values of
one type as MongoDB does, `count` and `delete` count and remove the same rows on both
backends.
-/

namespace Enfyra.QueryBuilderService

/-- The collections of the document store. -/
structure DocumentStore where
  docs : String → List Record

/-- The builder `knex(table)` after `if (where.length > 0) query = applyWhereToKnex(query, where)`. -/
def sqlQuery (conditions : List WhereCondition) : List KnexClause :=
  if conditions.length > 0 then applyWhereToKnex [] conditions else []

section Backends

variable (sql : SqlSemantics) (regexMatches : String → String → Bool)

/-- `await query.clone()`: the rows the conditions select. The database rejects the
statement at a column it cannot resolve, or as a whole (`rejected`). -/
def selectRows (rejected : Option Err) (table : String) (conditions : List WhereCondition) :
    Action (List Record) := do
  let selected ← Action.ofExcept (sqlWhere sql table (sqlQuery conditions))
  match rejected with
  | some e => throw e
  | none => ⟨fun db => (.ok ((db.rows table).filter selected), db)⟩

/-- The SQL branch of `update`: the matched rows, then
`updateWithCascade(table, record.id, data)` for each; it resolves to `{ affected }`. A row
without an `id` passes `undefined`, which is not modelled apart from `null`. -/
def update (rejected : Option Err) (relationHandler : String → Value → Record → Action Unit)
    (table : String) (conditions : List WhereCondition) (data : Value) : Action Nat := do
  let recordsToUpdate ← selectRows sql rejected table conditions
  recordsToUpdate.forM fun record =>
    KnexService.updateWithCascade relationHandler table ((record.get? "id").getD .null) data
  pure recordsToUpdate.length

/-- The SQL branch of `delete`: the rows the conditions select are removed, and their
number returned. -/
def deleteSql (table : String) (conditions : List WhereCondition) : Action Nat := do
  let selected ← Action.ofExcept (sqlWhere sql table (sqlQuery conditions))
  ⟨fun db => (.ok ((db.rows table).filter selected).length,
    db.update table ((db.rows table).filter fun row => !selected row))⟩

/-- The SQL branch of `count`: `Number(result?.count || 0)`. -/
def countSql (table : String) (conditions : List WhereCondition) (db : Db) : Except Err Nat := do
  let selected ← sqlWhere sql table (sqlQuery conditions)
  pure ((db.rows table).filter selected).length

/-- The document branch of `delete`: `deleteMany(filter)` and its `deletedCount`. -/
def deleteMongo (table : String) (conditions : List WhereCondition) (store : DocumentStore) :
    Except Err (Nat × DocumentStore) := do
  let filter ← whereToMongoFilter conditions
  pure (((store.docs table).filter (mongoMatches regexMatches filter)).length,
    ⟨Function.update store.docs table
      ((store.docs table).filter fun doc => !mongoMatches regexMatches filter doc)⟩)

/-- The document branch of `count`; a missing `where` is the empty list. -/
def countMongo (table : String) (conditions : List WhereCondition) (store : DocumentStore) :
    Except Err Nat := do
  let filter ← whereToMongoFilter conditions
  pure ((store.docs table).filter (mongoMatches regexMatches filter)).length

theorem sqlQuery_eq (conditions : List WhereCondition) :
    sqlQuery conditions = applyWhereToKnex [] conditions := by
  cases conditions with
  | nil => rfl
  | cons c rest => simp [sqlQuery]

theorem selectRows_readOnly (rejected : Option Err) (table : String)
    (conditions : List WhereCondition) : Action.ReadOnly (selectRows sql rejected table conditions) :=
  Action.ReadOnly.bind (Action.readOnly_ofExcept _) fun _ => by
    cases rejected
    · exact fun _ => rfl
    · exact Action.readOnly_throw _

/-- Filtering a mirrored collection is mirroring the rows a predicate that agrees on them
selects. -/
theorem filter_mirror {rows : List Record} {p : Record → Bool} {q : Record → Bool}
    (h : ∀ row ∈ rows, p row = q (mirror row)) :
    (rows.map mirror).filter q = (rows.filter p).map mirror := by
  rw [List.filter_map]
  congr 1
  exact List.filter_congr fun row hrow => (h row hrow).symm

/-- A rejected `update` was rejected at its select and wrote nothing, or it has run the
`updateWithCascade` of every matched row before the failing one to completion. -/
theorem update_error {rejected : Option Err}
    {relationHandler : String → Value → Record → Action Unit} {table : String}
    {conditions : List WhereCondition} {data : Value} {db db' : Db} {e : Err}
    (h : (update sql rejected relationHandler table conditions data).run db = (.error e, db')) :
    (selectRows sql rejected table conditions).run db = (.error e, db) ∧ db' = db ∨
    ∃ pre record post mid,
      (selectRows sql rejected table conditions).run db = (.ok (pre ++ record :: post), db) ∧
      (pre.forM fun r => KnexService.updateWithCascade relationHandler table
        ((r.get? "id").getD .null) data).run db = (.ok (), mid) ∧
      (KnexService.updateWithCascade relationHandler table ((record.get? "id").getD .null)
        data).run mid = (.error e, db') := by
  simp only [update, Action.run_bind] at h
  have hread := selectRows_readOnly sql rejected table conditions db
  rcases hs : (selectRows sql rejected table conditions).run db with ⟨e' | rows, db₁⟩ <;>
    simp only [hs] at h hread <;> subst hread
  · cases h
    exact .inl ⟨rfl, rfl⟩
  · split at h
    · cases h
    · rename_i mid hloop
      cases h
      obtain ⟨pre, record, post, mid, rfl, hpre, hrecord⟩ := Action.forM_error hloop
      exact .inr ⟨pre, record, post, mid, rfl, hpre, hrecord⟩

/-- A rejected update is not rolled back. Through a wrapped builder it leaves the junction
rows the sync of its first handler wrote, and every table that is no junction table as it
was. Through `QueryBuilderService.update` it was rejected at the select of the matched rows
and wrote nothing, or the updates of the matched rows before the failing one have run and
stay, with what the failing one wrote before it failed. -/
theorem update_rejected_keeps_writes (env : Env) :
    (∀ rejected tableName selects data db e db',
      (KnexService.hookedUpdate env rejected tableName selects data).run db = (.error e, db') →
        db' = ((KnexService.syncManyToManyRelations env tableName data).run db).2 ∧
        ∀ t, env.metadata.isJunctionTable t = false → db'.rows t = db.rows t) ∧
    (∀ rejected relationHandler table conditions data db e db',
      (update sql rejected relationHandler table conditions data).run db = (.error e, db') →
        (selectRows sql rejected table conditions).run db = (.error e, db) ∧ db' = db ∨
        ∃ pre record post mid,
          (selectRows sql rejected table conditions).run db =
            (.ok (pre ++ record :: post), db) ∧
          (pre.forM fun r => KnexService.updateWithCascade relationHandler table
            ((r.get? "id").getD .null) data).run db = (.ok (), mid) ∧
          (KnexService.updateWithCascade relationHandler table ((record.get? "id").getD .null)
            data).run mid = (.error e, db')) := by
  refine ⟨fun rejected tableName selects data db e db' h => ?_,
    fun _ _ _ _ _ _ _ _ h => update_error sql h⟩
  have hstate := KnexService.hookedUpdate_error env h
  exact ⟨hstate, fun t ht => hstate ▸ KnexService.syncManyToManyRelations_keeps env ht _ _ db⟩

end Backends

/-- A database with a binary collation, no implicit casts and no `LIKE` match. -/
def binarySql : SqlSemantics := .binary (fun _ _ => false) .backend

/-- Two articles, the second without a title. -/
def articlesDb : Db :=
  ⟨fun table => if table = "article" then
    [[("id", .num 1), ("title", .str "Hello")], [("id", .num 2), ("title", .null)]] else []⟩

/-- The same articles as documents. -/
def articlesStore : DocumentStore :=
  ⟨fun table => if table = "article" then (articlesDb.rows "article").map mirror else []⟩

/-- A relation handler that writes the data into the row with the given id, and whose
statement fails on the row with id 2. -/
def failingHandler (table : String) (recordId : Value) (data : Record) : Action Unit :=
  KnexService.updateWhere (if recordId = .num 2 then some (.backend "lock wait timeout") else none)
    table (fun row => decide (Record.get? row "id" = some recordId)) data

/-- Two event rows. -/
def twoEventsDb : Db :=
  ⟨fun table => if table = "event" then [[("id", .num 1)], [("id", .num 2)]] else []⟩

theorem update_rejected_keeps_writes_event :
    ((KnexService.hookedUpdate KnexService.eventEnv none "event" KnexService.eventSelects
        KnexService.eventPayload).run KnexService.eventDb).2 =
      ((KnexService.syncManyToManyRelations KnexService.eventEnv "event"
        KnexService.eventPayload).run KnexService.eventDb).2 ∧
    ((selectRows binarySql none "event" []).run twoEventsDb =
        (.error (.backend "lock wait timeout"), twoEventsDb) ∧
      ((update binarySql none failingHandler "event" [] (.obj [("title", .str "x")])).run
        twoEventsDb).2 = twoEventsDb ∨
    ∃ pre record post mid,
      (selectRows binarySql none "event" []).run twoEventsDb =
        (.ok (pre ++ record :: post), twoEventsDb) ∧
      (pre.forM fun r => KnexService.updateWithCascade failingHandler "event"
        ((r.get? "id").getD .null) (.obj [("title", .str "x")])).run twoEventsDb = (.ok (), mid) ∧
      (KnexService.updateWithCascade failingHandler "event" ((record.get? "id").getD .null)
        (.obj [("title", .str "x")])).run mid =
          (.error (.backend "lock wait timeout"),
            ((update binarySql none failingHandler "event" [] (.obj [("title", .str "x")])).run
              twoEventsDb).2)) :=
  ⟨((update_rejected_keeps_writes binarySql KnexService.eventEnv).1 none "event"
      KnexService.eventSelects KnexService.eventPayload KnexService.eventDb .invalidTimeValue _
      rfl).1,
    (update_rejected_keeps_writes binarySql KnexService.eventEnv).2 none failingHandler "event"
      [] (.obj [("title", .str "x")]) twoEventsDb (.backend "lock wait timeout") _ rfl⟩

end Enfyra.QueryBuilderService
