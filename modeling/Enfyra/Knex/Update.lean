import Enfyra.Knex.Hooks

/-!
The update path of `KnexService`: the five `beforeUpdate` handlers of
`registerDefaultHooks`, the update of a query builder that `wrapQueryBuilder` wrapped, and
`updateWithCascade`. The first handler syncs the junction tables through the raw knex
instance, so those statements are flushed before the rest of the chain runs; nothing on
this path opens a transaction. `relationHandler.updateWithCascade` is not in the sources
and is a parameter. The metadata is always loaded, so the fallback of `updateWithCascade`
for missing metadata is not modelled; `KnexService` registers no `afterUpdate` handler.

The results say what a rejected update leaves: the junction rows the sync wrote stay, and
every table that is no junction table is as it was.
-/

namespace Enfyra.KnexService

variable (env : Env)

/-- The five `beforeUpdate` handlers, each returning what the arrow function returns.
The destructuring of the fourth throws on `null` before its promise exists. -/
def beforeUpdateHooks : List (String → Value → Action Value) :=
  [fun tableName data => do
      syncManyToManyRelations env tableName data
      pure (Value.ofAsync (.ok (transformRelationsToFK env tableName data))),
    fun tableName data => pure (Value.ofAsync (.ok (stripUnknownColumns env tableName data))),
    fun tableName data => pure (Value.ofAsync (convertDateFields env tableName data)),
    fun tableName data => Action.ofExcept do
      let updateData ← withoutTimestamps data
      pure (Value.ofAsync (.ok (stripNonUpdatableFields env tableName (.obj updateData)))),
    fun tableName data => pure (Value.ofAsync (.ok
      (if env.metadata.isJunctionTable tableName then data else stampUpdate data)))]

/-- What `runHooks('beforeUpdate', tableName, data)` resolves to. -/
def beforeUpdate (tableName : String) (data : Value) : Action Value :=
  runHooks (beforeUpdateHooks env) tableName data

/-- `SET` every column of `data` on a row. -/
def assign (row data : Record) : Record := data.foldl (fun r p => Record.set r p.1 p.2) row

/-- `originalUpdate`: the knex `UPDATE` of the rows the builder's conditions select. It is
one statement: the database applies it to every selected row, or rejects it as a whole
(`rejected`, the database's verdict: a constraint, an unknown column) and nothing
changes. -/
def updateWhere (rejected : Option Err) (table : String) (selects : Record → Bool)
    (data : Record) : Action Unit :=
  match rejected with
  | some e => throw e
  | none => Action.modify fun db => db.update table
      ((db.rows table).map fun row => if selects row then assign row data else row)

/-- `qb.update(data)` on a wrapped builder: the `beforeUpdate` chain, then the original
update with what the chain returned. -/
def hookedUpdate (rejected : Option Err) (tableName : String) (selects : Record → Bool)
    (data : Value) : Action Unit := do
  let processedData ← beforeUpdate env tableName data
  updateWhere rejected tableName selects processedData.spread

/-- `s.includes(sub)`. -/
def includes (s sub : String) : Bool :=
  (List.range (s.length + 1)).any fun i => (s.drop i).startsWith sub

/-- The junction test of `insertWithCascade` and `updateWithCascade`, by name only. -/
def isJunctionName (tableName : String) : Bool :=
  includes tableName "_" &&
    (includes tableName "_definition_" || includes tableName "_methods_" ||
      includes tableName "_routes_" || includes tableName "_permissions_")

/-- `updateData.updatedAt` is replaced by `fn.now()` when it is missing or a non-empty
string. -/
def stampUpdatedAt (tableName : String) (updateData : Record) : Record :=
  if isJunctionName tableName then updateData else
  match updateData.get? "updatedAt" with
  | none => updateData.set "updatedAt" currentTimestamp
  | some (.str s) => if s = "" then updateData else updateData.set "updatedAt" currentTimestamp
  | some _ => updateData

/-- `updateWithCascade`: the data without `createdAt` (the destructuring throws on `null`),
stamped, handed to `relationHandler.updateWithCascade`. -/
def updateWithCascade (relationHandler : String → Value → Record → Action Unit)
    (tableName : String) (recordId data : Value) : Action Unit := do
  let updateData ← Action.ofExcept (match data with
    | .null => .error .destructureNull
    | data => .ok (data.spread.erase "createdAt"))
  relationHandler tableName recordId (stampUpdatedAt tableName updateData)

/-! ### What the chain writes -/

/-- `runHooks` on a list of handlers, one handler at a time. -/
theorem runHooks_cons_action (hook : String → Value → Action Value)
    (hooks : List (String → Value → Action Value)) (tableName : String) (data : Value) :
    runHooks (hook :: hooks) tableName data =
      (hook tableName data >>= fun returned => match Value.await returned with
        | .ok v => pure v
        | .error e => throw e) >>= runHooks hooks tableName := rfl

theorem readOnly_runHooks {tableName : String} :
    ∀ {hooks : List (String → Value → Action Value)},
      (∀ hook ∈ hooks, ∀ data, Action.ReadOnly (hook tableName data)) →
      ∀ data, Action.ReadOnly (runHooks hooks tableName data)
  | [], _, _ => Action.readOnly_pure _
  | hook :: rest, h, data => by
      rw [runHooks_cons_action]
      refine Action.ReadOnly.bind (.bind (h hook (List.mem_cons_self _ _) data) fun r => ?_)
        fun v => readOnly_runHooks (fun g hg => h g (List.mem_cons_of_mem _ hg)) v
      split
      · exact Action.readOnly_pure _
      · exact Action.readOnly_throw _

/-- The chain writes what the sync of its first handler writes, and nothing else. -/
theorem beforeUpdate_state (tableName : String) (data : Value) (db : Db) :
    ((beforeUpdate env tableName data).run db).2 =
      ((syncManyToManyRelations env tableName data).run db).2 := by
  have hrest := @readOnly_runHooks tableName (beforeUpdateHooks env).tail
    (by simp only [beforeUpdateHooks, List.tail_cons, List.mem_cons, List.mem_singleton,
          List.not_mem_nil, or_false]
        rintro hook (rfl | rfl | rfl | rfl) data <;>
          first | exact Action.readOnly_pure _ | exact Action.readOnly_ofExcept _)
  rw [beforeUpdate, beforeUpdateHooks, runHooks_cons_action]
  refine (Action.state_bind_of_readOnly _ hrest db).trans ?_
  rw [Action.state_bind_of_readOnly]
  · exact Action.state_bind_of_readOnly _ (fun _ => Action.readOnly_pure _) db
  · intro r
    split
    · exact Action.readOnly_pure _
    · exact Action.readOnly_throw _

theorem syncRelation_keeps {data : Record} {owner : Value} {relation : RelationMeta}
    {table : String}
    (h : ∀ j s t, relation.type = .manyToMany → relation.junction? = some (j, s, t) → j ≠ table) :
    Action.Keeps table (syncRelation data owner relation) := by
  unfold syncRelation
  split
  · rename_i hc
    split
    · rename_i j s t hj
      have hne := Ne.symm (h j s t hc.1 hj)
      refine Action.Keeps.bind ((Action.readOnly_ofExcept _).keeps _) fun ids => ?_
      refine Action.Keeps.bind (fun db => by simp [deleteWhere, hne]) fun _ => ?_
      split
      · exact fun db => by simp [insertRows, hne]
      · exact (Action.readOnly_pure _).keeps _
    · exact (Action.readOnly_pure _).keeps _
  · exact (Action.readOnly_pure _).keeps _

/-- The sync writes into junction tables only. -/
theorem syncManyToManyRelations_keeps {table : String}
    (h : env.metadata.isJunctionTable table = false) (tableName : String) (data : Value) :
    Action.Keeps table (syncManyToManyRelations env tableName data) := by
  simp only [syncManyToManyRelations, pure_bind]
  split
  · exact (Action.readOnly_pure _).keeps _
  · refine Action.Keeps.bind ((Action.readOnly_ofExcept _).keeps _) fun id? => ?_
    split
    · split
      · split
        · rename_i t ht
          refine Action.keeps_forM fun r hr => syncRelation_keeps fun j s c hm hj he => ?_
          have := Metadata.isJunctionTable_of_junction (Metadata.lookup_mem ht) hr hm hj
          rw [he, h] at this
          cases this
        · exact (Action.readOnly_pure _).keeps _
      · exact (Action.readOnly_pure _).keeps _
    · exact (Action.readOnly_pure _).keeps _

/-- A rejected update leaves what the junction sync of its first handler wrote: whichever
step rejects, nothing before it is undone, and the owner write is one statement. -/
theorem hookedUpdate_error {rejected : Option Err} {tableName : String}
    {selects : Record → Bool} {data : Value} {db db' : Db} {e : Err}
    (h : (hookedUpdate env rejected tableName selects data).run db = (.error e, db')) :
    db' = ((syncManyToManyRelations env tableName data).run db).2 := by
  rw [← beforeUpdate_state]
  rw [hookedUpdate, Action.run_bind] at h
  rcases hb : (beforeUpdate env tableName data).run db with ⟨_ | p, mid⟩ <;> rw [hb] at h
  · exact (Prod.mk.inj h).2.symm
  · cases rejected with
    | some e' => exact (Prod.mk.inj h).2.symm
    | none => cases h

/-- A table with a datetime column and a many-to-many relation. -/
def eventTable : TableMetadata where
  name := "event"
  columns := [{ name := "id", type := "int" }, { name := "startsAt", type := "datetime" }]
  relations := [
    { propertyName := "tags", type := .manyToMany, targetTableName := "tag",
      junctionTableName := some "event_tags", junctionSourceColumn := some "eventId",
      junctionTargetColumn := some "tagId" }]

/-- A host on which `new Date(s)` is invalid for the strings used here. -/
def eventEnv : Env := ⟨⟨[eventTable]⟩, fun _ => none⟩

/-- One event row and no junction row. -/
def eventDb : Db := ⟨fun table => if table = "event" then [[("id", .num 1)]] else []⟩

/-- `{ id: 1, tags: [5], startsAt: 'nextTuesday' }`: a tag and a date no host can read. -/
def eventPayload : Value :=
  .obj [("id", .num 1), ("tags", .arr [.num 5]), ("startsAt", .str "nextTuesday")]

/-- `where('id', 1)`. -/
def eventSelects (row : Record) : Bool := decide (Record.get? row "id" = some (.num 1))

/-- `knex('event').where('id', 1).update(eventPayload)`: `convertDateFields` rejects the date
after the sync has written the junction row, and the call rejects with that row in
place. -/
theorem hookedUpdate_rejected_keeps_junction_row :
    ∃ e db', (hookedUpdate eventEnv none "event" eventSelects eventPayload).run eventDb =
        (.error e, db') ∧
      db'.rows "event_tags" ≠ eventDb.rows "event_tags" :=
  ⟨_, _, rfl, by decide⟩

end Enfyra.KnexService
