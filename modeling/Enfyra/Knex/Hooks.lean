import Enfyra.Knex.Junction

/-!
`KnexService.runHooks` and the `beforeInsert` chain that `registerDefaultHooks` builds.
`runHooks` awaits what each handler returns and passes it to the next one. The first three
insert handlers map an array payload through an `async` transform without awaiting it, so
for a batch the next handler receives an array of promises; awaiting an array does not
await its elements. A promise has no own property, so spreading it copies nothing and the
batch loses every column. A single record goes through the same transforms awaited.

The single-record theorem says when the foreign key of a to-one relation survives the
whole chain: its column has to be one that `stripUnknownColumns` keeps, and the metadata
must not reuse a relation's name as a foreign-key column.
-/

namespace Enfyra.KnexService

variable (env : Env)

/-- `runHooks`: each handler's result is awaited (`await Promise.resolve(...)`) and becomes
the last argument of the next handler. -/
def runHooks {m : Type → Type} [Monad m] [MonadExceptOf Err m]
    (hooks : List (String → Value → m Value)) (tableName : String) (data : Value) : m Value :=
  hooks.foldlM (fun result hook => do
    let returned ← hook tableName result
    match Value.await returned with
    | .ok v => pure v
    | .error e => throw e) data

/-- `Array.isArray(data) ? data.map(record => f(record)) : f(data)`. -/
def eachRecord (f : Value → Value) : Value → Value
  | .arr records => .arr (records.map f)
  | data => f data

/-- The body of the last insert handler, which is `async`. -/
def stampInsertHook (tableName : String) (data : Value) : Except Err Value :=
  if env.metadata.isJunctionTable tableName then .ok data else
  match data with
  | .arr records => .arr <$> records.mapM stampInsert
  | data => stampInsert data

/-- The four `beforeInsert` handlers of `registerDefaultHooks`, each returning what the
arrow function returns: the `async` transforms called without `await` give promises. -/
def beforeInsertHooks : List (String → Value → Except Err Value) :=
  [fun tableName data =>
      .ok (eachRecord (fun r => Value.ofAsync (.ok (transformRelationsToFK env tableName r))) data),
    fun tableName data =>
      .ok (eachRecord (fun r => Value.ofAsync (.ok (stripUnknownColumns env tableName r))) data),
    fun tableName data =>
      .ok (eachRecord (fun r => Value.ofAsync (convertDateFields env tableName r)) data),
    fun tableName data => .ok (Value.ofAsync (stampInsertHook env tableName data))]

/-- What `runHooks('beforeInsert', tableName, data)` resolves to. -/
def beforeInsert (tableName : String) (data : Value) : Except Err Value :=
  runHooks (beforeInsertHooks env) tableName data

theorem await_ofAsync (r : Except Err Value) : (Value.ofAsync r).await = r >>= Value.await := by
  rcases r with e | v
  · rfl
  · cases v <;> rfl

/-! ### A batch -/

/-- What the insert timestamp handler makes of a record with no own property. -/
def stampedEmpty : Value := .obj [("createdAt", currentTimestamp), ("updatedAt", currentTimestamp)]

theorem stampInsert_ofAsync (r : Except Err Value) : stampInsert (Value.ofAsync r) = .ok stampedEmpty := by
  rcases r with e | v
  · rfl
  · cases v <;> rfl

theorem mapM_stampInsert_ofAsync (f : Value → Except Err Value) (records : List Value) :
    (records.map fun r => Value.ofAsync (f r)).mapM stampInsert =
      .ok (records.map fun _ => stampedEmpty) := by
  induction records with
  | nil => rfl
  | cons r rest ih =>
      rw [List.map_cons, List.mapM_cons, stampInsert_ofAsync, ih]
      rfl

/-- A batch insert into a table that is not a junction table: every record comes out of
the chain with no column but the two timestamps, whatever it held. -/
theorem beforeInsert_batch {tableName : String}
    (hjunction : env.metadata.isJunctionTable tableName = false) (records : List Value) :
    beforeInsert env tableName (.arr records) = .ok (.arr (records.map fun _ => stampedEmpty)) := by
  simp only [beforeInsert, runHooks, beforeInsertHooks, List.foldlM_cons, List.foldlM_nil,
    eachRecord, List.map_map]
  simp only [bind, Except.bind, Value.await, pure, Except.pure, stampInsertHook, hjunction,
    Bool.false_eq_true, if_false, Functor.map, Except.map, Function.comp_def]
  rw [mapM_stampInsert_ofAsync]
  simp only [List.map_map, Function.comp_def]
  rfl

/-! ### A single record -/

theorem runHooks_cons (hook : String → Value → Except Err Value)
    (hooks : List (String → Value → Except Err Value)) (tableName : String) (data : Value) :
    runHooks (hook :: hooks) tableName data =
      (hook tableName data >>= Value.await) >>= runHooks hooks tableName := by
  simp only [runHooks, List.foldlM_cons]
  rcases hook tableName data with e | returned
  · rfl
  · rcases h : returned.await with e | v <;> simp [runHooks, bind, Except.bind, h, throw, throwThe,
      MonadExceptOf.throw, pure, Except.pure]

theorem runHooks_nil (tableName : String) (data : Value) :
    runHooks ([] : List (String → Value → Except Err Value)) tableName data = .ok data := rfl

/-- The chain of two lists runs the first, then the second on what the first returned. -/
theorem runHooks_append {m : Type → Type} [Monad m] [LawfulMonad m] [MonadExceptOf Err m]
    (hooks rest : List (String → Value → m Value)) (tableName : String) (data : Value) :
    runHooks (hooks ++ rest) tableName data =
      runHooks hooks tableName data >>= runHooks rest tableName :=
  List.foldlM_append _ _ _ _

private theorem ok_bind {α β : Type} (a : α) (f : α → Except Err β) :
    (Except.ok a >>= f) = f a := rfl

theorem transformRelationsToFK_obj {tableName : String} {table : TableMetadata}
    (hname : tableName ≠ "") (hlookup : env.metadata.lookup tableName = some table)
    (fields : Record) :
    transformRelationsToFK env tableName (.obj fields) =
      .obj (table.relations.foldl dropToMany (table.relations.foldl toForeignKey fields)) := by
  simp [transformRelationsToFK, hname, hlookup]

theorem convertDateFields_obj {tableName : String} {table : TableMetadata}
    (hname : tableName ≠ "") (hlookup : env.metadata.lookup tableName = some table)
    (fields : Record) :
    convertDateFields env tableName (.obj fields) =
      .obj <$> table.columns.foldlM (convertColumn env) fields := by
  simp [convertDateFields, hname, hlookup, Value.truthy]

theorem stampInsertHook_obj (tableName : String) (fields : Record) :
    stampInsertHook env tableName (.obj fields) =
      if env.metadata.isJunctionTable tableName then .ok (.obj fields)
      else .ok (.obj (Record.set (Record.set (fields.filter (fun p => decide (p.1 ∉ timestampFields)))
        "createdAt" currentTimestamp) "updatedAt" currentTimestamp)) := rfl

/-- The chain on one record of a table the metadata knows: the transforms are awaited
one after the other. -/
theorem beforeInsert_obj {tableName : String} {table : TableMetadata} (hname : tableName ≠ "")
    (hlookup : env.metadata.lookup tableName = some table) (fields : Record) :
    beforeInsert env tableName (.obj fields) =
      (table.columns.foldlM (convertColumn env)
        ((table.relations.foldl dropToMany (table.relations.foldl toForeignKey fields)).filter
          (fun p => decide (p.1 ∈ validColumns table)))) >>= fun converted =>
        stampInsertHook env tableName (.obj converted) := by
  simp only [beforeInsert, beforeInsertHooks, runHooks_cons, runHooks_nil, eachRecord,
    await_ofAsync, ok_bind, transformRelationsToFK_obj env hname hlookup,
    stripUnknownColumns_of_lookup env hname hlookup, Value.spread_obj, Value.await_obj,
    convertDateFields_obj env hname hlookup]
  rcases table.columns.foldlM (convertColumn env) _ with e | converted
  · rfl
  · simp only [Functor.map, Except.map, ok_bind, Value.await_obj, runHooks_cons, runHooks_nil,
      await_ofAsync, stampInsertHook_obj]
    split <;> rfl

/-- The example's article inserted alone keeps its title; inserted as a batch of one it
comes out with the two timestamps only. -/
theorem beforeInsert_article_batch_drops_title :
    beforeInsert articleEnv "article" (.obj [("title", .str "Hello")]) =
      .ok (.obj [("title", .str "Hello"), ("createdAt", currentTimestamp),
        ("updatedAt", currentTimestamp)]) ∧
    beforeInsert articleEnv "article" (.arr [.obj [("title", .str "Hello")]]) =
      .ok (.arr [stampedEmpty]) :=
  ⟨rfl, @beforeInsert_batch articleEnv "article" rfl _⟩

/-- The foreign key of a to-one relation survives the insert chain of a single record:
the chain returns a record whose foreign-key column holds the relation's identity and that
has no relation property left, unless `convertDateFields` rejects an invalid date. The
column has to be one `stripUnknownColumns` keeps, no to-one relation may write into a
relation's property name, and no relation may be named like a timestamp. -/
theorem beforeInsert_foreignKey {tableName : String} {table : TableMetadata} {fields : Record}
    {relation : RelationMeta} {value id : Value}
    (hname : tableName ≠ "") (hlookup : env.metadata.lookup tableName = some table)
    (hnodup : (table.relations.map (·.propertyName)).Nodup)
    (hfks : ∀ r ∈ table.relations, r.type.isToOne = true → ∀ r' ∈ table.relations,
      r.fkColumn ≠ r'.propertyName)
    (hmem : relation ∈ table.relations) (hone : relation.type.isToOne = true)
    (hvalue : fields.get? relation.propertyName = some value)
    (hid : foreignKeyValue value = some id)
    (hshared : ∀ r ∈ table.relations, r.type.isToOne = true → r.fkColumn = relation.fkColumn →
      r.propertyName ≠ relation.propertyName → fields.get? r.propertyName = none)
    (hvalid : relation.fkColumn ∈ validColumns table)
    (hts : relation.fkColumn ∉ timestampFields)
    (hdate : ∀ c ∈ table.columns, c.name = relation.fkColumn → isDateType c.type = false)
    (hrelTs : ∀ r ∈ table.relations, r.propertyName ≠ "createdAt" ∧ r.propertyName ≠ "updatedAt") :
    (∃ record, beforeInsert env tableName (.obj fields) = .ok (.obj record) ∧
      Record.get? record relation.fkColumn = some id ∧
      ∀ r ∈ table.relations, Record.get? record r.propertyName = none) ∨
    beforeInsert env tableName (.obj fields) = .error .invalidTimeValue := by
  rw [beforeInsert_obj env hname hlookup]
  have h1fk := transformed_get?_fk hnodup hfks hmem hone hvalue hid hshared
  have h1prop := fun r (hr : r ∈ table.relations) =>
    transformed_get?_prop hnodup hfks fields hr
  cases hc : table.columns.foldlM (convertColumn env) _ with
  | error e => exact .inr (by rw [foldlM_convertColumn_error env hc]; rfl)
  | ok converted =>
      left
      have hfk : converted.get? relation.fkColumn = some id := by
        rcases foldlM_convertColumn_get? env hc relation.fkColumn with h | ⟨⟨c, hc', hn, hd⟩, -⟩
        · simp [h, hvalid, h1fk]
        · exact absurd hd (by simp [hdate c hc' hn])
      have hprop : ∀ r ∈ table.relations, converted.get? r.propertyName = none := by
        intro r hr
        rcases foldlM_convertColumn_get? env hc r.propertyName with h | ⟨-, hne⟩
        · simp [h, h1prop r hr]
        · exact absurd (by simp [h1prop r hr]) hne
      have hfkc : relation.fkColumn ≠ "createdAt" := fun e => hts (by simp [e, timestampFields])
      have hfku : relation.fkColumn ≠ "updatedAt" := fun e => hts (by simp [e, timestampFields])
      simp only [ok_bind, stampInsertHook_obj]
      split
      · exact ⟨converted, rfl, hfk, hprop⟩
      · refine ⟨_, rfl, by simp [hfkc, hfku, hts, hfk], fun r hr => ?_⟩
        obtain ⟨hc1, hc2⟩ := hrelTs r hr
        simp [hc1, hc2, hprop r hr]

/-- The author relation of the example table, with a declared foreign-key column. -/
def articleAuthor : RelationMeta :=
  { propertyName := "author", type := .manyToOne, targetTableName := "user",
    foreignKeyColumn := some "authorId" }

theorem beforeInsert_foreignKey_article :
    (∃ record, beforeInsert articleEnv "article"
        (.obj [("title", .str "Hello"), ("author", .obj [("id", .num 5)])]) = .ok (.obj record) ∧
      Record.get? record "authorId" = some (.num 5) ∧
      ∀ r ∈ articleTable.relations, Record.get? record r.propertyName = none) ∨
    beforeInsert articleEnv "article"
      (.obj [("title", .str "Hello"), ("author", .obj [("id", .num 5)])]) =
        .error .invalidTimeValue :=
  @beforeInsert_foreignKey articleEnv "article" articleTable
    [("title", .str "Hello"), ("author", .obj [("id", .num 5)])] articleAuthor
    (.obj [("id", .num 5)]) (.num 5) (by decide) rfl (by decide) (by decide)
    (by decide) rfl rfl rfl (by decide) (by decide) (by decide) (by decide) (by decide)

/-- Two to-one relations that declare the same foreign-key column: the loop of
`transformRelationsToFK` writes each one's identity into it, and the later one wins. -/
def sharedKeyTable : TableMetadata where
  name := "post"
  columns := [{ name := "id", type := "int" }, { name := "title", type := "varchar" }]
  relations := [
    { propertyName := "author", type := .manyToOne, targetTableName := "user",
      foreignKeyColumn := some "userId" },
    { propertyName := "editor", type := .manyToOne, targetTableName := "user",
      foreignKeyColumn := some "userId" }]

theorem beforeInsert_shared_foreignKey :
    ∃ record, beforeInsert ⟨⟨[sharedKeyTable]⟩, fun _ => none⟩ "post"
        (.obj [("author", .obj [("id", .num 5)]), ("editor", .obj [("id", .num 7)])]) =
        .ok (.obj record) ∧
      Record.get? record "userId" ≠ some (.num 5) :=
  ⟨_, rfl, by decide⟩

end Enfyra.KnexService
