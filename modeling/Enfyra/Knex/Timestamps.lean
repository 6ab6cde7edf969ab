import Enfyra.Knex.Update

/-!
The timestamps an insert and an update through a wrapped query builder write. The last
`beforeInsert` handler destructures the six timestamp names away and sets `createdAt` and
`updatedAt` to `CURRENT_TIMESTAMP`, unless the table is a junction table; the three before it
turn a record into a record. The fourth `beforeUpdate`
handler destructures the six timestamp names away and the fifth sets `updatedAt` to
`CURRENT_TIMESTAMP`, unless the table is a junction table; `stripNonUpdatableFields` between
them only removes properties. So the data the `UPDATE` assigns has no `createdAt`, and on any
other table it ends with `updatedAt`, whatever the caller passed.

The results, for a table that is not a junction table: a single record the insert chain
accepts comes out with both timestamps `CURRENT_TIMESTAMP`, a `createdAt` of the caller's
discarded; and an update, when it succeeds, leaves every row's `createdAt` as it was, stamps
`updatedAt` on each row the builder selects, and leaves the rows it does not select as they
were.
-/

namespace Enfyra.KnexService

variable (env : Env)

/-! ### Inserts -/

theorem transformRelationsToFK_isObj (tableName : String) (fields : Record) :
    ∃ out, transformRelationsToFK env tableName (.obj fields) = .obj out := by
  unfold transformRelationsToFK
  split
  · exact ⟨_, rfl⟩
  · split <;> exact ⟨_, rfl⟩

theorem stripUnknownColumns_isObj (tableName : String) (fields : Record) :
    ∃ out, stripUnknownColumns env tableName (.obj fields) = .obj out := by
  unfold stripUnknownColumns
  split
  · exact ⟨_, rfl⟩
  · split <;> exact ⟨_, rfl⟩

theorem convertDateFields_isObj {tableName : String} {fields : Record} {v : Value}
    (h : convertDateFields env tableName (.obj fields) = .ok v) : ∃ out, v = .obj out := by
  unfold convertDateFields at h
  split at h
  · cases h
    exact ⟨_, rfl⟩
  · split at h
    · cases h
      exact ⟨_, rfl⟩
    · rcases hfold : List.foldlM (convertColumn env) (Value.obj fields).spread _ with e | out <;>
        rw [hfold] at h <;> cases h
      exact ⟨out, rfl⟩

/-- A single record the `beforeInsert` chain accepts, on a table that is not a junction table,
comes out with `createdAt` and `updatedAt` both `CURRENT_TIMESTAMP`, whatever it carried. -/
theorem beforeInsert_timestamps {tableName : String} {fields : Record} {out : Value}
    (hjunction : env.metadata.isJunctionTable tableName = false)
    (h : beforeInsert env tableName (.obj fields) = .ok out) :
    out.spread.get? "createdAt" = some currentTimestamp ∧
      out.spread.get? "updatedAt" = some currentTimestamp := by
  obtain ⟨first, hfirst⟩ := transformRelationsToFK_isObj env tableName fields
  obtain ⟨second, hsecond⟩ := stripUnknownColumns_isObj env tableName first
  simp only [beforeInsert, beforeInsertHooks, runHooks_cons, runHooks_nil, eachRecord, hfirst,
    await_ofAsync, Except.ok_bind, Value.await_obj, hsecond] at h
  obtain ⟨awaited, hawait, hrest⟩ := Except.bind_eq_ok h
  obtain ⟨converted, hconvert, hawaited⟩ := Except.bind_eq_ok hawait
  obtain ⟨third, rfl⟩ := convertDateFields_isObj env hconvert
  cases hawaited
  simp only [Value.await_obj, Except.ok_bind, runHooks_cons, runHooks_nil, await_ofAsync,
    stampInsertHook_obj, hjunction, Bool.false_eq_true, if_false] at hrest
  cases hrest
  simp

/-- The example's article inserted with a `createdAt` of its own. -/
theorem beforeInsert_timestamps_article :
    articleEnv.metadata.isJunctionTable "article" = false ∧
    ∃ out, beforeInsert articleEnv "article"
        (.obj [("title", .str "Hello"), ("createdAt", .str "yesterday")]) = .ok out ∧
      out.spread.get? "createdAt" = some currentTimestamp ∧
      out.spread.get? "updatedAt" = some currentTimestamp :=
  have hjunction : articleEnv.metadata.isJunctionTable "article" = false := rfl
  ⟨hjunction, _, rfl, @beforeInsert_timestamps articleEnv "article"
    [("title", .str "Hello"), ("createdAt", .str "yesterday")] _ hjunction rfl⟩

/-! ### Updates -/

theorem get?_assign_of_not_mem {key : String} :
    ∀ {data : Record}, key ∉ data.map Prod.fst → ∀ row : Record,
      (assign row data).get? key = row.get? key
  | [], _, _ => rfl
  | (k, v) :: data, h, row => by
    simp only [List.map_cons, List.mem_cons, not_or] at h
    rw [assign, List.foldl_cons, ← assign, get?_assign_of_not_mem h.2, Record.get?_set_ne _ _ h.1]

theorem assign_append_singleton (row data : Record) (key : String) (value : Value) :
    assign row (data ++ [(key, value)]) = (assign row data).set key value := by
  rw [assign, List.foldl_append]
  rfl

theorem foldl_erase_sublist {updateData : Record} :
    ∀ (columns : List ColumnMeta) {acc : Record}, acc.Sublist updateData →
      (columns.foldl (fun (stripped : Record) column =>
        if column.isUpdatable = some false then stripped.erase column.name else stripped)
        acc).Sublist updateData
  | [], _, h => h
  | column :: rest, acc, h => by
    rw [List.foldl_cons]
    refine foldl_erase_sublist rest ?_
    split_ifs
    · exact (List.filter_sublist _).trans h
    · exact h

/-- `stripNonUpdatableFields` on a record only removes properties. -/
theorem stripNonUpdatableFields_sublist (tableName : String) (updateData : Record) :
    ∃ stripped : Record,
      stripNonUpdatableFields env tableName (.obj updateData) = .obj stripped ∧
      stripped.Sublist updateData := by
  unfold stripNonUpdatableFields
  split
  · exact ⟨_, rfl, .refl _⟩
  · split
    · exact ⟨_, rfl, .refl _⟩
    · exact ⟨_, rfl, foldl_erase_sublist _ (.refl _)⟩

/-- The last two `beforeUpdate` handlers, when they succeed, write nothing and return a record
with no timestamp but a final `updatedAt`. -/
theorem timestampHandlers_ok {tableName : String} {v processed : Value} {db db' : Db}
    (hjunction : env.metadata.isJunctionTable tableName = false)
    (h : (runHooks ((beforeUpdateHooks env).drop 3) tableName v).run db = (.ok processed, db')) :
    db' = db ∧ ∃ clean : Record, "createdAt" ∉ clean.map Prod.fst ∧
      "updatedAt" ∉ clean.map Prod.fst ∧
      processed = .obj (clean ++ [("updatedAt", currentTimestamp)]) := by
  by_cases hv : v = .null
  · subst hv
    simp [beforeUpdateHooks, runHooks_cons_action, withoutTimestamps] at h
  · obtain ⟨stripped, hstripped, hsub⟩ := stripNonUpdatableFields_sublist env tableName
      (v.spread.filter fun p => !decide (p.1 ∈ timestampFields))
    have hwithout : withoutTimestamps v =
        .ok (v.spread.filter fun p => !decide (p.1 ∈ timestampFields)) := by
      unfold withoutTimestamps
      split
      · exact absurd rfl hv
      · simp
    have hkeys : ∀ key ∈ timestampFields, key ∉ stripped.map Prod.fst :=
      fun key hkey hmem => by simpa [hkey] using (hsub.map Prod.fst).subset hmem
    simp [beforeUpdateHooks, runHooks_cons_action, hwithout, hstripped, await_ofAsync, hjunction,
      stampUpdate, runHooks] at h
    obtain ⟨rfl, rfl⟩ := h
    refine ⟨rfl, stripped, hkeys _ (by decide), hkeys _ (by decide), ?_⟩
    rw [Record.set_of_not_mem (hkeys _ (by decide))]

/-- What a successful `beforeUpdate` chain leaves: the rows of a table that is not a junction
table as they were, and a record to assign with no `createdAt` and a final `updatedAt`. -/
theorem beforeUpdate_ok {tableName : String} {data processed : Value} {db db' : Db}
    (hjunction : env.metadata.isJunctionTable tableName = false)
    (h : (beforeUpdate env tableName data).run db = (.ok processed, db')) :
    db'.rows tableName = db.rows tableName ∧ ∃ clean : Record,
      "createdAt" ∉ clean.map Prod.fst ∧ "updatedAt" ∉ clean.map Prod.fst ∧
      processed = .obj (clean ++ [("updatedAt", currentTimestamp)]) := by
  have hstate : db' = ((syncManyToManyRelations env tableName data).run db).2 := by
    rw [← beforeUpdate_state, h]
  refine ⟨hstate ▸ syncManyToManyRelations_keeps env hjunction tableName data db, ?_⟩
  rw [beforeUpdate, ← List.take_append_drop 3 (beforeUpdateHooks env), runHooks_append,
    Action.run_bind] at h
  rcases hfirst : (runHooks ((beforeUpdateHooks env).take 3) tableName data).run db with
    ⟨_ | v, mid⟩ <;> rw [hfirst] at h
  · cases h
  · exact (timestampHandlers_ok env hjunction h).2

/-- A successful update through a wrapped builder of a table that is not a junction table keeps
every row's `createdAt`, stamps `updatedAt` on each row it selects, and leaves the other rows
as they were. -/
theorem hookedUpdate_timestamps {rejected : Option Err} {tableName : String}
    {selects : Record → Bool} {data : Value} {db db' : Db}
    (hjunction : env.metadata.isJunctionTable tableName = false)
    (h : (hookedUpdate env rejected tableName selects data).run db = (.ok (), db')) :
    List.Forall₂ (fun row row' => row'.get? "createdAt" = row.get? "createdAt" ∧
        if selects row then row'.get? "updatedAt" = some currentTimestamp else row' = row)
      (db.rows tableName) (db'.rows tableName) := by
  rw [hookedUpdate, Action.run_bind] at h
  rcases hchain : (beforeUpdate env tableName data).run db with ⟨_ | processed, mid⟩ <;>
    rw [hchain] at h
  · cases h
  obtain ⟨hrows, clean, hcreated, -, rfl⟩ := beforeUpdate_ok env hjunction hchain
  cases rejected with
  | some e => cases h
  | none =>
    simp only [updateWhere, Action.run_modify, Prod.mk.injEq] at h
    rw [← h.2, Db.update_rows_self, hrows, List.forall₂_map_right_iff]
    refine List.forall₂_same.mpr fun row _ => ?_
    by_cases hselects : selects row = true
    · simp only [hselects, if_true, Value.spread_obj, assign_append_singleton]
      refine ⟨?_, Record.get?_set_self _ _ _⟩
      rw [Record.get?_set_ne _ _ (by decide), get?_assign_of_not_mem hcreated]
    · simp [hselects]

/-- `knex('event').where('id', 1).update({ id: 1, createdAt: 'yesterday' })`. -/
theorem hookedUpdate_timestamps_event :
    eventEnv.metadata.isJunctionTable "event" = false ∧
    ∃ db', (hookedUpdate eventEnv none "event" eventSelects
        (.obj [("id", .num 1), ("createdAt", .str "yesterday")])).run eventDb = (.ok (), db') ∧
      List.Forall₂ (fun row row' => row'.get? "createdAt" = row.get? "createdAt" ∧
          if eventSelects row then row'.get? "updatedAt" = some currentTimestamp else row' = row)
        (eventDb.rows "event") (db'.rows "event") :=
  have hjunction : eventEnv.metadata.isJunctionTable "event" = false := rfl
  ⟨hjunction, _, rfl, @hookedUpdate_timestamps eventEnv none "event" eventSelects
    (.obj [("id", .num 1), ("createdAt", .str "yesterday")]) eventDb _ hjunction rfl⟩

end Enfyra.KnexService
