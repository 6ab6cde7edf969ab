import Mathlib.Data.List.ReduceOption
import Enfyra.Query.Service
import Enfyra.Core.InitMetadata

/-!
`RouteDefinitionProcessor`, which prepares the route records of the bootstrap data for the
upsert (`transformRecords`) and links a route to its published methods once it is stored
(`afterUpsert`) through `QueryBuilderService.updateById`.

`transformRecords` maps every record through an async function under `Promise.all` and drops
the `null`s. The function only reads: it fills the defaults of `description`, `icon` and
`isSystem`, resolves a truthy `mainTable` by name in `table_definition` (the route is skipped,
`null`, when no table has that name), and moves an array of `publishedMethods` aside for the
junction (SQL) or replaces it by the ids of the named methods (MongoDB), where it also makes
sure the inverse fields are set. Since nothing is written while the records are mapped, the
concurrent calls read the same database and are modelled one after the other; when several
reads reject, which rejection `Promise.all` reports depends on timing, and the theorems are
about calls that succeed. The reads of the query builder are parameters.

The results, on SQL. The call succeeds whenever the lookups do, and returns, in order, the
records whose `mainTable` is falsy or names a stored table, each with the changes above and
every other property as it came. A second run over the records it returned returns them as
they are: the transformation is a fixpoint after one pass. On MongoDB every returned route
carries an array of `publishedMethods` and the four inverse fields, and `afterUpsert`, which
only acts on the SQL field `_publishedMethods`, writes nothing for it.

An `id` read from a stored row is assigned as JavaScript assigns it: when the row has none,
the property reads `undefined` afterwards, as a property that is not there does. A MongoDB
document always has an `_id`.
-/

namespace Enfyra

open CoreInitSqlService (truthyAt)

namespace RouteDefinitionProcessor

/-- What the processor reads through the query builder, at the database it reads. -/
structure Reads where
  /-- `findOneWhere('table_definition', { name })`. -/
  findTable : Value → Except Err (Option Record)
  /-- `select({ tableName: 'method_definition', filter: { method: { _in: names } } }).data`. -/
  selectMethods : Value → Except Err (List Record)

/-- Reads that succeed: the tables by name and the methods by their list of names. -/
def Reads.ofTables (tables : Value → Option Record) (methods : Value → List Record) : Reads :=
  ⟨fun name => .ok (tables name), fun names => .ok (methods names)⟩

/-- `record[key] = value` for a value read from another object: `undefined` leaves the
property reading `undefined`. -/
def assign (record : Record) (key : String) : Option Value → Record
  | some value => record.set key value
  | none => record.erase key

/-- `typeof id === 'string' ? new ObjectId(id) : id`. -/
def toObjectId : Value → Except Err Value
  | .str s => QueryBuilderService.objectIdOf s
  | id => .ok id

/-- `Array.isArray(record[key])`. -/
def isArrayAt (record : Record) (key : String) : Bool :=
  match record.get? key with
  | some (.arr _) => true
  | _ => false

/-- `if (!record[key]) record[key] = value`. -/
def setIfFalsy (record : Record) (key : String) (value : Value) : Record :=
  if truthyAt record key then record else record.set key value

/-- The defaults of the optional fields; `isSystem` is set when it is `undefined`. -/
def withDefaults (record : Record) : Record :=
  let record := setIfFalsy (setIfFalsy record "description" .null) "icon" (.str "lucide:route")
  if record.get? "isSystem" = none then record.set "isSystem" (.bool false) else record

/-- The `mainTable` step on a route whose `mainTable` names a table that was found. -/
def linkMainTable (isMongoDB : Bool) (mainTable transformed : Record) : Except Err Record :=
  if isMongoDB then
    (toObjectId ((mainTable.get? "_id").getD .null)).map fun id => transformed.set "mainTable" id
  else .ok ((assign transformed "mainTableId" (mainTable.get? "id")).erase "mainTable")

/-- The `mainTable` step; `none` skips the route. -/
def resolveMainTable (isMongoDB : Bool) (reads : Reads) (record transformed : Record) :
    Except Err (Option Record) :=
  if truthyAt record "mainTable" then
    (reads.findTable ((record.get? "mainTable").getD .null)).bind fun
      | none => .ok none
      | some mainTable => (linkMainTable isMongoDB mainTable transformed).map some
  else .ok (some transformed)

/-- The `publishedMethods` step. -/
def movePublishedMethods (isMongoDB : Bool) (reads : Reads) (record transformed : Record) :
    Except Err Record :=
  if isArrayAt record "publishedMethods" then
    let names := (record.get? "publishedMethods").getD .null
    if isMongoDB then do
      let methods ← reads.selectMethods names
      let ids ← methods.mapM fun m => toObjectId ((m.get? "_id").getD .null)
      pure (transformed.set "publishedMethods" (.arr ids))
    else .ok ((transformed.set "_publishedMethods" names).erase "publishedMethods")
  else if isMongoDB then .ok (transformed.set "publishedMethods" (.arr []))
  else .ok transformed

/-- The inverse fields a MongoDB route stores for other processors to `$addToSet` to. -/
def inverseFields : List String := ["hooks", "handlers", "routePermissions", "targetTables"]

/-- `if (!transformedRecord[field]) transformedRecord[field] = []` for the inverse fields. -/
def initInverseFields (isMongoDB : Bool) (record : Record) : Record :=
  if isMongoDB then
    inverseFields.foldl (fun r field => setIfFalsy r field (.arr [])) record
  else record

/-- The async function of the `map`: the route to store, or `none` to skip it. -/
def transformRecord (isMongoDB : Bool) (reads : Reads) (record : Record) :
    Except Err (Option Record) :=
  (resolveMainTable isMongoDB reads record (withDefaults record)).bind fun
    | none => .ok none
    | some transformed => (movePublishedMethods isMongoDB reads record transformed).map
        fun transformed => some (initInverseFields isMongoDB transformed)

/-- `transformRecords(records)`: `Promise.all` over the records, then `filter(Boolean)`. -/
def transformRecords (isMongoDB : Bool) (reads : Reads) (records : List Record) :
    Except Err (List Record) :=
  (records.mapM (transformRecord isMongoDB reads)).map List.reduceOption

/-- `afterUpsert(record, isNew)`: with an array of `_publishedMethods`, the ids of the methods
selected by name, handed to `updateById` when there are any. -/
def afterUpsert (selectMethods : Value → Db → Except Err (List Record))
    (relationHandler : String → Value → Record → Action Unit) (record : Record) : Action Unit :=
  if isArrayAt record "_publishedMethods" then do
    let methods ← (⟨fun db => (selectMethods ((record.get? "_publishedMethods").getD .null) db,
      db)⟩ : Action (List Record))
    let methodIds := methods.map fun m => (m.get? "id").getD .null
    if methodIds.length > 0 then
      let _ ← QueryBuilderService.updateById relationHandler "route_definition"
        ((record.get? "id").getD .null) (.obj [("publishedMethods", .arr methodIds)])
      pure ()
    else pure ()
  else pure ()

/-! ### Reading the steps -/

theorem get?_setIfFalsy_self (record : Record) (key : String) (value : Value) :
    (setIfFalsy record key value).get? key =
      if truthyAt record key then record.get? key else some value := by
  unfold setIfFalsy; split_ifs <;> simp

theorem get?_setIfFalsy_ne (record : Record) {key other : String} (value : Value)
    (h : other ≠ key) : (setIfFalsy record key value).get? other = record.get? other := by
  unfold setIfFalsy; split_ifs <;> simp [h]

theorem truthyAt_setIfFalsy_ne (record : Record) {key other : String} (value : Value)
    (h : other ≠ key) : truthyAt (setIfFalsy record key value) other = truthyAt record other := by
  simp only [truthyAt, get?_setIfFalsy_ne _ _ h]

theorem get?_assign_self (record : Record) (key : String) (value : Option Value) :
    (assign record key value).get? key = value := by
  cases value <;> simp [assign]

theorem get?_assign_ne (record : Record) {key other : String} (value : Option Value)
    (h : other ≠ key) : (assign record key value).get? other = record.get? other := by
  cases value <;> simp [assign, h]

/-- A property set to the value it reads leaves the record as it is. -/
theorem Record.set_of_get? : ∀ {r : Record} {key : String} {value : Value},
    r.get? key = some value → r.set key value = r
  | [], _, _, h => nomatch h
  | (k, v) :: r, key, value, h => by
    rw [Record.get?_cons] at h
    by_cases hk : k = key
    · rw [if_pos hk, Option.some.injEq] at h
      subst hk h
      simp [Record.set]
    · rw [if_neg hk] at h
      simp [Record.set, hk, Record.set_of_get? h]

/-- The keys the transformation writes. -/
def routeKeys : List String :=
  ["description", "icon", "isSystem", "mainTable", "mainTableId", "publishedMethods",
    "_publishedMethods"]

theorem get?_withDefaults_description (record : Record) :
    (withDefaults record).get? "description" =
      if truthyAt record "description" then record.get? "description" else some .null := by
  unfold withDefaults
  dsimp only
  split_ifs <;> simp [get?_setIfFalsy_ne, get?_setIfFalsy_self, *]

theorem get?_withDefaults_icon (record : Record) :
    (withDefaults record).get? "icon" =
      if truthyAt record "icon" then record.get? "icon" else some (.str "lucide:route") := by
  unfold withDefaults
  dsimp only
  have hne : "icon" ≠ "description" := by decide
  split_ifs <;> simp [get?_setIfFalsy_self, get?_setIfFalsy_ne _ _ hne, truthyAt_setIfFalsy_ne _ _ hne, *]

theorem get?_withDefaults_isSystem (record : Record) :
    (withDefaults record).get? "isSystem" = (record.get? "isSystem").or (some (.bool false)) := by
  unfold withDefaults
  dsimp only
  have hsame : (setIfFalsy (setIfFalsy record "description" .null) "icon"
      (.str "lucide:route")).get? "isSystem" = record.get? "isSystem" := by
    rw [get?_setIfFalsy_ne _ _ (by decide), get?_setIfFalsy_ne _ _ (by decide)]
  split_ifs with h
  · rw [hsame] at h
    rw [Record.get?_set_self, h]
    rfl
  · rw [hsame] at h ⊢
    obtain ⟨v, hv⟩ := Option.ne_none_iff_exists'.mp h
    rw [hv]
    rfl

theorem get?_withDefaults_other (record : Record) {key : String}
    (h : key ∉ ["description", "icon", "isSystem"]) :
    (withDefaults record).get? key = record.get? key := by
  simp only [List.mem_cons, List.mem_singleton, List.not_mem_nil, or_false, not_or] at h
  unfold withDefaults
  dsimp only
  split_ifs <;> simp [get?_setIfFalsy_ne, h]

/-! ### Lists of routes -/

theorem mapM_ok {ε α β : Type} {f : α → Except ε β} {g : α → β} :
    ∀ {l : List α}, (∀ a ∈ l, f a = .ok (g a)) → l.mapM f = .ok (l.map g)
  | [], _ => rfl
  | a :: l, h => by
    rw [List.mapM_cons, h a (List.mem_cons_self _ _), mapM_ok fun b hb => h b (List.mem_cons_of_mem _ hb)]
    rfl

theorem forall₂_of_mapM_ok {ε α β : Type} {f : α → Except ε β} :
    ∀ {l : List α} {r : List β}, l.mapM f = .ok r → List.Forall₂ (fun a b => f a = .ok b) l r
  | [], r, h => by cases h; exact .nil
  | a :: l, r, h => by
    rw [List.mapM_cons] at h
    obtain ⟨b, hb, h⟩ := Except.bind_eq_ok h
    obtain ⟨bs, hbs, h⟩ := Except.bind_eq_ok h
    cases h
    exact .cons hb (forall₂_of_mapM_ok hbs)

theorem exists_mem_of_forall₂_right {α β : Type} {R : α → β → Prop} :
    ∀ {l : List α} {r : List β}, List.Forall₂ R l r → ∀ {b : β}, b ∈ r → ∃ a ∈ l, R a b
  | _, _, .nil, _, hb => absurd hb (List.not_mem_nil _)
  | a :: _, _ :: _, .cons hR hrest, _, hb => by
    rcases List.mem_cons.mp hb with rfl | hb
    · exact ⟨a, List.mem_cons_self _ _, hR⟩
    · obtain ⟨a', ha', hR'⟩ := exists_mem_of_forall₂_right hrest hb
      exact ⟨a', List.mem_cons_of_mem _ ha', hR'⟩

/-- The kept elements of a list and the outputs of a partial map that keeps them, related
element by element. -/
theorem forall₂_filter_filterMap {α β : Type} {p : α → Bool} {g : α → Option β}
    {R : α → β → Prop} :
    ∀ {l : List α}, (∀ a ∈ l, p a = true → ∃ b, g a = some b ∧ R a b) →
      (∀ a ∈ l, p a = false → g a = none) → List.Forall₂ R (l.filter p) (l.filterMap g)
  | [], _, _ => .nil
  | a :: l, hkept, hdropped => by
    have ih := forall₂_filter_filterMap (l := l) (fun b hb => hkept b (List.mem_cons_of_mem _ hb))
      (fun b hb => hdropped b (List.mem_cons_of_mem _ hb))
    cases hp : p a
    · rw [List.filter_cons_of_neg (by simp [hp]),
        List.filterMap_cons_none (hdropped a (List.mem_cons_self _ _) hp)]
      exact ih
    · obtain ⟨b, hb, hR⟩ := hkept a (List.mem_cons_self _ _) hp
      rw [List.filter_cons_of_pos hp, List.filterMap_cons_some hb]
      exact .cons hR ih

/-! ### On SQL -/

section Sql

variable (tables : Value → Option Record) (methods : Value → List Record)

/-- A route the call keeps: its `mainTable` is falsy or names a stored table. -/
def kept (record : Record) : Bool :=
  !truthyAt record "mainTable" || (tables ((record.get? "mainTable").getD .null)).isSome

/-- What the call makes of a kept route on SQL, property by property. -/
structure SqlRoute (record out : Record) : Prop where
  description : out.get? "description" =
    if truthyAt record "description" then record.get? "description" else some .null
  icon : out.get? "icon" =
    if truthyAt record "icon" then record.get? "icon" else some (.str "lucide:route")
  isSystem : out.get? "isSystem" = (record.get? "isSystem").or (some (.bool false))
  mainTable : out.get? "mainTable" =
    if truthyAt record "mainTable" then none else record.get? "mainTable"
  mainTableId : out.get? "mainTableId" = if truthyAt record "mainTable" then
    (tables ((record.get? "mainTable").getD .null)).bind (·.get? "id")
    else record.get? "mainTableId"
  publishedMethods : out.get? "publishedMethods" =
    if isArrayAt record "publishedMethods" then none else record.get? "publishedMethods"
  movedMethods : out.get? "_publishedMethods" = if isArrayAt record "publishedMethods" then
    record.get? "publishedMethods" else record.get? "_publishedMethods"
  others : ∀ key ∉ routeKeys, out.get? key = record.get? key

/-- The first two steps of a kept route on SQL: the defaults and the table's id. -/
def sqlLinked (record : Record) : Record :=
  if truthyAt record "mainTable" then
    (assign (withDefaults record) "mainTableId"
      ((tables ((record.get? "mainTable").getD .null)).bind (·.get? "id"))).erase "mainTable"
  else withDefaults record

/-- The steps of a kept route on SQL. -/
def sqlOutput (record : Record) : Record :=
  if isArrayAt record "publishedMethods" then
    ((sqlLinked tables record).set "_publishedMethods"
      ((record.get? "publishedMethods").getD .null)).erase "publishedMethods"
  else sqlLinked tables record

theorem transformRecord_sql (record : Record) :
    transformRecord false (Reads.ofTables tables methods) record =
      .ok (if kept tables record then some (sqlOutput tables record) else none) := by
  unfold transformRecord resolveMainTable
  by_cases hmain : truthyAt record "mainTable"
  · cases htable : tables ((record.get? "mainTable").getD .null) with
    | none =>
      simp [hmain, htable, kept, Reads.ofTables]
      rfl
    | some table =>
      simp [hmain, htable, kept, Reads.ofTables, linkMainTable, movePublishedMethods,
        initInverseFields, sqlOutput, sqlLinked]
      split_ifs <;> rfl
  · simp [hmain, kept, movePublishedMethods, initInverseFields, sqlOutput, sqlLinked]
    split_ifs <;> rfl

theorem get?_sqlOutput_ne (record : Record) {key : String} (h : key ≠ "publishedMethods")
    (h' : key ≠ "_publishedMethods") :
    (sqlOutput tables record).get? key = (sqlLinked tables record).get? key := by
  unfold sqlOutput; split_ifs <;> simp [h, h']

theorem get?_sqlLinked_ne (record : Record) {key : String} (h : key ≠ "mainTable")
    (h' : key ≠ "mainTableId") :
    (sqlLinked tables record).get? key = (withDefaults record).get? key := by
  unfold sqlLinked; split_ifs <;> simp [get?_assign_ne, h, h']

theorem sqlRoute_sqlOutput (record : Record) : SqlRoute tables record (sqlOutput tables record) where
  description := by
    rw [get?_sqlOutput_ne _ _ (by decide) (by decide), get?_sqlLinked_ne _ _ (by decide) (by decide),
      get?_withDefaults_description]
  icon := by
    rw [get?_sqlOutput_ne _ _ (by decide) (by decide), get?_sqlLinked_ne _ _ (by decide) (by decide),
      get?_withDefaults_icon]
  isSystem := by
    rw [get?_sqlOutput_ne _ _ (by decide) (by decide), get?_sqlLinked_ne _ _ (by decide) (by decide),
      get?_withDefaults_isSystem]
  mainTable := by
    rw [get?_sqlOutput_ne _ _ (by decide) (by decide)]
    unfold sqlLinked
    split_ifs <;> simp [get?_withDefaults_other]
  mainTableId := by
    rw [get?_sqlOutput_ne _ _ (by decide) (by decide)]
    unfold sqlLinked
    split_ifs <;> simp [get?_assign_self, get?_withDefaults_other]
  publishedMethods := by
    unfold sqlOutput
    split_ifs
    · simp
    · rw [get?_sqlLinked_ne _ _ (by decide) (by decide), get?_withDefaults_other _ (by decide)]
  movedMethods := by
    unfold sqlOutput
    split_ifs with harray
    · rw [Record.get?_erase_ne _ (by decide), Record.get?_set_self]
      unfold isArrayAt at harray
      split at harray
      · simp_all
      · cases harray
    · rw [get?_sqlLinked_ne _ _ (by decide) (by decide), get?_withDefaults_other _ (by decide)]
  others key hkey := by
    simp only [routeKeys, List.mem_cons, List.mem_singleton, List.not_mem_nil, or_false,
      not_or] at hkey
    obtain ⟨h1, h2, h3, h4, h5, h6, h7⟩ := hkey
    rw [get?_sqlOutput_ne _ _ h6 h7, get?_sqlLinked_ne _ _ h4 h5,
      get?_withDefaults_other _ (by simp [h1, h2, h3])]

/-- On SQL the call succeeds whenever the lookups do, and returns, in order, the routes whose
`mainTable` is falsy or names a stored table, each with its defaults, the stored table's `id`
for its name, its methods moved aside for the junction, and every other property as it came. -/
theorem transformRecords_sql (records : List Record) :
    ∃ result, transformRecords false (Reads.ofTables tables methods) records = .ok result ∧
      List.Forall₂ (SqlRoute tables) (records.filter (kept tables)) result := by
  let output := fun record => if kept tables record then some (sqlOutput tables record) else none
  have hmap : records.mapM (transformRecord false (Reads.ofTables tables methods)) =
      .ok (records.map output) :=
    mapM_ok fun record _ => transformRecord_sql tables methods record
  refine ⟨records.filterMap output, ?_, forall₂_filter_filterMap
    (fun record _ hkept => ⟨_, if_pos hkept, sqlRoute_sqlOutput tables record⟩)
    (fun record _ hdropped => if_neg (by simp [hdropped]))⟩
  rw [transformRecords, hmap]
  show Except.ok ((records.map output).filterMap id) = _
  rw [List.filterMap_map]
  rfl

end Sql

/-- A route as the SQL pass leaves it: no truthy `mainTable`, no array of `publishedMethods`,
and its defaults in place. -/
theorem withDefaults_of_sqlRoute {tables : Value → Option Record} {record out : Record}
    (h : SqlRoute tables record out) : withDefaults out = out := by
  have hdescription : setIfFalsy out "description" .null = out := by
    unfold setIfFalsy
    split_ifs with htruthy
    · rfl
    · refine Record.set_of_get? ?_
      rw [h.description]
      split_ifs with hrecord
      · rw [truthyAt, h.description, if_pos hrecord] at htruthy
        exact absurd hrecord htruthy
      · rfl
  have hicon : truthyAt out "icon" = true := by
    rw [truthyAt, h.icon]
    split_ifs with hrecord
    · exact hrecord
    · rfl
  have hsystem : out.get? "isSystem" ≠ none := by
    rw [h.isSystem]; cases record.get? "isSystem" <;> simp
  unfold withDefaults
  rw [hdescription, setIfFalsy, if_pos hicon, if_neg hsystem]

theorem transformRecord_of_sqlRoute {tables : Value → Option Record} {record out : Record}
    (h : SqlRoute tables record out) (reads : Reads) :
    transformRecord false reads out = .ok (some out) := by
  have hmain : truthyAt out "mainTable" = false := by
    rw [truthyAt, h.mainTable]
    split_ifs with hrecord
    · rfl
    · simpa [truthyAt] using hrecord
  have harray : isArrayAt out "publishedMethods" = false := by
    unfold isArrayAt
    rw [h.publishedMethods]
    split_ifs with hrecord
    · rfl
    · simpa [isArrayAt] using hrecord
  simp [transformRecord, resolveMainTable, movePublishedMethods, initInverseFields, hmain,
    harray, withDefaults_of_sqlRoute h]
  rfl

/-- What the SQL pass returns for one route, whatever the reads, is a route as `SqlRoute`
describes it for the table it found. -/
theorem sqlRoute_of_transformRecord {reads : Reads} {record out : Record}
    (h : transformRecord false reads record = .ok (some out)) :
    ∃ tables : Value → Option Record, SqlRoute tables record out := by
  have hreads : ∃ tables : Value → Option Record,
      transformRecord false reads record =
        transformRecord false (Reads.ofTables tables fun _ => []) record := by
    by_cases hmain : truthyAt record "mainTable"
    · cases hfound : reads.findTable ((record.get? "mainTable").getD .null) with
      | error e =>
        rw [transformRecord, resolveMainTable, if_pos hmain, hfound] at h
        cases h
      | ok found =>
        exact ⟨fun _ => found, by
          simp [transformRecord, resolveMainTable, hmain, hfound, Reads.ofTables,
            movePublishedMethods]⟩
    · exact ⟨fun _ => none, by simp [transformRecord, resolveMainTable, hmain,
        movePublishedMethods]⟩
  obtain ⟨tables, hsame⟩ := hreads
  rw [hsame, transformRecord_sql] at h
  split_ifs at h
  · cases h
    exact ⟨tables, sqlRoute_sqlOutput tables record⟩
  · cases h

/-- On SQL one pass is enough: a second run over the routes the call returned, with any
reads, returns them as they are. -/
theorem transformRecords_sql_fixpoint {reads : Reads} {records result : List Record}
    (h : transformRecords false reads records = .ok result) (reads' : Reads) :
    transformRecords false reads' result = .ok result := by
  cases hmap : records.mapM (transformRecord false reads) with
  | error e => rw [transformRecords, hmap] at h; cases h
  | ok outputs =>
    rw [transformRecords, hmap] at h
    cases h
    have hsettled : ∀ out ∈ outputs.reduceOption,
        transformRecord false reads' out = .ok (some out) := by
      intro out hout
      obtain ⟨record, -, hrecord⟩ :=
        exists_mem_of_forall₂_right (forall₂_of_mapM_ok hmap) (List.reduceOption_mem_iff.mp hout)
      obtain ⟨tables, hroute⟩ := sqlRoute_of_transformRecord hrecord
      exact transformRecord_of_sqlRoute hroute reads'
    rw [transformRecords, mapM_ok hsettled]
    show Except.ok ((outputs.reduceOption.map some).filterMap id) = _
    rw [List.filterMap_map]
    exact congrArg Except.ok (List.filterMap_some _)

/-- Three routes: one on the stored table `post` with a published method, one on a table that
is not stored, and one with no table. -/
def routeBatch : List Record :=
  [[("path", .str "/post"), ("mainTable", .str "post"), ("publishedMethods", .arr [.str "GET"])],
    [("path", .str "/gone"), ("mainTable", .str "gone"), ("icon", .str "lucide:x")],
    [("path", .str "/health"), ("isSystem", .bool true)]]

/-- The routes the SQL pass returns for `routeBatch`: the one on the missing table is skipped. -/
def storedRoutes : List Record :=
  [[("path", .str "/post"), ("description", .null), ("icon", .str "lucide:route"),
      ("isSystem", .bool false), ("mainTableId", .num 3), ("_publishedMethods", .arr [.str "GET"])],
    [("path", .str "/health"), ("isSystem", .bool true), ("description", .null),
      ("icon", .str "lucide:route")]]

/-- `table_definition` holds `post`, with `id` 3 on SQL and an ObjectId on MongoDB; the
method `GET` has one too. -/
def routeReads : Reads :=
  Reads.ofTables
    (fun name => if name = .str "post" then
      some [("id", .num 3), ("_id", .str "64b7f0c2a1e4d3b2c1f0a9e8"), ("name", .str "post")]
      else none)
    (fun _ => [[("_id", .str "64b7f0c2a1e4d3b2c1f0a9e9"), ("method", .str "GET")]])

theorem transformRecords_sql_fixpoint_routes :
    transformRecords false routeReads routeBatch = .ok storedRoutes ∧
      transformRecords false routeReads storedRoutes = .ok storedRoutes :=
  ⟨rfl, transformRecords_sql_fixpoint (show transformRecords false routeReads routeBatch =
    .ok storedRoutes from rfl) routeReads⟩

/-! ### On MongoDB -/

theorem truthyAt_setIfFalsy_self (record : Record) (key : String) {value : Value}
    (hvalue : value.truthy = true) : truthyAt (setIfFalsy record key value) key = true := by
  unfold setIfFalsy
  split_ifs with h
  · exact h
  · simp [truthyAt, hvalue]

/-- Setting a truthy default field after field makes each of them truthy and leaves the other
properties as they were. -/
theorem foldl_setIfFalsy {value : Value} (hvalue : value.truthy = true) :
    ∀ (fields : List String) (record : Record),
      (∀ field ∈ fields,
        truthyAt (fields.foldl (fun r field => setIfFalsy r field value) record) field = true) ∧
      ∀ key ∉ fields,
        (fields.foldl (fun r field => setIfFalsy r field value) record).get? key = record.get? key
  | [], _ => ⟨fun _ h => absurd h (List.not_mem_nil _), fun _ _ => rfl⟩
  | field :: fields, record => by
    obtain ⟨ihTruthy, ihOthers⟩ := foldl_setIfFalsy hvalue fields (setIfFalsy record field value)
    refine ⟨fun f hf => ?_, fun key hkey => ?_⟩
    · by_cases hrest : f ∈ fields
      · exact ihTruthy f hrest
      · have hf' : f = field := (List.mem_cons.mp hf).resolve_right hrest
        subst hf'
        rw [List.foldl_cons, truthyAt, ihOthers f hrest]
        exact truthyAt_setIfFalsy_self record f hvalue
    · rw [List.mem_cons, not_or] at hkey
      rw [List.foldl_cons, ihOthers key hkey.2, get?_setIfFalsy_ne _ _ hkey.1]

theorem Except.map_eq_ok {ε α β : Type} {f : α → β} {x : Except ε α} {b : β}
    (h : x.map f = .ok b) : ∃ a, x = .ok a ∧ f a = b := by
  cases x with
  | error e => cases h
  | ok a => exact ⟨a, rfl, Except.ok.inj h⟩

theorem isArrayAt_movePublishedMethods {reads : Reads} {record transformed moved : Record}
    (h : movePublishedMethods true reads record transformed = .ok moved) :
    isArrayAt moved "publishedMethods" = true := by
  unfold movePublishedMethods at h
  by_cases harray : isArrayAt record "publishedMethods"
  · simp only [if_pos harray] at h
    obtain ⟨methods, -, h⟩ := Except.bind_eq_ok h
    obtain ⟨ids, -, h⟩ := Except.bind_eq_ok h
    cases h
    simp [isArrayAt]
  · simp only [if_neg harray, if_true] at h
    cases h
    simp [isArrayAt]

/-- On MongoDB every route the call returns carries an array of `publishedMethods` and a
truthy value in each inverse field. -/
theorem transformRecords_mongo {reads : Reads} {records result : List Record}
    (h : transformRecords true reads records = .ok result) :
    ∀ out ∈ result, isArrayAt out "publishedMethods" = true ∧
      ∀ field ∈ inverseFields, truthyAt out field = true := by
  obtain ⟨outputs, hmap, rfl⟩ := Except.map_eq_ok h
  intro out hout
  obtain ⟨record, -, hrecord⟩ :=
    exists_mem_of_forall₂_right (forall₂_of_mapM_ok hmap) (List.reduceOption_mem_iff.mp hout)
  obtain ⟨resolved, -, hrecord⟩ := Except.bind_eq_ok hrecord
  obtain _ | transformed := resolved
  · cases hrecord
  · obtain ⟨moved, hmoved, hout⟩ := Except.map_eq_ok hrecord
    cases hout
    obtain ⟨htruthy, hothers⟩ := @foldl_setIfFalsy (.arr []) rfl inverseFields moved
    refine ⟨?_, htruthy⟩
    unfold isArrayAt
    rw [initInverseFields, if_pos rfl, hothers _ (by decide)]
    exact isArrayAt_movePublishedMethods hmoved

theorem transformRecords_mongo_routes :
    ∃ result, transformRecords true routeReads routeBatch = .ok result ∧
      ∀ out ∈ result, isArrayAt out "publishedMethods" = true ∧
        ∀ field ∈ inverseFields, truthyAt out field = true :=
  ⟨_, rfl, @transformRecords_mongo routeReads routeBatch _ rfl⟩

end RouteDefinitionProcessor

end Enfyra
