import Mathlib.Data.List.Forall2
import Mathlib.Data.List.Nodup
import Enfyra.Value

/-!
`MenuDefinitionProcessor.transformRecords`, which prepares the menu records of the bootstrap
data for the upsert. It runs three loops over the batch against the menu repository. The
first makes sure every Mini Sidebar of the batch is stored: it looks one up by type and
label, saves the record when none is found, and caches its `id` under the label. The second
makes sure every parent a record names by label is stored: it looks it up by label once per
name, saves the first record of the batch with that label when none is found, and caches its
`id` under the name. The third rewrites a string `sidebar` or `parent` into `{ id }` from the
caches, deletes the reference when the cache has no truthy `id` for it, and returns the
records that are neither Mini Sidebars nor a cached parent.

The repository is the rows of the table, and TypeORM's two calls are trusted, each with its
contract. `findOne` returns a stored row that has every property of the `where`, and `null`
only when no stored row has them; which one of several rows it returns is the database's
choice, and a property of the `where` that reads `undefined` is no condition. `save` of a
record with no `id` inserts it with an `id` the database generates, which is truthy. The
bootstrap data gives no record an `id`, and the theorems assume so. `repo.create` copies
the record's properties onto the entity. A failing statement is not modelled.

The results. The records the call returns depend on the batch alone: in batch order, the
records that are not Mini Sidebars and whose label no record of the batch names as its
parent, so that a parent is never returned, whether the call created it or found it stored.
Each is its batch record with only `sidebar` and `parent` rewritten. A sidebar reference
resolves exactly when the batch holds a Mini Sidebar with that label, and then to a stored
Mini Sidebar with it; one to a sidebar that is stored but not in the batch is deleted. A
parent reference resolves exactly when a row with that label was stored or the batch holds a
record with it. The rows the call saves are records of the batch as they came, with their
string references, and no two of them share a label. A second run on the same batch saves
nothing, and no run stores a second Mini Sidebar with a label one already has.
-/

namespace Enfyra.MenuDefinitionProcessor

/-! ### The repository -/

/-- The `where` of a TypeORM `findOne`. A condition whose value reads `undefined` is left
out, as TypeORM skips it. -/
def whereOf (conditions : List (String × Option Value)) : Record :=
  conditions.filterMap fun c => c.2.map (c.1, ·)

/-- A row satisfies a `where` when it holds every property the `where` gives. -/
def Matches (conditions row : Record) : Prop := ∀ c ∈ conditions, row.get? c.1 = some c.2

instance (conditions : Record) : DecidablePred (Matches conditions) :=
  fun row => inferInstanceAs (Decidable (∀ c ∈ conditions, row.get? c.1 = some c.2))

/-- What `repo.findOne({ where })` promises: a stored row that satisfies the `where`, and
`null` only when no stored row does. -/
structure FindsMatch (findOne : List Record → Record → Option Record) : Prop where
  found : ∀ {rows conditions row}, findOne rows conditions = some row →
    row ∈ rows ∧ Matches conditions row
  missing : ∀ {rows conditions}, findOne rows conditions = none →
    ∀ row ∈ rows, ¬ Matches conditions row

/-- What `repo.save(repo.create(record))` does with a record that has no `id`: it stores
the record with an `id` the database generates, and returns the stored row. -/
structure InsertsNew (save : List Record → Record → Record × List Record) : Prop where
  insert : ∀ rows (record : Record), record.get? "id" = none →
    ∃ id, id.truthy ∧ save rows record = (record.set "id" id, rows ++ [record.set "id" id])

/-- Every stored row has a truthy `id`, as the primary key of a table does. -/
def IdsTruthy (rows : List Record) : Prop :=
  ∀ row ∈ rows, ∃ id, row.get? "id" = some id ∧ id.truthy

instance (rows : List Record) : Decidable (IdsTruthy rows) :=
  decidable_of_iff (∀ row ∈ rows, (row.get? "id").any Value.truthy) <|
    forall₂_congr fun row _ => by cases row.get? "id" <;> simp

/-- The first stored row that matches: a `findOne` that keeps its contract. -/
def firstMatch (rows : List Record) (conditions : Record) : Option Record :=
  rows.find? fun row => decide (Matches conditions row)

/-- An auto-increment table whose next `id` is one more than its number of rows. -/
def autoIncrement (rows : List Record) (record : Record) : Record × List Record :=
  let saved := match record.get? "id" with
    | some _ => record
    | none => record.set "id" (.num (rows.length + 1))
  (saved, rows ++ [saved])

theorem firstMatch_findsMatch : FindsMatch firstMatch where
  found h := by
    unfold firstMatch at h
    exact ⟨List.mem_of_find?_eq_some h, by simpa using List.find?_some h⟩
  missing h row hrow := by simpa using List.find?_eq_none.mp h row hrow

theorem autoIncrement_insertsNew : InsertsNew autoIncrement where
  insert rows record h := ⟨.num (rows.length + 1), by simp [Value.truthy]; omega,
    by simp [autoIncrement, h]⟩

/-! ### The caches -/

/-- A JavaScript `Map` whose values are property reads, as the entries set so far, the
latest first. -/
abbrev JsMap (κ : Type) := List (κ × Option Value)

namespace JsMap

variable {κ : Type} [DecidableEq κ]

/-- `map.get(key)`; `none` is `undefined`, for a key never set or set to `undefined`. -/
def get : JsMap κ → κ → Option Value
  | [], _ => none
  | (k, v) :: m, key => if k = key then v else get m key

/-- `map.has(key)`. -/
def has (m : JsMap κ) (key : κ) : Bool := m.any fun e => decide (e.1 = key)

@[simp] theorem has_cons (k key : κ) (v : Option Value) (m : JsMap κ) :
    has ((k, v) :: m) key = (decide (k = key) || has m key) := rfl

theorem get_cons (k key : κ) (v : Option Value) (m : JsMap κ) :
    get ((k, v) :: m) key = if k = key then v else get m key := rfl

/-- A key that is set reads the value of an entry of the map. -/
theorem mem_get_of_has : ∀ {m : JsMap κ} {key : κ}, m.has key = true → (key, m.get key) ∈ m
  | [], _, h => nomatch h
  | (k, v) :: m, key, h => by
      by_cases hk : k = key
      · subst hk; simp [get_cons]
      · simp only [has_cons, hk, decide_False, Bool.false_or] at h
        rw [get_cons, if_neg hk]
        exact List.mem_cons_of_mem _ (mem_get_of_has h)

theorem has_of_mem {m : JsMap κ} {key : κ} {v : Option Value} (h : (key, v) ∈ m) :
    m.has key = true :=
  List.any_eq_true.mpr ⟨_, h, decide_eq_true rfl⟩

theorem exists_mem_of_has {m : JsMap κ} {key : κ} (h : m.has key = true) :
    ∃ v, (key, v) ∈ m :=
  ⟨_, mem_get_of_has h⟩

theorem mem_of_get_eq_some {m : JsMap κ} {key : κ} {v : Value} (h : m.get key = some v) :
    (key, some v) ∈ m := by
  have hhas : m.has key = true := by
    induction m with
    | nil => cases h
    | cons e m ih =>
        obtain ⟨k, w⟩ := e
        by_cases hk : k = key <;> simp_all [get_cons]
  simpa [h] using mem_get_of_has hhas

end JsMap

/-! ### The processor -/

/-- `record.type === 'Mini Sidebar'`. -/
def isMiniSidebar (record : Record) : Bool := record.get? "type" = some (.str "Mini Sidebar")

/-- `record[field] && typeof record[field] === 'string'`: the name a reference gives, when
it is a non-empty string. -/
def stringRef (field : String) (record : Record) : Option String :=
  match record.get? field with
  | some (.str name) => if name = "" then none else some name
  | _ => none

/-- The label a record has, when it is a string. -/
def labelName (record : Record) : Option String :=
  match record.get? "label" with
  | some (.str label) => some label
  | _ => none

/-- `{ type: 'Mini Sidebar', label: record.label }`. -/
def sidebarWhere (record : Record) : Record :=
  whereOf [("type", some (.str "Mini Sidebar")), ("label", record.get? "label")]

/-- One turn of the first loop: a Mini Sidebar of the batch is found by type and label, or
saved, and its `id` cached under its label. -/
def ensureSidebar (findOne : List Record → Record → Option Record)
    (save : List Record → Record → Record × List Record)
    (state : List Record × JsMap (Option Value)) (record : Record) :
    List Record × JsMap (Option Value) :=
  if isMiniSidebar record then
    match findOne state.1 (sidebarWhere record) with
    | some existing => (state.1, (record.get? "label", existing.get? "id") :: state.2)
    | none =>
      let created := save state.1 record
      (created.2, (record.get? "label", created.1.get? "id") :: state.2)
  else state

/-- One turn of the second loop: a parent named by a string reference and not cached yet is
found by label, or saved from the first record of the batch with that label, and its `id`
cached under the name. -/
def ensureParent (findOne : List Record → Record → Option Record)
    (save : List Record → Record → Record × List Record) (records : List Record)
    (state : List Record × JsMap String) (record : Record) : List Record × JsMap String :=
  match stringRef "parent" record with
  | none => state
  | some parent =>
    if state.2.has parent then state
    else
      match findOne state.1 [("label", .str parent)] with
      | some existing => (state.1, (parent, existing.get? "id") :: state.2)
      | none =>
        match records.find? (fun r => r.get? "label" = some (.str parent)) with
        | some parentRecord =>
          let created := save state.1 parentRecord
          (created.2, (parent, created.1.get? "id") :: state.2)
        | none => state

/-- The third loop's rewrite of one reference: a string whose cached `id` is truthy becomes
`{ id }`, any other string is deleted. -/
def resolveRef (lookup : String → Option Value) (field : String) (record : Record) : Record :=
  match stringRef field record with
  | none => record
  | some name =>
    match lookup name with
    | some id => if id.truthy then record.set field (.obj [("id", id)]) else record.erase field
    | none => record.erase field

/-- The third loop's copy of a record, its sidebar and parent references rewritten. -/
def transformRecord (sidebarCache : JsMap (Option Value)) (parentCache : JsMap String)
    (record : Record) : Record :=
  resolveRef parentCache.get "parent"
    (resolveRef (fun name => sidebarCache.get (some (.str name))) "sidebar" record)

/-- `record.type !== 'Mini Sidebar' && !parentCache.has(record.label)`. -/
def isNewRecord (parentCache : JsMap String) (record : Record) : Bool :=
  !isMiniSidebar record && !(labelName record).any parentCache.has

/-- `transformRecords(records, { repo })`: the records to upsert, and the rows of the
repository after the saves. -/
def transformRecords (findOne : List Record → Record → Option Record)
    (save : List Record → Record → Record × List Record) (records rows : List Record) :
    List Record × List Record :=
  let sidebars := records.foldl (ensureSidebar findOne save) (rows, [])
  let parents := records.foldl (ensureParent findOne save records) (sidebars.1, [])
  ((records.filter (isNewRecord parents.2)).map (transformRecord sidebars.2 parents.2),
    parents.1)

/-! ### One turn of each loop -/

@[simp] theorem isMiniSidebar_set_id (record : Record) (id : Value) :
    isMiniSidebar (record.set "id" id) = isMiniSidebar record := by
  simp [isMiniSidebar]

theorem matches_sidebarWhere {record row : Record} :
    Matches (sidebarWhere record) row ↔ isMiniSidebar row = true ∧
      ∀ v, record.get? "label" = some v → row.get? "label" = some v := by
  cases h : record.get? "label" <;> simp [Matches, sidebarWhere, whereOf, isMiniSidebar, h]

@[simp] theorem matches_label {parent : String} {row : Record} :
    Matches [("label", .str parent)] row ↔ row.get? "label" = some (.str parent) := by
  simp [Matches]

/-- A loop whose every turn keeps a property of the items done and the state keeps it. -/
theorem foldl_induct {α β : Type} (P : List α → β → Prop) {step : β → α → β} :
    ∀ (items done : List α) {b : β},
      (∀ done b, ∀ a ∈ items, P done b → P (done ++ [a]) (step b a)) →
      P done b → P (done ++ items) (items.foldl step b)
  | [], done, _, _, h => by simpa using h
  | a :: items, done, b, hstep, h => by
      simpa using foldl_induct P items (done ++ [a])
        (fun d b' a' ha' => hstep d b' a' (List.mem_cons_of_mem _ ha'))
        (hstep done b a (List.mem_cons_self _ _) h)

/-- A property of the state that every turn of a loop keeps holds after the loop. -/
theorem foldl_inv {α β : Type} (P : β → Prop) {step : β → α → β} {items : List α} {b : β}
    (hstep : ∀ b, ∀ a ∈ items, P b → P (step b a)) (h : P b) : P (items.foldl step b) := by
  simpa using foldl_induct (fun _ => P) items [] (fun _ b a ha => hstep b a ha) h

section Step

variable {findOne : List Record → Record → Option Record}
  {save : List Record → Record → Record × List Record}

/-- Everything a turn of the first loop can do: pass over a record that is no Mini Sidebar,
or cache the `id` of a row matching it, found stored or saved from it when none matched. -/
theorem ensureSidebar_cases (hfind : FindsMatch findOne) (hsave : InsertsNew save)
    (state : List Record × JsMap (Option Value)) {record : Record}
    (hid : record.get? "id" = none) :
    (isMiniSidebar record = false ∧ ensureSidebar findOne save state record = state) ∨
    ∃ row added, isMiniSidebar record = true ∧ Matches (sidebarWhere record) row ∧
      row ∈ state.1 ++ added ∧
      ensureSidebar findOne save state record =
        (state.1 ++ added, (record.get? "label", row.get? "id") :: state.2) ∧
      (added = [] ∨ ∃ id, id.truthy ∧ row = record.set "id" id ∧ added = [row] ∧
        ∀ r ∈ state.1, ¬ Matches (sidebarWhere record) r) := by
  unfold ensureSidebar
  cases hms : isMiniSidebar record
  · exact .inl ⟨rfl, rfl⟩
  · cases hf : findOne state.1 (sidebarWhere record) with
    | some existing =>
        obtain ⟨hmem, hm⟩ := hfind.found hf
        exact .inr ⟨existing, [], rfl, hm, by simpa using hmem, by simp, .inl rfl⟩
    | none =>
        obtain ⟨id, htruthy, hs⟩ := hsave.insert state.1 record hid
        refine .inr ⟨record.set "id" id, [record.set "id" id], rfl,
          matches_sidebarWhere.mpr ⟨by simpa using hms, fun v hv => by simpa using hv⟩,
          by simp, by simp [hs], .inr ⟨id, htruthy, rfl, rfl, hfind.missing hf⟩⟩

/-- Everything a turn of the second loop can do: leave the state, or cache under a new
parent name the `id` of a row with that label, found stored or saved from the batch when no
stored row had it. -/
theorem ensureParent_cases (hfind : FindsMatch findOne) (hsave : InsertsNew save)
    {records : List Record} (hfresh : ∀ r ∈ records, r.get? "id" = none)
    (state : List Record × JsMap String) (record : Record) :
    ensureParent findOne save records state record = state ∨
    ∃ parent row added, stringRef "parent" record = some parent ∧
      state.2.has parent = false ∧ row.get? "label" = some (.str parent) ∧
      row ∈ state.1 ++ added ∧
      ensureParent findOne save records state record =
        (state.1 ++ added, (parent, row.get? "id") :: state.2) ∧
      (added = [] ∨ ∃ parentRecord ∈ records, ∃ id, id.truthy ∧
        row = parentRecord.set "id" id ∧ added = [row] ∧
        ∀ r ∈ state.1, r.get? "label" ≠ some (.str parent)) := by
  unfold ensureParent
  cases hp : stringRef "parent" record with
  | none => exact .inl rfl
  | some parent =>
    dsimp only
    cases hhas : state.2.has parent
    · cases hf : findOne state.1 [("label", .str parent)] with
      | some existing =>
          obtain ⟨hmem, hm⟩ := hfind.found hf
          exact .inr ⟨parent, existing, [], rfl, hhas, matches_label.mp hm,
            by simpa using hmem, by simp, .inl rfl⟩
      | none =>
          cases hr : records.find? (fun r => r.get? "label" = some (.str parent)) with
          | none => exact .inl rfl
          | some parentRecord =>
              have hmem := List.mem_of_find?_eq_some hr
              have hlabel : parentRecord.get? "label" = some (.str parent) := by
                simpa using List.find?_some hr
              obtain ⟨id, htruthy, hs⟩ := hsave.insert state.1 parentRecord (hfresh _ hmem)
              refine .inr ⟨parent, parentRecord.set "id" id, [parentRecord.set "id" id], rfl,
                hhas, by simpa using hlabel, by simp, by simp [hs],
                .inr ⟨parentRecord, hmem, id, htruthy, rfl, rfl,
                  fun r hr' => mt matches_label.mpr (hfind.missing hf r hr')⟩⟩
    · exact .inl (by simp)

/-- A turn of the second loop caches a parent that is stored or in the batch. -/
theorem has_ensureParent (hfind : FindsMatch findOne) {records : List Record}
    {state : List Record × JsMap String} {record : Record} {parent : String}
    (hp : stringRef "parent" record = some parent)
    (hknown : (∃ row ∈ state.1, row.get? "label" = some (.str parent)) ∨
      ∃ r ∈ records, r.get? "label" = some (.str parent)) :
    (ensureParent findOne save records state record).2.has parent = true := by
  unfold ensureParent
  rw [hp]
  dsimp only
  cases hhas : state.2.has parent
  · cases hf : findOne state.1 [("label", .str parent)] with
    | some existing => simp
    | none =>
      cases hr : records.find? (fun r => r.get? "label" = some (.str parent)) with
      | some parentRecord => simp
      | none =>
        rcases hknown with ⟨row, hrow, hl⟩ | ⟨r, hr', hl⟩
        · exact absurd (matches_label.mpr hl) (hfind.missing hf row hrow)
        · simpa [hl] using List.find?_eq_none.mp hr r hr'
  · simpa using hhas

end Step

/-! ### What the loops establish -/

/-- The batch records a run may save: a Mini Sidebar, or a record with a label that a record
of the batch names as its parent. -/
def Creatable (records : List Record) (r : Record) : Prop :=
  isMiniSidebar r = true ∨
    ∃ c ∈ records, ∃ parent, stringRef "parent" c = some parent ∧
      r.get? "label" = some (.str parent)

/-- The rows a run has on top of `rows`: records of the batch that `creatable` admits, each
saved as it came with a truthy `id`, no two with one label. -/
def SavedOnto (records rows : List Record) (creatable : Record → Prop)
    (current : List Record) : Prop :=
  ∃ created, current = rows ++ created ∧ (created.map (·.get? "label")).Nodup ∧
    ∀ row ∈ created, ∃ r ∈ records, creatable r ∧ ∃ id, id.truthy ∧ row = r.set "id" id

/-- Each entry of the sidebar cache is the `id` of a stored row that matches a Mini Sidebar
of the batch with the entry's label. -/
def SidebarEntries (records rows : List Record) (cache : JsMap (Option Value)) : Prop :=
  ∀ label id, (label, id) ∈ cache → ∃ r ∈ records, isMiniSidebar r = true ∧
    r.get? "label" = label ∧ ∃ row ∈ rows, Matches (sidebarWhere r) row ∧ row.get? "id" = id

/-- Each entry of the parent cache is under a name a record of the batch gives as its parent,
and is the `id` of a stored row with that label. -/
def ParentEntries (records rows : List Record) (cache : JsMap String) : Prop :=
  ∀ parent id, (parent, id) ∈ cache → (∃ c ∈ records, stringRef "parent" c = some parent) ∧
    ∃ row ∈ rows, row.get? "label" = some (.str parent) ∧ row.get? "id" = id

section Invariants

variable {records rows : List Record}

theorem SavedOnto.mono {c c' : Record → Prop} {current : List Record}
    (h : SavedOnto records rows c current) (himp : ∀ r, c r → c' r) :
    SavedOnto records rows c' current := by
  obtain ⟨created, heq, hnodup, hfrom⟩ := h
  refine ⟨created, heq, hnodup, fun row hrow => ?_⟩
  obtain ⟨r, hr, hc, hid⟩ := hfrom row hrow
  exact ⟨r, hr, himp r hc, hid⟩

/-- Saving a batch record whose label no earlier saved record has keeps the saved rows
apart by label. -/
theorem SavedOnto.snoc {c : Record → Prop} {current : List Record}
    (h : SavedOnto records rows c current) {r : Record} (hr : r ∈ records) (hc : c r)
    {id : Value} (htruthy : id.truthy = true)
    (hnew : ∀ r' ∈ records, c r' → ∀ id', r'.set "id" id' ∈ current →
      r'.get? "label" ≠ r.get? "label") :
    SavedOnto records rows c (current ++ [r.set "id" id]) := by
  obtain ⟨created, rfl, hnodup, hfrom⟩ := h
  refine ⟨created ++ [r.set "id" id], by simp, ?_, fun row hrow => ?_⟩
  · rw [List.map_append, List.nodup_append]
    refine ⟨hnodup, List.nodup_singleton _, List.disjoint_singleton.mpr fun hmem => ?_⟩
    obtain ⟨y, hy, hyl⟩ := List.mem_map.mp hmem
    obtain ⟨r', hr', hc', id', -, rfl⟩ := hfrom y hy
    exact hnew r' hr' hc' id' (List.mem_append_right _ hy) (by simpa using hyl)
  · rcases List.mem_append.mp hrow with hrow | hrow
    · exact hfrom row hrow
    · obtain rfl := List.mem_singleton.mp hrow
      exact ⟨r, hr, hc, id, htruthy, rfl⟩

theorem SidebarEntries.mono {rows' : List Record} {cache : JsMap (Option Value)}
    (h : SidebarEntries records rows cache) (hsub : rows ⊆ rows') :
    SidebarEntries records rows' cache := fun label id hmem => by
  obtain ⟨r, hr, hms, hl, row, hrow, hm, hid⟩ := h label id hmem
  exact ⟨r, hr, hms, hl, row, hsub hrow, hm, hid⟩

theorem ParentEntries.mono {rows' : List Record} {cache : JsMap String}
    (h : ParentEntries records rows cache) (hsub : rows ⊆ rows') :
    ParentEntries records rows' cache := fun parent id hmem => by
  obtain ⟨hc, row, hrow, hl, hid⟩ := h parent id hmem
  exact ⟨hc, row, hsub hrow, hl, hid⟩

theorem SavedOnto.subset {c : Record → Prop} {current : List Record}
    (h : SavedOnto records rows c current) : rows ⊆ current := by
  obtain ⟨created, rfl, -⟩ := h
  exact List.subset_append_left _ _

theorem SavedOnto.mem {c : Record → Prop} {current : List Record}
    (h : SavedOnto records rows c current) {row : Record} (hrow : row ∈ current) :
    row ∈ rows ∨ ∃ r ∈ records, c r ∧ ∃ id, id.truthy ∧ row = r.set "id" id := by
  obtain ⟨created, rfl, -, hfrom⟩ := h
  exact (List.mem_append.mp hrow).imp_right (hfrom row)

theorem IdsTruthy.savedOnto {c : Record → Prop} {current : List Record} (hids : IdsTruthy rows)
    (h : SavedOnto records rows c current) : IdsTruthy current := fun row hrow => by
  rcases h.mem hrow with hrow | ⟨r, -, -, id, htruthy, rfl⟩
  · exact hids row hrow
  · exact ⟨id, by simp, htruthy⟩

end Invariants

section Loops

variable {findOne : List Record → Record → Option Record}
  {save : List Record → Record → Record × List Record} {records rows : List Record}

/-- What the first loop has established after the records `done`. -/
structure SidebarsEnsured (records rows done : List Record)
    (state : List Record × JsMap (Option Value)) : Prop where
  saved : SavedOnto records rows (fun r => isMiniSidebar r = true) state.1
  entries : SidebarEntries records state.1 state.2
  covered : ∀ r ∈ done, isMiniSidebar r = true →
    (∃ row ∈ state.1, Matches (sidebarWhere r) row) ∧ state.2.has (r.get? "label") = true

/-- What the second loop has established after the records `done`, from the rows `start`
the first loop left. -/
structure ParentsEnsured (records rows start done : List Record)
    (state : List Record × JsMap String) : Prop where
  saved : SavedOnto records rows (Creatable records) state.1
  fromStart : start ⊆ state.1
  entries : ParentEntries records state.1 state.2
  covered : ∀ c ∈ done, ∀ parent, stringRef "parent" c = some parent →
    ((∃ row ∈ start, row.get? "label" = some (.str parent)) ∨
      ∃ r ∈ records, r.get? "label" = some (.str parent)) → state.2.has parent = true

theorem SidebarsEnsured.step (hfind : FindsMatch findOne) (hsave : InsertsNew save)
    {done : List Record} {state : List Record × JsMap (Option Value)} {record : Record}
    (hrec : record ∈ records) (hid : record.get? "id" = none)
    (h : SidebarsEnsured records rows done state) :
    SidebarsEnsured records rows (done ++ [record]) (ensureSidebar findOne save state record) := by
  rcases ensureSidebar_cases hfind hsave state hid with
    ⟨hms, hstep⟩ | ⟨row, added, hms, hm, hmem, hstep, hadded⟩
  · rw [hstep]
    refine ⟨h.saved, h.entries, fun r hr hr' => ?_⟩
    rcases List.mem_append.mp hr with hr | hr
    · exact h.covered r hr hr'
    · rw [List.mem_singleton.mp hr, hms] at hr'
      cases hr'
  · rw [hstep]
    have hsub : state.1 ⊆ state.1 ++ added := List.subset_append_left _ _
    refine ⟨?_, fun label id hentry => ?_, fun r hr hr' => ?_⟩
    · rcases hadded with rfl | ⟨id, htruthy, rfl, rfl, hnone⟩
      · simpa using h.saved
      · refine h.saved.snoc hrec hms htruthy fun r' _ hms' id' hmem' hl => hnone _ hmem' ?_
        exact matches_sidebarWhere.mpr ⟨by simpa using hms', fun v hv => by simpa [hl] using hv⟩
    · rcases List.mem_cons.mp hentry with he | he
      · obtain ⟨rfl, rfl⟩ := Prod.mk.inj he
        exact ⟨record, hrec, hms, rfl, row, hmem, hm, rfl⟩
      · exact h.entries.mono hsub label id he
    · rcases List.mem_append.mp hr with hr | hr
      · obtain ⟨⟨row', hrow', hm'⟩, hhas⟩ := h.covered r hr hr'
        exact ⟨⟨row', hsub hrow', hm'⟩, by simp [hhas]⟩
      · obtain rfl := List.mem_singleton.mp hr
        exact ⟨⟨row, hmem, hm⟩, by simp⟩

theorem ParentsEnsured.step (hfind : FindsMatch findOne) (hsave : InsertsNew save)
    (hfresh : ∀ r ∈ records, r.get? "id" = none) {start done : List Record}
    {state : List Record × JsMap String} {record : Record} (hrec : record ∈ records)
    (h : ParentsEnsured records rows start done state) :
    ParentsEnsured records rows start (done ++ [record])
      (ensureParent findOne save records state record) := by
  have hknown : ∀ parent, stringRef "parent" record = some parent →
      ((∃ row ∈ start, row.get? "label" = some (.str parent)) ∨
        ∃ r ∈ records, r.get? "label" = some (.str parent)) →
      (ensureParent findOne save records state record).2.has parent = true :=
    fun parent hp hin => has_ensureParent hfind hp
      (hin.imp_left fun ⟨row, hrow, hl⟩ => ⟨row, h.fromStart hrow, hl⟩)
  rcases ensureParent_cases hfind hsave hfresh state record with
    hstep | ⟨parent, row, added, hp, -, hl, hmem, hstep, hadded⟩
  · rw [hstep] at hknown ⊢
    refine ⟨h.saved, h.fromStart, h.entries, fun c hc => ?_⟩
    rcases List.mem_append.mp hc with hc | hc
    · exact h.covered c hc
    · rw [List.mem_singleton.mp hc]
      exact hknown
  · rw [hstep] at hknown ⊢
    have hsub : state.1 ⊆ state.1 ++ added := List.subset_append_left _ _
    refine ⟨?_, h.fromStart.trans hsub, fun name id hentry => ?_, fun c hc => ?_⟩
    · rcases hadded with rfl | ⟨parentRecord, hpr, id, htruthy, rfl, rfl, hnone⟩
      · simpa using h.saved
      · have hlabel : parentRecord.get? "label" = some (.str parent) := by simpa using hl
        refine h.saved.snoc hpr (.inr ⟨record, hrec, parent, hp, hlabel⟩) htruthy
          fun r' _ _ id' hmem' hl' => hnone _ hmem' ?_
        simpa [hlabel] using hl'
    · rcases List.mem_cons.mp hentry with he | he
      · obtain ⟨rfl, rfl⟩ := Prod.mk.inj he
        exact ⟨⟨record, hrec, hp⟩, row, hmem, hl, rfl⟩
      · exact h.entries.mono hsub name id he
    · rcases List.mem_append.mp hc with hc | hc
      · exact fun name hname hin => by simp [h.covered c hc name hname hin]
      · rw [List.mem_singleton.mp hc]
        exact hknown

theorem sidebarsEnsured_foldl (hfind : FindsMatch findOne) (hsave : InsertsNew save)
    (hfresh : ∀ r ∈ records, r.get? "id" = none) (rows : List Record) :
    SidebarsEnsured records rows records
      (records.foldl (ensureSidebar findOne save) (rows, [])) := by
  simpa only [List.nil_append] using foldl_induct (SidebarsEnsured records rows) records []
    (fun _ _ record hrec h => h.step hfind hsave hrec (hfresh record hrec))
    ⟨⟨[], by simp, List.nodup_nil, by simp⟩, fun _ _ h => absurd h (List.not_mem_nil _),
      fun _ h => absurd h (List.not_mem_nil _)⟩

theorem parentsEnsured_foldl (hfind : FindsMatch findOne) (hsave : InsertsNew save)
    (hfresh : ∀ r ∈ records, r.get? "id" = none) {start : List Record}
    (hstart : SavedOnto records rows (Creatable records) start) :
    ParentsEnsured records rows start records
      (records.foldl (ensureParent findOne save records) (start, [])) := by
  simpa only [List.nil_append] using foldl_induct (ParentsEnsured records rows start) records []
    (fun _ _ _ hrec h => h.step hfind hsave hfresh hrec)
    ⟨hstart, List.Subset.refl _, fun _ _ h => absurd h (List.not_mem_nil _),
      fun _ h => absurd h (List.not_mem_nil _)⟩

end Loops

/-! ### The third loop -/

theorem get?_resolveRef_of_ne {lookup : String → Option Value} {field key : String}
    (record : Record) (h : key ≠ field) :
    (resolveRef lookup field record).get? key = record.get? key := by
  unfold resolveRef
  cases stringRef field record with
  | none => rfl
  | some name =>
    dsimp only
    cases lookup name with
    | none => simp [h]
    | some id => dsimp only; split <;> simp [h]

theorem get?_resolveRef_self {lookup : String → Option Value} {field name : String}
    {record : Record} (h : stringRef field record = some name) :
    (resolveRef lookup field record).get? field =
      (lookup name).bind fun id => if id.truthy then some (.obj [("id", id)]) else none := by
  unfold resolveRef
  rw [h]
  dsimp only
  cases lookup name with
  | none => simp
  | some id => dsimp only; split <;> simp [*]

theorem isSome_bind_truthy (lookup : Option Value) :
    (lookup.bind fun id => if id.truthy then some (Value.obj [("id", id)]) else none).isSome ↔
      ∃ id, lookup = some id ∧ id.truthy := by
  cases lookup with
  | none => simp
  | some id => by_cases h : id.truthy <;> simp [h]

theorem labelName_eq_some {record : Record} {label : String} :
    labelName record = some label ↔ record.get? "label" = some (.str label) := by
  unfold labelName
  split <;> simp_all

/-- What the call may make of the reference `field` of a batch record: a string reference
is deleted, or replaced by `{ id }` with an `id` that `fits` the name; any other value is
left as it was. -/
def RefResolved (fits : String → Value → Prop) (field : String) (record result : Record) :
    Prop :=
  match stringRef field record with
  | some name => result.get? field = none ∨
      ∃ id, fits name id ∧ result.get? field = some (.obj [("id", id)])
  | none => result.get? field = record.get? field

theorem refResolved_resolveRef {fits : String → Value → Prop} {lookup : String → Option Value}
    {field : String} {record : Record}
    (hfits : ∀ name id, lookup name = some id → fits name id) :
    RefResolved fits field record (resolveRef lookup field record) := by
  unfold RefResolved
  cases h : stringRef field record with
  | none => simp [resolveRef, h]
  | some name =>
    dsimp only
    rw [get?_resolveRef_self h]
    cases hl : lookup name with
    | none => exact .inl rfl
    | some id =>
      by_cases ht : id.truthy
      · exact .inr ⟨id, hfits name id hl, by simp [ht]⟩
      · exact .inl (by simp [ht])

theorem RefResolved.of_get?_eq {fits : String → Value → Prop} {field : String}
    {record record' result result' : Record} (h : record.get? field = record'.get? field)
    (hres : result.get? field = result'.get? field)
    (h' : RefResolved fits field record' result') : RefResolved fits field record result := by
  unfold RefResolved stringRef at *
  rwa [h, hres]

/-- What a returned record is of its batch record: the same but for `sidebar` and `parent`;
a sidebar resolved only to a stored Mini Sidebar with the name, which a Mini Sidebar of the
batch has, and a parent only to a stored row with the name. -/
structure Returned (records rows : List Record) (record result : Record) : Prop where
  unchanged : ∀ key, key ≠ "sidebar" → key ≠ "parent" → result.get? key = record.get? key
  sidebar : RefResolved (fun name id =>
      (∃ r ∈ records, isMiniSidebar r = true ∧ r.get? "label" = some (.str name)) ∧
      ∃ row ∈ rows, isMiniSidebar row = true ∧ row.get? "label" = some (.str name) ∧
        row.get? "id" = some id) "sidebar" record result
  parent : RefResolved (fun name id => ∃ row ∈ rows, row.get? "label" = some (.str name) ∧
      row.get? "id" = some id) "parent" record result

theorem returned_transformRecord {records rows : List Record}
    {sidebars : JsMap (Option Value)} {parents : JsMap String}
    (hs : SidebarEntries records rows sidebars) (hp : ParentEntries records rows parents)
    (record : Record) : Returned records rows record (transformRecord sidebars parents record) where
  unchanged key hsidebar hparent := by
    rw [transformRecord, get?_resolveRef_of_ne _ hparent, get?_resolveRef_of_ne _ hsidebar]
  sidebar := by
    refine RefResolved.of_get?_eq rfl (get?_resolveRef_of_ne _ (by decide))
      (refResolved_resolveRef fun name id hl => ?_)
    obtain ⟨r, hr, hms, hlabel, row, hrow, hm, hid⟩ := hs _ _ (JsMap.mem_of_get_eq_some hl)
    obtain ⟨hrowms, hrowlabel⟩ := matches_sidebarWhere.mp hm
    exact ⟨⟨r, hr, hms, hlabel⟩, row, hrow, hrowms, hrowlabel _ hlabel, hid⟩
  parent := by
    refine RefResolved.of_get?_eq (get?_resolveRef_of_ne _ (by decide)).symm rfl
      (refResolved_resolveRef fun name id hl => ?_)
    obtain ⟨-, row, hrow, hlabel, hid⟩ := hp _ _ (JsMap.mem_of_get_eq_some hl)
    exact ⟨row, hrow, hlabel, hid⟩

/-! ### The call -/

/-- Whether the call returns a record of the batch, said of the batch alone: it is not a
Mini Sidebar, and no record of the batch names its label as its parent. -/
def Kept (records : List Record) (record : Record) : Bool :=
  !isMiniSidebar record &&
    !(labelName record).any fun label => records.any fun c => stringRef "parent" c = some label

section Call

variable {findOne : List Record → Record → Option Record}
  {save : List Record → Record → Record × List Record} {records : List Record}

theorem isNewRecord_eq_kept {rows start : List Record} {state : List Record × JsMap String}
    (h : ParentsEnsured records rows start records state) {record : Record}
    (hrec : record ∈ records) : isNewRecord state.2 record = Kept records record := by
  unfold isNewRecord Kept
  cases hl : labelName record with
  | none => rfl
  | some label =>
    suffices state.2.has label = records.any fun c => stringRef "parent" c = some label by
      simp [this]
    refine Bool.eq_iff_iff.mpr ⟨fun hhas => ?_, fun hany => ?_⟩
    · obtain ⟨v, hv⟩ := JsMap.exists_mem_of_has hhas
      obtain ⟨⟨c, hc, hp⟩, -⟩ := h.entries label v hv
      exact List.any_eq_true.mpr ⟨c, hc, decide_eq_true hp⟩
    · obtain ⟨c, hc, hp⟩ := List.any_eq_true.mp hany
      exact h.covered c hc label (of_decide_eq_true hp) (.inr ⟨record, hrec, labelName_eq_some.mp hl⟩)

/-- A run in one place: the states its two loops end in, what they establish, and the call's
result made of them. -/
theorem transformRecords_run (hfind : FindsMatch findOne) (hsave : InsertsNew save)
    (hfresh : ∀ r ∈ records, r.get? "id" = none) (rows : List Record) :
    ∃ sidebars parents, SidebarsEnsured records rows records sidebars ∧
      ParentsEnsured records rows sidebars.1 records parents ∧
      transformRecords findOne save records rows =
        ((records.filter (Kept records)).map (transformRecord sidebars.2 parents.2), parents.1) := by
  have h1 := sidebarsEnsured_foldl hfind hsave hfresh rows
  have h2 := parentsEnsured_foldl hfind hsave hfresh (h1.saved.mono fun _ => .inl)
  refine ⟨_, _, h1, h2, ?_⟩
  rw [transformRecords, List.filter_congr fun r hr => isNewRecord_eq_kept h2 hr]

/-- A menu table holding a Mini Sidebar and a dropdown, and a bootstrap batch that lists both
again, an item under the stored dropdown, and an item under a dropdown only the batch has,
on a sidebar the batch does not list. -/
def storedMenus : List Record :=
  [[("id", .num 1), ("type", .str "Mini Sidebar"), ("label", .str "Main")],
   [("id", .num 2), ("type", .str "Dropdown Menu"), ("label", .str "Settings")]]

def menuBatch : List Record :=
  [[("type", .str "Mini Sidebar"), ("label", .str "Main")],
   [("type", .str "Dropdown Menu"), ("label", .str "Settings"), ("sidebar", .str "Main"),
     ("icon", .str "lucide:settings")],
   [("type", .str "Menu"), ("label", .str "Users"), ("sidebar", .str "Main"),
     ("parent", .str "Settings")],
   [("type", .str "Menu"), ("label", .str "Logs"), ("sidebar", .str "Ops"),
     ("parent", .str "Audit")],
   [("type", .str "Dropdown Menu"), ("label", .str "Audit"), ("sidebar", .str "Main")]]

/-- The records the call returns are, in batch order, the records of the batch that are not
Mini Sidebars and whose label no record of the batch names as its parent, whatever the
repository holds; each is its batch record with only its references rewritten, a sidebar to
the `id` of a stored Mini Sidebar that the batch lists, a parent to the `id` of a stored
row with that label. -/
theorem transformRecords_returns (hfind : FindsMatch findOne) (hsave : InsertsNew save)
    (hfresh : ∀ r ∈ records, r.get? "id" = none) (rows : List Record) :
    List.Forall₂ (Returned records (transformRecords findOne save records rows).2)
      (records.filter (Kept records)) (transformRecords findOne save records rows).1 := by
  obtain ⟨sidebars, parents, h1, h2, hrun⟩ := transformRecords_run hfind hsave hfresh rows
  rw [hrun, List.forall₂_map_right_iff, List.forall₂_same]
  exact fun record _ => returned_transformRecord (h1.entries.mono h2.fromStart) h2.entries record

theorem transformRecords_returns_menus :
    FindsMatch firstMatch ∧ InsertsNew autoIncrement ∧ (∀ r ∈ menuBatch, r.get? "id" = none) ∧
      List.Forall₂
        (Returned menuBatch (transformRecords firstMatch autoIncrement menuBatch storedMenus).2)
        (menuBatch.filter (Kept menuBatch))
        (transformRecords firstMatch autoIncrement menuBatch storedMenus).1 :=
  ⟨firstMatch_findsMatch, autoIncrement_insertsNew, by decide,
    transformRecords_returns firstMatch_findsMatch autoIncrement_insertsNew (by decide)
      storedMenus⟩

/- The stored dropdown is not returned, so its new icon is never upserted, and the sidebar
the batch does not list is deleted. -/
example : (transformRecords firstMatch autoIncrement menuBatch storedMenus).1 =
    [[("type", .str "Menu"), ("label", .str "Users"), ("sidebar", .obj [("id", .num 1)]),
       ("parent", .obj [("id", .num 2)])],
     [("type", .str "Menu"), ("label", .str "Logs"), ("parent", .obj [("id", .num 3)])]] := by
  decide

/-- When the stored rows have truthy ids, a reference resolves exactly when it can: a
sidebar when the batch holds a Mini Sidebar with the name, a parent when a row with the name
was stored or the batch holds a record with it. -/
theorem transformRecords_resolves (hfind : FindsMatch findOne) (hsave : InsertsNew save)
    (hfresh : ∀ r ∈ records, r.get? "id" = none) {rows : List Record} (hids : IdsTruthy rows) :
    List.Forall₂ (fun record result =>
      (∀ name, stringRef "sidebar" record = some name → ((result.get? "sidebar").isSome ↔
        ∃ r ∈ records, isMiniSidebar r = true ∧ r.get? "label" = some (.str name))) ∧
      (∀ name, stringRef "parent" record = some name → ((result.get? "parent").isSome ↔
        (∃ row ∈ rows, row.get? "label" = some (.str name)) ∨
          ∃ r ∈ records, r.get? "label" = some (.str name))))
      (records.filter (Kept records)) (transformRecords findOne save records rows).1 := by
  obtain ⟨sidebars, parents, h1, h2, hrun⟩ := transformRecords_run hfind hsave hfresh rows
  rw [hrun, List.forall₂_map_right_iff, List.forall₂_same]
  intro record hrec
  have hrec := (List.mem_filter.mp hrec).1
  have hstored : IdsTruthy parents.1 := hids.savedOnto h2.saved
  have hsidebars := h1.entries.mono h2.fromStart
  refine ⟨fun name hname => ?_, fun name hname => ?_⟩
  · rw [transformRecord, get?_resolveRef_of_ne _ (by decide), get?_resolveRef_self hname,
      isSome_bind_truthy]
    constructor
    · rintro ⟨id, hget, -⟩
      obtain ⟨r, hr, hms, hlabel, -⟩ := hsidebars _ _ (JsMap.mem_of_get_eq_some hget)
      exact ⟨r, hr, hms, hlabel⟩
    · rintro ⟨r, hr, hms, hlabel⟩
      have hhas := (h1.covered r hr hms).2
      rw [hlabel] at hhas
      obtain ⟨-, -, -, -, row, hrow, -, hid⟩ := hsidebars _ _ (JsMap.mem_get_of_has hhas)
      obtain ⟨id, hrowid, htruthy⟩ := hstored row hrow
      exact ⟨id, hid ▸ hrowid, htruthy⟩
  · rw [transformRecord, get?_resolveRef_self
      (by rwa [stringRef, get?_resolveRef_of_ne _ (by decide)]), isSome_bind_truthy]
    constructor
    · rintro ⟨id, hget, -⟩
      obtain ⟨-, row, hrow, hlabel, -⟩ := h2.entries _ _ (JsMap.mem_of_get_eq_some hget)
      rcases h2.saved.mem hrow with hrow | ⟨r, hr, -, id', -, rfl⟩
      · exact .inl ⟨row, hrow, hlabel⟩
      · exact .inr ⟨r, hr, by simpa using hlabel⟩
    · intro hin
      have hhas := h2.covered record hrec name hname
        (hin.imp_left fun ⟨row, hrow, hl⟩ => ⟨row, h1.saved.subset hrow, hl⟩)
      obtain ⟨-, row, hrow, -, hid⟩ := h2.entries _ _ (JsMap.mem_get_of_has hhas)
      obtain ⟨id, hrowid, htruthy⟩ := hstored row hrow
      exact ⟨id, hid ▸ hrowid, htruthy⟩

theorem transformRecords_resolves_menus :
    FindsMatch firstMatch ∧ InsertsNew autoIncrement ∧ (∀ r ∈ menuBatch, r.get? "id" = none) ∧
      IdsTruthy storedMenus ∧
      List.Forall₂ (fun record result =>
        (∀ name, stringRef "sidebar" record = some name → ((result.get? "sidebar").isSome ↔
          ∃ r ∈ menuBatch, isMiniSidebar r = true ∧ r.get? "label" = some (.str name))) ∧
        (∀ name, stringRef "parent" record = some name → ((result.get? "parent").isSome ↔
          (∃ row ∈ storedMenus, row.get? "label" = some (.str name)) ∨
            ∃ r ∈ menuBatch, r.get? "label" = some (.str name))))
        (menuBatch.filter (Kept menuBatch))
        (transformRecords firstMatch autoIncrement menuBatch storedMenus).1 :=
  ⟨firstMatch_findsMatch, autoIncrement_insertsNew, by decide, by decide,
    transformRecords_resolves firstMatch_findsMatch autoIncrement_insertsNew (by decide)
      (by decide)⟩

/-- The rows a run saves are records of the batch as they came, each a Mini Sidebar or the
parent of a record of the batch, given a truthy `id`; they go after the stored rows, and no
two of them have one label. -/
theorem transformRecords_saves (hfind : FindsMatch findOne) (hsave : InsertsNew save)
    (hfresh : ∀ r ∈ records, r.get? "id" = none) (rows : List Record) :
    SavedOnto records rows (Creatable records) (transformRecords findOne save records rows).2 := by
  obtain ⟨sidebars, parents, -, h2, hrun⟩ := transformRecords_run hfind hsave hfresh rows
  rw [hrun]
  exact h2.saved

theorem transformRecords_saves_menus :
    FindsMatch firstMatch ∧ InsertsNew autoIncrement ∧ (∀ r ∈ menuBatch, r.get? "id" = none) ∧
      SavedOnto menuBatch storedMenus (Creatable menuBatch)
        (transformRecords firstMatch autoIncrement menuBatch storedMenus).2 :=
  ⟨firstMatch_findsMatch, autoIncrement_insertsNew, by decide,
    transformRecords_saves firstMatch_findsMatch autoIncrement_insertsNew (by decide)
      storedMenus⟩

/- The dropdown only the batch has is saved as it came, its sidebar still the string. -/
example : (transformRecords firstMatch autoIncrement menuBatch storedMenus).2 = storedMenus ++
    [[("type", .str "Dropdown Menu"), ("label", .str "Audit"), ("sidebar", .str "Main"),
      ("id", .num 3)]] := by
  decide

/-- The rows hold what the batch needs: a row matching each Mini Sidebar of the batch, and
a row with each parent name that a record of the batch has as its label. -/
def Covered (records rows : List Record) : Prop :=
  (∀ r ∈ records, isMiniSidebar r = true → ∃ row ∈ rows, Matches (sidebarWhere r) row) ∧
  ∀ c ∈ records, ∀ parent, stringRef "parent" c = some parent →
    (∃ r ∈ records, r.get? "label" = some (.str parent)) →
    ∃ row ∈ rows, row.get? "label" = some (.str parent)

theorem covered_transformRecords (hfind : FindsMatch findOne) (hsave : InsertsNew save)
    (hfresh : ∀ r ∈ records, r.get? "id" = none) (rows : List Record) :
    Covered records (transformRecords findOne save records rows).2 := by
  obtain ⟨sidebars, parents, h1, h2, hrun⟩ := transformRecords_run hfind hsave hfresh rows
  rw [hrun]
  refine ⟨fun r hr hms => ?_, fun c hc parent hp hin => ?_⟩
  · obtain ⟨⟨row, hrow, hm⟩, -⟩ := h1.covered r hr hms
    exact ⟨row, h2.fromStart hrow, hm⟩
  · obtain ⟨-, row, hrow, hlabel, -⟩ :=
      h2.entries _ _ (JsMap.mem_get_of_has (h2.covered c hc parent hp (.inr hin)))
    exact ⟨row, hrow, hlabel⟩

theorem ensureSidebar_fst_of_covered (hfind : FindsMatch findOne) (hsave : InsertsNew save)
    {state : List Record × JsMap (Option Value)} {record : Record}
    (hid : record.get? "id" = none)
    (h : isMiniSidebar record = true → ∃ row ∈ state.1, Matches (sidebarWhere record) row) :
    (ensureSidebar findOne save state record).1 = state.1 := by
  rcases ensureSidebar_cases hfind hsave state hid with
    ⟨-, hstep⟩ | ⟨row, added, hms, -, -, hstep, rfl | ⟨-, -, -, -, hnone⟩⟩
  · rw [hstep]
  · simp [hstep]
  · obtain ⟨row', hrow', hm⟩ := h hms
    exact absurd hm (hnone row' hrow')

theorem ensureParent_fst_of_covered (hfind : FindsMatch findOne) (hsave : InsertsNew save)
    (hfresh : ∀ r ∈ records, r.get? "id" = none) {state : List Record × JsMap String}
    {record : Record} (h : ∀ parent, stringRef "parent" record = some parent →
      (∃ r ∈ records, r.get? "label" = some (.str parent)) →
      ∃ row ∈ state.1, row.get? "label" = some (.str parent)) :
    (ensureParent findOne save records state record).1 = state.1 := by
  rcases ensureParent_cases hfind hsave hfresh state record with
    hstep | ⟨parent, row, added, hp, -, hl, -, hstep, rfl | ⟨parentRecord, hpr, id, -, rfl, -, hnone⟩⟩
  · rw [hstep]
  · simp [hstep]
  · obtain ⟨row', hrow', hl'⟩ := h parent hp ⟨parentRecord, hpr, by simpa using hl⟩
    exact absurd hl' (hnone row' hrow')

/-- On rows that hold what the batch needs, a run saves nothing. -/
theorem transformRecords_of_covered (hfind : FindsMatch findOne) (hsave : InsertsNew save)
    (hfresh : ∀ r ∈ records, r.get? "id" = none) {rows : List Record}
    (h : Covered records rows) : (transformRecords findOne save records rows).2 = rows := by
  have hsidebars : (records.foldl (ensureSidebar findOne save) (rows, [])).1 = rows :=
    foldl_inv (fun state : List Record × JsMap (Option Value) => state.1 = rows)
      (fun state record hrec hstate => (ensureSidebar_fst_of_covered hfind hsave
        (hfresh record hrec) fun hms => hstate ▸ h.1 record hrec hms).trans hstate) rfl
  exact foldl_inv (fun state : List Record × JsMap String => state.1 = rows)
    (fun state record hrec hstate => (ensureParent_fst_of_covered hfind hsave hfresh
      fun parent hp hin => hstate ▸ h.2 record hrec parent hp hin).trans hstate) hsidebars

/-- Running the bootstrap of a batch a second time saves nothing more. -/
theorem transformRecords_rerun (hfind : FindsMatch findOne) (hsave : InsertsNew save)
    (hfresh : ∀ r ∈ records, r.get? "id" = none) (rows : List Record) :
    (transformRecords findOne save records (transformRecords findOne save records rows).2).2 =
      (transformRecords findOne save records rows).2 :=
  transformRecords_of_covered hfind hsave hfresh (covered_transformRecords hfind hsave hfresh rows)

theorem transformRecords_rerun_menus :
    FindsMatch firstMatch ∧ InsertsNew autoIncrement ∧ (∀ r ∈ menuBatch, r.get? "id" = none) ∧
      (transformRecords firstMatch autoIncrement menuBatch
          (transformRecords firstMatch autoIncrement menuBatch storedMenus).2).2 =
        (transformRecords firstMatch autoIncrement menuBatch storedMenus).2 :=
  ⟨firstMatch_findsMatch, autoIncrement_insertsNew, by decide,
    transformRecords_rerun firstMatch_findsMatch autoIncrement_insertsNew (by decide)
      storedMenus⟩

/-- No two stored Mini Sidebars have one label. -/
def SidebarsUnique (rows : List Record) : Prop :=
  ((rows.filter isMiniSidebar).map (·.get? "label")).Nodup

instance (rows : List Record) : Decidable (SidebarsUnique rows) :=
  inferInstanceAs (Decidable (List.Nodup _))

theorem SidebarsUnique.snoc {rows : List Record} (h : SidebarsUnique rows) {row : Record}
    (hnew : isMiniSidebar row = true →
      ∀ r ∈ rows, isMiniSidebar r = true → r.get? "label" ≠ row.get? "label") :
    SidebarsUnique (rows ++ [row]) := by
  unfold SidebarsUnique
  cases hms : isMiniSidebar row
  · simpa [List.filter_append, hms] using h
  · simp only [List.filter_append, List.filter_singleton, hms, cond_true, List.map_append,
      List.nodup_append]
    refine ⟨h, List.nodup_singleton _, List.disjoint_singleton.mpr fun hmem => ?_⟩
    obtain ⟨r, hr, hl⟩ := List.mem_map.mp hmem
    obtain ⟨hr, hrms⟩ := List.mem_filter.mp hr
    exact hnew hms r hr hrms hl

theorem sidebarsUnique_ensureSidebar (hfind : FindsMatch findOne) (hsave : InsertsNew save)
    {state : List Record × JsMap (Option Value)} {record : Record}
    (hid : record.get? "id" = none) (h : SidebarsUnique state.1) :
    SidebarsUnique (ensureSidebar findOne save state record).1 := by
  rcases ensureSidebar_cases hfind hsave state hid with
    ⟨-, hstep⟩ | ⟨row, added, -, hm, -, hstep, rfl | ⟨id, -, rfl, rfl, hnone⟩⟩
  · rwa [hstep]
  · simpa [hstep] using h
  · rw [hstep]
    refine h.snoc fun _ r hr hrms hl => hnone r hr ?_
    exact matches_sidebarWhere.mpr ⟨hrms, fun v hv => by simpa [hl] using hv⟩

theorem sidebarsUnique_ensureParent (hfind : FindsMatch findOne) (hsave : InsertsNew save)
    (hfresh : ∀ r ∈ records, r.get? "id" = none) {state : List Record × JsMap String}
    {record : Record} (h : SidebarsUnique state.1) :
    SidebarsUnique (ensureParent findOne save records state record).1 := by
  rcases ensureParent_cases hfind hsave hfresh state record with
    hstep | ⟨parent, row, added, -, -, hl, -, hstep, rfl | ⟨-, -, id, -, -, rfl, hnone⟩⟩
  · rwa [hstep]
  · simpa [hstep] using h
  · rw [hstep]
    exact h.snoc fun _ r hr _ hl' => hnone r hr (hl' ▸ hl)

/-- A run keeps the Mini Sidebars of the repository apart by label: it stores a second one
with a label neither for a sidebar listed twice nor for one already stored. -/
theorem transformRecords_sidebarsUnique (hfind : FindsMatch findOne) (hsave : InsertsNew save)
    (hfresh : ∀ r ∈ records, r.get? "id" = none) {rows : List Record}
    (h : SidebarsUnique rows) : SidebarsUnique (transformRecords findOne save records rows).2 :=
  foldl_inv (fun state : List Record × JsMap String => SidebarsUnique state.1)
    (fun _ _ _ => sidebarsUnique_ensureParent hfind hsave hfresh)
    (foldl_inv (fun state : List Record × JsMap (Option Value) => SidebarsUnique state.1)
      (fun _ record hrec => sidebarsUnique_ensureSidebar hfind hsave (hfresh record hrec)) h)

theorem transformRecords_sidebarsUnique_menus :
    FindsMatch firstMatch ∧ InsertsNew autoIncrement ∧ (∀ r ∈ menuBatch, r.get? "id" = none) ∧
      SidebarsUnique storedMenus ∧
      SidebarsUnique (transformRecords firstMatch autoIncrement menuBatch storedMenus).2 :=
  ⟨firstMatch_findsMatch, autoIncrement_insertsNew, by decide, by decide,
    transformRecords_sidebarsUnique firstMatch_findsMatch autoIncrement_insertsNew (by decide)
      (by decide)⟩

end Call

end Enfyra.MenuDefinitionProcessor
