import Mathlib.Data.List.Nodup
import Enfyra.Metadata

/-!
The record transforms of `KnexService` that its default hooks chain together:
`transformRelationsToFK`, `stripUnknownColumns`, `convertDateFields`,
`stripNonUpdatableFields` and the timestamp stamping of the last insert and update hooks.
Each is a function of the environment (the cached metadata and the host's date
formatting) and of one value; the `async` wrappers and the awaiting are added by the hook
chains in `Enfyra.Knex.Hooks`.

Each transform gets a lemma saying which properties it can touch, so that the chains'
theorems never unfold a transform again.
-/

namespace Enfyra.KnexService

variable (env : Env)

/-- What `transformRelationsToFK` writes into the foreign-key column for the value of a
to-one relation key: `null` for `null`, `value.id` for an object that has an id, the
value itself for a number or a string. `none` means the key is only deleted. -/
def foreignKeyValue : Value → Option Value
  | .null => some .null
  | .num n => some (.num n)
  | .str s => some (.str s)
  | .obj fs => Record.get? fs "id"
  | _ => none

/-- One pass of the first loop of `transformRelationsToFK`, for one relation. -/
def toForeignKey (transformed : Record) (relation : RelationMeta) : Record :=
  if relation.type.isToOne then
    match transformed.get? relation.propertyName with
    | some relValue =>
        match foreignKeyValue relValue with
        | some id => (transformed.set relation.fkColumn id).erase relation.propertyName
        | none => transformed.erase relation.propertyName
    | none => transformed
  else transformed

/-- One pass of the second loop: a to-many key is not a column of the owner. -/
def dropToMany (transformed : Record) (relation : RelationMeta) : Record :=
  if relation.type.isToMany then transformed.erase relation.propertyName else transformed

def transformRelationsToFK (tableName : String) (data : Value) : Value :=
  if tableName = "" then data else
  match env.metadata.lookup tableName with
  | none => data
  | some table =>
      .obj (table.relations.foldl dropToMany (table.relations.foldl toForeignKey data.spread))

/-- The declared columns and the declared foreign-key columns of the relations. -/
def validColumns (table : TableMetadata) : List String :=
  table.columns.map (·.name) ++ table.relations.filterMap (fun r => present r.foreignKeyColumn)

def stripUnknownColumns (tableName : String) (data : Value) : Value :=
  if tableName = "" then data else
  match env.metadata.lookup tableName with
  | none => data
  | some table => .obj (data.spread.filter (fun p => decide (p.1 ∈ validColumns table)))

/-- The column types whose string values `convertDateFields` reformats. -/
def isDateType (type : String) : Bool :=
  type = "date" || type = "datetime" || type = "timestamp"

/-- `date.toISOString().split('T')[0]`. -/
def datePart (iso : String) : String := (iso.splitOn "T").headD ""

/-- The first occurrence of a character replaced, as `String.prototype.replace` does with
a one-character pattern. -/
def replaceFirst (c d : Char) : List Char → List Char
  | [] => []
  | x :: xs => if x = c then d :: xs else x :: replaceFirst c d xs

/-- `date.toISOString().slice(0, 19).replace('T', ' ')`. -/
def dateTimePart (iso : String) : String := ⟨replaceFirst 'T' ' ' (iso.take 19).toList⟩

/-- One pass of the loop of `convertDateFields`: a date-typed column holding a string with
a `T` is reformatted, and an invalid date throws. -/
def convertColumn (converted : Record) (column : ColumnMeta) : Except Err Record :=
  match converted.get? column.name with
  | some (.str s) =>
      if isDateType column.type && s.toList.contains 'T' then
        match env.toISOString s with
        | some iso => .ok (converted.set column.name
            (.str (if column.type = "date" then datePart iso else dateTimePart iso)))
        | none => .error .invalidTimeValue
      else .ok converted
  | _ => .ok converted

def convertDateFields (tableName : String) (data : Value) : Except Err Value :=
  if tableName = "" || !data.truthy then .ok data else
  match env.metadata.lookup tableName with
  | none => .ok data
  | some table => .obj <$> table.columns.foldlM (convertColumn env) data.spread

def stripNonUpdatableFields (tableName : String) (data : Value) : Value :=
  if tableName = "" then data else
  match env.metadata.lookup tableName with
  | none => data
  | some table => .obj (table.columns.foldl
      (fun (stripped : Record) column =>
        if column.isUpdatable = some false then stripped.erase column.name else stripped)
      data.spread)

/-- The six names the timestamp hooks destructure away. -/
def timestampFields : List String :=
  ["createdAt", "updatedAt", "created_at", "updated_at", "CreatedAt", "UpdatedAt"]

/-- `knex.raw('CURRENT_TIMESTAMP')`. -/
def currentTimestamp : Value := .raw "CURRENT_TIMESTAMP"

/-- `const { createdAt, updatedAt, created_at, updated_at, CreatedAt, UpdatedAt, ...rest } = v`. -/
def withoutTimestamps : Value → Except Err Record
  | .null => .error .destructureNull
  | v => .ok (v.spread.filter (fun p => decide (p.1 ∉ timestampFields)))

/-- The record the insert timestamp hook builds:
`{ ...cleanRecord, createdAt: now, updatedAt: now }`. -/
def stampInsert (record : Value) : Except Err Value := do
  let clean ← withoutTimestamps record
  pure (.obj ((clean.set "createdAt" currentTimestamp).set "updatedAt" currentTimestamp))

/-- The record the update timestamp hook builds: `{ ...data, updatedAt: raw }`. -/
def stampUpdate (data : Value) : Value :=
  .obj (data.spread.set "updatedAt" currentTimestamp)

/-! ### What each transform touches -/

theorem toForeignKey_get?_of_ne (transformed : Record) (relation : RelationMeta) {key : String}
    (hprop : key ≠ relation.propertyName) (hfk : key ≠ relation.fkColumn) :
    (toForeignKey transformed relation).get? key = transformed.get? key := by
  unfold toForeignKey
  split
  · split
    · split <;> simp [hprop, hfk]
    · rfl
  · rfl

theorem toForeignKey_get?_prop (transformed : Record) {relation : RelationMeta}
    (hone : relation.type.isToOne = true) :
    (toForeignKey transformed relation).get? relation.propertyName = none := by
  unfold toForeignKey
  rw [if_pos hone]
  split
  · split <;> simp
  · assumption

/-- The foreign-key column after one pass: written when the relation key holds a value
with an identity, otherwise as before. -/
theorem toForeignKey_get?_fk (transformed : Record) {relation : RelationMeta}
    (hone : relation.type.isToOne = true) (hfk : relation.fkColumn ≠ relation.propertyName) :
    (toForeignKey transformed relation).get? relation.fkColumn =
      match transformed.get? relation.propertyName with
      | some relValue => (foreignKeyValue relValue).orElse fun _ => transformed.get? relation.fkColumn
      | none => transformed.get? relation.fkColumn := by
  unfold toForeignKey
  rw [if_pos hone]
  split
  · rename_i relValue _
    cases h : foreignKeyValue relValue <;> simp [hfk]
  · rfl

theorem toForeignKey_of_not_toOne (transformed : Record) {relation : RelationMeta}
    (h : relation.type.isToOne = false) : toForeignKey transformed relation = transformed := by
  simp [toForeignKey, h]

theorem toForeignKey_of_absent (transformed : Record) {relation : RelationMeta}
    (h : transformed.get? relation.propertyName = none) :
    toForeignKey transformed relation = transformed := by
  unfold toForeignKey
  split <;> simp [h]

theorem dropToMany_get? (transformed : Record) (relation : RelationMeta) (key : String) :
    (dropToMany transformed relation).get? key =
      if relation.type.isToMany ∧ key = relation.propertyName then none
      else transformed.get? key := by
  unfold dropToMany
  by_cases hm : relation.type.isToMany <;> by_cases hk : key = relation.propertyName <;>
    simp [hm, hk]

/-- The second loop leaves every key that is not a to-many property. -/
theorem foldl_dropToMany_get? (relations : List RelationMeta) (transformed : Record)
    (key : String) :
    (relations.foldl dropToMany transformed).get? key =
      if ∃ r ∈ relations, r.type.isToMany ∧ key = r.propertyName then none
      else transformed.get? key := by
  induction relations generalizing transformed with
  | nil => simp
  | cons r rest ih =>
      simp only [List.foldl_cons, ih, dropToMany_get?, List.mem_cons, exists_eq_or_imp]
      by_cases h : r.type.isToMany = true ∧ key = r.propertyName <;> simp [h]

theorem stripUnknownColumns_of_lookup {tableName : String} {table : TableMetadata}
    (hname : tableName ≠ "") (h : env.metadata.lookup tableName = some table) (data : Value) :
    stripUnknownColumns env tableName data =
      .obj (data.spread.filter (fun p => decide (p.1 ∈ validColumns table))) := by
  simp [stripUnknownColumns, hname, h]

theorem convertColumn_get? {converted result : Record} {column : ColumnMeta}
    (h : convertColumn env converted column = .ok result) (key : String) :
    result.get? key = converted.get? key ∨
      (key = column.name ∧ isDateType column.type = true ∧ converted.get? key ≠ none) := by
  unfold convertColumn at h
  split at h
  · rename_i s hs
    split at h
    · rename_i hdate
      split at h
      · cases h
        by_cases hk : key = column.name
        · subst hk
          exact Or.inr ⟨rfl, (Bool.and_eq_true_iff.mp hdate).1, by simp [hs]⟩
        · simp [hk]
      · cases h
    · cases h; simp
  · cases h; simp

/-- `convertDateFields`' loop changes only date-typed columns that already hold a value,
so it never adds a property. -/
theorem foldlM_convertColumn_get? {columns : List ColumnMeta} {converted result : Record}
    (h : columns.foldlM (convertColumn env) converted = .ok result) (key : String) :
    result.get? key = converted.get? key ∨
      ((∃ c ∈ columns, c.name = key ∧ isDateType c.type = true) ∧
        converted.get? key ≠ none) := by
  induction columns generalizing converted with
  | nil => simp_all [pure, Except.pure]
  | cons c rest ih =>
      rw [List.foldlM_cons] at h
      cases hc : convertColumn env converted c with
      | error e => simp [hc, bind, Except.bind] at h
      | ok mid =>
          simp only [hc, bind, Except.bind] at h
          have hrest : ∀ c' ∈ rest, c' ∈ c :: rest := fun c' h' => List.mem_cons_of_mem _ h'
          rcases convertColumn_get? env hc key with hm | ⟨hk, hd, hne⟩
          · rcases ih h with hr | ⟨⟨c', hc', hname, hd'⟩, hne'⟩
            · exact Or.inl (hr.trans hm)
            · exact Or.inr ⟨⟨c', hrest c' hc', hname, hd'⟩, hm ▸ hne'⟩
          · refine Or.inr ⟨⟨c, List.mem_cons_self _ _, hk.symm, hd⟩, hne⟩

theorem convertColumn_error {converted : Record} {column : ColumnMeta} {e : Err}
    (h : convertColumn env converted column = .error e) : e = .invalidTimeValue := by
  unfold convertColumn at h
  split at h
  · split at h
    · split at h
      · cases h
      · cases h; rfl
    · cases h
  · cases h

/-- The only error `convertDateFields`' loop raises is the invalid-date `RangeError`. -/
theorem foldlM_convertColumn_error {columns : List ColumnMeta} {converted : Record} {e : Err}
    (h : columns.foldlM (convertColumn env) converted = .error e) : e = .invalidTimeValue := by
  induction columns generalizing converted with
  | nil => cases h
  | cons c rest ih =>
      rw [List.foldlM_cons] at h
      cases hc : convertColumn env converted c with
      | error e' =>
          simp only [hc, bind, Except.bind] at h
          cases h
          exact convertColumn_error env hc
      | ok mid =>
          simp only [hc, bind, Except.bind] at h
          exact ih h

/-! ### The two loops of `transformRelationsToFK` -/

/-- A key that no to-one relation of the loop reads or writes keeps its value. -/
theorem foldl_toForeignKey_get?_of_forall {key : String} :
    ∀ (relations : List RelationMeta) (transformed : Record),
      (∀ r ∈ relations, r.type.isToOne = true → key ≠ r.propertyName ∧ key ≠ r.fkColumn) →
      (relations.foldl toForeignKey transformed).get? key = transformed.get? key
  | [], _, _ => rfl
  | r :: rest, transformed, h => by
      rw [List.foldl_cons, foldl_toForeignKey_get?_of_forall rest _
        (fun r' hr' => h r' (List.mem_cons_of_mem _ hr'))]
      cases hone : r.type.isToOne
      · rw [toForeignKey_of_not_toOne _ hone]
      · obtain ⟨hprop, hfk⟩ := h r (List.mem_cons_self _ _) hone
        exact toForeignKey_get?_of_ne _ _ hprop hfk

/-- Once written, a foreign-key column keeps its value through the rest of the loop
when every later relation writing the same column finds its key absent. -/
theorem foldl_toForeignKey_get?_keep {key : String} {value : Value} :
    ∀ (relations : List RelationMeta) (transformed : Record),
      transformed.get? key = some value →
      (∀ r ∈ relations, r.type.isToOne = true → key ≠ r.propertyName) →
      (∀ r ∈ relations, r.type.isToOne = true → ∀ r' ∈ relations, r.fkColumn ≠ r'.propertyName) →
      (∀ r ∈ relations, r.type.isToOne = true → r.fkColumn = key →
        transformed.get? r.propertyName = none) →
      (relations.foldl toForeignKey transformed).get? key = some value
  | [], _, h, _, _, _ => h
  | r :: rest, transformed, h, hprops, hfks, habsent => by
      have hmem : r ∈ r :: rest := List.mem_cons_self _ _
      have htail : ∀ r' ∈ rest, r' ∈ r :: rest := fun r' h' => List.mem_cons_of_mem _ h'
      rw [List.foldl_cons]
      cases hone : r.type.isToOne
      · rw [toForeignKey_of_not_toOne _ hone]
        exact foldl_toForeignKey_get?_keep rest transformed h (fun r' h' => hprops r' (htail r' h'))
          (fun r' h' ho r'' h'' => hfks r' (htail r' h') ho r'' (htail r'' h''))
          (fun r' h' => habsent r' (htail r' h'))
      · by_cases hkey : r.fkColumn = key
        · rw [toForeignKey_of_absent _ (habsent r hmem hone hkey)]
          exact foldl_toForeignKey_get?_keep rest transformed h
            (fun r' h' => hprops r' (htail r' h'))
            (fun r' h' ho r'' h'' => hfks r' (htail r' h') ho r'' (htail r'' h''))
            (fun r' h' => habsent r' (htail r' h'))
        · apply foldl_toForeignKey_get?_keep rest
          · rw [toForeignKey_get?_of_ne _ _ (hprops r hmem hone) (Ne.symm hkey)]
            exact h
          · exact fun r' h' => hprops r' (htail r' h')
          · exact fun r' h' ho r'' h'' => hfks r' (htail r' h') ho r'' (htail r'' h'')
          · intro r' h' ho' hk'
            by_cases hsame : r'.propertyName = r.propertyName
            · rw [hsame]; exact toForeignKey_get?_prop _ hone
            · rw [toForeignKey_get?_of_ne _ _ hsame (Ne.symm (hfks r hmem hone r' (htail r' h')))]
              exact habsent r' (htail r' h') ho' hk'

theorem nodup_map_split {α β : Type} {f : α → β} {pre post : List α} {a : α}
    (h : ((pre ++ a :: post).map f).Nodup) :
    (∀ x ∈ pre, f x ≠ f a) ∧ (∀ x ∈ post, f x ≠ f a) ∧ (∀ x ∈ pre, ∀ y ∈ post, f x ≠ f y) := by
  rw [List.map_append, List.map_cons, List.nodup_append, List.nodup_cons] at h
  obtain ⟨-, ⟨hnot, -⟩, hdisj⟩ := h
  refine ⟨fun x hx e => hdisj (List.mem_map_of_mem f hx) (e ▸ List.mem_cons_self _ _),
    fun x hx e => hnot (e ▸ List.mem_map_of_mem f hx),
    fun x hx y hy e => hdisj (List.mem_map_of_mem f hx) (e ▸ List.mem_cons_of_mem _ (List.mem_map_of_mem f hy))⟩

section Transformed

variable {relations : List RelationMeta}
  (hnodup : (relations.map (·.propertyName)).Nodup)
  (hfks : ∀ r ∈ relations, r.type.isToOne = true → ∀ r' ∈ relations,
    r.fkColumn ≠ r'.propertyName)
include hnodup hfks

/-- After both loops no relation property is left as a key. -/
theorem transformed_get?_prop (fields : Record) {relation : RelationMeta}
    (hmem : relation ∈ relations) :
    (relations.foldl dropToMany (relations.foldl toForeignKey fields)).get?
      relation.propertyName = none := by
  rw [foldl_dropToMany_get?]
  split
  · rfl
  · rename_i hnot
    have hone : relation.type.isToOne = true := by
      by_contra hfalse
      exact hnot ⟨relation, hmem, by simpa [RelationType.isToMany] using hfalse, rfl⟩
    obtain ⟨pre, post, rfl⟩ := List.append_of_mem hmem
    obtain ⟨-, hpost, -⟩ := nodup_map_split hnodup
    rw [List.foldl_append, List.foldl_cons, foldl_toForeignKey_get?_of_forall post _
      (fun r hr hr1 => ⟨(hpost r hr).symm, (hfks r (by simp [hr]) hr1 relation hmem).symm⟩)]
    exact toForeignKey_get?_prop _ hone

/-- The foreign-key column of a to-one relation holds the identity its key carried, when
no other to-one relation carried in the payload writes the same column. -/
theorem transformed_get?_fk {fields : Record} {relation : RelationMeta}
    (hmem : relation ∈ relations) (hone : relation.type.isToOne = true) {value id : Value}
    (hvalue : fields.get? relation.propertyName = some value)
    (hid : foreignKeyValue value = some id)
    (hshared : ∀ r ∈ relations, r.type.isToOne = true → r.fkColumn = relation.fkColumn →
      r.propertyName ≠ relation.propertyName → fields.get? r.propertyName = none) :
    (relations.foldl dropToMany (relations.foldl toForeignKey fields)).get?
      relation.fkColumn = some id := by
  rw [foldl_dropToMany_get?, if_neg (fun ⟨r, hr, _, he⟩ => hfks relation hmem hone r hr he)]
  obtain ⟨pre, post, rfl⟩ := List.append_of_mem hmem
  obtain ⟨hpre, hpost, hcross⟩ := nodup_map_split hnodup
  have hin : ∀ r, r ∈ pre ∨ r ∈ post → r ∈ pre ++ relation :: post := by
    intro r hr; rcases hr with hr | hr <;> simp [hr]
  have hframe : ∀ key, (∀ r ∈ pre, key ≠ r.propertyName) →
      (∀ r ∈ pre, r.type.isToOne = true → key ≠ r.fkColumn) →
      (pre.foldl toForeignKey fields).get? key = fields.get? key := fun key h1 h2 =>
    foldl_toForeignKey_get?_of_forall pre fields (fun r hr hr1 => ⟨h1 r hr, h2 r hr hr1⟩)
  have hpreProp : (pre.foldl toForeignKey fields).get? relation.propertyName = some value := by
    rw [hframe _ (fun r hr => (hpre r hr).symm)
      (fun r hr hr1 => (hfks r (hin r (.inl hr)) hr1 relation hmem).symm), hvalue]
  rw [List.foldl_append, List.foldl_cons]
  apply foldl_toForeignKey_get?_keep post
  · rw [toForeignKey_get?_fk _ hone (hfks relation hmem hone relation hmem), hpreProp]
    simp [hid]
  · exact fun r hr _ => hfks relation hmem hone r (hin r (.inr hr))
  · exact fun r hr hr1 r' hr' => hfks r (hin r (.inr hr)) hr1 r' (hin r' (.inr hr'))
  · intro r hr hr1 hk
    rw [toForeignKey_get?_of_ne _ _ (hpost r hr) (hfks relation hmem hone r (hin r (.inr hr))).symm,
      hframe _ (fun r' hr' => (hcross r' hr' r hr).symm)
        (fun r' hr' hr1' => (hfks r' (hin r' (.inl hr')) hr1' r (hin r (.inr hr))).symm)]
    exact hshared r (hin r (.inr hr)) hr1 (hk.trans rfl) (hpost r hr)

end Transformed

end Enfyra.KnexService
