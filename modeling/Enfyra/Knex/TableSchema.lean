import Mathlib.Data.List.Dedup
import Enfyra.Knex.SchemaIntrospection

/-!
How `DatabaseSchemaService` assembles a table's schema from the rows of the catalog:
`groupMySQLIndexes`, which groups the rows of `INFORMATION_SCHEMA.STATISTICS` into unique and
regular indexes, `transformForeignKeysToRelations`, which turns the rows of
`KEY_COLUMN_USAGE` into many-to-one relations, the column transforms of both dialects, the
marking of PostgreSQL's primary key columns, and `getActualTableSchema` over them.

The two groupings keep a JavaScript `Map` in insertion order. Each is shown to compute what it
is for, stated without the map: `groupMySQLIndexes` gives each index once, in the order of its
first row, with the columns of its rows in the order of the rows, and loses or repeats no row;
`transformForeignKeysToRelations` gives one relation per foreign key column, built from its
first row. The query behind `groupMySQLIndexes` passes `SEQ_IN_INDEX` as the second argument
of `orderBy`, which is the sort direction and not a second key, so the model takes the rows in
whatever order the database returns them; a group lists its columns in key order exactly when
the rows do.

The rows are the columns each query selects, with the catalog's types: names are strings, and
a column that may be `NULL` is a `Value`. The queries themselves are the database's and are
parameters.
-/

namespace Enfyra.DatabaseSchemaService

/-! ### Maps in insertion order -/

section Maps

variable {κ α : Type} [DecidableEq κ]

/-- `if (!map.has(key)) map.set(key, []); map.get(key)!.push(item)` on a `Map` of arrays,
in insertion order. -/
def pushTo (key : κ) (item : α) : List (κ × List α) → List (κ × List α)
  | [] => [(key, [item])]
  | (k, items) :: rest =>
      if k = key then (k, items ++ [item]) :: rest else (k, items) :: pushTo key item rest

/-- `if (!map.has(key)) map.set(key, value)`: the first value set for a key stays. -/
def setIfAbsent (key : κ) (value : α) : List (κ × α) → List (κ × α)
  | [] => [(key, value)]
  | (k, v) :: rest => if k = key then (k, v) :: rest else (k, v) :: setIfAbsent key value rest

/-- The keys of a list, each once, in the order of its first occurrence. -/
def firstKeys (keys : List κ) : List κ := keys.reverse.dedup.reverse

theorem firstKeys_append_singleton (keys : List κ) (k : κ) :
    firstKeys (keys ++ [k]) = if k ∈ keys then firstKeys keys else firstKeys keys ++ [k] := by
  unfold firstKeys
  rw [List.reverse_append, List.reverse_singleton, List.singleton_append]
  split_ifs with hk
  · rw [List.dedup_cons_of_mem (List.mem_reverse.mpr hk)]
  · rw [List.dedup_cons_of_not_mem (mt List.mem_reverse.mp hk), List.reverse_cons]

theorem nodup_firstKeys (keys : List κ) : (firstKeys keys).Nodup :=
  List.nodup_reverse.mpr (List.nodup_dedup _)

@[simp] theorem mem_firstKeys {keys : List κ} {k : κ} : k ∈ firstKeys keys ↔ k ∈ keys := by
  simp [firstKeys]

/-- What grouping is for: each key once, in the order of its first entry, with the items of
its entries in their order. -/
def grouped (entries : List (κ × α)) : List (κ × List α) :=
  (firstKeys (entries.map Prod.fst)).map fun k => (k, (entries.filter (·.1 = k)).map Prod.snd)

theorem pushTo_map_of_mem (f : κ → List α) {key : κ} (item : α) :
    ∀ {keys : List κ}, keys.Nodup → key ∈ keys →
      pushTo key item (keys.map fun k => (k, f k)) =
        keys.map fun k => (k, if k = key then f k ++ [item] else f k)
  | [], _, hk => absurd hk (List.not_mem_nil _)
  | k :: keys, hnodup, hk => by
    rw [List.nodup_cons] at hnodup
    by_cases hkey : k = key
    · subst hkey
      have hrest : ∀ k' ∈ keys, k' ≠ k := fun k' hk' he => hnodup.1 (he ▸ hk')
      rw [List.map_cons, List.map_cons, pushTo, if_pos rfl, if_pos rfl]
      exact congrArg _ (List.map_congr_left fun k' hk' => by rw [if_neg (hrest k' hk')])
    · have hk' : key ∈ keys := (List.mem_cons.mp hk).resolve_left (Ne.symm hkey)
      simp only [List.map_cons, pushTo, if_neg hkey, pushTo_map_of_mem f item hnodup.2 hk']

theorem pushTo_map_of_not_mem (f : κ → List α) {key : κ} (item : α) :
    ∀ {keys : List κ}, key ∉ keys →
      pushTo key item (keys.map fun k => (k, f k)) = keys.map (fun k => (k, f k)) ++ [(key, [item])]
  | [], _ => rfl
  | k :: keys, hk => by
    rw [List.mem_cons, not_or] at hk
    simp only [List.map_cons, pushTo, if_neg (Ne.symm hk.1), pushTo_map_of_not_mem f item hk.2,
      List.cons_append]

/-- One push keeps a map the grouping of its entries. -/
theorem pushTo_grouped (entries : List (κ × α)) (key : κ) (item : α) :
    pushTo key item (grouped entries) = grouped (entries ++ [(key, item)]) := by
  unfold grouped
  rw [List.map_append, List.map_singleton, firstKeys_append_singleton]
  have hitems : ∀ k, ((entries ++ [(key, item)]).filter (·.1 = k)).map Prod.snd =
      if k = key then (entries.filter (·.1 = k)).map Prod.snd ++ [item]
      else (entries.filter (·.1 = k)).map Prod.snd := by
    intro k
    by_cases hk : k = key
    · subst hk; simp
    · simp [List.filter_append, Ne.symm hk, hk]
  simp only [hitems]
  split_ifs with hkey
  · exact pushTo_map_of_mem _ item (nodup_firstKeys _) (mem_firstKeys.mpr hkey)
  · rw [pushTo_map_of_not_mem _ item (mt mem_firstKeys.mp hkey), List.map_append]
    have hnone : entries.filter (·.1 = key) = [] :=
      List.filter_eq_nil_iff.mpr fun e he hek =>
        hkey (List.mem_map.mpr ⟨e, he, of_decide_eq_true hek⟩)
    refine congrArg₂ _ (List.map_congr_left fun k hk => ?_) (by simp [hnone])
    have hne : k ≠ key := fun he => hkey (mem_firstKeys.mp (he ▸ hk))
    rw [if_neg hne]

/-- A run of pushes from the empty map is the grouping of the pushed entries. -/
theorem foldl_pushTo (entries : List (κ × α)) :
    entries.foldl (fun groups e => pushTo e.1 e.2 groups) [] = grouped entries := by
  induction entries using List.reverseRecOn with
  | nil => rfl
  | append_singleton entries e ih =>
    rw [List.foldl_append, ih, List.foldl_cons, List.foldl_nil, pushTo_grouped]

/-- A push adds its item to the map's items and moves none. -/
theorem join_pushTo (key : κ) (item : α) :
    ∀ groups : List (κ × List α),
      ((pushTo key item groups).map Prod.snd).flatten.Perm
        ((groups.map Prod.snd).flatten ++ [item])
  | [] => List.Perm.refl _
  | (k, items) :: rest => by
    unfold pushTo
    split_ifs
    · simp only [List.map_cons, List.flatten_cons, List.append_assoc]
      exact List.Perm.append_left _ List.perm_append_comm
    · simp only [List.map_cons, List.flatten_cons, List.append_assoc]
      exact List.Perm.append_left _ (join_pushTo key item rest)

theorem setIfAbsent_of_mem {key : κ} (value : α) :
    ∀ {map : List (κ × α)}, key ∈ map.map Prod.fst → setIfAbsent key value map = map
  | [], hk => absurd hk (List.not_mem_nil _)
  | (k, v) :: rest, hk => by
    unfold setIfAbsent
    split_ifs with hkey
    · rfl
    · have hk' : key ∈ rest.map Prod.fst := (List.mem_cons.mp hk).resolve_left (Ne.symm hkey)
      rw [setIfAbsent_of_mem value hk']

theorem setIfAbsent_of_not_mem {key : κ} (value : α) :
    ∀ {map : List (κ × α)}, key ∉ map.map Prod.fst →
      setIfAbsent key value map = map ++ [(key, value)]
  | [], _ => rfl
  | (k, v) :: rest, hk => by
    rw [List.map_cons, List.mem_cons, not_or] at hk
    rw [setIfAbsent, if_neg (Ne.symm hk.1), setIfAbsent_of_not_mem value hk.2, List.cons_append]

/-- What a first-wins map is for: each key once, in the order of its first entry, with the
value of its first entry. -/
def firstEntries (entries : List (κ × α)) : List (κ × α) :=
  (firstKeys (entries.map Prod.fst)).filterMap fun k =>
    (entries.find? (·.1 = k)).map fun e => (k, e.2)

theorem find?_key_eq_some {entries : List (κ × α)} {k : κ} (hk : k ∈ entries.map Prod.fst) :
    ∃ e, entries.find? (·.1 = k) = some e := by
  obtain ⟨e, he, rfl⟩ := List.mem_map.mp hk
  exact Option.isSome_iff_exists.mp (List.find?_isSome.mpr ⟨e, he, decide_eq_true rfl⟩)

theorem keys_firstEntries (entries : List (κ × α)) :
    (firstEntries entries).map Prod.fst = firstKeys (entries.map Prod.fst) := by
  rw [firstEntries, List.map_filterMap]
  conv_rhs => rw [← List.filterMap_some (firstKeys _)]
  refine List.filterMap_congr fun k hk => ?_
  obtain ⟨e, he⟩ := find?_key_eq_some (mem_firstKeys.mp hk)
  rw [he]
  rfl

/-- One first-wins set keeps a map the first entries of its entries. -/
theorem setIfAbsent_firstEntries (entries : List (κ × α)) (key : κ) (value : α) :
    setIfAbsent key value (firstEntries entries) = firstEntries (entries ++ [(key, value)]) := by
  have hsame : ∀ k ∈ firstKeys (entries.map Prod.fst),
      ((entries ++ [(key, value)]).find? (·.1 = k)).map (fun e => (k, e.2)) =
        (entries.find? (·.1 = k)).map fun e => (k, e.2) := by
    intro k hk
    obtain ⟨e, he⟩ := find?_key_eq_some (mem_firstKeys.mp hk)
    rw [List.find?_append, he]
    rfl
  have hkeys := keys_firstEntries entries
  by_cases hkey : key ∈ entries.map Prod.fst
  · rw [setIfAbsent_of_mem value (hkeys ▸ mem_firstKeys.mpr hkey)]
    unfold firstEntries
    rw [List.map_append, List.map_singleton, firstKeys_append_singleton, if_pos hkey,
      List.filterMap_congr hsame]
  · rw [setIfAbsent_of_not_mem value (hkeys ▸ mt mem_firstKeys.mp hkey)]
    unfold firstEntries
    rw [List.map_append, List.map_singleton, firstKeys_append_singleton, if_neg hkey,
      List.filterMap_append, List.filterMap_congr hsame]
    have hnone : entries.find? (·.1 = key) = none :=
      List.find?_eq_none.mpr fun e he hek =>
        hkey (List.mem_map.mpr ⟨e, he, of_decide_eq_true hek⟩)
    simp [List.find?_append, hnone]

/-- A run of first-wins sets from the empty map keeps the first entry of each key. -/
theorem foldl_setIfAbsent (entries : List (κ × α)) :
    entries.foldl (fun map e => setIfAbsent e.1 e.2 map) [] = firstEntries entries := by
  induction entries using List.reverseRecOn with
  | nil => rfl
  | append_singleton entries e ih =>
    rw [List.foldl_append, ih, List.foldl_cons, List.foldl_nil, setIfAbsent_firstEntries]

end Maps

/-! ### Indexes -/

/-- A row of `INFORMATION_SCHEMA.STATISTICS` as `getMySQLTableSchema` selects it:
`INDEX_NAME`, `COLUMN_NAME` (`NULL` for a functional key part) and `NON_UNIQUE`. -/
structure IndexRow where
  indexName : String
  columnName : Value
  nonUnique : Value
  deriving DecidableEq, Repr

/-- `idx.NON_UNIQUE === 0`. -/
def IndexRow.isUnique (idx : IndexRow) : Bool := idx.nonUnique = .num 0

/-- The entry a row pushes: its index's name and its column. -/
def IndexRow.entry (idx : IndexRow) : String × Value := (idx.indexName, idx.columnName)

/-- The value `groupMySQLIndexes` returns: the columns of each unique index and of each
regular one. -/
structure IndexGroups where
  uniques : List (List Value)
  indexes : List (List Value)
  deriving DecidableEq, Repr

/-- The body of the `forEach` of `groupMySQLIndexes`, on the unique and the regular map. -/
def groupIndexRow (maps : List (String × List Value) × List (String × List Value))
    (idx : IndexRow) : List (String × List Value) × List (String × List Value) :=
  if idx.isUnique then (pushTo idx.indexName idx.columnName maps.1, maps.2)
  else (maps.1, pushTo idx.indexName idx.columnName maps.2)

/-- `groupMySQLIndexes(indexes)`. -/
def groupMySQLIndexes (indexes : List IndexRow) : IndexGroups :=
  let maps := indexes.foldl groupIndexRow ([], [])
  { uniques := maps.1.map Prod.snd, indexes := maps.2.map Prod.snd }

theorem foldl_groupIndexRow (uniqueMap indexMap : List (String × List Value)) :
    ∀ indexes : List IndexRow, indexes.foldl groupIndexRow (uniqueMap, indexMap) =
      (((indexes.filter IndexRow.isUnique).map IndexRow.entry).foldl
          (fun groups e => pushTo e.1 e.2 groups) uniqueMap,
        ((indexes.filter (!IndexRow.isUnique ·)).map IndexRow.entry).foldl
          (fun groups e => pushTo e.1 e.2 groups) indexMap)
  | [] => rfl
  | idx :: indexes => by
    rw [List.foldl_cons, groupIndexRow]
    cases hunique : idx.isUnique
    · rw [if_neg (Bool.false_ne_true), foldl_groupIndexRow]
      simp [hunique, IndexRow.entry]
    · rw [if_pos rfl, foldl_groupIndexRow]
      simp [hunique, IndexRow.entry]

/-- `groupMySQLIndexes` computes what it is for: the unique indexes, each once in the order of
its first row, with the columns of its rows in the order of the rows, and the regular indexes
likewise. -/
theorem groupMySQLIndexes_eq (indexes : List IndexRow) :
    groupMySQLIndexes indexes =
      { uniques := (grouped ((indexes.filter IndexRow.isUnique).map IndexRow.entry)).map Prod.snd,
        indexes :=
          (grouped ((indexes.filter (!IndexRow.isUnique ·)).map IndexRow.entry)).map Prod.snd } := by
  rw [groupMySQLIndexes, foldl_groupIndexRow, foldl_pushTo, foldl_pushTo]

theorem flatten_grouped {κ α : Type} [DecidableEq κ] (entries : List (κ × α)) :
    ((grouped entries).map Prod.snd).flatten.Perm (entries.map Prod.snd) := by
  rw [← foldl_pushTo]
  induction entries using List.reverseRecOn with
  | nil => exact List.Perm.refl _
  | append_singleton entries e ih =>
    rw [List.foldl_append, List.foldl_cons, List.foldl_nil, List.map_append, List.map_singleton]
    exact (join_pushTo e.1 e.2 _).trans (ih.append_right _)

/-- `groupMySQLIndexes` loses and repeats no row: the columns of all the groups are the
columns of the rows, each as often. -/
theorem groupMySQLIndexes_perm (indexes : List IndexRow) :
    ((groupMySQLIndexes indexes).uniques.flatten ++ (groupMySQLIndexes indexes).indexes.flatten).Perm
      (indexes.map IndexRow.columnName) := by
  rw [groupMySQLIndexes, foldl_groupIndexRow, foldl_pushTo, foldl_pushTo]
  refine ((flatten_grouped _).append (flatten_grouped _)).trans ?_
  rw [List.map_map, List.map_map, ← List.map_append]
  exact (List.filter_append_perm _ _).map _

/-- A unique index on `email` and a regular one on `(last, first)`, whose rows come back in
name order only. -/
example : groupMySQLIndexes [⟨"idx_name", .str "last", .num 1⟩, ⟨"uq_email", .str "email", .num 0⟩,
    ⟨"idx_name", .str "first", .num 1⟩] =
      { uniques := [[.str "email"]], indexes := [[.str "last", .str "first"]] } := by decide

/-! ### Foreign keys -/

/-- A row of `KEY_COLUMN_USAGE` as `getMySQLTableSchema` selects it, as far as
`transformForeignKeysToRelations` reads it: `COLUMN_NAME` and `REFERENCED_TABLE_NAME`. -/
structure ForeignKeyRow where
  columnName : String
  referencedTableName : Value
  deriving DecidableEq, Repr

/-- The suffixes `getPropertyNameFromColumn` removes, in the order it tries them. -/
def fkSuffixes : List String := ["Id", "_id", "ID"]

/-- `columnName.endsWith(suffix)`. -/
def endsWith (columnName suffix : String) : Bool := decide (suffix.toList <:+ columnName.toList)

/-- `getPropertyNameFromColumn(columnName)`: the first suffix the name ends with is cut off,
`slice(0, -suffix.length)`. -/
def getPropertyNameFromColumn (columnName : String) : String :=
  match fkSuffixes.find? (endsWith columnName) with
  | some suffix => ⟨columnName.toList.take (columnName.length - suffix.length)⟩
  | none => columnName

/-- The relation `transformForeignKeysToRelations` makes of a foreign key row. -/
def relationOf (fk : ForeignKeyRow) : Record :=
  [("propertyName", .str (getPropertyNameFromColumn fk.columnName)), ("type", .str "many-to-one"),
    ("targetTable", fk.referencedTableName), ("isNullable", .bool true),
    ("isSystem", .bool false), ("foreignKeyColumn", .str fk.columnName)]

/-- `transformForeignKeysToRelations(foreignKeys)`: the values of a map from the column name,
set for a column's first row only. -/
def transformForeignKeysToRelations (foreignKeys : List ForeignKeyRow) : List Record :=
  (foreignKeys.foldl (fun fkMap fk => setIfAbsent fk.columnName (relationOf fk) fkMap) []).map
    Prod.snd

/-- `transformForeignKeysToRelations` computes what it is for: one relation per foreign key
column, in the order of the column's first row, built from that row. -/
theorem transformForeignKeysToRelations_eq (foreignKeys : List ForeignKeyRow) :
    transformForeignKeysToRelations foreignKeys =
      (firstKeys (foreignKeys.map ForeignKeyRow.columnName)).filterMap fun column =>
        (foreignKeys.find? (·.columnName = column)).map relationOf := by
  have hfold := foldl_setIfAbsent (foreignKeys.map fun fk => (fk.columnName, relationOf fk))
  rw [List.foldl_map] at hfold
  rw [transformForeignKeysToRelations, hfold, firstEntries, List.map_filterMap, List.map_map]
  refine List.filterMap_congr fun column _ => ?_
  rw [List.find?_map, Option.map_map, Option.map_map]
  rfl

theorem suffix_toList_append (p suffix : String) : suffix.toList <:+ (p ++ suffix).toList :=
  List.suffix_append p.data suffix.data

theorem endsWith_append_self (p suffix : String) : endsWith (p ++ suffix) suffix = true :=
  decide_eq_true (suffix_toList_append p suffix)

/-- A name that ends in one suffix does not end in another when neither suffix ends in the
other. -/
theorem endsWith_append_of_not_suffix {p suffix other : String}
    (h : ¬ other.toList <:+ suffix.toList) (h' : ¬ suffix.toList <:+ other.toList) :
    endsWith (p ++ suffix) other = false := by
  refine decide_eq_false fun hother => ?_
  have hsuffix := suffix_toList_append p suffix
  rcases le_total other.toList.length suffix.toList.length with hle | hle
  · exact h (List.suffix_of_suffix_length_le hother hsuffix hle)
  · exact h' (List.suffix_of_suffix_length_le hsuffix hother hle)

/-- `getPropertyNameFromColumn` undoes appending any of its suffixes: a foreign key column
`userId`, `user_id` or `userID` reads back as the property `user`. -/
theorem getPropertyNameFromColumn_append (p : String) :
    ∀ suffix ∈ fkSuffixes, getPropertyNameFromColumn (p ++ suffix) = p := by
  have htake : ∀ suffix : String, (⟨(p ++ suffix).toList.take
      ((p ++ suffix).length - suffix.length)⟩ : String) = p := fun suffix => by
    rw [String.length, String.length, String.toList, String.data_append, List.length_append,
      Nat.add_sub_cancel, List.take_left' rfl]
  have hid : endsWith (p ++ "_id") "Id" = false := endsWith_append_of_not_suffix (by decide) (by decide)
  have hID : endsWith (p ++ "ID") "Id" = false := endsWith_append_of_not_suffix (by decide) (by decide)
  have hID' : endsWith (p ++ "ID") "_id" = false :=
    endsWith_append_of_not_suffix (by decide) (by decide)
  simp only [fkSuffixes, List.mem_cons, List.mem_singleton, List.not_mem_nil, or_false]
  rintro suffix (rfl | rfl | rfl) <;> unfold getPropertyNameFromColumn <;>
    simp only [fkSuffixes, List.find?, endsWith_append_self, hid, hID, hID', htake]

theorem getPropertyNameFromColumn_userId :
    "Id" ∈ fkSuffixes ∧ getPropertyNameFromColumn ("user" ++ "Id") = "user" :=
  ⟨by decide, getPropertyNameFromColumn_append "user" "Id" (by decide)⟩

/-! ### Columns -/

/-- A text of the catalog that may be `NULL`, as the driver returns it. -/
def textValue : Option String → Value
  | some s => .str s
  | none => .null

/-- `value?.includes(keyword) || false` on a text that may be `NULL`. -/
def textIncludes (value : Option String) (keyword : String) : Bool :=
  match value with
  | some s => includes s.toList keyword
  | none => false

/-- `isSystemColumn(columnName)`. -/
def isSystemColumn (columnName : String) : Bool := columnName ∈ ["id", "createdAt", "updatedAt"]

/-- A row of `INFORMATION_SCHEMA.COLUMNS` as `getMySQLTableSchema` selects it. -/
structure MySQLColumnRow where
  name : String
  type : String
  isNullable : String
  defaultValue : Option String
  columnKey : String
  extra : Option String
  description : String
  maxLength : Value
  precision : Value
  scale : Value
  deriving DecidableEq, Repr

/-- The column `getMySQLTableSchema` makes of a row. -/
def transformMySQLColumn (col : MySQLColumnRow) : Record :=
  [("name", .str col.name), ("type", .str (mapMySQLDataType col.type)),
    ("isPrimary", .bool (col.columnKey == "PRI")),
    ("isGenerated", .bool (textIncludes col.extra "auto_increment")),
    ("isNullable", .bool (col.isNullable == "YES")), ("isSystem", .bool (isSystemColumn col.name)),
    ("isUpdatable", .bool !(textIncludes col.extra "auto_increment")), ("isHidden", .bool false),
    ("defaultValue", textValue col.defaultValue), ("description", .str col.description),
    ("options", .obj [("length", col.maxLength), ("precision", col.precision),
      ("scale", col.scale)])]

/-- A row of `information_schema.columns` as `getPostgreSQLTableSchema` selects it. -/
structure PostgresColumnRow where
  name : String
  type : String
  isNullable : String
  defaultValue : Option String
  maxLength : Value
  precision : Value
  scale : Value
  deriving DecidableEq, Repr

/-- The column `getPostgreSQLTableSchema` makes of a row, before the primary key is marked. -/
def transformPostgreSQLColumn (col : PostgresColumnRow) : Record :=
  [("name", .str col.name), ("type", .str (mapPostgreSQLDataType col.type)),
    ("isPrimary", .bool false), ("isGenerated", .bool (textIncludes col.defaultValue "nextval")),
    ("isNullable", .bool (col.isNullable == "YES")), ("isSystem", .bool (isSystemColumn col.name)),
    ("isUpdatable", .bool true), ("isHidden", .bool false),
    ("defaultValue", textValue col.defaultValue), ("description", .null),
    ("options", .obj [("length", col.maxLength), ("precision", col.precision),
      ("scale", col.scale)])]

/-- `const col = transformedColumns.find(c => c.name === pk.column_name); if (col)
col.isPrimary = true;` -/
def markPrimaryKey (pk : String) : List Record → List Record
  | [] => []
  | col :: cols =>
      if col.get? "name" = some (.str pk) then col.set "isPrimary" (.bool true) :: cols
      else col :: markPrimaryKey pk cols

/-- `primaryKeys.forEach(...)` over the transformed columns. -/
def markPrimaryKeys (primaryKeys : List String) (columns : List Record) : List Record :=
  primaryKeys.foldl (fun cols pk => markPrimaryKey pk cols) columns

/-- A column as the marking is meant to leave it: primary when a primary key row names it. -/
def markedIf (primaryKeys : List String) (col : Record) : Record :=
  if ∃ pk ∈ primaryKeys, col.get? "name" = some (.str pk) then col.set "isPrimary" (.bool true)
  else col

theorem Record.set_set (key : String) (value value' : Value) :
    ∀ r : Record, (r.set key value).set key value' = r.set key value'
  | [] => by simp [Record.set]
  | (k, v) :: r => by
    by_cases hk : k = key
    · simp [Record.set, hk]
    · simp [Record.set, hk, Record.set_set key value value' r]

@[simp] theorem get?_markedIf_name (primaryKeys : List String) (col : Record) :
    (markedIf primaryKeys col).get? "name" = col.get? "name" := by
  unfold markedIf
  split_ifs
  · exact Record.get?_set_ne _ _ (by decide)
  · rfl

theorem markedIf_markedIf (pk : String) (primaryKeys : List String) (col : Record) :
    markedIf primaryKeys (markedIf [pk] col) = markedIf (pk :: primaryKeys) col := by
  by_cases hpk : col.get? "name" = some (.str pk)
  · have hmarked : markedIf [pk] col = col.set "isPrimary" (.bool true) := if_pos ⟨pk, by simp, hpk⟩
    have hname : (col.set "isPrimary" (.bool true)).get? "name" = col.get? "name" :=
      Record.get?_set_ne _ _ (by decide)
    rw [hmarked]
    unfold markedIf
    rw [hname, if_pos (show ∃ pk' ∈ pk :: primaryKeys, col.get? "name" = some (.str pk') from
      ⟨pk, List.mem_cons_self _ _, hpk⟩)]
    split_ifs
    · exact Record.set_set _ _ _ col
    · rfl
  · have hmarked : markedIf [pk] col = col := if_neg (by simpa using hpk)
    rw [hmarked]
    simp [markedIf, hpk]

theorem markPrimaryKey_eq (pk : String) :
    ∀ {cols : List Record}, (cols.map (·.get? "name")).Nodup →
      markPrimaryKey pk cols = cols.map (markedIf [pk])
  | [], _ => rfl
  | col :: cols, hnodup => by
    rw [List.map_cons, List.nodup_cons] at hnodup
    by_cases hpk : col.get? "name" = some (.str pk)
    · have hrest : ∀ c ∈ cols, markedIf [pk] c = c := by
        intro c hc
        refine if_neg ?_
        rintro ⟨pk', hpk', hc'⟩
        rw [List.mem_singleton] at hpk'
        subst hpk'
        exact hnodup.1 (by rw [hpk, ← hc']; exact List.mem_map_of_mem _ hc)
      rw [markPrimaryKey, if_pos hpk, List.map_cons, List.map_congr_left hrest, List.map_id']
      exact congrArg (· :: cols) (if_pos ⟨pk, by simp, hpk⟩).symm
    · rw [markPrimaryKey, if_neg hpk, List.map_cons, markPrimaryKey_eq pk hnodup.2]
      exact congrArg (· :: _) (if_neg (by simpa using hpk)).symm

/-- Marking the primary keys of columns of distinct names marks exactly the columns that a
primary key row names, and changes nothing else. -/
theorem markPrimaryKeys_eq (primaryKeys : List String) :
    ∀ {cols : List Record}, (cols.map (·.get? "name")).Nodup →
      markPrimaryKeys primaryKeys cols = cols.map (markedIf primaryKeys) := by
  induction primaryKeys with
  | nil =>
    intro cols _
    have hnone : ∀ col, markedIf [] col = col := fun col => if_neg (by simp)
    rw [markPrimaryKeys, List.foldl_nil]
    calc cols = cols.map id := (List.map_id cols).symm
      _ = cols.map (markedIf []) := List.map_congr_left fun col _ => (hnone col).symm
  | cons pk primaryKeys ih =>
    intro cols hnodup
    have hnames : ((cols.map (markedIf [pk])).map (·.get? "name")).Nodup := by
      simpa only [List.map_map, Function.comp_def, get?_markedIf_name] using hnodup
    rw [markPrimaryKeys, List.foldl_cons, ← markPrimaryKeys, markPrimaryKey_eq pk hnodup,
      ih hnames, List.map_map]
    exact List.map_congr_left fun col _ => markedIf_markedIf pk primaryKeys col

/-! ### Schemas -/

/-- What the catalog queries of `getMySQLTableSchema` return for a table name: the table's row
(`first()`), its columns by `ORDINAL_POSITION`, the rows of its indexes other than `PRIMARY`,
and its foreign key rows. -/
structure MySQLCatalog where
  tableInfo : String → Option Record
  columns : String → List MySQLColumnRow
  indexes : String → List IndexRow
  foreignKeys : String → List ForeignKeyRow

/-- What the catalog queries of `getPostgreSQLTableSchema` return for a table name: the
table's row, its columns by `ordinal_position`, and the columns of its primary key. -/
structure PostgresCatalog where
  tableInfo : String → Option Record
  columns : String → List PostgresColumnRow
  primaryKeys : String → List String

/-- `getMySQLTableSchema(tableName, knex)`; `none` is the `null` of a missing table. -/
def getMySQLTableSchema (catalog : MySQLCatalog) (tableName : String) : Option Record :=
  (catalog.tableInfo tableName).map fun _ =>
    let indexGroups := groupMySQLIndexes (catalog.indexes tableName)
    [("name", .str tableName), ("isSystem", .bool false),
      ("uniques", .arr (indexGroups.uniques.map .arr)),
      ("indexes", .arr (indexGroups.indexes.map .arr)),
      ("columns", .arr ((catalog.columns tableName).map fun col => .obj (transformMySQLColumn col))),
      ("relations", .arr ((transformForeignKeysToRelations (catalog.foreignKeys tableName)).map
        .obj))]

/-- `getPostgreSQLTableSchema(tableName, knex)`. -/
def getPostgreSQLTableSchema (catalog : PostgresCatalog) (tableName : String) : Option Record :=
  (catalog.tableInfo tableName).map fun _ =>
    let transformedColumns := (catalog.columns tableName).map transformPostgreSQLColumn
    [("name", .str tableName), ("isSystem", .bool false), ("uniques", .arr []),
      ("indexes", .arr []),
      ("columns", .arr ((markPrimaryKeys (catalog.primaryKeys tableName) transformedColumns).map
        .obj)),
      ("relations", .arr [])]

/-- `getActualTableSchema(tableName)` under `process.env.DB_TYPE`; the error is the message of
the `Error` it throws. -/
def getActualTableSchema (dbType : Option String) (mysql : MySQLCatalog)
    (postgres : PostgresCatalog) (tableName : String) : Except String (Option Record) :=
  let dbType := match dbType with
    | some "" | none => "mysql"
    | some dbType => dbType
  if dbType = "mysql" then .ok (getMySQLTableSchema mysql tableName)
  else if dbType = "postgres" then .ok (getPostgreSQLTableSchema postgres tableName)
  else .error ("Unsupported database type: " ++ dbType)

/-- A PostgreSQL table's columns, whose names are distinct, come back in order with exactly
the columns its primary key names marked primary. -/
theorem getPostgreSQLTableSchema_columns {catalog : PostgresCatalog} {tableName : String}
    {schema : Record} (hnames : ((catalog.columns tableName).map PostgresColumnRow.name).Nodup)
    (h : getPostgreSQLTableSchema catalog tableName = some schema) :
    schema.get? "columns" = some (.arr ((catalog.columns tableName).map fun col =>
      .obj (if col.name ∈ catalog.primaryKeys tableName then
        (transformPostgreSQLColumn col).set "isPrimary" (.bool true)
      else transformPostgreSQLColumn col))) := by
  obtain ⟨_, -, rfl⟩ := Option.map_eq_some'.mp h
  have htransformed : (((catalog.columns tableName).map transformPostgreSQLColumn).map
      (·.get? "name")).Nodup := by
    have hnamesOf : ((catalog.columns tableName).map transformPostgreSQLColumn).map
        (·.get? "name") = ((catalog.columns tableName).map PostgresColumnRow.name).map
          fun name => some (Value.str name) := by
      rw [List.map_map, List.map_map]; rfl
    rw [hnamesOf]
    exact hnames.map fun a b hab => Value.str.inj (Option.some.inj hab)
  dsimp only
  rw [markPrimaryKeys_eq _ htransformed, List.map_map, List.map_map]
  refine congrArg (some ∘ Value.arr) (List.map_congr_left fun col _ => ?_)
  simp [markedIf, transformPostgreSQLColumn, Record.get?]

/-- An `article` table whose primary key is `id`. -/
def articleCatalog : PostgresCatalog where
  tableInfo _ := some [("table_name", .str "article")]
  columns _ :=
    [⟨"id", "integer", "NO", some "nextval(\x27article_id_seq\x27::regclass)", .null, .num 32, .num 0⟩,
      ⟨"title", "character varying", "YES", none, .num 255, .null, .null⟩]
  primaryKeys _ := ["id"]

theorem getPostgreSQLTableSchema_columns_article :
    ((articleCatalog.columns "article").map PostgresColumnRow.name).Nodup ∧
      ((getPostgreSQLTableSchema articleCatalog "article").getD []).get? "columns" =
        some (.arr ((articleCatalog.columns "article").map fun col =>
          .obj (if col.name ∈ articleCatalog.primaryKeys "article" then
            (transformPostgreSQLColumn col).set "isPrimary" (.bool true)
          else transformPostgreSQLColumn col))) :=
  ⟨by decide, getPostgreSQLTableSchema_columns (by decide) rfl⟩

end Enfyra.DatabaseSchemaService
