import Enfyra.Value

/-!
Table metadata as the metadata cache hands it to the query engine (`getMetadata()` and
`getTableMetadata(name)`), and the environment the services read but never write: the
metadata and the host's date formatting. Only the fields that a modelled function reads
are kept. Relation types are the four strings the code compares against; a column type
stays the string the code compares.
-/

namespace Enfyra

inductive RelationType where
  | manyToOne
  | oneToMany
  | oneToOne
  | manyToMany
  deriving DecidableEq, Repr

/-- `['many-to-one', 'one-to-one'].includes(relation.type)`. -/
def RelationType.isToOne : RelationType → Bool
  | .manyToOne | .oneToOne => true
  | _ => false

/-- `['one-to-many', 'many-to-many'].includes(relation.type)`. -/
def RelationType.isToMany (t : RelationType) : Bool := !t.isToOne

structure ColumnMeta where
  name : String
  type : String
  /-- Only an explicit `false` makes a column non-updatable. -/
  isUpdatable : Option Bool := none
  deriving DecidableEq, Repr

structure RelationMeta where
  propertyName : String
  type : RelationType
  targetTableName : String := ""
  foreignKeyColumn : Option String := none
  junctionTableName : Option String := none
  junctionSourceColumn : Option String := none
  junctionTargetColumn : Option String := none
  deriving DecidableEq, Repr

structure TableMetadata where
  name : String
  columns : List ColumnMeta := []
  relations : List RelationMeta := []
  deriving DecidableEq, Repr

structure Metadata where
  tables : List TableMetadata
  deriving DecidableEq, Repr

/-- `s || fallback` on an optional string: the empty string is falsy too. -/
def orElse (s : Option String) (fallback : String) : String :=
  match s with
  | some v => if v = "" then fallback else v
  | none => fallback

/-- A string option that JavaScript treats as truthy, with its value. -/
def present (s : Option String) : Option String :=
  match s with
  | some v => if v = "" then none else some v
  | none => none

/-- `relation.foreignKeyColumn || ${relName}Id`: the column `transformRelationsToFK`
writes a to-one relation's identity into. -/
def RelationMeta.fkColumn (relation : RelationMeta) : String :=
  orElse relation.foreignKeyColumn (relation.propertyName ++ "Id")

/-- The declared junction of a many-to-many relation, when all three names are truthy. -/
def RelationMeta.junction? (relation : RelationMeta) : Option (String × String × String) :=
  match present relation.junctionTableName, present relation.junctionSourceColumn,
    present relation.junctionTargetColumn with
  | some t, some s, some c => some (t, s, c)
  | _, _, _ => none

/-- `metadata.tables?.get?.(tableName) || metadata.tablesList?.find(t => t.name === tableName)`. -/
def Metadata.lookup (metadata : Metadata) (tableName : String) : Option TableMetadata :=
  metadata.tables.find? (fun t => t.name = tableName)

/-- `KnexService.isJunctionTable`: some many-to-many relation names the table as its
junction. -/
def Metadata.isJunctionTable (metadata : Metadata) (tableName : String) : Bool :=
  metadata.tables.any fun t => t.relations.any fun r =>
    r.type = .manyToMany && r.junctionTableName = some tableName

/-- The spec's data model: column names and relation property names are unique. -/
structure TableMetadata.WellFormed (table : TableMetadata) : Prop where
  columns_nodup : (table.columns.map (·.name)).Nodup
  relations_nodup : (table.relations.map (·.propertyName)).Nodup

/-- What the services read and never write: the cached metadata, and the host's
`new Date(s).toISOString()`, which is `none` when the date is invalid. -/
structure Env where
  metadata : Metadata
  toISOString : String → Option String

theorem present_eq_some {s : Option String} {v : String} (h : present s = some v) :
    s = some v := by
  unfold present at h
  split at h
  · split at h
    · cases h
    · cases h; rfl
  · cases h

theorem RelationMeta.junction?_table {relation : RelationMeta} {j s t : String}
    (h : relation.junction? = some (j, s, t)) : relation.junctionTableName = some j := by
  unfold RelationMeta.junction? at h
  split at h
  · rename_i j' s' t' hj _ _
    cases h
    exact present_eq_some hj
  · cases h

theorem Metadata.lookup_mem {metadata : Metadata} {tableName : String} {table : TableMetadata}
    (h : metadata.lookup tableName = some table) : table ∈ metadata.tables :=
  List.mem_of_find?_eq_some h

/-- A declared many-to-many junction of a known table is a junction table. -/
theorem Metadata.isJunctionTable_of_junction {metadata : Metadata} {table : TableMetadata}
    (htable : table ∈ metadata.tables) {relation : RelationMeta}
    (hrel : relation ∈ table.relations) (hm2m : relation.type = .manyToMany) {j s t : String}
    (hj : relation.junction? = some (j, s, t)) : metadata.isJunctionTable j = true := by
  simp only [Metadata.isJunctionTable, List.any_eq_true, Bool.and_eq_true, decide_eq_true_eq]
  exact ⟨table, htable, relation, hrel, hm2m, RelationMeta.junction?_table hj⟩

theorem Metadata.lookup_name {metadata : Metadata} {tableName : String}
    {table : TableMetadata} (h : metadata.lookup tableName = some table) :
    table.name = tableName := by
  simpa using List.find?_some h

/-- The worked example of the specification: `article (id, title)` with a many-to-one
`author` to `user` through `authorId`, and a many-to-many `tags` to `tag` through the
junction `article_tags (articleId, tagId)`. -/
def articleTable : TableMetadata where
  name := "article"
  columns := [{ name := "id", type := "int" }, { name := "title", type := "varchar" }]
  relations := [
    { propertyName := "author", type := .manyToOne, targetTableName := "user",
      foreignKeyColumn := some "authorId" },
    { propertyName := "tags", type := .manyToMany, targetTableName := "tag",
      junctionTableName := some "article_tags", junctionSourceColumn := some "articleId",
      junctionTargetColumn := some "tagId" }]

/-- The example's environment. It has no date column, so the host's date formatting is
never called. -/
def articleEnv : Env := ⟨⟨[articleTable]⟩, fun _ => none⟩

end Enfyra
