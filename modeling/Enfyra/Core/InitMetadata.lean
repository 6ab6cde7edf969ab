import Enfyra.Value

/-!
`CoreInitSqlService.createInitMetadata(snapshot)`: inside one transaction it writes the
snapshot's tables into `table_definition` (phase 1), their columns into `column_definition`
(phase 2) and their relations, with an inverse derived for each relation that names one,
into `relation_definition` (phase 3), and removes the relations the snapshot no longer
names. The model is the state a call that completes leaves: every statement succeeds (a
failing one rolls the whole transaction back).

The snapshot is the list of its entries, each definition an object; its `columns` and
`relations` are arrays of objects (or absent), a relation's `targetTable` is a table name,
and a definition's `name` is defined (knex rejects an undefined binding). A row holds
every column of its table, and a column it lacks reads as NULL. A JSON column is held by
the value it encodes: `JSON.stringify` and the `parseJson` of the change detectors are
inverse on the values a snapshot holds, and `JSON.stringify(undefined)` is undefined. An
insert gives the row the next id of the table's counter, one more than the largest id the
table holds. `getJunctionTableName` and `getForeignKeyColumnName` (of `naming-helpers`) are
not in the sources and are parameters.
-/

namespace Enfyra.CoreInitSqlService

/-! ### The three tables and the statements on them -/

/-- The metadata tables `createInitMetadata` reads and writes. -/
structure MetadataTables where
  tableDefinition : List Record
  columnDefinition : List Record
  relationDefinition : List Record

/-- A column of a row read by `select('*')`: NULL when the row lacks it. -/
def column (row : Record) (name : String) : Value := (row.get? name).getD .null

/-- `where(name, value)`: the rows whose column holds the value. -/
def rowsWhere (rows : List Record) (name : String) (value : Value) : List Record :=
  rows.filter fun row => column row name = value

/-- The largest id so far, after one more row. -/
def idBound (m : Int) (row : Record) : Int :=
  match column row "id" with
  | .num n => max m n
  | _ => m

/-- The largest numeric id of a table, 0 for none. -/
def maxId (rows : List Record) : Int := rows.foldl idBound 0

/-- The id the counter gives the next inserted row. -/
def nextId (rows : List Record) : Value := .num (maxId rows + 1)

/-- `insert(data)`: the row, with its new id, goes last. -/
def insertRow (rows : List Record) (data : Record) : List Record :=
  rows ++ [("id", nextId rows) :: data]

/-- `where('id', id).update(data)`: every row with that id gets the data's columns. -/
def updateById (rows : List Record) (id : Value) (data : Record) : List Record :=
  rows.map fun row => if column row "id" = id then data.foldl (fun r p => r.set p.1 p.2) row
    else row

/-- `where('id', id).delete()`. -/
def deleteById (rows : List Record) (id : Value) : List Record :=
  rows.filter fun row => column row "id" ≠ id

/-! ### What the TypeScript operators make of an undefined property -/

/-- `a || b`. -/
def orElse (a : Option Value) (b : Value) : Value :=
  match a with
  | some v => if v.truthy then v else b
  | none => b

/-- `a ?? b`. -/
def nullish (a : Option Value) (b : Value) : Value :=
  match a with
  | some .null | none => b
  | some v => v

/-- `a !== undefined && a !== b`. -/
def changedTo (a : Option Value) (b : Value) : Bool :=
  match a with
  | some v => v ≠ b
  | none => false

/-- The properties of an object literal that knex writes: an undefined one is skipped. -/
def definedFields (fields : List (String × Option Value)) : Record :=
  fields.filterMap fun p => p.2.map fun v => (p.1, v)

@[simp] theorem definedFields_nil : definedFields [] = [] := rfl

@[simp] theorem get?_definedFields_cons_self (key : String) (v : Option Value)
    (rest : List (String × Option Value)) :
    (definedFields ((key, v) :: rest)).get? key = v.or ((definedFields rest).get? key) := by
  cases v <;> simp [definedFields, Record.get?]

@[simp] theorem get?_definedFields_cons_ne {key other : String} (h : key ≠ other)
    (v : Option Value) (rest : List (String × Option Value)) :
    (definedFields ((key, v) :: rest)).get? other = (definedFields rest).get? other := by
  cases v <;> simp [definedFields, Record.get?, h]

/-- `(value || [])` iterated: the objects of an array. -/
def objectsOf : Option Value → List Record
  | some (.arr items) => items.filterMap fun
    | .obj fields => some fields
    | _ => none
  | _ => []

/-- `!!object.property`. -/
def truthyAt (object : Record) (property : String) : Bool :=
  (object.get? property).any Value.truthy

/-- `tableNameToId[name]` when it is truthy (`if (!tableId) continue`). -/
def tableIdOf (ids : Record) (name : String) : Option Value :=
  match ids.get? name with
  | some id => if id.truthy then some id else none
  | none => none

/-- `tableNameToId[rel.targetTable]` when it is truthy, with the target's name. -/
def targetOf (ids : Record) : Value → Option (String × Value)
  | .str target => (tableIdOf ids target).map fun id => (target, id)
  | _ => none

/-! ### Phase 1: table definitions -/

/-- `detectTableChanges(rest, exist)`. -/
def detectTableChanges (definition exist : Record) : Bool :=
  definition.get? "isSystem" ≠ some (column exist "isSystem") ||
    definition.get? "alias" ≠ some (column exist "alias") ||
    definition.get? "description" ≠ some (column exist "description") ||
    definition.get? "uniques" ≠ some (column exist "uniques") ||
    definition.get? "indexes" ≠ some (column exist "indexes")

def tableUpdate (definition : Record) : Record :=
  definedFields [("isSystem", definition.get? "isSystem"), ("alias", definition.get? "alias"),
    ("description", definition.get? "description"),
    ("uniques", some (orElse (definition.get? "uniques") (.arr []))),
    ("indexes", some (orElse (definition.get? "indexes") (.arr [])))]

def tableInsert (definition : Record) : Record :=
  definedFields [("name", definition.get? "name"),
    ("isSystem", some (orElse (definition.get? "isSystem") (.bool false))),
    ("alias", definition.get? "alias"), ("description", definition.get? "description"),
    ("uniques", some (orElse (definition.get? "uniques") (.arr []))),
    ("indexes", some (orElse (definition.get? "indexes") (.arr [])))]

/-- One pass of phase 1: the definition row found by name is updated when it changed, or a
new one is inserted, and `tableNameToId[name]` is its id. -/
def syncTable (state : Record × List Record) (entry : String × Record) : Record × List Record :=
  match (rowsWhere state.2 "name" (column entry.2 "name")).head? with
  | some exist =>
      (state.1.set entry.1 (column exist "id"),
        if detectTableChanges entry.2 exist then
          updateById state.2 (column exist "id") (tableUpdate entry.2)
        else state.2)
  | none => (state.1.set entry.1 (nextId state.2), insertRow state.2 (tableInsert entry.2))

/-- Phase 1: `tableNameToId` and the table definitions it leaves. -/
def syncTables (snapshot : List (String × Record)) (tableDefinition : List Record) :
    Record × List Record :=
  snapshot.foldl syncTable ([], tableDefinition)

/-! ### Phase 2: column definitions -/

/-- `detectColumnChanges(snapshotCol, existingCol)`; `isHidden` is not compared. -/
def detectColumnChanges (col exist : Record) : Bool :=
  col.get? "type" ≠ some (column exist "type") ||
    col.get? "isNullable" ≠ some (column exist "isNullable") ||
    col.get? "isPrimary" ≠ some (column exist "isPrimary") ||
    col.get? "isGenerated" ≠ some (column exist "isGenerated") ||
    col.get? "defaultValue" ≠ some (column exist "defaultValue") ||
    col.get? "options" ≠ some (column exist "options") ||
    col.get? "isUpdatable" ≠ some (column exist "isUpdatable")

def columnInsert (tableId : Value) (col : Record) : Record :=
  definedFields [("name", col.get? "name"), ("type", col.get? "type"),
    ("isPrimary", some (orElse (col.get? "isPrimary") (.bool false))),
    ("isGenerated", some (orElse (col.get? "isGenerated") (.bool false))),
    ("isNullable", some (nullish (col.get? "isNullable") (.bool true))),
    ("isSystem", some (orElse (col.get? "isSystem") (.bool false))),
    ("isUpdatable", some (nullish (col.get? "isUpdatable") (.bool true))),
    ("isHidden", some (orElse (col.get? "isHidden") (.bool false))),
    ("defaultValue", some (orElse (col.get? "defaultValue") .null)),
    ("options", some (orElse (col.get? "options") .null)),
    ("description", col.get? "description"), ("placeholder", col.get? "placeholder"),
    ("tableId", some tableId)]

def columnUpdate (col : Record) : Record :=
  definedFields [("type", col.get? "type"),
    ("isNullable", some (nullish (col.get? "isNullable") (.bool true))),
    ("isPrimary", some (orElse (col.get? "isPrimary") (.bool false))),
    ("isGenerated", some (orElse (col.get? "isGenerated") (.bool false))),
    ("defaultValue", some (orElse (col.get? "defaultValue") .null)),
    ("options", some (orElse (col.get? "options") .null)),
    ("isUpdatable", some (nullish (col.get? "isUpdatable") (.bool true))),
    ("isHidden", some (orElse (col.get? "isHidden") (.bool false)))]

/-- `existingColumnsMap.get(snapshotCol.name)`: the map keeps the last row of a name. -/
def existingColumn (existing : List Record) (col : Record) : Option Record :=
  (existing.filter fun row => some (column row "name") = col.get? "name").getLast?

/-- One snapshot column: inserted when the table had no column of its name, updated when
it changed. -/
def syncColumn (tableId : Value) (existing : List Record) (rows : List Record) (col : Record) :
    List Record :=
  match existingColumn existing col with
  | none => insertRow rows (columnInsert tableId col)
  | some exist =>
      if detectColumnChanges col exist then
        updateById rows (column exist "id") (columnUpdate col)
      else rows

/-- Phase 2 for one table: its snapshot columns, then the removal of the columns it had
that the snapshot does not name. -/
def syncColumns (ids : Record) (rows : List Record) (entry : String × Record) : List Record :=
  match tableIdOf ids entry.1 with
  | some tableId =>
      let existing := rowsWhere rows "tableId" tableId
      let columns := objectsOf (entry.2.get? "columns")
      let names := columns.map fun col => col.get? "name"
      let rows := columns.foldl (syncColumn tableId existing) rows
      (existing.filter fun row => some (column row "name") ∉ names).foldl
        (fun rows row => deleteById rows (column row "id")) rows
  | none => rows

/-! ### Phase 3: relation definitions -/

/-- An entry of `allRelationsToProcess`; its `isInverse` only shapes a log message. -/
structure RelationEntry where
  tableName : String
  tableId : Value
  relation : Record

/-- The type of the derived inverse. -/
def inverseTypeOf (type : Value) : Value :=
  if type = .str "many-to-one" then .str "one-to-many"
  else if type = .str "one-to-many" then .str "many-to-one"
  else type

section Naming

variable (getJunctionTableName : Value → Value → Value → Value)
  (getForeignKeyColumnName : Value → Value)

/-- The inverse derived for `rel` of table `name`: the junction of a many-to-many inverse is
computed from the direct relation's side. -/
def inverseRelation (name : String) (rel : Record) : Record :=
  definedFields [("propertyName", rel.get? "inversePropertyName"),
    ("type", some (inverseTypeOf (column rel "type"))), ("targetTable", some (.str name)),
    ("inversePropertyName", rel.get? "propertyName"), ("isSystem", rel.get? "isSystem"),
    ("isNullable", rel.get? "isNullable")] ++
  if inverseTypeOf (column rel "type") = .str "many-to-many" then
    [("junctionTableName",
        getJunctionTableName (.str name) (column rel "propertyName") (column rel "targetTable")),
      ("junctionSourceColumn", getForeignKeyColumnName (column rel "targetTable")),
      ("junctionTargetColumn", getForeignKeyColumnName (.str name))]
  else []

/-- The entries the first pass pushes for one relation of table `name`. -/
def relationEntries (ids : Record) (name : String) (tableId : Value) (rel : Record) :
    List RelationEntry :=
  if truthyAt rel "propertyName" && truthyAt rel "targetTable" && truthyAt rel "type" then
    match targetOf ids (column rel "targetTable") with
    | some (target, targetId) =>
        ⟨name, tableId, rel⟩ ::
          if truthyAt rel "inversePropertyName" then
            [⟨target, targetId, inverseRelation getJunctionTableName getForeignKeyColumnName
              name rel⟩]
          else []
    | none => []
  else []

/-- `allRelationsToProcess`: the first pass over the snapshot. -/
def collectRelations (ids : Record) (snapshot : List (String × Record)) : List RelationEntry :=
  snapshot.flatMap fun entry => match tableIdOf ids entry.1 with
    | some tableId => (objectsOf (entry.2.get? "relations")).flatMap
        (relationEntries getJunctionTableName getForeignKeyColumnName ids entry.1 tableId)
    | none => []

/-- The junction of a many-to-many relation as the processing loop writes it: the relation's
own fields, or names computed from the processed side. -/
def junctionFields (tableName : String) (rel : Record) : Record :=
  [("junctionTableName", orElse (rel.get? "junctionTableName")
      (getJunctionTableName (.str tableName) (column rel "propertyName")
        (column rel "targetTable"))),
    ("junctionSourceColumn", orElse (rel.get? "junctionSourceColumn")
      (getForeignKeyColumnName (.str tableName))),
    ("junctionTargetColumn", orElse (rel.get? "junctionTargetColumn")
      (getForeignKeyColumnName (column rel "targetTable")))]

/-- The fields of a relation row the loop inserts. -/
def relationInsert (tableName : String) (tableId targetId : Value) (rel : Record) : Record :=
  definedFields [("propertyName", rel.get? "propertyName"), ("type", rel.get? "type"),
    ("inversePropertyName", rel.get? "inversePropertyName"),
    ("isNullable", some (.bool (rel.get? "isNullable" ≠ some (.bool false)))),
    ("isSystem", some (orElse (rel.get? "isSystem") (.bool false))),
    ("description", rel.get? "description"), ("sourceTableId", some tableId),
    ("targetTableId", some targetId)] ++
  if rel.get? "type" = some (.str "many-to-many") then
    junctionFields getJunctionTableName getForeignKeyColumnName tableName rel
  else []

/-- The fields of a relation row the loop updates. -/
def relationUpdate (tableName : String) (targetId : Value) (rel : Record) : Record :=
  definedFields [("isNullable", rel.get? "isNullable"),
    ("inversePropertyName", rel.get? "inversePropertyName"),
    ("isSystem", rel.get? "isSystem"), ("type", rel.get? "type"),
    ("targetTableId", some targetId)] ++
  if rel.get? "type" = some (.str "many-to-many") then
    junctionFields getJunctionTableName getForeignKeyColumnName tableName rel
  else []

/-- `needsUpdate`: the junction fields are not compared. -/
def needsUpdate (rel exist : Record) (targetId : Value) : Bool :=
  changedTo (rel.get? "isNullable") (column exist "isNullable") ||
    changedTo (rel.get? "inversePropertyName") (column exist "inversePropertyName") ||
    changedTo (rel.get? "type") (column exist "type") ||
    targetId ≠ column exist "targetTableId"

/-- The row of a table's relation: `where('sourceTableId', tableId).where('propertyName',
propertyName).first()`. -/
def existingRelation (rows : List Record) (tableId propertyName : Value) : Option Record :=
  (rows.filter fun row =>
    column row "sourceTableId" = tableId ∧ column row "propertyName" = propertyName).head?

/-- One entry of the processing loop. -/
def processRelation (ids : Record) (rows : List Record) (entry : RelationEntry) :
    List Record :=
  match targetOf ids (column entry.relation "targetTable") with
  | some (_, targetId) =>
      match existingRelation rows entry.tableId (column entry.relation "propertyName") with
      | some exist =>
          if needsUpdate entry.relation exist targetId then
            updateById rows (column exist "id")
              (relationUpdate getJunctionTableName getForeignKeyColumnName entry.tableName
                targetId entry.relation)
          else rows
      | none => insertRow rows
          (relationInsert getJunctionTableName getForeignKeyColumnName entry.tableName
            entry.tableId targetId entry.relation)
  | none => rows

end Naming

/-- `snapshotRelationKeys` of table `name`: its own relations' names and the inverse names
of the relations that target it. -/
def relationKeys (snapshot : List (String × Record)) (name : String) (definition : Record) :
    List Value :=
  ((objectsOf (definition.get? "relations")).filter (truthyAt · "propertyName")).map
      (column · "propertyName") ++
    snapshot.flatMap fun other => (objectsOf (other.2.get? "relations")).filterMap fun rel =>
      if truthyAt rel "inversePropertyName" && rel.get? "targetTable" = some (.str name) then
        some (column rel "inversePropertyName")
      else none

/-- The clean-up of one table: its relations the snapshot does not name are deleted. -/
def cleanRelations (snapshot : List (String × Record)) (ids : Record) (rows : List Record)
    (entry : String × Record) : List Record :=
  match tableIdOf ids entry.1 with
  | some tableId =>
      let keys := relationKeys snapshot entry.1 entry.2
      ((rowsWhere rows "sourceTableId" tableId).filter fun row =>
          column row "propertyName" ∉ keys).foldl
        (fun rows row => deleteById rows (column row "id")) rows
  | none => rows

section Naming

variable (getJunctionTableName : Value → Value → Value → Value)
  (getForeignKeyColumnName : Value → Value)

/-- `createInitMetadata(snapshot)` on the metadata tables, for a call that completes. -/
def createInitMetadata (snapshot : List (String × Record)) (tables : MetadataTables) :
    MetadataTables :=
  let (ids, tableDefinition) := syncTables snapshot tables.tableDefinition
  let columnDefinition := snapshot.foldl (syncColumns ids) tables.columnDefinition
  let relationDefinition := (collectRelations getJunctionTableName getForeignKeyColumnName ids
    snapshot).foldl (processRelation getJunctionTableName getForeignKeyColumnName ids)
    tables.relationDefinition
  { tableDefinition, columnDefinition
    relationDefinition := snapshot.foldl (cleanRelations snapshot ids) relationDefinition }

end Naming

end Enfyra.CoreInitSqlService
