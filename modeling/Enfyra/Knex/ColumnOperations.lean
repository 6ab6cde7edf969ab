import Enfyra.Core.InitMetadata

/-!
`addColumnToTable` and `hasColumnChanged` of the schema migration (`column-operations.ts`).
The first turns a column's metadata into a knex column definition: a method of the table
builder chosen by `type`, called with the column's name and the method's size arguments,
then the calls on the column builder (`primary`, `unsigned`, `notNullable`, `defaultTo`).
The second decides whether a column whose metadata changed needs altering, by comparing
`type`, `isNullable`, `isGenerated`, `defaultValue` and `options`.

`addColumnToTable` also reads `isPrimary`, which `hasColumnChanged` does not compare: a
column that gains or loses its primary key gets another definition and is reported
unchanged. It is the only field missed: two columns of one name whose `isPrimary` is alike
truthy and whose definitions differ are reported changed.

The metadata's fields hold primitives, and `options` an object of them, so `!==` compares
them by value and `JSON.stringify` is injective on them (`JSON.stringify(undefined)` is
`undefined`). `||`, `??` and `!!` are read as in `CoreInitSqlService`.
-/

namespace Enfyra.ColumnOperations

open CoreInitSqlService (truthyAt nullish)

/-- A call on the column builder. -/
inductive Modifier where
  | primary
  | unsigned
  | notNullable
  | defaultTo (value : Value)
  deriving DecidableEq, Repr

/-- A column definition: the table builder's method, the column's name and the method's
other arguments, then the calls on the column builder in order. -/
structure ColumnDefinition where
  method : String
  name : Option Value
  args : List Value
  modifiers : List Modifier
  deriving DecidableEq, Repr

/-- `col.options?.[key]`. -/
def optionOf (col : Record) (key : String) : Option Value :=
  match col.get? "options" with
  | some (.obj options) => Record.get? options key
  | _ => none

/-- The `switch (col.type)` of `addColumnToTable`: the method, its size arguments and the
calls made on the column inside the switch. -/
def typedColumn (col : Record) : String × List Value × List Modifier :=
  let primary := truthyAt col "isPrimary"
  match col.get? "type" with
  | some (.str "uuid") => ("string", [.num 36], if primary then [.primary] else [])
  | some (.str "int") =>
      if primary && truthyAt col "isGenerated" then ("increments", [], [.unsigned])
      else ("integer", [], if primary then [.primary, .unsigned] else [])
  | some (.str "bigint") => ("bigInteger", [], [])
  | some (.str "varchar") | some (.str "text") =>
      ("string", [CoreInitSqlService.orElse (optionOf col "length") (.num 255)], [])
  | some (.str "longtext") => ("text", [.str "longtext"], [])
  | some (.str "boolean") => ("boolean", [], [])
  | some (.str "datetime") => ("dateTime", [], [])
  | some (.str "timestamp") => ("timestamp", [], [])
  | some (.str "date") => ("date", [], [])
  | some (.str "decimal") =>
      ("decimal", [CoreInitSqlService.orElse (optionOf col "precision") (.num 10),
        CoreInitSqlService.orElse (optionOf col "scale") (.num 2)], [])
  | some (.str "json") | some (.str "simple-json") => ("json", [], [])
  | _ => ("string", [], [])

/-- `addColumnToTable(table, col)`: the definition it adds to the table. -/
def addColumnToTable (col : Record) : ColumnDefinition :=
  let (method, args, modifiers) := typedColumn col
  let notNull : List Modifier :=
    if !truthyAt col "isPrimary" && !(nullish (col.get? "isNullable") (.bool true)).truthy then
      [.notNullable]
    else []
  let default : List Modifier :=
    match col.get? "defaultValue" with
    | some .null | none => []
    | some value => [.defaultTo value]
  { method, name := col.get? "name", args, modifiers := modifiers ++ notNull ++ default }

/-- `hasColumnChanged(oldCol, newCol)`. -/
def hasColumnChanged (oldCol newCol : Record) : Bool :=
  oldCol.get? "type" ≠ newCol.get? "type" ||
    oldCol.get? "isNullable" ≠ newCol.get? "isNullable" ||
    oldCol.get? "isGenerated" ≠ newCol.get? "isGenerated" ||
    oldCol.get? "defaultValue" ≠ newCol.get? "defaultValue" ||
    oldCol.get? "options" ≠ newCol.get? "options"

/-- The fields `hasColumnChanged` compares. -/
def comparedFields : List String := ["type", "isNullable", "isGenerated", "defaultValue", "options"]

theorem hasColumnChanged_eq_false_iff (oldCol newCol : Record) :
    hasColumnChanged oldCol newCol = false ↔
      ∀ key ∈ comparedFields, oldCol.get? key = newCol.get? key := by
  simp [hasColumnChanged, comparedFields, and_assoc]

/-- `addColumnToTable` reads the column's name, the truthiness of `isPrimary` and the
fields `hasColumnChanged` compares, and nothing else. -/
theorem addColumnToTable_congr {oldCol newCol : Record}
    (hname : oldCol.get? "name" = newCol.get? "name")
    (hprimary : truthyAt oldCol "isPrimary" = truthyAt newCol "isPrimary")
    (hfields : ∀ key ∈ comparedFields, oldCol.get? key = newCol.get? key) :
    addColumnToTable oldCol = addColumnToTable newCol := by
  have htype := hfields "type" (by decide)
  have hnullable := hfields "isNullable" (by decide)
  have hgenerated : truthyAt oldCol "isGenerated" = truthyAt newCol "isGenerated" := by
    simp only [truthyAt, hfields "isGenerated" (by decide)]
  have hdefault := hfields "defaultValue" (by decide)
  have hoptions : optionOf oldCol = optionOf newCol := by
    funext key
    simp only [optionOf, hfields "options" (by decide)]
  have htyped : typedColumn oldCol = typedColumn newCol := by
    unfold typedColumn
    rw [hprimary, htype, hgenerated, hoptions]
  unfold addColumnToTable
  rw [htyped, hname, hprimary, hnullable, hdefault]

/-- Two columns of one name whose `isPrimary` is alike truthy and whose definitions differ
are reported changed. -/
theorem hasColumnChanged_of_definition_ne {oldCol newCol : Record}
    (hname : oldCol.get? "name" = newCol.get? "name")
    (hprimary : truthyAt oldCol "isPrimary" = truthyAt newCol "isPrimary")
    (hne : addColumnToTable oldCol ≠ addColumnToTable newCol) :
    hasColumnChanged oldCol newCol = true := by
  by_contra hsame
  exact hne (addColumnToTable_congr hname hprimary
    ((hasColumnChanged_eq_false_iff _ _).mp (Bool.eq_false_iff.mpr hsame)))

/-- An `int` column `id` before and after it becomes the primary key. -/
def idColumn (isPrimary : Bool) : Record :=
  [("name", .str "id"), ("type", .str "int"), ("isPrimary", .bool isPrimary),
    ("isGenerated", .bool false), ("isNullable", .bool false)]

/-- The column gains its primary key: `integer('id').primary().unsigned()` replaces
`integer('id').notNullable()`, and `hasColumnChanged` reports no change. -/
theorem hasColumnChanged_misses_primary :
    addColumnToTable (idColumn false) =
        { method := "integer", name := some (.str "id"), args := [], modifiers := [.notNullable] } ∧
      addColumnToTable (idColumn true) =
        { method := "integer", name := some (.str "id"), args := [],
          modifiers := [.primary, .unsigned] } ∧
      hasColumnChanged (idColumn false) (idColumn true) = false :=
  ⟨rfl, rfl, rfl⟩

end Enfyra.ColumnOperations
