import Mathlib.Data.List.Infix
import Enfyra.Knex.ColumnOperations

/-!
The type mapping of `DatabaseSchemaService`, which reads a table's columns back from
`INFORMATION_SCHEMA` and turns each column's `DATA_TYPE` into a metadata type:
`mapMySQLDataType` and `mapPostgreSQLDataType`. Each lowers the type and tests it with
`includes` against a list of keywords in order, the first test that holds deciding.

Set against `addColumnToTable`, which creates a column from its metadata, this is a round
trip: metadata type, knex method, the column the database creates, the `DATA_TYPE` it reports,
metadata type. The `DATA_TYPE` each dialect reports for the column of each knex method is
trusted, as knex's column compilers write the column and the database names its type:
`increments` and `integer` are `int` on MySQL and `integer` on PostgreSQL, `string` is
`varchar` and `character varying`, `boolean` is MySQL's `tinyint` (its `BOOLEAN` is
`TINYINT(1)`), `dateTime` and `timestamp` are PostgreSQL's `timestamp with time zone`, and
`decimal` is its `numeric`.

The results. On MySQL a type survives the round trip exactly when it is `int`, `varchar`,
`datetime`, `date`, `decimal` or `json`: `bigint` and `boolean` come back `int`, `longtext`
comes back `text`, and `uuid` and `text` come back `varchar`. `mapMySQLDataType` never yields
`bigint` or `longtext`, whatever the type it is given, since `int` and `text` are tested first.
On PostgreSQL the surviving types are `int`, `bigint`, `varchar`, `boolean`, `datetime`,
`date`, `decimal` and `json`.

The `DATA_TYPE` the databases report is ASCII, which `String.toLower` and JavaScript's
`toLowerCase` lower alike. The column `col` that both mappings take is unused.
-/

namespace Enfyra.DatabaseSchemaService

open ColumnOperations (ColumnDefinition addColumnToTable typedColumn)
open CoreInitSqlService (truthyAt)

/-- `type.includes(keyword)` on a lowered type. -/
def includes (type : List Char) (keyword : String) : Bool := decide (keyword.toList <:+: type)

/-- `mysqlType.toLowerCase()`, as the characters of the result. -/
def lowered (type : String) : List Char := type.toList.map Char.toLower

/-- `mapMySQLDataType(mysqlType, col)`. -/
def mapMySQLDataType (mysqlType : String) : String :=
  let type := lowered mysqlType
  if includes type "int" then "int"
  else if includes type "bigint" then "bigint"
  else if includes type "varchar" || includes type "char" then "varchar"
  else if includes type "text" then "text"
  else if includes type "longtext" then "longtext"
  else if includes type "decimal" || includes type "numeric" then "decimal"
  else if includes type "datetime" || includes type "timestamp" then "datetime"
  else if includes type "date" then "date"
  else if includes type "json" then "json"
  else if includes type "enum" then "enum"
  else if includes type "boolean" || includes type "tinyint(1)" then "boolean"
  else "varchar"

/-- `mapPostgreSQLDataType(pgType, col)`. -/
def mapPostgreSQLDataType (pgType : String) : String :=
  let type := lowered pgType
  if includes type "integer" || includes type "int4" then "int"
  else if includes type "bigint" || includes type "int8" then "bigint"
  else if includes type "varchar" || includes type "character varying" then "varchar"
  else if includes type "text" then "text"
  else if includes type "numeric" || includes type "decimal" then "decimal"
  else if includes type "timestamp" then "datetime"
  else if includes type "date" then "date"
  else if includes type "json" || includes type "jsonb" then "json"
  else if includes type "boolean" || includes type "bool" then "boolean"
  else if includes type "uuid" then "uuid"
  else "varchar"

/-- The `DATA_TYPE` MySQL reports for the column a knex method creates with its size
arguments. -/
def mysqlDataType (method : String) (args : List Value) : String :=
  match method with
  | "increments" | "integer" => "int"
  | "bigInteger" => "bigint"
  | "string" => "varchar"
  | "text" => if args = [.str "longtext"] then "longtext" else "text"
  | "boolean" => "tinyint"
  | "dateTime" => "datetime"
  | "timestamp" => "timestamp"
  | "date" => "date"
  | "decimal" => "decimal"
  | "json" => "json"
  | method => method

/-- The `data_type` PostgreSQL reports for the column a knex method creates. -/
def postgresDataType (method : String) : String :=
  match method with
  | "increments" | "integer" => "integer"
  | "bigInteger" => "bigint"
  | "string" => "character varying"
  | "text" => "text"
  | "boolean" => "boolean"
  | "dateTime" | "timestamp" => "timestamp with time zone"
  | "date" => "date"
  | "decimal" => "numeric"
  | "json" => "json"
  | method => method

/-! ### What the mappings yield -/

theorem ite_mem_of {c : Prop} [Decidable c] {a b : String} {names : List String}
    (ha : c → a ∈ names) (hb : ¬ c → b ∈ names) : (if c then a else b) ∈ names := by
  by_cases h : c
  · rw [if_pos h]; exact ha h
  · rw [if_neg h]; exact hb h

theorem includes_of_contains {type : List Char} {keyword longer : String}
    (hcontains : keyword.toList <:+: longer.toList) (h : includes type longer = true) :
    includes type keyword = true :=
  decide_eq_true (hcontains.trans (of_decide_eq_true h))

/-- `mapMySQLDataType` yields one of nine types, never `bigint` nor `longtext`: a type that
holds `bigint` holds `int`, and one that holds `longtext` holds `text`, both tested before. -/
theorem mapMySQLDataType_mem (mysqlType : String) :
    mapMySQLDataType mysqlType ∈
      ["int", "varchar", "text", "decimal", "datetime", "date", "json", "enum", "boolean"] := by
  unfold mapMySQLDataType
  dsimp only
  refine ite_mem_of (fun _ => by decide) fun hint => ite_mem_of
    (fun hbigint => absurd (includes_of_contains (by decide) hbigint) hint) fun _ => ite_mem_of
    (fun _ => by decide) fun _ => ite_mem_of (fun _ => by decide) fun htext => ite_mem_of
    (fun hlongtext => absurd (includes_of_contains (by decide) hlongtext) htext) fun _ => ?_
  repeat' refine ite_mem_of (fun _ => by decide) fun _ => ?_
  decide

theorem addColumnToTable_method (col : Record) :
    (addColumnToTable col).method = (typedColumn col).1 := rfl

theorem addColumnToTable_args (col : Record) :
    (addColumnToTable col).args = (typedColumn col).2.1 := rfl

/-- The metadata types `addColumnToTable` names. -/
def knownTypes : List String :=
  ["uuid", "int", "bigint", "varchar", "text", "longtext", "boolean", "datetime", "timestamp",
    "date", "decimal", "json", "simple-json"]

/-- Any other string type makes `table.string(col.name)`. -/
theorem typedColumn_other {col : Record} {s : String} (h : col.get? "type" = some (.str s))
    (hs : s ∉ knownTypes) : typedColumn col = ("string", [], []) := by
  simp only [knownTypes, List.mem_cons, List.mem_singleton, List.not_mem_nil, or_false,
    not_or] at hs
  obtain ⟨h1, h2, h3, h4, h5, h6, h7, h8, h9, h10, h11, h12, h13⟩ := hs
  unfold typedColumn
  rw [h]
  delta typedColumn.match_1
  dsimp only
  rw [dif_neg h1, dif_neg h2, dif_neg h3, dif_neg h4, dif_neg h5, dif_neg h6, dif_neg h7,
    dif_neg h8, dif_neg h9, dif_neg h10, dif_neg h11, dif_neg h12, dif_neg h13]

/-- The method and size arguments `addColumnToTable` picks, as far as a database's type for
them goes, depend on the metadata type alone: a column of type `s` gets the column of the
record that holds only that type. The type must not tell `increments` from `integer`, nor
read the length of a string or the precision and scale of a decimal. -/
theorem dataType_typedColumn (dataType : String → List Value → String)
    (hint : dataType "increments" [] = dataType "integer" [])
    (hstring : ∀ a b, dataType "string" a = dataType "string" b)
    (hdecimal : ∀ a b, dataType "decimal" a = dataType "decimal" b) {col : Record} {s : String}
    (h : col.get? "type" = some (.str s)) :
    dataType (typedColumn col).1 (typedColumn col).2.1 =
      dataType (typedColumn [("type", .str s)]).1 (typedColumn [("type", .str s)]).2.1 := by
  by_cases hs : s ∈ knownTypes
  · have hcanon : Record.get? [("type", Value.str s)] "type" = some (.str s) := rfl
    unfold typedColumn
    rw [h, hcanon]
    simp only [knownTypes, List.mem_cons, List.mem_singleton, List.not_mem_nil, or_false] at hs
    rcases hs with rfl | rfl | rfl | rfl | rfl | rfl | rfl | rfl | rfl | rfl | rfl | rfl | rfl
    -- the types in the order of `knownTypes`
    · rfl
    · dsimp only
      generalize (truthyAt col "isPrimary" && truthyAt col "isGenerated") = generated
      cases generated
      · rfl
      · exact hint
    · rfl
    · exact hstring _ _
    · exact hstring _ _
    iterate 5 rfl
    · exact hdecimal _ _
    all_goals rfl
  · rw [typedColumn_other h hs, @typedColumn_other [("type", .str s)] s rfl hs]

/-- A dialect's round trip from its behaviour on the known types: a metadata type comes back
as itself exactly when it is one of `survivors`, given that `dataType` reads the size arguments
of the text column alone and that any other type, made a string column, comes back as a known
type. -/
theorem roundTrip_iff (dataType : String → List Value → String) (toType : String → String)
    (survivors : List String) (hint : dataType "increments" [] = dataType "integer" [])
    (hstring : ∀ a b, dataType "string" a = dataType "string" b)
    (hdecimal : ∀ a b, dataType "decimal" a = dataType "decimal" b)
    (hknown : ∀ s ∈ knownTypes, s = toType (dataType (typedColumn [("type", .str s)]).1
      (typedColumn [("type", .str s)]).2.1) ↔ s ∈ survivors)
    (hother : toType (dataType "string" []) ∈ knownTypes) (hsurvivors : survivors ⊆ knownTypes)
    (col : Record) :
    col.get? "type" = some (.str (toType
        (dataType (addColumnToTable col).method (addColumnToTable col).args))) ↔
      col.get? "type" ∈ survivors.map fun t => some (.str t) := by
  rw [addColumnToTable_method, addColumnToTable_args]
  rcases h : col.get? "type" with _ | ⟨_ | _ | _ | s | _ | _ | _ | _ | _ | _⟩
  case some.str =>
    have hinj : Function.Injective fun t => some (Value.str t) :=
      fun _ _ he => Value.str.inj (Option.some.inj he)
    rw [dataType_typedColumn dataType hint hstring hdecimal h, List.mem_map_of_injective hinj,
      Option.some.injEq, Value.str.injEq]
    by_cases hs : s ∈ knownTypes
    · exact hknown s hs
    · rw [@typedColumn_other [("type", .str s)] s rfl hs]
      exact iff_of_false (fun he => hs (he ▸ hother)) (fun hm => hs (hsurvivors hm))
  all_goals simp

/-- On MySQL a metadata type survives being created by `addColumnToTable` and read back by
`mapMySQLDataType` exactly when it is `int`, `varchar`, `datetime`, `date`, `decimal` or
`json`. -/
theorem mysql_roundTrip (col : Record) :
    col.get? "type" = some (.str (mapMySQLDataType
        (mysqlDataType (addColumnToTable col).method (addColumnToTable col).args))) ↔
      col.get? "type" ∈
        (["int", "varchar", "datetime", "date", "decimal", "json"].map fun t => some (.str t)) :=
  roundTrip_iff mysqlDataType mapMySQLDataType _ rfl (fun _ _ => rfl) (fun _ _ => rfl)
    (by decide) (by decide) (by decide) col

/-- On PostgreSQL the surviving metadata types are `int`, `bigint`, `varchar`, `boolean`,
`datetime`, `date`, `decimal` and `json`. -/
theorem postgres_roundTrip (col : Record) :
    col.get? "type" = some (.str (mapPostgreSQLDataType
        (postgresDataType (addColumnToTable col).method))) ↔
      col.get? "type" ∈ (["int", "bigint", "varchar", "boolean", "datetime", "date", "decimal",
        "json"].map fun t => some (.str t)) :=
  roundTrip_iff (fun method _ => postgresDataType method) mapPostgreSQLDataType _ rfl
    (fun _ _ => rfl) (fun _ _ => rfl) (by decide) (by decide) (by decide) col

end Enfyra.DatabaseSchemaService
