import Mathlib.Data.List.Nodup
import Mathlib.Data.String.Basic
import Enfyra.Value

/-!
The two compilers of a list of `WhereCondition`s in `QueryBuilderService`:
`applyWhereToKnex` adds one knex clause per condition, and `whereToMongoFilter` writes one
key of a filter object per condition, so a later condition on the same field replaces an
earlier one. Beside them, what the two backends make of their output, as far as the
compilers use them: SQL's three-valued `WHERE` (a row is selected when every clause is
TRUE, and a comparison with NULL is UNKNOWN) and MongoDB's query operators (`null` also
matches a missing field, an array field matches when one of its elements does).

MongoDB compares numbers by value, strings and ObjectIds by code points, booleans false
first, and never orders values of different types. How the SQL database compares is not in
the sources: its casts between types and the collation of a string column are a parameter
(`SqlSemantics`), with its `LIKE` and the error of a column it cannot resolve. The
compilers agree where the database compares two values of one type as MongoDB does, which
is what a binary collation does (`SqlSemantics.Binary`), on columns whose values are of
the compared values' type, and on fields of the queried table: SQL rejects a field
qualified by another table. The pattern language of `$regex` is a parameter too. A SQL row
holds every column of its table, and a key it lacks reads as NULL. `new ObjectId(s)`
accepts exactly the strings of 24 hexadecimal digits, as bson does from version 5 on.
-/

namespace Enfyra

/-- The order of two values of one scalar type; `null` equals `null`. -/
def Value.order? : Value → Value → Option Ordering
  | .null, .null => some .eq
  | .bool a, .bool b => some (compare a b)
  | .num a, .num b => some (compare a b)
  | .str a, .str b => some (compare a b)
  | .oid a, .oid b => some (compare a b)
  | _, _ => none

/-- A value a client compares a column with. -/
def Value.isPlain : Value → Bool
  | .bool _ | .num _ | .str _ => true
  | _ => false

/-- A value a SQL column holds. -/
def Value.isColumnValue (v : Value) : Bool := v = .null || v.isPlain

/-- Two values of one SQL type. -/
def Value.sameType : Value → Value → Bool
  | .bool _, .bool _ | .num _, .num _ | .str _, .str _ => true
  | _, _ => false

namespace QueryBuilderService

structure WhereCondition where
  field : String
  operator : String
  value : Value
  deriving DecidableEq, Repr

/-- `field.split('.').pop()`. -/
def lastSegment (field : String) : String :=
  ⟨(field.toList.reverse.takeWhile (· ≠ '.')).reverse⟩

/-! ### The SQL side -/

/-- A clause knex adds to the query's `WHERE`. -/
inductive KnexClause where
  /-- `where(column, operator, value)`. -/
  | basic (column operator : String) (value : Value)
  | whereIn (column : String) (values : Value)
  | whereNotIn (column : String) (values : Value)
  | whereNull (column : String)
  | whereNotNull (column : String)
  deriving DecidableEq, Repr

/-- The clause the switch of `applyWhereToKnex` adds for one condition; an operator it
does not list adds none. -/
def knexClause (condition : WhereCondition) : Option KnexClause :=
  match condition.operator with
  | "=" => some (.basic condition.field "=" condition.value)
  | "!=" => some (.basic condition.field "!=" condition.value)
  | ">" => some (.basic condition.field ">" condition.value)
  | "<" => some (.basic condition.field "<" condition.value)
  | ">=" => some (.basic condition.field ">=" condition.value)
  | "<=" => some (.basic condition.field "<=" condition.value)
  | "like" => some (.basic condition.field "like" condition.value)
  | "in" => some (.whereIn condition.field condition.value)
  | "not in" => some (.whereNotIn condition.field condition.value)
  | "is null" => some (.whereNull condition.field)
  | "is not null" => some (.whereNotNull condition.field)
  | _ => none

/-- `applyWhereToKnex(query, conditions)`: the query's clauses, then one per condition. -/
def applyWhereToKnex (query : List KnexClause) (conditions : List WhereCondition) :
    List KnexClause :=
  conditions.foldl (fun query condition =>
    match knexClause condition with
    | some clause => query ++ [clause]
    | none => query) query

/-- The column a clause tests. -/
def KnexClause.column : KnexClause → String
  | .basic column _ _ | .whereIn column _ | .whereNotIn column _ | .whereNull column
  | .whereNotNull column => column

/-- Trusted: what the database does with a `WHERE`. `compare a b` orders two values that are
not NULL, after the casts the database makes between types and under the collation of the
column (`none`: it does not compare them); `likeMatches pattern s` is `s LIKE pattern`; and
`unknownColumn column` is the error of a statement naming a column it cannot resolve. -/
structure SqlSemantics where
  compare : Value → Value → Option Ordering
  likeMatches : String → String → Bool
  unknownColumn : String → Err

/-- A database that compares two values of one type as MongoDB orders them: numbers by
value, booleans false first, strings by code points, as a binary collation does
(`utf8mb4_bin`, PostgreSQL's `C`). -/
def SqlSemantics.Binary (sql : SqlSemantics) : Prop :=
  ∀ a b, a.sameType b = true → sql.compare a b = a.order? b

/-- The database with a binary collation and no implicit casts. -/
def SqlSemantics.binary (likeMatches : String → String → Bool) (unknownColumn : String → Err) :
    SqlSemantics :=
  ⟨Value.order?, likeMatches, unknownColumn⟩

theorem SqlSemantics.binary_binary (likeMatches : String → String → Bool)
    (unknownColumn : String → Err) : (SqlSemantics.binary likeMatches unknownColumn).Binary :=
  fun _ _ _ => rfl

/-- The field names a column of `table`: it is unqualified, or qualified by `table`. -/
def qualifiedBy (table field : String) : Bool :=
  !field.toList.contains '.' || field = table ++ "." ++ lastSegment field

/-- A column of the queried table, qualified (`table.column`) or not. -/
def columnValue (row : Record) (column : String) : Value :=
  (row.get? (lastSegment column)).getD .null

/-- Trusted: `a operator ?` is TRUE when neither side is NULL and the comparison holds. -/
def basicHolds (sql : SqlSemantics) (operator : String) (a b : Value) : Bool :=
  if a = .null ∨ b = .null then false
  else if operator = "=" then (sql.compare a b).any Ordering.isEq
  else if operator = "!=" then (sql.compare a b).any Ordering.isNe
  else if operator = ">" then (sql.compare a b).any Ordering.isGT
  else if operator = "<" then (sql.compare a b).any Ordering.isLT
  else if operator = ">=" then (sql.compare a b).any Ordering.isGE
  else if operator = "<=" then (sql.compare a b).any Ordering.isLE
  else if operator = "like" then
    match a, b with
    | .str s, .str pattern => sql.likeMatches pattern s
    | _, _ => false
  else false

/-- The bindings of `whereIn`: an array's elements, or the one value. -/
def bindings : Value → List Value
  | .arr values => values
  | value => [value]

/-- Trusted: when a clause is TRUE for a row. `IN` is TRUE when one of its `=` comparisons
is, `NOT IN` when all its `<>` comparisons are; knex compiles an empty `whereIn` to
`1 = 0` and an empty `whereNotIn` to `1 = 1`. -/
def clauseHolds (sql : SqlSemantics) (row : Record) : KnexClause → Bool
  | .basic column operator value => basicHolds sql operator (columnValue row column) value
  | .whereIn column values => (bindings values).any (basicHolds sql "=" (columnValue row column))
  | .whereNotIn column values =>
      bindings values = [] || (bindings values).all (basicHolds sql "!=" (columnValue row column))
  | .whereNull column => columnValue row column = .null
  | .whereNotNull column => columnValue row column ≠ .null

/-- The rows a query selects: every clause is TRUE. -/
def selects (sql : SqlSemantics) (query : List KnexClause) (row : Record) : Bool :=
  query.all (clauseHolds sql row)

/-- Trusted: the database resolves the columns of a query on `table`. It rejects the
statement at the first column qualified by another table; otherwise the query selects the
rows of `selects`. -/
def sqlWhere (sql : SqlSemantics) (table : String) (query : List KnexClause) :
    Except Err (Record → Bool) :=
  match (query.map KnexClause.column).find? fun column => !qualifiedBy table column with
  | some column => .error (sql.unknownColumn column)
  | none => .ok (selects sql query)

/-! ### The document side -/

def isHexDigit (c : Char) : Bool :=
  c.isDigit || (decide ('a' ≤ c) && decide (c ≤ 'f')) || (decide ('A' ≤ c) && decide (c ≤ 'F'))

/-- `new ObjectId(s)`: the ObjectId of 24 hexadecimal digits, kept in lower case as
`toHexString` prints it; it throws on any other string. -/
def objectIdOf (s : String) : Except Err Value :=
  if s.length = 24 ∧ s.toList.all isHexDigit = true then .ok (.oid ⟨s.toList.map Char.toLower⟩)
  else .error (.invalidObjectId s)

/-- The coercion at the top of the loop: a string compared with `_id` becomes the ObjectId
it spells; when `new ObjectId` throws, the error is caught and the string stays. -/
def coerceId (value : Value) : Value :=
  match value with
  | .str s => match objectIdOf s with
    | .ok objectId => objectId
    | .error _ => value
  | _ => value

/-- The document field a condition names: the table prefix removed, `id` read as `_id`. -/
def mongoFieldName (field : String) : String :=
  let fieldName := if field.toList.contains '.' then lastSegment field else field
  if fieldName = "id" then "_id" else fieldName

/-- `value.replace(/%/g, '.*')`. -/
def likeToRegex (s : String) : String :=
  ⟨s.toList.flatMap fun c => if c = '%' then ['.', '*'] else [c]⟩

/-- `v => typeof v === 'string' ? new ObjectId(v) : v`. -/
def objectIdOfItem : Value → Except Err Value
  | .str s => objectIdOf s
  | v => .ok v

/-- `(value as any[]).map(...)`: it throws on a string that spells no ObjectId, and on a
value with no `map`. -/
def objectIdsOf : Value → Except Err Value
  | .arr values => .arr <$> values.mapM objectIdOfItem
  | .null => .error (.readOfNull "map")
  | _ => .error (.notAFunction "map")

/-- The list of an `in` or a `not in`, its strings made ObjectIds on `_id`. -/
def idList (fieldName : String) (value : Value) : Except Err Value :=
  if fieldName = "_id" then objectIdsOf value else .ok value

/-- What the switch of `whereToMongoFilter` writes under the condition's field; an operator
it does not list writes nothing. -/
def mongoCondition (condition : WhereCondition) : Except Err (Option Value) :=
  let fieldName := mongoFieldName condition.field
  let value := if fieldName = "_id" then coerceId condition.value else condition.value
  match condition.operator with
  | "=" => .ok (some value)
  | "!=" => .ok (some (.obj [("$ne", value)]))
  | ">" => .ok (some (.obj [("$gt", value)]))
  | "<" => .ok (some (.obj [("$lt", value)]))
  | ">=" => .ok (some (.obj [("$gte", value)]))
  | "<=" => .ok (some (.obj [("$lte", value)]))
  | "like" => match value with
    | .str s => .ok (some (.obj [("$regex", .str (likeToRegex s))]))
    | .null => .error (.readOfNull "replace")
    | _ => .error (.notAFunction "replace")
  | "in" => do
    let inValues ← idList fieldName value
    pure (some (.obj [("$in", inValues)]))
  | "not in" => do
    let ninValues ← idList fieldName value
    pure (some (.obj [("$nin", ninValues)]))
  | "is null" => .ok (some .null)
  | "is not null" => .ok (some (.obj [("$ne", .null)]))
  | _ => .ok none

/-- One pass of the loop of `whereToMongoFilter`: `filter[fieldName] = ...`. -/
def writeCondition (filter : Record) (condition : WhereCondition) : Except Err Record := do
  match ← mongoCondition condition with
  | some value => pure (filter.set (mongoFieldName condition.field) value)
  | none => pure filter

def whereToMongoFilter (conditions : List WhereCondition) : Except Err Record :=
  conditions.foldlM writeCondition []

/-- A test on a document field, element by element when it holds an array. -/
def anyElement (field : Value) (test : Value → Bool) : Bool :=
  test field || match field with
    | .arr items => items.any test
    | _ => false

/-- Trusted: MongoDB's equality; a missing field reads as `null`. -/
def mongoEq (field : Option Value) (value : Value) : Bool :=
  anyElement (field.getD .null) (· = value)

/-- Trusted: MongoDB's comparison operators, which order values of one type only. -/
def mongoCompare (field : Option Value) (value : Value) (holds : Ordering → Bool) : Bool :=
  anyElement (field.getD .null) fun x => (x.order? value).any holds

/-- Trusted: one operator of an operator object. MongoDB rejects an unknown operator and
an `$in` without an array; neither compiler writes one, and they match nothing here. -/
def operatorHolds (regexMatches : String → String → Bool) (field : Option Value)
    (op : String × Value) : Bool :=
  if op.1 = "$ne" then !mongoEq field op.2
  else if op.1 = "$gt" then mongoCompare field op.2 Ordering.isGT
  else if op.1 = "$lt" then mongoCompare field op.2 Ordering.isLT
  else if op.1 = "$gte" then mongoCompare field op.2 Ordering.isGE
  else if op.1 = "$lte" then mongoCompare field op.2 Ordering.isLE
  else if op.1 = "$in" then
    match op.2 with
    | .arr values => values.any (mongoEq field)
    | _ => false
  else if op.1 = "$nin" then
    match op.2 with
    | .arr values => !values.any (mongoEq field)
    | _ => false
  else if op.1 = "$regex" then
    match op.2 with
    | .str pattern => anyElement (field.getD .null) fun
      | .str s => regexMatches pattern s
      | _ => false
    | _ => false
  else false

/-- An object whose keys all start with `$` is an operator expression. -/
def isOperatorObject (ops : Record) : Bool :=
  ops ≠ [] && ops.all fun op => op.1.toList.head? = some '$'

/-- Trusted: how MongoDB reads the value of one key of a filter. -/
def fieldMatches (regexMatches : String → String → Bool) (field : Option Value) :
    Value → Bool
  | .obj ops => if isOperatorObject ops then ops.all (operatorHolds regexMatches field)
      else mongoEq field (.obj ops)
  | value => mongoEq field value

/-- The documents a filter object matches: every key's condition holds. -/
def mongoMatches (regexMatches : String → String → Bool) (filter doc : Record) : Bool :=
  filter.all fun entry => fieldMatches regexMatches (doc.get? entry.1) entry.2

/-- The document a row is stored as: the same fields, with `id` stored as `_id`, as the
ObjectId it spells when it spells one. -/
def mirror (row : Record) : Record :=
  row.map fun p => if p.1 = "id" then ("_id", coerceId p.2) else p

/-! ### Where the two compilers agree -/

/-- An identity both backends read alike: not a string, or a string that `new ObjectId`
keeps as its own hex (24 hexadecimal digits in lower case). -/
def plainId : Value → Bool
  | .str s => match objectIdOf s with
    | .ok (.oid hex) => hex = s
    | _ => false
  | _ => true

/-- How the document side stores a SQL value: itself, or on the identity, the ObjectId a
string spells. -/
def docForm (onId : Bool) : Value → Value
  | .str s => if onId then .oid s else .str s
  | v => v

/-- The condition names the identity column. -/
def onIdentity (condition : WhereCondition) : Bool := lastSegment condition.field = "id"

/-- A value both backends compare a condition's column with alike: a boolean, a number or a
string, which on the identity spells an ObjectId as `toHexString` prints it. -/
def comparable (condition : WhereCondition) (v : Value) : Bool :=
  v.isPlain && (!onIdentity condition || plainId v)

/-- A condition whose operator both compilers translate alike: a comparison, `in` or
`not in` over values both backends compare alike, `is null` or `is not null`; it never
names an `_id` column. -/
def supported (condition : WhereCondition) : Bool :=
  lastSegment condition.field ≠ "_id" &&
    match condition.operator with
    | "=" | "!=" | ">" | "<" | ">=" | "<=" => comparable condition condition.value
    | "in" | "not in" => match condition.value with
      | .arr values => values.all (comparable condition)
      | _ => false
    | "is null" | "is not null" => true
    | _ => false

/-- The values a condition compares its column with. -/
def comparedValues (condition : WhereCondition) : List Value :=
  match condition.operator with
  | "in" | "not in" => bindings condition.value
  | "is null" | "is not null" => []
  | _ => [condition.value]

/-- A row of a SQL table that is mirrored as a document: it has no `_id` column, its
identity is read alike, it is not NULL where a condition tests `!=` or `not in`, and where
a condition's column is not NULL it holds a value of the type of every value the condition
compares it with. -/
def rowFits (conditions : List WhereCondition) (row : Record) : Bool :=
  row.all (fun p => p.2.isColumnValue) && (row.get? "_id").isNone &&
    (row.get? "id").all plainId &&
    conditions.all fun condition =>
      ((condition.operator ≠ "!=" && condition.operator ≠ "not in") ||
        columnValue row condition.field ≠ .null) &&
      (columnValue row condition.field = .null ||
        (comparedValues condition).all (columnValue row condition.field).sameType)

/-! ### Proof of the agreement -/

theorem lastSegment_of_not_contains {field : String} (h : field.toList.contains '.' = false) :
    lastSegment field = field := by
  have hall : ∀ c ∈ field.toList.reverse, decide (c ≠ '.') = true := by
    intro c hc
    have : c ∈ field.toList := List.mem_reverse.mp hc
    simp only [decide_eq_true_eq]
    rintro rfl
    simp_all
  simp only [lastSegment, List.takeWhile_eq_self_iff.mpr hall, List.reverse_reverse]
  rfl

theorem mongoFieldName_eq (field : String) :
    mongoFieldName field =
      if lastSegment field = "id" then "_id" else lastSegment field := by
  unfold mongoFieldName
  cases h : field.toList.contains '.'
  · simp [lastSegment_of_not_contains h]
  · simp

@[simp] theorem mirror_nil : mirror [] = [] := rfl

@[simp] theorem mirror_cons (p : String × Value) (row : Record) :
    mirror (p :: row) = (if p.1 = "id" then ("_id", coerceId p.2) else p) :: mirror row := rfl

theorem mirror_get?_of_ne {key : String} (h1 : key ≠ "_id") (h2 : key ≠ "id") :
    ∀ row : Record, (mirror row).get? key = row.get? key
  | [] => rfl
  | (k, v) :: row => by
      by_cases hk : k = "id"
      · subst hk
        simp [Record.get?_cons, Ne.symm h1, Ne.symm h2, mirror_get?_of_ne h1 h2 row]
      · simp [Record.get?_cons, hk, mirror_get?_of_ne h1 h2 row]

theorem mirror_get?_id :
    ∀ {row : Record}, row.get? "_id" = none →
      (mirror row).get? "_id" = (row.get? "id").map coerceId
  | [], _ => rfl
  | (k, v) :: row, h => by
      by_cases hk : k = "id"
      · subst hk; simp [Record.get?_cons]
      · by_cases hk' : k = "_id"
        · subst hk'; simp [Record.get?_cons] at h
        · simp only [Record.get?_cons, hk', if_false] at h
          simp [Record.get?_cons, hk, hk', mirror_get?_id h]

theorem docForm_false (v : Value) : docForm false v = v := by cases v <;> rfl

theorem map_docForm_false : ∀ values : List Value, values.map (docForm false) = values
  | [] => rfl
  | v :: rest => by rw [List.map_cons, docForm_false, map_docForm_false rest]

theorem coerceId_of_plainId {v : Value} (h : plainId v = true) : coerceId v = docForm true v := by
  cases v with
  | str s =>
      simp only [plainId] at h
      split at h
      · rename_i hex hs
        simp only [decide_eq_true_eq] at h
        subst h
        simp [coerceId, hs, docForm]
      · cases h
  | _ => rfl

theorem isColumnValue_cases {v : Value} (h : v.isColumnValue = true) :
    v = .null ∨ (∃ b, v = .bool b) ∨ (∃ n, v = .num n) ∨ ∃ s, v = .str s := by
  cases v <;> simp_all [Value.isColumnValue, Value.isPlain]

theorem docForm_eq_iff (i : Bool) {a b : Value} (ha : a.isColumnValue = true)
    (hb : b.isColumnValue = true) : docForm i a = docForm i b ↔ a = b := by
  cases i
  · simp only [docForm_false]
  · rcases isColumnValue_cases ha with rfl | ⟨_, rfl⟩ | ⟨_, rfl⟩ | ⟨_, rfl⟩ <;>
      rcases isColumnValue_cases hb with rfl | ⟨_, rfl⟩ | ⟨_, rfl⟩ | ⟨_, rfl⟩ <;>
      simp [docForm]

theorem order?_docForm (i : Bool) {a b : Value} (ha : a.isColumnValue = true)
    (hb : b.isColumnValue = true) : (docForm i a).order? (docForm i b) = a.order? b := by
  cases i
  · simp only [docForm_false]
  · rcases isColumnValue_cases ha with rfl | ⟨_, rfl⟩ | ⟨_, rfl⟩ | ⟨_, rfl⟩ <;>
      rcases isColumnValue_cases hb with rfl | ⟨_, rfl⟩ | ⟨_, rfl⟩ | ⟨_, rfl⟩ <;> rfl

theorem anyElement_docForm (i : Bool) {a : Value} (ha : a.isColumnValue = true)
    (test : Value → Bool) : anyElement (docForm i a) test = test (docForm i a) := by
  rcases isColumnValue_cases ha with rfl | ⟨_, rfl⟩ | ⟨_, rfl⟩ | ⟨_, rfl⟩ <;>
    cases i <;> simp [anyElement, docForm]

theorem docForm_null (i : Bool) : docForm i .null = .null := rfl

theorem objectIdOfItem_of_plainId {v : Value} (h : plainId v = true) :
    objectIdOfItem v = .ok (docForm true v) := by
  have hv := coerceId_of_plainId h
  cases v with
  | str s =>
      simp only [coerceId] at hv
      split at hv
      · rename_i o ho; rw [← hv]; exact ho
      · cases hv
  | _ => rfl

/-- The map of an `in` list succeeds when every item's conversion does. -/
theorem objectIdsOf_of_forall (f : Value → Value) {values : List Value}
    (h : ∀ v ∈ values, objectIdOfItem v = .ok (f v)) :
    objectIdsOf (.arr values) = .ok (.arr (values.map f)) := by
  suffices hmap : values.mapM objectIdOfItem = .ok (values.map f) by
    simp only [objectIdsOf, hmap]; rfl
  induction values with
  | nil => rfl
  | cons v rest ih =>
      rw [List.mapM_cons, ih fun w hw => h w (List.mem_cons_of_mem _ hw),
        h v (List.mem_cons_self _ _)]
      rfl

theorem objectIdsOf_of_plainId {values : List Value} (h : ∀ v ∈ values, plainId v = true) :
    objectIdsOf (.arr values) = .ok (.arr (values.map (docForm true))) :=
  objectIdsOf_of_forall _ fun v hv => objectIdOfItem_of_plainId (h v hv)

theorem get?_mem : ∀ {row : Record} {key : String} {v : Value}, row.get? key = some v → (key, v) ∈ row
  | [], _, _, h => by cases h
  | (k, w) :: row, key, v, h => by
      rw [Record.get?_cons] at h
      split at h
      · cases h; subst_vars; exact List.mem_cons_self _ _
      · exact List.mem_cons_of_mem _ (get?_mem h)

theorem columnValue_isColumnValue {row : Record} (hcols : row.all (fun p => p.2.isColumnValue) = true)
    (column : String) : (columnValue row column).isColumnValue = true := by
  unfold columnValue
  cases h : row.get? (lastSegment column) with
  | none => rfl
  | some v => exact List.all_eq_true.mp hcols _ (get?_mem h)

theorem mongoFieldName_eq_id_iff {field : String} (hk : lastSegment field ≠ "_id") :
    mongoFieldName field = "_id" ↔ lastSegment field = "id" := by
  rw [mongoFieldName_eq]
  split <;> simp_all

/-- The document field a condition reads holds the row's column as the document stores it. -/
theorem mirror_field {c : WhereCondition} {row : Record} (hk : lastSegment c.field ≠ "_id")
    (hnone : row.get? "_id" = none) (hid : (row.get? "id").all plainId = true) :
    ((mirror row).get? (mongoFieldName c.field)).getD .null =
      docForm (onIdentity c) (columnValue row c.field) := by
  rw [mongoFieldName_eq, columnValue]
  unfold onIdentity
  split
  · rename_i h
    rw [mirror_get?_id hnone, h]
    cases hx : row.get? "id" with
    | none => rfl
    | some x =>
        simp only [hx, Option.all_some] at hid
        simp [coerceId_of_plainId hid]
  · rename_i h
    rw [mirror_get?_of_ne hk h]
    simp [h, docForm_false]

/-- What the switch writes for a value both backends compare alike: the value as the
document stores it. -/
theorem written_value {c : WhereCondition} (hk : lastSegment c.field ≠ "_id") {v : Value}
    (hv : comparable c v = true) :
    (if mongoFieldName c.field = "_id" then coerceId v else v) = docForm (onIdentity c) v := by
  simp only [comparable, Bool.and_eq_true, Bool.or_eq_true, Bool.not_eq_true'] at hv
  simp only [mongoFieldName_eq_id_iff hk]
  unfold onIdentity at hv ⊢
  split
  · rename_i h
    simp only [h, decide_True, Bool.true_eq_false, false_or] at hv
    simp [h, coerceId_of_plainId hv.2]
  · rename_i h
    simp [h, docForm_false]


section Agreement

variable {sql : SqlSemantics} (regexMatches : String → String → Bool)

theorem fieldMatches_docForm (field : Option Value) (i : Bool) {v : Value} (hv : v.isPlain = true) :
    fieldMatches regexMatches field (docForm i v) = mongoEq field (docForm i v) := by
  cases i <;> cases v <;> simp_all [fieldMatches, docForm, Value.isPlain]

theorem fieldMatches_operator (field : Option Value) {op : String} (hop : op.toList.head? = some '$')
    (w : Value) :
    fieldMatches regexMatches field (.obj [(op, w)]) = operatorHolds regexMatches field (op, w) := by
  have : op.data.head? = some '$' := hop
  simp [fieldMatches, isOperatorObject, this]

section Column

variable {F : Option Value} {i : Bool} {a : Value}

theorem mongoEq_docForm (hA : F.getD .null = docForm i a) (ha : a.isColumnValue = true)
    {w : Value} (hw : w.isColumnValue = true) : mongoEq F (docForm i w) = decide (a = w) := by
  rw [mongoEq, hA, anyElement_docForm i ha]
  simp [docForm_eq_iff i ha hw]

theorem mongoCompare_docForm (hA : F.getD .null = docForm i a) (ha : a.isColumnValue = true)
    {w : Value} (hw : w.isPlain = true) (holds : Ordering → Bool) :
    mongoCompare F (docForm i w) holds = (decide (a ≠ .null) && (a.order? w).any holds) := by
  have hw' : w.isColumnValue = true := by simp [Value.isColumnValue, hw]
  rw [mongoCompare, hA, anyElement_docForm i ha, order?_docForm i ha hw']
  by_cases hnull : a = .null
  · subst hnull; cases w <;> simp_all [Value.order?, Value.isPlain]
  · simp [hnull]

end Column

theorem isPlain_of_comparable {c : WhereCondition} {v : Value} (h : comparable c v = true) :
    v.isPlain = true := by
  simp only [comparable, Bool.and_eq_true] at h
  exact h.1

theorem isColumnValue_of_isPlain {v : Value} (h : v.isPlain = true) : v.isColumnValue = true := by
  simp [Value.isColumnValue, h]

theorem ne_null_of_isPlain {v : Value} (h : v.isPlain = true) : v ≠ .null := by
  rintro rfl; cases h

/-- What the switch writes for the list of an `in` or `not in` of values both backends
compare alike. -/
theorem written_values {c : WhereCondition} (hk : lastSegment c.field ≠ "_id")
    {values : List Value} (hv : values.all (comparable c) = true) :
    idList (mongoFieldName c.field) (.arr values) =
      .ok (.arr (values.map (docForm (onIdentity c)))) := by
  simp only [idList, mongoFieldName_eq_id_iff hk]
  unfold onIdentity
  split
  · rename_i h
    simp only [h, decide_True]
    refine objectIdsOf_of_plainId fun w hw => ?_
    have := List.all_eq_true.mp hv w hw
    simp only [comparable, onIdentity, h, Bool.and_eq_true, decide_True, Bool.not_true,
      Bool.false_or] at this
    exact this.2
  · rename_i h
    simp [h, map_docForm_false]

section Lists

variable {F : Option Value} {i : Bool} {a : Value}

theorem any_mongoEq_docForm (hA : F.getD .null = docForm i a) (ha : a.isColumnValue = true) :
    ∀ {values : List Value}, (∀ w ∈ values, w.isPlain = true) →
      (values.map (docForm i)).any (mongoEq F) = values.any fun w => decide (a = w)
  | [], _ => rfl
  | w :: rest, hall => by
      have hw := isColumnValue_of_isPlain (hall w (List.mem_cons_self _ _))
      simp only [List.map_cons, List.any_cons, mongoEq_docForm hA ha hw,
        any_mongoEq_docForm hA ha fun v hv => hall v (List.mem_cons_of_mem _ hv)]

end Lists

/-! ### SQL under a binary comparison -/

theorem sameType_cases {a b : Value} (h : a.sameType b = true) :
    (∃ x y, a = .bool x ∧ b = .bool y) ∨ (∃ x y, a = .num x ∧ b = .num y) ∨
      ∃ x y, a = .str x ∧ b = .str y := by
  cases a <;> cases b <;> simp_all [Value.sameType]

theorem compare_isEq {α : Type} [LinearOrder α] (x y : α) :
    (compare x y).isEq = decide (x = y) := by
  rw [Bool.eq_iff_iff, decide_eq_true_iff, ← @compare_eq_iff_eq α _ x y]
  cases compare x y <;> decide

theorem order?_isEq {a b : Value} (h : a.sameType b = true) :
    (a.order? b).any Ordering.isEq = decide (a = b) := by
  rcases sameType_cases h with ⟨x, y, rfl, rfl⟩ | ⟨x, y, rfl, rfl⟩ | ⟨x, y, rfl, rfl⟩
  · cases x <;> cases y <;> rfl
  · simp [Value.order?, compare_isEq]
  · simp [Value.order?, compare_isEq]

theorem order?_isNe {a b : Value} (h : a.sameType b = true) :
    (a.order? b).any Ordering.isNe = !decide (a = b) := by
  rw [← order?_isEq h]
  rcases sameType_cases h with ⟨x, y, rfl, rfl⟩ | ⟨x, y, rfl, rfl⟩ | ⟨x, y, rfl, rfl⟩ <;>
    simp only [Value.order?, Option.any_some] <;> cases compare x y <;> rfl

/-- SQL's `=` between a column that is NULL or of the value's type and a value that is not
NULL is equality, under a binary comparison. -/
theorem basicHolds_eq (hsql : sql.Binary) {a w : Value} (hw : w.isPlain = true)
    (h : a ≠ .null → a.sameType w = true) : basicHolds sql "=" a w = decide (a = w) := by
  by_cases ha : a = .null
  · subst ha
    simp [basicHolds, (ne_null_of_isPlain hw).symm]
  · simp [basicHolds, ha, ne_null_of_isPlain hw, hsql a w (h ha), order?_isEq (h ha)]

/-- SQL's `<>` between a column that is not NULL and a value of its type. -/
theorem basicHolds_ne (hsql : sql.Binary) {a w : Value} (hw : w.isPlain = true)
    (ha : a ≠ .null) (h : a.sameType w = true) : basicHolds sql "!=" a w = !decide (a = w) := by
  simp [basicHolds, ha, ne_null_of_isPlain hw, hsql a w h, order?_isNe h]

/-- SQL's `IN` is TRUE exactly when the column equals one of the values. -/
theorem whereIn_holds (hsql : sql.Binary) {a : Value} :
    ∀ {values : List Value}, (∀ w ∈ values, w.isPlain = true) →
      (a ≠ .null → ∀ w ∈ values, a.sameType w = true) →
      values.any (basicHolds sql "=" a) = values.any fun w => decide (a = w)
  | [], _, _ => rfl
  | w :: rest, hall, h => by
      simp only [List.any_cons, basicHolds_eq hsql (hall w (.head _)) fun ha => h ha w (.head _),
        whereIn_holds hsql (fun v hv => hall v (.tail _ hv)) fun ha v hv => h ha v (.tail _ hv)]

theorem all_basicHolds_ne (hsql : sql.Binary) {a : Value} (ha : a ≠ .null) :
    ∀ {values : List Value}, (∀ w ∈ values, w.isPlain = true) →
      (∀ w ∈ values, a.sameType w = true) →
      values.all (basicHolds sql "!=" a) = !values.any fun w => decide (a = w)
  | [], _, _ => rfl
  | w :: rest, hall, h => by
      simp only [List.all_cons, List.any_cons, Bool.not_or,
        basicHolds_ne hsql (hall w (.head _)) ha (h w (.head _)),
        all_basicHolds_ne hsql ha (fun v hv => hall v (.tail _ hv)) fun v hv => h v (.tail _ hv)]

/-- SQL's `NOT IN` on a column that is not NULL is TRUE exactly when the column equals none
of the values; knex makes an empty list TRUE. -/
theorem whereNotIn_holds (hsql : sql.Binary) {a : Value} (ha : a ≠ .null) {values : List Value}
    (hall : ∀ w ∈ values, w.isPlain = true) (h : ∀ w ∈ values, a.sameType w = true) :
    (decide (values = []) || values.all (basicHolds sql "!=" a)) =
      !values.any fun w => decide (a = w) := by
  rw [all_basicHolds_ne hsql ha hall h]
  cases values <;> simp


theorem rowFits_of_mem {conditions : List WhereCondition} {row : Record}
    (h : rowFits conditions row = true) {c : WhereCondition} (hc : c ∈ conditions) :
    rowFits [c] row = true := by
  simp only [rowFits, Bool.and_eq_true, List.all_cons, List.all_nil, Bool.and_true] at h ⊢
  exact ⟨h.1, by simpa only [Bool.and_eq_true] using List.all_eq_true.mp h.2 c hc⟩

/-- What a row that fits a condition gives: the document's field is the row's column as
the document stores it, a value a SQL column holds, not NULL under `!=` or `not in`, and of
the type of every compared value where it is not NULL. -/
theorem rowFits_facts {c : WhereCondition} (hk : lastSegment c.field ≠ "_id") {row : Record}
    (hrow : rowFits [c] row = true) :
    ((mirror row).get? (mongoFieldName c.field)).getD .null =
        docForm (onIdentity c) (columnValue row c.field) ∧
      (columnValue row c.field).isColumnValue = true ∧
      ((c.operator ≠ "!=" && c.operator ≠ "not in") || columnValue row c.field ≠ .null) = true ∧
      (columnValue row c.field ≠ .null →
        ∀ v ∈ comparedValues c, (columnValue row c.field).sameType v = true) := by
  simp only [rowFits, Bool.and_eq_true, List.all_cons, List.all_nil, Bool.and_true,
    Option.isNone_iff_eq_none] at hrow
  obtain ⟨⟨⟨hcols, hnone⟩, hid⟩, hnull, hsame⟩ := hrow
  refine ⟨mirror_field hk hnone hid, columnValue_isColumnValue hcols c.field, hnull,
    fun hne => ?_⟩
  simpa [hne, List.all_eq_true] using hsame

/-- For one supported condition, knex adds a clause and the switch writes a value, and for
every row that fits the condition the clause is TRUE exactly when the row's document
matches the value under the condition's field, when the database compares values of one
type as MongoDB does. -/
theorem condition_agrees (hsql : sql.Binary) {c : WhereCondition} (hc : supported c = true) :
    ∃ clause value, knexClause c = some clause ∧ mongoCondition c = .ok (some value) ∧
      ∀ row, rowFits [c] row = true → clauseHolds sql row clause =
        fieldMatches regexMatches ((mirror row).get? (mongoFieldName c.field)) value := by
  simp only [supported, Bool.and_eq_true, decide_eq_true_eq] at hc
  obtain ⟨hk, hop⟩ := hc
  obtain ⟨field, operator, v⟩ := c
  simp only at hop hk
  split at hop
  case h_1 =>
    refine ⟨_, _, rfl, rfl, fun row hrow => ?_⟩
    obtain ⟨hA, ha, -, hsame⟩ := rowFits_facts hk hrow
    have hv := isPlain_of_comparable hop
    rw [written_value hk hop, fieldMatches_docForm _ _ _ hv,
      mongoEq_docForm hA ha (isColumnValue_of_isPlain hv)]
    exact basicHolds_eq hsql hv fun hne => hsame hne v (List.mem_singleton_self v)
  case h_2 =>
    refine ⟨_, _, rfl, rfl, fun row hrow => ?_⟩
    obtain ⟨hA, ha, hnull, hsame⟩ := rowFits_facts hk hrow
    have hv := isPlain_of_comparable hop
    have hne : columnValue row field ≠ .null := by simpa using hnull
    rw [written_value hk hop, @fieldMatches_operator regexMatches _ "$ne" rfl]
    simp only [operatorHolds]
    rw [mongoEq_docForm hA ha (isColumnValue_of_isPlain hv)]
    exact basicHolds_ne hsql hv hne (hsame hne v (List.mem_singleton_self v))
  case h_3 | h_4 | h_5 | h_6 =>
    refine ⟨_, _, rfl, rfl, fun row hrow => ?_⟩
    obtain ⟨hA, ha, -, hsame⟩ := rowFits_facts hk hrow
    have hv := isPlain_of_comparable hop
    rw [written_value hk hop, fieldMatches_operator]
    · simp only [operatorHolds, mongoCompare_docForm hA ha hv]
      by_cases h : columnValue row field = .null
      · simp [clauseHolds, basicHolds, h]
      · simp [clauseHolds, basicHolds, h, ne_null_of_isPlain hv,
          hsql _ _ (hsame h v (List.mem_singleton_self v))]
    · rfl
  case h_7 =>
    split at hop
    · rename_i values
      have hall : ∀ w ∈ values, w.isPlain = true :=
        fun w hw => isPlain_of_comparable (List.all_eq_true.mp hop w hw)
      refine ⟨_, .obj [("$in", .arr (values.map (docForm (onIdentity ⟨field, "in", .arr values⟩))))],
        rfl, ?_, fun row hrow => ?_⟩
      · simp only [mongoCondition, coerceId, ite_self]
        rw [written_values hk hop]
        rfl
      · obtain ⟨hA, ha, -, hsame⟩ := rowFits_facts hk hrow
        rw [@fieldMatches_operator regexMatches _ "$in" rfl]
        simp only [operatorHolds, clauseHolds, bindings]
        rw [any_mongoEq_docForm hA ha hall]
        exact whereIn_holds hsql hall hsame
    · cases hop
  case h_8 =>
    split at hop
    · rename_i values
      have hall : ∀ w ∈ values, w.isPlain = true :=
        fun w hw => isPlain_of_comparable (List.all_eq_true.mp hop w hw)
      refine ⟨_, .obj [("$nin", .arr (values.map (docForm (onIdentity ⟨field, "not in", .arr values⟩))))],
        rfl, ?_, fun row hrow => ?_⟩
      · simp only [mongoCondition, coerceId, ite_self]
        rw [written_values hk hop]
        rfl
      · obtain ⟨hA, ha, hnull, hsame⟩ := rowFits_facts hk hrow
        have hne : columnValue row field ≠ .null := by simpa using hnull
        rw [@fieldMatches_operator regexMatches _ "$nin" rfl]
        simp only [operatorHolds, clauseHolds, bindings]
        rw [any_mongoEq_docForm hA ha hall]
        exact whereNotIn_holds hsql hne hall (hsame hne)
    · cases hop
  case h_9 =>
    refine ⟨_, _, rfl, rfl, fun row hrow => ?_⟩
    obtain ⟨hA, ha, -, -⟩ := rowFits_facts hk hrow
    change _ = mongoEq _ .null
    rw [← docForm_null (onIdentity _), mongoEq_docForm hA ha (show Value.null.isColumnValue = true from rfl)]
    simp [clauseHolds]
  case h_10 =>
    refine ⟨_, _, rfl, rfl, fun row hrow => ?_⟩
    obtain ⟨hA, ha, -, -⟩ := rowFits_facts hk hrow
    rw [@fieldMatches_operator regexMatches _ "$ne" rfl]
    simp only [operatorHolds]
    rw [← docForm_null (onIdentity _), mongoEq_docForm hA ha (show Value.null.isColumnValue = true from rfl)]
    simp [clauseHolds]
  case h_11 => cases hop

theorem rowFits_tail {c : WhereCondition} {rest : List WhereCondition} {row : Record}
    (h : rowFits (c :: rest) row = true) : rowFits rest row = true := by
  simp only [rowFits, Bool.and_eq_true, List.all_cons] at h ⊢
  exact ⟨h.1, h.2.2⟩

/-- A condition that writes a value under a field the filter lacks adds that key last. -/
theorem writeCondition_fresh {filter : Record} {c : WhereCondition} {value : Value}
    (hvalue : mongoCondition c = .ok (some value))
    (hfresh : mongoFieldName c.field ∉ filter.map Prod.fst) :
    writeCondition filter c = .ok (filter ++ [(mongoFieldName c.field, value)]) := by
  rw [← Record.set_of_not_mem hfresh]
  simp only [writeCondition, hvalue]
  rfl

theorem mongoMatches_append (filter : Record) (key : String) (value : Value) (doc : Record) :
    mongoMatches regexMatches (filter ++ [(key, value)]) doc =
      (mongoMatches regexMatches filter doc && fieldMatches regexMatches (doc.get? key) value) := by
  simp [mongoMatches]

/-- The loop of `whereToMongoFilter` over supported conditions on distinct fields: it
writes one key per condition, and a row's document matches the filter exactly when it
matches what was there and every clause knex adds for the conditions is TRUE. -/
theorem foldlM_writeCondition (hsql : sql.Binary) :
    ∀ (conditions : List WhereCondition) (filter : Record),
    (conditions.map fun c => mongoFieldName c.field).Nodup →
    (∀ c ∈ conditions, mongoFieldName c.field ∉ filter.map Prod.fst) →
    (∀ c ∈ conditions, supported c = true) →
    ∃ result, conditions.foldlM writeCondition filter = .ok result ∧
      ∀ row, rowFits conditions row = true →
        mongoMatches regexMatches result (mirror row) =
          (mongoMatches regexMatches filter (mirror row) &&
            selects sql (conditions.filterMap knexClause) row)
  | [], filter, _, _, _ => ⟨filter, rfl, fun row _ => by simp [selects]⟩
  | c :: rest, filter, hnodup, hfresh, hsupp => by
      obtain ⟨clause, value, hclause, hvalue, hagree⟩ :=
        condition_agrees regexMatches hsql (hsupp c (List.mem_cons_self _ _))
      have hwrite := writeCondition_fresh hvalue (hfresh c (List.mem_cons_self _ _))
      rw [List.map_cons, List.nodup_cons] at hnodup
      have hfresh' : ∀ c' ∈ rest, mongoFieldName c'.field ∉
          (filter ++ [(mongoFieldName c.field, value)]).map Prod.fst := by
        intro c' hc'
        have hne : mongoFieldName c'.field ≠ mongoFieldName c.field := fun he =>
          hnodup.1 (he ▸ List.mem_map_of_mem _ hc')
        simp [hne, hfresh c' (List.mem_cons_of_mem _ hc')]
      obtain ⟨result, hresult, hmatch⟩ := foldlM_writeCondition hsql rest _ hnodup.2 hfresh'
        fun c' hc' => hsupp c' (List.mem_cons_of_mem _ hc')
      refine ⟨result, by rw [List.foldlM_cons, hwrite]; exact hresult, fun row hrow => ?_⟩
      rw [hmatch row (rowFits_tail hrow), mongoMatches_append, List.filterMap_cons, hclause,
        ← hagree row (rowFits_of_mem hrow (List.mem_cons_self _ _))]
      simp only [selects, List.all_cons, Bool.and_assoc]

theorem applyWhereToKnex_eq : ∀ (query : List KnexClause) (conditions : List WhereCondition),
    applyWhereToKnex query conditions = query ++ conditions.filterMap knexClause
  | query, [] => by simp [applyWhereToKnex]
  | query, c :: rest => by
      show applyWhereToKnex (match knexClause c with
        | some clause => query ++ [clause]
        | none => query) rest = _
      rw [applyWhereToKnex_eq _ rest, List.filterMap_cons]
      cases knexClause c <;> simp

/-- The two compilers agree on every row that fits the conditions, when the conditions are
supported and name distinct document fields and the database compares values of one type
as MongoDB does: whereToMongoFilter builds a filter, and the rows the knex conditions
select are exactly those whose documents match it. -/
theorem applyWhereToKnex_agrees (hsql : sql.Binary) (conditions : List WhereCondition)
    (hfields : (conditions.map fun c => mongoFieldName c.field).Nodup)
    (hsupported : ∀ c ∈ conditions, supported c = true) :
    ∃ filter, whereToMongoFilter conditions = .ok filter ∧
      ∀ row, rowFits conditions row = true →
        selects sql (applyWhereToKnex [] conditions) row =
          mongoMatches regexMatches filter (mirror row) := by
  obtain ⟨filter, hfilter, hmatch⟩ :=
    foldlM_writeCondition regexMatches hsql conditions [] hfields (by simp) hsupported
  refine ⟨filter, hfilter, fun row hrow => ?_⟩
  rw [hmatch row hrow, applyWhereToKnex_eq, List.nil_append]
  rfl

end Agreement

theorem knexClause_column {c : WhereCondition} {clause : KnexClause}
    (h : knexClause c = some clause) : clause.column = c.field := by
  unfold knexClause at h
  split at h <;> cases h <;> rfl

/-- The database accepts the query of conditions on fields of the queried table. -/
theorem sqlWhere_applyWhereToKnex (sql : SqlSemantics) {table : String}
    {conditions : List WhereCondition} (h : ∀ c ∈ conditions, qualifiedBy table c.field = true) :
    sqlWhere sql table (applyWhereToKnex [] conditions) =
      .ok (selects sql (applyWhereToKnex [] conditions)) := by
  unfold sqlWhere
  rw [List.find?_eq_none.mpr]
  intro column hcolumn
  rw [applyWhereToKnex_eq, List.nil_append, List.mem_map] at hcolumn
  obtain ⟨clause, hclause, rfl⟩ := hcolumn
  obtain ⟨c, hc, hkc⟩ := List.mem_filterMap.mp hclause
  simp [knexClause_column hkc, h c hc]

end QueryBuilderService

end Enfyra
