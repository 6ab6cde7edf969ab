import Enfyra.Query.MongoExecutor

/-!
The identity rule of the document backend where `QueryBuilderService` applies it:
`whereToMongoFilter`, for each `WhereCondition`, and `findOneWhere` and `findWhere`, for
each key of a where-object. `convertValueByType` states the rule for `_id`: a string that
spells an ObjectId becomes that ObjectId, and any other string passes unchanged, the error
of `new ObjectId` caught. `coerceId` is that rule.

`whereToMongoFilter` applies the rule to the value of every condition on the identity, and
its `=` branch writes what the rule gives. Its `in` and `not in` branches call
`new ObjectId` on each string of the list again, uncaught, and its `like` branch calls
`value.replace` on what the rule gives, which an ObjectId has no method for. `findOneWhere`
and `findWhere` call `new ObjectId` uncaught on a string under `id` or `_id`. So a string
that spells no ObjectId throws in an `in` or `not in` list on the identity and under `id`
or `_id` of a where-object, and a `like` on the identity throws on a string that spells one.
The results: the list of an `in` or a `not in` on the identity is converted item by item
up to the first string that spells no ObjectId, where it throws; and a where-object is
normalized by the rule up to its first such string under `id` or `_id`, where it throws.

`Object.entries` lists integer-like keys first; none of them is `id` or `_id`, and their
place does not change what a filter matches, so a where-object is taken in insertion
order. `MongoService.findOne` is not in the sources and is a parameter.
-/

namespace Enfyra.QueryBuilderService

/-! ### `findOneWhere` and `findWhere` on MongoDB -/

/-- `id` or `_id`, the keys `findOneWhere` and `findWhere` read as the identity. -/
def isIdKey (key : String) : Bool := key = "id" || key = "_id"

/-- One pass of the loop over `Object.entries(where)`. -/
def normalizeEntry (normalized : Record) (entry : String × Value) : Except Err Record :=
  if isIdKey entry.1 then do
    pure (normalized.set "_id" (← objectIdOfItem entry.2))
  else pure (normalized.set entry.1 entry.2)

/-- `normalizedWhere`: the identity under `_id`, a string there made an ObjectId. -/
def normalizeWhere (whereObject : Record) : Except Err Record :=
  whereObject.foldlM normalizeEntry []

/-- `findOneWhere(table, where)` on MongoDB, with `findOne` for
`mongoService.findOne(table, ·)`. -/
def findOneWhere (findOne : Record → Option Record) (whereObject : Record) :
    Except Err (Option Record) := do
  pure (findOne (← normalizeWhere whereObject))

/-- `findWhere(table, where)` on MongoDB: the documents of the collection the filter
matches, each passed through `mapDocument`. -/
def findWhere (regexMatches : String → String → Bool) (mapDocument : Record → Record)
    (collection : List Record) (whereObject : Record) : Except Err (List Record) := do
  let filter ← normalizeWhere whereObject
  pure ((collection.filter (mongoMatches regexMatches filter)).map mapDocument)

/-! ### Where the rule holds and where it throws -/

/-- The loop of `normalizeWhere` with the rule in place of `new ObjectId`. -/
def normalizeByRule (normalized : Record) (entry : String × Value) : Record :=
  if isIdKey entry.1 then normalized.set "_id" (coerceId entry.2)
  else normalized.set entry.1 entry.2

theorem objectIdOfItem_of_invalid {v : Value} (h : validIdItem v = false) :
    ∃ s, v = .str s ∧ objectIdOfItem v = .error (.invalidObjectId s) := by
  cases v with
  | str s =>
      refine ⟨s, rfl, ?_⟩
      simp only [validIdItem] at h
      simp only [objectIdOfItem, objectIdOf] at h ⊢
      split_ifs at h ⊢
      simp_all
  | _ => cases h

/-- The map of an `in` or a `not in` list on the identity converts each item by the rule, up
to the first string that spells no ObjectId, where it throws. -/
theorem mapM_objectIdOfItem : ∀ items : List Value,
    items.mapM objectIdOfItem =
      match items.find? (fun v => !validIdItem v) with
      | some (.str s) => .error (.invalidObjectId s)
      | _ => .ok (items.map coerceId)
  | [] => rfl
  | v :: rest => by
      rw [List.mapM_cons, List.find?_cons]
      cases hv : validIdItem v with
      | true =>
          rw [objectIdOfItem_of_valid hv, Except.ok_bind, mapM_objectIdOfItem rest]
          simp only [Bool.not_true]
          cases rest.find? (fun v => !validIdItem v) with
          | none => rfl
          | some w => cases w <;> rfl
      | false =>
          obtain ⟨s, rfl, hs⟩ := objectIdOfItem_of_invalid hv
          rw [hs]
          rfl

/-- An `in` or a `not in` on the identity converts its list item by item by the rule, up to
the first string that spells no ObjectId, where it throws. -/
theorem mongoCondition_identity_list {field operator : String}
    (hop : operator = "in" ∨ operator = "not in") (hfield : mongoFieldName field = "_id")
    (items : List Value) :
    mongoCondition ⟨field, operator, .arr items⟩ =
      match items.find? (fun v => !validIdItem v) with
      | some (.str s) => .error (.invalidObjectId s)
      | _ => .ok (some (.obj [(if operator = "in" then "$in" else "$nin",
          .arr (items.map coerceId))])) := by
  have hlist : idList "_id" (coerceId (.arr items)) =
      (fun mapped => Value.arr mapped) <$> items.mapM objectIdOfItem := rfl
  rcases hop with rfl | rfl <;> dsimp only [mongoCondition] <;> rw [hfield, if_pos rfl, hlist,
    mapM_objectIdOfItem] <;>
  · cases items.find? (fun v => !validIdItem v) with
    | none => rfl
    | some w => cases w <;> rfl

/-- `normalizeWhere` follows the rule, up to the first string under `id` or `_id` that spells
no ObjectId, where it throws. -/
theorem foldlM_normalizeEntry : ∀ (entries : List (String × Value)) (normalized : Record),
    entries.foldlM normalizeEntry normalized =
      match entries.find? (fun entry => isIdKey entry.1 && !validIdItem entry.2) with
      | some (_, .str s) => .error (.invalidObjectId s)
      | _ => .ok (entries.foldl normalizeByRule normalized)
  | [], _ => rfl
  | entry :: rest, normalized => by
      rw [List.foldlM_cons, List.find?_cons, List.foldl_cons]
      cases hkey : isIdKey entry.1 with
      | false =>
          simp only [normalizeEntry, normalizeByRule, hkey, Bool.false_and, Bool.false_eq_true,
            if_false]
          exact foldlM_normalizeEntry rest _
      | true =>
          cases hv : validIdItem entry.2 with
          | true =>
              simp only [normalizeEntry, normalizeByRule, hkey, hv, if_true,
                objectIdOfItem_of_valid hv, Except.ok_bind, Bool.not_true, Bool.and_false]
              exact foldlM_normalizeEntry rest _
          | false =>
              obtain ⟨s, hs, herror⟩ := objectIdOfItem_of_invalid hv
              obtain ⟨key, value⟩ := entry
              simp only at hs herror hkey
              subst hs
              simp only [normalizeEntry, hkey, herror, if_true]
              rfl

/-- The string `abc` spells no ObjectId: under `=` on `id` it passes unchanged, and in an
`in` list on `id` or under `id` of a where-object it throws. A `like` on `id` throws on a
string that spells an ObjectId. -/
theorem identityRule_throws (findOne : Record → Option Record)
    (regexMatches : String → String → Bool) (mapDocument : Record → Record)
    (collection : List Record) :
    whereToMongoFilter [⟨"id", "=", .str "abc"⟩] = .ok [("_id", .str "abc")] ∧
      whereToMongoFilter [⟨"id", "in", .arr [.str "abc"]⟩] = .error (.invalidObjectId "abc") ∧
      whereToMongoFilter [⟨"id", "like", .str "65f0a0b1c2d3e4f5a6b7c8d9"⟩] =
        .error (.notAFunction "replace") ∧
      findOneWhere findOne [("id", .str "abc")] = .error (.invalidObjectId "abc") ∧
      findWhere regexMatches mapDocument collection [("id", .str "abc")] =
        .error (.invalidObjectId "abc") :=
  ⟨rfl, rfl, rfl, rfl, rfl⟩

end Enfyra.QueryBuilderService
