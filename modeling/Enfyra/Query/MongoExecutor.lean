import Enfyra.Query.Where

/-!
`QueryBuilderService.mongoExecutor` on a request that carries a filter and none of `fields`,
`sort`, `page`, `limit` or `pipeline`. The filter object becomes `WhereCondition`s, one per
bare value and one per key of an operator object (an operator the chain of `if`s does not
list is rewritten by `op.replace('_', ' ')`); `selectLegacy` prefixes each field with the
table, `whereToMongoFilter` compiles the conditions, and `collection.find` returns the
matching documents in the collection's order, each passed through `mapDocument`.
`hasLogicalOperators` (of `build-where-clause`) and `mapDocument` (of `MongoService`) are not
in the sources and are parameters: a filter the first reports as logical is not converted
at all, and the query then has no filter.

Beside the executor stands the reading of a filter that the executor is measured against:
each operator by its meaning, the keys ANDed, the combinators `_and`, `_or` and `_not` over
nested filters, and the identity rule of the filter compiler (`id` is the native `_id`, and
a string that spells an ObjectId is compared as one). The results: a filter of bare values
and single operators compiles to a MongoDB filter that matches exactly the documents that
satisfy it, and a filter whose conditions the switch skips returns every document, whatever
`hasLogicalOperators` says.
-/

namespace Enfyra

/-- A value a document field holds here: a scalar or an ObjectId, never an array or an
embedded document. -/
def Value.isStored : Value → Bool
  | .null | .bool _ | .num _ | .str _ | .oid _ => true
  | _ => false

namespace QueryBuilderService

/-! ### The executor -/

/-- `op.replace('_', ' ')`: the first underscore becomes a space. -/
def replaceUnderscore : List Char → List Char
  | [] => []
  | c :: cs => if c = '_' then ' ' :: cs else c :: replaceUnderscore cs

/-- The operator the loop of `mongoExecutor` gives a key of an operator object. -/
def operatorOf (op : String) : String :=
  if op = "_eq" then "="
  else if op = "_neq" then "!="
  else if op = "_in" then "in"
  else if op = "_not_in" then "not in"
  else if op = "_gt" then ">"
  else if op = "_gte" then ">="
  else if op = "_lt" then "<"
  else if op = "_lte" then "<="
  else if op = "_contains" then "like"
  else if op = "_is_null" then "is null"
  else ⟨replaceUnderscore op.toList⟩

/-- The conditions one entry of the filter pushes: one per entry of an object (an array's
entries are its indices), or an equality with any other value. -/
def entryConditions (field : String) (value : Value) : List WhereCondition :=
  if value.isObject && value ≠ .null then
    value.spread.map fun op => ⟨field, operatorOf op.1, op.2⟩
  else [⟨field, "=", value⟩]

/-- The `where` list of a filter, entry after entry. -/
def filterConditions (filter : Record) : List WhereCondition :=
  filter.flatMap fun entry => entryConditions entry.1 entry.2

/-- `selectLegacy` prefixes a field that names no table with the queried table. -/
def qualify (table : String) (condition : WhereCondition) : WhereCondition :=
  if condition.field.toList.contains '.' then condition
  else { condition with field := table ++ "." ++ condition.field }

/-- `queryOptions.where`: set for a filter that `hasLogicalOperators` does not report. -/
def whereOf (hasLogicalOperators : Record → Bool) : Option Record → Option (List WhereCondition)
  | some filter => if hasLogicalOperators filter then none else some (filterConditions filter)
  | none => none

section Executor

variable (hasLogicalOperators : Record → Bool) (regexMatches : String → String → Bool)
  (mapDocument : Record → Record)

/-- `mongoExecutor({ tableName: table, filter })` on a collection's documents: the `data` it
resolves to. -/
def mongoExecutor (collection : List Record) (table : String) (filter : Option Record) :
    Except Err (List Record) := do
  let mongoFilter ← match (whereOf hasLogicalOperators filter).map (·.map (qualify table)) with
    | some conditions => whereToMongoFilter conditions
    | none => pure []
  pure ((collection.filter (mongoMatches regexMatches mongoFilter)).map mapDocument)

end Executor

/-! ### The reading of a filter -/

/-- The document field a filter key names: the logical identity `id` is the native `_id`. -/
def documentKey (key : String) : String := if key = "id" then "_id" else key

/-- A value compared with the identity: a string that spells an ObjectId is compared as
that ObjectId, in a list too, and any other value passes unchanged. -/
def identityValue (key : String) (value : Value) : Value :=
  if key = "id" then
    match value with
    | .arr values => .arr (values.map coerceId)
    | value => coerceId value
  else value

/-- One operator by its meaning, on the value of the field (a missing field is null). An
operator outside the vocabulary holds of nothing. -/
def operatorMeaning (field : Value) (op : String) (value : Value) : Bool :=
  if op = "_eq" then field = value
  else if op = "_neq" then field ≠ value
  else if op = "_gt" then (field.order? value).any Ordering.isGT
  else if op = "_gte" then (field.order? value).any Ordering.isGE
  else if op = "_lt" then (field.order? value).any Ordering.isLT
  else if op = "_lte" then (field.order? value).any Ordering.isLE
  else if op = "_in" then
    match value with
    | .arr values => field ∈ values
    | _ => false
  else if op = "_not_in" then
    match value with
    | .arr values => field ∉ values
    | _ => false
  else if op = "_is_null" then
    if value = .bool true then field = .null
    else if value = .bool false then field ≠ .null
    else false
  else false

/-- A bare value is an equality; an operator object holds when each of its operators does. -/
def entryMeaning (field : Value) (key : String) : Value → Bool
  | .obj ops => ops.all fun op => operatorMeaning field op.1 (identityValue key op.2)
  | value => field = identityValue key value

/-- A key that names a column holds of a document by the value of its field. -/
def fieldHolds (doc : Record) (key : String) (value : Value) : Bool :=
  entryMeaning ((doc.get? (documentKey key)).getD .null) key value

mutual
/-- A filter holds of a document when every key does. -/
def satisfiesFilter (doc : Record) : List (String × Value) → Bool
  | [] => true
  | (key, value) :: rest => satisfiesKey doc key value && satisfiesFilter doc rest
/-- `_and` and `_or` over a list of filters, `_not` over one filter, or a column. -/
def satisfiesKey (doc : Record) (key : String) : Value → Bool
  | .arr filters =>
      if key = "_and" then satisfiesAll doc filters
      else if key = "_or" then satisfiesAny doc filters
      else fieldHolds doc key (.arr filters)
  | .obj fields =>
      if key = "_not" then !satisfiesFilter doc fields
      else fieldHolds doc key (.obj fields)
  | value => fieldHolds doc key value
def satisfiesAll (doc : Record) : List Value → Bool
  | [] => true
  | .obj filter :: rest => satisfiesFilter doc filter && satisfiesAll doc rest
  | _ :: _ => false
def satisfiesAny (doc : Record) : List Value → Bool
  | [] => false
  | .obj filter :: rest => satisfiesFilter doc filter || satisfiesAny doc rest
  | _ :: rest => satisfiesAny doc rest
end

/-! ### The filters both read alike -/

/-- A key that names a column: no table prefix, not the native `_id`, no combinator. -/
def plainKey (key : String) : Bool :=
  !key.toList.contains '.' && key ≠ "_id" && key ≠ "_and" && key ≠ "_or" && key ≠ "_not"

/-- A string compared in an identity list spells an ObjectId, so that `new ObjectId` in the
map of `whereToMongoFilter` does not throw. -/
def validIdItem : Value → Bool
  | .str s => match objectIdOf s with
    | .ok _ => true
    | .error _ => false
  | _ => true

/-- An operator of the vocabulary over the values it is meant for: a comparison over a null,
boolean, number or string, a list over such values, and `_is_null: true`. -/
def plainOperator (key op : String) (value : Value) : Bool :=
  if op ∈ ["_eq", "_neq", "_gt", "_gte", "_lt", "_lte"] then value.isColumnValue
  else if op = "_in" ∨ op = "_not_in" then
    match value with
    | .arr values => values.all fun v => v.isColumnValue && (key ≠ "id" || validIdItem v)
    | _ => false
  else op = "_is_null" && value = .bool true

/-- A bare null, boolean, number or string, or an object with one plain operator. -/
def plainEntry (key : String) : Value → Bool
  | .obj [(op, value)] => plainOperator key op value
  | value => value.isColumnValue

/-- A filter of distinct plain keys, each with a plain entry. -/
def plainFilter (filter : Record) : Bool :=
  (filter.map Prod.fst).Nodup && filter.all fun entry => plainKey entry.1 && plainEntry entry.1 entry.2

/-- A document of stored values. -/
def storedDoc (doc : Record) : Bool := doc.all fun p => p.2.isStored

/-! ### Proof of the reading -/

theorem anyElement_stored {f : Value} (hf : f.isStored = true) (test : Value → Bool) :
    anyElement f test = test f := by
  cases f <;> simp_all [anyElement, Value.isStored]

section Stored

variable {F : Option Value} (hF : (F.getD .null).isStored = true)
include hF

theorem mongoEq_stored (w : Value) : mongoEq F w = decide (F.getD .null = w) :=
  anyElement_stored hF _

theorem mongoCompare_stored (w : Value) (holds : Ordering → Bool) :
    mongoCompare F w holds = ((F.getD .null).order? w).any holds :=
  anyElement_stored hF _

/-- `$in` on a stored field is membership. -/
theorem any_mongoEq_stored (items : List Value) :
    items.any (mongoEq F) = decide (F.getD .null ∈ items) := by
  induction items with
  | nil => rfl
  | cons w rest ih => simp [ih, mongoEq_stored hF, eq_comm]

end Stored

theorem lastSegment_qualified (table : String) {key : String}
    (hkey : key.toList.contains '.' = false) : lastSegment (table ++ "." ++ key) = key := by
  have hall : ∀ c ∈ key.data.reverse, (!decide (c = '.')) = true := by
    intro c hc
    have : c ∈ key.toList := List.mem_reverse.mp hc
    simp only [Bool.not_eq_true', decide_eq_false_iff_not]
    rintro rfl
    simp_all
  simp only [lastSegment, String.toList, String.data_append, List.reverse_append, ne_eq]
  simp [List.takeWhile_append_of_pos hall]

theorem plainKey_facts {key : String} (h : plainKey key = true) :
    key.toList.contains '.' = false ∧ key ≠ "_id" ∧ key ≠ "_and" ∧ key ≠ "_or" ∧
      key ≠ "_not" := by
  simpa [plainKey, and_assoc] using h

theorem documentKey_eq_id_iff {key : String} (hkey : key ≠ "_id") :
    documentKey key = "_id" ↔ key = "id" := by
  unfold documentKey
  split <;> simp_all

theorem mongoFieldName_of_plain {key : String} (hkey : key.toList.contains '.' = false) :
    mongoFieldName key = documentKey key := by
  simp [mongoFieldName_eq, lastSegment_of_not_contains hkey, documentKey]

/-- Prefixing a field without a table changes neither the document field it names nor what
the switch writes for it. -/
theorem qualify_of_plain (table : String) {c : WhereCondition}
    (h : c.field.toList.contains '.' = false) :
    mongoFieldName (qualify table c).field = mongoFieldName c.field ∧
      mongoCondition (qualify table c) = mongoCondition c := by
  have hname : mongoFieldName (table ++ "." ++ c.field) = mongoFieldName c.field := by
    simp [mongoFieldName_eq, lastSegment_qualified table h, lastSegment_of_not_contains h]
  simp only [qualify, h, Bool.false_eq_true, if_false]
  refine ⟨hname, ?_⟩
  unfold mongoCondition
  rw [hname]

theorem written_identity {key : String} (hkey : key ≠ "_id") {v : Value}
    (hv : v.isColumnValue = true) :
    (if documentKey key = "_id" then coerceId v else v) = identityValue key v := by
  simp only [documentKey_eq_id_iff hkey]
  unfold identityValue
  split
  · cases v <;> simp_all [Value.isColumnValue, Value.isPlain]
  · rfl

theorem objectIdOfItem_of_valid {v : Value} (h : validIdItem v = true) :
    objectIdOfItem v = .ok (coerceId v) := by
  cases v with
  | str s =>
      simp only [validIdItem] at h
      simp only [objectIdOfItem, coerceId]
      split at h <;> simp_all
  | _ => rfl

/-- What the switch writes for the list of an `in` or a `not in` is the list the reading
compares with. -/
theorem written_identity_list {key : String} (hkey : key ≠ "_id") {values : List Value}
    (hv : values.all (fun v => v.isColumnValue && (key ≠ "id" || validIdItem v)) = true) :
    idList (documentKey key) (.arr values) = .ok (identityValue key (.arr values)) := by
  simp only [idList, documentKey_eq_id_iff hkey, identityValue]
  split
  · rename_i h
    refine objectIdsOf_of_forall _ fun v hv' => objectIdOfItem_of_valid ?_
    have := List.all_eq_true.mp hv v hv'
    simp_all
  · rfl

theorem isStored_coerceId {v : Value} (hv : v.isStored = true) : (coerceId v).isStored = true := by
  cases v with
  | str s =>
      simp only [coerceId, objectIdOf]
      split_ifs <;> rfl
  | _ => exact hv

theorem isStored_identityValue (key : String) {v : Value} (hv : v.isColumnValue = true) :
    (identityValue key v).isStored = true := by
  have hs : v.isStored = true := by
    cases v <;> simp_all [Value.isColumnValue, Value.isPlain, Value.isStored]
  unfold identityValue
  split
  · cases v with
    | arr => cases hs
    | _ => exact isStored_coerceId hs
  · exact hs

section Agreement

variable (regexMatches : String → String → Bool)

theorem fieldMatches_of_isStored (F : Option Value) {w : Value} (hw : w.isStored = true) :
    fieldMatches regexMatches F w = mongoEq F w := by
  cases w <;> first | rfl | cases hw

/-- What the switch writes for `in` and `not in` over an array. -/
theorem mongoCondition_list {field operator : String} (hop : operator = "in" ∨ operator = "not in")
    {values : List Value} {listed : Value}
    (h : idList (mongoFieldName field) (.arr values) = .ok listed) :
    mongoCondition ⟨field, operator, .arr values⟩ =
      .ok (some (.obj [(if operator = "in" then "$in" else "$nin", listed)])) := by
  have hvalue : (if mongoFieldName field = "_id" then coerceId (.arr values) else .arr values) =
      .arr values := by split <;> rfl
  rcases hop with rfl | rfl <;> dsimp only [mongoCondition] <;> rw [hvalue, h] <;> rfl

theorem plainEntry_cases {key : String} {value : Value} (h : plainEntry key value = true) :
    (∃ op v, value = .obj [(op, v)] ∧ plainOperator key op v = true) ∨
      value.isColumnValue = true := by
  match value, h with
  | .obj [(op, v)], h => exact .inl ⟨op, v, rfl, h⟩
  | .obj [], h | .obj (_ :: _ :: _), h => cases h
  | .null, _ | .bool _, _ | .num _, _ | .str _, _ => exact .inr rfl
  | .oid _, h | .raw _, h | .promise _, h | .rejected _, h | .arr _, h => cases h

theorem entryConditions_of_isColumnValue (key : String) {value : Value}
    (hv : value.isColumnValue = true) : entryConditions key value = [⟨key, "=", value⟩] := by
  rcases isColumnValue_cases hv with rfl | ⟨_, rfl⟩ | ⟨_, rfl⟩ | ⟨_, rfl⟩ <;> rfl

theorem entryMeaning_of_isColumnValue (field : Value) (key : String) {value : Value}
    (hv : value.isColumnValue = true) :
    entryMeaning field key value = decide (field = identityValue key value) := by
  rcases isColumnValue_cases hv with rfl | ⟨_, rfl⟩ | ⟨_, rfl⟩ | ⟨_, rfl⟩ <;> rfl

/-- For a plain entry the loop pushes one condition on the entry's key, the switch writes a
value for it, and that value matches a document field exactly when the entry's meaning
holds of it. -/
theorem entry_agrees {key : String} {value : Value} (hkey : plainKey key = true)
    (hentry : plainEntry key value = true) :
    ∃ c w, entryConditions key value = [c] ∧ c.field = key ∧
      mongoCondition c = .ok (some w) ∧
      ∀ F : Option Value, (F.getD .null).isStored = true →
        fieldMatches regexMatches F w = entryMeaning (F.getD .null) key value := by
  obtain ⟨hdot, hid, -⟩ := plainKey_facts hkey
  have hname := mongoFieldName_of_plain hdot
  have hw : ∀ v : Value, v.isColumnValue = true →
      (if mongoFieldName key = "_id" then coerceId v else v) = identityValue key v :=
    fun v hv => by rw [hname]; exact written_identity hid hv
  rcases plainEntry_cases hentry with ⟨op, v, rfl, hop⟩ | hv
  · have hconds : entryConditions key (.obj [(op, v)]) = [⟨key, operatorOf op, v⟩] := rfl
    unfold plainOperator at hop
    split_ifs at hop with hcompare hlist
    · simp only [List.mem_cons, List.mem_singleton, List.not_mem_nil, or_false] at hcompare
      rcases hcompare with rfl | rfl | rfl | rfl | rfl | rfl <;>
      · refine ⟨_, _, hconds, rfl, rfl, fun F hF => ?_⟩
        rw [hw v hop]
        simp [fieldMatches_operator, operatorHolds, entryMeaning, operatorMeaning,
          fieldMatches_of_isStored _ _ (isStored_identityValue key hop), mongoEq_stored hF,
          mongoCompare_stored hF]
    · obtain ⟨values, rfl⟩ : ∃ values, v = .arr values := by
        cases v <;> first | exact ⟨_, rfl⟩ | cases hop
      have hwritten : idList (mongoFieldName key) (.arr values) =
          .ok (identityValue key (.arr values)) := hname ▸ written_identity_list hid hop
      obtain ⟨items, hitems⟩ : ∃ items, identityValue key (.arr values) = .arr items := by
        unfold identityValue; split <;> exact ⟨_, rfl⟩
      rcases hlist with rfl | rfl <;>
      · refine ⟨_, _, hconds, rfl, mongoCondition_list (by decide) (hitems ▸ hwritten),
          fun F hF => ?_⟩
        simp [fieldMatches_operator, operatorHolds, entryMeaning, operatorMeaning, operatorOf,
          hitems, any_mongoEq_stored hF]
    · simp only [Bool.and_eq_true, decide_eq_true_eq] at hop
      obtain ⟨rfl, rfl⟩ := hop
      refine ⟨_, _, hconds, rfl, rfl, fun F hF => ?_⟩
      simp [fieldMatches, entryMeaning, operatorMeaning, identityValue, coerceId, mongoEq_stored hF]
  · refine ⟨_, _, entryConditions_of_isColumnValue key hv, rfl, rfl, fun F hF => ?_⟩
    rw [hw value hv, fieldMatches_of_isStored _ _ (isStored_identityValue key hv),
      mongoEq_stored hF, entryMeaning_of_isColumnValue _ _ hv]

theorem storedDoc_get {doc : Record} (h : storedDoc doc = true) (key : String) :
    ((doc.get? key).getD .null).isStored = true := by
  cases hv : doc.get? key with
  | none => rfl
  | some v => exact List.all_eq_true.mp h _ (get?_mem hv)

/-- The loop of `whereToMongoFilter` over the conditions of plain entries with distinct
document fields: a stored document matches what it writes exactly when it matches what was
there and every entry holds of it. -/
theorem foldlM_filterConditions (table : String) :
    ∀ (filter acc : Record), (∀ e ∈ filter, plainKey e.1 = true ∧ plainEntry e.1 e.2 = true) →
      (filter.map fun e => documentKey e.1).Nodup →
      (∀ e ∈ filter, documentKey e.1 ∉ acc.map Prod.fst) →
      ∃ result, ((filterConditions filter).map (qualify table)).foldlM writeCondition acc =
          .ok result ∧
        ∀ doc, storedDoc doc = true → mongoMatches regexMatches result doc =
          (mongoMatches regexMatches acc doc && filter.all fun e => fieldHolds doc e.1 e.2)
  | [], acc, _, _, _ => ⟨acc, rfl, fun doc _ => by simp⟩
  | (key, value) :: rest, acc, hplain, hnodup, hfresh => by
      obtain ⟨hkey, hentry⟩ := hplain _ (List.mem_cons_self _ _)
      obtain ⟨c, w, hconds, rfl, hw, hagree⟩ := entry_agrees regexMatches hkey hentry
      have hdot := (plainKey_facts hkey).1
      obtain ⟨hname, hcondition⟩ := qualify_of_plain table hdot
      rw [mongoFieldName_of_plain hdot] at hname
      have hwrite : writeCondition acc (qualify table c) = .ok (acc ++ [(documentKey c.field, w)]) :=
        hname ▸ writeCondition_fresh (hcondition.trans hw)
          (hname ▸ hfresh _ (List.mem_cons_self _ _))
      rw [List.map_cons, List.nodup_cons] at hnodup
      have hfresh' : ∀ e ∈ rest, documentKey e.1 ∉ (acc ++ [(documentKey c.field, w)]).map Prod.fst := by
        intro e he
        have hne : documentKey e.1 ≠ documentKey c.field := fun h =>
          hnodup.1 (h ▸ List.mem_map_of_mem _ he)
        simp [hne, hfresh e (List.mem_cons_of_mem _ he)]
      obtain ⟨result, hresult, hmatch⟩ := foldlM_filterConditions table rest _
        (fun e he => hplain e (List.mem_cons_of_mem _ he)) hnodup.2 hfresh'
      refine ⟨result, ?_, fun doc hdoc => ?_⟩
      · simp only [filterConditions, List.flatMap_cons, hconds, List.singleton_append,
          List.map_cons, List.foldlM_cons, hwrite]
        exact hresult
      · rw [hmatch doc hdoc, mongoMatches_append, hagree _ (storedDoc_get hdoc _)]
        simp only [List.all_cons, Bool.and_assoc, fieldHolds]

theorem satisfiesKey_of_plainKey (doc : Record) {key : String} (hkey : plainKey key = true)
    (value : Value) : satisfiesKey doc key value = fieldHolds doc key value := by
  obtain ⟨-, -, hand, hor, hnot⟩ := plainKey_facts hkey
  cases value <;> simp [satisfiesKey, hand, hor, hnot]

theorem satisfiesFilter_of_plainKeys (doc : Record) :
    ∀ filter : Record, (∀ e ∈ filter, plainKey e.1 = true) →
      satisfiesFilter doc filter = filter.all fun e => fieldHolds doc e.1 e.2
  | [], _ => rfl
  | (key, value) :: rest, h => by
      rw [satisfiesFilter, satisfiesKey_of_plainKey doc (h _ (List.mem_cons_self _ _)),
        satisfiesFilter_of_plainKeys doc rest fun e he => h e (List.mem_cons_of_mem _ he)]
      rfl

theorem documentKey_injOn {a b : String} (ha : a ≠ "_id") (hb : b ≠ "_id")
    (h : documentKey a = documentKey b) : a = b := by
  unfold documentKey at h
  split_ifs at h <;> simp_all

/-- On a filter of distinct plain keys, each a bare null, boolean, number or string or an
object with one operator of the vocabulary (`_is_null` only with `true`, and the strings of
an `_in` or `_not_in` on `id` spelling ObjectIds), `whereToMongoFilter` compiles the
prefixed conditions to a filter that a document of stored values matches exactly when it
satisfies the filter. -/
theorem whereToMongoFilter_plainFilter (table : String) {filter : Record}
    (hfilter : plainFilter filter = true) :
    ∃ result, whereToMongoFilter ((filterConditions filter).map (qualify table)) = .ok result ∧
      ∀ doc, storedDoc doc = true →
        mongoMatches regexMatches result doc = satisfiesFilter doc filter := by
  simp only [plainFilter, Bool.and_eq_true, decide_eq_true_eq, List.all_eq_true] at hfilter
  obtain ⟨hkeys, hentries⟩ := hfilter
  have hnodup : (filter.map fun e => documentKey e.1).Nodup := by
    rw [show (filter.map fun e => documentKey e.1) = (filter.map Prod.fst).map documentKey by
      simp]
    have hid : ∀ a ∈ filter.map Prod.fst, a ≠ "_id" := by
      intro a ha
      obtain ⟨e, he, rfl⟩ := List.mem_map.mp ha
      exact (plainKey_facts (hentries e he).1).2.1
    exact hkeys.map_on fun a ha b hb h => documentKey_injOn (hid a ha) (hid b hb) h
  obtain ⟨result, hresult, hmatch⟩ := foldlM_filterConditions regexMatches table filter []
    (fun e he => hentries e he) hnodup (by simp)
  refine ⟨result, hresult, fun doc hdoc => ?_⟩
  rw [hmatch doc hdoc, satisfiesFilter_of_plainKeys doc filter fun e he => (hentries e he).1]
  rfl

end Agreement

/-- Documents of a `person` collection aged 3 and with a null age. -/
def ageThree : Record := [("_id", .oid "65f0a0b1c2d3e4f5a6b7c8d9"), ("age", .num 3)]

def ageNull : Record := [("_id", .oid "65f0a0b1c2d3e4f5a6b7c8db"), ("age", .null)]

/-! ### Filters the executor does not read -/

/-- A filter that `hasLogicalOperators` reports is not converted, and every document is
returned; any other filter is compiled as one without logical operators. -/
theorem mongoExecutor_some (hasLogicalOperators : Record → Bool)
    (regexMatches : String → String → Bool) (mapDocument : Record → Record)
    (collection : List Record) (table : String) (filter : Record) :
    mongoExecutor hasLogicalOperators regexMatches mapDocument collection table (some filter) =
      if hasLogicalOperators filter then .ok (collection.map mapDocument)
      else mongoExecutor (fun _ => false) regexMatches mapDocument collection table
        (some filter) := by
  cases h : hasLogicalOperators filter
  · simp [mongoExecutor, whereOf, h]
  · simp only [mongoExecutor, whereOf, h, if_true, Option.map_none']
    exact congrArg (fun docs => (.ok (docs.map mapDocument) : Except Err (List Record)))
      (List.filter_true collection)

theorem foldlM_writeCondition_skip : ∀ (conditions : List WhereCondition) (filter : Record),
    (∀ c ∈ conditions, mongoCondition c = .ok none) →
    conditions.foldlM writeCondition filter = .ok filter
  | [], _, _ => rfl
  | c :: rest, filter, h => by
      have hskip : writeCondition filter c = .ok filter := by
        simp only [writeCondition, h c (List.mem_cons_self _ _)]
        rfl
      rw [List.foldlM_cons, hskip]
      exact foldlM_writeCondition_skip rest filter fun c' hc' => h c' (List.mem_cons_of_mem _ hc')

/-- A filter whose every condition the switch of `whereToMongoFilter` skips (an operator
that the chain of `if`s rewrites to no case of the switch) is not rejected: every document
is returned, whatever `hasLogicalOperators` says. -/
theorem mongoExecutor_skipped (hasLogicalOperators : Record → Bool)
    (regexMatches : String → String → Bool) (mapDocument : Record → Record)
    (collection : List Record) (table : String) (filter : Record)
    (hskip : ∀ c ∈ filterConditions filter, mongoCondition (qualify table c) = .ok none) :
    mongoExecutor hasLogicalOperators regexMatches mapDocument collection table (some filter) =
      .ok (collection.map mapDocument) := by
  rw [mongoExecutor_some]
  split
  · rfl
  · have hfilter : whereToMongoFilter ((filterConditions filter).map (qualify table)) = .ok [] :=
      foldlM_writeCondition_skip _ _ fun c hc => by
        obtain ⟨c', hc', rfl⟩ := List.mem_map.mp hc
        exact hskip c' hc'
    simp only [mongoExecutor, whereOf, Bool.false_eq_true, if_false, Option.map_some']
    rw [hfilter]
    exact congrArg (fun docs => (.ok (docs.map mapDocument) : Except Err (List Record)))
      (List.filter_true collection)

/-- Modelled from the spec: a filter with a top-level `_and`, `_or` or `_not` key. The source
of `hasLogicalOperators` is not in the repository; this is the reading its name and the
filter compiler's combinators give it. -/
def logicalOperatorKeys (filter : Record) : Bool :=
  filter.any fun entry => entry.1 = "_and" || entry.1 = "_or" || entry.1 = "_not"

end QueryBuilderService

end Enfyra
