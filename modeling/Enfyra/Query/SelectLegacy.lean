import Enfyra.Query.MongoExecutor
import Enfyra.Query.Options
import Enfyra.Query.ExpandFields

/-!
`QueryBuilderService.mongoExecutor` on a whole request, and the MongoDB branch of
`selectLegacy` it calls. `mongoExecutor` turns the request into query options: the fields,
the `where` conditions of a filter, the sort, and the offset and limit of `page` and
`limit`. `selectLegacy` prefixes each condition and each sort field that has no dot with
the table, then runs the options one of three ways. A request with a `pipeline` runs it as
it is. A request with fields runs the aggregation `expandFieldsMongo` plans: `$match`, a
`$lookup` for each relation (its nested pipeline a `$project` of the target's requested
fields), `$unwind` after each one-relation, then `$sort`, `$skip` and `$limit`. Any other
request runs `find` with the filter, and sorts, skips and limits the cursor. The
aggregation sorts on each sort field's last segment, `id` read as `_id`; the cursor sorts on
the prefixed path, `table.field`, which no document of the table's collection holds.

MongoDB's stages are read as it documents them. `$lookup` matches the documents of the
target whose `foreignField` equals the local value, or an item of it when it is an array,
a missing local field reading as null. `$unwind` with `preserveNullAndEmptyArrays` gives one
document per item of an array, drops the field when the array is empty, and keeps the
document otherwise. An inclusion `$project` keeps `_id` and the listed fields. What MongoDB
promises of a sort is a parameter, `order`: the documents of its input, sorted by the keys.
Documents that tie on every key come in an order it does not promise, which may change with
the skip and limit around the sort. Values of different types order by BSON type; arrays and
embedded documents compare as equal to others of their kind here.

The results. The documents the aggregation returns keep every field of the stored document,
selected or not, and add the relations it looks up: a many-relation holds an array, and a
one-relation holds the document found, or is missing when none is. On the cursor, a sort
field of the request sorts on a path every document lacks, so a sort that keeps MongoDB's
promise may put a document on a page that the same request without `page` and `limit`
puts elsewhere.

`hasLogicalOperators`, `mapDocument`, the run of a request's own pipeline and the sort's
order are parameters. `mongoExecutor` does not read `meta` and never sets `select` or `join`,
so the projection of `select` and the branch of `selectLegacy` for joins are not modelled.
-/

namespace Enfyra.QueryBuilderService

/-! ### The request and the query options -/

/-- The options `mongoExecutor` reads. -/
structure MongoRequest where
  tableName : String
  fields : Option ListArg := none
  filter : Option Record := none
  sort : Option ListArg := none
  page : Option NumberArg := none
  limit : Option NumberArg := none
  pipeline : Option (List Value) := none
  deriving DecidableEq, Repr

/-- The `QueryOptions` that `selectLegacy` reads on MongoDB. -/
structure QueryOptions where
  table : String
  fields : Option (List String) := none
  /-- `where`. -/
  conditions : Option (List WhereCondition) := none
  sort : Option (List SortOption) := none
  offset : Option Int := none
  limit : Option Int := none
  pipeline : Option (List Value) := none
  deriving DecidableEq, Repr

/-- The query options `mongoExecutor` builds from its request. -/
def mongoQueryOptions (hasLogicalOperators : Record → Bool) (request : MongoRequest) :
    QueryOptions :=
  { table := request.tableName, pipeline := request.pipeline, fields := fieldsOf request.fields,
    conditions := whereOf hasLogicalOperators request.filter, sort := sortOf request.sort,
    offset := (pagination request.page request.limit).1,
    limit := (pagination request.page request.limit).2 }

/-- `selectLegacy` prefixes a sort field that names no table with the queried table. -/
def qualifySort (table : String) (option : SortOption) : SortOption :=
  if option.field.toList.contains '.' then option
  else { option with field := table ++ "." ++ option.field }

/-- `sortSpec[key(sortOpt.field)] = sortOpt.direction === 'asc' ? 1 : -1`, for each option. -/
def sortSpecOf (key : String → String) (sort : List SortOption) : Record :=
  sort.foldl (fun spec option =>
    spec.set (key option.field) (.num (if option.direction = .asc then 1 else -1))) []

/-! ### MongoDB -/

/-- What a query asks of a sort: the sort document, and the skip and the limit after it. -/
structure SortPlan where
  spec : Record
  offset : Option Int
  limit : Option Int
  deriving DecidableEq, Repr

/-- The MongoDB service and server as `selectLegacy` uses them. -/
structure MongoBackend where
  metadata : Metadata
  /-- The documents of each collection, in their natural order. -/
  collections : String → List Record
  regexMatches : String → String → Bool
  mapDocument : Record → Record
  /-- The order a sort gives its input. -/
  order : SortPlan → List Record → List Record
  /-- `collection.aggregate(pipeline)` for a pipeline the request brings. -/
  aggregate : String → List Value → List Record

/-- `$match`, and the filter of `find`: the documents the conditions' filter matches. -/
def matchStage (regexMatches : String → String → Bool) (conditions : Option (List WhereCondition))
    (docs : List Record) : Except Err (List Record) :=
  match conditions with
  | some conditions => do
      let filter ← whereToMongoFilter conditions
      pure (docs.filter (mongoMatches regexMatches filter))
  | none => pure docs

/-- Trusted: the equality of `$lookup`, of a document of the target with the local value. -/
def lookupMatches (localValue : Value) (foreignField : String) (foreign : Record) : Bool :=
  match localValue with
  | .arr items => items.any (mongoEq (foreign.get? foreignField))
  | value => mongoEq (foreign.get? foreignField) value

/-- Trusted: an inclusion `$project` of the listed fields. -/
def projectFields (fields : List String) (doc : Record) : Record :=
  doc.filter fun p => p.1 = "_id" ∨ p.1 ∈ fields

/-- The nested pipeline of a relation's lookup: a `$project` of `_id`, the target's scalar
fields and the local fields of its relations, when the target's plan has any. -/
def nestedProjection (metadata : Metadata) (lookup : RelationLookup) : Option (List String) :=
  if lookup.nestedFields = [] then none
  else
    let nested := expandFieldsMongo metadata lookup.targetTable lookup.nestedFields
    if nested.scalarFields = [] ∧ nested.relations = [] then none
    else some (nested.scalarFields ++ nested.relations.map (·.localField))

/-- Trusted: `$lookup`; the matched documents, through the nested pipeline, as an array under
the relation's name. -/
def lookupStage (foreign : List Record) (projection : Option (List String))
    (lookup : RelationLookup) (doc : Record) : Record :=
  let matched := foreign.filter
    (lookupMatches ((doc.get? lookup.localField).getD .null) lookup.foreignField)
  let projected := match projection with
    | some fields => matched.map (projectFields fields)
    | none => matched
  doc.set lookup.propertyName (.arr (projected.map .obj))

/-- Trusted: `$unwind` with `preserveNullAndEmptyArrays: true`. -/
def unwindStage (path : String) (doc : Record) : List Record :=
  match doc.get? path with
  | some (.arr []) => [doc.erase path]
  | some (.arr items) => items.map fun item => doc.set path item
  | _ => [doc]

/-- The stages of one relation: its `$lookup`, then `$unwind` for a one-relation. -/
def relationStages (backend : MongoBackend) (docs : List Record) (lookup : RelationLookup) :
    List Record :=
  let looked := docs.map (lookupStage (backend.collections lookup.targetTable)
    (nestedProjection backend.metadata lookup) lookup)
  if lookup.many then looked else looked.flatMap (unwindStage lookup.propertyName)

/-! ### `selectLegacy` -/

/-- The options once `selectLegacy` has prefixed their conditions and sort fields with the
table. -/
def qualifyOptions (options : QueryOptions) : QueryOptions :=
  { options with
    conditions := options.conditions.map (·.map (qualify options.table)),
    sort := options.sort.map (·.map (qualifySort options.table)) }

/-- `options.mongoFieldsExpanded`: the plan of a non-empty field list. -/
def expansion (metadata : Metadata) (options : QueryOptions) : Option ExpandedFields :=
  match options.fields with
  | some fields =>
      if fields = [] then none else some (expandFieldsMongo metadata options.table fields)
  | none => none

section Select

variable (backend : MongoBackend)

/-- `$match` and the stages of each relation: the documents that reach `$sort`. -/
def lookedUp (options : QueryOptions) (expanded : ExpandedFields) : Except Err (List Record) := do
  let matched ← matchStage backend.regexMatches options.conditions
    (backend.collections options.table)
  pure (expanded.relations.foldl (relationStages backend) matched)

/-- `$sort` on each sort field's last segment; a sort document with no key is an error. -/
def sortStage (options : QueryOptions) (docs : List Record) : Except Err (List Record) :=
  match options.sort with
  | some sort =>
      let spec := sortSpecOf mongoFieldName sort
      if spec = [] then throw (.backend "$sort stage must have at least one sort key")
      else pure (backend.order ⟨spec, options.offset, options.limit⟩ docs)
  | none => pure docs

/-- The aggregation of a request with fields: the documents it resolves to. -/
def expandedQuery (options : QueryOptions) (expanded : ExpandedFields) :
    Except Err (List Record) := do
  let sorted ← sortStage backend options (← lookedUp backend options expanded)
  pure ((window options.offset options.limit sorted).map backend.mapDocument)

/-- `collection.find(filter)` with the cursor's `sort`, `skip` and `limit`; an empty sort
document sorts nothing. -/
def cursorQuery (options : QueryOptions) : Except Err (List Record) := do
  let found ← matchStage backend.regexMatches options.conditions
    (backend.collections options.table)
  let spec := (options.sort.map (sortSpecOf id)).getD []
  let sorted := if spec = [] then found
    else backend.order ⟨spec, options.offset, options.limit⟩ found
  pure ((window options.offset options.limit sorted).map backend.mapDocument)

/-- `selectLegacy(options)` on MongoDB. -/
def selectLegacy (options : QueryOptions) : Except Err (List Record) :=
  match options.pipeline, expansion backend.metadata options with
  | some stages, _ =>
      pure ((backend.aggregate options.table stages).map backend.mapDocument)
  | none, some expanded => expandedQuery backend (qualifyOptions options) expanded
  | none, none => cursorQuery backend (qualifyOptions options)

/-- The stages of a query after `$match`, or after the filter of `find`: the relation stages
and `$sort` of the aggregation, or the cursor's sort; then the skip and the limit, and
`mapDocument`. -/
def afterMatch (options : QueryOptions) :
    Option ExpandedFields → List Record → Except Err (List Record)
  | some expanded, matched => do
      let sorted ← sortStage backend options
        (expanded.relations.foldl (relationStages backend) matched)
      pure ((window options.offset options.limit sorted).map backend.mapDocument)
  | none, found =>
      let spec := (options.sort.map (sortSpecOf id)).getD []
      let sorted := if spec = [] then found
        else backend.order ⟨spec, options.offset, options.limit⟩ found
      pure ((window options.offset options.limit sorted).map backend.mapDocument)

/-- Without a pipeline, `selectLegacy` runs `$match` (or `find`) on the collection, and the
later stages on the documents it selects. -/
theorem selectLegacy_afterMatch {options : QueryOptions} (hpipeline : options.pipeline = none) :
    selectLegacy backend options =
      matchStage backend.regexMatches (qualifyOptions options).conditions
          (backend.collections options.table) >>=
        afterMatch backend (qualifyOptions options) (expansion backend.metadata options) := by
  have htable : (qualifyOptions options).table = options.table := rfl
  unfold selectLegacy expandedQuery lookedUp cursorQuery
  rw [hpipeline, htable]
  cases expansion backend.metadata options <;>
    cases matchStage backend.regexMatches (qualifyOptions options).conditions
      (backend.collections options.table) <;> rfl

end Select

/-! ### What MongoDB promises of a sort -/

/-- Trusted: BSON's order of types, as far as the stored values go. -/
def typeRank : Value → Nat
  | .null => 1
  | .num _ => 2
  | .str _ => 3
  | .obj _ => 4
  | .arr _ => 5
  | .oid _ => 7
  | .bool _ => 8
  | _ => 9

/-- Trusted: MongoDB's comparison of two sort keys: by value within a type, by type across
types. -/
def sortCompare (a b : Value) : Ordering :=
  (a.order? b).getD (compare (typeRank a) (typeRank b))

/-- The value a sort reads at a dotted path; a missing one reads as null. -/
def pathValue (doc : Record) (path : String) : Value :=
  (jsSplit path '.').foldl (fun value key =>
    match value with
    | .obj fields => (Record.get? fields key).getD .null
    | _ => .null) (.obj doc)

/-- The order of two documents under a sort document: the first key they differ on decides,
a negative direction reversing it. -/
def docCompare (spec : Record) (a b : Record) : Ordering :=
  spec.foldr (fun key rest =>
    let order := sortCompare (pathValue a key.1) (pathValue b key.1)
    let directed := match key.2 with
      | .num n => if n < 0 then order.swap else order
      | _ => order
    directed.then rest) .eq

/-- `a` may come before `b` in a list sorted by the sort document. -/
def docLE (spec : Record) (a b : Record) : Prop := docCompare spec a b ≠ .gt

instance (spec : Record) : DecidableRel (docLE spec) := fun a b =>
  inferInstanceAs (Decidable (docCompare spec a b ≠ .gt))

/-- What MongoDB promises of the order a sort gives its input: the same documents, sorted by
the sort document. -/
def SortsAsPromised (order : SortPlan → List Record → List Record) (plan : SortPlan)
    (docs : List Record) : Prop :=
  (order plan docs).Perm docs ∧ (order plan docs).Pairwise (docLE plan.spec)

/-- No two documents of the list tie on every key of the sort document. -/
def NoTies (spec : Record) (docs : List Record) : Prop :=
  ∀ a ∈ docs, ∀ b ∈ docs, docLE spec a b → docLE spec b a → a = b

/-- Two sorts that keep MongoDB's promise give one order on an input with no ties, whatever
skip and limit each is asked for. -/
theorem order_eq_of_noTies {order : SortPlan → List Record → List Record} {p q : SortPlan}
    {docs : List Record} (hp : SortsAsPromised order p docs) (hq : SortsAsPromised order q docs)
    (hspec : p.spec = q.spec) (hties : NoTies p.spec docs) :
    order p docs = order q docs :=
  List.Perm.eq_of_sorted (fun a b ha hb => hties a (hp.1.subset ha) b (hq.1.subset hb))
    hp.2 (hspec ▸ hq.2) (hp.1.trans hq.1.symm)

/-- The filter-only `mongoExecutor` is `selectLegacy` on a request with a table and a filter
and nothing else. -/
theorem selectLegacy_filter (backend : MongoBackend) (hasLogicalOperators : Record → Bool)
    (table : String) (filter : Option Record) :
    selectLegacy backend
        (mongoQueryOptions hasLogicalOperators { tableName := table, filter := filter }) =
      mongoExecutor hasLogicalOperators backend.regexMatches backend.mapDocument
        (backend.collections table) table filter := by
  show cursorQuery backend _ = _
  simp only [cursorQuery, mongoExecutor, qualifyOptions, mongoQueryOptions]
  generalize (whereOf hasLogicalOperators filter).map (·.map (qualify table)) = conditions
  cases conditions with
  | none =>
      have hall : (backend.collections table).filter (mongoMatches backend.regexMatches []) =
          backend.collections table := List.filter_eq_self.mpr fun _ _ => rfl
      simp only [matchStage, pure_bind, hall]
      rfl
  | some conditions =>
      dsimp only [matchStage]
      cases whereToMongoFilter conditions <;> rfl

/-! ### The fields an aggregation returns -/

/-- What a relation's stages leave under its name: an array for a many-relation, and a
document or nothing for a one-relation. -/
def RelationField (lookup : RelationLookup) (doc : Record) : Prop :=
  if lookup.many then ∃ items, doc.get? lookup.propertyName = some (.arr items)
  else doc.get? lookup.propertyName = none ∨
    ∃ fields, doc.get? lookup.propertyName = some (.obj fields)

/-- What a relation's stages make of a document: its other fields as they were, and the
relation's field. -/
def RelationShaped (lookup : RelationLookup) (source doc : Record) : Prop :=
  (∀ key, key ≠ lookup.propertyName → doc.get? key = source.get? key) ∧ RelationField lookup doc

theorem RelationField.of_get?_eq {lookup : RelationLookup} {doc doc' : Record}
    (h : doc'.get? lookup.propertyName = doc.get? lookup.propertyName)
    (hfield : RelationField lookup doc) : RelationField lookup doc' := by
  unfold RelationField at hfield ⊢
  rwa [h]

theorem matchStage_sublist {regexMatches : String → String → Bool}
    {conditions : Option (List WhereCondition)} {docs matched : List Record}
    (h : matchStage regexMatches conditions docs = .ok matched) : matched.Sublist docs := by
  cases conditions with
  | none => cases h; exact List.Sublist.refl _
  | some conditions =>
      obtain ⟨filter, -, hmatched⟩ := Except.bind_eq_ok h
      cases hmatched
      exact List.filter_sublist _

/-- `$lookup` sets the relation's name to an array of documents. -/
theorem lookupStage_eq (foreign : List Record) (projection : Option (List String))
    (lookup : RelationLookup) (doc : Record) :
    ∃ found : List Record, lookupStage foreign projection lookup doc =
      doc.set lookup.propertyName (.arr (found.map .obj)) :=
  ⟨_, rfl⟩

/-- `$unwind` of an array of documents: the field holds one of them, or is removed when there
is none; the other fields are kept. -/
theorem unwindStage_shaped {doc out : Record} {path : String} {found : List Record}
    (h : out ∈ unwindStage path (doc.set path (.arr (found.map .obj)))) :
    (∀ key, key ≠ path → out.get? key = doc.get? key) ∧
      (out.get? path = none ∨ ∃ fields, out.get? path = some (.obj fields)) := by
  unfold unwindStage at h
  rw [Record.get?_set_self] at h
  cases found with
  | nil =>
      rw [List.map_nil, List.mem_singleton] at h
      subst h
      exact ⟨fun key hkey => by simp [hkey], .inl (Record.get?_erase_self _ _)⟩
  | cons first rest =>
      simp only [List.map_cons, List.mem_cons, List.mem_map] at h
      obtain rfl | ⟨_, ⟨fields, -, rfl⟩, rfl⟩ := h
      · exact ⟨fun key hkey => by simp [hkey], .inr ⟨first, by simp⟩⟩
      · exact ⟨fun key hkey => by simp [hkey], .inr ⟨fields, by simp⟩⟩

theorem relationStages_shaped (backend : MongoBackend) {docs : List Record}
    {lookup : RelationLookup} {doc : Record} (h : doc ∈ relationStages backend docs lookup) :
    ∃ source ∈ docs, RelationShaped lookup source doc := by
  unfold relationStages at h
  cases hmany : lookup.many with
  | true =>
      simp only [hmany, if_true, List.mem_map] at h
      obtain ⟨source, hsource, rfl⟩ := h
      obtain ⟨found, hfound⟩ := lookupStage_eq (backend.collections lookup.targetTable)
        (nestedProjection backend.metadata lookup) lookup source
      refine ⟨source, hsource, fun key hkey => by simp [hfound, hkey], ?_⟩
      simp [RelationField, hfound, hmany]
  | false =>
      simp only [hmany, Bool.false_eq_true, if_false, List.mem_flatMap, List.mem_map] at h
      obtain ⟨_, ⟨source, hsource, rfl⟩, hdoc⟩ := h
      obtain ⟨found, hfound⟩ := lookupStage_eq (backend.collections lookup.targetTable)
        (nestedProjection backend.metadata lookup) lookup source
      rw [hfound] at hdoc
      obtain ⟨hother, hself⟩ := unwindStage_shaped hdoc
      refine ⟨source, hsource, hother, ?_⟩
      simpa [RelationField, hmany] using hself

/-- Through the stages of relations of distinct names, a document keeps each field of the
document it came from that no relation's name covers, and holds each relation's field. -/
theorem foldl_relationStages_shaped (backend : MongoBackend) :
    ∀ (lookups : List RelationLookup) (docs : List Record),
      (lookups.map (·.propertyName)).Nodup →
      ∀ doc ∈ lookups.foldl (relationStages backend) docs, ∃ source ∈ docs,
        (∀ key, key ∉ lookups.map (·.propertyName) → doc.get? key = source.get? key) ∧
          ∀ lookup ∈ lookups, RelationField lookup doc
  | [], _, _, doc, h => ⟨doc, h, fun _ _ => rfl, fun _ hlookup => nomatch hlookup⟩
  | lookup :: rest, docs, hnodup, doc, h => by
      rw [List.map_cons, List.nodup_cons] at hnodup
      obtain ⟨mid, hmid, hframe, hfields⟩ :=
        foldl_relationStages_shaped backend rest _ hnodup.2 doc h
      obtain ⟨source, hsource, hother, hfield⟩ := relationStages_shaped backend hmid
      refine ⟨source, hsource, fun key hkey => ?_, ?_⟩
      · simp only [List.map_cons, List.mem_cons, not_or] at hkey
        rw [hframe key hkey.2, hother key hkey.1]
      · rintro _ (_ | ⟨_, hrest⟩)
        · exact hfield.of_get?_eq (hframe _ hnodup.1)
        · exact hfields _ hrest

/-- `$sort` returns documents of its input when MongoDB's sort does. -/
theorem sortStage_subset (backend : MongoBackend)
    (horder : ∀ plan docs, ∀ doc ∈ backend.order plan docs, doc ∈ docs)
    {options : QueryOptions} {docs sorted : List Record}
    (h : sortStage backend options docs = .ok sorted) : ∀ doc ∈ sorted, doc ∈ docs := by
  unfold sortStage at h
  split at h
  · dsimp only at h
    split_ifs at h
    cases h
    exact horder _ _
  · cases h
    exact fun _ => id

/-- Every document of an aggregation over relations of distinct names is `mapDocument` of one
that holds each field of a stored document the filter matched, the fields of the relations it
looks up apart, as the stored document holds it, and each relation's field. The sort is taken
to return documents of its input. -/
theorem expandedQuery_keeps_stored (backend : MongoBackend)
    (horder : ∀ plan docs, ∀ doc ∈ backend.order plan docs, doc ∈ docs)
    {options : QueryOptions} {expanded : ExpandedFields} {result : List Record}
    (hnodup : (expanded.relations.map (·.propertyName)).Nodup)
    (h : expandedQuery backend options expanded = .ok result) :
    ∀ out ∈ result, ∃ doc source, out = backend.mapDocument doc ∧
      source ∈ backend.collections options.table ∧
      (∀ key, key ∉ expanded.relations.map (·.propertyName) →
        doc.get? key = source.get? key) ∧
      ∀ lookup ∈ expanded.relations, RelationField lookup doc := by
  obtain ⟨looked, hlooked, hrest⟩ := Except.bind_eq_ok h
  obtain ⟨sorted, hsorted, hresult⟩ := Except.bind_eq_ok hrest
  obtain ⟨matched, hmatched, hfold⟩ := Except.bind_eq_ok hlooked
  cases hresult
  cases hfold
  intro out hout
  obtain ⟨doc, hdoc, rfl⟩ := List.mem_map.mp hout
  obtain ⟨source, hsource, hframe, hfields⟩ :=
    foldl_relationStages_shaped backend _ _ hnodup doc (sortStage_subset backend horder hsorted doc ((window_sublist _ _ _).subset hdoc))
  exact ⟨doc, source, rfl, (matchStage_sublist hmatched).subset hsource, hframe, hfields⟩

/-- `selectLegacy` with fields and no pipeline: every document is `mapDocument` of one that
keeps each field of a stored document the filter matched, the relations of the plan apart,
and holds each relation's field. -/
theorem selectLegacy_expanded_documents (backend : MongoBackend)
    (horder : ∀ plan docs, ∀ doc ∈ backend.order plan docs, doc ∈ docs)
    {options : QueryOptions} {fields : List String} {result : List Record}
    (hpipeline : options.pipeline = none) (hfields : options.fields = some fields)
    (hne : fields ≠ []) (h : selectLegacy backend options = .ok result) :
    ∀ out ∈ result, ∃ doc source, out = backend.mapDocument doc ∧
      source ∈ backend.collections options.table ∧
      (∀ key, key ∉ (expandFieldsMongo backend.metadata options.table fields).relations.map
        (·.propertyName) → doc.get? key = source.get? key) ∧
      ∀ lookup ∈ (expandFieldsMongo backend.metadata options.table fields).relations,
        RelationField lookup doc := by
  have hexpansion : expansion backend.metadata options =
      some (expandFieldsMongo backend.metadata options.table fields) := by
    simp [expansion, hfields, hne]
  simp only [selectLegacy, hpipeline, hexpansion] at h
  exact @expandedQuery_keeps_stored backend horder (qualifyOptions options) _ _
    (relations_nodup _ _ _) h

/-! ### The page of an aggregation -/

section Window

variable (backend : MongoBackend)

/-- Dropping the offset and the limit of the options changes no stage before `$sort`. -/
theorem selectLegacy_unpaged (options : QueryOptions) :
    selectLegacy backend { options with offset := none, limit := none } =
      match options.pipeline, expansion backend.metadata options with
      | some stages, _ =>
          pure ((backend.aggregate options.table stages).map backend.mapDocument)
      | none, some expanded =>
          expandedQuery backend { qualifyOptions options with offset := none, limit := none }
            expanded
      | none, none =>
          cursorQuery backend { qualifyOptions options with offset := none, limit := none } :=
  rfl

/-- On a request with fields and no pipeline, when the sorts MongoDB gives keep its promise
and no two documents that reach `$sort` tie, the documents of a request are the window of
its offset and limit on those of the request with neither. -/
theorem selectLegacy_expanded_window {options : QueryOptions} {expanded : ExpandedFields}
    {sort : List SortOption} {docs : List Record} (hpipeline : options.pipeline = none)
    (hexpanded : expansion backend.metadata options = some expanded)
    (hsort : (qualifyOptions options).sort = some sort)
    (hdocs : lookedUp backend (qualifyOptions options) expanded = .ok docs)
    (hpaged : SortsAsPromised backend.order
      ⟨sortSpecOf mongoFieldName sort, options.offset, options.limit⟩ docs)
    (hunpaged : SortsAsPromised backend.order ⟨sortSpecOf mongoFieldName sort, none, none⟩ docs)
    (hties : NoTies (sortSpecOf mongoFieldName sort) docs) :
    selectLegacy backend options =
      (selectLegacy backend { options with offset := none, limit := none }).map
        (window options.offset options.limit) := by
  rw [selectLegacy_unpaged]
  simp only [selectLegacy, hpipeline, hexpanded, expandedQuery]
  have hunpagedDocs : lookedUp backend { qualifyOptions options with offset := none, limit := none }
      expanded = .ok docs := hdocs
  rw [hdocs, hunpagedDocs, Except.ok_bind, Except.ok_bind]
  simp only [sortStage, hsort]
  split_ifs with hspec
  · rfl
  · dsimp only [qualifyOptions]
    rw [order_eq_of_noTies hpaged hunpaged rfl hties]
    exact congrArg Except.ok (window_map _ _ _ _).symm

/-- A request without `page` and `limit` asks for no offset and no limit. -/
theorem mongoQueryOptions_unpaged (hasLogicalOperators : Record → Bool) (request : MongoRequest) :
    mongoQueryOptions hasLogicalOperators { request with page := none, limit := none } =
      { mongoQueryOptions hasLogicalOperators request with offset := none, limit := none } :=
  rfl

/-- `mongoExecutor` with fields, no pipeline, a page `p ≥ 1` and a limit `l ≥ 0`: when the
sorts MongoDB gives keep its promise on the documents that reach `$sort` and no two of them
tie, it returns the documents at positions `(p - 1) * l` to `p * l - 1` of those it returns
for the request with no page and no limit when `l ≥ 1`, and all of them when `l = 0`. -/
theorem mongoExecutor_expanded_page (hasLogicalOperators : Record → Bool)
    {request : MongoRequest} {page limit : NumberArg} {p l : Int} {expanded : ExpandedFields}
    {sort : List SortOption} {docs : List Record}
    (hpage : request.page = some page) (hlimit : request.limit = some limit)
    (hp : page.toInt = some p) (hl : limit.toInt = some l) (hp1 : 1 ≤ p) (hl0 : 0 ≤ l)
    (hpipeline : request.pipeline = none)
    (hexpanded : expansion backend.metadata (mongoQueryOptions hasLogicalOperators request) =
      some expanded)
    (hsort : (qualifyOptions (mongoQueryOptions hasLogicalOperators request)).sort = some sort)
    (hdocs : lookedUp backend (qualifyOptions (mongoQueryOptions hasLogicalOperators request))
      expanded = .ok docs)
    (hcontract : ∀ offset limit,
      SortsAsPromised backend.order ⟨sortSpecOf mongoFieldName sort, offset, limit⟩ docs)
    (hties : NoTies (sortSpecOf mongoFieldName sort) docs) :
    selectLegacy backend (mongoQueryOptions hasLogicalOperators request) =
      (selectLegacy backend
        (mongoQueryOptions hasLogicalOperators { request with page := none, limit := none })).map
        fun data => if 1 ≤ l then (data.drop ((p - 1) * l).toNat).take l.toNat else data := by
  rw [selectLegacy_expanded_window backend hpipeline hexpanded hsort hdocs (hcontract _ _)
    (hcontract none none) hties, mongoQueryOptions_unpaged]
  have hwindow : window (mongoQueryOptions hasLogicalOperators request).offset
      (mongoQueryOptions hasLogicalOperators request).limit =
        fun data : List Record => if 1 ≤ l then (data.drop ((p - 1) * l).toNat).take l.toNat
          else data := by
    funext data
    simp only [mongoQueryOptions, hpage, hlimit]
    exact window_pagination hp hl hp1 hl0 data
  rw [hwindow]

end Window

/-! ### Stores of articles -/

/-- A MongoDB server over the example's article metadata whose `article` collection holds the
given documents and whose other collections are empty. -/
def articleStore (articles : List Record) (mapDocument : Record → Record)
    (order : SortPlan → List Record → List Record) : MongoBackend where
  metadata := ⟨[articleTable]⟩
  collections table := if table = "article" then articles else []
  regexMatches _ _ := false
  mapDocument := mapDocument
  order := order
  aggregate _ _ := []

def firstArticle : Record := [("_id", .oid "65f0a0b1c2d3e4f5a6b7c801"), ("title", .str "b")]

def secondArticle : Record := [("_id", .oid "65f0a0b1c2d3e4f5a6b7c802"), ("title", .str "a")]

/-- A sort MongoDB may give when every document ties: the input's order, reversed when the
query skips documents. -/
def tieFlippingOrder (plan : SortPlan) (docs : List Record) : List Record :=
  if plan.offset = none then docs else docs.reverse

/-- On the cursor, `sort=title` sorts on `article.title`, which no document holds, so all
documents tie. A sort that keeps MongoDB's promise on both queries gives page 2 of size 1 the
document that the request without `page` and `limit` puts first. -/
theorem cursor_page_outside_unpaged (hasLogicalOperators : Record → Bool) :
    SortsAsPromised tieFlippingOrder ⟨[("article.title", .num 1)], none, none⟩
        [firstArticle, secondArticle] ∧
      SortsAsPromised tieFlippingOrder ⟨[("article.title", .num 1)], some 1, some 1⟩
        [firstArticle, secondArticle] ∧
      selectLegacy (articleStore [firstArticle, secondArticle] id tieFlippingOrder)
          (mongoQueryOptions hasLogicalOperators
            { tableName := "article", sort := some (.text "title") }) =
        .ok [firstArticle, secondArticle] ∧
      selectLegacy (articleStore [firstArticle, secondArticle] id tieFlippingOrder)
          (mongoQueryOptions hasLogicalOperators
            { tableName := "article", sort := some (.text "title"), page := some 2,
              limit := some 1 }) =
        .ok [firstArticle] :=
  ⟨⟨List.Perm.refl _, by decide⟩, ⟨List.reverse_perm _, by decide⟩, rfl, rfl⟩

def storedArticle : Record :=
  [("_id", .oid "65f0a0b1c2d3e4f5a6b7c801"), ("title", .str "Hello"), ("views", .num 3),
    ("author", .oid "65f0a0b1c2d3e4f5a6b7c8ff")]

/-- The aggregation keeps the stored fields: `fields=title` and `fields=title,views` both
return the stored article whole, `author` with it. `fields=*` removes `author`, whose user is
missing, and adds `tags` as an empty array. -/
theorem fields_keep_stored_keys (hasLogicalOperators : Record → Bool)
    (mapDocument : Record → Record) (order : SortPlan → List Record → List Record) :
    selectLegacy (articleStore [storedArticle] mapDocument order)
        (mongoQueryOptions hasLogicalOperators
          { tableName := "article", fields := some (.items ["title"]) }) =
      .ok [mapDocument storedArticle] ∧
    selectLegacy (articleStore [storedArticle] mapDocument order)
        (mongoQueryOptions hasLogicalOperators
          { tableName := "article", fields := some (.items ["title", "views"]) }) =
      .ok [mapDocument storedArticle] ∧
    selectLegacy (articleStore [storedArticle] mapDocument order)
        (mongoQueryOptions hasLogicalOperators
          { tableName := "article", fields := some (.items ["*"]) }) =
      .ok [mapDocument ((storedArticle.erase "author").set "tags" (.arr []))] :=
  ⟨rfl, rfl, rfl⟩

/-! ### The filter of a request -/

end Enfyra.QueryBuilderService
