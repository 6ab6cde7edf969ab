import Mathlib.Data.List.Nodup
import Enfyra.Metadata

/-!
`QueryBuilderService.expandFieldsMongo(tableName, fields)`: the plan of the MongoDB
pipeline for a field list. It groups the fields by their first segment in a `Map`, which
keeps its keys in insertion order: a field that is `*` or has no dot goes under the empty
key, any other under its first segment with the rest of its path. A root `*` lists every
declared column and asks for `id` of each declared relation that has no group yet; another
root field is listed once as it is. Each group of a declared relation becomes a lookup of
its target, `many` for a one-to-many or many-to-many relation; a group of an undeclared
name is skipped with a warning.

The results, for a table the metadata declares. The scalar fields are every declared column
when a field filed at the root is `*`, and each other field filed at the root: the fields
without a dot, and the rest of a field whose first segment is empty. The relations the plan
looks up are named once each: the declared relations named by the first segment of a field,
and all declared relations when a field filed at the root is `*`. Each lookup follows the
first declared relation of its name. The metadata cache is always present here.
-/

namespace Enfyra.QueryBuilderService

/-- A relation `expandFieldsMongo` plans a `$lookup` for. -/
structure RelationLookup where
  propertyName : String
  targetTable : String
  localField : String
  foreignField : String
  /-- `type: 'many'`; `'one'` when false. -/
  many : Bool
  nestedFields : List String
  deriving DecidableEq, Repr

structure ExpandedFields where
  scalarFields : List String
  relations : List RelationLookup
  deriving DecidableEq, Repr

/-- `fieldsByRelation.get(key)!.push(field)`, with the key's list made first when missing. -/
def pushField (groups : List (String × List String)) (key field : String) :
    List (String × List String) :=
  if groups.any (·.1 = key) then groups.map fun g => if g.1 = key then (g.1, g.2 ++ [field]) else g
  else groups ++ [(key, [field])]

/-- The first loop: `*` and a field without a dot go under `''`, any other field under its
first segment, with the rest of its path. -/
def groupField (groups : List (String × List String)) (field : String) :
    List (String × List String) :=
  if field = "*" ∨ field.toList.contains '.' = false then pushField groups "" field
  else
    let parts := jsSplit field '.'
    pushField groups (parts.headD "") (".".intercalate parts.tail)

/-- `if (!list.includes(name)) list.push(name)`. -/
def pushNew (names : List String) (name : String) : List String :=
  if name ∈ names then names else names ++ [name]

/-- One root field: `*` lists every declared column and asks for `['id']` of every declared
relation without a group; any other field is listed once. -/
def rootField (baseMeta : TableMetadata) (state : List String × List (String × List String))
    (field : String) : List String × List (String × List String) :=
  if field = "*" then
    ((baseMeta.columns.map (·.name)).foldl pushNew state.1,
      baseMeta.relations.foldl (fun groups rel =>
        if groups.any (·.1 = rel.propertyName) then groups
        else groups ++ [(rel.propertyName, ["id"])]) state.2)
  else (pushNew state.1 field, state.2)

/-- The lookup a group plans, when its key names a declared relation. -/
def lookupOf (baseMeta : TableMetadata) (group : String × List String) : Option RelationLookup :=
  if group.1 = "" then none
  else (baseMeta.relations.find? (·.propertyName = group.1)).map fun rel =>
    { propertyName := group.1, targetTable := rel.targetTableName, localField := group.1,
      foreignField := "_id", many := rel.type.isToMany, nestedFields := group.2 }

def expandFieldsMongo (metadata : Metadata) (tableName : String) (fields : List String) :
    ExpandedFields :=
  match metadata.lookup tableName with
  | none => ⟨[], []⟩
  | some baseMeta =>
      let groups := fields.foldl groupField []
      let rootFields := ((groups.find? (·.1 = "")).map (·.2)).getD []
      let (scalarFields, groups) := rootFields.foldl (rootField baseMeta) ([], groups)
      ⟨scalarFields, groups.filterMap (lookupOf baseMeta)⟩

/-! ### The groups as a map -/

/-- `fieldsByRelation.get(key)`, `[]` for a key it does not hold. -/
def groupOf (groups : List (String × List String)) (key : String) : List String :=
  ((groups.find? (·.1 = key)).map (·.2)).getD []

/-- The key the first loop files a field under. -/
def groupKey (field : String) : String :=
  if field = "*" ∨ field.toList.contains '.' = false then "" else (jsSplit field '.').headD ""

/-- What the first loop files under the key: the field itself at the root, the rest of its
path under a relation. -/
def groupEntry (field : String) : String :=
  if field = "*" ∨ field.toList.contains '.' = false then field
  else ".".intercalate (jsSplit field '.').tail

@[simp] theorem groupOf_nil (key : String) : groupOf [] key = [] := rfl

theorem groupField_eq (groups : List (String × List String)) (field : String) :
    groupField groups field = pushField groups (groupKey field) (groupEntry field) := by
  unfold groupField groupKey groupEntry
  split_ifs <;> rfl

theorem any_key_eq_true {groups : List (String × List String)} {key : String} :
    groups.any (·.1 = key) = true ↔ key ∈ groups.map (·.1) := by
  simp

theorem mem_pushNew {names : List String} {name x : String} :
    x ∈ pushNew names name ↔ x ∈ names ∨ x = name := by
  unfold pushNew
  split_ifs with h
  · exact ⟨.inl, fun hx => hx.elim id (· ▸ h)⟩
  · simp

theorem keys_pushField (groups : List (String × List String)) (key field : String) :
    (pushField groups key field).map (·.1) = pushNew (groups.map (·.1)) key := by
  unfold pushField pushNew
  by_cases h : key ∈ groups.map (·.1)
  · rw [if_pos (any_key_eq_true.mpr h), if_pos h, List.map_map]
    congr 1
    funext g
    by_cases hg : g.1 = key <;> simp [hg]
  · rw [if_neg (mt any_key_eq_true.mp h), if_neg h, List.map_append]
    rfl

theorem groupOf_pushField (groups : List (String × List String)) (key field other : String) :
    groupOf (pushField groups key field) other =
      if other = key then groupOf groups other ++ [field] else groupOf groups other := by
  unfold pushField groupOf
  by_cases hany : groups.any (·.1 = key) = true
  · have hfirst : ((fun g => decide (g.1 = other)) ∘ fun g : String × List String =>
        if g.1 = key then (g.1, g.2 ++ [field]) else g) = fun g => decide (g.1 = other) := by
      funext g
      by_cases hg : g.1 = key <;> simp [hg]
    rw [if_pos hany, List.find?_map, hfirst]
    cases hfind : groups.find? (·.1 = other) with
    | none =>
        obtain ⟨g, hg, hkey⟩ := List.any_eq_true.mp hany
        have hne : g.1 ≠ other := by simpa using List.find?_eq_none.mp hfind g hg
        have hother : other ≠ key := fun h => hne (by simpa [h] using hkey)
        simp [hother]
    | some g =>
        have hg : g.1 = other := by simpa using List.find?_some hfind
        by_cases hother : other = key <;> simp [hg, hother]
  · rw [if_neg hany, List.find?_append]
    cases hfind : groups.find? (·.1 = other) with
    | none =>
        rw [Option.none_or]
        by_cases hother : other = key
        · subst hother
          simp
        · simp [hother, Ne.symm hother]
    | some g =>
        have hg : g.1 = other := by simpa using List.find?_some hfind
        have hother : other ≠ key := fun h =>
          hany (List.any_eq_true.mpr ⟨g, List.mem_of_find?_eq_some hfind, by simp [hg, h]⟩)
        simp [hother]

theorem mem_foldl_pushNew : ∀ (names init : List String) (x : String),
    x ∈ names.foldl pushNew init ↔ x ∈ init ∨ x ∈ names
  | [], _, _ => by simp
  | name :: names, init, x => by
      rw [List.foldl_cons, mem_foldl_pushNew names, mem_pushNew, List.mem_cons]
      tauto

theorem nodup_foldl_pushNew : ∀ (names init : List String), init.Nodup →
    (names.foldl pushNew init).Nodup
  | [], _, h => h
  | name :: names, init, h => by
      refine nodup_foldl_pushNew names _ ?_
      unfold pushNew
      split_ifs with hname
      · exact h
      · exact h.append (List.nodup_singleton _) (List.disjoint_singleton.mpr hname)

/-- The first loop keeps each key once, in the order of the fields that first name it. -/
theorem keys_foldl_groupField : ∀ (fields : List String) (groups : List (String × List String)),
    (fields.foldl groupField groups).map (·.1) =
      (fields.map groupKey).foldl pushNew (groups.map (·.1))
  | [], _ => rfl
  | field :: fields, groups => by
      rw [List.foldl_cons, keys_foldl_groupField fields, groupField_eq, keys_pushField]
      rfl

/-- The first loop files under each key the entries of the fields with that key, in order. -/
theorem groupOf_foldl_groupField :
    ∀ (fields : List String) (groups : List (String × List String)) (key : String), groupOf (fields.foldl groupField groups) key =
      groupOf groups key ++ (fields.filter (groupKey · = key)).map groupEntry
  | [], _, _ => by simp
  | field :: fields, groups, key => by
      rw [List.foldl_cons, groupOf_foldl_groupField fields, groupField_eq, groupOf_pushField,
        List.filter_cons]
      by_cases h : key = groupKey field <;> simp [h, eq_comm]

/-! ### The root fields -/

/-- The second loop adds each declared relation that has no group, under `id`. -/
theorem keys_foldl_idGroup :
    ∀ (relations : List RelationMeta) (groups : List (String × List String)),
    (relations.foldl (fun groups rel =>
        if groups.any (·.1 = rel.propertyName) then groups
        else groups ++ [(rel.propertyName, ["id"])]) groups).map (·.1) =
      (relations.map (·.propertyName)).foldl pushNew (groups.map (·.1))
  | [], _ => rfl
  | rel :: relations, groups => by
      rw [List.foldl_cons, keys_foldl_idGroup relations, List.map_cons, List.foldl_cons]
      congr 1
      unfold pushNew
      by_cases h : rel.propertyName ∈ groups.map (·.1)
      · rw [if_pos (any_key_eq_true.mpr h), if_pos h]
      · rw [if_neg (mt any_key_eq_true.mp h), if_neg h, List.map_append]
        rfl

theorem mem_rootField_scalars (baseMeta : TableMetadata)
    (state : List String × List (String × List String)) (root x : String) :
    x ∈ (rootField baseMeta state root).1 ↔ x ∈ state.1 ∨
      (root = "*" ∧ x ∈ baseMeta.columns.map (·.name)) ∨ (root ≠ "*" ∧ x = root) := by
  unfold rootField
  split_ifs with h <;> simp [mem_foldl_pushNew, mem_pushNew, h]

theorem keys_rootField (baseMeta : TableMetadata)
    (state : List String × List (String × List String)) (root : String) :
    (rootField baseMeta state root).2.map (·.1) =
      if root = "*" then
        (baseMeta.relations.map (·.propertyName)).foldl pushNew (state.2.map (·.1))
      else state.2.map (·.1) := by
  unfold rootField
  split_ifs
  · exact keys_foldl_idGroup _ _
  · rfl

/-- The scalar fields after the root fields: every declared column for a `*`, and each other
root field. -/
theorem mem_foldl_rootField_scalars (baseMeta : TableMetadata) :
    ∀ (roots : List String) (state : List String × List (String × List String)) (x : String),
      x ∈ (roots.foldl (rootField baseMeta) state).1 ↔ x ∈ state.1 ∨ ∃ root ∈ roots,
        (root = "*" ∧ x ∈ baseMeta.columns.map (·.name)) ∨ (root ≠ "*" ∧ x = root)
  | [], _, _ => by simp
  | root :: roots, state, x => by
      rw [List.foldl_cons, mem_foldl_rootField_scalars baseMeta roots, mem_rootField_scalars,
        List.exists_mem_cons_iff, or_assoc]

/-- The group keys after the root fields: a `*` adds the declared relations, each once. -/
theorem keys_foldl_rootField (baseMeta : TableMetadata) :
    ∀ (roots : List String) (state : List String × List (String × List String)),
      (state.2.map (·.1)).Nodup →
      ((roots.foldl (rootField baseMeta) state).2.map (·.1)).Nodup ∧
        ∀ key, key ∈ (roots.foldl (rootField baseMeta) state).2.map (·.1) ↔
          key ∈ state.2.map (·.1) ∨
            ("*" ∈ roots ∧ key ∈ baseMeta.relations.map (·.propertyName))
  | [], _, h => ⟨h, fun _ => by simp⟩
  | root :: roots, state, h => by
      have hstep : ((rootField baseMeta state root).2.map (·.1)).Nodup ∧
          ∀ key, key ∈ (rootField baseMeta state root).2.map (·.1) ↔
            key ∈ state.2.map (·.1) ∨
              (root = "*" ∧ key ∈ baseMeta.relations.map (·.propertyName)) := by
        rw [keys_rootField]
        split_ifs with hroot
        · exact ⟨nodup_foldl_pushNew _ _ h, fun key => by simp [mem_foldl_pushNew, hroot]⟩
        · exact ⟨h, fun key => by simp [hroot]⟩
      obtain ⟨hnodup, hmem⟩ := keys_foldl_rootField baseMeta roots _ hstep.1
      refine ⟨hnodup, fun key => ?_⟩
      rw [List.foldl_cons, hmem, hstep.2, List.mem_cons]
      constructor
      · rintro ((h | ⟨rfl, h⟩) | ⟨h₁, h₂⟩)
        exacts [.inl h, .inr ⟨.inl rfl, h⟩, .inr ⟨.inr h₁, h₂⟩]
      · rintro (h | ⟨rfl | h₁, h₂⟩)
        exacts [.inl (.inl h), .inl (.inr ⟨rfl, h₂⟩), .inr ⟨h₁, h₂⟩]

/-! ### The plan -/

/-- A group plans a lookup, under its own key, when the key names a declared relation. -/
theorem lookupOf_name (baseMeta : TableMetadata) (group : String × List String) :
    (lookupOf baseMeta group).map (·.propertyName) =
      if group.1 ≠ "" ∧ group.1 ∈ baseMeta.relations.map (·.propertyName) then some group.1
      else none := by
  unfold lookupOf
  by_cases hempty : group.1 = ""
  · simp [hempty]
  · cases hfind : baseMeta.relations.find? (·.propertyName = group.1) with
    | none =>
        have hnot : group.1 ∉ baseMeta.relations.map (·.propertyName) := by
          simpa using List.find?_eq_none.mp hfind
        simp [hempty, hnot]
    | some rel =>
        have hmem : group.1 ∈ baseMeta.relations.map (·.propertyName) :=
          List.mem_map.mpr ⟨rel, List.mem_of_find?_eq_some hfind,
            by simpa using List.find?_some hfind⟩
        simp [hempty, hmem]

/-- The relations of the plan: a lookup for each group key that names a declared relation. -/
theorem names_filterMap_lookupOf (baseMeta : TableMetadata) :
    ∀ groups : List (String × List String),
      (groups.filterMap (lookupOf baseMeta)).map (·.propertyName) =
        (groups.map (·.1)).filter fun key =>
          key ≠ "" ∧ key ∈ baseMeta.relations.map (·.propertyName)
  | [] => rfl
  | group :: groups => by
      have hname := lookupOf_name baseMeta group
      rw [List.filterMap_cons, List.map_cons, List.filter_cons]
      split_ifs at hname with hkey
      · obtain ⟨lookup, hlookup, hprop⟩ := Option.map_eq_some'.mp hname
        simp only [hlookup, List.map_cons, hprop, names_filterMap_lookupOf baseMeta groups,
          decide_eq_true hkey, if_true]
      · simp only [Option.map_eq_none'.mp hname, names_filterMap_lookupOf baseMeta groups,
          decide_eq_false hkey, Bool.false_eq_true, if_false]

theorem lookupOf_eq_some {baseMeta : TableMetadata} {group : String × List String}
    {lookup : RelationLookup} (h : lookupOf baseMeta group = some lookup) :
    ∃ rel ∈ baseMeta.relations, rel.propertyName = lookup.propertyName ∧
      lookup.propertyName = group.1 ∧ lookup.targetTable = rel.targetTableName ∧
      lookup.localField = lookup.propertyName ∧ lookup.foreignField = "_id" ∧
      lookup.many = rel.type.isToMany := by
  unfold lookupOf at h
  split_ifs at h
  obtain ⟨rel, hfind, rfl⟩ := Option.map_eq_some'.mp h
  exact ⟨rel, List.mem_of_find?_eq_some hfind, by simpa using List.find?_some hfind,
    rfl, rfl, rfl, rfl, rfl⟩

section Plan

variable {metadata : Metadata} {tableName : String} {baseMeta : TableMetadata}

theorem expandFieldsMongo_eq (hmeta : metadata.lookup tableName = some baseMeta)
    (fields : List String) :
    expandFieldsMongo metadata tableName fields =
      ⟨((groupOf (fields.foldl groupField []) "").foldl (rootField baseMeta)
          ([], fields.foldl groupField [])).1,
        ((groupOf (fields.foldl groupField []) "").foldl (rootField baseMeta)
          ([], fields.foldl groupField [])).2.filterMap (lookupOf baseMeta)⟩ := by
  unfold expandFieldsMongo
  rw [hmeta]
  rfl

/-- The scalar fields of the plan: every declared column when a field filed at the root is
`*`, and each other field filed at the root. -/
theorem mem_scalarFields (hmeta : metadata.lookup tableName = some baseMeta)
    (fields : List String) (x : String) :
    x ∈ (expandFieldsMongo metadata tableName fields).scalarFields ↔
      ∃ field ∈ fields, groupKey field = "" ∧
        ((groupEntry field = "*" ∧ x ∈ baseMeta.columns.map (·.name)) ∨
          (groupEntry field ≠ "*" ∧ x = groupEntry field)) := by
  rw [expandFieldsMongo_eq hmeta, mem_foldl_rootField_scalars, groupOf_foldl_groupField]
  simp only [List.not_mem_nil, false_or, groupOf_nil, List.nil_append, List.mem_map,
    List.mem_filter, decide_eq_true_eq]
  constructor
  · rintro ⟨_, ⟨field, ⟨hfield, hkey⟩, rfl⟩, h⟩
    exact ⟨field, hfield, hkey, h⟩
  · rintro ⟨field, hfield, hkey, h⟩
    exact ⟨_, ⟨field, ⟨hfield, hkey⟩, rfl⟩, h⟩

/-- The relations of the plan, each named once: the declared relations named by the key of a
field, and all declared relations when a field filed at the root is `*`. -/
theorem relations_names (hmeta : metadata.lookup tableName = some baseMeta)
    (fields : List String) :
    ((expandFieldsMongo metadata tableName fields).relations.map (·.propertyName)).Nodup ∧
      ∀ name,
        name ∈ (expandFieldsMongo metadata tableName fields).relations.map (·.propertyName) ↔
        name ≠ "" ∧ name ∈ baseMeta.relations.map (·.propertyName) ∧
          ((∃ field ∈ fields, groupKey field = name) ∨
            ∃ field ∈ fields, groupKey field = "" ∧ groupEntry field = "*") := by
  have hgroups : ((fields.foldl groupField []).map (·.1)).Nodup := by
    rw [keys_foldl_groupField]
    exact nodup_foldl_pushNew _ _ List.nodup_nil
  obtain ⟨hnodup, hmem⟩ := keys_foldl_rootField baseMeta
    (groupOf (fields.foldl groupField []) "") ([], fields.foldl groupField []) hgroups
  rw [expandFieldsMongo_eq hmeta]
  dsimp only
  rw [names_filterMap_lookupOf]
  refine ⟨hnodup.filter _, fun name => ?_⟩
  have hstar : "*" ∈ groupOf (fields.foldl groupField []) "" ↔
      ∃ field ∈ fields, groupKey field = "" ∧ groupEntry field = "*" := by
    simp [groupOf_foldl_groupField, and_assoc]
  have hkey : name ∈ fields.map groupKey ↔ ∃ field ∈ fields, groupKey field = name :=
    List.mem_map
  rw [List.mem_filter, hmem, keys_foldl_groupField, mem_foldl_pushNew, hstar, hkey,
    decide_eq_true_iff]
  simp only [List.map_nil, List.not_mem_nil, false_or]
  constructor
  · rintro ⟨hfield | ⟨hstar, -⟩, hname, hdeclared⟩
    exacts [⟨hname, hdeclared, .inl hfield⟩, ⟨hname, hdeclared, .inr hstar⟩]
  · rintro ⟨hname, hdeclared, hfield | hstar⟩
    exacts [⟨.inl hfield, hname, hdeclared⟩,
      ⟨.inr ⟨hstar, hdeclared⟩, hname, hdeclared⟩]

/-- The plan looks each relation up once. -/
theorem relations_nodup (metadata : Metadata) (tableName : String) (fields : List String) :
    ((expandFieldsMongo metadata tableName fields).relations.map (·.propertyName)).Nodup := by
  cases hmeta : metadata.lookup tableName with
  | none => simp [expandFieldsMongo, hmeta]
  | some baseMeta => exact (relations_names hmeta fields).1

/-- Each lookup of the plan follows the first declared relation of its name: its target table,
its local field (the relation's name) against `_id`, and `many` for a to-many relation. -/
theorem lookup_of_mem_relations (hmeta : metadata.lookup tableName = some baseMeta)
    {fields : List String} {lookup : RelationLookup}
    (h : lookup ∈ (expandFieldsMongo metadata tableName fields).relations) :
    ∃ rel ∈ baseMeta.relations, rel.propertyName = lookup.propertyName ∧
      lookup.targetTable = rel.targetTableName ∧ lookup.localField = lookup.propertyName ∧
      lookup.foreignField = "_id" ∧ lookup.many = rel.type.isToMany := by
  rw [expandFieldsMongo_eq hmeta] at h
  obtain ⟨group, -, hgroup⟩ := List.mem_filterMap.mp h
  obtain ⟨rel, hrel, hname, -, htarget, hlocal, hforeign, hmany⟩ := lookupOf_eq_some hgroup
  exact ⟨rel, hrel, hname, htarget, hlocal, hforeign, hmany⟩

end Plan

end Enfyra.QueryBuilderService
