import Mathlib.Data.List.Nodup
import Enfyra.Value

/-!
The column names of a query through a wrapped knex builder (`KnexService.wrapQueryBuilder`).
`relations(names)` joins the relations (through `applyRelations`, which is not in the
sources) and records the first segment of each name as joined; `select(...fields)` rewrites
a field whose first segment is a joined relation to `relation.column as relation_column`,
and passes every other field on as it is. A row of the result names each column by its
alias, or by the field's last segment.

The aliases need not be distinct from each other or from the other columns: a root column
`author_id` beside `author.id`, relations `a` and `a_b` with fields `a.b_c` and `a_b.c`, and
fields `a.b.c` and `a.b.d` of one relation each give one name twice. They are distinct
when the fields are, no joined relation's name holds an underscore, a field of a joined
relation has two segments, and the other fields' column names are distinct and begin with
no `relation_` prefix.
-/

namespace Enfyra.KnexService

/-- `qb.relations(relationNames)`: each name's first segment joins `_joinedRelations`, a set
kept in insertion order. -/
def relations (joinedRelations relationNames : List String) : List String :=
  relationNames.foldl (fun joined name =>
    let relationName := (jsSplit name '.').headD ""
    if relationName ∈ joined then joined else joined ++ [relationName]) joinedRelations

/-- A column `select` passes to knex. -/
inductive SelectColumn where
  /-- A field passed on as it is. -/
  | field (field : String)
  /-- `${relationName}.${columnName} as ${relationName}_${columnName}`. -/
  | aliased (relationName columnName : String)
  deriving DecidableEq, Repr

/-- The text knex receives. -/
def SelectColumn.text : SelectColumn → String
  | .field f => f
  | .aliased r c => r ++ "." ++ c ++ " as " ++ r ++ "_" ++ c

/-- The name a row of the result gives the column: the alias, or the field's last segment. -/
def SelectColumn.outputName : SelectColumn → String
  | .field f => (jsSplit f '.').getLastD f
  | .aliased r c => r ++ "_" ++ c

/-- One field of the wrapped `select`. -/
def selectColumn (joinedRelations : List String) (field : String) : SelectColumn :=
  match jsSplit field '.' with
  | relationName :: columnName :: _ =>
      if relationName ∈ joinedRelations then .aliased relationName columnName else .field field
  | _ => .field field

/-- The wrapped `qb.select(...fields)` on string fields. -/
def select (joinedRelations fields : List String) : List SelectColumn :=
  fields.map (selectColumn joinedRelations)

/-- The names the rows of a wrapped query give its columns. -/
def outputNames (joinedRelations fields : List String) : List String :=
  (select joinedRelations fields).map SelectColumn.outputName

/-- Three ways two distinct fields get one name: a root column `author_id` beside the joined
`author.id`; the joined relations `a` and `a_b` with `a.b_c` and `a_b.c`; and `a.b.c` beside
`a.b.d`, which are both selected as `a.b as a_b`. -/
theorem outputNames_collide :
    outputNames (relations [] ["author"]) ["author_id", "author.id"] = ["author_id", "author_id"] ∧
      outputNames (relations [] ["a", "a_b"]) ["a.b_c", "a_b.c"] = ["a_b_c", "a_b_c"] ∧
      (select (relations [] ["a"]) ["a.b.c", "a.b.d"]).map SelectColumn.text =
        ["a.b as a_b", "a.b as a_b"] := by
  decide

/-! ### When the names are distinct -/

theorem selectColumn_cases (joinedRelations : List String) (field : String) :
    selectColumn joinedRelations field = .field field ∨ ∃ relationName columnName rest,
      jsSplit field '.' = relationName :: columnName :: rest ∧
        relationName ∈ joinedRelations ∧ selectColumn joinedRelations field = .aliased relationName columnName := by
  unfold selectColumn
  split
  · rename_i relationName columnName rest hsplit
    split_ifs with hjoined
    · exact .inr ⟨relationName, columnName, rest, hsplit, hjoined, rfl⟩
    · exact .inl rfl
  · exact .inl rfl

/-- A field is the segments of its split, joined again. -/
theorem jsSplit_injective {s t : String} (separator : Char)
    (h : jsSplit s separator = jsSplit t separator) : s = t := by
  have hjoin : ∀ u : String, [separator].intercalate ((jsSplit u separator).map String.toList) =
      u.toList := fun u => by
    simp [jsSplit, Function.comp_def, List.intercalate_splitOn]
  have hs := hjoin s
  rw [h, hjoin t] at hs
  exact String.ext hs.symm

/-- The part before the first `a` of a list that holds `a`. -/
theorem append_cons_inj_of_not_mem_left {a : Char} :
    ∀ {x₁ x₂ z₁ z₂ : List Char}, a ∉ x₁ → a ∉ x₂ →
      x₁ ++ a :: z₁ = x₂ ++ a :: z₂ → x₁ = x₂ ∧ z₁ = z₂
  | [], [], _, _, _, _, h => ⟨rfl, List.cons.inj h |>.2⟩
  | [], b :: _, _, _, _, h₂, h => absurd (List.mem_cons_self _ _) (List.cons.inj h |>.1 ▸ h₂)
  | b :: _, [], _, _, h₁, _, h => absurd (List.mem_cons_self _ _) ((List.cons.inj h).1 ▸ h₁)
  | b :: x₁, c :: x₂, _, _, h₁, h₂, h => by
      simp only [List.cons_append, List.cons.injEq] at h
      obtain ⟨rfl, htail⟩ := h
      obtain ⟨rfl, rfl⟩ := append_cons_inj_of_not_mem_left (List.not_mem_of_not_mem_cons h₁)
        (List.not_mem_of_not_mem_cons h₂) htail
      exact ⟨rfl, rfl⟩

/-- An alias gives back its relation and its column when the relation's name holds no
underscore. -/
theorem alias_inj {r c r' c' : String} (hr : '_' ∉ r.toList) (hr' : '_' ∉ r'.toList)
    (h : r ++ "_" ++ c = r' ++ "_" ++ c') : r = r' ∧ c = c' := by
  have hlist : r.toList ++ '_' :: c.toList = r'.toList ++ '_' :: c'.toList := by
    simpa using congrArg String.toList h
  obtain ⟨hr₁, hc₁⟩ := append_cons_inj_of_not_mem_left hr hr' hlist
  exact ⟨String.ext hr₁, String.ext hc₁⟩

/-- The names of a wrapped query's columns are distinct when the fields are, no joined
relation's name holds an underscore, a field of a joined relation has two segments, and the
other fields' names are distinct and of no form `relation_column` for a joined relation. -/
theorem outputNames_nodup {joinedRelations fields : List String} (hnodup : fields.Nodup)
    (hunderscore : ∀ r ∈ joinedRelations, '_' ∉ r.toList)
    (htwo : ∀ field ∈ fields, ∀ r c rest, jsSplit field '.' = r :: c :: rest →
      r ∈ joinedRelations → rest = [])
    (hplain : ∀ f ∈ fields, ∀ g ∈ fields, selectColumn joinedRelations f = .field f →
      selectColumn joinedRelations g = .field g →
      (SelectColumn.field f).outputName = (SelectColumn.field g).outputName → f = g)
    (hnotAlias : ∀ f ∈ fields, selectColumn joinedRelations f = .field f →
      ∀ r ∈ joinedRelations, ∀ c, (SelectColumn.field f).outputName ≠ r ++ "_" ++ c) :
    (outputNames joinedRelations fields).Nodup := by
  unfold outputNames select
  rw [List.map_map]
  refine hnodup.map_on fun f hf g hg hname => ?_
  simp only [Function.comp] at hname
  rcases selectColumn_cases joinedRelations f with hfc | ⟨r, c, rest, hsplit, hr, hfc⟩ <;>
    rcases selectColumn_cases joinedRelations g with
      hgc | ⟨r', c', rest', hsplit', hr', hgc⟩ <;>
    rw [hfc, hgc] at hname
  · exact hplain f hf g hg hfc hgc hname
  · exact absurd hname (hnotAlias f hf hfc r' hr' c')
  · exact absurd hname.symm (hnotAlias g hg hgc r hr c)
  · obtain ⟨rfl, rfl⟩ := alias_inj (hunderscore r hr) (hunderscore r' hr') hname
    apply jsSplit_injective '.'
    rw [hsplit, hsplit', htwo f hf _ _ _ hsplit hr, htwo g hg _ _ _ hsplit' hr']

end Enfyra.KnexService
