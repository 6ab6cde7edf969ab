import Enfyra.Query.Options

/-!
The pagination and the counts of `QueryBuilderService.sqlExecutor`. The `WHERE` it builds
from the request's filter comes from `buildWhereClause` and `applyRelationFilters`, which
are not in the sources: it is a parameter, the rows it selects. So is the order `ORDER BY`
gives them: under a sort order that is total on the request's columns, the database's order
is a function of the rows. A request here selects root columns only, so there is no join;
`meta` is given as its parts.

`filterCount` is read from `COUNT(*) OVER()` on the first returned row, which the database
computes before `OFFSET` and `LIMIT`; with no returned row it falls back to 0. The results:
on a page that returns a row, `filterCount` is the number of rows the request selects
without `page` and `limit`; on a page past the last row it is 0. And a page `p ≥ 1` with a
limit `l ≥ 1` returns the rows at positions `(p - 1) * l` to `p * l - 1` of what the request
returns without `page` and `limit`, and a limit of 0, or none, returns all of it.
-/

namespace Enfyra.QueryBuilderService

/-- The options of `sqlExecutor` that decide the counts. -/
structure SelectRequest where
  page : Option NumberArg := none
  limit : Option NumberArg := none
  meta : List String := []
  deriving DecidableEq, Repr

/-- What `sqlExecutor` resolves to: `data`, and `meta` when any part was asked for. -/
structure SelectResult where
  data : List Record
  meta : Option Record
  deriving Repr

/-- `Number(results[0].__filter_count__ || 0)`. -/
def readFilterCount : List Record → Int
  | first :: _ => match first.get? "__filter_count__" with
    | some (.num n) => n
    | _ => 0
  | [] => 0

section Executor

variable (selectsRow : Record → Bool) (order : List Record → List Record)

/-- `sqlExecutor` on a table's rows. -/
def sqlExecutor (rows : List Record) (request : SelectRequest) : SelectResult :=
  let metaParts := request.meta
  let needsFilterCount := metaParts.contains "filterCount" || metaParts.contains "*"
  let needsTotalCount := metaParts.contains "totalCount" || metaParts.contains "*"
  let selected := order (rows.filter selectsRow)
  let withCount := if needsFilterCount then
      selected.map fun row => row.set "__filter_count__" (.num selected.length)
    else selected
  let (offset, limit) := pagination request.page request.limit
  let results := window offset limit withCount
  let totalCount : Int := if needsTotalCount then rows.length else 0
  let filterCount : Int := if needsFilterCount && results ≠ [] then readFilterCount results else 0
  { data := if needsFilterCount && results ≠ [] then results.map (·.erase "__filter_count__")
      else results
    meta := if metaParts ≠ [] then
      some ((if needsTotalCount then [("totalCount", .num totalCount)] else []) ++
        (if needsFilterCount then [("filterCount", .num filterCount)] else []))
      else none }

/-- The `filterCount` a result reports. -/
def filterCountOf (result : SelectResult) : Option Value :=
  result.meta.bind fun meta => meta.get? "filterCount"

theorem readFilterCount_stamped (n : Int) (rows : List Record) :
    readFilterCount (rows.map fun row => row.set "__filter_count__" (.num n)) =
      if rows = [] then 0 else n := by
  cases rows <;> simp [readFilterCount]

/-- Asked for, `filterCount` is the number of rows the same request returns without `page`
and `limit` when its own page returns a row, and 0 when the page is empty. -/
theorem filterCount_eq (rows : List Record) (request : SelectRequest)
    (hmeta : "filterCount" ∈ request.meta) :
    filterCountOf (sqlExecutor selectsRow order rows request) =
      some (.num (if (sqlExecutor selectsRow order rows request).data = [] then 0
        else (sqlExecutor selectsRow order rows
          { request with page := none, limit := none }).data.length)) := by
  have hneeds : (request.meta.contains "filterCount" || request.meta.contains "*") = true := by
    simp [hmeta]
  have hunpaged : pagination none none = (none, none) := rfl
  simp only [sqlExecutor, hneeds, if_true, filterCountOf, if_pos (List.ne_nil_of_mem hmeta),
    Option.bind_some, hunpaged, window_map, readFilterCount_stamped, window_none_none]
  generalize order (rows.filter selectsRow) = selected
  generalize window (pagination request.page request.limit).1
    (pagination request.page request.limit).2 selected = page
  by_cases hpage : page = [] <;> split <;> simp [hpage, Record.get?_cons, apply_ite List.length]

theorem map_of_ne_nil (f : Record → Record) (xs : List Record) :
    (if decide (xs ≠ []) = true then xs.map f else xs) = xs.map f := by
  cases xs <;> rfl

/-- The data of a request are the window its `page` and `limit` give over the data of the
same request without them. -/
theorem sqlExecutor_data (rows : List Record) (request : SelectRequest) :
    (sqlExecutor selectsRow order rows request).data =
      window (pagination request.page request.limit).1 (pagination request.page request.limit).2
        (sqlExecutor selectsRow order rows { request with page := none, limit := none }).data := by
  simp only [sqlExecutor]
  by_cases hneeds : (request.meta.contains "filterCount" || request.meta.contains "*") = true
  · simp only [hneeds, Bool.true_and, if_true]
    rw [show (pagination none none).1 = none from rfl, show (pagination none none).2 = none from rfl,
      window_none_none, map_of_ne_nil, map_of_ne_nil]
    simp only [window_map]
  · simp only [hneeds, Bool.false_and, Bool.false_eq_true, if_false]
    rfl

/-- A page `p ≥ 1` with a limit `l ≥ 0`, numbers or strings `parseInt` reads as them: with
`l ≥ 1` the data are the rows at positions `(p - 1) * l` to `p * l - 1` of the data of the
request without `page` and `limit`, and with `l = 0` all of them. -/
theorem sqlExecutor_page (rows : List Record) (request : SelectRequest) {page limit : NumberArg}
    {p l : Int} (hpage : request.page = some page) (hlimit : request.limit = some limit)
    (hp : page.toInt = some p) (hl : limit.toInt = some l) (hp1 : 1 ≤ p) (hl0 : 0 ≤ l) :
    (sqlExecutor selectsRow order rows request).data =
      if 1 ≤ l then
        (((sqlExecutor selectsRow order rows { request with page := none, limit := none }).data.drop
          ((p - 1) * l).toNat).take l.toNat)
      else (sqlExecutor selectsRow order rows { request with page := none, limit := none }).data := by
  rw [sqlExecutor_data, hpage, hlimit, window_pagination hp hl hp1 hl0]

/-- With no `limit`, the data are those of the request without `page` and `limit`. -/
theorem sqlExecutor_no_limit (rows : List Record) (request : SelectRequest)
    (hlimit : request.limit = none) :
    (sqlExecutor selectsRow order rows request).data =
      (sqlExecutor selectsRow order rows { request with page := none, limit := none }).data := by
  rw [sqlExecutor_data, hlimit, window_pagination_none]

end Executor

/-- Twelve rows with ids 1 to 12. -/
def twelveRows : List Record := (List.range 12).map fun i => [("id", .num (i + 1))]

/-- `page=4&limit=5&meta=filterCount` over twelve selected rows: the page lies past the last
row, and `filterCount` is 0 where the request without `page` and `limit` returns 12 rows. -/
theorem filterCount_past_last_page :
    filterCountOf (sqlExecutor (fun _ => true) id twelveRows
        { page := some 4, limit := some 5, meta := ["filterCount"] }) = some (.num 0) ∧
      (sqlExecutor (fun _ => true) id twelveRows { meta := ["filterCount"] }).data.length = 12 :=
  ⟨rfl, rfl⟩

end Enfyra.QueryBuilderService
