import Enfyra.Value

/-!
The options of a select request in the `queryEngine` style, as `sqlExecutor` and
`mongoExecutor` read them: `fields` and `sort` as a comma-separated string or an array of
strings, and `page` and `limit` as numbers or as the strings of a query string, which
`parseInt` reads. Both executors turn `page` and `limit` into an offset and a limit in the
same words: with a truthy `page` and a truthy `limit`, the offset is `(page - 1) * limit`;
with a truthy `limit` alone, there is a limit and no offset. The query then skips the
offset when it is truthy and keeps the limit when it is above 0.

The result: with a page `p ≥ 1` and a limit `l ≥ 0`, numbers or strings `parseInt` reads as
them, a query keeps the rows at positions `(p - 1) * l` to `p * l - 1` of the rows it keeps
with no `page` and no `limit` when `l ≥ 1`, and all of them when `l = 0`. A negative
offset, which knex and MongoDB reject, is read as no offset.
-/

namespace Enfyra.QueryBuilderService

/-- The value of a run of decimal digits. -/
def digitsValue (digits : List Char) : Nat :=
  digits.foldl (fun n d => 10 * n + (d.toNat - '0'.toNat)) 0

/-- `parseInt(s, 10)`: white space skipped, then a sign, then the longest run of digits;
`none` is `NaN`, when there is no digit. -/
def parseInt (s : String) : Option Int :=
  let (negative, rest) : Bool × List Char := match s.toList.dropWhile isJsSpace with
    | '-' :: rest => (true, rest)
    | '+' :: rest => (false, rest)
    | rest => (false, rest)
  let digits := rest.takeWhile Char.isDigit
  if digits.isEmpty then none
  else some (if negative then -(digitsValue digits : Int) else digitsValue digits)

/-- A `page` or `limit` option: a number, or the string of a query string. -/
inductive NumberArg where
  | num (n : Int)
  | str (s : String)
  deriving DecidableEq, Repr

instance (n : Nat) : OfNat NumberArg n := ⟨.num n⟩

/-- The option in a JavaScript condition. -/
def NumberArg.truthy : NumberArg → Bool
  | .num n => n != 0
  | .str s => s != ""

/-- `typeof v === 'string' ? parseInt(v, 10) : v`; `none` is `NaN`. -/
def NumberArg.toInt : NumberArg → Option Int
  | .num n => some n
  | .str s => parseInt s

/-- A `fields` or `sort` option: a comma-separated string, or an array of strings. -/
inductive ListArg where
  | text (s : String)
  | items (values : List String)
  deriving DecidableEq, Repr

/-- `queryOptions.fields`: an array as it is, a string split at commas and trimmed, an empty
string not at all. -/
def fieldsOf : Option ListArg → Option (List String)
  | some (.items fields) => some fields
  | some (.text s) => if s = "" then none else some ((jsSplit s ',').map jsTrim)
  | none => none

inductive SortDirection where
  | asc
  | desc
  deriving DecidableEq, Repr

structure SortOption where
  field : String
  direction : SortDirection
  deriving DecidableEq, Repr

/-- One entry of `sortArray.map(...)`: a leading `-` sorts descending. -/
def sortOptionOf (s : String) : SortOption :=
  let trimmed := jsTrim s
  match trimmed.toList with
  | '-' :: rest => ⟨String.mk rest, .desc⟩
  | _ => ⟨trimmed, .asc⟩

/-- `queryOptions.sort`: an array entry by entry, a string split at commas and trimmed. -/
def sortOf : Option ListArg → Option (List SortOption)
  | some (.items items) => some (items.map sortOptionOf)
  | some (.text s) => if s = "" then none else some ((jsSplit s ',').map (sortOptionOf ∘ jsTrim))
  | none => none

/-- `if (options.page && options.limit) { offset = (page - 1) * limit; limit = limit }
else if (options.limit) { limit = limit }`: the offset and the limit of the query options,
`none` when unset or `NaN`. -/
def pagination (page limit : Option NumberArg) : Option Int × Option Int :=
  if page.any NumberArg.truthy && limit.any NumberArg.truthy then
    ((page.bind NumberArg.toInt).bind fun p => (limit.bind NumberArg.toInt).map fun l => (p - 1) * l,
      limit.bind NumberArg.toInt)
  else if limit.any NumberArg.truthy then (none, limit.bind NumberArg.toInt)
  else (none, none)

/-- `if (offset) skip(offset)` and `if (limit > 0) limit(limit)`, on the rows the query
returns in order. -/
def window {α : Type} (offset limit : Option Int) (rows : List α) : List α :=
  let skipped := match offset with
    | some n => if n ≠ 0 then rows.drop n.toNat else rows
    | none => rows
  match limit with
  | some l => if 0 < l then skipped.take l.toNat else skipped
  | none => skipped

/-! ### The page a request keeps -/

@[simp] theorem window_none_none {α : Type} (rows : List α) : window none none rows = rows := rfl

theorem window_map {α β : Type} (f : α → β) (offset limit : Option Int) (rows : List α) :
    window offset limit (rows.map f) = (window offset limit rows).map f := by
  unfold window
  cases offset <;> cases limit <;> simp only <;> split_ifs <;>
    simp [List.map_drop, List.map_take]

/-- A query keeps some of its rows, in their order. -/
theorem window_sublist {α : Type} (offset limit : Option Int) (rows : List α) :
    (window offset limit rows).Sublist rows := by
  unfold window
  cases offset <;> cases limit <;> dsimp only <;> (try split_ifs) <;>
    first
    | exact List.Sublist.refl _
    | exact List.drop_sublist _ _
    | exact List.take_sublist _ _
    | exact (List.take_sublist _ _).trans (List.drop_sublist _ _)

theorem parseInt_ne_empty {s : String} {n : Int} (h : parseInt s = some n) : s ≠ "" := by
  rintro rfl
  cases h

theorem NumberArg.truthy_of_toInt {arg : NumberArg} {n : Int} (h : arg.toInt = some n)
    (hn : n ≠ 0) : arg.truthy = true := by
  cases arg with
  | num m => cases h; simpa [NumberArg.truthy] using hn
  | str s => simpa [NumberArg.truthy] using parseInt_ne_empty h

theorem NumberArg.toInt_eq_zero_of_falsy {arg : NumberArg} {n : Int} (h : arg.toInt = some n)
    (hfalse : arg.truthy = false) : n = 0 := by
  cases arg with
  | num m => cases h; simpa [NumberArg.truthy] using hfalse
  | str s => simp [NumberArg.truthy, parseInt_ne_empty h] at hfalse

/-- A page `p ≥ 1` and a limit `l ≥ 0`: the rows at positions `(p - 1) * l` to `p * l - 1`
when `l ≥ 1`, and all rows when `l = 0`. -/
theorem window_pagination {α : Type} {page limit : NumberArg} {p l : Int}
    (hp : page.toInt = some p) (hl : limit.toInt = some l) (hp1 : 1 ≤ p) (hl0 : 0 ≤ l)
    (rows : List α) :
    window (pagination (some page) (some limit)).1 (pagination (some page) (some limit)).2 rows =
      if 1 ≤ l then (rows.drop ((p - 1) * l).toNat).take l.toNat else rows := by
  have hpage : page.truthy = true := page.truthy_of_toInt hp (by omega)
  cases hlimit : limit.truthy with
  | false =>
      have hzero := limit.toInt_eq_zero_of_falsy hl hlimit
      simp [pagination, hlimit, hzero]
  | true =>
      simp only [pagination, Option.any_some, hpage, hlimit, Bool.and_self, if_true,
        Option.some_bind, hp, hl, Option.map_some', window]
      by_cases hl1 : 1 ≤ l
      · have hpos : 0 < l := by omega
        by_cases hoffset : (p - 1) * l = 0 <;> simp [hl1, hpos, hoffset]
      · have hzero : l = 0 := by omega
        simp [hl1, hzero]

/-- With no `limit` a query keeps every row, whatever its `page`. -/
theorem window_pagination_none {α : Type} (page : Option NumberArg) (rows : List α) :
    window (pagination page none).1 (pagination page none).2 rows = rows := by
  simp [pagination]

end Enfyra.QueryBuilderService
