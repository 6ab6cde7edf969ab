import Mathlib.Data.List.Basic

/-!
The JavaScript values that the query engine passes between its hooks, services and
backends: records (plain objects), arrays, the scalar kinds the metadata talks about,
native `ObjectId`s, `knex.raw` expressions and promises. A record is an association list
in insertion order, with the three operations the TypeScript code performs on it:
property assignment, `delete` and the `in` test. Spreading (`{ ...v }`) copies the own
enumerable properties, so a promise or a raw expression spreads to no property at all.

`undefined` is not a value here: a missing property reads as `none`. Numbers are
integers; floating point and `NaN` are not modelled.
-/

namespace Enfyra

/-- The errors the modelled code can raise, each with the data its message names. -/
inductive Err where
  /-- `TypeError: Cannot read properties of null (reading property)`. -/
  | readOfNull (property : String)
  /-- `TypeError` from destructuring `null` with a rest pattern. -/
  | destructureNull
  /-- `TypeError: value.method is not a function` (for example `.map` on a non-array). -/
  | notAFunction (method : String)
  /-- `RangeError: Invalid time value` from `Date.prototype.toISOString`. -/
  | invalidTimeValue
  /-- The `BSONError` of `new ObjectId(input)` on a string that is not an object id. -/
  | invalidObjectId (input : String)
  /-- A failure of a backend statement, passed through with its native message. -/
  | backend (message : String)
  /-- The `GraphQLError` of `throwGqlError(code, message)`. -/
  | graphql (code message : String)
  deriving DecidableEq, Repr

inductive Value where
  | null
  | bool (b : Bool)
  | num (n : Int)
  | str (s : String)
  /-- A native document identity, held by its hexadecimal text. -/
  | oid (hex : String)
  /-- A `knex.raw` expression such as `CURRENT_TIMESTAMP`. -/
  | raw (sql : String)
  /-- A promise that nothing awaited, fulfilled with `result`. -/
  | promise (result : Value)
  /-- A promise that nothing awaited, rejected with `reason`. -/
  | rejected (reason : Err)
  | arr (items : List Value)
  | obj (fields : List (String × Value))
  deriving Repr, Inhabited

namespace Value

mutual
/-- Structural equality, computed so that `decide` runs on concrete values. -/
def beq : Value → Value → Bool
  | .null, .null => true
  | .bool a, .bool b => a == b
  | .num a, .num b => a == b
  | .str a, .str b => a == b
  | .oid a, .oid b => a == b
  | .raw a, .raw b => a == b
  | .promise a, .promise b => beq a b
  | .rejected a, .rejected b => a == b
  | .arr xs, .arr ys => beqItems xs ys
  | .obj xs, .obj ys => beqFields xs ys
  | _, _ => false
def beqItems : List Value → List Value → Bool
  | [], [] => true
  | x :: xs, y :: ys => beq x y && beqItems xs ys
  | _, _ => false
def beqFields : List (String × Value) → List (String × Value) → Bool
  | [], [] => true
  | (k, x) :: xs, (k', y) :: ys => k == k' && beq x y && beqFields xs ys
  | _, _ => false
end

mutual
theorem eq_of_beq : ∀ {a b : Value}, beq a b = true → a = b
  | .null, .null, _ => rfl
  | .bool _, .bool _, h => congrArg bool (beq_iff_eq.mp h)
  | .num _, .num _, h => congrArg num (beq_iff_eq.mp h)
  | .str _, .str _, h => congrArg str (beq_iff_eq.mp h)
  | .oid _, .oid _, h => congrArg oid (beq_iff_eq.mp h)
  | .raw _, .raw _, h => congrArg raw (beq_iff_eq.mp h)
  | .promise _, .promise _, h => congrArg promise (eq_of_beq h)
  | .rejected _, .rejected _, h => congrArg rejected (beq_iff_eq.mp h)
  | .arr _, .arr _, h => congrArg arr (eq_of_beqItems h)
  | .obj _, .obj _, h => congrArg obj (eq_of_beqFields h)
theorem eq_of_beqItems : ∀ {xs ys : List Value}, beqItems xs ys = true → xs = ys
  | [], [], _ => rfl
  | _ :: _, _ :: _, h => by
      obtain ⟨hx, hxs⟩ := Bool.and_eq_true_iff.mp h
      rw [eq_of_beq hx, eq_of_beqItems hxs]
theorem eq_of_beqFields :
    ∀ {xs ys : List (String × Value)}, beqFields xs ys = true → xs = ys
  | [], [], _ => rfl
  | (_, _) :: _, (_, _) :: _, h => by
      obtain ⟨⟨hk, hx⟩, hxs⟩ :=
        (Bool.and_eq_true_iff.mp h).imp_left Bool.and_eq_true_iff.mp
      rw [beq_iff_eq.mp hk, eq_of_beq hx, eq_of_beqFields hxs]
end

mutual
theorem beq_self : ∀ a : Value, beq a a = true
  | .null => rfl
  | .bool b => beq_iff_eq.mpr (rfl : b = b)
  | .num n => beq_iff_eq.mpr (rfl : n = n)
  | .str s => beq_iff_eq.mpr (rfl : s = s)
  | .oid s => beq_iff_eq.mpr (rfl : s = s)
  | .raw s => beq_iff_eq.mpr (rfl : s = s)
  | .promise a => beq_self a
  | .rejected e => beq_iff_eq.mpr (rfl : e = e)
  | .arr xs => beqItems_self xs
  | .obj xs => beqFields_self xs
theorem beqItems_self : ∀ xs : List Value, beqItems xs xs = true
  | [] => rfl
  | x :: xs => Bool.and_eq_true_iff.mpr ⟨beq_self x, beqItems_self xs⟩
theorem beqFields_self : ∀ xs : List (String × Value), beqFields xs xs = true
  | [] => rfl
  | (k, x) :: xs => Bool.and_eq_true_iff.mpr
      ⟨Bool.and_eq_true_iff.mpr ⟨beq_iff_eq.mpr (rfl : k = k), beq_self x⟩,
        beqFields_self xs⟩
end

instance : DecidableEq Value := fun a b =>
  if h : beq a b then isTrue (eq_of_beq h) else isFalse (fun e => h (e ▸ beq_self a))

/-- JavaScript truthiness (`if (v)`, `v || w`, `!v`). -/
def truthy : Value → Bool
  | .null => false
  | .bool b => b
  | .num n => n != 0
  | .str s => s != ""
  | _ => true

/-- `typeof v === 'object'`, which holds for `null` too. -/
def isObject : Value → Bool
  | .bool _ | .num _ | .str _ => false
  | _ => true

/-- `Array.isArray(v)`. -/
def isArray : Value → Bool
  | .arr _ => true
  | _ => false

end Value

/-- A plain object: its own enumerable properties in insertion order. -/
abbrev Record := List (String × Value)

/-- JavaScript's white space and line terminators, which `trim` and `parseInt` skip. -/
def isJsSpace (c : Char) : Bool :=
  c = '\t' || c = '\n' || c = '\x0B' || c = '\x0C' || c = '\r' || c = ' ' || c = '\u00A0' ||
    c = '\u1680' || (decide ('\u2000' ≤ c) && decide (c ≤ '\u200A')) || c = '\u2028' ||
    c = '\u2029' || c = '\u202F' || c = '\u205F' || c = '\u3000' || c = '\uFEFF'

/-- `s.trim()`. -/
def jsTrim (s : String) : String :=
  ⟨((s.toList.dropWhile isJsSpace).reverse.dropWhile isJsSpace).reverse⟩

/-- `s.split(separator)` on a one-character separator. -/
def jsSplit (s : String) (separator : Char) : List String :=
  (s.toList.splitOn separator).map String.mk

namespace Record

/-- Property read `r[key]`; `none` is `undefined`. -/
def get? : Record → String → Option Value
  | [], _ => none
  | (k, v) :: r, key => if k = key then some v else get? r key

/-- `key in r`. -/
def has (r : Record) (key : String) : Bool := (r.get? key).isSome

/-- `r[key] = value`: an existing property keeps its place, a new one goes last. -/
def set : Record → String → Value → Record
  | [], key, value => [(key, value)]
  | (k, v) :: r, key, value =>
      if k = key then (key, value) :: r else (k, v) :: set r key value

/-- `delete r[key]`. -/
def erase (r : Record) (key : String) : Record := r.filter (fun p => p.1 != key)

@[simp] theorem get?_nil (key : String) : get? [] key = none := rfl

theorem get?_cons (k key : String) (v : Value) (r : Record) :
    get? ((k, v) :: r) key = if k = key then some v else get? r key := rfl

@[simp] theorem get?_set_self (r : Record) (key : String) (value : Value) :
    (r.set key value).get? key = some value := by
  induction r with
  | nil => simp [set, get?]
  | cons p r ih =>
      obtain ⟨k, v⟩ := p
      by_cases hk : k = key <;> simp [set, get?, hk, ih]

@[simp] theorem get?_set_ne (r : Record) {key other : String} (value : Value)
    (h : other ≠ key) : (r.set key value).get? other = r.get? other := by
  induction r with
  | nil => simp [set, get?, Ne.symm h]
  | cons p r ih =>
      obtain ⟨k, v⟩ := p
      by_cases hk : k = key
      · subst hk; simp [set, get?, Ne.symm h]
      · simp [set, get?, hk, ih]

@[simp] theorem get?_erase_self (r : Record) (key : String) :
    (r.erase key).get? key = none := by
  induction r with
  | nil => rfl
  | cons p r ih =>
      obtain ⟨k, v⟩ := p
      by_cases hk : k = key <;> simp_all [erase, get?]

@[simp] theorem get?_erase_ne (r : Record) {key other : String} (h : other ≠ key) :
    (r.erase key).get? other = r.get? other := by
  induction r with
  | nil => rfl
  | cons p r ih =>
      obtain ⟨k, v⟩ := p
      by_cases hk : k = key
      · subst hk; simp_all [erase, get?, Ne.symm h]
      · by_cases ho : k = other <;> simp_all [erase, get?]

theorem get?_filter (r : Record) (p : String → Bool) (key : String) :
    Record.get? (r.filter (fun q => p q.1)) key = if p key then r.get? key else none := by
  induction r with
  | nil => simp
  | cons q r ih =>
      obtain ⟨k, v⟩ := q
      by_cases hk : k = key
      · subst hk; by_cases hp : p k <;> simp [get?, hp, List.filter_cons, ih]
      · by_cases hp : p k <;> simp [get?, hk, hp, List.filter_cons, ih]

/-- Keeping the properties named in a list (`stripUnknownColumns`). -/
@[simp] theorem get?_filter_mem (r : Record) (keys : List String) (key : String) :
    Record.get? (r.filter (fun q => decide (q.1 ∈ keys))) key =
      if key ∈ keys then r.get? key else none := by
  simpa using get?_filter r (fun k => decide (k ∈ keys)) key

/-- Dropping the properties named in a list (the timestamp handlers). -/
@[simp] theorem get?_filter_not_mem (r : Record) (keys : List String) (key : String) :
    Record.get? (r.filter (fun q => !decide (q.1 ∈ keys))) key =
      if key ∈ keys then none else r.get? key := by
  simpa [ite_not] using get?_filter r (fun k => !decide (k ∈ keys)) key

theorem set_of_not_mem : ∀ {r : Record} {key : String}, key ∉ r.map Prod.fst →
    ∀ value, Record.set r key value = r ++ [(key, value)]
  | [], _, _, _ => rfl
  | (k, v) :: r, key, h, value => by
      simp only [List.map_cons, List.mem_cons, not_or] at h
      simp only [set, Ne.symm h.1, if_false, List.cons_append, set_of_not_mem h.2 value]

theorem get?_append (r s : Record) (key : String) :
    (r ++ s).get? key = (r.get? key).or (s.get? key) := by
  induction r with
  | nil => rfl
  | cons p r ih =>
      obtain ⟨k, v⟩ := p
      by_cases hk : k = key <;> simp [get?, hk, ih]

theorem has_iff (r : Record) (key : String) : r.has key = true ↔ ∃ v, r.get? key = some v :=
  Option.isSome_iff_exists

end Record

namespace Value

/-- The properties `{ ...v }` copies: an object's own properties, an array's or a string's
indices; a promise, a raw expression or a primitive has none. -/
def spread : Value → Record
  | .obj fs => fs
  | .arr xs => (List.range xs.length).zip xs |>.map (fun p => (toString p.1, p.2))
  | .str s => (List.range s.length).zip s.toList |>.map
      (fun p => (toString p.1, .str (String.singleton p.2)))
  | _ => []

/-- Property read `v.property`: it throws on `null`, and only an object has own
properties to read. -/
def member : Value → String → Except Err (Option Value)
  | .null, property => .error (.readOfNull property)
  | .obj fs, property => .ok (Record.get? fs property)
  | _, _ => .ok none

/-- The promise an `async` function returns for a body that ended with `r`: a returned
promise is adopted and a throw rejects it. -/
def ofAsync : Except Err Value → Value
  | .ok (.promise v) => .promise v
  | .ok (.rejected e) => .rejected e
  | .ok v => .promise v
  | .error e => .rejected e

/-- `await v`: a promise gives what it settled to, any other value is itself. -/
def await : Value → Except Err Value
  | .promise v => .ok v
  | .rejected e => .error e
  | v => .ok v

@[simp] theorem spread_obj (fs : Record) : spread (.obj fs) = fs := rfl
@[simp] theorem spread_promise (v : Value) : spread (.promise v) = [] := rfl
@[simp] theorem member_obj (fs : Record) (property : String) :
    member (.obj fs) property = .ok (fs.get? property) := rfl
@[simp] theorem await_obj (fs : Record) : await (.obj fs) = .ok (.obj fs) := rfl
@[simp] theorem await_arr (xs : List Value) : await (.arr xs) = .ok (.arr xs) := rfl
@[simp] theorem await_promise (v : Value) : await (.promise v) = .ok v := rfl

end Value

@[simp] theorem Except.ok_bind {ε α β : Type} (a : α) (f : α → Except ε β) :
    (Except.ok a >>= f) = f a := rfl

/-- A computation that succeeded succeeded at its first step, and then at the rest. -/
theorem Except.bind_eq_ok {ε α β : Type} {x : Except ε α} {f : α → Except ε β} {b : β}
    (h : x >>= f = .ok b) : ∃ a, x = .ok a ∧ f a = .ok b := by
  cases x with
  | error e => cases h
  | ok a => exact ⟨a, rfl, h⟩

end Enfyra
