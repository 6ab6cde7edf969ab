import Enfyra.Value

/-!
The SQL database as the services see it through knex: every table is a list of rows,
and an `Action` is a step that may fail. A statement that runs outside a transaction is
flushed when it completes, so the state an action reaches is kept when a later step
throws: `Action` threads the database through a failure instead of discarding it.
Each single statement is atomic: a failing statement changes nothing.
-/

namespace Enfyra

/-- The rows of every table. -/
structure Db where
  rows : String → List Record

/-- A step of a service against the database. Writes stay when the step fails. -/
structure Action (α : Type) where
  run : Db → Except Err α × Db

namespace Action

protected def pure (a : α) : Action α := ⟨fun db => (.ok a, db)⟩

protected def bind (x : Action α) (f : α → Action β) : Action β :=
  ⟨fun db => match x.run db with
    | (.ok a, db') => (f a).run db'
    | (.error e, db') => (.error e, db')⟩

instance : Monad Action where
  pure := Action.pure
  bind := Action.bind

instance : MonadExceptOf Err Action where
  throw e := ⟨fun db => (.error e, db)⟩
  tryCatch x handler := ⟨fun db => match x.run db with
    | (.error e, db') => (handler e).run db'
    | r => r⟩

/-- A pure computation that may throw, run as a step that writes nothing. -/
def ofExcept : Except Err α → Action α
  | .ok a => pure a
  | .error e => throw e

/-- A write of one statement. -/
def modify (f : Db → Db) : Action Unit := ⟨fun db => (.ok (), f db)⟩

@[simp] theorem run_pure (a : α) (db : Db) : (pure a : Action α).run db = (.ok a, db) := rfl

@[simp] theorem run_bind (x : Action α) (f : α → Action β) (db : Db) :
    (x >>= f).run db = match x.run db with
      | (.ok a, db') => (f a).run db'
      | (.error e, db') => (.error e, db') := rfl

@[simp] theorem run_throw (e : Err) (db : Db) :
    (throw e : Action α).run db = (.error e, db) := rfl

@[simp] theorem run_ofExcept_ok (a : α) (db : Db) :
    (ofExcept (.ok a) : Action α).run db = (.ok a, db) := rfl

@[simp] theorem run_ofExcept_error (e : Err) (db : Db) :
    (ofExcept (.error e) : Action α).run db = (.error e, db) := rfl

@[simp] theorem run_modify (f : Db → Db) (db : Db) : (modify f).run db = (.ok (), f db) := rfl

theorem ext {x y : Action α} (h : ∀ db, x.run db = y.run db) : x = y := by
  cases x; cases y; congr; funext db; exact h db

instance : LawfulMonad Action := LawfulMonad.mk' Action
  (fun x => ext fun db => by
    show (match x.run db with
      | (.ok a, db') => (pure (id a) : Action _).run db'
      | (.error e, db') => (.error e, db')) = x.run db
    rcases x.run db with ⟨_ | _, _⟩ <;> rfl)
  (fun _ _ => rfl)
  (fun x f g => ext fun db => by
    show (match (match x.run db with
      | (.ok a, db') => (f a).run db'
      | (.error e, db') => (.error e, db')) with
      | (.ok a, db') => (g a).run db'
      | (.error e, db') => (.error e, db')) = (match x.run db with
      | (.ok a, db') => (f a >>= g).run db'
      | (.error e, db') => (.error e, db'))
    rcases x.run db with ⟨_ | _, _⟩ <;> rfl)

/-! ### What a step writes -/

/-- The step writes nothing, whatever it returns. -/
def ReadOnly (x : Action α) : Prop := ∀ db, (x.run db).2 = db

/-- The step leaves the rows of `table` as they were, whatever it returns. -/
def Keeps (table : String) (x : Action α) : Prop := ∀ db, (x.run db).2.rows table = db.rows table

theorem readOnly_pure (a : α) : ReadOnly (pure a : Action α) := fun _ => rfl

theorem readOnly_throw (e : Err) : ReadOnly (throw e : Action α) := fun _ => rfl

theorem readOnly_ofExcept (r : Except Err α) : ReadOnly (ofExcept r) := by
  cases r <;> exact fun _ => rfl

/-- After a step, steps that write nothing leave what the first one left. -/
theorem state_bind_of_readOnly (x : Action α) {f : α → Action β} (hf : ∀ a, ReadOnly (f a))
    (db : Db) : ((x >>= f).run db).2 = (x.run db).2 := by
  rw [run_bind]
  rcases x.run db with ⟨_ | a, db'⟩
  · rfl
  · exact hf a db'

theorem ReadOnly.bind {x : Action α} {f : α → Action β} (hx : ReadOnly x)
    (hf : ∀ a, ReadOnly (f a)) : ReadOnly (x >>= f) := fun db => by
  rw [state_bind_of_readOnly x hf, hx]

theorem ReadOnly.keeps {x : Action α} (hx : ReadOnly x) (table : String) : Keeps table x :=
  fun db => by rw [hx]

theorem Keeps.bind {table : String} {x : Action α} {f : α → Action β} (hx : Keeps table x)
    (hf : ∀ a, Keeps table (f a)) : Keeps table (x >>= f) := fun db => by
  rw [run_bind]
  rcases h : x.run db with ⟨_ | a, db'⟩
  · simpa [h] using hx db
  · simpa [h, hf a db'] using hx db

theorem keeps_forM {table : String} {f : β → Action Unit} :
    ∀ {xs : List β}, (∀ x ∈ xs, Keeps table (f x)) → Keeps table (xs.forM f)
  | [], _ => (readOnly_pure ()).keeps table
  | x :: rest, h => by
      rw [List.forM_cons']
      exact Keeps.bind (h x (List.mem_cons_self _ _))
        fun _ => keeps_forM fun y hy => h y (List.mem_cons_of_mem _ hy)

/-- A loop that fails has run every pass before the failing one to completion, and
nothing after it. -/
theorem forM_error {f : β → Action Unit} {e : Err} :
    ∀ {xs : List β} {db db' : Db}, (xs.forM f).run db = (.error e, db') →
      ∃ pre x post mid, xs = pre ++ x :: post ∧ (pre.forM f).run db = (.ok (), mid) ∧
        (f x).run mid = (.error e, db')
  | [], _, _, h => by cases h
  | x :: rest, db, db', h => by
      rw [List.forM_cons', run_bind] at h
      rcases hx : (f x).run db with ⟨e' | _, mid⟩
      · rw [hx] at h
        exact ⟨[], x, rest, db, rfl, rfl, hx.trans h⟩
      · rw [hx] at h
        obtain ⟨pre, y, post, mid', rfl, hpre, hy⟩ := forM_error h
        refine ⟨x :: pre, y, post, mid', rfl, ?_, hy⟩
        rw [List.forM_cons', run_bind, hx]
        exact hpre

end Action

namespace Db

theorem ext {a b : Db} (h : ∀ table, a.rows table = b.rows table) : a = b := by
  cases a; cases b; congr; funext table; exact h table

/-- Replace the rows of one table. -/
def update (db : Db) (table : String) (rows : List Record) : Db :=
  ⟨Function.update db.rows table rows⟩

@[simp] theorem update_rows_self (db : Db) (table : String) (rows : List Record) :
    (db.update table rows).rows table = rows := by
  simp [update]

@[simp] theorem update_rows_ne (db : Db) {table other : String} (rows : List Record)
    (h : other ≠ table) : (db.update table rows).rows other = db.rows other := by
  simp [update, h]

theorem update_rows (db : Db) (table other : String) (rows : List Record) :
    (db.update table rows).rows other = if other = table then rows else db.rows other := by
  by_cases h : other = table
  · subst h; simp
  · simp [h]

end Db

end Enfyra
