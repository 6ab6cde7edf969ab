import Enfyra.Value

/-!
The cascade context of `KnexHookRegistry.registerDefaultHooks`: one map, keyed by table
name, shared by every write. The first `beforeInsert` handler stores the write's list-valued
properties under the table's name, the first `beforeUpdate` handler stores them with the
payload's `id`; the `afterInsert` and `afterUpdate` handlers read the table's entry back and
hand it to `handleCascadeRelations`.

Writes interleave at their `await`s. A write is a sequence of steps, each running without
interruption: the capture (the synchronous start of its first before-handler), steps that do
not touch the map (the sync, the rest of the chain, the backend write), and its after-step
(the synchronous start of its after-handler, with `handleCascadeRelations`, which is not in
the sources: it reads the table's entry when it starts, and what it then does to that entry
is a parameter). A schedule is any list of such steps.

The results: a step of a write on another table leaves a table's entry; an after-step reads
the context of the last capture on its table when no capture or after-step on that table
ran since; and two updates of one table, captured one after the other, make the first
update's after-handler pass the second one's `recordId`.
-/

namespace Enfyra.KnexHookRegistry

inductive WriteKind where
  | insert
  | update
  deriving DecidableEq, Repr

/-- A write through the registry's hooks: `insert(data)` or `update(data)` on a table. -/
structure Write where
  kind : WriteKind
  table : String
  data : Value
  deriving DecidableEq, Repr

/-- `for (const key in data) if (Array.isArray(data[key])) relationData[key] = data[key]`,
when `typeof data === 'object' && !Array.isArray(data)`. -/
def relationDataOf : Value → Record
  | .obj fields => fields.filter fun p => p.2.isArray
  | _ => []

/-- What the capture stores under the table's name. The update handler reads `data.id`
first, which throws on `null`. -/
def captureOf (write : Write) : Except Err Value :=
  match write.kind with
  | .insert => .ok (.obj (relationDataOf write.data))
  | .update => do
    let recordId ← write.data.member "id"
    pure (.obj [("relationData", .obj (relationDataOf write.data)),
      ("recordId", recordId.getD .null)])

/-- One uninterrupted step of the write with the given index. -/
inductive Event where
  | capture (write : Nat)
  | other (write : Nat)
  | after (write : Nat)
  deriving DecidableEq, Repr

/-- The shared map, and for each write whose after-step ran, the entry it read. -/
structure Registry where
  contexts : String → Option Value
  read : Nat → Option (Option Value)

/-- The map before any write, and no after-step run. -/
def Registry.empty : Registry := ⟨fun _ => none, fun _ => none⟩

section Run

variable (writes : List Write) (consume : Option Value → Option Value)

/-- One step. A capture that throws stores nothing; `consume` is what
`handleCascadeRelations` leaves in the table's entry. -/
def step (registry : Registry) : Event → Registry
  | .capture i => match writes[i]? with
    | some write => match captureOf write with
      | .ok context =>
        ⟨Function.update registry.contexts write.table (some context), registry.read⟩
      | .error _ => registry
    | none => registry
  | .other _ => registry
  | .after i => match writes[i]? with
    | some write =>
      ⟨Function.update registry.contexts write.table (consume (registry.contexts write.table)),
        Function.update registry.read i (some (registry.contexts write.table))⟩
    | none => registry

def run (registry : Registry) (schedule : List Event) : Registry :=
  schedule.foldl (step writes consume) registry

theorem run_cons (registry : Registry) (event : Event) (schedule : List Event) :
    run writes consume registry (event :: schedule) =
      run writes consume (step writes consume registry event) schedule := rfl

theorem run_append (registry : Registry) (first second : List Event) :
    run writes consume registry (first ++ second) =
      run writes consume (run writes consume registry first) second := by
  simp [run, List.foldl_append]

/-- The table a step of a write touches, if it touches the map. -/
def touches : Event → Option String
  | .capture i | .after i => writes[i]?.map (·.table)
  | .other _ => none

/-- A step that touches no entry of `table` leaves it. -/
theorem step_contexts_of_ne {registry : Registry} {event : Event} {table : String}
    (h : touches writes event ≠ some table) :
    (step writes consume registry event).contexts table = registry.contexts table := by
  cases event with
  | capture i =>
      simp only [step]
      cases hw : writes[i]? with
      | none => rfl
      | some write =>
          have hne : table ≠ write.table := fun he => h (by simp [touches, hw, he])
          simp only
          split <;> simp [Function.update_noteq hne]
  | other _ => rfl
  | after i =>
      simp only [step]
      cases hw : writes[i]? with
      | none => rfl
      | some write =>
          have hne : table ≠ write.table := fun he => h (by simp [touches, hw, he])
          simp [Function.update_noteq hne]

theorem run_contexts_of_forall {table : String} :
    ∀ {schedule : List Event} {registry : Registry},
      (∀ event ∈ schedule, touches writes event ≠ some table) →
      (run writes consume registry schedule).contexts table = registry.contexts table
  | [], _, _ => rfl
  | event :: rest, registry, h => by
      rw [run_cons, run_contexts_of_forall fun e he => h e (List.mem_cons_of_mem _ he),
        step_contexts_of_ne writes consume (h event (List.mem_cons_self _ _))]

/-- Only a write's own after-step records what it read. -/
theorem step_read_of_ne {registry : Registry} {event : Event} {i : Nat}
    (h : event ≠ .after i) : (step writes consume registry event).read i = registry.read i := by
  cases event with
  | capture j =>
      simp only [step]
      cases writes[j]? with
      | none => rfl
      | some write => simp only; split <;> rfl
  | other _ => rfl
  | after j =>
      have hne : i ≠ j := fun he => h (he ▸ rfl)
      simp only [step]
      cases writes[j]? with
      | none => rfl
      | some write => simp [Function.update_noteq hne]

theorem run_read_of_forall {i : Nat} :
    ∀ {schedule : List Event} {registry : Registry}, (.after i) ∉ schedule →
      (run writes consume registry schedule).read i = registry.read i
  | [], _, _ => rfl
  | event :: rest, registry, h => by
      rw [List.mem_cons, not_or] at h
      rw [run_cons, run_read_of_forall h.2, step_read_of_ne writes consume (Ne.symm h.1)]

/-- A write's after-step reads what its capture stored, when no step that touches its
table's entry runs in between: no capture and no after-step of a write to the same table. -/
theorem after_reads_own_capture {i : Nat} {write : Write} (hi : writes[i]? = some write)
    {context : Value} (hcapture : captureOf write = .ok context)
    (pre between post : List Event)
    (hbetween : ∀ event ∈ between, touches writes event ≠ some write.table)
    (hpost : (.after i) ∉ post) (registry : Registry) :
    (run writes consume registry
      (pre ++ .capture i :: between ++ .after i :: post)).read i = some (some context) := by
  rw [List.append_assoc, run_append, List.cons_append, run_cons, run_append, run_cons,
    run_read_of_forall writes consume hpost]
  have hcaptured := @run_contexts_of_forall writes consume _ _
    (step writes consume (run writes consume registry pre) (.capture i)) hbetween
  simp only [step, hi, hcapture, Function.update_same] at hcaptured ⊢
  simp [hcaptured]

/-- `const { recordId } = context` in `afterUpdate`, passed to `handleCascadeRelations`; with
no entry the handler returns before calling it. -/
def recordIdOf : Option Value → Option Value
  | some (.obj fields) => Record.get? fields "recordId"
  | _ => none

/-- Under any interleaving, the after-handler of a write whose capture succeeded works with
the context that capture stored, and an update passes the `id` of its own payload, whenever
no capture or after-step of a write to the same table runs between its capture and its
after-step. -/
theorem after_uses_own_context {i : Nat} {write : Write} (hi : writes[i]? = some write)
    {context : Value} (hcapture : captureOf write = .ok context)
    (pre between post : List Event)
    (hbetween : ∀ event ∈ between, touches writes event ≠ some write.table)
    (hpost : (.after i) ∉ post) (registry : Registry) :
    (run writes consume registry
      (pre ++ .capture i :: between ++ .after i :: post)).read i = some (some context) ∧
    ∀ recordId, write.kind = .update → write.data.member "id" = .ok recordId →
      recordIdOf ((run writes consume registry
        (pre ++ .capture i :: between ++ .after i :: post)).read i).join =
          some (recordId.getD .null) := by
  have hread := after_reads_own_capture writes consume hi hcapture pre between post hbetween
    hpost registry
  refine ⟨hread, fun recordId hkind hid => ?_⟩
  rw [hread]
  simp only [captureOf, hkind, hid, bind, Except.bind, pure, Except.pure] at hcapture
  cases hcapture
  rfl

end Run

/-- Two updates of one table. -/
def twoUpdates : List Write :=
  [⟨.update, "article", .obj [("id", .num 1), ("tags", .arr [.num 5])]⟩,
    ⟨.update, "article", .obj [("id", .num 2), ("tags", .arr [.num 6])]⟩]

theorem after_uses_own_context_sequential :
    (run twoUpdates id .empty
      ([] ++ .capture 0 :: [.other 0] ++ .after 0 :: [.capture 1, .after 1])).read 0 =
        some (some (.obj [("relationData", .obj [("tags", .arr [.num 5])]),
          ("recordId", .num 1)])) :=
  (@after_uses_own_context twoUpdates id 0 _ rfl _ rfl [] [.other 0] [.capture 1, .after 1]
    (by decide) (by decide) .empty).1

/-- The second update captures before the first one's after-handler runs: that handler
passes the second update's `recordId`. -/
theorem interleaved_updates_swap_recordId :
    recordIdOf ((run twoUpdates id .empty
      [.capture 0, .capture 1, .after 0, .after 1]).read 0).join = some (.num 2) := rfl

end Enfyra.KnexHookRegistry
