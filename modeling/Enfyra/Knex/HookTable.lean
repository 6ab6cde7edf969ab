import Enfyra.Knex.Update

/-!
The hook tables of `KnexService` and `KnexHookRegistry`: for each of the eight events, the
handlers in the order `addHook` registered them. The two classes have the same `addHook`,
`removeHook` and `runHooks`. `removeHook` finds a handler by identity (`indexOf` compares
functions by reference) and removes its first occurrence. `registerDefaultHooks` of
`KnexService` registers four `beforeInsert` handlers, five `beforeUpdate` handlers and two
`afterSelect` handlers, in that order, each through `addHook`.

An event is named by a string, and `hooks[event]` reads one of the eight keys; the names of
the properties every object inherits (`toString`, `constructor`) are not modelled. A handler
is a value of any type with its identity as equality.

The results: a run of `addHook`s on the eight names never fails and appends each event's
handlers in the order of the run; `removeHook` after `addHook` of the same handler gives the
table back when the handler was not registered, and otherwise moves its first registration to
the end of the chain, so the chain then runs it last; and after `registerDefaultHooks` each
event's chain runs the handlers the table held before it, then its defaults.
-/

namespace Enfyra

/-- The keys of the `hooks` object. -/
inductive HookEvent where
  | beforeInsert
  | afterInsert
  | beforeUpdate
  | afterUpdate
  | beforeDelete
  | afterDelete
  | beforeSelect
  | afterSelect
  deriving DecidableEq, Repr

namespace HookEvent

/-- The key of the event. -/
def name : HookEvent → String
  | beforeInsert => "beforeInsert"
  | afterInsert => "afterInsert"
  | beforeUpdate => "beforeUpdate"
  | afterUpdate => "afterUpdate"
  | beforeDelete => "beforeDelete"
  | afterDelete => "afterDelete"
  | beforeSelect => "beforeSelect"
  | afterSelect => "afterSelect"

/-- The eight events, in the order of the keys. -/
def all : List HookEvent :=
  [beforeInsert, afterInsert, beforeUpdate, afterUpdate, beforeDelete, afterDelete, beforeSelect,
    afterSelect]

/-- The event a string names, when `hooks[event]` is one of the eight lists. -/
def ofName? (event : String) : Option HookEvent := all.find? (·.name = event)

@[simp] theorem ofName?_name (event : HookEvent) : ofName? event.name = some event := by
  cases event <;> rfl

end HookEvent

/-- The handlers of every event. -/
structure HookTable (α : Type) where
  handlers : HookEvent → List α

namespace HookTable

variable {α : Type}

/-- The table of a new instance: no handler. -/
def empty : HookTable α := ⟨fun _ => []⟩

/-- The table with the list of `event` changed by `f`, in place. -/
def modify (hooks : HookTable α) (event : HookEvent) (f : List α → List α) : HookTable α :=
  ⟨Function.update hooks.handlers event (f (hooks.handlers event))⟩

@[simp] theorem modify_self (hooks : HookTable α) (event : HookEvent) (f : List α → List α) :
    (hooks.modify event f).handlers event = f (hooks.handlers event) := by
  simp [modify]

@[simp] theorem modify_ne (hooks : HookTable α) {event other : HookEvent}
    (f : List α → List α) (h : other ≠ event) :
    (hooks.modify event f).handlers other = hooks.handlers other := by
  simp [modify, h]

theorem ext {a b : HookTable α} (h : ∀ event, a.handlers event = b.handlers event) : a = b := by
  cases a; cases b; congr; funext event; exact h event

/-- `runHooks(event, tableName, data)`: the loop of `KnexService.runHooks` over the event's
handlers. -/
def runHooks {m : Type → Type} [Monad m] [MonadExceptOf Err m]
    (hooks : HookTable (String → Value → m Value)) (event : HookEvent) (tableName : String)
    (data : Value) : m Value :=
  KnexService.runHooks (hooks.handlers event) tableName data

end HookTable

namespace KnexService

variable {α : Type}

/-- `addHook(event, handler)`: the handler goes last in the event's list. -/
def addHook (hooks : HookTable α) (event : String) (handler : α) : Except String (HookTable α) :=
  match HookEvent.ofName? event with
  | some key => .ok (hooks.modify key (· ++ [handler]))
  | none => .error ("Unknown hook event: " ++ event)

/-- `removeHook(event, handler)`: `splice(indexOf(handler), 1)` when the handler is there. -/
def removeHook [DecidableEq α] (hooks : HookTable α) (event : String) (handler : α) :
    Except String (HookTable α) :=
  match HookEvent.ofName? event with
  | some key => .ok (hooks.modify key (·.erase handler))
  | none => .error "Cannot read properties of undefined (reading \x27indexOf\x27)"

/-- The `addHook` calls of `registerDefaultHooks`, in order: the `beforeInsert` handlers, the
`beforeUpdate` handlers, then the `afterSelect` handlers. -/
def defaultRegistrations (insertHooks updateHooks selectHooks : List α) :
    List (HookEvent × α) :=
  insertHooks.map (.beforeInsert, ·) ++ updateHooks.map (.beforeUpdate, ·) ++
    selectHooks.map (.afterSelect, ·)

/-- A run of `addHook`s, one registration after the other. -/
def addHooks (hooks : HookTable α) (registrations : List (HookEvent × α)) :
    Except String (HookTable α) :=
  registrations.foldlM (fun hooks registration => addHook hooks registration.1.name
    registration.2) hooks

/-- `registerDefaultHooks()`. -/
def registerDefaultHooks (insertHooks updateHooks selectHooks : List α) (hooks : HookTable α) :
    Except String (HookTable α) :=
  addHooks hooks (defaultRegistrations insertHooks updateHooks selectHooks)

@[simp] theorem addHook_name (hooks : HookTable α) (event : HookEvent) (handler : α) :
    addHook hooks event.name handler = .ok (hooks.modify event (· ++ [handler])) := by
  simp [addHook]

/-- A run of `addHook`s on the eight names succeeds, and each event's list gains the
handlers registered for it, in the order of the run. -/
theorem addHooks_handlers :
    ∀ (registrations : List (HookEvent × α)) (hooks : HookTable α),
      addHooks hooks registrations = .ok ⟨fun event => hooks.handlers event ++
        ((registrations.filter (·.1 = event)).map (·.2))⟩
  | [], hooks => by simp [addHooks]; rfl
  | (key, handler) :: rest, hooks => by
    rw [addHooks, List.foldlM_cons, addHook_name]
    refine (addHooks_handlers rest _).trans (congrArg _ (HookTable.ext fun event => ?_))
    by_cases h : event = key
    · subst h
      simp
    · simp [h, Ne.symm h]

/-- The handlers `registerDefaultHooks` registers for each event. -/
def defaultHandlers (insertHooks updateHooks selectHooks : List α) : HookEvent → List α
  | .beforeInsert => insertHooks
  | .beforeUpdate => updateHooks
  | .afterSelect => selectHooks
  | _ => []

/-- `registerDefaultHooks` succeeds and appends its handlers to the lists of their events;
the other five lists stay as they were. -/
theorem registerDefaultHooks_handlers (insertHooks updateHooks selectHooks : List α)
    (hooks : HookTable α) :
    registerDefaultHooks insertHooks updateHooks selectHooks hooks = .ok ⟨fun event =>
      hooks.handlers event ++ defaultHandlers insertHooks updateHooks selectHooks event⟩ := by
  rw [registerDefaultHooks, addHooks_handlers]
  congr 2
  funext event
  cases event <;> simp [defaultRegistrations, defaultHandlers, List.filter_map, Function.comp_def]

/-- `removeHook` right after `addHook` of the same handler gives the table back when the
handler was not registered for the event; when it was, its first registration is the one
removed, and the handler now runs last. -/
theorem removeHook_addHook [DecidableEq α] (hooks : HookTable α) (event : HookEvent)
    (handler : α) :
    (addHook hooks event.name handler >>= fun hooks => removeHook hooks event.name handler) =
      .ok (hooks.modify event fun handlers =>
        if handler ∈ handlers then handlers.erase handler ++ [handler] else handlers) := by
  simp only [addHook_name, Except.ok_bind, removeHook, HookEvent.ofName?_name]
  congr 1
  refine HookTable.ext fun other => ?_
  by_cases h : other = event
  · subst h
    simp only [HookTable.modify_self]
    split_ifs with hmem
    · simp [List.erase_append_left _ hmem]
    · simp [List.erase_append_right _ hmem]
  · simp [h]

end KnexService

namespace KnexHookRegistry

variable {α : Type}

/-- `KnexHookRegistry.addHook`, the code of `KnexService.addHook`. -/
def addHook (hooks : HookTable α) (event : String) (handler : α) : Except String (HookTable α) :=
  KnexService.addHook hooks event handler

/-- `KnexHookRegistry.removeHook`, the code of `KnexService.removeHook`. -/
def removeHook [DecidableEq α] (hooks : HookTable α) (event : String) (handler : α) :
    Except String (HookTable α) :=
  KnexService.removeHook hooks event handler

end KnexHookRegistry

end Enfyra
