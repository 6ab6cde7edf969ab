import Mathlib.Data.List.Infix
import Enfyra.Core.InitMetadata

/-!
The access check of the GraphQL resolver: `DynamicResolver.canPass` for queries and
`canPassMutation` for mutations. The two differ only in the method they look for
(`GQL_QUERY`, `GQL_MUTATION`) and are one definition here, `canPassFor`. A request passes
on an enabled route that publishes the method. Otherwise it needs a valid token of a
stored user who is a root admin, or whose role a permission of the route lists for the
method.

The role test is `permission.role?.id === user.role?.id`. A user with no `roleId`, or one
whose role is no longer stored, has no role id, and a permission with no role has none
either. `undefined === undefined` holds, so such a permission lets such a user through.
The results: a request passes only on an enabled route, and there only when the route
publishes the method, the user is a root admin, or a permission for the method has the
id of the user's role, undefined on both sides included; and a user with no role passes
through a permission with none.

`jwtService.verify` is not in the sources and is a parameter, `none` for a token it
rejects. So is the lookup `queryBuilder.findOneWhere(table, { id })`, which resolves to
a stored row or to nothing, and may throw. Role ids are primitives, so `===` compares them
by value. `readOfNull` stands for a read of a property of `undefined` as well as of `null`.
-/

namespace Enfyra.DynamicResolver

open CoreInitSqlService (truthyAt)

/-! ### The check -/

/-- `items.some(test)` with a test that may throw: the items in order, up to the first that
passes. -/
def someM (test : Value → Except Err Bool) : List Value → Except Err Bool
  | [] => pure false
  | item :: items => do
      if ← test item then pure true else someM test items

/-- The items of a value an array method is called on. -/
def arrayFor (value : Option Value) (method : String) : Except Err (List Value) :=
  match value with
  | some (.arr items) => pure items
  | none | some .null => throw (.readOfNull method)
  | some _ => throw (.notAFunction method)

/-- `x?.id`. -/
def idOf : Option Value → Option Value
  | some (.obj fields) => Record.get? fields "id"
  | _ => none

/-- `methods?.includes(method)`: an array holds the method as an item, a string as a
substring. -/
def includesMethod (methods : Option Value) (method : String) : Except Err Bool :=
  match methods with
  | none | some .null => pure false
  | some (.arr items) => pure (items.contains (.str method))
  | some (.str s) => pure (decide (method.toList <:+: s.toList))
  | some _ => throw (.notAFunction "includes")

/-- The test of `publishedMethods.some`: `item.method === method`. -/
def isPublishedAs (method : String) (item : Value) : Except Err Bool := do
  pure ((← item.member "method") = some (.str method))

/-- The test of `routePermissions?.some`: the permission's role has the id of the user's
role, and its methods include `method`. -/
def permits (method : String) (user : Record) (permission : Value) : Except Err Bool := do
  if idOf (← permission.member "role") = idOf (user.get? "role") then
    includesMethod (← permission.member "methods") method
  else pure false

/-- `currentRoute.routePermissions?.some(...)`. -/
def anyPermits (method : String) (user : Record) : Option Value → Except Err Bool
  | none | some .null => pure false
  | permissions => do someM (permits method user) (← arrayFor permissions "some")

section Access

variable (verify : String → Option Value)
  (findOneWhere : String → Option Value → Except Err (Option Record))

/-- `if (user.roleId) user.role = await findOneWhere('role_definition', { id: user.roleId })`;
a role that is not found reads as undefined. -/
def loadRole (user : Record) : Except Err Record :=
  if truthyAt user "roleId" then do
    match ← findOneWhere "role_definition" (user.get? "roleId") with
    | some role => pure (user.set "role" (.obj role))
    | none => pure (user.erase "role")
  else pure user

/-- `jwtService.verify(accessToken)`, a rejected token rethrown as `401 Unauthorized`. -/
def decodeToken (accessToken : String) : Except Err Value :=
  match verify accessToken with
  | some decoded => pure decoded
  | none => throw (.graphql "401" "Unauthorized")

/-- `findOneWhere('user_definition', { id: decoded.id })`, and `if (!user)` a `401`. -/
def findUser (decoded : Value) : Except Err Record := do
  match ← findOneWhere "user_definition" (← decoded.member "id") with
  | some user => pure user
  | none => throw (.graphql "401" "Invalid user")

/-- `if (!currentRoute?.isEnabled) throwGqlError('404', 'NotFound')`. -/
def enabledRoute : Option Value → Except Err Record
  | some (.obj route) =>
      if truthyAt route "isEnabled" then pure route else throw (.graphql "404" "NotFound")
  | _ => throw (.graphql "404" "NotFound")

/-- `user.isRootAdmin || currentRoute.routePermissions?.some(...)`. -/
def allowed (method : String) (route user : Record) : Except Err Bool :=
  if truthyAt user "isRootAdmin" then pure true
  else anyPermits method user (Record.get? route "routePermissions")

/-- `canPass` (for `GQL_QUERY`) and `canPassMutation` (for `GQL_MUTATION`): it resolves to
`{ isAnonymous: true }` on a route that publishes the method, and to the user otherwise. -/
def canPassFor (method : String) (currentRoute : Option Value) (accessToken : String) :
    Except Err Value := do
  let route ← enabledRoute currentRoute
  let published ←
    someM (isPublishedAs method) (← arrayFor (Record.get? route "publishedMethods") "some")
  if published then pure (.obj [("isAnonymous", .bool true)])
  else do
    let user ← loadRole findOneWhere (← findUser findOneWhere (← decodeToken verify accessToken))
    if ← allowed method route user then pure (.obj user) else throw (.graphql "403" "Not allowed")

def canPass (currentRoute : Option Value) (accessToken : String) : Except Err Value :=
  canPassFor verify findOneWhere "GQL_QUERY" currentRoute accessToken

def canPassMutation (currentRoute : Option Value) (accessToken : String) : Except Err Value :=
  canPassFor verify findOneWhere "GQL_MUTATION" currentRoute accessToken

/-! ### What a request that passes has shown -/

/-- The stored user a token names, with the role loaded. -/
def Authenticates (accessToken : String) (user : Record) : Prop :=
  ∃ decoded id stored, verify accessToken = some decoded ∧ decoded.member "id" = .ok id ∧
    findOneWhere "user_definition" id = .ok (some stored) ∧ loadRole findOneWhere stored = .ok user

end Access

/-- A route that publishes `method`. -/
def Publishes (method : String) (route : Record) : Prop :=
  ∃ items, route.get? "publishedMethods" = some (.arr items) ∧
    ∃ item ∈ items, item.member "method" = .ok (some (.str method))

/-- A permission that lists `method` for the role with id `roleId` (undefined included). -/
def Lists (method : String) (roleId : Option Value) (permission : Value) : Prop :=
  ∃ fields, permission = .obj fields ∧ idOf (Record.get? fields "role") = roleId ∧
    includesMethod (Record.get? fields "methods") method = .ok true

/-- A route one of whose permissions lists `method` for the user's role. -/
def Permits (method : String) (route user : Record) : Prop :=
  ∃ permissions, route.get? "routePermissions" = some (.arr permissions) ∧
    ∃ permission ∈ permissions, Lists method (idOf (user.get? "role")) permission

theorem someM_eq_true {test : Value → Except Err Bool} :
    ∀ {items : List Value}, someM test items = .ok true → ∃ item ∈ items, test item = .ok true
  | [], h => by cases h
  | item :: items, h => by
      obtain ⟨passed, hpassed, h⟩ := Except.bind_eq_ok h
      cases passed
      · obtain ⟨found, hmem, hfound⟩ := someM_eq_true h
        exact ⟨found, List.mem_cons_of_mem _ hmem, hfound⟩
      · exact ⟨item, List.mem_cons_self _ _, hpassed⟩

theorem arrayFor_eq_ok {value : Option Value} {method : String} {items : List Value}
    (h : arrayFor value method = .ok items) : value = some (.arr items) := by
  unfold arrayFor at h
  split at h <;> cases h
  rfl

theorem isPublishedAs_eq_true {method : String} {item : Value}
    (h : isPublishedAs method item = .ok true) :
    item.member "method" = .ok (some (.str method)) := by
  obtain ⟨read, hread, h⟩ := Except.bind_eq_ok h
  rw [hread, of_decide_eq_true (Except.ok.inj h)]

theorem permits_eq_true {method : String} {user : Record} {permission : Value}
    (h : permits method user permission = .ok true) :
    Lists method (idOf (user.get? "role")) permission := by
  cases permission with
  | obj fields =>
      simp only [permits, Value.member_obj, bind, Except.bind, pure, Except.pure] at h
      split at h
      · exact ⟨fields, rfl, ‹_›, h⟩
      · cases h
  | null => cases h
  | _ =>
      simp only [permits, Value.member, bind, Except.bind, pure, Except.pure] at h
      split at h <;> cases h

theorem anyPermits_eq_true {method : String} {user : Record} {permissions : Option Value}
    (h : anyPermits method user permissions = .ok true) :
    ∃ items, permissions = some (.arr items) ∧
      ∃ permission ∈ items, Lists method (idOf (user.get? "role")) permission := by
  unfold anyPermits at h
  split at h
  case h_3 =>
    cases hitems : arrayFor permissions "some" with
    | error e => rw [hitems] at h; cases h
    | ok items =>
        rw [hitems] at h
        obtain ⟨permission, hmem, hpermits⟩ := someM_eq_true h
        exact ⟨items, arrayFor_eq_ok hitems, permission, hmem, permits_eq_true hpermits⟩
  all_goals cases h

section Access

variable (verify : String → Option Value)
  (findOneWhere : String → Option Value → Except Err (Option Record))

theorem enabledRoute_eq_ok {currentRoute : Option Value} {route : Record}
    (h : enabledRoute currentRoute = .ok route) :
    currentRoute = some (.obj route) ∧ truthyAt route "isEnabled" = true := by
  unfold enabledRoute at h
  split at h
  · split at h
    · cases h
      exact ⟨rfl, ‹_›⟩
    · cases h
  · cases h

theorem decodeToken_eq_ok {accessToken : String} {decoded : Value}
    (h : decodeToken verify accessToken = .ok decoded) : verify accessToken = some decoded := by
  unfold decodeToken at h
  split at h <;> cases h
  assumption

theorem findUser_eq_ok {decoded : Value} {user : Record}
    (h : findUser findOneWhere decoded = .ok user) :
    ∃ id, decoded.member "id" = .ok id ∧ findOneWhere "user_definition" id = .ok (some user) := by
  obtain ⟨id, hid, h⟩ := Except.bind_eq_ok h
  obtain ⟨found, hfound, h⟩ := Except.bind_eq_ok h
  cases found with
  | some stored => cases h; exact ⟨id, hid, hfound⟩
  | none => cases h

theorem allowed_eq_true {method : String} {route user : Record}
    (h : allowed method route user = .ok true) :
    truthyAt user "isRootAdmin" = true ∨ Permits method route user := by
  unfold allowed at h
  split at h
  · exact .inl ‹_›
  · exact .inr (anyPermits_eq_true h)

/-- A request passes only on an enabled route, and there only when the route publishes the
method, or the token names a stored user who, with the role loaded, is a root admin or has
the role id a permission of the route lists the method for. -/
theorem canPassFor_passes {method : String} {currentRoute : Option Value} {accessToken : String}
    {result : Value}
    (h : canPassFor verify findOneWhere method currentRoute accessToken = .ok result) :
    ∃ route, currentRoute = some (.obj route) ∧ truthyAt route "isEnabled" = true ∧
      (Publishes method route ∨ ∃ user, Authenticates verify findOneWhere accessToken user ∧
        (truthyAt user "isRootAdmin" = true ∨ Permits method route user)) := by
  obtain ⟨route, hroute, h⟩ := Except.bind_eq_ok h
  obtain ⟨items, hitems, h⟩ := Except.bind_eq_ok h
  obtain ⟨published, hpub, h⟩ := Except.bind_eq_ok h
  obtain ⟨hcurrent, henabled⟩ := enabledRoute_eq_ok hroute
  refine ⟨route, hcurrent, henabled, ?_⟩
  cases published with
  | true =>
      obtain ⟨item, hmem, hitem⟩ := someM_eq_true hpub
      exact .inl ⟨items, arrayFor_eq_ok hitems, item, hmem, isPublishedAs_eq_true hitem⟩
  | false =>
      obtain ⟨decoded, hdecoded, h⟩ := Except.bind_eq_ok h
      obtain ⟨stored, hstored, h⟩ := Except.bind_eq_ok h
      obtain ⟨user, huser, h⟩ := Except.bind_eq_ok h
      obtain ⟨permitted, hpermitted, h⟩ := Except.bind_eq_ok h
      cases permitted
      · cases h
      · obtain ⟨id, hid, hfound⟩ := findUser_eq_ok findOneWhere hstored
        exact .inr ⟨user, ⟨decoded, id, stored, decodeToken_eq_ok verify hdecoded, hid, hfound,
          huser⟩, allowed_eq_true hpermitted⟩

end Access

/-- An enabled route that publishes nothing, with one permission for queries and mutations
that names no role. -/
def openRoute : Value :=
  .obj [("isEnabled", .bool true), ("publishedMethods", .arr []),
    ("routePermissions", .arr [.obj [("methods", .arr [.str "GQL_QUERY", .str "GQL_MUTATION"])]])]

/-- A stored user with no `roleId`, who is no root admin. -/
def rolelessUser : Record := [("id", .num 7), ("isRootAdmin", .bool false)]

/-- A token of the user with no role passes both checks through the permission with no
role, whatever the token service and the store do beyond naming that user. -/
theorem canPass_without_role (verify : String → Option Value)
    (findOneWhere : String → Option Value → Except Err (Option Record))
    (hverify : verify "token" = some (.obj [("id", .num 7)]))
    (hfind : findOneWhere "user_definition" (some (.num 7)) = .ok (some rolelessUser)) :
    canPass verify findOneWhere (some openRoute) "token" = .ok (.obj rolelessUser) ∧
      canPassMutation verify findOneWhere (some openRoute) "token" = .ok (.obj rolelessUser) := by
  have hdecoded : decodeToken verify "token" = .ok (.obj [("id", .num 7)]) := by
    simp only [decodeToken, hverify]
    rfl
  have huser : findUser findOneWhere (.obj [("id", .num 7)]) = .ok rolelessUser := by
    simp only [findUser, Value.member_obj, Except.ok_bind]
    rw [show Record.get? [("id", Value.num 7)] "id" = some (.num 7) from rfl, hfind]
    rfl
  constructor <;>
    simp only [canPass, canPassMutation, canPassFor, hdecoded, huser, Except.ok_bind] <;> rfl

/-- A token service that reads every token as user 7, and a store that holds
`rolelessUser`. -/
def tokenOfUser (_ : String) : Option Value := some (.obj [("id", .num 7)])

def storeOfUser (table : String) (_ : Option Value) : Except Err (Option Record) :=
  .ok (if table = "user_definition" then some rolelessUser else none)

theorem canPass_without_role_stored :
    canPass tokenOfUser storeOfUser (some openRoute) "token" = .ok (.obj rolelessUser) ∧
      canPassMutation tokenOfUser storeOfUser (some openRoute) "token" =
        .ok (.obj rolelessUser) :=
  canPass_without_role tokenOfUser storeOfUser rfl rfl

end Enfyra.DynamicResolver
