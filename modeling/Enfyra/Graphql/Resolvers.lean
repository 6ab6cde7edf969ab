import Enfyra.Graphql.DynamicResolver

/-!
The two resolvers of `DynamicResolver` around its access check: `middleware`, which finds
the route of a table and runs `canPass`, and `dynamicMutationResolver` and `dynamicResolver`,
which run a table's default handler behind it.

`middleware` looks the route up for `GQL_QUERY` when the operation is a query and for
`GQL_MUTATION` otherwise, and then always runs `canPass`, the check for `GQL_QUERY`, with the
token that follows `Bearer ` in the `authorization` header of `context.request`. A mutation
runs `canPassMutation` next, with the whole `authorization` header of `context.req`, and
discards what it resolves to: the handler's `$user` is what `canPass` resolved to. The body of
a mutation runs inside a `try` whose `catch` rethrows every error as a `MUTATION_ERROR` with
the error's message. A query runs only its handler inside its `try`, and a failure there
becomes a `SCRIPT_ERROR`; what fails before it propagates as it is.

The results. A mutation goes through only on an enabled route that lets the request through
twice: for `GQL_QUERY` with the bearer token, and for `GQL_MUTATION` with the whole header;
its handler runs as the user of the first check. When the token service refuses every token
with a space in it, as it does a JWT, whose parts are base64url, a mutation sent with the
header `Bearer <token>` goes through only on a route that publishes `GQL_MUTATION`: no role,
permission or admin flag lets it through. A query goes through only when `canPass` does, and
its handler runs as the user it resolved to.

`routeEngine.find`, the repositories (`DynamicRepository` and its `init`) and
`handlerExecutorService.run` are not in the sources and are parameters. A missing
`authorization` header reaches `jwtService.verify` as the empty string does: both are falsy,
and `verify` refuses both (`jwt must be provided`). What the `catch` reads of an error is its
message, so the body of a mutation fails with the message alone. A GraphQL error and a
backend failure carry their own; for a runtime error the model keeps V8's text without the
expression it names.
-/

namespace Enfyra

/-- `error.message`. -/
def Err.message : Err → String
  | .graphql _ message | .backend message => message
  | .readOfNull property => "Cannot read properties of null (reading \x27" ++ property ++ "\x27)"
  | .destructureNull => "Cannot destructure null"
  | .notAFunction method => method ++ " is not a function"
  | .invalidTimeValue => "Invalid time value"
  | .invalidObjectId _ =>
      "input must be a 24 character hex string, 12 byte Uint8Array, or an integer"

theorem Except.mapError_eq_ok {ε ε' α : Type} {x : Except ε α} {f : ε → ε'} {a : α} :
    x.mapError f = .ok a ↔ x = .ok a := by
  cases x <;> simp [Except.mapError]

end Enfyra

namespace Enfyra.DynamicResolver

open CoreInitSqlService (truthyAt)

/-! ### The request -/

/-- What the resolvers read of the GraphQL context. -/
structure GqlContext where
  /-- `context.request?.headers?.get('authorization')`. -/
  requestAuthorization : Option String := none
  /-- `context.req?.headers?.authorization`. -/
  reqAuthorization : Option String := none
  deriving DecidableEq, Repr

/-- `s.split(separator)` for a non-empty separator, as ECMAScript cuts it: from the left, each
occurrence of the separator ends a piece. `skip` counts the characters of a separator still
to pass, and `piece` holds the current piece reversed. -/
def splitOnText (separator : List Char) : List Char → Nat → List Char → List (List Char)
  | [], _, piece => [piece.reverse]
  | _ :: rest, skip + 1, piece => splitOnText separator rest skip piece
  | c :: rest, 0, piece =>
    if separator <+: c :: rest then
      piece.reverse :: splitOnText separator rest (separator.length - 1) []
    else splitOnText separator rest 0 (c :: piece)

/-- `header?.split('Bearer ')[1] || ''`. -/
def bearerToken : Option String → String
  | none => ""
  | some header =>
    match (splitOnText "Bearer ".toList header.toList 0 [])[1]? with
    | some token => String.mk token
    | none => ""

/-- `mutationName.match(/^(create|update|delete)_(.+)$/)`: the operation and the table name.
The dot matches any character but a line terminator. -/
def parseMutationName (mutationName : String) : Option (String × String) :=
  ["create", "update", "delete"].findSome? fun operation =>
    let rest := mutationName.toList.drop (operation.length + 1)
    if (operation ++ "_").toList <+: mutationName.toList ∧ rest ≠ [] ∧
        rest.all (fun c => c ∉ ['\n', '\r', '\u2028', '\u2029']) then
      some (operation, String.mk rest)
    else none

/-- The method `middleware` looks a route up for: `GQL_QUERY` for a query, `GQL_MUTATION`
for anything else. -/
def routeMethod (operation : String) : String :=
  if operation = "query" then "GQL_QUERY" else "GQL_MUTATION"

/-- The default handler of each operation of a mutation. -/
def defaultHandler : String → Except String String
  | "create" => pure "return await $ctx.$repos.main.create($ctx.$body);"
  | "update" => pure "return await $ctx.$repos.main.update($ctx.$params.id, $ctx.$body);"
  | "delete" => pure ("await $ctx.$repos.main.delete($ctx.$params.id); " ++
      "return `Delete id $\x7b$ctx.$params.id\x7d successfully`;")
  | operation => throw ("Unsupported operation: " ++ operation)

/-- The default handler of a query. -/
def queryHandler : String := "return await $ctx.$repos.main.find();"

/-- What the model keeps of a mutation's `handlerCtx`: `$user`, `$body`, which is
`args.input || {}`, and `$params`, which is `{ id: args.id }`. -/
def mutationContext (user : Value) (input id : Option Value) : Record :=
  [("$user", user), ("$body", match input with
      | some body => if body.truthy then body else .obj []
      | none => .obj []),
    ("$params", .obj (match id with
      | some value => [("id", value)]
      | none => []))]

/-- What the model keeps of a query's `handlerCtx`: `$user`, and `$args` and `$query`, which
hold the same options. -/
def queryContext (user options : Value) : Record :=
  [("$user", user), ("$args", options), ("$query", options)]

/-- `if (result && result.data && Array.isArray(result.data)) return result.data[0]`, and
`result` otherwise; `none` is `undefined`. -/
def firstOfData (result : Value) : Option Value :=
  match result with
  | .obj fields =>
    match Record.get? fields "data" with
    | some (.arr items) => items.head?
    | _ => some result
  | _ => some result

/-! ### The resolvers -/

/-- The services around the resolvers that are not in the sources. -/
structure Services where
  /-- `routeEngine.find(method, path)`, the route it matched. -/
  findRoute : String → String → Option Value
  /-- The repositories of a mutation, of the table and of the route's `targetTables`, made
  and initialised. -/
  mutationRepos : String → Value → Except Err Unit
  /-- The repositories of a query, of the route's `mainTable` and `targetTables`. -/
  queryRepos : Value → Except Err Unit
  /-- `handlerExecutorService.run(code, handlerCtx, timeout)`. -/
  run : String → Record → Except Err Value

section Resolvers

variable (verify : String → Option Value)
  (findOneWhere : String → Option Value → Except Err (Option Record)) (services : Services)

/-- `middleware(mainTableName, context, info)`: the route it matched and the user `canPass`
resolved to. -/
def middleware (mainTableName operation : String) (context : GqlContext) :
    Except Err (Value × Value) :=
  if mainTableName = "" then throw (.graphql "400" "Missing table name")
  else
    match services.findRoute (routeMethod operation) ("/" ++ mainTableName) with
    | none => throw (.graphql "404" "Route not found")
    | some route =>
      (canPass verify findOneWhere (some route) (bearerToken context.requestAuthorization)).map
        (route, ·)

/-- The body of the `try` of `dynamicMutationResolver`, failing with the message of what it
threw. -/
def mutationBody (mutationName : String) (input id : Option Value) (operation : String)
    (context : GqlContext) : Except String (Option Value) :=
  match parseMutationName mutationName with
  | none => throw ("Invalid mutation name: " ++ mutationName)
  | some (op, tableName) => do
    let (route, user) ←
      (middleware verify findOneWhere services tableName operation context).mapError Err.message
    let _ ← (canPassMutation verify findOneWhere (some route)
      (context.reqAuthorization.getD "")).mapError Err.message
    (services.mutationRepos tableName route).mapError Err.message
    let handler ← defaultHandler op
    let result ← (services.run handler (mutationContext user input id)).mapError Err.message
    pure (firstOfData result)

/-- `dynamicMutationResolver(mutationName, args, context, info)`. -/
def dynamicMutationResolver (mutationName : String) (input id : Option Value)
    (operation : String) (context : GqlContext) : Except Err (Option Value) :=
  (mutationBody verify findOneWhere services mutationName input id operation context).mapError
    (.graphql "MUTATION_ERROR")

/-- `dynamicResolver(tableName, args, context, info)`, with the options it hands the handler
as `$args`. -/
def dynamicResolver (tableName : String) (options : Value) (operation : String)
    (context : GqlContext) : Except Err Value := do
  let (route, user) ← middleware verify findOneWhere services tableName operation context
  services.queryRepos route
  (services.run queryHandler (queryContext user options)).mapError
    fun e => .graphql "SCRIPT_ERROR" e.message

end Resolvers

/-! ### What a request that went through has shown -/

/-- A route that publishes queries and mutations. -/
def publicRoute : Value :=
  .obj [("isEnabled", .bool true), ("publishedMethods",
    .arr [.obj [("method", .str "GQL_QUERY")], .obj [("method", .str "GQL_MUTATION")]])]

/-- A token service that refuses a token with a space in it and reads any other as user 7. -/
def spaceFreeTokens (token : String) : Option Value :=
  if ' ' ∈ token.toList then none else some (.obj [("id", .num 7)])

/-- Services that match every table to `publicRoute`, and whose handler returns
`{ data: [{ id: 1 }] }`. -/
def publicServices : Services where
  findRoute _ _ := some publicRoute
  mutationRepos _ _ := pure ()
  queryRepos _ := pure ()
  run _ _ := pure (.obj [("data", .arr [.obj [("id", .num 1)]])])

/-- A request with `Bearer tok` in both headers. -/
def bearerRequest : GqlContext :=
  { requestAuthorization := some ("Bearer " ++ "tok"), reqAuthorization := some ("Bearer " ++ "tok") }

example : dynamicMutationResolver spaceFreeTokens storeOfUser publicServices "create_post" none
    none "mutation" bearerRequest = .ok (some (.obj [("id", .num 1)])) := rfl

section Access

variable (verify : String → Option Value)
  (findOneWhere : String → Option Value → Except Err (Option Record)) (services : Services)

/-- A request for `method` with `accessToken` that a route lets through: the route publishes
the method, or the token names a stored user who is a root admin or whose role a permission
of the route lists for the method. -/
def LetsThrough (method : String) (route : Record) (accessToken : String) : Prop :=
  Publishes method route ∨ ∃ user, Authenticates verify findOneWhere accessToken user ∧
    (truthyAt user "isRootAdmin" = true ∨ Permits method route user)

theorem middleware_eq_ok {mainTableName operation : String} {context : GqlContext}
    {route user : Value}
    (h : middleware verify findOneWhere services mainTableName operation context =
      .ok (route, user)) :
    services.findRoute (routeMethod operation) ("/" ++ mainTableName) = some route ∧
      canPass verify findOneWhere (some route) (bearerToken context.requestAuthorization) =
        .ok user := by
  unfold middleware at h
  split at h
  · cases h
  · split at h
    · cases h
    · rename_i found hroute
      cases hpass : canPass verify findOneWhere (some found)
          (bearerToken context.requestAuthorization) with
      | error e => rw [hpass] at h; cases h
      | ok passed => rw [hpass] at h; cases h; exact ⟨hroute, hpass⟩

theorem mutationBody_eq_ok {mutationName operation : String} {input id : Option Value}
    {context : GqlContext} {result : Option Value}
    (h : mutationBody verify findOneWhere services mutationName input id operation context =
      .ok result) :
    ∃ op tableName route user, parseMutationName mutationName = some (op, tableName) ∧
      middleware verify findOneWhere services tableName operation context = .ok (route, user) ∧
      (∃ mutationUser, canPassMutation verify findOneWhere (some route)
        (context.reqAuthorization.getD "") = .ok mutationUser) ∧
      ∃ handler handled, defaultHandler op = .ok handler ∧
        services.run handler (mutationContext user input id) = .ok handled ∧
        result = firstOfData handled := by
  unfold mutationBody at h
  split at h
  · cases h
  · rename_i op tableName hparse
    obtain ⟨⟨route, user⟩, hmiddleware, h⟩ := Except.bind_eq_ok h
    obtain ⟨mutationUser, hmutation, h⟩ := Except.bind_eq_ok h
    obtain ⟨_, -, h⟩ := Except.bind_eq_ok h
    obtain ⟨handler, hhandler, h⟩ := Except.bind_eq_ok h
    obtain ⟨handled, hrun, h⟩ := Except.bind_eq_ok h
    exact ⟨op, tableName, route, user, hparse, Except.mapError_eq_ok.mp hmiddleware,
      ⟨mutationUser, Except.mapError_eq_ok.mp hmutation⟩, handler, handled, hhandler,
      Except.mapError_eq_ok.mp hrun, (Except.ok.inj h).symm⟩

/-- The checks a mutation that went through has passed, read off the route it matched. -/
theorem mutationChecks {mutationName operation : String}
    {input id : Option Value} {context : GqlContext} {result : Option Value}
    (h : dynamicMutationResolver verify findOneWhere services mutationName input id operation
      context = .ok result) :
    ∃ op tableName fields, parseMutationName mutationName = some (op, tableName) ∧
      services.findRoute (routeMethod operation) ("/" ++ tableName) = some (.obj fields) ∧
      truthyAt fields "isEnabled" = true ∧
      LetsThrough verify findOneWhere "GQL_QUERY" fields
        (bearerToken context.requestAuthorization) ∧
      LetsThrough verify findOneWhere "GQL_MUTATION" fields (context.reqAuthorization.getD "") ∧
      ∃ user handler handled, canPass verify findOneWhere (some (.obj fields))
          (bearerToken context.requestAuthorization) = .ok user ∧
        defaultHandler op = .ok handler ∧
        services.run handler (mutationContext user input id) = .ok handled ∧
        result = firstOfData handled := by
  obtain ⟨op, tableName, route, user, hparse, hmiddleware, ⟨_, hmutation⟩, handler, handled,
    hhandler, hrun, rfl⟩ := mutationBody_eq_ok verify findOneWhere services
      (Except.mapError_eq_ok.mp h)
  obtain ⟨hfind, hpass⟩ := middleware_eq_ok verify findOneWhere services hmiddleware
  obtain ⟨fields, hroute, henabled, hquery⟩ := canPassFor_passes verify findOneWhere hpass
  obtain rfl := Option.some.inj hroute
  obtain ⟨_, hroute', -, hmutation⟩ := canPassFor_passes verify findOneWhere hmutation
  obtain rfl := Value.obj.inj (Option.some.inj hroute')
  exact ⟨op, tableName, fields, hparse, hfind, henabled, hquery, hmutation, user, handler,
    handled, hpass, hhandler, hrun, rfl⟩

/-- A mutation goes through only on an enabled route that lets the request through twice: for
`GQL_QUERY` with the bearer token of `context.request`, and for `GQL_MUTATION` with the whole
header of `context.req`; and its handler runs as the user of the first check. -/
theorem dynamicMutationResolver_access {mutationName operation : String}
    {input id : Option Value} {context : GqlContext} {result : Option Value}
    (h : dynamicMutationResolver verify findOneWhere services mutationName input id operation
      context = .ok result) :
    ∃ op tableName fields, parseMutationName mutationName = some (op, tableName) ∧
      services.findRoute (routeMethod operation) ("/" ++ tableName) = some (.obj fields) ∧
      truthyAt fields "isEnabled" = true ∧
      LetsThrough verify findOneWhere "GQL_QUERY" fields
        (bearerToken context.requestAuthorization) ∧
      LetsThrough verify findOneWhere "GQL_MUTATION" fields (context.reqAuthorization.getD "") ∧
      ∃ user handler handled, canPass verify findOneWhere (some (.obj fields))
          (bearerToken context.requestAuthorization) = .ok user ∧
        defaultHandler op = .ok handler ∧
        services.run handler (mutationContext user input id) = .ok handled ∧
        result = firstOfData handled :=
  mutationChecks verify findOneWhere services h

theorem dynamicMutationResolver_access_public :
    dynamicMutationResolver spaceFreeTokens storeOfUser publicServices "create_post" none none
        "mutation" bearerRequest = .ok (some (.obj [("id", .num 1)])) ∧
      ∃ op tableName fields, parseMutationName "create_post" = some (op, tableName) ∧
        publicServices.findRoute (routeMethod "mutation") ("/" ++ tableName) =
          some (.obj fields) ∧
        truthyAt fields "isEnabled" = true ∧
        LetsThrough spaceFreeTokens storeOfUser "GQL_QUERY" fields
          (bearerToken bearerRequest.requestAuthorization) ∧
        LetsThrough spaceFreeTokens storeOfUser "GQL_MUTATION" fields
          (bearerRequest.reqAuthorization.getD "") ∧
        ∃ user handler handled, canPass spaceFreeTokens storeOfUser (some (.obj fields))
            (bearerToken bearerRequest.requestAuthorization) = .ok user ∧
          defaultHandler op = .ok handler ∧
          publicServices.run handler (mutationContext user none none) = .ok handled ∧
          some (.obj [("id", .num 1)]) = firstOfData handled :=
  ⟨rfl, dynamicMutationResolver_access spaceFreeTokens storeOfUser publicServices rfl⟩

/-- A query goes through only when the route it matched lets the bearer token through for
`GQL_QUERY`, and its handler runs as the user `canPass` resolved to. -/
theorem dynamicResolver_access {tableName operation : String} {options result : Value}
    {context : GqlContext}
    (h : dynamicResolver verify findOneWhere services tableName options operation context =
      .ok result) :
    ∃ fields, services.findRoute (routeMethod operation) ("/" ++ tableName) = some (.obj fields) ∧
      truthyAt fields "isEnabled" = true ∧
      LetsThrough verify findOneWhere "GQL_QUERY" fields
        (bearerToken context.requestAuthorization) ∧
      ∃ user, canPass verify findOneWhere (some (.obj fields))
          (bearerToken context.requestAuthorization) = .ok user ∧
        services.run queryHandler (queryContext user options) = .ok result := by
  obtain ⟨⟨route, user⟩, hmiddleware, h⟩ := Except.bind_eq_ok h
  obtain ⟨_, -, hrun⟩ := Except.bind_eq_ok h
  obtain ⟨hfind, hpass⟩ := middleware_eq_ok verify findOneWhere services hmiddleware
  obtain ⟨fields, hroute, henabled, hquery⟩ := canPassFor_passes verify findOneWhere hpass
  obtain rfl := Option.some.inj hroute
  exact ⟨fields, hfind, henabled, hquery, user, hpass, Except.mapError_eq_ok.mp hrun⟩

theorem dynamicResolver_access_public :
    dynamicResolver spaceFreeTokens storeOfUser publicServices "post" (.obj []) "query"
        bearerRequest = .ok (.obj [("data", .arr [.obj [("id", .num 1)]])]) ∧
      ∃ fields, publicServices.findRoute (routeMethod "query") ("/" ++ "post") =
          some (.obj fields) ∧
        truthyAt fields "isEnabled" = true ∧
        LetsThrough spaceFreeTokens storeOfUser "GQL_QUERY" fields
          (bearerToken bearerRequest.requestAuthorization) ∧
        ∃ user, canPass spaceFreeTokens storeOfUser (some (.obj fields))
            (bearerToken bearerRequest.requestAuthorization) = .ok user ∧
          publicServices.run queryHandler (queryContext user (.obj [])) =
            .ok (.obj [("data", .arr [.obj [("id", .num 1)]])]) :=
  ⟨rfl, dynamicResolver_access spaceFreeTokens storeOfUser publicServices rfl⟩

end Access

/-! ### The bearer token -/

theorem splitOnText_skip (separator : List Char) (piece : List Char) :
    ∀ (skipped s : List Char),
      splitOnText separator (skipped ++ s) skipped.length piece =
        splitOnText separator s 0 piece
  | [], _ => rfl
  | _ :: skipped, s => splitOnText_skip separator piece skipped s

/-- Text that holds no separator is one piece. -/
theorem splitOnText_of_not_infix {separator : List Char} :
    ∀ {s : List Char} (piece : List Char), ¬ separator <:+: s →
      splitOnText separator s 0 piece = [piece.reverse ++ s]
  | [], piece, _ => by simp [splitOnText]
  | c :: rest, piece, h => by
      have hprefix : ¬ separator <+: c :: rest := fun hp => h hp.isInfix
      have hrest : ¬ separator <:+: rest := fun hi => h (hi.trans (List.suffix_cons c rest).isInfix)
      rw [splitOnText, if_neg hprefix, splitOnText_of_not_infix _ hrest]
      simp

/-- A separator at the head ends the piece before it. -/
theorem splitOnText_separator {separator : List Char} (h : separator ≠ []) (s piece : List Char) :
    splitOnText separator (separator ++ s) 0 piece =
      piece.reverse :: splitOnText separator s 0 [] := by
  obtain ⟨c, separator', rfl⟩ := List.exists_cons_of_ne_nil h
  rw [List.cons_append, splitOnText, if_pos (by simp),
    List.length_cons, Nat.add_sub_cancel, splitOnText_skip]

/-- The header `Bearer <token>` hands `canPass` the token, for a token that does not itself
hold `Bearer `. -/
theorem bearerToken_bearer {token : String} (h : ¬ "Bearer ".toList <:+: token.toList) :
    bearerToken (some ("Bearer " ++ token)) = token := by
  have hsplit : splitOnText "Bearer ".toList ("Bearer " ++ token).toList 0 [] =
      [[], token.toList] := by
    show splitOnText _ ("Bearer ".toList ++ token.toList) 0 [] = _
    rw [splitOnText_separator (by decide), splitOnText_of_not_infix _ h]
    rfl
  simp only [bearerToken, hsplit]
  rfl

/-! ### A mutation sent with a bearer token -/

section Bearer

variable (verify : String → Option Value)
  (findOneWhere : String → Option Value → Except Err (Option Record)) (services : Services)

/-- When the token service refuses every token with a space in it, a mutation sent with
`Bearer <token>` in both headers goes through only on a route that publishes `GQL_MUTATION`,
and lets the token through for `GQL_QUERY`: `canPassMutation` is handed the whole header,
which no user's role or admin flag gets past. -/
theorem dynamicMutationResolver_bearer
    (hverify : ∀ token, ' ' ∈ token.toList → verify token = none) {token : String}
    (hclean : ¬ "Bearer ".toList <:+: token.toList) {mutationName operation : String}
    {input id : Option Value} {context : GqlContext} {result : Option Value}
    (hrequest : context.requestAuthorization = some ("Bearer " ++ token))
    (hreq : context.reqAuthorization = some ("Bearer " ++ token))
    (h : dynamicMutationResolver verify findOneWhere services mutationName input id operation
      context = .ok result) :
    ∃ op tableName fields, parseMutationName mutationName = some (op, tableName) ∧
      services.findRoute (routeMethod operation) ("/" ++ tableName) = some (.obj fields) ∧
      LetsThrough verify findOneWhere "GQL_QUERY" fields token ∧
      Publishes "GQL_MUTATION" fields := by
  obtain ⟨op, tableName, fields, hparse, hfind, -, hquery, hmutation, -⟩ :=
    mutationChecks verify findOneWhere services h
  rw [hrequest, bearerToken_bearer hclean] at hquery
  rw [hreq, Option.getD_some] at hmutation
  refine ⟨op, tableName, fields, hparse, hfind, hquery, hmutation.resolve_right ?_⟩
  rintro ⟨user, ⟨decoded, -, -, hdecoded, -⟩, -⟩
  have hspace : ' ' ∈ ("Bearer " ++ token).toList :=
    show ' ' ∈ "Bearer ".toList ++ token.toList from List.mem_append_left _ (by decide)
  rw [hverify _ hspace] at hdecoded
  cases hdecoded

theorem dynamicMutationResolver_bearer_public :
    (∀ token, ' ' ∈ token.toList → spaceFreeTokens token = none) ∧
      ¬ "Bearer ".toList <:+: "tok".toList ∧
      bearerRequest.requestAuthorization = some ("Bearer " ++ "tok") ∧
      bearerRequest.reqAuthorization = some ("Bearer " ++ "tok") ∧
      dynamicMutationResolver spaceFreeTokens storeOfUser publicServices "create_post" none none
        "mutation" bearerRequest = .ok (some (.obj [("id", .num 1)])) ∧
      ∃ op tableName fields, parseMutationName "create_post" = some (op, tableName) ∧
        publicServices.findRoute (routeMethod "mutation") ("/" ++ tableName) =
          some (.obj fields) ∧
        LetsThrough spaceFreeTokens storeOfUser "GQL_QUERY" fields "tok" ∧
        Publishes "GQL_MUTATION" fields :=
  ⟨fun _ h => if_pos h, by decide, rfl, rfl, rfl,
    @dynamicMutationResolver_bearer spaceFreeTokens storeOfUser publicServices
      (fun _ h => if_pos h) "tok" (by decide) "create_post" "mutation" none none bearerRequest
      (some (.obj [("id", .num 1)])) rfl rfl rfl⟩

end Bearer

end Enfyra.DynamicResolver
