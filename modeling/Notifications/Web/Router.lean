import Notifications.Web.Service

/-!
# The router

The stacks of `NewRouter`, under their methods and paths, and `Routes`, which
registers them in the order in which Go ranges over the map: any order at all.
-/

set_option autoImplicit false

namespace Notifications.Web

open Notifications.Lib Notifications.Web.Mux

/-- `mother.Authenticator(scopes...)`. -/
def Mother.authenticator (mother : Mother) (scopes : List String) :
    Middleware :=
  Authenticator.middleware mother.jwt ⟨scopes, mother.uaaPublicKey⟩

section Collated

variable [Models.Collation]

/-- The map of `NewRouter`; the request counter is given the router. -/
def stackMap (mother : Mother) (requestCounter : Middleware) :
    List (String × Stack) :=
  let notificationsWrite := mother.authenticator ["notifications.write"]
  let notificationsManage := mother.authenticator ["notifications.manage"]
  let preferencesRead := mother.authenticator ["notification_preferences.read"]
  let preferencesWrite :=
    mother.authenticator ["notification_preferences.write"]
  let preferencesAdmin :=
    mother.authenticator ["notification_preferences.admin"]
  let emailsWrite := mother.authenticator ["emails.write"]
  let templatesWrite := mother.authenticator ["notification_templates.write"]
  let templatesRead := mother.authenticator ["notification_templates.read"]
  let notificationsOrEmailsWrite :=
    mother.authenticator ["notifications.write", "emails.write"]
  let cors := cors mother.corsOrigin
  [ ("GET /info",
      ⟨GetInfo.serveHTTP, [logging, requestCounter]⟩),
    ("POST /users/{user_id}",
      ⟨NotifyUser.serveHTTP mother,
        [logging, requestCounter, notificationsWrite]⟩),
    ("POST /spaces/{space_id}",
      ⟨NotifySpace.serveHTTP mother,
        [logging, requestCounter, notificationsWrite]⟩),
    ("POST /organizations/{org_id}",
      ⟨NotifyOrganization.serveHTTP mother,
        [logging, requestCounter, notificationsWrite]⟩),
    ("POST /everyone",
      ⟨NotifyEveryone.serveHTTP mother,
        [logging, requestCounter, notificationsWrite]⟩),
    ("POST /uaa_scopes/{scope}",
      ⟨NotifyUAAScope.serveHTTP mother,
        [logging, requestCounter, notificationsWrite]⟩),
    ("POST /emails",
      ⟨NotifyEmail.serveHTTP mother, [logging, requestCounter, emailsWrite]⟩),
    ("PUT /registration",
      ⟨RegisterNotifications.serveHTTP mother,
        [logging, requestCounter, notificationsWrite]⟩),
    ("PUT /notifications",
      ⟨RegisterClientWithNotifications.serveHTTP mother,
        [logging, requestCounter, notificationsWrite]⟩),
    ("PUT /clients/{client_id}/notifications/{notification_id}",
      ⟨UpdateNotifications.serveHTTP mother,
        [logging, requestCounter, notificationsManage]⟩),
    ("GET /notifications",
      ⟨GetAllNotifications.serveHTTP,
        [logging, requestCounter, notificationsManage]⟩),
    ("OPTIONS /user_preferences",
      ⟨OptionsPreferences.serveHTTP, [logging, requestCounter, cors]⟩),
    ("OPTIONS /user_preferences/{user_id}",
      ⟨OptionsPreferences.serveHTTP, [logging, requestCounter, cors]⟩),
    ("GET /user_preferences",
      ⟨GetPreferences.serveHTTP,
        [logging, requestCounter, cors, preferencesRead]⟩),
    ("GET /user_preferences/{user_id}",
      ⟨GetPreferencesForUser.serveHTTP,
        [logging, requestCounter, cors, preferencesAdmin]⟩),
    ("PATCH /user_preferences",
      ⟨UpdatePreferences.serveHTTP mother,
        [logging, requestCounter, cors, preferencesWrite]⟩),
    ("PATCH /user_preferences/{user_id}",
      ⟨UpdateSpecificUserPreferences.serveHTTP mother,
        [logging, requestCounter, cors, preferencesAdmin]⟩),
    ("POST /templates",
      ⟨CreateTemplate.serveHTTP mother,
        [logging, requestCounter, templatesWrite]⟩),
    ("GET /default_template",
      ⟨GetDefaultTemplate.serveHTTP mother,
        [logging, requestCounter, templatesRead]⟩),
    ("PUT /default_template",
      ⟨UpdateDefaultTemplate.serveHTTP mother,
        [logging, requestCounter, templatesWrite]⟩),
    ("GET /templates/{template_id}",
      ⟨GetTemplates.serveHTTP mother,
        [logging, requestCounter, templatesRead]⟩),
    ("PUT /templates/{template_id}",
      ⟨UpdateTemplates.serveHTTP mother,
        [logging, requestCounter, templatesWrite]⟩),
    ("DELETE /templates/{template_id}",
      ⟨DeleteTemplates.serveHTTP, [logging, requestCounter, templatesWrite]⟩),
    ("GET /templates",
      ⟨ListTemplates.serveHTTP, [logging, requestCounter, templatesRead]⟩),
    ("PUT /clients/{client_id}/template",
      ⟨AssignClientTemplate.serveHTTP,
        [logging, requestCounter, notificationsManage]⟩),
    ("PUT /clients/{client_id}/notifications/{notification_id}/template",
      ⟨AssignNotificationTemplate.serveHTTP,
        [logging, requestCounter, notificationsManage]⟩),
    ("GET /templates/{template_id}/associations",
      ⟨ListTemplateAssociations.serveHTTP,
        [logging, requestCounter, notificationsManage]⟩),
    ("GET /messages/{message_id}",
      ⟨GetMessages.serveHTTP,
        [logging, requestCounter, notificationsOrEmailsWrite]⟩) ]

/-- `strings.SplitN(methodPath, " ", 2)`, and the registration of a route. -/
def register {Handler : Type} (entry : String × Handler) :
    Option (Route Handler) :=
  (cut [' '] entry.1.toList).map fun parts =>
    handle (String.ofList parts.2) entry.2 (String.ofList parts.1) entry.1

/-- `Routes`, with the entries in the order of the range. -/
def routes {Handler : Type} (entries : List (String × Handler)) :
    List (Route Handler) :=
  entries.filterMap register

/-- The routes as the request counter sees them: by their names. -/
def namedRoutes (names : List String) : List (Route Unit) :=
  routes (names.map fun name => (name, ()))

/-- `NewRouter` and `Routes`: all of the stacks, in some order. -/
structure Router (mother : Mother) where
  entries : List (String × Stack)
  complete : entries.Perm
    (stackMap mother (requestCounter (namedRoutes (entries.map Prod.fst))))

namespace Router

variable {mother : Mother}

/-- `http.NotFound`. -/
def notFound : Stack.Response where
  code := 404
  header := [("Content-Type", "text/plain; charset=utf-8")]
  body := [.text "404 page not found\n"]

def serveHTTP (router : Router mother) (request : HttpRequest) :
    Prog Stack.Response :=
  match Mux.Router.serveHTTP (routes router.entries) request.method
      request.path with
  | .moved path =>
      pure ⟨301, [("Location", urlString path request.rawQuery)], []⟩
  | .notFound => pure notFound
  | .handled found => found.route.handler.serveHTTP request

end Router

/-! ## The order of the range -/

def methodPaths : List String :=
  [ "GET /info",
    "POST /users/{user_id}",
    "POST /spaces/{space_id}",
    "POST /organizations/{org_id}",
    "POST /everyone",
    "POST /uaa_scopes/{scope}",
    "POST /emails",
    "PUT /registration",
    "PUT /notifications",
    "PUT /clients/{client_id}/notifications/{notification_id}",
    "GET /notifications",
    "OPTIONS /user_preferences",
    "OPTIONS /user_preferences/{user_id}",
    "GET /user_preferences",
    "GET /user_preferences/{user_id}",
    "PATCH /user_preferences",
    "PATCH /user_preferences/{user_id}",
    "POST /templates",
    "GET /default_template",
    "PUT /default_template",
    "GET /templates/{template_id}",
    "PUT /templates/{template_id}",
    "DELETE /templates/{template_id}",
    "GET /templates",
    "PUT /clients/{client_id}/template",
    "PUT /clients/{client_id}/notifications/{notification_id}/template",
    "GET /templates/{template_id}/associations",
    "GET /messages/{message_id}" ]

theorem stackMap_keys (mother : Mother) (requestCounter : Middleware) :
    (stackMap mother requestCounter).map Prod.fst = methodPaths := rfl

section Registered

variable {Handler : Type}

def erase (route : Route Handler) : Route Unit :=
  { route with handler := () }

omit [Models.Collation] in
theorem register_erase (entry : String × Handler) :
    (register entry).map erase = register (entry.1, ()) := by
  rw [register, register, Option.map_map]
  rfl

omit [Models.Collation] in
theorem routes_erase (entries : List (String × Handler)) :
    (routes entries).map erase = namedRoutes (entries.map Prod.fst) := by
  rw [routes, List.map_filterMap, namedRoutes, routes, List.map_map,
    List.filterMap_map]
  congr 1
  funext entry
  exact register_erase entry

instance : DecidableRel (@Route.Apart Handler) := fun route other =>
  decidable_of_iff
    ((∀ method ∈ route.methods, method ∉ other.methods) ∨
      (match route.path, other.path with
        | some tokens, some others => templatesApart tokens others
        | _, _ => true) = true) <| by
    rw [Route.Apart]
    apply or_congr Iff.rfl
    cases route.path with
    | none => simp
    | some tokens => cases other.path with
      | none => simp
      | some others => simp

instance : DecidablePred (@Route.Parsed Handler) := fun route =>
  decidable_of_iff
    ((route.path.any fun tokens => decide (Separated tokens)) = true) <| by
    rw [Route.Parsed]
    cases route.path <;> simp

end Registered

end Collated

/-- The registration of a route, read off the characters of its key. -/
theorem register_eq {Handler : Type} : @register Handler = fun entry =>
    (cut [' '] entry.1.toList).map fun parts =>
      ⟨if parts.2.head? = some '/' then parseTemplate 0 [] parts.2 else none,
        [String.ofList parts.1], entry.2, entry.1⟩ := by
  funext entry
  simp [register, handle, newRouteRegexp]

theorem methodPaths_apart :
    (namedRoutes methodPaths).Pairwise Route.Apart := by
  rw [namedRoutes, routes, register_eq]
  decide +kernel

theorem methodPaths_parsed :
    ∀ route ∈ namedRoutes methodPaths, route.Parsed := by
  rw [namedRoutes, routes, register_eq]
  decide +kernel

theorem name_mem_of_namedRoutes {names : List String} {route : Route Unit}
    (member : route ∈ namedRoutes names) : route.name ∈ names := by
  obtain ⟨entry, listed, registered⟩ := List.mem_filterMap.mp member
  obtain ⟨name, known, rfl⟩ := List.mem_map.mp listed
  obtain ⟨_, _, rfl⟩ := Option.map_eq_some_iff.mp registered
  exact known

theorem matches_named {names : List String} (perm : names.Perm methodPaths)
    (method path : String) :
    Mux.Router.matches (namedRoutes names) method path =
      Mux.Router.matches (namedRoutes methodPaths) method path := by
  have routed : (namedRoutes methodPaths).Perm (namedRoutes names) :=
    List.Perm.filterMap register (perm.symm.map fun name => (name, ()))
  exact (matches_perm routed methodPaths_parsed methodPaths_apart method
    path).symm

/-- The order does not matter to the request counter. -/
theorem requestCounter_named {names : List String}
    (perm : names.Perm methodPaths) :
    requestCounter (namedRoutes names) =
      requestCounter (namedRoutes methodPaths) := by
  funext request context
  rw [requestCounter, requestCounter, endpointTag, endpointTag,
    matches_named perm]

theorem methodPaths_metric :
    ∀ name ∈ methodPaths, (convertNameToMetricPath name).isSome = true := by
  decide +kernel

theorem requestCounter_passes (request : HttpRequest) (context : Context) :
    requestCounter (namedRoutes methodPaths) request context =
      pure ⟨.new, true, context⟩ := by
  have tagged :
      (endpointTag (namedRoutes methodPaths) request).isSome = true := by
    rw [endpointTag]
    cases matched : Mux.Router.matches (namedRoutes methodPaths)
        request.method request.path with
    | none => rfl
    | some found =>
        obtain ⟨route, member, here⟩ :=
          List.exists_of_findSome?_eq_some matched
        obtain ⟨tokens, template, separated⟩ := methodPaths_parsed route member
        obtain ⟨_, _, _, rfl⟩ := (matches_iff template separated).mp here
        obtain ⟨metric, converted⟩ := Option.isSome_iff_exists.mp
          (methodPaths_metric _ (name_mem_of_namedRoutes member))
        simp [converted]
  obtain ⟨tag, tagged⟩ := Option.isSome_iff_exists.mp tagged
  rw [requestCounter, tagged]

section Collated

variable [Models.Collation]

namespace Router

variable {mother : Mother} (router : Router mother)

theorem keys : (router.entries.map Prod.fst).Perm methodPaths := by
  have perm := router.complete.map Prod.fst
  rwa [stackMap_keys] at perm

theorem entries_perm : router.entries.Perm
    (stackMap mother (requestCounter (namedRoutes methodPaths))) := by
  have perm := router.complete
  rwa [requestCounter_named router.keys] at perm

theorem erased : ((routes router.entries).map erase).Perm
    (namedRoutes methodPaths) := by
  rw [routes_erase]
  exact (router.keys.map _).filterMap _

theorem parsed : ∀ route ∈ routes router.entries, route.Parsed := by
  intro route member
  have listed := router.erased.subset (List.mem_map_of_mem member)
  exact methodPaths_parsed _ listed

theorem apart : (routes router.entries).Pairwise Route.Apart := by
  have perm := router.erased.symm.pairwise methodPaths_apart
    fun apart => apart.symm
  exact (List.pairwise_map.mp perm).imp fun apart => apart

/-- What the server does does not depend on the order in which Go ranges over
the map of stacks. -/
theorem serveHTTP_order_irrelevant (other : Router mother)
    (request : HttpRequest) :
    router.serveHTTP request = other.serveHTTP request := by
  have perm : (routes router.entries).Perm (routes other.entries) :=
    (router.entries_perm.trans other.entries_perm.symm).filterMap _
  rw [serveHTTP, serveHTTP,
    Mux.serveHTTP_perm perm router.parsed router.apart]

/-! ## Dispatching -/

section Dispatched

variable {router} {request : HttpRequest} {found : RouteMatch Stack}

/-- What is dispatched is one of the stacks, with the values of its
template. -/
theorem dispatched (served : Mux.Router.serveHTTP (routes router.entries)
      request.method request.path = .handled found) :
    Clean request.path.toList ∧ found.route ∈ routes router.entries ∧
      found.route.matches request.method request.path = some found := by
  rw [Mux.Router.serveHTTP] at served
  split at served
  · cases served
  · rename_i clean
    split at served
    · rename_i other matched
      cases served
      obtain ⟨route, member, here⟩ := List.exists_of_findSome?_eq_some matched
      obtain ⟨tokens, template, separated⟩ := router.parsed route member
      obtain ⟨_, values, _, rfl⟩ := (matches_iff template separated).mp here
      exact ⟨clean_iff.mp (not_not.mp clean), member, here⟩
    · cases served

/-- A request that a route matches goes to the stack behind the route. -/
theorem serveHTTP_of_matches {name : String} {stack : Stack}
    (listed : (name, stack) ∈ router.entries)
    (clean : cleanPath request.path.toList = request.path.toList)
    (here : ((register (name, stack)).any fun route =>
      (route.matches request.method request.path).isSome) = true) :
    router.serveHTTP request = stack.serveHTTP request := by
  obtain ⟨route, registered, here⟩ := (Option.any_eq_true _ _).mp here
  obtain ⟨found, here⟩ := Option.isSome_iff_exists.mp here
  have member : route ∈ routes router.entries :=
    List.mem_filterMap.mpr ⟨_, listed, registered⟩
  have matched := matches_of_mem router.parsed router.apart member here
  obtain ⟨tokens, template, separated⟩ := router.parsed route member
  obtain ⟨_, values, _, rfl⟩ := (matches_iff template separated).mp here
  obtain ⟨parts, _, rfl⟩ := Option.map_eq_some_iff.mp registered
  rw [serveHTTP, Mux.Router.serveHTTP]
  simp only [clean, ne_eq, not_true_eq_false, if_false, matched]
  rfl

omit [Models.Collation] in
/-- A route is named after the key that it was registered under. -/
theorem register_of_mem {Handler : Type} {entries : List (String × Handler)}
    {route : Route Handler} (member : route ∈ routes entries) :
    register (route.name, route.handler) = some route := by
  obtain ⟨entry, _, registered⟩ := List.mem_filterMap.mp member
  rw [register, Option.map_eq_some_iff] at registered
  obtain ⟨parts, split, rfl⟩ := registered
  rw [register, Option.map_eq_some_iff]
  exact ⟨parts, split, rfl⟩

/-- Logging and the counter let every request through to the rest of its
stack. -/
theorem serveHTTP_counted {name : String} {handler : Handler}
    {wares : List Middleware}
    (listed : (name, Stack.mk handler
        (logging :: requestCounter (namedRoutes methodPaths) :: wares)) ∈
      stackMap mother (requestCounter (namedRoutes methodPaths)))
    (clean : cleanPath request.path.toList = request.path.toList)
    (here : ((register (name, Stack.mk handler
        (logging :: requestCounter (namedRoutes methodPaths) :: wares))).any
      fun route => (route.matches request.method request.path).isSome) =
        true) :
    router.serveHTTP request = Program.recover (fun _ => Stack.recovered)
      (Stack.through handler request wares ⟨none⟩ ⟨200, [], []⟩) := by
  rw [serveHTTP_of_matches (router.entries_perm.symm.subset listed) clean here,
    Stack.serveHTTP, Stack.through]
  simp only [logging, Program.pure_eq, Program.ret_bind, Stack.through,
    requestCounter_passes]
  rfl

end Dispatched

end Router

end Collated

/-! ## The variables of a path -/

/-- How the handler of a route takes the variables from the request, and which
variables it gets that way. -/
structure Reading where
  methodPath : String
  read : HttpRequest → Option (List String)
  legible : HttpRequest → List String → Prop

def inOneLine (_ : HttpRequest) (values : List String) : Prop :=
  ∀ value ∈ values, '\n' ∉ value.toList

/-- Nothing of the variable is escaped in a URL, and there is no query. -/
def unescaped (request : HttpRequest) (values : List String) : Prop :=
  (∀ value ∈ values, ∀ char ∈ value.toList, pathChar char = true) ∧
    request.rawQuery = ""

def always (_ : HttpRequest) (_ : List String) : Prop := True

/-- The handlers behind templates with variables. -/
def readings : List Reading :=
  [ ⟨"POST /users/{user_id}",
      fun request => some [NotifyUser.userGUID request.path], always⟩,
    ⟨"POST /spaces/{space_id}",
      fun request => some [NotifySpace.spaceGUID request.path], always⟩,
    ⟨"POST /organizations/{org_id}",
      fun request => some [NotifyOrganization.organizationGUID request.path],
      always⟩,
    ⟨"POST /uaa_scopes/{scope}",
      fun request => some [NotifyUAAScope.scope request.path], always⟩,
    ⟨"GET /user_preferences/{user_id}",
      fun request => some [GetPreferencesForUser.parseGUID request.path],
      always⟩,
    ⟨"PATCH /user_preferences/{user_id}",
      fun request => (parseGUID request.path).map fun userGUID => [userGUID],
      inOneLine⟩,
    ⟨"GET /templates/{template_id}",
      fun request => GetTemplates.templateID request.path, always⟩,
    ⟨"PUT /templates/{template_id}",
      fun request => UpdateTemplates.templateID request.path request.rawQuery,
      unescaped⟩,
    ⟨"DELETE /templates/{template_id}",
      fun request => DeleteTemplates.templateID request.path, always⟩,
    ⟨"GET /messages/{message_id}",
      fun request => GetMessages.messageID request.path, always⟩,
    ⟨"PUT /clients/{client_id}/template",
      fun request => AssignClientTemplate.clientID request.path, inOneLine⟩,
    ⟨"PUT /clients/{client_id}/notifications/{notification_id}",
      fun request => UpdateNotifications.parseURL request.path, inOneLine⟩,
    ⟨"PUT /clients/{client_id}/notifications/{notification_id}/template",
      fun request => AssignNotificationTemplate.parseURL request.path,
      inOneLine⟩,
    ⟨"GET /templates/{template_id}/associations",
      fun request => ListTemplateAssociations.parseTemplateID request.path,
      inOneLine⟩ ]

theorem spells_last {quote name text : List Char} {values : List (List Char)}
    (spelled : Spells (quote.map Token.char ++ [.var name]) values text) :
    ∃ value, values = [value] ∧ text = quote ++ value ∧ '/' ∉ value := by
  induction quote generalizing text with
  | nil =>
      cases spelled with
      | var name filled single rest =>
          cases rest
          exact ⟨_, rfl, by simp, single⟩
  | cons char quote ih =>
      cases spelled with
      | char _ rest =>
          obtain ⟨value, rfl, rfl, single⟩ := ih rest
          exact ⟨value, rfl, rfl, single⟩

theorem mem_map_ofList {values : List (List Char)}
    {holds : List Char → Prop} :
    (∀ value ∈ values.map String.ofList, holds value.toList) ↔
      ∀ value ∈ values, holds value := by
  simp

section Readings

variable {route : Route Stack} {request : HttpRequest}
  {found : RouteMatch Stack}

theorem values_of_matches {template method : String} {tokens : List Token}
    (registered : register (route.name, route.handler) = some route)
    (key : cut [' '] route.name.toList =
      some (method.toList, template.toList))
    (rooted : template.toList.head? = some '/')
    (parsed : newRouteRegexp template = some tokens)
    (separated : Separated tokens)
    (here : route.matches request.method request.path = some found) :
    ∃ values, Spells tokens values request.path.toList ∧
      found.vars.map Prod.snd = values.map String.ofList := by
  have path : route.path = some tokens := by
    rw [register, key] at registered
    have same := Option.some.inj registered
    rw [← same]
    simp only [handle, String.ofList_toList]
    rw [if_pos rooted, parsed]
  obtain ⟨_, values, spelled, rfl⟩ := (matches_iff path separated).mp here
  refine ⟨values, spelled, ?_⟩
  have lengths := spells_length spelled
  rw [List.map_map]
  have second : (Prod.snd ∘ fun pair : List Char × List Char =>
      (String.ofList pair.1, String.ofList pair.2)) =
        String.ofList ∘ Prod.snd := rfl
  rw [second, ← List.map_map, List.map_snd_zip (by omega)]

/-- The value of a template that ends with its only variable. -/
theorem value_of_matches {template method : String}
    {quote name : List Char}
    (registered : register (route.name, route.handler) = some route)
    (key : cut [' '] route.name.toList =
      some (method.toList, template.toList))
    (rooted : template.toList.head? = some '/')
    (parsed : newRouteRegexp template =
      some (quote.map Token.char ++ [.var name]))
    (separated : Separated (quote.map Token.char ++ [.var name]))
    (here : route.matches request.method request.path = some found) :
    ∃ value, request.path.toList = quote ++ value ∧ '/' ∉ value ∧
      found.vars.map Prod.snd = [String.ofList value] := by
  obtain ⟨values, spelled, same⟩ :=
    values_of_matches registered key rooted parsed separated here
  obtain ⟨value, rfl, path, single⟩ := spells_last spelled
  exact ⟨value, path, single, same⟩

theorem submatches_of_matches {template method : String}
    (registered : register (route.name, route.handler) = some route)
    (key : cut [' '] route.name.toList =
      some (method.toList, template.toList))
    (rooted : template.toList.head? = some '/')
    (fine : ∃ tokens, newRouteRegexp template = some tokens ∧
      Separated tokens)
    (here : route.matches request.method request.path = some found) :
    submatches template request.path = some (found.vars.map Prod.snd) ↔
      inOneLine request (found.vars.map Prod.snd) := by
  obtain ⟨tokens, parsed, separated⟩ := fine
  obtain ⟨values, spelled, same⟩ :=
    values_of_matches registered key rooted parsed separated here
  rw [same, submatches_iff parsed separated spelled, inOneLine]
  exact mem_map_ofList.symm

end Readings

/-- Every template with variables has a handler that reads them, apart from the
answer to `OPTIONS`. -/
theorem readings_complete : ∀ name ∈ methodPaths,
    name ∈ readings.map Reading.methodPath ∨
      name = "OPTIONS /user_preferences/{user_id}" ∨
      ((register (name, ())).bind Route.path).any
        (fun tokens => (names tokens).isEmpty) = true := by
  decide +kernel

section Collated

variable [Models.Collation]

/-- Each handler takes from a dispatched request exactly the variables of its
route, unless there is a line end in one of them, or, where the handler reads
the text of the URL, something is escaped there or a query follows. -/
theorem handlers_read_variables {mother : Mother} (router : Router mother)
    (request : HttpRequest) (found : RouteMatch Stack)
    (served : Mux.Router.serveHTTP (routes router.entries) request.method
      request.path = .handled found)
    (reading : Reading) (listed : reading ∈ readings)
    (named : reading.methodPath = found.route.name) :
    reading.read request = some (found.vars.map Prod.snd) ↔
      reading.legible request (found.vars.map Prod.snd) := by
  obtain ⟨_, member, here⟩ := Router.dispatched served
  have registered := Router.register_of_mem member
  generalize found.route = route at member here registered named
  have last {method template quote name : String}
      (key : cut [' '] reading.methodPath.toList =
        some (method.toList, template.toList))
      (rooted : template.toList.head? = some '/')
      (parsed : newRouteRegexp template =
        some (quote.toList.map Token.char ++ [.var name.toList]))
      (separated : Separated
        (quote.toList.map Token.char ++ [.var name.toList])) :
      ∃ value, request.path.toList = quote.toList ++ value ∧ '/' ∉ value ∧
        found.vars.map Prod.snd = [String.ofList value] :=
    value_of_matches registered (named ▸ key) rooted parsed separated here
  have pattern {method template : String}
      (key : cut [' '] reading.methodPath.toList =
        some (method.toList, template.toList))
      (rooted : template.toList.head? = some '/')
      (fine : ∃ tokens, newRouteRegexp template = some tokens ∧
        Separated tokens) :
      submatches template request.path = some (found.vars.map Prod.snd) ↔
        inOneLine request (found.vars.map Prod.snd) :=
    submatches_of_matches registered (named ▸ key) rooted fine here
  clear named registered member here served
  have trims {method template start name : String}
      (key : cut [' '] reading.methodPath.toList =
        some (method.toList, template.toList))
      (rooted : template.toList.head? = some '/')
      (parsed : newRouteRegexp template =
        some (start.toList.map Token.char ++ [.var name.toList]))
      (separated : Separated
        (start.toList.map Token.char ++ [.var name.toList])) :
      some [trimPrefix request.path start] =
        some (found.vars.map Prod.snd) ↔ True := by
    obtain ⟨value, path, _, same⟩ := last key rooted parsed separated
    rw [same, trimPrefix_eq _ _ path]
    exact iff_of_true rfl trivial
  have splits {method template part name : String}
      (key : cut [' '] reading.methodPath.toList =
        some (method.toList, template.toList))
      (rooted : template.toList.head? = some '/')
      (parsed : newRouteRegexp template =
        some (part.toList.map Token.char ++ [.var name.toList]))
      (separated : Separated
        (part.toList.map Token.char ++ [.var name.toList]))
      (starts : part.toList.head? = some '/') :
      splitAt part request.path = some (found.vars.map Prod.snd) ↔ True := by
    obtain ⟨value, path, single, same⟩ := last key rooted parsed separated
    rw [same, splitAt_single starts single path]
    exact iff_of_true rfl trivial
  simp only [readings, List.mem_cons, List.not_mem_nil, or_false] at listed
  rcases listed with rfl | rfl | rfl | rfl | rfl | rfl | rfl | rfl | rfl | rfl |
    rfl | rfl | rfl | rfl
  · exact @trims "POST" "/users/{user_id}" "/users/" "user_id" (by decide)
      (by decide) (by decide) (by decide)
  · exact @trims "POST" "/spaces/{space_id}" "/spaces/" "space_id"
      (by decide) (by decide) (by decide) (by decide)
  · exact @trims "POST" "/organizations/{org_id}" "/organizations/" "org_id"
      (by decide) (by decide) (by decide) (by decide)
  · exact @trims "POST" "/uaa_scopes/{scope}" "/uaa_scopes/" "scope"
      (by decide) (by decide) (by decide) (by decide)
  · exact @trims "GET" "/user_preferences/{user_id}" "/user_preferences/"
      "user_id" (by decide) (by decide) (by decide) (by decide)
  · -- `PATCH /user_preferences/{user_id}`
    obtain ⟨value, path, single, same⟩ := @last "PATCH"
      "/user_preferences/{user_id}" "/user_preferences/" "user_id"
      (by decide) (by decide) (by decide) (by decide)
    have read := parseGUID_iff single path
    rw [same]
    simp only [inOneLine, List.mem_singleton, forall_eq,
      String.toList_ofList]
    rw [← read]
    cases parseGUID request.path <;> simp
  · exact @splits "GET" "/templates/{template_id}" "/templates/"
      "template_id" (by decide) (by decide) (by decide) (by decide)
      (by decide)
  · -- `PUT /templates/{template_id}`
    obtain ⟨value, path, single, same⟩ := @last "PUT"
      "/templates/{template_id}" "/templates/" "template_id" (by decide)
      (by decide) (by decide) (by decide)
    have read := @splitAt_urlString value "/templates/" _ request.rawQuery
      (by decide) (List.all_eq_true.mp (by decide)) single path
    rw [same]
    simp only [unescaped, List.mem_singleton, forall_eq,
      String.toList_ofList]
    exact read
  · exact @splits "DELETE" "/templates/{template_id}" "/templates/"
      "template_id" (by decide) (by decide) (by decide) (by decide)
      (by decide)
  · exact @splits "GET" "/messages/{message_id}" "/messages/" "message_id"
      (by decide) (by decide) (by decide) (by decide) (by decide)
  · exact @pattern "PUT" "/clients/{client_id}/template" (by decide)
      (by decide) ⟨_, rfl, by decide⟩
  · exact @pattern "PUT"
      "/clients/{client_id}/notifications/{notification_id}" (by decide)
      (by decide) ⟨_, rfl, by decide⟩
  · exact @pattern "PUT"
      "/clients/{client_id}/notifications/{notification_id}/template"
      (by decide) (by decide) ⟨_, rfl, by decide⟩
  · exact @pattern "GET" "/templates/{template_id}/associations" (by decide)
      (by decide) ⟨_, rfl, by decide⟩

end Collated

/-! ## A server -/

attribute [local instance] Models.Collation.binary

def sampleTokens : Jwt.Library where
  unmarshal bytes :=
    if bytes = Authenticator.ascii "\x7b\"alg\":\"RS256\"\x7d" then
      .ok [("alg", .string "RS256")]
    else if bytes = Authenticator.ascii
        ("\x7b\"client_id\":\"client\",\"user_id\":\"user\"," ++
          "\"scope\":[\"notifications.write\"," ++
          "\"notification_preferences.write\"," ++
          "\"notification_templates.read\"," ++
          "\"notification_templates.write\"]\x7d") then
      .ok [("client_id", .string "client"), ("user_id", .string "user"),
        ("scope", .array [.string "notifications.write",
          .string "notification_preferences.write",
          .string "notification_templates.read",
          .string "notification_templates.write"])]
    else
      .error "unexpected end of JSON input"
  available _ := true
  sum _ _ := []
  hmac _ _ _ := []
  pemDecode _ := some []
  parsePKIXPublicKey _ := .ok (.rsa ⟨0, 65537⟩)
  parseCertificate _ := .error "asn1: structure error"
  verifyPKCS1v15 _ _ _ _ := .ok ()

def sampleAuthorization : String :=
  "Bearer eyJhbGciOiJSUzI1NiJ9." ++
    "eyJjbGllbnRfaWQiOiJjbGllbnQiLCJ1c2VyX2lkIjoidXNlciIsInNjb3BlIjpbIm5v" ++
    "dGlmaWNhdGlvbnMud3JpdGUiLCJub3RpZmljYXRpb25fcHJlZmVyZW5jZXMud3JpdGUi" ++
    "LCJub3RpZmljYXRpb25fdGVtcGxhdGVzLnJlYWQiLCJub3RpZmljYXRpb25fdGVtcGxh" ++
    "dGVzLndyaXRlIl19.c2ln"

def sampleMother : Mother where
  library := sampleLibrary
  jwt := sampleTokens
  texts := plainTexts
  parseHTML text := ⟨"", some ([], text)⟩
  marshal _ := ""
  uaaPublicKey := Authenticator.publishedKey
  corsOrigin := "*"

def sampleRouter : Router sampleMother where
  entries := stackMap sampleMother (requestCounter (namedRoutes methodPaths))
  complete := .refl _

def sampleDelete : HttpRequest where
  method := "DELETE"
  path := "/templates/welcome"
  rawQuery := ""
  authorization := sampleAuthorization
  body := ⟨none, false⟩
  empty := true
  nothing _ := rfl

def sampleClaims : String :=
  "eyJjbGllbnRfaWQiOiJjbGllbnQiLCJ1c2VyX2lkIjoidXNlciIsInNjb3BlIjpbIm5v" ++
    "dGlmaWNhdGlvbnMud3JpdGUiLCJub3RpZmljYXRpb25fcHJlZmVyZW5jZXMud3JpdGUi" ++
    "LCJub3RpZmljYXRpb25fdGVtcGxhdGVzLnJlYWQiLCJub3RpZmljYXRpb25fdGVtcGxh" ++
    "dGVzLndyaXRlIl19"

def sampleToken : String :=
  "eyJhbGciOiJSUzI1NiJ9." ++ sampleClaims ++ ".c2ln"

theorem getToken_sampleAuthorization :
    Authenticator.getToken sampleAuthorization = sampleToken := by
  have parts : splitList ' ' sampleAuthorization.toList =
      ["Bearer".toList, sampleToken.toList] := by decide +kernel
  rw [Authenticator.getToken, split, parts]
  simp only [List.map_cons, List.map_nil, String.ofList_toList]
  exact if_pos (by decide +kernel)

theorem split_sampleToken :
    split (Authenticator.getToken sampleAuthorization) '.' =
      ["eyJhbGciOiJSUzI1NiJ9", sampleClaims, "c2ln"] := by
  have parts : splitList '.' sampleToken.toList =
      ["eyJhbGciOiJSUzI1NiJ9".toList, sampleClaims.toList,
        "c2ln".toList] := by decide +kernel
  rw [getToken_sampleAuthorization, split, parts]
  simp only [List.map_cons, List.map_nil, String.ofList_toList]

def sampleFields : Jwt.Fields :=
  [("client_id", .string "client"), ("user_id", .string "user"),
    ("scope", .array [.string "notifications.write",
      .string "notification_preferences.write",
      .string "notification_templates.read",
      .string "notification_templates.write"])]

theorem parseFields_sampleClaims :
    Jwt.parseFields sampleTokens sampleClaims = .ok sampleFields := by
  have decoded : Jwt.decodeSegment sampleClaims = .ok (Authenticator.ascii
      ("\x7b\"client_id\":\"client\",\"user_id\":\"user\"," ++
        "\"scope\":[\"notifications.write\"," ++
        "\"notification_preferences.write\"," ++
        "\"notification_templates.read\"," ++
        "\"notification_templates.write\"]\x7d")) := by
    decide +kernel
  rw [Jwt.parseFields, decoded]
  simp only [Except.mapError, bind, Except.bind, sampleTokens]
  rw [if_neg (by decide +kernel), if_pos trivial]
  rfl

def sampleSegments : Jwt.Segments sampleTokens
    (Authenticator.getToken sampleAuthorization) where
  first := "eyJhbGciOiJSUzI1NiJ9"
  second := sampleClaims
  signature := "c2ln"
  header := [("alg", .string "RS256")]
  claims := sampleFields
  method := .rsa .sha256
  split := split_sampleToken
  parsedHeader := rfl
  parsedClaims := parseFields_sampleClaims
  named := rfl

/-- The token passes wherever one of its scopes is asked for. -/
theorem sampleAuthorization_passes {ware : Authenticator} (now : Int)
    (inScope : ware.containsATokenScope sampleSegments.claims = some true) :
    ware.serveHTTP sampleTokens now sampleAuthorization =
      .passed sampleSegments.token :=
  Authenticator.serveHTTP_passed_iff.mpr
    ⟨sampleSegments, ⟨rfl, rfl, inScope⟩, rfl, rfl⟩

/-- The handler behind an authenticator is given the token. -/
theorem through_sampleAuthenticator {handler : Handler} {request : HttpRequest}
    {scopes : List String} {wares : List Middleware} {context : Context}
    {response : Stack.Response}
    (authorized : request.authorization = sampleAuthorization)
    (inScope : Authenticator.containsATokenScope
      ⟨scopes, sampleMother.uaaPublicKey⟩ sampleSegments.claims = some true) :
    Stack.through handler request (sampleMother.authenticator scopes :: wares)
        context response =
      .call .now fun _ => Stack.through handler request wares
        ⟨some sampleSegments.token⟩ (response.write .new) := by
  refine Stack.through_passed fun now => ?_
  rw [authorized]
  exact sampleAuthorization_passes now inScope

theorem sampleDelete_served : sampleRouter.serveHTTP sampleDelete =
    .call .now fun _ => Program.recover (fun _ => Stack.recovered)
      (Stack.through DeleteTemplates.serveHTTP sampleDelete []
        ⟨some sampleSegments.token⟩ ⟨200, [], []⟩) := by
  rw [@Router.serveHTTP_counted _ _ sampleRouter sampleDelete
    "DELETE /templates/{template_id}" DeleteTemplates.serveHTTP
    [sampleMother.authenticator ["notification_templates.write"]]
    (@List.mem_of_getElem? _ _ 22 _ rfl) (by decide +kernel)
    (by decide +kernel),
    through_sampleAuthenticator rfl (by decide +kernel)]
  rfl

theorem delete_reads_templateID :
    ∃ found, Mux.Router.serveHTTP (routes sampleRouter.entries)
        sampleDelete.method sampleDelete.path = .handled found ∧
      (DeleteTemplates.templateID sampleDelete.path =
          some (found.vars.map Prod.snd) ↔ True) := by
  have named : (match Mux.Router.serveHTTP (routes sampleRouter.entries)
      sampleDelete.method sampleDelete.path with
    | .handled found => found.route.name
    | _ => "") = "DELETE /templates/{template_id}" := by decide +kernel
  split at named
  · rename_i found served
    exact ⟨found, served, handlers_read_variables sampleRouter sampleDelete
      found served ⟨"DELETE /templates/{template_id}",
        fun request => DeleteTemplates.templateID request.path, always⟩
      (by simp [readings]) named.symm⟩
  · simp at named

end Notifications.Web
