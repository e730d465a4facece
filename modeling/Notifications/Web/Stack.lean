import Notifications.Lib.Contract
import Notifications.Lib.Matching
import Notifications.Web.Authenticator
import Notifications.Web.Mux
import Notifications.Web.Params

/-!
# Stacks of middleware

The vendored `stack` with the service's middlewares: logging, the
request counter, CORS and the authenticators.  Each middleware writes into a
recorder of its own, and what it has written is added to the response; the
first that does not let the request through ends it.  A panic is answered with
500, and then nothing of what has been recorded is sent.

What is logged is left out.
-/

set_option autoImplicit false

namespace Notifications.Lib.Program

variable {Op : Type} {Answer : Op → Type} {α β : Type}

/-- A deferred `recover`. -/
def recover (handler : String → α) :
    Program Op Answer α → Program Op Answer α
  | .ret value => .ret value
  | .panic message => .ret (handler message)
  | .call op next => .call op fun answer => recover handler (next answer)

/-- The result is missing when the program panics. -/
def attempt : Program Op Answer α → Program Op Answer (Option α)
  | .ret value => .ret (some value)
  | .panic _ => .ret none
  | .call op next => .call op fun answer => attempt (next answer)

theorem recover_eq (value : α) (program : Program Op Answer α) :
    recover (fun _ => value) program =
      attempt program >>= fun result => pure (result.getD value) := by
  induction program with
  | ret value => rfl
  | panic message => rfl
  | call op next ih => exact congrArg (call op) (funext ih)

section Attempt

variable {Knowledge : Type} {contract : Contract Op Answer Knowledge}
  {fine : Knowledge → Prop} {knowledge : Knowledge}

theorem meets_attempt {program : Program Op Answer α}
    (meets : program.Meets contract (fun _ _ => True) knowledge) :
    (attempt program).Meets contract (fun _ _ => True) knowledge := by
  induction program generalizing knowledge with
  | ret value => trivial
  | panic message => trivial
  | call op next ih =>
      refine ⟨meets.1, ?_⟩
      intro answer possible
      exact ih answer (meets.2 answer possible)

theorem meets_recover {value : α} {program : Program Op Answer α}
    (meets : (attempt program).Meets contract (fun learned _ => fine learned)
      knowledge) :
    (recover (fun _ => value) program).Meets contract
      (fun learned _ => fine learned) knowledge := by
  rw [recover_eq]
  exact meets_bind (meets.weaken fun _ _ ends => ends)

theorem meets_attempt_bind {done : Knowledge → Option α → Prop}
    {program : Program Op Answer β} {rest : β → Program Op Answer α}
    (meets : (attempt program).Meets contract (fun learned result =>
      result.elim (done learned none) fun value =>
        (attempt (rest value)).Meets contract done learned) knowledge) :
    (attempt (program >>= rest)).Meets contract done knowledge := by
  induction program generalizing knowledge with
  | ret value => exact meets
  | panic message => exact meets
  | call op next ih =>
      refine ⟨meets.1, ?_⟩
      intro answer possible
      exact ih answer (meets.2 answer possible)

theorem only_attempt {allowed : Op → Prop} {program : Program Op Answer α}
    (only : program.Only allowed) : (attempt program).Only allowed := by
  induction program with
  | ret value => trivial
  | panic message => trivial
  | call op next ih =>
      exact ⟨only.1, fun answer => ih answer (only.2 answer)⟩

end Attempt

/-- What every value that a program returns is like, whatever the answers. -/
def Returns (like : α → Prop) : Program Op Answer α → Prop
  | .ret value => like value
  | .panic _ => True
  | .call _ next => ∀ answer, Returns like (next answer)

section Returns

variable {like : α → Prop}

theorem Returns.weaken {other : α → Prop}
    (implies : ∀ value, like value → other value)
    {program : Program Op Answer α} (returns : program.Returns like) :
    program.Returns other := by
  induction program with
  | ret value => exact implies value returns
  | panic message => trivial
  | call op next ih => exact fun answer => ih answer (returns answer)

end Returns

end Notifications.Lib.Program

namespace Notifications.Web

open Notifications.Lib

/-! ## Requests and what is written -/

/-- `http.Request`, as far as it is read. -/
structure HttpRequest where
  method : String
  /-- `URL.Path`, unescaped -/
  path : String
  /-- `URL.RawQuery` -/
  rawQuery : String
  /-- the `Authorization` header, or empty -/
  authorization : String
  body : Body
  /-- nothing at all was sent -/
  empty : Bool
  nothing : empty = true → body.first = none

/-- One `Write` of a body. -/
inductive Chunk where
  | text (text : String)
  /-- `json.Marshal` of a value -/
  | json (document : Json)

abbrev Header : Type := List (String × String)

/-- `httptest.ResponseRecorder`. -/
structure Recorder where
  code : Nat
  wroteHeader : Bool
  header : Header
  body : List Chunk

namespace Recorder

/-- `NewRecorder`. -/
def new : Recorder := ⟨200, false, [], []⟩

def writeHeader (rec : Recorder) (code : Nat) : Recorder :=
  { rec with
    code := if rec.wroteHeader then rec.code else code
    wroteHeader := true }

def write (rec : Recorder) (chunk : Chunk) : Recorder :=
  { rec.writeHeader 200 with body := rec.body ++ [chunk] }

/-- `Header().Set`, of a name that is not set. -/
def set (rec : Recorder) (name value : String) : Recorder :=
  { rec with header := rec.header ++ [(name, value)] }

def answered (code : Nat) (body : List Chunk) : Recorder :=
  body.foldl write (new.writeHeader code)

end Recorder

/-! ## Middlewares -/

/-- The values of a context: the authenticator's is the only one. -/
structure Context where
  token : Option Jwt.Token

structure Passage where
  recorder : Recorder
  passes : Bool
  context : Context

abbrev Middleware : Type := HttpRequest → Context → Prog Passage

abbrev Handler : Type := HttpRequest → Context → Prog Recorder

/-- `Logging.ServeHTTP`. -/
def logging : Middleware := fun _ context => pure ⟨.new, true, context⟩

/-- The two calls of `strings.Replace`. -/
def metricChar (char : Char) : List Char :=
  if char = '\x7b' then [':'] else if char = '\x7d' then [] else [char]

/-- `convertNameToMetricPath`; `none` is the panic of `parts[1]`. -/
def convertNameToMetricPath (name : String) : Option String :=
  (split name ' ')[1]?.map fun path =>
    String.ofList (path.toList.flatMap metricChar)

/-- The `endpoint` of the metric. -/
def endpointTag {Handler : Type} (routes : List (Mux.Route Handler))
    (request : HttpRequest) : Option String := do
  let path ← match Mux.Router.matches routes request.method request.path with
    | some found => convertNameToMetricPath found.route.name
    | none => some "UNKNOWN"
  some (request.method ++ path)

/-- `RequestCounter.ServeHTTP`. -/
def requestCounter {Handler : Type} (routes : List (Mux.Route Handler)) :
    Middleware := fun request context =>
  match endpointTag routes request with
  | none => .panic "runtime error: index out of range"
  | some _ => pure ⟨.new, true, context⟩

/-- `CORS.ServeHTTP`. -/
def cors (origin : String) : Middleware := fun _ context =>
  pure ⟨((Recorder.new.set "Access-Control-Allow-Origin" origin).set
      "Access-Control-Allow-Methods" "GET, PATCH").set
      "Access-Control-Allow-Headers" "Accept, Authorization, Content-Type",
    true, context⟩

/-- `Authenticator.ServeHTTP`; the clock shows nanoseconds. -/
def Authenticator.middleware (library : Jwt.Library) (ware : Authenticator) :
    Middleware := fun request context => do
  let now ← Program.perform Op.now
  match ware.serveHTTP library (now / 1000000000) request.authorization with
  | .passed token => pure ⟨.new, true, { context with token := some token }⟩
  | .refused code body => pure ⟨.answered code [.text body], false, context⟩
  | .panicked => .panic interfaceConversion

/-! ## Stacks -/

structure Stack where
  handler : Handler
  middleware : List Middleware

structure Stack.Response where
  code : Nat
  header : Header
  body : List Chunk

namespace Stack

def Response.write (response : Response) (rec : Recorder) : Response where
  code := rec.code
  header := response.header ++ rec.header
  body := response.body ++ rec.body

/-- The loop over the middlewares, and the handler behind it. -/
def through (handler : Handler) (request : HttpRequest) :
    List Middleware → Context → Response → Prog Response
  | [], context, response => do
      let rec ← handler request context
      pure (response.write rec)
  | ware :: rest, context, response => do
      let passage ← ware request context
      let response := response.write passage.recorder
      if passage.passes then
        through handler request rest passage.context response
      else
        pure response

def recovered : Response where
  code := 500
  header := []
  body := [.text "Internal Server Error"]

def serveHTTP (stack : Stack) (request : HttpRequest) : Prog Response :=
  Program.recover (fun _ => recovered)
    (through stack.handler request stack.middleware ⟨none⟩ ⟨200, [], []⟩)

end Stack

/-! ## What a stack calls -/

section Calls

variable {request : HttpRequest} {context : Context} {Knowledge : Type}
  {contract : Contract Op Answer Knowledge} {fine : Knowledge → Prop}
  {knowledge : Knowledge} {idle : Op → Prop}

/-- A stack calls what its middlewares call, which teaches nothing, and what
its handler calls in the contexts that they let through. -/
theorem Stack.through_meets {handler : Handler} {reach : Context → Prop}
    {wares : List Middleware} {response : Stack.Response}
    (start : fine knowledge)
    (handles : ∀ context, reach context →
      (Program.attempt (handler request context)).Meets contract
        (fun learned _ => fine learned) knowledge)
    (may : ∀ op, idle op → contract.may knowledge op)
    (learn : ∀ op answer, idle op →
      contract.learn knowledge op answer = knowledge)
    (passing : ∀ ware ∈ wares, ∀ context, (ware request context).Only idle)
    (reaches : wares.foldr (fun ware later context =>
      (ware request context).Returns fun passage =>
        passage.passes = true → later passage.context) reach context) :
    (Program.attempt
      (Stack.through handler request wares context response)).Meets contract
        (fun learned _ => fine learned) knowledge := by
  induction wares generalizing context response with
  | nil =>
      apply Program.meets_attempt_bind
      refine (handles context reaches).weaken fun learned result ends => ?_
      cases result <;> exact ends
  | cons ware rest ih =>
      have here := passing ware (.head _) context
      rw [List.foldr_cons] at reaches
      rw [Stack.through]
      generalize ware request context = program at here reaches
      induction program with
      | panic message => exact start
      | call op next later =>
          refine ⟨may op here.1, fun answer _ => ?_⟩
          rw [learn op answer here.1]
          exact later answer (here.2 answer) (reaches answer)
      | ret passage =>
          simp only [Program.ret_bind]
          split
          · rename_i passes
            exact @ih passage.context _
              (fun other member => passing other (.tail _ member))
              (reaches passes)
          · exact start

end Calls

/-- The CORS headers come first, and every request is let through. -/
theorem Stack.through_cors {origin : String} {handler : Handler}
    {request : HttpRequest} {wares : List Middleware} {context : Context}
    {response : Stack.Response} :
    Stack.through handler request (cors origin :: wares) context response =
      Stack.through handler request wares context
        ⟨200, response.header ++ [("Access-Control-Allow-Origin", origin),
          ("Access-Control-Allow-Methods", "GET, PATCH"),
          ("Access-Control-Allow-Headers",
            "Accept, Authorization, Content-Type")], response.body⟩ := by
  rw [Stack.through, cors]
  simp [Response.write, Recorder.new, Recorder.set]

/-- The rest of the stack is given a token that passes at any time. -/
theorem Stack.through_passed {library : Jwt.Library} {ware : Authenticator}
    {handler : Handler} {request : HttpRequest} {wares : List Middleware}
    {context : Context} {response : Stack.Response} {token : Jwt.Token}
    (passes : ∀ now, ware.serveHTTP library now request.authorization =
      .passed token) :
    Stack.through handler request (ware.middleware library :: wares) context
        response =
      .call .now fun _ => Stack.through handler request wares ⟨some token⟩
        (response.write .new) := by
  rw [Stack.through, Authenticator.middleware]
  refine congrArg (Program.call Op.now) (funext fun now => ?_)
  dsimp only [Bind.bind, Program.bind]
  rw [passes]
  rfl

end Notifications.Web
