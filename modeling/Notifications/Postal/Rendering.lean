import Notifications.Postal.Unsubscription

/-!
# What `Pack` makes of its templates

`Pack` executes up to five templates, some of them on contexts that hold what
the ones before wrote.  It returns the errors of parsing them, and
`compileTemplate` drops the error of executing them: as soon as all of them
parse, the message is made of whatever was written.
-/

set_option autoImplicit false

namespace Notifications.Postal

open Notifications.Lib Notifications.Models

theorem bind_eq_ok {ε α β : Type} {first : Except ε α} {rest : α → Except ε β}
    {result : β} :
    (first >>= rest) = .ok result ↔
      ∃ value, first = .ok value ∧ rest value = .ok result := by
  cases first with
  | error error => simp [bind, Except.bind]
  | ok value => simp [bind, Except.bind]

theorem pure_eq_ok {ε α : Type} {value result : α} :
    (pure value : Except ε α) = .ok result ↔ value = result := by
  simp [pure, Except.pure]

/-! ## Executions -/

namespace Engine

variable (engine : Engine)

def Parses (template : String) : Prop :=
  ∃ source, engine template = .ok source

/-- The template parses, and `Execute` returns an error. -/
def Fails (template : String) (context : MessageContext) : Prop :=
  ∃ source text, engine template = .ok source ∧
    (source context).2 = some text

/-- `Execute` writes all of the template, which is the text but for a newline
at its end. -/
def Complete (template : String) (context : MessageContext)
    (text : String) : Prop :=
  ∃ source, engine template = .ok source ∧ (source context).2 = none ∧
    text = trimNewline (source context).1

/-- What `Execute` wrote when it returned, with an error or without. -/
def written (template : String) (context : MessageContext) : String :=
  match engine template with
  | .error _ => ""
  | .ok source => trimNewline (source context).1

theorem complete_of_parses {template : String} {context : MessageContext}
    (parses : engine.Parses template)
    (whole : ¬ engine.Fails template context) :
    engine.Complete template context (engine.written template context) := by
  obtain ⟨source, parsed⟩ := parses
  refine ⟨source, parsed, ?_, by simp [written, parsed]⟩
  cases outcome : (source context).2 with
  | none => rfl
  | some text => exact absurd ⟨source, text, parsed, outcome⟩ whole

end Engine

namespace Packager

variable (engine : Engine)

def endorsed (context : MessageContext) : MessageContext :=
  { context with
    endorsement := engine.written context.endorsement context }

/-- The context with the HTML part's body compiled. -/
def wrapped (context : MessageContext) : MessageContext :=
  { context with
    htmlComponents := { context.htmlComponents with
      bodyContent := engine.written context.htmlTemplate context.escape } }

def textExecutions (context : MessageContext) :
    List (String × MessageContext) :=
  if context.text = "" then [] else [(context.textTemplate, context)]

def htmlExecutions (context : MessageContext) :
    List (String × MessageContext) :=
  if context.html = "" then []
  else [(context.htmlTemplate, context.escape),
    (htmlWrapperTemplate, (wrapped engine context).escape)]

/-- The templates that `Pack` executes, each with the context it is executed
on. -/
def executions (context : MessageContext) : List (String × MessageContext) :=
  (context.endorsement, context) ::
    (textExecutions (endorsed engine context) ++
      htmlExecutions engine (endorsed engine context) ++
      [(context.subjectTemplate, context)])

def AllParse (executions : List (String × MessageContext)) : Prop :=
  ∀ execution ∈ executions, engine.Parses execution.1

def SomeFails (executions : List (String × MessageContext)) : Prop :=
  ∃ execution ∈ executions, engine.Fails execution.1 execution.2

def textParts (context : MessageContext) : List Mail.Part :=
  if context.text = "" then []
  else [⟨"text/plain", engine.written context.textTemplate context⟩]

def htmlParts (context : MessageContext) : List Mail.Part :=
  if context.html = "" then []
  else [⟨"text/html",
    engine.written htmlWrapperTemplate (wrapped engine context).escape⟩]

def packed (context : MessageContext) : Mail.Message where
  fromAddress := context.fromAddress
  replyTo := context.replyTo
  toAddress := context.toAddress
  subject := engine.written context.subjectTemplate context
  body := textParts engine (endorsed engine context) ++
    htmlParts engine (endorsed engine context)
  headers := [
    "X-CF-Client-ID: " ++ context.clientID,
    "X-CF-Notification-ID: " ++ context.messageID]

/-! ## `Pack` in closed form -/

theorem compileTemplate_ok {context : MessageContext} {template text : String}
    {escape : Bool} :
    compileTemplate engine context template escape = .ok text ↔
      engine.Parses template ∧ engine.written template
        (if escape then context.escape else context) = text := by
  unfold compileTemplate Engine.Parses Engine.written
  cases engine template with
  | error text => simp
  | ok source => simp

theorem compileText_ok {context : MessageContext} {parts : List Mail.Part} :
    compileText engine context = .ok parts ↔
      AllParse engine (textExecutions context) ∧
        textParts engine context = parts := by
  unfold compileText textExecutions textParts
  split
  · simp [AllParse, pure_eq_ok]
  · simp only [bind_eq_ok, compileTemplate_ok, pure_eq_ok]
    simp [AllParse]

theorem compileHTML_ok {context : MessageContext} {parts : List Mail.Part} :
    compileHTML engine context = .ok parts ↔
      AllParse engine (htmlExecutions engine context) ∧
        htmlParts engine context = parts := by
  unfold compileHTML htmlExecutions htmlParts
  split
  · simp [AllParse, pure_eq_ok]
  · simp only [bind_eq_ok, compileTemplate_ok, pure_eq_ok]
    simp [AllParse, wrapped, and_assoc]

theorem compileParts_ok {context : MessageContext} {parts : List Mail.Part} :
    compileParts engine context = .ok parts ↔
      (engine.Parses context.endorsement ∧
        AllParse engine (textExecutions (endorsed engine context)) ∧
        AllParse engine (htmlExecutions engine (endorsed engine context))) ∧
      textParts engine (endorsed engine context) ++
        htmlParts engine (endorsed engine context) = parts := by
  simp only [compileParts, bind_eq_ok, compileTemplate_ok, compileText_ok,
    compileHTML_ok, pure_eq_ok]
  simp [endorsed, and_assoc]

/-- `Pack` succeeds exactly when all its templates parse. -/
theorem pack_ok {context : MessageContext} {message : Mail.Message} :
    pack engine context = .ok message ↔
      AllParse engine (executions engine context) ∧
        packed engine context = message := by
  have parsed : AllParse engine (executions engine context) ↔
      (engine.Parses context.endorsement ∧
        AllParse engine (textExecutions (endorsed engine context)) ∧
        AllParse engine (htmlExecutions engine (endorsed engine context))) ∧
      engine.Parses context.subjectTemplate := by
    simp [AllParse, executions, or_imp, forall_and, and_assoc]
  rw [parsed]
  simp only [pack, bind_eq_ok, compileParts_ok, compileTemplate_ok,
    pure_eq_ok]
  simp [packed, and_assoc]

/-- Otherwise it returns the error of parsing one of them. -/
theorem pack_error {context : MessageContext} :
    (∃ text, pack engine context = .error text) ↔
      ¬ AllParse engine (executions engine context) := by
  cases outcome : pack engine context with
  | error text =>
      simp only [Except.error.injEq, exists_eq', true_iff]
      intro parses
      rw [(pack_ok engine).mpr ⟨parses, rfl⟩] at outcome
      cases outcome
  | ok message => simp [((pack_ok engine).mp outcome).1]

/-! ## Whole messages -/

def WholeText (context : MessageContext) (parts : List Mail.Part) : Prop :=
  if context.text = "" then parts = []
  else ∃ text, engine.Complete context.textTemplate context text ∧
    parts = [⟨"text/plain", text⟩]

def WholeHTML (context : MessageContext) (parts : List Mail.Part) : Prop :=
  if context.html = "" then parts = []
  else ∃ body html,
    engine.Complete context.htmlTemplate context.escape body ∧
    engine.Complete htmlWrapperTemplate
      { context with
        htmlComponents := { context.htmlComponents with
          bodyContent := body } }.escape html ∧
    parts = [⟨"text/html", html⟩]

/-- Every part of the message is the whole rendering of its template. -/
structure Whole (context : MessageContext) (message : Mail.Message) :
    Prop where
  subject : engine.Complete context.subjectTemplate context message.subject
  body : ∃ endorsement texts htmls,
    engine.Complete context.endorsement context endorsement ∧
    WholeText engine { context with endorsement := endorsement } texts ∧
    WholeHTML engine { context with endorsement := endorsement } htmls ∧
    message.body = texts ++ htmls

def Completed (execution : String × MessageContext) : Prop :=
  engine.Complete execution.1 execution.2
    (engine.written execution.1 execution.2)

theorem textParts_whole {context : MessageContext}
    (complete : ∀ execution ∈ textExecutions context,
      Completed engine execution) :
    WholeText engine context (textParts engine context) := by
  unfold textExecutions at complete
  unfold WholeText textParts
  split
  · rfl
  · rename_i filled
    exact ⟨_, complete (context.textTemplate, context) (by simp [filled]),
      rfl⟩

theorem htmlParts_whole {context : MessageContext}
    (complete : ∀ execution ∈ htmlExecutions engine context,
      Completed engine execution) :
    WholeHTML engine context (htmlParts engine context) := by
  unfold htmlExecutions at complete
  unfold WholeHTML htmlParts
  split
  · rfl
  · rename_i filled
    refine ⟨engine.written context.htmlTemplate context.escape, _,
      complete (context.htmlTemplate, context.escape) ?_,
      complete (htmlWrapperTemplate, (wrapped engine context).escape) ?_, rfl⟩
    · simp [filled]
    · simp [filled]

/-- Without a failing execution, what was written is whole. -/
theorem packed_whole {context : MessageContext}
    (parse : AllParse engine (executions engine context))
    (fine : ¬ SomeFails engine (executions engine context)) :
    Whole engine context (packed engine context) := by
  have complete (execution : String × MessageContext)
      (member : execution ∈ executions engine context) :
      Completed engine execution :=
    engine.complete_of_parses (parse execution member)
      fun fails => fine ⟨execution, member, fails⟩
  have texts : WholeText engine (endorsed engine context)
      (textParts engine (endorsed engine context)) := by
    apply textParts_whole
    intro execution member
    exact complete execution (by simp [executions, member])
  have htmls : WholeHTML engine (endorsed engine context)
      (htmlParts engine (endorsed engine context)) := by
    apply htmlParts_whole
    intro execution member
    exact complete execution (by simp [executions, member])
  refine ⟨complete (context.subjectTemplate, context) ?_,
    engine.written context.endorsement context, _, _,
    complete (context.endorsement, context) ?_, texts, htmls, rfl⟩
  · simp [executions]
  · simp [executions]

end Packager

section Collated

variable [Collation]

/-! ## The worker -/

namespace Worker

variable (worker : Worker)

/-- What `pack` does before it calls `Packager.Pack`. -/
def loadContext (delivery : Delivery) :
    Prog (Except Error MessageContext) := do
  match ← Program.perform (Op.service (.newCloak worker.encryptionKey)) with
  | .error text => .panic text
  | .ok _ =>
      match ← TemplatesLoader.loadTemplates delivery.clientID
          delivery.options.kindID with
      | .error error => pure (.error error)
      | .ok templates =>
          let context ← newMessageContext delivery worker.sender
            worker.encryptionKey templates
          pure (.ok context)

/-- What `pack` returns for a context. -/
def packContext : Except Error MessageContext → Except Error Mail.Message
  | .error error => .error error
  | .ok context =>
      match Packager.pack worker.engine context with
      | .error text => .error (.library text)
      | .ok message => .ok message

theorem pack_eq (delivery : Delivery) :
    worker.pack delivery =
      worker.loadContext delivery >>= fun loaded =>
        pure (worker.packContext loaded) := by
  rw [pack, loadContext, Program.bind_assoc]
  congr 1
  funext cloak
  cases cloak with
  | error text => rfl
  | ok _ =>
      simp only
      rw [Program.bind_assoc]
      congr 1
      funext loaded
      cases loaded with
      | error error => rfl
      | ok templates =>
          simp only
          rw [Program.bind_assoc]
          congr 1
          funext context
          simp only [Program.pure_eq, Program.ret_bind, packContext]
          cases Packager.pack worker.engine context <;> rfl

variable {environment : Environment}

theorem run_pack {delivery : Delivery} {world after : World}
    {loaded : Except Error MessageContext}
    (loads : (worker.loadContext delivery).run (World.handle environment)
      world = (some loaded, after)) :
    (worker.pack delivery).run (World.handle environment) world =
      (some (worker.packContext loaded), after) := by
  rw [pack_eq, Program.run_bind_of _ loads]
  rfl

/-- The context is made of the delivery, the sender, some templates and some
unsubscribe ID. -/
theorem loadContext_ok {delivery : Delivery} {world after : World}
    {context : MessageContext}
    (loads : (worker.loadContext delivery).run (World.handle environment)
      world = (some (.ok context), after)) :
    ∃ templates unsubscribeID,
      context = messageContext delivery worker.sender templates
        unsubscribeID := by
  obtain ⟨cloak, _, _, loads⟩ := Program.run_bind_some _ loads
  cases cloak with
  | error text => cases loads
  | ok _ =>
      obtain ⟨loaded, _, _, loads⟩ := Program.run_bind_some _ loads
      cases loaded with
      | error error => cases loads
      | ok templates =>
          obtain ⟨made, _, veiled, loads⟩ := Program.run_bind_some _ loads
          obtain ⟨unsubscribeID, _, _, made⟩ :=
            Program.run_bind_some _ veiled
          cases loads
          cases unsubscribeID with
          | error text => cases made
          | ok unsubscribeID =>
              cases made
              exact ⟨templates, unsubscribeID, rfl⟩

/-- A packed message was packed from such a context. -/
theorem pack_some {delivery : Delivery} {message : Mail.Message}
    {world after : World}
    (packs : (worker.pack delivery).run (World.handle environment) world =
      (some (.ok message), after)) :
    ∃ templates unsubscribeID,
      Packager.pack worker.engine (messageContext delivery worker.sender
        templates unsubscribeID) = .ok message := by
  rw [pack_eq] at packs
  obtain ⟨loaded, _, loads, packs⟩ := Program.run_bind_some _ packs
  cases loaded with
  | error error => cases packs
  | ok context =>
      obtain ⟨templates, unsubscribeID, rfl⟩ := worker.loadContext_ok loads
      refine ⟨templates, unsubscribeID, ?_⟩
      cases packed : Packager.pack worker.engine (messageContext delivery
          worker.sender templates unsubscribeID) with
      | error text =>
          simp only [packContext, packed] at packs
          cases packs
      | ok message =>
          simp only [packContext, packed] at packs
          cases packs
          rfl

/-- A context that cannot be packed is recorded as failed, and nothing is
sent. -/
theorem deliverMail_refused {delivery : Delivery} {world after : World}
    {context : MessageContext} {text : String}
    (loads : (worker.loadContext delivery).run (World.handle environment)
      world = (some (.ok context), after))
    (refused : Packager.pack worker.engine context = .error text) :
    (worker.deliverMail delivery).run (World.handle environment) world =
        (record delivery.messageID .failed).run (World.handle environment)
          after ∧
      ∀ call ∈ (worker.deliverMail delivery).trace (World.handle environment)
        world, Unsent call.2 := by
  have packs : (worker.pack delivery).run (World.handle environment) world =
      (some (.error (.library text)), after) := by
    rw [worker.run_pack loads]
    simp only [packContext, refused]
  refine ⟨Program.run_bind_of _ packs, ?_⟩
  intro call member
  rw [deliverMail, Program.trace_bind_of _ packs] at member
  rcases List.mem_append.mp member with packing | recording
  · exact unsent_of_quiet (Program.trace_of_only _
      (worker.pack_quiet delivery) _ call packing)
  · exact Program.trace_of_only _ (record_unsent _ _) _ call recording

/-- A failing execution makes `Pack` fail, the delivery is recorded as failed
and nothing is sent; a message that `Pack` returns is whole. -/
structure NeverHalf (context : MessageContext) : Prop where
  refused : Packager.SomeFails worker.engine
      (Packager.executions worker.engine context) →
    ∃ text, Packager.pack worker.engine context = .error text
  whole : ∀ message, Packager.pack worker.engine context = .ok message →
    Packager.Whole worker.engine context message
  failed : Packager.SomeFails worker.engine
      (Packager.executions worker.engine context) →
    ∀ environment delivery world after,
      (worker.loadContext delivery).run (World.handle environment) world =
        (some (.ok context), after) →
      (worker.deliverMail delivery).run (World.handle environment) world =
          (record delivery.messageID .failed).run (World.handle environment)
            after ∧
        ∀ call ∈ (worker.deliverMail delivery).trace
          (World.handle environment) world, Unsent call.2

/-- Executions that fail go unnoticed, unless some template does not even
parse. -/
theorem never_half_iff (context : MessageContext) :
    worker.NeverHalf context ↔
      ¬ Packager.AllParse worker.engine
          (Packager.executions worker.engine context) ∨
        ¬ Packager.SomeFails worker.engine
          (Packager.executions worker.engine context) := by
  constructor
  · intro never
    by_contra missed
    simp only [not_or, not_not] at missed
    obtain ⟨parse, fails⟩ := missed
    exact (Packager.pack_error _).mp (never.refused fails) parse
  · intro fine
    have refused (fails : Packager.SomeFails worker.engine
        (Packager.executions worker.engine context)) :
        ∃ text, Packager.pack worker.engine context = .error text :=
      (Packager.pack_error _).mpr (fine.resolve_right (· fails))
    refine ⟨refused, ?_, ?_⟩
    · intro message packed
      obtain ⟨parse, rfl⟩ := (Packager.pack_ok _).mp packed
      exact Packager.packed_whole _ parse
        (fine.resolve_left fun never => never parse)
    · intro fails environment delivery world after loads
      obtain ⟨text, refused⟩ := refused fails
      exact worker.deliverMail_refused loads refused

end Worker

/-- Writes what stands before a field that no context has, and fails there. -/
def fieldEngine : Engine := fun template =>
  .ok fun _ =>
    if template = "Hello \x7b\x7b.Name\x7d\x7d!" then
      ("Hello ", some "can't evaluate field Name")
    else
      (template, none)

/-- A context whose subject names a field that does not exist. -/
def unknownField : MessageContext :=
  messageContext sampleDelivery "sender@example.com"
    ⟨"Hello \x7b\x7b.Name\x7d\x7d!", "text", "html"⟩ "unsubscribe"

end Collated

attribute [local instance] Collation.binary

theorem half_rendered_subject_packed :
    ¬ (Worker.mk sampleWorker.unmarshal fieldEngine "sender@example.com"
      "key").NeverHalf unknownField := by
  intro never
  obtain ⟨text, refused⟩ := never.refused
    ⟨("Hello \x7b\x7b.Name\x7d\x7d!", unknownField), by decide, _, _, rfl,
      rfl⟩
  have packs : Packager.pack fieldEngine unknownField = .ok
      (Packager.packed fieldEngine unknownField) := rfl
  rw [packs] at refused
  cases refused

end Notifications.Postal
