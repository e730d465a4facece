import Notifications.Web.Authority
import Notifications.Web.Serving

/-!
# What a token is good for

For every table there are the scopes that let a request write it.  Whatever
requests are on their way next to each other, no row of a table changes in a
call of a request that does not bear one of its scopes, and no job is enqueued
without the right to notify.
-/

set_option autoImplicit false

namespace Notifications.Web.Serving

open Notifications.Lib Notifications.Models Notifications.Services
open Notifications.Strategies

/-- The scopes that let a request write a table. -/
def writers : Table → List String
  | .templates => ["notification_templates.write"]
  | .clients =>
      ["notifications.write", "emails.write", "notifications.manage"]
  | .kinds => ["notifications.write", "emails.write", "notifications.manage"]
  | .unsubscribes =>
      ["notification_preferences.write", "notification_preferences.admin"]
  | .globalUnsubscribes =>
      ["notification_preferences.write", "notification_preferences.admin"]
  | .messages => ["notifications.write", "emails.write"]
  | .receipts => []

/-- The tables with rows about users' preferences. -/
def personal : Table → Bool
  | .unsubscribes => true
  | .globalUnsubscribes => true
  | _ => false

/-- The scopes that let a request enqueue jobs. -/
def enqueuers : List String := ["notifications.write", "emails.write"]

/-- At this time the header has a current token, with this scope and with a
signature that the key of the UAA verifies. -/
def Bears (mother : Mother) (request : HttpRequest) (now : Int)
    (scope : String) : Prop :=
  ∃ segments : Jwt.Segments mother.jwt
      (Authenticator.getToken request.authorization),
    Authenticator.Presented ⟨[scope], mother.uaaPublicKey⟩ mother.jwt
      (now / 1000000000) request.authorization segments ∧
    segments.method.verify mother.jwt segments.signingString
      segments.signature (.bytes mother.uaaPublicKey) = .ok ()

def Granted (scope : String) : Op → Prop :=
  Writes (fun table => scope ∈ writers table) (scope ∈ enqueuers)

/-- One of the scopes has been borne at one of these times. -/
def Shows (mother : Mother) (request : HttpRequest) (times : List Int)
    (scopes : List String) : Prop :=
  ∃ time ∈ times, ∃ scope ∈ scopes, Bears mother request time scope

/-- The calls that a request may make, from the times its clock has shown. -/
def Permitted (mother : Mother) (request : HttpRequest) (times : List Int) :
    Op → Prop :=
  Writes (fun table => Shows mother request times (writers table))
    (Shows mother request times enqueuers)

def mandate (mother : Mother) (request : HttpRequest) :
    Contract Op Answer (List Int) where
  may := Permitted mother request
  possible _ _ := True
  learn times op answer := times ++ (reading op answer).toList

theorem Shows.mono {mother : Mother} {request : HttpRequest}
    {times more : List Int} {scopes : List String}
    (shows : Shows mother request times scopes)
    (kept : times ⊆ more) : Shows mother request more scopes := by
  obtain ⟨time, shown, bears⟩ := shows
  exact ⟨time, kept shown, bears⟩

/-- Whoever has read the clock more often may do no less. -/
theorem mandate_mono {α : Type} {mother : Mother} {request : HttpRequest}
    {times more : List Int} {program : Prog α} (kept : times ⊆ more)
    (meets : program.Meets (mandate mother request) (fun _ _ => True) times) :
    program.Meets (mandate mother request) (fun _ _ => True) more := by
  induction program generalizing times more with
  | ret value => trivial
  | panic message => trivial
  | call op next ih =>
      have may : Permitted mother request times op := meets.1
      refine ⟨Writes.weaken (fun _ shows => Shows.mono shows kept)
        (fun shows => Shows.mono shows kept) may, fun answer _ => ?_⟩
      exact ih answer (List.append_subset.mpr
        ⟨fun _ shown => List.mem_append_left _ (kept shown),
          List.subset_append_right _ _⟩) (meets.2 answer trivial)

theorem meets_mandate {α : Type} {mother : Mother} {request : HttpRequest}
    {harmless : Op → Prop} {kept : List Int → Prop} {program : Prog α}
    {times : List Int}
    (may : ∀ times op, kept times → harmless op →
      Permitted mother request times op)
    (more : ∀ times others, kept times → kept (times ++ others))
    (only : program.Only harmless) (start : kept times) :
    program.Meets (mandate mother request) (fun _ _ => True) times :=
  Program.meets_of_kept may (fun times _ _ known _ => more times _ known) only
    start fun _ _ _ => trivial

theorem Granted.meets {α : Type} {mother : Mother} {request : HttpRequest}
    {scope : String} {time : Int} {times : List Int} {program : Prog α}
    (bears : Bears mother request time scope) (shown : time ∈ times)
    (only : program.Only (Granted scope)) :
    program.Meets (mandate mother request) (fun _ _ => True) times := by
  refine @meets_mandate _ _ _ _ (fun times => time ∈ times) _ _ ?_
    (fun _ _ known => List.mem_append_left _ known) only shown
  intro times op known granted
  exact Writes.weaken (fun _ writer => ⟨time, known, scope, writer, bears⟩)
    (fun enqueuer => ⟨time, known, scope, enqueuer, bears⟩) granted

/-- The calls that leave the users' preferences alone. -/
def Shared : Op → Prop := Writes (fun table => personal table = false) True

theorem Granted.shared {scope : String}
    (ordinary : scope ∈ ["notifications.write", "emails.write",
      "notifications.manage", "notification_templates.write"]) (op : Op)
    (granted : Granted scope op) : Shared op := by
  refine Writes.weaken (fun table writer => ?_) (fun _ => trivial) granted
  simp only [List.mem_cons, List.not_mem_nil, or_false] at ordinary
  cases table <;> first | rfl | skip
  all_goals
    rcases ordinary with rfl | rfl | rfl | rfl <;> revert writer <;> decide

/-- The calls without a transaction that write these tables at most. -/
def Direct (tables : Table → Prop) (jobs : Prop) : Op → Prop
  | .sql .connection statement =>
      statement.reads = true ∨ tables statement.table
  | .sql .transaction _ => False
  | .begin => False
  | .commit => False
  | .rollback => False
  | .enqueue _ => jobs
  | _ => True

theorem Direct.writes {few many : Table → Prop} {some more : Prop}
    (tables : ∀ table, few table → many table) (jobs : some → more) (op : Op)
    (direct : Direct few some op) : Writes many more op := by
  cases op with
  | sql conn statement =>
      cases conn with
      | connection => exact direct.imp_right (tables _)
      | transaction => exact direct.elim
  | enqueue job => exact jobs direct
  | _ => trivial

/-- The calls without a transaction that a scope is good for. -/
def Directly (scope : String) : Op → Prop :=
  Direct (fun table => scope ∈ writers table) (scope ∈ enqueuers)

theorem Directly.granted {scope : String} (op : Op)
    (direct : Directly scope op) : Granted scope op :=
  Direct.writes (fun _ => id) id op direct

def Plain : Op → Prop := Direct (fun _ => True) True

def ReadsOnly : Op → Prop := Direct (fun _ => False) False

theorem ReadsOnly.meets {α : Type} {mother : Mother} {request : HttpRequest}
    {times : List Int} {program : Prog α} (only : program.Only ReadsOnly) :
    program.Meets (mandate mother request) (fun _ _ => True) times := by
  refine @meets_mandate _ _ _ _ (fun _ => True) _ _ ?_ (fun _ _ _ => trivial)
    only trivial
  intro times op _ reads
  exact Direct.writes (fun _ => False.elim) False.elim op reads

theorem ReadsOnly.weaken {tables : Table → Prop} {jobs : Prop} (op : Op)
    (reads : ReadsOnly op) : Writes tables jobs op :=
  Direct.writes (fun _ => False.elim) False.elim op reads

theorem Direct.plain {tables : Table → Prop} {jobs : Prop} (op : Op)
    (direct : Direct tables jobs op) : Plain op := by
  cases op with
  | sql conn statement =>
      cases conn with
      | connection => exact Or.inr trivial
      | transaction => exact direct
  | enqueue job => trivial
  | _ => exact direct

/-! ## Answers -/

section Answers

variable {allowed : Op → Prop}

theorem writeError_only (written : Option Written) :
    (writeError written).Only allowed := by
  cases written <;> exact trivial

theorem statusOnly_only (status : Nat) (refusal : Option Refusal) :
    (statusOnly status refusal).Only allowed := by
  cases refusal with
  | none => exact trivial
  | some refusal => exact writeError_only _

theorem documented_only {α : Type} (encode : α → Json)
    (result : Except Refusal α) :
    (documented encode result).Only allowed := by
  cases result with
  | error refusal => exact writeError_only _
  | ok document => exact trivial

theorem withToken_only {context : Context}
    {handler : Jwt.Fields → Prog Recorder}
    (only : ∀ claims, (handler claims).Only allowed) :
    (withToken context handler).Only allowed := by
  rw [withToken]
  split
  · exact trivial
  · exact only _

theorem withVariables_only {read : Option (List String)}
    {handler : List String → Prog Recorder}
    (only : ∀ values, (handler values).Only allowed) :
    (withVariables read handler).Only allowed := by
  cases read with
  | none => exact trivial
  | some values => exact only values

end Answers

section Collated

variable [Collation]

/-! ## Notifying -/

section Notifying

variable {scope : String} (enqueues : scope ∈ enqueuers)

include enqueues

omit [Collation] in
theorem notifier_writes {table : Table}
    (listed : table ∈ [Table.clients, .kinds, .messages]) :
    scope ∈ writers table := by
  simp only [enqueuers, List.mem_cons, List.not_mem_nil, or_false]
    at enqueues
  simp only [List.mem_cons, List.not_mem_nil, or_false] at listed
  rcases enqueues with rfl | rfl <;> rcases listed with rfl | rfl | rfl <;>
    decide

omit [Collation] in
theorem granted_of_messaging {op : Op} (messaging : Messaging op) :
    Granted scope op := by
  cases op with
  | sql conn statement =>
      have same : statement.table = .messages := messaging
      refine Or.inr ?_
      rw [same]
      exact notifier_writes enqueues (by decide)
  | enqueue job => exact enqueues
  | _ => trivial

theorem register_granted (conn : Conn) (client : Client)
    (kinds : List Kind) :
    (Registrar.register conn client kinds).Only (Granted scope) := by
  have clients := @notifier_writes _ enqueues .clients (by decide)
  have kinds := @notifier_writes _ enqueues .kinds (by decide)
  exact register_only trivial (fun _ => Or.inl rfl)
    (fun _ _ _ _ => Or.inr kinds) (fun _ _ _ _ => Or.inr kinds)
    (fun _ => Or.inl rfl) (fun _ => Or.inr clients)
    (fun _ => Or.inr clients)

theorem dispatched_granted (marshal : Postal.Delivery → String)
    (strategy : Strategy) (guid : String) (parameters : NotifyParams)
    (client : Client) (kind : Kind) (clientID : String) :
    (dispatched marshal strategy guid parameters client kind clientID).Only
      (Granted scope) := by
  apply Program.only_bind (register_granted enqueues _ _ _)
  intro err
  cases err with
  | some error => exact trivial
  | none =>
      apply Program.only_bind ((dispatch_messaging marshal _ _ _ _).weaken
        fun _ messaging => granted_of_messaging enqueues messaging)
      intro result
      cases result <;> exact trivial

theorem notifyHandler_granted (mother : Mother) (strategy : Strategy)
    (guid : HttpRequest → String) (request : HttpRequest)
    (context : Context) :
    (notifyHandler mother strategy guid request context).Only
      (Granted scope) := by
  rw [notifyHandler]
  split
  · exact trivial
  · refine withToken_only fun claims => Program.only_bind ?_ fun result =>
      documented_only _ result
    unfold Notify.execute
    split
    · exact trivial
    · split
      · exact trivial
      · apply Program.only_bind (NotificationsFinder.clientAndKind_only _ _
          fun _ _ => Or.inl rfl)
        rintro (error | ⟨client, kind⟩)
        · exact trivial
        · dsimp only
          split
          · exact trivial
          · exact trivial
          · exact dispatched_granted enqueues _ _ _ _ _ _ _

end Notifying

/-! ## Registering -/

section Registering

omit [Collation] in
theorem granted_of_iterates {scope : String} {op : Op}
    (iterates : Iterates op) : Granted scope op := by
  cases op with
  | sql conn statement => exact iterates.elim
  | enqueue job => exact iterates.elim
  | _ => trivial

theorem executeRegistration_granted (claims : Jwt.Fields)
    (description : String) (kinds : List Kind) (prune : Bool) :
    (executeRegistration claims description kinds prune).Only
      (Granted "notifications.write") := by
  have clients : "notifications.write" ∈ writers .clients := by decide
  have kinds : "notifications.write" ∈ writers .kinds := by decide
  refine executeRegistration_only trivial trivial trivial ?_
  intro clientID validated _ _
  exact registration_only trivial (fun _ => Or.inl rfl)
    (fun _ _ _ _ => Or.inr kinds) (fun _ _ _ _ => Or.inr kinds)
    (fun _ => Or.inl rfl) (fun _ => Or.inr clients)
    (fun _ => Or.inr clients) (fun _ => Or.inr kinds)

theorem registerNotifications_granted (mother : Mother)
    (request : HttpRequest) (context : Context) :
    (RegisterNotifications.serveHTTP mother request context).Only
      (Granted "notifications.write") := by
  refine withToken_only fun claims => Program.only_bind ?_ ?_
  · rw [registerNotifications]
    split
    · exact trivial
    · split
      · exact trivial
      · exact executeRegistration_granted _ _ _ _
  · intro refusal
    cases refusal with
    | none => exact trivial
    | some refusal => exact writeError_only _

theorem registerClientWithNotifications_granted (mother : Mother)
    (request : HttpRequest) (context : Context) :
    (RegisterClientWithNotifications.serveHTTP mother request context).Only
      (Granted "notifications.write") := by
  refine withToken_only fun claims => Program.only_bind ?_ fun refusal =>
    statusOnly_only _ refusal
  apply Program.only_bind ((newClientRegistration_iterates _ _).weaken
    fun _ iterates => granted_of_iterates iterates)
  intro parsed
  cases parsed with
  | error refusal => exact trivial
  | ok parameters =>
      apply Program.only_bind ((validate_iterates parameters).weaken
        fun _ iterates => granted_of_iterates iterates)
      intro refusal
      cases refusal with
      | some refusal => exact trivial
      | none =>
          apply Program.only_perform trivial
          intro order
          exact executeRegistration_granted _ _ _ _

end Registering

/-! ## Managing -/

section Managing

omit [Collation] in
/-- A validator ranges over the members of the body. -/
theorem validateTyped_only {α : Type} {allowed : Op → Prop}
    (iterates : ∀ keys, allowed (.iterate keys)) (library : Library)
    (texts : Valiant.Texts) (fields : List (Json.Field α))
    (required : List String) (body : Body) (typed : α) :
    (Valiant.validateTyped library texts fields required body typed).Only
      allowed := by
  rw [Valiant.validateTyped]
  split
  · exact trivial
  · split
    · split
      · split
        · exact trivial
        · apply Program.only_perform (iterates _)
          intro order
          split <;> exact trivial
      · exact trivial
    · exact trivial

theorem updateNotifications_direct (mother : Mother)
    (request : HttpRequest) (context : Context) :
    (UpdateNotifications.serveHTTP mother request context).Only
      (Directly "notifications.manage") := by
  have kinds : "notifications.manage" ∈ writers .kinds := by decide
  refine Program.only_bind ?_ ?_
  · apply Program.only_bind (validateTyped_only (fun _ => trivial) _ _ _ _ _
      _)
    rintro ((text | text) | parameters) <;> exact trivial
  · rintro (refusal | parameters)
    · exact writeError_only _
    · refine withVariables_only fun values => Program.only_bind ?_
        fun refusal => statusOnly_only _ refusal
      refine Program.only_bind (Program.only_bind (KindsRepo.update_only
        trivial (fun _ => Or.inl rfl) fun _ _ => Or.inr kinds) ?_) ?_
      · exact fun _ => trivial
      · exact fun _ => trivial

theorem findTemplateByID_only {allowed : Op → Prop}
    (reads : ∀ wanted, allowed (.sql .connection (.select .templates wanted)))
    (templateID : String) :
    (TemplatesRepo.findByID .connection templateID).Only allowed :=
  Program.only_bind (selectOne_only (reads _)) fun _ => trivial

theorem findTemplate_reads {tables : Table → Prop} {jobs : Prop}
    (templateID : String) :
    (TemplateAssigner.findTemplate .connection templateID).Only
      (Direct tables jobs) := by
  unfold TemplateAssigner.findTemplate
  split
  · exact trivial
  · apply Program.only_bind (findTemplateByID_only (fun _ => Or.inl rfl) _)
    rintro ⟨template, err⟩
    split <;> exact trivial

theorem assignClientTemplate_direct (request : HttpRequest)
    (context : Context) :
    (AssignClientTemplate.serveHTTP request context).Only
      (Directly "notifications.manage") := by
  have clients : "notifications.manage" ∈ writers .clients := by decide
  refine withVariables_only fun values => Program.only_bind ?_
    fun refusal => statusOnly_only _ refusal
  unfold assignClientTemplate
  split
  · exact trivial
  · refine Program.only_bind ?_ fun _ => trivial
    apply Program.only_bind (ClientsRepo.find_only (fun _ => Or.inl rfl) _)
    rintro ⟨client, err⟩
    cases err with
    | some error => exact trivial
    | none =>
        apply Program.only_bind (findTemplate_reads _)
        intro missing
        cases missing with
        | some error => exact trivial
        | none =>
            exact Program.only_bind (ClientsRepo.update_only
              (fun _ => Or.inl rfl) fun _ => Or.inr clients) fun _ => trivial

theorem assignNotificationTemplate_direct (request : HttpRequest)
    (context : Context) :
    (AssignNotificationTemplate.serveHTTP request context).Only
      (Directly "notifications.manage") := by
  have kinds : "notifications.manage" ∈ writers .kinds := by decide
  refine withVariables_only fun values => Program.only_bind ?_
    fun refusal => statusOnly_only _ refusal
  unfold assignNotificationTemplate
  split
  · exact trivial
  · refine Program.only_bind ?_ fun _ => trivial
    apply Program.only_bind (ClientsRepo.find_only (fun _ => Or.inl rfl) _)
    rintro ⟨client, err⟩
    cases err with
    | some error => exact trivial
    | none =>
        apply Program.only_bind (KindsRepo.find_only (fun _ => Or.inl rfl) _
          _)
        rintro ⟨kind, err⟩
        cases err with
        | some error => exact trivial
        | none =>
            apply Program.only_bind (findTemplate_reads _)
            intro missing
            cases missing with
            | some error => exact trivial
            | none =>
                exact Program.only_bind (KindsRepo.update_only trivial
                  (fun _ => Or.inl rfl) fun _ _ => Or.inr kinds)
                  fun _ => trivial

end Managing

/-! ## Templates -/

section Templates

omit [Collation] in
theorem newTemplate_iterates {tables : Table → Prop} {jobs : Prop}
    (library : TemplateLibrary) (texts : Valiant.Texts) (body : Body) :
    (newTemplate library texts body).Only (Direct tables jobs) := by
  apply Program.only_bind (validateTyped_only (fun _ => trivial) _ _ _ _ _ _)
  rintro ((text | text) | template)
  · exact trivial
  · exact trivial
  · apply Program.only_perform trivial
    intro order
    generalize TemplateParams.syntaxError _ _ _ = refusal
    cases refusal <;> exact trivial

omit [Collation] in
theorem templates_direct (statement : Statement)
    (same : statement.table = .templates) :
    Directly "notification_templates.write"
      (.sql .connection statement) := by
  refine Or.inr ?_
  rw [same]
  decide

omit [Collation] in
theorem createTemplate_direct (mother : Mother) (request : HttpRequest)
    (context : Context) :
    (CreateTemplate.serveHTTP mother request context).Only
      (Directly "notification_templates.write") := by
  apply Program.only_bind (newTemplate_iterates _ _ _)
  rintro (refusal | parameters)
  · exact writeError_only _
  · apply Program.only_bind (Program.only_bind (@TemplatesRepo.create_only _
      .connection trivial templates_direct trivial _) ?_)
    · rintro (error | templateID)
      · exact writeError_only _
      · exact trivial
    · rintro ⟨template, err⟩
      cases err <;> exact trivial

theorem updateTemplate_direct (mother : Mother) (templateID : String)
    (body : Body) :
    (updateTemplate mother templateID body).Only
      (Directly "notification_templates.write") := by
  apply Program.only_bind (newTemplate_iterates _ _ _)
  intro parsed
  refine Program.only_bind ?_ fun refusal => statusOnly_only _ refusal
  unfold updateTemplates
  split
  · exact trivial
  · exact Program.only_bind (Program.only_bind (@TemplatesRepo.update_only _ _
      .connection trivial templates_direct _ _) fun _ => trivial)
      fun _ => trivial

theorem deleteTemplates_direct (request : HttpRequest) (context : Context) :
    (DeleteTemplates.serveHTTP request context).Only
      (Directly "notification_templates.write") :=
  withVariables_only fun _ => Program.only_bind (Program.only_bind
    (@TemplatesRepo.destroy_only _ _ .connection templates_direct _)
    fun _ => trivial) fun refusal => statusOnly_only _ refusal

end Templates

/-! ## Reading -/

section Reading

omit [Collation] in
theorem selectAll_reads (table : Table) (wanted : table.Row → Bool) :
    (selectAll .connection table wanted).Only ReadsOnly := by
  apply Program.only_bind (sql_only (Or.inl rfl))
  intro result
  cases result <;> exact trivial

omit [Collation] in
theorem getAllNotifications_reads (request : HttpRequest)
    (context : Context) :
    (GetAllNotifications.serveHTTP request context).Only ReadsOnly := by
  refine Program.only_bind (Program.only_bind ?_ ?_) fun result =>
    documented_only _ result
  · apply Program.only_bind (selectAll_reads _ _)
    rintro ⟨clients, err⟩
    cases err with
    | some error => exact trivial
    | none =>
        apply Program.only_bind (selectAll_reads _ _)
        rintro ⟨kinds, err⟩
        cases err <;> exact trivial
  · rintro (error | ⟨clients, kinds⟩) <;> exact trivial

theorem preferencesOf_reads (userGUID : String) :
    (preferencesOf userGUID).Only ReadsOnly := by
  refine Program.only_bind ?_ ?_
  · apply Program.only_bind (Program.only_bind (selectOne_only (Or.inl rfl))
      ?_)
    · rintro ⟨globally, err⟩
      cases err with
      | some error => exact trivial
      | none =>
          apply Program.only_bind
          · apply Program.only_bind (sql_only (Or.inl rfl))
            intro rows
            cases rows with
            | error error => exact trivial
            | ok rows =>
                dsimp only
                split
                · exact trivial
                · apply Program.only_bind (Program.only_bind
                    (sql_only (Or.inl rfl)) ?_)
                  · rintro ⟨unsubscribes, err⟩
                    cases err <;> exact trivial
                  · intro rows
                    cases rows <;> exact trivial
          · rintro ⟨preferences, err⟩
            cases err <;> exact trivial
    · rintro ⟨row, err⟩
      split <;> exact trivial
  · rintro ⟨builder, err⟩
    cases err <;> exact trivial

omit [Collation] in
theorem shownPreferences_only {allowed : Op → Prop}
    (result : Except Objection Json) :
    (shownPreferences result).Only allowed := by
  cases result with
  | error objection => exact writeError_only _
  | ok document => exact trivial

theorem getPreferences_reads (request : HttpRequest) (context : Context) :
    (GetPreferences.serveHTTP request context).Only ReadsOnly := by
  refine withToken_only fun claims => Program.only_bind ?_
    shownPreferences_only
  unfold getPreferences withUserID
  split
  · exact trivial
  · exact preferencesOf_reads _
  · exact trivial

theorem getPreferencesForUser_reads (request : HttpRequest)
    (context : Context) :
    (GetPreferencesForUser.serveHTTP request context).Only ReadsOnly :=
  Program.only_bind (preferencesOf_reads _) shownPreferences_only

theorem templateDocument_reads (library : TemplateLibrary)
    (templateID : String) :
    (getTemplates library templateID).Only ReadsOnly := by
  apply Program.only_bind (findTemplateByID_only
    (fun _ => Or.inl rfl) _)
  rintro ⟨template, err⟩
  cases err with
  | some error => exact trivial
  | none =>
      dsimp only
      split <;> exact trivial

omit [Collation] in
theorem listTemplates_reads (request : HttpRequest) (context : Context) :
    (ListTemplates.serveHTTP request context).Only ReadsOnly := by
  refine Program.only_bind (Program.only_bind (selectAll_reads _ _) ?_)
    fun result => documented_only _ _
  rintro ⟨templates, err⟩
  cases err <;> exact trivial

theorem listTemplateAssociations_reads (request : HttpRequest)
    (context : Context) :
    (ListTemplateAssociations.serveHTTP request context).Only ReadsOnly := by
  refine withVariables_only fun values => Program.only_bind ?_ ?_
  · apply Program.only_bind (findTemplateByID_only
      (fun _ => Or.inl rfl) _)
    rintro ⟨template, err⟩
    cases err with
    | some error => exact trivial
    | none =>
        apply Program.only_bind (selectAll_reads _ _)
        rintro ⟨clients, err⟩
        cases err with
        | some error => exact trivial
        | none =>
            apply Program.only_bind (selectAll_reads _ _)
            rintro ⟨kinds, err⟩
            cases err <;> exact trivial
  · rintro ⟨associations, err⟩
    cases err with
    | some error => exact writeError_only _
    | none => exact trivial

omit [Collation] in
theorem getMessages_reads (request : HttpRequest) (context : Context) :
    (GetMessages.serveHTTP request context).Only ReadsOnly := by
  refine withVariables_only fun values => Program.only_bind
    (Program.only_bind ?_ ?_) fun status => documented_only _ _
  · apply Program.only_bind (selectOne_only (Or.inl rfl))
    rintro ⟨message, err⟩
    cases err <;> exact trivial
  · rintro ⟨message, err⟩
    cases err <;> exact trivial

end Reading

/-! ## Preferences -/

section Preferences

variable {allowed : Op → Prop} {conn : Conn} (clock : allowed .now)
  (reads : ∀ wanted, allowed (.sql conn (.select .kinds wanted)))
  (unsubscribes : ∀ statement : Statement, statement.table = .unsubscribes →
    allowed (.sql conn statement))
  (globalUnsubscribes : ∀ statement : Statement,
    statement.table = .globalUnsubscribes → allowed (.sql conn statement))

include clock globalUnsubscribes in
theorem setGlobalUnsubscribe_only (userGUID : String) (unsubscribe : Bool) :
    (GlobalUnsubscribesRepo.set conn userGUID unsubscribe).Only allowed := by
  have changes : ∀ row,
      (GlobalUnsubscribesRepo.change conn row unsubscribe).Only allowed := by
    intro row
    rw [GlobalUnsubscribesRepo.change]
    split
    · apply Program.only_bind (sql_only (globalUnsubscribes
        (.insert .globalUnsubscribes row) rfl))
      intro result
      cases result <;> exact trivial
    · split
      · apply Program.only_bind (sql_only (globalUnsubscribes
          (.delete .globalUnsubscribes row) rfl))
        intro result
        cases result <;> exact trivial
      · exact trivial
  apply Program.only_bind (selectOne_only (globalUnsubscribes _ rfl))
  rintro ⟨found, err⟩
  split
  · exact Program.only_perform clock fun _ => changes _
  · exact trivial
  · exact changes _

include reads in
theorem changeable_only (preference : Services.Preference) :
    (PreferenceUpdater.changeable conn preference).Only allowed := by
  apply Program.only_bind (KindsRepo.find_only reads _ _)
  rintro ⟨kind, err⟩
  cases err with
  | some error => exact trivial
  | none =>
      dsimp only
      split <;> exact trivial

include clock unsubscribes in
theorem apply_only (userID : String) (preference : Services.Preference) :
    (PreferenceUpdater.apply conn userID preference).Only allowed := by
  have finds : ∀ clientID kindID userID,
      (UnsubscribesRepo.find conn clientID kindID userID).Only allowed :=
    fun _ _ _ => Program.only_bind (selectOne_only (unsubscribes _ rfl))
      fun _ => trivial
  rw [PreferenceUpdater.apply]
  cases preference.email with
  | false =>
      refine Program.only_bind (Program.only_bind (finds _ _ _) ?_)
        fun _ => trivial
      rintro ⟨found, err⟩
      split
      · apply Program.only_bind (nowTruncated_only clock)
        intro now
        apply Program.only_bind (sql_only (unsubscribes _ rfl))
        intro result
        cases result <;> exact trivial
      · exact trivial
      · exact trivial
  | true =>
      refine Program.only_bind (Program.only_bind (finds _ _ _) ?_)
        fun _ => trivial
      rintro ⟨found, err⟩
      split
      · exact trivial
      · exact trivial
      · exact deleteAll_only _ fun row =>
          unsubscribes (.delete .unsubscribes row) rfl

include clock reads unsubscribes

theorem applyAll_only (userID : String) (preferences : List Services.Preference) :
    (PreferenceUpdater.applyAll conn userID preferences).Only allowed := by
  induction preferences with
  | nil => exact trivial
  | cons preference rest ih =>
      apply Program.only_bind (changeable_only reads preference)
      intro checked
      cases checked with
      | some error => exact trivial
      | none =>
          apply Program.only_bind (apply_only clock unsubscribes userID
            preference)
          intro applied
          cases applied with
          | some error => exact trivial
          | none => exact ih

include globalUnsubscribes in
theorem execute_only (preferences : List Services.Preference)
    (globalUnsubscribe : Bool) (userID : String) :
    (PreferenceUpdater.execute conn preferences globalUnsubscribe
      userID).Only allowed := by
  apply Program.only_bind (setGlobalUnsubscribe_only clock globalUnsubscribes
    _ _)
  intro err
  cases err with
  | some error => exact trivial
  | none =>
      exact applyAll_only clock reads unsubscribes userID
        preferences

end Preferences

section Patching

omit [Collation] in
theorem validate_only {α : Type} {allowed : Op → Prop}
    (iterates : ∀ keys, allowed (.iterate keys)) (library : Library)
    (texts : Valiant.Texts) (fields : List (Json.Field α))
    (required : List String) (body : Body) (typed : α) :
    (Valiant.validate library texts fields required body typed).Only
      allowed := by
  rw [Valiant.validate_eq]
  exact Program.only_bind (validateTyped_only iterates _ _ _ _ _ _)
    fun _ => trivial

omit [Collation] in
theorem clientPreferences_only {allowed : Op → Prop}
    (iterates : ∀ keys, allowed (.iterate keys)) (clients : ClientsMap)
    (clientIDs : List String) :
    (PreferencesBuilder.clientPreferences clients clientIDs).Only
      allowed := by
  induction clientIDs with
  | nil => exact trivial
  | cons clientID rest ih =>
      rw [PreferencesBuilder.clientPreferences]
      split
      · exact ih
      · split
        · exact trivial
        · apply Program.only_perform (iterates _)
          intro order
          split
          · exact trivial
          · apply Program.only_bind ih
            intro later
            cases later <;> exact trivial

omit [Collation] in
theorem updateInTransaction_only {allowed : Op → Prop}
    {body : Prog (Option Error)} (begins : allowed .begin)
    (commits : allowed .commit) (rollsBack : allowed .rollback)
    (only : body.Only allowed) :
    (updateInTransaction body).Only allowed := by
  apply Program.only_perform begins
  intro begun
  apply Program.only_bind only
  intro err
  cases err with
  | some error =>
      apply Program.only_perform rollsBack
      intro undone
      cases undone <;> exact trivial
  | none =>
      apply Program.only_perform commits
      intro committed
      cases committed <;> exact trivial

omit [Collation] in
theorem patched_only {allowed : Op → Prop} (complaint : Option Complaint) :
    (patched complaint).Only allowed := by
  cases complaint with
  | none => exact trivial
  | some complaint => exact writeError_only _

variable {scope : String}
  (writes : ∀ table ∈ [Table.unsubscribes, .globalUnsubscribes],
    scope ∈ writers table)

include writes

theorem complain_granted (library : Library) (texts : Valiant.Texts)
    (userID : String) (body : Body) (unconvertible : String → Objection) :
    (complain library texts userID body unconvertible).Only
      (Granted scope) := by
  apply Program.only_bind (validate_only (fun _ => trivial) _ _ _ _ _ _)
  rintro (text | builder)
  · exact trivial
  · apply Program.only_bind (Program.only_perform trivial fun _ =>
      clientPreferences_only (fun _ => trivial) _ _)
    rintro (text | preferences)
    · exact trivial
    · refine updateInTransaction_only trivial trivial trivial
        (execute_only trivial (fun _ => Or.inl rfl) ?_ ?_ _ _ _)
      · intro statement same
        exact Or.inr (same ▸ writes .unsubscribes (by decide))
      · intro statement same
        exact Or.inr (same ▸ writes .globalUnsubscribes (by decide))

end Patching

theorem updatePreferences_granted (mother : Mother) (request : HttpRequest)
    (context : Context) :
    (UpdatePreferences.serveHTTP mother request context).Only
      (Granted "notification_preferences.write") := by
  refine withToken_only fun claims => Program.only_bind ?_ patched_only
  unfold UpdatePreferences.execute withUserID
  split
  · exact trivial
  · exact complain_granted (by decide) _ _ _ _ _
  · exact trivial

theorem updateSpecificUserPreferences_granted (mother : Mother)
    (request : HttpRequest) (context : Context) :
    (UpdateSpecificUserPreferences.serveHTTP mother request context).Only
      (Granted "notification_preferences.admin") := by
  refine Program.only_bind ?_ patched_only
  unfold UpdateSpecificUserPreferences.execute
  split
  · exact trivial
  · exact complain_granted (by decide) _ _ _ _ _

/-! ## Behind the authenticators -/

section Stacks

variable {mother : Mother} {request : HttpRequest}

/-- What reaches the handler behind an authenticator: its token has passed by
the clock of the call. -/
def Passed (mother : Mother) (request : HttpRequest) (scopes : List String)
    (time : Int) (context : Context) : Prop :=
  ∃ token, context.token = some token ∧
    (Authenticator.mk scopes mother.uaaPublicKey).serveHTTP mother.jwt
      (time / 1000000000) request.authorization = .passed token

omit [Collation] in
theorem Passed.bears {scope : String} {time : Int} {context : Context}
    (passed : Passed mother request [scope] time context) :
    Bears mother request time scope := by
  obtain ⟨token, _, passed⟩ := passed
  obtain ⟨segments, presented, verified, _⟩ :=
    Authenticator.serveHTTP_passed_iff.mp passed
  exact ⟨segments, presented, verified⟩

/-- A middleware that makes no call and leaves the context as it is. -/
def Transparent (ware : Middleware) : Prop :=
  ∀ request context, (ware request context).Only (fun _ => False) ∧
    (ware request context).Returns fun passage => passage.context = context

omit [Collation] in
theorem logging_transparent : Transparent logging :=
  fun _ _ => ⟨trivial, rfl⟩

omit [Collation] in
theorem requestCounter_transparent {Handler : Type}
    (routes : List (Mux.Route Handler)) :
    Transparent (requestCounter routes) := by
  intro request context
  rw [requestCounter]
  split
  · exact ⟨trivial, trivial⟩
  · exact ⟨trivial, rfl⟩

omit [Collation] in
theorem cors_transparent (origin : String) : Transparent (cors origin) :=
  fun _ _ => ⟨trivial, rfl⟩

omit [Collation] in
theorem reaches_transparent {wares later : List Middleware}
    {reach : Context → Prop} {context : Context}
    (transparent : ∀ ware ∈ wares, Transparent ware)
    (reaches : later.foldr (fun ware next context =>
      (ware request context).Returns fun passage =>
        passage.passes = true → next passage.context) reach context) :
    (wares ++ later).foldr (fun ware next context =>
      (ware request context).Returns fun passage =>
        passage.passes = true → next passage.context) reach context := by
  induction wares with
  | nil => exact reaches
  | cons ware rest ih =>
      have here := (transparent ware (.head _) request context).2
      have there := ih fun other member => transparent other (.tail _ member)
      rw [List.cons_append, List.foldr_cons]
      exact here.weaken fun passage same _ => same ▸ there

section Contracts

variable {Knowledge : Type} {contract : Contract Op Answer Knowledge}
  {fine : Knowledge → Prop} {knowledge : Knowledge}

omit [Collation] in
/-- A stack without an authenticator does what its handler does. -/
theorem open_meets {handler : Handler} {wares : List Middleware}
    (transparent : ∀ ware ∈ wares, Transparent ware) (start : fine knowledge)
    (handles : ∀ context,
      (Program.attempt (handler request context)).Meets contract
        (fun learned _ => fine learned) knowledge) :
    (Stack.serveHTTP ⟨handler, wares⟩ request).Meets contract
      (fun learned _ => fine learned) knowledge := by
  have reaches := @reaches_transparent request wares [] (fun _ => True)
    ⟨none⟩ transparent trivial
  rw [List.append_nil] at reaches
  exact Program.meets_recover (Stack.through_meets start
    (fun context _ => handles context) (fun _ => False.elim)
    (fun _ _ => False.elim) (fun ware member context =>
      (transparent ware member request context).1) reaches)

omit [Collation] in
/-- A stack whose last middleware is an authenticator does what its handler
does for a token that has passed by the clock. -/
theorem guarded_meets {handler : Handler} {wares : List Middleware}
    {scopes : List String}
    (transparent : ∀ ware ∈ wares, Transparent ware) (start : fine knowledge)
    (clock : contract.may knowledge .now)
    (still : ∀ time, fine (contract.learn knowledge .now time))
    (handles : ∀ context time, Passed mother request scopes time context →
      (Program.attempt (handler request context)).Meets contract
        (fun learned _ => fine learned) (contract.learn knowledge .now time)) :
    (Stack.serveHTTP ⟨handler, wares ++ [mother.authenticator scopes]⟩
      request).Meets contract (fun learned _ => fine learned) knowledge := by
  apply Program.meets_recover
  generalize (⟨200, [], []⟩ : Stack.Response) = response
  induction wares generalizing response with
  | nil =>
      refine ⟨clock, fun time _ => ?_⟩
      dsimp only [Bind.bind, Program.bind]
      split
      · rename_i token passed
        change (Program.attempt (Stack.through handler request []
          ⟨some token⟩ _)).Meets _ _ _
        rw [Stack.through]
        apply Program.meets_attempt_bind
        refine (handles _ time ⟨token, rfl, passed⟩).weaken
          fun learned result ends => ?_
        cases result <;> exact ends
      · exact still time
      · exact still time
  | cons ware rest ih =>
      obtain ⟨quiet, same⟩ := transparent ware (.head _) request ⟨none⟩
      have later := ih fun other member => transparent other (.tail _ member)
      simp only [List.cons_append, Stack.through]
      generalize ware request ⟨none⟩ = program at quiet same
      cases program with
      | panic message => exact start
      | call op next => exact quiet.1.elim
      | ret passage =>
          change passage.context = ⟨none⟩ at same
          simp only [Program.ret_bind]
          split
          · rw [same]
            exact later _
          · exact start

end Contracts

def making (allowed : Op → Prop) : Contract Op Answer Unit :=
  ⟨fun _ => allowed, fun _ _ => True, fun _ _ _ => ()⟩

omit [Collation] in
theorem attempt_making {α : Type} {allowed : Op → Prop} {program : Prog α}
    (only : program.Only allowed) :
    (Program.attempt program).Meets (making allowed) (fun _ _ => True) () :=
  Program.meets_attempt (Program.meets_of_only (fun _ fine => fine)
    (fun _ _ _ => rfl) only fun _ => trivial)

omit [Collation] in
theorem open_only {allowed : Op → Prop} {handler : Handler}
    {wares : List Middleware}
    (transparent : ∀ ware ∈ wares, Transparent ware)
    (handles : ∀ context, (handler request context).Only allowed) :
    (Stack.serveHTTP ⟨handler, wares⟩ request).Only allowed :=
  Program.only_of_meets (@open_meets _ _ _ (fun _ => True) _ _ _ transparent
    trivial fun context => attempt_making (handles context))

omit [Collation] in
theorem guarded_only {allowed : Op → Prop} {handler : Handler}
    {wares : List Middleware} {scopes : List String}
    (transparent : ∀ ware ∈ wares, Transparent ware) (clock : allowed .now)
    (handles : ∀ context, (handler request context).Only allowed) :
    (Stack.serveHTTP ⟨handler, wares ++ [mother.authenticator scopes]⟩
      request).Only allowed :=
  Program.only_of_meets (@guarded_meets _ _ _ _ (fun _ => True) _ _ _ _
    transparent trivial clock (fun _ => trivial) fun context _ _ =>
      attempt_making (handles context))

omit [Collation] in
theorem scoped_meets {handler : Handler} {wares : List Middleware}
    {scope : String} (transparent : ∀ ware ∈ wares, Transparent ware)
    (granted : ∀ context, (handler request context).Only (Granted scope)) :
    (Stack.serveHTTP ⟨handler, wares ++ [mother.authenticator [scope]]⟩
      request).Meets (mandate mother request) (fun _ _ => True) [] := by
  refine @guarded_meets _ _ _ _ (fun _ => True) _ _ _ _ transparent trivial
    trivial (fun _ => trivial) fun context time passed => ?_
  exact Program.meets_attempt (Granted.meets passed.bears (by
    rw [mandate]
    simp [reading]) (granted context))

omit [Collation] in
/-- Behind an authenticator that guards what can be read. -/
theorem read_only {handler : Handler} {wares : List Middleware}
    {scopes : List String}
    (transparent : ∀ ware ∈ wares, Transparent ware)
    (reads : ∀ context, (handler request context).Only ReadsOnly) :
    (Stack.serveHTTP ⟨handler, wares ++ [mother.authenticator scopes]⟩
      request).Only ReadsOnly :=
  guarded_only transparent trivial reads

/-- A route under one of the methods that are there to look at something. -/
def Looks (methodPath : String) : Prop :=
  ∃ method ∈ ["GET", "OPTIONS"],
    (cut [' '] methodPath.toList).map Prod.fst = some method.toList

instance (methodPath : String) : Decidable (Looks methodPath) :=
  inferInstanceAs (Decidable (∃ _ ∈ _, _))

/-- The keys of the handlers that change preferences. -/
def patches : List String :=
  ["PATCH /user_preferences", "PATCH /user_preferences/{user_id}"]

/-- The keys of the handlers that open a transaction. -/
def transacting : List String :=
  ["POST /users/{user_id}", "POST /spaces/{space_id}",
    "POST /organizations/{org_id}", "POST /everyone",
    "POST /uaa_scopes/{scope}", "POST /emails", "PUT /registration",
    "PUT /notifications"] ++ patches

/-- The stack under a key makes permitted calls only; it only reads where the
method looks, and leaves preferences and transactions alone unless it is there
for them. -/
structure Behaves (mother : Mother) (request : HttpRequest)
    (methodPath : String) (program : Prog Stack.Response) : Prop where
  mandated : program.Meets (mandate mother request) (fun _ _ => True) []
  looking : Looks methodPath → program.Only ReadsOnly
  shared : methodPath ∉ patches → program.Only Shared
  plain : methodPath ∉ transacting → program.Only Plain

omit [Collation] in
theorem behaves_patching {methodPath : String} {program : Prog Stack.Response}
    (changes : ¬ Looks methodPath) (patch : methodPath ∈ patches)
    (meets : program.Meets (mandate mother request) (fun _ _ => True) []) :
    Behaves mother request methodPath program :=
  ⟨meets, fun looks => absurd looks changes, fun other => absurd patch other,
    fun other => absurd (List.mem_append_right _ patch) other⟩

omit [Collation] in
theorem behaves_reading {methodPath : String} {program : Prog Stack.Response}
    (only : program.Only ReadsOnly) :
    Behaves mother request methodPath program :=
  ⟨ReadsOnly.meets only, fun _ => only,
    fun _ => only.weaken ReadsOnly.weaken, fun _ => only.weaken Direct.plain⟩

theorem stackMap_behaves (mother : Mother) (request : HttpRequest)
    {counter : Middleware} (transparent : Transparent counter) :
    ∀ entry ∈ stackMap mother counter,
      Behaves mother request entry.1 (entry.2.serveHTTP request) := by
  have observed : ∀ ware ∈ [logging, counter], Transparent ware := by
    simp [logging_transparent, transparent]
  have shared : ∀ ware ∈ [logging, counter, cors mother.corsOrigin],
      Transparent ware := by
    simp [logging_transparent, transparent, cors_transparent]
  have guarded {handler : Handler} {scopes : List String} {allowed : Op → Prop}
      (clock : allowed .now)
      (only : ∀ context, (handler request context).Only allowed) :
      (Stack.serveHTTP ⟨handler, [logging, counter,
        mother.authenticator scopes]⟩ request).Only allowed :=
    @guarded_only _ _ _ _ [logging, counter] _ observed clock only
  have writing {methodPath scope : String} {handler : Handler}
      (transacts : ¬ Looks methodPath ∧ methodPath ∈ transacting)
      (ordinary : scope ∈ ["notifications.write", "emails.write",
        "notifications.manage", "notification_templates.write"])
      (granted : ∀ context, (handler request context).Only (Granted scope)) :
      Behaves mother request methodPath (Stack.serveHTTP ⟨handler,
        [logging, counter, mother.authenticator [scope]]⟩ request) :=
    ⟨@scoped_meets _ _ _ [logging, counter] _ observed granted,
      fun looks => absurd looks transacts.1,
      fun _ => guarded trivial fun context =>
        (granted context).weaken (Granted.shared ordinary),
      fun other => absurd transacts.2 other⟩
  have storing {methodPath scope : String} {handler : Handler}
      (changes : ¬ Looks methodPath)
      (ordinary : scope ∈ ["notifications.write", "emails.write",
        "notifications.manage", "notification_templates.write"])
      (direct : ∀ context, (handler request context).Only (Directly scope)) :
      Behaves mother request methodPath (Stack.serveHTTP ⟨handler,
        [logging, counter, mother.authenticator [scope]]⟩ request) := by
    have granted : ∀ context,
        (handler request context).Only (Granted scope) :=
      fun context => (direct context).weaken Directly.granted
    exact ⟨@scoped_meets _ _ _ [logging, counter] _ observed granted,
      fun looks => absurd looks changes,
      fun _ => guarded trivial fun context =>
        (granted context).weaken (Granted.shared ordinary),
      fun _ => guarded trivial fun context =>
        (direct context).weaken Direct.plain⟩
  have reading {methodPath : String} {scopes : List String}
      {handler : Handler}
      (reads : ∀ context, (handler request context).Only ReadsOnly) :
      Behaves mother request methodPath (Stack.serveHTTP ⟨handler,
        [logging, counter, mother.authenticator scopes]⟩ request) :=
    behaves_reading (@read_only _ _ _ [logging, counter] _ observed reads)
  intro entry member
  simp only [stackMap, List.mem_cons, List.not_mem_nil, or_false] at member
  rcases member with rfl | rfl | rfl | rfl | rfl | rfl | rfl | rfl | rfl |
    rfl | rfl | rfl | rfl | rfl | rfl | rfl | rfl | rfl | rfl | rfl | rfl |
    rfl | rfl | rfl | rfl | rfl | rfl | rfl
  all_goals dsimp only
  · exact behaves_reading (open_only observed fun _ => trivial)
  · exact writing (by decide) (by decide) (notifyHandler_granted (by decide) _ _ _ _)
  · exact writing (by decide) (by decide) (notifyHandler_granted (by decide) _ _ _ _)
  · exact writing (by decide) (by decide) (notifyHandler_granted (by decide) _ _ _ _)
  · exact writing (by decide) (by decide) (notifyHandler_granted (by decide) _ _ _ _)
  · exact writing (by decide) (by decide) (notifyHandler_granted (by decide) _ _ _ _)
  · exact writing (by decide) (by decide) (notifyHandler_granted (by decide) _ _ _ _)
  · exact writing (by decide) (by decide) (registerNotifications_granted _ _)
  · exact writing (by decide) (by decide) (registerClientWithNotifications_granted _ _)
  · exact storing (by decide) (by decide) (updateNotifications_direct _ _)
  · exact reading (getAllNotifications_reads _)
  · exact behaves_reading (open_only shared fun _ => trivial)
  · exact behaves_reading (open_only shared fun _ => trivial)
  · exact behaves_reading (@read_only _ _ _
      [logging, counter, cors mother.corsOrigin] _ shared
      (getPreferences_reads _))
  · exact behaves_reading (@read_only _ _ _
      [logging, counter, cors mother.corsOrigin] _ shared
      (getPreferencesForUser_reads _))
  · exact behaves_patching (by decide) (by decide) (@scoped_meets _ _ _
      [logging, counter, cors mother.corsOrigin] _ shared
      (updatePreferences_granted _ _))
  · exact behaves_patching (by decide) (by decide) (@scoped_meets _ _ _
      [logging, counter, cors mother.corsOrigin] _ shared
      (updateSpecificUserPreferences_granted _ _))
  · exact storing (by decide) (by decide) (createTemplate_direct _ _)
  · exact reading fun _ => Program.only_bind (templateDocument_reads _ _)
      fun result => documented_only _ result
  · exact storing (by decide) (by decide) fun _ => updateTemplate_direct _ _ _
  · exact reading fun _ => withVariables_only fun _ => Program.only_bind
      (templateDocument_reads _ _) fun result => documented_only _ result
  · exact storing (by decide) (by decide) fun _ => withVariables_only fun _ =>
      updateTemplate_direct _ _ _
  · exact storing (by decide) (by decide) (deleteTemplates_direct _)
  · exact reading (listTemplates_reads _)
  · exact storing (by decide) (by decide) (assignClientTemplate_direct _)
  · exact storing (by decide) (by decide) (assignNotificationTemplate_direct _)
  · exact reading (listTemplateAssociations_reads _)
  · exact reading (getMessages_reads _)

end Stacks

/-! ## The router -/

section Routed

variable {mother : Mother} (router : Router mother) (request : HttpRequest)

omit [Collation] in
/-- The routes of a router, with the method in their key. -/
theorem entry_of_route {Handler : Type} {entries : List (String × Handler)}
    {route : Mux.Route Handler} (member : route ∈ routes entries) :
    (route.name, route.handler) ∈ entries ∧ ∃ method,
      route.methods = [method] ∧
        (cut [' '] route.name.toList).map Prod.fst = some method.toList := by
  obtain ⟨⟨key, handler⟩, listed, registered⟩ := List.mem_filterMap.mp member
  rw [register, Option.map_eq_some_iff] at registered
  obtain ⟨⟨method, template⟩, parts, rfl⟩ := registered
  refine ⟨listed, String.ofList method, rfl, ?_⟩
  change (cut [' '] key.toList).map Prod.fst = _
  rw [parts, Option.map_some, String.toList_ofList]

theorem serveHTTP_behaves :
    (router.serveHTTP request).Meets (mandate mother request)
        (fun _ _ => True) [] ∧
      (request.method ∈ ["GET", "OPTIONS"] →
        (router.serveHTTP request).Only ReadsOnly) := by
  rw [Router.serveHTTP]
  split
  · exact ⟨trivial, fun _ => trivial⟩
  · exact ⟨trivial, fun _ => trivial⟩
  · rename_i found served
    obtain ⟨_, member, here⟩ := Router.dispatched served
    obtain ⟨listed, method, methods, key⟩ := entry_of_route member
    have behaves := stackMap_behaves mother request
      (requestCounter_transparent _) _ (router.entries_perm.subset listed)
    refine ⟨behaves.mandated, fun looking =>
      behaves.looking ⟨method, ?_, key⟩⟩
    obtain ⟨tokens, template, separated⟩ := router.parsed _ member
    have allowed := ((Mux.matches_iff template separated).mp here).1
    rw [methods, List.mem_singleton] at allowed
    exact allowed ▸ looking

end Routed

/-! ## Runs -/

section Runs

variable {mother : Mother} {router : Router mother}
  {tables : HttpRequest → Table → Prop} {jobs : HttpRequest → Prop}

/-- The request has not written, and will not write, anything else. -/
structure Exchange.Within (tables : HttpRequest → Table → Prop)
    (jobs : HttpRequest → Prop) (exchange : Exchange) : Prop where
  program : exchange.program.Only
    (Writes (tables exchange.request) (jobs exchange.request))
  transaction : ∀ txn ∈ exchange.transaction,
    WritingTxn (tables exchange.request) txn

def Output.Within (tables : HttpRequest → Table → Prop)
    (jobs : HttpRequest → Prop) (output : Output) : Prop :=
  (∀ table, output.after.database.tables.rows table ≠
      output.before.database.tables.rows table →
        tables output.request table) ∧
    (output.after.jobs ≠ output.before.jobs → jobs output.request)

theorem step_within (serves : ∀ request, (router.serveHTTP request).Only
      (Writes (tables request) (jobs request)))
    {state next : State} {event : Event} {shown : List Output}
    (within : ∀ exchange ∈ state.exchanges, exchange.Within tables jobs)
    (stepped : (system router).step state event = some (next, shown)) :
    (∀ exchange ∈ next.exchanges, exchange.Within tables jobs) ∧
      ∀ output ∈ shown, output.Within tables jobs := by
  obtain ⟨request, rfl, rfl, rfl⟩ | ⟨index, environment, exchange, op, rest,
    answer, transaction, server, rfl, called, rfl, rfl⟩ := step_cases stepped
  · refine ⟨fun exchange member => ?_, by simp⟩
    rcases List.mem_append.mp member with old | new
    · exact within exchange old
    · rw [List.mem_singleton.mp new]
      exact ⟨serves request, by simp [Exchange.arrived]⟩
  · have held := within exchange (List.mem_of_getElem? called.present)
    have only := held.program
    rw [called.running] at only
    obtain ⟨alone, kept⟩ := Effect.writes (call_effect called.called) only.1
      held.transaction
    refine ⟨fun other member => ?_, fun output member => ?_⟩
    · rcases List.mem_or_eq_of_mem_set member with old | rfl
      · exact within other old
      · exact ⟨only.2 answer, kept⟩
    · rw [List.mem_singleton.mp member]
      refine ⟨fun table differs => ?_, fun differs => ?_⟩
      · by_contra forbidden
        exact differs (alone table forbidden)
      · rcases call_jobs called.called with same | ⟨job, rfl⟩
        · exact absurd same differs
        · exact only.1

theorem run_within (serves : ∀ request, (router.serveHTTP request).Only
      (Writes (tables request) (jobs request)))
    {server : Server} {events : List Event} {final : State}
    {trace : List Output}
    (ran : (system router).run events ⟨server, []⟩ = some (final, trace)) :
    ∀ output ∈ trace, output.Within tables jobs := by
  have safe := (system router).run_invariant (fun _ _ => True)
    (fun trace state =>
      (∀ exchange ∈ state.exchanges, exchange.Within tables jobs) ∧
        ∀ output ∈ trace, output.Within tables jobs) ?_ events [] _ final
    trace ⟨by simp, by simp⟩
    ((system router).guarded_of_forall (fun _ _ _ => trivial) _) ran
  · exact safe.2
  · intro before state event next shown within _ stepped
    obtain ⟨kept, fine⟩ := step_within serves within.1 stepped
    refine ⟨kept, fun output member => ?_⟩
    rcases List.mem_append.mp member with earlier | now
    · exact within.2 output earlier
    · exact fine output now

end Runs

/-! ### The clock of a request -/

/-- The times that the calls of a request have read off the clock. -/
def timesOf (index : Nat) (trace : List Output) : List Int :=
  trace.filterMap fun output =>
    if output.index = index then output.clock else none

/-- A request on its way that keeps to its mandate. -/
structure Exchange.Mandated (mother : Mother) (times : List Int)
    (exchange : Exchange) : Prop where
  program : exchange.program.Meets (mandate mother exchange.request)
    (fun _ _ => True) times
  transaction : ∀ txn ∈ exchange.transaction,
    WritingTxn (fun table => Shows mother exchange.request times
      (writers table)) txn

/-- In an earlier call the request has read the clock, and at that time its
token bore one of the scopes. -/
def Output.Shows (mother : Mother) (earlier : List Output) (output : Output)
    (scopes : List String) : Prop :=
  ∃ reading ∈ earlier, reading.index = output.index ∧
    ∃ time ∈ reading.clock, ∃ scope ∈ scopes,
      Bears mother output.request time scope

/-- What the call has changed, its scopes are good for. -/
def Output.Mandated (mother : Mother) (earlier : List Output)
    (output : Output) : Prop :=
  (∀ table, output.after.database.tables.rows table ≠
      output.before.database.tables.rows table →
        output.Shows mother earlier (writers table)) ∧
    (output.after.jobs ≠ output.before.jobs →
      output.Shows mother earlier enqueuers)

section Clocks

variable {mother : Mother} {router : Router mother} {trace : List Output}

theorem Shows.output {output : Output} {scopes : List String}
    (shows : Shows mother output.request (timesOf output.index trace) scopes) :
    output.Shows mother trace scopes := by
  obtain ⟨time, shown, scope, listed, bears⟩ := shows
  obtain ⟨reading, member, read⟩ := List.mem_filterMap.mp shown
  split at read
  · rename_i same
    exact ⟨reading, member, same, time, read, scope, listed, bears⟩
  · cases read

theorem timesOf_append (index : Nat) (output : Output) :
    timesOf index (trace ++ [output]) = timesOf index trace ++
      (if output.index = index then output.clock else none).toList := by
  rw [timesOf, List.filterMap_append, ← timesOf]
  cases here : (if output.index = index then output.clock else none) <;>
    simp [here]

theorem step_mandated {state next : State} {event : Event}
    {shown : List Output}
    (mandated : ∀ (index : Nat) (exchange : Exchange),
      state.exchanges[index]? = some exchange →
        exchange.Mandated mother (timesOf index trace))
    (stepped : (system router).step state event = some (next, shown)) :
    (∀ (index : Nat) (exchange : Exchange),
      next.exchanges[index]? = some exchange →
        exchange.Mandated mother (timesOf index (trace ++ shown))) ∧
      (shown = [] ∨
        ∃ output, shown = [output] ∧ output.Mandated mother trace) := by
  obtain ⟨request, rfl, rfl, rfl⟩ | ⟨index, environment, exchange, op, rest,
    answer, transaction, server, rfl, called, rfl, rfl⟩ := step_cases stepped
  · refine ⟨fun index exchange present => ?_, .inl rfl⟩
    rw [List.append_nil]
    rw [List.getElem?_append] at present
    split at present
    · exact mandated index exchange present
    · rw [List.mem_singleton.mp (List.mem_of_getElem? present)]
      exact ⟨mandate_mono (List.nil_subset _)
        (serveHTTP_behaves router request).1, by simp [Exchange.arrived]⟩
  · have held := mandated index exchange called.present
    have meets := held.program
    rw [called.running] at meets
    have may : Permitted mother exchange.request _ op := meets.1
    obtain ⟨alone, kept⟩ := Effect.writes (call_effect called.called) may
      held.transaction
    refine ⟨fun place other present => ?_, .inr ⟨_, rfl, ?_, ?_⟩⟩
    · rw [timesOf_append]
      rw [List.getElem?_set] at present
      split at present
      · rename_i same
        subst same
        split at present
        · cases present
          rw [if_pos rfl]
          refine ⟨meets.2 answer trivial, fun txn member change listed => ?_⟩
          exact (kept txn member change listed).mono
            (List.subset_append_left _ _)
        · cases present
      · rename_i different
        rw [if_neg different, Option.toList_none, List.append_nil]
        exact mandated place other present
    · intro table differs
      by_contra forbidden
      refine differs (alone table fun shows => ?_)
      exact forbidden (Shows.output shows)
    · intro differs
      rcases call_jobs called.called with same | ⟨job, rfl⟩
      · exact absurd same differs
      · exact Shows.output may

end Clocks

/-- Whatever requests the server is serving: a table changes only in a call of
a request that has read the clock, and by that time bore a current token with a
verified signature and one of the scopes for this table; and the jobs only in a
call of one that might notify. -/
theorem changes_need_scopes {mother : Mother} (router : Router mother)
    (server : Server) (events : List Event) (final : State)
    (trace : List Output)
    (ran : (system router).run events ⟨server, []⟩ = some (final, trace))
    (earlier later : List Output) (output : Output)
    (split : trace = earlier ++ output :: later) :
    (∀ table, output.after.database.tables.rows table ≠
        output.before.database.tables.rows table →
          output.Shows mother earlier (writers table)) ∧
      (output.after.jobs ≠ output.before.jobs →
        output.Shows mother earlier enqueuers) := by
  have safe := (system router).run_invariant (fun _ _ => True)
    (fun trace state =>
      (∀ (index : Nat) (exchange : Exchange),
        state.exchanges[index]? = some exchange →
          exchange.Mandated mother (timesOf index trace)) ∧
        ∀ earlier output later, trace = earlier ++ output :: later →
          output.Mandated mother earlier) ?_ events [] _ final
    trace ⟨by simp, by simp⟩
    ((system router).guarded_of_forall (fun _ _ _ => trivial) _) ran
  · exact safe.2 earlier output later split
  · rintro before state event next shown ⟨mandated, past⟩ _ stepped
    obtain ⟨kept, fine⟩ := step_mandated mandated stepped
    refine ⟨kept, fun earlier output later split => ?_⟩
    rcases fine with rfl | ⟨last, rfl, now⟩
    · rw [List.append_nil] at split
      exact past earlier output later split
    · rcases List.eq_nil_or_concat later with rfl | ⟨others, final, rfl⟩
      · obtain ⟨rfl, same⟩ := List.append_inj' split rfl
        cases same
        exact now
      · have shorter := congrArg List.dropLast split
        rw [List.dropLast_concat, List.concat_eq_append, ← List.cons_append,
          ← List.append_assoc, List.dropLast_concat] at shorter
        exact past earlier output others shorter

end Collated

section Binary

attribute [local instance] Collation.binary

def sampleServer : Server where
  database := .after [.insert .templates
    ⟨0, "welcome", "Welcome", "", "", "", "", 0, 0, false⟩]
  jobs := []
  nextJobID := 1

def sampleEvents : List Event :=
  .arrive sampleDelete :: List.replicate 3 (.call 0 .calm)

theorem deletion_needs_scope :
    ∃ final trace, (system sampleRouter).run sampleEvents ⟨sampleServer, []⟩ =
        some (final, trace) ∧
      ∃ output ∈ trace, output.after.database.tables.rows .templates ≠
          output.before.database.tables.rows .templates ∧
        ∃ earlier later, trace = earlier ++ output :: later ∧
          output.Shows sampleMother earlier (writers .templates) := by
  have deletes : (((system sampleRouter).run sampleEvents
      ⟨sampleServer, []⟩).any fun result =>
        result.2.any fun output =>
          decide (output.after.database.tables.rows .templates ≠
            output.before.database.tables.rows .templates)) = true := by
    rw [sampleEvents, run_arrive sampleDelete_served]
    decide +kernel
  obtain ⟨⟨final, trace⟩, ran, changes⟩ := (Option.any_eq_true _ _).mp deletes
  obtain ⟨output, member, differs⟩ := List.any_eq_true.mp changes
  have differs := of_decide_eq_true differs
  obtain ⟨earlier, later, split⟩ := List.append_of_mem member
  exact ⟨final, trace, ran, output, member, differs, earlier, later, split,
    (changes_need_scopes sampleRouter sampleServer sampleEvents final trace
      ran earlier later output split).1 .templates differs⟩

end Binary

section Collated

variable [Collation]

/-- A `GET` or an `OPTIONS` request changes nothing, whatever else is going
on. -/
theorem looking_changes_nothing {mother : Mother} (router : Router mother)
    (server : Server) (events : List Event) (final : State)
    (trace : List Output)
    (ran : (system router).run events ⟨server, []⟩ = some (final, trace)) :
    ∀ output ∈ trace, output.request.method ∈ ["GET", "OPTIONS"] →
      output.after.database.tables.rows =
          output.before.database.tables.rows ∧
        output.after.jobs = output.before.jobs := by
  have serves : ∀ request : HttpRequest, (router.serveHTTP request).Only
      (Writes (fun _ => request.method ∉ ["GET", "OPTIONS"])
        (request.method ∉ ["GET", "OPTIONS"])) := by
    intro request
    obtain ⟨_, reads⟩ := serveHTTP_behaves router request
    by_cases looking : request.method ∈ ["GET", "OPTIONS"]
    · exact (reads looking).weaken ReadsOnly.weaken
    · exact (Program.only_true _).weaken fun op _ => by
        cases op <;> simp [Writes, looking]
  intro output member looking
  obtain ⟨tables, jobs⟩ := @run_within _ _ _ (fun request _ =>
    request.method ∉ ["GET", "OPTIONS"]) (fun request =>
    request.method ∉ ["GET", "OPTIONS"]) serves _ _ _ _ ran output member
  refine ⟨?_, ?_⟩
  · funext table
    by_contra differs
    exact tables table differs looking
  · by_contra differs
    exact jobs differs looking

end Collated

section Binary

attribute [local instance] Collation.binary

def sampleGet : HttpRequest :=
  { sampleDelete with method := "GET", path := "/templates" }

theorem sampleGet_served : sampleRouter.serveHTTP sampleGet =
    .call .now fun _ => Program.recover (fun _ => Stack.recovered)
      (Stack.through ListTemplates.serveHTTP sampleGet []
        ⟨some sampleSegments.token⟩ ⟨200, [], []⟩) := by
  rw [@Router.serveHTTP_counted _ _ sampleRouter sampleGet "GET /templates"
    ListTemplates.serveHTTP
    [sampleMother.authenticator ["notification_templates.read"]]
    (@List.mem_of_getElem? _ _ 23 _ rfl) (by decide +kernel)
    (by decide +kernel),
    through_sampleAuthenticator rfl (by decide +kernel)]
  rfl

/-- The templates are listed while one of them is deleted: both clocks are read,
the deletion looks for its template, the list is read, and the row goes. -/
def sampleMeeting : List Event :=
  [.arrive sampleDelete, .arrive sampleGet, .call 1 .calm, .call 0 .calm,
    .call 0 .calm, .call 1 .calm, .call 0 .calm]

theorem listing_changes_nothing :
    ∃ final trace, (system sampleRouter).run sampleMeeting
        ⟨sampleServer, []⟩ = some (final, trace) ∧
      (trace.map fun output => (output.request.method,
        (output.before.database.tables.rows .templates).length,
        (output.after.database.tables.rows .templates).length)) =
          [("GET", 1, 1), ("DELETE", 1, 1), ("DELETE", 1, 1), ("GET", 1, 1),
            ("DELETE", 1, 0)] ∧
      ∃ output ∈ trace, output.request.method = "GET" ∧
        output.clock = none ∧
        output.after.database.tables.rows =
          output.before.database.tables.rows := by
  have shown : (((system sampleRouter).run sampleMeeting
      ⟨sampleServer, []⟩).any fun result =>
        (result.2.map fun output => (output.request.method,
          (output.before.database.tables.rows .templates).length,
          (output.after.database.tables.rows .templates).length)) =
            [("GET", 1, 1), ("DELETE", 1, 1), ("DELETE", 1, 1),
              ("GET", 1, 1), ("DELETE", 1, 0)] ∧
        result.2.any fun output => output.request.method = "GET" ∧
          output.clock = none) = true := by
    rw [sampleMeeting, run_arrive sampleDelete_served,
      run_arrive sampleGet_served]
    decide +kernel
  obtain ⟨⟨final, trace⟩, ran, shown⟩ := (Option.any_eq_true _ _).mp shown
  obtain ⟨rows, listed⟩ := of_decide_eq_true shown
  obtain ⟨output, member, reads⟩ := List.any_eq_true.mp listed
  obtain ⟨gets, read⟩ := of_decide_eq_true reads
  exact ⟨final, trace, ran, rows, output, member, gets, read,
    (looking_changes_nothing sampleRouter sampleServer sampleMeeting final
      trace ran output member (by simp [gets])).1⟩

end Binary

end Notifications.Web.Serving
