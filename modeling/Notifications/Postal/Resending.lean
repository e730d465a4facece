import Notifications.Gobble.Settled
import Notifications.Mail.Reuse
import Notifications.Postal.Unsubscription

/-!
# Accepted mail and retries

An attempt of a worker with its mail client and the server behind it.  The
status of an attempt is what `Send` returned, and `Send` returns an error when
the server has taken the message but does not answer the `Quit`.
-/

set_option autoImplicit false
set_option linter.unusedSectionVars false

namespace Notifications.Mail

open Notifications.Lib

/-- The server takes the message of this `Send`. -/
def TakesMessage (config : Config) (behaviour : Behaviour)
    (client : Option Connection) : Prop :=
  config.testMode = false ∧ Unused client ∧
    (client = none → behaviour.dial.isOk = true) ∧
    ((behaviour.prepared config).isSome && behaviour.takes) = true

instance (config : Config) (behaviour : Behaviour)
    (client : Option Connection) :
    Decidable (TakesMessage config behaviour client) :=
  inferInstanceAs (Decidable (_ ∧ _ ∧ _ ∧ _))

/-- A server that takes the message answers the `Quit` after it. -/
def Polite (config : Config) (behaviour : Behaviour)
    (client : Option Connection) : Prop :=
  TakesMessage config behaviour client → (behaviour.quit 0).isOk = true

instance (config : Config) (behaviour : Behaviour)
    (client : Option Connection) : Decidable (Polite config behaviour client) :=
  inferInstanceAs (Decidable (_ → _))

variable [Models.Collation]

section Sends

variable {config : Config} {behaviour : Behaviour}
  {client : Option Connection} {msg : Message}

/-- A connection that has been used before gets no message through. -/
theorem sent_used {connection : Connection}
    (used : connection.didHello = true) (real : config.testMode = false) :
    ∃ err after, Client.sent config msg behaviour (some connection) =
      (some (.error err), after) ∧ after.accepted = [] := by
  have connected : (Client.connect config).run (Line.handle behaviour)
      ⟨some connection, 0, []⟩ = (some (.ok ()), ⟨some connection, 0, []⟩) := by
    simp [Client.connect, real, Program.run_call, Line.handle]
  have late : (Client.hello).run (Line.handle behaviour)
      ⟨some connection, 0, []⟩ =
        (some (.error helloCalledLate), ⟨some connection, 0, []⟩) := by
    rw [Client.hello, run_method rfl]
    simp [Connection.invoke, used, Line.invoke]
  rw [Client.sent, Client.send, if_neg (by simp [real]),
    run_checked_ok connected, run_checked_error late]
  obtain ⟨err, _, _, _, ran⟩ := @run_error behaviour
    ⟨some connection, 0, []⟩ connection rfl helloCalledLate
  exact ⟨err, _, ran, rfl⟩

/-- What `Send` returns and what the server has taken. -/
theorem sent_outcome (reached : Reached client) :
    ∃ result, (Client.sent config msg behaviour client).1 = some result ∧
      ((TakesMessage config behaviour client ∧
          (Client.sent config msg behaviour client).2.accepted = [msg] ∧
          (result = .ok () ↔ (behaviour.quit 0).isOk = true)) ∨
        (¬ TakesMessage config behaviour client ∧
          (Client.sent config msg behaviour client).2.accepted = [])) := by
  by_cases testing : config.testMode = true
  · refine ⟨.ok (), by rw [sent_testing testing], .inr ⟨?_, ?_⟩⟩
    · intro facts
      obtain ⟨real, _⟩ := facts
      simp [testing] at real
    · rw [sent_testing testing]
  have real : config.testMode = false := by simpa using testing
  by_cases unused : Unused client
  · have ended := @run_send behaviour config ⟨client, 0, []⟩ msg real unused
    rw [← Client.sent] at ended
    generalize Client.sent config msg behaviour client = outcome at ended
    cases ended with
    | unconnected absent refused =>
        refine ⟨_, rfl, .inr ⟨?_, rfl⟩⟩
        intro facts
        obtain ⟨_, _, dialled, _⟩ := facts
        simp [dialled absent] at refused
    | refused dialled fails failed =>
        obtain ⟨err, connection, quits, _, rfl⟩ := failed
        refine ⟨_, rfl, .inr ⟨?_, rfl⟩⟩
        intro facts
        obtain ⟨_, _, _, takes⟩ := facts
        simp [takes] at fails
    | unfinished dialled taken fails failed =>
        obtain ⟨err, connection, quits, _, rfl⟩ := failed
        exact ⟨_, rfl, .inl ⟨⟨real, unused, dialled, taken⟩, rfl,
          by simp [fails]⟩⟩
    | delivered dialled taken answered =>
        exact ⟨_, rfl, .inl ⟨⟨real, unused, dialled, taken⟩, rfl,
          by simp [answered]⟩⟩
  · cases present : client with
    | none => exact absurd (.inl present) unused
    | some connection =>
        have used := (reached connection present).resolve_left
          fun fresh => unused (.inr (by rw [present, fresh]))
        obtain ⟨err, after, ran, nothing⟩ :=
          @sent_used _ config behaviour msg connection used real
        rw [ran]
        refine ⟨_, rfl, .inr ⟨?_, nothing⟩⟩
        intro facts
        obtain ⟨_, fresh, _⟩ := facts
        exact unused (present ▸ fresh)

/-- An accepted message makes `Send` return nil exactly if the server is
polite. -/
theorem sent_nil_iff (reached : Reached client) :
    ((Client.sent config msg behaviour client).2.accepted ≠ [] →
      (Client.sent config msg behaviour client).1 = some (.ok ())) ↔
      Polite config behaviour client := by
  obtain ⟨result, returned, ⟨taken, accepted, nil⟩ | ⟨refused, nothing⟩⟩ :=
    @sent_outcome _ config behaviour client msg reached
  · rw [returned, accepted, Option.some.injEq, nil]
    simp [Polite, taken]
  · simp [Polite, refused, nothing]

end Sends

end Notifications.Mail

namespace Notifications.Postal

open Notifications.Lib Notifications.Models

section Collated

variable [Collation]

/-! ## What an attempt hands to the mail client -/

/-- The messages that the calls hand to `Send`. -/
def handed (calls : List (World × Op)) : List Mail.Message :=
  calls.filterMap fun call =>
    match call.2 with
    | .service (.send message) => some message
    | _ => none

/-- The program hands over one message at most, and if `Send` returns nil for
it the result is good. -/
def Hands {α : Type} (environment : Environment) (program : Prog α)
    (world : World) (good : α → Prop) : Prop :=
  handed (program.trace (World.handle environment) world) = [] ∨
    ∃ message services,
      handed (program.trace (World.handle environment) world) = [message] ∧
        (environment.serve services (.send message) = .ok () →
          ∀ value after,
            program.run (World.handle environment) world =
              (some value, after) → good value)

section Rules

variable {α β : Type} {environment : Environment} {world : World}

theorem handed_append (before after : List (World × Op)) :
    handed (before ++ after) = handed before ++ handed after :=
  List.filterMap_append

theorem handed_of_unsent {program : Prog α} (unsent : program.Only Worker.Unsent)
    (world : World) :
    handed (program.trace (World.handle environment) world) = [] := by
  apply List.filterMap_eq_nil_iff.mpr
  intro call member
  have quiet := Program.trace_of_only _ unsent world call member
  split
  · rename_i sends
    rw [sends] at quiet
    cases quiet
  · rfl

theorem Hands.of_unsent {program : Prog α}
    (unsent : program.Only Worker.Unsent) (good : α → Prop) :
    Hands environment program world good :=
  .inl (handed_of_unsent unsent world)

theorem Hands.of_ret (value : α) (good : α → Prop) :
    Hands environment (.ret value) world good := .inl rfl

theorem Hands.after_unsent {program : Prog α} {rest : α → Prog β}
    {good : β → Prop} (unsent : program.Only Worker.Unsent)
    (next : ∀ value after,
      program.run (World.handle environment) world = (some value, after) →
        Hands environment (rest value) after good) :
    Hands environment (program >>= rest) world good := by
  have nothing := @handed_of_unsent _ α environment program unsent world
  match first : program.run (World.handle environment) world with
  | (none, after) =>
      left
      rw [Program.trace_bind, first, handed_append, nothing]
      rfl
  | (some value, after) =>
      rw [Hands, Program.trace_bind_of _ first, handed_append, nothing,
        List.nil_append, Program.run_bind_of _ first]
      exact next value after first

/-- Then a part that sends nothing and keeps what is good. -/
theorem Hands.before_unsent {program : Prog α} {rest : α → Prog β}
    {goodFirst : α → Prop} {good : β → Prop}
    (hands : Hands environment program world goodFirst)
    (unsent : ∀ value, (rest value).Only Worker.Unsent)
    (keeps : ∀ value, goodFirst value → ∀ world result after,
      (rest value).run (World.handle environment) world =
        (some result, after) → good result) :
    Hands environment (program >>= rest) world good := by
  have same : handed ((program >>= rest).trace (World.handle environment)
      world) = handed (program.trace (World.handle environment) world) := by
    rw [Program.trace_bind, handed_append]
    split
    · rw [handed_of_unsent (unsent _), List.append_nil]
    · simp [handed]
  rw [Hands, same]
  rcases hands with nothing | ⟨message, services, one, good'⟩
  · exact .inl nothing
  · refine .inr ⟨message, services, one, ?_⟩
    intro sent result after ran
    obtain ⟨value, between, first, second⟩ := Program.run_bind_some _ ran
    exact keeps value (good' sent value between first) between result after
      second

end Rules

namespace Worker

variable (worker : Worker) {environment : Environment} {world : World}

theorem sendMail_hands (message : Mail.Message) :
    Hands environment (sendMail message) world fun status =>
      status = .delivered := by
  refine Hands.after_unsent (Program.only_perform trivial fun _ => trivial) ?_
  intro connected after _
  cases connected with
  | error text => exact .of_ret _ _
  | ok _ =>
      refine .inr ⟨message, after.services, ?_, ?_⟩
      · simp only [Program.perform_bind, Program.trace, World.handle]
        cases environment.serve after.services (.send message) <;> rfl
      · intro sent status final ran
        simp only [Program.perform_bind, Program.run_call, World.handle,
          sent] at ran
        cases ran
        rfl

theorem deliverMail_hands (delivery : Delivery) :
    Hands environment (worker.deliverMail delivery) world fun result =>
      result.1 = .delivered := by
  apply Hands.after_unsent
    ((worker.pack_quiet delivery).weaken fun _ => unsent_of_quiet)
  intro packed after _
  cases packed with
  | error error => exact .of_unsent (record_unsent _ _) _
  | ok message =>
      apply Hands.before_unsent (sendMail_hands message)
        (fun status => record_unsent _ status)
      intro status delivered between result final ran
      obtain ⟨err, _, _, ran⟩ := Program.run_bind_some _ ran
      cases ran
      exact delivered

/-- The outcome of an attempt whose message was delivered. -/
def Delivered (outcome : Outcome) : Prop :=
  outcome.retry = none ∧ ∃ err, outcome.recorded = some (.delivered, err)

theorem deliverTo_hands (job : Gobble.Job) (delivery : Delivery) :
    Hands environment (worker.deliverTo job delivery) world Delivered := by
  apply Hands.after_unsent
    ((shouldDeliver_quiet delivery).weaken fun _ => unsent_of_quiet)
  intro decided after _
  cases decided with
  | false => exact .of_ret _ _
  | true =>
      simp only [if_true]
      refine Hands.before_unsent (worker.deliverMail_hands _) ?_ ?_
      · intro result
        obtain ⟨status, err⟩ := result
        simp only
        split <;> exact trivial
      · intro result delivered between outcome final ran
        obtain ⟨status, err⟩ := result
        have arrived : status = .delivered := delivered
        simp only [arrived, ne_eq, not_true_eq_false, if_false] at ran
        cases ran
        exact ⟨rfl, err, rfl⟩

theorem deliver_hands (job : Gobble.Job) :
    Hands environment (worker.deliver job) world Delivered := by
  rw [deliver]
  cases worker.unmarshal job.payload with
  | error text => exact .of_ret _ _
  | ok delivery =>
      apply Hands.after_unsent (createReceipts_unsent _ _ _)
      intro err after _
      cases err with
      | some error => exact .of_ret _ _
      | none =>
          apply Hands.after_unsent
            ((findEmail_quiet delivery).weaken fun _ => unsent_of_quiet)
          intro email later _
          cases email with
          | none => exact .of_ret _ _
          | some email => exact worker.deliverTo_hands job _

end Worker

/-! ## Attempts and the server -/

/-- One attempt: the database and the services it meets, its mail client, and
how the server behaves during `Connect` and during `Send`. -/
structure MailAttempt where
  environment : Environment
  world : World
  client : Option Mail.Connection
  reached : Mail.Reached client
  dialing : Mail.Behaviour
  sending : Mail.Behaviour

namespace MailAttempt

variable (config : Mail.Config) (worker : Worker) (attempt : MailAttempt)

/-- The client's connection after `Connect`. -/
def connection : Option Mail.Connection :=
  (Mail.Client.connected config attempt.dialing attempt.client).2.client

def send (message : Mail.Message) :
    Option (Except String Unit) × Mail.Line :=
  Mail.Client.sent config message attempt.sending (attempt.connection config)

/-- What a call of the mail client returned; it does not panic. -/
def returned (result : Option (Except String Unit)) : Except String Unit :=
  result.getD (.error nilPointer)

/-- The mail client answers `Connect` and `Send`. -/
def surroundings : Environment :=
  { attempt.environment with
    serve := fun number service =>
      match service with
      | .connect =>
          returned (Mail.Client.connected config attempt.dialing
            attempt.client).1
      | .send message => returned (attempt.send config message).1
      | service => attempt.environment.serve number service }

/-- The outcome of `Deliver`, unless it panics. -/
def outcome (job : Gobble.Job) : Option Outcome :=
  ((worker.deliver job).run (World.handle (attempt.surroundings config))
    attempt.world).1

/-- The messages that the server takes in this attempt. -/
def accepted (job : Gobble.Job) : List Mail.Message :=
  (handed ((worker.deliver job).trace
    (World.handle (attempt.surroundings config)) attempt.world)).flatMap
      fun message => (attempt.send config message).2.accepted

/-- What `Deliver` makes of a job. -/
def callback (job : Gobble.Job) : Option Int :=
  (attempt.outcome config worker job).bind Outcome.retry

/-- The server answers the `Quit` after a message that it takes. -/
def Polite : Prop :=
  Mail.Polite config attempt.sending (attempt.connection config)

variable {config worker attempt}

theorem connection_reached : Mail.Reached (attempt.connection config) :=
  Program.run_of_only _ (fun line => Mail.Reached line.client)
    (fun line call _ => Mail.handle_reached attempt.dialing line call)
    (Program.only_true _) attempt.reached

/-- An attempt in which the server takes a message. -/
theorem accepted_cases (polite : attempt.Polite config) {job : Gobble.Job}
    {outcome : Outcome}
    (ended : attempt.outcome config worker job = some outcome) :
    attempt.accepted config worker job = [] ∨
      ((attempt.accepted config worker job).length = 1 ∧
        Worker.Delivered outcome) := by
  rw [accepted]
  rcases worker.deliver_hands job with nothing |
    ⟨message, services, one, good⟩
  · left
    rw [nothing]
    rfl
  · rw [one]
    simp only [List.flatMap_cons, List.flatMap_nil, List.append_nil]
    obtain ⟨result, returned, ⟨taken, accepted, nil⟩ | ⟨_, nothing⟩⟩ :=
      @Mail.sent_outcome _ config attempt.sending
        (attempt.connection config) message connection_reached
    · right
      refine ⟨by rw [send, accepted]; rfl, ?_⟩
      have sent : (attempt.surroundings config).serve services
          (.send message) = .ok () := by
        simp only [surroundings, send, returned, MailAttempt.returned,
          Option.getD_some]
        exact nil.mpr (polite taken)
      exact good sent outcome _ (Prod.ext ended rfl)
    · left
      rw [send, nothing]

end MailAttempt

/-! ## Over whole runs -/

section Runs

open Notifications.Gobble

variable {Instance Name : Type} [DecidableEq Instance] [DecidableEq Name]

/-- The messages that the server has taken for the job of this ID. -/
def acceptedFor (config : Mail.Config) (worker : Worker) (id : Nat)
    (trace : List (Output Name MailAttempt)) : List Mail.Message :=
  trace.flatMap fun output =>
    match output with
    | .completed _ attempt ran _ =>
        if ran.id = id then attempt.accepted config worker ran else []
    | _ => []

/-- No `Unlock`, no process ends (by a panic of `Deliver` either), and the
server is polite. -/
def Undisturbed (config : Mail.Config) (worker : Worker)
    (state : State Instance Name) :
    Gobble.Event Instance Name MailAttempt → Prop
  | .unlock _ => False
  | .crash _ => False
  | .callback name attempt =>
      attempt.Polite config ∧
        ∀ job, state.attempts name = .running job →
          (attempt.outcome config worker job).isSome = true
  | _ => True

variable {config : Mail.Config} {worker : Worker}
  {setup : Setup Instance Name MailAttempt}
  {state final : State Instance Name}
  {events : List (Gobble.Event Instance Name MailAttempt)}
  {trace : List (Output Name MailAttempt)}

theorem steady_of_undisturbed (state : State Instance Name)
    (event : Gobble.Event Instance Name MailAttempt)
    (undisturbed : Undisturbed config worker state event) :
    event.steady = true := by
  cases event <;> first | rfl | exact undisturbed.elim

/-- Every attempt that has been completed met a polite server, and did not
panic. -/
def AllPolite (config : Mail.Config) (worker : Worker)
    (trace : List (Output Name MailAttempt)) : Prop :=
  ∀ name attempt ran time, .completed name attempt ran time ∈ trace →
    attempt.Polite config ∧
      (attempt.outcome config worker ran).isSome = true

theorem run_allPolite (initial : Initial state)
    (guarded : setup.machine.Guarded (Undisturbed config worker) events state)
    (success : setup.machine.run events state = some (final, trace)) :
    AllPolite config worker trace := by
  have rule := setup.machine.run_invariant (Undisturbed config worker)
    (fun trace state => Leased state ∧ AllPolite config worker trace) ?_
    events [] state final trace
    ⟨initial.leased, fun _ _ _ _ member => by simp at member⟩ guarded success
  · exact rule.2
  · intro trace state event next shown facts met stepped
    obtain ⟨leased, all⟩ := facts
    have clears := Gobble.Event.clears_of_steady
      (steady_of_undisturbed state event met)
    refine ⟨leased.step clears stepped, ?_⟩
    intro name attempt ran time completed
    rcases List.mem_append.mp completed with before | now
    · exact all name attempt ran time before
    · obtain ⟨here, _, _, rfl, _⟩ :=
        (step_transition leased.sound stepped).completed now
      exact ⟨met.1, met.2 ran here⟩

theorem length_acceptedFor (delivers : setup.callback =
      MailAttempt.callback config worker) (id : Nat)
    (polite : AllPolite config worker trace) :
    (acceptedFor config worker id trace).length ≤
      trace.countP (Output.settles setup id) := by
  induction trace with
  | nil => simp [acceptedFor]
  | cons output rest ih =>
      have later := ih fun name attempt ran time member =>
        polite name attempt ran time (.tail _ member)
      rw [acceptedFor, List.flatMap_cons, List.length_append,
        List.countP_cons, ← acceptedFor]
      cases output with
      | completed name attempt ran time =>
          obtain ⟨obliging, ends⟩ := polite name attempt ran time (.head _)
          obtain ⟨outcome, ended⟩ := Option.isSome_iff_exists.mp ends
          by_cases sameID : ran.id = id
          · simp only [sameID, if_true]
            rcases attempt.accepted_cases obliging ended with
              nothing | ⟨one, given, _⟩
            · rw [nothing]
              simp only [List.length_nil]
              omega
            · have settles : Output.settles setup id
                  (.completed name attempt ran time) = true := by
                simp [Output.settles, sameID, delivers, MailAttempt.callback,
                  ended, given]
              rw [one, settles]
              simp only [if_true]
              omega
          · simp only [sameID, if_false, List.length_nil]
            omega
      | _ =>
          simp only [List.length_nil]
          omega

/-- What follows from politeness: a message that the server has taken is
reported as delivered and its job is not retried, so the server takes at most
one message for every job.  And politeness is needed for every single `Send`
to return nil. -/
theorem accepted_once
    (delivers : setup.callback = MailAttempt.callback config worker)
    (initial : Initial state)
    (guarded : setup.machine.Guarded (Undisturbed config worker) events state)
    (success : setup.machine.run events state = some (final, trace)) :
    (∀ msg behaviour client, Mail.Reached client →
      (((Mail.Client.sent config msg behaviour client).2.accepted ≠ [] →
        (Mail.Client.sent config msg behaviour client).1 = some (.ok ())) ↔
          Mail.Polite config behaviour client)) ∧
    (∀ name attempt ran time, .completed name attempt ran time ∈ trace →
      attempt.accepted config worker ran ≠ [] →
        ∃ outcome, attempt.outcome config worker ran = some outcome ∧
          Worker.Delivered outcome) ∧
    ∀ id, (acceptedFor config worker id trace).length ≤ 1 := by
  have polite := run_allPolite initial guarded success
  refine ⟨fun _ _ _ reached => Mail.sent_nil_iff reached, ?_, ?_⟩
  · intro name attempt ran time completed taken
    obtain ⟨obliging, ends⟩ := polite name attempt ran time completed
    obtain ⟨outcome, ended⟩ := Option.isSome_iff_exists.mp ends
    rcases attempt.accepted_cases obliging ended with nothing | ⟨_, given⟩
    · exact absurd nothing taken
    · exact ⟨outcome, ended, given⟩
  · intro id
    have settled := @run_settled Instance Name MailAttempt _ _ setup state
      final id trace events _ steady_of_undisturbed initial guarded success
    exact Nat.le_trans (length_acceptedFor delivers id polite) settled.once

end Runs

/-! Two workers of one instance, each with its own mail client. -/

theorem mailWorkers_ne (name : Bool) : (if name then "b" else "a") ≠ "" := by
  cases name <;> decide

def mailSetup : Gobble.Setup Unit Bool MailAttempt where
  inst _ := ()
  workerID name := if name then "b" else "a"
  workerID_ne := mailWorkers_ne
  callback := MailAttempt.callback Mail.plainConfig sampleWorker

def mailStart : Gobble.State Unit Bool where
  jobs := []
  nextID := 1
  now := 0
  closed _ := false
  phase _ := .up
  attempts _ := .idle

theorem mailStart_initial : Gobble.Initial mailStart where
  jobs := rfl
  nextID := by decide
  attempts _ := rfl

/-- A first attempt of a worker that meets this server. -/
def attemptAt (behaviour : Mail.Behaviour) : MailAttempt where
  environment := .calm
  world := criticalWorld
  client := none
  reached _ absent := by cases absent
  dialing := behaviour
  sending := behaviour

/-- A worker takes job 1, delivers it and finishes. -/
def delivers (name : Bool) (behaviour : Mail.Behaviour) :
    List (Gobble.Event Unit Bool MailAttempt) :=
  [.perform name, .findJob name 1, .updateJob name, .readClosed name,
    .receive name, .callback name (attemptAt behaviour), .finish name]

/-- A server that hangs up after it has taken the message. -/
def hangsUp : Mail.Behaviour :=
  { Mail.Behaviour.plain with
    quit := fun _ => .error ⟨"EOF", true⟩ }

end Collated

attribute [local instance] Collation.binary

/-- `Send` fails although the server has taken the message; the job is retried
and the server takes the same message again. -/
theorem hang_up_duplicates :
    ((Mail.Client.sent Mail.plainConfig Mail.greeting hangsUp none).2.accepted =
        [Mail.greeting] ∧
      (Mail.Client.sent Mail.plainConfig Mail.greeting hangsUp none).1 ≠
        some (.ok ())) ∧
    ∃ final trace,
      mailSetup.machine.run
          (.enqueue (Gobble.newJob "mail") :: (delivers false hangsUp ++
            .tick 60000000000 :: delivers true .plain)) mailStart =
        some (final, trace) ∧
      (acceptedFor Mail.plainConfig sampleWorker 1 trace).length = 2 := by
  refine ⟨⟨rfl, by decide⟩, _, _, rfl, ?_⟩
  decide +kernel

theorem polite_server_accepts_once :
    ∃ final trace,
      mailSetup.machine.run (.enqueue (Gobble.newJob "mail") ::
          delivers false .plain) mailStart = some (final, trace) ∧
      (acceptedFor Mail.plainConfig sampleWorker 1 trace).length ≤ 1 := by
  obtain ⟨final, trace, ran⟩ : ∃ final trace,
      mailSetup.machine.run (.enqueue (Gobble.newJob "mail") ::
        delivers false .plain) mailStart = some (final, trace) :=
    ⟨_, _, rfl⟩
  have ends (job : Gobble.Job) :
      ((attemptAt .plain).outcome Mail.plainConfig sampleWorker job).isSome =
        true := rfl
  have undisturbed : mailSetup.machine.Guarded
      (Undisturbed Mail.plainConfig sampleWorker)
      (.enqueue (Gobble.newJob "mail") :: delivers false .plain)
      mailStart := by
    apply Machine.guarded_of_forall
    intro state event member
    simp only [delivers, List.mem_cons, List.not_mem_nil, or_false] at member
    rcases member with rfl | rfl | rfl | rfl | rfl | rfl | rfl | rfl
    case inr.inr.inr.inr.inr.inr.inl =>
      exact ⟨fun _ => rfl, fun job _ => ends job⟩
    all_goals trivial
  exact ⟨final, trace, ran,
    (accepted_once rfl mailStart_initial undisturbed ran).2.2 1⟩

end Notifications.Postal
