import Notifications.Mail.Client

/-!
# What one `Send` does

A `Send` on a fresh connection succeeds exactly when no step fails, and only
then gives the connection up: `Error` quits the connection but keeps the
pointer to it.
-/

set_option autoImplicit false

namespace Notifications.Mail

open Notifications.Lib

namespace Behaviour

variable (behaviour : Behaviour) (config : Config)

/-- The connection after `StartTLS`, if it does not fail. -/
def secured (connection : Connection) : Option Connection :=
  if connection.ext.contains "STARTTLS" then
    match connection.handshake behaviour config.skipVerifySSL with
    | (.ok _, after) => some after
    | (.error _, _) => none
  else
    some connection

/-- `Auth` does not fail. -/
def authenticates (connection : Connection) : Bool :=
  !connection.ext.contains "AUTH" ||
    (Client.authMechanism config).isNone || behaviour.auth.isOk

/-- The connection that the message is sent on, if the steps before do not
fail. -/
def prepared : Option Connection :=
  match behaviour.hello with
  | .error _ => none
  | .ok ext =>
      let greeted := { dialed with didHello := true, ext := ext }
      if config.disableTLS then
        some greeted
      else
        (behaviour.secured config greeted).filter
          (behaviour.authenticates config)

def takes : Bool :=
  behaviour.mail.isOk && behaviour.rcpt.isOk && behaviour.data.isOk &&
    behaviour.write.isOk && behaviour.close.isOk

/-- No step of `Send` fails once it is connected. -/
def accepts : Bool :=
  (behaviour.prepared config).isSome && behaviour.takes &&
    (behaviour.quit 0).isOk

end Behaviour

/-- Nothing has been said on the connection yet, if there is one. -/
def Unused (client : Option Connection) : Prop :=
  client = none ∨ client = some dialed

instance (client : Option Connection) : Decidable (Unused client) :=
  inferInstanceAs (Decidable (_ ∨ _))

/-- An error, and a connection that is still there. -/
def Failed (accepted : List Message)
    (outcome : Option (Except String Unit) × Line) : Prop :=
  ∃ err connection quits, connection.didHello = true ∧
    outcome = (some (.error err), ⟨some connection, quits, accepted⟩)

section Run

variable {behaviour : Behaviour} {config : Config} {line after : Line}
  {connection : Connection} {step rest : Session (Except String Unit)}
  {msg : Message} {err : String}

theorem run_method (present : line.client = some connection)
    (asked : Method) :
    (method asked).run (Line.handle behaviour) line =
      (some (connection.invoke behaviour line.quits asked).1,
        (line.invoke behaviour connection asked).2) := by
  simp only [method, Program.perform_bind, Program.run_call, Line.handle,
    present, Line.invoke]
  cases (connection.invoke behaviour line.quits asked).1 <;> rfl

theorem run_checked_ok
    (success : step.run (Line.handle behaviour) line =
      (some (.ok ()), after)) :
    (Client.checked step rest).run (Line.handle behaviour) line =
      rest.run (Line.handle behaviour) after := by
  rw [Client.checked, Program.run_bind_of _ success]

theorem run_checked_error
    (failure : step.run (Line.handle behaviour) line =
      (some (.error err), after)) :
    (Client.checked step rest).run (Line.handle behaviour) line =
      (Client.error err).run (Line.handle behaviour) after := by
  rw [Client.checked, Program.run_bind_of _ failure]

theorem run_error (present : line.client = some connection) (err : String) :
    Failed line.accepted
      ((Client.error err).run (Line.handle behaviour) line) := by
  have said := connection.didHello_invoke behaviour line.quits .quit
  have held : (Program.perform Call.connected).run (Line.handle behaviour)
      line = (some true, line) := by
    rw [Program.perform, Program.run_call, Line.handle, present]
    rfl
  rw [Client.error, Program.run_bind_of _ held, if_pos rfl,
    Program.run_bind_of _ (run_method present .quit)]
  cases answer : (connection.invoke behaviour line.quits .quit).1 with
  | error failure => exact ⟨failure, _, _, said, rfl⟩
  | ok _ => exact ⟨err, _, _, said, rfl⟩

theorem run_extension (isOpen : connection.Open)
    (present : line.client = some connection) (name : String) :
    (Client.extension name).run (Line.handle behaviour) line =
      (some (connection.ext.contains name), line) := by
  have same : { line with client := some connection } = line := by
    rw [← present]
  simp only [Client.extension, Program.perform_bind, Program.run_call,
    Line.handle, present, connection.extension_of_open isOpen, same]
  rfl

/-- A command whose answer is up to the server alone. -/
theorem run_command (isOpen : connection.Open)
    (present : line.client = some connection) {asked : Method}
    {answer : Except String Unit}
    (command : connection.invoke behaviour line.quits asked =
      connection.ask behaviour fun greeted => (answer, greeted))
    (notClose : ∀ message, asked ≠ .close message) (notQuit : asked ≠ .quit) :
    (method asked).run (Line.handle behaviour) line = (some answer, line) := by
  rw [run_method present]
  rw [connection.ask_of_open isOpen] at command
  have accepted : (line.invoke behaviour connection asked).2 = line := by
    simp only [Line.invoke, command, if_neg notQuit]
    cases asked with
    | close message => exact absurd rfl (notClose message)
    | _ => rw [← present]
  rw [command, accepted]

theorem checked_fails
    (failure : step.run (Line.handle behaviour) line =
      (some (.error err), after))
    (present : after.client = some connection) :
    Failed after.accepted
      ((Client.checked step rest).run (Line.handle behaviour) line) := by
  rw [run_checked_error failure]
  exact run_error present err

/-! ## The message -/

theorem run_data (isOpen : connection.Open)
    (present : line.client = some connection) :
    (∃ err, (Client.data msg).run (Line.handle behaviour) line =
        (some (.error err), line) ∧
      (behaviour.data.isOk && behaviour.write.isOk &&
        behaviour.close.isOk) = false) ∨
    ((Client.data msg).run (Line.handle behaviour) line =
        (some (.ok ()),
          { line with accepted := line.accepted ++ [msg] }) ∧
      (behaviour.data.isOk && behaviour.write.isOk &&
        behaviour.close.isOk) = true) := by
  have opened : (method .data).run (Line.handle behaviour) line =
      (some behaviour.data, line) :=
    run_command isOpen present rfl nofun nofun
  have written : (method (.write msg)).run (Line.handle behaviour) line =
      (some behaviour.write, line) :=
    run_command isOpen present rfl nofun nofun
  rw [Client.data, Program.run_bind_of _ opened]
  cases hopened : behaviour.data with
  | error err => exact .inl ⟨err, rfl, rfl⟩
  | ok _ =>
      simp only
      rw [Program.run_bind_of _ written]
      cases hwritten : behaviour.write with
      | error err => exact .inl ⟨err, rfl, rfl⟩
      | ok _ =>
          simp only
          rw [run_method present]
          have asked : connection.invoke behaviour line.quits (.close msg) =
              (behaviour.close, connection) :=
            connection.ask_of_open isOpen _
          simp only [Line.invoke, asked]
          cases behaviour.close with
          | error err =>
              refine .inl ⟨err, ?_, rfl⟩
              simp [← present]
          | ok _ =>
              refine .inr ⟨?_, rfl⟩
              simp [← present]

theorem run_quit (isOpen : connection.Open)
    (present : line.client = some connection) :
    (∃ err closed, (Client.quit).run (Line.handle behaviour) line =
        (some (.error err),
          ⟨some { connection with closed := closed }, line.quits + 1,
            line.accepted⟩) ∧
      (behaviour.quit line.quits).isOk = false) ∨
    ((Client.quit).run (Line.handle behaviour) line =
        (some (.ok ()), ⟨none, line.quits + 1, line.accepted⟩) ∧
      (behaviour.quit line.quits).isOk = true) := by
  have asked : connection.invoke behaviour line.quits .quit =
      connection.sendQuit behaviour line.quits :=
    connection.ask_of_open isOpen _
  rw [Client.quit, Program.run_bind_of _ (run_method present .quit), asked]
  simp only [Line.invoke, asked, Connection.sendQuit]
  cases behaviour.quit line.quits with
  | error refusal => exact .inl ⟨refusal.text, _, rfl, rfl⟩
  | ok _ => exact .inr ⟨rfl, rfl⟩

theorem run_transmit (isOpen : connection.Open)
    (present : line.client = some connection) :
    (behaviour.takes = false ∧ Failed line.accepted
        ((Client.transmit msg).run (Line.handle behaviour) line)) ∨
    (behaviour.takes = true ∧ (behaviour.quit line.quits).isOk = false ∧
      Failed (line.accepted ++ [msg])
        ((Client.transmit msg).run (Line.handle behaviour) line)) ∨
    (behaviour.takes = true ∧ (behaviour.quit line.quits).isOk = true ∧
      (Client.transmit msg).run (Line.handle behaviour) line =
        (some (.ok ()),
          ⟨none, line.quits + 1, line.accepted ++ [msg]⟩)) := by
  have sender : (method (.mail msg.fromAddress)).run (Line.handle behaviour)
      line = (some behaviour.mail, line) :=
    run_command isOpen present rfl nofun nofun
  have recipient : (method (.rcpt msg.toAddress)).run (Line.handle behaviour)
      line = (some behaviour.rcpt, line) :=
    run_command isOpen present rfl nofun nofun
  rw [Client.transmit]
  cases hmail : behaviour.mail with
  | error err =>
      rw [hmail] at sender
      refine .inl ⟨?_, checked_fails sender present⟩
      simp [Behaviour.takes, hmail, Except.isOk, Except.toBool]
  | ok _ =>
      rw [hmail] at sender
      rw [run_checked_ok sender]
      cases hrcpt : behaviour.rcpt with
      | error err =>
          rw [hrcpt] at recipient
          refine .inl ⟨?_, checked_fails recipient present⟩
          simp [Behaviour.takes, hrcpt, Except.isOk, Except.toBool]
      | ok _ =>
          rw [hrcpt] at recipient
          rw [run_checked_ok recipient]
          have all : behaviour.takes = (behaviour.data.isOk &&
              behaviour.write.isOk && behaviour.close.isOk) := by
            simp [Behaviour.takes, hmail, hrcpt, Except.isOk, Except.toBool]
          rw [all]
          rcases @run_data behaviour line connection msg isOpen present with
            ⟨err, ran, refused⟩ | ⟨ran, taken⟩
          · exact .inl ⟨refused, checked_fails ran present⟩
          · rw [run_checked_ok ran]
            have still : ({ line with
                accepted := line.accepted ++ [msg] } : Line).client =
                  some connection := present
            rcases @run_quit behaviour _ connection isOpen still with
              ⟨err, closed, left, refused⟩ | ⟨left, answered⟩
            · exact .inr (.inl ⟨taken, refused,
                checked_fails left rfl⟩)
            · refine .inr (.inr ⟨taken, answered, ?_⟩)
              rw [run_checked_ok left]
              rfl

/-! ## Before the message -/

/-- What a step up to the message does: it fails and leaves a connection, or
it leaves the connection that `ready` gives. -/
def Prepares (behaviour : Behaviour) (step : Session (Except String Unit))
    (line : Line) (ready : Option Connection) : Prop :=
  (ready = none ∧ ∃ err connection,
    step.run (Line.handle behaviour) line =
      (some (.error err), { line with client := some connection })) ∨
  ∃ connection, ready = some connection ∧ connection.Open ∧
    step.run (Line.handle behaviour) line =
      (some (.ok ()), { line with client := some connection })

theorem Prepares.checked {ready : Option Connection}
    (prepares : Prepares behaviour step line ready) :
    (ready = none ∧ Failed line.accepted
      ((Client.checked step rest).run (Line.handle behaviour) line)) ∨
    ∃ connection, ready = some connection ∧ connection.Open ∧
      (Client.checked step rest).run (Line.handle behaviour) line =
        rest.run (Line.handle behaviour)
          { line with client := some connection } := by
  rcases prepares with ⟨none, err, connection, ran⟩ |
    ⟨connection, ready, isOpen, ran⟩
  · refine .inl ⟨none, ?_⟩
    rw [run_checked_error ran]
    exact @run_error behaviour { line with client := some connection }
      connection rfl err
  · exact .inr ⟨connection, ready, isOpen, run_checked_ok ran⟩

theorem run_hello (fresh : line.client = some dialed) :
    Prepares behaviour Client.hello line
      (behaviour.hello.toOption.map fun ext =>
        { dialed with didHello := true, ext := ext }) := by
  have asked : dialed.invoke behaviour line.quits (.hello "localhost") =
      dialed.greet behaviour := rfl
  rw [Prepares, Client.hello, run_method fresh, Line.invoke, asked]
  simp only [Connection.greet, dialed]
  cases behaviour.hello with
  | error text => exact .inl ⟨rfl, text, _, rfl⟩
  | ok ext => exact .inr ⟨_, rfl, ⟨rfl, rfl, rfl⟩, rfl⟩

theorem run_startTLS (isOpen : connection.Open)
    (present : line.client = some connection) :
    Prepares behaviour (Client.startTLS config) line
      (behaviour.secured config connection) := by
  rw [Prepares, Client.startTLS, Behaviour.secured,
    Program.run_bind_of _ (run_extension isOpen present _)]
  by_cases offered : connection.ext.contains "STARTTLS" = true
  · have asked : connection.invoke behaviour line.quits
        (.startTLS config.host config.skipVerifySSL) =
          connection.handshake behaviour config.skipVerifySSL :=
      connection.ask_of_open isOpen _
    simp only [offered, if_true]
    rw [run_method present, Line.invoke, asked]
    simp only [Connection.handshake]
    cases behaviour.startTLS with
    | error text => exact .inl ⟨rfl, text, _, rfl⟩
    | ok ext =>
        by_cases skips : config.skipVerifySSL = true
        · simp only [skips, if_true]
          exact .inr ⟨_, rfl,
            ⟨isOpen.didHello, isOpen.helloError, isOpen.closed⟩, rfl⟩
        · simp only [skips]
          by_cases valid : behaviour.certificate = true
          · simp only [valid, if_true]
            exact .inr ⟨_, rfl,
              ⟨isOpen.didHello, isOpen.helloError, isOpen.closed⟩, rfl⟩
          · simp only [valid]
            exact .inl ⟨rfl, badCertificate, _, rfl⟩
  · simp only [offered]
    refine .inr ⟨connection, rfl, isOpen, ?_⟩
    rw [← present]
    rfl

theorem run_auth (isOpen : connection.Open)
    (present : line.client = some connection) :
    Prepares behaviour (Client.auth config) line
      (Option.filter (behaviour.authenticates config) (some connection)) := by
  have unchanged : line = { line with client := some connection } := by
    rw [← present]
  rw [Prepares, Client.auth,
    Program.run_bind_of _ (run_extension isOpen present _)]
  by_cases offered : connection.ext.contains "AUTH" = true
  · simp only [offered, if_true]
    cases known : Client.authMechanism config with
    | none =>
        refine .inr ⟨connection, ?_, isOpen, ?_⟩
        · simp [Option.filter, Behaviour.authenticates, known]
        · rw [← unchanged]
          rfl
    | some mechanism =>
        have asked : connection.invoke behaviour line.quits
            (.auth mechanism) = connection.authenticate behaviour :=
          connection.ask_of_open isOpen _
        simp only
        rw [run_method present, Line.invoke, asked]
        simp only [Connection.authenticate]
        cases answer : behaviour.auth with
        | error refusal =>
            refine .inl ⟨?_, refusal.text, _, rfl⟩
            have fails : behaviour.authenticates config connection =
                false := by
              rw [Behaviour.authenticates, offered, known, answer]
              rfl
            simp [Option.filter, fails]
        | ok _ =>
            refine .inr ⟨connection, ?_, isOpen, rfl⟩
            simp [Option.filter, Behaviour.authenticates, answer,
              Except.isOk, Except.toBool]
  · simp only [offered]
    have skipped : behaviour.authenticates config connection = true := by
      rw [Bool.not_eq_true] at offered
      rw [Behaviour.authenticates, offered]
      rfl
    refine .inr ⟨connection, by simp [Option.filter, skipped], isOpen, ?_⟩
    rw [← unchanged]
    rfl

theorem run_connect (real : config.testMode = false)
    (unused : Unused line.client) :
    (line.client = none ∧ ∃ err, behaviour.dial = .error err ∧
      (Client.connect config).run (Line.handle behaviour) line =
        (some (.error err), line)) ∨
    ((line.client = none → behaviour.dial.isOk = true) ∧
      (Client.connect config).run (Line.handle behaviour) line =
        (some (.ok ()), { line with client := some dialed })) := by
  simp only [Client.connect, real]
  rcases unused with absent | fresh
  · cases answer : behaviour.dial with
    | error err =>
        refine .inl ⟨absent, err, rfl, ?_⟩
        simp [Program.run_call, Line.handle, absent, answer, Program.perform]
    | ok _ =>
        refine .inr ⟨fun _ => rfl, ?_⟩
        simp [Program.run_call, Line.handle, absent, answer, Program.perform]
  · refine .inr ⟨?_, ?_⟩
    · rw [fresh]
      nofun
    · have unchanged : { line with client := some dialed } = line := by
        rw [← fresh]
      rw [unchanged]
      simp [Program.run_call, Line.handle, fresh]

/-! ## The whole call -/

/-- Every way a `Send` on an unused connection can end. -/
inductive Sent (behaviour : Behaviour) (config : Config) (msg : Message)
    (line : Line) : Option (Except String Unit) × Line → Prop where
  /-- it could not connect -/
  | unconnected {err : String} (absent : line.client = none)
      (refused : behaviour.dial.isOk = false) :
      Sent behaviour config msg line (some (.error err), line)
  /-- a step before the end of the data failed -/
  | refused {outcome : Option (Except String Unit) × Line}
      (dialled : line.client = none → behaviour.dial.isOk = true)
      (fails : ((behaviour.prepared config).isSome && behaviour.takes) =
        false)
      (failed : Failed line.accepted outcome) :
      Sent behaviour config msg line outcome
  /-- only the `Quit` failed -/
  | unfinished {outcome : Option (Except String Unit) × Line}
      (dialled : line.client = none → behaviour.dial.isOk = true)
      (taken : ((behaviour.prepared config).isSome && behaviour.takes) = true)
      (fails : (behaviour.quit line.quits).isOk = false)
      (failed : Failed (line.accepted ++ [msg]) outcome) :
      Sent behaviour config msg line outcome
  | delivered
      (dialled : line.client = none → behaviour.dial.isOk = true)
      (taken : ((behaviour.prepared config).isSome && behaviour.takes) = true)
      (answered : (behaviour.quit line.quits).isOk = true) :
      Sent behaviour config msg line (some (.ok ()),
        ⟨none, line.quits + 1, line.accepted ++ [msg]⟩)

theorem sent_of_failed
    {outcome : Option (Except String Unit) × Line}
    (dialled : line.client = none → behaviour.dial.isOk = true)
    (none : behaviour.prepared config = none)
    (failed : Failed line.accepted outcome) :
    Sent behaviour config msg line outcome :=
  .refused dialled (by simp [none]) failed

theorem sent_of_transmit (isOpen : connection.Open)
    (dialled : line.client = none → behaviour.dial.isOk = true)
    (ready : behaviour.prepared config = some connection) :
    Sent behaviour config msg line
      ((Client.transmit msg).run (Line.handle behaviour)
        { line with client := some connection }) := by
  have known : (behaviour.prepared config).isSome = true := by simp [ready]
  rcases @run_transmit behaviour { line with client := some connection }
    connection msg isOpen rfl with
    ⟨refused, failed⟩ | ⟨taken, unanswered, failed⟩ | ⟨taken, answered, ran⟩
  · exact .refused dialled (by simp [refused]) failed
  · exact .unfinished dialled (by simp [known, taken]) unanswered failed
  · rw [ran]
    exact .delivered dialled (by simp [known, taken]) answered

theorem run_send (real : config.testMode = false)
    (unused : Unused line.client) :
    Sent behaviour config msg line
      ((Client.send config msg).run (Line.handle behaviour) line) := by
  rw [Client.send, if_neg (by simp [real])]
  rcases @run_connect behaviour config line real unused with
    ⟨absent, err, refused, ran⟩ | ⟨dialled, ran⟩
  · rw [run_checked_error ran]
    have nothing : (Client.error err).run (Line.handle behaviour) line =
        (some (.error err), line) := by
      simp [Client.error, Program.run_call, Line.handle, absent]
    rw [nothing]
    exact .unconnected absent (by simp [refused, Except.isOk, Except.toBool])
  · rw [run_checked_ok ran]
    rcases (@run_hello behaviour { line with client := some dialed }
      rfl).checked with ⟨none, failed⟩ | ⟨greeted, ready, isOpen, ran⟩
    · refine sent_of_failed dialled ?_ failed
      cases answer : behaviour.hello with
      | error text => simp [Behaviour.prepared, answer]
      | ok ext => simp [answer, Except.toOption] at none
    · rw [ran]
      cases answer : behaviour.hello with
      | error text => simp [answer, Except.toOption] at ready
      | ok ext =>
          simp only [answer, Except.toOption, Option.map_some,
            Option.some.injEq] at ready
          by_cases plain : config.disableTLS = true
          · rw [if_neg (by simp [plain])]
            apply sent_of_transmit isOpen dialled
            simp [Behaviour.prepared, answer, plain, ready]
          · rw [if_pos (by simp [plain])]
            have steps : behaviour.prepared config =
                (behaviour.secured config greeted).filter
                  (behaviour.authenticates config) := by
              simp [Behaviour.prepared, answer, plain, ready]
            rcases (@run_startTLS behaviour config
              { line with client := some greeted } greeted isOpen
              rfl).checked with ⟨none, failed⟩ | ⟨safe, ready, isOpen, ran⟩
            · exact sent_of_failed dialled (by simp [steps, none]) failed
            · rw [ran]
              rw [ready] at steps
              rcases (@run_auth behaviour config
                { line with client := some safe } safe isOpen
                rfl).checked with ⟨none, failed⟩ | ⟨known, ready, isOpen, ran⟩
              · exact sent_of_failed dialled (by rw [steps, none]) failed
              · rw [ran]
                exact sent_of_transmit isOpen dialled (by rw [steps, ready])

end Run

end Notifications.Mail
