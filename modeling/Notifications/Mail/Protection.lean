import Notifications.Mail.Reuse

/-!
# Mail over TLS

The client that `Mother.MailClient` builds, and when its `Send` keeps to
verified TLS.  `SkipVerifySSL` is set to `env.VerifySSL`, so with `VERIFY_SSL`
on no certificate is checked, and `StartTLS` does nothing if the server does
not offer it.
-/

set_option autoImplicit false

namespace Notifications.Application

open Notifications.Mail

/-- The allowed values of `SMTP_AUTH_MECHANISM`; any other ends in a panic. -/
inductive SMTPAuthMechanism where
  | smtpAuthNone
  | smtpAuthPlain
  | smtpAuthCRAMMD5
  deriving DecidableEq, Repr

/-- `Environment`, as far as the mail client depends on it. -/
structure Environment where
  smtpAuthMechanism : SMTPAuthMechanism
  smtpCRAMMD5Secret : String
  smtpHost : String
  smtpPass : String
  smtpPort : String
  smtpTLS : Bool
  smtpUser : String
  testMode : Bool
  verifySSL : Bool
  deriving DecidableEq, Repr

/-- The configuration of `Mother.MailClient`. -/
def mailClient (env : Environment) : Config where
  user := env.smtpUser
  pass := env.smtpPass
  host := env.smtpHost
  port := env.smtpPort
  secret := env.smtpCRAMMD5Secret
  testMode := env.testMode
  skipVerifySSL := env.verifySSL
  disableTLS := !env.smtpTLS
  authMechanism :=
    match env.smtpAuthMechanism with
    | .smtpAuthNone => .authNone
    | .smtpAuthPlain => .authPlain
    | .smtpAuthCRAMMD5 => .authCRAMMD5

end Notifications.Application

namespace Notifications.Mail

open Notifications.Lib

/-- `AUTH`, `MAIL`, `RCPT`, or `DATA` and what follows it. -/
def Sensitive : Call → Prop
  | .method (.auth _) => True
  | .method (.mail _) => True
  | .method (.rcpt _) => True
  | .method .data => True
  | .method (.write _) => True
  | .method (.close _) => True
  | _ => False

def Harmless (call : Call) : Prop := ¬ Sensitive call

/-- The calls of one `Send`, each with the state it was made in. -/
def Client.sentCalls (config : Config) (msg : Message) (behaviour : Behaviour)
    (client : Option Connection) : List (Line × Call) :=
  (send config msg).trace (Line.handle behaviour) ⟨client, 0, []⟩

/-- Nothing sensitive is sent except over TLS with a checked certificate, and a
`Send` that sends nothing sensitive returns an error. -/
structure Protected (config : Config) (msg : Message) (behaviour : Behaviour)
    (client : Option Connection) : Prop where
  verified : ∀ call ∈ Client.sentCalls config msg behaviour client,
    Sensitive call.2 →
      ∃ connection, call.1.client = some connection ∧
        connection.security = .verified
  fails : (∀ call ∈ Client.sentCalls config msg behaviour client,
      Harmless call.2) →
    ∃ err, (Client.sent config msg behaviour client).1 = some (.error err)

/-- `Send` does not get past `StartTLS`: the connection has been used before,
there is none, or the server refuses to say hello or to start TLS. -/
def StopsEarly (behaviour : Behaviour) (client : Option Connection) : Prop :=
  (∃ connection, client = some connection ∧ connection.didHello = true) ∨
    (client = none ∧ behaviour.dial.isOk = false) ∨
    behaviour.hello.isOk = false ∨
    ∃ ext, behaviour.hello = .ok ext ∧ ext.contains "STARTTLS" = true ∧
      behaviour.startTLS.isOk = false

/-! ## Connections that have not been verified -/

def Unverified (line : Line) : Prop :=
  ∀ connection, line.client = some connection →
    connection.security ≠ .verified

/-- `StartTLS` is told not to check. -/
def Lax : Call → Prop
  | .method (.startTLS _ insecureSkipVerify) => insecureSkipVerify = true
  | _ => True

theorem handle_unverified (behaviour : Behaviour) (line : Line) (call : Call)
    (lax : Lax call) (unverified : Unverified line) :
    Unverified (line.handle behaviour call).2 := by
  cases call with
  | connected => exact unverified
  | dial host port =>
      simp only [Line.handle]
      cases behaviour.dial with
      | error text => exact unverified
      | ok _ =>
          intro connection present
          cases present
          decide
  | extension name =>
      simp only [Line.handle]
      cases present : line.client with
      | none => exact unverified
      | some connection =>
          intro after present'
          cases present'
          rw [connection.extension_snd, connection.security_greet]
          exact unverified connection present
  | method method =>
      simp only [Line.handle]
      cases present : line.client with
      | none => exact unverified
      | some connection =>
          intro after present'
          cases present'
          apply connection.security_invoke (unverified connection present)
          rintro name rfl
          exact absurd lax (by simp [Lax])
  | forget =>
      intro connection absent
      cases absent

/-! ## The calls of the steps -/

section Only

variable {allowed : Call → Prop} {config : Config} {msg : Message}

theorem method_only {asked : Method} (fine : allowed (.method asked)) :
    (method asked).Only allowed := by
  refine ⟨fine, ?_⟩
  intro answer
  cases answer <;> exact trivial

theorem extension_only {name : String} (fine : allowed (.extension name)) :
    (Client.extension name).Only allowed := by
  refine ⟨fine, ?_⟩
  intro answer
  cases answer <;> exact trivial

theorem connect_only (asks : allowed .connected)
    (dials : allowed (.dial config.host config.port)) :
    (Client.connect config).Only allowed := by
  rw [Client.connect]
  split
  · exact trivial
  · refine ⟨asks, ?_⟩
    intro answer
    cases answer with
    | true => exact trivial
    | false => exact ⟨dials, fun _ => trivial⟩

theorem startTLS_only (asks : allowed (.extension "STARTTLS"))
    (starts : allowed
      (.method (.startTLS config.host config.skipVerifySSL))) :
    (Client.startTLS config).Only allowed := by
  apply Program.only_bind (extension_only asks)
  intro offered
  cases offered with
  | true => exact method_only starts
  | false => exact trivial

theorem auth_only (asks : allowed (.extension "AUTH"))
    (authenticates : ∀ mechanism, allowed (.method (.auth mechanism))) :
    (Client.auth config).Only allowed := by
  apply Program.only_bind (extension_only asks)
  intro offered
  cases offered with
  | true =>
      simp only [if_true]
      cases Client.authMechanism config with
      | none => exact trivial
      | some mechanism => exact method_only (authenticates mechanism)
  | false => exact trivial

theorem error_only (asks : allowed .connected) (quits : allowed (.method .quit))
    (err : String) : (Client.error err).Only allowed := by
  apply Program.only_perform asks
  intro answer
  cases answer with
  | true =>
      simp only [if_true]
      apply Program.only_bind (method_only quits)
      intro failure
      cases failure <;> exact trivial
  | false => exact trivial

theorem checked_only {step rest : Session (Except String Unit)}
    (asks : allowed .connected) (quits : allowed (.method .quit))
    (first : step.Only allowed) (second : rest.Only allowed) :
    (Client.checked step rest).Only allowed := by
  apply Program.only_bind first
  intro result
  cases result with
  | error err => exact error_only asks quits err
  | ok _ => exact second

theorem transmit_lax : (Client.transmit msg).Only Lax := by
  apply checked_only trivial trivial (method_only trivial)
  apply checked_only trivial trivial (method_only trivial)
  refine checked_only trivial trivial ?_ ?_
  · apply Program.only_bind (method_only trivial)
    intro opened
    cases opened with
    | error err => exact trivial
    | ok _ =>
        apply Program.only_bind (method_only trivial)
        intro written
        cases written with
        | error err => exact trivial
        | ok _ => exact method_only trivial
  · refine checked_only trivial trivial ?_ trivial
    apply Program.only_bind (method_only trivial)
    intro left
    cases left with
    | error err => exact trivial
    | ok _ => exact ⟨trivial, fun _ => trivial⟩

theorem send_lax (skips : config.skipVerifySSL = true) :
    (Client.send config msg).Only Lax := by
  rw [Client.send]
  split
  · exact trivial
  · apply checked_only trivial trivial (connect_only trivial trivial)
    apply checked_only trivial trivial (method_only trivial)
    split
    · apply checked_only trivial trivial (startTLS_only trivial skips)
      refine checked_only trivial trivial (auth_only trivial ?_) transmit_lax
      intro mechanism
      exact trivial
    · exact transmit_lax

end Only

section Traces

variable {config : Config} {msg : Message} {behaviour : Behaviour}
  {line after : Line} {client : Option Connection} {err : String}
  {step rest : Session (Except String Unit)} {connection : Connection}

/-- The calls of a program, against one behaviour of the server. -/
abbrev callsOf (behaviour : Behaviour) (line : Line)
    (program : Session (Except String Unit)) : List (Line × Call) :=
  program.trace (Line.handle behaviour) line

theorem checked_trace_ok
    (success : step.run (Line.handle behaviour) line =
      (some (.ok ()), after)) :
    callsOf behaviour line (Client.checked step rest) =
      callsOf behaviour line step ++ callsOf behaviour after rest := by
  rw [callsOf, Client.checked, Program.trace_bind_of _ success]

/-- A harmless step that fails ends the call harmlessly. -/
theorem checked_harmless_error (harmless : step.Only Harmless)
    (failure : step.run (Line.handle behaviour) line =
      (some (.error err), after)) :
    ∀ call ∈ callsOf behaviour line (Client.checked step rest),
      Harmless call.2 := by
  rw [callsOf, Client.checked, Program.trace_bind_of _ failure]
  intro call member
  rcases List.mem_append.mp member with here | there
  · exact Program.trace_of_only _ harmless line call here
  · exact Program.trace_of_only _ (error_only id id err) after call there

theorem checked_harmless_ok (harmless : step.Only Harmless)
    (success : step.run (Line.handle behaviour) line =
      (some (.ok ()), after))
    (later : ∀ call ∈ callsOf behaviour after rest, Harmless call.2) :
    ∀ call ∈ callsOf behaviour line (Client.checked step rest),
      Harmless call.2 := by
  rw [checked_trace_ok success]
  intro call member
  rcases List.mem_append.mp member with here | there
  · exact Program.trace_of_only _ harmless line call here
  · exact later call there

/-- Once TLS is settled something sensitive follows. -/
theorem sensitive_follows (isOpen : connection.Open)
    (present : line.client = some connection) :
    ∃ call ∈ callsOf behaviour line
        (Client.checked (Client.auth config) (Client.transmit msg)),
      Sensitive call.2 := by
  have asked := @run_extension behaviour line connection isOpen present "AUTH"
  by_cases tries : connection.ext.contains "AUTH" = true ∧
      (Client.authMechanism config).isSome = true
  · obtain ⟨mechanism, known⟩ := Option.isSome_iff_exists.mp tries.2
    refine ⟨(line, .method (.auth mechanism)), ?_, trivial⟩
    rw [callsOf, Client.checked, Program.trace_bind, Client.auth,
      Program.trace_bind_of _ asked, tries.1]
    simp only [if_true, known]
    refine List.mem_append_left _ (List.mem_append_right _ ?_)
    exact .head _
  · have skipped : (Client.auth config).run (Line.handle behaviour) line =
        (some (.ok ()), line) := by
      rw [Client.auth, Program.run_bind_of _ asked]
      by_cases offered : connection.ext.contains "AUTH" = true
      · have unknown : Client.authMechanism config = none := by
          rw [← Option.not_isSome_iff_eq_none]
          exact fun known => tries ⟨offered, known⟩
        rw [offered, unknown]
        rfl
      · rw [Bool.not_eq_true] at offered
        rw [offered]
        rfl
    refine ⟨(line, .method (.mail msg.fromAddress)), ?_, trivial⟩
    rw [checked_trace_ok skipped]
    apply List.mem_append_right _
    exact .head _

/-- All calls are harmless, and the call returns an error. -/
def Refused (behaviour : Behaviour) (line : Line)
    (program : Session (Except String Unit)) : Prop :=
  (∀ call ∈ callsOf behaviour line program, Harmless call.2) ∧
    ∃ err, (program.run (Line.handle behaviour) line).1 = some (.error err)

theorem refused_here (harmless : step.Only Harmless)
    (failure : step.run (Line.handle behaviour) line =
      (some (.error err), after)) :
    Refused behaviour line (Client.checked step rest) := by
  refine ⟨checked_harmless_error harmless failure, ?_⟩
  rw [run_checked_error failure]
  cases present : after.client with
  | none =>
      exact ⟨err, by simp [Client.error, Program.run_call, Line.handle, present]⟩
  | some connection =>
      obtain ⟨failure, _, _, _, ran⟩ :=
        @run_error behaviour after connection present err
      exact ⟨failure, by rw [ran]⟩

theorem refused_later (harmless : step.Only Harmless)
    (success : step.run (Line.handle behaviour) line =
      (some (.ok ()), after))
    (later : Refused behaviour after rest) :
    Refused behaviour line (Client.checked step rest) := by
  refine ⟨checked_harmless_ok harmless success later.1, ?_⟩
  rw [run_checked_ok success]
  exact later.2

theorem connect_harmless : (Client.connect config).Only Harmless :=
  connect_only id id

theorem hello_harmless : Client.hello.Only Harmless := method_only id

theorem startTLS_harmless : (Client.startTLS config).Only Harmless :=
  startTLS_only id id

theorem isOk_iff {ε α : Type} {answer : Except ε α} :
    answer.isOk = true ↔ ∃ value, answer = .ok value := by
  cases answer <;> simp [Except.isOk, Except.toBool]

/-- A `Send` after `Connect`, with TLS switched on. -/
def greetAndSend (config : Config) (msg : Message) :
    Session (Except String Unit) :=
  Client.checked Client.hello <|
  Client.checked (Client.startTLS config) <|
  Client.checked (Client.auth config) <|
  Client.transmit msg

theorem send_eq (real : config.testMode = false)
    (secure : config.disableTLS = false) :
    Client.send config msg =
      Client.checked (Client.connect config) (greetAndSend config msg) := by
  simp [Client.send, real, secure, greetAndSend]

theorem refused_used (used : connection.didHello = true)
    (present : line.client = some connection) :
    Refused behaviour line (greetAndSend config msg) := by
  have late : (Client.hello).run (Line.handle behaviour) line =
      (some (.error helloCalledLate), line) := by
    rw [Client.hello, run_method present]
    simp [Connection.invoke, used, Line.invoke, ← present]
  exact refused_here hello_harmless late

theorem refused_hello (fresh : line.client = some dialed)
    (refuses : behaviour.hello.isOk = false) :
    Refused behaviour line (greetAndSend config msg) := by
  rcases @run_hello behaviour line fresh with
    ⟨_, err, connection, ran⟩ | ⟨connection, ready, _⟩
  · exact refused_here hello_harmless ran
  · cases answer : behaviour.hello with
    | error text => simp [answer, Except.toOption] at ready
    | ok ext => simp [answer, Except.isOk, Except.toBool] at refuses

/-- `StartTLS` without a check of the certificate is up to the server. -/
theorem secured_isSome (skips : config.skipVerifySSL = true) :
    (behaviour.secured config connection).isSome = true ↔
      (connection.ext.contains "STARTTLS" = true →
        behaviour.startTLS.isOk = true) := by
  rw [Behaviour.secured, Connection.handshake, skips]
  by_cases offered : connection.ext.contains "STARTTLS" = true
  · rw [if_pos offered]
    cases behaviour.startTLS with
    | error text =>
        constructor
        · intro wrong
          cases wrong
        · intro starts
          cases starts offered
    | ok ext => exact ⟨fun _ _ => rfl, fun _ => rfl⟩
  · rw [if_neg offered]
    exact ⟨fun _ seen => absurd seen offered, fun _ => rfl⟩

theorem run_hello_ok {ext : List String} (fresh : line.client = some dialed)
    (greets : behaviour.hello = .ok ext) :
    ∃ greeted, greeted.ext = ext ∧ greeted.Open ∧
      (Client.hello).run (Line.handle behaviour) line =
        (some (.ok ()), { line with client := some greeted }) := by
  rcases @run_hello behaviour line fresh with
    ⟨none, _⟩ | ⟨greeted, ready, isOpen, ran⟩
  · simp [greets, Except.toOption] at none
  · simp only [greets, Except.toOption, Option.map_some,
      Option.some.injEq] at ready
    exact ⟨greeted, by rw [← ready], isOpen, ran⟩

theorem refused_startTLS {ext : List String}
    (fresh : line.client = some dialed) (greets : behaviour.hello = .ok ext)
    (offered : ext.contains "STARTTLS" = true)
    (refuses : behaviour.startTLS.isOk = false)
    (skips : config.skipVerifySSL = true) :
    Refused behaviour line (greetAndSend config msg) := by
  obtain ⟨greeted, same, isOpen, ran⟩ := run_hello_ok fresh greets
  apply refused_later hello_harmless ran
  rcases @run_startTLS behaviour config { line with client := some greeted }
    greeted isOpen rfl with ⟨_, err, connection, ran⟩ | ⟨_, ready, _⟩
  · exact refused_here startTLS_harmless ran
  · have some := (secured_isSome skips).mp
      (Option.isSome_iff_exists.mpr ⟨_, ready⟩) (same ▸ offered)
    simp [refuses] at some

theorem sensitive_sent {ext : List String}
    (fresh : line.client = some dialed) (greets : behaviour.hello = .ok ext)
    (starts : ext.contains "STARTTLS" = true →
      behaviour.startTLS.isOk = true)
    (skips : config.skipVerifySSL = true) :
    ∃ call ∈ callsOf behaviour line (greetAndSend config msg),
      Sensitive call.2 := by
  obtain ⟨greeted, same, isOpen, ran⟩ := run_hello_ok fresh greets
  have passes := (@secured_isSome config behaviour greeted skips).mpr
    (by rw [same]; exact starts)
  rcases @run_startTLS behaviour config { line with client := some greeted }
    greeted isOpen rfl with ⟨none, _⟩ | ⟨safe, _, isOpen, started⟩
  · rw [none] at passes
    cases passes
  · obtain ⟨call, member, sensitive⟩ := @sensitive_follows config msg
      behaviour { line with client := some safe } safe isOpen rfl
    refine ⟨call, ?_, sensitive⟩
    rw [greetAndSend, checked_trace_ok ran, checked_trace_ok started]
    exact List.mem_append_right _ (List.mem_append_right _ member)

theorem run_connect_dials (real : config.testMode = false)
    (absent : line.client = none) (dials : behaviour.dial.isOk = true) :
    (Client.connect config).run (Line.handle behaviour) line =
      (some (.ok ()), { line with client := some dialed }) := by
  rcases @run_connect behaviour config line real (.inl absent) with
    ⟨_, err, refused, _⟩ | ⟨_, ran⟩
  · simp [refused, Except.isOk, Except.toBool] at dials
  · exact ran

theorem run_connect_keeps (real : config.testMode = false)
    (present : line.client = some connection) :
    (Client.connect config).run (Line.handle behaviour) line =
      (some (.ok ()), line) := by
  simp [Client.connect, real, Program.run_call, Line.handle, present]

/-- A `Send` that stops early sends nothing sensitive and fails. -/
theorem refused_of_stopsEarly (real : config.testMode = false)
    (secure : config.disableTLS = false)
    (skips : config.skipVerifySSL = true) (reached : Reached client)
    (stops : StopsEarly behaviour client) :
    Refused behaviour ⟨client, 0, []⟩ (Client.send config msg) := by
  rw [send_eq real secure]
  have onFresh (line : Line) (fresh : line.client = some dialed)
      (refuses : behaviour.hello.isOk = false ∨
        ∃ ext, behaviour.hello = .ok ext ∧ ext.contains "STARTTLS" = true ∧
          behaviour.startTLS.isOk = false) :
      Refused behaviour line (greetAndSend config msg) := by
    rcases refuses with unheard | ⟨ext, greets, offered, refuses⟩
    · exact refused_hello fresh unheard
    · exact refused_startTLS fresh greets offered refuses skips
  cases present : client with
  | none =>
      rcases @run_connect behaviour config ⟨none, 0, []⟩ real (.inl rfl) with
        ⟨_, err, _, ran⟩ | ⟨dials, ran⟩
      · exact refused_here connect_harmless ran
      · refine refused_later connect_harmless ran (onFresh _ rfl ?_)
        rcases stops with ⟨_, used, _⟩ | ⟨_, fails⟩ | refuses
        · simp [present] at used
        · simp [dials rfl] at fails
        · exact refuses
  | some connection =>
      apply refused_later connect_harmless (run_connect_keeps real rfl)
      by_cases used : connection.didHello = true
      · exact refused_used used rfl
      · have fresh : connection = dialed :=
          (reached connection present).resolve_right used
        apply onFresh _ (congrArg some fresh)
        rcases stops with ⟨_, same, said⟩ | ⟨absent, _⟩ | refuses
        · cases present.symm.trans same
          exact absurd said used
        · cases present.symm.trans absent
        · exact refuses

/-- A `Send` that goes on sends something sensitive. -/
theorem sensitive_of_not_stopsEarly (real : config.testMode = false)
    (secure : config.disableTLS = false)
    (skips : config.skipVerifySSL = true) (reached : Reached client)
    (goesOn : ¬ StopsEarly behaviour client) :
    ∃ call ∈ Client.sentCalls config msg behaviour client,
      Sensitive call.2 := by
  simp only [StopsEarly, not_or, not_exists, not_and] at goesOn
  obtain ⟨unused, dials, greets, starts⟩ := goesOn
  obtain ⟨ext, greets⟩ := isOk_iff.mp (by simpa using greets)
  have starts : ext.contains "STARTTLS" = true →
      behaviour.startTLS.isOk = true := by
    intro offered
    simpa using starts ext greets offered
  have dialled : (Client.connect config).run (Line.handle behaviour)
      ⟨client, 0, []⟩ = (some (.ok ()), ⟨some dialed, 0, []⟩) := by
    cases present : client with
    | none =>
        exact run_connect_dials real rfl (by simpa using dials present)
    | some connection =>
        have fresh := (reached connection present).resolve_right
          (unused connection present)
        rw [run_connect_keeps real rfl, fresh]
  obtain ⟨call, member, sensitive⟩ := @sensitive_sent config msg behaviour
    ⟨some dialed, 0, []⟩ ext rfl greets starts skips
  refine ⟨call, ?_, sensitive⟩
  have trace := @checked_trace_ok behaviour _ _ _
    (greetAndSend config msg) dialled
  rw [callsOf] at trace
  rw [Client.sentCalls, send_eq real secure, trace]
  exact List.mem_append_right _ member

/-- One `Send` of a client that checks no certificates. -/
theorem protected_of_unverified (real : config.testMode = false)
    (secure : config.disableTLS = false)
    (skips : config.skipVerifySSL = true) (reached : Reached client)
    (unverified : Unverified ⟨client, 0, []⟩) :
    Protected config msg behaviour client ↔ StopsEarly behaviour client := by
  constructor
  · intro safe
    by_contra goesOn
    obtain ⟨call, member, sensitive⟩ := @sensitive_of_not_stopsEarly config
      msg behaviour client real secure skips reached goesOn
    obtain ⟨connection, present, verified⟩ :=
      safe.verified call member sensitive
    have clear := Program.trace_invariant (Line.handle behaviour) Unverified
      (fun line call => handle_unverified behaviour line call)
      (send_lax skips) unverified call member
    exact clear connection present verified
  · intro stops
    have refused := @refused_of_stopsEarly config msg behaviour client real
      secure skips reached stops
    exact ⟨fun call member sensitive =>
      absurd sensitive (refused.1 call member), fun _ => refused.2⟩

end Traces

/-- A run of a client that checks no certificates leaves none checked. -/
theorem run_unverified {config : Config}
    (skips : config.skipVerifySSL = true) {calls : List ClientCall}
    {client : Option Connection} {trace : List Returned}
    (ran : (Client.machine config).run calls none = some (client, trace)) :
    Unverified ⟨client, 0, []⟩ := by
  have start : Unverified ⟨none, 0, []⟩ := by
    intro connection absent
    cases absent
  refine (Client.machine config).run_state_invariant (fun _ _ => True)
    (fun client => Unverified ⟨client, 0, []⟩) ?_ start
    ((Client.machine config).guarded_of_forall (fun _ _ _ => trivial) none)
    ran
  intro client call next shown unverified _ stepped
  cases call with
  | connect behaviour =>
      cases stepped
      exact Program.run_of_only _ Unverified
        (fun line call => handle_unverified behaviour line call)
        (connect_only trivial trivial) unverified
  | send msg behaviour =>
      cases stepped
      exact Program.run_of_only _ Unverified
        (fun line call => handle_unverified behaviour line call)
        (send_lax skips) unverified

def strictEnvironment : Application.Environment where
  smtpAuthMechanism := .smtpAuthNone
  smtpCRAMMD5Secret := ""
  smtpHost := "mail.example.com"
  smtpPass := ""
  smtpPort := "25"
  smtpTLS := true
  smtpUser := ""
  testMode := false
  verifySSL := true

/-- A server that starts TLS with a certificate for another host. -/
def Behaviour.impostor : Behaviour :=
  { Behaviour.plain with hello := .ok ["STARTTLS"], certificate := false }

end Notifications.Mail
