import Notifications.Lib.Machine
import Notifications.Mail.Sending

/-!
# One mail client over many calls

A worker calls `Connect` and `Send` on the same client for as long as it lives.
The state between the calls is the pointer to the connection.
-/

set_option autoImplicit false

namespace Notifications.Mail

open Notifications.Lib

/-- One call, and how the server behaves during it. -/
inductive ClientCall where
  | connect (behaviour : Behaviour)
  | send (msg : Message) (behaviour : Behaviour)

/-- What a call returned, and for `Send` the connection it left behind. -/
inductive Returned where
  | connected (result : Option (Except String Unit))
  | sent (result : Option (Except String Unit)) (held : Option Connection)

namespace Client

def connected (config : Config) (behaviour : Behaviour)
    (client : Option Connection) : Option (Except String Unit) × Line :=
  (connect config).run (Line.handle behaviour) ⟨client, 0, []⟩

def sent (config : Config) (msg : Message) (behaviour : Behaviour)
    (client : Option Connection) : Option (Except String Unit) × Line :=
  (send config msg).run (Line.handle behaviour) ⟨client, 0, []⟩

def machine (config : Config) :
    Machine (Option Connection) ClientCall Returned where
  step client
    | .connect behaviour =>
        let (result, after) := connected config behaviour client
        some (after.client, [.connected result])
    | .send msg behaviour =>
        let (result, after) := sent config msg behaviour client
        some (after.client, [.sent result after.client])

end Client

/-- Every answer is the one that a client hopes for. -/
structure Behaviour.Correct (behaviour : Behaviour) : Prop where
  dial : behaviour.dial.isOk = true
  hello : behaviour.hello.isOk = true
  startTLS : behaviour.startTLS.isOk = true
  certificate : behaviour.certificate = true
  auth : behaviour.auth.isOk = true
  takes : behaviour.takes = true
  quit : ∀ attempt, (behaviour.quit attempt).isOk = true

/-- In test mode nothing is sent; otherwise a `Send` leaves no connection when
it cannot connect, or when no step after that fails. -/
def Spares (config : Config) (client : Option Connection) :
    ClientCall → Prop
  | .connect _ => True
  | .send _ behaviour =>
      config.testMode = true ∨
        (client = none ∧ behaviour.dial.isOk = false) ∨
        behaviour.accepts config = true

instance (config : Config) (client : Option Connection) (call : ClientCall) :
    Decidable (Spares config client call) :=
  match call with
  | .connect _ => .isTrue trivial
  | .send _ behaviour =>
      inferInstanceAs (Decidable (config.testMode = true ∨
        (client = none ∧ behaviour.dial.isOk = false) ∨
        behaviour.accepts config = true))

section Calls

variable {config : Config} {client : Option Connection}
  {behaviour : Behaviour} {msg : Message}

theorem accepts_iff : behaviour.accepts config = true ↔
    ((behaviour.prepared config).isSome && behaviour.takes) = true ∧
      (behaviour.quit 0).isOk = true := by
  simp [Behaviour.accepts]

theorem Behaviour.Correct.secured (correct : behaviour.Correct)
    (config : Config) (connection : Connection) :
    (behaviour.secured config connection).isSome = true := by
  rw [Behaviour.secured, Connection.handshake]
  cases answer : behaviour.startTLS with
  | error text =>
      have secured := correct.startTLS
      rw [answer] at secured
      cases secured
  | ok ext =>
      by_cases skips : config.skipVerifySSL = true
      · simp only [skips, if_true]
        split <;> rfl
      · simp only [skips, correct.certificate, if_true]
        split <;> rfl

theorem Behaviour.Correct.prepared (correct : behaviour.Correct)
    (config : Config) : (behaviour.prepared config).isSome = true := by
  rw [Behaviour.prepared]
  cases answer : behaviour.hello with
  | error text =>
      have greeted := correct.hello
      rw [answer] at greeted
      cases greeted
  | ok ext =>
      simp only
      split
      · rfl
      · obtain ⟨connection, ready⟩ := Option.isSome_iff_exists.mp
          (correct.secured config
            { dialed with didHello := true, ext := ext })
        have known : behaviour.authenticates config connection = true := by
          simp [Behaviour.authenticates, correct.auth]
        simp [ready, Option.filter, known]

theorem Behaviour.Correct.accepts (correct : behaviour.Correct)
    (config : Config) : behaviour.accepts config = true := by
  refine accepts_iff.mpr ⟨?_, correct.quit 0⟩
  simp [correct.prepared config, correct.takes]

/-- Between calls that leave nothing behind; in test mode nothing is ever
dialed. -/
structure Idle (config : Config) (client : Option Connection) : Prop where
  unused : Unused client
  testing : config.testMode = true → client = none

theorem idle_none : Idle config none := ⟨.inl rfl, fun _ => rfl⟩

theorem connected_idle (idle : Idle config client) :
    Idle config (Client.connected config behaviour client).2.client := by
  by_cases testing : config.testMode = true
  · simpa [Client.connected, Client.connect, testing] using idle
  · have real : config.testMode = false := by simpa using testing
    rcases @run_connect behaviour config ⟨client, 0, []⟩ real idle.unused with
      ⟨absent, err, _, ran⟩ | ⟨_, ran⟩
    · rw [Client.connected, ran]
      exact idle
    · rw [Client.connected, ran]
      exact ⟨.inr rfl, fun test => absurd test testing⟩

theorem sent_testing (testing : config.testMode = true) :
    Client.sent config msg behaviour client =
      (some (.ok ()), ⟨client, 0, []⟩) := by
  simp [Client.sent, Client.send, testing]

/-- A `Send` gives the connection up exactly when no step fails. -/
theorem sent_none_iff (idle : Idle config client) :
    (Client.sent config msg behaviour client).2.client = none ↔
      Spares config client (.send msg behaviour) := by
  by_cases testing : config.testMode = true
  · simp [sent_testing testing, idle.testing testing, Spares, testing]
  have real : config.testMode = false := by simpa using testing
  have ended := @run_send behaviour config ⟨client, 0, []⟩ msg real idle.unused
  rw [← Client.sent] at ended
  simp only [Spares, real, Bool.false_eq_true, false_or, accepts_iff]
  generalize Client.sent config msg behaviour client = outcome at ended
  cases ended with
  | unconnected absent refused => simp_all
  | refused dialled fails failed =>
      obtain ⟨err, connection, quits, _, rfl⟩ := failed
      simp_all
  | unfinished dialled taken fails failed =>
      obtain ⟨err, connection, quits, _, rfl⟩ := failed
      simp_all
  | delivered dialled taken answered => simp_all

theorem sent_correct (unused : Unused client) (correct : behaviour.Correct) :
    (Client.sent config msg behaviour client).1 = some (.ok ()) := by
  by_cases testing : config.testMode = true
  · rw [sent_testing testing]
  · have real : config.testMode = false := by simpa using testing
    have ended := @run_send behaviour config ⟨client, 0, []⟩ msg real unused
    rw [← Client.sent] at ended
    have accepted := accepts_iff.mp (correct.accepts config)
    generalize Client.sent config msg behaviour client = outcome at ended
    cases ended with
    | unconnected absent refused => simp [correct.dial] at refused
    | refused dialled fails failed => simp [accepted.1] at fails
    | unfinished dialled taken fails failed => simp [correct.quit] at fails
    | delivered dialled taken answered => rfl

end Calls

/-! ## Over whole runs -/

/-- No `Send` of the run has left a connection behind. -/
def NothingHeld (trace : List Returned) : Prop :=
  ∀ result held, .sent result held ∈ trace → held = none

/-- The client can be used again: the next `Send` to a server that behaves
correctly succeeds. -/
def Reusable (config : Config) (client : Option Connection) : Prop :=
  ∀ msg behaviour, behaviour.Correct →
    (Client.sent config msg behaviour client).1 = some (.ok ())

section Runs

variable {config : Config} {client final : Option Connection}
  {calls : List ClientCall} {trace : List Returned}

theorem nothingHeld_append {before after : List Returned} :
    NothingHeld (before ++ after) ↔
      NothingHeld before ∧ NothingHeld after := by
  simp only [NothingHeld, List.mem_append]
  constructor
  · intro all
    exact ⟨fun result held member => all result held (.inl member),
      fun result held member => all result held (.inr member)⟩
  · rintro ⟨first, second⟩ result held (member | member)
    · exact first result held member
    · exact second result held member

/-- A step leaves nothing behind exactly when it meets the condition. -/
theorem step_spares {call : ClientCall} {next : Option Connection}
    {shown : List Returned} (idle : Idle config client)
    (stepped : (Client.machine config).step client call =
      some (next, shown)) :
    (Spares config client call ↔ NothingHeld shown) ∧
      (NothingHeld shown → Idle config next) := by
  cases call with
  | connect behaviour =>
      cases stepped
      have shows : NothingHeld
          [.connected (Client.connected config behaviour client).1] := by
        simp [NothingHeld]
      exact ⟨⟨fun _ => shows, fun _ => trivial⟩,
        fun _ => connected_idle idle⟩
  | send msg behaviour =>
      cases stepped
      have shows : NothingHeld
          [.sent (Client.sent config msg behaviour client).1
            (Client.sent config msg behaviour client).2.client] ↔
          (Client.sent config msg behaviour client).2.client = none := by
        simp [NothingHeld]
      refine ⟨(sent_none_iff idle).symm.trans shows.symm, ?_⟩
      intro nothing
      have gone : Idle config
          (Client.sent config msg behaviour client).2.client := by
        rw [shows.mp nothing]
        exact idle_none
      exact gone

theorem run_spares (idle : Idle config client)
    (ran : (Client.machine config).run calls client = some (final, trace)) :
    ((Client.machine config).Guarded (Spares config) calls client ↔
      NothingHeld trace) ∧ (NothingHeld trace → Idle config final) := by
  induction calls generalizing client trace with
  | nil =>
      cases ran
      exact ⟨by simp [Machine.Guarded, NothingHeld], fun _ => idle⟩
  | cons call rest ih =>
      obtain ⟨next, shown, later, stepped, runs, rfl⟩ :=
        (Client.machine config).run_cons ran
      obtain ⟨here, kept⟩ := step_spares idle stepped
      rw [nothingHeld_append]
      constructor
      · constructor
        · rintro ⟨spares, guarded⟩
          have nothing := here.mp spares
          have there := ih (kept nothing) runs
          exact ⟨nothing, there.1.mp (guarded next shown stepped)⟩
        · rintro ⟨nothing, after⟩
          have there := ih (kept nothing) runs
          refine ⟨here.mpr nothing, ?_⟩
          intro other shown' stepped'
          rw [stepped] at stepped'
          cases stepped'
          exact there.1.mpr after
      · rintro ⟨nothing, after⟩
        exact (ih (kept nothing) runs).2 after

/-- Every `Send` of a run gives its connection up, and the client stays usable,
if and only if every `Send` meets the condition. -/
theorem client_reusable_iff
    (ran : (Client.machine config).run calls none = some (final, trace)) :
    (NothingHeld trace ∧ Reusable config final) ↔
      (Client.machine config).Guarded (Spares config) calls none := by
  have rule := run_spares idle_none ran
  constructor
  · rintro ⟨nothing, _⟩
    exact rule.1.mpr nothing
  · intro guarded
    have nothing := rule.1.mp guarded
    have idle := rule.2 nothing
    refine ⟨nothing, ?_⟩
    intro msg behaviour correct
    exact sent_correct idle.unused correct

end Runs

/-- A connection is new, or hello has been said on it. -/
def Reached (client : Option Connection) : Prop :=
  ∀ connection, client = some connection →
    connection = dialed ∨ connection.didHello = true

theorem handle_reached (behaviour : Behaviour) (line : Line) (call : Call)
    (reached : Reached line.client) :
    Reached (line.handle behaviour call).2.client := by
  cases call with
  | connected => exact reached
  | dial host port =>
      simp only [Line.handle]
      cases behaviour.dial with
      | error text => exact reached
      | ok _ =>
          intro connection present
          cases present
          exact .inl rfl
  | extension name =>
      simp only [Line.handle]
      cases present : line.client with
      | none =>
          rw [present] at reached
          rw [present]
          exact reached
      | some connection =>
          intro after present'
          cases present'
          right
          rw [Connection.extension_snd]
          exact connection.didHello_greet behaviour
  | method method =>
      simp only [Line.handle]
      cases present : line.client with
      | none =>
          rw [present] at reached
          rw [present]
          exact reached
      | some connection =>
          intro after present'
          cases present'
          exact .inr (connection.didHello_invoke _ _ _)
  | forget =>
      intro connection absent
      cases absent

theorem run_reached {config : Config} {calls : List ClientCall}
    {client : Option Connection} {trace : List Returned}
    (ran : (Client.machine config).run calls none = some (client, trace)) :
    Reached client := by
  refine (Client.machine config).run_state_invariant (fun _ _ => True)
    Reached ?_ (fun _ absent => by cases absent)
    ((Client.machine config).guarded_of_forall (fun _ _ _ => trivial) none)
    ran
  intro client call next shown reached _ stepped
  have kept (behaviour : Behaviour) (program : Session (Except String Unit)) :
      Reached (program.run (Line.handle behaviour)
        ⟨client, 0, []⟩).2.client :=
    Program.run_of_only _ (fun line => Reached line.client)
      (fun line call _ => handle_reached behaviour line call)
      program.only_true reached
  cases call with
  | connect behaviour =>
      cases stepped
      exact kept behaviour _
  | send msg behaviour =>
      cases stepped
      exact kept behaviour _

def Behaviour.plain : Behaviour where
  dial := .ok ()
  hello := .ok []
  startTLS := .ok []
  certificate := true
  auth := .ok ()
  mail := .ok ()
  rcpt := .ok ()
  data := .ok ()
  write := .ok ()
  close := .ok ()
  quit _ := .ok ()

theorem Behaviour.plain_correct : Behaviour.plain.Correct where
  dial := rfl
  hello := rfl
  startTLS := rfl
  certificate := rfl
  auth := rfl
  takes := rfl
  quit _ := rfl

def Behaviour.unknownRecipient : Behaviour :=
  { Behaviour.plain with rcpt := .error "550 No such user here" }

def plainConfig : Config where
  host := "mail.example.com"
  port := "25"
  user := ""
  pass := ""
  secret := ""
  authMechanism := .authNone
  testMode := false
  skipVerifySSL := false
  disableTLS := true

def greeting : Message where
  fromAddress := "no-reply@example.com"
  replyTo := ""
  toAddress := "ann@example.com"
  subject := "Hello"
  body := []
  headers := []

/-- After one unknown recipient the client keeps a connection that it has quit,
and the next `Send` fails although the server is fine. -/
theorem unknown_recipient_poisons :
    ∃ final trace,
      (Client.machine plainConfig).run
          [.send greeting .unknownRecipient] none = some (final, trace) ∧
        ¬ NothingHeld trace ∧ ¬ Reusable plainConfig final := by
  refine ⟨_, _, rfl, ?_, ?_⟩
  · intro nothing
    exact absurd (nothing _ _ (.head _)) (by decide)
  · intro reusable
    have result := reusable greeting .plain Behaviour.plain_correct
    exact absurd result (by decide)

theorem plain_server_reusable :
    ∃ final trace,
      (Client.machine plainConfig).run
          [.connect .plain, .send greeting .plain, .send greeting .plain]
          none = some (final, trace) ∧
        NothingHeld trace ∧ Reusable plainConfig final := by
  have ran : (Client.machine plainConfig).run
      [.connect .plain, .send greeting .plain, .send greeting .plain] none =
        some (none, [.connected (some (.ok ())), .sent (some (.ok ())) none,
          .sent (some (.ok ())) none]) := rfl
  exact ⟨_, _, ran, (client_reusable_iff ran).mpr (by decide)⟩

end Notifications.Mail
