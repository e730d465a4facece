import Notifications.Mail.Smtp

/-!
# The mail client

`mail.Client` as programs over the methods of `smtp.Client` and the pointer
`c.client`.  `handle` runs them against a server; it also keeps the messages
whose data the server has accepted.  Logging is left out.
-/

set_option autoImplicit false

namespace Notifications.Mail

open Notifications.Lib

inductive AuthMechanism where
  | authNone
  | authPlain
  | authCRAMMD5
  deriving DecidableEq, Repr

/-- `mail.Config`, without the timeout of `Dial` and the switch for logging. -/
structure Config where
  host : String
  port : String
  user : String
  pass : String
  secret : String
  authMechanism : AuthMechanism
  testMode : Bool
  skipVerifySSL : Bool
  disableTLS : Bool
  deriving DecidableEq, Repr

inductive Call where
  /-- `c.client != nil` -/
  | connected
  /-- `smtp.Dial`, and `c.client = connection.client` when it succeeds -/
  | dial (host port : String)
  | extension (name : String)
  | method (method : Method)
  /-- `c.client = nil` -/
  | forget

@[reducible] def Call.Answer : Call → Type
  | connected => Bool
  | dial _ _ => Except String Unit
  | extension _ => Reply Bool
  | method _ => Reply Unit
  | forget => Unit

abbrev Session (α : Type) : Type := Program Call Call.Answer α

def method (method : Method) : Session (Except String Unit) := do
  match ← .perform (Call.method method) with
  | .ok _ => pure (.ok ())
  | .failed text => pure (.error text)
  | .nilPointer => .panic nilPointer

namespace Client

def connect (config : Config) : Session (Except String Unit) := do
  if config.testMode then
    pure (.ok ())
  else if ← Program.perform Call.connected then
    pure (.ok ())
  else
    Program.perform (Call.dial config.host config.port)

def hello : Session (Except String Unit) := method (.hello "localhost")

def extension (name : String) : Session Bool := do
  match ← .perform (Call.extension name) with
  | .ok supported => pure supported
  | .failed _ => pure false
  | .nilPointer => .panic nilPointer

def startTLS (config : Config) : Session (Except String Unit) := do
  if ← extension "STARTTLS" then
    method (.startTLS config.host config.skipVerifySSL)
  else
    pure (.ok ())

def authMechanism (config : Config) : Option Auth :=
  match config.authMechanism with
  | .authCRAMMD5 => some (.cramMD5 config.user config.secret)
  | .authPlain => some (.plain "" config.user config.pass config.host)
  | .authNone => none

def auth (config : Config) : Session (Except String Unit) := do
  if ← extension "AUTH" then
    match authMechanism config with
    | some mechanism => method (.auth mechanism)
    | none => pure (.ok ())
  else
    pure (.ok ())

def data (msg : Message) : Session (Except String Unit) := do
  match ← method .data with
  | .error err => pure (.error err)
  | .ok _ =>
      match ← method (.write msg) with
      | .error err => pure (.error err)
      | .ok _ => method (.close msg)

def quit : Session (Except String Unit) := do
  match ← method .quit with
  | .error err => pure (.error err)
  | .ok _ =>
      Program.perform Call.forget
      pure (.ok ())

def error (err : String) : Session (Except String Unit) := do
  if ← Program.perform Call.connected then
    match ← method .quit with
    | .error failure => pure (.error failure)
    | .ok _ => pure (.error err)
  else
    pure (.error err)

/-- `err = step(); if err != nil { return c.Error(err) }`. -/
def checked (step rest : Session (Except String Unit)) :
    Session (Except String Unit) := do
  match ← step with
  | .error err => error err
  | .ok _ => rest

/-- `Send`, once the connection is secured. -/
def transmit (msg : Message) : Session (Except String Unit) :=
  checked (method (.mail msg.fromAddress)) <|
  checked (method (.rcpt msg.toAddress)) <|
  checked (data msg) <|
  checked quit <|
  pure (.ok ())

def send (config : Config) (msg : Message) : Session (Except String Unit) :=
  if config.testMode then
    pure (.ok ())
  else
    checked (connect config) <|
    checked hello <|
    if !config.disableTLS then
      checked (startTLS config) <|
      checked (auth config) <|
      transmit msg
    else
      transmit msg

end Client

/-! ## Against a server -/

structure Line where
  client : Option Connection
  /-- how often `Quit` was called in this call -/
  quits : Nat
  /-- the messages that the server has taken -/
  accepted : List Message
  deriving DecidableEq, Repr

namespace Line

def invoke (behaviour : Behaviour) (line : Line) (connection : Connection)
    (method : Method) : Reply Unit × Line :=
  let (answer, after) := connection.invoke behaviour line.quits method
  let reply := match answer with
    | .ok _ => .ok ()
    | .error text => .failed text
  let accepted := match method, answer with
    | .close message, .ok _ => line.accepted ++ [message]
    | _, _ => line.accepted
  let quits := if method = .quit then line.quits + 1 else line.quits
  (reply, ⟨some after, quits, accepted⟩)

def handle (behaviour : Behaviour) (line : Line) :
    (call : Call) → call.Answer × Line
  | .connected => (line.client.isSome, line)
  | .dial _ _ =>
      match behaviour.dial with
      | .error text => (.error text, line)
      | .ok _ => (.ok (), { line with client := some dialed })
  | .extension name =>
      match line.client with
      | none => (.nilPointer, line)
      | some connection =>
          let (supported, after) := connection.extension behaviour name
          (.ok supported, { line with client := some after })
  | .method method =>
      match line.client with
      | none => (.nilPointer, line)
      | some connection => line.invoke behaviour connection method
  | .forget => ((), { line with client := none })

end Line

end Notifications.Mail
