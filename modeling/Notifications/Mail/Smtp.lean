import Notifications.Effects

/-!
# Connections of net/smtp

`smtp.Client` as the mail client uses it.  What the server and the network do
during one call of the mail client is a `Behaviour`: any answer to every
method.  The library adds its own rules: every method says hello first, `Hello`
fails after any other method, `StartTLS` checks the certificate unless it is
told not to, a finished `Quit` closes the connection and a closed connection
answers nothing any more.
-/

set_option autoImplicit false

namespace Notifications.Mail

inductive Security where
  | clear
  /-- TLS with whatever certificate the server showed -/
  | encrypted
  /-- TLS with a certificate that was checked -/
  | verified
  deriving DecidableEq, Repr

/-- `smtp.Client`. -/
structure Connection where
  didHello : Bool
  helloError : Option String
  ext : List String
  security : Security
  closed : Bool
  deriving DecidableEq, Repr

/-- What `smtp.Dial` returns. -/
def dialed : Connection := ⟨false, none, [], .clear, false⟩

/-- An error of a method that may close the connection all the same. -/
structure Refusal where
  text : String
  closes : Bool
  deriving DecidableEq, Repr

/-- The server during one call of the mail client. -/
structure Behaviour where
  /-- a timeout is an error as well -/
  dial : Except String Unit
  /-- the extensions it advertises; none if it only knows `HELO` -/
  hello : Except String (List String)
  /-- the extensions it advertises over TLS -/
  startTLS : Except String (List String)
  /-- its certificate is valid for the host -/
  certificate : Bool
  auth : Except Refusal Unit
  mail : Except String Unit
  rcpt : Except String Unit
  data : Except String Unit
  write : Except String Unit
  /-- the answer to the end of the data -/
  close : Except String Unit
  quit : Nat → Except Refusal Unit

/-- An `smtp.Auth`. -/
inductive Auth where
  | plain (identity username password host : String)
  | cramMD5 (username secret : String)
  deriving DecidableEq, Repr

/-- The methods of `smtp.Client`, and of the writer that `Data` returns. -/
inductive Method where
  | hello (localName : String)
  | startTLS (serverName : String) (insecureSkipVerify : Bool)
  | auth (mechanism : Auth)
  | mail (sender : String)
  | rcpt (recipient : String)
  | data
  | write (message : Message)
  | close (message : Message)
  | quit
  deriving DecidableEq, Repr

def helloCalledLate : String := "smtp: Hello called after other methods"

def connectionClosed : String := "use of closed network connection"

def badCertificate : String := "x509: certificate is not valid"

namespace Connection

/-- `c.hello()`: only the first call sends anything. -/
def greet (behaviour : Behaviour) (connection : Connection) :
    Except String Unit × Connection :=
  if connection.didHello then
    match connection.helloError with
    | some text => (.error text, connection)
    | none => (.ok (), connection)
  else
    let answer := if connection.closed then .error connectionClosed
      else behaviour.hello
    match answer with
    | .error text =>
        (.error text,
          { connection with didHello := true, helloError := some text })
    | .ok ext => (.ok (), { connection with didHello := true, ext := ext })

def ask (behaviour : Behaviour) (connection : Connection)
    (command : Connection → Except String Unit × Connection) :
    Except String Unit × Connection :=
  match connection.greet behaviour with
  | (.error text, greeted) => (.error text, greeted)
  | (.ok _, greeted) =>
      if greeted.closed then (.error connectionClosed, greeted)
      else command greeted

/-- The handshake after an accepted `STARTTLS`, and the second `EHLO`. -/
def handshake (behaviour : Behaviour) (insecureSkipVerify : Bool)
    (connection : Connection) : Except String Unit × Connection :=
  match behaviour.startTLS with
  | .error text => (.error text, connection)
  | .ok ext =>
      if insecureSkipVerify then
        (.ok (), { connection with security := .encrypted, ext := ext })
      else if behaviour.certificate then
        (.ok (), { connection with security := .verified, ext := ext })
      else
        (.error badCertificate, { connection with closed := true })

/-- A refused authentication ends in a `Quit`. -/
def authenticate (behaviour : Behaviour) (connection : Connection) :
    Except String Unit × Connection :=
  match behaviour.auth with
  | .ok _ => (.ok (), connection)
  | .error refusal =>
      (.error refusal.text,
        { connection with closed := connection.closed || refusal.closes })

def sendQuit (behaviour : Behaviour) (quits : Nat)
    (connection : Connection) : Except String Unit × Connection :=
  match behaviour.quit quits with
  | .ok _ => (.ok (), { connection with closed := true })
  | .error refusal =>
      (.error refusal.text,
        { connection with closed := connection.closed || refusal.closes })

def invoke (behaviour : Behaviour) (quits : Nat) (connection : Connection) :
    Method → Except String Unit × Connection
  | .hello _ =>
      if connection.didHello then (.error helloCalledLate, connection)
      else connection.greet behaviour
  | .startTLS _ insecureSkipVerify =>
      connection.ask behaviour (handshake behaviour insecureSkipVerify)
  | .auth _ => connection.ask behaviour (authenticate behaviour)
  | .mail _ => connection.ask behaviour fun greeted => (behaviour.mail, greeted)
  | .rcpt _ => connection.ask behaviour fun greeted => (behaviour.rcpt, greeted)
  | .data => connection.ask behaviour fun greeted => (behaviour.data, greeted)
  | .write _ =>
      connection.ask behaviour fun greeted => (behaviour.write, greeted)
  | .close _ =>
      connection.ask behaviour fun greeted => (behaviour.close, greeted)
  | .quit => connection.ask behaviour (sendQuit behaviour quits)

/-- `c.Extension(name)`. -/
def extension (behaviour : Behaviour) (connection : Connection)
    (name : String) : Bool × Connection :=
  match connection.greet behaviour with
  | (.error _, greeted) => (false, greeted)
  | (.ok _, greeted) => (greeted.ext.contains name, greeted)

/-- Hello has been said and answered, and the connection is open. -/
structure Open (connection : Connection) : Prop where
  didHello : connection.didHello = true
  helloError : connection.helloError = none
  closed : connection.closed = false

section Open

variable {behaviour : Behaviour} {connection : Connection}
  (isOpen : connection.Open)

include isOpen

theorem greet_of_open : connection.greet behaviour = (.ok (), connection) := by
  simp [greet, isOpen.didHello, isOpen.helloError]

theorem ask_of_open
    (command : Connection → Except String Unit × Connection) :
    connection.ask behaviour command = command connection := by
  simp [ask, greet_of_open isOpen, isOpen.closed]

theorem extension_of_open (name : String) :
    connection.extension behaviour name =
      (connection.ext.contains name, connection) := by
  simp [extension, greet_of_open isOpen]

end Open

/-! ## What every method keeps -/

theorem didHello_greet (behaviour : Behaviour) (connection : Connection) :
    (connection.greet behaviour).2.didHello = true := by
  by_cases said : connection.didHello = true
  · simp only [greet, said, if_true]
    cases connection.helloError <;> exact said
  · rw [greet, if_neg said]
    cases (if connection.closed then .error connectionClosed
      else behaviour.hello : Except String (List String)) <;> rfl

theorem security_greet (behaviour : Behaviour) (connection : Connection) :
    (connection.greet behaviour).2.security = connection.security := by
  by_cases said : connection.didHello = true
  · simp only [greet, said, if_true]
    cases connection.helloError <;> rfl
  · rw [greet, if_neg said]
    cases (if connection.closed then .error connectionClosed
      else behaviour.hello : Except String (List String)) <;> rfl

theorem extension_snd (behaviour : Behaviour) (connection : Connection)
    (name : String) :
    (connection.extension behaviour name).2 =
      (connection.greet behaviour).2 := by
  simp only [extension]
  split <;> simp_all

/-- What saying hello and the command keep, `ask` keeps. -/
theorem ask_keeps {behaviour : Behaviour} {connection : Connection}
    {command : Connection → Except String Unit × Connection}
    (keeps : Connection → Prop)
    (greeted : keeps (connection.greet behaviour).2)
    (commanded : ∀ connection, keeps connection →
      keeps (command connection).2) :
    keeps (connection.ask behaviour command).2 := by
  simp only [ask]
  split
  · rename_i same
    simpa [same] using greeted
  · rename_i same
    split
    · simpa [same] using greeted
    · exact commanded _ (by simpa [same] using greeted)

/-- What every command keeps, every method keeps, if `StartTLS` does. -/
theorem invoke_keeps {behaviour : Behaviour} {quits : Nat}
    {connection : Connection} {method : Method} (keeps : Connection → Prop)
    (greeted : keeps (connection.greet behaviour).2)
    (same : connection.didHello = true → keeps connection)
    (closing : ∀ (connection : Connection) (closed : Bool), keeps connection →
      keeps { connection with closed := closed })
    (secures : ∀ name skips, method = .startTLS name skips →
      ∀ connection, keeps connection →
        keeps (connection.handshake behaviour skips).2) :
    keeps (connection.invoke behaviour quits method).2 := by
  cases method with
  | hello localName =>
      by_cases said : connection.didHello = true
      · simpa [invoke, said] using same said
      · simpa [invoke, said] using greeted
  | startTLS name skips => exact ask_keeps keeps greeted (secures name skips rfl)
  | auth mechanism =>
      refine ask_keeps keeps greeted ?_
      intro connection kept
      simp only [authenticate]
      split
      · exact kept
      · exact closing connection _ kept
  | quit =>
      refine ask_keeps keeps greeted ?_
      intro connection kept
      simp only [sendQuit]
      split <;> exact closing connection _ kept
  | mail sender => exact ask_keeps keeps greeted fun _ kept => kept
  | rcpt recipient => exact ask_keeps keeps greeted fun _ kept => kept
  | data => exact ask_keeps keeps greeted fun _ kept => kept
  | write message => exact ask_keeps keeps greeted fun _ kept => kept
  | close message => exact ask_keeps keeps greeted fun _ kept => kept

theorem didHello_invoke (behaviour : Behaviour) (quits : Nat)
    (connection : Connection) (method : Method) :
    (connection.invoke behaviour quits method).2.didHello = true := by
  refine invoke_keeps (fun connection => connection.didHello = true)
    (connection.didHello_greet behaviour) id (fun _ _ said => said) ?_
  intro name skips _ connection said
  simp only [handshake]
  split
  · exact said
  · split
    · exact said
    · split <;> exact said

/-- Only a `StartTLS` that checks certificates verifies a connection. -/
theorem security_invoke {behaviour : Behaviour} {quits : Nat}
    {connection : Connection} {method : Method}
    (unverified : connection.security ≠ .verified)
    (lax : ∀ name, method ≠ .startTLS name false) :
    (connection.invoke behaviour quits method).2.security ≠ .verified := by
  refine invoke_keeps (fun connection => connection.security ≠ .verified) ?_
    (fun _ => unverified) (fun _ _ kept => kept) ?_
  · rw [connection.security_greet]
    exact unverified
  · intro name skips same connection kept
    simp only [handshake]
    split
    · exact kept
    · split
      · simp
      · rename_i checks
        have checked : skips = false := by simpa using checks
        exact absurd (checked ▸ same) (lax name)

end Connection

end Notifications.Mail
