import Notifications.Models.Repos

/-!
# Deliveries and the messages made of them

`Delivery` and `Options`, `NewMessageContext` and `Packager.Pack`.  The engine
of `text/template` is a parameter: it parses a template, and a parsed template
writes a text for every context, possibly cut short by an error that
`compileTemplate` does not look at.
-/

set_option autoImplicit false

namespace Notifications.Postal

open Notifications.Lib Notifications.Models

structure HTML where
  bodyContent : String
  bodyAttributes : String
  head : String
  doctype : String
  deriving DecidableEq, Repr

structure Options where
  replyTo : String
  subject : String
  kindDescription : String
  sourceDescription : String
  text : String
  html : HTML
  kindID : String
  toAddress : String
  role : String
  endorsement : String
  deriving DecidableEq, Repr

def sampleOptions : Options :=
  ⟨"", "", "", "", "", ⟨"", "", "", ""⟩, "kind", "", "", ""⟩

structure Space where
  guid : String
  name : String
  organizationGUID : String
  deriving DecidableEq, Repr

structure Organization where
  guid : String
  name : String
  deriving DecidableEq, Repr

structure Delivery where
  options : Options
  userGUID : String
  email : String
  space : Space
  organization : Organization
  clientID : String
  messageID : String
  scope : String
  deriving DecidableEq, Repr

structure Templates where
  subject : String
  text : String
  html : String
  deriving DecidableEq, Repr

inductive Status where
  | unavailable
  | failed
  | delivered
  | queued
  deriving DecidableEq, Repr

def Status.text : Status → String
  | unavailable => "unavailable"
  | failed => "failed"
  | delivered => "delivered"
  | queued => "queued"

structure MessageContext where
  fromAddress : String
  replyTo : String
  toAddress : String
  subject : String
  text : String
  html : String
  htmlComponents : HTML
  textTemplate : String
  htmlTemplate : String
  subjectTemplate : String
  kindDescription : String
  sourceDescription : String
  userGUID : String
  clientID : String
  messageID : String
  space : String
  spaceGUID : String
  organization : String
  organizationGUID : String
  unsubscribeID : String
  scope : String
  endorsement : String
  organizationRole : String
  deriving DecidableEq, Repr

def messageContext (delivery : Delivery) (sender : String)
    (templates : Templates) (unsubscribeID : String) : MessageContext :=
  let options := delivery.options
  { fromAddress := sender
    replyTo := options.replyTo
    toAddress := delivery.email
    subject := if options.subject = "" then "[no subject]" else options.subject
    text := options.text
    html := options.html.bodyContent
    htmlComponents := options.html
    textTemplate := templates.text
    htmlTemplate := templates.html
    subjectTemplate := templates.subject
    kindDescription :=
      if options.kindDescription = "" then options.kindID
      else options.kindDescription
    sourceDescription :=
      if options.sourceDescription = "" then delivery.clientID
      else options.sourceDescription
    userGUID := delivery.userGUID
    clientID := delivery.clientID
    messageID := delivery.messageID
    space := delivery.space.name
    spaceGUID := delivery.space.guid
    organization := delivery.organization.name
    organizationGUID := delivery.organization.guid
    unsubscribeID := unsubscribeID
    scope := delivery.scope
    endorsement := options.endorsement
    organizationRole := options.role }

def newMessageContext (delivery : Delivery) (sender key : String)
    (templates : Templates) : Prog MessageContext := do
  match ← Program.perform (Op.service (.veil key
      (delivery.userGUID ++ "|" ++ delivery.clientID ++ "|" ++
        delivery.options.kindID))) with
  | .error text => .panic text
  | .ok unsubscribeID =>
      pure (messageContext delivery sender templates unsubscribeID)

/-- One character of `html.EscapeString`. -/
def escapeChar : Char → String
  | '&' => "&amp;"
  | '\'' => "&#39;"
  | '<' => "&lt;"
  | '>' => "&gt;"
  | '"' => "&#34;"
  | char => char.toString

def escapeString (text : String) : String :=
  String.join (text.toList.map escapeChar)

def MessageContext.escape (context : MessageContext) : MessageContext :=
  { context with
    fromAddress := escapeString context.fromAddress
    toAddress := escapeString context.toAddress
    replyTo := escapeString context.replyTo
    subject := escapeString context.subject
    text := escapeString context.text
    kindDescription := escapeString context.kindDescription
    sourceDescription := escapeString context.sourceDescription
    clientID := escapeString context.clientID
    messageID := escapeString context.messageID
    space := escapeString context.space
    organization := escapeString context.organization
    endorsement := escapeString context.endorsement }

/-- `template.Parse`, and what `Execute` writes and fails with. -/
abbrev Engine : Type :=
  String → Except String (MessageContext → String × Option String)

/-- `strings.TrimSuffix(text, "\n")`. -/
def trimNewline (text : String) : String :=
  if text.toList.getLast? = some '\n' then
    String.ofList text.toList.dropLast
  else text

def htmlWrapperTemplate : String :=
  "\x7b\x7b.HTMLComponents.Doctype\x7d\x7d\n" ++
  "<head>\x7b\x7b.HTMLComponents.Head\x7d\x7d</head>\n" ++
  "<html>\n" ++
  "\t<body \x7b\x7b.HTMLComponents.BodyAttributes\x7d\x7d>\n" ++
  "\t\t\x7b\x7b.HTMLComponents.BodyContent\x7d\x7d\n" ++
  "\t</body>\n" ++
  "</html>"

namespace Packager

variable (engine : Engine)

def compileTemplate (context : MessageContext) (theTemplate : String)
    (escapeContext : Bool) : Except String String :=
  match engine theTemplate with
  | .error text => .error text
  | .ok source =>
      .ok (trimNewline
        (source (if escapeContext then context.escape else context)).1)

def compileText (context : MessageContext) :
    Except String (List Mail.Part) := do
  if context.text = "" then
    return []
  let plainText ← compileTemplate engine context context.textTemplate false
  return [⟨"text/plain", plainText⟩]

def compileHTML (context : MessageContext) :
    Except String (List Mail.Part) := do
  if context.html = "" then
    return []
  let bodyContent ← compileTemplate engine context context.htmlTemplate true
  let context := { context with
    htmlComponents := { context.htmlComponents with
      bodyContent := bodyContent } }
  let htmlPart ← compileTemplate engine context htmlWrapperTemplate true
  return [⟨"text/html", htmlPart⟩]

def compileParts (context : MessageContext) :
    Except String (List Mail.Part) := do
  let endorsement ← compileTemplate engine context context.endorsement false
  let context := { context with endorsement := endorsement }
  let text ← compileText engine context
  let html ← compileHTML engine context
  return text ++ html

def pack (context : MessageContext) : Except String Mail.Message := do
  let parts ← compileParts engine context
  let compiledSubject ←
    compileTemplate engine context context.subjectTemplate false
  return {
    fromAddress := context.fromAddress
    replyTo := context.replyTo
    toAddress := context.toAddress
    subject := compiledSubject
    body := parts
    headers := [
      "X-CF-Client-ID: " ++ context.clientID,
      "X-CF-Notification-ID: " ++ context.messageID] }

end Packager

end Notifications.Postal
