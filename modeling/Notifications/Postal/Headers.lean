import Notifications.Mail.Data
import Notifications.Postal.Rendering

/-!
# Which values stay in their header line

`Data` writes the fields of a packed message into its header lines as they
are.  The text falls apart into these lines and the body exactly when none of
the six fields that come from requests and configuration holds a line end; one
that does adds lines of its own.
-/

set_option autoImplicit false

namespace Notifications.Postal

open Notifications.Lib Notifications.Mail

/-- The headers of a packed message, each as a label and a value. -/
def headers (gomail : List Part → Exported) (delivery : Delivery)
    (message : Mail.Message) : List (String × String) :=
  ("X-CF-Client-ID: ", delivery.clientID) ::
    ("X-CF-Notification-ID: ", delivery.messageID) :: message.fields gomail

/-- Their names; two of the headers are optional. -/
def headerNames (encoded replied : Bool) : List String :=
  ["X-CF-Client-ID", "X-CF-Notification-ID", "Date", "Mime-Version",
    "Content-Type"] ++
  (if encoded then ["Content-Transfer-Encoding"] else []) ++ ["From"] ++
  (if replied then ["Reply-To"] else []) ++ ["To", "Subject"]

def headerName (line : List Char) : List Char :=
  line.takeWhile (· ≠ ':')

/-- The text of the message falls apart into its headers and its body. -/
structure HeadersKept (gomail : List Part → Exported) (delivery : Delivery)
    (message : Mail.Message) : Prop where
  lines : headLines '\n' (message.data gomail).toList =
    (headers gomail delivery message).map headerLine
  rest : afterLines '\n' (message.data gomail).toList =
    (message.compiledBody gomail).toList
  names : (headLines '\n' (message.data gomail).toList).map headerName =
    (headerNames
      (decide ((gomail message.body).contentTransferEncoding ≠ ""))
      (decide (message.replyTo ≠ ""))).map String.toList

theorem headerName_headerLine {name label : String} (value : String)
    (labelled : label.toList = name.toList ++ [':', ' '] ∧
      ':' ∉ name.toList) :
    headerName (headerLine (label, value)) = name.toList := by
  have plain : ∀ char ∈ name.toList, decide (char ≠ ':') = true := by
    intro char member
    exact decide_eq_true fun same => labelled.2 (same ▸ member)
  rw [headerName, headerLine, labelled.1, List.append_assoc,
    List.takeWhile_append_of_pos plain]
  simp

theorem headers_names (gomail : List Part → Exported) (delivery : Delivery)
    (message : Mail.Message) :
    ((headers gomail delivery message).map headerLine).map headerName =
      (headerNames
        (decide ((gomail message.body).contentTransferEncoding ≠ ""))
        (decide (message.replyTo ≠ ""))).map String.toList := by
  have named (name label : String)
      (labelled : label.toList = name.toList ++ [':', ' '] ∧
        ':' ∉ name.toList) (value : String) :
      headerName (headerLine (label, value)) = name.toList :=
    headerName_headerLine value labelled
  have clientID := named "X-CF-Client-ID" "X-CF-Client-ID: " (by decide)
  have messageID := named "X-CF-Notification-ID" "X-CF-Notification-ID: "
    (by decide)
  have date := named "Date" "Date: " (by decide)
  have mimeVersion := named "Mime-Version" "Mime-Version: " (by decide)
  have contentType := named "Content-Type" "Content-Type: " (by decide)
  have encoding := named "Content-Transfer-Encoding"
    "Content-Transfer-Encoding: " (by decide)
  have sender := named "From" "From: " (by decide)
  have replyTo := named "Reply-To" "Reply-To: " (by decide)
  have recipient := named "To" "To: " (by decide)
  have subject := named "Subject" "Subject: " (by decide)
  unfold headers Mail.Message.fields headerNames
  by_cases encoded : (gomail message.body).contentTransferEncoding = "" <;>
    by_cases replied : message.replyTo = "" <;>
    simp only [encoded, replied, if_true, if_false, ne_eq, not_true,
      not_false_eq_true, decide_true, decide_false, Bool.false_eq_true,
      List.map_cons, List.map_nil, clientID, messageID,
      date, mimeVersion, contentType, encoding, sender, replyTo, recipient,
      subject, List.cons_append, List.nil_append, List.append_nil]

theorem headers_labels (gomail : List Part → Exported) (delivery : Delivery)
    (message : Mail.Message) : ∀ header ∈ headers gomail delivery message,
      SingleLine header.1 ∧ header.1 ≠ "" := by
  intro header member
  rcases List.mem_cons.mp member with rfl | member
  · dsimp only
    decide
  · rcases List.mem_cons.mp member with rfl | member
    · dsimp only
      decide
    · exact message.fields_labels gomail header member

theorem single_headerLine {label : String} (labelled : SingleLine label)
    (value : String) :
    '\n' ∉ headerLine (label, value) ↔ SingleLine value := by
  unfold SingleLine at labelled
  simp [headerLine, labelled, SingleLine]

/-- A message made for a delivery is its headers, an empty line and its
body. -/
theorem data_sectioned {engine : Engine} (gomail : List Part → Exported)
    {delivery : Delivery} {sender unsubscribeID : String}
    {templates : Templates} {message : Mail.Message}
    (packed : Packager.pack engine (messageContext delivery sender templates
      unsubscribeID) = .ok message) :
    (message.data gomail).toList = sectioned '\n'
      ((headers gomail delivery message).map headerLine)
      (message.compiledBody gomail).toList := by
  have own : message.headers = ["X-CF-Client-ID: " ++ delivery.clientID,
      "X-CF-Notification-ID: " ++ delivery.messageID] := by
    obtain ⟨_, rfl⟩ := (Packager.pack_ok _).mp packed
    rfl
  rw [Mail.Message.data_eq, own]
  simp only [headers, headerLine, List.map_cons, List.map_nil,
    String.toList_append, List.cons_append, List.nil_append]

/-- The header block and the body of a packed message are kept apart exactly
when every header is a single line. -/
theorem kept_iff_single {engine : Engine} (gomail : List Part → Exported)
    {delivery : Delivery} {sender unsubscribeID : String}
    {templates : Templates} {message : Mail.Message}
    (packed : Packager.pack engine (messageContext delivery sender templates
      unsubscribeID) = .ok message) :
    HeadersKept gomail delivery message ↔
      ∀ header ∈ headers gomail delivery message, SingleLine header.2 := by
  have labels := headers_labels gomail delivery message
  have filled : ∀ line ∈ (headers gomail delivery message).map headerLine,
      line ≠ [] := by
    intro line member empty
    obtain ⟨header, listed, rfl⟩ := List.mem_map.mp member
    have label : header.1.toList = [] := (List.append_eq_nil_iff.mp empty).1
    exact (labels header listed).2 (String.toList_eq_nil_iff.mp label)
  have lines : HeadersKept gomail delivery message ↔
      ∀ line ∈ (headers gomail delivery message).map headerLine,
        '\n' ∉ line := by
    rw [← sectioned_iff filled, ← data_sectioned gomail packed]
    constructor
    · intro kept
      exact ⟨kept.lines, kept.rest⟩
    · intro facts
      obtain ⟨lines, rest⟩ := facts
      exact ⟨lines, rest, by rw [lines, headers_names]⟩
  rw [lines, List.forall_mem_map]
  apply forall₂_congr
  intro facts member
  obtain ⟨label, value⟩ := facts
  exact single_headerLine (labels _ member).1 value

/-- A value with a line end adds lines to the headers; six values could. -/
theorem headers_kept_iff (engine : Engine) (gomail : List Part → Exported)
    (delivery : Delivery) (sender unsubscribeID : String)
    (templates : Templates) (message : Mail.Message)
    (packed : Packager.pack engine (messageContext delivery sender templates
      unsubscribeID) = .ok message)
    (single : (gomail message.body).Single) :
    HeadersKept gomail delivery message ↔
      SingleLine delivery.clientID ∧ SingleLine delivery.messageID ∧
        SingleLine sender ∧ SingleLine delivery.options.replyTo ∧
        SingleLine delivery.email ∧
        SingleLine (engine.written templates.subject
          (messageContext delivery sender templates unsubscribeID)) := by
  obtain ⟨_, same⟩ := (Packager.pack_ok _).mp packed
  rw [kept_iff_single gomail packed]
  simp only [headers, List.forall_mem_cons,
    message.fields_values gomail single]
  rw [← same]
  rfl

/-- Writes the subject for the template that names it, and other templates as
they are. -/
def subjectEngine : Engine := fun template =>
  .ok fun context =>
    if template = "\x7b\x7b.Subject\x7d\x7d" then (context.subject, none)
    else (template, none)

def plainExport : List Part → Exported
  | [part] => ⟨"02 Jan 06 15:04 +0000", "1.0",
      part.contentType ++ "; charset=UTF-8", "quoted-printable",
      part.content⟩
  | _ => ⟨"02 Jan 06 15:04 +0000", "1.0", "", "", ""⟩

def letter (subject : String) : Delivery :=
  { sampleDelivery with
    options := { sampleOptions with subject := subject, text := "text" } }

def letterTemplates : Templates :=
  ⟨"\x7b\x7b.Subject\x7d\x7d", "text", "html"⟩

def letterContext (subject : String) : MessageContext :=
  messageContext (letter subject) "sender@example.com" letterTemplates
    "unsubscribe"

theorem letter_packed (subject : String) :
    Packager.pack subjectEngine (letterContext subject) =
      .ok (Packager.packed subjectEngine (letterContext subject)) := rfl

theorem headers_kept_letter :
    HeadersKept plainExport (letter "Hello")
      (Packager.packed subjectEngine (letterContext "Hello")) := by
  refine (headers_kept_iff subjectEngine plainExport _ "sender@example.com"
    "unsubscribe" letterTemplates _ (letter_packed _) ?_).mpr ?_
  · constructor <;> decide
  · decide

theorem subject_adds_header :
    ¬ HeadersKept plainExport (letter "Hello\nBcc: all@example.com")
      (Packager.packed subjectEngine
        (letterContext "Hello\nBcc: all@example.com")) := by
  intro kept
  have single := (kept_iff_single plainExport (letter_packed _)).mp kept
    ("Subject: ", "Hello\nBcc: all@example.com") (by decide)
  exact absurd single (by decide)

end Notifications.Postal
