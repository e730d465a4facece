import Notifications.Lib.Lines
import Notifications.Mail.Message

/-!
# Messages as text

`Message.CompileBody` and `Message.Data`.  What `gomail` exports for the parts
of a message is a parameter; the header lines are written out by a template
that takes the message's fields as they are.
-/

set_option autoImplicit false

namespace Notifications.Mail

open Notifications.Lib

/-- The header values and the body of `gomail`'s `Export`. -/
structure Exported where
  date : String
  mimeVersion : String
  contentType : String
  contentTransferEncoding : String
  body : String
  deriving DecidableEq, Repr

def SingleLine (text : String) : Prop := '\n' ∉ text.toList

instance (text : String) : Decidable (SingleLine text) :=
  inferInstanceAs (Decidable ('\n' ∉ text.toList))

structure Exported.Single (exported : Exported) : Prop where
  date : SingleLine exported.date
  mimeVersion : SingleLine exported.mimeVersion
  contentType : SingleLine exported.contentType
  contentTransferEncoding : SingleLine exported.contentTransferEncoding

def replaceLineEnds : List Char → List Char
  | '\r' :: '\n' :: rest => '\n' :: replaceLineEnds rest
  | char :: rest => char :: replaceLineEnds rest
  | [] => []

namespace Message

variable (gomail : List Part → Exported) (message : Message)

/-- `strings.Replace(string(body), "\r\n", "\n", -1)`. -/
def compiledBody : String :=
  String.ofList (replaceLineEnds (gomail message.body).body.toList)

def data : String :=
  let exported := gomail message.body
  String.join (message.headers.map (· ++ "\n")) ++
    "Date: " ++ exported.date ++ "\n" ++
    "Mime-Version: " ++ exported.mimeVersion ++ "\n" ++
    "Content-Type: " ++ exported.contentType ++ "\n" ++
    (if exported.contentTransferEncoding = "" then ""
      else "Content-Transfer-Encoding: " ++
        exported.contentTransferEncoding ++ "\n") ++
    "From: " ++ message.fromAddress ++
    (if message.replyTo = "" then ""
      else "\n" ++ "Reply-To: " ++ message.replyTo) ++ "\n" ++
    "To: " ++ message.toAddress ++ "\n" ++
    "Subject: " ++ message.subject ++ "\n" ++ "\n" ++
    message.compiledBody gomail

/-- The headers that `Data` writes after the message's own, each as a label
and a value. -/
def fields : List (String × String) :=
  let exported := gomail message.body
  [("Date: ", exported.date), ("Mime-Version: ", exported.mimeVersion),
    ("Content-Type: ", exported.contentType)] ++
  (if exported.contentTransferEncoding = "" then []
    else [("Content-Transfer-Encoding: ",
      exported.contentTransferEncoding)]) ++
  [("From: ", message.fromAddress)] ++
  (if message.replyTo = "" then [] else [("Reply-To: ", message.replyTo)]) ++
  [("To: ", message.toAddress), ("Subject: ", message.subject)]

end Message

def headerLine (header : String × String) : List Char :=
  header.1.toList ++ header.2.toList

theorem Message.data_eq (gomail : List Part → Exported) (message : Message) :
    (message.data gomail).toList = sectioned '\n'
      (message.headers.map String.toList ++
        (message.fields gomail).map headerLine)
      (message.compiledBody gomail).toList := by
  have newline : "\n".toList = ['\n'] := rfl
  have empty : "".toList = [] := rfl
  unfold data fields sectioned
  dsimp only
  split <;> split <;>
    simp only [headerLine, String.toList_join, List.flatMap_map,
      List.flatMap_append, List.map_cons, List.map_nil,
      List.flatMap_cons, List.flatMap_nil, String.toList_append, newline,
      empty, List.append_assoc, List.nil_append, List.append_nil,
      List.cons_append]

namespace Message

variable (gomail : List Part → Exported) (message : Message)

/-- The labels are single lines, and none is empty. -/
theorem fields_labels : ∀ header ∈ message.fields gomail,
    SingleLine header.1 ∧ header.1 ≠ "" := by
  unfold fields
  dsimp only
  split <;> split <;>
    simp only [List.forall_mem_append, List.forall_mem_cons] <;>
    decide

/-- The values are those of `gomail` and four fields of the message. -/
theorem fields_values (single : (gomail message.body).Single) :
    (∀ header ∈ message.fields gomail, SingleLine header.2) ↔
      SingleLine message.fromAddress ∧ SingleLine message.replyTo ∧
        SingleLine message.toAddress ∧ SingleLine message.subject := by
  have empty : SingleLine "" := by decide
  unfold fields
  dsimp only
  split <;> split <;>
    simp_all [single.date, single.mimeVersion, single.contentType,
      single.contentTransferEncoding]

end Message

end Notifications.Mail
