import Notifications.Lib.Fmt
import Notifications.Mail.Client
import Notifications.Mail.Data

/-!
# What `Data` writes

`Client.Data` gives the text of a message to `Fprintf` as a format, with every
percent sign doubled.  The texts are bytes here, because the formatter reads
bytes.
-/

set_option autoImplicit false

namespace Notifications.Mail

open Notifications.Lib

def Message.bytes (gomail : List Part → Exported) (message : Message) :
    List UInt8 :=
  Bytes.utf8 (message.data gomail)

namespace Client

/-- `fmt.Fprintf(wc, strings.Replace(data, "%", "%%", -1))`. -/
def formatted (data : List UInt8) : List UInt8 :=
  Fmt.fprintf (Bytes.replace data (Bytes.utf8 "%") (Bytes.utf8 "%%"))

/-- What a call hands to the writer that the server's `Data` returned. -/
def handed (gomail : List Part → Exported) : Call → Option (List UInt8)
  | .method (.write message) => some (formatted (message.bytes gomail))
  | _ => none

section Data

variable {State : Type}
  (handle : State → (call : Call) → call.Answer × State)

/-- All that `Data` hands to the writer, in any run. -/
def dataHands (gomail : List Part → Exported) (message : Message)
    (state : State) : List (List UInt8) :=
  ((data message).trace handle state).filterMap fun call =>
    handed gomail call.2

def writerGiven (state : State) : Bool :=
  match (handle state (.method .data)).1 with
  | .ok _ => true
  | .failed _ => false
  | .nilPointer => false

theorem formatted_eq (data : List UInt8) : formatted data = data := by
  have one : Bytes.utf8 "%" = [Fmt.percent] := by decide
  have two : Bytes.utf8 "%%" = [Fmt.percent, Fmt.percent] := by decide
  rw [formatted, one, two]
  exact Fmt.fprintf_replace data

theorem trace_method (only : Method) (state : State) :
    (method only).trace handle state = [(state, Call.method only)] := by
  unfold method
  simp only [Program.perform_bind, Program.trace]
  cases (handle state (.method only)).1 with
  | ok _ => rfl
  | failed text => rfl
  | nilPointer => rfl

theorem trace_method_bind {α : Type} (first : Method)
    (rest : Except String Unit → Session α) (state : State) :
    (method first >>= rest).trace handle state =
      (state, Call.method first) ::
        match (handle state (.method first)).1 with
        | .ok _ => (rest (.ok ())).trace handle
            (handle state (.method first)).2
        | .failed text => (rest (.error text)).trace handle
            (handle state (.method first)).2
        | .nilPointer => [] := by
  unfold method
  simp only [Program.perform_bind, Program.call_bind, Program.trace]
  cases (handle state (.method first)).1 with
  | ok _ => rfl
  | failed text => rfl
  | nilPointer => rfl

theorem dataHands_eq (gomail : List Part → Exported) (message : Message)
    (state : State) :
    dataHands handle gomail message state =
      if writerGiven handle state then [formatted (message.bytes gomail)]
      else [] := by
  unfold dataHands writerGiven data
  rw [trace_method_bind]
  cases (handle state (.method .data)).1 with
  | failed text => rfl
  | nilPointer => rfl
  | ok _ =>
      dsimp only
      rw [trace_method_bind]
      cases (handle (handle state (.method .data)).2
          (.method (.write message))).1 with
      | failed text => rfl
      | nilPointer => rfl
      | ok _ =>
          dsimp only
          rw [trace_method]
          rfl

end Data

/-- The formatter leaves every text as it is, so `Data` hands the writer the
message's text and nothing else. -/
theorem data_hands_text (gomail : List Part → Exported) :
    (∀ text, formatted text = text) ∧
    ∀ (State : Type) (handle : State → (call : Call) → call.Answer × State)
      (message : Message) (state : State),
      dataHands handle gomail message state =
        if writerGiven handle state then [message.bytes gomail] else [] := by
  refine ⟨formatted_eq, ?_⟩
  intro State handle message state
  rw [dataHands_eq, formatted_eq]

end Client

end Notifications.Mail
