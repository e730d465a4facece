import Mathlib.Data.List.Basic

/-!
# Cipher feedback

A block cipher in CFB mode, one byte after the other.  The key stream comes
from the block that was written last, so both sides have to be fed with the
cipher text: the one that encrypts with what it makes, the one that decrypts
with what it is given.
-/

set_option autoImplicit false

namespace Notifications.Lib.Cfb

/-- `cipher.Block`, as far as the mode uses it. -/
structure Block where
  encrypt : List UInt8 → List UInt8

/-- `cipher.cfb`; the key stream is used up when `outUsed` is its length. -/
structure Stream where
  next : List UInt8
  out : List UInt8
  outUsed : Nat

/-- `newCFB`. -/
def Stream.start (initializationVector : List UInt8) : Stream where
  next := initializationVector
  out := List.replicate initializationVector.length 0
  outUsed := initializationVector.length

namespace Stream

variable (block : Block)

def filled (stream : Stream) : Stream :=
  if stream.outUsed = stream.out.length then
    { stream with out := block.encrypt stream.next, outUsed := 0 }
  else
    stream

def key (stream : Stream) : UInt8 := stream.out.getD stream.outUsed 0

/-- A byte of the cipher text takes its place in the next block. -/
def fed (stream : Stream) (byte : UInt8) : Stream :=
  { stream with
    next := stream.next.set stream.outUsed byte
    outUsed := stream.outUsed + 1 }

def xorKeyStream (decrypt : Bool) : Stream → List UInt8 → List UInt8
  | _, [] => []
  | stream, byte :: rest =>
      let stream := stream.filled block
      let made := byte ^^^ stream.key
      made :: xorKeyStream decrypt
        (stream.fed (if decrypt then byte else made)) rest

theorem xor_xor (byte key : UInt8) : byte ^^^ key ^^^ key = byte := by
  rw [UInt8.xor_assoc, UInt8.xor_self, UInt8.xor_zero]

/-- From any state that both sides share: what was encrypted is decrypted. -/
theorem decrypt_encrypt (stream : Stream) (bytes : List UInt8) :
    stream.xorKeyStream block true (stream.xorKeyStream block false bytes) =
      bytes := by
  induction bytes generalizing stream with
  | nil => rfl
  | cons byte rest ih =>
      simp only [xorKeyStream, Bool.false_eq_true, if_false, if_true]
      rw [xor_xor, ih]

end Stream

end Notifications.Lib.Cfb
