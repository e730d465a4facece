import Notifications.Lib.Base64
import Notifications.Lib.Cfb
import Notifications.Lib.Fmt
import Notifications.Postal.Packager

/-!
# Unsubscribe tokens

`conceal.Cloak`, and what `NewMessageContext` veils with it.  The hash, the
block cipher and the random numbers are parameters.  The position in the error
of a text that is not base 64 is left out.
-/

set_option autoImplicit false

namespace Notifications.Postal

open Notifications.Lib Notifications.Lib.Base64

/-! ## The alphabets -/

/-- The bytes of the alphabet, after the letters and digits. -/
def alphabet (last : String) : List UInt8 :=
  Bytes.utf8 ("ABCDEFGHIJKLMNOPQRSTUVWXYZabcdefghijklmnopqrstuvwxyz0123456789"
    ++ last)

/-- `base64.StdEncoding`. -/
def stdEncoding : Encoding UInt8 where
  symbol digit := (alphabet "+/").getD digit 0
  value byte := (alphabet "+/").idxOf? byte
  padding := 0x3D
  skips byte := byte == 0x0A || byte == 0x0D
  value_symbol := by decide +kernel
  value_padding := by decide +kernel
  skips_symbol := by decide +kernel
  skips_padding := by decide +kernel

/-- `base64.URLEncoding`. -/
def urlEncoding : Encoding UInt8 where
  symbol digit := (alphabet "-_").getD digit 0
  value byte := (alphabet "-_").idxOf? byte
  padding := 0x3D
  skips byte := byte == 0x0A || byte == 0x0D
  value_symbol := by decide +kernel
  value_padding := by decide +kernel
  skips_symbol := by decide +kernel
  skips_padding := by decide +kernel

/-! ## The cloak -/

/-- `crypto/md5` and `crypto/aes`. -/
structure Crypto where
  sum : List UInt8 → Vector UInt8 16
  newCipher : List UInt8 → Except String Cfb.Block

structure Cloak where
  cipherBlock : Cfb.Block

namespace Cloak

/-- `aes.BlockSize`. -/
def blockSize : Nat := 16

def resizeKey (crypto : Crypto) (key : List UInt8) : List UInt8 :=
  (crypto.sum key).toList

def newCloak (crypto : Crypto) (key : List UInt8) : Except String Cloak :=
  (crypto.newCipher (resizeKey crypto key)).map Cloak.mk

variable (cloak : Cloak)

/-- `Veil`, with what `rand.Read` returns and leaves in the first block. -/
def veil (random : Except String (Vector UInt8 16)) (data : List UInt8) :
    Except String (List UInt8) :=
  let encodedData := stdEncoding.encode data
  match random with
  | .error text => .error text
  | .ok initializationVector =>
      let cipherText := initializationVector.toList ++
        (Cfb.Stream.start initializationVector.toList).xorKeyStream
          cloak.cipherBlock false encodedData
      .ok (urlEncoding.encode cipherText)

def unveil (data : List UInt8) : Except String (List UInt8) :=
  match urlEncoding.decode data with
  | none => .error "illegal base64 data"
  | some decodedData =>
      if decodedData.length < blockSize then
        .error "Data length should be at least 16 bytes"
      else
        let initializationVector := decodedData.take blockSize
        let decodedData :=
          (Cfb.Stream.start initializationVector).xorKeyStream
            cloak.cipherBlock true (decodedData.drop blockSize)
        match stdEncoding.decode decodedData with
        | none => .error "illegal base64 data"
        | some decoded => .ok decoded

/-- Whatever the random numbers are, the data comes back. -/
theorem unveil_veil {random : Except String (Vector UInt8 16)}
    {data veiled : List UInt8} (made : cloak.veil random data = .ok veiled) :
    cloak.unveil veiled = .ok data := by
  cases random with
  | error text => cases made
  | ok initializationVector =>
      cases made
      have size : initializationVector.toList.length = blockSize := by
        simp [blockSize]
      rw [unveil, Encoding.decode_encode]
      have long : ¬ (initializationVector.toList ++
          (Cfb.Stream.start initializationVector.toList).xorKeyStream
            cloak.cipherBlock false (stdEncoding.encode data)).length <
              blockSize := by
        rw [List.length_append, size]
        omega
      simp only [if_neg long]
      rw [← size, List.take_left, List.drop_left,
        Cfb.Stream.decrypt_encrypt, Encoding.decode_encode]

end Cloak

/-! ## The token of a message -/

/-- `string(bytes)`, for bytes of ASCII. -/
def ofASCII (bytes : List UInt8) : String :=
  String.ofList (bytes.map fun byte => Char.ofNat byte.toNat)

theorem utf8EncodeChar_ofNat : ∀ number < 128,
    String.utf8EncodeChar (Char.ofNat number) = [UInt8.ofNat number] := by
  decide +kernel

theorem utf8_ofASCII {bytes : List UInt8}
    (ascii : ∀ byte ∈ bytes, byte.toNat < 128) :
    Bytes.utf8 (ofASCII bytes) = bytes := by
  rw [Bytes.utf8, ofASCII, String.toList_ofList]
  induction bytes with
  | nil => rfl
  | cons byte rest ih =>
      rw [List.forall_mem_cons] at ascii
      rw [List.map_cons, List.flatMap_cons, ih ascii.2,
        utf8EncodeChar_ofNat _ ascii.1, UInt8.ofNat_toNat, List.singleton_append]

/-- The services of a worker that makes its own cloak. -/
def cloaked (crypto : Crypto)
    (random : Nat → Except String (Vector UInt8 16)) (number : Nat) :
    (service : Service) → service.Reply → service.Reply
  | .newCloak key, _ =>
      (Cloak.newCloak crypto (Bytes.utf8 key)).map fun _ => ()
  | .veil key data, _ =>
      (Cloak.newCloak crypto (Bytes.utf8 key)).bind fun cloak =>
        (cloak.veil (random number) (Bytes.utf8 data)).map ofASCII
  | _, other => other

theorem utf8_veil {cloak : Cloak} {random : Except String (Vector UInt8 16)}
    {data veiled : List UInt8} (made : cloak.veil random data = .ok veiled) :
    Bytes.utf8 (ofASCII veiled) = veiled := by
  cases random with
  | error text => cases made
  | ok initializationVector =>
      cases made
      have symbols : ∀ digit < 64, (urlEncoding.symbol digit).toNat < 128 := by
        decide +kernel
      have padding : urlEncoding.padding.toNat < 128 := by decide
      exact utf8_ofASCII (urlEncoding.forall_mem_encode
        (fun byte => byte.toNat < 128) symbols padding _)

def Delivery.unsubscription (delivery : Delivery) : String :=
  delivery.userGUID ++ "|" ++ delivery.clientID ++ "|" ++
    delivery.options.kindID

/-- The bars are found again if nothing else is one. -/
theorem split_unsubscription (delivery : Delivery) :
    split delivery.unsubscription '|' =
        [delivery.userGUID, delivery.clientID, delivery.options.kindID] ↔
      '|' ∉ delivery.userGUID.toList ∧ '|' ∉ delivery.clientID.toList ∧
        '|' ∉ delivery.options.kindID.toList := by
  have text : delivery.unsubscription.toList = delivery.userGUID.toList ++
      '|' :: (delivery.clientID.toList ++
        '|' :: delivery.options.kindID.toList) := by
    simp [Delivery.unsubscription]
  rw [split, text]
  constructor
  · intro parts
    have count := congrArg List.length parts
    rw [List.length_map, length_splitList, List.count_append,
      List.count_cons_self, List.count_append, List.count_cons_self] at count
    simp only [← List.count_eq_zero]
    simp only [List.length_cons, List.length_nil] at count
    omega
  · rintro ⟨user, client, kind⟩
    rw [splitList_append user, splitList_append client,
      splitList_of_notMem kind]
    simp

end Notifications.Postal

namespace Notifications

open Notifications.Lib

/-- The environment with these functions, where a call of `rand.Read` has the
number of the call of the service. -/
def Environment.withCloak (environment : Environment) (crypto : Postal.Crypto)
    (random : Nat → Except String (Vector UInt8 16)) : Environment :=
  { environment with
    serve := fun number service =>
      Postal.cloaked crypto random number service
        (environment.serve number service) }

namespace Postal

/-- A message's token is unveiled with the service's key, and split where its
bars are it gives the user, the client and the kind back exactly if there is no
bar in one of them.  There is no message without a cipher or random numbers. -/
theorem unsubscribeID_unveils [Models.Collation] (environment : Environment)
    (crypto : Crypto)
    (random : Nat → Except String (Vector UInt8 16)) (delivery : Delivery)
    (sender key : String) (templates : Templates) (world : World) :
    match ((newMessageContext delivery sender key templates).run
        (World.handle (environment.withCloak crypto random)) world).1 with
    | some context =>
        ∃ cloak, Cloak.newCloak crypto (Bytes.utf8 key) = .ok cloak ∧
          cloak.unveil (Bytes.utf8 context.unsubscribeID) =
            .ok (Bytes.utf8 delivery.unsubscription) ∧
          (split delivery.unsubscription '|' =
              [delivery.userGUID, delivery.clientID, delivery.options.kindID] ↔
            '|' ∉ delivery.userGUID.toList ∧ '|' ∉ delivery.clientID.toList ∧
              '|' ∉ delivery.options.kindID.toList)
    | none =>
        (∃ text, Cloak.newCloak crypto (Bytes.utf8 key) = .error text) ∨
          ∃ text, random world.services = .error text := by
  rw [newMessageContext, Program.perform_bind, Program.run_call]
  simp only [World.handle, Environment.withCloak, cloaked]
  cases made : Cloak.newCloak crypto (Bytes.utf8 key) with
  | error text => exact .inl ⟨text, rfl⟩
  | ok cloak =>
      cases drawn : random world.services with
      | error text =>
          rw [Except.bind, Cloak.veil]
          exact .inr ⟨text, rfl⟩
      | ok initializationVector =>
          have made : cloak.veil (.ok initializationVector)
              (Bytes.utf8 delivery.unsubscription) = .ok _ := rfl
          have unveiled := cloak.unveil_veil made
          rw [← utf8_veil made] at unveiled
          exact ⟨cloak, rfl, unveiled, split_unsubscription delivery⟩

end Postal

end Notifications
