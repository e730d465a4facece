import Mathlib.Data.List.Basic

/-!
# Base 64

Bytes written with an alphabet of 64 symbols: three bytes in four symbols, and
a last group of fewer filled up with padding.  The reader skips some symbols,
which stand for line ends, and takes a last group whose spare bits are set.
-/

set_option autoImplicit false

namespace Notifications.Lib.Base64

/-- An alphabet, with its padding and what the reader skips. -/
structure Encoding (σ : Type) where
  symbol : Nat → σ
  value : σ → Option Nat
  padding : σ
  skips : σ → Bool
  value_symbol : ∀ digit < 64, value (symbol digit) = some digit
  value_padding : value padding = none
  skips_symbol : ∀ digit < 64, skips (symbol digit) = false
  skips_padding : skips padding = false

namespace Encoding

variable {σ : Type} [DecidableEq σ] (encoding : Encoding σ)

omit [DecidableEq σ] in
theorem symbol_ne_padding {digit : Nat} (small : digit < 64) :
    encoding.symbol digit ≠ encoding.padding := by
  intro same
  have value := encoding.value_symbol digit small
  rw [same, encoding.value_padding] at value
  cases value

/-- `Encoding.Encode`. -/
def encode : List UInt8 → List σ
  | [] => []
  | [a] =>
      [encoding.symbol (a.toNat / 4), encoding.symbol (a.toNat % 4 * 16),
        encoding.padding, encoding.padding]
  | [a, b] =>
      [encoding.symbol (a.toNat / 4),
        encoding.symbol (a.toNat % 4 * 16 + b.toNat / 16),
        encoding.symbol (b.toNat % 16 * 4), encoding.padding]
  | a :: b :: c :: rest =>
      encoding.symbol (a.toNat / 4) ::
        encoding.symbol (a.toNat % 4 * 16 + b.toNat / 16) ::
        encoding.symbol (b.toNat % 16 * 4 + c.toNat / 64) ::
        encoding.symbol (c.toNat % 64) :: encode rest

/-- Four symbols make three bytes; the last four may end in padding. -/
def decodeQuanta : List σ → Option (List UInt8)
  | [] => some []
  | a :: b :: c :: d :: rest => do
      let first ← encoding.value a
      let second ← encoding.value b
      let byte := UInt8.ofNat (first * 4 + second / 16)
      if d = encoding.padding then
        if rest ≠ [] then
          none
        else if c = encoding.padding then
          some [byte]
        else do
          let third ← encoding.value c
          some [byte, UInt8.ofNat (second % 16 * 16 + third / 4)]
      else do
        let third ← encoding.value c
        let fourth ← encoding.value d
        let later ← decodeQuanta rest
        some (byte :: UInt8.ofNat (second % 16 * 16 + third / 4) ::
          UInt8.ofNat (third % 4 * 64 + fourth) :: later)
  | _ => none

/-- `Encoding.Decode`. -/
def decode (symbols : List σ) : Option (List UInt8) :=
  encoding.decodeQuanta (symbols.filter fun symbol => !encoding.skips symbol)

/-! ## Round trip -/

omit [DecidableEq σ] in
/-- What holds of the alphabet and of the padding holds of all that is
written. -/
theorem forall_mem_encode (holds : σ → Prop)
    (symbols : ∀ digit < 64, holds (encoding.symbol digit))
    (padding : holds encoding.padding) (bytes : List UInt8) :
    ∀ symbol ∈ encoding.encode bytes, holds symbol := by
  induction bytes using encode.induct with
  | case1 => simp [encode]
  | case2 a =>
      have small := a.toNat_lt
      simp only [encode, List.forall_mem_cons]
      exact ⟨symbols _ (by omega), symbols _ (by omega), padding, padding,
        by simp⟩
  | case3 a b =>
      have small := a.toNat_lt
      have low := b.toNat_lt
      simp only [encode, List.forall_mem_cons]
      exact ⟨symbols _ (by omega), symbols _ (by omega), symbols _ (by omega),
        padding, by simp⟩
  | case4 a b c rest ih =>
      have small := a.toNat_lt
      have low := b.toNat_lt
      have last := c.toNat_lt
      simp only [encode, List.forall_mem_cons]
      exact ⟨symbols _ (by omega), symbols _ (by omega), symbols _ (by omega),
        symbols _ (by omega), ih⟩

omit [DecidableEq σ] in
/-- A writer puts down nothing that the reader skips. -/
theorem filter_encode (bytes : List UInt8) :
    (encoding.encode bytes).filter (fun symbol => !encoding.skips symbol) =
      encoding.encode bytes := by
  rw [List.filter_eq_self]
  intro symbol member
  have read := encoding.forall_mem_encode
    (fun symbol => encoding.skips symbol = false) encoding.skips_symbol
    encoding.skips_padding bytes symbol member
  rw [read, Bool.not_false]

theorem ofNat_of_eq (byte : UInt8) {number : Nat}
    (same : number = byte.toNat) : UInt8.ofNat number = byte := by
  rw [same, UInt8.ofNat_toNat]

theorem decodeQuanta_encode (bytes : List UInt8) :
    encoding.decodeQuanta (encoding.encode bytes) = some bytes := by
  induction bytes using encode.induct with
  | case1 => simp [encode, decodeQuanta]
  | case2 a =>
      have small := a.toNat_lt
      simp only [encode, decodeQuanta]
      rw [encoding.value_symbol _ (by omega),
        encoding.value_symbol _ (by omega)]
      simp only [Option.bind_eq_bind, Option.bind_some, if_true, ne_eq,
        not_true_eq_false, if_false]
      rw [ofNat_of_eq a (by omega)]
  | case3 a b =>
      have small := a.toNat_lt
      have low := b.toNat_lt
      simp only [encode, decodeQuanta]
      rw [encoding.value_symbol _ (by omega),
        encoding.value_symbol _ (by omega), encoding.value_symbol _ (by omega)]
      simp only [Option.bind_eq_bind, Option.bind_some, if_true, ne_eq,
        not_true_eq_false, if_false]
      rw [if_neg (encoding.symbol_ne_padding (by omega)),
        ofNat_of_eq a (by omega), ofNat_of_eq b (by omega)]
  | case4 a b c rest ih =>
      have small := a.toNat_lt
      have low := b.toNat_lt
      have last := c.toNat_lt
      simp only [encode, decodeQuanta]
      rw [encoding.value_symbol _ (by omega),
        encoding.value_symbol _ (by omega), encoding.value_symbol _ (by omega),
        encoding.value_symbol _ (by omega)]
      simp only [Option.bind_eq_bind, Option.bind_some, ih]
      rw [if_neg (encoding.symbol_ne_padding (by omega)),
        ofNat_of_eq a (by omega), ofNat_of_eq b (by omega),
        ofNat_of_eq c (by omega)]

@[simp] theorem decode_encode (bytes : List UInt8) :
    encoding.decode (encoding.encode bytes) = some bytes := by
  rw [decode, encoding.filter_encode, encoding.decodeQuanta_encode]

end Encoding

end Notifications.Lib.Base64
