import Mathlib.Data.List.Basic

/-!
# Escaping in URLs

The texts that `net/url` writes: a character is kept, or each of its bytes is
written as a percent sign and two digits.
-/

set_option autoImplicit false

namespace Notifications.Lib

def hexDigit (value : Nat) : Char :=
  "0123456789ABCDEF".toList.getD value '0'

def percent (byte : UInt8) : List Char :=
  ['%', hexDigit (byte.toNat / 16), hexDigit (byte.toNat % 16)]

def unreserved (char : Char) : Bool :=
  char.isAlphanum || char ∈ ['-', '_', '.', '~']

section Escape

variable (keeps : Char → Bool)

def escapeChar (char : Char) : List Char :=
  if keeps char then [char]
  else (String.utf8EncodeChar char).flatMap percent

def escape (text : List Char) : List Char := text.flatMap (escapeChar keeps)

variable {keeps}

theorem escape_cons (char : Char) (rest : List Char) :
    escape keeps (char :: rest) = escapeChar keeps char ++ escape keeps rest :=
  List.flatMap_cons

theorem escape_append (text rest : List Char) :
    escape keeps (text ++ rest) = escape keeps text ++ escape keeps rest :=
  List.flatMap_append

theorem escapeChar_kept {char : Char} (kept : keeps char = true) :
    escapeChar keeps char = [char] := if_pos kept

theorem escapeChar_length {char : Char} (escaped : keeps char = false) :
    3 ≤ (escapeChar keeps char).length := by
  rw [escapeChar, if_neg (by simp [escaped])]
  have bytes : 0 < (String.utf8EncodeChar char).length := by
    rw [String.length_utf8EncodeChar]
    exact char.utf8Size_pos
  cases encoded : String.utf8EncodeChar char with
  | nil =>
      rw [encoded] at bytes
      exact absurd bytes (by simp)
  | cons byte rest => simp [percent]

theorem length_le_escape (text : List Char) :
    text.length ≤ (escape keeps text).length := by
  induction text with
  | nil => exact Nat.le_refl 0
  | cons char rest ih =>
      rw [escape_cons, List.length_append, List.length_cons]
      cases kept : keeps char with
      | true =>
          rw [escapeChar_kept kept, List.length_singleton]
          omega
      | false =>
          have long := escapeChar_length kept
          omega

theorem escape_eq_iff {text : List Char} :
    escape keeps text = text ↔ ∀ char ∈ text, keeps char = true := by
  induction text with
  | nil => simp [escape]
  | cons char rest ih =>
      rw [escape_cons]
      cases kept : keeps char with
      | true =>
          rw [escapeChar_kept kept, List.singleton_append]
          simp [ih, kept]
      | false =>
          have long := escapeChar_length kept
          have more := @length_le_escape keeps rest
          constructor
          · intro same
            have lengths := congrArg List.length same
            rw [List.length_append, List.length_cons] at lengths
            omega
          · intro all
            have other := all char (.head _)
            rw [kept] at other
            cases other

/-- Only a kept character is written without a percent sign before it. -/
theorem not_mem_escape {text : List Char} {char : Char}
    (absent : char ∉ text) (special : char ≠ '%')
    (digit : char ∉ "0123456789ABCDEF".toList) :
    char ∉ escape keeps text := by
  intro member
  obtain ⟨other, listed, inside⟩ := List.mem_flatMap.mp member
  cases kept : keeps other with
  | true =>
      rw [escapeChar_kept kept, List.mem_singleton] at inside
      exact absent (inside ▸ listed)
  | false =>
      rw [escapeChar, if_neg (by simp [kept])] at inside
      obtain ⟨byte, _, written⟩ := List.mem_flatMap.mp inside
      have digits : ∀ value, char ≠ hexDigit value := by
        intro value same
        rw [hexDigit, List.getD_eq_getElem?_getD] at same
        cases found : "0123456789ABCDEF".toList[value]? with
        | none =>
            rw [found] at same
            apply digit
            rw [same]
            decide
        | some read =>
            rw [found] at same
            apply digit
            rw [same]
            exact List.mem_of_getElem? found
      simp only [percent, List.mem_cons, List.not_mem_nil, or_false] at written
      rcases written with same | same | same
      · exact special same
      · exact digits _ same
      · exact digits _ same

end Escape

/-- `url.QueryEscape`. -/
def queryEscape (text : List Char) : List Char :=
  text.flatMap fun char =>
    if char = ' ' then ['+'] else escapeChar unreserved char

theorem queryEscape_append (text rest : List Char) :
    queryEscape (text ++ rest) = queryEscape text ++ queryEscape rest :=
  List.flatMap_append

/-- The reserved characters that `encodePath` keeps; a question mark is not
one. -/
def pathChar (char : Char) : Bool :=
  unreserved char || char ∈ ['$', '&', '+', ',', '/', ':', ';', '=', '@']

end Notifications.Lib
