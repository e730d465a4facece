import Mathlib.Data.List.Basic

/-!
# Go's `fmt` and `strings`, over bytes

`strings.Replace` without a limit, and `fmt.Fprintf` for a format without
arguments.  After a percent sign the formatter reads flags, a width, a precision
and the indices of arguments, and then one verb.  There is no argument for any
verb but the percent sign, which needs none.
-/

set_option autoImplicit false

namespace Notifications.Lib

namespace Bytes

def utf8 (text : String) : List UInt8 :=
  text.toList.flatMap String.utf8EncodeChar

/-- `Replace`; `skip` bytes are left of a part that is replaced already. -/
def replaceFrom (part replacement : List UInt8) :
    Nat → List UInt8 → List UInt8
  | _, [] => []
  | skip + 1, _ :: rest => replaceFrom part replacement skip rest
  | 0, byte :: rest =>
      if part.isPrefixOf (byte :: rest) then
        replacement ++ replaceFrom part replacement (part.length - 1) rest
      else
        byte :: replaceFrom part replacement 0 rest

/-- `strings.Replace(text, part, replacement, -1)`, for a part that is not
empty. -/
def replace (text part replacement : List UInt8) : List UInt8 :=
  replaceFrom part replacement 0 text

theorem replace_single (byte : UInt8) (replacement text : List UInt8) :
    replace text [byte] replacement =
      text.flatMap fun other => if other = byte then replacement else [other] := by
  induction text with
  | nil => rfl
  | cons other rest ih =>
      rw [replace] at ih
      rw [replace, replaceFrom, List.flatMap_cons]
      by_cases same : other = byte
      · simp [same, ih]
      · simp [same, Ne.symm same, ih]

end Bytes

namespace Fmt

def percent : UInt8 := 0x25

/-- `#`, `0`, `+`, `-` and the space. -/
def flag (byte : UInt8) : Bool := byte ∈ [0x23, 0x30, 0x2B, 0x2D, 0x20]

def digit (byte : UInt8) : Bool := 0x30 ≤ byte && byte ≤ 0x39

/-! ## The parts of a directive

Each reads the start of the format and leaves the rest of it. -/

/-- `argNumber`: whether there is an index in brackets.  One that is not closed,
or too short, ends after its first bracket. -/
def argNumber : List UInt8 → Bool × List UInt8
  | 0x5B :: rest =>
      (true, if 2 ≤ rest.length ∧ 0x5D ∈ rest then
          (rest.dropWhile (· ≠ 0x5D)).tail
        else rest)
  | format => (false, format)

/-- A number, or a star, for which there is no argument. -/
def parsenum : List UInt8 → Bool × List UInt8
  | 0x2A :: rest => (true, rest)
  | format => (false, format.dropWhile digit)

structure Directive where
  /-- an index in brackets is just before the verb -/
  afterIndex : Bool
  /-- no index was read; there is none that is good -/
  goodArgNum : Bool
  /-- the complaints about stars -/
  written : List UInt8
  rest : List UInt8

def width (format : List UInt8) : Directive :=
  let (indexed, format) := argNumber format
  let (star, rest) := parsenum format
  { afterIndex := indexed && !star
    goodArgNum := !indexed
    written := if star then Bytes.utf8 "%!(BADWIDTH)" else []
    rest := rest }

/-- A period at the end of the format is a verb. -/
def precision (read : Directive) : Directive :=
  match read.rest with
  | 0x2E :: byte :: rest =>
      let (indexed, format) := argNumber (byte :: rest)
      let (star, rest) := parsenum format
      { afterIndex := indexed && !star
        goodArgNum := read.goodArgNum && !indexed
        written := read.written ++
          if star then Bytes.utf8 "%!(BADPREC)" else []
        rest := rest }
  | _ => read

def lastIndex (read : Directive) : Directive :=
  if read.afterIndex then read
  else
    let (indexed, rest) := argNumber read.rest
    { read with
      goodArgNum := read.goodArgNum && !indexed
      rest := rest }

def continuation (byte : UInt8) : Bool := 0x80 ≤ byte && byte ≤ 0xBF

/-- The number of bytes of the rune that a text starts with, if it is one. -/
def runeLength (text : List UInt8) : Option Nat :=
  let first := text.getD 0 0
  let second := text.getD 1 0
  let third := text.getD 2 0
  let fourth := text.getD 3 0
  if first < 0x80 then
    some 1
  else if 0xC2 ≤ first ∧ first ≤ 0xDF ∧ continuation second then
    some 2
  else if 0xE0 ≤ first ∧ first ≤ 0xEF ∧ continuation second ∧
      continuation third ∧ (first = 0xE0 → 0xA0 ≤ second) ∧
      (first = 0xED → second ≤ 0x9F) then
    some 3
  else if 0xF0 ≤ first ∧ first ≤ 0xF4 ∧ continuation second ∧
      continuation third ∧ continuation fourth ∧
      (first = 0xF0 → 0x90 ≤ second) ∧ (first = 0xF4 → second ≤ 0x8F) then
    some 4
  else
    none

/-- The first rune, as it is written, and what follows it. -/
def decodeRune (text : List UInt8) : List UInt8 × List UInt8 :=
  match runeLength text with
  | some length => (text.take length, text.drop length)
  | none => (Bytes.utf8 "\uFFFD", text.tail)

/-- What is written for a verb, and what follows it. -/
def verb (read : Directive) : List UInt8 × List UInt8 :=
  match read.rest with
  | [] => (read.written ++ Bytes.utf8 "%!(NOVERB)", [])
  | byte :: rest =>
      if byte = percent then
        (read.written ++ [percent], rest)
      else
        let (rune, later) := decodeRune (byte :: rest)
        let complaint := if read.goodArgNum then "(MISSING)" else "(BADINDEX)"
        (read.written ++ Bytes.utf8 "%!" ++ rune ++
          Bytes.utf8 complaint, later)

def directive (format : List UInt8) : List UInt8 × List UInt8 :=
  verb (lastIndex (precision (width (format.dropWhile flag))))

/-! ## The formatter -/

theorem argNumber_length (format : List UInt8) :
    (argNumber format).2.length ≤ format.length := by
  unfold argNumber
  split
  · rename_i rest
    dsimp only
    split
    · have dropped := (List.dropWhile_suffix (· ≠ 0x5D) (l := rest)).length_le
      simp only [List.length_tail, List.length_cons]
      omega
    · simp
  · exact Nat.le_refl _

theorem parsenum_length (format : List UInt8) :
    (parsenum format).2.length ≤ format.length := by
  unfold parsenum
  split
  · simp
  · exact (List.dropWhile_suffix _).length_le

theorem width_length (format : List UInt8) :
    (width format).rest.length ≤ format.length :=
  Nat.le_trans (parsenum_length _) (argNumber_length format)

theorem precision_length (read : Directive) :
    (precision read).rest.length ≤ read.rest.length := by
  unfold precision
  split
  · rename_i byte rest found
    rw [found, List.length_cons]
    calc
      (parsenum (argNumber (byte :: rest)).2).2.length
        ≤ (argNumber (byte :: rest)).2.length := parsenum_length _
      _ ≤ (byte :: rest).length := argNumber_length _
      _ ≤ (byte :: rest).length + 1 := Nat.le_succ _
  · exact Nat.le_refl _

theorem lastIndex_length (read : Directive) :
    (lastIndex read).rest.length ≤ read.rest.length := by
  unfold lastIndex
  split
  · exact Nat.le_refl _
  · exact argNumber_length read.rest

theorem decodeRune_length (text : List UInt8) :
    (decodeRune text).2.length ≤ text.length := by
  unfold decodeRune
  split <;> simp

theorem verb_length (read : Directive) :
    (verb read).2.length ≤ read.rest.length := by
  unfold verb
  split
  · simp
  · rename_i byte rest found
    rw [found]
    split
    · simp
    · exact decodeRune_length (byte :: rest)

theorem directive_length (format : List UInt8) :
    (directive format).2.length ≤ format.length :=
  calc
    (directive format).2.length
      ≤ (lastIndex (precision (width (format.dropWhile flag)))).rest.length :=
        verb_length _
    _ ≤ (precision (width (format.dropWhile flag))).rest.length :=
        lastIndex_length _
    _ ≤ (width (format.dropWhile flag)).rest.length := precision_length _
    _ ≤ (format.dropWhile flag).length := width_length _
    _ ≤ format.length := (List.dropWhile_suffix _).length_le

/-- `Fprintf` without arguments. -/
def fprintf : List UInt8 → List UInt8
  | [] => []
  | byte :: rest =>
      if byte = percent then
        (directive rest).1 ++ fprintf (directive rest).2
      else
        byte :: fprintf rest
termination_by format => format.length
decreasing_by
  · exact Nat.lt_succ_of_le (directive_length rest)
  · exact Nat.lt_succ_self _

theorem directive_percent (rest : List UInt8) :
    directive (percent :: rest) = ([percent], rest) := rfl

/-- A text with its percent signs doubled is written as it was, whatever stands
next to them. -/
theorem fprintf_replace (text : List UInt8) :
    fprintf (Bytes.replace text [percent] [percent, percent]) = text := by
  rw [Bytes.replace_single]
  induction text with
  | nil => rw [List.flatMap_nil, fprintf]
  | cons byte rest ih =>
      rw [List.flatMap_cons]
      by_cases same : byte = percent
      · rw [if_pos same, List.cons_append, fprintf, if_pos rfl, List.cons_append,
          List.nil_append, directive_percent, ih, same]
        rfl
      · rw [if_neg same, List.cons_append, List.nil_append, fprintf,
          if_neg same, ih]

end Fmt

end Notifications.Lib
