import Mathlib.Data.List.Basic

/-!
# Go's `strings` package

The functions of it that the service uses, over lists of characters so that
they can be evaluated.
-/

set_option autoImplicit false

namespace Notifications.Lib

def containsList (part : List Char) : List Char → Bool
  | [] => part.isEmpty
  | char :: rest => part.isPrefixOf (char :: rest) || containsList part rest

def contains (text part : String) : Bool :=
  containsList part.toList text.toList

def splitList (separator : Char) : List Char → List (List Char)
  | [] => [[]]
  | char :: rest =>
      if char = separator then
        [] :: splitList separator rest
      else
        match splitList separator rest with
        | [] => [[char]]
        | first :: others => (char :: first) :: others

/-- `strings.Split`, for a separator of one character. -/
def split (text : String) (separator : Char) : List String :=
  (splitList separator text.toList).map String.ofList

theorem length_splitList (separator : Char) (text : List Char) :
    (splitList separator text).length = text.count separator + 1 := by
  induction text with
  | nil => rfl
  | cons char rest ih =>
      rw [splitList, List.count_cons]
      by_cases same : char = separator
      · simp [same, ih]
      · cases parts : splitList separator rest with
        | nil => simp [parts] at ih
        | cons first others =>
            rw [parts, List.length_cons] at ih
            simp only [if_neg same, List.length_cons, beq_iff_eq]
            omega

theorem splitList_of_notMem {separator : Char} {text : List Char}
    (apart : separator ∉ text) : splitList separator text = [text] := by
  induction text with
  | nil => rfl
  | cons char rest ih =>
      rw [List.mem_cons, not_or] at apart
      rw [splitList, if_neg (Ne.symm apart.1), ih apart.2]

/-- The text up to the first separator is the first part. -/
theorem splitList_append {separator : Char} {text : List Char}
    (apart : separator ∉ text) (rest : List Char) :
    splitList separator (text ++ separator :: rest) =
      text :: splitList separator rest := by
  induction text with
  | nil => rw [List.nil_append, splitList, if_pos rfl]
  | cons char text ih =>
      rw [List.mem_cons, not_or] at apart
      rw [List.cons_append, splitList, if_neg (Ne.symm apart.1), ih apart.2]

/-- `strings.ToLower`, on the letters of ASCII. -/
def toLower (text : String) : String :=
  String.ofList (text.toList.map Char.toLower)

/-- A character in `strconv.Quote`, for tabs, line ends and what is printed. -/
def quotedChar (char : Char) : List Char :=
  if char = '"' then ['\\', '"']
  else if char = '\\' then ['\\', '\\']
  else if char = '\n' then ['\\', 'n']
  else if char = '\r' then ['\\', 'r']
  else if char = '\t' then ['\\', 't']
  else [char]

def sprintfList : List Char → List String → List Char
  | '%' :: 'q' :: rest, argument :: arguments =>
      '"' :: argument.toList.flatMap quotedChar ++
        '"' :: sprintfList rest arguments
  | char :: rest, arguments => char :: sprintfList rest arguments
  | [], _ => []

/-- `fmt.Sprintf`, for the verb `%q`. -/
def sprintf (format : String) (arguments : List String) : String :=
  String.ofList (sprintfList format.toList arguments)

end Notifications.Lib
