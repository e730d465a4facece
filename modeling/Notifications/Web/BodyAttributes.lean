import Notifications.Lib.Regexp
import Notifications.Postal.Escaping
import Notifications.Web.Preferences

/-!
# The attributes of the body

`extractHTML` writes the attributes of the body element, which the HTML parser
has decoded, into a string, and the wrapper template puts the string into its
own body tag.
-/

set_option autoImplicit false

namespace Notifications.Web

open Notifications.Lib Notifications.Postal

/-- An attribute as the HTML parser reports it. -/
structure Attribute where
  key : String
  val : String
  deriving DecidableEq, Repr

structure Document where
  /-- the HTML inside the head -/
  head : String
  /-- the body's attributes and the HTML inside it; a document with frames has no
  body -/
  body : Option (List Attribute × String)

/-! ## `extractHTML` -/

def doctypeFormat : Regexp :=
  Regexp.group 0 ("<!DOCTYPE".toList.foldr
    (fun char rest => (Regexp.literal char).seq rest)
    ((Regexp.star (Regexp.except '>')).seq (Regexp.literal '>')))

def extractDoctype (rawHTML : String) : String :=
  match doctypeFormat.find rawHTML.toList with
  | none => ""
  | some groups => String.ofList (Regexp.submatch groups 0)

example : extractDoctype " <!DOCTYPE html><p>" = "<!DOCTYPE html>" := by
  decide +kernel

def Attribute.written (attr : Attribute) : String :=
  " " ++ attr.key ++ "=\"" ++ attr.val ++ "\""

/-- The loop over the attributes, and `TrimPrefix`. -/
def bodyAttributes (attributes : List Attribute) : String :=
  trimPrefix (String.join (attributes.map Attribute.written)) " "

/-- `extractHTML`, for what `goquery` makes of a text; `none` is the panic of
`Nodes[0]`. -/
def extractHTML (parse : String → Document) (rawHTML : String) :
    Option HTML :=
  (parse rawHTML).body.map fun body =>
    let html : HTML :=
      { bodyContent := ""
        bodyAttributes := ""
        head := (parse rawHTML).head
        doctype := extractDoctype rawHTML }
    if body.2 ≠ "" then
      { html with
        bodyAttributes := bodyAttributes body.1
        bodyContent := body.2 }
    else html

/-! ## Reading a tag -/

def nameChar (char : Char) : Bool :=
  char ∉ [' ', '"', '\'', '=', '>', '/']

section Reading

variable (unescape : String → String)

/-- `name="value"`, where the value ends at the next quote and its entities are
decoded. -/
def readAttribute (text : List Char) : Option (Attribute × List Char) :=
  match text.dropWhile nameChar with
  | '=' :: '"' :: later =>
      match later.dropWhile (Regexp.except '"') with
      | _ :: rest =>
          some (⟨String.ofList (text.takeWhile nameChar),
            unescape (String.ofList
              (later.takeWhile (Regexp.except '"')))⟩, rest)
      | [] => none
  | _ => none

/-- At most this many attributes, separated by spaces, up to the end of the
tag; and what follows the tag. -/
def readAttributes : Nat → List Char → Option (List Attribute × List Char)
  | 0, _ => none
  | fuel + 1, text =>
      match text.dropWhile fun char => char == ' ' with
      | '>' :: rest => some ([], rest)
      | other => do
          let (attr, rest) ← readAttribute unescape other
          let (attributes, after) ← readAttributes fuel rest
          some (attr :: attributes, after)

/-- The attributes of a tag, and what follows it.  No attribute is shorter than
a character. -/
def readTag (text : String) : Option (List Attribute × List Char) :=
  readAttributes unescape text.toList.length text.toList

/-- The string is the attributes, and so is the body tag of the wrapper, whatever
stands in it. -/
structure AttributesKept (attributes : List Attribute) (html : HTML) :
    Prop where
  string : readTag unescape (html.bodyAttributes ++ ">") =
    some (attributes, [])
  tag : ∀ content : String,
    let after := "\n\t\t" ++ content ++ "\n\t</body>\n</html>"
    wrapperText { html with bodyContent := content } =
      html.doctype ++ "\n<head>" ++ html.head ++ "</head>\n<html>\n\t<body " ++
        (html.bodyAttributes ++ ">" ++ after) ∧
    readTag unescape (html.bodyAttributes ++ ">" ++ after) =
      some (attributes, after.toList)

end Reading

/-! ## The round trip -/

/-- What the parser takes for the name of an attribute. -/
def Attribute.Named (attr : Attribute) : Prop :=
  ∀ char ∈ attr.key.toList, nameChar char = true

/-- The value has no quote in it, and no entity. -/
def Attribute.Inert (unescape : String → String) (attr : Attribute) : Prop :=
  '"' ∉ attr.val.toList ∧ unescape attr.val = attr.val

instance (attr : Attribute) : Decidable attr.Named :=
  List.decidableBAll _ attr.key.toList

/-- The attribute with the entities in its value decoded. -/
def Attribute.decoded (unescape : String → String) (attr : Attribute) :
    Attribute :=
  ⟨attr.key, unescape attr.val⟩

/-- The characters of `name="value"`. -/
def Attribute.chars (attr : Attribute) : List Char :=
  attr.key.toList ++ '=' :: '"' :: (attr.val.toList ++ ['"'])

section RoundTrip

variable {unescape : String → String}

theorem bodyAttributes_nil : (bodyAttributes []).toList = [] := by
  decide

theorem written_toList (attr : Attribute) :
    attr.written.toList = ' ' :: attr.chars := by
  simp [Attribute.written, Attribute.chars]

theorem bodyAttributes_cons (attr : Attribute) (others : List Attribute) :
    (bodyAttributes (attr :: others)).toList =
      attr.chars ++ others.flatMap fun other => ' ' :: other.chars := by
  have joined : (String.join
      ((attr :: others).map Attribute.written)).toList =
        ' ' :: (attr.chars ++
          others.flatMap fun other => ' ' :: other.chars) := by
    rw [String.toList_join, List.flatMap_map, List.flatMap_cons,
      written_toList, List.cons_append]
    simp only [written_toList]
  have space : " ".toList = [' '] := rfl
  rw [bodyAttributes, trimPrefix, joined, space, if_pos (by simp),
    String.toList_ofList]
  rfl

/-- The first attribute is read up to the first quote of its value. -/
theorem readAttribute_chars {attr : Attribute} (named : attr.Named)
    (unquoted : '"' ∉ attr.val.toList) (rest : List Char) :
    readAttribute unescape (attr.chars ++ rest) =
      some (attr.decoded unescape, rest) := by
  have split : attr.chars ++ rest =
      attr.key.toList ++ '=' :: '"' :: (attr.val.toList ++ '"' :: rest) := by
    simp [Attribute.chars]
  have quotes := Regexp.except_of_absent unquoted
  rw [readAttribute, split, List.dropWhile_append_of_pos named,
    List.dropWhile_cons_of_neg (by decide),
    List.takeWhile_append_of_pos named,
    List.takeWhile_cons_of_neg (by decide), List.append_nil]
  split
  · rename_i later same
    cases same
    rw [List.dropWhile_append_of_pos quotes,
      List.dropWhile_cons_of_neg (by decide),
      List.takeWhile_append_of_pos quotes,
      List.takeWhile_cons_of_neg (by decide), List.append_nil,
      String.ofList_toList, String.ofList_toList, Attribute.decoded]
  · rename_i different
    exact absurd rfl (different _)

theorem readAttributes_space (fuel : Nat) (text : List Char) :
    readAttributes unescape fuel (' ' :: text) =
      readAttributes unescape fuel text := by
  cases fuel with
  | zero => rfl
  | succ fuel =>
      rw [readAttributes, readAttributes,
        List.dropWhile_cons_of_pos (by decide)]

/-- What is written for an attribute is neither a space nor the end of the
tag. -/
theorem readAttributes_step {attr : Attribute} (named : attr.Named)
    (fuel : Nat) (rest : List Char) :
    readAttributes unescape (fuel + 1) (attr.chars ++ rest) = (do
      let (attr, rest) ← readAttribute unescape (attr.chars ++ rest)
      let (attributes, after) ← readAttributes unescape fuel rest
      some (attr :: attributes, after)) := by
  have first : ∃ char later, attr.chars ++ rest = char :: later ∧
      char ≠ ' ' ∧ char ≠ '>' := by
    cases keyed : attr.key.toList with
    | nil => exact ⟨'=', _, by rw [Attribute.chars, keyed]; rfl, by decide⟩
    | cons char key =>
        have plain := named char (by rw [keyed]; exact .head _)
        refine ⟨char, _, by rw [Attribute.chars, keyed]; rfl, ?_, ?_⟩
        · intro same
          rw [same] at plain
          exact absurd plain (by decide)
        · intro same
          rw [same] at plain
          exact absurd plain (by decide)
  obtain ⟨char, later, same, noSpace, noEnd⟩ := first
  rw [same, readAttributes, List.dropWhile_cons_of_neg (by simp [noSpace])]
  split
  · rename_i wrong
    cases wrong
    exact absurd rfl noEnd
  · rfl

theorem readAttributes_chars {attributes : List Attribute}
    (named : ∀ attr ∈ attributes, attr.Named)
    (unquoted : ∀ attr ∈ attributes, '"' ∉ attr.val.toList)
    {fuel : Nat} (enough : attributes.length < fuel) (rest : List Char) :
    readAttributes unescape fuel
        ((attributes.flatMap fun attr => ' ' :: attr.chars) ++ '>' :: rest) =
      some (attributes.map (Attribute.decoded unescape), rest) := by
  induction attributes generalizing fuel with
  | nil =>
      cases fuel with
      | zero => cases enough
      | succ fuel => rfl
  | cons attr others ih =>
      cases fuel with
      | zero => cases enough
      | succ fuel =>
          have later := ih (fun other member => named other (.tail _ member))
            (fun other member => unquoted other (.tail _ member))
            (Nat.lt_of_succ_lt_succ enough)
          rw [List.flatMap_cons, List.cons_append, List.cons_append,
            readAttributes_space, List.append_assoc,
            readAttributes_step (named attr (.head _)),
            readAttribute_chars (named attr (.head _))
              (unquoted attr (.head _))]
          simp only [Option.bind_eq_bind, Option.bind_some, later,
            List.map_cons]

theorem readAttributes_bodyAttributes (attributes : List Attribute)
    (fuel : Nat) (rest : List Char) :
    readAttributes unescape fuel
        ((bodyAttributes attributes).toList ++ rest) =
      readAttributes unescape fuel
        ((attributes.flatMap fun attr => ' ' :: attr.chars) ++ rest) := by
  cases attributes with
  | nil => rw [bodyAttributes_nil, List.flatMap_nil]
  | cons attr others =>
      rw [bodyAttributes_cons, List.flatMap_cons, List.cons_append,
        List.cons_append, readAttributes_space]

theorem length_le_bodyAttributes (attributes : List Attribute) :
    attributes.length ≤ (bodyAttributes attributes).toList.length := by
  have each (others : List Attribute) : others.length ≤
      (others.flatMap fun other => ' ' :: other.chars).length := by
    induction others with
    | nil => exact Nat.le_refl 0
    | cons other rest ih =>
        rw [List.flatMap_cons, List.length_append, List.length_cons,
          List.length_cons]
        omega
  cases attributes with
  | nil => exact Nat.zero_le _
  | cons attr others =>
      have positive : 0 < attr.chars.length := by
        simp [Attribute.chars]
      have rests := each others
      rw [bodyAttributes_cons, List.length_append, List.length_cons]
      omega

theorem readTag_bodyAttributes {attributes : List Attribute}
    (named : ∀ attr ∈ attributes, attr.Named)
    (unquoted : ∀ attr ∈ attributes, '"' ∉ attr.val.toList)
    (rest : String) :
    readTag unescape (bodyAttributes attributes ++ ">" ++ rest) =
      some (attributes.map (Attribute.decoded unescape), rest.toList) := by
  have split : (bodyAttributes attributes ++ ">" ++ rest).toList =
      (bodyAttributes attributes).toList ++ '>' :: rest.toList := by
    simp
  have short := length_le_bodyAttributes attributes
  rw [readTag, split, readAttributes_bodyAttributes]
  apply readAttributes_chars named unquoted
  rw [List.length_append, List.length_cons]
  omega

theorem count_takeWhile {accepts : Char → Bool} {char : Char}
    (refused : accepts char = false) (text : List Char) :
    (text.takeWhile accepts).count char = 0 := by
  rw [List.count_eq_zero]
  intro member
  rw [List.mem_takeWhile_imp member] at refused
  cases refused

theorem readAttribute_quotes {text rest : List Char} {attr : Attribute}
    (read : readAttribute unescape text = some (attr, rest)) :
    text.count '"' = 2 + rest.count '"' := by
  unfold readAttribute at read
  split at read
  · rename_i later equals
    split at read
    · rename_i last after closes
      cases read
      have named := List.takeWhile_append_dropWhile (p := nameChar) (l := text)
      have valued := List.takeWhile_append_dropWhile
        (p := Regexp.except '"') (l := later)
      have quote : last = '"' := by
        have first := List.head?_dropWhile_not (Regexp.except '"') later
        rw [closes] at first
        simpa [Regexp.except] using first
      rw [← named, equals, List.count_append, count_takeWhile (by decide),
        List.count_cons_of_ne (by decide), List.count_cons_self, ← valued,
        closes, quote, List.count_append, count_takeWhile (by decide),
        List.count_cons_self]
      omega
    · cases read
  · cases read

theorem readAttributes_quotes {fuel : Nat} {text rest : List Char}
    {attributes : List Attribute}
    (read : readAttributes unescape fuel text = some (attributes, rest)) :
    text.count '"' = 2 * attributes.length + rest.count '"' := by
  induction fuel generalizing text attributes with
  | zero => cases read
  | succ fuel ih =>
      have spaces := List.takeWhile_append_dropWhile
        (p := fun char : Char => char == ' ') (l := text)
      rw [readAttributes] at read
      split at read
      · rename_i later closes
        cases read
        rw [← spaces, closes, List.count_append, count_takeWhile (by decide),
          List.count_cons_of_ne (by decide), List.length_nil]
      · simp only [Option.bind_eq_bind, Option.bind_eq_some_iff] at read
        obtain ⟨⟨attr, later⟩, first, ⟨others, after⟩, further, same⟩ := read
        cases same
        have counted := readAttribute_quotes first
        have rests := ih further
        dsimp only at counted rests ⊢
        rw [← spaces, List.count_append, count_takeWhile (by decide), counted,
          rests, List.length_cons]
        omega

theorem count_chars {attr : Attribute} (named : attr.Named) :
    attr.chars.count '"' = 2 + attr.val.toList.count '"' := by
  have noQuote : attr.key.toList.count '"' = 0 := by
    rw [List.count_eq_zero]
    intro member
    exact absurd (named _ member) (by decide)
  simp [Attribute.chars, List.count_append, noQuote]
  omega

theorem count_flatMap_chars {attributes : List Attribute}
    (named : ∀ attr ∈ attributes, attr.Named) :
    (attributes.flatMap fun attr => ' ' :: attr.chars).count '"' =
      2 * attributes.length +
        (attributes.flatMap fun attr => attr.val.toList).count '"' := by
  induction attributes with
  | nil => rfl
  | cons attr others ih =>
      rw [List.flatMap_cons, List.count_append,
        List.count_cons_of_ne (by decide), count_chars (named attr (.head _)),
        ih fun other member => named other (.tail _ member),
        List.flatMap_cons, List.count_append, List.length_cons]
      omega

/-- A string that is read back has no more quotes than the attributes have. -/
theorem unquoted_of_read {attributes : List Attribute}
    (named : ∀ attr ∈ attributes, attr.Named)
    (read : readTag unescape (bodyAttributes attributes ++ ">") =
      some (attributes, [])) :
    ∀ attr ∈ attributes, '"' ∉ attr.val.toList := by
  have split : (bodyAttributes attributes ++ ">").toList =
      (bodyAttributes attributes).toList ++ ['>'] := by
    simp
  rw [readTag, split, readAttributes_bodyAttributes] at read
  have counted := readAttributes_quotes read
  rw [List.count_append, count_flatMap_chars named] at counted
  have none : (attributes.flatMap fun attr =>
      attr.val.toList).count '"' = 0 := by
    have brackets : ['>'].count '"' = 0 := by decide
    rw [brackets, List.count_nil] at counted
    omega
  intro attr member quote
  exact List.count_eq_zero.mp none
    (List.mem_flatMap.mpr ⟨attr, member, quote⟩)

end RoundTrip

/-! ## Exactly the inert values -/

/-- The string is read back, and the body tag has the sender's attributes,
exactly if no value has a quote in it or text that is taken for an entity. -/
theorem attributesKept_iff (unescape : String → String)
    (parse : String → Document) (rawHTML content : String)
    (attributes : List Attribute) (html : HTML)
    (body : (parse rawHTML).body = some (attributes, content))
    (filled : content ≠ "")
    (named : ∀ attr ∈ attributes, attr.Named)
    (extracted : extractHTML parse rawHTML = some html) :
    AttributesKept unescape attributes html ↔
      ∀ attr ∈ attributes, attr.Inert unescape := by
  have written : html.bodyAttributes = bodyAttributes attributes := by
    rw [extractHTML, body, Option.map_some, Option.some.injEq] at extracted
    rw [← extracted, if_pos filled]
  constructor
  · intro kept
    have read := kept.string
    rw [written] at read
    have unquoted := unquoted_of_read named read
    have decoded := @readTag_bodyAttributes unescape _ named unquoted ""
    rw [String.append_empty, read, Option.some.injEq, Prod.mk.injEq] at decoded
    have same : ∀ attr ∈ attributes, attr.decoded unescape = id attr :=
      List.map_inj_left.mp (by rw [List.map_id, ← decoded.1])
    intro attr member
    exact ⟨unquoted attr member, congrArg Attribute.val (same attr member)⟩
  · intro inert
    have decoded : attributes.map (Attribute.decoded unescape) =
        attributes := by
      have same : attributes.map (Attribute.decoded unescape) =
          attributes.map id := by
        apply List.map_congr_left
        intro attr member
        rw [Attribute.decoded, (inert attr member).2, id]
      rw [same, List.map_id]
    have readable (rest : String) :
        readTag unescape (html.bodyAttributes ++ ">" ++ rest) =
          some (attributes, rest.toList) := by
      rw [written, readTag_bodyAttributes named
        (fun attr member => (inert attr member).1), decoded]
    refine ⟨by simpa using readable "", ?_⟩
    intro content
    refine ⟨?_, readable _⟩
    have bracket : ">\n\t\t" = ">" ++ "\n\t\t" := by decide
    simp only [wrapperText, bracket, String.append_assoc]

/-! ## A sample -/

/-- `<body class='VALUE'>hi</body>`. -/
def rawBody (value : String) : String :=
  "<body class='" ++ value ++ "'>hi</body>"

/-- What the parser makes of `rawBody`. -/
def parsedBody (value : String) : String → Document :=
  fun _ => ⟨"", some ([⟨"class", value⟩], "hi")⟩

def extractedBody (value : String) : HTML :=
  ⟨"hi", "class=\"" ++ value ++ "\"", "", ""⟩

theorem attributesKept_dark :
    AttributesKept id [⟨"class", "dark"⟩] (extractedBody "dark") ↔
      ∀ attr ∈ [(⟨"class", "dark"⟩ : Attribute)], attr.Inert id :=
  attributesKept_iff id (parsedBody "dark") (rawBody "dark") "hi" _ _ rfl
    (by decide) (by decide +kernel) (by decide +kernel)

/-- A quote in a value adds an attribute that the sender's body did not have. -/
theorem quote_adds_attribute :
    let value := "x\" onload=\"steal()"
    extractHTML (parsedBody value) (rawBody value) =
      some (extractedBody value) ∧
    readTag id ((extractedBody value).bodyAttributes ++ ">") =
      some ([⟨"class", "x"⟩, ⟨"onload", "steal()"⟩], []) ∧
    ¬ AttributesKept id [⟨"class", value⟩] (extractedBody value) := by
  intro value
  have read : readTag id ((extractedBody value).bodyAttributes ++ ">") =
      some ([⟨"class", "x"⟩, ⟨"onload", "steal()"⟩], []) := by
    decide +kernel
  refine ⟨by decide +kernel, read, ?_⟩
  intro kept
  have wrong := kept.string
  rw [read] at wrong
  revert wrong
  decide

end Notifications.Web
