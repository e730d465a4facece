import Notifications.Postal.Rendering

/-!
# What is escaped in the HTML part

Templates of literal text and references to the string fields of the context,
and what `CompileParts` makes of them.  `Escape` has a list of fields, which
leaves six of them out.
-/

set_option autoImplicit false

namespace Notifications.Postal

open Notifications.Lib

/-! ## Templates of references -/

/-- The string fields of `MessageContext`. -/
inductive Field where
  | fromAddress
  | replyTo
  | toAddress
  | subject
  | text
  | html
  | textTemplate
  | htmlTemplate
  | subjectTemplate
  | kindDescription
  | sourceDescription
  | userGUID
  | clientID
  | messageID
  | space
  | spaceGUID
  | organization
  | organizationGUID
  | unsubscribeID
  | scope
  | endorsement
  | organizationRole
  deriving DecidableEq, Repr

namespace Field

def name : Field → String
  | fromAddress => "From"
  | replyTo => "ReplyTo"
  | toAddress => "To"
  | subject => "Subject"
  | text => "Text"
  | html => "HTML"
  | textTemplate => "TextTemplate"
  | htmlTemplate => "HTMLTemplate"
  | subjectTemplate => "SubjectTemplate"
  | kindDescription => "KindDescription"
  | sourceDescription => "SourceDescription"
  | userGUID => "UserGUID"
  | clientID => "ClientID"
  | messageID => "MessageID"
  | space => "Space"
  | spaceGUID => "SpaceGUID"
  | organization => "Organization"
  | organizationGUID => "OrganizationGUID"
  | unsubscribeID => "UnsubscribeID"
  | scope => "Scope"
  | endorsement => "Endorsement"
  | organizationRole => "OrganizationRole"

def value (context : MessageContext) : Field → String
  | fromAddress => context.fromAddress
  | replyTo => context.replyTo
  | toAddress => context.toAddress
  | subject => context.subject
  | text => context.text
  | html => context.html
  | textTemplate => context.textTemplate
  | htmlTemplate => context.htmlTemplate
  | subjectTemplate => context.subjectTemplate
  | kindDescription => context.kindDescription
  | sourceDescription => context.sourceDescription
  | userGUID => context.userGUID
  | clientID => context.clientID
  | messageID => context.messageID
  | space => context.space
  | spaceGUID => context.spaceGUID
  | organization => context.organization
  | organizationGUID => context.organizationGUID
  | unsubscribeID => context.unsubscribeID
  | scope => context.scope
  | endorsement => context.endorsement
  | organizationRole => context.organizationRole

/-- HTML of the sender, and the sources of the templates. -/
def markup : List Field :=
  [html, textTemplate, htmlTemplate, subjectTemplate]

/-- The plain-text fields that `Escape` does not list. -/
def overlooked : List Field :=
  [userGUID, spaceGUID, organizationGUID, unsubscribeID, scope,
    organizationRole]

theorem value_escape (context : MessageContext) (field : Field) :
    field.value context.escape =
      if field ∈ markup ∨ field ∈ overlooked then field.value context
      else escapeString (field.value context) := by
  cases field <;> rfl

/-- Compiling the endorsement changes no other field. -/
theorem value_endorsed (engine : Engine) (context : MessageContext)
    {field : Field} (other : field ∈ overlooked) :
    field.value (Packager.endorsed engine context) = field.value context := by
  cases field with
  | endorsement => exact absurd other (by decide)
  | _ => rfl

end Field

inductive Segment where
  | literal (text : String)
  | reference (field : Field)
  deriving DecidableEq, Repr

def Segment.source : Segment → String
  | literal text => text
  | reference field => "\x7b\x7b." ++ field.name ++ "\x7d\x7d"

def templateSource (segments : List Segment) : String :=
  String.join (segments.map Segment.source)

def expand (text : Field → String) (segments : List Segment) : String :=
  String.join (segments.map fun segment =>
    match segment with
    | .literal literal => literal
    | .reference field => text field)

/-- `text/template` copies the literal text, and writes the fields as they are
in the context. -/
def Engine.Substitutes (engine : Engine) (template : String)
    (segments : List Segment) : Prop :=
  template = templateSource segments ∧
    engine template = .ok fun context =>
      (expand (Field.value context) segments, none)

/-- The wrapper around the components of an HTML text. -/
def wrapperText (components : HTML) : String :=
  components.doctype ++ "\n<head>" ++ components.head ++
    "</head>\n<html>\n\t<body " ++ components.bodyAttributes ++
    ">\n\t\t" ++ components.bodyContent ++ "\n\t</body>\n</html>"

def Engine.Wraps (engine : Engine) : Prop :=
  engine htmlWrapperTemplate = .ok fun context =>
    (wrapperText context.htmlComponents, none)

/-! ## The parts -/

/-- The value of a field, escaped unless it is HTML or a template. -/
def escapedValue (context : MessageContext) (field : Field) : String :=
  if field ∈ Field.markup then field.value context
  else escapeString (field.value context)

/-- A literal text, or a reference to one of the fields that are free. -/
def Segment.Loose (free : List Field) : Segment → Prop
  | .literal _ => True
  | .reference field => field ∈ free

/-- Every reference has become its value.  Only a literal text, or a field that
is free, may have lost the newline it ended in. -/
def Reads (free : List Field) (text : Field → String)
    (segments : List Segment) (part : String) : Prop :=
  part = expand text segments ∨
    ∃ before segment after,
      segments = before ++ segment :: after ∧ segment.Loose free ∧
      part = expand text before ++ trimNewline (expand text [segment]) ++
        expand text after

/-- The text part has the values as they are.  In the HTML part, every reference
to plain text has become its value escaped once. -/
def EscapedOnce (engine : Engine) (context : MessageContext)
    (textSegments htmlSegments : List Segment) : Prop :=
  ∀ parts, Packager.compileParts engine context = .ok parts →
    let compiled := Packager.endorsed engine context
    ∃ text body, parts = [
        ⟨"text/plain", text⟩,
        ⟨"text/html", wrapperText { context.htmlComponents with
          bodyContent := body }⟩] ∧
      Reads [] (Field.value compiled) textSegments text ∧
      Reads Field.markup (escapedValue compiled) htmlSegments body

def Harmless (text : String) : Prop :=
  ∀ char ∈ text.toList, char ∉ ['&', '\'', '<', '>', '"']

instance (text : String) : Decidable (Harmless text) :=
  List.decidableBAll _ text.toList

/-! ## Lengths -/

theorem escapeChar_plain {char : Char}
    (plain : char ∉ ['&', '\'', '<', '>', '"']) :
    escapeChar char = char.toString := by
  simp only [List.mem_cons, List.not_mem_nil, or_false, not_or] at plain
  unfold escapeChar
  split
  · exact absurd rfl plain.1
  · exact absurd rfl plain.2.1
  · exact absurd rfl plain.2.2.1
  · exact absurd rfl plain.2.2.2.1
  · exact absurd rfl plain.2.2.2.2
  · rfl

theorem escapeChar_special {char : Char}
    (special : char ∈ ['&', '\'', '<', '>', '"']) :
    4 ≤ (escapeChar char).length := by
  simp only [List.mem_cons, List.not_mem_nil, or_false] at special
  rcases special with rfl | rfl | rfl | rfl | rfl <;> decide

theorem join_cons_length (text : String) (texts : List String) :
    (String.join (text :: texts)).length =
      text.length + (String.join texts).length := by
  rw [← String.length_toList, String.toList_join, List.flatMap_cons,
    List.length_append, ← String.toList_join, String.length_toList,
    String.length_toList]

theorem escapeChar_length_pos (char : Char) :
    1 ≤ (escapeChar char).length := by
  by_cases special : char ∈ ['&', '\'', '<', '>', '"']
  · have long := escapeChar_special special
    omega
  · rw [escapeChar_plain special]
    simp [Char.toString]

theorem escaped_length (text : List Char) :
    text.length ≤ (String.join (text.map escapeChar)).length := by
  induction text with
  | nil => exact Nat.le_refl 0
  | cons char rest ih =>
      have positive := escapeChar_length_pos char
      rw [List.map_cons, join_cons_length, List.length_cons]
      omega

/-- What is escaped gets longer by more than the newline that is trimmed. -/
theorem escaped_length_special {text : List Char} {char : Char}
    (member : char ∈ text)
    (special : char ∈ ['&', '\'', '<', '>', '"']) :
    text.length + 3 ≤ (String.join (text.map escapeChar)).length := by
  induction text with
  | nil => cases member
  | cons other rest ih =>
      have rests := escaped_length rest
      rw [List.map_cons, join_cons_length, List.length_cons]
      rcases List.mem_cons.mp member with rfl | later
      · have long := escapeChar_special special
        omega
      · have positive := escapeChar_length_pos other
        have longer := ih later
        omega

theorem escapeString_harmless {text : String} (harmless : Harmless text) :
    escapeString text = text := by
  have chars : text.toList.map escapeChar =
      text.toList.map Char.toString := by
    apply List.map_congr_left
    intro char member
    exact escapeChar_plain (harmless char member)
  apply String.toList_injective
  rw [escapeString, chars, String.toList_join, List.flatMap_map]
  simp [Char.toString]

theorem escapeString_le (text : String) :
    text.length ≤ (escapeString text).length := by
  have longer := escaped_length text.toList
  rw [String.length_toList] at longer
  exact longer

theorem escapeString_longer {text : String} (harmful : ¬ Harmless text) :
    text.length + 3 ≤ (escapeString text).length := by
  have some : ∃ char ∈ text.toList, char ∈ ['&', '\'', '<', '>', '"'] := by
    by_contra none
    apply harmful
    intro char member special
    exact none ⟨char, member, special⟩
  obtain ⟨char, member, special⟩ := some
  have longer := escaped_length_special member special
  rw [String.length_toList] at longer
  exact longer

section Expansions

variable {left right : Field → String} {segments : List Segment}

theorem expand_cons (segment : Segment) :
    (expand left (segment :: segments)).length =
      (match segment with
        | .literal literal => literal
        | .reference field => left field).length +
        (expand left segments).length := by
  rw [expand, List.map_cons, join_cons_length, expand]

theorem expand_length_le
    (each : ∀ field, (left field).length ≤ (right field).length) :
    (expand left segments).length ≤ (expand right segments).length := by
  induction segments with
  | nil => exact Nat.le_refl _
  | cons segment rest ih =>
      rw [expand_cons, expand_cons]
      cases segment with
      | literal literal => exact Nat.add_le_add_left ih _
      | reference field => exact Nat.add_le_add (each field) ih

/-- One reference that is longer makes the whole longer. -/
theorem expand_length_longer {more : Nat} {field : Field}
    (each : ∀ field, (left field).length ≤ (right field).length)
    (member : Segment.reference field ∈ segments)
    (longer : (left field).length + more ≤ (right field).length) :
    (expand left segments).length + more ≤
      (expand right segments).length := by
  induction segments with
  | nil => cases member
  | cons segment rest ih =>
      have rests := @expand_length_le left right rest each
      rw [expand_cons, expand_cons]
      rcases List.mem_cons.mp member with rfl | later
      · dsimp only
        omega
      · have whole := ih later
        cases segment with
        | literal literal =>
            dsimp only
            omega
        | reference other =>
            have own := each other
            dsimp only
            omega

end Expansions

theorem expand_congr {left right : Field → String} {segments : List Segment}
    (same : ∀ field, Segment.reference field ∈ segments →
      left field = right field) :
    expand left segments = expand right segments := by
  rw [expand, expand]
  congr 1
  apply List.map_congr_left
  intro segment member
  cases segment with
  | literal literal => rfl
  | reference field => exact same field member

theorem trimNewline_length (text : String) :
    (trimNewline text).length ≤ text.length ∧
      text.length ≤ (trimNewline text).length + 1 := by
  unfold trimNewline
  split
  · rw [← String.length_toList, ← String.length_toList, String.toList_ofList,
      List.length_dropLast]
    omega
  · omega

/-! ## The last newline -/

/-- The template does not end in a newline, or in one that is not a value's:
only newlines follow a literal text, or a field that is free, with this end. -/
def KeepsValues (free : List Field) (text : Field → String)
    (segments : List Segment) : Prop :=
  (expand text segments).toList.getLast? ≠ some '\n' ∨
    ∃ before segment after,
      segments = before ++ segment :: after ∧ segment.Loose free ∧
      (expand text [segment]).toList.getLast? = some '\n' ∧
      ∀ char ∈ (expand text after).toList, char = '\n'

theorem toList_trimNewline (text : String) :
    (trimNewline text).toList =
      if text.toList.getLast? = some '\n' then text.toList.dropLast
      else text.toList := by
  unfold trimNewline
  split
  · rw [String.toList_ofList]
  · rfl

/-- The first of a list can only stand for the last one if they are all
alike. -/
theorem dropLast_cons_eq_iff {first : Char} {rest : List Char} :
    (first :: rest).dropLast = rest ↔ ∀ char ∈ rest, char = first := by
  induction rest generalizing first with
  | nil => simp
  | cons second rest ih =>
      rw [List.dropLast_cons_cons, List.cons.injEq, ih, List.forall_mem_cons]
      constructor
      · rintro ⟨rfl, alike⟩
        exact ⟨rfl, alike⟩
      · rintro ⟨rfl, alike⟩
        exact ⟨rfl, alike⟩

section Trimming

variable {free : List Field} {text : Field → String}
  {segments before after : List Segment} {segment : Segment}

theorem toList_expand_split :
    (expand text (before ++ segment :: after)).toList =
      (expand text before).toList ++
        ((expand text [segment]).toList ++ (expand text after).toList) := by
  simp [expand, String.toList_join]

theorem Reads.length_le {part : String}
    (reads : Reads free text segments part) :
    (expand text segments).length ≤ part.length + 1 := by
  rcases reads with rfl | ⟨before, segment, after, rfl, _, rfl⟩
  · exact Nat.le_succ _
  · have trimmed := (trimNewline_length (expand text [segment])).2
    simp only [← String.length_toList, String.toList_append,
      toList_expand_split, List.length_append] at trimmed ⊢
    omega

/-- Dropping the last newline leaves the values exactly if it is not one of
theirs. -/
theorem reads_trimNewline_iff :
    Reads free text segments (trimNewline (expand text segments)) ↔
      KeepsValues free text segments := by
  by_cases ends : (expand text segments).toList.getLast? = some '\n'
  · have shortened : (trimNewline (expand text segments)).length <
        (expand text segments).length := by
      have nonempty : (expand text segments).toList ≠ [] := by
        intro empty
        rw [empty] at ends
        cases ends
      rw [← String.length_toList, ← String.length_toList, toList_trimNewline,
        if_pos ends, List.length_dropLast]
      exact Nat.sub_one_lt (mt List.length_eq_zero_iff.mp nonempty)
    constructor
    · rintro (same | ⟨before, segment, after, rfl, loose, same⟩)
      · rw [same] at shortened
        exact absurd shortened (Nat.lt_irrefl _)
      · refine .inr ⟨before, segment, after, rfl, loose, ?_⟩
        have shorter := congrArg String.toList same
        rw [String.toList_append, String.toList_append, List.append_assoc,
          toList_trimNewline] at shorter
        by_cases newline : (expand text [segment]).toList.getLast? = some '\n'
        · refine ⟨newline, ?_⟩
          obtain ⟨start, split⟩ := List.getLast?_eq_some_iff.mp newline
          rw [if_pos ends, toList_trimNewline, if_pos newline,
            toList_expand_split, split, List.dropLast_concat,
            List.append_assoc, List.singleton_append,
            List.dropLast_append_of_ne_nil (by simp),
            List.dropLast_append_of_ne_nil (by simp),
            List.append_cancel_left_eq, List.append_cancel_left_eq] at shorter
          exact dropLast_cons_eq_iff.mp shorter
        · rw [toList_trimNewline, if_neg newline, ← toList_expand_split,
            ← toList_trimNewline, String.toList_inj] at shorter
          rw [shorter] at shortened
          exact absurd shortened (Nat.lt_irrefl _)
    · rintro (other | ⟨before, segment, after, rfl, loose, newline, alike⟩)
      · exact absurd ends other
      · refine .inr ⟨before, segment, after, rfl, loose,
          String.toList_injective ?_⟩
        obtain ⟨start, split⟩ := List.getLast?_eq_some_iff.mp newline
        rw [String.toList_append, String.toList_append, List.append_assoc,
          toList_trimNewline, if_pos ends, toList_trimNewline, if_pos newline,
          toList_expand_split, split, List.dropLast_concat,
          List.append_assoc, List.singleton_append,
          List.dropLast_append_of_ne_nil (by simp),
          List.dropLast_append_of_ne_nil (by simp),
          dropLast_cons_eq_iff.mpr alike]
  · have whole : trimNewline (expand text segments) = expand text segments := by
      apply String.toList_injective
      rw [toList_trimNewline, if_neg ends]
    rw [whole]
    exact ⟨fun _ => .inl ends, fun _ => .inl rfl⟩

end Trimming

/-! ## When the fields are escaped -/

section Parts

variable {engine : Engine} {context : MessageContext}

/-- The part's text with a value for every reference. -/
def htmlText (context : MessageContext) (value : Field → String)
    (segments : List Segment) : String :=
  wrapperText { context.htmlComponents with
    bodyContent := trimNewline (expand value segments) }

theorem wrapperText_injective {components : HTML} {left right : String}
    (same : wrapperText { components with bodyContent := left } =
      wrapperText { components with bodyContent := right }) :
    left = right := by
  simpa [wrapperText, String.append_right_inj, String.append_left_inj]
    using same

theorem trimNewline_wrapperText (components : HTML) :
    trimNewline (wrapperText components) = wrapperText components := by
  have last : (wrapperText components).toList.getLast? = some '>' := by
    have ending : "\n\t</body>\n</html>".toList.getLast? = some '>' := by decide
    unfold wrapperText
    rw [String.toList_append, List.getLast?_append, ending, Option.some_or]
  rw [trimNewline, last, if_neg (by decide)]

theorem Engine.Substitutes.parses {template : String}
    {segments : List Segment}
    (substitutes : engine.Substitutes template segments) :
    engine.Parses template :=
  ⟨_, substitutes.2⟩

theorem Engine.Substitutes.written {template : String}
    {segments : List Segment}
    (substitutes : engine.Substitutes template segments) :
    engine.written template context =
      trimNewline (expand (Field.value context) segments) := by
  rw [Engine.written, substitutes.2]

theorem Engine.Wraps.written (wrapper : engine.Wraps) :
    engine.written htmlWrapperTemplate context =
      wrapperText context.htmlComponents := by
  rw [Engine.written, wrapper]
  exact trimNewline_wrapperText context.htmlComponents

theorem textParts_segments {segments : List Segment}
    (text : context.text ≠ "")
    (template : engine.Substitutes context.textTemplate segments) :
    Packager.AllParse engine (Packager.textExecutions context) ∧
      Packager.textParts engine context = [⟨"text/plain",
        trimNewline (expand (Field.value context) segments)⟩] := by
  constructor
  · intro execution member
    rw [Packager.textExecutions, if_neg text, List.mem_singleton] at member
    rw [member]
    exact template.parses
  · rw [Packager.textParts, if_neg text, template.written]

theorem htmlParts_segments {segments : List Segment}
    (html : context.html ≠ "")
    (template : engine.Substitutes context.htmlTemplate segments)
    (wrapper : engine.Wraps) :
    Packager.AllParse engine (Packager.htmlExecutions engine context) ∧
      Packager.htmlParts engine context = [⟨"text/html",
        htmlText context (Field.value context.escape) segments⟩] := by
  constructor
  · intro execution member
    rw [Packager.htmlExecutions, if_neg html, List.mem_cons,
      List.mem_singleton] at member
    rcases member with same | same
    · rw [same]
      exact template.parses
    · rw [same]
      exact ⟨_, wrapper⟩
  · rw [Packager.htmlParts, if_neg html, wrapper.written]
    have body : engine.written context.htmlTemplate context.escape =
        trimNewline (expand (Field.value context.escape) segments) :=
      template.written
    rw [htmlText, ← body]
    rfl

theorem compileParts_segments {textSegments htmlSegments : List Segment}
    (text : context.text ≠ "") (html : context.html ≠ "")
    (textTemplate : engine.Substitutes context.textTemplate textSegments)
    (htmlTemplate : engine.Substitutes context.htmlTemplate htmlSegments)
    (wrapper : engine.Wraps) {parts : List Mail.Part} :
    Packager.compileParts engine context = .ok parts ↔
      engine.Parses context.endorsement ∧
      parts = [
        ⟨"text/plain", trimNewline (expand
          (Field.value (Packager.endorsed engine context)) textSegments)⟩,
        ⟨"text/html", htmlText context
          (Field.value (Packager.endorsed engine context).escape)
          htmlSegments⟩] := by
  obtain ⟨textsParse, texts⟩ := @textParts_segments engine
    (Packager.endorsed engine context) textSegments text textTemplate
  obtain ⟨htmlsParse, htmls⟩ := @htmlParts_segments engine
    (Packager.endorsed engine context) htmlSegments html htmlTemplate wrapper
  rw [Packager.compileParts_ok, texts, htmls]
  constructor
  · intro compiled
    exact ⟨compiled.1.1, compiled.2.symm⟩
  · intro compiled
    exact ⟨⟨compiled.1, textsParse, htmlsParse⟩, compiled.2.symm⟩

end Parts

/-- No reference in the HTML template is to a field that is left out and has
something to escape. -/
def NothingOverlooked (context : MessageContext) (segments : List Segment) :
    Prop :=
  ∀ field ∈ Field.overlooked, Segment.reference field ∈ segments →
    Harmless (field.value context)

section Fields

variable {context : MessageContext}

theorem value_escape_le (field : Field) :
    (field.value context.escape).length ≤
      (escapedValue context field).length := by
  rw [Field.value_escape, escapedValue]
  by_cases isMarkup : field ∈ Field.markup
  · rw [if_pos (.inl isMarkup), if_pos isMarkup]
  · rw [if_neg isMarkup]
    split
    · exact escapeString_le _
    · exact Nat.le_refl _

theorem overlooked_not_markup {field : Field}
    (overlooked : field ∈ Field.overlooked) : field ∉ Field.markup := by
  cases field <;> revert overlooked <;> decide

theorem expand_escape {segments : List Segment}
    (nothing : NothingOverlooked context segments) :
    expand (Field.value context.escape) segments =
      expand (escapedValue context) segments := by
  apply expand_congr
  intro field member
  rw [Field.value_escape, escapedValue]
  by_cases isMarkup : field ∈ Field.markup
  · rw [if_pos (.inl isMarkup), if_pos isMarkup]
  · rw [if_neg isMarkup]
    split
    · rename_i left_out
      have overlooked := left_out.resolve_left isMarkup
      rw [escapeString_harmless (nothing field overlooked member)]
    · rfl

/-- Something that is left out makes the text too short by three. -/
theorem reads_escape_iff {segments : List Segment} :
    Reads Field.markup (escapedValue context) segments
        (trimNewline (expand (Field.value context.escape) segments)) ↔
      NothingOverlooked context segments ∧
        KeepsValues Field.markup (escapedValue context) segments := by
  constructor
  · intro reads
    have nothing : NothingOverlooked context segments := by
      intro field overlooked member
      by_contra harmful
      have longer : (field.value context.escape).length + 3 ≤
          (escapedValue context field).length := by
        rw [Field.value_escape, if_pos (.inr overlooked), escapedValue,
          if_neg (overlooked_not_markup overlooked)]
        exact escapeString_longer harmful
      have whole := expand_length_longer value_escape_le member longer
      have read := reads.length_le
      have trimmed := (trimNewline_length
        (expand (Field.value context.escape) segments)).1
      omega
    rw [expand_escape nothing, reads_trimNewline_iff] at reads
    exact ⟨nothing, reads⟩
  · rintro ⟨nothing, keeps⟩
    rw [expand_escape nothing]
    exact reads_trimNewline_iff.mpr keeps

end Fields

/-- Every reference is escaped once exactly if none of the fields that `Escape`
leaves out has something to escape, and no value loses its last newline. -/
theorem escapedOnce_iff (engine : Engine) (context : MessageContext)
    (textSegments htmlSegments : List Segment)
    (text : context.text ≠ "") (html : context.html ≠ "")
    (textTemplate : engine.Substitutes context.textTemplate textSegments)
    (htmlTemplate : engine.Substitutes context.htmlTemplate htmlSegments)
    (wrapper : engine.Wraps) :
    EscapedOnce engine context textSegments htmlSegments ↔
      ¬ engine.Parses context.endorsement ∨
        (NothingOverlooked context htmlSegments ∧
          KeepsValues [] (Field.value (Packager.endorsed engine context))
            textSegments ∧
          KeepsValues Field.markup
            (escapedValue (Packager.endorsed engine context))
            htmlSegments) := by
  have compiled := @compileParts_segments engine context textSegments
    htmlSegments text html textTemplate htmlTemplate wrapper
  have same_fields : NothingOverlooked (Packager.endorsed engine context)
      htmlSegments ↔ NothingOverlooked context htmlSegments := by
    unfold NothingOverlooked
    refine forall₂_congr ?_
    intro field overlooked
    rw [Field.value_endorsed engine context overlooked]
  rw [← same_fields, and_left_comm, ← reads_escape_iff,
    ← reads_trimNewline_iff]
  constructor
  · intro escaped
    by_cases parses : engine.Parses context.endorsement
    · refine .inr ?_
      obtain ⟨plain, body, parts, plainReads, bodyReads⟩ :=
        escaped _ (compiled.mpr ⟨parses, rfl⟩)
      simp only [List.cons.injEq, Mail.Part.mk.injEq] at parts
      rw [parts.1.2, wrapperText_injective parts.2.1.2]
      exact ⟨plainReads, bodyReads⟩
    · exact .inl parses
  · intro condition parts ok
    obtain ⟨parses, same⟩ := compiled.mp ok
    obtain ⟨plainReads, bodyReads⟩ :=
      condition.resolve_left (not_not_intro parses)
    exact ⟨_, _, same, plainReads, bodyReads⟩

/-! ## A sample -/

/-- An engine for a few templates and the wrapper. -/
def engineFor (known : List (List Segment)) : Engine := fun template =>
  if template = htmlWrapperTemplate then
    .ok fun context => (wrapperText context.htmlComponents, none)
  else
    match known.find? fun segments => templateSource segments == template with
    | some segments => .ok fun context =>
        (expand (Field.value context) segments, none)
    | none => .error "unknown template"

theorem engineFor_wraps (known : List (List Segment)) :
    (engineFor known).Wraps :=
  if_pos rfl

theorem engineFor_substitutes {known : List (List Segment)}
    {segments : List Segment}
    (other : templateSource segments ≠ htmlWrapperTemplate)
    (found : known.find? (fun segments' =>
      templateSource segments' == templateSource segments) = some segments) :
    (engineFor known).Substitutes (templateSource segments) segments := by
  refine ⟨rfl, ?_⟩
  rw [engineFor, if_neg other, found]

def greeting : List Segment :=
  [.literal "<p>Dear ", .reference .organizationRole, .literal ": ",
    .reference .text, .literal "</p>"]

def textOnly : List Segment := [.reference .text]

/-- A message for a role, with a text that has to be escaped. -/
def contextFor (role : String) : MessageContext :=
  messageContext
    ⟨{ sampleOptions with
        text := "1 < 2"
        html := ⟨"<b>1</b>", "", "", ""⟩
        role := role },
      "user", "me@example.com", ⟨"", "", ""⟩, ⟨"", ""⟩, "client", "message",
      ""⟩
    "sender" ⟨"", templateSource textOnly, templateSource greeting⟩ "id"

def greetingEngine : Engine := engineFor [[], textOnly, greeting]

theorem escapedOnce_manager :
    EscapedOnce greetingEngine (contextFor "OrgManager") textOnly greeting ↔
      ¬ greetingEngine.Parses (contextFor "OrgManager").endorsement ∨
        (NothingOverlooked (contextFor "OrgManager") greeting ∧
          KeepsValues [] (Field.value
            (Packager.endorsed greetingEngine (contextFor "OrgManager")))
            textOnly ∧
          KeepsValues Field.markup (escapedValue
            (Packager.endorsed greetingEngine (contextFor "OrgManager")))
            greeting) :=
  escapedOnce_iff greetingEngine (contextFor "OrgManager") textOnly greeting
    (by decide) (by decide)
    (engineFor_substitutes (by decide +kernel) (by decide +kernel))
    (engineFor_substitutes (by decide +kernel) (by decide +kernel))
    (engineFor_wraps _)

/-- A role is written as it is, next to a text that is escaped. -/
theorem role_not_escaped :
    Packager.compileParts greetingEngine (contextFor "<img src=x>") = .ok [
      ⟨"text/plain", "1 < 2"⟩,
      ⟨"text/html", "\n<head></head>\n<html>\n\t<body >\n\t\t" ++
        "<p>Dear <img src=x>: 1 &lt; 2</p>\n\t</body>\n</html>"⟩] ∧
    ¬ EscapedOnce greetingEngine (contextFor "<img src=x>") textOnly
      greeting := by
  have compiled : Packager.compileParts greetingEngine
      (contextFor "<img src=x>") = .ok [
        ⟨"text/plain", "1 < 2"⟩,
        ⟨"text/html", "\n<head></head>\n<html>\n\t<body >\n\t\t" ++
          "<p>Dear <img src=x>: 1 &lt; 2</p>\n\t</body>\n</html>"⟩] := by
    decide +kernel
  refine ⟨compiled, ?_⟩
  intro escaped
  obtain ⟨plain, body, parts, _, reads⟩ := escaped _ compiled
  simp only [List.cons.injEq, Mail.Part.mk.injEq] at parts
  have written : wrapperText { (contextFor "<img src=x>").htmlComponents with
      bodyContent := "<p>Dear <img src=x>: 1 &lt; 2</p>" } =
    wrapperText { (contextFor "<img src=x>").htmlComponents with
      bodyContent := body } := by
    rw [← parts.2.1.2]
    decide +kernel
  have short := reads.length_le
  rw [← wrapperText_injective written] at short
  revert short
  decide +kernel

end Notifications.Postal
