import Notifications.Lib.JsonValues
import Notifications.Models.Seeding
import Notifications.Web.Patching
import Notifications.Web.RoundTrip
import Notifications.Web.ErrorWriter

/-!
# Templates that are read back

`NewTemplate`, and the handler behind `GET /templates/{template_id}`.  The
metadata of a body is stored as the text it has there, whatever value that is;
the handler reads the text into a map.  Only an object or `null` gets that far,
and the error writer panics for anything else.
-/

set_option autoImplicit false

namespace Notifications.Web

open Notifications.Lib Notifications.Models Notifications.Services

/-- The standard library's functions, on the texts of templates. -/
structure TemplateLibrary extends Library where
  /-- the text that a value of the body has there -/
  raw : Json → String
  /-- the value of a text that `encoding/json` can read -/
  read : String → Option Json
  /-- the literal that `encoding/json` writes for the `float64` of a literal -/
  literal : String → String
  /-- `Parse` of `text/template` takes the text -/
  parses : String → Bool

section Collated

variable [Collation]

/-! ## Validation -/

namespace Valiant

/-- An error of `Validate`, by its type. -/
inductive Failure where
  /-- `RequiredFieldError` -/
  | required (text : String)
  | other (text : String)
  deriving DecidableEq, Repr

def Failure.text : Failure → String
  | required text => text
  | other text => text

/-- `Validate`, for a caller that looks at the type of the error. -/
def validateTyped {α : Type} (library : Library) (texts : Texts)
    (fields : List (Json.Field α)) (required : List String) (body : Body)
    (typed : α) : Prog (Except Failure α) :=
  match body.first.bind fun json => Json.decodeStruct fields json typed with
  | none => pure (.error (.other (texts.decoder body)))
  | some typed =>
      match body.first with
      | some (.object members) =>
          if Json.membersRepresentable library.float64 members then
            match validateRequired required members with
            | some text => pure (.error (.required text))
            | none => do
                let order ← Program.perform (Op.iterate (Json.keys members))
                match reportExtraKeys texts (fields.map Json.Field.name)
                    order.1 with
                | some text => pure (.error (.other text))
                | none => pure (.ok typed)
          else
            pure (.error (.other (texts.decoder body)))
      | _ => .panic interfaceConversion

section Typed

variable {α : Type} {library : Library} {texts : Texts}
  {fields : List (Json.Field α)} {required : List String} {body : Body}
  {typed : α}

omit [Collation] in
/-- The two do the same calls, and the texts of their errors are the same. -/
theorem validate_eq :
    validate library texts fields required body typed = (do
      let result ← validateTyped library texts fields required body typed
      pure (result.mapError Failure.text)) := by
  rw [validate, validateTyped]
  cases body.first.bind fun json => Json.decodeStruct fields json typed with
  | none => rfl
  | some value =>
      cases body.first with
      | none => rfl
      | some json =>
          cases json with
          | object members =>
              dsimp only
              split
              · cases validateRequired required members with
                | some text => rfl
                | none =>
                    dsimp only
                    rw [Program.bind_assoc]
                    congr 1
                    funext order
                    cases reportExtraKeys texts (fields.map Json.Field.name)
                        order.1 with
                    | some text => rfl
                    | none => rfl
              · rfl
          | null => rfl
          | bool flag => rfl
          | number literal => rfl
          | string text => rfl
          | array elements => rfl

theorem validateTyped_accepted {environment : Environment}
    {world after : World} {decoded : α}
    (ran : (validateTyped library texts fields required body typed).run
      (World.handle environment) world = (some (.ok decoded), after)) :
    after = world ∧ ∃ members, body.first = some (.object members) ∧
      Json.decodeStruct fields (.object members) typed = some decoded ∧
      Json.membersRepresentable library.float64 members = true := by
  rw [validateTyped] at ran
  cases first : body.first with
  | none =>
      rw [first] at ran
      cases ran
  | some json =>
      rw [first, Option.bind_some] at ran
      cases decodes : Json.decodeStruct fields json typed with
      | none =>
          rw [decodes] at ran
          cases ran
      | some value =>
          rw [decodes] at ran
          cases json with
          | object members =>
              dsimp only at ran
              split at ran
              · rename_i representable
                cases missing : validateRequired required members with
                | some text =>
                    rw [missing] at ran
                    cases ran
                | none =>
                    rw [missing] at ran
                    simp only [Program.perform_bind, Program.run_call,
                      World.handle] at ran
                    split at ran
                    · cases ran
                    · cases ran
                      exact ⟨rfl, members, rfl, decodes, representable⟩
              · cases ran
          | null => cases ran
          | bool flag => cases ran
          | number literal => cases ran
          | string text => cases ran
          | array elements => cases ran

end Typed

end Valiant

/-! ## `NewTemplate` -/

/-- `params.Template`, as it is decoded. -/
structure SentTemplate where
  name : String
  text : String
  html : String
  subject : String
  /-- the value that a `json.RawMessage` is the text of; `none` is nil -/
  metadata : Option Json

def SentTemplate.zero : SentTemplate := ⟨"", "", "", "", none⟩

def templateFields : List (Json.Field SentTemplate) :=
  [ ⟨"name", fun json template => do
      some { template with name := ← json.decodeString template.name }⟩,
    ⟨"text", fun json template => do
      some { template with text := ← json.decodeString template.text }⟩,
    ⟨"html", fun json template => do
      some { template with html := ← json.decodeString template.html }⟩,
    ⟨"subject", fun json template => do
      some { template with
        subject := ← json.decodeString template.subject }⟩,
    -- `null` is a text as well
    ⟨"metadata", fun json template =>
      some { template with metadata := some json }⟩ ]

/-- The fields with `validate-required:"true"`. -/
def requiredFields : List String := ["name", "html"]

/-- The default of `setDefaults`. -/
def defaultSubject : String := "\x7b\x7b.Subject\x7d\x7d"

section NewTemplate

variable (library : TemplateLibrary)

def SentTemplate.toParams (template : SentTemplate) : TemplateParams where
  name := template.name
  text := template.text
  html := template.html
  subject := template.subject
  metadata := template.metadata.elim "\x7b\x7d" library.raw

/-- The map of `validateSyntax`. -/
def TemplateParams.contents (template : TemplateParams) : String → String
  | "Subject" => template.subject
  | "Text" => template.text
  | "HTML" => template.html
  | _ => ""

/-- The loop of `validateSyntax`. -/
def TemplateParams.syntaxError (template : TemplateParams) :
    List String → Option Refusal
  | [] => none
  | field :: rest =>
      if library.parses (template.contents field) then
        template.syntaxError rest
      else
        some (.validation
          [field ++ " syntax is malformed please check your braces"])

def TemplateParams.validateSyntax (template : TemplateParams) :
    Prog (Option Refusal) := do
  let order ← Program.perform (Op.iterate ["Subject", "Text", "HTML"])
  pure (template.syntaxError library order.1)

def TemplateParams.setDefaults (template : TemplateParams) :
    TemplateParams :=
  if template.subject = "" then
    { template with subject := defaultSubject }
  else
    template

def newTemplate (texts : Valiant.Texts) (body : Body) :
    Prog (Except Refusal TemplateParams) := do
  match ← Valiant.validateTyped library.toLibrary texts templateFields
      requiredFields body .zero with
  | .error (.required text) => pure (.error (.validation [text]))
  | .error (.other _) => pure (.error .parse)
  | .ok template =>
      match ← (template.toParams library).validateSyntax library with
      | some refusal => pure (.error refusal)
      | none => pure (.ok (template.toParams library).setDefaults)

/-- `CreateTemplate.ServeHTTP`, with the body. -/
def postTemplate (texts : Valiant.Texts) (body : Body) :
    Prog (Option Refusal) := do
  createTemplate (← newTemplate library texts body)

end NewTemplate

def sentTemplate (body : Body) : Option SentTemplate :=
  body.first.bind fun json => Json.decodeStruct templateFields json .zero

/-! ## `GET /templates/{template_id}` -/

structure TemplateOutput where
  name : String
  subject : String
  html : String
  text : String
  /-- a `map[string]interface{}`; `none` is nil -/
  metadata : Option (List (String × Json))

section GetTemplates

variable (library : TemplateLibrary)

/-- `json.Marshal` of an output. -/
def TemplateOutput.encode (output : TemplateOutput) : Json :=
  .object [("name", .string output.name),
    ("subject", .string output.subject),
    ("html", .string output.html),
    ("text", .string output.text),
    ("metadata", output.metadata.elim .null fun members =>
      Json.rewritten library.literal (.object members))]

/-- `json.Unmarshal` into a nil map, which `null` leaves as it is. -/
def unmarshalMetadata (text : String) :
    Option (Option (List (String × Json))) :=
  match library.read text with
  | some .null => some none
  | some json => (json.decodeMap library.float64).map some
  | none => none

/-- `GetTemplates.ServeHTTP`, up to the error writer. -/
def getTemplates (templateID : String) : Prog (Except Refusal Json) := do
  match ← TemplatesRepo.findByID .connection templateID with
  | (_, some error) => pure (.error (.failed error))
  | (template, none) =>
      match unmarshalMetadata library template.metadata with
      | none => pure (.error .decoder)
      | some metadata =>
          let output : TemplateOutput :=
            { name := template.name
              subject := template.subject
              html := template.html
              text := template.text
              metadata := metadata }
          pure (.ok (output.encode library))

end GetTemplates

/-- The code and the document that `ServeHTTP` writes; `none` is a panic. -/
def answerOf : Option (Except Refusal Json) → Option (Nat × Json)
  | none => none
  | some (.ok document) => some (200, document)
  | some (.error refusal) =>
      (ErrorWriter.write refusal).map fun written =>
        (written.code,
          .object [("errors", .array (written.errors.map .string))])

/-! ## What comes back -/

/-- The metadata that was sent, or `{}`. -/
def SentTemplate.document (sent : SentTemplate) : Json :=
  sent.metadata.getD (.object [])

/-- The answer is the template that was sent, with its defaults. -/
def ReadBack (sent : SentTemplate) (answer : Option (Nat × Json)) : Prop :=
  ∃ members metadata, answer = some (200, .object members) ∧
    Json.lookup "name" members = some (.string sent.name) ∧
    Json.lookup "html" members = some (.string sent.html) ∧
    Json.lookup "text" members = some (.string sent.text) ∧
    Json.lookup "subject" members = some (.string
      (if sent.subject = "" then defaultSubject else sent.subject)) ∧
    Json.lookup "metadata" members = some metadata ∧
    metadata.Equal sent.document

/-- There is no metadata, or it is `null` or an object of which every number
keeps its value in a `float64`. -/
def Readable (library : TemplateLibrary) : Option Json → Prop
  | none => True
  | some .null => True
  | some (.object members) => Json.Kept library.literal (.object members)
  | some _ => False

/-! ## Accepted bodies -/

omit [Collation] in
theorem decodeStruct_invariant {α : Type} {fields : List (Json.Field α)}
    {invariant : α → Prop} {members : List (String × Json)}
    (preserved : ∀ field ∈ fields, ∀ member ∈ members, ∀ value next,
      invariant value → field.decode member.2 value = some next →
        invariant next)
    {start final : α} (holds : invariant start)
    (decodes : Json.decodeStruct fields (.object members) start =
      some final) : invariant final := by
  refine foldlM_invariant ?_ holds decodes
  intro member present value next holds stepped
  rw [Json.decodeMember] at stepped
  cases chosen : Json.fieldFor fields member.1 with
  | none =>
      rw [chosen] at stepped
      cases stepped
      exact holds
  | some field =>
      rw [chosen] at stepped
      exact preserved field (Json.mem_of_fieldFor chosen) member present value
        next holds stepped

omit [Collation] in
theorem decode_metadata {members : List (String × Json)}
    {sent : SentTemplate}
    (decodes : Json.decodeStruct templateFields (.object members) .zero =
      some sent) :
    ∀ json, sent.metadata = some json → ∃ member ∈ members,
      member.2 = json := by
  refine @decodeStruct_invariant _ _ (fun value : SentTemplate =>
    ∀ json, value.metadata = some json → ∃ member ∈ members,
      member.2 = json) _ ?_ _ _ ?_ decodes
  · intro field listed member present value next holds stepped
    simp only [templateFields, List.mem_cons, List.not_mem_nil,
      or_false] at listed
    rcases listed with rfl | rfl | rfl | rfl | rfl
    · obtain ⟨text, _, same⟩ := Option.bind_eq_some_iff.mp stepped
      cases same
      exact holds
    · obtain ⟨text, _, same⟩ := Option.bind_eq_some_iff.mp stepped
      cases same
      exact holds
    · obtain ⟨text, _, same⟩ := Option.bind_eq_some_iff.mp stepped
      cases same
      exact holds
    · obtain ⟨text, _, same⟩ := Option.bind_eq_some_iff.mp stepped
      cases same
      exact holds
    · cases stepped
      intro json same
      cases same
      exact ⟨member, present, rfl⟩
  · intro json wrong
    cases wrong

section Accepted

variable {library : TemplateLibrary} {texts : Valiant.Texts} {body : Body}
  {environment : Environment} {world after : World}
  {parameters : TemplateParams}

/-- What `NewTemplate` has made of a body that it takes: the template that was
sent, with its defaults, and metadata that can be read into a map if it is an
object. -/
theorem newTemplate_accepted
    (ran : (newTemplate library texts body).run (World.handle environment)
      world = (some (.ok parameters), after)) :
    after = world ∧ ∃ sent, sentTemplate body = some sent ∧
      parameters = (sent.toParams library).setDefaults ∧
      ∀ metadata, sent.metadata = some metadata →
        Json.representable library.float64 metadata = true := by
  rw [newTemplate] at ran
  obtain ⟨result, between, validated, rest⟩ := Program.run_bind_some _ ran
  cases result with
  | error failure => cases failure <;> cases rest
  | ok sent =>
      obtain ⟨rfl, members, first, decodes, representable⟩ :=
        Valiant.validateTyped_accepted validated
      obtain ⟨refused, last, parsed, rest⟩ := Program.run_bind_some _ rest
      cases refused with
      | some refusal => cases rest
      | none =>
        -- the loop over the map leaves the world as it is
        cases (congrArg Prod.snd parsed : between = last)
        cases rest
        refine ⟨rfl, sent, ?_, rfl, ?_⟩
        · rw [sentTemplate, first]
          exact decodes
        intro metadata same
        obtain ⟨member, present, rfl⟩ := decode_metadata decodes _ same
        exact membersRepresentable_iff.mp representable member present

theorem createTemplate_stored {id : String}
    (drawn : environment.serve world.services .newGUID = .ok id)
    (fresh : world.database.tables.lookup .templates
      (Collation.key [id]) = none)
    (ran : (createTemplate (.ok parameters)).run (World.handle environment)
      world = (some none, after)) :
    ∃ row : Template,
      after.database.tables.lookup .templates (Collation.key [id]) = some row ∧
        row.name = parameters.name ∧ row.text = parameters.text ∧
        row.html = parameters.html ∧ row.subject = parameters.subject ∧
        row.metadata = parameters.metadata := by
  rw [createTemplate] at ran
  obtain ⟨result, created, ran, rest⟩ := Program.run_bind_some _ ran
  cases result with
  | error error => cases rest
  | ok _ =>
      cases rest
      rw [TemplateCreator.create] at ran
      obtain ⟨⟨template, err⟩, inserted, ran, rest⟩ :=
        Program.run_bind_some _ ran
      cases err with
      | some error => cases rest
      | none =>
          cases rest
          rw [TemplatesRepo.create, Program.perform_bind,
            Program.run_call] at ran
          simp only [World.handle, drawn] at ran
          obtain ⟨stored, database, count, ran', stores, _⟩ :=
            @insertTemplate_stores _ environment world.database
              { parameters.toModel with id := id } rfl fresh
              { world with services := world.services + 1 } rfl
          rw [ran'] at ran
          cases ran
          obtain ⟨_, ⟨number, now, rfl⟩, puts⟩ := stores rfl
          exact ⟨_, puts.stored, rfl, rfl, rfl, rfl, rfl⟩

end Accepted

/-! ## Round trips -/

section RoundTrips

variable {library : TemplateLibrary}

theorem run_getTemplates {environment : Environment}
    (faultless : Faultless environment) {world : World} {id : String}
    {row : Template}
    (found : world.database.tables.lookup .templates
      (Collation.key [id]) = some row) :
    ((getTemplates library id).run (World.handle environment) world).1 =
      some ((unmarshalMetadata library row.metadata).elim (.error .decoder)
        fun metadata => .ok (TemplateOutput.encode library
          ⟨row.name, row.subject, row.html, row.text, metadata⟩)) := by
  have read : world.read .connection = some world.database := rfl
  have ran := @TemplatesRepo.run_findByID _ environment _ _ _ read id
  rw [found, faultless] at ran
  rw [getTemplates, Program.run_bind_of _ ran]
  simp only [sought]
  cases unmarshalMetadata library row.metadata with
  | none => rfl
  | some metadata => rfl

omit [Collation] in
theorem lookup_encode (output : TemplateOutput) :
    ∃ members, output.encode library = .object members ∧
      Json.lookup "name" members = some (.string output.name) ∧
      Json.lookup "html" members = some (.string output.html) ∧
      Json.lookup "text" members = some (.string output.text) ∧
      Json.lookup "subject" members = some (.string output.subject) ∧
      Json.lookup "metadata" members = some
        (output.metadata.elim .null fun members =>
          Json.rewritten library.literal (.object members)) := by
  exact ⟨_, rfl, rfl, rfl, rfl, rfl, rfl⟩

omit [Collation] in
theorem setDefaults_eq (parameters : TemplateParams) :
    parameters.setDefaults = { parameters with
      subject := if parameters.subject = "" then defaultSubject
        else parameters.subject } := by
  rw [TemplateParams.setDefaults]
  split <;> rfl

/-- The map that a value is; `none` is an error. -/
def asMap : Json → Option (Option (List (String × Json)))
  | .null => some none
  | .object members => some (some members)
  | _ => none

omit [Collation] in
theorem unmarshalMetadata_of_read {text : String} {json : Json}
    (reads : library.read text = some json)
    (representable : Json.representable library.float64 json = true) :
    unmarshalMetadata library text = asMap json := by
  rw [unmarshalMetadata, reads]
  cases json with
  | null => rfl
  | object members =>
      rw [Json.representable] at representable
      simp only [Json.decodeMap, if_pos representable, Option.map_some, asMap]
  | bool value => rfl
  | number literal => rfl
  | string value => rfl
  | array elements => rfl

omit [Collation] in
/-- Metadata that is written again equals what was sent. -/
theorem readable_iff (sent : SentTemplate) :
    Readable library sent.metadata ↔
      ∃ metadata, asMap sent.document = some metadata ∧
        Json.Equal (metadata.elim .null fun members =>
          Json.rewritten library.literal (.object members)) sent.document := by
  rw [SentTemplate.document]
  cases sent.metadata with
  | none =>
      constructor
      · intro _
        refine ⟨some [], rfl, Json.rewritten_equal_iff.mpr ?_⟩
        exact .object (by simp [Json.lookup])
      · intro _
        trivial
  | some json =>
      rw [Option.getD_some]
      cases json with
      | null =>
          constructor
          · intro _
            exact ⟨none, rfl, .null⟩
          · intro _
            trivial
      | object members =>
          constructor
          · intro kept
            exact ⟨some members, rfl, Json.rewritten_equal_iff.mpr kept⟩
          · intro read
            obtain ⟨metadata, same, equal⟩ := read
            cases same
            exact Json.rewritten_equal_iff.mp equal
      | bool value => simp [Readable, asMap]
      | number literal => simp [Readable, asMap]
      | string value => simp [Readable, asMap]
      | array elements => simp [Readable, asMap]

end RoundTrips

/-- Whatever body `POST /templates` takes and stores, its template comes back
exactly when the metadata is one that can be read. -/
theorem created_template_reads_back_iff (library : TemplateLibrary)
    (texts : Valiant.Texts) (body : Body) (environment reading : Environment)
    (world created later : World) (id : String)
    (empty : library.read "\x7b\x7d" = some (.object []))
    (raw : ∀ sent json, sentTemplate body = some sent →
      sent.metadata = some json → library.read (library.raw json) = some json)
    (drawn : environment.serve world.services .newGUID = .ok id)
    (fresh : world.database.tables.lookup .templates
      (Collation.key [id]) = none)
    (posted : (postTemplate library texts body).run
      (World.handle environment) world = (some none, created))
    (kept : later.database.tables.lookup .templates (Collation.key [id]) =
      created.database.tables.lookup .templates (Collation.key [id]))
    (faultless : Faultless reading) :
    ∃ sent, sentTemplate body = some sent ∧
      (ReadBack sent (answerOf ((getTemplates library id).run
          (World.handle reading) later).1) ↔
        Readable library sent.metadata) := by
  rw [postTemplate] at posted
  obtain ⟨parsed, between, accepted, stored⟩ := Program.run_bind_some _ posted
  cases parsed with
  | error refusal => cases stored
  | ok parameters =>
      obtain ⟨rfl, sent, decoded, rfl, representable⟩ :=
        newTemplate_accepted accepted
      obtain ⟨row, found, name, text, html, subject, metadata⟩ :=
        createTemplate_stored drawn fresh stored
      refine ⟨sent, decoded, ?_⟩
      rw [setDefaults_eq] at name text html subject metadata
      have unmarshalled : unmarshalMetadata library row.metadata =
          asMap sent.document := by
        rw [metadata, SentTemplate.toParams, SentTemplate.document]
        cases same : sent.metadata with
        | none => exact unmarshalMetadata_of_read empty rfl
        | some json =>
            exact unmarshalMetadata_of_read (raw sent json decoded same)
              (representable json same)
      rw [run_getTemplates faultless (kept.trans found), unmarshalled,
        readable_iff]
      cases asMap sent.document with
      | none =>
          constructor
          · intro facts
            obtain ⟨_, _, wrong, _⟩ := facts
            cases wrong
          · intro facts
            obtain ⟨_, wrong, _⟩ := facts
            cases wrong
      | some members =>
          obtain ⟨listed, encoded, outputs⟩ := @lookup_encode library
            ⟨row.name, row.subject, row.html, row.text, members⟩
          rw [name, html, text, subject] at outputs
          constructor
          · intro facts
            obtain ⟨answered, written, same, _, _, _, _, last, equal⟩ := facts
            refine ⟨members, rfl, ?_⟩
            simp only [Option.elim_some, answerOf, encoded, Option.some.injEq,
              Prod.mk.injEq, Json.object.injEq, true_and] at same
            rw [← same, outputs.2.2.2.2, Option.some.injEq] at last
            exact last ▸ equal
          · intro read
            obtain ⟨metadata, same, equal⟩ := read
            cases same
            refine ⟨listed, _, ?_, outputs.1, outputs.2.1, outputs.2.2.1,
              outputs.2.2.2.1, outputs.2.2.2.2, equal⟩
            simp only [Option.elim_some, answerOf, encoded]

/-! ## Two bodies -/

def objectMetadata : Json := .object [("tags", .string "<h1>")]

def arrayMetadata : Json := .array [.number "1"]

def bodyWith (metadata : Json) : Body where
  first := some (.object [("name", .string "My template"),
    ("html", .string "<p>Message</p>"), ("metadata", metadata)])
  trailing := false

end Collated

attribute [local instance] Collation.binary

def sampleLibrary : TemplateLibrary where
  toLibrary := plainLibrary
  raw
    | .array _ => "[1]"
    | _ => "\x7b\"tags\": \"<h1>\"\x7d"
  read text :=
    if text = "[1]" then some arrayMetadata
    else if text = "\x7b\"tags\": \"<h1>\"\x7d" then some objectMetadata
    else if text = "\x7b\x7d" then some (.object [])
    else none
  literal text := text
  parses _ := true

theorem created_template_reads_back_iff_sample :
    ∃ sent, sentTemplate (bodyWith objectMetadata) = some sent ∧
      (ReadBack sent (answerOf ((getTemplates sampleLibrary "guid").run
          (World.handle .calm)
          ((postTemplate sampleLibrary plainTexts
            (bodyWith objectMetadata)).run (World.handle .calm)
              (World.start [])).2).1) ↔
        Readable sampleLibrary sent.metadata) := by
  refine created_template_reads_back_iff sampleLibrary plainTexts
    (bodyWith objectMetadata) .calm .calm (World.start []) _ _ "guid" rfl ?_
    rfl rfl (Prod.ext rfl rfl) rfl fun _ => rfl
  intro sent json decoded same
  cases decoded
  cases same
  rfl

/-- An array is taken and stored, and the request for it panics. -/
theorem array_metadata_panics :
    let posted := (postTemplate sampleLibrary plainTexts
      (bodyWith arrayMetadata)).run (World.handle .calm) (World.start [])
    let answer := answerOf ((getTemplates sampleLibrary "guid").run
      (World.handle .calm) posted.2).1
    posted.1 = some none ∧ answer = none ∧
      ∀ sent, sentTemplate (bodyWith arrayMetadata) = some sent →
        ¬ ReadBack sent answer := by
  refine ⟨rfl, rfl, ?_⟩
  intro sent _ facts
  obtain ⟨_, _, wrong, _⟩ := facts
  cases wrong

end Notifications.Web
