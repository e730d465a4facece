import Notifications.Web.Preferences

/-!
# The validator

Package `valiant`, for every struct type.  The body is decoded twice, into the
struct and into an `interface{}`, and the fields of the struct are looked up in
the second value: a required field by its name, a nested struct by its tag.  The
second value is taken for an object at every struct, which the first decoding
does not ensure.
-/

set_option autoImplicit false

namespace Notifications.Valiant

open Notifications.Lib Notifications.Web

structure NameLibrary extends Library where
  /-- one character for every orbit of `unicode.SimpleFold` -/
  fold : Char → Char
  /-- `unicode.ToLower` -/
  lower : Char → Char
  /-- `isValidTag` of `encoding/json` -/
  validTag : String → Bool
  /-- the verb `%q` -/
  quote : String → String

/-! ## Struct types -/

/-- A field of a struct, with what its tags say. -/
structure StructField where
  name : String
  exported : Bool
  /-- the `json` tag; empty if there is none -/
  tag : String
  /-- the `validate-required` tag -/
  required : Bool
  deriving DecidableEq, Repr

/-- The fields of a struct type, in their order. -/
inductive Fields where
  | nil
  /-- a scalar or a map, and the values that the decoder takes for it -/
  | plain (field : StructField) (takes : Json → Bool) (rest : Fields)
  | struct (field : StructField) (nested rest : Fields)

def Fields.infos : Fields → List StructField
  | .nil => []
  | .plain field _ rest => field :: rest.infos
  | .struct field _ rest => field :: rest.infos

/-- `strings.TrimSuffix`. -/
def trimSuffix (text ending : String) : String :=
  if ending.toList.isSuffixOf text.toList then
    String.ofList (text.toList.take (text.length - ending.length))
  else
    text

namespace StructField

def jsonName (field : StructField) : String :=
  let name := trimSuffix field.tag ",omitempty"
  if name ≠ "" then name else field.name

def tagName (field : StructField) : String :=
  String.ofList (field.tag.toList.takeWhile fun char => char ≠ ',')

end StructField

/-! ## The decoder -/

section Decoder

variable (library : NameLibrary)

def tagged (field : StructField) : Bool :=
  field.tagName ≠ "" && library.validTag field.tagName

/-- The name under which the decoder knows a field, if it does. -/
def decoderName (field : StructField) : Option String :=
  if !field.exported || field.tag = "-" then none
  else if tagged library field then some field.tagName
  else some field.name

/-- Of fields with one name a tagged one remains, if it is the only one. -/
def dominant (all : List StructField) (field : StructField) : Bool :=
  (decoderName library field).isSome && all.all fun other =>
    other.name = field.name ||
      decoderName library other ≠ decoderName library field ||
      (tagged library field && !tagged library other)

def decoderNames (all : List StructField) : List String :=
  (all.filter (dominant library all)).filterMap (decoderName library)

/-- `bytes.EqualFold`. -/
def equalFold (name key : String) : Bool :=
  name.toList.map library.fold == key.toList.map library.fold

/-- The name for a member: its very name, or else the first one that differs
only in case. -/
def nameFor (names : List String) (key : String) : Option String :=
  (names.find? fun name => name == key).or
    (names.find? fun name => equalFold library name key)

/-- A member with this name is decoded into the field. -/
def decodedInto (all : List StructField) (field : StructField)
    (key : String) : Bool :=
  dominant library all field &&
    nameFor library (decoderNames library all) key = decoderName library field

/-- `null` leaves a struct as it is. -/
def takesObject (each : String × Json → Bool) : Json → Bool
  | .object members => members.all each
  | .null => true
  | _ => false

/-- The value fits the field that the member is decoded into, if there is
one. -/
def Fields.takesMember (all : List StructField) :
    Fields → String × Json → Bool
  | .nil, _ => true
  | .plain field takes rest, member =>
      (!decodedInto library all field member.1 || takes member.2) &&
        rest.takesMember all member
  | .struct field nested rest, member =>
      (!decodedInto library all field member.1 ||
        takesObject (nested.takesMember nested.infos) member.2) &&
          rest.takesMember all member

def Fields.takes (fields : Fields) (json : Json) : Bool :=
  takesObject (fields.takesMember library fields.infos) json

end Decoder

/-! ## `Validate` -/

/-- The errors of `Validate`. -/
inductive Invalid where
  /-- an error of `encoding/json`, passed on -/
  | decoder
  /-- `RequiredFieldError` -/
  | required (text : String)
  /-- `ExtraFieldError` -/
  | extra (text : String)
  deriving DecidableEq, Repr

def validateRequiredField (field : StructField)
    (parentUntyped : List (String × Json)) : Option String :=
  if field.required && (Json.lookup field.jsonName parentUntyped).isNone then
    some ("Missing required field '" ++ field.jsonName ++ "'")
  else
    none

/-- `none` is a panic: the value of a nested struct is not an object, or the
field is not exported and has no `Interface`. -/
def Fields.validateRequired :
    Fields → List (String × Json) → Option (Option String)
  | .nil, _ => some none
  | .plain field _ rest, parentUntyped =>
      match validateRequiredField field parentUntyped with
      | some text => some (some text)
      | none => rest.validateRequired parentUntyped
  | .struct field nested rest, parentUntyped =>
      match validateRequiredField field parentUntyped with
      | some text => some (some text)
      | none =>
          if field.exported then
            match Json.lookup field.tag parentUntyped with
            | some (.object childUntyped) =>
                match nested.validateRequired childUntyped with
                | some none => rest.validateRequired parentUntyped
                | stopped => stopped
            | _ => none
          else
            none

section Extra

variable (library : NameLibrary)

def contains (values : List String) (element : String) : Bool :=
  values.any fun value =>
    value.toList.map library.lower == element.toList.map library.lower

/-- The last loop of `reportExtraKeys`. -/
def reportExtraKeys (expectedTags : List String) :
    List String → Option String
  | [] => none
  | tag :: rest =>
      if contains library expectedTags tag then
        reportExtraKeys expectedTags rest
      else
        some ("Extra field " ++ library.quote tag ++ " is not valid")

/-- Only the first value of the body is looked at. -/
def validate (fields : Fields) (body : Body) : Prog (Except Invalid Unit) :=
  match body.first with
  | none => pure (.error .decoder)
  | some json =>
      if fields.takes library json && json.representable library.float64 then
        match json with
        | .object untyped =>
            match fields.validateRequired untyped with
            | none => .panic interfaceConversion
            | some (some text) => pure (.error (.required text))
            | some none => do
                let order ← Program.perform (Op.iterate (Json.keys untyped))
                match reportExtraKeys library
                    (fields.infos.map StructField.jsonName) order.1 with
                | some text => pure (.error (.extra text))
                | none => pure (.ok ())
        | _ => .panic interfaceConversion
      else
        pure (.error .decoder)

end Extra

end Notifications.Valiant
