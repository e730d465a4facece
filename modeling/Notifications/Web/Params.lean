import Mathlib.Data.List.AList
import Notifications.Effects
import Notifications.Lib.Json

/-!
# The bodies of registrations

`NewRegistration` and `NewClientRegistration` with their `Validate` methods.  The
first decodes the kinds straight into `models.Kind`, which has no JSON tags, so
every column is a member that a client may send.  The second goes through a
struct of its own and checks the names of the members.

A function that ranges over a map is a program, because the order decides which
error it reports.
-/

set_option autoImplicit false

namespace Notifications.Web

open Notifications.Lib Notifications.Models

inductive Refusal where
  /-- `params.ParseError` -/
  | parse
  /-- `params.SchemaError` -/
  | schema (text : String)
  /-- `params.ValidationError` -/
  | validation (texts : List String)
  /-- an error of `encoding/json`, passed on -/
  | decoder
  /-- the authenticator's 403 -/
  | unauthorized
  /-- `postal.UAAScopesError` -/
  | scopes (text : String)
  /-- `params.TemplateCreateError` -/
  | templateCreate
  | failed (error : Error)
  deriving DecidableEq, Repr

structure Body where
  /-- the first value, if its text is well formed -/
  first : Option Json
  /-- something other than white space follows it -/
  trailing : Bool

structure Library where
  /-- `UnmarshalJSON` of `time.Time` -/
  unmarshalTime : Json → Option Int
  /-- the literal is in the range of a `float64` -/
  float64 : String → Bool

def interfaceConversion : String := "interface conversion"

/-! ## `PUT /registration` -/

section Registration

variable (library : Library)

/-- The fields of `models.Kind`, by their Go names. -/
def kindFields : List (Json.Field Kind) :=
  [ ⟨"Primary", fun json kind => do
      -- `Upsert` replaces the number
      some { kind with
        primary := (← json.decodeInt kind.primary).toNat }⟩,
    ⟨"ID", fun json kind => do
      some { kind with id := ← json.decodeString kind.id }⟩,
    ⟨"Description", fun json kind => do
      some { kind with description := ← json.decodeString kind.description }⟩,
    ⟨"Critical", fun json kind => do
      some { kind with critical := ← json.decodeBool kind.critical }⟩,
    ⟨"ClientID", fun json kind => do
      some { kind with clientID := ← json.decodeString kind.clientID }⟩,
    ⟨"CreatedAt", fun json kind => do
      some { kind with createdAt := ← library.unmarshalTime json }⟩,
    ⟨"UpdatedAt", fun json kind => do
      some { kind with updatedAt := ← library.unmarshalTime json }⟩,
    ⟨"TemplateID", fun json kind => do
      some { kind with templateID := ← json.decodeString kind.templateID }⟩ ]

structure Registration where
  sourceDescription : String
  kinds : Json.Slice Kind
  includesKinds : Bool

def Registration.zero : Registration := ⟨"", ⟨[], 0⟩, false⟩

def registrationFields : List (Json.Field Registration) :=
  [ ⟨"source_description", fun json registration => do
      some { registration with
        sourceDescription :=
          ← json.decodeString registration.sourceDescription }⟩,
    ⟨"kinds", fun json registration => do
      some { registration with
        kinds := ← Json.decodeSlice Table.kinds.zero
          (Json.decodeStruct (kindFields library)) json
          registration.kinds }⟩,
    ⟨"IncludesKinds", fun json registration => do
      some { registration with
        includesKinds := ← json.decodeBool registration.includesKinds }⟩ ]

def newRegistration (body : Body) : Except Refusal Registration :=
  match body.first with
  | none => .error .parse
  | some json =>
      match json.decodeMap library.float64 with
      | none => .error .parse
      | some hashParams =>
          match Json.decodeStruct (registrationFields library) json .zero with
          | none => .error .parse
          | some registration =>
              if (Json.lookup "kinds" hashParams).isSome then
                .ok { registration with includesKinds := true }
              else
                .ok registration

end Registration

/-- The regular expression `^[0-9a-zA-Z_\-.]+$`. -/
def kindIDFormat (id : String) : Bool :=
  id ≠ "" && id.toList.all fun char =>
    char.isAlphanum || char = '_' || char = '-' || char = '.'

namespace Registration

def idErrors (kind : Kind) : List String :=
  if kind.id = "" then ["\"kind.id\" is a required field"]
  else if !kindIDFormat kind.id then
    ["\"kind.id\" is improperly formatted"]
  else []

def descriptionErrors (kind : Kind) : List String :=
  if kind.description = "" then
    ["\"kind.description\" is a required field"]
  else []

/-- The loop of `Validate` stops at the first kind with an error. -/
def kindErrors : List Kind → List String
  | [] => []
  | kind :: rest =>
      match idErrors kind ++ descriptionErrors kind with
      | [] => kindErrors rest
      | errors => errors

def validate (registration : Registration) : Option Refusal :=
  let errors :=
    if registration.sourceDescription = "" then
      ["\"source_description\" is a required field"]
    else []
  match errors ++ kindErrors registration.kinds.values with
  | [] => none
  | errors => some (.validation errors)

end Registration

/-! ## `PUT /notifications` -/

structure NotificationStruct where
  id : String
  description : String
  critical : Bool
  deriving DecidableEq, Repr

/-- `map[string](*NotificationStruct)`. -/
abbrev NotificationMap : Type :=
  AList fun _ : String => Option NotificationStruct

structure ClientRegistration where
  sourceName : String
  notifications : NotificationMap

def ClientRegistration.zero : ClientRegistration := ⟨"", ∅⟩

def notificationFields : List (Json.Field NotificationStruct) :=
  [ ⟨"ID", fun json notification => do
      some { notification with id := ← json.decodeString notification.id }⟩,
    ⟨"description", fun json notification => do
      some { notification with
        description := ← json.decodeString notification.description }⟩,
    ⟨"critical", fun json notification => do
      some { notification with
        critical := ← json.decodeBool notification.critical }⟩ ]

/-- An entry of the map; every one starts as a nil pointer. -/
def decodePointer : Json → Option (Option NotificationStruct)
  | .null => some none
  | json => do
      some (some (← Json.decodeStruct notificationFields json ⟨"", "", false⟩))

/-- A second object adds to the map of the first. -/
def decodeNotifications : Json → NotificationMap → Option NotificationMap
  | .object members, notifications =>
      members.foldlM (fun notifications member => do
        some (notifications.insert member.1 (← decodePointer member.2)))
        notifications
  | .null, _ => some ∅
  | _, _ => none

def clientRegistrationFields : List (Json.Field ClientRegistration) :=
  [ ⟨"source_name", fun json registration => do
      some { registration with
        sourceName := ← json.decodeString registration.sourceName }⟩,
    ⟨"notifications", fun json registration => do
      some { registration with
        notifications :=
          ← decodeNotifications json registration.notifications }⟩ ]

def invalidProperty (name : String) : Refusal :=
  .schema ("\"" ++ name ++ "\" is not a valid property")

/-- The innermost loop of `strictValidateJSON`. -/
def strictProperties : List String → Option Refusal
  | [] => none
  | propertyName :: rest =>
      if propertyName = "description" ∨ propertyName = "critical" then
        strictProperties rest
      else
        some (invalidProperty propertyName)

def strictNotifications (notifications : List (String × Json)) :
    List String → Prog (Option Refusal)
  | [] => pure none
  | id :: rest =>
      match Json.lookup id notifications with
      | some .null => pure (some (.schema "notification must not be null"))
      | some (.object properties) => do
          let order ← Program.perform (Op.iterate (Json.keys properties))
          match strictProperties order.1 with
          | some refusal => pure (some refusal)
          | none => strictNotifications notifications rest
      | _ => .panic interfaceConversion

def strictKeys (members : List (String × Json)) :
    List String → Prog (Option Refusal)
  | [] => pure none
  | key :: rest =>
      if key = "source_name" then
        strictKeys members rest
      else if key = "notifications" then
        match Json.lookup key members with
        | some .null =>
            pure (some (.schema
              "only include \"notifications\" key when adding a notification\""))
        | some (.object notifications) => do
            let order ← Program.perform
              (Op.iterate (Json.keys notifications))
            match ← strictNotifications notifications order.1 with
            | some refusal => pure (some refusal)
            | none => strictKeys members rest
        | _ => .panic interfaceConversion
      else
        pure (some (invalidProperty key))

/-- `json.Unmarshal` wants nothing after the first value. -/
def strictValidateJSON (library : Library) (body : Body) :
    Prog (Option Refusal) :=
  match body.trailing, body.first.bind (Json.decodeMap library.float64) with
  | false, some members => do
      let order ← Program.perform (Op.iterate (Json.keys members))
      strictKeys members order.1
  | _, _ => pure (some .decoder)

/-- The loop that sets the IDs; `none` is a nil pointer. -/
def identify (notifications : NotificationMap) : Option NotificationMap :=
  notifications.keys.foldlM (fun identified id =>
    match identified.lookup id with
    | some (some notification) =>
        some (identified.insert id (some { notification with id := id }))
    | _ => none) notifications

def newClientRegistration (library : Library) (body : Body) :
    Prog (Except Refusal ClientRegistration) :=
  match body.first.bind fun json =>
      Json.decodeStruct clientRegistrationFields json .zero with
  | none => pure (.error .parse)
  | some registration => do
      match ← strictValidateJSON library body with
      | some refusal => pure (.error refusal)
      | none =>
          match identify registration.notifications with
          | none => .panic nilPointer
          | some notifications =>
              pure (.ok { registration with notifications := notifications })

namespace ClientRegistration

def notificationErrors (id : String) (value : NotificationStruct) :
    List String :=
  (if value.id = "" then
    ["notification \"" ++ id ++ "\" is missing required field \"ID\""]
  else []) ++
  (if value.description = "" then
    ["notification \"" ++ id ++ "\" is missing required field \"Description\""]
  else [])

/-- The loop of `Validate`; `none` is a nil pointer. -/
def errorsOf (notifications : NotificationMap) :
    List String → Option (List String)
  | [] => some []
  | id :: rest =>
      match notifications.lookup id with
      | some (some value) => do
          some (notificationErrors id value ++
            (← errorsOf notifications rest))
      | _ => none

def validate (registration : ClientRegistration) :
    Prog (Option Refusal) := do
  let order ← Program.perform (Op.iterate registration.notifications.keys)
  let errors :=
    if registration.sourceName = "" then
      ["\"source_name\" is a required field"]
    else []
  match errorsOf registration.notifications order.1 with
  | none => .panic nilPointer
  | some later =>
      match errors ++ later with
      | [] => pure none
      | errors => pure (some (.validation errors))

end ClientRegistration

end Notifications.Web
