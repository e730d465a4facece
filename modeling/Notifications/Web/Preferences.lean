import Mathlib.Data.List.AList
import Mathlib.Data.String.Basic
import Notifications.Services.Builder
import Notifications.Web.Authenticator
import Notifications.Web.Params

/-!
# The preference endpoints

`valiant.Validate`, the JSON of a `PreferencesBuilder` in both directions, and
the handlers behind `GET` and `PATCH` of `/user_preferences`.  A body is checked
for members that no field has, in whatever case; it is not checked for members
that are missing, because no field of the builder is marked as required.
-/

set_option autoImplicit false

namespace Notifications.Web

open Notifications.Lib Notifications.Models Notifications.Services

/-! ## Validation -/

namespace Valiant

structure Texts where
  /-- what `encoding/json` says about a body -/
  decoder : Body → String
  /-- the verb `%q` -/
  quote : String → String

/-- `unicode.ToLower`, on the characters that it takes into ASCII. -/
def lowerChar (char : Char) : Char :=
  if char = '\u212A' then 'k'
  else if char = '\u0130' then 'i'
  else char.toLower

def contains (values : List String) (element : String) : Bool :=
  values.any fun value =>
    value.toList.map lowerChar == element.toList.map lowerChar

/-- The fields that are marked as required, by their names; the builder has no
structs in it, so nothing is looked at further down. -/
def validateRequired (required : List String)
    (members : List (String × Json)) : Option String :=
  (required.find? fun name => (Json.lookup name members).isNone).map
    fun name => "Missing required field '" ++ name ++ "'"

/-- The last loop of `reportExtraKeys`. -/
def reportExtraKeys (texts : Texts) (expectedTags : List String) :
    List String → Option String
  | [] => none
  | tag :: rest =>
      if contains expectedTags tag then
        reportExtraKeys texts expectedTags rest
      else
        some ("Extra field " ++ texts.quote tag ++ " is not valid")

/-- Only the first value of the body is looked at.  `null` leaves the struct as
it is, and then is not a map. -/
def validate {α : Type} (library : Library) (texts : Texts)
    (fields : List (Json.Field α)) (required : List String) (body : Body)
    (typed : α) : Prog (Except String α) :=
  match body.first.bind fun json => Json.decodeStruct fields json typed with
  | none => pure (.error (texts.decoder body))
  | some typed =>
      match body.first with
      | some (.object members) =>
          if Json.membersRepresentable library.float64 members then
            match validateRequired required members with
            | some text => pure (.error text)
            | none => do
                let order ← Program.perform (Op.iterate (Json.keys members))
                match reportExtraKeys texts (fields.map Json.Field.name)
                    order.1 with
                | some text => pure (.error text)
                | none => pure (.ok typed)
          else
            pure (.error (texts.decoder body))
      | _ => .panic interfaceConversion

end Valiant

/-! ## The builder as a document -/

namespace Builder

/-- A pointer to a `bool`. -/
def decodeEmail : Json → Option Bool → Option (Option Bool)
  | .bool value, _ => some (some value)
  | .null, _ => some none
  | _, _ => none

def kindFields : List (Json.Field PreferencesBuilder.Kind) :=
  [ ⟨"count", fun json kind => do
      some { kind with count := ← json.decodeInt kind.count }⟩,
    ⟨"email", fun json kind => do
      some { kind with email := ← decodeEmail json kind.email }⟩,
    ⟨"kind_description", fun json kind => do
      some { kind with
        kindDescription := ← json.decodeString kind.kindDescription }⟩,
    ⟨"source_description", fun json kind => do
      some { kind with
        sourceDescription := ← json.decodeString kind.sourceDescription }⟩ ]

section Maps

variable {β : Type}

/-- A map that may have entries already; every new entry starts from zero. -/
def decodeEntries (decode : Json → Option β) :
    Json → (AList fun _ : String => β) → Option (AList fun _ : String => β)
  | .object members, entries =>
      members.foldlM (fun entries member => do
        some (entries.insert member.1 (← decode member.2))) entries
  | .null, _ => some ∅
  | _, _ => none

def encodeEntries (encode : β → Json)
    (entries : AList fun _ : String => β) : Json :=
  .object ((entries.entries.mergeSort fun left right =>
    decide (left.1 ≤ right.1)).map fun member =>
      (member.1, encode member.2))

end Maps

def decodeKind (json : Json) : Option PreferencesBuilder.Kind :=
  Json.decodeStruct kindFields json ⟨0, none, "", ""⟩

def decodeClientMap (json : Json) : Option ClientMap :=
  decodeEntries decodeKind json ∅

def fields : List (Json.Field PreferencesBuilder) :=
  [ ⟨"global_unsubscribe", fun json builder => do
      some { builder with
        globalUnsubscribe :=
          ← json.decodeBool builder.globalUnsubscribe }⟩,
    ⟨"clients", fun json builder => do
      some { builder with
        clients := ← decodeEntries decodeClientMap json builder.clients }⟩ ]

/-- The literal of a Go `int`. -/
def encodeInt (value : Int) : Json :=
  .number (toString (value.bmod (2 ^ 64)))

def encodeEmail : Option Bool → Json
  | some value => .bool value
  | none => .null

def encodeKind (kind : PreferencesBuilder.Kind) : Json :=
  .object [("count", encodeInt kind.count),
    ("email", encodeEmail kind.email),
    ("kind_description", .string kind.kindDescription),
    ("source_description", .string kind.sourceDescription)]

/-- `json.Marshal` of a builder. -/
def encode (builder : PreferencesBuilder) : Json :=
  .object [("global_unsubscribe", .bool builder.globalUnsubscribe),
    ("clients",
      encodeEntries (encodeEntries encodeKind) builder.clients)]

end Builder

/-! ## The handlers -/

/-- What the handlers give to the error writer. -/
inductive Objection where
  | missingUserToken (text : String)
  /-- `params.ValidationError` -/
  | validation (texts : List String)
  /-- an error of `errors.New`, passed on -/
  | plain (text : String)
  | failed (error : Error)
  deriving DecidableEq, Repr

/-- The claim of the token, as both handlers for the user's own token read it. -/
def withUserID {α : Type} (claims : Jwt.Fields)
    (missing : Objection → Prog α) (handler : String → Prog α) : Prog α :=
  match claims.lookup "user_id" with
  | none => missing (.missingUserToken "Missing user_id from token claims.")
  | some (.string userID) => handler userID
  | some _ => .panic interfaceConversion

variable [Collation]

/-- The document that `GET` writes for a user. -/
def preferencesOf (userGUID : String) : Prog (Except Objection Json) := do
  match ← PreferencesFinder.find userGUID with
  | (_, some error) => pure (.error (.failed error))
  | (builder, none) => pure (.ok (Builder.encode builder))

/-- `GetPreferences.ServeHTTP`. -/
def getPreferences (claims : Jwt.Fields) : Prog (Except Objection Json) :=
  withUserID claims (fun objection => pure (.error objection)) preferencesOf

/-- `strings.TrimPrefix`. -/
def trimPrefix (text start : String) : String :=
  if start.toList.isPrefixOf text.toList then
    String.ofList (text.toList.drop start.toList.length)
  else
    text

/-- `GetPreferencesForUser.ServeHTTP`. -/
def getPreferencesForUser (path : String) : Prog (Except Objection Json) :=
  preferencesOf (trimPrefix path "/user_preferences/")

def Objection.ofError : Error → Objection
  | .missingKindOrClient text => .validation [text]
  | .criticalKind text => .validation [text]
  | error => .failed error

section Updates

variable (library : Library) (texts : Valiant.Texts)

/-- What both handlers do for a user; they report the errors of
`ToPreferences` in different ways. -/
def updateFor (userID : String) (body : Body)
    (unconvertible : String → Objection) : Prog (Option Objection) := do
  match ← Valiant.validate library texts Builder.fields [] body .new with
  | .error text => pure (some (.validation [text]))
  | .ok builder =>
      match ← builder.toPreferences with
      | .error text => pure (some (unconvertible text))
      | .ok preferences => do
          let err ← inTransaction (PreferenceUpdater.execute .transaction
            preferences builder.globalUnsubscribe userID)
          pure (err.map .ofError)

/-- `UpdatePreferences.Execute`. -/
def updatePreferences (claims : Jwt.Fields) (body : Body) :
    Prog (Option Objection) :=
  withUserID claims (fun objection => pure (some objection)) fun userID =>
    updateFor library texts userID body fun text => .validation [text]

/-- What follows the last occurrence of a part. -/
def afterLast (part : List Char) : List Char → Option (List Char)
  | [] => none
  | char :: rest =>
      (afterLast part rest).or
        (if part.isPrefixOf (char :: rest) then
          some ((char :: rest).drop part.length)
        else none)

/-- The first line with a match of `.*/user_preferences/(.*)`; a dot does not
match the end of a line. -/
def matchGUID : List (List Char) → Option (List Char)
  | [] => none
  | line :: rest =>
      (afterLast "/user_preferences/".toList line).or (matchGUID rest)

/-- The first group of the match; `none` is a panic. -/
def parseGUID (path : String) : Option String :=
  (matchGUID (splitList '\n' path.toList)).map String.ofList

/-- `UpdateSpecificUserPreferences.Execute`. -/
def updateSpecificUserPreferences (path : String) (body : Body) :
    Prog (Option Objection) :=
  match parseGUID path with
  | none => .panic "runtime error: index out of range"
  | some userGUID => updateFor library texts userGUID body .plain

end Updates

def plainLibrary : Library where
  unmarshalTime _ := none
  float64 _ := true

def plainTexts : Valiant.Texts where
  decoder _ := "invalid character"
  quote text := "\"" ++ text ++ "\""

end Notifications.Web
