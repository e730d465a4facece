import Notifications.Lib.JsonValues
import Notifications.Web.Deliverable
import Notifications.Web.ErrorWriter
import Notifications.Web.Patching

/-!
# What a registration with notifications may contain

`PUT /notifications` reads its body twice.  The names are checked in an
`interface{}`, where the last value of a name stands and where nothing may
follow the document; the notifications are those of the decoder, which stops
after the first value, takes a name in any case and adds a second object to the
first.  A body is judged as documented when what the one reading leaves out
makes no difference to the other.
-/

set_option autoImplicit false

namespace Notifications.Web

open Notifications.Lib Notifications.Models

/-- `NewClientRegistration`, and then `Validate`. -/
def checkedRegistration (library : Library) (body : Body) :
    Prog (Except Refusal ClientRegistration) := do
  match ← newClientRegistration library body with
  | .error refusal => pure (.error refusal)
  | .ok parameters =>
      match ← parameters.validate with
      | some refusal => pure (.error refusal)
      | none => pure (.ok parameters)

/-! ## Clean answers -/

/-- `ParseError`, `SchemaError` or `ValidationError`. -/
def Refusal.OfParams : Refusal → Prop
  | .parse => True
  | .schema _ => True
  | .validation _ => True
  | _ => False

/-- Every entry is a notification with its key as its ID, and a description. -/
def ClientRegistration.Sound (parameters : ClientRegistration) : Prop :=
  ∀ id entry, parameters.notifications.lookup id = some entry →
    ∃ notification, entry = some notification ∧ notification.id = id ∧
      notification.description ≠ ""

/-- All of the members have one of the names, those that a later one replaces
too. -/
def NamedAmong (names : List String) (members : List (String × Json)) :
    Prop :=
  ∀ member ∈ members, member.1 ∈ names

def topLevelNames : List String := ["source_name", "notifications"]

def propertyNames : List String := ["description", "critical"]

/-- The document has no other members than the documented ones. -/
def OnlyKnown (members : List (String × Json)) : Prop :=
  NamedAmong topLevelNames members ∧
    ∀ notifications, ("notifications", .object notifications) ∈ members →
      ∀ id properties, (id, .object properties) ∈ notifications →
        NamedAmong propertyNames properties

section Collated

variable [Collation]

/-- No panic, no error that the error writer does not know, and no accepted
registration with a notification that is not as documented. -/
structure CleanlyJudged (library : Library) (body : Body)
    (environment : Environment) (world : World) : Prop where
  returns : ∃ result, ((checkedRegistration library body).run
    (World.handle environment) world).1 = some result
  refused : ∀ refusal, ((checkedRegistration library body).run
    (World.handle environment) world).1 = some (.error refusal) →
      refusal.OfParams ∧ (ErrorWriter.write refusal).isSome = true
  sound : ∀ parameters, ((checkedRegistration library body).run
    (World.handle environment) world).1 = some (.ok parameters) →
      parameters.Sound ∧
        ∀ members, body.first = some (.object members) → OnlyKnown members

end Collated

/-! ## What decides -/

def stringOf : Json → Option String
  | .string text => some text
  | _ => none

def textIn (name : String) (members : List (String × Json)) : String :=
  ((membersOf name (.object members)).filterMap stringOf).getLastD ""

/-- An object adds to the entries, `null` removes all of them. -/
def mergeInto (entries : List (String × Json)) : Json → List (String × Json)
  | .object members => entries ++ members
  | _ => []

/-- The notifications, as the decoder adds them up. -/
def mergedEntries (members : List (String × Json)) : List (String × Json) :=
  (membersOf "notifications" (.object members)).foldl mergeInto []

/-- The decoder can fill in a `ClientRegistration`. -/
def Decodes (json : Json) : Prop :=
  (Json.decodeStruct clientRegistrationFields json .zero).isSome = true

/-- The names are fine in a notification, by the last values. -/
def EntryNames (entry : Json) : Prop :=
  ∃ properties, entry = .object properties ∧
    NamedAmong propertyNames properties

/-- The names are fine in the last value of `notifications`. -/
def NotificationNames (value : Json) : Prop :=
  ∃ notifications, value = .object notifications ∧
    ∀ id entry, Json.lookup id notifications = some entry → EntryNames entry

def LastNotifications (members : List (String × Json)) : Prop :=
  ∀ value, Json.lookup "notifications" members = some value →
    NotificationNames value

/-- The names are fine where the last value of every name stands. -/
def LastNames (members : List (String × Json)) : Prop :=
  NamedAmong topLevelNames members ∧ LastNotifications members

/-- Nothing that `Validate` requires is missing. -/
def Complete (members : List (String × Json)) : Prop :=
  textIn "source_name" members ≠ "" ∧
    ∀ id properties,
      Json.lookup id (mergedEntries members) = some (.object properties) →
        id ≠ "" ∧ textIn "description" properties ≠ ""

/-- A document that the decoder accepts is the whole body and has only numbers
that fit; and if its last values have the right names, then no notification is
left `null` by the decoder, and no other member is hidden in a document that is
complete. -/
def ReadAlike (library : Library) (body : Body) : Prop :=
  ∀ json, body.first = some json → Decodes json →
    body.trailing = false ∧
    json.representable library.float64 = true ∧
    ∀ members, json = .object members → LastNames members →
      (∀ id, Json.lookup id (mergedEntries members) ≠ some .null) ∧
        (Complete members → OnlyKnown members)

/-! ## The names -/

/-- A loop reports a schema error unless all is fine. -/
def Verdict (fine : Prop) (result : Option (Option Refusal)) : Prop :=
  (fine ∧ result = some none) ∨
    (¬ fine ∧ ∃ text, result = some (some (.schema text)))

theorem Verdict.congr {fine other : Prop} {result : Option (Option Refusal)}
    (verdict : Verdict fine result) (same : fine ↔ other) :
    Verdict other result := by
  rw [Verdict, ← same]
  exact verdict

theorem strictProperties_verdict (names : List String) :
    Verdict (∀ name ∈ names, name ∈ propertyNames)
      (some (strictProperties names)) := by
  induction names with
  | nil => exact .inl ⟨by simp, rfl⟩
  | cons name rest ih =>
      rw [strictProperties]
      have listed : name ∈ propertyNames ↔
          name = "description" ∨ name = "critical" := by
        simp [propertyNames]
      by_cases known : name = "description" ∨ name = "critical"
      · rw [if_pos known]
        exact ih.congr (by simp [listed.mpr known])
      · rw [if_neg known]
        refine .inr ⟨?_, _, rfl⟩
        intro fine
        exact known (listed.mp (fine name (.head _)))

theorem namedAmong_iff {names : List String}
    {members : List (String × Json)} {order : List String}
    (all : order.Perm (Json.keys members)) :
    (∀ name ∈ order, name ∈ names) ↔ NamedAmong names members := by
  simp only [all.mem_iff, Json.mem_keys]
  constructor
  · intro fine member present
    exact fine member.1 ⟨member, present, rfl⟩
  · intro fine name facts
    obtain ⟨member, present, rfl⟩ := facts
    exact fine member present

/-- The value of every entry is an object or `null`. -/
def EntriesShaped (members : List (String × Json)) : Prop :=
  ∀ member ∈ members, member.2 = .null ∨
    ∃ properties, member.2 = .object properties

section Collated

variable [Collation]

theorem strictNotifications_verdict {notifications : List (String × Json)}
    (shaped : EntriesShaped notifications) (environment : Environment)
    (world : World) {order : List String}
    (present : ∀ id ∈ order, id ∈ Json.keys notifications) :
    Verdict (∀ id ∈ order, ∀ entry,
        Json.lookup id notifications = some entry → EntryNames entry)
      ((strictNotifications notifications order).run
        (World.handle environment) world).1 := by
  induction order with
  | nil => exact .inl ⟨by simp, rfl⟩
  | cons id rest ih =>
      obtain ⟨entry, found⟩ := Option.isSome_iff_exists.mp
        (Json.lookup_isSome_iff.mpr (present id (.head _)))
      rcases shaped _ (Json.mem_of_lookup found) with null | ⟨properties, object⟩
      · dsimp only at null
        subst null
        simp only [strictNotifications, found]
        refine .inr ⟨?_, _, rfl⟩
        intro fine
        obtain ⟨properties, object, _⟩ := fine id (.head _) _ found
        cases object
      · dsimp only at object
        subst object
        simp only [strictNotifications, found, Program.perform_bind,
          Program.run_call, World.handle]
        rcases strictProperties_verdict
            (environment.order (Json.keys properties)).1 with
          ⟨fine, passed⟩ | ⟨unfine, text, refused⟩
        · rw [Option.some.inj passed]
          have named := (namedAmong_iff
            (environment.order (Json.keys properties)).2).mp fine
          refine (ih fun other listed => present other (.tail _ listed)).congr
            ?_
          rw [List.forall_mem_cons, iff_and_self]
          intro _ other again
          rw [found] at again
          cases again
          exact ⟨properties, rfl, named⟩
        · rw [Option.some.inj refused]
          refine .inr ⟨?_, text, rfl⟩
          intro fine
          obtain ⟨_, same, named⟩ := fine id (.head _) _ found
          cases same
          exact unfine ((namedAmong_iff
            (environment.order (Json.keys properties)).2).mpr named)

theorem notificationNames_verdict {notifications : List (String × Json)}
    (shaped : EntriesShaped notifications) (environment : Environment)
    (world : World) :
    Verdict (NotificationNames (.object notifications))
      ((strictNotifications notifications
        (environment.order (Json.keys notifications)).1).run
          (World.handle environment) world).1 := by
  have all := (environment.order (Json.keys notifications)).2
  refine (strictNotifications_verdict shaped environment world
    fun id listed => all.mem_iff.mp listed).congr ?_
  constructor
  · intro fine
    refine ⟨notifications, rfl, ?_⟩
    intro id entry stored
    refine fine id (all.mem_iff.mpr ?_) entry stored
    rw [← Json.lookup_isSome_iff, stored]
    rfl
  · intro fine id _
    obtain ⟨_, same, names⟩ := fine
    cases same
    exact names id

/-- The value of `notifications` is `null`, or an object of entries. -/
def NotificationsShaped (value : Json) : Prop :=
  value = .null ∨
    ∃ notifications, value = .object notifications ∧
      EntriesShaped notifications

theorem strictKeys_notifications {members : List (String × Json)}
    {value : Json} (found : Json.lookup "notifications" members = some value)
    (shaped : NotificationsShaped value) (environment : Environment)
    (world : World) (rest : List String) :
    (NotificationNames value ∧
      ((strictKeys members ("notifications" :: rest)).run
        (World.handle environment) world).1 =
          ((strictKeys members rest).run (World.handle environment)
            world).1) ∨
      ¬ NotificationNames value ∧ ∃ text,
        ((strictKeys members ("notifications" :: rest)).run
          (World.handle environment) world).1 =
            some (some (.schema text)) := by
  rw [strictKeys, if_neg (by decide), if_pos rfl]
  rcases shaped with rfl | ⟨notifications, rfl, entries⟩
  · simp only [found]
    refine .inr ⟨?_, _, rfl⟩
    intro fine
    obtain ⟨_, object, _⟩ := fine
    cases object
  · simp only [found, Program.perform_bind, Program.run_call, World.handle]
    have inner := notificationNames_verdict entries environment world
    have same := run_of_iterates (strictNotifications_iterates notifications
      (environment.order (Json.keys notifications)).1) environment world
    rcases ran : (strictNotifications notifications
        (environment.order (Json.keys notifications)).1).run
          (World.handle environment) world with ⟨result, after⟩
    rw [ran] at inner same
    dsimp only at inner same
    subst same
    rcases inner with ⟨fine, rfl⟩ | ⟨unfine, text, rfl⟩
    · rw [Program.run_bind_of _ ran]
      exact .inl ⟨fine, rfl⟩
    · rw [Program.run_bind_of _ ran]
      exact .inr ⟨unfine, text, rfl⟩

theorem strictKeys_verdict {members : List (String × Json)}
    (shaped : ∀ value, ("notifications", value) ∈ members →
      NotificationsShaped value)
    (environment : Environment) (world : World) {order : List String}
    (present : ∀ key ∈ order, key ∈ Json.keys members) :
    Verdict ((∀ key ∈ order, key ∈ topLevelNames) ∧
        ("notifications" ∈ order → LastNotifications members))
      ((strictKeys members order).run (World.handle environment)
        world).1 := by
  induction order with
  | nil => exact .inl ⟨by simp, rfl⟩
  | cons key rest ih =>
      have later := ih fun other listed => present other (.tail _ listed)
      by_cases source : key = "source_name"
      · subst source
        rw [strictKeys, if_pos rfl]
        exact later.congr (by simp [topLevelNames])
      by_cases named : key = "notifications"
      · subst named
        obtain ⟨value, found⟩ := Option.isSome_iff_exists.mp
          (Json.lookup_isSome_iff.mpr (present _ (.head _)))
        have last : LastNotifications members ↔ NotificationNames value := by
          simp [LastNotifications, found]
        rcases strictKeys_notifications found
            (shaped value (Json.mem_of_lookup found)) environment world rest with
          ⟨fine, same⟩ | ⟨unfine, refused⟩
        · rw [same]
          refine later.congr ?_
          rw [List.forall_mem_cons, last]
          simp [topLevelNames, fine]
        · refine .inr ⟨?_, refused⟩
          intro facts
          exact unfine (last.mp (facts.2 (.head _)))
      · rw [strictKeys, if_neg source, if_neg named]
        refine .inr ⟨?_, _, rfl⟩
        intro fine
        have listed := fine.1 key (.head _)
        simp [topLevelNames, source, named] at listed

/-- The names are read where the whole body is one document. -/
theorem strictValidateJSON_verdict {library : Library} {body : Body}
    {members : List (String × Json)}
    (mapped : body.first.bind (Json.decodeMap library.float64) =
      some members)
    (shaped : ∀ value, ("notifications", value) ∈ members →
      NotificationsShaped value)
    (whole : body.trailing = false) (environment : Environment) (world : World) :
    Verdict (LastNames members)
      ((strictValidateJSON library body).run (World.handle environment)
        world).1 := by
  unfold strictValidateJSON
  rw [whole, mapped]
  simp only [Program.perform_bind, Program.run_call, World.handle]
  have all := (environment.order (Json.keys members)).2
  refine (strictKeys_verdict shaped environment world
    fun key listed => all.mem_iff.mp listed).congr ?_
  rw [namedAmong_iff all, LastNames]
  constructor
  · intro facts
    refine ⟨facts.1, ?_⟩
    intro value found
    refine facts.2 (all.mem_iff.mpr ?_) value found
    rw [← Json.lookup_isSome_iff, found]
    rfl
  · intro facts
    exact ⟨facts.1, fun _ => facts.2⟩

end Collated

theorem strictValidateJSON_decoder {library : Library} {body : Body}
    {json : Json} (first : body.first = some json)
    (unread : body.trailing = true ∨
      json.representable library.float64 = false)
    (shaped : json = .null ∨ ∃ members, json = .object members) :
    strictValidateJSON library body = pure (some .decoder) := by
  unfold strictValidateJSON
  rcases unread with trailing | large
  · rw [trailing]
  · have unmapped : body.first.bind (Json.decodeMap library.float64) =
        none := by
      rw [first, Option.bind_some]
      rcases shaped with rfl | ⟨members, rfl⟩
      · cases large
      · rw [Json.representable] at large
        rw [Json.decodeMap, large]
        rfl
    rw [unmapped]
    cases body.trailing <;> rfl

/-! ## What the decoder fills in -/

theorem textIn_snoc (name : String) (earlier : List (String × Json))
    (member : String × Json) :
    textIn name (earlier ++ [member]) =
      if Json.equalFold name member.1 then
        (stringOf member.2).getD (textIn name earlier)
      else
        textIn name earlier := by
  dsimp only [textIn, membersOf]
  rw [List.filter_append, List.map_append, List.filterMap_append]
  by_cases same : Json.equalFold name member.1 = true
  · rw [if_pos same]
    cases text : stringOf member.2 with
    | none => simp [same, text]
    | some text' => simp [same, text]
  · rw [if_neg same]
    simp [same]

theorem decodeString_eq {json : Json} {text next : String}
    (decoded : json.decodeString text = some next) :
    next = (stringOf json).getD text := by
  cases json with
  | null =>
      cases decoded
      rfl
  | string value =>
      cases decoded
      rfl
  | bool value => cases decoded
  | number literal => cases decoded
  | array elements => cases decoded
  | object members => cases decoded

/-- One member of a struct, and a field of it that holds a string. -/
structure TextField {α : Type} (fields : List (Json.Field α)) (name : String)
    (text : α → String) : Prop where
  /-- the field with this name sets the text -/
  own : ∃ field ∈ fields, field.name = name ∧
    ∀ json value next, field.decode json value = some next →
      text next = (stringOf json).getD (text value)
  /-- the others leave it -/
  other : ∀ field ∈ fields, field.name ≠ name →
    ∀ json value next, field.decode json value = some next →
      text next = text value
  distinct : fields.Pairwise fun field other =>
    Json.equalFold field.name other.name = false

theorem TextField.decodeMember {α : Type} {fields : List (Json.Field α)}
    {name : String} {text : α → String}
    (holds : TextField fields name text) {value next : α}
    {member : String × Json}
    (decoded : Json.decodeMember fields value member = some next) :
    text next =
      if Json.equalFold name member.1 then
        (stringOf member.2).getD (text value)
      else
        text value := by
  obtain ⟨field, listed, named, sets⟩ := holds.own
  rw [Json.decodeMember] at decoded
  by_cases same : Json.equalFold name member.1 = true
  · rw [if_pos same]
    rw [Json.fieldFor_eq holds.distinct listed (by rw [named]; exact same)]
      at decoded
    exact sets _ _ _ decoded
  · rw [if_neg same]
    cases found : Json.fieldFor fields member.1 with
    | none =>
        rw [found] at decoded
        cases decoded
        rfl
    | some chosen =>
        rw [found] at decoded
        refine holds.other chosen (Json.mem_of_fieldFor found) ?_ _ _ _
          decoded
        intro equal
        rw [← equal, Json.equalFold_of_fieldFor found] at same
        exact same rfl

theorem TextField.decodeStruct {α : Type} {fields : List (Json.Field α)}
    {name : String} {text : α → String}
    (holds : TextField fields name text) {members : List (String × Json)}
    {start final : α} (empty : text start = "")
    (decoded : Json.decodeStruct fields (.object members) start =
      some final) : text final = textIn name members := by
  refine @foldlM_reads _ _ _ (fun earlier value =>
    text value = textIn name earlier) ?_ members [] start final empty decoded
  intro earlier member value next read stepped
  rw [holds.decodeMember stepped, textIn_snoc, read]

theorem sourceName_field : TextField clientRegistrationFields "source_name"
    ClientRegistration.sourceName where
  own := by
    refine ⟨_, .head _, rfl, ?_⟩
    intro json value next decoded
    obtain ⟨text, read, same⟩ := Option.bind_eq_some_iff.mp decoded
    cases same
    exact decodeString_eq read
  other := by
    intro field listed differs json value next decoded
    simp only [clientRegistrationFields, List.mem_cons, List.not_mem_nil,
      or_false] at listed
    rcases listed with rfl | rfl
    · exact absurd rfl differs
    · obtain ⟨_, _, same⟩ := Option.bind_eq_some_iff.mp decoded
      cases same
      rfl
  distinct := by decide +kernel

theorem description_field : TextField notificationFields "description"
    NotificationStruct.description where
  own := by
    refine ⟨_, .tail _ (.head _), rfl, ?_⟩
    intro json value next decoded
    obtain ⟨text, read, same⟩ := Option.bind_eq_some_iff.mp decoded
    cases same
    exact decodeString_eq read
  other := by
    intro field listed differs json value next decoded
    simp only [notificationFields, List.mem_cons, List.not_mem_nil,
      or_false] at listed
    rcases listed with rfl | rfl | rfl
    · obtain ⟨_, _, same⟩ := Option.bind_eq_some_iff.mp decoded
      cases same
      rfl
    · exact absurd rfl differs
    · obtain ⟨_, _, same⟩ := Option.bind_eq_some_iff.mp decoded
      cases same
      rfl
  distinct := by decide +kernel

/-! ## The notifications -/

theorem mergedEntries_snoc (earlier : List (String × Json))
    (member : String × Json) :
    mergedEntries (earlier ++ [member]) =
      if Json.equalFold "notifications" member.1 then
        mergeInto (mergedEntries earlier) member.2
      else
        mergedEntries earlier := by
  dsimp only [mergedEntries, membersOf]
  by_cases same : Json.equalFold "notifications" member.1 = true
  · rw [if_pos same]
    simp [same]
  · rw [if_neg same]
    simp [same]

/-- The map has what the decoder makes of the entries. -/
def Entries (notifications : NotificationMap)
    (entries : List (String × Json)) : Prop :=
  ∀ id, (Json.lookup id entries).map decodePointer =
    (notifications.lookup id).map some

theorem Entries.decode {notifications next : NotificationMap}
    {entries : List (String × Json)} {value : Json}
    (read : Entries notifications entries)
    (decoded : decodeNotifications value notifications = some next) :
    Entries next (mergeInto entries value) := by
  cases value with
  | object members =>
      refine @foldlM_reads _ _ _ (fun earlier notifications =>
        Entries notifications (entries ++ earlier)) ?_ members [] _ _
          (by rw [List.append_nil]; exact read) decoded
      intro earlier member before after read stepped id
      obtain ⟨entry, made, same⟩ := Option.bind_eq_some_iff.mp stepped
      cases same
      rw [← List.append_assoc, Json.lookup_snoc]
      by_cases own : id = member.1
      · subst own
        rw [AList.lookup_insert, if_pos rfl, Option.map_some, made,
          Option.map_some]
      · rw [AList.lookup_insert_ne own, if_neg own]
        exact read id
  | null =>
      cases decoded
      exact fun _ => rfl
  | bool value => cases decoded
  | number literal => cases decoded
  | string text => cases decoded
  | array elements => cases decoded

theorem decodeMember_notifications {registration next : ClientRegistration}
    {member : String × Json}
    (decoded : Json.decodeMember clientRegistrationFields registration
      member = some next) :
    (Json.equalFold "notifications" member.1 = true →
      decodeNotifications member.2 registration.notifications =
        some next.notifications) ∧
    (Json.equalFold "notifications" member.1 = false →
      next.notifications = registration.notifications) := by
  rw [Json.decodeMember] at decoded
  constructor
  · intro same
    rw [Json.fieldFor_eq sourceName_field.distinct (.tail _ (.head _)) same]
      at decoded
    obtain ⟨notifications, read, same⟩ := Option.bind_eq_some_iff.mp decoded
    cases same
    exact read
  · intro differs
    cases found : Json.fieldFor clientRegistrationFields member.1 with
    | none =>
        rw [found] at decoded
        cases decoded
        rfl
    | some field =>
        rw [found] at decoded
        have spelled := Json.equalFold_of_fieldFor found
        have listed := Json.mem_of_fieldFor found
        simp only [clientRegistrationFields, List.mem_cons, List.not_mem_nil,
          or_false] at listed
        rcases listed with rfl | rfl
        · obtain ⟨_, _, same⟩ := Option.bind_eq_some_iff.mp decoded
          cases same
          rfl
        · rw [differs] at spelled
          cases spelled

theorem decodeStruct_entries {members : List (String × Json)}
    {registration : ClientRegistration}
    (decoded : Json.decodeStruct clientRegistrationFields (.object members)
      .zero = some registration) :
    Entries registration.notifications (mergedEntries members) := by
  refine @foldlM_reads _ _ _ (fun earlier (value : ClientRegistration) =>
    Entries value.notifications (mergedEntries earlier)) ?_ members [] _ _
      (fun _ => rfl) decoded
  intro earlier member value next read stepped
  obtain ⟨into, outside⟩ := decodeMember_notifications stepped
  rw [mergedEntries_snoc]
  by_cases same : Json.equalFold "notifications" member.1 = true
  · rw [if_pos same]
    exact read.decode (into same)
  · rw [if_neg same, outside (eq_false_of_ne_true same)]
    exact read

theorem decodeStruct_shaped {α : Type} {fields : List (Json.Field α)}
    {json : Json} {start final : α}
    (decoded : Json.decodeStruct fields json start = some final) :
    json = .null ∨ ∃ members, json = .object members := by
  cases json with
  | null => exact .inl rfl
  | object members => exact .inr ⟨members, rfl⟩
  | bool value => cases decoded
  | number literal => cases decoded
  | string text => cases decoded
  | array elements => cases decoded

theorem decodePointer_shaped {json : Json}
    {entry : Option NotificationStruct}
    (decoded : decodePointer json = some entry) :
    json = .null ∨ ∃ members, json = .object members := by
  unfold decodePointer at decoded
  split at decoded
  · exact .inl rfl
  · obtain ⟨_, read, _⟩ := Option.bind_eq_some_iff.mp decoded
    exact decodeStruct_shaped read

theorem decodeNotifications_shaped {json : Json}
    {notifications next : NotificationMap}
    (decoded : decodeNotifications json notifications = some next) :
    NotificationsShaped json := by
  cases json with
  | null => exact .inl rfl
  | object members =>
      refine .inr ⟨members, rfl, ?_⟩
      intro member listed
      obtain ⟨_, _, stepped⟩ := foldlM_each decoded member listed
      obtain ⟨entry, made, _⟩ := Option.bind_eq_some_iff.mp stepped
      exact decodePointer_shaped made
  | bool value => cases decoded
  | number literal => cases decoded
  | string text => cases decoded
  | array elements => cases decoded

/-- The decoder has looked at every value that the check of the names takes
apart. -/
theorem decodeStruct_notificationsShaped {members : List (String × Json)}
    {registration : ClientRegistration}
    (decoded : Json.decodeStruct clientRegistrationFields (.object members)
      .zero = some registration) :
    ∀ value, ("notifications", value) ∈ members →
      NotificationsShaped value := by
  intro value listed
  obtain ⟨before, after, stepped⟩ := foldlM_each decoded _ listed
  exact decodeNotifications_shaped
    ((decodeMember_notifications stepped).1 (Json.equalFold_refl _))

/-! ## The IDs -/

theorem identify_entries {notifications identified : NotificationMap}
    (done : identify notifications = some identified) (id : String) :
    identified.lookup id = (notifications.lookup id).map
      (Option.map fun notification => { notification with id := id }) := by
  obtain ⟨named, kept⟩ := identified_of_foldlM done
  by_cases listed : id ∈ notifications.keys
  · obtain ⟨notification, found, result⟩ := named id listed
    rw [result, found]
    rfl
  · rw [kept id listed, AList.lookup_eq_none.mpr listed]
    rfl

theorem identify_eq_none {notifications : NotificationMap} {id : String}
    (empty : notifications.lookup id = some none) :
    identify notifications = none := by
  cases done : identify notifications with
  | none => rfl
  | some identified =>
      have listed : id ∈ notifications.keys :=
        AList.lookup_isSome.mp (by rw [empty]; rfl)
      obtain ⟨notification, found, _⟩ := (identified_of_foldlM done).1 id listed
      rw [empty] at found
      cases found

theorem identify_done {notifications : NotificationMap}
    (filled : ∀ id, notifications.lookup id ≠ some none) :
    ∃ identified, identify notifications = some identified := by
  apply foldlM_identifies
  intro id listed
  obtain ⟨entry, found⟩ := Option.isSome_iff_exists.mp
    (AList.lookup_isSome.mpr listed)
  cases entry with
  | none => exact absurd found (filled id)
  | some notification => exact ⟨notification, found⟩

/-! ## Validation -/

def ClientRegistration.Filled (parameters : ClientRegistration) : Prop :=
  parameters.sourceName ≠ "" ∧
    ∀ id notification,
      parameters.notifications.lookup id = some (some notification) →
        notification.id ≠ "" ∧ notification.description ≠ ""

theorem notificationErrors_eq_nil {id : String}
    {notification : NotificationStruct} :
    ClientRegistration.notificationErrors id notification = [] ↔
      notification.id ≠ "" ∧ notification.description ≠ "" := by
  rw [ClientRegistration.notificationErrors, List.append_eq_nil_iff]
  simp

theorem errorsOf_filled {notifications : NotificationMap}
    {order : List String}
    (present : ∀ id ∈ order, ∃ notification,
      notifications.lookup id = some (some notification)) :
    ∃ texts, ClientRegistration.errorsOf notifications order = some texts ∧
      (texts = [] ↔ ∀ id ∈ order, ∀ notification,
        notifications.lookup id = some (some notification) →
          notification.id ≠ "" ∧ notification.description ≠ "") := by
  induction order with
  | nil => exact ⟨[], rfl, by simp⟩
  | cons id rest ih =>
      obtain ⟨notification, found⟩ := present id (.head _)
      obtain ⟨texts, errors, none⟩ :=
        ih fun other listed => present other (.tail _ listed)
      refine ⟨ClientRegistration.notificationErrors id notification ++ texts,
        ?_, ?_⟩
      · rw [ClientRegistration.errorsOf, found]
        dsimp only
        rw [errors]
        rfl
      · rw [List.append_eq_nil_iff, notificationErrors_eq_nil, none,
          List.forall_mem_cons]
        simp [found]

section Collated

variable [Collation]

theorem validate_filled {parameters : ClientRegistration}
    (filled : ∀ id, parameters.notifications.lookup id ≠ some none)
    (environment : Environment) (world : World) :
    (parameters.Filled ∧
      (parameters.validate.run (World.handle environment) world).1 =
        some none) ∨
      ¬ parameters.Filled ∧ ∃ texts,
        (parameters.validate.run (World.handle environment) world).1 =
          some (some (.validation texts)) := by
  have all := (environment.order parameters.notifications.keys).2
  have present : ∀ id ∈ (environment.order parameters.notifications.keys).1,
      ∃ notification,
        parameters.notifications.lookup id = some (some notification) := by
    intro id listed
    obtain ⟨entry, found⟩ := Option.isSome_iff_exists.mp
      (AList.lookup_isSome.mpr (all.mem_iff.mp listed))
    cases entry with
    | none => exact absurd found (filled id)
    | some notification => exact ⟨notification, found⟩
  obtain ⟨texts, errors, none⟩ := errorsOf_filled present
  have described : texts = [] ↔ ∀ id notification,
      parameters.notifications.lookup id = some (some notification) →
        notification.id ≠ "" ∧ notification.description ≠ "" := by
    rw [none]
    constructor
    · intro fine id notification found
      refine fine id (all.mem_iff.mpr ?_) notification found
      exact AList.lookup_isSome.mp (by rw [found]; rfl)
    · intro fine id _
      exact fine id
  rw [ClientRegistration.validate, ClientRegistration.Filled, ← described]
  simp only [Program.perform_bind, Program.run_call, World.handle, errors]
  by_cases source : parameters.sourceName = ""
  · rw [if_pos source]
    exact .inr ⟨fun facts => facts.1 source, _, rfl⟩
  · rw [if_neg source]
    cases texts with
    | nil => exact .inl ⟨⟨source, rfl⟩, rfl⟩
    | cons text rest => exact .inr ⟨fun facts => absurd facts.2 (by simp), _, rfl⟩

end Collated

/-! ## The judgement -/

theorem decodePointer_eq_none {json : Json} :
    decodePointer json = some none ↔ json = .null := by
  constructor
  · intro decoded
    rcases decodePointer_shaped decoded with rfl | ⟨members, rfl⟩
    · rfl
    · obtain ⟨_, _, same⟩ := Option.bind_eq_some_iff.mp decoded
      cases same
  · intro null
    rw [null, decodePointer]

theorem decodePointer_eq_some {json : Json}
    {notification : NotificationStruct}
    (decoded : decodePointer json = some (some notification)) :
    ∃ properties, json = .object properties ∧
      notification.description = textIn "description" properties := by
  rcases decodePointer_shaped decoded with rfl | ⟨properties, rfl⟩
  · cases decoded
  · obtain ⟨_, read, same⟩ := Option.bind_eq_some_iff.mp decoded
    cases same
    exact ⟨properties, rfl, description_field.decodeStruct rfl read⟩

/-- A registration that was decoded from these members. -/
structure DecodedFrom (registration : ClientRegistration)
    (members : List (String × Json)) : Prop where
  source : registration.sourceName = textIn "source_name" members
  entries : Entries registration.notifications (mergedEntries members)
  shaped : ∀ value, ("notifications", value) ∈ members →
    NotificationsShaped value

theorem decodedFrom {members : List (String × Json)}
    {registration : ClientRegistration}
    (decoded : Json.decodeStruct clientRegistrationFields (.object members)
      .zero = some registration) : DecodedFrom registration members where
  source := sourceName_field.decodeStruct rfl decoded
  entries := decodeStruct_entries decoded
  shaped := decodeStruct_notificationsShaped decoded

section Decoded

variable {registration : ClientRegistration}
  {members : List (String × Json)}

theorem Entries.lookup_eq_none {notifications : NotificationMap}
    {entries : List (String × Json)} (read : Entries notifications entries)
    (id : String) :
    notifications.lookup id = some none ↔
      Json.lookup id entries = some .null := by
  have same := read id
  cases stored : notifications.lookup id with
  | none =>
      rw [stored, Option.map_none, Option.map_eq_none_iff] at same
      simp [same]
  | some entry =>
      rw [stored, Option.map_some] at same
      obtain ⟨json, found, decoded⟩ := Option.map_eq_some_iff.mp same
      rw [found, Option.some.injEq, Option.some.injEq,
        ← decodePointer_eq_none, decoded, Option.some.injEq]

/-- What is given to `Validate` is complete when the document is. -/
theorem DecodedFrom.filled_iff (from' : DecodedFrom registration members)
    {identified : NotificationMap}
    (done : identify registration.notifications = some identified) :
    ({ registration with notifications := identified } :
      ClientRegistration).Filled ↔ Complete members := by
  unfold ClientRegistration.Filled Complete
  rw [← from'.source]
  refine and_congr Iff.rfl ?_
  constructor
  · intro filled id properties found
    have same := from'.entries id
    rw [found, Option.map_some] at same
    obtain ⟨entry, stored, decoded⟩ := Option.map_eq_some_iff.mp same.symm
    cases entry with
    | none => cases decodePointer_eq_none.mp decoded.symm
    | some notification =>
        obtain ⟨_, same, description⟩ := decodePointer_eq_some decoded.symm
        cases same
        rw [← description]
        refine filled id { notification with id := id } ?_
        rw [identify_entries done, stored]
        rfl
  · intro complete id notification found
    rw [identify_entries done] at found
    obtain ⟨entry, stored, same⟩ := Option.map_eq_some_iff.mp found
    obtain ⟨original, rfl, rfl⟩ := Option.map_eq_some_iff.mp same
    have read := from'.entries id
    rw [stored, Option.map_some] at read
    obtain ⟨json, listed, decoded⟩ := Option.map_eq_some_iff.mp read
    obtain ⟨properties, rfl, description⟩ := decodePointer_eq_some decoded
    dsimp only
    rw [description]
    exact complete id properties listed

theorem identified_sound {parameters : ClientRegistration}
    {notifications : NotificationMap}
    (done : identify notifications = some parameters.notifications)
    (kept : ∀ id, notifications.lookup id ≠ some none)
    (filled : parameters.Filled) : parameters.Sound := by
  intro id entry found
  have original := identify_entries done id
  rw [found] at original
  obtain ⟨stored, listed, same⟩ := Option.map_eq_some_iff.mp original.symm
  cases stored with
  | none => exact absurd listed (kept id)
  | some notification =>
      refine ⟨{ notification with id := id }, same.symm, rfl, ?_⟩
      rw [← same] at found
      exact (filled.2 id _ found).2

end Decoded

/-- The results for a body that is read as a whole by both routines. -/
inductive Outcome (members : List (String × Json)) :
    Option (Except Refusal ClientRegistration) → Prop
  | misnamed (names : ¬ LastNames members) (text : String) :
      Outcome members (some (.error (.schema text)))
  | nilPointer (names : LastNames members) {id : String}
      (null : Json.lookup id (mergedEntries members) = some .null) :
      Outcome members none
  | incomplete (names : LastNames members)
      (kept : ∀ id, Json.lookup id (mergedEntries members) ≠ some .null)
      (missing : ¬ Complete members) (texts : List String) :
      Outcome members (some (.error (.validation texts)))
  | accepted (names : LastNames members)
      (kept : ∀ id, Json.lookup id (mergedEntries members) ≠ some .null)
      (complete : Complete members) {parameters : ClientRegistration}
      (sound : parameters.Sound) : Outcome members (some (.ok parameters))

theorem strictValidateJSON_iterates (library : Library) (body : Body) :
    (strictValidateJSON library body).Only Iterates := by
  rw [strictValidateJSON]
  split
  · refine Program.only_perform trivial fun order => ?_
    exact strictKeys_iterates _ order.1
  · exact trivial

structure BothRead (library : Library) (body : Body)
    (registration : ClientRegistration) (members : List (String × Json)) :
    Prop where
  decoded : (body.first.bind fun json =>
    Json.decodeStruct clientRegistrationFields json .zero) =
      some registration
  typed : DecodedFrom registration members
  whole : body.trailing = false
  untyped : body.first.bind (Json.decodeMap library.float64) = some members

section Collated

variable [Collation]

section Outcomes

variable {library : Library} {body : Body}
  {registration : ClientRegistration} {members : List (String × Json)}

theorem newClientRegistration_verdict
    (both : BothRead library body registration members)
    (environment : Environment) (world : World) :
    (¬ LastNames members ∧ ∃ text,
      (newClientRegistration library body).run (World.handle environment)
        world = (some (.error (.schema text)), world)) ∨
    LastNames members ∧
      (newClientRegistration library body).run (World.handle environment)
        world = ((identify registration.notifications).map
          fun notifications =>
            .ok { registration with notifications := notifications },
          world) := by
  have verdict := strictValidateJSON_verdict both.untyped both.typed.shaped
    both.whole environment world
  have same := run_of_iterates (strictValidateJSON_iterates library body)
    environment world
  rw [newClientRegistration, both.decoded]
  dsimp only
  rcases ran : (strictValidateJSON library body).run
      (World.handle environment) world with ⟨result, after⟩
  rw [ran] at verdict same
  dsimp only at verdict same
  subst same
  rcases verdict with ⟨names, rfl⟩ | ⟨unnamed, text, rfl⟩
  · refine .inr ⟨names, ?_⟩
    rw [Program.run_bind_of _ ran]
    cases identify registration.notifications with
    | none => rfl
    | some notifications => rfl
  · refine .inl ⟨unnamed, text, ?_⟩
    rw [Program.run_bind_of _ ran]
    rfl

theorem checkedRegistration_outcome
    (both : BothRead library body registration members)
    (environment : Environment) (world : World) :
    Outcome members ((checkedRegistration library body).run
      (World.handle environment) world).1 := by
  rw [checkedRegistration]
  rcases newClientRegistration_verdict both environment world with
    ⟨unnamed, text, ran⟩ | ⟨names, ran⟩
  · rw [Program.run_bind_of _ ran]
    exact .misnamed unnamed text
  by_cases null : ∃ id, registration.notifications.lookup id = some none
  · obtain ⟨id, empty⟩ := null
    rw [identify_eq_none empty] at ran
    rw [Program.run_bind_none _ ran]
    exact .nilPointer names ((both.typed.entries.lookup_eq_none id).mp empty)
  · have kept : ∀ id, registration.notifications.lookup id ≠ some none :=
      fun id empty => null ⟨id, empty⟩
    have noNull : ∀ id,
        Json.lookup id (mergedEntries members) ≠ some .null :=
      fun id found => kept id ((both.typed.entries.lookup_eq_none id).mpr found)
    obtain ⟨identified, done⟩ := identify_done kept
    rw [done] at ran
    rw [Program.run_bind_of _ ran]
    have complete := both.typed.filled_iff done
    have noNil : ∀ id, identified.lookup id ≠ some none := by
      intro id empty
      rw [identify_entries done, Option.map_eq_some_iff] at empty
      obtain ⟨entry, found, same⟩ := empty
      rw [Option.map_eq_none_iff.mp same] at found
      exact kept id found
    have valid := @validate_filled _
      { registration with notifications := identified } noNil environment
        world
    rcases validated : (ClientRegistration.validate
        { registration with notifications := identified }).run
          (World.handle environment) world with ⟨result, after⟩
    rw [validated] at valid
    dsimp only at valid
    rcases valid with ⟨filled, rfl⟩ | ⟨unfilled, texts, rfl⟩
    · rw [Program.run_bind_of _ validated]
      exact .accepted names noNull (complete.mp filled)
        (identified_sound done kept filled)
    · rw [Program.run_bind_of _ validated]
      exact .incomplete names noNull
        (fun facts => unfilled (complete.mpr facts)) texts

end Outcomes

section Answers

variable {library : Library} {body : Body} {environment : Environment}
  {world : World}

theorem CleanlyJudged.of_refused {refusal : Refusal}
    (ran : ((checkedRegistration library body).run (World.handle environment)
      world).1 = some (.error refusal))
    (ofParams : refusal.OfParams) :
    CleanlyJudged library body environment world where
  returns := ⟨_, ran⟩
  refused := by
    intro other again
    rw [ran] at again
    cases again
    refine ⟨ofParams, ?_⟩
    cases refusal with
    | parse => rfl
    | schema text => rfl
    | validation texts => rfl
    | _ => cases ofParams
  sound := by
    intro parameters again
    rw [ran] at again
    cases again

/-- The judgement of a body that both routines read as a whole. -/
theorem Outcome.judgement {members : List (String × Json)}
    (outcome : Outcome members ((checkedRegistration library body).run
      (World.handle environment) world).1) :
    CleanlyJudged library body environment world ↔
      (LastNames members →
        (∀ id, Json.lookup id (mergedEntries members) ≠ some .null) ∧
          (Complete members → ∀ members',
            body.first = some (.object members') → OnlyKnown members')) := by
  generalize ran : ((checkedRegistration library body).run
    (World.handle environment) world).1 = result at outcome
  cases outcome with
  | misnamed unnamed text =>
      exact ⟨fun _ names => absurd names unnamed,
        fun _ => .of_refused ran trivial⟩
  | nilPointer names null =>
      constructor
      · intro clean
        obtain ⟨_, returned⟩ := clean.returns
        rw [ran] at returned
        cases returned
      · intro condition
        exact absurd null ((condition names).1 _)
  | incomplete names kept missing texts =>
      exact ⟨fun _ _ => ⟨kept, fun complete => absurd complete missing⟩,
        fun _ => .of_refused ran trivial⟩
  | @accepted names kept complete parameters sound =>
      constructor
      · intro clean _
        exact ⟨kept, fun _ => (clean.sound parameters ran).2⟩
      · intro condition
        refine ⟨⟨_, ran⟩, ?_, ?_⟩
        · intro refusal again
          rw [ran] at again
          cases again
        · intro other again
          rw [ran] at again
          cases again
          exact ⟨sound, (condition names).2 complete⟩

end Answers

theorem checkedRegistration_error {library : Library} {body : Body}
    {refusal : Refusal}
    (refused : newClientRegistration library body = pure (.error refusal))
    (environment : Environment) (world : World) :
    ((checkedRegistration library body).run (World.handle environment)
      world).1 = some (.error refusal) := by
  rw [checkedRegistration, refused]
  rfl

theorem cleanlyJudged_of_parse {library : Library} {body : Body}
    (unread : (body.first.bind fun json =>
      Json.decodeStruct clientRegistrationFields json .zero) = none)
    (environment : Environment) (world : World) :
    CleanlyJudged library body environment world := by
  have refused : newClientRegistration library body =
      pure (.error .parse) := by
    rw [newClientRegistration, unread]
  exact .of_refused (checkedRegistration_error refused environment world)
    trivial

/-- An error of `encoding/json` is not one that the error writer knows. -/
theorem not_cleanlyJudged_of_decoder {library : Library} {body : Body}
    {registration : ClientRegistration}
    (decoded : (body.first.bind fun json =>
      Json.decodeStruct clientRegistrationFields json .zero) =
        some registration)
    (refused : strictValidateJSON library body = pure (some .decoder))
    (environment : Environment) (world : World) :
    ¬ CleanlyJudged library body environment world := by
  have passedOn : newClientRegistration library body =
      pure (.error .decoder) := by
    rw [newClientRegistration, decoded]
    dsimp only
    rw [refused]
    rfl
  intro clean
  exact (clean.refused _
    (checkedRegistration_error passedOn environment world)).1

omit [Collation] in
theorem decodeStruct_members {α : Type} {fields : List (Json.Field α)}
    {json : Json} {start final : α}
    (decoded : Json.decodeStruct fields json start = some final) :
    Json.decodeStruct fields (.object json.members) start =
      some final := by
  rcases decodeStruct_shaped decoded with rfl | ⟨members, rfl⟩
  · exact decoded
  · exact decoded

/-- A body is judged cleanly exactly when its two readings are alike. -/
theorem cleanlyJudged_iff (library : Library) (body : Body)
    (environment : Environment) (world : World) :
    CleanlyJudged library body environment world ↔
      ReadAlike library body := by
  cases decoded : body.first.bind fun json =>
      Json.decodeStruct clientRegistrationFields json .zero with
  | none =>
      refine ⟨fun _ => ?_,
        fun _ => cleanlyJudged_of_parse decoded environment world⟩
      intro json first decodes
      rw [first, Option.bind_some] at decoded
      rw [Decodes, decoded] at decodes
      cases decodes
  | some registration =>
      obtain ⟨json, first, read⟩ := Option.bind_eq_some_iff.mp decoded
      have shaped := decodeStruct_shaped read
      have decodes : Decodes json := by
        rw [Decodes, read]
        rfl
      have alike : ReadAlike library body ↔
          body.trailing = false ∧
          json.representable library.float64 = true ∧
          ∀ members, json = .object members → LastNames members →
            (∀ id, Json.lookup id (mergedEntries members) ≠ some .null) ∧
              (Complete members → OnlyKnown members) := by
        constructor
        · exact fun alike => alike json first decodes
        · intro facts other again _
          rw [first] at again
          cases again
          exact facts
      rw [alike]
      by_cases unread : body.trailing = true ∨
          json.representable library.float64 = false
      · have refused := strictValidateJSON_decoder first unread shaped
        refine ⟨fun clean => absurd clean (not_cleanlyJudged_of_decoder
          decoded refused environment world), ?_⟩
        rintro ⟨whole, fits, _⟩
        rw [whole, fits] at unread
        exact absurd unread (by decide)
      · rw [not_or, Bool.not_eq_true, Bool.not_eq_false] at unread
        obtain ⟨whole, fits⟩ := unread
        have mapped : body.first.bind (Json.decodeMap library.float64) =
            some json.members := by
          rw [first, Option.bind_some]
          rcases shaped with rfl | ⟨members, rfl⟩
          · rfl
          · rw [Json.representable] at fits
            rw [Json.decodeMap, if_pos fits]
            rfl
        have both : BothRead library body registration json.members :=
          ⟨decoded, decodedFrom (decodeStruct_members read), whole, mapped⟩
        rw [(checkedRegistration_outcome both environment world).judgement,
          first]
        simp only [whole, fits, true_and]
        rcases shaped with rfl | ⟨members, rfl⟩
        · constructor
          · intro _ members same
            cases same
          · intro _ _
            constructor
            · intro id found
              cases found
            · intro _ members same
              cases same
        · constructor
          · intro facts other same names
            cases same
            obtain ⟨kept, known⟩ := facts names
            exact ⟨kept, fun complete => known complete members rfl⟩
          · intro facts names
            obtain ⟨kept, known⟩ := facts members rfl names
            refine ⟨kept, ?_⟩
            intro complete other same
            cases same
            exact known complete

/-- Two members `notifications`: the first has a `null`, the second is fine. -/
def nilEntryBody : Body where
  first := some (.object
    [("source_name", .string "S"),
     ("notifications", .object [("a", .null)]),
     ("notifications", .object
       [("b", .object [("description", .string "D")])])])
  trailing := false

def trailingBody : Body where
  first := some (.object [("source_name", .string "S")])
  trailing := true

/-- A member that a later one replaces in the `interface{}` alone. -/
def hiddenMemberBody : Body where
  first := some (.object
    [("source_name", .string "S"),
     ("notifications", .object
       [("a", .object [("description", .string "D"), ("junk", .null)])]),
     ("notifications", .object
       [("b", .object [("description", .string "D")])])])
  trailing := false

end Collated

attribute [local instance] Collation.binary

/-- A nil pointer, an error of the decoder and a member that nobody knows. -/
theorem uncleanly_judged :
    ¬ CleanlyJudged anyLibrary nilEntryBody .calm (.start []) ∧
    ¬ CleanlyJudged anyLibrary trailingBody .calm (.start []) ∧
    ¬ CleanlyJudged anyLibrary hiddenMemberBody .calm (.start []) := by
  refine ⟨?_, ?_, ?_⟩
  · intro clean
    obtain ⟨result, returned⟩ := clean.returns
    have panicked : ((checkedRegistration anyLibrary nilEntryBody).run
        (World.handle .calm) (.start [])).1.isSome = false := by
      decide +kernel
    rw [returned] at panicked
    cases panicked
  · intro clean
    exact (clean.refused .decoder rfl).1
  · intro clean
    have accepted : ((checkedRegistration anyLibrary hiddenMemberBody).run
        (World.handle .calm) (.start [])).1.map Except.toBool =
          some true := by
      decide +kernel
    obtain ⟨result, ran, ok⟩ := Option.map_eq_some_iff.mp accepted
    cases result with
    | error refusal => cases ok
    | ok parameters =>
        have known := (clean.sound parameters ran).2 _ rfl
        have junk := known.2 _ (.tail _ (.head _)) "a" _ (.head _)
          ("junk", .null) (.tail _ (.head _))
        exact absurd junk (by decide)

end Notifications.Web
