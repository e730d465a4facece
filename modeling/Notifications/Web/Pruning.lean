import Notifications.Lib.JsonValues
import Notifications.Web.Preferences
import Notifications.Web.Assigning

/-!
# When a registration prunes

`PUT /registration` deletes the kinds that are not in its list when
`IncludesKinds` is set.  `NewRegistration` sets it for a member with the very
name `kinds`, whatever its value, and the decoder sets it for a member with the
flag's own name; the list of kinds is decoded from a member whose name is
`kinds` in any case.
-/

set_option autoImplicit false

namespace Notifications.Web

open Notifications.Lib Notifications.Models Notifications.Services

section Collated

variable [Collation]

section Members

variable (library : Library)

/-- The member is decoded into the field with this name. -/
def DecodedInto (field : String) (member : String × Json) : Prop :=
  (Json.fieldFor (registrationFields library) member.1).map Json.Field.name =
    some field

instance (field : String) (member : String × Json) :
    Decidable (DecodedInto library field member) :=
  inferInstanceAs (Decidable (_ = _))

def SendsKinds (members : List (String × Json)) : Prop :=
  ∃ member ∈ members, DecodedInto library "kinds" member ∧
    ∃ elements, member.2 = .array elements

def NamesKinds (members : List (String × Json)) : Prop :=
  ∃ member ∈ members, member.1 = "kinds"

def boolOf : Json → Option Bool
  | .bool value => some value
  | _ => none

/-- The values that are decoded into the flag itself. -/
def flagsOf (members : List (String × Json)) : List Bool :=
  (members.filter fun member =>
    DecodedInto library "IncludesKinds" member).filterMap fun member =>
      boolOf member.2

/-- The client sent the flag, and sent `true` last. -/
def SetsFlag (members : List (String × Json)) : Prop :=
  (flagsOf library members).getLast? = some true

/-- Every kind is still there, whatever its columns have become. -/
def KeepsEveryKind (before after : Tables) : Prop :=
  ∀ kind ∈ before.rows .kinds, ∃ kept ∈ after.rows .kinds,
    Kind.primary kept = Kind.primary kind

/-- The client has no kinds but those of the list. -/
def LeavesOnly (clientID : String) (ids : List String) (tables : Tables) :
    Prop :=
  ∀ kind ∈ tables.rows .kinds,
    Collation.equal (Kind.clientID kind) clientID → Kind.id kind ∈ ids

/-- A request deletes no kind unless the client sent a list of kinds; a request
with a list that is carried out deletes the kinds that are not in it. -/
structure PrunesAsAsked (body : Body) (members : List (String × Json))
    (registration : Registration) : Prop where
  flag : registration.includesKinds = true ↔ SendsKinds library members
  keeps : ¬ SendsKinds library members → ∀ claims environment world,
    KeepsEveryKind world.database.tables
      ((registerNotifications library claims body).run
        (World.handle environment) world).2.database.tables
  prunes : SendsKinds library members → ∀ claims environment world clientID,
    clientIDOf claims = some clientID →
    ((registerNotifications library claims body).run
      (World.handle environment) world).1 = some none →
    LeavesOnly clientID (registration.kinds.values.map Kind.id)
      ((registerNotifications library claims body).run
        (World.handle environment) world).2.database.tables

end Members

end Collated

/-! ## The flag -/

section Flag

variable {library : Library}

theorem decodeMember_flag {registration next : Registration}
    {member : String × Json}
    (decoded : Json.decodeMember (registrationFields library) registration
      member = some next) :
    (DecodedInto library "IncludesKinds" member →
      next.includesKinds =
        (boolOf member.2).getD registration.includesKinds) ∧
    (¬ DecodedInto library "IncludesKinds" member →
      next.includesKinds = registration.includesKinds) := by
  rw [Json.decodeMember] at decoded
  unfold DecodedInto
  cases found : Json.fieldFor (registrationFields library) member.1 with
  | none =>
      rw [found] at decoded
      cases decoded
      exact ⟨by simp, fun _ => rfl⟩
  | some field =>
      rw [found] at decoded
      have listed := Json.mem_of_fieldFor found
      simp only [registrationFields, List.mem_cons, List.not_mem_nil,
        or_false] at listed
      rcases listed with rfl | rfl | rfl
      · obtain ⟨text, _, same⟩ := Option.bind_eq_some_iff.mp decoded
        cases same
        exact ⟨by simp, fun _ => rfl⟩
      · obtain ⟨kinds, _, same⟩ := Option.bind_eq_some_iff.mp decoded
        cases same
        exact ⟨by simp, fun _ => rfl⟩
      · obtain ⟨flag, read, same⟩ := Option.bind_eq_some_iff.mp decoded
        cases same
        refine ⟨fun _ => ?_, by simp⟩
        dsimp only
        cases value : member.2 with
        | bool value' =>
            rw [value] at read
            cases read
            rfl
        | null =>
            rw [value] at read
            cases read
            rfl
        | number literal =>
            rw [value] at read
            cases read
        | string text =>
            rw [value] at read
            cases read
        | array elements =>
            rw [value] at read
            cases read
        | object members =>
            rw [value] at read
            cases read

theorem decodeMembers_flag {members : List (String × Json)}
    {registration final : Registration}
    (decoded : members.foldlM (Json.decodeMember (registrationFields library))
      registration = some final) :
    final.includesKinds =
      ((flagsOf library members).getLast?).getD
        registration.includesKinds := by
  induction members generalizing registration with
  | nil =>
      cases decoded
      rfl
  | cons member rest ih =>
      rw [List.foldlM_cons] at decoded
      obtain ⟨next, first, later⟩ := Option.bind_eq_some_iff.mp decoded
      obtain ⟨into, other⟩ := decodeMember_flag first
      rw [ih later]
      by_cases decides : DecodedInto library "IncludesKinds" member
      · rw [into decides]
        unfold flagsOf
        rw [List.filter_cons_of_pos (by simpa using decides)]
        cases value : boolOf member.2 with
        | none => simp only [List.filterMap_cons, value, Option.getD_none]
        | some flag =>
            simp only [List.filterMap_cons, value, List.getLast?_cons,
              Option.getD_some]
      · rw [other decides]
        unfold flagsOf
        rw [List.filter_cons_of_neg (by simpa using decides)]

theorem lookup_kinds_isSome (members : List (String × Json)) :
    (Json.lookup "kinds" members).isSome = true ↔ NamesKinds members := by
  rw [Json.lookup_isSome_iff, Json.keys, List.mem_dedup, List.mem_map]
  rfl

theorem includesKinds_iff {body : Body} {members : List (String × Json)}
    {registration : Registration} (object : body.first = some (.object members))
    (accepted : newRegistration library body = .ok registration) :
    registration.includesKinds = true ↔
      NamesKinds members ∨ SetsFlag library members := by
  unfold newRegistration at accepted
  rw [object] at accepted
  dsimp only at accepted
  split at accepted
  · cases accepted
  · rename_i hashParams mapped
    have same : hashParams = members := by
      unfold Json.decodeMap at mapped
      dsimp only at mapped
      split at mapped
      · exact (Option.some.inj mapped).symm
      · cases mapped
    split at accepted
    · cases accepted
    · rename_i decoded struct
      have flag := decodeMembers_flag struct
      rw [same] at accepted
      split at accepted
      · rename_i present
        cases accepted
        simp [(lookup_kinds_isSome members).mp present]
      · rename_i absent
        cases accepted
        rw [lookup_kinds_isSome] at absent
        rw [flag, SetsFlag, or_iff_right absent]
        cases (flagsOf library members).getLast? with
        | none => simp [Registration.zero]
        | some last => simp

end Flag

section Collated

variable [Collation]

/-! ## What the flag decides -/

section Deciding

variable {library : Library} {claims : Jwt.Fields} {body : Body}
  {registration : Registration} {environment : Environment} {world : World}

theorem keepsEveryKind_of_registered {client : Client} {kinds : List Kind}
    {before after : Database}
    (registered : Registered client kinds false before.tables after.tables) :
    KeepsEveryKind before.tables after.tables := by
  intro kind stored
  have found := (lookup_kinds_iff before.sound).mpr ⟨stored,
    Collation.equal_self kind.id, Collation.equal_self kind.clientID⟩
  by_cases own : Collation.equal kind.clientID client.id
  · have key := Collation.key_pair (Collation.equal_self kind.id) own
    rw [key] at found
    cases last : lastOf kind.id kinds with
    | none =>
        have still := registered.missing kind.id last
        rw [if_neg Bool.false_ne_true, found] at still
        exact ⟨kind, (Tables.lookup_eq_some still).1, rfl⟩
    | some sent =>
        obtain ⟨row, written, entry⟩ := registered.entry kind.id sent last
        exact ⟨row, (Tables.lookup_eq_some written).1,
          (entry.kept kind found).1⟩
  · rw [← registered.foreignKinds kind.id kind.clientID own] at found
    exact ⟨kind, (Tables.lookup_eq_some found).1, rfl⟩

theorem leavesOnly_of_registered {client : Client} {kinds : List Kind}
    {before after : Database}
    (registered : Registered client kinds true before.tables after.tables) :
    LeavesOnly client.id (kinds.map Kind.id) after.tables := by
  intro kind stored own
  have found := (lookup_kinds_iff after.sound).mpr
    ⟨stored, Collation.equal_self kind.id, own⟩
  cases last : lastOf kind.id kinds with
  | none =>
      have gone := registered.missing kind.id last
      rw [found, if_pos rfl] at gone
      cases gone
  | some sent =>
      obtain ⟨row, written, entry⟩ := registered.entry kind.id sent last
      rw [found, Option.some.injEq] at written
      subst written
      rw [entry.named]
      exact List.mem_map_of_mem (lastOf_eq_some last).1

/-- Without the flag a registration deletes no kind. -/
theorem registerNotifications_keepsEveryKind
    (accepted : newRegistration library body = .ok registration)
    (unset : registration.includesKinds = false) :
    KeepsEveryKind world.database.tables
      ((registerNotifications library claims body).run
        (World.handle environment) world).2.database.tables := by
  simp only [registerNotifications, accepted]
  split
  · exact fun kind stored => ⟨kind, stored, rfl⟩
  · rename_i valid
    rcases @executeRegistration_outcome _ claims registration.sourceDescription
        registration.kinds.values registration.includesKinds
        (named_of_valid valid) environment world with
      ⟨_, unchanged⟩ | ⟨clientID, _, _, registered⟩
    · rw [unchanged]
      exact fun kind stored => ⟨kind, stored, rfl⟩
    · rw [unset] at registered ⊢
      exact keepsEveryKind_of_registered registered

/-- With the flag a registration that is carried out leaves the kinds of its
list. -/
theorem registerNotifications_leavesOnly
    (accepted : newRegistration library body = .ok registration)
    (set : registration.includesKinds = true) {clientID : String}
    (client : clientIDOf claims = some clientID)
    (done : ((registerNotifications library claims body).run
      (World.handle environment) world).1 = some none) :
    LeavesOnly clientID (registration.kinds.values.map Kind.id)
      ((registerNotifications library claims body).run
        (World.handle environment) world).2.database.tables := by
  simp only [registerNotifications, accepted] at done ⊢
  split at done
  · cases done
  · rename_i valid
    rcases @executeRegistration_outcome _ claims registration.sourceDescription
        registration.kinds.values registration.includesKinds
        (named_of_valid valid) environment world with
      ⟨refused, _⟩ | ⟨own, same, _, registered⟩
    · exact absurd done refused
    · cases Option.some.inj (client.symm.trans same)
      rw [set] at registered ⊢
      have left := leavesOnly_of_registered registered
      rw [List.map_map] at left
      exact left

end Deciding

/-- A request prunes as the client asked exactly if a list comes under the very
name or with the flag, and neither comes without a list. -/
theorem prunesAsAsked_iff (library : Library) (body : Body)
    (members : List (String × Json)) (registration : Registration)
    (object : body.first = some (.object members))
    (accepted : newRegistration library body = .ok registration) :
    PrunesAsAsked library body members registration ↔
      (SendsKinds library members →
        NamesKinds members ∨ SetsFlag library members) ∧
      (¬ SendsKinds library members →
        ¬ NamesKinds members ∧ ¬ SetsFlag library members) := by
  have sets := includesKinds_iff object accepted
  constructor
  · intro asked
    have follows := asked.flag
    rw [sets] at follows
    refine ⟨follows.mpr, ?_⟩
    intro unlisted
    exact not_or.mp fun sets => unlisted (follows.mp sets)
  · intro condition
    have follows : registration.includesKinds = true ↔
        SendsKinds library members := by
      rw [sets]
      constructor
      · intro sets
        by_contra unlisted
        obtain ⟨unnamed, unset⟩ := condition.2 unlisted
        exact sets.elim unnamed unset
      · exact condition.1
    refine ⟨follows, ?_, ?_⟩
    · intro unlisted claims environment world
      apply registerNotifications_keepsEveryKind accepted
      rw [← follows, Bool.not_eq_true] at unlisted
      exact unlisted
    · intro listed claims environment world clientID client done
      exact registerNotifications_leavesOnly accepted (follows.mpr listed) client
        done

/-- `{"source_description":"S",KEY:VALUE}`. -/
def registrationMembers (key : String) (value : Json) :
    List (String × Json) :=
  [("source_description", .string "S"), (key, value)]

def registrationBody (key : String) (value : Json) : Body where
  first := some (.object (registrationMembers key value))
  trailing := false

def registrationFor (key : String) (value : Json) : Registration :=
  match newRegistration plainLibrary (registrationBody key value) with
  | .ok registration => registration
  | .error _ => .zero

end Collated

attribute [local instance] Collation.binary

theorem prunesAsAsked_kinds :
    PrunesAsAsked plainLibrary (registrationBody "kinds" (.array []))
        (registrationMembers "kinds" (.array []))
        (registrationFor "kinds" (.array [])) ↔
      (SendsKinds plainLibrary (registrationMembers "kinds" (.array [])) →
        NamesKinds (registrationMembers "kinds" (.array [])) ∨
          SetsFlag plainLibrary (registrationMembers "kinds" (.array []))) ∧
      (¬ SendsKinds plainLibrary (registrationMembers "kinds" (.array [])) →
        ¬ NamesKinds (registrationMembers "kinds" (.array [])) ∧
          ¬ SetsFlag plainLibrary
            (registrationMembers "kinds" (.array []))) :=
  prunesAsAsked_iff plainLibrary (registrationBody "kinds" (.array []))
    _ _ rfl rfl

def registeredBy (key : String) (value : Json) :
    Option (Option Refusal) × World :=
  (registerNotifications plainLibrary writerClaims
    (registrationBody key value)).run (World.handle .calm) sampleRegistry

def kindsAfter (key : String) (value : Json) : List String :=
  ((registeredBy key value).2.database.tables.rows .kinds).map Kind.id

/-- A list under another spelling does not prune, `null` and the flag itself
prune without a list. -/
theorem prunes_unasked :
    newRegistration plainLibrary (registrationBody "Kinds" (.array [])) =
      .ok (registrationFor "Kinds" (.array [])) ∧
    (registeredBy "Kinds" (.array [])).1 = some none ∧
    kindsAfter "Kinds" (.array []) = ["kept", "gone"] ∧
    ¬ PrunesAsAsked plainLibrary (registrationBody "Kinds" (.array []))
      (registrationMembers "Kinds" (.array []))
      (registrationFor "Kinds" (.array [])) ∧
    newRegistration plainLibrary (registrationBody "kinds" .null) =
      .ok (registrationFor "kinds" .null) ∧
    kindsAfter "kinds" .null = [] ∧
    ¬ PrunesAsAsked plainLibrary (registrationBody "kinds" .null)
      (registrationMembers "kinds" .null) (registrationFor "kinds" .null) ∧
    newRegistration plainLibrary
        (registrationBody "includeskinds" (.bool true)) =
      .ok (registrationFor "includeskinds" (.bool true)) ∧
    kindsAfter "includeskinds" (.bool true) = [] ∧
    ¬ PrunesAsAsked plainLibrary
      (registrationBody "includeskinds" (.bool true))
      (registrationMembers "includeskinds" (.bool true))
      (registrationFor "includeskinds" (.bool true)) := by
  have noList (key : String) (value : Json)
      (scalar : ∀ elements, value ≠ .array elements) :
      ¬ SendsKinds plainLibrary (registrationMembers key value) := by
    intro lists
    obtain ⟨member, listed, _, elements, array⟩ := lists
    rcases List.mem_cons.mp listed with rfl | last
    · cases array
    · rw [List.mem_singleton.mp last] at array
      exact scalar elements array
  refine ⟨rfl, by decide +kernel, by decide +kernel, ?_, rfl,
    by decide +kernel, ?_, rfl, by decide +kernel, ?_⟩
  · intro asked
    have lists : SendsKinds plainLibrary
        (registrationMembers "Kinds" (.array [])) :=
      ⟨("Kinds", .array []), .tail _ (.head _), by decide, [], rfl⟩
    exact absurd (asked.flag.mpr lists) (by decide)
  · intro asked
    exact noList "kinds" .null (by simp) (asked.flag.mp rfl)
  · intro asked
    exact noList "includeskinds" (.bool true) (by simp) (asked.flag.mp rfl)

end Notifications.Web
