import Notifications.Web.Preferences

/-!
# Reading preferences and sending them back

The document that `GET` writes is accepted by `PATCH`, and in the state that it
was read from an update with it changes nothing.  Entries keep their keys and
flags on the way; the order of the maps does not matter.
-/

set_option autoImplicit false

namespace Notifications.Web

open Notifications.Lib Notifications.Models Notifications.Services

/-! ## Integers -/

theorem toString_toList_of_nonneg {value : Int} (nonneg : 0 ≤ value) :
    (toString value).toList = Nat.toDigits 10 value.toNat := by
  obtain ⟨magnitude, rfl⟩ := Int.eq_ofNat_of_zero_le nonneg
  exact Nat.toList_repr

theorem toString_toList_of_neg {value : Int} (negative : value < 0) :
    (toString value).toList = '-' :: Nat.toDigits 10 value.natAbs := by
  obtain ⟨magnitude, rfl⟩ := Int.eq_negSucc_of_lt_zero negative
  change ("-" ++ Nat.repr (magnitude + 1)).toList = _
  rw [String.toList_append, Nat.toList_repr]
  rfl

theorem digits_valid (magnitude : Nat) :
    ((Nat.toDigits 10 magnitude).all Char.isDigit &&
      decide (Nat.toDigits 10 magnitude ≠ [])) = true := by
  rw [Bool.and_eq_true, List.all_eq_true, decide_eq_true_eq]
  exact ⟨fun char member => Nat.isDigit_of_mem_toDigits (by omega) (by omega)
    member, Nat.toDigits_ne_nil⟩

theorem digits_value (magnitude : Nat) :
    (Nat.toDigits 10 magnitude).foldl
      (fun value digit => value * 10 + (digit.toNat - '0'.toNat)) 0 =
        magnitude := by
  have value := @Nat.ofDigitChars_ten_toDigits magnitude
  rw [Nat.ofDigitChars_eq_foldl] at value
  simpa [Nat.mul_comm] using value

theorem parseInt_of_neg {value : Int} (negative : value < 0)
    (low : -2 ^ 63 ≤ value) : Json.parseInt (toString value) = some value := by
  have fits : -2 ^ 63 ≤ value ∧ value < 2 ^ 63 := ⟨low, by omega⟩
  have signed : -(value.natAbs : Int) = value := by omega
  simp only [Json.parseInt, toString_toList_of_neg negative, digits_valid,
    digits_value, signed, if_true, fits, and_self]

theorem parseInt_of_nonneg {value : Int} (nonneg : 0 ≤ value)
    (high : value < 2 ^ 63) : Json.parseInt (toString value) = some value := by
  have fits : -2 ^ 63 ≤ value ∧ value < 2 ^ 63 := ⟨by omega, high⟩
  have signed : (value.toNat : Int) = value := by omega
  have valid := digits_valid value.toNat
  have same := digits_value value.toNat
  rw [Json.parseInt, toString_toList_of_nonneg nonneg]
  split
  rename_i negative digits parsed
  split at parsed
  · -- a digit is not a sign
    rename_i rest first
    rw [first] at valid
    simp at valid
  · cases parsed
    simp only [valid, same, signed, fits, if_true, Bool.false_eq_true,
      if_false, and_self]

theorem parseInt_toString {value : Int} (low : -2 ^ 63 ≤ value)
    (high : value < 2 ^ 63) : Json.parseInt (toString value) = some value := by
  by_cases negative : value < 0
  · exact parseInt_of_neg negative low
  · exact parseInt_of_nonneg (by omega) high

/-! ## Maps -/

section Maps

variable {β : Type} {related : β → β → Prop}

structure Agree (related : β → β → Prop)
    (left right : AList fun _ : String => β) : Prop where
  present : ∀ key value, left.lookup key = some value →
    ∃ other, right.lookup key = some other ∧ related value other
  absent : ∀ key, left.lookup key = none → right.lookup key = none

theorem Agree.left_of_right {left right : AList fun _ : String => β}
    (agree : Agree related left right) {key : String} {other : β}
    (found : right.lookup key = some other) :
    ∃ value, left.lookup key = some value ∧ related value other := by
  cases known : left.lookup key with
  | none =>
      rw [agree.absent key known] at found
      cases found
  | some value =>
      obtain ⟨same, stored, holds⟩ := agree.present key value known
      rw [found, Option.some.injEq] at stored
      subst stored
      exact ⟨value, rfl, holds⟩

theorem Agree.keys_ne_nil {left right : AList fun _ : String => β}
    (agree : Agree related left right) (filled : left.keys ≠ []) :
    right.keys ≠ [] := by
  obtain ⟨key, member⟩ := List.exists_mem_of_ne_nil _ filled
  obtain ⟨value, found⟩ := Option.isSome_iff_exists.mp
    (AList.lookup_isSome.mpr (AList.mem_keys.mpr member))
  obtain ⟨other, stored, _⟩ := agree.present key value found
  have there : key ∈ right :=
    AList.lookup_isSome.mp (Option.isSome_iff_exists.mpr ⟨other, stored⟩)
  exact List.ne_nil_of_mem (AList.mem_keys.mp there)

variable {encode : β → Json} {decode : Json → Option β}

/-- One member after the other; a key does not come twice. -/
theorem decode_members (members : List (Sigma fun _ : String => β))
    (distinct : members.NodupKeys)
    (decodes : ∀ member ∈ members, ∃ other,
      decode (encode member.2) = some other ∧ related member.2 other)
    (entries : AList fun _ : String => β) :
    ∃ decoded,
      (members.map fun member => (member.1, encode member.2)).foldlM
        (fun entries member => do
          some (AList.insert member.1 (← decode member.2) entries)) entries =
        some decoded ∧
      (∀ key, key ∉ members.keys →
        decoded.lookup key = entries.lookup key) ∧
      ∀ member ∈ members, ∃ other,
        decoded.lookup member.1 = some other ∧ related member.2 other := by
  induction members generalizing entries with
  | nil => exact ⟨entries, rfl, fun _ _ => rfl, by simp⟩
  | cons first rest ih =>
      obtain ⟨fresh, distinct⟩ := List.nodupKeys_cons.mp distinct
      obtain ⟨other, decoded, holds⟩ := decodes first (.head _)
      obtain ⟨final, ran, untouched, stored⟩ := ih distinct
        (fun member inRest => decodes member (.tail _ inRest))
        (entries.insert first.1 other)
      refine ⟨final, ?_, ?_, ?_⟩
      · rw [List.map_cons, List.foldlM_cons]
        simp only [decoded]
        exact ran
      · intro key outside
        rw [List.keys_cons, List.mem_cons, not_or] at outside
        rw [untouched key outside.2, AList.lookup_insert_ne outside.1]
      · intro member inMembers
        rcases List.mem_cons.mp inMembers with rfl | inRest
        · exact ⟨other, by rw [untouched _ fresh, AList.lookup_insert], holds⟩
        · exact stored member inRest

theorem decode_encodeEntries (entries : AList fun _ : String => β)
    (decodes : ∀ key value, entries.lookup key = some value → ∃ other,
      decode (encode value) = some other ∧ related value other) :
    ∃ decoded,
      Builder.decodeEntries decode (Builder.encodeEntries encode entries) ∅ =
        some decoded ∧
      Agree related entries decoded := by
  have perm : (entries.entries.mergeSort fun left right =>
      decide (left.1 ≤ right.1)).Perm entries.entries :=
    List.mergeSort_perm _ _
  have distinct : (entries.entries.mergeSort fun left right =>
      decide (left.1 ≤ right.1)).NodupKeys :=
    (List.perm_nodupKeys perm).mpr entries.nodupKeys
  obtain ⟨decoded, ran, untouched, stored⟩ := @decode_members β related encode
    decode _ distinct (fun member inMembers => decodes member.1 member.2
      (AList.mem_lookup_iff.mpr (perm.mem_iff.mp inMembers))) ∅
  refine ⟨decoded, ran, ?_, ?_⟩
  · intro key value found
    exact stored ⟨key, value⟩
      (perm.mem_iff.mpr (AList.mem_lookup_iff.mp found))
  · intro key missing
    rw [untouched key, AList.lookup_empty]
    intro member
    rw [AList.lookup_eq_none] at missing
    exact missing (AList.mem_keys.mpr
      ((perm.map Sigma.fst).mem_iff.mp member))

end Maps

/-! ## The document -/

/-- The count comes back as the `int` that it is. -/
def SameKind (kind other : PreferencesBuilder.Kind) : Prop :=
  other = { kind with count := kind.count.bmod (2 ^ 64) }

theorem bmod_low (value : Int) : -2 ^ 63 ≤ value.bmod (2 ^ 64) := by
  have low := @Int.le_bmod value (2 ^ 64) (by decide)
  omega

theorem bmod_high (value : Int) : value.bmod (2 ^ 64) < 2 ^ 63 := by
  have high := @Int.bmod_lt value (2 ^ 64) (by decide)
  omega

theorem decodeInt_encodeInt (value old : Int) :
    (Builder.encodeInt value).decodeInt old = some (value.bmod (2 ^ 64)) :=
  parseInt_toString (bmod_low value) (bmod_high value)

theorem decodeKind_encodeKind (kind : PreferencesBuilder.Kind) :
    ∃ other, Builder.decodeKind (Builder.encodeKind kind) = some other ∧
      SameKind kind other := by
  refine ⟨_, ?_, rfl⟩
  obtain ⟨count, email, kindDescription, sourceDescription⟩ := kind
  cases email <;>
    simp [Builder.decodeKind, Builder.encodeKind, Json.decodeStruct,
      Json.decodeMember, Json.fieldFor, Builder.kindFields,
      Builder.encodeEmail, Builder.decodeEmail, Json.decodeString,
      decodeInt_encodeInt]

theorem decode_encode (builder : PreferencesBuilder) :
    ∃ decoded,
      Json.decodeStruct Builder.fields (Builder.encode builder) .new =
        some decoded ∧
      decoded.globalUnsubscribe = builder.globalUnsubscribe ∧
      Agree (Agree SameKind) builder.clients decoded.clients := by
  obtain ⟨clients, decoded, agree⟩ := @decode_encodeEntries ClientMap
    (Agree SameKind) (Builder.encodeEntries Builder.encodeKind)
    Builder.decodeClientMap builder.clients
    (fun _ kinds _ => decode_encodeEntries kinds
      fun _ kind _ => decodeKind_encodeKind kind)
  refine ⟨⟨builder.globalUnsubscribe, clients⟩, ?_, rfl, agree⟩
  simp [Builder.encode, Json.decodeStruct, Json.decodeMember, Json.fieldFor,
    Builder.fields, Json.decodeBool, PreferencesBuilder.new, decoded]

/-- `strconv.ParseFloat` reads the literals of Go's integers. -/
def ReadsIntegers (library : Library) : Prop :=
  ∀ value : Int, -2 ^ 63 ≤ value → value < 2 ^ 63 →
    library.float64 (toString value) = true

section Representable

variable {float64 : String → Bool}

theorem membersRepresentable_iff {members : List (String × Json)} :
    Json.membersRepresentable float64 members = true ↔
      ∀ member ∈ members, Json.representable float64 member.2 = true := by
  induction members with
  | nil => simp [Json.membersRepresentable]
  | cons first rest ih => simp [Json.membersRepresentable, ih]

theorem representable_encodeEntries {β : Type} {encode : β → Json}
    (each : ∀ value, Json.representable float64 (encode value) = true)
    (entries : AList fun _ : String => β) :
    Json.representable float64 (Builder.encodeEntries encode entries) =
      true := by
  rw [Builder.encodeEntries, Json.representable, membersRepresentable_iff]
  intro member inMembers
  obtain ⟨entry, _, rfl⟩ := List.mem_map.mp inMembers
  exact each entry.2

end Representable

theorem representable_encode {library : Library}
    (reads : ReadsIntegers library) (builder : PreferencesBuilder) :
    Json.representable library.float64 (Builder.encode builder) = true := by
  have kinds : ∀ kind, Json.representable library.float64
      (Builder.encodeKind kind) = true := by
    intro kind
    have count : Json.representable library.float64
        (Builder.encodeInt kind.count) = true :=
      reads _ (bmod_low kind.count) (bmod_high kind.count)
    cases email : kind.email <;>
      simp [Builder.encodeKind, Builder.encodeEmail, Json.representable,
        Json.membersRepresentable, count, email]
  have clients := representable_encodeEntries
    (representable_encodeEntries kinds) builder.clients
  simp [Builder.encode, Json.representable, Json.membersRepresentable,
    clients]

/-! ## Accepting the document -/

theorem reportExtraKeys_eq_none {texts : Valiant.Texts}
    {expectedTags tags : List String} :
    Valiant.reportExtraKeys texts expectedTags tags = none ↔
      ∀ tag ∈ tags, Valiant.contains expectedTags tag = true := by
  induction tags with
  | nil => simp [Valiant.reportExtraKeys]
  | cons tag rest ih =>
      rw [Valiant.reportExtraKeys, List.forall_mem_cons]
      split
      · rename_i known
        rw [ih]
        simp [known]
      · rename_i unknown
        simp [unknown]

def sentBack (json : Json) : Body := ⟨some json, false⟩

section Collated

variable [Collation]

theorem run_validate_encode {library : Library}
    (reads : ReadsIntegers library) (texts : Valiant.Texts)
    (environment : Environment) (world : World)
    (builder : PreferencesBuilder) :
    ∃ decoded,
      (Valiant.validate library texts Builder.fields []
        (sentBack (Builder.encode builder)) .new).run
          (World.handle environment) world = (some (.ok decoded), world) ∧
      decoded.globalUnsubscribe = builder.globalUnsubscribe ∧
      Agree (Agree SameKind) builder.clients decoded.clients := by
  obtain ⟨decoded, struct, flag, agree⟩ := decode_encode builder
  have representable := representable_encode reads builder
  refine ⟨decoded, ?_, flag, agree⟩
  simp only [Valiant.validate, sentBack, Option.bind_some, struct]
  rw [Builder.encode, Json.representable] at representable
  simp only [Builder.encode, representable, if_true,
    Valiant.validateRequired, List.find?_nil, Option.map_none]
  rw [Program.perform_bind, Program.run_call]
  simp only [World.handle]
  rw [reportExtraKeys_eq_none.mpr]
  · rfl
  · intro tag member
    have listed := (environment.order _).2.mem_iff.mp member
    simp only [Json.keys, List.map_cons, List.map_nil, List.mem_dedup,
      List.mem_cons, List.not_mem_nil, or_false] at listed
    rcases listed with rfl | rfl <;> decide

theorem Agree.holds {tables : Tables} {userGUID : String}
    {builder decoded : PreferencesBuilder}
    (agree : Agree (Agree SameKind) builder.clients decoded.clients)
    (holds : builder.Holds (PreferencesFinder.Shown tables userGUID)) :
    decoded.Holds (PreferencesFinder.Shown tables userGUID) where
  filled := by
    intro clientID kinds found
    obtain ⟨original, stored, same⟩ := agree.left_of_right found
    exact same.keys_ne_nil (holds.filled clientID original stored)
  entries := by
    intro clientID kindID kind found
    obtain ⟨kinds, client, inner⟩ := Option.bind_eq_some_iff.mp found
    obtain ⟨original, stored, same⟩ := agree.left_of_right client
    obtain ⟨value, entry, rfl⟩ := same.left_of_right inner
    have shown := holds.entries clientID kindID value
      (by rw [PreferencesBuilder.entry, stored]; exact entry)
    exact ⟨shown.changeable, shown.email⟩

theorem complete_of_shown {tables : Tables} {userGUID : String}
    {builder : PreferencesBuilder}
    (holds : builder.Holds (PreferencesFinder.Shown tables userGUID)) :
    PreferencesBuilder.Complete builder.clients := by
  intro clientID kinds found
  refine ⟨holds.filled clientID kinds found, ?_⟩
  intro kindID kind stored unset
  have shown := holds.entries clientID kindID kind
    (by rw [PreferencesBuilder.entry, found]; exact stored)
  rw [shown.email] at unset
  cases unset

/-- Where texts are compared exactly, every row is spelt alike. -/
theorem speltAlike_of_exact (exact : Function.Injective Collation.weight)
    {tables : Tables} (sound : tables.Sound)
    (userGUID clientID kindID : String) :
    SpeltAlike tables userGUID clientID kindID := by
  intro row found
  obtain ⟨_, keyed⟩ := sound.lookup_iff.mp found
  simp only [Table.uniqueKey, Collation.key_cons_eq, and_true] at keyed
  exact ⟨exact keyed.2.1, exact keyed.2.2⟩

theorem idle_of_shown (exact : Function.Injective Collation.weight)
    {tables : Tables} (sound : tables.Sound) {userGUID : String}
    {builder : PreferencesBuilder}
    (holds : builder.Holds (PreferencesFinder.Shown tables userGUID))
    {preference : Services.Preference}
    (entered : PreferencesBuilder.Entered builder.clients preference) :
    PreferenceUpdater.Changeable tables preference ∧
      (tables.lookup .unsubscribes
        (PreferenceUpdater.keyOf userGUID preference)).isSome =
          !preference.email := by
  obtain ⟨kinds, kind, client, stored, email⟩ := entered
  have shown := holds.entries preference.clientID preference.kindID kind
    (by rw [PreferencesBuilder.entry, client]; exact stored)
  refine ⟨shown.changeable, ?_⟩
  have same := shown.email
  rw [email, Option.some.injEq] at same
  rw [same, Bool.not_not, (contains_iff sound _ _).mpr
    (speltAlike_of_exact exact sound _ _ _), PreferenceUpdater.keyOf]

/-- An update that finds everything as it is to be. -/
theorem run_execute_idle {environment : Environment}
    (faultless : Faultless environment) (world : World) (userID : String)
    (globalUnsubscribe : Bool) (preferences : List Services.Preference)
    (flag : (world.database.tables.lookup .globalUnsubscribes
      (Collation.key [userID])).isSome = globalUnsubscribe)
    (idle : ∀ preference ∈ preferences,
      PreferenceUpdater.Changeable world.database.tables preference ∧
      (world.database.tables.lookup .unsubscribes
        (PreferenceUpdater.keyOf userID preference)).isSome =
          !preference.email) :
    ∃ after,
      (inTransaction (PreferenceUpdater.execute .transaction preferences
        globalUnsubscribe userID)).run (World.handle environment) world =
          (some none, after) ∧
      after.database.tables = world.database.tables := by
  obtain ⟨between, toggled, runs⟩ := @PreferenceUpdater.run_execute _
    environment .transaction world.database faultless (begun world) rfl
    globalUnsubscribe userID
  obtain ⟨result, working, count, ran, success, applied⟩ := runs preferences
  cases success.mpr fun preference member => (idle preference member).1
  obtain ⟨after, ran, database⟩ := run_inTransaction_faultless faultless ran
  refine ⟨after, ran, ?_⟩
  have same := toggled.idle flag
  rw [database, if_pos rfl, ← same]
  apply (applied rfl).idle
  rw [same]
  exact fun preference member => (idle preference member).2

theorem run_updateFor_encode (exact : Function.Injective Collation.weight)
    {library : Library}
    (reads : ReadsIntegers library) (texts : Valiant.Texts)
    {environment : Environment} (faultless : Faultless environment)
    (world : World) {userGUID : String} {builder : PreferencesBuilder}
    (found : PreferencesFinder.found world.database.tables userGUID =
      (builder, none)) (unconvertible : String → Objection) :
    ∃ after,
      (updateFor library texts userGUID (sentBack (Builder.encode builder))
        unconvertible).run (World.handle environment) world =
          (some none, after) ∧
      after.database.tables = world.database.tables := by
  have holds := PreferencesFinder.found_holds world.database.sound userGUID
  rw [found] at holds
  obtain ⟨decoded, validated, flag, agree⟩ :=
    run_validate_encode reads texts environment world builder
  have holds := agree.holds holds
  obtain ⟨result, flattened, entered, complete⟩ :=
    PreferencesBuilder.run_toPreferences environment world decoded
  obtain ⟨preferences, rfl⟩ := complete (complete_of_shown holds)
  obtain ⟨after, ran, same⟩ := run_execute_idle faultless world userGUID
    decoded.globalUnsubscribe preferences
    (by rw [flag, PreferencesFinder.found_globalUnsubscribe found])
    (fun preference member =>
      idle_of_shown exact world.database.sound holds
        (entered preferences rfl preference member))
  refine ⟨after, ?_, same⟩
  rw [updateFor, Program.run_bind_of _ validated]
  simp only
  rw [Program.run_bind_of _ flattened]
  simp only
  rw [Program.run_bind_of _ ran]
  rfl

theorem found_of_preferencesOf {environment : Environment}
    (faultless : Faultless environment) {world : World} {userGUID : String}
    {json : Json}
    (shown : ((preferencesOf userGUID).run (World.handle environment)
      world).1 = some (.ok json)) :
    ∃ builder,
      PreferencesFinder.found world.database.tables userGUID =
        (builder, none) ∧ json = Builder.encode builder := by
  have ran := PreferencesFinder.run_find faultless world userGUID
  rcases both : (PreferencesFinder.find userGUID).run
    (World.handle environment) world with ⟨result, after⟩
  rw [both] at ran
  cases ran
  rw [preferencesOf, Program.run_bind_of _ both] at shown
  rcases found : PreferencesFinder.found world.database.tables userGUID with
    ⟨builder, err⟩
  rw [found] at shown
  cases err with
  | some error => cases shown
  | none =>
      cases shown
      exact ⟨builder, rfl, rfl⟩

/-- What `GET` has shown of a user's preferences, sent back in the same state,
is accepted by both handlers and changes no table, where the tables compare
exactly. -/
theorem preferences_sent_back_change_nothing
    (exact : Function.Injective Collation.weight) (library : Library)
    (reads : ReadsIntegers library) (texts : Valiant.Texts)
    (environment : Environment) (faultless : Faultless environment)
    (world : World) (userGUID : String) (json : Json)
    (shown : ((preferencesOf userGUID).run (World.handle environment)
      world).1 = some (.ok json))
    (patching : Environment) (calm : Faultless patching) (later : World)
    (unchanged : later.database = world.database) :
    (∀ claims : Jwt.Fields,
      claims.lookup "user_id" = some (.string userGUID) →
      ∃ after,
        (updatePreferences library texts claims (sentBack json)).run
          (World.handle patching) later = (some none, after) ∧
        after.database.tables = later.database.tables) ∧
    ∀ path, parseGUID path = some userGUID →
      ∃ after,
        (updateSpecificUserPreferences library texts path
          (sentBack json)).run (World.handle patching) later =
            (some none, after) ∧
        after.database.tables = later.database.tables := by
  obtain ⟨builder, found, rfl⟩ := found_of_preferencesOf faultless shown
  rw [← unchanged] at found
  refine ⟨?_, ?_⟩
  · intro claims user
    simp only [updatePreferences, withUserID, user]
    exact run_updateFor_encode exact reads texts calm later found _
  · intro path user
    simp only [updateSpecificUserPreferences, user]
    exact run_updateFor_encode exact reads texts calm later found _

end Collated

attribute [local instance] Collation.binary

theorem sample_sent_back :
    ∃ json after,
      ((preferencesOf "user").run (World.handle .calm) sampleShown).1 =
        some (.ok json) ∧
      (updateSpecificUserPreferences plainLibrary plainTexts
        "/user_preferences/user" (sentBack json)).run (World.handle .calm)
          sampleShown = (some none, after) ∧
      after.database.tables = sampleShown.database.tables := by
  have faultless : Faultless .calm := fun _ => rfl
  have shown : ((preferencesOf "user").run (World.handle .calm)
      sampleShown).1 = some (.ok (Builder.encode
        (PreferencesFinder.found sampleShown.database.tables
          "user").1)) := by rfl
  obtain ⟨after, ran, same⟩ := (preferences_sent_back_change_nothing
    Function.injective_id plainLibrary (fun _ _ _ => rfl) plainTexts .calm
    faultless sampleShown
    "user" _ shown .calm faultless sampleShown rfl).2
    "/user_preferences/user" (by decide)
  exact ⟨_, after, shown, ran, same⟩

end Notifications.Web
