import Notifications.Web.Preferences

/-!
# What a `PATCH` of preferences touches

Only the kinds that the body mentions are touched.  The global unsubscribe is
always written: the field of the builder is a plain `bool`, so a body without
the member looks like one that sets it to `false`.
-/

set_option autoImplicit false

namespace Notifications.Web

open Notifications.Lib Notifications.Models Notifications.Services

/-! ## What a body mentions -/

def membersOf (name : String) : Json → List Json
  | .object members =>
      (members.filter fun member => Json.equalFold name member.1).map Prod.snd
  | _ => []

/-- The body has a member for the global unsubscribe. -/
def MentionsGlobal (body : Body) : Prop :=
  ∃ json, body.first = some json ∧ membersOf "global_unsubscribe" json ≠ []

section Collated

variable [Collation]

/-- The body has a member for the kind of the client, in some spelling. -/
def Mentions (body : Body) (clientID kindID : String) : Prop :=
  ∃ json clients kinds named kind, body.first = some json ∧
    .object clients ∈ membersOf "clients" json ∧
    (named, .object kinds) ∈ clients ∧ kind ∈ kinds.map Prod.fst ∧
    Collation.key [named, kind] = Collation.key [clientID, kindID]

/-- What the body does not mention is as before. -/
structure OnlyMentioned (body : Body) (userID : String)
    (before after : Tables) : Prop where
  global : ¬ MentionsGlobal body →
    after.lookup .globalUnsubscribes (Collation.key [userID]) =
      before.lookup .globalUnsubscribes (Collation.key [userID])
  kinds : ∀ clientID kindID, ¬ Mentions body clientID kindID →
    after.lookup .unsubscribes (Collation.key [userID, clientID, kindID]) =
      before.lookup .unsubscribes (Collation.key [userID, clientID, kindID])

end Collated

/-! ## Decoding -/

theorem equalFold_exclusive {key : String}
    (global : Json.equalFold "global_unsubscribe" key = true) :
    Json.equalFold "clients" key = false := by
  rw [Json.equalFold, beq_iff_eq] at global
  rw [Json.equalFold, ← global]
  decide

theorem decodeMember_fields (builder : PreferencesBuilder)
    (member : String × Json) :
    Json.decodeMember Builder.fields builder member =
      if Json.equalFold "global_unsubscribe" member.1 then
        (member.2.decodeBool builder.globalUnsubscribe).map fun flag =>
          { builder with globalUnsubscribe := flag }
      else if Json.equalFold "clients" member.1 then
        (Builder.decodeEntries Builder.decodeClientMap member.2
          builder.clients).map fun clients =>
            { builder with clients := clients }
      else some builder := by
  have exact : ∀ name, Json.equalFold name member.1 = false →
      (name == member.1) = false := by
    intro name folded
    rw [beq_eq_false_iff_ne]
    rintro rfl
    rw [Json.equalFold_refl] at folded
    cases folded
  rw [Json.decodeMember, Json.fieldFor]
  cases global : Json.equalFold "global_unsubscribe" member.1 with
  | true =>
      have other := equalFold_exclusive global
      cases decoded : member.2.decodeBool builder.globalUnsubscribe <;>
        cases named : "global_unsubscribe" == member.1 <;>
          simp [Builder.fields, List.find?, named, exact _ other, global,
            decoded]
  | false =>
      cases clients : Json.equalFold "clients" member.1 with
      | true =>
          cases decoded : Builder.decodeEntries Builder.decodeClientMap
              member.2 builder.clients <;>
            cases named : "clients" == member.1 <;>
              simp [Builder.fields, List.find?, named, exact _ global, global,
                clients, decoded]
      | false =>
          simp [Builder.fields, List.find?, exact _ global, exact _ clients,
            global, clients]

/-- A body without the member leaves the flag as it is. -/
theorem decode_unmentioned_global {json : Json}
    {builder decoded : PreferencesBuilder}
    (absent : membersOf "global_unsubscribe" json = [])
    (decodes : Json.decodeStruct Builder.fields json builder =
      some decoded) :
    decoded.globalUnsubscribe = builder.globalUnsubscribe := by
  cases json with
  | object members =>
      simp only [membersOf, List.map_eq_nil_iff, List.filter_eq_nil_iff]
        at absent
      refine @foldlM_invariant _ _ _ (fun value : PreferencesBuilder =>
        value.globalUnsubscribe = builder.globalUnsubscribe) members ?_ _ _
        rfl decodes
      intro member inMembers value next holds stepped
      rw [decodeMember_fields, if_neg (absent member inMembers)] at stepped
      split at stepped
      · obtain ⟨clients, _, rfl⟩ := Option.map_eq_some_iff.mp stepped
        exact holds
      · cases stepped
        exact holds
  | null =>
      cases decodes
      rfl
  | bool value => cases decodes
  | number literal => cases decodes
  | string value => cases decodes
  | array elements => cases decodes

/-- Entries of a map that was decoded have a member, unless they were there
before. -/
theorem decodeEntries_members {β : Type} {decode : Json → Option β}
    {json : Json} {entries decoded : AList fun _ : String => β}
    (decodes : Builder.decodeEntries decode json entries = some decoded)
    {key : String} {value : β} (found : decoded.lookup key = some value) :
    entries.lookup key = some value ∨ ∃ members inner,
      json = .object members ∧ (key, inner) ∈ members ∧
        decode inner = some value := by
  cases json with
  | object members =>
      refine @foldlM_invariant _ _ _ (fun map : AList fun _ : String => β =>
        ∀ key value, map.lookup key = some value →
          entries.lookup key = some value ∨ ∃ listed inner,
            Json.object members = .object listed ∧ (key, inner) ∈ listed ∧
              decode inner = some value) members ?_ _ _ ?_ decodes key value
        found
      · intro member inMembers map next holds stepped key value found
        obtain ⟨inner, decoded, same⟩ := Option.bind_eq_some_iff.mp stepped
        cases same
        by_cases here : key = member.1
        · subst here
          rw [AList.lookup_insert, Option.some.injEq] at found
          subst found
          exact .inr ⟨members, member.2, rfl, inMembers, decoded⟩
        · rw [AList.lookup_insert_ne here] at found
          exact holds key value found
      · intro key value found
        exact .inl found
  | null =>
      cases decodes
      rw [AList.lookup_empty] at found
      cases found
  | bool value => cases decodes
  | number literal => cases decodes
  | string value => cases decodes
  | array elements => cases decodes

section Collated

variable [Collation]

theorem mentions_of_decoded {body : Body} {json : Json}
    {decoded : PreferencesBuilder} (first : body.first = some json)
    (decodes : Json.decodeStruct Builder.fields json .new = some decoded)
    {preference : Services.Preference}
    (entered : PreferencesBuilder.Entered decoded.clients preference) :
    Mentions body preference.clientID preference.kindID := by
  obtain ⟨kinds, kind, client, stored, _⟩ := entered
  cases json with
  | object members =>
      have mentioned := @foldlM_invariant _ _ _
        (fun value : PreferencesBuilder =>
          ∀ clientID kinds kindID kind,
            value.clients.lookup clientID = some kinds →
            AList.lookup kindID kinds = some kind →
            Mentions body clientID kindID) members ?_ _ _ ?_ decodes
      · exact mentioned _ kinds _ kind client stored
      · intro member inMembers value next holds stepped
        rw [decodeMember_fields] at stepped
        split at stepped
        · obtain ⟨flag, _, rfl⟩ := Option.map_eq_some_iff.mp stepped
          exact holds
        · split at stepped
          · rename_i named
            obtain ⟨clients, decodes, rfl⟩ :=
              Option.map_eq_some_iff.mp stepped
            intro clientID kinds kindID kind client stored
            rcases decodeEntries_members decodes client with
              earlier | ⟨listed, inner, same, inListed, decodes⟩
            · exact holds clientID kinds kindID kind earlier stored
            rcases decodeEntries_members decodes stored with
              earlier | ⟨inside, value, rfl, inInside, _⟩
            · rw [AList.lookup_empty] at earlier
              cases earlier
            refine ⟨_, listed, inside, _, _, first, ?_, inListed,
              List.mem_map_of_mem inInside, rfl⟩
            rw [← same]
            exact List.mem_map_of_mem (List.mem_filter.mpr ⟨inMembers, named⟩)
          · cases stepped
            exact holds
      · intro clientID kinds kindID kind client
        rw [PreferencesBuilder.new, AList.lookup_empty] at client
        cases client
  | null =>
      cases decodes
      rw [PreferencesBuilder.new, AList.lookup_empty] at client
      cases client
  | bool value => cases decodes
  | number literal => cases decodes
  | string value => cases decodes
  | array elements => cases decodes

/-! ## Accepted bodies -/

theorem run_validate {α : Type} (library : Library) (texts : Valiant.Texts)
    (fields : List (Json.Field α)) (required : List String) (body : Body)
    (typed : α) (environment : Environment) (world : World) :
    ∃ result,
      (Valiant.validate library texts fields required body typed).run
        (World.handle environment) world = (result, world) ∧
      ∀ decoded, result = some (.ok decoded) →
        ∃ json, body.first = some json ∧
          Json.decodeStruct fields json typed = some decoded := by
  rw [Valiant.validate]
  cases first : body.first with
  | none => exact ⟨_, rfl, by simp⟩
  | some json =>
      cases decodes : Json.decodeStruct fields json typed with
      | none =>
          simp only [Option.bind_some, decodes]
          exact ⟨_, rfl, by simp⟩
      | some value =>
          simp only [Option.bind_some, decodes]
          cases json with
          | object members =>
              simp only
              split
              · cases Valiant.validateRequired required members with
                | some text => exact ⟨_, rfl, by simp⟩
                | none =>
                    simp only [Program.perform_bind, Program.run_call,
                      World.handle]
                    cases Valiant.reportExtraKeys texts
                        (fields.map Json.Field.name)
                        (environment.order (Json.keys members)).1 with
                    | some text => exact ⟨_, rfl, by simp⟩
                    | none =>
                        refine ⟨_, rfl, ?_⟩
                        intro decoded same
                        cases same
                        exact ⟨.object members, rfl, decodes⟩
              · exact ⟨_, rfl, by simp⟩
          | null => exact ⟨none, rfl, by simp⟩
          | bool flag => exact ⟨none, rfl, by simp⟩
          | number literal => exact ⟨none, rfl, by simp⟩
          | string text => exact ⟨none, rfl, by simp⟩
          | array elements => exact ⟨none, rfl, by simp⟩

theorem updateFor_accepted {library : Library} {texts : Valiant.Texts}
    {environment : Environment} {world after : World} {userID : String}
    {body : Body} {unconvertible : String → Objection}
    (accepted : (updateFor library texts userID body unconvertible).run
      (World.handle environment) world = (some none, after)) :
    ∃ json decoded preferences, ∃ between : Database,
      body.first = some json ∧
      Json.decodeStruct Builder.fields json .new = some decoded ∧
      (∀ preference ∈ preferences,
        PreferencesBuilder.Entered decoded.clients preference) ∧
      Tables.Toggled .globalUnsubscribes (Collation.key [userID])
        decoded.globalUnsubscribe world.database.tables between.tables ∧
      PreferenceUpdater.Applied userID preferences between.tables
        after.database.tables := by
  obtain ⟨validated, ran, decodes⟩ := run_validate library texts
    Builder.fields [] body .new environment world
  rw [updateFor, Program.run_bind, ran] at accepted
  cases validated with
  | none => cases accepted
  | some validated =>
      cases validated with
      | error text => cases accepted
      | ok decoded =>
          obtain ⟨json, first, struct⟩ := decodes decoded rfl
          obtain ⟨result, flattened, entered, _⟩ :=
            PreferencesBuilder.run_toPreferences environment world decoded
          simp only at accepted
          rw [Program.run_bind_of _ flattened] at accepted
          cases result with
          | error text => cases accepted
          | ok preferences =>
              simp only at accepted
              obtain ⟨err, final, ran, outcome, _⟩ := run_inTransaction
                (execute_onConn preferences decoded.globalUnsubscribe userID)
                world (PreferenceUpdater.execute_achieves preferences
                  decoded.globalUnsubscribe userID)
              rw [Program.run_bind, ran] at accepted
              cases err with
              | none => cases accepted
              | some err =>
                  cases err with
                  | some error => cases accepted
                  | none =>
                      cases accepted
                      rcases outcome with ⟨_, done⟩ | ⟨failed, _⟩
                      · obtain ⟨between, toggled, applied⟩ := done rfl
                        exact ⟨json, decoded, preferences, between, first,
                          struct, entered preferences rfl, toggled, applied⟩
                      · exact absurd rfl failed

/-! ## The endpoints -/

inductive Patch where
  /-- `PATCH /user_preferences` -/
  | own (claims : Jwt.Fields)
  /-- `PATCH /user_preferences/{user_id}` -/
  | specific (path : String)

def Patch.userID : Patch → Option String
  | own claims =>
      match claims.lookup "user_id" with
      | some (.string userID) => some userID
      | _ => none
  | specific path => parseGUID path

def Patch.handler (library : Library) (texts : Valiant.Texts) (body : Body) :
    Patch → Prog (Option Objection)
  | own claims => updatePreferences library texts claims body
  | specific path => updateSpecificUserPreferences library texts path body

theorem Patch.handler_eq {patch : Patch} {userID : String}
    (identified : patch.userID = some userID) (library : Library)
    (texts : Valiant.Texts) (body : Body) :
    ∃ unconvertible, patch.handler library texts body =
      updateFor library texts userID body unconvertible := by
  cases patch with
  | own claims =>
      rw [Patch.userID] at identified
      split at identified
      · rename_i user claimed
        cases identified
        refine ⟨fun text => .validation [text], ?_⟩
        rw [Patch.handler, updatePreferences, withUserID, claimed]
      · cases identified
  | specific path =>
      rw [Patch.userID] at identified
      refine ⟨.plain, ?_⟩
      rw [Patch.handler, updateSpecificUserPreferences, identified]

theorem kinds_unmentioned {body : Body} {userID : String} {json : Json}
    {decoded : PreferencesBuilder} {preferences : List Services.Preference}
    {before between after : Tables} {flag : Bool}
    (first : body.first = some json)
    (struct : Json.decodeStruct Builder.fields json .new = some decoded)
    (entered : ∀ preference ∈ preferences,
      PreferencesBuilder.Entered decoded.clients preference)
    (toggled : Tables.Toggled .globalUnsubscribes (Collation.key [userID])
      flag before between)
    (applied : PreferenceUpdater.Applied userID preferences between after)
    {clientID kindID : String} (unmentioned : ¬ Mentions body clientID kindID) :
    after.lookup .unsubscribes (Collation.key [userID, clientID, kindID]) =
      before.lookup .unsubscribes
        (Collation.key [userID, clientID, kindID]) := by
  rw [applied.unlisted, Tables.lookup_congr
    (toggled.others .unsubscribes (by decide))]
  apply PreferenceUpdater.lastEmail_eq_none
  intro preference member same
  obtain ⟨json, clients, kinds, named, kind, rest⟩ :=
    mentions_of_decoded first struct (entered preference member)
  refine unmentioned ⟨json, clients, kinds, named, kind, rest.1, rest.2.1,
    rest.2.2.1, rest.2.2.2.1, rest.2.2.2.2.trans ?_⟩
  exact List.tail_eq_of_cons_eq same

/-- An accepted `PATCH` leaves alone what its body does not mention iff the
body says something about the global unsubscribe, or there is none. -/
theorem patch_leaves_unmentioned_iff (library : Library)
    (texts : Valiant.Texts) (environment : Environment)
    (world after : World) (patch : Patch) (userID : String) (body : Body)
    (identified : patch.userID = some userID)
    (accepted : (patch.handler library texts body).run
      (World.handle environment) world = (some none, after)) :
    OnlyMentioned body userID world.database.tables after.database.tables ↔
      (MentionsGlobal body ∨
        world.database.tables.lookup .globalUnsubscribes
          (Collation.key [userID]) = none) := by
  obtain ⟨unconvertible, same⟩ := patch.handler_eq identified library texts
    body
  rw [same] at accepted
  obtain ⟨json, decoded, preferences, between, first, struct, entered,
    toggled, applied⟩ := updateFor_accepted accepted
  have globals := Tables.lookup_congr
    (applied.others .globalUnsubscribes (by decide)) (Collation.key [userID])
  -- without the member the flag is that of a new builder
  have cleared : ¬ MentionsGlobal body →
      decoded.globalUnsubscribe = false := by
    intro unmentioned
    apply decode_unmentioned_global _ struct
    by_contra mentioned
    exact unmentioned ⟨json, first, mentioned⟩
  constructor
  · intro only
    by_cases mentioned : MentionsGlobal body
    · exact .inl mentioned
    · right
      have gone := toggled.present
      rw [cleared mentioned, ← globals, only.global mentioned] at gone
      simpa using gone
  · intro condition
    refine ⟨?_, fun clientID kindID unmentioned => kinds_unmentioned first
      struct entered toggled applied unmentioned⟩
    intro unmentioned
    rcases condition with mentioned | none
    · exact absurd mentioned unmentioned
    · have idle : (world.database.tables.lookup .globalUnsubscribes
          (Collation.key [userID])).isSome = decoded.globalUnsubscribe := by
        rw [none, cleared unmentioned]
        rfl
      rw [globals, toggled.idle idle]

end Collated

attribute [local instance] Collation.binary

def sampleSilenced : World :=
  .start [.insert .kinds ⟨0, "kind", "K", false, "client", 0, 0, "default"⟩,
    .insert .globalUnsubscribes ⟨0, "user", 0⟩]

def samplePatch : Patch := .own [("user_id", .string "user")]

def sampleBody (members : List (String × Json)) : Body :=
  ⟨some (.object (members ++ [("clients", .object [("client",
    .object [("kind", .object [("email", .bool false)])])])])), false⟩

/-- Unsubscribing from one kind brings all others back. -/
theorem patch_resubscribes :
    ∃ after,
      (samplePatch.handler plainLibrary plainTexts (sampleBody [])).run
        (World.handle .calm) sampleSilenced = (some none, after) ∧
      ¬ OnlyMentioned (sampleBody []) "user"
        sampleSilenced.database.tables after.database.tables := by
  rcases ran : (samplePatch.handler plainLibrary plainTexts
    (sampleBody [])).run (World.handle .calm) sampleSilenced with
    ⟨result, after⟩
  have outcome : result = some none ∧
      after.database.tables.lookup .globalUnsubscribes ["user"] = none := by
    have evaluated : ((samplePatch.handler plainLibrary plainTexts
        (sampleBody [])).run (World.handle .calm) sampleSilenced).1 =
          some none ∧
        ((samplePatch.handler plainLibrary plainTexts
          (sampleBody [])).run (World.handle .calm)
            sampleSilenced).2.database.tables.lookup .globalUnsubscribes
              ["user"] = none := by decide +kernel
    rwa [ran] at evaluated
  refine ⟨after, by rw [outcome.1], ?_⟩
  intro only
  have kept := only.global (by
    rintro ⟨json, first, mentioned⟩
    cases first
    exact mentioned rfl)
  cases outcome.2.symm.trans kept

theorem patch_with_flag_leaves_unmentioned :
    ∃ after,
      (samplePatch.handler plainLibrary plainTexts
        (sampleBody [("global_unsubscribe", .bool true)])).run
          (World.handle .calm) sampleSilenced = (some none, after) ∧
      OnlyMentioned (sampleBody [("global_unsubscribe", .bool true)]) "user"
        sampleSilenced.database.tables after.database.tables := by
  have success : ((samplePatch.handler plainLibrary plainTexts
      (sampleBody [("global_unsubscribe", .bool true)])).run
        (World.handle .calm) sampleSilenced).1 = some none := by
    decide +kernel
  rcases ran : (samplePatch.handler plainLibrary plainTexts
    (sampleBody [("global_unsubscribe", .bool true)])).run
      (World.handle .calm) sampleSilenced with ⟨result, after⟩
  rw [ran] at success
  cases success
  refine ⟨after, rfl, ?_⟩
  apply (patch_leaves_unmentioned_iff plainLibrary plainTexts .calm
    sampleSilenced after samplePatch "user" _ rfl ran).mpr
  exact .inl ⟨_, rfl, by simp [membersOf, Json.equalFold]⟩

end Notifications.Web
