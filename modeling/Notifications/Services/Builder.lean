import Mathlib.Data.List.AList
import Notifications.Models.Preferences
import Notifications.Postal.Decision
import Notifications.Services.Updating

/-!
# Showing preferences

`PreferencesBuilder` with its two maps, `PreferencesFinder.Find`, and what the
entries that a user is shown say about the worker's decision.  The query may
return a kind several times; the map keeps the last of them, and they agree on
whether the user gets mail.
-/

set_option autoImplicit false

namespace Notifications.Services

open Notifications.Lib Notifications.Models

/-- `services.Kind`. -/
structure PreferencesBuilder.Kind where
  count : Int
  /-- a pointer, nil if nothing was sent -/
  email : Option Bool
  kindDescription : String
  sourceDescription : String
  deriving DecidableEq, Repr

abbrev ClientMap : Type := AList fun _ : String => PreferencesBuilder.Kind

abbrev ClientsMap : Type := AList fun _ : String => ClientMap

structure PreferencesBuilder where
  globalUnsubscribe : Bool
  clients : ClientsMap

namespace PreferencesBuilder

def new : PreferencesBuilder := ⟨false, ∅⟩

/-- A missing description is replaced by the ID. -/
def described (description id : String) : String :=
  if description = "" then id else description

def data (preference : Models.Preference) : Kind where
  count := preference.count
  email := some preference.email
  kindDescription := described preference.kindDescription preference.kindID
  sourceDescription :=
    described preference.sourceDescription preference.clientID

def add (pref : PreferencesBuilder) (preference : Models.Preference) :
    PreferencesBuilder :=
  let clientMap : ClientMap :=
    match pref.clients.lookup preference.clientID with
    | some clientMap => clientMap.insert preference.kindID (data preference)
    | none => AList.singleton preference.kindID (data preference)
  { pref with clients := pref.clients.insert preference.clientID clientMap }

/-- The inner loop of `ToPreferences`. -/
def kindPreferences (clientID : String) (kinds : ClientMap) :
    List String → Except String (List Preference)
  | [] => .ok []
  | kindID :: rest =>
      match kinds.lookup kindID with
      | none => kindPreferences clientID kinds rest
      | some kind =>
          match kind.email with
          | none => .error "Missing the email field"
          | some email => do
              let later ← kindPreferences clientID kinds rest
              .ok (⟨clientID, kindID, email⟩ :: later)

/-- The outer loop of `ToPreferences`. -/
def clientPreferences (clients : ClientsMap) :
    List String → Prog (Except String (List Preference))
  | [] => pure (.ok [])
  | clientID :: rest =>
      match clients.lookup clientID with
      | none => clientPreferences clients rest
      | some kinds =>
          if kinds.keys.length = 0 then
            pure (.error "Missing kinds")
          else do
            let order ← Program.perform (Op.iterate kinds.keys)
            match kindPreferences clientID kinds order.1 with
            | .error text => pure (.error text)
            | .ok preferences =>
                match ← clientPreferences clients rest with
                | .error text => pure (.error text)
                | .ok later => pure (.ok (preferences ++ later))

def toPreferences (pref : PreferencesBuilder) :
    Prog (Except String (List Preference)) := do
  let order ← Program.perform (Op.iterate pref.clients.keys)
  clientPreferences pref.clients order.1

def entry (pref : PreferencesBuilder) (clientID kindID : String) :
    Option Kind :=
  (pref.clients.lookup clientID).bind fun kinds => kinds.lookup kindID

end PreferencesBuilder

section Collated

variable [Collation]

def PreferencesFinder.find (userGUID : String) :
    Prog (PreferencesBuilder × Option Error) := do
  match ← GlobalUnsubscribesRepo.get .connection userGUID with
  | (_, some error) => pure (.new, some error)
  | (globallyUnsubscribed, none) =>
      match ← PreferencesRepo.findNonCriticalPreferences .connection
          userGUID with
      | (_, some error) => pure (.new, some error)
      | (preferences, none) =>
          pure (preferences.foldl PreferencesBuilder.add
            { PreferencesBuilder.new with
              globalUnsubscribe := globallyUnsubscribed }, none)

end Collated

/-! ## What is in a builder -/

namespace PreferencesBuilder

/-- Every client has a kind, and every entry is as wanted. -/
structure Holds (wanted : String → String → Kind → Prop)
    (pref : PreferencesBuilder) : Prop where
  filled : ∀ clientID kinds, pref.clients.lookup clientID = some kinds →
    kinds.keys ≠ []
  entries : ∀ clientID kindID kind, pref.entry clientID kindID = some kind →
    wanted clientID kindID kind

section Holds

variable {wanted : String → String → Kind → Prop} {pref : PreferencesBuilder}

theorem holds_new (globalUnsubscribe : Bool) :
    Holds wanted { new with globalUnsubscribe := globalUnsubscribe } where
  filled := by simp [new]
  entries := by simp [new, entry]

/-- The map of the client that `Add` leaves behind. -/
def widened (pref : PreferencesBuilder) (preference : Models.Preference) :
    ClientMap :=
  ((pref.clients.lookup preference.clientID).getD ∅).insert
    preference.kindID (data preference)

theorem add_eq (preference : Models.Preference) :
    pref.add preference = { pref with
      clients := pref.clients.insert preference.clientID
        (pref.widened preference) } := by
  rw [add, widened]
  cases pref.clients.lookup preference.clientID <;> rfl

theorem entry_add (preference : Models.Preference)
    (clientID kindID : String) :
    (pref.add preference).entry clientID kindID =
      if clientID = preference.clientID ∧ kindID = preference.kindID then
        some (data preference)
      else pref.entry clientID kindID := by
  rw [add_eq, entry, entry]
  by_cases client : clientID = preference.clientID
  · subst client
    by_cases kind : kindID = preference.kindID
    · subst kind
      simp [widened]
    · rw [if_neg (by simp [kind])]
      simp only [AList.lookup_insert, Option.bind_some, widened,
        AList.lookup_insert_ne kind]
      cases pref.clients.lookup preference.clientID <;> simp
  · rw [if_neg (by simp [client]), AList.lookup_insert_ne client]

theorem Holds.add (holds : Holds wanted pref)
    {preference : Models.Preference}
    (fits : wanted preference.clientID preference.kindID
      (data preference)) : Holds wanted (pref.add preference) where
  filled := by
    intro clientID kinds found
    rw [add_eq] at found
    by_cases client : clientID = preference.clientID
    · subst client
      rw [AList.lookup_insert, Option.some.injEq] at found
      subst found
      simp [widened, AList.keys_insert]
    · rw [AList.lookup_insert_ne client] at found
      exact holds.filled clientID kinds found
  entries := by
    intro clientID kindID kind found
    rw [entry_add] at found
    split at found
    · rename_i same
      cases found
      rw [same.1, same.2]
      exact fits
    · exact holds.entries clientID kindID kind found

theorem Holds.foldl {preferences : List Models.Preference}
    (holds : Holds wanted pref)
    (fit : ∀ preference ∈ preferences,
      wanted preference.clientID preference.kindID (data preference)) :
    Holds wanted (preferences.foldl PreferencesBuilder.add pref) := by
  induction preferences generalizing pref with
  | nil => exact holds
  | cons preference rest ih =>
      apply ih (holds.add (fit preference (.head _)))
      intro other member
      exact fit other (.tail _ member)

theorem foldl_globalUnsubscribe (preferences : List Models.Preference) :
    (preferences.foldl PreferencesBuilder.add pref).globalUnsubscribe =
      pref.globalUnsubscribe := by
  induction preferences generalizing pref with
  | nil => rfl
  | cons preference rest ih =>
      rw [List.foldl_cons, ih, add_eq]

end Holds

end PreferencesBuilder

section Collated

variable [Collation]

/-! ## Back to a list -/

namespace PreferencesBuilder

def Entered (clients : ClientsMap) (preference : Preference) : Prop :=
  ∃ kinds kind, clients.lookup preference.clientID = some kinds ∧
    kinds.lookup preference.kindID = some kind ∧
    kind.email = some preference.email

/-- What `ToPreferences` asks for. -/
def Complete (clients : ClientsMap) : Prop :=
  ∀ clientID kinds, clients.lookup clientID = some kinds →
    kinds.keys ≠ [] ∧ ∀ kindID kind, kinds.lookup kindID = some kind →
      kind.email ≠ none

omit [Collation] in
theorem entered_of_kindPreferences {clients : ClientsMap} {clientID : String}
    {kinds : ClientMap} (found : clients.lookup clientID = some kinds)
    {order : List String} {preferences : List Preference}
    (success : kindPreferences clientID kinds order = .ok preferences) :
    ∀ preference ∈ preferences, Entered clients preference := by
  induction order generalizing preferences with
  | nil =>
      cases success
      simp
  | cons kindID rest ih =>
      rw [kindPreferences] at success
      cases stored : kinds.lookup kindID with
      | none =>
          rw [stored] at success
          exact ih success
      | some kind =>
          rw [stored] at success
          cases wanted : kind.email with
          | none =>
              simp only [wanted] at success
              cases success
          | some email =>
              simp only [wanted] at success
              cases later : kindPreferences clientID kinds rest with
              | error text =>
                  rw [later] at success
                  cases success
              | ok others =>
                  rw [later] at success
                  cases success
                  intro preference member
                  rcases List.mem_cons.mp member with rfl | inRest
                  · exact ⟨kinds, kind, found, stored, wanted⟩
                  · exact ih later preference inRest

omit [Collation] in
theorem kindPreferences_ok {clientID : String} {kinds : ClientMap}
    (set : ∀ kindID kind, kinds.lookup kindID = some kind →
      kind.email ≠ none) (order : List String) :
    ∃ preferences, kindPreferences clientID kinds order = .ok preferences := by
  induction order with
  | nil => exact ⟨[], rfl⟩
  | cons kindID rest ih =>
      obtain ⟨later, success⟩ := ih
      rw [kindPreferences]
      cases stored : kinds.lookup kindID with
      | none => exact ⟨later, success⟩
      | some kind =>
          cases wanted : kind.email with
          | none => exact absurd wanted (set kindID kind stored)
          | some email =>
              simp only [wanted, success]
              exact ⟨_, rfl⟩

theorem run_clientPreferences (environment : Environment) (world : World)
    (clients : ClientsMap) (order : List String) :
    ∃ result,
      (clientPreferences clients order).run (World.handle environment)
        world = (some result, world) ∧
      (∀ preferences, result = .ok preferences →
        ∀ preference ∈ preferences, Entered clients preference) ∧
      (Complete clients → ∃ preferences, result = .ok preferences) := by
  induction order with
  | nil => exact ⟨.ok [], rfl, by simp, fun _ => ⟨[], rfl⟩⟩
  | cons clientID rest ih =>
      obtain ⟨result, ran, entered, complete⟩ := ih
      rw [clientPreferences]
      cases found : clients.lookup clientID with
      | none => exact ⟨result, ran, entered, complete⟩
      | some kinds =>
          simp only
          split
          · rename_i empty
            refine ⟨.error "Missing kinds", rfl, by simp, ?_⟩
            intro all
            exact absurd (List.eq_nil_of_length_eq_zero empty)
              (all clientID kinds found).1
          · rw [Program.perform_bind, Program.run_call]
            simp only [World.handle]
            cases flat : kindPreferences clientID kinds
                (environment.order kinds.keys).1 with
            | error text =>
                refine ⟨.error text, rfl, by simp, ?_⟩
                intro all
                obtain ⟨preferences, success⟩ := @kindPreferences_ok clientID
                  kinds (all clientID kinds found).2
                  (environment.order kinds.keys).1
                rw [success] at flat
                cases flat
            | ok preferences =>
                simp only
                rw [Program.run_bind_of _ ran]
                cases result with
                | error text =>
                    refine ⟨.error text, rfl, by simp, ?_⟩
                    intro all
                    obtain ⟨later, success⟩ := complete all
                    cases success
                | ok later =>
                    refine ⟨.ok (preferences ++ later), rfl, ?_,
                      fun _ => ⟨_, rfl⟩⟩
                    intro both same preference member
                    cases same
                    rcases List.mem_append.mp member with first | second
                    · exact entered_of_kindPreferences found flat preference
                        first
                    · exact entered later rfl preference second

omit [Collation] in
theorem set_of_kindPreferences {clientID : String} {kinds : ClientMap}
    {order : List String} {preferences : List Preference}
    (success : kindPreferences clientID kinds order = .ok preferences) :
    ∀ kindID ∈ order, ∀ kind, kinds.lookup kindID = some kind →
      kind.email ≠ none := by
  induction order generalizing preferences with
  | nil => simp
  | cons first rest ih =>
      rw [kindPreferences] at success
      intro kindID member kind stored
      cases here : kinds.lookup first with
      | none =>
          rw [here] at success
          rcases List.mem_cons.mp member with rfl | later
          · rw [here] at stored
            cases stored
          · exact ih success kindID later kind stored
      | some other =>
          rw [here] at success
          cases wanted : other.email with
          | none =>
              simp only [wanted] at success
              cases success
          | some email =>
              simp only [wanted] at success
              rcases List.mem_cons.mp member with rfl | later
              · rw [here] at stored
                cases stored
                simp [wanted]
              · cases flat : kindPreferences clientID kinds rest with
                | error text =>
                    rw [flat] at success
                    cases success
                | ok others => exact ih flat kindID later kind stored

theorem complete_of_clientPreferences {environment : Environment}
    {world after : World} {clients : ClientsMap} {order : List String}
    {preferences : List Preference}
    (success : (clientPreferences clients order).run
      (World.handle environment) world = (some (.ok preferences), after)) :
    ∀ clientID ∈ order, ∀ kinds, clients.lookup clientID = some kinds →
      kinds.keys ≠ [] ∧ ∀ kindID kind, kinds.lookup kindID = some kind →
        kind.email ≠ none := by
  induction order generalizing preferences after with
  | nil => simp
  | cons first rest ih =>
      rw [clientPreferences] at success
      intro clientID member kinds found
      cases here : clients.lookup first with
      | none =>
          rw [here] at success
          rcases List.mem_cons.mp member with rfl | later
          · rw [here] at found
            cases found
          · exact ih success clientID later kinds found
      | some others =>
          rw [here] at success
          simp only at success
          split at success
          · cases success
          rename_i filled
          rw [Program.perform_bind, Program.run_call] at success
          simp only [World.handle] at success
          cases flat : kindPreferences first others
              (environment.order others.keys).1 with
          | error text =>
              rw [flat] at success
              cases success
          | ok listed =>
              rw [flat] at success
              simp only at success
              obtain ⟨result, between, ran, success⟩ :=
                Program.run_bind_some _ success
              cases result with
              | error text => cases success
              | ok later =>
                  rcases List.mem_cons.mp member with rfl | inRest
                  · rw [here] at found
                    cases found
                    refine ⟨fun empty => filled (by simp [empty]), ?_⟩
                    intro kindID kind stored
                    have listed : kindID ∈ kinds.keys := by
                      rw [← AList.mem_keys, ← AList.lookup_isSome, stored]
                      rfl
                    exact set_of_kindPreferences flat kindID
                      ((environment.order kinds.keys).2.mem_iff.mpr listed)
                      kind stored
                  · exact ih ran clientID inRest kinds found

theorem run_toPreferences (environment : Environment) (world : World)
    (pref : PreferencesBuilder) :
    ∃ result,
      pref.toPreferences.run (World.handle environment) world =
        (some result, world) ∧
      (∀ preferences, result = .ok preferences →
        ∀ preference ∈ preferences, Entered pref.clients preference) ∧
      (Complete pref.clients → ∃ preferences, result = .ok preferences) :=
  run_clientPreferences environment world pref.clients
    (environment.order pref.clients.keys).1

theorem complete_of_toPreferences {environment : Environment}
    {world after : World} {pref : PreferencesBuilder}
    {preferences : List Preference}
    (success : pref.toPreferences.run (World.handle environment) world =
      (some (.ok preferences), after)) : Complete pref.clients := by
  intro clientID kinds found
  have listed : clientID ∈ pref.clients.keys := by
    rw [← AList.mem_keys, ← AList.lookup_isSome, found]
    rfl
  exact complete_of_clientPreferences success clientID
    ((environment.order pref.clients.keys).2.mem_iff.mpr listed) kinds found

end PreferencesBuilder

/-! ## What `Find` returns -/

namespace PreferencesFinder

/-- An entry for a kind that the user can change, with what is stored. -/
structure Shown (tables : Tables) (userGUID clientID kindID : String)
    (kind : PreferencesBuilder.Kind) : Prop where
  changeable : ∃ row : Kind,
    tables.lookup .kinds
      (Collation.key [kindID, clientID]) = some row ∧ row.critical = false
  email : kind.email = some (!Unsubscribes.contains
    ((tables.rows .unsubscribes).filter
      fun row => Collation.equal row.userID userGUID) clientID kindID)

/-- `Find`, when no statement fails. -/
def found (tables : Tables) (userGUID : String) :
    PreferencesBuilder × Option Error :=
  match returned tables userGUID with
  | (_, some error) => (.new, some error)
  | (preferences, none) =>
      (preferences.foldl PreferencesBuilder.add
        { PreferencesBuilder.new with
          globalUnsubscribe := (tables.lookup .globalUnsubscribes
            (Collation.key [userGUID])).isSome }, none)

theorem run_find {environment : Environment}
    (faultless : Faultless environment) (world : World) (userGUID : String) :
    ((find userGUID).run (World.handle environment) world).1 =
      some (found world.database.tables userGUID) := by
  have got := Postal.Worker.run_get environment world userGUID
  rw [faultless] at got
  have preferences := @run_findNonCriticalPreferences _ environment
    world.counted .connection world.database userGUID rfl (faultless _)
    (faultless _)
  rcases ran : (PreferencesRepo.findNonCriticalPreferences .connection
    userGUID).run (World.handle environment) world.counted with
    ⟨result, after⟩
  rw [ran] at preferences
  cases preferences
  rw [find, Program.run_bind_of _ got, found]
  cases world.database.tables.lookup .globalUnsubscribes
    (Collation.key [userGUID]) <;>
  · simp only
    rw [Program.run_bind_of _ ran]
    rcases returned world.database.tables userGUID with ⟨preferences, err⟩
    cases err <;> rfl

/-- The rows of the query are kinds that are not critical. -/
theorem shown_of_counted {tables : Tables} (sound : tables.Sound)
    {userGUID : String} {joined : Kind × Option Receipt}
    (counted : joined ∈ countedKinds tables userGUID) :
    Shown tables userGUID joined.1.clientID joined.1.id
      (PreferencesBuilder.data (shown tables userGUID joined)) := by
  obtain ⟨member, plain, _⟩ :=
    mem_listedKinds.mp (fst_mem_of_mem_leftOuterJoin counted)
  have stored := (lookup_kinds_iff sound).mpr
    ⟨member, Collation.equal_self _, Collation.equal_self _⟩
  exact ⟨⟨joined.1, stored, plain⟩, rfl⟩

theorem found_holds {tables : Tables} (sound : tables.Sound)
    (userGUID : String) :
    (found tables userGUID).1.Holds (Shown tables userGUID) := by
  rw [found]
  rcases success : returned tables userGUID with ⟨preferences, err⟩
  cases err with
  | some error => exact PreferencesBuilder.holds_new false
  | none =>
      have described := described_of_returned sound success
      rw [returned_of_described sound described] at success
      cases success
      apply (PreferencesBuilder.holds_new _).foldl
      intro preference member
      obtain ⟨joined, counted, rfl⟩ := List.mem_map.mp member
      exact shown_of_counted sound counted

theorem found_globalUnsubscribe {tables : Tables} {userGUID : String}
    {builder : PreferencesBuilder}
    (success : found tables userGUID = (builder, none)) :
    builder.globalUnsubscribe =
      (tables.lookup .globalUnsubscribes
        (Collation.key [userGUID])).isSome := by
  rw [found] at success
  split at success
  · cases success
  · cases success
    rw [PreferencesBuilder.foldl_globalUnsubscribe]

theorem entry_of_failed {tables : Tables} {userGUID : String}
    {builder : PreferencesBuilder} {error : Error}
    (failed : found tables userGUID = (builder, some error))
    (clientID kindID : String) : builder.entry clientID kindID = none := by
  rw [found] at failed
  split at failed
  · cases failed
    simp [PreferencesBuilder.new, PreferencesBuilder.entry]
  · cases failed

end PreferencesFinder

/-! ## What the worker makes of it -/

omit [Collation] in
theorem usable_of_contains {email : String}
    (address : contains email "@" = true) :
    Postal.Worker.usable email = true := by
  rw [Postal.Worker.usable, address, Bool.and_true, decide_eq_true_eq]
  rintro rfl
  exact absurd address (by decide)

/-- Without failing statements, the decision about a usable address. -/
theorem run_shouldDeliver_faultless {environment : Environment}
    (faultless : Faultless environment) (world : World)
    (delivery : Postal.Delivery) :
    ((Postal.Worker.shouldDeliver delivery).run (World.handle environment)
      world).1 = some (Postal.Worker.decision (fun _ => none)
        world.database.tables delivery) := by
  obtain ⟨statements, ran⟩ := Postal.Worker.run_shouldDeliver environment
    world delivery
  have calm : (fun index => environment.faults (world.statements + index)) =
      fun _ => none := funext fun _ => faultless _
  rw [ran, calm]

theorem decision_of_changeable {tables : Tables} {delivery : Postal.Delivery}
    (changeable : ∃ row : Kind, tables.lookup .kinds
      (Collation.key [delivery.options.kindID, delivery.clientID]) = some row ∧
        row.critical = false)
    (address : contains delivery.email "@" = true) :
    Postal.Worker.decision (fun _ => none) tables delivery =
      ((tables.lookup .globalUnsubscribes
        (Collation.key [delivery.userGUID])).isNone &&
        (tables.lookup .unsubscribes
          (Collation.key [delivery.userGUID, delivery.clientID,
          delivery.options.kindID])).isNone) := by
  obtain ⟨row, stored, plain⟩ := changeable
  rw [Postal.Worker.decision, Postal.Worker.kindOf, stored,
    usable_of_contains address]
  simp [Postal.Worker.seenCritical, plain, Postal.Worker.globalUnsubscribeOf,
    Postal.Worker.unsubscribeOf]

omit [Collation] in
/-- Of a user without a global unsubscribe, shown and decided are the same iff
the two ways to find the unsubscribe are. -/
theorem muted_iff {listed unsubscribed muted : Bool} :
    (some (!listed) = some true ∧ muted = false ↔
      (!muted && !unsubscribed) = true) ↔
        muted = true ∨ listed = unsubscribed := by
  cases listed <;> cases unsubscribed <;> cases muted <;> decide

/-- What a user is shown is what the worker does, an entry with mail and no
global unsubscribe iff a delivery for it is sent, unless the row of an
unsubscribe from the kind has another spelling: the worker finds that row, the
list of preferences does not.  A critical kind is not shown, and always sent. -/
theorem shown_iff_delivered (environment : Environment)
    (faultless : Faultless environment) (world : World) (userGUID : String) :
    ∃ builder err,
      ((PreferencesFinder.find userGUID).run (World.handle environment)
        world).1 = some (builder, err) ∧
      (∀ clientID kindID kind,
        builder.entry clientID kindID = some kind →
        ∀ delivery : Postal.Delivery, delivery.userGUID = userGUID →
          delivery.clientID = clientID →
          delivery.options.kindID = kindID →
          contains delivery.email "@" = true →
          ∀ later : World, later.database = world.database →
          (((kind.email = some true ∧ builder.globalUnsubscribe = false) ↔
            ((Postal.Worker.shouldDeliver delivery).run
              (World.handle environment) later).1 = some true) ↔
            ((world.database.tables.lookup .globalUnsubscribes
              (Collation.key [userGUID])).isSome = true ∨
            SpeltAlike world.database.tables userGUID clientID kindID))) ∧
      ∀ kind ∈ world.database.tables.rows .kinds, Kind.critical kind = true →
        builder.entry kind.clientID kind.id = none ∧
        ∀ delivery : Postal.Delivery, delivery.clientID = kind.clientID →
          delivery.options.kindID = kind.id →
          ∀ later : World, later.database = world.database →
          ((Postal.Worker.shouldDeliver delivery).run
            (World.handle environment) later).1 = some true := by
  have holds := PreferencesFinder.found_holds world.database.sound userGUID
  have ran := PreferencesFinder.run_find faultless world userGUID
  rcases success : PreferencesFinder.found world.database.tables userGUID
    with ⟨builder, err⟩
  rw [success] at holds ran
  refine ⟨builder, err, ran, ?_, ?_⟩
  · rintro clientID kindID kind shown delivery rfl rfl rfl address later same
    have entry := holds.entries _ _ kind shown
    cases err with
    | some error =>
        rw [PreferencesFinder.entry_of_failed success] at shown
        cases shown
    | none =>
        rw [run_shouldDeliver_faultless faultless, Option.some.injEq, same,
          decision_of_changeable entry.changeable address, entry.email,
          PreferencesFinder.found_globalUnsubscribe success,
          ← contains_iff world.database.sound]
        simp only [← Option.not_isSome]
        exact muted_iff
  · intro kind member critical
    have found := (lookup_kinds_iff world.database.sound).mpr
      ⟨member, Collation.equal_self _, Collation.equal_self _⟩
    refine ⟨?_, ?_⟩
    · rw [Option.eq_none_iff_forall_ne_some]
      intro entry shown
      obtain ⟨row, stored, plain⟩ := (holds.entries _ _ entry shown).changeable
      rw [found, Option.some.injEq] at stored
      subst stored
      rw [critical] at plain
      cases plain
    · intro delivery client kindID later same
      rw [run_shouldDeliver_faultless faultless, same,
        Postal.Worker.decision, Postal.Worker.kindOf, client, kindID, found]
      simp [Postal.Worker.seenCritical, critical]

end Collated

section Binary

attribute [local instance] Collation.binary

def sampleShown : World :=
  .start [.insert .clients ⟨0, "client", "C", 0, "default"⟩,
    .insert .kinds ⟨0, "kind", "K", false, "client", 0, 0, "default"⟩,
    .upsertReceipt ⟨0, "user", "client", "kind", 1, 0⟩,
    .insert .unsubscribes ⟨0, "user", "client", "kind", 0⟩]

theorem unsubscribed_not_delivered :
    Faultless .calm ∧
    (((PreferencesFinder.find "user").run (World.handle .calm)
        sampleShown).1.map fun found => found.1.entry "client" "kind") =
      some (some ⟨1, some false, "K", "C"⟩) ∧
    ((Postal.Worker.shouldDeliver Postal.sampleDelivery).run
      (World.handle .calm) sampleShown).1 ≠ some true := by
  have faultless : Faultless .calm := fun _ => rfl
  have shown : (((PreferencesFinder.find "user").run (World.handle .calm)
      sampleShown).1.map fun found => found.1.entry "client" "kind") =
        some (some ⟨1, some false, "K", "C"⟩) := by decide +kernel
  have stored : sampleShown.database.tables.lookup .unsubscribes
      ["user", "client", "kind"] = some ⟨1, "user", "client", "kind", 0⟩ := by
    decide +kernel
  have alike : SpeltAlike sampleShown.database.tables "user" "client"
      "kind" := by
    intro row found
    cases stored.symm.trans found
    exact ⟨rfl, rfl⟩
  obtain ⟨builder, err, ran, entries, _⟩ :=
    shown_iff_delivered .calm faultless sampleShown "user"
  refine ⟨faultless, shown, ?_⟩
  rw [ran, Option.map_some, Option.some.injEq] at shown
  intro delivered
  have both := ((entries "client" "kind" _ shown Postal.sampleDelivery rfl rfl
    rfl (by decide) sampleShown rfl).mpr (.inr alike)).mpr delivered
  cases both.1

end Binary

section Caseless

attribute [local instance] Collation.caseless

def respeltUnsubscribe : World :=
  .start [.insert .clients ⟨0, "client", "C", 0, "default"⟩,
    .insert .kinds ⟨0, "kind", "K", false, "client", 0, 0, "default"⟩,
    .upsertReceipt ⟨0, "user", "client", "kind", 1, 0⟩,
    .insert .unsubscribes ⟨0, "user", "client", "Kind", 0⟩]

theorem shown_but_not_delivered :
    Faultless .calm ∧
    (((PreferencesFinder.find "user").run (World.handle .calm)
        respeltUnsubscribe).1.map fun found =>
          (found.1.entry "client" "kind", found.1.globalUnsubscribe)) =
      some (some ⟨1, some true, "K", "C"⟩, false) ∧
    ((Postal.Worker.shouldDeliver Postal.sampleDelivery).run
      (World.handle .calm) respeltUnsubscribe).1 = some false :=
  ⟨fun _ => rfl, by decide +kernel, by decide +kernel⟩

end Caseless

end Notifications.Services
