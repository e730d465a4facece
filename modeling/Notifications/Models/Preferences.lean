import Mathlib.Data.List.Dedup
import Notifications.Models.Repos

/-!
# Preferences

`PreferencesRepo.FindNonCriticalPreferences` as a program, and when the list it
returns is the user's own.  The query joins `receipts` on the kind's ID alone,
so a receipt of another user, or of another client for a kind of the same
name, is joined too.  The unsubscribes are searched by the code, to which a
name in another spelling is another name.
-/

set_option autoImplicit false

namespace Notifications.Models

open Notifications.Lib

structure Preference where
  clientID : String
  count : Int
  kindID : String
  email : Bool
  kindDescription : String
  sourceDescription : String
  deriving DecidableEq, Repr

section Collated

variable [Collation]

namespace UnsubscribesRepo

def findAllByUserID (conn : Conn) (userID : String) :
    Prog (List Unsubscribe × Option Error) := do
  match ← sql conn (.select .unsubscribes fun row =>
      Collation.equal row.userID userID) with
  | .error error => pure ([], some error)
  | .ok unsubscribes => pure (unsubscribes, none)

end UnsubscribesRepo

namespace Unsubscribes

def contains (unsubscribes : List Unsubscribe) (clientID kindID : String) :
    Bool :=
  unsubscribes.any fun unsubscribe =>
    unsubscribe.clientID == clientID && unsubscribe.kindID == kindID

end Unsubscribes

namespace PreferencesRepo

/-- What `Rows.Scan` says to a `NULL` in a string column. -/
def nullDescription : String :=
  "sql: Scan error on column index 3: unsupported driver -> Scan pair: " ++
    "<nil> -> *string"

/-- The rows are scanned into the slice one by one; the first that cannot be
ends the `Select`. -/
def scan : List PreferenceRow → List Preference × Option Error
  | [] => ([], none)
  | row :: rest =>
      match row.sourceDescription with
      | none => ([], some (.sql nullDescription))
      | some sourceDescription =>
          let (scanned, err) := scan rest
          (⟨row.clientID, row.count, row.kindID, false, row.kindDescription,
            sourceDescription⟩ :: scanned, err)

def findNonCriticalPreferences (conn : Conn) (userGUID : String) :
    Prog (List Preference × Option Error) := do
  match ← sql conn (.selectPreferences userGUID) with
  | .error error => pure ([], some error)
  | .ok rows =>
      match scan rows with
      | (preferences, some error) => pure (preferences, some error)
      | (preferences, none) =>
          match ← UnsubscribesRepo.findAllByUserID conn userGUID with
          | (_, some error) => pure (preferences, some error)
          | (unsubscribes, none) =>
              pure (preferences.map fun preference =>
                { preference with
                  email := !Unsubscribes.contains unsubscribes
                    preference.clientID preference.kindID }, none)

end PreferencesRepo

/-! ## What a user's preferences are -/

/-- A client with a registered kind and a receipt for the user. -/
def Receives (tables : Tables) (userGUID clientID : String) : Prop :=
  (∃ kind ∈ tables.rows .kinds, Collation.equal kind.clientID clientID) ∧
    ∃ receipt ∈ tables.rows .receipts,
      Collation.equal receipt.userGUID userGUID ∧
        Collation.equal receipt.clientID clientID

def Listed (tables : Tables) (userGUID : String) (kind : Kind) : Prop :=
  kind ∈ tables.rows .kinds ∧ kind.critical = false ∧
    Receives tables userGUID kind.clientID

/-- How often the user got the kind of this client. -/
def received (tables : Tables) (userGUID clientID kindID : String) : Int :=
  match tables.lookup .receipts
      (Collation.key [userGUID, clientID, kindID]) with
  | some receipt => receipt.count
  | none => 0

/-- The entry that the user should see for a kind. -/
def entry (tables : Tables) (userGUID : String) (kind : Kind)
    (client : Client) : Preference where
  clientID := kind.clientID
  count := received tables userGUID kind.clientID kind.id
  kindID := kind.id
  email := (tables.lookup .unsubscribes
    (Collation.key [userGUID, kind.clientID, kind.id])).isNone
  kindDescription := kind.description
  sourceDescription := client.description

def about (kind : Kind) (preference : Preference) : Bool :=
  Collation.equal preference.clientID kind.clientID &&
    Collation.equal preference.kindID kind.id

/-- Exactly one entry for every listed kind, and no other. -/
structure OwnPreferences (tables : Tables) (userGUID : String)
    (preferences : List Preference) : Prop where
  once : ∀ kind, Listed tables userGUID kind →
    preferences.countP (about kind) = 1
  entries : ∀ preference ∈ preferences, ∃ kind client,
    Listed tables userGUID kind ∧
      tables.lookup .clients (Collation.key [kind.clientID]) = some client ∧
      preference = entry tables userGUID kind client

/-- The user's unsubscribe from a kind, if there is one, spells the names of
client and kind this way. -/
def SpeltAlike (tables : Tables) (userGUID clientID kindID : String) : Prop :=
  ∀ row : Unsubscribe, tables.lookup .unsubscribes
      (Collation.key [userGUID, clientID, kindID]) = some row →
    row.clientID = clientID ∧ row.kindID = kindID

/-- The client's row exists, at most one receipt is for a kind of this ID, and
it is the user's own for this client, unless it counts nothing; and an
unsubscribe from the kind is found by the code as well. -/
structure Unmixed (tables : Tables) (userGUID : String) (kind : Kind) :
    Prop where
  client : ∃ client ∈ tables.rows .clients,
    Collation.equal client.id kind.clientID
  single : (tables.rows .receipts).countP
    (fun receipt => Collation.equal kind.id receipt.kindID) ≤ 1
  own : ∀ receipt ∈ tables.rows .receipts,
    Collation.equal receipt.kindID kind.id →
    (Collation.equal receipt.userGUID userGUID ∧
      Collation.equal receipt.clientID kind.clientID) ∨
        receipt.count = 0
  spelt : SpeltAlike tables userGUID kind.clientID kind.id

/-! ## The query without its conditions -/

section Query

variable {tables : Tables} {userGUID : String}

theorem mem_receivingClients {clientID : String} :
    Collation.weight clientID ∈ tables.receivingClients userGUID ↔
      Receives tables userGUID clientID := by
  simp only [Tables.receivingClients, List.mem_dedup, List.mem_map,
    List.mem_filter, Collation.equal_iff, Prod.exists, mem_innerJoin, Receives]
  constructor
  · rintro ⟨kind, receipt, ⟨⟨member, received, same⟩, user⟩, named⟩
    exact ⟨⟨kind, member, named⟩, receipt, received, user,
      same.symm.trans named⟩
  · rintro ⟨⟨kind, member, named⟩, receipt, received, user, same⟩
    exact ⟨kind, receipt, ⟨⟨member, received, named.trans same.symm⟩, user⟩,
      named⟩

def listedKinds (tables : Tables) (userGUID : String) : List Kind :=
  (tables.rows .kinds).filter fun kind => !kind.critical &&
    (tables.receivingClients userGUID).contains
      (Collation.weight kind.clientID)

theorem mem_listedKinds {kind : Kind} :
    kind ∈ listedKinds tables userGUID ↔ Listed tables userGUID kind := by
  simp [listedKinds, Listed, mem_receivingClients]

/-- The listed kinds with the receipts that are joined to them. -/
def countedKinds (tables : Tables) (userGUID : String) :
    List (Kind × Option Receipt) :=
  leftOuterJoin (fun (kind : Kind) (receipt : Receipt) =>
    Collation.equal kind.id receipt.kindID) (listedKinds tables userGUID)
    (tables.rows .receipts)

def preferenceRow (tables : Tables) (joined : Kind × Option Receipt) :
    PreferenceRow where
  kindID := joined.1.id
  clientID := joined.1.clientID
  kindDescription := joined.1.description
  sourceDescription :=
    (tables.lookup .clients
      (Collation.key [joined.1.clientID])).map Client.description
  count := (joined.2.map Receipt.count).getD 0

theorem preferences_eq (sound : tables.Sound) :
    tables.preferences userGUID =
      (countedKinds tables userGUID).map (preferenceRow tables) := by
  have described (counted : List (Kind × Option Receipt)) :
      leftOuterJoin
          (fun (joined : Kind × Option Receipt) (client : Client) =>
            Collation.equal client.id joined.1.clientID) counted
          (tables.rows .clients) =
        counted.map fun joined =>
          (joined, tables.lookup .clients
            (Collation.key [joined.1.clientID])) := by
    apply leftOuterJoin_of_unique
    intro joined _
    apply @Tables.Sound.filter_eq _ tables sound .clients _ _
    intro client
    simp [Table.uniqueKey]
  simp only [Tables.preferences]
  rw [leftOuterJoin_filter (fun (joined : Kind × Option Receipt)
      (client : Client) => Collation.equal client.id joined.1.clientID)
    (fun joined => !joined.1.critical &&
      (tables.receivingClients userGUID).contains
        (Collation.weight joined.1.clientID)),
    described, leftOuterJoin_filter (fun (kind : Kind) (receipt : Receipt) =>
      Collation.equal kind.id receipt.kindID)
    (fun kind => !kind.critical &&
      (tables.receivingClients userGUID).contains
        (Collation.weight kind.clientID)),
    List.map_map]
  rfl

/-- What the code finds is what the tables have, if it is spelt alike. -/
theorem contains_iff (sound : tables.Sound) (clientID kindID : String) :
    Unsubscribes.contains ((tables.rows .unsubscribes).filter
      fun row => Collation.equal row.userID userGUID) clientID kindID =
        (tables.lookup .unsubscribes
          (Collation.key [userGUID, clientID, kindID])).isSome ↔
      SpeltAlike tables userGUID clientID kindID := by
  have found (row : Unsubscribe) : tables.lookup .unsubscribes
      (Collation.key [userGUID, clientID, kindID]) = some row ↔
        row ∈ tables.rows .unsubscribes ∧ _ := sound.lookup_iff
  simp only [Table.uniqueKey, Collation.key_cons_eq, and_true] at found
  rw [Bool.eq_iff_iff, Option.isSome_iff_exists, SpeltAlike]
  simp only [Unsubscribes.contains, List.any_eq_true, List.mem_filter,
    beq_iff_eq, Bool.and_eq_true, Collation.equal_iff]
  constructor
  · intro same row stored
    obtain ⟨spelt, ⟨member, user⟩, client, kind⟩ := same.mpr ⟨row, stored⟩
    have again := (found spelt).mpr
      ⟨member, user, by rw [client], by rw [kind]⟩
    rw [stored, Option.some.injEq] at again
    rw [again]
    exact ⟨client, kind⟩
  · intro alike
    constructor
    · rintro ⟨row, ⟨member, user⟩, client, kind⟩
      exact ⟨row, (found row).mpr ⟨member, user, by rw [client], by rw [kind]⟩⟩
    · rintro ⟨row, stored⟩
      obtain ⟨member, user, _⟩ := (found row).mp stored
      exact ⟨row, ⟨member, user⟩, alike row stored⟩

/-! ## What is returned -/

/-- The clients of all listed kinds have a row. -/
def Described (tables : Tables) (userGUID : String) : Prop :=
  ∀ kind, Listed tables userGUID kind →
    ∃ client ∈ tables.rows .clients, Collation.equal client.id kind.clientID

/-- The entry that is returned for a joined row. -/
def shown (tables : Tables) (userGUID : String)
    (joined : Kind × Option Receipt) : Preference where
  clientID := joined.1.clientID
  count := (joined.2.map Receipt.count).getD 0
  kindID := joined.1.id
  email := !Unsubscribes.contains ((tables.rows .unsubscribes).filter
    fun row => Collation.equal row.userID userGUID)
    joined.1.clientID joined.1.id
  kindDescription := joined.1.description
  sourceDescription :=
    ((tables.lookup .clients (Collation.key [joined.1.clientID])).map
      Client.description).getD ""

def returned (tables : Tables) (userGUID : String) :
    List Preference × Option Error :=
  match PreferencesRepo.scan (tables.preferences userGUID) with
  | (preferences, some error) => (preferences, some error)
  | (preferences, none) =>
      (preferences.map fun preference =>
        { preference with
          email := !Unsubscribes.contains
            ((tables.rows .unsubscribes).filter fun row =>
              Collation.equal row.userID userGUID)
            preference.clientID preference.kindID }, none)

def scanned (row : PreferenceRow) : Preference :=
  ⟨row.clientID, row.count, row.kindID, false, row.kindDescription,
    row.sourceDescription.getD ""⟩

omit [Collation] in
theorem scan_of_described {rows : List PreferenceRow}
    (described : ∀ row ∈ rows, row.sourceDescription.isSome = true) :
    PreferencesRepo.scan rows = (rows.map scanned, none) := by
  induction rows with
  | nil => rfl
  | cons row rest ih =>
      obtain ⟨text, known⟩ :=
        Option.isSome_iff_exists.mp (described row (.head _))
      have later := ih fun row member => described row (.tail _ member)
      simp [PreferencesRepo.scan, known, later, scanned]

omit [Collation] in
theorem described_of_scan {rows : List PreferenceRow}
    (success : (PreferencesRepo.scan rows).2 = none) :
    ∀ row ∈ rows, row.sourceDescription.isSome = true := by
  induction rows with
  | nil => simp
  | cons row rest ih =>
      simp only [PreferencesRepo.scan] at success
      cases known : row.sourceDescription with
      | none => simp [known] at success
      | some text =>
          rw [known] at success
          intro other member
          rcases List.mem_cons.mp member with rfl | later
          · simp [known]
          · exact ih success other later

theorem described_iff (sound : tables.Sound) :
    (∀ row ∈ tables.preferences userGUID,
      row.sourceDescription.isSome = true) ↔ Described tables userGUID := by
  rw [preferences_eq sound]
  constructor
  · intro described kind listed
    obtain ⟨receipt, joined⟩ := exists_mem_leftOuterJoin
      (fun (kind : Kind) (receipt : Receipt) =>
        Collation.equal kind.id receipt.kindID)
      (tables.rows .receipts) (mem_listedKinds.mpr listed)
    have known := described _ (List.mem_map_of_mem joined)
    simp only [preferenceRow, Option.isSome_map,
      Option.isSome_iff_exists] at known
    obtain ⟨client, found⟩ := known
    have ⟨member, same⟩ := sound.lookup_iff.mp found
    exact ⟨client, member, by simpa [Table.uniqueKey] using same⟩
  · intro described row member
    obtain ⟨joined, counted, rfl⟩ := List.mem_map.mp member
    have listed := mem_listedKinds.mp (fst_mem_of_mem_leftOuterJoin counted)
    obtain ⟨client, member, same⟩ := described joined.1 listed
    have found : tables.lookup .clients
      (Collation.key [joined.1.clientID]) = some client :=
      sound.lookup_iff.mpr ⟨member, by simpa [Table.uniqueKey] using same⟩
    simp [preferenceRow, found]

theorem returned_of_described (sound : tables.Sound)
    (described : Described tables userGUID) :
    returned tables userGUID =
      ((countedKinds tables userGUID).map (shown tables userGUID), none) := by
  rw [returned, scan_of_described ((described_iff sound).mpr described),
    preferences_eq sound]
  simp only [List.map_map, Prod.mk.injEq, and_true]
  apply List.map_congr_left
  intro joined _
  simp [scanned, preferenceRow, shown]

theorem described_of_returned (sound : tables.Sound)
    {preferences : List Preference}
    (success : returned tables userGUID = (preferences, none)) :
    Described tables userGUID := by
  apply (described_iff sound).mp
  apply described_of_scan
  rw [returned] at success
  split at success
  · cases success
  · rename_i scanned
    rw [scanned]

/-! ## When the entries are the user's own -/

omit [Collation] in
theorem filter_of_countP_le_one {Row : Type} {wanted : Row → Bool}
    {rows : List Row} (single : rows.countP wanted ≤ 1) :
    rows.filter wanted = (rows.find? wanted).toList := by
  rw [← List.head?_filter]
  rw [List.countP_eq_length_filter] at single
  match found : rows.filter wanted, single with
  | [], _ => rfl
  | [row], _ => rfl
  | _ :: _ :: _, single => simp at single

omit [Collation] in
theorem eq_of_countP_le_one {Row : Type} {wanted : Row → Bool}
    {rows : List Row} (single : rows.countP wanted ≤ 1) {left right : Row}
    (leftMember : left ∈ rows) (leftHit : wanted left = true)
    (rightMember : right ∈ rows) (rightHit : wanted right = true) :
    left = right := by
  have inLeft := List.mem_filter.mpr ⟨leftMember, leftHit⟩
  have inRight := List.mem_filter.mpr ⟨rightMember, rightHit⟩
  rw [filter_of_countP_le_one single] at inLeft inRight
  rw [Option.mem_toList] at inLeft inRight
  exact Option.some.inj (inLeft.symm.trans inRight)

/-- The only receipt for a kind of this ID has the user's own count. -/
theorem received_of_unmixed (sound : tables.Sound) {kind : Kind}
    (unmixed : Unmixed tables userGUID kind) :
    (((tables.rows .receipts).find? fun receipt =>
      Collation.equal kind.id receipt.kindID).map Receipt.count).getD 0 =
        received tables userGUID kind.clientID kind.id := by
  rw [received]
  cases found : tables.lookup .receipts
    (Collation.key [userGUID, kind.clientID, kind.id]) with
  | some own =>
      obtain ⟨member, keyed⟩ := sound.lookup_iff.mp found
      simp only [Table.uniqueKey, Collation.key_cons_eq, and_true] at keyed
      cases only : (tables.rows .receipts).find? fun receipt =>
          Collation.equal kind.id receipt.kindID with
      | none =>
          have nothing := List.find?_eq_none.mp only own member
          simp [keyed.2.2] at nothing
      | some receipt =>
          have hit := @List.find?_some Receipt _ _ _ only
          have same := eq_of_countP_le_one unmixed.single
            (List.mem_of_find?_eq_some only) hit member (by simp [keyed.2.2])
          simp [same]
  | none =>
      cases only : (tables.rows .receipts).find? fun receipt =>
          Collation.equal kind.id receipt.kindID with
      | none => rfl
      | some receipt =>
          have member := List.mem_of_find?_eq_some only
          have hit := @List.find?_some Receipt _ _ _ only
          have named : Collation.weight receipt.kindID =
              Collation.weight kind.id := (Collation.equal_iff.mp hit).symm
          rcases unmixed.own receipt member (Collation.equal_iff.mpr named)
            with own | nothing
          · have absent := Tables.lookup_eq_none.mp found receipt member
            simp only [Collation.equal_iff] at own
            simp [Table.uniqueKey, own, named] at absent
          · simp [nothing]

theorem uniqueKey_eq_iff {left right : Kind} :
    Table.kinds.uniqueKey left = Table.kinds.uniqueKey right ↔
      (Collation.equal left.clientID right.clientID &&
        Collation.equal left.id right.id) = true := by
  simp [Table.uniqueKey, and_comm]

theorem countP_listedKinds (sound : tables.Sound) {kind : Kind}
    (listed : Listed tables userGUID kind) :
    (listedKinds tables userGUID).countP (fun other =>
      Collation.equal other.clientID kind.clientID &&
        Collation.equal other.id kind.id) = 1 := by
  have unique : ((listedKinds tables userGUID).map
      Table.kinds.uniqueKey).Nodup :=
    List.Nodup.sublist (List.filter_sublist.map _) (sound.uniqueKey .kinds)
  have once := List.count_eq_one_of_mem unique
    (List.mem_map_of_mem (mem_listedKinds.mpr listed))
  rw [List.count, List.countP_map] at once
  rw [← once]
  apply List.countP_congr
  intro other _
  rw [← uniqueKey_eq_iff]
  simp

theorem own_of_unmixed (sound : tables.Sound)
    (unmixed : ∀ kind, Listed tables userGUID kind →
      Unmixed tables userGUID kind) :
    OwnPreferences tables userGUID
      ((countedKinds tables userGUID).map (shown tables userGUID)) := by
  have joined : countedKinds tables userGUID =
      (listedKinds tables userGUID).map fun kind =>
        (kind, (tables.rows .receipts).find? fun receipt =>
          Collation.equal kind.id receipt.kindID) := by
    apply leftOuterJoin_of_unique
    intro kind member
    apply filter_of_countP_le_one
    exact (unmixed kind (mem_listedKinds.mp member)).single
  rw [joined, List.map_map]
  constructor
  · intro kind listed
    rw [List.countP_map]
    exact countP_listedKinds sound listed
  · intro preference member
    obtain ⟨kind, listedMember, rfl⟩ := List.mem_map.mp member
    have listed := mem_listedKinds.mp listedMember
    obtain ⟨client, stored, same⟩ := (unmixed kind listed).client
    have found : tables.lookup .clients
      (Collation.key [kind.clientID]) = some client :=
      sound.lookup_iff.mpr ⟨stored, by simpa [Table.uniqueKey] using same⟩
    refine ⟨kind, client, listed, found, ?_⟩
    have counted := received_of_unmixed sound (unmixed kind listed)
    have spelt := (contains_iff sound _ _).mpr (unmixed kind listed).spelt
    simp [shown, entry, found, counted, spelt]

theorem unmixed_of_own (sound : tables.Sound)
    (described : Described tables userGUID)
    (own : OwnPreferences tables userGUID
      ((countedKinds tables userGUID).map (shown tables userGUID)))
    {kind : Kind} (listed : Listed tables userGUID kind) :
    Unmixed tables userGUID kind := by
  have single : (tables.rows .receipts).countP
      (fun receipt => Collation.equal kind.id receipt.kindID) ≤ 1 := by
    have several := @le_countP_leftOuterJoin Kind Receipt
      (fun kind receipt => Collation.equal kind.id receipt.kindID) _
      (tables.rows .receipts) _ (mem_listedKinds.mpr listed)
      (fun other => Collation.equal other.clientID kind.clientID &&
        Collation.equal other.id kind.id)
      (by simp)
    have once := own.once kind listed
    rw [List.countP_map] at once
    have counted : (leftOuterJoin (fun (kind : Kind) (receipt : Receipt) =>
        Collation.equal kind.id receipt.kindID) (listedKinds tables userGUID)
        (tables.rows .receipts)).countP (fun joined =>
          Collation.equal joined.1.clientID kind.clientID &&
            Collation.equal joined.1.id kind.id) = 1 :=
      once
    rw [counted, ← List.countP_eq_length_filter] at several
    exact Nat.le_trans (Nat.le_max_right _ _) several
  -- an entry of the kind shows what the kind's own entry would
  have shows : ∀ receipt, (kind, receipt) ∈ countedKinds tables userGUID →
      (receipt.map Receipt.count).getD 0 =
          received tables userGUID kind.clientID kind.id ∧
        (!Unsubscribes.contains ((tables.rows .unsubscribes).filter
          fun row => Collation.equal row.userID userGUID)
          kind.clientID kind.id) =
            (tables.lookup .unsubscribes
              (Collation.key [userGUID, kind.clientID, kind.id])).isNone := by
    intro receipt joined
    obtain ⟨other, client, _, _, same⟩ :=
      own.entries _ (List.mem_map_of_mem joined)
    have counts := congrArg Preference.count same
    have emails := congrArg Preference.email same
    have clients : kind.clientID = other.clientID :=
      congrArg Preference.clientID same
    have kinds : kind.id = other.id := congrArg Preference.kindID same
    simp only [shown, entry, ← clients, ← kinds] at counts emails
    exact ⟨counts, emails⟩
  refine ⟨described kind listed, single, ?_, ?_⟩
  · intro receipt member named
    rw [Collation.equal_iff] at named
    obtain ⟨counts, _⟩ := shows (some receipt) (mem_leftOuterJoin.mpr
      ⟨mem_listedKinds.mpr listed, member, by simp [named]⟩)
    simp only [Option.map_some, Option.getD_some, received] at counts
    cases found : tables.lookup .receipts
        (Collation.key [userGUID, kind.clientID, kind.id]) with
    | none =>
        rw [found] at counts
        exact .inr counts
    | some mine =>
        obtain ⟨stored, keyed⟩ := sound.lookup_iff.mp found
        simp only [Table.uniqueKey, Collation.key_cons_eq, and_true] at keyed
        have same := eq_of_countP_le_one single member (by simp [named])
          stored (by simp [keyed.2.2])
        left
        rw [same, Collation.equal_iff, Collation.equal_iff]
        exact ⟨keyed.1, keyed.2.1⟩
  · obtain ⟨receipt, joined⟩ := exists_mem_leftOuterJoin
      (fun (kind : Kind) (receipt : Receipt) =>
        Collation.equal kind.id receipt.kindID)
      (tables.rows .receipts) (mem_listedKinds.mpr listed)
    apply (contains_iff sound _ _).mp
    have emails := (shows receipt joined).2
    rw [← Option.not_isSome] at emails
    simpa using emails

end Query

section Run

variable {environment : Environment} {world : World} {conn : Conn}
  {database : Database} {userGUID : String}

theorem run_findNonCriticalPreferences
    (present : world.read conn = some database)
    (selected : environment.faults world.statements = none)
    (selectedAgain : environment.faults (world.statements + 1) = none) :
    ((PreferencesRepo.findNonCriticalPreferences conn userGUID).run
      (World.handle environment) world).1 =
        some (returned database.tables userGUID) := by
  have first : (sql conn (.selectPreferences userGUID)).run
      (World.handle environment) world =
        (some (.ok (database.tables.preferences userGUID)),
          world.advance conn database 1) := by
    rw [run_sql present, selected]
    rfl
  have second : (sql conn (.select .unsubscribes
      fun row => Collation.equal row.userID userGUID)).run
        (World.handle environment)
        (world.advance conn database 1) =
        (some (.ok ((database.tables.rows .unsubscribes).filter
          fun row => Collation.equal row.userID userGUID)),
          world.advance conn database 2) := by
    rw [run_sql World.read_advance, World.statements_advance, selectedAgain,
      World.advance_advance]
    rfl
  rw [PreferencesRepo.findNonCriticalPreferences, Program.run_bind_of _ first,
    returned]
  simp only
  cases scanned : PreferencesRepo.scan
      (database.tables.preferences userGUID) with
  | mk preferences err =>
      cases err with
      | some error => rfl
      | none =>
          simp only [UnsubscribesRepo.findAllByUserID]
          rw [Program.run_bind_of _ (Program.run_bind_of _ second)]
          rfl

theorem findNonCriticalPreferences_own_iff
    (present : world.read conn = some database)
    (selected : environment.faults world.statements = none)
    (selectedAgain : environment.faults (world.statements + 1) = none) :
    (∃ preferences,
      ((PreferencesRepo.findNonCriticalPreferences conn userGUID).run
        (World.handle environment) world).1 = some (preferences, none) ∧
        OwnPreferences database.tables userGUID preferences) ↔
      ∀ kind, Listed database.tables userGUID kind →
        Unmixed database.tables userGUID kind := by
  rw [run_findNonCriticalPreferences present selected selectedAgain]
  constructor
  · rintro ⟨preferences, success, own⟩ kind listed
    have success := Option.some.inj success
    have described := described_of_returned database.sound success
    rw [returned_of_described database.sound described] at success
    cases success
    exact unmixed_of_own database.sound described own listed
  · intro unmixed
    have described : Described database.tables userGUID :=
      fun kind listed => (unmixed kind listed).client
    refine ⟨_, congrArg some
      (returned_of_described database.sound described), ?_⟩
    exact own_of_unmixed database.sound unmixed

end Run

/-- The kind `welcome` of the client `shop`, and receipts for these users. -/
def receiptsOf (users : List String) : World :=
  .start ([.insert .clients ⟨0, "shop", "The shop", 0, "default"⟩,
    .insert .kinds ⟨0, "welcome", "A welcome", false, "shop", 0, 0, "default"⟩]
    ++ users.map fun user =>
      .upsertReceipt ⟨0, user, "shop", "welcome", 1, 0⟩)

end Collated

attribute [local instance] Collation.binary

/-- Two users have received the same notification: one of them is shown two
entries for it. -/
theorem other_users_receipt_listed :
    ∃ preferences,
      ((PreferencesRepo.findNonCriticalPreferences .connection "ann").run
        (World.handle .calm) (receiptsOf ["ann", "bob"])).1 =
          some (preferences, none) ∧
        preferences.length = 2 ∧
        ¬ OwnPreferences (receiptsOf ["ann", "bob"]).database.tables "ann"
          preferences := by
  refine ⟨[⟨"shop", 1, "welcome", true, "A welcome", "The shop"⟩,
    ⟨"shop", 1, "welcome", true, "A welcome", "The shop"⟩], by rfl, rfl, ?_⟩
  intro own
  have once := own.once
    ⟨1, "welcome", "A welcome", false, "shop", 0, 0, "default"⟩
    ⟨.head _, rfl, ⟨_, .head _, rfl⟩, ⟨_, .head _, rfl, rfl⟩⟩
  exact absurd once (by decide)

theorem single_receipt_listed :
    ∃ preferences,
      ((PreferencesRepo.findNonCriticalPreferences .connection "ann").run
        (World.handle .calm) (receiptsOf ["ann"])).1 =
          some (preferences, none) ∧
        OwnPreferences (receiptsOf ["ann"]).database.tables "ann"
          preferences := by
  apply (findNonCriticalPreferences_own_iff rfl rfl rfl).mpr
  rintro kind ⟨member, _⟩
  cases member with
  | head _ =>
      refine ⟨⟨_, .head _, rfl⟩, by decide, ?_, ?_⟩
      · intro receipt member _
        cases member with
        | head _ => exact .inl ⟨rfl, rfl⟩
        | tail _ more => cases more
      · intro row found
        cases found
  | tail _ more => cases more

end Notifications.Models
