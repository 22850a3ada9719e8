import SyncAudio.Desktop.RoomDiscovery
import SyncAudio.Lib.LastWrite

/-!
# What an announcement changes

The records of a packet are applied to the tables of `RoomDiscovery` one by one, so a packet
that turns out to be malformed has already changed them. The known rooms are written behind
the last record only.

## Implementation notes

A record is decoded into the entries it writes, which does not depend on the tables. A packet
that is cut short stands for the list of entries that it writes before the break.
-/

namespace SyncAudio

/-- An entry that a record writes to the tables. -/
inductive RecordUpdate where
  | service (service : Text)
  | target (owner host : Text) (port : UInt16)
  | address (owner address : Text)
  | identifier (owner identifier : Text)
  deriving DecidableEq

/-- The table and the key of an entry. -/
inductive RecordKey where
  | service (service : Text)
  | target (owner : Text)
  | address (owner : Text)
  | identifier (owner : Text)
  deriving DecidableEq

namespace RecordUpdate

def key : RecordUpdate → RecordKey
  | .service name => .service name
  | .target owner _ _ => .target owner
  | .address owner _ => .address owner
  | .identifier owner _ => .identifier owner

def apply (learned : LearnedRecords) : RecordUpdate → LearnedRecords
  | .service name =>
      if name ∈ learned.services then learned
      else { learned with services := learned.services ++ [name] }
  | .target owner host port =>
      { learned with targets := learned.targets.assign owner (host, port) }
  | .address owner text => { learned with addresses := learned.addresses.assign owner text }
  | .identifier owner id => { learned with identifiers := learned.identifiers.assign owner id }

end RecordUpdate

/-- The entry of a key. -/
def LearnedRecords.value (learned : LearnedRecords) : RecordKey → Option RecordUpdate
  | .service name => if name ∈ learned.services then some (.service name) else none
  | .target owner =>
      (learned.targets.lookup owner).map fun target => .target owner target.1 target.2
  | .address owner => (learned.addresses.lookup owner).map (.address owner)
  | .identifier owner => (learned.identifiers.lookup owner).map (.identifier owner)

/-- The same services, targets, addresses and identifiers. -/
structure SameTables (learned other : LearnedRecords) : Prop where
  services : ∀ service, service ∈ learned.services ↔ service ∈ other.services
  targets : ∀ owner, learned.targets.lookup owner = other.targets.lookup owner
  addresses : ∀ owner, learned.addresses.lookup owner = other.addresses.lookup owner
  identifiers : ∀ owner, learned.identifiers.lookup owner = other.identifiers.lookup owner

section Tables

open RecordUpdate

variable {learned other : LearnedRecords} {service : Text}

theorem value_service_eq_some_iff {update : RecordUpdate} :
    learned.value (.service service) = some update ↔
      service ∈ learned.services ∧ update = .service service := by
  by_cases hmem : service ∈ learned.services
  · simp [LearnedRecords.value, hmem, eq_comm]
  · simp [LearnedRecords.value, hmem]

theorem mem_services_iff : service ∈ learned.services ↔
    learned.value (.service service) = some (.service service) := by
  simp [value_service_eq_some_iff]

theorem mem_services_apply {name : Text} :
    service ∈ (apply learned (.service name)).services ↔
      name = service ∨ service ∈ learned.services := by
  by_cases hmem : name ∈ learned.services
  · simp only [apply, if_pos hmem]
    constructor
    · exact Or.inr
    · rintro (rfl | hold)
      · exact hmem
      · exact hold
  · simp [apply, hmem, or_comm, eq_comm]

/-- The entry of a name in a table that has been written at an owner. -/
theorem entry_assign {α : Type} (table : OrderedMap Text α) (owner name : Text) (x : α)
    (entry : Text → α → RecordUpdate) :
    ((table.assign owner x).lookup name).map (entry name) =
      if owner = name then some (entry owner x) else (table.lookup name).map (entry name) := by
  by_cases hname : owner = name
  · simp [OrderedMap.lookup_assign, hname]
  · simp [OrderedMap.lookup_assign, hname]

/-- A record writes the entries it is decoded into and leaves the others alone. -/
theorem keyedWrites : KeyedWrites RecordUpdate.key LearnedRecords.value RecordUpdate.apply where
  value_apply learned update key := by
    cases update with
    | service name =>
        cases key with
        | service service =>
            by_cases hname : name = service
            · simp [LearnedRecords.value, RecordUpdate.key, mem_services_apply, hname]
            · simp [LearnedRecords.value, RecordUpdate.key, mem_services_apply, hname]
        | _ =>
            by_cases hmem : name ∈ learned.services <;>
              simp [apply, RecordUpdate.key, LearnedRecords.value, hmem]
    | target owner host port =>
        cases key with
        | target name =>
            have hentry := entry_assign learned.targets owner name (host, port)
              fun owner target => .target owner target.1 target.2
            simpa [apply, RecordUpdate.key, LearnedRecords.value] using hentry
        | service name => rfl
        | _ => simp [apply, RecordUpdate.key, LearnedRecords.value]
    | address owner text =>
        cases key with
        | address name =>
            have hentry := entry_assign learned.addresses owner name text RecordUpdate.address
            simpa [apply, RecordUpdate.key, LearnedRecords.value] using hentry
        | service name => rfl
        | _ => simp [apply, RecordUpdate.key, LearnedRecords.value]
    | identifier owner id =>
        cases key with
        | identifier name =>
            have hentry := entry_assign learned.identifiers owner name id RecordUpdate.identifier
            simpa [apply, RecordUpdate.key, LearnedRecords.value] using hentry
        | service name => rfl
        | _ => simp [apply, RecordUpdate.key, LearnedRecords.value]

theorem sameTables_iff : SameTables learned other ↔ ∀ key, learned.value key = other.value key := by
  constructor
  · intro h key
    cases key with
    | service name => simp [LearnedRecords.value, h.services]
    | target owner => simp [LearnedRecords.value, h.targets]
    | address owner => simp [LearnedRecords.value, h.addresses]
    | identifier owner => simp [LearnedRecords.value, h.identifiers]
  · intro h
    constructor
    · intro service
      rw [mem_services_iff, h, ← mem_services_iff]
    · intro owner
      apply Option.map_injective ?_ (h (.target owner))
      intro target target' heq
      obtain ⟨-, hhost, hport⟩ := RecordUpdate.target.inj heq
      exact Prod.ext hhost hport
    · intro owner
      apply Option.map_injective ?_ (h (.address owner))
      intro text text' heq
      exact (RecordUpdate.address.inj heq).2
    · intro owner
      apply Option.map_injective ?_ (h (.identifier owner))
      intro id id' heq
      exact (RecordUpdate.identifier.inj heq).2

end Tables

namespace RoomDiscovery

open RecordUpdate

/-- The identifiers that the strings of a TXT record give to its owner. -/
def textUpdates (owner : Text) : Nat → List UInt8 → List RecordUpdate
  | 0, _ => []
  | _ + 1, [] => []
  | fuel + 1, size :: bytes =>
      if bytes.length < size.toNat then []
      else
        let text := getString (bytes.take size.toNat)
        (if startsWithIgnoreCase text "room=".toList then [.identifier owner (text.drop 5)] else []) ++
          textUpdates owner fuel (bytes.drop size.toNat)

/-- The entries that a record writes; `none` is an exception. -/
def recordUpdates (bytes : List UInt8) (record : DnsRecord) : Option (List RecordUpdate) :=
  if record.type = 12 ∧ equalsIgnoreCase record.owner serviceType then do
    let (announced, _) ← name bytes record.cursor
    some [.service announced]
  else if record.type = 33 ∧ 6 ≤ record.length then do
    let (host, _) ← name bytes (record.cursor + 6)
    let port ← u16 bytes (record.cursor + 4)
    some [.target record.owner host port]
  else if record.type = 1 ∧ record.length = 4 then
    some [.address record.owner (addressText (slice bytes record.cursor 4))]
  else if record.type = 16 then
    some (textUpdates record.owner record.length (slice bytes record.cursor record.length))
  else some []

/-- The entries that the records from an offset on write, up to the first that raises an
exception, and whether there is none. -/
def updatesFrom (bytes : List UInt8) : Nat → Nat → List RecordUpdate × Bool
  | 0, _ => ([], true)
  | records + 1, cursor =>
      match readRecord bytes cursor with
      | none => ([], false)
      | some record =>
          let rest := updatesFrom bytes records (record.cursor + record.length)
          if record.ttl = 0 then rest
          else
            match recordUpdates bytes record with
            | none => ([], false)
            | some updates => (updates ++ rest.1, rest.2)

/-- The entries that a packet writes, and whether it is read to its end. -/
def packetUpdates (packet : List UInt8) : List RecordUpdate × Bool :=
  match header packet with
  | none => ([], false)
  | some (questions, records) =>
      match skipQuestions packet questions 12 with
      | none => ([], false)
      | some cursor => updatesFrom packet records cursor

theorem foldl_textUpdates (owner : Text) (fuel : Nat) (bytes : List UInt8)
    (learned : LearnedRecords) :
    (textUpdates owner fuel bytes).foldl apply learned =
      { learned with identifiers := readTexts owner fuel bytes learned.identifiers } := by
  induction fuel generalizing bytes learned with
  | zero => rfl
  | succ fuel ih =>
      cases bytes with
      | nil => rfl
      | cons size bytes =>
          rw [textUpdates, readTexts]
          by_cases hshort : bytes.length < size.toNat
          · rw [if_pos hshort, if_pos hshort]
            rfl
          · rw [if_neg hshort, if_neg hshort]
            dsimp only
            rw [List.foldl_append, ih]
            by_cases hroom : startsWithIgnoreCase (getString (bytes.take size.toNat))
                "room=".toList = true
            · rw [if_pos hroom, if_pos hroom]
              rfl
            · rw [if_neg hroom, if_neg hroom]
              rfl

theorem learn_eq (bytes : List UInt8) (record : DnsRecord) (learned : LearnedRecords) :
    learn bytes record learned =
      (recordUpdates bytes record).map fun updates => updates.foldl apply learned := by
  unfold learn recordUpdates
  split_ifs
  · cases name bytes record.cursor with
    | none => rfl
    | some found => exact (apply_ite some _ _ _).symm
  · cases name bytes (record.cursor + 6) with
    | none => rfl
    | some found =>
        cases u16 bytes (record.cursor + 4) with
        | none => rfl
        | some port => rfl
  · rfl
  · rw [Option.map_some, foldl_textUpdates]
  · rfl

theorem learnRecords_eq (bytes : List UInt8) (records cursor : Nat) (learned : LearnedRecords) :
    learnRecords bytes records cursor learned =
      ((updatesFrom bytes records cursor).1.foldl apply learned,
        (updatesFrom bytes records cursor).2) := by
  induction records generalizing cursor learned with
  | zero => rfl
  | succ records ih =>
      rw [learnRecords, updatesFrom]
      cases readRecord bytes cursor with
      | none => rfl
      | some record =>
          dsimp only
          by_cases hgoodbye : record.ttl = 0
          · rw [if_pos hgoodbye, if_pos hgoodbye, ih]
          · rw [if_neg hgoodbye, if_neg hgoodbye, learn_eq]
            cases recordUpdates bytes record with
            | none => rfl
            | some updates =>
                rw [Option.map_some]
                dsimp only
                rw [ih, List.foldl_append]

/-- What a packet writes, and whether it is read to its end, does not depend on the tables. -/
theorem learnPacket_eq (packet : List UInt8) (learned : LearnedRecords) :
    learnPacket packet learned =
      ((packetUpdates packet).1.foldl apply learned, (packetUpdates packet).2) := by
  unfold learnPacket packetUpdates
  cases header packet with
  | none => rfl
  | some counts =>
      dsimp only
      cases skipQuestions packet counts.1 12 with
      | none => rfl
      | some cursor => exact learnRecords_eq packet counts.2 cursor learned

/-- `Parse` gives the packet up. -/
def Abandons (packet : List UInt8) : Prop := (packetUpdates packet).2 = false

instance (packet : List UInt8) : Decidable (Abandons packet) :=
  inferInstanceAs (Decidable ((packetUpdates packet).2 = false))

/-- The same tables and the same known rooms. -/
structure Unchanged (before after : RoomDiscovery) : Prop where
  tables : SameTables after.toLearnedRecords before.toLearnedRecords
  known : after.known = before.known

theorem parse_of_abandons {packet : List UInt8} (h : Abandons packet) (discovery : RoomDiscovery)
    (now : Int) : discovery.parse now packet =
      { discovery with
        toLearnedRecords := (packetUpdates packet).1.foldl apply discovery.toLearnedRecords } := by
  rw [parse, learnPacket_eq, h]

/-- A packet that is given up changes nothing exactly if each table entry that its records
have written last before the break was there already. -/
theorem malformed_ignored_iff (discovery : RoomDiscovery) (now : Int) (packet : List UInt8)
    (habandons : Abandons packet) :
    Unchanged discovery (discovery.parse now packet) ↔
      ∀ key update, lastWrite RecordUpdate.key (packetUpdates packet).1 key = some update →
        discovery.toLearnedRecords.value key = some update := by
  rw [parse_of_abandons habandons, ← keyedWrites.foldl_unchanged_iff, ← sameTables_iff]
  constructor
  · exact fun h => h.tables
  · exact fun h => ⟨h, rfl⟩

/-- The announcement of the room, where the last byte of its address record is missing. -/
def truncatedRoom : List UInt8 := (RoomBrowsing.roomPacket 120).dropLast

/-- An announcement of the printer without the last byte. -/
def truncatedPrinter : List UInt8 := RoomBrowsing.printerPacket.dropLast

/-- The printer's announcement writes nothing; that of the room writes two entries, which a browser
that knows the room has already. -/
theorem malformed_ignored_truncatedPrinter :
    Unchanged {} (({} : RoomDiscovery).parse 0 truncatedPrinter) ∧
      (packetUpdates truncatedRoom).1.length = 2 ∧
      Unchanged RoomBrowsing.roomKnown.discovery
        (RoomBrowsing.roomKnown.discovery.parse 1 truncatedRoom) := by
  refine ⟨(malformed_ignored_iff {} 0 truncatedPrinter (by decide)).mpr ?_, by decide,
    (malformed_ignored_iff _ 1 truncatedRoom (by decide)).mpr ?_⟩
  · intro key update hlast
    have hnone : packetUpdates truncatedPrinter = ([], false) := rfl
    rw [hnone] at hlast
    cases hlast
  · intro key update hlast
    have hheld : ∀ update ∈ (packetUpdates truncatedRoom).1,
        RoomBrowsing.roomKnown.discovery.toLearnedRecords.value update.key = some update := by
      decide
    obtain ⟨hmem, rfl⟩ := lastWrite_mem hlast
    exact hheld update hmem

/-- The PTR and the SRV record of the truncated announcement stay. -/
theorem truncated_room_learned :
    Abandons truncatedRoom ∧ ¬ Unchanged {} (({} : RoomDiscovery).parse 0 truncatedRoom) := by
  have hservices : (({} : RoomDiscovery).parse 0 truncatedRoom).services =
      [RoomBrowsing.roomService] := rfl
  constructor
  · decide
  · intro h
    have hmem := (h.tables.services RoomBrowsing.roomService).mp
      (hservices ▸ List.mem_singleton.mpr rfl)
    exact List.not_mem_nil hmem

end RoomDiscovery

end SyncAudio
