import Mathlib.Data.Char
import Mathlib.Data.List.Lex
import SyncAudio.Lib.BigEndian
import SyncAudio.Lib.LabelledRun
import SyncAudio.Lib.OrderedMap
import SyncAudio.Lib.Text

/-!
# The room browser of the desktop

`RoomDiscovery` reads the multicast announcements of the network, keeps what it learns
from their records and lists the rooms it can reach. A packet that is read to its end stamps
every service that can be resolved by then, whether or not the packet speaks of it, so a
departed room stays as long as anything else announces itself.

## Implementation notes

Times are ticks of 100 ns; one call reads the clock once. A name or a number behind the end
of the packet raises an exception, which ends `Parse` like its early returns do: what was
learned so far stays, and no service is stamped. The sorted list of `Publish`, the sockets
and the queries are left out. The log of parsed packets with the tables behind each is
recorded for the statements only.
-/

namespace SyncAudio

/-- The tables of `RoomDiscovery` that records fill. -/
structure LearnedRecords where
  services : List Text := []
  targets : OrderedMap Text (Text × UInt16) := .empty
  addresses : OrderedMap Text Text := .empty
  identifiers : OrderedMap Text Text := .empty

/-- A value of `known`. -/
structure KnownRoom where
  name : Text
  address : Text
  port : UInt16
  seen : Int
  deriving DecidableEq

structure RoomDiscovery extends LearnedRecords where
  known : OrderedMap Text KnownRoom := .empty

/-- The fixed part of a record; its data begins at `cursor`. -/
structure DnsRecord where
  owner : Text
  type : UInt16
  ttl : UInt32
  length : Nat
  cursor : Nat
  deriving DecidableEq

/-- A character of several bytes that has begun: the bytes to come, the bits so far and the
bounds of the next byte. -/
structure Utf8Tail where
  needed : Nat
  bits : Nat
  lower : UInt8 := 0x80
  upper : UInt8 := 0xBF

namespace RoomDiscovery

/-- `Service`. -/
def serviceType : Text := "_tandemaudio._tcp.local".toList

/-- `TimeSpan.FromMinutes(2)`. -/
def twoMinutes : Int := 1200000000

def replacement : Char := Char.ofNat 0xFFFD

/-- What the first byte of a character gives. -/
def utf8Head (byte : UInt8) : Text × Option Utf8Tail :=
  if byte < 0x80 then ([Char.ofNat byte.toNat], none)
  else if 0xC2 ≤ byte ∧ byte ≤ 0xDF then ([], some { needed := 1, bits := byte.toNat % 32 })
  else if 0xE0 ≤ byte ∧ byte ≤ 0xEF then
    ([], some
      { needed := 2
        bits := byte.toNat % 16
        lower := if byte = 0xE0 then 0xA0 else 0x80
        upper := if byte = 0xED then 0x9F else 0xBF })
  else if 0xF0 ≤ byte ∧ byte ≤ 0xF4 then
    ([], some
      { needed := 3
        bits := byte.toNat % 8
        lower := if byte = 0xF0 then 0x90 else 0x80
        upper := if byte = 0xF4 then 0x8F else 0xBF })
  else ([replacement], none)

/-- The rest of a text; each part that cannot be completed gives one replacement. -/
def utf8Rest : Option Utf8Tail → List UInt8 → Text
  | none, [] => []
  | some _, [] => [replacement]
  | none, byte :: bytes => (utf8Head byte).1 ++ utf8Rest (utf8Head byte).2 bytes
  | some tail, byte :: bytes =>
      if tail.lower ≤ byte ∧ byte ≤ tail.upper then
        let bits := 64 * tail.bits + byte.toNat % 64
        if tail.needed = 1 then Char.ofNat bits :: utf8Rest none bytes
        else utf8Rest (some { needed := tail.needed - 1, bits := bits }) bytes
      else replacement :: (utf8Head byte).1 ++ utf8Rest (utf8Head byte).2 bytes

/-- `Encoding.UTF8.GetString`. -/
def getString (bytes : List UInt8) : Text := utf8Rest none bytes

/-- `bytes.Slice`. -/
def slice (bytes : List UInt8) (offset length : Nat) : List UInt8 :=
  (bytes.drop offset).take length

/-- `StringComparison.OrdinalIgnoreCase` against a text of ASCII characters. -/
def equalsIgnoreCase (text ascii : Text) : Bool := text.map Char.toUpper = ascii.map Char.toUpper

def startsWithIgnoreCase (text ascii : Text) : Bool :=
  equalsIgnoreCase (text.take ascii.length) ascii

def endsWithIgnoreCase (text ascii : Text) : Bool :=
  equalsIgnoreCase (text.drop (text.length - ascii.length)) ascii

/-- `U16`; behind the end the slice is out of range. -/
def u16 (bytes : List UInt8) (offset : Nat) : Option UInt16 := do
  let high ← bytes[offset]?
  let low ← bytes[offset + 1]?
  some (BigEndian.join16 high low)

/-- `U32`. -/
def u32 (bytes : List UInt8) (offset : Nat) : Option UInt32 := do
  let high ← u16 bytes offset
  let low ← u16 bytes (offset + 2)
  some (BigEndian.join32 high low)

/-- The loop of `Name`: the labels so far, and where to go on once a pointer was followed. -/
def nameLoop (bytes : List UInt8) : Nat → Nat → Option Nat → List Text → Option (Text × Nat)
  | 0, _, _, _ => none
  | count + 1, position, resume, labels =>
      match bytes[position]? with
      | none => none
      | some length =>
          if length = 0 then
            some (List.intercalate ['.'] labels, resume.getD (position + 1))
          else if length &&& 0xC0 = 0xC0 then
            match bytes[position + 1]? with
            | none => none
            | some low =>
                let target := (length &&& 0x3F).toNat <<< 8 ||| low.toNat
                if bytes.length ≤ target then none
                else nameLoop bytes count target (some (resume.getD (position + 2))) labels
          else if 63 < length ∨ bytes.length < position + 1 + length.toNat then none
          else
            nameLoop bytes count (position + 1 + length.toNat) resume
              (labels ++ [getString (slice bytes (position + 1) length.toNat)])

/-- `Name`: the name at an offset and the offset behind it; `none` is an exception. -/
def name (bytes : List UInt8) (offset : Nat) : Option (Text × Nat) :=
  nameLoop bytes 32 offset none []

/-- The checks of the header: the numbers of questions and of records. -/
def header (bytes : List UInt8) : Option (Nat × Nat) := do
  if bytes.length < 12 then none
  else
    let flags ← u16 bytes 2
    if flags &&& 0x8000 = 0 then none
    else
      let questions ← u16 bytes 4
      let answers ← u16 bytes 6
      let authorities ← u16 bytes 8
      let additional ← u16 bytes 10
      let records := answers.toNat + authorities.toNat + additional.toNat
      if 32 < questions.toNat ∨ 128 < records then none
      else some (questions.toNat, records)

/-- The loop over the questions: where the records begin. -/
def skipQuestions (bytes : List UInt8) : Nat → Nat → Option Nat
  | 0, cursor => some cursor
  | questions + 1, cursor => do
      let (_, cursor) ← name bytes cursor
      if bytes.length < cursor + 4 then none
      else skipQuestions bytes questions (cursor + 4)

/-- The fixed part of the record at an offset. -/
def readRecord (bytes : List UInt8) (cursor : Nat) : Option DnsRecord := do
  let (owner, cursor) ← name bytes cursor
  if bytes.length < cursor + 10 then none
  else
    let type ← u16 bytes cursor
    let ttl ← u32 bytes (cursor + 4)
    let length ← u16 bytes (cursor + 8)
    if bytes.length < cursor + 10 + length.toNat then none
    else
      some
        { owner := owner
          type := type
          ttl := ttl
          length := length.toNat
          cursor := cursor + 10 }

/-- `IPAddress.ToString`. -/
def addressText (bytes : List UInt8) : Text :=
  List.intercalate ['.'] (bytes.map fun byte => Text.ofNat byte.toNat)

/-- The strings of a TXT record; `fuel` is the number of its bytes. -/
def readTexts (owner : Text) :
    Nat → List UInt8 → OrderedMap Text Text → OrderedMap Text Text
  | 0, _, identifiers => identifiers
  | _ + 1, [], identifiers => identifiers
  | fuel + 1, size :: bytes, identifiers =>
      if bytes.length < size.toNat then identifiers
      else
        let text := getString (bytes.take size.toNat)
        readTexts owner fuel (bytes.drop size.toNat)
          (if startsWithIgnoreCase text "room=".toList then
            identifiers.assign owner (text.drop 5)
          else identifiers)

/-- What `Parse` does with a record that is no goodbye; `none` is an exception. -/
def learn (bytes : List UInt8) (record : DnsRecord) (learned : LearnedRecords) :
    Option LearnedRecords :=
  if record.type = 12 ∧ equalsIgnoreCase record.owner serviceType then do
    let (service, _) ← name bytes record.cursor
    if service ∈ learned.services then some learned
    else some { learned with services := learned.services ++ [service] }
  else if record.type = 33 ∧ 6 ≤ record.length then do
    let (host, _) ← name bytes (record.cursor + 6)
    let port ← u16 bytes (record.cursor + 4)
    some { learned with targets := learned.targets.assign record.owner (host, port) }
  else if record.type = 1 ∧ record.length = 4 then
    some
      { learned with
        addresses :=
          learned.addresses.assign record.owner (addressText (slice bytes record.cursor 4)) }
  else if record.type = 16 then
    some
      { learned with
        identifiers :=
          readTexts record.owner record.length (slice bytes record.cursor record.length)
            learned.identifiers }
  else some learned

/-- The loop over the records: what is learned, and whether it came to its end. -/
def learnRecords (bytes : List UInt8) : Nat → Nat → LearnedRecords → LearnedRecords × Bool
  | 0, _, learned => (learned, true)
  | records + 1, cursor, learned =>
      match readRecord bytes cursor with
      | none => (learned, false)
      | some record =>
          if record.ttl = 0 then
            learnRecords bytes records (record.cursor + record.length) learned
          else
            match learn bytes record learned with
            | none => (learned, false)
            | some learned =>
                learnRecords bytes records (record.cursor + record.length) learned

/-- `Parse` up to the loop over the services. -/
def learnPacket (packet : List UInt8) (learned : LearnedRecords) : LearnedRecords × Bool :=
  match header packet with
  | none => (learned, false)
  | some (questions, records) =>
      match skipQuestions packet questions 12 with
      | none => (learned, false)
      | some cursor => learnRecords packet records cursor learned

def displayName (service : Text) : Text :=
  if endsWithIgnoreCase service ('.' :: serviceType) then
    service.take (service.length - (serviceType.length + 1))
  else service

/-- The entry the loop over the services writes for one of them. -/
def announced (learned : LearnedRecords) (now : Int) (service : Text) :
    Option (Text × KnownRoom) := do
  let (host, port) ← learned.targets.lookup service
  let address ← learned.addresses.lookup host
  some
    ((learned.identifiers.lookup service).getD service,
      { name := displayName service
        address := address
        port := port
        seen := now })

/-- One pass of the loop over the services. -/
def stamp (learned : LearnedRecords) (now : Int) (known : OrderedMap Text KnownRoom)
    (service : Text) : OrderedMap Text KnownRoom :=
  match announced learned now service with
  | none => known
  | some (id, room) => known.assign id room

/-- `Parse`. -/
def parse (discovery : RoomDiscovery) (now : Int) (packet : List UInt8) : RoomDiscovery :=
  match learnPacket packet discovery.toLearnedRecords with
  | (learned, false) => { discovery with toLearnedRecords := learned }
  | (learned, true) =>
      { toLearnedRecords := learned
        known := learned.services.foldl (stamp learned now) discovery.known }

/-- `Expire`. -/
def expire (discovery : RoomDiscovery) (now : Int) : RoomDiscovery :=
  { discovery with
    known := discovery.known.filter fun entry => decide ¬ twoMinutes < now - entry.2.seen }

/-- The records of a packet, goodbyes included. -/
def recordsFrom (bytes : List UInt8) : Nat → Nat → List DnsRecord
  | 0, _ => []
  | records + 1, cursor =>
      match readRecord bytes cursor with
      | none => []
      | some record => record :: recordsFrom bytes records (record.cursor + record.length)

def packetRecords (packet : List UInt8) : List DnsRecord :=
  match header packet with
  | none => []
  | some (questions, records) =>
      match skipQuestions packet questions 12 with
      | none => []
      | some cursor => recordsFrom packet records cursor

/-- A PTR, SRV or TXT record of a service. -/
def isRecordOf (packet : List UInt8) (service : Text) (record : DnsRecord) : Bool :=
  decide (record.type = 12) && equalsIgnoreCase record.owner serviceType &&
      (name packet record.cursor).any (fun target => target.1 = service) ||
    decide (record.type = 33 ∨ record.type = 16) && decide (record.owner = service)

/-- The packet carries a record of the service that is no goodbye. -/
def Carries (packet : List UInt8) (service : Text) : Prop :=
  ∃ record ∈ packetRecords packet, isRecordOf packet service record = true ∧ record.ttl ≠ 0

/-- The last record of a service in a packet. -/
def lastRecord (packet : List UInt8) (service : Text) : Option DnsRecord :=
  (packetRecords packet).reverse.find? (isRecordOf packet service)

/-- The packet carries a record of the service, and its last one is no goodbye. -/
def Announces (packet : List UInt8) (service : Text) : Prop :=
  ∃ record, lastRecord packet service = some record ∧ record.ttl ≠ 0

theorem Announces.carries {packet : List UInt8} {service : Text} (h : Announces packet service) :
    Carries packet service := by
  obtain ⟨record, hlast, hlive⟩ := h
  have hmem := List.mem_reverse.mp (List.mem_of_find?_eq_some hlast)
  exact ⟨record, hmem, List.find?_some hlast, hlive⟩

section Stamps

variable {learned : LearnedRecords} {now : Int} {known : OrderedMap Text KnownRoom}
  {services : List Text} {service : Text} {entry : Text × KnownRoom}

theorem announced_seen (h : announced learned now service = some entry) :
    entry.2.seen = now := by
  rw [announced] at h
  obtain ⟨target, -, h⟩ := Option.bind_eq_some_iff.mp h
  obtain ⟨address, -, h⟩ := Option.bind_eq_some_iff.mp h
  rw [← Option.some.inj h]

theorem mem_stamp : entry ∈ (stamp learned now known service).entries ↔
    announced learned now service = some entry ∨
      entry ∈ known.entries ∧ ∀ other ∈ announced learned now service, entry.1 ≠ other.1 := by
  rw [stamp]
  cases announced learned now service with
  | none => simp
  | some other =>
      refine OrderedMap.mem_assign_iff.trans (or_congr ?_ ?_)
      · rw [Option.some_inj]
        exact eq_comm
      · simp

/-- The loop writes nothing but entries of the services it goes through. -/
theorem mem_of_mem_stamps
    (h : entry ∈ (services.foldl (stamp learned now) known).entries) :
    entry ∈ known.entries ∨
      ∃ service ∈ services, announced learned now service = some entry := by
  induction services generalizing known with
  | nil => exact .inl h
  | cons first rest ih =>
      cases ih h with
      | inl hfirst =>
          cases mem_stamp.mp hfirst with
          | inl hnew => exact .inr ⟨first, List.mem_cons_self, hnew⟩
          | inr hold => exact .inl hold.1
      | inr hrest =>
          obtain ⟨service, hmem, hnew⟩ := hrest
          exact .inr ⟨service, List.mem_cons_of_mem first hmem, hnew⟩

/-- An entry stays to the end of the loop if no other service has its key. -/
theorem mem_stamps (hentry : announced learned now service = some entry)
    (honly : ∀ other ∈ services, ∀ room, announced learned now other = some (entry.1, room) →
      other = service)
    (h : service ∈ services ∨ entry ∈ known.entries) :
    entry ∈ (services.foldl (stamp learned now) known).entries := by
  induction services generalizing known with
  | nil =>
      cases h with
      | inl hmem => exact absurd hmem List.not_mem_nil
      | inr hknown => exact hknown
  | cons first rest ih =>
      apply ih fun other hother => honly other (List.mem_cons_of_mem first hother)
      by_cases hfirst : first = service
      · exact .inr (mem_stamp.mpr (.inl (hfirst ▸ hentry)))
      · cases h with
        | inl hmem => exact .inl ((List.mem_cons.mp hmem).resolve_left (Ne.symm hfirst))
        | inr hknown =>
            refine .inr (mem_stamp.mpr (.inr ⟨hknown, ?_⟩))
            intro other hother hkey
            apply hfirst
            apply honly first List.mem_cons_self other.2
            rw [hkey]
            exact hother

end Stamps

/-- An entry behind `Parse` was there before, or the packet was read to its end. -/
theorem mem_parse {discovery : RoomDiscovery} {now : Int} {packet : List UInt8}
    {entry : Text × KnownRoom} (h : entry ∈ (discovery.parse now packet).known.entries) :
    entry ∈ discovery.known.entries ∨
      learnPacket packet discovery.toLearnedRecords =
          ((discovery.parse now packet).toLearnedRecords, true) ∧
        ∃ service ∈ (discovery.parse now packet).services,
          announced (discovery.parse now packet).toLearnedRecords now service = some entry := by
  rw [parse] at h ⊢
  cases hlearn : learnPacket packet discovery.toLearnedRecords with
  | mk learned complete =>
      rw [hlearn] at h
      cases complete with
      | false => exact .inl h
      | true =>
          cases mem_of_mem_stamps h with
          | inl hold => exact .inl hold
          | inr hnew => exact .inr ⟨rfl, hnew⟩

theorem parse_of_complete {discovery : RoomDiscovery} {packet : List UInt8}
    {learned : LearnedRecords}
    (h : learnPacket packet discovery.toLearnedRecords = (learned, true)) (now : Int) :
    discovery.parse now packet =
      { toLearnedRecords := learned
        known := learned.services.foldl (stamp learned now) discovery.known } := by
  rw [parse, h]

theorem mem_expire {discovery : RoomDiscovery} {now : Int} {entry : Text × KnownRoom} :
    entry ∈ (discovery.expire now).known.entries ↔
      entry ∈ discovery.known.entries ∧ now - entry.2.seen ≤ twoMinutes := by
  refine List.mem_filter.trans (and_congr_right fun _ => ?_)
  rw [decide_eq_true_iff, not_lt]

end RoomDiscovery

/-- A packet that was parsed, and the tables behind it. -/
structure ParsedPacket where
  time : Int
  packet : List UInt8
  learned : LearnedRecords

/-- The browser, the time of its last call and the packets so far, the last one first. -/
structure RoomBrowsing where
  discovery : RoomDiscovery := {}
  now : Int
  parsed : List ParsedPacket := []

namespace RoomBrowsing

open LabelledRun RoomDiscovery

inductive Event where
  | parse (time : Int) (packet : List UInt8)
  | expire (time : Int)

/-- A call of the browser, not before the last one. -/
def step : Step RoomBrowsing Event
  | browsing, .parse time packet =>
      if browsing.now ≤ time then
        let discovery := browsing.discovery.parse time packet
        some
          { discovery := discovery
            now := time
            parsed := ⟨time, packet, discovery.toLearnedRecords⟩ :: browsing.parsed }
      else none
  | browsing, .expire time =>
      if browsing.now ≤ time then
        some { browsing with discovery := browsing.discovery.expire time, now := time }
      else none

/-- The last record of a service in all packets so far. -/
def lastAnnounced (browsing : RoomBrowsing) (service : Text) : Option DnsRecord :=
  browsing.parsed.findSome? fun parsed => lastRecord parsed.packet service

/-- Every known room is that of a service which a packet of the last two minutes announced. -/
def Expired (time : Int) (browsing : RoomBrowsing) : Prop :=
  ∀ entry ∈ browsing.discovery.known.entries, ∃ parsed ∈ browsing.parsed,
    time - twoMinutes ≤ parsed.time ∧ parsed.time ≤ time ∧
      ∃ service ∈ parsed.learned.services,
        announced parsed.learned parsed.time service = some entry ∧
          Carries parsed.packet service

/-- What a packet refreshes is a service whose last record was no goodbye. -/
def Refreshed (time : Int) (before after : RoomBrowsing) : Prop :=
  ∀ entry ∈ after.discovery.known.entries, entry ∉ before.discovery.known.entries →
    ∃ service ∈ after.discovery.services,
      announced after.discovery.toLearnedRecords time service = some entry ∧
        ∃ record, after.lastAnnounced service = some record ∧ record.ttl ≠ 0

/-- The step lets departed rooms go. -/
def LetsGo (before : RoomBrowsing) (event : Event) : Prop :=
  ∀ after, step before event = some after →
    match event with
    | .parse time _ => Refreshed time before after
    | .expire time => Expired time after

/-- A packet read to its end announces every service that is resolved by then. -/
def AnnouncesResolved (browsing : RoomBrowsing) : Event → Prop
  | .parse time packet =>
      ∀ learned, learnPacket packet browsing.discovery.toLearnedRecords = (learned, true) →
        ∀ service ∈ learned.services, (announced learned time service).isSome = true →
          Announces packet service
  | .expire _ => True

/-- Every known room is that of a service which a packet has stamped. -/
structure Sighted (stamps : List UInt8 → Text → Prop) (browsing : RoomBrowsing) : Prop where
  known : ∀ entry ∈ browsing.discovery.known.entries, ∃ parsed ∈ browsing.parsed,
    ∃ service ∈ parsed.learned.services,
      announced parsed.learned parsed.time service = some entry ∧ stamps parsed.packet service
  past : ∀ parsed ∈ browsing.parsed, parsed.time ≤ browsing.now

variable {stamps : List UInt8 → Text → Prop} {browsing before after : RoomBrowsing}
  {time : Int} {packet : List UInt8} {event : Event}

/-- A new browser knows no room. -/
theorem sighted_start (now : Int) : Sighted stamps { now := now } where
  known _ h := absurd h List.not_mem_nil
  past _ h := absurd h List.not_mem_nil

theorem step_parse (h : step before (.parse time packet) = some after) :
    before.now ≤ time ∧ after.now = time ∧
      after.discovery = before.discovery.parse time packet ∧
      after.parsed = ⟨time, packet, after.discovery.toLearnedRecords⟩ :: before.parsed := by
  obtain ⟨htime, hafter⟩ := Option.ite_none_right_eq_some.mp h
  cases hafter
  exact ⟨htime, rfl, rfl, rfl⟩

theorem step_expire (h : step before (.expire time) = some after) :
    before.now ≤ time ∧ after.now = time ∧ after.discovery = before.discovery.expire time ∧
      after.parsed = before.parsed := by
  obtain ⟨htime, hafter⟩ := Option.ite_none_right_eq_some.mp h
  cases hafter
  exact ⟨htime, rfl, rfl, rfl⟩

/-- What a packet writes, it writes for a service that is resolved by then. -/
theorem mem_step_parse (h : step before (.parse time packet) = some after)
    {entry : Text × KnownRoom} (hentry : entry ∈ after.discovery.known.entries) :
    entry ∈ before.discovery.known.entries ∨
      learnPacket packet before.discovery.toLearnedRecords =
          (after.discovery.toLearnedRecords, true) ∧
        ∃ service ∈ after.discovery.services,
          announced after.discovery.toLearnedRecords time service = some entry := by
  obtain ⟨-, -, hdiscovery, -⟩ := step_parse h
  rw [hdiscovery] at hentry ⊢
  exact mem_parse hentry

/-- What a step that meets the condition of a packet does to the known rooms. -/
theorem Sighted.step (hs : Sighted stamps before)
    (hnew : ∀ time packet, event = .parse time packet →
      ∀ learned, learnPacket packet before.discovery.toLearnedRecords = (learned, true) →
        ∀ service ∈ learned.services, (announced learned time service).isSome = true →
          stamps packet service)
    (h : RoomBrowsing.step before event = some after) : Sighted stamps after := by
  cases event with
  | parse time packet =>
      obtain ⟨htime, hnow, -, hparsed⟩ := step_parse h
      constructor
      · intro entry hentry
        rw [hparsed]
        cases mem_step_parse h hentry with
        | inl hold =>
            obtain ⟨parsed, hmem, hservice⟩ := hs.known entry hold
            exact ⟨parsed, List.mem_cons_of_mem _ hmem, hservice⟩
        | inr hstamped =>
            obtain ⟨hlearn, service, hmem, hannounced⟩ := hstamped
            refine ⟨_, List.mem_cons_self, service, hmem, hannounced, ?_⟩
            apply hnew time packet rfl _ hlearn service hmem
            rw [hannounced]
            rfl
      · intro parsed hmem
        rw [hnow]
        rw [hparsed] at hmem
        cases List.mem_cons.mp hmem with
        | inl hfirst => exact hfirst ▸ le_rfl
        | inr hrest => exact (hs.past parsed hrest).trans htime
  | expire time =>
      obtain ⟨htime, hnow, hdiscovery, hparsed⟩ := step_expire h
      constructor
      · intro entry hentry
        rw [hdiscovery] at hentry
        rw [hparsed]
        exact hs.known entry (mem_expire.mp hentry).1
      · intro parsed hmem
        rw [hparsed] at hmem
        exact hnow ▸ (hs.past parsed hmem).trans htime

theorem AnnouncesResolved.step (hok : AnnouncesResolved before event)
    (hs : Sighted Carries before) (h : RoomBrowsing.step before event = some after) :
    Sighted Carries after := by
  apply hs.step _ h
  rintro time packet rfl learned hlearn service hmem hresolved
  exact (hok learned hlearn service hmem hresolved).carries

/-- `Expire` keeps a room only if its stamp is not older than two minutes. -/
theorem Sighted.expired (hs : Sighted Carries before)
    (h : RoomBrowsing.step before (.expire time) = some after) : Expired time after := by
  obtain ⟨htime, -, hdiscovery, hparsed⟩ := step_expire h
  intro entry hentry
  rw [hdiscovery] at hentry
  obtain ⟨hold, hrecent⟩ := mem_expire.mp hentry
  obtain ⟨parsed, hmem, service, hservice, hannounced, hcarries⟩ := hs.known entry hold
  rw [announced_seen hannounced] at hrecent
  rw [hparsed]
  exact ⟨parsed, hmem, by omega, (hs.past parsed hmem).trans htime, service, hservice,
    hannounced, hcarries⟩

theorem AnnouncesResolved.refreshed (hok : AnnouncesResolved before (.parse time packet))
    (h : RoomBrowsing.step before (.parse time packet) = some after) :
    Refreshed time before after := by
  obtain ⟨-, -, -, hparsed⟩ := step_parse h
  intro entry hentry hnew
  obtain ⟨hlearn, service, hmem, hannounced⟩ := (mem_step_parse h hentry).resolve_left hnew
  have hresolved : (announced after.discovery.toLearnedRecords time service).isSome = true := by
    rw [hannounced]
    rfl
  obtain ⟨record, hlast, hlive⟩ := hok _ hlearn service hmem hresolved
  refine ⟨service, hmem, hannounced, record, ?_, hlive⟩
  rw [lastAnnounced, hparsed, List.findSome?_cons, hlast]

theorem AnnouncesResolved.letsGo (hok : AnnouncesResolved before event)
    (hs : Sighted Carries before) : LetsGo before event := by
  intro after h
  cases event with
  | parse time packet => exact hok.refreshed h
  | expire time => exact hs.expired h

/-- No two resolved services have the same identifier. -/
def IdsApart (learned : LearnedRecords) (time : Int) : Prop :=
  ∀ service ∈ learned.services, ∀ other ∈ learned.services, ∀ id room room',
    announced learned time service = some (id, room) →
    announced learned time other = some (id, room') → other = service

/-- A service that a packet stamps without announcing it is still known two minutes later. -/
theorem not_letsGo (hs : Sighted stamps before) (htime : before.now < time)
    {learned : LearnedRecords} {service : Text} {entry : Text × KnownRoom}
    (hlearn : learnPacket packet before.discovery.toLearnedRecords = (learned, true))
    (hapart : IdsApart learned time) (hmem : service ∈ learned.services)
    (hentry : announced learned time service = some entry) (hnot : ¬ Announces packet service) :
    ¬ Along LetsGo step before [.parse time packet, .expire (time + twoMinutes)] := by
  intro halong
  let after : RoomBrowsing :=
    { discovery := before.discovery.parse time packet
      now := time
      parsed := ⟨time, packet, (before.discovery.parse time packet).toLearnedRecords⟩ ::
        before.parsed }
  have hparse : step before (.parse time packet) = some after := if_pos htime.le
  have hlearned : after.discovery.toLearnedRecords = learned := by
    change (before.discovery.parse time packet).toLearnedRecords = learned
    rw [parse_of_complete hlearn]
  have honly : ∀ other ∈ learned.services, ∀ room,
      announced learned time other = some (entry.1, room) → other = service := by
    intro other hother room hroom
    exact hapart service hmem other hother entry.1 entry.2 room hentry hroom
  have hknown : entry ∈ after.discovery.known.entries := by
    change entry ∈ (before.discovery.parse time packet).known.entries
    rw [parse_of_complete hlearn]
    exact mem_stamps hentry honly (.inl hmem)
  by_cases hcarries : Carries packet service
  · have hfresh : entry ∉ before.discovery.known.entries := by
      intro hold
      obtain ⟨parsed, hparsed, _, -, hannounced, -⟩ := hs.known entry hold
      have hpast := hs.past parsed hparsed
      rw [← announced_seen hannounced, announced_seen hentry] at hpast
      exact absurd hpast (not_le.mpr htime)
    obtain ⟨other, hother, hannounced, record, hlast, hlive⟩ :=
      halong.1 after hparse entry hknown hfresh
    rw [hlearned] at hother hannounced
    have hservice := honly other hother entry.2 hannounced
    rw [hservice, lastAnnounced, List.findSome?_cons] at hlast
    cases hrecord : lastRecord packet service with
    | some last =>
        rw [hrecord] at hlast
        exact hnot ⟨last, hrecord, Option.some.inj hlast ▸ hlive⟩
    | none =>
        obtain ⟨record, hrecords, hof, -⟩ := hcarries
        have hnone := List.find?_eq_none.mp hrecord record (List.mem_reverse.mpr hrecords)
        exact hnone hof
  · let late : RoomBrowsing :=
      { after with
        discovery := after.discovery.expire (time + twoMinutes)
        now := time + twoMinutes }
    have hlater : time ≤ time + twoMinutes := Int.le_add_of_nonneg_right (by decide)
    have hexpire : step after (.expire (time + twoMinutes)) = some late := if_pos hlater
    have hkept : entry ∈ late.discovery.known.entries := by
      refine mem_expire.mpr ⟨hknown, ?_⟩
      rw [announced_seen hentry]
      omega
    obtain ⟨parsed, hparsed, hrecent, -, other, hother, hannounced, hother_carries⟩ :=
      (halong.2 after hparse).1 late hexpire entry hkept
    cases List.mem_cons.mp hparsed with
    | inr hold =>
        have hpast := hs.past parsed hold
        omega
    | inl hfirst =>
        rw [hfirst] at hother hannounced hother_carries
        change announced after.discovery.toLearnedRecords time other = some entry at hannounced
        change other ∈ after.discovery.services at hother
        rw [hlearned] at hother hannounced
        rw [honly other hother entry.2 hannounced] at hother_carries
        exact hcarries hother_carries

/-- Departed rooms expire in every run whose packets, where they are read to their end,
announce all services resolved by then. Where one does not, a room that its packet does not
announce outlives its time. -/
theorem departed_rooms_expire (now : Int) (events : List Event) (browsing : RoomBrowsing)
    (hrun : run step { now := now } events = some browsing) :
    (Along AnnouncesResolved step { now := now } events →
      Along LetsGo step { now := now } events) ∧
    ∀ time packet, browsing.now < time →
      IdsApart (learnPacket packet browsing.discovery.toLearnedRecords).1 time →
      ¬ AnnouncesResolved browsing (.parse time packet) →
      ¬ Along LetsGo step browsing [.parse time packet, .expire (time + twoMinutes)] := by
  constructor
  · exact along_of_along (fun hs hok h => hok.step hs h) (fun hs hok => hok.letsGo hs)
      (sighted_start now)
  · intro time packet htime hapart hnot
    have hs : Sighted (fun _ _ => True) browsing :=
      run_preserves (fun hs h => hs.step (fun _ _ _ _ _ _ _ _ => trivial) h)
        (sighted_start now) hrun
    rw [AnnouncesResolved] at hnot
    push Not at hnot
    obtain ⟨learned, hlearn, service, hmem, hresolved, hnot⟩ := hnot
    obtain ⟨entry, hentry⟩ := Option.isSome_iff_exists.mp hresolved
    rw [hlearn] at hapart
    exact not_letsGo hs htime hlearn hapart hmem hentry hnot

theorem idsApart_singleton {learned : LearnedRecords} {service : Text}
    (h : learned.services = [service]) (time : Int) : IdsApart learned time := by
  intro one hone other hother _ _ _ _ _
  rw [h, List.mem_singleton] at hone hother
  rw [hone, hother]

theorem announcesResolved_singleton {service : Text}
    (h : (learnPacket packet before.discovery.toLearnedRecords).1.services = [service])
    (hannounces : Announces packet service) : AnnouncesResolved before (.parse time packet) := by
  intro learned hlearn other hother _
  rw [hlearn] at h
  rw [h, List.mem_singleton] at hother
  rw [hother]
  exact hannounces

/-- A label of ASCII characters. -/
def label (text : Text) : List UInt8 :=
  text.length.toUInt8 :: text.map fun character => character.toNat.toUInt8

/-- PTR, SRV and address of the room `A` on the host `h`. -/
def roomPacket (ttl : UInt8) : List UInt8 :=
  [0, 0, 0x84, 0, 0, 0, 0, 1, 0, 0, 0, 2] ++
    label "_tandemaudio".toList ++ label "_tcp".toList ++ label "local".toList ++
    [0, 0, 12, 0x80, 1, 0, 0, 0, ttl, 0, 4, 1, 65, 0xC0, 12] ++
    [0xC0, 47, 0, 33, 0x80, 1, 0, 0, 0, ttl, 0, 10, 0, 0, 0, 0, 0x9C, 0xA6, 1, 104, 0xC0, 30] ++
    [0xC0, 69, 0, 1, 0x80, 1, 0, 0, 0, ttl, 0, 4, 192, 168, 1, 5]

/-- The address of the printer `p`. -/
def printerPacket : List UInt8 :=
  [0, 0, 0x84, 0, 0, 0, 0, 1, 0, 0, 0, 0] ++ label "p".toList ++ label "local".toList ++
    [0, 0, 1, 0x80, 1, 0, 0, 0, 120, 0, 4, 192, 168, 1, 9]

def roomService : Text := 'A' :: '.' :: serviceType

/-- The browser behind the first announcement of the room. -/
def roomKnown : RoomBrowsing :=
  let discovery := ({} : RoomDiscovery).parse 0 (roomPacket 120)
  { discovery := discovery
    now := 0
    parsed := [⟨0, roomPacket 120, discovery.toLearnedRecords⟩] }

/-- The entry of the room. -/
def roomEntry (seen : Int) : Text × KnownRoom :=
  (roomService,
    { name := ['A']
      address := "192.168.1.5".toList
      port := 40102
      seen := seen })

theorem roomPacket_announces : Announces (roomPacket 120) roomService :=
  ⟨_, rfl, by decide⟩

theorem printerPacket_silent : ¬ Announces printerPacket roomService := by
  rintro ⟨record, hlast, -⟩
  have hnone : lastRecord printerPacket roomService = none := rfl
  rw [hnone] at hlast
  cases hlast

theorem departed_rooms_expire_roomKnown :
    Along LetsGo step { now := 0 } [.parse 0 (roomPacket 120), .expire 600000000] ∧
      ¬ Along LetsGo step roomKnown
        [.parse 6000000000 printerPacket, .expire (6000000000 + twoMinutes)] := by
  constructor
  · refine (departed_rooms_expire 0 _ _ rfl).1 ⟨?_, ?_⟩
    · exact announcesResolved_singleton rfl roomPacket_announces
    · intro after _
      exact ⟨trivial, fun _ _ => trivial⟩
  · apply (departed_rooms_expire 0 [.parse 0 (roomPacket 120)] roomKnown rfl).2
    · decide
    · exact idsApart_singleton rfl _
    · intro hok
      exact printerPacket_silent (hok _ rfl roomService List.mem_cons_self rfl)

/-- A printer keeps a room that left without a word, and a goodbye refreshes its own room. -/
theorem departed_room_stays :
    ¬ Along LetsGo step { now := 0 }
        [.parse 0 (roomPacket 120), .parse 6000000000 printerPacket,
          .expire (6000000000 + twoMinutes)] ∧
      ¬ Along LetsGo step { now := 0 }
        [.parse 0 (roomPacket 120), .parse 600000000 (roomPacket 0)] := by
  have hknown : step { now := 0 } (.parse 0 (roomPacket 120)) = some roomKnown := rfl
  constructor
  · intro halong
    have hs : Sighted (fun _ _ => True) roomKnown :=
      (sighted_start 0).step (fun _ _ _ _ _ _ _ _ => trivial) hknown
    exact not_letsGo hs (by decide) rfl (idsApart_singleton rfl _) List.mem_cons_self rfl
      printerPacket_silent (halong.2 roomKnown hknown)
  · intro halong
    have hfresh : roomEntry 600000000 ∉ roomKnown.discovery.known.entries := by
      have hentries : roomKnown.discovery.known.entries = [roomEntry 0] := rfl
      rw [hentries, List.mem_singleton]
      intro heq
      exact absurd (congrArg (fun entry => entry.2.seen) heq) (by decide)
    obtain ⟨service, hmem, -, record, hlast, hlive⟩ :=
      (halong.2 roomKnown hknown).1 _ rfl (roomEntry 600000000) List.mem_cons_self hfresh
    rw [List.mem_singleton.mp hmem] at hlast
    exact hlive (congrArg DnsRecord.ttl (Option.some.inj hlast)).symm

end RoomBrowsing

end SyncAudio
