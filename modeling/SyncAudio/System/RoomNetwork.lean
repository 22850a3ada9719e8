import SyncAudio.System.RoomAnnouncement

/-!
# Browsers on a network of hosts

Hosts announce their rooms, answer the browser's question and say goodbye, in any order and as
often as they like, and datagrams get lost. What the browser lists is a refinement of a small
machine: it remembers which rooms it has heard of, and it lists all of them or none.

## Implementation notes

The machine says what the tables of the browser come to on such a network, not how a browser
should behave: a goodbye counts as a sign of life of every room.
-/

namespace SyncAudio

/-- A room under an admissible name, and the service of its host. -/
structure AnnouncedRoom where
  roomName : Text
  service : DiscoveryService
  created : ∃ gethostname getaddrinfo controlPort,
    DiscoveryService.create gethostname getaddrinfo controlPort roomName service.roomId =
      .ok service
  admissible : DiscoveryService.Admissible roomName service.hostname
  id_length : service.roomId.length ≤ 250
  id_ascii : ∀ c ∈ service.roomId, c.toNat < 128

namespace AnnouncedRoom

open DiscoveryService RoomAnnouncement

/-- The labels of the room's name. -/
def labels (room : AnnouncedRoom) : List (List UInt8) :=
  Mdns.parts (dnsName (instanceName room.roomName room.service.hostname))

def name (room : AnnouncedRoom) : Text := roomService room.roomName room.service.hostname

def entry (room : AnnouncedRoom) (seen : Int) : Text × KnownRoom :=
  roomEntry room.service room.roomName room.service.roomId seen

theorem hostCharacter (room : AnnouncedRoom) : ∀ c ∈ room.service.hostname, HostCharacter c := by
  obtain ⟨_, _, _, hcreate⟩ := room.created
  obtain ⟨⟨name, hhost⟩, -⟩ := of_create hcreate
  exact hhost ▸ localHostname_character name

theorem named (room : AnnouncedRoom) : Named room.service room.labels := by
  obtain ⟨_, _, _, hcreate⟩ := room.created
  exact room.admissible.named hcreate room.id_length

theorem serviceText_labels (room : AnnouncedRoom) : serviceText room.labels = room.name :=
  serviceText_eq room.admissible room.hostCharacter

theorem idText_roomId (room : AnnouncedRoom) : idText room.service = room.service.roomId :=
  getString_dnsName room.id_ascii

end AnnouncedRoom

/-- What a browser has heard: the rooms, and when the last message came, as long as its rooms
are listed. -/
structure HeardRooms (ι : Type*) where
  heard : List ι := []
  seen : Option Int := none
  now : Int

namespace RoomNetwork

open LabelledRun DiscoveryService RoomAnnouncement RoomDiscovery

variable {ι : Type*}

/-- The messages of a host. -/
inductive Message where
  | announcement
  | answer
  | goodbye
  deriving DecidableEq

inductive Event (ι : Type*) where
  | message (time : Int) (message : Message) (room : ι)
  | expire (time : Int)

def datagram (service : DiscoveryService) : Message → Option (List UInt8)
  | .announcement => service.announce false
  | .answer => service.answer
  | .goodbye => service.announce true

/-- A message of a host reaches the browser, or the browser lets old rooms go. -/
def step (rooms : ι → AnnouncedRoom) : Step RoomBrowsing (Event ι)
  | browsing, .message time message i =>
      (datagram (rooms i).service message).bind fun packet =>
        RoomBrowsing.step browsing (.parse time packet)
  | browsing, .expire time => RoomBrowsing.step browsing (.expire time)

/-- The small machine: a message shows every room heard so far, and two minutes without one
hide them all. -/
def heardStep : Step (HeardRooms ι) (Event ι)
  | listing, .message time message i =>
      if listing.now ≤ time then
        some
          { heard := if message = .goodbye then listing.heard else i :: listing.heard
            seen := some time
            now := time }
      else none
  | listing, .expire time =>
      if listing.now ≤ time then
        some
          { listing with
            seen := listing.seen.filter fun seen => decide (time - seen ≤ twoMinutes)
            now := time }
      else none

/-- The rooms of a network can be told apart, and a host has one address. -/
structure Apart (rooms : ι → AnnouncedRoom) : Prop where
  id : ∀ i j, (rooms i).service.roomId = (rooms j).service.roomId → i = j
  name : ∀ i j, (rooms i).name = (rooms j).name → i = j
  address : ∀ i j, (rooms i).service.hostname = (rooms j).service.hostname →
    (rooms i).service.address = (rooms j).service.address

/-- The tables of the browser are those of the rooms it has heard of. -/
structure Learned (rooms : ι → AnnouncedRoom) (heard : List ι) (learned : LearnedRecords) :
    Prop where
  services : ∀ service, service ∈ learned.services ↔ ∃ i ∈ heard, service = (rooms i).name
  targets : ∀ i ∈ heard, learned.targets.lookup (rooms i).name =
    some (hostText (rooms i).service, (rooms i).service.port)
  addresses : ∀ i ∈ heard, learned.addresses.lookup (hostText (rooms i).service) =
    some (ipText (rooms i).service)
  identifiers : ∀ i ∈ heard, learned.identifiers.lookup (rooms i).name =
    some (rooms i).service.roomId

/-- The browser lists what the small machine lists. -/
structure Lists (rooms : ι → AnnouncedRoom) (browsing : RoomBrowsing)
    (listing : HeardRooms ι) : Prop where
  now : browsing.now = listing.now
  learned : Learned rooms listing.heard browsing.discovery.toLearnedRecords
  known : ∀ entry, entry ∈ browsing.discovery.known.entries ↔
    ∃ seen ∈ listing.seen, ∃ i ∈ listing.heard, entry = (rooms i).entry seen

variable {rooms : ι → AnnouncedRoom} {heard : List ι} {learned : LearnedRecords}
  {browsing after : RoomBrowsing} {listing : HeardRooms ι}

/-- A host with one name has one spelling. -/
theorem hostname_of_hostText {i j : ι}
    (h : hostText (rooms i).service = hostText (rooms j).service) :
    (rooms i).service.hostname = (rooms j).service.hostname := by
  rw [hostText_eq (rooms i).hostCharacter, hostText_eq (rooms j).hostCharacter] at h
  exact List.append_cancel_right h

/-- What an announcement writes. -/
theorem Learned.taught (h : Learned rooms heard learned) (hapart : Apart rooms) (i : ι) :
    Learned rooms (i :: heard)
      (RoomAnnouncement.taught (rooms i).service (rooms i).labels learned) := by
  have hname := (rooms i).serviceText_labels
  have hid := (rooms i).idText_roomId
  constructor
  · intro service
    rw [RoomAnnouncement.taught, hname]
    simp only [List.mem_cons, exists_eq_or_imp]
    split_ifs with hmem
    · constructor
      · exact fun hservice => .inr ((h.services service).mp hservice)
      · rintro (rfl | hservice)
        · exact hmem
        · exact (h.services service).mpr hservice
    · rw [List.mem_append, List.mem_singleton, h.services]
      exact or_comm
  · intro j hj
    simp only [RoomAnnouncement.taught, hname, OrderedMap.lookup_assign]
    split_ifs with hsame
    · rw [hapart.name i j hsame]
    · exact h.targets j ((List.mem_cons.mp hj).resolve_left fun heq => hsame (heq ▸ rfl))
  · intro j hj
    simp only [RoomAnnouncement.taught, OrderedMap.lookup_assign]
    split_ifs with hsame
    · rw [ipText, ipText, hapart.address i j (hostname_of_hostText hsame)]
    · exact h.addresses j ((List.mem_cons.mp hj).resolve_left fun heq => hsame (heq ▸ rfl))
  · intro j hj
    simp only [RoomAnnouncement.taught, hname, hid, OrderedMap.lookup_assign]
    split_ifs with hsame
    · rw [hapart.name i j hsame]
    · exact h.identifiers j ((List.mem_cons.mp hj).resolve_left fun heq => hsame (heq ▸ rfl))

/-- A room that was heard of is resolved. -/
theorem Learned.announced (h : Learned rooms heard learned) {i : ι} (hi : i ∈ heard) (now : Int) :
    RoomDiscovery.announced learned now (rooms i).name = some ((rooms i).entry now) := by
  rw [RoomDiscovery.announced, h.targets i hi]
  simp only [Option.bind_eq_bind, Option.bind_some, h.addresses i hi, h.identifiers i hi,
    Option.getD_some]
  rw [AnnouncedRoom.name, roomService, displayName_eq]
  rfl

/-- A message stamps all rooms that were heard of. -/
theorem Learned.mem_stamps (h : Learned rooms heard learned) (hapart : Apart rooms) {now : Int}
    {known : OrderedMap Text KnownRoom}
    (hknown : ∀ entry ∈ known.entries, ∃ i ∈ heard, ∃ seen, entry = (rooms i).entry seen)
    (entry : Text × KnownRoom) :
    entry ∈ (learned.services.foldl (stamp learned now) known).entries ↔
      ∃ i ∈ heard, entry = (rooms i).entry now := by
  have hstamped : ∀ i ∈ heard,
      (rooms i).entry now ∈ (learned.services.foldl (stamp learned now) known).entries := by
    intro i hi
    apply RoomDiscovery.mem_stamps (h.announced hi now) _
      (.inl ((h.services _).mpr ⟨i, hi, rfl⟩))
    intro other hother room hroom
    obtain ⟨j, hj, rfl⟩ := (h.services other).mp hother
    rw [h.announced hj now] at hroom
    have hkey : (rooms j).service.roomId = (rooms i).service.roomId :=
      congrArg Prod.fst (Option.some.inj hroom)
    rw [hapart.id j i hkey]
  constructor
  · intro hentry
    cases mem_of_mem_stamps hentry with
    | inl hold =>
        obtain ⟨i, hi, seen, rfl⟩ := hknown entry hold
        exact ⟨i, hi, OrderedMap.eq_of_key_eq hentry (hstamped i hi) rfl⟩
    | inr hnew =>
        obtain ⟨service, hservice, hannounced⟩ := hnew
        obtain ⟨i, hi, rfl⟩ := (h.services service).mp hservice
        rw [h.announced hi now] at hannounced
        exact ⟨i, hi, (Option.some.inj hannounced).symm⟩
  · rintro ⟨i, hi, rfl⟩
    exact hstamped i hi

/-- Every message is read to its end. -/
theorem datagram_read (hapart : Apart rooms) (h : Learned rooms heard learned)
    (message : Message) (i : ι) : ∃ packet next,
      datagram (rooms i).service message = some packet ∧
        learnPacket packet learned = (next, true) ∧
        Learned rooms (if message = .goodbye then heard else i :: heard) next := by
  have hnamed := (rooms i).named
  have hlive : (60 : UInt32) ≠ 0 := by decide
  have hread (rclass : UInt16) (ttl : UInt32) :=
    (laid (rooms i).service (rooms i).labels rclass ttl).learnPacket hnamed learned
  cases message with
  | announcement =>
      have hlearn := hread (Mdns.classIn ||| Mdns.cacheFlush) 60
      rw [if_neg hlive] at hlearn
      exact ⟨_, _, hnamed.announce, hlearn, h.taught hapart i⟩
  | answer =>
      have hlearn := hread Mdns.classIn 60
      rw [if_neg hlive] at hlearn
      exact ⟨_, _, hnamed.answer, hlearn, h.taught hapart i⟩
  | goodbye =>
      have hlearn := hread Mdns.classIn 0
      rw [if_pos rfl] at hlearn
      exact ⟨_, _, hnamed.goodbye, hlearn, h⟩

/-- A message of a host. -/
theorem Lists.message (h : Lists rooms browsing listing) (hapart : Apart rooms) (time : Int)
    (message : Message) (i : ι) :
    Option.Rel (Lists rooms) (step rooms browsing (.message time message i))
      (heardStep listing (.message time message i)) := by
  obtain ⟨packet, learned, hdatagram, hlearn, hlearned⟩ :=
    datagram_read hapart h.learned message i
  rw [step, hdatagram, Option.bind_some, RoomBrowsing.step, heardStep, h.now]
  by_cases htime : listing.now ≤ time
  · rw [if_pos htime, if_pos htime, parse_of_complete hlearn]
    apply Option.Rel.some
    constructor
    · rfl
    · exact hlearned
    · intro entry
      refine (hlearned.mem_stamps hapart ?_ entry).trans ?_
      · intro entry hentry
        obtain ⟨seen, -, j, hj, hentry⟩ := (h.known entry).mp hentry
        refine ⟨j, ?_, seen, hentry⟩
        split_ifs
        · exact hj
        · exact List.mem_cons_of_mem i hj
      · simp
  · rw [if_neg htime, if_neg htime]
    exact .none

/-- Old rooms go all at once. -/
theorem Lists.expire (h : Lists rooms browsing listing) (time : Int) :
    Option.Rel (Lists rooms) (step rooms browsing (.expire time))
      (heardStep listing (.expire time)) := by
  rw [step, RoomBrowsing.step, heardStep, h.now]
  split_ifs with htime
  · apply Option.Rel.some
    constructor
    · rfl
    · exact h.learned
    · intro entry
      refine mem_expire.trans ?_
      rw [h.known]
      simp only [Option.mem_filter_iff, decide_eq_true_eq]
      constructor
      · rintro ⟨⟨seen, hseen, i, hi, rfl⟩, hrecent⟩
        exact ⟨seen, ⟨hseen, hrecent⟩, i, hi, rfl⟩
      · rintro ⟨seen, ⟨hseen, hrecent⟩, i, hi, rfl⟩
        exact ⟨⟨seen, hseen, i, hi, rfl⟩, hrecent⟩
  · exact .none

theorem Lists.step (hapart : Apart rooms) (event : Event ι) (h : Lists rooms browsing listing) :
    Option.Rel (Lists rooms) (RoomNetwork.step rooms browsing event) (heardStep listing event) := by
  cases event with
  | message time message i => exact h.message hapart time message i
  | expire time => exact h.expire time

end RoomNetwork

end SyncAudio
