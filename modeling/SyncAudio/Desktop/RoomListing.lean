import SyncAudio.Desktop.RecordUpdates

/-!
# The listing of a room

The known rooms are keyed by the identifier that a TXT record has given to a service, or by
the name of the service as long as there was none. A service whose TXT record comes behind the
packet that has listed it, or whose identifier changes, is listed again under the new key,
next to the old one.

## Implementation notes

The service that was written last under each identifier is recorded for the statements. The
loop over the services is a list of keyed writes, like the records of a packet are.
-/

namespace SyncAudio

structure DiscoveredRoom where
  id : Text
  displayName : Text
  address : Text
  port : UInt16
  deriving DecidableEq

/-- What the loop over the services writes for one of them. -/
@[ext] structure Stamp where
  id : Text
  service : Text
  room : KnownRoom
  deriving DecidableEq

/-- The browser, and the service whose room was written last under each identifier. -/
structure RoomListing where
  discovery : RoomDiscovery := {}
  writers : OrderedMap Text Text := .empty

namespace RoomListing

open LabelledRun RoomDiscovery RoomBrowsing

/-- The stamps of the loop over the services. -/
def stamps (learned : LearnedRecords) (now : Int) : List Stamp :=
  learned.services.filterMap fun service =>
    (announced learned now service).map fun entry => ⟨entry.1, service, entry.2⟩

/-- The entry under an identifier. -/
def value (listing : RoomListing) (id : Text) : Option Stamp := do
  let service ← listing.writers.lookup id
  let room ← listing.discovery.known.lookup id
  some ⟨id, service, room⟩

def write (listing : RoomListing) (stamp : Stamp) : RoomListing :=
  { discovery := { listing.discovery with
      known := listing.discovery.known.assign stamp.id stamp.room }
    writers := listing.writers.assign stamp.id stamp.service }

def withLearned (listing : RoomListing) (learned : LearnedRecords) : RoomListing :=
  { listing with discovery := { listing.discovery with toLearnedRecords := learned } }

/-- `Parse`. -/
def parse (listing : RoomListing) (now : Int) (packet : List UInt8) : RoomListing :=
  match learnPacket packet listing.discovery.toLearnedRecords with
  | (learned, false) => listing.withLearned learned
  | (learned, true) => (stamps learned now).foldl write (listing.withLearned learned)

def step : Step RoomListing Event
  | listing, .parse time packet => some (listing.parse time packet)
  | listing, .expire time => some { listing with discovery := listing.discovery.expire time }

/-- No two known rooms were written for the same service. -/
def OnePerService (listing : RoomListing) : Prop :=
  ∀ entry ∈ listing.discovery.known.entries, ∀ other ∈ listing.discovery.known.entries,
    listing.writers.lookup entry.1 = listing.writers.lookup other.1 → entry = other

/-- Where a packet stamps a service that is listed, it stamps the identifiers it is listed
under. -/
def KeepsIdentifiers (listing : RoomListing) : Event → Prop
  | .parse time packet =>
      ∀ learned, learnPacket packet listing.discovery.toLearnedRecords = (learned, true) →
        ∀ id listed, listing.value id = some listed →
          ∀ new, lastWrite Stamp.id (stamps learned time) new.id = some new →
            new.service = listed.service → ∃ other ∈ stamps learned time, other.id = id
  | .expire _ => True

def discovered (entry : Text × KnownRoom) : DiscoveredRoom where
  id := entry.1
  displayName := entry.2.name
  address := entry.2.address
  port := entry.2.port

/-- The rooms that `Publish` hands out, not sorted. -/
def published (listing : RoomListing) : List DiscoveredRoom :=
  listing.discovery.known.entries.map discovered

/-- The entries that the records of the packets have written. -/
def Event.written : Event → List RecordUpdate
  | .parse _ packet => (packetUpdates packet).1
  | .expire _ => []

def written (events : List Event) : List RecordUpdate := events.flatMap Event.written

/-- The last packet is read to its end. -/
def EndsComplete (events : List Event) : Prop :=
  ∃ before time packet, events = before ++ [.parse time packet] ∧ ¬ Abandons packet

variable {listing next : RoomListing} {learned : LearnedRecords} {packet : List UInt8}
  {time : Int} {event : Event} {id service : Text}

section Writes

theorem value_eq_some_iff {listed : Stamp} : listing.value id = some listed ↔
    listed.id = id ∧ listing.writers.lookup id = some listed.service ∧
      (id, listed.room) ∈ listing.discovery.known.entries := by
  simp only [value, Option.bind_eq_bind, Option.bind_eq_some_iff, Option.some.injEq,
    OrderedMap.lookup_eq_some_iff]
  constructor
  · rintro ⟨service, hservice, room, hroom, rfl⟩
    exact ⟨rfl, hservice, hroom⟩
  · rintro ⟨rfl, hservice, hroom⟩
    exact ⟨_, hservice, _, hroom, rfl⟩

theorem keyedWrites : KeyedWrites Stamp.id value write where
  value_apply listing stamp id := by
    by_cases hid : stamp.id = id
    · simp [value, write, OrderedMap.lookup_assign, hid]
      subst hid
      rfl
    · simp [value, write, OrderedMap.lookup_assign, hid]

/-- A stamp is what the loop over the services writes for a service. -/
theorem mem_stamps_iff {new : Stamp} : new ∈ stamps learned time ↔
    new.service ∈ learned.services ∧
      announced learned time new.service = some (new.id, new.room) := by
  simp only [stamps, List.mem_filterMap, Option.map_eq_some_iff]
  constructor
  · rintro ⟨service, hmem, entry, hentry, rfl⟩
    exact ⟨hmem, hentry⟩
  · rintro ⟨hmem, hannounced⟩
    exact ⟨new.service, hmem, _, hannounced, rfl⟩

/-- A service is stamped under one identifier. -/
theorem stamp_eq_of_service {new other : Stamp} (hnew : new ∈ stamps learned time)
    (hother : other ∈ stamps learned time) (hservice : new.service = other.service) :
    new.id = other.id := by
  have hannounced := (mem_stamps_iff.mp hnew).2
  rw [hservice, (mem_stamps_iff.mp hother).2] at hannounced
  exact (Prod.mk.inj (Option.some.inj hannounced)).1.symm

theorem foldl_write_discovery (services : List Text) (listing : RoomListing) :
    ((services.filterMap fun service => (announced learned time service).map fun entry =>
        (⟨entry.1, service, entry.2⟩ : Stamp)).foldl write listing).discovery =
      { listing.discovery with
        known := services.foldl (stamp learned time) listing.discovery.known } := by
  induction services generalizing listing with
  | nil => rfl
  | cons service services ih =>
      rw [List.filterMap_cons, List.foldl_cons, stamp]
      cases announced learned time service with
      | none => exact ih listing
      | some entry => exact ih _

/-- The browser of a listing does what `RoomDiscovery` does. -/
theorem parse_discovery (listing : RoomListing) (now : Int) (packet : List UInt8) :
    (listing.parse now packet).discovery = listing.discovery.parse now packet := by
  rw [parse, RoomDiscovery.parse]
  cases hlearn : learnPacket packet listing.discovery.toLearnedRecords with
  | mk learned complete =>
      cases complete with
      | false => rfl
      | true => exact foldl_write_discovery learned.services _

theorem parse_of_learned (hlearn : learnPacket packet listing.discovery.toLearnedRecords =
    (learned, true)) (k : Text) : (listing.parse time packet).value k =
      (lastWrite Stamp.id (stamps learned time) k).or (listing.value k) := by
  rw [parse, hlearn]
  exact keyedWrites.value_foldl _ _ k

theorem parse_of_abandons (h : Abandons packet) (k : Text) :
    (listing.parse time packet).value k = listing.value k := by
  rw [parse, learnPacket_eq, h]
  rfl

/-- Every packet leaves behind what its records have written. -/
theorem parse_learned (listing : RoomListing) (time : Int) (packet : List UInt8) :
    (listing.parse time packet).discovery.toLearnedRecords =
      (packetUpdates packet).1.foldl RecordUpdate.apply listing.discovery.toLearnedRecords := by
  rw [parse_discovery, RoomDiscovery.parse, learnPacket_eq]
  cases (packetUpdates packet).2 with
  | false => rfl
  | true => rfl

end Writes

section Uniqueness

/-- Every known room has a writer. -/
def Credited (listing : RoomListing) : Prop :=
  ∀ entry ∈ listing.discovery.known.entries,
    ∃ service, listing.value entry.1 = some ⟨entry.1, service, entry.2⟩

theorem Credited.onePerService_iff (h : listing.Credited) : listing.OnePerService ↔
    ∀ id listed, listing.value id = some listed → ∀ id' other, listing.value id' = some other →
      listed.service = other.service → id = id' := by
  constructor
  · intro hone id listed hlisted id' other hother hservice
    obtain ⟨-, hwriter, hmem⟩ := value_eq_some_iff.mp hlisted
    obtain ⟨-, hwriter', hmem'⟩ := value_eq_some_iff.mp hother
    have hsame := hone _ hmem _ hmem' (by rw [hwriter, hwriter', hservice])
    exact congrArg Prod.fst hsame
  · intro hone entry hentry other hother hwriters
    obtain ⟨service, hlisted⟩ := h entry hentry
    obtain ⟨service', hlisted'⟩ := h other hother
    rw [(value_eq_some_iff.mp hlisted).2.1, (value_eq_some_iff.mp hlisted').2.1] at hwriters
    have hid := hone _ _ hlisted _ _ hlisted' (Option.some.inj hwriters)
    exact OrderedMap.eq_of_key_eq hentry hother hid

theorem Credited.write (h : listing.Credited) (stamp : Stamp) : (listing.write stamp).Credited := by
  intro entry hentry
  rw [keyedWrites.value_apply]
  obtain rfl | ⟨hold, hid⟩ := OrderedMap.mem_assign_iff.mp hentry
  · exact ⟨stamp.service, if_pos rfl⟩
  · obtain ⟨service, hlisted⟩ := h entry hold
    exact ⟨service, (if_neg (Ne.symm hid)).trans hlisted⟩

theorem Credited.foldl_write (h : listing.Credited) (updates : List Stamp) :
    (updates.foldl RoomListing.write listing).Credited := by
  induction updates generalizing listing with
  | nil => exact h
  | cons update updates ih => exact ih (h.write update)

theorem Credited.step (h : listing.Credited) (hstep : RoomListing.step listing event = some next) :
    next.Credited := by
  cases event with
  | parse time packet =>
      cases hstep
      rw [parse]
      cases learnPacket packet listing.discovery.toLearnedRecords with
      | mk learned complete =>
          cases complete with
          | false => exact h
          | true =>
              have hbefore : (listing.withLearned learned).Credited := h
              exact hbefore.foldl_write _
  | expire time =>
      cases hstep
      intro entry hentry
      obtain ⟨service, hlisted⟩ := h entry (List.mem_filter.mp hentry).1
      obtain ⟨-, hwriter, -⟩ := value_eq_some_iff.mp hlisted
      exact ⟨service, value_eq_some_iff.mpr ⟨rfl, hwriter, hentry⟩⟩

theorem value_expire {listed : Stamp}
    (h : ({ listing with discovery := listing.discovery.expire time } : RoomListing).value id =
      some listed) : listing.value id = some listed := by
  obtain ⟨hid, hwriter, hmem⟩ := value_eq_some_iff.mp h
  exact value_eq_some_iff.mpr ⟨hid, hwriter, (List.mem_filter.mp hmem).1⟩

/-- A packet that is read to its end keeps one room per service exactly under the condition. -/
theorem OnePerService.parse_iff (hone : listing.OnePerService) (hcredited : listing.Credited)
    (hlearn : learnPacket packet listing.discovery.toLearnedRecords = (learned, true)) :
    (listing.parse time packet).OnePerService ↔ listing.KeepsIdentifiers (.parse time packet) := by
  have hstep : step listing (.parse time packet) = some (listing.parse time packet) := rfl
  have hnext := hcredited.step hstep
  rw [hnext.onePerService_iff]
  rw [hcredited.onePerService_iff] at hone
  simp only [parse_of_learned hlearn]
  constructor
  · intro hafter same hsame id listed hlisted new hnew hservice
    cases hlearn.symm.trans hsame
    by_contra hnone
    have hfree : lastWrite Stamp.id (stamps learned time) id = none := by
      cases hlast : lastWrite Stamp.id (stamps learned time) id with
      | none => rfl
      | some other =>
          obtain ⟨hmem, hid⟩ := lastWrite_mem hlast
          exact absurd ⟨other, hmem, hid⟩ hnone
    have hid := hafter new.id new (by rw [hnew, Option.some_or]) id listed
      (by rw [hfree, Option.none_or, hlisted]) hservice
    exact hnone ⟨new, (lastWrite_mem hnew).1, hid⟩
  · intro hkeeps
    have hmixed : ∀ id new id' listed, lastWrite Stamp.id (stamps learned time) id = some new →
        lastWrite Stamp.id (stamps learned time) id' = none → listing.value id' = some listed →
        new.service ≠ listed.service := by
      intro id new id' listed hnew hfree hlisted hservice
      obtain ⟨-, hid⟩ := lastWrite_mem hnew
      obtain ⟨other, hmem, rfl⟩ :=
        hkeeps learned hlearn id' listed hlisted new (hid.symm ▸ hnew) hservice
      obtain ⟨last, hlast⟩ := exists_lastWrite Stamp.id hmem
      rw [hlast] at hfree
      cases hfree
    intro id listed hlisted id' other hother hservice
    cases hnew : lastWrite Stamp.id (stamps learned time) id with
    | some new =>
        rw [hnew, Option.some_or] at hlisted
        cases hlisted
        cases hnew' : lastWrite Stamp.id (stamps learned time) id' with
        | some new' =>
            rw [hnew', Option.some_or] at hother
            cases hother
            obtain ⟨hmem, rfl⟩ := lastWrite_mem hnew
            obtain ⟨hmem', rfl⟩ := lastWrite_mem hnew'
            exact stamp_eq_of_service hmem hmem' hservice
        | none =>
            rw [hnew', Option.none_or] at hother
            exact absurd hservice (hmixed id _ id' other hnew hnew' hother)
    | none =>
        rw [hnew, Option.none_or] at hlisted
        cases hnew' : lastWrite Stamp.id (stamps learned time) id' with
        | some new' =>
            rw [hnew', Option.some_or] at hother
            cases hother
            exact absurd hservice.symm (hmixed id' _ id listed hnew' hnew hlisted)
        | none =>
            rw [hnew', Option.none_or] at hother
            exact hone id listed hlisted id' other hother hservice

theorem OnePerService.step (hone : listing.OnePerService) (hcredited : listing.Credited)
    (hok : listing.KeepsIdentifiers event) (hstep : RoomListing.step listing event = some next) :
    next.OnePerService := by
  cases event with
  | parse time packet =>
      cases hstep
      cases hlearn : learnPacket packet listing.discovery.toLearnedRecords with
      | mk learned complete =>
          cases complete with
          | false =>
              rw [RoomListing.parse, hlearn]
              exact hone
          | true => exact (hone.parse_iff hcredited hlearn).mpr hok
  | expire time =>
      cases hstep
      intro entry hentry other hother
      exact hone entry (List.mem_filter.mp hentry).1 other (List.mem_filter.mp hother).1

end Uniqueness

section Order

/-- The records of the service name a host, and those of the host an address. -/
def Resolves (learned : LearnedRecords) (service : Text) : Prop :=
  ∃ host port address,
    learned.value (.service service) = some (.service service) ∧
      learned.value (.target service) = some (.target service host port) ∧
      learned.value (.address host) = some (.address host address)

theorem announced_eq_some_iff {entry : Text × KnownRoom} :
    announced learned time service = some entry ↔
      ∃ host port address,
        learned.value (.target service) = some (.target service host port) ∧
        learned.value (.address host) = some (.address host address) ∧
        entry = ((learned.identifiers.lookup service).getD service,
          ⟨displayName service, address, port, time⟩) := by
  simp only [announced, LearnedRecords.value, Option.bind_eq_bind, Option.bind_eq_some_iff,
    Option.map_eq_some_iff, Option.some.injEq]
  constructor
  · rintro ⟨⟨host, port⟩, htarget, address, haddress, rfl⟩
    exact ⟨host, port, address, ⟨_, htarget, rfl⟩, ⟨_, haddress, rfl⟩, rfl⟩
  · rintro ⟨host, port, address, ⟨target, htarget, hsame⟩, ⟨text, haddress, hsame'⟩, rfl⟩
    obtain ⟨-, rfl, rfl⟩ := RecordUpdate.target.inj hsame
    obtain ⟨-, rfl⟩ := RecordUpdate.address.inj hsame'
    exact ⟨target, htarget, text, haddress, rfl⟩

theorem exists_stamp (h : Resolves learned service) (time : Int) :
    ∃ new ∈ stamps learned time, new.service = service := by
  obtain ⟨host, port, address, hservice, htarget, haddress⟩ := h
  have hannounced : announced learned time service = some _ :=
    announced_eq_some_iff.mpr ⟨host, port, address, htarget, haddress, rfl⟩
  exact ⟨⟨_, service, _⟩, mem_stamps_iff.mpr ⟨mem_services_iff.mpr hservice, hannounced⟩, rfl⟩

theorem resolves_of_stamp {new : Stamp} (h : new ∈ stamps learned time) :
    Resolves learned new.service := by
  obtain ⟨hmem, hannounced⟩ := mem_stamps_iff.mp h
  obtain ⟨host, port, address, htarget, haddress, -⟩ := announced_eq_some_iff.mp hannounced
  exact ⟨host, port, address, mem_services_iff.mp hmem, htarget, haddress⟩

/-- Nothing but the given entries has been written, and the listed services still resolve. -/
structure Settled (all : List RecordUpdate) (listing : RoomListing) : Prop where
  learned : ∀ update : RecordUpdate,
    listing.discovery.toLearnedRecords.value update.key = some update → update ∈ all
  resolved : ∀ id listed, listing.value id = some listed →
    Resolves listing.discovery.toLearnedRecords listed.service

variable {all : List RecordUpdate}

/-- Behind consistent records a service resolves as before. -/
theorem Settled.resolves (h : listing.Settled all) (hconsistent : Consistent RecordUpdate.key all)
    {updates : List RecordUpdate} (hupdates : ∀ update ∈ updates, update ∈ all)
    (hresolves : Resolves listing.discovery.toLearnedRecords service) :
    Resolves (updates.foldl RecordUpdate.apply listing.discovery.toLearnedRecords) service := by
  have hkeeps : ∀ update : RecordUpdate,
      listing.discovery.toLearnedRecords.value update.key = some update →
      (updates.foldl RecordUpdate.apply listing.discovery.toLearnedRecords).value update.key =
        some update :=
    fun update hvalue => SyncAudio.keyedWrites.foldl_keeps hconsistent hupdates
      (h.learned update hvalue) hvalue
  obtain ⟨host, port, address, hservice, htarget, haddress⟩ := hresolves
  exact ⟨host, port, address, hkeeps (.service service) hservice,
    hkeeps (.target service host port) htarget, hkeeps (.address host address) haddress⟩

theorem Settled.step (h : listing.Settled all) (hconsistent : Consistent RecordUpdate.key all)
    (hwritten : ∀ update ∈ Event.written event, update ∈ all)
    (hstep : RoomListing.step listing event = some next) : next.Settled all := by
  cases event with
  | expire time =>
      cases hstep
      exact ⟨h.learned, fun id listed hlisted => h.resolved id listed (value_expire hlisted)⟩
  | parse time packet =>
      cases hstep
      have hold : ∀ id listed, listing.value id = some listed →
          Resolves (listing.parse time packet).discovery.toLearnedRecords listed.service := by
        intro id listed hlisted
        rw [parse_learned]
        exact h.resolves hconsistent hwritten (h.resolved id listed hlisted)
      constructor
      · intro update hvalue
        rw [parse_learned] at hvalue
        cases SyncAudio.keyedWrites.of_foldl hvalue with
        | inl hnew => exact hwritten update (lastWrite_mem hnew).1
        | inr hkept => exact h.learned update hkept.2
      · intro id listed hlisted
        cases hcomplete : (packetUpdates packet).2 with
        | false =>
            rw [parse_of_abandons hcomplete] at hlisted
            exact hold id listed hlisted
        | true =>
            have hlearn := learnPacket_eq packet listing.discovery.toLearnedRecords
            rw [hcomplete, ← parse_learned listing time] at hlearn
            rw [parse_of_learned hlearn] at hlisted
            cases hnew : lastWrite Stamp.id (stamps _ time) id with
            | some new =>
                rw [hnew, Option.some_or] at hlisted
                cases hlisted
                exact resolves_of_stamp (lastWrite_mem hnew).1
            | none =>
                rw [hnew, Option.none_or] at hlisted
                exact hold id listed hlisted

/-- Two resolved services have different identifiers. -/
theorem consistent_stamps (hapart : IdsApart learned time) :
    Consistent Stamp.id (stamps learned time) := by
  intro new hnew other hother hid
  obtain ⟨hmem, hannounced⟩ := mem_stamps_iff.mp hnew
  obtain ⟨hmem', hannounced'⟩ := mem_stamps_iff.mp hother
  rw [hid] at hannounced
  have hservice := hapart _ hmem _ hmem' _ _ _ hannounced hannounced'
  rw [hservice, hannounced] at hannounced'
  exact Stamp.ext hid hservice.symm (Prod.mk.inj (Option.some.inj hannounced')).2

/-- Behind a packet that is read to its end the services that resolve are listed, and nothing
else is. -/
theorem mem_published_parse (h : listing.Settled all) (hcredited : listing.Credited)
    (hconsistent : Consistent RecordUpdate.key all)
    (hwritten : ∀ update ∈ (packetUpdates packet).1, update ∈ all)
    (hkeeps : listing.KeepsIdentifiers (.parse time packet)) (hcomplete : ¬ Abandons packet)
    (hapart : IdsApart (listing.parse time packet).discovery.toLearnedRecords time)
    {room : DiscoveredRoom} : room ∈ (listing.parse time packet).published ↔
      ∃ service ∈ (listing.parse time packet).discovery.services,
        (announced (listing.parse time packet).discovery.toLearnedRecords time service).map
          discovered = some room := by
  have hstep : step listing (.parse time packet) = some (listing.parse time packet) := rfl
  have hcreditedNext := hcredited.step hstep
  have hlearned := parse_learned listing time packet
  have hlearn := learnPacket_eq packet listing.discovery.toLearnedRecords
  rw [← hlearned, Bool.eq_true_of_not_eq_false hcomplete] at hlearn
  have hvalue : ∀ k, (listing.parse time packet).value k = (lastWrite Stamp.id
      (stamps (listing.parse time packet).discovery.toLearnedRecords time) k).or
        (listing.value k) := parse_of_learned hlearn
  have hstamps := consistent_stamps hapart
  constructor
  · intro hroom
    obtain ⟨entry, hentry, rfl⟩ := List.mem_map.mp hroom
    obtain ⟨service, hlisted⟩ := hcreditedNext entry hentry
    rw [hvalue] at hlisted
    cases hlast : lastWrite Stamp.id (stamps _ time) entry.1 with
    | some new =>
        rw [hlast, Option.some_or] at hlisted
        cases hlisted
        obtain ⟨hmem, hannounced⟩ := mem_stamps_iff.mp (lastWrite_mem hlast).1
        exact ⟨_, hmem, by rw [hannounced]; rfl⟩
    | none =>
        rw [hlast, Option.none_or] at hlisted
        have hresolves := h.resolves hconsistent hwritten (h.resolved _ _ hlisted)
        rw [← hlearned] at hresolves
        obtain ⟨new, hnew, hservice⟩ := exists_stamp hresolves time
        obtain ⟨other, hother, hid⟩ :=
          hkeeps _ hlearn _ _ hlisted new (hstamps.lastWrite_eq hnew) hservice
        rw [← hid, hstamps.lastWrite_eq hother] at hlast
        cases hlast
  · rintro ⟨service, hmem, hroom⟩
    obtain ⟨entry, hannounced, rfl⟩ := Option.map_eq_some_iff.mp hroom
    have hnew : (⟨entry.1, service, entry.2⟩ : Stamp) ∈ stamps _ time :=
      mem_stamps_iff.mpr ⟨hmem, hannounced⟩
    have hlisted := hvalue entry.1
    rw [hstamps.lastWrite_eq hnew, Option.some_or] at hlisted
    exact List.mem_map_of_mem (value_eq_some_iff.mp hlisted).2.2

theorem announced_same {other : LearnedRecords} (h : SameTables learned other) (time : Int)
    (service : Text) : announced learned time service = announced other time service := by
  simp only [announced, h.targets, h.addresses, h.identifiers]

theorem announced_discovered (learned : LearnedRecords) (time later : Int) (service : Text) :
    (announced learned time service).map discovered =
      (announced learned later service).map discovered := by
  unfold announced
  cases learned.targets.lookup service with
  | none => rfl
  | some target =>
      cases haddress : learned.addresses.lookup target.1 with
      | none => simp [haddress]
      | some address => simp [haddress, discovered]

theorem idsApart_same {other : LearnedRecords} (h : SameTables learned other)
    (hapart : IdsApart learned time) : IdsApart other time := by
  intro service hservice name hname id room room' hroom hroom'
  rw [← announced_same h] at hroom hroom'
  exact hapart service ((h.services service).mpr hservice) name ((h.services name).mpr hname) id
    room room' hroom hroom'

end Order

section Runs

variable {events : List Event} {all : List RecordUpdate}

theorem written_cons (event : Event) (events : List Event) :
    written (event :: events) = Event.written event ++ written events := rfl

theorem written_append (events later : List Event) :
    written (events ++ later) = written events ++ written later := List.flatMap_append

theorem run_learned (hrun : run step listing events = some next) :
    next.discovery.toLearnedRecords =
      (written events).foldl RecordUpdate.apply listing.discovery.toLearnedRecords := by
  induction events generalizing listing with
  | nil =>
      cases hrun
      rfl
  | cons event events ih =>
      obtain ⟨middle, hstep, hrest⟩ := run_cons_some.mp hrun
      rw [ih hrest, written_cons, List.foldl_append]
      cases event with
      | parse time packet =>
          cases hstep
          rw [parse_learned]
          rfl
      | expire time =>
          cases hstep
          rfl

theorem credited_start : ({} : RoomListing).Credited := by
  intro entry hentry
  cases hentry

theorem onePerService_start : ({} : RoomListing).OnePerService := by
  intro entry hentry
  cases hentry

theorem settled_start : ({} : RoomListing).Settled all := by
  constructor
  · intro update hvalue
    cases update <;> cases hvalue
  · intro id listed hlisted
    cases hlisted

theorem credited_run (hrun : run step {} events = some listing) : listing.Credited :=
  run_preserves (fun h hstep => h.step hstep) credited_start hrun

theorem settled_run (hconsistent : Consistent RecordUpdate.key all)
    (hwritten : ∀ update ∈ written events, update ∈ all)
    (hrun : run step {} events = some listing) : listing.Settled all := by
  have halong : Along (fun _ event => ∀ update ∈ Event.written event, update ∈ all) step {}
      events := by
    apply along_of_forall
    intro event hevent _ update hupdate
    exact hwritten update (List.mem_flatMap.mpr ⟨event, hevent, hupdate⟩)
  exact run_along (fun h hok hstep => h.step hconsistent hok hstep) settled_start halong hrun

/-- What a run lists depends on the records it has received and on nothing else. -/
theorem mem_published_run (hconsistent : Consistent RecordUpdate.key (written events))
    (hrun : run step {} events = some listing) (hkeeps : Along KeepsIdentifiers step {} events)
    (hends : EndsComplete events)
    (hapart : ∀ time, IdsApart listing.discovery.toLearnedRecords time) {room : DiscoveredRoom} :
    room ∈ listing.published ↔ ∃ service ∈ listing.discovery.services,
      (announced listing.discovery.toLearnedRecords 0 service).map discovered = some room := by
  obtain ⟨before, time, packet, rfl, hcomplete⟩ := hends
  obtain ⟨middle, hbefore, hlast⟩ := run_append.mp hrun
  obtain ⟨last, hstep, hend⟩ := run_cons_some.mp hlast
  cases hend
  cases hstep
  have hwritten : ∀ update ∈ written before, update ∈ written (before ++ [.parse time packet]) := by
    intro update hupdate
    rw [written_append]
    exact List.mem_append_left _ hupdate
  have hpacket : ∀ update ∈ (packetUpdates packet).1,
      update ∈ written (before ++ [.parse time packet]) := by
    intro update hupdate
    rw [written_append]
    exact List.mem_append_right _ (List.mem_append_left _ hupdate)
  rw [mem_published_parse (settled_run hconsistent hwritten hbefore) (credited_run hbefore)
    hconsistent hpacket (hkeeps.behind hbefore).1 hcomplete (hapart time)]
  simp only [announced_discovered _ time 0]

end Runs

/-- Every service is listed once at most in every run whose packets keep the identifiers of
the listed services, and such runs list the same rooms behind the same records. A packet that
does not keep them lists a service twice. -/
theorem one_listing_per_room (events : List Event) (listing : RoomListing)
    (hrun : run step {} events = some listing) :
    (Along KeepsIdentifiers step {} events → listing.OnePerService) ∧
    (∀ time packet, listing.OnePerService → ¬ Abandons packet →
      ((listing.parse time packet).OnePerService ↔
        listing.KeepsIdentifiers (.parse time packet))) ∧
    ∀ others other, run step {} others = some other →
      Along KeepsIdentifiers step {} events → Along KeepsIdentifiers step {} others →
      EndsComplete events → EndsComplete others →
      Consistent RecordUpdate.key (written events) →
      (∀ update, update ∈ written events ↔ update ∈ written others) →
      (∀ time, IdsApart listing.discovery.toLearnedRecords time) →
      ∀ room, room ∈ listing.published ↔ room ∈ other.published := by
  refine ⟨?_, ?_, ?_⟩
  · intro hkeeps
    have hboth : listing.OnePerService ∧ listing.Credited := by
      refine run_along (P := fun listing => listing.OnePerService ∧ listing.Credited) ?_
        ⟨onePerService_start, credited_start⟩ hkeeps hrun
      exact fun h hok hstep => ⟨h.1.step h.2 hok hstep, h.2.step hstep⟩
    exact hboth.1
  · intro time packet hone hcomplete
    have hlearn := learnPacket_eq packet listing.discovery.toLearnedRecords
    rw [Bool.eq_true_of_not_eq_false hcomplete] at hlearn
    exact hone.parse_iff (credited_run hrun) hlearn
  · intro others other hother hkeeps hkeeps' hends hends' hconsistent hsame hapart room
    have htables : SameTables listing.discovery.toLearnedRecords
        other.discovery.toLearnedRecords := by
      rw [sameTables_iff, run_learned hrun, run_learned hother]
      exact SyncAudio.keyedWrites.foldl_congr hconsistent hsame
    have hconsistent' : Consistent RecordUpdate.key (written others) := by
      intro update hupdate update' hupdate'
      exact hconsistent update ((hsame update).mpr hupdate) update' ((hsame update').mpr hupdate')
    rw [mem_published_run hconsistent hrun hkeeps hends hapart,
      mem_published_run hconsistent' hother hkeeps' hends' fun time =>
        idsApart_same htables (hapart time)]
    simp only [htables.services, announced_same htables]

section Announcements

/-- The identifier `R`, as the string of a TXT record. -/
def roomString : List UInt8 := label "room=R".toList

/-- The TXT record of the room `A`. -/
def textPacket : List UInt8 :=
  [0, 0, 0x84, 0, 0, 0, 0, 1, 0, 0, 0, 0] ++ label "A".toList ++ label "_tandemaudio".toList ++
    label "_tcp".toList ++ label "local".toList ++
    [0, 0, 16, 0x80, 1, 0, 0, 0, 120, 0, 7] ++ roomString

/-- All four records of the room. -/
def fullPacket : List UInt8 :=
  [0, 0, 0x84, 0, 0, 0, 0, 1, 0, 0, 0, 3] ++ (roomPacket 120).drop 12 ++
    [0xC0, 47, 0, 16, 0x80, 1, 0, 0, 0, 120, 0, 7] ++ roomString

def identified : DiscoveredRoom := ⟨"R".toList, "A".toList, "192.168.1.5".toList, 40102⟩

def unidentified : DiscoveredRoom := { identified with id := roomService }

/-- The TXT record comes first. -/
def textFirst : List Event := [.parse 0 textPacket, .parse 0 (roomPacket 120)]

/-- The TXT record comes last. -/
def textLast : List Event := [.parse 0 (roomPacket 120), .parse 0 textPacket]

theorem keepsIdentifiers_of_unknown (h : listing.discovery.known.entries = []) :
    listing.KeepsIdentifiers event := by
  cases event with
  | parse time packet =>
      intro learned _ id listed hlisted
      obtain ⟨-, -, hmem⟩ := value_eq_some_iff.mp hlisted
      rw [h] at hmem
      cases hmem
  | expire time => trivial

theorem one_listing_per_room_textFirst :
    ∃ listing other, run step {} textFirst = some listing ∧
      run step {} [.parse 0 fullPacket] = some other ∧ listing.OnePerService ∧
      ∀ room, room ∈ listing.published ↔ room ∈ other.published := by
  have hkeeps : Along KeepsIdentifiers step {} textFirst := by
    refine ⟨keepsIdentifiers_of_unknown rfl, fun middle hmiddle => ⟨?_, fun _ _ => trivial⟩⟩
    cases hmiddle
    exact keepsIdentifiers_of_unknown rfl
  have hfull : Along KeepsIdentifiers step {} [.parse 0 fullPacket] :=
    ⟨keepsIdentifiers_of_unknown rfl, fun _ _ => trivial⟩
  have hconsistent : Consistent RecordUpdate.key (written textFirst) := by
    unfold Consistent
    decide +kernel
  have hperm : (written textFirst).Perm (written [.parse 0 fullPacket]) := by
    decide +kernel
  have hroom : ¬ Abandons (roomPacket 120) := by decide +kernel
  have hends : ¬ Abandons fullPacket := by decide +kernel
  have hservices : (run step {} textFirst).map (fun listing => listing.discovery.services) =
      some [roomService] := by
    decide +kernel
  obtain ⟨listing, hlisting, hsingle⟩ := Option.map_eq_some_iff.mp hservices
  obtain ⟨hone, -, hsame⟩ := one_listing_per_room textFirst listing hlisting
  refine ⟨listing, _, hlisting, rfl, hone hkeeps, ?_⟩
  refine hsame [.parse 0 fullPacket] _ rfl hkeeps hfull ?_ ?_ hconsistent ?_ ?_
  · exact ⟨[.parse 0 textPacket], 0, roomPacket 120, rfl, hroom⟩
  · exact ⟨[], 0, fullPacket, rfl, hends⟩
  · exact fun update => hperm.mem_iff
  · exact fun time => idsApart_singleton hsingle time

/-- The room is listed under its name and under its identifier, and not if the same records
come in the other order. -/
theorem room_listed_twice :
    ∃ listing other, run step {} textLast = some listing ∧ run step {} textFirst = some other ∧
      ¬ listing.OnePerService ∧ unidentified ∈ listing.published ∧
      unidentified ∉ other.published := by
  have hlast : (run step {} textLast).map (fun listing =>
      (listing.discovery.known.entries, listing.writers.entries)) =
      some ([roomEntry 0, ("R".toList, (roomEntry 0).2)],
        [(roomService, roomService), ("R".toList, roomService)]) := by
    decide +kernel
  have hfirst : (run step {} textFirst).map published = some [identified] := by
    decide +kernel
  obtain ⟨listing, hlisting, hstate⟩ := Option.map_eq_some_iff.mp hlast
  obtain ⟨other, hother, hpublished⟩ := Option.map_eq_some_iff.mp hfirst
  obtain ⟨hknown, hwriters⟩ := Prod.mk.inj hstate
  refine ⟨listing, other, hlisting, hother, ?_, ?_, ?_⟩
  · intro hone
    have hsame := hone (roomEntry 0) (by rw [hknown]; exact List.mem_cons_self)
      ("R".toList, (roomEntry 0).2) (by rw [hknown]; exact List.mem_cons_of_mem _ List.mem_cons_self)
      (by rw [OrderedMap.lookup, OrderedMap.lookup, hwriters]; rfl)
    exact absurd (congrArg (fun entry => entry.1.length) hsame) (by decide)
  · rw [published, hknown]
    exact List.mem_cons_self
  · rw [hpublished, List.mem_singleton]
    decide

end Announcements

end RoomListing

end SyncAudio
