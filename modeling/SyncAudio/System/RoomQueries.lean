import SyncAudio.Desktop.MdnsListen
import SyncAudio.System.RoomNetwork

/-!
# Questions and answers on one group

The browser and the hosts send to one multicast group, and each hears everything that is sent
there: the hosts hear the announcements of each other, and the browser its own question. What
they do is what a small machine does whose messages are no bytes: a host answers a question of
the browser, and nothing else.

## Implementation notes

What was sent may be heard any number of times, by everyone, in any order and at any time
later, or never. Nobody asks for a unicast answer.
-/

namespace SyncAudio

namespace RoomDiscovery

/-- `Query`. -/
def query : List UInt8 :=
  [0, 0, 0, 0, 0, 1, 0, 0, 0, 0, 0, 0] ++
    ((serviceType.splitOn '.').flatMap fun label =>
      label.length.toUInt8 :: label.map fun c => c.toNat.toUInt8) ++ [0, 0, 12, 0, 1]

end RoomDiscovery

/-- The browser, and what was sent to the group. -/
structure RoomGroup where
  browsing : RoomBrowsing
  sent : List (List UInt8) := []

/-- What was sent to the group; `none` is the question of the browser. -/
structure HeardGroup (ι : Type*) where
  listing : HeardRooms ι
  sent : List (Option (RoomNetwork.Message × ι)) := []

namespace RoomGroup

open LabelledRun BigEndian DomainName Mdns DiscoveryService RoomAnnouncement RoomNetwork

variable {ι : Type*}

inductive Event (ι : Type*) where
  | announce (room : ι) (goodbye : Bool)
  | query
  | listen (room : ι) (index : Nat)
  | parse (time : Int) (index : Nat)
  | expire (time : Int)

/-- A host or the browser sends, or one of them hears what was sent. -/
def step (rooms : ι → AnnouncedRoom) : Step RoomGroup (Event ι)
  | group, .announce i goodbye =>
      some { group with sent := group.sent ++ ((rooms i).service.announce goodbye).toList }
  | group, .query => some { group with sent := group.sent ++ [RoomDiscovery.query] }
  | group, .listen i index =>
      group.sent[index]?.map fun packet =>
        { group with
          sent := group.sent ++
            ((rooms i).service.listen packet).filterMap CallbackAnswer.datagram }
  | group, .parse time index =>
      group.sent[index]?.bind fun packet =>
        (RoomBrowsing.step group.browsing (.parse time packet)).map fun browsing =>
          { group with browsing := browsing }
  | group, .expire time =>
      (RoomBrowsing.step group.browsing (.expire time)).map fun browsing =>
        { group with browsing := browsing }

/-- The browser hears a message; its own question shows it nothing. -/
def hear (listing : HeardRooms ι) (time : Int) :
    Option (Message × ι) → Option (HeardRooms ι)
  | none => if listing.now ≤ time then some { listing with now := time } else none
  | some (message, i) => heardStep listing (.message time message i)

/-- The small machine: questions are answered, and nothing else. -/
def heardStep : Step (HeardGroup ι) (Event ι)
  | group, .announce i goodbye =>
      some
        { group with
          sent := group.sent ++ [some (if goodbye then .goodbye else .announcement, i)] }
  | group, .query => some { group with sent := group.sent ++ [none] }
  | group, .listen i index =>
      group.sent[index]?.map fun message =>
        if message = none then { group with sent := group.sent ++ [some (.answer, i)] } else group
  | group, .parse time index =>
      group.sent[index]?.bind fun message =>
        (hear group.listing time message).map fun listing => { group with listing := listing }
  | group, .expire time =>
      (RoomNetwork.heardStep group.listing (.expire time)).map fun listing =>
        { group with listing := listing }

/-- The bytes of what was sent. -/
def bytesOf (rooms : ι → AnnouncedRoom) : Option (Message × ι) → Option (List UInt8)
  | none => some RoomDiscovery.query
  | some (message, i) => datagram (rooms i).service message

/-- The browser lists what the small machine lists, and the bytes are those of its messages. -/
structure Sends (rooms : ι → AnnouncedRoom) (group : RoomGroup) (heard : HeardGroup ι) :
    Prop where
  lists : Lists rooms group.browsing heard.listing
  sent : heard.sent.map (bytesOf rooms) = group.sent.map some

variable {rooms : ι → AnnouncedRoom} {group : RoomGroup} {heard : HeardGroup ι}

section Query

variable {service : DiscoveryService} {bytes : List UInt8} {flags : UInt16}
  {questions : List Question}

/-- The question the browser asks. -/
def browserQuestion : Question where
  labels := typeLabels
  rtype := 12
  rclass := 1

theorem query_asks : AskingMessage RoomDiscovery.query 0 [browserQuestion] := by
  have hwire : Holds (inMessage RoomDiscovery.query) 12 (wire typeLabels) :=
    holds_of_slice (by decide +kernel)
  have hroot : Spells (inMessage RoomDiscovery.query) (12 + (wire typeLabels).length) [] 1 37 :=
    .root (by decide +kernel)
  constructor
  · exact holds_of_slice (by decide +kernel)
  · exact holds_of_slice (by decide +kernel)
  · decide
  · apply Asks.next (Spells.prepend isLabel_typeLabels hwire hroot) (by decide)
    · exact holds_of_slice (by decide +kernel)
    · exact holds_of_slice (by decide +kernel)
    · exact .none

/-- No host is asked for by the name of all services. -/
theorem answerTo_services {gethostname : Option (List UInt8)}
    {getaddrinfo : Text → Option (List UInt32)} {controlPort : UInt16} {roomName roomId : Text}
    (hcreate : create gethostname getaddrinfo controlPort roomName roomId = .ok service)
    (hroom : roomName ≠ []) {question : Question}
    (h : sameName servicesLabels question.labels = true) :
    service.answerTo question.name question.rtype question.rclass = [] := by
  obtain ⟨⟨name, hhost⟩, -, -, hqualified, hservice, -⟩ := of_create hcreate
  have hnonempty : service.hostname ≠ [] := hhost ▸ localHostname_ne_nil name
  have hlength : question.name.length = 29 := by
    rw [Question.name, List.length_take, dotted_length h]
    decide
  have htype : question.name ≠ dnsName serviceType := by
    intro heq
    rw [heq] at hlength
    exact absurd hlength (by decide)
  have hown : question.name ≠ dnsName service.serviceName := by
    intro heq
    have hroomPos := List.length_pos_iff.mpr hroom
    have hhostPos := List.length_pos_iff.mpr hnonempty
    have htail : serviceType.length = 24 := by decide
    have hon : " on ".toList.length = 4 := by decide
    rw [heq, length_dnsName, hservice, instanceName, List.length_append, List.length_cons,
      htail, List.length_take, List.length_append, List.length_append, hon] at hlength
    omega
  have hhostname : question.name ≠ dnsName service.qualifiedHost := by
    intro heq
    have hhead : question.name.head? = some 95 := by
      rw [Question.name, List.head?_take, if_neg (by decide), dotted_head h]
    obtain ⟨c, rest, hc⟩ := List.exists_cons_of_ne_nil hnonempty
    rw [heq, hqualified, hc] at hhead
    have hcharacter : HostCharacter c :=
      localHostname_character name c (hhost ▸ hc ▸ List.mem_cons_self)
    have hbyte : c.toNat.toUInt8 = '_'.toNat.toUInt8 := Option.some.inj hhead
    exact hcharacter.2.2 (byte_inj hcharacter.1 (by decide) hbyte)
  rw [answerTo, if_neg fun hasked => htype hasked.1, if_neg fun hasked => hown hasked.1,
    if_neg fun hasked => hhostname hasked.1]

/-- What a host answers is a matter of the questions alone: each one up to the first of another
class is answered as its name, type and class ask. -/
theorem host_answers {gethostname : Option (List UInt8)}
    {getaddrinfo : Text → Option (List UInt32)} {controlPort : UInt16} {roomName roomId : Text}
    (hcreate : create gethostname getaddrinfo controlPort roomName roomId = .ok service)
    (hroom : roomName ≠ []) (h : AskingMessage bytes flags questions) :
    service.listen bytes =
      (questions.takeWhile Question.inClass).flatMap fun question =>
        service.answerTo question.name question.rtype question.rclass := by
  rw [listen_asks service h]
  apply List.flatMap_congr
  intro question _
  split_ifs with hservices
  · exact (answerTo_services hcreate hroom hservices.1).symm
  · rfl

/-- A question for the address of `den`. -/
def addressQuestion : Question where
  labels := [dnsName "den".toList, localLabel]
  rtype := 1
  rclass := 1

/-- Two questions, the second one with a reference to the last label of the first. -/
def questionsDen : List UInt8 :=
  [0, 0, 0, 0, 0, 2, 0, 0, 0, 0, 0, 0] ++ wire typeLabels ++ [0, 0, 12, 0, 1] ++
    labelBytes (dnsName "den".toList) ++ reference 30 ++ [0, 1, 0, 1]

theorem questionsDen_asks : AskingMessage questionsDen 0 [browserQuestion, addressQuestion] := by
  have hwire : Holds (inMessage questionsDen) 12 (wire typeLabels) :=
    holds_of_slice (by decide +kernel)
  have hroot : Spells (inMessage questionsDen) (12 + (wire typeLabels).length) [] 1 37 :=
    .root (by decide +kernel)
  have hend : Spells (inMessage questionsDen) 36 [] 1 37 := .root (by decide +kernel)
  have hlocal : IsLabel localLabel := ⟨by decide, by decide⟩
  have hplain : Holds (inMessage questionsDen) 30 (labelBytes localLabel) :=
    holds_of_slice (by decide +kernel)
  have hreference : Holds (inMessage questionsDen) 45 (reference 30) :=
    holds_of_slice (by decide +kernel)
  have hshort : Spells (inMessage questionsDen) 45 [localLabel] 3 47 :=
    .reference (by decide) hreference hlocal hplain (.label hlocal hplain hend)
  have hhost : Spells (inMessage questionsDen) 41 addressQuestion.labels 4 47 :=
    .label ⟨by decide, by decide⟩ (holds_of_slice (by decide +kernel)) hshort
  constructor
  · exact holds_of_slice (by decide +kernel)
  · exact holds_of_slice (by decide +kernel)
  · decide
  · apply Asks.next (Spells.prepend isLabel_typeLabels hwire hroot) (by decide)
    · exact holds_of_slice (by decide +kernel)
    · exact holds_of_slice (by decide +kernel)
    · apply Asks.next hhost (by decide)
      · exact holds_of_slice (by decide +kernel)
      · exact holds_of_slice (by decide +kernel)
      · exact .none

/-- The host answers with its room and with its address. -/
theorem host_answers_den :
    ((denService "Dr. Who".toList).listen questionsDen).map CallbackAnswer.answer =
      [(denService "Dr. Who".toList).ptrRecord, (denService "Dr. Who".toList).addressRecord] := by
  rw [host_answers (create_den "Dr. Who".toList) (by decide) questionsDen_asks]
  decide +kernel

/-- A host answers the browser's question to the group. -/
theorem listen_query (service : DiscoveryService) :
    service.listen RoomDiscovery.query =
      [{ unicast := false
         answer := service.ptrRecord
         additional := service.additional }] := by
  have hclass : browserQuestion.inClass = true := by decide
  have hname : browserQuestion.name = dnsName serviceType := by decide +kernel
  have hother : sameName servicesLabels browserQuestion.labels = false := by decide +kernel
  have hanswer : service.answerTo browserQuestion.name browserQuestion.rtype
      browserQuestion.rclass = [{ unicast := false
                                  answer := service.ptrRecord
                                  additional := service.additional }] := by
    rw [answerTo, if_pos ⟨hname, .inl rfl⟩]
    rfl
  rw [listen_asks service query_asks, List.takeWhile_cons_of_pos hclass, List.takeWhile_nil,
    List.flatMap_singleton, hanswer, if_neg (by simp [hother])]

/-- What a host sends is no question. -/
theorem listen_datagram (service : DiscoveryService) {room : AnnouncedRoom} {message : Message}
    {packet : List UInt8} (h : datagram room.service message = some packet) :
    service.listen packet = [] := by
  have hlaid : ∃ rclass ttl, Laid room.service room.labels rclass ttl packet := by
    cases message with
    | announcement =>
        rw [← Option.some.inj (room.named.announce.symm.trans h)]
        exact ⟨_, _, laid _ _ _ _⟩
    | answer =>
        rw [← Option.some.inj (room.named.answer.symm.trans h)]
        exact ⟨_, _, laid _ _ _ _⟩
    | goodbye =>
        rw [← Option.some.inj (room.named.goodbye.symm.trans h)]
        exact ⟨_, _, laid _ _ _ _⟩
  obtain ⟨rclass, ttl, hlaid⟩ := hlaid
  obtain ⟨hfront, -⟩ := holds_append.mp hlaid.header
  obtain ⟨hfront, -⟩ := holds_append.mp hfront
  obtain ⟨hfront, -⟩ := holds_append.mp hfront
  obtain ⟨-, hcount⟩ := holds_append.mp hfront
  exact listen_of_count service hcount

/-- The browser reads nothing from its own question. -/
theorem parse_query (discovery : RoomDiscovery) (time : Int) :
    discovery.parse time RoomDiscovery.query = discovery := by
  have hheader : RoomDiscovery.header RoomDiscovery.query = none := by decide +kernel
  rw [RoomDiscovery.parse, RoomDiscovery.learnPacket, hheader]

end Query

section Simulation

theorem datagram_isSome (room : AnnouncedRoom) (message : Message) :
    ∃ packet, datagram room.service message = some packet := by
  cases message with
  | announcement => exact ⟨_, room.named.announce⟩
  | answer => exact ⟨_, room.named.answer⟩
  | goodbye => exact ⟨_, room.named.goodbye⟩

/-- Both sides send the same message. -/
theorem Sends.send (h : Sends rooms group heard) {packet : List UInt8}
    {message : Option (Message × ι)} (hbytes : bytesOf rooms message = some packet) :
    Sends rooms { group with sent := group.sent ++ [packet] }
      { heard with sent := heard.sent ++ [message] } where
  lists := h.lists
  sent := by simp [h.sent, hbytes]

/-- What was sent at an index, on both sides. -/
theorem Sends.getElem? (h : Sends rooms group heard) (index : Nat) :
    (group.sent[index]? = none ∧ heard.sent[index]? = none) ∨
      ∃ packet message, group.sent[index]? = some packet ∧ heard.sent[index]? = some message ∧
        bytesOf rooms message = some packet := by
  have hindex := congrArg (fun sent => sent[index]?) h.sent
  simp only [List.getElem?_map] at hindex
  cases hpacket : group.sent[index]? with
  | none =>
      rw [hpacket, Option.map_none, Option.map_eq_none_iff] at hindex
      exact .inl ⟨rfl, hindex⟩
  | some packet =>
      rw [hpacket, Option.map_some] at hindex
      obtain ⟨message, hmessage, hbytes⟩ := Option.map_eq_some_iff.mp hindex
      exact .inr ⟨packet, message, rfl, hmessage, hbytes⟩

/-- The browser's part of a step. -/
theorem Sends.browse (h : Sends rooms group heard) {browsing : Option RoomBrowsing}
    {listing : Option (HeardRooms ι)} (hrel : Option.Rel (Lists rooms) browsing listing) :
    Option.Rel (Sends rooms) (browsing.map fun browsing => { group with browsing := browsing })
      (listing.map fun listing => { heard with listing := listing }) := by
  cases hrel with
  | none => exact .none
  | some hlists => exact .some ⟨hlists, h.sent⟩

theorem Sends.announce (h : Sends rooms group heard) (i : ι) (goodbye : Bool) :
    Option.Rel (Sends rooms) (step rooms group (.announce i goodbye))
      (heardStep heard (.announce i goodbye)) := by
  obtain ⟨packet, hpacket⟩ :=
    datagram_isSome (rooms i) (if goodbye then .goodbye else .announcement)
  have hsent : (rooms i).service.announce goodbye = some packet := by
    cases goodbye with
    | false => exact hpacket
    | true => exact hpacket
  rw [step, heardStep, hsent]
  exact .some (h.send hpacket)

theorem Sends.listen (h : Sends rooms group heard) (i : ι) (index : Nat) :
    Option.Rel (Sends rooms) (step rooms group (.listen i index))
      (heardStep heard (.listen i index)) := by
  rw [step, heardStep]
  obtain ⟨hnone, hnone'⟩ | ⟨packet, message, hpacket, hmessage, hbytes⟩ := h.getElem? index
  · rw [hnone, hnone']
    exact .none
  · rw [hpacket, hmessage, Option.map_some, Option.map_some]
    apply Option.Rel.some
    cases message with
    | none =>
        obtain ⟨answer, hanswer⟩ := datagram_isSome (rooms i) .answer
        have hlisten : ((rooms i).service.listen packet).filterMap CallbackAnswer.datagram =
            [answer] := by
          rw [← Option.some.inj hbytes, listen_query]
          exact List.filterMap_cons_some hanswer
        rw [hlisten, if_pos rfl]
        exact h.send hanswer
    | some sent =>
        rw [listen_datagram _ hbytes, List.filterMap_nil, List.append_nil, if_neg (by simp)]
        exact h

theorem Sends.parse (h : Sends rooms group heard) (hapart : Apart rooms) (time : Int)
    (index : Nat) :
    Option.Rel (Sends rooms) (step rooms group (.parse time index))
      (heardStep heard (.parse time index)) := by
  rw [step, heardStep]
  obtain ⟨hnone, hnone'⟩ | ⟨packet, message, hpacket, hmessage, hbytes⟩ := h.getElem? index
  · rw [hnone, hnone']
    exact .none
  · rw [hpacket, hmessage, Option.bind_some, Option.bind_some]
    apply h.browse
    cases message with
    | none =>
        rw [← Option.some.inj hbytes, hear, RoomBrowsing.step, parse_query, h.lists.now]
        split_ifs
        · exact .some ⟨rfl, h.lists.learned, h.lists.known⟩
        · exact .none
    | some sent =>
        obtain ⟨message, i⟩ := sent
        have hheard := h.lists.message hapart time message i
        rw [RoomNetwork.step, show datagram (rooms i).service message = some packet from hbytes,
          Option.bind_some] at hheard
        exact hheard

/-- Both systems take the same step. -/
theorem Sends.step (hapart : Apart rooms) (event : Event ι) (h : Sends rooms group heard) :
    Option.Rel (Sends rooms) (RoomGroup.step rooms group event) (heardStep heard event) := by
  cases event with
  | announce i goodbye => exact h.announce i goodbye
  | query => exact .some (h.send rfl)
  | listen i index => exact h.listen i index
  | parse time index => exact h.parse hapart time index
  | expire time => exact h.browse (h.lists.expire time)

/-- A room that is listed was heard of, and answers only follow a question. -/
structure Spoken (heard : HeardGroup ι) : Prop where
  listed : ∀ i ∈ heard.listing.heard, ∃ message, message ≠ .goodbye ∧
    some (message, i) ∈ heard.sent
  asked : ∀ i, some (.answer, i) ∈ heard.sent → none ∈ heard.sent

theorem Spoken.send (h : Spoken heard) {message : Option (Message × ι)}
    (hasked : ∀ i, message = some (.answer, i) → none ∈ heard.sent) :
    Spoken { heard with sent := heard.sent ++ [message] } := by
  constructor
  · intro i hi
    obtain ⟨sent, hsent, hmem⟩ := h.listed i hi
    exact ⟨sent, hsent, List.mem_append_left _ hmem⟩
  · intro i hi
    apply List.mem_append_left
    cases List.mem_append.mp hi with
    | inl hold => exact h.asked i hold
    | inr hnew => exact hasked i (List.mem_singleton.mp hnew).symm

theorem Spoken.hear (h : Spoken heard) {time : Int} {message : Option (Message × ι)}
    {listing : HeardRooms ι} (hmem : message ∈ heard.sent)
    (hhear : hear heard.listing time message = some listing) :
    Spoken { heard with listing := listing } := by
  refine ⟨?_, h.asked⟩
  cases message with
  | none =>
      obtain ⟨-, hlisting⟩ := Option.ite_none_right_eq_some.mp hhear
      cases hlisting
      exact h.listed
  | some sent =>
      obtain ⟨message, j⟩ := sent
      obtain ⟨-, hlisting⟩ := Option.ite_none_right_eq_some.mp hhear
      cases hlisting
      intro i hi
      simp only at hi
      split_ifs at hi with hgoodbye
      · exact h.listed i hi
      · cases List.mem_cons.mp hi with
        | inl hsame => exact ⟨message, hgoodbye, hsame ▸ hmem⟩
        | inr hold => exact h.listed i hold

theorem Spoken.step {event : Event ι} {next : HeardGroup ι} (h : Spoken heard)
    (hstep : heardStep heard event = some next) : Spoken next := by
  cases event with
  | announce i goodbye =>
      cases hstep
      apply h.send
      intro j hj
      cases goodbye with
      | false => cases hj
      | true => cases hj
  | query =>
      cases hstep
      exact h.send fun i hi => by cases hi
  | listen i index =>
      obtain ⟨message, hmessage, rfl⟩ := Option.map_eq_some_iff.mp hstep
      split_ifs with hquestion
      · apply h.send
        intro _ _
        exact hquestion ▸ List.mem_of_getElem? hmessage
      · exact h
  | parse time index =>
      obtain ⟨message, hmessage, hhear⟩ := Option.bind_eq_some_iff.mp hstep
      obtain ⟨listing, hlisting, rfl⟩ := Option.map_eq_some_iff.mp hhear
      exact h.hear (List.mem_of_getElem? hmessage) hlisting
  | expire time =>
      obtain ⟨listing, hlisting, rfl⟩ := Option.map_eq_some_iff.mp hstep
      obtain ⟨-, hlisting⟩ := Option.ite_none_right_eq_some.mp hlisting
      cases hlisting
      exact ⟨h.listed, h.asked⟩

theorem Sends.mem (h : Sends rooms group heard) {message : Option (Message × ι)}
    (hmem : message ∈ heard.sent) :
    ∃ packet ∈ group.sent, bytesOf rooms message = some packet := by
  have hbytes := List.mem_map_of_mem (f := bytesOf rooms) hmem
  rw [h.sent] at hbytes
  obtain ⟨packet, hpacket, heq⟩ := List.mem_map.mp hbytes
  exact ⟨packet, hpacket, heq.symm⟩

end Simulation

end RoomGroup

end SyncAudio
