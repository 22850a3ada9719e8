import Mathlib.Data.List.Infix
import SyncAudio.Desktop.Mdns
import SyncAudio.Lib.Text

/-!
# The announcements of a host

`DiscoveryService` announces the room of a host as a DNS-SD service: a pointer to its name,
and with it where it listens, the address of the host, the version and the identifier of the
room. Every name after the first one is shortened by references.

## Implementation notes

The room's name, its identifier and the hostname are ASCII, so a character is a byte. The
socket, its errors and the answers to single questions are left out.
-/

namespace SyncAudio

/-- A property of the characters of a text, checked one after the other. -/
theorem forall_of_check {p : Char → Prop} [DecidablePred p] {text : Text}
    (h : (text.all fun c => decide (p c)) = true) : ∀ c ∈ text, p c :=
  fun c hc => of_decide_eq_true (List.all_eq_true.mp h c hc)

/-- `DiscoveryService::Impl`. -/
structure DiscoveryService where
  port : UInt16
  hostname : Text
  address : UInt32
  qualifiedHost : Text
  serviceName : Text
  roomId : Text

namespace DiscoveryService

open BigEndian DomainName Mdns

def serviceType : Text := "_tandemaudio._tcp.local.".toList

/-- `dnsName`. -/
def dnsName (value : Text) : List UInt8 := value.map fun c => c.toNat.toUInt8

def isAlnum (byte : UInt8) : Bool :=
  (48 ≤ byte && byte ≤ 57) || (65 ≤ byte && byte ≤ 90) || (97 ≤ byte && byte ≤ 122)

/-- `localHostname`, from what `gethostname` gives. -/
def localHostname (name : List UInt8) : Text :=
  let result := ((name.takeWhile fun byte => byte ≠ 0).take 48).map fun byte =>
    if isAlnum byte then Char.ofNat byte.toNat else '-'
  if result = [] then "tandem-host".toList else result

/-- `localIPv4`, from what `getaddrinfo` gives. -/
def localIPv4 (addresses : List UInt32) : Option UInt32 :=
  addresses.find? fun address => address >>> 24 ≠ 127 ∧ address ≠ 0

def instanceName (roomName hostname : Text) : Text :=
  (roomName ++ " on ".toList ++ hostname).take 63

/-- The constructor. -/
def create (gethostname : Option (List UInt8)) (getaddrinfo : Text → Option (List UInt32))
    (controlPort : UInt16) (roomName roomId : Text) : Except String DiscoveryService :=
  if controlPort = 0 then .error "Discovery control port is invalid"
  else
    match gethostname with
    | none => .error "Unable to read the LAN hostname"
    | some name =>
        let hostname := localHostname name
        match getaddrinfo hostname with
        | none => .error "Unable to resolve the LAN hostname"
        | some addresses =>
            match localIPv4 addresses with
            | none => .error "No non-loopback IPv4 address for LAN discovery"
            | some address =>
                .ok
                  { port := controlPort
                    hostname := hostname
                    address := address
                    qualifiedHost := hostname ++ ".local.".toList
                    serviceName := instanceName roomName hostname ++ '.' :: serviceType
                    roomId := roomId }

def ptrRecord (service : DiscoveryService) : MdnsRecord where
  name := dnsName serviceType
  ttl := 120
  data := .ptr (dnsName service.serviceName)

def srvRecord (service : DiscoveryService) : MdnsRecord where
  name := dnsName service.serviceName
  ttl := 120
  data := .srv 0 0 service.port (dnsName service.qualifiedHost)

def addressRecord (service : DiscoveryService) : MdnsRecord where
  name := dnsName service.qualifiedHost
  ttl := 120
  data := .a service.address

def versionRecord (service : DiscoveryService) : MdnsRecord where
  name := dnsName service.serviceName
  ttl := 120
  data := .txt (dnsName "version".toList) (dnsName "2".toList)

def roomRecord (service : DiscoveryService) : MdnsRecord where
  name := dnsName service.serviceName
  ttl := 120
  data := .txt (dnsName "room".toList) (dnsName service.roomId)

def additional (service : DiscoveryService) : List MdnsRecord :=
  [service.srvRecord, service.addressRecord, service.versionRecord, service.roomRecord]

/-- The datagram of `announce`. -/
def announce (service : DiscoveryService) (goodbye : Bool) : Option (List UInt8) :=
  if goodbye then goodbyeMulticast 2048 service.ptrRecord [] service.additional
  else announceMulticast 2048 service.ptrRecord [] service.additional

/-- The datagram of `callback` for a question of the service type. -/
def answer (service : DiscoveryService) : Option (List UInt8) :=
  queryAnswerMulticast 2048 service.ptrRecord [] service.additional

/-- The labels of the service type. -/
def typeLabels : List (List UInt8) :=
  [dnsName "_tandemaudio".toList, dnsName "_tcp".toList, dnsName "local".toList]

def localLabel : List UInt8 := dnsName "local".toList

section Message

variable {labels : List (List UInt8)} {host : List UInt8}

/-- The labels of a service name and the hostname, as far as the announcement depends on
them. -/
structure Distinct (labels : List (List UInt8)) (host : List UInt8) : Prop where
  ne_nil : labels ≠ []
  isLabel : ∀ label ∈ labels, IsLabel label
  ne_type : dnsName "_tandemaudio".toList ∉ labels
  ne_host : host ∉ labels
  length : (wire labels).length ≤ 64
  count : labels.length ≤ 25
  host_isLabel : IsLabel host
  host_ne : host ∉ typeLabels.take 2

/-- Where the name of the service stands. -/
def nameOffset : Nat := 47

/-- Where the name of the host stands. -/
def hostOffset (labels : List (List UInt8)) : Nat := 67 + (wire labels).length

/-- The table behind the name of the service type. -/
def typeEntries : List (Nat × List (List UInt8)) := marks 12 typeLabels []

/-- The table behind the name of the service. -/
def serviceEntries (labels : List (List UInt8)) : List (Nat × List (List UInt8)) :=
  typeEntries ++ marks nameOffset labels typeLabels

/-- The table behind the name of the host. -/
def hostEntries (labels : List (List UInt8)) (host : List UInt8) :
    List (Nat × List (List UInt8)) :=
  serviceEntries labels ++ marks (hostOffset labels) [host] [localLabel]

theorem mem_typeEntries {entry : Nat × List (List UInt8)} (h : entry ∈ typeEntries) :
    entry.2.length ≤ 3 := by
  obtain ⟨i, -, hentry⟩ := mem_marks h
  rw [hentry, List.append_nil, List.length_drop]
  exact Nat.sub_le _ _

theorem isLabel_typeLabels : ∀ label ∈ typeLabels, IsLabel label := by
  intro label hlabel
  have hall : ∀ label ∈ typeLabels, 0 < label.length ∧ label.length < 64 := by decide
  exact ⟨(hall label hlabel).1, (hall label hlabel).2⟩

/-- A service name is no part of the service type. -/
theorem not_type {i : Nat} (hi : i < labels.length)
    {entry : Nat × List (List UInt8)} (hentry : entry ∈ typeEntries) :
    ¬ labels.drop i ++ typeLabels <+: entry.2 := by
  intro hbegins
  have hlength := hbegins.length_le
  have hthree : typeLabels.length = 3 := rfl
  have hentryLength := mem_typeEntries hentry
  rw [List.length_append, List.length_drop] at hlength
  omega

theorem find_type : (typeEntries.find? fun entry => decide (typeLabels <+: entry.2)) =
    some (12, typeLabels) := by
  decide +kernel

/-- The service's name is in the table once it was written. -/
theorem Distinct.find_service (h : Distinct labels host) :
    ((serviceEntries labels).find? fun entry => decide (labels ++ typeLabels <+: entry.2)) =
      some (nameOffset, labels ++ typeLabels) := by
  have hnone : (typeEntries.find? fun entry => decide (labels ++ typeLabels <+: entry.2)) = none := by
    rw [List.find?_eq_none]
    intro entry hentry
    rw [decide_eq_true_iff]
    exact not_type (i := 0) (List.length_pos_iff.mpr h.ne_nil) hentry
  rw [serviceEntries, List.find?_append, hnone, Option.none_or]
  cases hlabels : labels with
  | nil => exact absurd hlabels h.ne_nil
  | cons label others =>
      exact List.find?_cons_of_pos (decide_eq_true List.prefix_rfl)

/-- No name of the table begins with the hostname. -/
theorem Distinct.not_host (h : Distinct labels host) {rest : List (List UInt8)}
    {entry : Nat × List (List UInt8)} (hentry : entry ∈ serviceEntries labels)
    (hrest : rest ≠ []) : ¬ host :: rest <+: entry.2 := by
  intro hbegins
  cases List.mem_append.mp hentry with
  | inl htype =>
      have hhost := h.host_ne
      have hlength := hbegins.length_le
      have hpos := List.length_pos_iff.mpr hrest
      rw [List.length_cons] at hlength
      simp only [typeEntries, typeLabels, marks, List.append_nil, List.mem_cons,
        List.not_mem_nil, or_false] at htype
      obtain rfl | rfl | rfl := htype
      · apply hhost
        rw [(List.cons_prefix_cons.mp hbegins).1]
        exact List.mem_cons_self
      · apply hhost
        rw [(List.cons_prefix_cons.mp hbegins).1]
        exact List.mem_cons_of_mem _ List.mem_cons_self
      · simp only [List.length_cons, List.length_nil] at hlength
        omega
  | inr hservice =>
      obtain ⟨i, hi, hlabels⟩ := mem_marks hservice
      rw [hlabels, List.drop_eq_getElem_cons hi, List.cons_append] at hbegins
      apply h.ne_host
      rw [(List.cons_prefix_cons.mp hbegins).1]
      exact List.getElem_mem hi

theorem find_local {entries : List (Nat × List (List UInt8))} :
    ((typeEntries ++ entries).find? fun entry => decide ([localLabel] <+: entry.2)) =
      some (30, [localLabel]) := by
  have hfind : (typeEntries.find? fun entry => decide ([localLabel] <+: entry.2)) =
      some (30, [localLabel]) := by
    decide +kernel
  rw [List.find?_append, hfind]
  rfl

/-- The host's name is in the table once it was written. -/
theorem Distinct.find_host (h : Distinct labels host) :
    ((hostEntries labels host).find? fun entry => decide ([host, localLabel] <+: entry.2)) =
      some (hostOffset labels, [host, localLabel]) := by
  have hnone : ((serviceEntries labels).find? fun entry =>
      decide ([host, localLabel] <+: entry.2)) = none := by
    rw [List.find?_eq_none]
    intro entry hentry
    rw [decide_eq_true_iff]
    exact h.not_host hentry (List.cons_ne_nil _ _)
  rw [hostEntries, List.find?_append, hnone, Option.none_or]
  exact List.find?_cons_of_pos (decide_eq_true List.prefix_rfl)

/-- The header: one answer and three additional records. -/
def header : List UInt8 :=
  bytes16 0 ++ bytes16 0x8400 ++ bytes16 0 ++ bytes16 1 ++ bytes16 0 ++ bytes16 3

/-- The header and the name of the service type. -/
def typeMessage : List UInt8 := header ++ (wire typeLabels ++ [0])

theorem readable_type : ∀ entry ∈ typeEntries, Readable (inMessage typeMessage) entry :=
  readable_root
    (show ∀ entry ∈ ([] : List (Nat × List (List UInt8))), Readable (inMessage header) entry from
      fun _ h => absurd h List.not_mem_nil)
    isLabel_typeLabels

theorem makeParts_type : makeParts 2048 typeLabels { bytes := header } =
    some { bytes := typeMessage, table := tableOf typeEntries } := by
  have hfresh : Fresh 2048 header [] typeLabels [] := by
    constructor
    · intro entry hentry
      exact absurd hentry List.not_mem_nil
    · exact isLabel_typeLabels
    · decide
    · decide
    · intro i _ entry hentry
      exact absurd hentry List.not_mem_nil
    · have hall : ∀ j < 3, ∀ i < j,
          ¬ typeLabels.drop j ++ [] <+: (typeLabels.take j).drop i := by decide +kernel
      exact fun i j hij hj => hall j hj i hij
  exact hfresh.makeParts_root

variable {record : MdnsRecord} {name : List UInt8}

/-- The message up to the end of the pointer. -/
def ptrMessage (labels : List (List UInt8)) (record : MdnsRecord) : List UInt8 :=
  typeMessage ++ (fixed record ((wire labels).length + 2) ++ (wire labels ++ reference 12))

theorem length_ptrMessage (labels : List (List UInt8)) (record : MdnsRecord) :
    (ptrMessage labels record).length = 49 + (wire labels).length := by
  have htype : typeMessage.length = 37 := rfl
  simp only [ptrMessage, List.length_append, htype, length_fixed, length_reference]
  omega

/-- The type's name stands behind the header of every message that begins with it. -/
theorem holds_type (more : List UInt8) :
    Holds (inMessage (typeMessage ++ more)) 12 (wire typeLabels) := by
  have hholds := holds_message header (wire typeLabels) ([0] ++ more)
  rw [typeMessage, List.append_assoc header, List.append_assoc (wire typeLabels),
    ← List.append_assoc header]
  exact hholds

theorem Distinct.readable_service (h : Distinct labels host) (record : MdnsRecord) :
    ∀ entry ∈ serviceEntries labels, Readable (inMessage (ptrMessage labels record)) entry := by
  rw [ptrMessage, ← List.append_assoc]
  have hplain := (holds_append.mp (holds_type (fixed record ((wire labels).length + 2)))).1
  apply readable_reference
    (fun entry hentry => (readable_type entry hentry).mono fun _ _ => inMessage_append)
    h.isLabel (isLabel_typeLabels _ List.mem_cons_self) (by decide) hplain
  exact List.mem_cons_self

/-- The service's name is written behind the pointer's fixed part. -/
theorem Distinct.makeParts_service (h : Distinct labels host) (record : MdnsRecord) :
    makeParts 2048 (labels ++ typeLabels)
        { bytes := typeMessage ++ fixed record 0, table := tableOf typeEntries } =
      some
        { bytes := typeMessage ++ fixed record 0 ++ (wire labels ++ reference 12)
          table := tableOf (serviceEntries labels) } := by
  have hbase : (typeMessage ++ fixed record 0).length = nameOffset := rfl
  have hfour : nameOffset = 47 := rfl
  have hwire := h.length
  have hfresh : Fresh 2048 (typeMessage ++ fixed record 0) typeEntries labels typeLabels := by
    constructor
    · intro entry hentry
      exact (readable_type entry hentry).mono fun _ _ => inMessage_append
    · exact h.isLabel
    · omega
    · have hcount := h.count
      have hthree : typeEntries.length = 3 := rfl
      have hmax : maxSubstrings = 64 := rfl
      omega
    · intro i hi entry hentry
      exact not_type hi hentry
    · intro i j _ _ hbegins
      apply h.ne_type
      have hmem : dnsName "_tandemaudio".toList ∈ labels.drop j ++ typeLabels :=
        List.mem_append_right _ List.mem_cons_self
      exact List.mem_of_mem_take (List.mem_of_mem_drop (hbegins.subset hmem))
  rw [hfresh.makeParts_reference (List.cons_ne_nil _ _) (by omega) find_type, hbase,
    tableOf_marks [] typeLabels]
  rfl

/-- The pointer is the answer. -/
theorem Distinct.answerAddRecord_ptr (h : Distinct labels host)
    (hname : nameParts record.name = typeLabels) (hdata : record.data = .ptr name)
    (hservice : nameParts name = labels ++ typeLabels) :
    answerAddRecord 2048 record { bytes := header } =
      some { bytes := ptrMessage labels record, table := tableOf (serviceEntries labels) } := by
  have htxt : isTxt record = false := by
    rw [isTxt, hdata]
    rfl
  have howner : stringMake 2048 record.name { bytes := header } =
      some { bytes := typeMessage, table := tableOf typeEntries } := by
    rw [stringMake, hname, makeParts_type]
  have hadd : addData 2048 record.data
      { bytes := typeMessage ++ fixed record 0, table := tableOf typeEntries } =
        some
          { bytes := typeMessage ++ fixed record 0 ++ (wire labels ++ reference 12)
            table := tableOf (serviceEntries labels) } := by
    rw [hdata, addData, stringMake, hservice, h.makeParts_service]
  rw [answerAddRecord_eq htxt howner (by decide) hadd, List.length_append]
  rfl

variable {front : List UInt8} {port : UInt16} {address : UInt32} {rest : List (List UInt8)}
  {entries : List (Nat × List (List UInt8))} {target : Nat}

/-- A record under a name that is in the table. -/
theorem answerAddRecord_known {old : List (List UInt8)} {data : List UInt8}
    {table : MdnsStringTable} (htxt : isTxt record = false) (hname : nameParts record.name = old)
    (hreadable : ∀ entry ∈ entries, Readable (inMessage front) entry)
    (hcount : entries.length < maxSubstrings) (hold : old ≠ []) (hroom : front.length + 12 ≤ 2048)
    (hfind : (entries.find? fun entry => decide (old <+: entry.2)) = some (target, rest))
    (hdata : addData 2048 record.data
      { bytes := front ++ reference target ++ fixed record 0, table := tableOf entries } =
        some
          { bytes := front ++ reference target ++ fixed record 0 ++ data, table := table }) :
    answerAddRecord 2048 record { bytes := front, table := tableOf entries } =
      some
        { bytes := front ++ (reference target ++ (fixed record data.length ++ data))
          table := table } := by
  have howner : stringMake 2048 record.name { bytes := front, table := tableOf entries } =
      some { bytes := front ++ reference target, table := tableOf entries } := by
    rw [stringMake, hname]
    exact makeParts_known hreadable hcount hold (by omega) hfind
  rw [answerAddRecord_eq htxt howner _ hdata, List.append_assoc]
  rw [List.length_append, length_reference]
  omega

/-- The message up to the end of the service's target. -/
def srvMessage (labels : List (List UInt8)) (host : List UInt8) (ptr srv : MdnsRecord)
    (port : UInt16) : List UInt8 :=
  ptrMessage labels ptr ++ (reference nameOffset ++ (fixed srv (9 + host.length) ++
    (bytes16 0 ++ bytes16 0 ++ bytes16 port ++ (wire [host] ++ reference 30))))

theorem length_srvMessage (labels : List (List UInt8)) (host : List UInt8)
    (ptr srv : MdnsRecord) (port : UInt16) :
    (srvMessage labels host ptr srv port).length = 70 + (wire labels).length + host.length := by
  simp only [srvMessage, List.length_append, length_ptrMessage, length_reference, length_fixed,
    bytes16_length, wire_cons, wire_nil, List.append_nil, length_labelBytes]
  omega

theorem Distinct.readable_host (h : Distinct labels host) (ptr srv : MdnsRecord)
    (port : UInt16) : ∀ entry ∈ hostEntries labels host,
      Readable (inMessage (srvMessage labels host ptr srv port)) entry := by
  have hoffset : (ptrMessage labels ptr ++ (reference nameOffset ++
      (fixed srv (9 + host.length) ++ (bytes16 0 ++ bytes16 0 ++ bytes16 port)))).length =
        hostOffset labels := by
    simp only [List.length_append, length_ptrMessage, length_reference, length_fixed,
      bytes16_length, hostOffset]
    omega
  have hsplit : srvMessage labels host ptr srv port =
      ptrMessage labels ptr ++ (reference nameOffset ++
        (fixed srv (9 + host.length) ++ (bytes16 0 ++ bytes16 0 ++ bytes16 port))) ++
          (wire [host] ++ reference 30) := by
    simp only [srvMessage, List.append_assoc]
  have htype := holds_type (fixed ptr ((wire labels).length + 2) ++ (wire labels ++ reference 12) ++
    (reference nameOffset ++ (fixed srv (9 + host.length) ++
      (bytes16 0 ++ bytes16 0 ++ bytes16 port))))
  rw [← List.append_assoc, ← ptrMessage] at htype
  have hlocal := (holds_append.mp (holds_append.mp (holds_append.mp htype).2).2).1
  rw [hsplit, hostEntries, ← hoffset]
  apply readable_reference
    (fun entry hentry => (h.readable_service ptr entry hentry).mono fun _ _ => inMessage_append)
    (fun label hlabel => List.mem_singleton.mp hlabel ▸ h.host_isLabel)
    (isLabel_typeLabels localLabel (by decide)) (by decide) hlocal
  exact List.mem_append_left _ (by decide)

/-- The target of the service. -/
theorem Distinct.answerAddRecord_srv (h : Distinct labels host) (ptr : MdnsRecord)
    (hname : nameParts record.name = labels ++ typeLabels)
    (hdata : record.data = .srv 0 0 port name)
    (hhost : nameParts name = [host, localLabel]) :
    answerAddRecord 2048 record
        { bytes := ptrMessage labels ptr, table := tableOf (serviceEntries labels) } =
      some
        { bytes := srvMessage labels host ptr record port
          table := tableOf (hostEntries labels host) } := by
  have htxt : isTxt record = false := by
    rw [isTxt, hdata]
    rfl
  have hlength := h.length
  have hcount := h.count
  have hhostLength := h.host_isLabel.lt
  have hmax : maxSubstrings = 64 := rfl
  have hserviceCount : (serviceEntries labels).length = 3 + labels.length := by
    rw [serviceEntries, List.length_append, length_marks]
    rfl
  have hold : labels ++ typeLabels ≠ [] := by
    intro hnil
    exact h.ne_nil (List.append_eq_nil_iff.mp hnil).1
  have hfront : (ptrMessage labels ptr ++ reference nameOffset ++ fixed record 0 ++
      (bytes16 0 ++ bytes16 0 ++ bytes16 port)).length = hostOffset labels := by
    simp only [List.length_append, length_ptrMessage, length_reference, length_fixed,
      bytes16_length, hostOffset]
    omega
  have hfresh : Fresh 2048 (ptrMessage labels ptr ++ reference nameOffset ++ fixed record 0 ++
      (bytes16 0 ++ bytes16 0 ++ bytes16 port)) (serviceEntries labels) [host] [localLabel] := by
    constructor
    · intro entry hentry
      apply (h.readable_service ptr entry hentry).mono
      intro i byte hbyte
      rw [List.append_assoc, List.append_assoc]
      exact inMessage_append hbyte
    · intro label hlabel
      rw [List.mem_singleton.mp hlabel]
      exact h.host_isLabel
    · simp only [hfront, hostOffset, wire_cons, wire_nil, List.append_nil, length_labelBytes]
      omega
    · rw [hserviceCount, List.length_singleton]
      omega
    · intro i hi entry hentry
      rw [Nat.lt_one_iff.mp hi]
      exact h.not_host hentry (List.cons_ne_nil _ _)
    · intro i j hij hj
      exact absurd (hij.trans_le (Nat.lt_one_iff.mp hj).le) (Nat.not_lt_zero i)
  have hroom : (ptrMessage labels ptr ++ reference nameOffset ++ fixed record 0 ++
      (bytes16 0 ++ bytes16 0 ++ bytes16 port)).length + (wire [host]).length + 2 ≤ 2048 := by
    simp only [hfront, hostOffset, wire_cons, wire_nil, List.append_nil, length_labelBytes]
    omega
  have hadd : addData 2048 record.data
      { bytes := ptrMessage labels ptr ++ reference nameOffset ++ fixed record 0
        table := tableOf (serviceEntries labels) } =
      some
        { bytes := ptrMessage labels ptr ++ reference nameOffset ++ fixed record 0 ++
            (bytes16 0 ++ bytes16 0 ++ bytes16 port ++ (wire [host] ++ reference 30))
          table := tableOf (hostEntries labels host) } := by
    have hmake := hfresh.makeParts_reference (List.cons_ne_nil _ _) hroom find_local
    rw [hfront, tableOf_marks [] [localLabel]] at hmake
    rw [hdata, addData, if_neg, stringMake, hhost]
    · simp only [List.append_assoc] at hmake ⊢
      exact hmake
    · simp only [List.length_append, length_ptrMessage, length_reference, length_fixed]
      omega
  rw [answerAddRecord_known htxt hname (h.readable_service ptr) (by omega) hold _ h.find_service
    hadd]
  · have hdataLength : (bytes16 0 ++ bytes16 0 ++ bytes16 port ++
        (wire [host] ++ reference 30)).length = 9 + host.length := by
      simp only [List.length_append, bytes16_length, wire_cons, wire_nil, List.append_nil,
        length_labelBytes, length_reference]
      omega
    rw [hdataLength]
    rfl
  · rw [length_ptrMessage]
    omega

/-- The message up to the end of the host's address. -/
def addressMessage (labels : List (List UInt8)) (host : List UInt8) (ptr srv a : MdnsRecord)
    (port : UInt16) (address : UInt32) : List UInt8 :=
  srvMessage labels host ptr srv port ++
    (reference (hostOffset labels) ++ (fixed a 4 ++ bytes32 address))

theorem length_addressMessage (labels : List (List UInt8)) (host : List UInt8)
    (ptr srv a : MdnsRecord) (port : UInt16) (address : UInt32) :
    (addressMessage labels host ptr srv a port address).length =
      86 + (wire labels).length + host.length := by
  simp only [addressMessage, List.length_append, length_srvMessage, length_reference,
    length_fixed, bytes32_length]
  omega

theorem Distinct.length_hostEntries (h : Distinct labels host) :
    (hostEntries labels host).length < maxSubstrings := by
  have hcount := h.count
  have htype : typeEntries.length = 3 := rfl
  have hmax : maxSubstrings = 64 := rfl
  simp only [hostEntries, serviceEntries, List.length_append, length_marks, htype,
    List.length_singleton, hmax]
  omega

/-- The address of the host. -/
theorem Distinct.answerAddRecord_a (h : Distinct labels host) (ptr srv : MdnsRecord)
    (port : UInt16) (hname : nameParts record.name = [host, localLabel])
    (hdata : record.data = .a address) :
    answerAddRecord 2048 record
        { bytes := srvMessage labels host ptr srv port
          table := tableOf (hostEntries labels host) } =
      some
        { bytes := addressMessage labels host ptr srv record port address
          table := tableOf (hostEntries labels host) } := by
  have htxt : isTxt record = false := by
    rw [isTxt, hdata]
    rfl
  have hlength := h.length
  have hhostLength := h.host_isLabel.lt
  have hadd : addData 2048 record.data
      { bytes := srvMessage labels host ptr srv port ++ reference (hostOffset labels) ++
          fixed record 0
        table := tableOf (hostEntries labels host) } =
      some
        { bytes := srvMessage labels host ptr srv port ++ reference (hostOffset labels) ++
            fixed record 0 ++ bytes32 address
          table := tableOf (hostEntries labels host) } := by
    rw [hdata, addData, if_neg]
    simp only [List.length_append, length_srvMessage, length_reference, length_fixed]
    omega
  rw [answerAddRecord_known htxt hname (h.readable_host ptr srv port) h.length_hostEntries
    (List.cons_ne_nil _ _) _ h.find_host hadd]
  · rfl
  · rw [length_srvMessage]
    omega

end Message

section Announcement

variable {service : DiscoveryService} {labels : List (List UInt8)}

/-- The two strings that are announced. -/
def strings (service : DiscoveryService) : List UInt8 :=
  (9 :: dnsName "version=2".toList) ++
    ((5 + service.roomId.length).toUInt8 :: dnsName ("room=".toList ++ service.roomId))

theorem length_strings (service : DiscoveryService) :
    service.strings.length = 16 + service.roomId.length := by
  have hversion : (dnsName "version=2".toList).length = 9 := rfl
  have hroom : "room=".toList.length = 5 := rfl
  simp only [strings, List.length_append, List.length_cons, hversion]
  rw [dnsName, List.length_map, List.length_append, hroom]
  omega

/-- The labels of the service's name are distinct from the others, and the identifier fits. -/
structure Named (service : DiscoveryService) (labels : List (List UInt8)) : Prop where
  serviceParts : nameParts (dnsName service.serviceName) = labels ++ typeLabels
  hostParts : nameParts (dnsName service.qualifiedHost) = [dnsName service.hostname, localLabel]
  distinct : Distinct labels (dnsName service.hostname)
  id : service.roomId.length ≤ 250

/-- The message in front of its last record. -/
def untilAddress (service : DiscoveryService) (labels : List (List UInt8)) (rclass : UInt16)
    (ttl : UInt32) : List UInt8 :=
  addressMessage labels (dnsName service.hostname) (updateRclassTtl rclass ttl service.ptrRecord)
    (updateRclassTtl rclass ttl service.srvRecord)
    (updateRclassTtl rclass ttl service.addressRecord) service.port service.address

/-- The whole message. -/
def message (service : DiscoveryService) (labels : List (List UInt8)) (rclass : UInt16)
    (ttl : UInt32) : List UInt8 :=
  service.untilAddress labels rclass ttl ++ (reference nameOffset ++
    (fixed (updateRclassTtl rclass ttl service.versionRecord) (16 + service.roomId.length) ++
      service.strings))

theorem addStrings_eq {buffer : MdnsBuffer}
    (hroom : buffer.bytes.length + service.roomId.length + 20 ≤ 2048)
    (hid : service.roomId.length ≤ 250) :
    addStrings 2048 service.additional buffer =
      some { buffer with bytes := buffer.bytes ++ service.strings } := by
  have hversion : (dnsName "version".toList).length = 7 := rfl
  have htwo : (dnsName "2".toList).length = 1 := rfl
  have hkey : (dnsName "room".toList).length = 4 := rfl
  have hvalue : (dnsName service.roomId).length = service.roomId.length := List.length_map _
  have hone : (9 :: dnsName "version=2".toList).length = 10 := rfl
  have htext : dnsName ("room=".toList ++ service.roomId) =
      dnsName "room".toList ++ '='.toNat.toUInt8 :: dnsName service.roomId := by
    rw [dnsName, List.map_append]
    rfl
  have hfirst : (1 + 7 + 1).toUInt8 :: (dnsName "version".toList ++
      '='.toNat.toUInt8 :: dnsName "2".toList) = 9 :: dnsName "version=2".toList := by decide
  have hsecond : 4 + service.roomId.length + 1 = 5 + service.roomId.length := by omega
  simp only [additional, addStrings, srvRecord, addressRecord, versionRecord, roomRecord, hversion,
    htwo, hkey, hvalue]
  rw [if_neg (by omega), if_neg]
  · rw [strings, htext, hsecond, List.append_assoc]
    rfl
  · simp only [List.length_append, List.length_cons, hversion, htwo]
    omega

/-- The strings of both TXT records are one record under the service's name. -/
theorem Named.answerAddTxtRecord (h : Named service labels) (rclass : UInt16) (ttl : UInt32) :
    Mdns.answerAddTxtRecord 2048 service.additional rclass ttl
        { bytes := service.untilAddress labels rclass ttl
          table := tableOf (hostEntries labels (dnsName service.hostname)) } =
      some
        { bytes := service.message labels rclass ttl
          table := tableOf (hostEntries labels (dnsName service.hostname)) } := by
  have hd := h.distinct
  have hlength := hd.length
  have hhostLength := hd.host_isLabel.lt
  have hid := h.id
  have hfront : (service.untilAddress labels rclass ttl).length =
      86 + (wire labels).length + (dnsName service.hostname).length :=
    length_addressMessage _ _ _ _ _ _ _
  have hreadable : ∀ entry ∈ hostEntries labels (dnsName service.hostname),
      Readable (inMessage (service.untilAddress labels rclass ttl)) entry := by
    intro entry hentry
    rw [untilAddress, addressMessage]
    exact (hd.readable_host _ _ _ entry hentry).mono fun _ _ => inMessage_append
  have hfind : ((hostEntries labels (dnsName service.hostname)).find? fun entry =>
      decide (labels ++ typeLabels <+: entry.2)) = some (nameOffset, labels ++ typeLabels) := by
    rw [hostEntries, List.find?_append, hd.find_service]
    rfl
  have hold : labels ++ typeLabels ≠ [] := by
    intro hnil
    exact hd.ne_nil (List.append_eq_nil_iff.mp hnil).1
  have howner : stringMake 2048 (updateRclassTtl rclass ttl service.versionRecord).name
      { bytes := service.untilAddress labels rclass ttl
        table := tableOf (hostEntries labels (dnsName service.hostname)) } =
      some
        { bytes := service.untilAddress labels rclass ttl ++ reference nameOffset
          table := tableOf (hostEntries labels (dnsName service.hostname)) } := by
    have hname : nameParts (updateRclassTtl rclass ttl service.versionRecord).name =
        labels ++ typeLabels := h.serviceParts
    rw [stringMake, hname]
    exact makeParts_known hreadable hd.length_hostEntries hold (by omega) hfind
  have hstart : (service.untilAddress labels rclass ttl ++ reference nameOffset).length + 10 ≤
      2048 := by
    rw [List.length_append, length_reference]
    omega
  have hfill := fillLength_eq (tableOf (hostEntries labels (dnsName service.hostname)))
    (service.untilAddress labels rclass ttl ++ reference nameOffset ++
      (bytes16 (recordType (updateRclassTtl rclass ttl service.versionRecord).data) ++
        bytes16 (updateRclassTtl rclass ttl service.versionRecord).rclass ++
        bytes32 (updateRclassTtl rclass ttl service.versionRecord).ttl)) service.strings
  have hfound : service.additional.find? isTxt = some service.versionRecord := rfl
  rw [Mdns.answerAddTxtRecord, hfound]
  simp only
  rw [answerAddRecordHeader_eq howner hstart]
  simp only [Option.bind_eq_bind, Option.bind_some]
  rw [addStrings_eq (by simp only [List.length_append, length_reference, length_fixed]; omega) hid]
  simp only [Option.bind_some]
  rw [length_strings] at hfill
  simp only [fixed, message, List.append_assoc] at hfill ⊢
  exact congrArg some hfill

/-- What is sent for the service, with any class and time to live. -/
theorem Named.answerMulticast (h : Named service labels) (rclass : UInt16) (ttl : UInt32) :
    answerMulticastRclassTtl 2048 service.ptrRecord [] service.additional rclass ttl =
      some (service.message labels rclass ttl) := by
  have hd := h.distinct
  have htypeName : nameParts (updateRclassTtl rclass ttl service.ptrRecord).name = typeLabels :=
    show nameParts (dnsName serviceType) = typeLabels by decide +kernel
  have hsrvName : nameParts (updateRclassTtl rclass ttl service.srvRecord).name =
      labels ++ typeLabels := h.serviceParts
  have haName : nameParts (updateRclassTtl rclass ttl service.addressRecord).name =
      [dnsName service.hostname, localLabel] := h.hostParts
  have hptr := hd.answerAddRecord_ptr htypeName rfl h.serviceParts
  have hsrv := hd.answerAddRecord_srv (updateRclassTtl rclass ttl service.ptrRecord) hsrvName rfl
    h.hostParts
  have ha := hd.answerAddRecord_a (updateRclassTtl rclass ttl service.ptrRecord)
    (updateRclassTtl rclass ttl service.srvRecord) service.port haName rfl
  have htxt := h.answerAddTxtRecord rclass ttl
  have hauthority (buffer : MdnsBuffer) :
      Mdns.answerAddTxtRecord 2048 [] rclass ttl buffer = some buffer := rfl
  have hversion (buffer : MdnsBuffer) :
      answerAddRecord 2048 (updateRclassTtl rclass ttl service.versionRecord) buffer =
        some buffer := rfl
  have hroom (buffer : MdnsBuffer) :
      answerAddRecord 2048 (updateRclassTtl rclass ttl service.roomRecord) buffer =
        some buffer := rfl
  rw [untilAddress] at htxt
  rw [answerMulticastRclassTtl, if_neg (by decide)]
  change (answerAddRecord 2048 (updateRclassTtl rclass ttl service.ptrRecord)
    { bytes := header }).bind _ = _
  rw [hptr]
  simp only [Option.bind_some, addRecords, hauthority, additional, hsrv, ha, hversion, hroom,
    Option.bind_eq_bind]
  rw [additional] at htxt
  rw [htxt]
  rfl

theorem Named.announce (h : Named service labels) : service.announce false =
    some (service.message labels (classIn ||| cacheFlush) 60) := by
  rw [DiscoveryService.announce, if_neg Bool.false_ne_true, announceMulticast, h.answerMulticast]

theorem Named.goodbye (h : Named service labels) :
    service.announce true = some (service.message labels classIn 0) := by
  rw [DiscoveryService.announce, if_pos rfl, goodbyeMulticast, h.answerMulticast]

theorem Named.answer (h : Named service labels) :
    service.answer = some (service.message labels classIn 60) := by
  rw [DiscoveryService.answer, queryAnswerMulticast, h.answerMulticast]

end Announcement

section Names

variable {roomName roomId : Text} {service : DiscoveryService}

/-- A byte of a hostname. -/
def HostCharacter (c : Char) : Prop := c.toNat < 128 ∧ c ≠ '.' ∧ c ≠ '_'

theorem hostCharacter_byte (byte : UInt8) :
    HostCharacter (if isAlnum byte then Char.ofNat byte.toNat else '-') := by
  have hall : ∀ n : Fin 256, (if isAlnum (UInt8.ofNat n) then Char.ofNat (UInt8.ofNat n).toNat
      else '-').toNat < 128 ∧ (if isAlnum (UInt8.ofNat n) then Char.ofNat (UInt8.ofNat n).toNat
      else '-') ≠ '.' ∧ (if isAlnum (UInt8.ofNat n) then Char.ofNat (UInt8.ofNat n).toNat
      else '-') ≠ '_' := by
    decide +kernel
  have hbyte := hall ⟨byte.toNat, byte.toNat_lt⟩
  rw [UInt8.ofNat_toNat] at hbyte
  exact hbyte

theorem localHostname_ne_nil (name : List UInt8) : localHostname name ≠ [] := by
  rw [localHostname]
  split_ifs with h
  · exact fun hnil => absurd (congrArg List.length hnil) (by decide)
  · exact h

theorem localHostname_length (name : List UInt8) : (localHostname name).length ≤ 48 := by
  rw [localHostname]
  split_ifs with h
  · decide
  · rw [List.length_map, List.length_take]
    exact Nat.min_le_left _ _

theorem localHostname_character (name : List UInt8) :
    ∀ c ∈ localHostname name, HostCharacter c := by
  rw [localHostname]
  split_ifs with h
  · have hall : ∀ c ∈ "tandem-host".toList, c.toNat < 128 ∧ c ≠ '.' ∧ c ≠ '_' :=
      forall_of_check rfl
    exact hall
  · intro c hc
    obtain ⟨byte, -, rfl⟩ := List.mem_map.mp hc
    exact hostCharacter_byte byte

/-- What a service was built from. -/
theorem of_create {gethostname : Option (List UInt8)} {getaddrinfo : Text → Option (List UInt32)}
    {controlPort : UInt16}
    (h : create gethostname getaddrinfo controlPort roomName roomId = .ok service) :
    (∃ name, service.hostname = localHostname name) ∧
      service.port = controlPort ∧ controlPort ≠ 0 ∧
      service.qualifiedHost = service.hostname ++ ".local.".toList ∧
      service.serviceName = instanceName roomName service.hostname ++ '.' :: serviceType ∧
      service.roomId = roomId := by
  unfold create at h
  by_cases hport : controlPort = 0
  · rw [if_pos hport] at h
    cases h
  · rw [if_neg hport] at h
    cases gethostname with
    | none => cases h
    | some name =>
        simp only at h
        cases hinfo : getaddrinfo (localHostname name) with
        | none =>
            rw [hinfo] at h
            cases h
        | some addresses =>
            rw [hinfo] at h
            simp only at h
            cases haddress : localIPv4 addresses with
            | none =>
                rw [haddress] at h
                cases h
            | some address =>
                rw [haddress] at h
                cases h
                exact ⟨⟨name, rfl⟩, rfl, hport, rfl, rfl, rfl⟩

theorem dnsName_append (a b : Text) : dnsName (a ++ b) = dnsName a ++ dnsName b :=
  List.map_append

theorem length_dnsName (a : Text) : (dnsName a).length = a.length := List.length_map _

/-- A character that is no dot is no dot on the wire. -/
theorem byte_ne_dot {c : Char} (hascii : c.toNat < 128) (hdot : c ≠ '.') :
    c.toNat.toUInt8 ≠ dot := by
  intro heq
  apply hdot
  apply Char.toNat_inj.mp
  have hnat := congrArg UInt8.toNat heq
  rw [toUInt8_toNat (by omega)] at hnat
  exact hnat

theorem byte_inj {c d : Char} (hc : c.toNat < 128) (hd : d.toNat < 128)
    (h : c.toNat.toUInt8 = d.toNat.toUInt8) : c = d := by
  apply Char.toNat_inj.mp
  have hnat := congrArg UInt8.toNat h
  rw [toUInt8_toNat (by omega), toUInt8_toNat (by omega)] at hnat
  exact hnat

/-- The hostname is one label, and none of the service type. -/
structure HostLabel (host : List UInt8) : Prop where
  isLabel : IsLabel host
  noDot : dot ∉ host
  ne_type : host ∉ typeLabels.take 2

theorem hostLabel (name : List UInt8) : HostLabel (dnsName (localHostname name)) := by
  have hcharacter := localHostname_character name
  constructor
  · constructor
    · rw [length_dnsName]
      exact List.length_pos_iff.mpr (localHostname_ne_nil name)
    · rw [length_dnsName]
      exact (localHostname_length name).trans_lt (by decide)
  · intro hmem
    obtain ⟨c, hc, hbyte⟩ := List.mem_map.mp hmem
    exact byte_ne_dot (hcharacter c hc).1 (hcharacter c hc).2.1 hbyte
  · have hunderscore : '_'.toNat.toUInt8 ∉ dnsName (localHostname name) := by
      intro hmem
      obtain ⟨c, hc, hbyte⟩ := List.mem_map.mp hmem
      exact (hcharacter c hc).2.2 (byte_inj (hcharacter c hc).1 (by decide) hbyte)
    have hall : ∀ label ∈ typeLabels.take 2, '_'.toNat.toUInt8 ∈ label := by decide
    intro hmem
    exact hunderscore (hall _ hmem)

/-- A name under which a room can be announced: printable, without an empty part, and no part
of it is the service type's first label or the hostname. -/
structure Admissible (roomName hostname : Text) : Prop where
  length : roomName.length ≤ 48
  printable : ∀ c ∈ roomName, 32 ≤ c.toNat ∧ c.toNat ≤ 126
  parts : ∀ part ∈ parts (dnsName (instanceName roomName hostname)),
    part ≠ [] ∧ part ≠ dnsName "_tandemaudio".toList ∧ part ≠ dnsName hostname

/-- What is left of the hostname at the end of a service's name. -/
def hostTail (roomName hostname : Text) : Text :=
  " on ".toList ++ hostname.take (59 - roomName.length)

theorem instanceName_eq (hlength : roomName.length ≤ 48) (hostname : Text) :
    instanceName roomName hostname = roomName ++ hostTail roomName hostname := by
  have hfour : " on ".toList.length = 4 := rfl
  rw [instanceName, hostTail, List.append_assoc, List.take_append,
    List.take_of_length_le (show roomName.length ≤ 63 by omega), List.take_append,
    List.take_of_length_le (show " on ".toList.length ≤ 63 - roomName.length by omega), hfour]
  congr 3
  omega

theorem hostTail_noDot {hostname : Text} (h : ∀ c ∈ hostname, HostCharacter c) :
    dot ∉ dnsName (hostTail roomName hostname) := by
  intro hmem
  obtain ⟨c, hc, hbyte⟩ := List.mem_map.mp hmem
  cases List.mem_append.mp hc with
  | inl hon =>
      have hall : ∀ c ∈ " on ".toList, c.toNat.toUInt8 ≠ dot := forall_of_check rfl
      exact hall c hon hbyte
  | inr hhost =>
      have hcharacter := h c (List.mem_of_mem_take hhost)
      exact byte_ne_dot hcharacter.1 hcharacter.2.1 hbyte

theorem hostTail_ne_nil (roomName hostname : Text) : dnsName (hostTail roomName hostname) ≠ [] :=
  List.cons_ne_nil _ _

theorem getLast?_instance {hostname : Text} (hlength : roomName.length ≤ 48)
    (h : ∀ c ∈ hostname, HostCharacter c) :
    (dnsName (instanceName roomName hostname)).getLast? ≠ some dot := by
  rw [instanceName_eq hlength, dnsName_append, List.getLast?_append_of_ne_nil _
    (hostTail_ne_nil roomName hostname)]
  intro hlast
  exact hostTail_noDot h (List.mem_of_getLast? hlast)

/-- A service with an admissible name has distinct labels. -/
theorem Admissible.named {gethostname : Option (List UInt8)}
    {getaddrinfo : Text → Option (List UInt32)} {controlPort : UInt16}
    (hcreate : create gethostname getaddrinfo controlPort roomName roomId = .ok service)
    (h : Admissible roomName service.hostname) (hid : roomId.length ≤ 250) :
    Named service (Mdns.parts (dnsName (instanceName roomName service.hostname))) := by
  obtain ⟨⟨name, hhost⟩, -, -, hqualified, hservice, hroomId⟩ := of_create hcreate
  have hcharacter : ∀ c ∈ service.hostname, HostCharacter c := hhost ▸ localHostname_character name
  have hlabel : HostLabel (dnsName service.hostname) := hhost ▸ hostLabel name
  have hinstance := instanceName_eq h.length service.hostname
  have hne : dnsName (instanceName roomName service.hostname) ≠ [] := by
    rw [hinstance, dnsName_append]
    exact List.append_ne_nil_of_right_ne_nil _ (hostTail_ne_nil _ _)
  have hlast := getLast?_instance h.length hcharacter
  have hwire := length_wire_parts hne hlast
  have hcut : (instanceName roomName service.hostname).length ≤ 63 := by
    rw [instanceName, List.length_take]
    exact Nat.min_le_left _ _
  rw [length_dnsName] at hwire
  constructor
  · have htail : dnsName (instanceName roomName service.hostname ++ '.' :: serviceType) =
        dnsName (instanceName roomName service.hostname) ++
          dot :: dnsName "_tandemaudio._tcp.local".toList ++ [dot] := by
      rw [dnsName_append, List.append_assoc]
      rfl
    rw [hservice, nameParts, htail, if_pos List.getLast?_concat, List.dropLast_concat,
      parts_append_dot hne hlast]
    congr 1
  · have htail : dnsName (service.hostname ++ ".local.".toList) =
        dnsName service.hostname ++ dot :: localLabel ++ [dot] := by
      rw [dnsName_append, List.append_assoc]
      rfl
    have hhostNe : dnsName service.hostname ≠ [] := List.length_pos_iff.mp hlabel.isLabel.pos
    have hhostLast : (dnsName service.hostname).getLast? ≠ some dot :=
      fun hlast => hlabel.noDot (List.mem_of_getLast? hlast)
    rw [hqualified, nameParts, htail, if_pos List.getLast?_concat, List.dropLast_concat,
      parts_append_dot hhostNe hhostLast, parts_of_noDot hhostNe hlabel.noDot]
    congr 1
  · obtain ⟨first, last, hparts⟩ := parts_append_noDot (dnsName roomName)
      (hostTail_ne_nil roomName service.hostname) (hostTail_noDot hcharacter)
    rw [← dnsName_append, ← hinstance] at hparts
    constructor
    · rw [hparts]
      exact List.append_ne_nil_of_right_ne_nil _ (List.cons_ne_nil _ _)
    · intro label hmem
      have hle := length_le_wire hmem
      exact ⟨List.length_pos_iff.mpr (h.parts label hmem).1, by omega⟩
    · exact fun hmem => (h.parts _ hmem).2.1 rfl
    · exact fun hmem => (h.parts _ hmem).2.2 rfl
    · omega
    · have htwo : 2 * first.length ≤ (wire first).length :=
        two_mul_length_le_wire fun label hmem =>
          (h.parts label (hparts ▸ List.mem_append_left _ hmem)).1
      have htotal := hwire
      have hroom := h.length
      rw [hparts] at htotal ⊢
      rw [hinstance] at htotal
      simp only [wire_append, wire_cons, wire_nil, List.append_nil, List.length_append,
        length_labelBytes, length_dnsName, List.length_singleton] at htotal ⊢
      omega
    · exact hlabel.isLabel
    · exact hlabel.ne_type
  · exact hroomId ▸ hid

end Names

end DiscoveryService

end SyncAudio
