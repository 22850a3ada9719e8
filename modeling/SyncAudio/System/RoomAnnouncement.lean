import SyncAudio.Desktop.DiscoveryService
import SyncAudio.Desktop.RoomDiscovery

/-!
# Announcements as the browser reads them

The host shortens its names in C, the browser follows the references in C#. Every message the
host sends for its room is read to its end: an announcement teaches the browser the room's
name, identifier, address and port as the host has them, a goodbye teaches it nothing.

## Implementation notes

The class of the records is free, since the browser does not read it; so the announcements and
the answers to the browser's own question are read alike.
-/

namespace SyncAudio.RoomAnnouncement

open BigEndian DomainName DiscoveryService

section Reader

variable {bytes : List UInt8} {offset reads stop : Nat} {labels : List (List UInt8)}

/-- The text of a name. -/
def nameText (labels : List (List UInt8)) : Text :=
  List.intercalate ['.'] (labels.map RoomDiscovery.getString)

/-- The reader's loop gathers the labels of the name. -/
theorem nameLoop_spells (h : Spells (inMessage bytes) offset labels reads stop) {count : Nat}
    (hreads : reads ≤ count) (resume : Option Nat) (before : List Text) :
    RoomDiscovery.nameLoop bytes count offset resume before =
      some (List.intercalate ['.'] (before ++ labels.map RoomDiscovery.getString),
        resume.getD stop) := by
  induction h generalizing count resume before with
  | @root offset h =>
      obtain ⟨count, rfl⟩ := Nat.exists_eq_add_of_le' hreads
      rw [inMessage] at h
      rw [RoomDiscovery.nameLoop, h]
      simp
  | @label offset label labels reads stop hlabel h hrest ih =>
      obtain ⟨count, rfl⟩ := Nat.exists_eq_add_of_le' ((Nat.le_add_left 1 reads).trans hreads)
      obtain ⟨hlength, hlabelBytes⟩ := holds_cons.mp h
      rw [inMessage] at hlength
      have hnat : label.length.toUInt8.toNat = label.length :=
        toUInt8_toNat (hlabel.lt.trans (by decide))
      have hslice : RoomDiscovery.slice bytes (offset + 1) label.length = label := hlabelBytes.slice
      have hfits := hlabelBytes.length_le (List.length_pos_iff.mp hlabel.pos)
      have hbounds : ¬ (63 < label.length.toUInt8 ∨
          bytes.length < offset + 1 + label.length.toUInt8.toNat) := by
        rw [hnat, UInt8.lt_iff_toNat_lt, hnat]
        have hlt := hlabel.lt
        change ¬ (63 < label.length ∨ _)
        omega
      rw [RoomDiscovery.nameLoop, hlength]
      simp only
      rw [if_neg (length_ne_zero hlabel.pos hlabel.lt), if_neg (plain_length hlabel.lt),
        if_neg hbounds, hnat, hslice, ih (Nat.le_of_succ_le_succ hreads)]
      simp
  | @reference offset target label labels reads stop htarget h hlabel hplain hrest ih =>
      obtain ⟨count, rfl⟩ := Nat.exists_eq_add_of_le' ((Nat.le_add_left 1 reads).trans hreads)
      rw [reference_eq htarget] at h
      have hhigh := h 0 _ rfl
      have hlow := h 1 _ rfl
      rw [inMessage, Nat.add_zero] at hhigh
      rw [inMessage] at hlow
      have hin := hplain.length_le (List.cons_ne_nil _ _)
      rw [length_labelBytes] at hin
      rw [RoomDiscovery.nameLoop, hhigh]
      simp only
      rw [if_neg (reference_ne_zero htarget), if_pos (reference_marked htarget), hlow]
      simp only [reference_target htarget]
      rw [if_neg (by omega), ih (Nat.le_of_succ_le_succ hreads)]
      simp

theorem name_spells (h : Spells (inMessage bytes) offset labels reads stop) (hreads : reads ≤ 32) :
    RoomDiscovery.name bytes offset = some (nameText labels, stop) :=
  nameLoop_spells h hreads none []

theorem u16_holds {value : UInt16} (h : Holds (inMessage bytes) offset (bytes16 value)) :
    RoomDiscovery.u16 bytes offset = some value := by
  have hhigh := h 0 _ rfl
  have hlow := h 1 _ rfl
  rw [inMessage, Nat.add_zero] at hhigh
  rw [inMessage] at hlow
  rw [RoomDiscovery.u16, hhigh, hlow]
  exact congrArg some (join16_split value)

theorem u32_holds {value : UInt32} (h : Holds (inMessage bytes) offset (bytes32 value)) :
    RoomDiscovery.u32 bytes offset = some value := by
  obtain ⟨hhigh, hlow⟩ := holds_append.mp h
  have hlowAt : RoomDiscovery.u16 bytes (offset + 2) = some value.toUInt16 := u16_holds hlow
  rw [RoomDiscovery.u32, u16_holds hhigh, hlowAt]
  exact congrArg some (join32_split value)

/-- A record whose name and fixed part stand in the message. -/
theorem readRecord_spells {record : MdnsRecord} {length : Nat}
    (hname : Spells (inMessage bytes) offset labels reads stop) (hreads : reads ≤ 32)
    (hfixed : Holds (inMessage bytes) stop (Mdns.fixed record length)) (hlength : length < 65536)
    (hdata : stop + 10 + length ≤ bytes.length) :
    RoomDiscovery.readRecord bytes offset =
      some
        { owner := nameText labels
          type := Mdns.recordType record.data
          ttl := record.ttl
          length := length
          cursor := stop + 10 } := by
  obtain ⟨hfront, hlengthBytes⟩ := holds_append.mp hfixed
  obtain ⟨hfront, httl⟩ := holds_append.mp hfront
  obtain ⟨htype, -⟩ := holds_append.mp hfront
  have hnat : length.toUInt16.toNat = length := Nat.mod_eq_of_lt hlength
  rw [RoomDiscovery.readRecord, name_spells hname hreads]
  simp only [Option.bind_eq_bind, Option.bind_some]
  rw [if_neg (by omega), u16_holds htype]
  simp only [Option.bind_some]
  have httlAt : RoomDiscovery.u32 bytes (stop + 4) = some record.ttl := u32_holds httl
  have hlengthAt : RoomDiscovery.u16 bytes (stop + 8) = some length.toUInt16 :=
    u16_holds hlengthBytes
  rw [httlAt, hlengthAt]
  simp only [Option.bind_some, hnat]
  rw [if_neg (by omega)]

end Reader

section Records

variable {bytes : List UInt8} (record : DnsRecord) {learned : LearnedRecords} {service host : Text}
  {stop : Nat} {port : UInt16}

theorem learn_ptr (htype : record.type = 12)
    (howner : RoomDiscovery.equalsIgnoreCase record.owner RoomDiscovery.serviceType = true)
    (hname : RoomDiscovery.name bytes record.cursor = some (service, stop)) :
    RoomDiscovery.learn bytes record learned =
      some
        { learned with
          services :=
            if service ∈ learned.services then learned.services
            else learned.services ++ [service] } := by
  rw [RoomDiscovery.learn, if_pos ⟨htype, howner⟩, hname]
  simp only [Option.bind_eq_bind, Option.bind_some]
  split_ifs with hmem
  · rfl
  · rfl

theorem learn_srv (htype : record.type = 33) (hlength : 6 ≤ record.length)
    (hname : RoomDiscovery.name bytes (record.cursor + 6) = some (host, stop))
    (hport : RoomDiscovery.u16 bytes (record.cursor + 4) = some port) :
    RoomDiscovery.learn bytes record learned =
      some { learned with targets := learned.targets.assign record.owner (host, port) } := by
  have hptr : ¬ (record.type = 12 ∧
      RoomDiscovery.equalsIgnoreCase record.owner RoomDiscovery.serviceType = true) := by
    rw [htype]
    exact fun h => absurd h.1 (by decide)
  rw [RoomDiscovery.learn, if_neg hptr, if_pos ⟨htype, hlength⟩, hname, hport]
  rfl

theorem learn_a (htype : record.type = 1) (hlength : record.length = 4) :
    RoomDiscovery.learn bytes record learned =
      some
        { learned with
          addresses :=
            learned.addresses.assign record.owner
              (RoomDiscovery.addressText (RoomDiscovery.slice bytes record.cursor 4)) } := by
  have hother : record.type ≠ 12 ∧ record.type ≠ 33 := by
    rw [htype]
    decide
  rw [RoomDiscovery.learn, if_neg fun h => hother.1 h.1, if_neg fun h => hother.2 h.1,
    if_pos ⟨htype, hlength⟩]

theorem learn_txt (htype : record.type = 16) :
    RoomDiscovery.learn bytes record learned =
      some
        { learned with
          identifiers :=
            RoomDiscovery.readTexts record.owner record.length
              (RoomDiscovery.slice bytes record.cursor record.length) learned.identifiers } := by
  have hother : record.type ≠ 12 ∧ record.type ≠ 33 ∧ record.type ≠ 1 := by
    rw [htype]
    decide
  rw [RoomDiscovery.learn, if_neg fun h => hother.1 h.1, if_neg fun h => hother.2.1 h.1,
    if_neg fun h => hother.2.2 h.1, if_pos htype]

end Records

section Text

variable {text : Text}

theorem utf8Head_ascii {c : Char} (h : c.toNat < 128) :
    RoomDiscovery.utf8Head c.toNat.toUInt8 = ([c], none) := by
  have hnat : c.toNat.toUInt8.toNat = c.toNat := toUInt8_toNat (by omega)
  have hlt : c.toNat.toUInt8 < 0x80 := by
    rw [UInt8.lt_iff_toNat_lt, hnat]
    exact h
  rw [RoomDiscovery.utf8Head, if_pos hlt, hnat, Char.ofNat_toNat]

theorem getString_cons {c : Char} (h : c.toNat < 128) (bytes : List UInt8) :
    RoomDiscovery.getString (c.toNat.toUInt8 :: bytes) =
      c :: RoomDiscovery.getString bytes := by
  rw [RoomDiscovery.getString, RoomDiscovery.utf8Rest, utf8Head_ascii h]
  rfl

/-- ASCII text is read as it was written. -/
theorem getString_dnsName (h : ∀ c ∈ text, c.toNat < 128) :
    RoomDiscovery.getString (dnsName text) = text := by
  induction text with
  | nil => rfl
  | cons c text ih =>
      have hrest := ih fun d hd => h d (List.mem_cons_of_mem c hd)
      rw [dnsName, List.map_cons, getString_cons (h c List.mem_cons_self)]
      exact congrArg (List.cons c) hrest

/-- The parts of a name, joined again. -/
theorem nameText_parts (h : ∀ c ∈ text, c.toNat < 128) (hne : text ≠ [])
    (hlast : (dnsName text).getLast? ≠ some Mdns.dot) :
    nameText (Mdns.parts (dnsName text)) = text := by
  induction text with
  | nil => exact absurd rfl hne
  | cons c text ih =>
      have hc := h c List.mem_cons_self
      have hrest : ∀ d ∈ text, d.toNat < 128 := fun d hd => h d (List.mem_cons_of_mem c hd)
      cases text with
      | nil =>
          have hbyte : c.toNat.toUInt8 ≠ Mdns.dot := fun heq => hlast (heq ▸ rfl)
          have hparts : Mdns.parts (dnsName [c]) = [dnsName [c]] := if_neg hbyte
          rw [hparts, nameText, List.map_cons, getString_dnsName h]
          rfl
      | cons d text =>
          have hnext := ih hrest (List.cons_ne_nil _ _) (by simpa [dnsName] using hlast)
          have hparts : Mdns.parts (dnsName (d :: text)) ≠ [] := by
            intro hnil
            rw [hnil] at hnext
            exact absurd hnext (by simp [nameText])
          have hcons : dnsName (c :: d :: text) = c.toNat.toUInt8 :: dnsName (d :: text) := rfl
          rw [hcons, Mdns.parts]
          split_ifs with hbyte
          · have hdot : c = '.' := byte_inj hc (by decide) hbyte
            cases hsplit : Mdns.parts (dnsName (d :: text)) with
            | nil => exact absurd hsplit hparts
            | cons part others =>
                rw [hsplit] at hnext
                rw [nameText, List.map_cons, List.map_cons, List.intercalate_cons_cons,
                  ← List.map_cons, ← nameText, hnext, hdot]
                rfl
          · cases hsplit : Mdns.parts (dnsName (d :: text)) with
            | nil => exact absurd hsplit hparts
            | cons part others =>
                rw [hsplit] at hnext
                simp only
                rw [nameText, List.map_cons, getString_cons hc]
                rw [nameText, List.map_cons] at hnext
                rw [← hnext]
                cases others with
                | nil => simp
                | cons other others => simp [List.intercalate_cons_cons]

end Text

section Layout

variable {service : DiscoveryService} {labels : List (List UInt8)} {bytes : List UInt8}
  {rclass : UInt16} {ttl : UInt32}

/-- Where the parts of a message stand. -/
structure Laid (service : DiscoveryService) (labels : List (List UInt8)) (rclass : UInt16)
    (ttl : UInt32) (bytes : List UInt8) : Prop where
  header : Holds (inMessage bytes) 0 DiscoveryService.header
  typeName : Holds (inMessage bytes) 12 (wire typeLabels)
  typeEnd : Holds (inMessage bytes) 36 [0]
  ptr : Holds (inMessage bytes) 37
    (Mdns.fixed (Mdns.updateRclassTtl rclass ttl service.ptrRecord) ((wire labels).length + 2))
  serviceName : Holds (inMessage bytes) 47 (wire labels)
  serviceEnd : Holds (inMessage bytes) (47 + (wire labels).length) (reference 12)
  srvName : Holds (inMessage bytes) (49 + (wire labels).length) (reference 47)
  srv : Holds (inMessage bytes) (51 + (wire labels).length)
    (Mdns.fixed (Mdns.updateRclassTtl rclass ttl service.srvRecord)
      (9 + (dnsName service.hostname).length))
  port : Holds (inMessage bytes) (65 + (wire labels).length) (bytes16 service.port)
  hostName : Holds (inMessage bytes) (67 + (wire labels).length) (wire [dnsName service.hostname])
  hostEnd : Holds (inMessage bytes)
    (68 + (wire labels).length + (dnsName service.hostname).length) (reference 30)
  aName : Holds (inMessage bytes) (70 + (wire labels).length + (dnsName service.hostname).length)
    (reference (67 + (wire labels).length))
  a : Holds (inMessage bytes) (72 + (wire labels).length + (dnsName service.hostname).length)
    (Mdns.fixed (Mdns.updateRclassTtl rclass ttl service.addressRecord) 4)
  address : Holds (inMessage bytes)
    (82 + (wire labels).length + (dnsName service.hostname).length) (bytes32 service.address)
  txtName : Holds (inMessage bytes)
    (86 + (wire labels).length + (dnsName service.hostname).length) (reference 47)
  txt : Holds (inMessage bytes) (88 + (wire labels).length + (dnsName service.hostname).length)
    (Mdns.fixed (Mdns.updateRclassTtl rclass ttl service.versionRecord)
      (16 + service.roomId.length))
  strings : Holds (inMessage bytes) (98 + (wire labels).length + (dnsName service.hostname).length)
    service.strings
  length : bytes.length =
    114 + (wire labels).length + (dnsName service.hostname).length + service.roomId.length

theorem length_message (service : DiscoveryService) (labels : List (List UInt8))
    (rclass : UInt16) (ttl : UInt32) : (service.message labels rclass ttl).length =
      114 + (wire labels).length + (dnsName service.hostname).length + service.roomId.length := by
  simp only [message, untilAddress, List.length_append, length_addressMessage, length_reference,
    Mdns.length_fixed, length_strings]
  omega

theorem laid_of_holds (hlength : bytes.length =
      114 + (wire labels).length + (dnsName service.hostname).length + service.roomId.length)
    (h : Holds (inMessage bytes) 0 (service.message labels rclass ttl)) :
    Laid service labels rclass ttl bytes := by
  have hat {m n : Nat} {piece : List UInt8} (h : Holds (inMessage bytes) m piece) (hmn : m = n) :
      Holds (inMessage bytes) n piece := hmn ▸ h
  obtain ⟨haddress, htxtName, htxt, hstrings⟩ :=
    (holds_append.mp h).imp id fun h => (holds_append.mp h).imp id holds_append.mp
  obtain ⟨hsrvMessage, haName, ha, haddress⟩ :=
    (holds_append.mp haddress).imp id fun h => (holds_append.mp h).imp id holds_append.mp
  obtain ⟨hptrMessage, hsrvName, hsrv, hdata⟩ :=
    (holds_append.mp hsrvMessage).imp id fun h => (holds_append.mp h).imp id holds_append.mp
  obtain ⟨⟨-, hport⟩, hhostName, hhostEnd⟩ :=
    (holds_append.mp hdata).imp holds_append.mp holds_append.mp
  obtain ⟨htype, hptr, hserviceName, hserviceEnd⟩ :=
    (holds_append.mp hptrMessage).imp id fun h => (holds_append.mp h).imp id holds_append.mp
  obtain ⟨hheader, htypeName, htypeEnd⟩ := (holds_append.mp htype).imp id holds_append.mp
  simp only [length_ptrMessage, length_srvMessage, length_reference, Mdns.length_fixed,
    bytes16_length, List.length_append, wire_cons, wire_nil, List.append_nil, length_labelBytes,
    untilAddress, length_addressMessage] at *
  constructor
  · exact hheader
  · exact htypeName
  · exact htypeEnd
  · exact hptr
  · exact hserviceName
  · exact hserviceEnd
  · exact hat hsrvName (by omega)
  · exact hat hsrv (by omega)
  · exact hat hport (by omega)
  · simpa using hat hhostName (by omega)
  · exact hat hhostEnd (by omega)
  · exact hat haName (by omega)
  · exact hat ha (by omega)
  · exact hat haddress (by omega)
  · exact hat htxtName (by omega)
  · exact hat htxt (by omega)
  · exact hat hstrings (by omega)
  · exact hlength

theorem laid (service : DiscoveryService) (labels : List (List UInt8)) (rclass : UInt16)
    (ttl : UInt32) : Laid service labels rclass ttl (service.message labels rclass ttl) := by
  have hall := holds_message [] (service.message labels rclass ttl) []
  rw [List.nil_append, List.append_nil, List.length_nil] at hall
  exact laid_of_holds (length_message service labels rclass ttl) hall

/-- The name of the service type. -/
theorem Laid.spells_type (hl : Laid service labels rclass ttl bytes) :
    Spells (inMessage bytes) 12 typeLabels 4 37 := by
  have hroot : Spells (inMessage bytes) (12 + (wire typeLabels).length) [] 1 37 :=
    .root (holds_cons.mp hl.typeEnd).1
  have hall := Spells.prepend isLabel_typeLabels hl.typeName hroot
  rw [List.append_nil] at hall
  exact hall

theorem Laid.spells_local (hl : Laid service labels rclass ttl bytes) :
    Spells (inMessage bytes) 30 [localLabel] 2 37 := by
  have hwire : Holds (inMessage bytes) 30 (labelBytes localLabel ++ []) :=
    (holds_append.mp (holds_append.mp hl.typeName).2).2
  rw [List.append_nil] at hwire
  exact .label (isLabel_typeLabels localLabel (by decide)) hwire
    (.root (holds_cons.mp hl.typeEnd).1)

/-- The name of the service is its own labels and those of the service type. -/
theorem Laid.spells_service (hl : Laid service labels rclass ttl bytes)
    (hlabels : ∀ label ∈ labels, IsLabel label) :
    Spells (inMessage bytes) 47 (labels ++ typeLabels) (labels.length + 5)
      (49 + (wire labels).length) := by
  have hrest := Spells.reference (by decide) hl.serviceEnd
    (isLabel_typeLabels _ List.mem_cons_self) (holds_append.mp hl.typeName).1 hl.spells_type
  have hall := Spells.prepend hlabels hl.serviceName hrest
  have hstop : 47 + (wire labels).length + 2 = 49 + (wire labels).length := by omega
  rw [hstop] at hall
  exact hall

/-- A reference to the service's name. -/
theorem Laid.spells_reference (hl : Laid service labels rclass ttl bytes)
    (hd : Distinct labels (dnsName service.hostname)) {offset : Nat}
    (h : Holds (inMessage bytes) offset (reference 47)) :
    Spells (inMessage bytes) offset (labels ++ typeLabels) (labels.length + 6) (offset + 2) := by
  have hservice := hl.spells_service hd.isLabel
  cases hlabels : labels with
  | nil => exact absurd hlabels hd.ne_nil
  | cons label others =>
      have hname := hl.serviceName
      rw [hlabels] at hservice hname
      exact .reference (by decide) h (hd.isLabel label (hlabels ▸ List.mem_cons_self))
        (holds_append.mp hname).1 hservice

theorem Laid.spells_host (hl : Laid service labels rclass ttl bytes)
    (hd : Distinct labels (dnsName service.hostname)) :
    Spells (inMessage bytes) (67 + (wire labels).length) [dnsName service.hostname, localLabel] 4
      (70 + (wire labels).length + (dnsName service.hostname).length) := by
  have hplain : Holds (inMessage bytes) 30 (labelBytes localLabel) :=
    (holds_append.mp (holds_append.mp (holds_append.mp hl.typeName).2).2).1
  have hname : Holds (inMessage bytes) (67 + (wire labels).length)
      (labelBytes (dnsName service.hostname)) := by
    have hwire := hl.hostName
    rw [wire_cons, wire_nil, List.append_nil] at hwire
    exact hwire
  have hend : Holds (inMessage bytes)
      (67 + (wire labels).length + 1 + (dnsName service.hostname).length) (reference 30) := by
    have hoffset : 68 + (wire labels).length + (dnsName service.hostname).length =
        67 + (wire labels).length + 1 + (dnsName service.hostname).length := by omega
    exact hoffset ▸ hl.hostEnd
  have hall := Spells.label hd.host_isLabel hname (.reference (by decide) hend
    (isLabel_typeLabels localLabel (by decide)) hplain hl.spells_local)
  have hstop : 67 + (wire labels).length + 1 + (dnsName service.hostname).length + 2 =
      70 + (wire labels).length + (dnsName service.hostname).length := by omega
  rw [hstop] at hall
  exact hall

theorem Laid.spells_aName (hl : Laid service labels rclass ttl bytes)
    (hd : Distinct labels (dnsName service.hostname)) :
    Spells (inMessage bytes) (70 + (wire labels).length + (dnsName service.hostname).length)
      [dnsName service.hostname, localLabel] 5
      (72 + (wire labels).length + (dnsName service.hostname).length) := by
  have hwire := hl.hostName
  have hlength := hd.length
  rw [wire_cons, wire_nil, List.append_nil] at hwire
  have hall := Spells.reference (by omega) hl.aName hd.host_isLabel hwire (hl.spells_host hd)
  have hstop : 70 + (wire labels).length + (dnsName service.hostname).length + 2 =
      72 + (wire labels).length + (dnsName service.hostname).length := by omega
  rw [hstop] at hall
  exact hall

/-- The checks of the header pass. -/
theorem Laid.header_eq (hl : Laid service labels rclass ttl bytes) :
    RoomDiscovery.header bytes = some (0, 4) := by
  obtain ⟨hfront, hadditional⟩ := holds_append.mp hl.header
  obtain ⟨hfront, hauthorities⟩ := holds_append.mp hfront
  obtain ⟨hfront, hanswers⟩ := holds_append.mp hfront
  obtain ⟨hfront, hquestions⟩ := holds_append.mp hfront
  obtain ⟨-, hflags⟩ := holds_append.mp hfront
  have hlength := hl.length
  have h2 : RoomDiscovery.u16 bytes 2 = some 0x8400 := u16_holds hflags
  have h4 : RoomDiscovery.u16 bytes 4 = some 0 := u16_holds hquestions
  have h6 : RoomDiscovery.u16 bytes 6 = some 1 := u16_holds hanswers
  have h8 : RoomDiscovery.u16 bytes 8 = some 0 := u16_holds hauthorities
  have h10 : RoomDiscovery.u16 bytes 10 = some 3 := u16_holds hadditional
  rw [RoomDiscovery.header, if_neg (by omega), h2, h4, h6, h8, h10]
  rfl

end Layout

section Learning

variable {service : DiscoveryService} {labels : List (List UInt8)} {bytes : List UInt8}
  {rclass : UInt16} {ttl : UInt32} {learned : LearnedRecords}

/-- The name of the service as the browser spells it. -/
def serviceText (labels : List (List UInt8)) : Text := nameText (labels ++ typeLabels)

/-- The name of the host as the browser spells it. -/
def hostText (service : DiscoveryService) : Text :=
  nameText [dnsName service.hostname, localLabel]

def ipText (service : DiscoveryService) : Text :=
  RoomDiscovery.addressText (bytes32 service.address)

/-- The identifier as the browser spells it. -/
def idText (service : DiscoveryService) : Text :=
  RoomDiscovery.getString (dnsName service.roomId)

/-- What an announcement teaches the browser. -/
def taught (service : DiscoveryService) (labels : List (List UInt8)) (learned : LearnedRecords) :
    LearnedRecords where
  services :=
    if serviceText labels ∈ learned.services then learned.services
    else learned.services ++ [serviceText labels]
  targets := learned.targets.assign (serviceText labels) (hostText service, service.port)
  addresses := learned.addresses.assign (hostText service) (ipText service)
  identifiers := learned.identifiers.assign (serviceText labels) (idText service)

/-- The two strings of the TXT record name the room. -/
theorem readTexts_strings (service : DiscoveryService) (hid : service.roomId.length ≤ 250)
    (owner : Text) (identifiers : OrderedMap Text Text) {fuel : Nat} (hfuel : 3 ≤ fuel) :
    RoomDiscovery.readTexts owner fuel service.strings identifiers =
      identifiers.assign owner (idText service) := by
  obtain ⟨fuel, rfl⟩ := Nat.exists_eq_add_of_le' hfuel
  have hversion : (dnsName "version=2".toList).length = 9 := rfl
  have hbegins : dnsName ("room=".toList ++ service.roomId) =
      dnsName "room=".toList ++ dnsName service.roomId := dnsName_append _ _
  have hsize : (5 + service.roomId.length).toUInt8.toNat = 5 + service.roomId.length :=
    toUInt8_toNat (by omega)
  have hlength : (dnsName ("room=".toList ++ service.roomId)).length = 5 + service.roomId.length := by
    rw [length_dnsName, List.length_append]
    rfl
  have htext : RoomDiscovery.getString (dnsName ("room=".toList ++ service.roomId)) =
      "room=".toList ++ idText service := by
    have hchars : ∀ c ∈ "room=".toList, c.toNat < 128 := forall_of_check rfl
    rw [hbegins]
    change RoomDiscovery.getString ('r'.toNat.toUInt8 :: 'o'.toNat.toUInt8 :: 'o'.toNat.toUInt8 ::
      'm'.toNat.toUInt8 :: '='.toNat.toUInt8 :: dnsName service.roomId) = _
    rw [getString_cons (by decide), getString_cons (by decide), getString_cons (by decide),
      getString_cons (by decide), getString_cons (by decide)]
    rfl
  have hsecond (fuel : Nat) : RoomDiscovery.readTexts owner (fuel + 2)
      ((5 + service.roomId.length).toUInt8 :: dnsName ("room=".toList ++ service.roomId))
        identifiers = identifiers.assign owner (idText service) := by
    rw [RoomDiscovery.readTexts, hsize, hlength, if_neg (Nat.lt_irrefl _), ← hlength,
      List.take_length, List.drop_length, htext]
    rfl
  have hnine : (9 : UInt8).toNat = (dnsName "version=2".toList).length := rfl
  rw [strings, List.cons_append, RoomDiscovery.readTexts, hnine, if_neg, List.take_left,
    List.drop_left]
  · exact hsecond fuel
  · rw [List.length_append]
    omega

theorem updated_ttl {record : MdnsRecord} (h : record.ttl = 120) :
    (Mdns.updateRclassTtl rclass ttl record).ttl = if ttl = 0 then 0 else 120 := by
  simp only [Mdns.updateRclassTtl, h]
  by_cases hzero : ttl = 0
  · rw [if_pos (.inr hzero), if_pos hzero, hzero]
  · rw [if_neg, if_neg hzero]
    rintro (hnever | h)
    · exact absurd hnever (by decide)
    · exact hzero h

/-- The records as the browser reads them. -/
def ptrRead (labels : List (List UInt8)) (ttl : UInt32) : DnsRecord where
  owner := nameText typeLabels
  type := 12
  ttl := if ttl = 0 then 0 else 120
  length := (wire labels).length + 2
  cursor := 47

def srvRead (service : DiscoveryService) (labels : List (List UInt8)) (ttl : UInt32) :
    DnsRecord where
  owner := serviceText labels
  type := 33
  ttl := if ttl = 0 then 0 else 120
  length := 9 + (dnsName service.hostname).length
  cursor := 61 + (wire labels).length

def aRead (service : DiscoveryService) (labels : List (List UInt8)) (ttl : UInt32) :
    DnsRecord where
  owner := hostText service
  type := 1
  ttl := if ttl = 0 then 0 else 120
  length := 4
  cursor := 82 + (wire labels).length + (dnsName service.hostname).length

def txtRead (service : DiscoveryService) (labels : List (List UInt8)) (ttl : UInt32) :
    DnsRecord where
  owner := serviceText labels
  type := 16
  ttl := if ttl = 0 then 0 else 120
  length := 16 + service.roomId.length
  cursor := 98 + (wire labels).length + (dnsName service.hostname).length

/-- The pointer: the service is known from now on. -/
theorem Laid.ptr_read (hl : Laid service labels rclass ttl bytes) (hn : Named service labels) :
    RoomDiscovery.readRecord bytes 12 =
        some (ptrRead labels ttl) ∧
      RoomDiscovery.name bytes 47 = some (serviceText labels, 49 + (wire labels).length) := by
  have hd := hn.distinct
  have hcount := hd.count
  have hlength := hd.length
  have hbytes := hl.length
  constructor
  · rw [readRecord_spells hl.spells_type (by decide) hl.ptr (by omega) (by omega),
      updated_ttl rfl]
    rfl
  · exact name_spells (hl.spells_service hd.isLabel) (by omega)

/-- The target: where the service is. -/
theorem Laid.srv_read (hl : Laid service labels rclass ttl bytes) (hn : Named service labels) :
    RoomDiscovery.readRecord bytes (49 + (wire labels).length) =
        some (srvRead service labels ttl) ∧
      RoomDiscovery.name bytes (61 + (wire labels).length + 6) =
        some (hostText service, 70 + (wire labels).length + (dnsName service.hostname).length) ∧
      RoomDiscovery.u16 bytes (61 + (wire labels).length + 4) = some service.port := by
  have hd := hn.distinct
  have hcount := hd.count
  have hbytes := hl.length
  have hhost := hd.host_isLabel.lt
  have hstop : 49 + (wire labels).length + 2 = 51 + (wire labels).length := by omega
  have hcursor : 51 + (wire labels).length + 10 = 61 + (wire labels).length := by omega
  have hname : 61 + (wire labels).length + 6 = 67 + (wire labels).length := by omega
  have hport : 61 + (wire labels).length + 4 = 65 + (wire labels).length := by omega
  have hspells := hl.spells_reference hd hl.srvName
  rw [hstop] at hspells
  refine ⟨?_, ?_, ?_⟩
  · rw [readRecord_spells hspells (by omega) hl.srv (by omega) (by omega), updated_ttl rfl,
      hcursor]
    rfl
  · rw [hname]
    exact name_spells (hl.spells_host hd) (by decide)
  · rw [hport]
    exact u16_holds hl.port

/-- The address of the host. -/
theorem Laid.a_read (hl : Laid service labels rclass ttl bytes) (hn : Named service labels) :
    RoomDiscovery.readRecord bytes
        (70 + (wire labels).length + (dnsName service.hostname).length) =
        some (aRead service labels ttl) ∧
      RoomDiscovery.slice bytes (82 + (wire labels).length + (dnsName service.hostname).length) 4 =
        bytes32 service.address := by
  have hbytes := hl.length
  have hcursor : 72 + (wire labels).length + (dnsName service.hostname).length + 10 =
      82 + (wire labels).length + (dnsName service.hostname).length := by omega
  constructor
  · rw [readRecord_spells (hl.spells_aName hn.distinct) (by decide) hl.a (by omega) (by omega),
      updated_ttl rfl, hcursor]
    rfl
  · exact hl.address.slice

/-- The identifier of the room. -/
theorem Laid.txt_read (hl : Laid service labels rclass ttl bytes) (hn : Named service labels) :
    RoomDiscovery.readRecord bytes
        (86 + (wire labels).length + (dnsName service.hostname).length) =
        some (txtRead service labels ttl) ∧
      RoomDiscovery.slice bytes (98 + (wire labels).length + (dnsName service.hostname).length)
        (16 + service.roomId.length) = service.strings := by
  have hd := hn.distinct
  have hcount := hd.count
  have hbytes := hl.length
  have hid := hn.id
  have hstop : 86 + (wire labels).length + (dnsName service.hostname).length + 2 =
      88 + (wire labels).length + (dnsName service.hostname).length := by omega
  have hcursor : 88 + (wire labels).length + (dnsName service.hostname).length + 10 =
      98 + (wire labels).length + (dnsName service.hostname).length := by omega
  have hspells := hl.spells_reference hd hl.txtName
  rw [hstop] at hspells
  constructor
  · rw [readRecord_spells hspells (by omega) hl.txt (by omega) (by omega), updated_ttl rfl,
      hcursor]
    rfl
  · rw [← length_strings]
    exact hl.strings.slice

/-- A message of the host is read to its end; unless it is a goodbye, it teaches the room. -/
theorem Laid.learnPacket (hl : Laid service labels rclass ttl bytes) (hn : Named service labels)
    (learned : LearnedRecords) : RoomDiscovery.learnPacket bytes learned =
      (if ttl = 0 then learned else taught service labels learned, true) := by
  obtain ⟨hptr, hptrName⟩ := hl.ptr_read hn
  obtain ⟨hsrv, hsrvName, hsrvPort⟩ := hl.srv_read hn
  obtain ⟨ha, haSlice⟩ := hl.a_read hn
  obtain ⟨htxt, htxtSlice⟩ := hl.txt_read hn
  have hid := hn.id
  have hafterPtr : (ptrRead labels ttl).cursor + (ptrRead labels ttl).length =
      49 + (wire labels).length := by
    change 47 + ((wire labels).length + 2) = _
    omega
  have hafterSrv : (srvRead service labels ttl).cursor + (srvRead service labels ttl).length =
      70 + (wire labels).length + (dnsName service.hostname).length := by
    change 61 + (wire labels).length + (9 + (dnsName service.hostname).length) = _
    omega
  have hafterA : (aRead service labels ttl).cursor + (aRead service labels ttl).length =
      86 + (wire labels).length + (dnsName service.hostname).length := by
    change 82 + (wire labels).length + (dnsName service.hostname).length + 4 = _
    omega
  have hptrTtl : (ptrRead labels ttl).ttl = if ttl = 0 then 0 else 120 := rfl
  have hsrvTtl : (srvRead service labels ttl).ttl = if ttl = 0 then 0 else 120 := rfl
  have haTtl : (aRead service labels ttl).ttl = if ttl = 0 then 0 else 120 := rfl
  have htxtTtl : (txtRead service labels ttl).ttl = if ttl = 0 then 0 else 120 := rfl
  rw [RoomDiscovery.learnPacket, hl.header_eq]
  simp only [RoomDiscovery.skipQuestions, RoomDiscovery.learnRecords, hptr, hsrv, ha, htxt,
    hafterPtr, hafterSrv, hafterA, hptrTtl, hsrvTtl, haTtl, htxtTtl]
  by_cases hzero : ttl = 0
  · simp only [if_pos hzero, if_true]
  · have htype : RoomDiscovery.equalsIgnoreCase (nameText typeLabels) RoomDiscovery.serviceType =
        true := by decide +kernel
    have hlive : (120 : UInt32) ≠ 0 := by decide
    have hsix : 6 ≤ (srvRead service labels ttl).length :=
      Nat.le_add_right_of_le (by decide : 6 ≤ 9)
    have htexts := readTexts_strings service hid (serviceText labels) learned.identifiers
      (show 3 ≤ 16 + service.roomId.length by omega)
    simp only [if_neg hzero, if_neg hlive, learn_ptr (ptrRead labels ttl) rfl htype hptrName,
      learn_srv (srvRead service labels ttl) rfl hsix hsrvName hsrvPort,
      learn_a (aRead service labels ttl) rfl rfl, learn_txt (txtRead service labels ttl) rfl]
    rw [show RoomDiscovery.slice bytes (aRead service labels ttl).cursor 4 =
        bytes32 service.address from haSlice,
      show RoomDiscovery.slice bytes (txtRead service labels ttl).cursor
        (txtRead service labels ttl).length = service.strings from htxtSlice,
      show RoomDiscovery.readTexts (txtRead service labels ttl).owner
        (txtRead service labels ttl).length service.strings learned.identifiers =
          learned.identifiers.assign (serviceText labels) (idText service) from htexts]
    rfl

end Learning

section Room

variable {service : DiscoveryService} {roomName roomId : Text} {labels : List (List UInt8)}

/-- The name of a room's service. -/
def roomService (roomName hostname : Text) : Text :=
  instanceName roomName hostname ++ '.' :: RoomDiscovery.serviceType

/-- How the browser knows a room. -/
def roomEntry (service : DiscoveryService) (roomName roomId : Text) (seen : Int) :
    Text × KnownRoom :=
  (roomId,
    { name := instanceName roomName service.hostname
      address := ipText service
      port := service.port
      seen := seen })

theorem nameText_append {a b : List (List UInt8)} (ha : a ≠ []) (hb : b ≠ []) :
    nameText (a ++ b) = nameText a ++ '.' :: nameText b := by
  induction a with
  | nil => exact absurd rfl ha
  | cons label a ih =>
      cases a with
      | nil =>
          cases b with
          | nil => exact absurd rfl hb
          | cons other b => simp [nameText, List.intercalate_cons_cons]
      | cons next a =>
          have hrest := ih (List.cons_ne_nil _ _)
          rw [nameText, List.cons_append, List.map_cons, List.cons_append, List.map_cons,
            List.intercalate_cons_cons, ← List.map_cons, ← List.cons_append, ← nameText, hrest]
          simp [nameText, List.intercalate_cons_cons]

theorem ascii_instance {hostname : Text} (h : Admissible roomName hostname)
    (hhost : ∀ c ∈ hostname, HostCharacter c) :
    ∀ c ∈ instanceName roomName hostname, c.toNat < 128 := by
  rw [instanceName_eq h.length]
  intro c hc
  cases List.mem_append.mp hc with
  | inl hroom =>
      have hbounds := h.printable c hroom
      omega
  | inr htail =>
      cases List.mem_append.mp htail with
      | inl hon =>
          have hall : ∀ c ∈ " on ".toList, c.toNat < 128 := forall_of_check rfl
          exact hall c hon
      | inr hname => exact (hhost c (List.mem_of_mem_take hname)).1

/-- The browser spells the service as the host does. -/
theorem serviceText_eq {hostname : Text} (h : Admissible roomName hostname)
    (hhost : ∀ c ∈ hostname, HostCharacter c) :
    serviceText (Mdns.parts (dnsName (instanceName roomName hostname))) =
      roomService roomName hostname := by
  have hne : instanceName roomName hostname ≠ [] := by
    rw [instanceName_eq h.length]
    exact List.append_ne_nil_of_right_ne_nil _ (List.cons_ne_nil _ _)
  have hname := nameText_parts (ascii_instance h hhost) hne (getLast?_instance h.length hhost)
  have hparts : Mdns.parts (dnsName (instanceName roomName hostname)) ≠ [] := by
    intro hnil
    rw [hnil] at hname
    exact hne hname.symm
  have htype : nameText typeLabels = RoomDiscovery.serviceType := by decide +kernel
  have htypes : typeLabels ≠ [] := List.cons_ne_nil _ _
  rw [serviceText, nameText_append hparts htypes, hname, htype, roomService]

theorem hostText_eq (hhost : ∀ c ∈ service.hostname, HostCharacter c) :
    hostText service = service.hostname ++ ".local".toList := by
  have hlocal : RoomDiscovery.getString localLabel = "local".toList := by decide +kernel
  have hname := getString_dnsName fun c hc => (hhost c hc).1
  rw [hostText, nameText, List.map_cons, List.map_cons, hname, hlocal,
    List.intercalate_cons_cons]
  simp

/-- The browser shows the name in front of the service type. -/
theorem displayName_eq (name : Text) :
    RoomDiscovery.displayName (name ++ '.' :: RoomDiscovery.serviceType) = name := by
  have hends : RoomDiscovery.endsWithIgnoreCase (name ++ '.' :: RoomDiscovery.serviceType)
      ('.' :: RoomDiscovery.serviceType) = true := by
    rw [RoomDiscovery.endsWithIgnoreCase, List.length_append, Nat.add_sub_cancel, List.drop_left]
    exact decide_eq_true rfl
  rw [RoomDiscovery.displayName, if_pos hends, List.length_append, List.length_cons,
    Nat.add_sub_cancel, List.take_left]

/-- A room on the host `den`. -/
def denService (roomName : Text) : DiscoveryService where
  port := 40102
  hostname := "den".toList
  address := 0xC0A80105
  qualifiedHost := "den.local.".toList
  serviceName := instanceName roomName "den".toList ++ '.' :: DiscoveryService.serviceType
  roomId := "0f".toList

theorem create_den (roomName : Text) :
    DiscoveryService.create (some [100, 101, 110]) (fun _ => some [0xC0A80105]) 40102 roomName
      "0f".toList = .ok (denService roomName) :=
  rfl

end Room

end SyncAudio.RoomAnnouncement
