import Mathlib.Data.List.Find
import SyncAudio.Lib.DomainName

/-!
# Writing mDNS messages

`mdns.h` writes a name label by label and ends it with a reference as soon as a name from its
table begins with the labels that are left.

## Implementation notes

A buffer is what has been written so far; behind it stand zeros up to its capacity. The loops
over a name walk the parts between its dots. `none` is a failed write. Sending is left out: a
function that sends returns the datagram.
-/

namespace SyncAudio

/-- `mdns_string_table_t`. -/
structure MdnsStringTable where
  offsets : List Nat := []
  next : Nat := 0
  deriving DecidableEq

/-- A message with the position behind its last byte, and the table of its names. -/
structure MdnsBuffer where
  bytes : List UInt8
  table : MdnsStringTable := {}
  deriving DecidableEq

/-- The data of a `mdns_record_t`, by its type. -/
inductive MdnsRecordData where
  | ptr (name : List UInt8)
  | srv (priority weight port : UInt16) (name : List UInt8)
  | a (address : UInt32)
  | txt (key value : List UInt8)
  deriving DecidableEq

/-- `mdns_record_t`; a class of zero is filled in later. -/
structure MdnsRecord where
  name : List UInt8
  rclass : UInt16 := 0
  ttl : UInt32
  data : MdnsRecordData
  deriving DecidableEq

namespace Mdns

open BigEndian DomainName

def maxSubstrings : Nat := 64

def classIn : UInt16 := 1

def cacheFlush : UInt16 := 0x8000

def dot : UInt8 := 46

/-- A byte of the buffer; what has not been written is zero. -/
def byteAt (bytes : List UInt8) (offset : Nat) : UInt8 := bytes[offset]?.getD 0

def isStringRef (byte : UInt8) : Bool := byte &&& 0xC0 = 0xC0

/-- The loop of `mdns_get_next_substring`; `rounds` bounds the references it follows. -/
def followRefs (bytes : List UInt8) (size : Nat) : Nat → Nat → Option Nat
  | 0, _ => none
  | rounds + 1, offset =>
      if isStringRef (byteAt bytes offset) then
        if size < offset + 2 then none
        else
          let target := (byteAt bytes offset &&& 0x3F).toNat <<< 8 |||
            (byteAt bytes (offset + 1)).toNat
          if size ≤ target then none else followRefs bytes size rounds target
      else some offset

/-- `mdns_get_next_substring`: the offset and the length of the label; `none` is
`MDNS_INVALID_POS`. -/
def getNextSubstring (bytes : List UInt8) (size offset : Nat) : Option (Nat × Nat) :=
  if size ≤ offset then none
  else if byteAt bytes offset = 0 then some (offset, 0)
  else
    match followRefs bytes size 17 offset with
    | none => none
    | some offset =>
        let length := (byteAt bytes offset).toNat
        if size < offset + 1 + length then none else some (offset + 1, length)

/-- The parts of a name between its dots, without an empty one at its end. -/
def parts : List UInt8 → List (List UInt8)
  | [] => []
  | byte :: name =>
      if byte = dot then [] :: parts name
      else
        match parts name with
        | [] => [[byte]]
        | part :: others => (byte :: part) :: others

/-- The labels at an offset begin with these parts. -/
def beginsWith (bytes : List UInt8) (capacity : Nat) : List (List UInt8) → Nat → Bool
  | [], _ => true
  | part :: others, offset =>
      match getNextSubstring bytes capacity offset with
      | none => false
      | some (offset, length) =>
          length ≠ 0 && length = part.length &&
            (List.range length).map (fun i => byteAt bytes (offset + i)) = part &&
            beginsWith bytes capacity others (offset + length)

/-- `mdns_string_table_find`. -/
def stringTableFind (table : MdnsStringTable) (bytes : List UInt8) (capacity : Nat)
    (name : List (List UInt8)) : Option Nat :=
  table.offsets.find? (beginsWith bytes capacity name)

/-- `mdns_string_table_add`. -/
def stringTableAdd (table : MdnsStringTable) (offset : Nat) : MdnsStringTable where
  offsets :=
    if table.offsets.length < maxSubstrings then table.offsets ++ [offset]
    else table.offsets.set table.next offset
  next := if maxSubstrings ≤ table.next + 1 then 0 else table.next + 1

/-- The loop of `mdns_string_make`. -/
def makeParts (capacity : Nat) : List (List UInt8) → MdnsBuffer → Option MdnsBuffer
  | [], buffer =>
      if capacity ≤ buffer.bytes.length then none
      else some { buffer with bytes := buffer.bytes ++ [0] }
  | part :: others, buffer =>
      match stringTableFind buffer.table buffer.bytes capacity (part :: others) with
      | some offset =>
          if capacity < buffer.bytes.length + 2 then none
          else some { buffer with bytes := buffer.bytes ++ reference offset }
      | none =>
          if capacity ≤ buffer.bytes.length + (part.length + 1) then none
          else
            makeParts capacity others
              { bytes := buffer.bytes ++ labelBytes part
                table := stringTableAdd buffer.table buffer.bytes.length }

/-- The parts of a name, less a dot at its end. -/
def nameParts (name : List UInt8) : List (List UInt8) :=
  parts (if name.getLast? = some dot then name.dropLast else name)

/-- `mdns_string_make`. -/
def stringMake (capacity : Nat) (name : List UInt8) (buffer : MdnsBuffer) : Option MdnsBuffer :=
  makeParts capacity (nameParts name) buffer

/-- The type of a record. -/
def recordType : MdnsRecordData → UInt16
  | .a _ => 1
  | .ptr _ => 12
  | .txt _ _ => 16
  | .srv _ _ _ _ => 33

/-- `mdns_answer_add_record_header`. -/
def answerAddRecordHeader (capacity : Nat) (record : MdnsRecord) (buffer : MdnsBuffer) :
    Option MdnsBuffer := do
  let buffer ← stringMake capacity record.name buffer
  if capacity < buffer.bytes.length + 10 then none
  else
    some
      { buffer with
        bytes := buffer.bytes ++ (bytes16 (recordType record.data) ++ bytes16 record.rclass ++
          bytes32 record.ttl ++ bytes16 0) }

/-- Put the length of a record's data in front of it. -/
def fillLength (start : Nat) (buffer : MdnsBuffer) : MdnsBuffer :=
  { buffer with
    bytes := buffer.bytes.take (start - 2) ++ bytes16 (buffer.bytes.length - start).toUInt16 ++
      buffer.bytes.drop start }

/-- The data of a record. -/
def addData (capacity : Nat) (data : MdnsRecordData) (buffer : MdnsBuffer) : Option MdnsBuffer :=
  match data with
  | .ptr name => stringMake capacity name buffer
  | .srv priority weight port name =>
      if capacity ≤ buffer.bytes.length + 6 then none
      else
        stringMake capacity name
          { buffer with
            bytes := buffer.bytes ++ (bytes16 priority ++ bytes16 weight ++ bytes16 port) }
  | .a address =>
      if capacity < buffer.bytes.length + 4 then none
      else some { buffer with bytes := buffer.bytes ++ bytes32 address }
  | .txt _ _ => some buffer

def isTxt (record : MdnsRecord) : Bool := recordType record.data = 16

/-- `mdns_answer_add_record`. -/
def answerAddRecord (capacity : Nat) (record : MdnsRecord) (buffer : MdnsBuffer) :
    Option MdnsBuffer :=
  if isTxt record then some buffer
  else do
    let start ← answerAddRecordHeader capacity record buffer
    let buffer ← addData capacity record.data start
    some (fillLength start.bytes.length buffer)

/-- `mdns_record_update_rclass_ttl`. -/
def updateRclassTtl (rclass : UInt16) (ttl : UInt32) (record : MdnsRecord) : MdnsRecord :=
  let kept := (if record.rclass = 0 then rclass else record.rclass) &&& (classIn ||| cacheFlush)
  { record with
    rclass := if recordType record.data = 12 then kept &&& ~~~cacheFlush else kept
    ttl := if record.ttl = 0 ∨ ttl = 0 then ttl else record.ttl }

/-- The strings of the TXT records. -/
def addStrings (capacity : Nat) : List MdnsRecord → MdnsBuffer → Option MdnsBuffer
  | [], buffer => some buffer
  | record :: records, buffer =>
      match record.data with
      | .txt key value =>
          let length := key.length + value.length + 1
          if capacity ≤ buffer.bytes.length + length ∨ 0x3FFF < length then none
          else
            addStrings capacity records
              { buffer with
                bytes := buffer.bytes ++ (length.toUInt8 :: key ++ '='.toNat.toUInt8 :: value) }
      | _ => addStrings capacity records buffer

/-- `mdns_answer_add_txt_record`: one record under the name of the first. -/
def answerAddTxtRecord (capacity : Nat) (records : List MdnsRecord) (rclass : UInt16)
    (ttl : UInt32) (buffer : MdnsBuffer) : Option MdnsBuffer :=
  match records.find? isTxt with
  | none => some buffer
  | some record => do
      let start ← answerAddRecordHeader capacity (updateRclassTtl rclass ttl record) buffer
      let buffer ← addStrings capacity records start
      some (fillLength start.bytes.length buffer)

/-- `mdns_answer_get_record_count`. -/
def answerGetRecordCount (records : List MdnsRecord) : UInt16 :=
  (records.countP fun record => !isTxt record).toUInt16 + if records.any isTxt then 1 else 0

/-- One record after the other. -/
def addRecords (capacity : Nat) (rclass : UInt16) (ttl : UInt32) :
    List MdnsRecord → MdnsBuffer → Option MdnsBuffer
  | [], buffer => some buffer
  | record :: records, buffer => do
      let buffer ← answerAddRecord capacity (updateRclassTtl rclass ttl record) buffer
      addRecords capacity rclass ttl records buffer

/-- `mdns_answer_multicast_rclass_ttl`: the datagram, if it fits. -/
def answerMulticastRclassTtl (capacity : Nat) (answer : MdnsRecord)
    (authority additional : List MdnsRecord) (rclass : UInt16) (ttl : UInt32) :
    Option (List UInt8) :=
  if capacity < 48 then none
  else do
    let header := bytes16 0 ++ bytes16 0x8400 ++ bytes16 0 ++ bytes16 1 ++
      bytes16 (answerGetRecordCount authority) ++ bytes16 (answerGetRecordCount additional)
    let buffer ← answerAddRecord capacity (updateRclassTtl rclass ttl answer) { bytes := header }
    let buffer ← addRecords capacity rclass ttl authority buffer
    let buffer ← answerAddTxtRecord capacity authority rclass ttl buffer
    let buffer ← addRecords capacity rclass ttl additional buffer
    let buffer ← answerAddTxtRecord capacity additional rclass ttl buffer
    some buffer.bytes

/-- `mdns_query_answer_multicast`. -/
def queryAnswerMulticast (capacity : Nat) (answer : MdnsRecord)
    (authority additional : List MdnsRecord) : Option (List UInt8) :=
  answerMulticastRclassTtl capacity answer authority additional classIn 60

/-- `mdns_announce_multicast`. -/
def announceMulticast (capacity : Nat) (answer : MdnsRecord)
    (authority additional : List MdnsRecord) : Option (List UInt8) :=
  answerMulticastRclassTtl capacity answer authority additional (classIn ||| cacheFlush) 60

/-- `mdns_goodbye_multicast`. -/
def goodbyeMulticast (capacity : Nat) (answer : MdnsRecord)
    (authority additional : List MdnsRecord) : Option (List UInt8) :=
  answerMulticastRclassTtl capacity answer authority additional classIn 0

section Names

variable {bytes base label : List UInt8} {labels old fresh before : List (List UInt8)}
  {entries : List (Nat × List (List UInt8))} {capacity offset target reads stop : Nat}

theorem byteAt_of_holds (h : Holds (padded bytes capacity) offset label) {i : Nat}
    {byte : UInt8} (hi : label[i]? = some byte) :
    offset + i < capacity ∧ byteAt bytes (offset + i) = byte :=
  padded_eq_some.mp (h i byte hi)

/-- The bytes of a label, and of its length. -/
theorem byteAt_label (h : Holds (padded bytes capacity) offset (labelBytes label)) :
    byteAt bytes offset = label.length.toUInt8 ∧
      (List.range label.length).map (fun i => byteAt bytes (offset + 1 + i)) = label := by
  obtain ⟨hlength, hbytes⟩ := holds_cons.mp h
  constructor
  · exact (padded_eq_some.mp hlength).2
  · apply List.ext_getElem
    · simp
    · intro i _ hi
      simp only [List.getElem_map, List.getElem_range]
      exact (byteAt_of_holds hbytes (List.getElem?_eq_getElem hi)).2

theorem label_fits (hlabel : IsLabel label)
    (h : Holds (padded bytes capacity) offset (labelBytes label)) :
    offset + 1 + label.length ≤ capacity := by
  obtain ⟨-, hbytes⟩ := holds_cons.mp h
  have hlast : label.length - 1 < label.length := Nat.sub_lt hlabel.pos Nat.one_pos
  have hfits := (byteAt_of_holds hbytes (List.getElem?_eq_getElem hlast)).1
  omega

theorem isStringRef_label (hlabel : IsLabel label)
    (h : Holds (padded bytes capacity) offset (labelBytes label)) :
    isStringRef (byteAt bytes offset) = false := by
  rw [(byteAt_label h).1]
  exact decide_eq_false (plain_length hlabel.lt)

theorem getNextSubstring_label (hlabel : IsLabel label)
    (h : Holds (padded bytes capacity) offset (labelBytes label)) :
    getNextSubstring bytes capacity offset = some (offset + 1, label.length) := by
  have hfits := label_fits hlabel h
  have hlength := (byteAt_label h).1
  have hzero : byteAt bytes offset ≠ 0 := hlength ▸ length_ne_zero hlabel.pos hlabel.lt
  have hnat : (byteAt bytes offset).toNat = label.length := by
    rw [hlength]
    exact toUInt8_toNat (hlabel.lt.trans (by decide))
  rw [getNextSubstring, if_neg (by omega), if_neg hzero, followRefs, isStringRef_label hlabel h]
  simp only [Bool.false_eq_true, if_false, hnat]
  rw [if_neg (by omega)]

/-- A reference leads to the label it names. -/
theorem getNextSubstring_reference (htarget : target < 2 ^ 14)
    (h : Holds (padded bytes capacity) offset (reference target)) (hlabel : IsLabel label)
    (hplain : Holds (padded bytes capacity) target (labelBytes label)) :
    getNextSubstring bytes capacity offset = some (target + 1, label.length) := by
  rw [reference_eq htarget] at h
  have hfirst := byteAt_of_holds h (i := 0) rfl
  have hsecond := byteAt_of_holds h (i := 1) rfl
  rw [Nat.add_zero] at hfirst
  have hfits := label_fits hlabel hplain
  have hzero : byteAt bytes offset ≠ 0 := hfirst.2 ▸ reference_ne_zero htarget
  have hmarked : isStringRef (byteAt bytes offset) = true := by
    rw [hfirst.2]
    exact decide_eq_true (reference_marked htarget)
  have hnat : (byteAt bytes target).toNat = label.length := by
    rw [(byteAt_label hplain).1]
    exact toUInt8_toNat (hlabel.lt.trans (by decide))
  have hplainRef := isStringRef_label hlabel hplain
  rw [getNextSubstring, if_neg (by omega), if_neg hzero, followRefs, if_pos hmarked,
    if_neg (by omega), hfirst.2, hsecond.2]
  simp only [reference_target htarget]
  rw [if_neg (by omega), followRefs, hplainRef]
  simp only [Bool.false_eq_true, if_false, hnat]
  rw [if_neg (by omega)]

theorem getNextSubstring_root (h : padded bytes capacity offset = some 0) :
    getNextSubstring bytes capacity offset = some (offset, 0) := by
  obtain ⟨hoffset, hzero⟩ := padded_eq_some.mp h
  rw [getNextSubstring, if_neg (by omega)]
  exact if_pos hzero

theorem beginsWith_cons {first : List UInt8} {next : Nat}
    (h : getNextSubstring bytes capacity offset = some (next, label.length))
    (hbytes : (List.range label.length).map (fun i => byteAt bytes (next + i)) = label)
    (hlabel : IsLabel label) :
    beginsWith bytes capacity (first :: fresh) offset = true ↔
      first = label ∧ beginsWith bytes capacity fresh (next + label.length) = true := by
  have hpos := hlabel.pos
  simp only [beginsWith, h, hbytes, Bool.and_eq_true, decide_eq_true_eq]
  constructor
  · rintro ⟨⟨-, hsame⟩, hrest⟩
    exact ⟨hsame.symm, hrest⟩
  · rintro ⟨rfl, hrest⟩
    exact ⟨⟨⟨hpos.ne', rfl⟩, rfl⟩, hrest⟩

/-- The comparison finds the names that begin with the parts. -/
theorem beginsWith_iff (h : Spells (padded bytes capacity) offset labels reads stop)
    (name : List (List UInt8)) :
    beginsWith bytes capacity name offset = true ↔ name <+: labels := by
  cases name with
  | nil => simp [beginsWith]
  | cons first others =>
      induction h generalizing first others with
      | root h => simp [beginsWith, getNextSubstring_root h]
      | @label offset label labels reads stop hlabel h hrest ih =>
          have hnext : beginsWith bytes capacity others (offset + 1 + label.length) = true ↔
              others <+: labels := by
            cases others with
            | nil => simp [beginsWith]
            | cons second others => exact ih second others
          rw [beginsWith_cons (getNextSubstring_label hlabel h) (byteAt_label h).2 hlabel, hnext,
            List.cons_prefix_cons]
      | @reference offset target label labels reads stop htarget h hlabel hplain hrest ih =>
          rw [← ih first others,
            beginsWith_cons (getNextSubstring_reference htarget h hlabel hplain)
              (byteAt_label hplain).2 hlabel,
            beginsWith_cons (getNextSubstring_label hlabel hplain) (byteAt_label hplain).2 hlabel]

/-- The table of these names. -/
def tableOf (entries : List (Nat × List (List UInt8))) : MdnsStringTable where
  offsets := entries.map Prod.fst
  next := entries.length

/-- The first name of the table that begins with the parts. -/
theorem stringTableFind_eq (name : List (List UInt8))
    (h : ∀ entry ∈ entries, Readable (padded bytes capacity) entry) :
    stringTableFind (tableOf entries) bytes capacity name =
      (entries.find? fun entry => decide (name <+: entry.2)).map Prod.fst := by
  rw [stringTableFind, tableOf, List.find?_map]
  congr 1
  apply List.find?_congr
  intro entry hentry
  obtain ⟨reads, stop, hspells⟩ := h entry hentry
  rw [Bool.eq_iff_iff, decide_eq_true_iff]
  exact beginsWith_iff hspells name

theorem stringTableAdd_eq (hcount : entries.length + 1 < maxSubstrings)
    (labels : List (List UInt8)) :
    stringTableAdd (tableOf entries) offset = tableOf (entries ++ [(offset, labels)]) := by
  rw [stringTableAdd, tableOf, tableOf]
  simp only [List.length_map, List.map_append, List.length_append, List.map_cons, List.map_nil,
    List.length_cons, List.length_nil]
  rw [if_pos (by omega), if_neg (by omega)]

theorem tableOf_congr {others : List (Nat × List (List UInt8))}
    (h : entries.map Prod.fst = others.map Prod.fst) : tableOf entries = tableOf others := by
  have hlength := congrArg List.length h
  rw [List.length_map, List.length_map] at hlength
  rw [tableOf, tableOf, h, hlength]

/-- Labels that no name of the table begins with, nor the part of their own name in front of
them. -/
structure Fresh (capacity : Nat) (base : List UInt8) (entries : List (Nat × List (List UInt8)))
    (labels old : List (List UInt8)) : Prop where
  readable : ∀ entry ∈ entries, Readable (inMessage base) entry
  isLabel : ∀ label ∈ labels, IsLabel label
  room : base.length + (wire labels).length < capacity
  count : entries.length + labels.length < maxSubstrings
  new : ∀ i < labels.length, ∀ entry ∈ entries, ¬ labels.drop i ++ old <+: entry.2
  own : ∀ i j, i < j → j < labels.length → ¬ labels.drop j ++ old <+: (labels.take j).drop i

/-- The names of the table while a name is being written. -/
theorem Fresh.readable_written (h : Fresh capacity base entries (before ++ fresh) old) :
    ∀ entry ∈ entries ++ marks base.length before [],
      Readable (padded (base ++ wire before) capacity) entry := by
  have hroom := h.room
  rw [wire_append, List.length_append] at hroom
  have hfits : (base ++ wire before).length < capacity := by
    rw [List.length_append]
    omega
  intro entry hentry
  cases List.mem_append.mp hentry with
  | inl hold =>
      apply (h.readable entry hold).mono
      intro i byte hbyte
      exact inMessage_padded hfits.le (inMessage_append hbyte)
  | inr hnew =>
      have hholds := holds_message base (wire before) []
      rw [List.append_nil] at hholds
      apply readable_marks (fun label hlabel => h.isLabel label (List.mem_append_left _ hlabel))
        (hholds.mono fun i byte => inMessage_padded hfits.le) (.root _) entry hnew
      rw [padded_eq_some, ← List.length_append, List.getElem?_eq_none le_rfl]
      exact ⟨hfits, rfl⟩

/-- Nothing in the table begins with the labels that are left. -/
theorem Fresh.find_none (h : Fresh capacity base entries (before ++ label :: fresh) old) :
    stringTableFind (tableOf (entries ++ marks base.length before []))
      (base ++ wire before) capacity (label :: fresh ++ old) = none := by
  have hleft : (before ++ label :: fresh).drop before.length = label :: fresh :=
    List.drop_left
  have hin : before.length < (before ++ label :: fresh).length := by simp
  rw [stringTableFind_eq _ h.readable_written, Option.map_eq_none_iff, List.find?_eq_none]
  intro entry hentry
  rw [decide_eq_true_iff]
  cases List.mem_append.mp hentry with
  | inl hold =>
      have hnew := h.new before.length hin entry hold
      rw [hleft] at hnew
      exact hnew
  | inr hmark =>
      obtain ⟨i, hi, hentry⟩ := mem_marks hmark
      have hown := h.own i before.length hi hin
      rw [hleft, List.take_left] at hown
      rw [hentry, List.append_nil]
      exact hown

/-- Fresh labels are written one after the other. -/
theorem Fresh.makeParts (h : Fresh capacity base entries (before ++ fresh) old) :
    makeParts capacity (fresh ++ old)
        { bytes := base ++ wire before
          table := tableOf (entries ++ marks base.length before []) } =
      Mdns.makeParts capacity old
        { bytes := base ++ wire (before ++ fresh)
          table := tableOf (entries ++ marks base.length (before ++ fresh) []) } := by
  induction fresh generalizing before with
  | nil => rw [List.nil_append, List.append_nil]
  | cons label fresh ih =>
      have hsplit : before ++ label :: fresh = before ++ [label] ++ fresh := by simp
      have hroom := h.room
      have hcount := h.count
      have hadd : stringTableAdd (tableOf (entries ++ marks base.length before []))
          (base ++ wire before).length =
          tableOf (entries ++ marks base.length (before ++ [label]) []) := by
        rw [stringTableAdd_eq _ []]
        · apply tableOf_congr
          rw [List.map_append, List.map_append, List.map_append, marks_concat, List.append_assoc,
            List.length_append]
          rfl
        · simp only [List.length_append, length_marks, List.length_cons] at hcount ⊢
          omega
      rw [List.cons_append, Mdns.makeParts, ← List.cons_append, h.find_none]
      simp only
      rw [if_neg, hadd, List.append_assoc]
      · rw [hsplit] at h ⊢
        rw [← ih h, wire_append, wire_cons, wire_nil, List.append_nil]
      · simp only [wire_append, wire_cons, List.length_append, length_labelBytes] at hroom ⊢
        omega

/-- The table does not say how its names go on. -/
theorem tableOf_marks (rest others : List (List UInt8)) :
    tableOf (entries ++ marks offset labels rest) =
      tableOf (entries ++ marks offset labels others) := by
  apply tableOf_congr
  rw [List.map_append, List.map_append, marks_offsets]

/-- A name of fresh labels is written out. -/
theorem Fresh.makeParts_root (h : Fresh capacity base entries labels []) :
    Mdns.makeParts capacity labels { bytes := base, table := tableOf entries } =
      some
        { bytes := base ++ (wire labels ++ [0])
          table := tableOf (entries ++ marks base.length labels []) } := by
  have hroom := h.room
  have hloop := Fresh.makeParts (show Fresh capacity base entries ([] ++ labels) [] from h)
  simp only [wire_nil, marks, List.append_nil, List.nil_append] at hloop
  rw [hloop, Mdns.makeParts, if_neg, List.append_assoc]
  rw [List.length_append]
  omega

/-- Behind the fresh labels stands a reference to the rest of the name. -/
theorem Fresh.makeParts_reference {rest : List (List UInt8)}
    (h : Fresh capacity base entries labels old) (hold : old ≠ [])
    (hroom : base.length + (wire labels).length + 2 ≤ capacity)
    (hfind : (entries.find? fun entry => decide (old <+: entry.2)) = some (target, rest)) :
    Mdns.makeParts capacity (labels ++ old) { bytes := base, table := tableOf entries } =
      some
        { bytes := base ++ (wire labels ++ reference target)
          table := tableOf (entries ++ marks base.length labels []) } := by
  have hloop := Fresh.makeParts (show Fresh capacity base entries ([] ++ labels) old from h)
  have hwritten : Fresh capacity base entries (labels ++ []) old :=
    (List.append_nil labels).symm ▸ h
  have hreadable := hwritten.readable_written
  simp only [wire_nil, marks, List.append_nil, List.nil_append] at hloop
  rw [hloop]
  cases old with
  | nil => exact absurd rfl hold
  | cons first others =>
      rw [Mdns.makeParts, stringTableFind_eq _ hreadable, List.find?_append, hfind]
      simp only [Option.some_or, Option.map_some]
      rw [if_neg, List.append_assoc]
      rw [List.length_append]
      omega

/-- A name of the table is written as a reference. -/
theorem makeParts_known {rest : List (List UInt8)}
    (hreadable : ∀ entry ∈ entries, Readable (inMessage base) entry)
    (hcount : entries.length < maxSubstrings) (hold : old ≠ [])
    (hroom : base.length + 2 < capacity)
    (hfind : (entries.find? fun entry => decide (old <+: entry.2)) = some (target, rest)) :
    Mdns.makeParts capacity old { bytes := base, table := tableOf entries } =
      some { bytes := base ++ reference target, table := tableOf entries } := by
  have hfresh : Fresh capacity base entries [] old := by
    constructor
    · exact hreadable
    · intro label hlabel
      exact absurd hlabel List.not_mem_nil
    · rw [wire_nil, List.length_nil]
      omega
    · exact hcount
    · intro i hi
      exact absurd hi (Nat.not_lt_zero i)
    · intro i j _ hj
      exact absurd hj (Nat.not_lt_zero j)
  have hname := hfresh.makeParts_reference hold (by rw [wire_nil, List.length_nil]; omega) hfind
  simpa [marks] using hname

/-- A name that is written out can be read, from each of its labels on. -/
theorem readable_root (hbase : ∀ entry ∈ entries, Readable (inMessage base) entry)
    (hlabels : ∀ label ∈ labels, IsLabel label) :
    ∀ entry ∈ entries ++ marks base.length labels [],
      Readable (inMessage (base ++ (wire labels ++ [0]))) entry := by
  intro entry hentry
  cases List.mem_append.mp hentry with
  | inl hold => exact (hbase entry hold).mono fun _ _ => inMessage_append
  | inr hnew =>
      have hholds := holds_message base (wire labels ++ [0]) []
      rw [List.append_nil] at hholds
      obtain ⟨hwire, hroot⟩ := holds_append.mp hholds
      exact readable_marks hlabels hwire (.root (holds_cons.mp hroot).1) entry hnew

/-- A name that ends with a reference can be read, from each of its labels on. -/
theorem readable_reference (hbase : ∀ entry ∈ entries, Readable (inMessage base) entry)
    (hlabels : ∀ label ∈ labels, IsLabel label) (hlabel : IsLabel label)
    (htarget : target < 2 ^ 14) (hplain : Holds (inMessage base) target (labelBytes label))
    (hmem : (target, label :: old) ∈ entries) :
    ∀ entry ∈ entries ++ marks base.length labels (label :: old),
      Readable (inMessage (base ++ (wire labels ++ reference target))) entry := by
  intro entry hentry
  cases List.mem_append.mp hentry with
  | inl hold => exact (hbase entry hold).mono fun _ _ => inMessage_append
  | inr hnew =>
      have hholds := holds_message base (wire labels ++ reference target) []
      rw [List.append_nil] at hholds
      obtain ⟨hwire, hreference⟩ := holds_append.mp hholds
      obtain ⟨reads, stop, hspells⟩ := hbase _ hmem
      exact readable_marks hlabels hwire
        (.reference htarget hreference hlabel (hplain.mono fun _ _ => inMessage_append)
          (hspells.mono fun _ _ => inMessage_append)) entry hnew

end Names

section Parts

/-- A name whose last byte is no dot ends its last part. -/
theorem parts_append_dot {name more : List UInt8} (hne : name ≠ [])
    (hlast : name.getLast? ≠ some dot) :
    parts (name ++ dot :: more) = parts name ++ parts more := by
  induction name with
  | nil => exact absurd rfl hne
  | cons byte name ih =>
      cases name with
      | nil =>
          have hbyte : byte ≠ dot := fun heq => hlast (heq ▸ rfl)
          simp [parts, hbyte]
      | cons next name =>
          have hrest := ih (List.cons_ne_nil _ _) (by simpa using hlast)
          have hparts : parts (next :: name) ≠ [] := by
            rw [parts]
            split_ifs
            · exact List.cons_ne_nil _ _
            · split <;> exact List.cons_ne_nil _ _
          rw [List.cons_append, parts, hrest]
          conv_rhs => rw [parts]
          split_ifs with hbyte
          · rfl
          · cases hsplit : parts (next :: name) with
            | nil => exact absurd hsplit hparts
            | cons part others => rfl

/-- A part without a dot. -/
theorem parts_of_noDot {name : List UInt8} (hne : name ≠ []) (hdot : dot ∉ name) :
    parts name = [name] := by
  induction name with
  | nil => exact absurd rfl hne
  | cons byte name ih =>
      have hbyte : byte ≠ dot := fun heq => hdot (heq ▸ List.mem_cons_self)
      have hrest : dot ∉ name := fun hmem => hdot (List.mem_cons_of_mem byte hmem)
      rw [parts, if_neg hbyte]
      cases name with
      | nil => rfl
      | cons next name => rw [ih (List.cons_ne_nil _ _) hrest]

/-- The parts, with their lengths, are one byte longer than the name. -/
theorem length_wire_parts {name : List UInt8} (hne : name ≠ [])
    (hlast : name.getLast? ≠ some dot) : (wire (parts name)).length = name.length + 1 := by
  induction name with
  | nil => exact absurd rfl hne
  | cons byte name ih =>
      cases name with
      | nil =>
          have hbyte : byte ≠ dot := fun heq => hlast (heq ▸ rfl)
          simp [parts, hbyte, labelBytes]
      | cons next name =>
          have hrest := ih (List.cons_ne_nil _ _) (by simpa using hlast)
          rw [parts]
          split_ifs with hbyte
          · simp [hrest, labelBytes, Nat.add_comm]
          · cases hsplit : parts (next :: name) with
            | nil =>
                rw [hsplit] at hrest
                exact absurd hrest (by simp)
            | cons part others =>
                rw [hsplit] at hrest
                simp only [wire_cons, List.length_append, length_labelBytes, List.length_cons]
                  at hrest ⊢
                omega

/-- What follows the last dot belongs to the last part. -/
theorem parts_append_noDot (name : List UInt8) {more : List UInt8} (hne : more ≠ [])
    (hdot : dot ∉ more) : ∃ first last, parts (name ++ more) = first ++ [last ++ more] := by
  induction name with
  | nil => exact ⟨[], [], parts_of_noDot hne hdot⟩
  | cons byte name ih =>
      obtain ⟨first, last, hparts⟩ := ih
      rw [List.cons_append, parts, hparts]
      split_ifs with hbyte
      · exact ⟨[] :: first, last, rfl⟩
      · cases first with
        | nil => exact ⟨[], byte :: last, rfl⟩
        | cons part others => exact ⟨(byte :: part) :: others, last, rfl⟩

theorem length_le_wire {labels : List (List UInt8)} {label : List UInt8} (h : label ∈ labels) :
    label.length + 1 ≤ (wire labels).length := by
  induction labels with
  | nil => exact absurd h List.not_mem_nil
  | cons first labels ih =>
      rw [wire_cons, List.length_append, length_labelBytes]
      cases List.mem_cons.mp h with
      | inl hfirst =>
          rw [hfirst]
          omega
      | inr hrest =>
          have hle := ih hrest
          omega

/-- A label takes two bytes at least. -/
theorem two_mul_length_le_wire {labels : List (List UInt8)} (h : ∀ label ∈ labels, label ≠ []) :
    2 * labels.length ≤ (wire labels).length := by
  induction labels with
  | nil => exact Nat.zero_le _
  | cons label labels ih =>
      have hpos := List.length_pos_iff.mpr (h label List.mem_cons_self)
      have hrest := ih fun other hother => h other (List.mem_cons_of_mem label hother)
      rw [wire_cons, List.length_append, length_labelBytes, List.length_cons]
      omega

end Parts

section Records

variable {capacity : Nat} {record : MdnsRecord} {buffer owner : MdnsBuffer}
  {table : MdnsStringTable} {data : List UInt8}

/-- The fixed part of a record whose data has a length. -/
def fixed (record : MdnsRecord) (length : Nat) : List UInt8 :=
  bytes16 (recordType record.data) ++ bytes16 record.rclass ++ bytes32 record.ttl ++
    bytes16 length.toUInt16

@[simp] theorem length_fixed (record : MdnsRecord) (length : Nat) :
    (fixed record length).length = 10 := rfl

theorem fillLength_eq (table : MdnsStringTable) (front data : List UInt8) :
    fillLength (front ++ bytes16 0).length
        { bytes := front ++ bytes16 0 ++ data, table := table } =
      { bytes := front ++ bytes16 data.length.toUInt16 ++ data, table := table } := by
  have hfront : (front ++ bytes16 0).length - 2 = front.length := by simp
  rw [fillLength, List.drop_left, hfront, List.append_assoc front (bytes16 0), List.take_left,
    ← List.append_assoc, List.length_append, Nat.add_sub_cancel_left]

theorem answerAddRecordHeader_eq (howner : stringMake capacity record.name buffer = some owner)
    (hroom : owner.bytes.length + 10 ≤ capacity) :
    answerAddRecordHeader capacity record buffer =
      some { owner with bytes := owner.bytes ++ fixed record 0 } := by
  rw [answerAddRecordHeader, howner]
  exact if_neg (Nat.not_lt.mpr hroom)

/-- A record is its name, its fixed part and its data. -/
theorem answerAddRecord_eq (htxt : isTxt record = false)
    (howner : stringMake capacity record.name buffer = some owner)
    (hroom : owner.bytes.length + 10 ≤ capacity)
    (hdata : addData capacity record.data
      { owner with bytes := owner.bytes ++ fixed record 0 } =
        some { bytes := owner.bytes ++ fixed record 0 ++ data, table := table }) :
    answerAddRecord capacity record buffer =
      some { bytes := owner.bytes ++ (fixed record data.length ++ data), table := table } := by
  have hfill := fillLength_eq table (owner.bytes ++ (bytes16 (recordType record.data) ++
    bytes16 record.rclass ++ bytes32 record.ttl)) data
  rw [answerAddRecord, htxt, answerAddRecordHeader_eq howner hroom]
  simp only [Bool.false_eq_true, if_false, Option.bind_eq_bind, Option.bind_some, hdata]
  simp only [fixed, List.append_assoc] at hfill ⊢
  exact congrArg some hfill

end Records

end Mdns

end SyncAudio
