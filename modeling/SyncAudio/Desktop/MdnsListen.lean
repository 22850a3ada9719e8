import SyncAudio.Desktop.DiscoveryService

/-!
# Listening for mDNS questions

`mdns_socket_listen` walks the questions of a datagram and hands each to the callback of
`DiscoveryService`, which answers the ones that ask for its service. Whatever the names look
like, plain or shortened by references, the host answers exactly those questions.

## Implementation notes

The answers of the callback to what is no question are none, so the records behind the
questions are not walked. Behind a datagram the buffer goes on with zeros; what lies behind the
buffer is not read by datagrams that leave a few bytes of it free. The bytes of a unicast answer
are left out.
-/

namespace SyncAudio

namespace Mdns

open BigEndian DomainName

def classAny : UInt16 := 255

def unicastResponse : UInt16 := 0x8000

/-- `mdns_ntohs`. -/
def ntohs (bytes : List UInt8) (offset : Nat) : UInt16 :=
  (byteAt bytes offset).toUInt16 <<< 8 ||| (byteAt bytes (offset + 1)).toUInt16

/-- The loop of `mdns_string_skip`: the offset behind the name. -/
def skipLoop (bytes : List UInt8) (size : Nat) : Nat → Nat → Option Nat
  | 0, _ => none
  | rounds + 1, current =>
      match getNextSubstring bytes size current with
      | none => none
      | some (offset, length) =>
          if isStringRef (byteAt bytes current) then some (current + 2)
          else if length = 0 then some (offset + length + 1)
          else skipLoop bytes size rounds (offset + length)

/-- `mdns_string_skip`. -/
def stringSkip (bytes : List UInt8) (size offset : Nat) : Option Nat :=
  skipLoop bytes size (maxSubstrings + 1) offset

def slice (bytes : List UInt8) (offset length : Nat) : List UInt8 :=
  (List.range length).map fun i => byteAt bytes (offset + i)

/-- One character after the other, up to a zero. -/
def strncasecmp : List UInt8 → List UInt8 → Bool
  | left :: lefts, right :: rights =>
      if toLower left ≠ toLower right then false
      else if left = 0 then true
      else strncasecmp lefts rights
  | _, _ => true
where
  toLower (byte : UInt8) : UInt8 := if 65 ≤ byte ∧ byte ≤ 90 then byte + 32 else byte

/-- The loop of `mdns_string_equal`: the offset behind the left name, if they are equal. -/
def equalLoop (bytes : List UInt8) (size : Nat) (verify : List UInt8) :
    Nat → Nat → Nat → Option Nat → Option Nat
  | 0, _, _, _ => none
  | rounds + 1, left, right, ending =>
      match getNextSubstring bytes size left, getNextSubstring verify verify.length right with
      | some (leftOffset, leftLength), some (rightOffset, rightLength) =>
          if leftLength ≠ rightLength then none
          else if strncasecmp (slice verify rightOffset rightLength)
              (slice bytes leftOffset rightLength) = false then none
          else
            let ending :=
              if isStringRef (byteAt bytes left) ∧ ending = none then some (left + 2) else ending
            if leftLength = 0 then some (ending.getD (leftOffset + leftLength + 1))
            else
              equalLoop bytes size verify rounds (leftOffset + leftLength)
                (rightOffset + rightLength) ending
      | _, _ => none

/-- `mdns_string_equal`. -/
def stringEqual (bytes : List UInt8) (size offset : Nat) (verify : List UInt8) (right : Nat) :
    Option Nat :=
  equalLoop bytes size verify (maxSubstrings + 1) offset right none

/-- What `mdns_string_extract` appends for a label. -/
def appendLabel (capacity : Nat) (text label : List UInt8) : List UInt8 :=
  let text := text ++ label.take (capacity - text.length)
  if text.length < capacity then text ++ [dot] else text

/-- The loop of `mdns_string_extract`. -/
def extractLoop (bytes : List UInt8) (size capacity : Nat) :
    Nat → Nat → List UInt8 → Option (List UInt8)
  | 0, _, _ => none
  | rounds + 1, current, text =>
      match getNextSubstring bytes size current with
      | none => none
      | some (offset, length) =>
          if length = 0 then some text
          else
            extractLoop bytes size capacity rounds (offset + length)
              (appendLabel capacity text (slice bytes offset length))

/-- `mdns_string_extract`: the text of the name, empty if it cannot be read. -/
def stringExtract (bytes : List UInt8) (size offset capacity : Nat) : List UInt8 :=
  (extractLoop bytes size capacity (maxSubstrings + 1) offset []).getD []

def servicesLabels : List (List UInt8) :=
  [[95, 115, 101, 114, 118, 105, 99, 101, 115], [95, 100, 110, 115, 45, 115, 100],
    [95, 117, 100, 112], [108, 111, 99, 97, 108]]

/-- `mdns_services_query`. -/
def servicesQuery : List UInt8 :=
  [0, 0, 0, 0, 0, 1, 0, 0, 0, 0, 0, 0] ++ wire servicesLabels ++ [0, 0, 12, 0x80, 1]

/-- The end of a question's name, and whether it asks for all services. -/
def questionName (bytes : List UInt8) (offset : Nat) : Option (Bool × Nat) :=
  match stringEqual bytes bytes.length offset servicesQuery 12 with
  | some behind => some (true, behind)
  | none => (stringSkip bytes bytes.length offset).map fun behind => (false, behind)

/-- The loop over the questions. The callback is given type, class and the offset of the name. -/
def questionLoop {α : Type} (callback : UInt16 → UInt16 → Nat → List α) (bytes : List UInt8) :
    Nat → Nat → List α
  | 0, _ => []
  | questions + 1, offset =>
      match questionName bytes offset with
      | none => []
      | some (dnsSd, behind) =>
          let rtype := ntohs bytes behind
          let rclass := ntohs bytes (behind + 2)
          if rclass &&& ~~~cacheFlush ≠ classIn ∧ rclass &&& ~~~cacheFlush ≠ classAny then []
          else if dnsSd ∧ ntohs bytes 2 ≠ 0 then questionLoop callback bytes questions (behind + 4)
          else callback rtype rclass offset ++ questionLoop callback bytes questions (behind + 4)

/-- `mdns_socket_listen`, on what `recvfrom` has put into the buffer. -/
def socketListen {α : Type} (callback : UInt16 → UInt16 → Nat → List α) (bytes : List UInt8) :
    List α :=
  if bytes = [] then [] else questionLoop callback bytes (ntohs bytes 4).toNat 12

section Names

variable {bytes verify label text : List UInt8} {labels names : List (List UInt8)}
  {size capacity offset reads stop rounds left right : Nat}

theorem isStringRef_reference {target : Nat} (htarget : target < 2 ^ 14)
    (h : Holds (padded bytes size) offset (reference target)) :
    isStringRef (byteAt bytes offset) = true := by
  rw [reference_eq htarget] at h
  have hfirst := byteAt_of_holds h (i := 0) rfl
  rw [Nat.add_zero] at hfirst
  rw [hfirst.2]
  exact decide_eq_true (reference_marked htarget)

theorem isStringRef_root (h : padded bytes size offset = some 0) :
    isStringRef (byteAt bytes offset) = false := by
  have hzero : byteAt bytes offset = 0 := (padded_eq_some.mp h).2
  rw [hzero]
  decide

/-- The first label of a name, and what is behind it. -/
theorem next_spells (h : Spells (padded bytes size) offset (label :: labels) reads stop) :
    ∃ start reads' stop', IsLabel label ∧
      getNextSubstring bytes size offset = some (start, label.length) ∧
      slice bytes start label.length = label ∧
      Spells (padded bytes size) (start + label.length) labels reads' stop' ∧ reads' < reads ∧
      stop = if isStringRef (byteAt bytes offset) then offset + 2 else stop' := by
  generalize hall : label :: labels = all at h
  induction h with
  | root => cases hall
  | @label offset first others reads stop hlabel hbytes hrest ih =>
      cases hall
      refine ⟨offset + 1, reads, stop, hlabel, getNextSubstring_label hlabel hbytes,
        (byteAt_label hbytes).2, hrest, Nat.lt_succ_self _, ?_⟩
      simp [isStringRef_label hlabel hbytes]
  | @reference offset target first others reads stop htarget hbytes hlabel hplain hrest ih =>
      obtain ⟨start, reads', stop', -, hnext, hslice, hbehind, hlt, -⟩ := ih hall
      cases hall
      rw [getNextSubstring_label hlabel hplain] at hnext
      refine ⟨start, reads', stop', hlabel, ?_, hslice, hbehind, Nat.lt_succ_of_lt hlt, ?_⟩
      · rw [getNextSubstring_reference htarget hbytes hlabel hplain]
        exact hnext
      · simp [isStringRef_reference htarget hbytes]

/-- Skipping a name ends behind it. -/
theorem skipLoop_spells (h : Spells (padded bytes size) offset labels reads stop)
    (hreads : reads ≤ rounds) : skipLoop bytes size rounds offset = some stop := by
  induction labels generalizing offset reads stop rounds with
  | nil =>
      cases h with
      | root hzero =>
          obtain ⟨rounds, rfl⟩ := Nat.exists_eq_add_of_le' hreads
          rw [skipLoop, getNextSubstring_root hzero]
          simp [isStringRef_root hzero]
  | cons label labels ih =>
      obtain ⟨start, reads', stop', hlabel, hnext, -, hbehind, hlt, hstop⟩ := next_spells h
      cases rounds with
      | zero => exact absurd (hlt.trans_le hreads) (Nat.not_lt_zero _)
      | succ rounds =>
          have hrest := ih hbehind (Nat.le_of_lt_succ (hlt.trans_le hreads))
          rw [skipLoop, hnext, hstop]
          simp only [hlabel.pos.ne', if_false, hrest]
          split_ifs
          · rfl
          · rfl

/-- The text of a name, label by label. -/
theorem extractLoop_spells (h : Spells (padded bytes size) offset labels reads stop)
    (hreads : reads ≤ rounds) :
    extractLoop bytes size capacity rounds offset text =
      some (labels.foldl (appendLabel capacity) text) := by
  induction labels generalizing offset reads stop rounds text with
  | nil =>
      cases h with
      | root hzero =>
          obtain ⟨rounds, rfl⟩ := Nat.exists_eq_add_of_le' hreads
          rw [extractLoop, getNextSubstring_root hzero]
          simp
  | cons label labels ih =>
      obtain ⟨start, reads', stop', hlabel, hnext, hslice, hbehind, hlt, -⟩ := next_spells h
      cases rounds with
      | zero => exact absurd (hlt.trans_le hreads) (Nat.not_lt_zero _)
      | succ rounds =>
          rw [extractLoop, hnext]
          simp only [hlabel.pos.ne', if_false, hslice]
          exact ih hbehind (Nat.le_of_lt_succ (hlt.trans_le hreads))

/-- A label with the dot behind it, as far as there is room. -/
theorem appendLabel_eq (htext : text.length ≤ capacity) :
    appendLabel capacity text label = (text ++ (label ++ [dot])).take capacity := by
  simp only [appendLabel]
  by_cases hfits : text.length + label.length < capacity
  · rw [List.take_of_length_le (by omega), if_pos (by simpa using hfits),
      List.take_of_length_le (by simp; omega), List.append_assoc]
  · rw [if_neg (by simp; omega), List.take_append, List.take_of_length_le htext,
      List.take_append_of_le_length (by omega)]

theorem take_take_append (front more : List UInt8) :
    (front.take capacity ++ more).take capacity = (front ++ more).take capacity := by
  by_cases hfits : front.length ≤ capacity
  · rw [List.take_of_length_le hfits]
  · have hfull : (front.take capacity).length = capacity := by
      rw [List.length_take]
      omega
    rw [List.take_append_of_le_length hfull.ge, List.take_append_of_le_length (by omega),
      List.take_take, Nat.min_self]

/-- The dotted name, as far as there is room. -/
theorem foldl_appendLabel (htext : text.length ≤ capacity) :
    labels.foldl (appendLabel capacity) text =
      (text ++ labels.flatMap fun label => label ++ [dot]).take capacity := by
  induction labels generalizing text with
  | nil => simp [List.take_of_length_le htext]
  | cons label labels ih =>
      rw [List.foldl_cons, appendLabel_eq htext, ih (by simp), take_take_append,
        List.flatMap_cons, List.append_assoc]

/-- Labels that `mdns_string_equal` takes for the same. -/
def sameName : List (List UInt8) → List (List UInt8) → Bool
  | [], [] => true
  | name :: names, label :: labels =>
      decide (name.length = label.length) && strncasecmp name label && sameName names labels
  | _, _ => false

/-- The end of the left name is found at its first reference. -/
theorem ending_getD {isRef : Bool} {ending : Option Nat} {stop' : Nat} :
    (if isRef ∧ ending = none then some (left + 2) else ending).getD stop' =
      ending.getD (if isRef then left + 2 else stop') := by
  cases isRef with
  | false => simp
  | true =>
      cases ending with
      | none => simp
      | some behind => simp

theorem equalLoop_spells {ending : Option Nat} {reads' stop' : Nat}
    (hleft : Spells (padded bytes size) left labels reads stop) (hreads : reads ≤ rounds)
    (hright : Spells (padded verify verify.length) right names reads' stop') :
    equalLoop bytes size verify rounds left right ending =
      if sameName names labels then some (ending.getD stop) else none := by
  induction labels generalizing left right names reads reads' stop stop' rounds ending with
  | nil =>
      cases hleft with
      | root hzero =>
          obtain ⟨rounds, rfl⟩ := Nat.exists_eq_add_of_le' hreads
          rw [equalLoop, getNextSubstring_root hzero]
          cases hright with
          | root hroot =>
              rw [getNextSubstring_root hroot]
              simp [isStringRef_root hzero, sameName, slice, strncasecmp]
          | label hlabel hbytes _ =>
              rw [getNextSubstring_label hlabel hbytes]
              simp [sameName, hlabel.pos.ne]
          | reference htarget hbytes hlabel hplain _ =>
              rw [getNextSubstring_reference htarget hbytes hlabel hplain]
              simp [sameName, hlabel.pos.ne]
  | cons label labels ih =>
      obtain ⟨start, fewer, behind, hlabel, hnext, hslice, hbehind, hlt, hstop⟩ :=
        next_spells hleft
      cases rounds with
      | zero => exact absurd (hlt.trans_le hreads) (Nat.not_lt_zero _)
      | succ rounds =>
          rw [equalLoop, hnext]
          cases names with
          | nil =>
              cases hright with
              | root hroot =>
                  rw [getNextSubstring_root hroot]
                  simp [sameName, hlabel.pos.ne']
          | cons name names =>
              obtain ⟨start', fewer', behind', -, hnext', hslice', hbehind', -, -⟩ :=
                next_spells hright
              rw [hnext']
              simp only [sameName]
              by_cases hlength : label.length = name.length
              · rw [← hlength] at hslice' hbehind'
                simp only [← hlength, ne_eq, not_true_eq_false, if_false, hslice, hslice',
                  hlabel.pos.ne', decide_true, Bool.true_and]
                cases strncasecmp name label with
                | false => simp
                | true =>
                    have hrest : equalLoop bytes size verify rounds (start + label.length)
                        (start' + label.length)
                        (if isStringRef (byteAt bytes left) ∧ ending = none then some (left + 2)
                          else ending) = _ :=
                      ih hbehind (Nat.le_of_lt_succ (hlt.trans_le hreads)) hbehind'
                    rw [ending_getD, ← hstop] at hrest
                    simpa using hrest
              · simp [hlength, Ne.symm hlength]

theorem sameName_dotted_length (h : sameName names labels = true) :
    (labels.flatMap fun label => label ++ [dot]).length =
      (names.flatMap fun name => name ++ [dot]).length := by
  induction names generalizing labels with
  | nil =>
      cases labels with
      | nil => rfl
      | cons label labels => exact absurd h Bool.false_ne_true
  | cons name names ih =>
      cases labels with
      | nil => exact absurd h Bool.false_ne_true
      | cons label labels =>
          simp only [sameName, Bool.and_eq_true, decide_eq_true_eq] at h
          simp [h.1.1, ih h.2]

end Names

section Questions

variable {bytes : List UInt8} {labels : List (List UInt8)} {offset reads stop : Nat}

/-- A question of a message. -/
structure Question where
  labels : List (List UInt8)
  rtype : UInt16
  rclass : UInt16

/-- The name as `mdns_string_extract` spells it. -/
def Question.name (question : Question) : List UInt8 :=
  (question.labels.flatMap fun label => label ++ [dot]).take 256

def Question.inClass (question : Question) : Bool :=
  decide (question.rclass &&& ~~~cacheFlush = classIn) ||
    decide (question.rclass &&& ~~~cacheFlush = classAny)

/-- The questions at an offset. -/
inductive Asks (bytes : List UInt8) : Nat → List Question → Prop
  | none {offset : Nat} : Asks bytes offset []
  | next {offset reads stop : Nat} {question : Question} {questions : List Question}
      (hname : Spells (inMessage bytes) offset question.labels reads stop)
      (hreads : reads ≤ maxSubstrings + 1)
      (htype : Holds (inMessage bytes) stop (bytes16 question.rtype))
      (hclass : Holds (inMessage bytes) (stop + 2) (bytes16 question.rclass))
      (hrest : Asks bytes (stop + 4) questions) : Asks bytes offset (question :: questions)

/-- The header and the questions of a message. -/
structure AskingMessage (bytes : List UInt8) (flags : UInt16) (questions : List Question) :
    Prop where
  flags : Holds (inMessage bytes) 2 (bytes16 flags)
  count : Holds (inMessage bytes) 4 (bytes16 questions.length.toUInt16)
  length_lt : questions.length < 2 ^ 16
  asks : Asks bytes 12 questions

theorem ntohs_holds {value : UInt16} (h : Holds (inMessage bytes) offset (bytes16 value)) :
    ntohs bytes offset = value := by
  have hhigh := h 0 _ rfl
  have hlow := h 1 _ rfl
  rw [inMessage, Nat.add_zero] at hhigh
  rw [inMessage] at hlow
  rw [ntohs, byteAt, byteAt, hhigh, hlow]
  exact join16_split value

theorem inMessage_buffer {i : Nat} {byte : UInt8} (h : inMessage bytes i = some byte) :
    padded bytes bytes.length i = some byte :=
  inMessage_padded le_rfl h

theorem isLabel_servicesLabels : ∀ label ∈ servicesLabels, IsLabel label := by
  intro label hlabel
  have hall : ∀ label ∈ servicesLabels, 0 < label.length ∧ label.length < 64 := by decide
  exact ⟨(hall label hlabel).1, (hall label hlabel).2⟩

theorem servicesQuery_spells :
    Spells (padded servicesQuery servicesQuery.length) 12 servicesLabels 5 42 := by
  have hwire : Holds (inMessage servicesQuery) 12 (wire servicesLabels) :=
    holds_message [0, 0, 0, 0, 0, 1, 0, 0, 0, 0, 0, 0] (wire servicesLabels) [0, 0, 12, 0x80, 1]
  have hroot : Spells (inMessage servicesQuery) (12 + (wire servicesLabels).length) [] 1 42 :=
    .root rfl
  exact (Spells.prepend isLabel_servicesLabels hwire hroot).mono fun _ _ => inMessage_buffer

/-- The name of a question is compared and skipped however it is shortened. -/
theorem questionName_spells (h : Spells (inMessage bytes) offset labels reads stop)
    (hreads : reads ≤ maxSubstrings + 1) :
    questionName bytes offset = some (sameName servicesLabels labels, stop) := by
  have hpadded := h.mono fun _ _ => inMessage_buffer
  rw [questionName, stringEqual, equalLoop_spells hpadded hreads servicesQuery_spells]
  cases sameName servicesLabels labels with
  | true => rfl
  | false =>
      simp only [Bool.false_eq_true, if_false]
      rw [stringSkip, skipLoop_spells hpadded hreads]
      rfl

theorem stringExtract_spells {question : Question}
    (h : Spells (inMessage bytes) offset question.labels reads stop)
    (hreads : reads ≤ maxSubstrings + 1) :
    stringExtract bytes bytes.length offset 256 = question.name := by
  have hpadded := h.mono fun _ _ => inMessage_buffer
  rw [stringExtract, extractLoop_spells hpadded hreads, foldl_appendLabel (Nat.zero_le _)]
  rfl

/-- What the callback is handed, question by question. -/
theorem questionLoop_asks {α : Type} {callback : UInt16 → UInt16 → Nat → List α}
    {answers : Question → List α} {questions : List Question}
    (hcallback : ∀ (offset reads stop : Nat) (question : Question),
      Spells (inMessage bytes) offset question.labels reads stop → reads ≤ maxSubstrings + 1 →
      callback question.rtype question.rclass offset = answers question)
    (h : Asks bytes offset questions) :
    questionLoop callback bytes questions.length offset =
      (questions.takeWhile Question.inClass).flatMap fun question =>
        if sameName servicesLabels question.labels ∧ ntohs bytes 2 ≠ 0 then []
        else answers question := by
  induction h with
  | none => rfl
  | @next offset reads stop question questions hname hreads htype hclass hrest ih =>
      rw [List.length_cons, questionLoop, questionName_spells hname hreads]
      simp only [ntohs_holds htype, ntohs_holds hclass, ih]
      by_cases hin : question.inClass = true
      · have hclass : ¬ (question.rclass &&& ~~~cacheFlush ≠ classIn ∧
            question.rclass &&& ~~~cacheFlush ≠ classAny) := by
          rw [Question.inClass, Bool.or_eq_true, decide_eq_true_eq, decide_eq_true_eq] at hin
          tauto
        rw [if_neg hclass, List.takeWhile_cons_of_pos hin, List.flatMap_cons,
          hcallback offset reads stop question hname hreads]
        split_ifs
        · rfl
        · rfl
      · have hclass : question.rclass &&& ~~~cacheFlush ≠ classIn ∧
            question.rclass &&& ~~~cacheFlush ≠ classAny := by
          rw [Question.inClass, Bool.or_eq_true, decide_eq_true_eq, decide_eq_true_eq] at hin
          tauto
        rw [if_pos hclass, List.takeWhile_cons_of_neg hin]
        rfl

/-- The dotted name of all services. -/
theorem dotted_length (h : sameName servicesLabels labels = true) :
    (labels.flatMap fun label => label ++ [dot]).length = 29 :=
  sameName_dotted_length h

theorem dotted_head (h : sameName servicesLabels labels = true) :
    (labels.flatMap fun label => label ++ [dot]).head? = some 95 := by
  have hlower : ∀ byte : UInt8,
      strncasecmp.toLower 95 = strncasecmp.toLower byte → byte = 95 := by
    have hall : ∀ n : Fin 256, strncasecmp.toLower 95 = strncasecmp.toLower (UInt8.ofNat n) →
        UInt8.ofNat n = 95 := by decide +kernel
    intro byte
    simpa using hall ⟨byte.toNat, byte.toNat_lt⟩
  cases labels with
  | nil => exact absurd h Bool.false_ne_true
  | cons label labels =>
      simp only [servicesLabels, sameName, Bool.and_eq_true, decide_eq_true_eq] at h
      obtain ⟨⟨hlength, hsame⟩, -⟩ := h
      cases label with
      | nil => exact absurd hlength (by decide)
      | cons byte label =>
          by_cases hbyte : strncasecmp.toLower 95 = strncasecmp.toLower byte
          · exact congrArg some (hlower byte hbyte)
          · rw [strncasecmp, if_pos hbyte] at hsame
            exact absurd hsame Bool.false_ne_true

end Questions

end Mdns

namespace DiscoveryService

open BigEndian DomainName Mdns

/-- What the callback sends. -/
structure CallbackAnswer where
  unicast : Bool
  answer : MdnsRecord
  additional : List MdnsRecord
  deriving DecidableEq

/-- The answer to a question for a name. -/
def answerTo (service : DiscoveryService) (asked : List UInt8) (rtype rclass : UInt16) :
    List CallbackAnswer :=
  let unicast := decide (rclass &&& unicastResponse ≠ 0)
  if asked = dnsName serviceType ∧ (rtype = 12 ∨ rtype = 255) then
    [{ unicast
       answer := service.ptrRecord
       additional := service.additional }]
  else if asked = dnsName service.serviceName ∧ (rtype = 33 ∨ rtype = 255) then
    [{ unicast
       answer := service.srvRecord
       additional := [service.addressRecord, service.versionRecord, service.roomRecord] }]
  else if asked = dnsName service.qualifiedHost ∧ (rtype = 1 ∨ rtype = 255) then
    [{ unicast
       answer := service.addressRecord
       additional := [] }]
  else []

/-- `callback`, for a question. -/
def callback (service : DiscoveryService) (bytes : List UInt8) (rtype rclass : UInt16)
    (offset : Nat) : List CallbackAnswer :=
  service.answerTo (stringExtract bytes bytes.length offset 256) rtype rclass

/-- What a host answers to a datagram. -/
def listen (service : DiscoveryService) (bytes : List UInt8) : List CallbackAnswer :=
  socketListen (service.callback bytes) bytes

/-- The datagram of an answer to the multicast group. -/
def CallbackAnswer.datagram (sent : CallbackAnswer) : Option (List UInt8) :=
  if sent.unicast then none else queryAnswerMulticast 2048 sent.answer [] sent.additional

variable {service : DiscoveryService} {bytes : List UInt8} {flags : UInt16}
  {questions : List Question}

/-- A host answers the questions of a message up to the first of another class, each one that
asks for its service, whether the names are shortened or not. -/
theorem listen_asks (service : DiscoveryService) (h : AskingMessage bytes flags questions) :
    service.listen bytes =
      (questions.takeWhile Question.inClass).flatMap fun question =>
        if sameName servicesLabels question.labels ∧ flags ≠ 0 then []
        else service.answerTo question.name question.rtype question.rclass := by
  have hcount : (ntohs bytes 4).toNat = questions.length := by
    rw [ntohs_holds h.count]
    exact Nat.mod_eq_of_lt h.length_lt
  have hbytes : bytes ≠ [] := by
    rintro rfl
    exact absurd (h.count 0 _ rfl) (by simp [inMessage])
  rw [listen, socketListen, if_neg hbytes, hcount, ← ntohs_holds h.flags]
  apply questionLoop_asks _ h.asks
  intro offset reads stop question hname hreads
  rw [callback, stringExtract_spells hname hreads]

/-- A message without questions is not answered. -/
theorem listen_of_count (service : DiscoveryService)
    (h : Holds (inMessage bytes) 4 (bytes16 0)) : service.listen bytes = [] := by
  rw [listen, socketListen, ntohs_holds h]
  split_ifs
  · rfl
  · rfl

end DiscoveryService

end SyncAudio
