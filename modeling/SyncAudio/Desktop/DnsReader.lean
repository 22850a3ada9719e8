import SyncAudio.Desktop.RoomDiscovery

/-!
# Reading announcements without a crash

`Parse` catches a malformed name and a slice that is out of range, but not a direct index that
is. With every access to the packet written as one that may fail, none of the direct ones
does, and `Parse` ends on every packet as `RoomDiscovery.parse` says.

## Implementation notes

An early `return` leaves the body like an exception does. The loop of `Name` counts its
rounds; the loop over the strings of a TXT record runs as long as its condition holds.
-/

namespace SyncAudio

/-- How the body of `Parse` is left before its end. -/
inductive DnsExit where
  | returned
  | formatException (message : Text)
  | argumentOutOfRange
  | indexOutOfRange
  deriving DecidableEq

/-- Neither of the two `catch` clauses takes it. -/
def DnsExit.escapes : DnsExit → Bool
  | .indexOutOfRange => true
  | _ => false

namespace DnsReader

open RoomDiscovery

abbrev Reads (α : Type) := Except DnsExit α

/-- `bytes[position]`. -/
def index (bytes : List UInt8) (position : Nat) : Reads UInt8 :=
  match bytes[position]? with
  | none => .error .indexOutOfRange
  | some byte => .ok byte

/-- `bytes.Slice`. -/
def slice (bytes : List UInt8) (offset length : Nat) : Reads (List UInt8) :=
  if bytes.length < offset + length then .error .argumentOutOfRange
  else .ok ((bytes.drop offset).take length)

/-- `text[start..]`. -/
def textFrom (text : Text) (start : Nat) : Reads Text :=
  if text.length < start then .error .argumentOutOfRange else .ok (text.drop start)

/-- `text[..^count]`. -/
def textUpTo (text : Text) (count : Nat) : Reads Text :=
  if text.length < count then .error .argumentOutOfRange
  else .ok (text.take (text.length - count))

def u16 (bytes : List UInt8) (offset : Nat) : Reads UInt16 := do
  let word ← slice bytes offset 2
  match word with
  | [high, low] => .ok (BigEndian.join16 high low)
  | _ => .error .argumentOutOfRange

def u32 (bytes : List UInt8) (offset : Nat) : Reads UInt32 := do
  let word ← slice bytes offset 4
  match word with
  | [a, b, c, d] => .ok (BigEndian.join32 (BigEndian.join16 a b) (BigEndian.join16 c d))
  | _ => .error .argumentOutOfRange

/-- The variables of `Name`. -/
structure NameState where
  offset : Nat
  position : Nat
  jumped : Bool := false
  labels : List Text := []

/-- One round of the loop of `Name`: another one follows, or the name is complete. -/
def nameRound (bytes : List UInt8) (s : NameState) : Reads (NameState ⊕ Text × Nat) := do
  if bytes.length ≤ s.position then .error (.formatException "DNS name is truncated.".toList)
  else
    let length ← index bytes s.position
    let position := s.position + 1
    if length = 0 then
      .ok (.inr (List.intercalate ['.'] s.labels, if s.jumped then s.offset else position))
    else if length &&& 0xC0 = 0xC0 then
      if bytes.length ≤ position then
        .error (.formatException "DNS pointer is truncated.".toList)
      else
        let low ← index bytes position
        let target := (length &&& 0x3F).toNat <<< 8 ||| low.toNat
        if bytes.length ≤ target then
          .error (.formatException "DNS pointer is invalid.".toList)
        else
          .ok (.inl
            { s with
              offset := if s.jumped then s.offset else position + 1
              position := target
              jumped := true })
    else if 63 < length ∨ bytes.length < position + length.toNat then
      .error (.formatException "DNS label is invalid.".toList)
    else
      let label ← slice bytes position length.toNat
      .ok (.inl
        { s with
          position := position + length.toNat
          labels := s.labels ++ [getString label] })

/-- The loop of `Name`, and the number of its rounds. -/
def nameLoop (bytes : List UInt8) : Nat → NameState → Reads (Text × Nat) × Nat
  | 0, _ => (.error (.formatException "DNS name has too many labels.".toList), 0)
  | count + 1, s =>
      match nameRound bytes s with
      | .error exit => (.error exit, 1)
      | .ok (.inr found) => (.ok found, 1)
      | .ok (.inl next) =>
          let rest := nameLoop bytes count next
          (rest.1, rest.2 + 1)

/-- `Name`. -/
def name (bytes : List UInt8) (offset : Nat) : Reads (Text × Nat) :=
  (nameLoop bytes 32 { offset := offset, position := offset }).1

def header (bytes : List UInt8) : Reads (Nat × Nat) := do
  if bytes.length < 12 then .error .returned
  else
    let flags ← u16 bytes 2
    if flags &&& 0x8000 = 0 then .error .returned
    else
      let questions ← u16 bytes 4
      let answers ← u16 bytes 6
      let authorities ← u16 bytes 8
      let additional ← u16 bytes 10
      let records := answers.toNat + authorities.toNat + additional.toNat
      if 32 < questions.toNat ∨ 128 < records then .error .returned
      else .ok (questions.toNat, records)

def skipQuestions (bytes : List UInt8) : Nat → Nat → Reads Nat
  | 0, cursor => .ok cursor
  | questions + 1, cursor => do
      let (_, cursor) ← name bytes cursor
      if bytes.length < cursor + 4 then .error .returned
      else skipQuestions bytes questions (cursor + 4)

def readRecord (bytes : List UInt8) (cursor : Nat) : Reads DnsRecord := do
  let (owner, cursor) ← name bytes cursor
  if bytes.length < cursor + 10 then .error .returned
  else
    let type ← u16 bytes cursor
    let ttl ← u32 bytes (cursor + 4)
    let length ← u16 bytes (cursor + 8)
    if bytes.length < cursor + 10 + length.toNat then .error .returned
    else
      .ok
        { owner := owner
          type := type
          ttl := ttl
          length := length.toNat
          cursor := cursor + 10 }

/-- The loop over the strings of a TXT record: what it has learned, and how it was left. -/
def readTexts (bytes : List UInt8) (owner : Text) (stop position : Nat)
    (identifiers : OrderedMap Text Text) : OrderedMap Text Text × Reads Unit :=
  if position < stop then
    match index bytes position with
    | .error exit => (identifiers, .error exit)
    | .ok size =>
        if stop < position + 1 + size.toNat then (identifiers, .ok ())
        else
          match slice bytes (position + 1) size.toNat with
          | .error exit => (identifiers, .error exit)
          | .ok string =>
              let text := getString string
              if startsWithIgnoreCase text "room=".toList then
                match textFrom text 5 with
                | .error exit => (identifiers, .error exit)
                | .ok identifier =>
                    readTexts bytes owner stop (position + 1 + size.toNat)
                      (identifiers.assign owner identifier)
              else readTexts bytes owner stop (position + 1 + size.toNat) identifiers
  else (identifiers, .ok ())
termination_by stop - position

/-- What the body does with a record that is no goodbye. -/
def learn (bytes : List UInt8) (record : DnsRecord) (learned : LearnedRecords) :
    LearnedRecords × Reads Unit :=
  if record.type = 12 ∧ equalsIgnoreCase record.owner serviceType then
    match name bytes record.cursor with
    | .error exit => (learned, .error exit)
    | .ok (service, _) =>
        (if service ∈ learned.services then learned
          else { learned with services := learned.services ++ [service] }, .ok ())
  else if record.type = 33 ∧ 6 ≤ record.length then
    match name bytes (record.cursor + 6) with
    | .error exit => (learned, .error exit)
    | .ok (host, _) =>
        match u16 bytes (record.cursor + 4) with
        | .error exit => (learned, .error exit)
        | .ok port =>
            ({ learned with targets := learned.targets.assign record.owner (host, port) }, .ok ())
  else if record.type = 1 ∧ record.length = 4 then
    match slice bytes record.cursor 4 with
    | .error exit => (learned, .error exit)
    | .ok address =>
        ({ learned with
          addresses := learned.addresses.assign record.owner (addressText address) }, .ok ())
  else if record.type = 16 then
    let texts := readTexts bytes record.owner (record.cursor + record.length) record.cursor
      learned.identifiers
    ({ learned with identifiers := texts.1 }, texts.2)
  else (learned, .ok ())

/-- The loop over the records. -/
def learnRecords (bytes : List UInt8) : Nat → Nat → LearnedRecords → LearnedRecords × Reads Unit
  | 0, _, learned => (learned, .ok ())
  | records + 1, cursor, learned =>
      match readRecord bytes cursor with
      | .error exit => (learned, .error exit)
      | .ok record =>
          if record.ttl = 0 then
            learnRecords bytes records (record.cursor + record.length) learned
          else
            match learn bytes record learned with
            | (learned, .error exit) => (learned, .error exit)
            | (learned, .ok ()) =>
                learnRecords bytes records (record.cursor + record.length) learned

/-- The body up to the loop over the services. -/
def learnPacket (packet : List UInt8) (learned : LearnedRecords) : LearnedRecords × Reads Unit :=
  match header packet with
  | .error exit => (learned, .error exit)
  | .ok (questions, records) =>
      match skipQuestions packet questions 12 with
      | .error exit => (learned, .error exit)
      | .ok cursor => learnRecords packet records cursor learned

def displayName (service : Text) : Reads Text :=
  if endsWithIgnoreCase service ('.' :: serviceType) then
    textUpTo service (serviceType.length + 1)
  else .ok service

/-- One pass of the loop over the services. -/
def stamp (learned : LearnedRecords) (now : Int) (known : OrderedMap Text KnownRoom)
    (service : Text) : OrderedMap Text KnownRoom × Reads Unit :=
  match learned.targets.lookup service with
  | none => (known, .ok ())
  | some (host, port) =>
      match learned.addresses.lookup host with
      | none => (known, .ok ())
      | some address =>
          match displayName service with
          | .error exit => (known, .error exit)
          | .ok display =>
              (known.assign ((learned.identifiers.lookup service).getD service)
                { name := display
                  address := address
                  port := port
                  seen := now }, .ok ())

/-- The loop over the services. -/
def stampServices (learned : LearnedRecords) (now : Int) :
    List Text → OrderedMap Text KnownRoom → OrderedMap Text KnownRoom × Reads Unit
  | [], known => (known, .ok ())
  | service :: services, known =>
      match stamp learned now known service with
      | (known, .error exit) => (known, .error exit)
      | (known, .ok ()) => stampServices learned now services known

/-- The body of the `try` statement. -/
def body (discovery : RoomDiscovery) (now : Int) (packet : List UInt8) :
    RoomDiscovery × Reads Unit :=
  match learnPacket packet discovery.toLearnedRecords with
  | (learned, .error exit) => ({ discovery with toLearnedRecords := learned }, .error exit)
  | (learned, .ok ()) =>
      let stamped := stampServices learned now learned.services discovery.known
      ({ toLearnedRecords := learned, known := stamped.1 }, stamped.2)

/-- `Parse`: the browser behind it, and what escapes, if anything. -/
def parse (discovery : RoomDiscovery) (now : Int) (packet : List UInt8) :
    RoomDiscovery × Option DnsExit :=
  match body discovery now packet with
  | (discovery, .ok ()) => (discovery, none)
  | (discovery, .error exit) => (discovery, if exit.escapes then some exit else none)

section Agreement

variable {α β : Type} {x : Reads α} {y : Option α} {bytes : List UInt8}

/-- A read that succeeds as the other one does, and fails without an escaping exception. -/
inductive Agrees : Reads α → Option α → Prop
  | ok (a : α) : Agrees (.ok a) (some a)
  | error (exit : DnsExit) (h : exit.escapes = false) : Agrees (.error exit) none

theorem Agrees.elim (h : Agrees x y) : (∃ a, x = .ok a ∧ y = some a) ∨
    ∃ exit, x = .error exit ∧ exit.escapes = false ∧ y = none := by
  cases h with
  | ok a => exact .inl ⟨a, rfl, rfl⟩
  | error exit h => exact .inr ⟨exit, rfl, h, rfl⟩

theorem Agrees.of_ok {a : α} (h : Agrees (.ok a) y) : y = some a := by
  cases h
  rfl

theorem Agrees.bind {f : α → Reads β} {g : α → Option β} (hx : Agrees x y)
    (hf : ∀ a, x = .ok a → Agrees (f a) (g a)) : Agrees (x >>= f) (y.bind g) := by
  cases hx with
  | ok a => exact hf a rfl
  | error exit h => exact .error exit h

theorem Agrees.check {c : Prop} [Decidable c] {exit : DnsExit} (hexit : exit.escapes = false)
    (h : ¬ c → Agrees x y) : Agrees (if c then .error exit else x) (if c then none else y) := by
  split_ifs with hc
  · exact .error exit hexit
  · exact h hc

theorem slice_of_le {offset length : Nat} (h : offset + length ≤ bytes.length) :
    slice bytes offset length = .ok (RoomDiscovery.slice bytes offset length) :=
  if_neg (Nat.not_lt.mpr h)

theorem slice_of_lt {offset length : Nat} (h : bytes.length < offset + length) :
    slice bytes offset length = .error .argumentOutOfRange :=
  if_pos h

theorem take_drop_succ {offset count : Nat} (h : offset < bytes.length) :
    (bytes.drop offset).take (count + 1) = bytes[offset] :: (bytes.drop (offset + 1)).take count := by
  rw [List.drop_eq_getElem_cons h, List.take_succ_cons]

theorem u16_eq_none {offset : Nat} (h : bytes.length < offset + 2) :
    RoomDiscovery.u16 bytes offset = none := by
  rw [RoomDiscovery.u16, List.getElem?_eq_none (by omega : bytes.length ≤ offset + 1)]
  cases bytes[offset]? with
  | none => rfl
  | some high => rfl

theorem u16_agrees (bytes : List UInt8) (offset : Nat) :
    Agrees (u16 bytes offset) (RoomDiscovery.u16 bytes offset) := by
  by_cases hle : offset + 2 ≤ bytes.length
  · have hword : slice bytes offset 2 = .ok [bytes[offset], bytes[offset + 1]] := by
      rw [slice_of_le hle, RoomDiscovery.slice, take_drop_succ (by omega), take_drop_succ (by omega),
        List.take_zero]
    rw [u16, hword, RoomDiscovery.u16, List.getElem?_eq_getElem (by omega : offset < bytes.length),
      List.getElem?_eq_getElem (by omega : offset + 1 < bytes.length)]
    exact .ok _
  · rw [u16, slice_of_lt (Nat.not_le.mp hle), u16_eq_none (Nat.not_le.mp hle)]
    exact .error _ rfl

theorem u32_agrees (bytes : List UInt8) (offset : Nat) :
    Agrees (u32 bytes offset) (RoomDiscovery.u32 bytes offset) := by
  by_cases hle : offset + 4 ≤ bytes.length
  · have hword : slice bytes offset 4 =
        .ok [bytes[offset], bytes[offset + 1], bytes[offset + 2], bytes[offset + 3]] := by
      rw [slice_of_le hle, RoomDiscovery.slice, take_drop_succ (by omega), take_drop_succ (by omega),
        take_drop_succ (by omega), take_drop_succ (by omega), List.take_zero]
    rw [u32, hword, RoomDiscovery.u32, RoomDiscovery.u16, RoomDiscovery.u16,
      List.getElem?_eq_getElem (by omega : offset < bytes.length),
      List.getElem?_eq_getElem (by omega : offset + 1 < bytes.length),
      List.getElem?_eq_getElem (by omega : offset + 2 < bytes.length),
      List.getElem?_eq_getElem (by omega : offset + 2 + 1 < bytes.length)]
    exact .ok _
  · have hnone : RoomDiscovery.u32 bytes offset = none := by
      rw [RoomDiscovery.u32, u16_eq_none (by omega : bytes.length < offset + 2 + 2)]
      cases RoomDiscovery.u16 bytes offset with
      | none => rfl
      | some high => rfl
    rw [u32, slice_of_lt (Nat.not_le.mp hle), hnone]
    exact .error _ rfl

end Agreement

section Names

variable {bytes : List UInt8} {s : NameState}

/-- Where `Name` goes on once it is done. -/
def NameState.resume (s : NameState) : Option Nat := if s.jumped then some s.offset else none

/-- What one round does. -/
theorem nameRound_cases (bytes : List UInt8) (s : NameState) :
    (∃ exit, nameRound bytes s = .error exit ∧ exit.escapes = false ∧
      ∀ count resume labels,
        RoomDiscovery.nameLoop bytes (count + 1) s.position resume labels = none) ∨
    (bytes[s.position]? = some 0 ∧
      nameRound bytes s = .ok (.inr (List.intercalate ['.'] s.labels,
        if s.jumped then s.offset else s.position + 1))) ∨
    (∃ length low, bytes[s.position]? = some length ∧ length ≠ 0 ∧ length &&& 0xC0 = 0xC0 ∧
      bytes[s.position + 1]? = some low ∧
      (length &&& 0x3F).toNat <<< 8 ||| low.toNat < bytes.length ∧
      nameRound bytes s = .ok (.inl
        { s with
          offset := if s.jumped then s.offset else s.position + 1 + 1
          position := (length &&& 0x3F).toNat <<< 8 ||| low.toNat
          jumped := true })) ∨
    ∃ length, bytes[s.position]? = some length ∧ length ≠ 0 ∧ length &&& 0xC0 ≠ 0xC0 ∧
      ¬ (63 < length ∨ bytes.length < s.position + 1 + length.toNat) ∧
      nameRound bytes s = .ok (.inl
        { s with
          position := s.position + 1 + length.toNat
          labels := s.labels ++
            [getString (RoomDiscovery.slice bytes (s.position + 1) length.toNat)] }) := by
  by_cases hposition : bytes.length ≤ s.position
  · refine .inl ⟨_, if_pos hposition, rfl, fun count resume labels => ?_⟩
    rw [RoomDiscovery.nameLoop, List.getElem?_eq_none hposition]
  have hlt := Nat.not_le.mp hposition
  have hbyte := List.getElem?_eq_getElem hlt
  generalize bytes[s.position] = length at hbyte
  have hindex : index bytes s.position = .ok length := by rw [index, hbyte]
  rw [nameRound, if_neg hposition, hindex]
  by_cases hzero : length = 0
  · exact .inr (.inl ⟨hzero ▸ hbyte, if_pos hzero⟩)
  by_cases hpointer : length &&& 0xC0 = 0xC0
  · by_cases hnext : bytes.length ≤ s.position + 1
    · refine .inl ⟨_, (if_neg hzero).trans ((if_pos hpointer).trans (if_pos hnext)), rfl,
        fun count resume labels => ?_⟩
      rw [RoomDiscovery.nameLoop, hbyte, List.getElem?_eq_none hnext]
      exact (if_neg hzero).trans (if_pos hpointer)
    have hlow := List.getElem?_eq_getElem (Nat.not_le.mp hnext)
    generalize bytes[s.position + 1] = low at hlow
    have hindexLow : index bytes (s.position + 1) = .ok low := by rw [index, hlow]
    by_cases htarget : bytes.length ≤ (length &&& 0x3F).toNat <<< 8 ||| low.toNat
    · refine .inl ⟨.formatException "DNS pointer is invalid.".toList, ?_, rfl,
        fun count resume labels => ?_⟩
      · refine (if_neg hzero).trans ((if_pos hpointer).trans ((if_neg hnext).trans ?_))
        rw [hindexLow]
        exact if_pos htarget
      · rw [RoomDiscovery.nameLoop, hbyte]
        refine (if_neg hzero).trans ((if_pos hpointer).trans ?_)
        rw [hlow]
        exact if_pos htarget
    · refine .inr (.inr (.inl ⟨length, low, hbyte, hzero, hpointer, hlow,
        Nat.not_le.mp htarget, ?_⟩))
      refine (if_neg hzero).trans ((if_pos hpointer).trans ((if_neg hnext).trans ?_))
      rw [hindexLow]
      exact if_neg htarget
  · by_cases hlabel : 63 < length ∨ bytes.length < s.position + 1 + length.toNat
    · refine .inl ⟨_, (if_neg hzero).trans ((if_neg hpointer).trans (if_pos hlabel)), rfl,
        fun count resume labels => ?_⟩
      rw [RoomDiscovery.nameLoop, hbyte]
      exact (if_neg hzero).trans ((if_neg hpointer).trans (if_pos hlabel))
    · refine .inr (.inr (.inr ⟨length, hbyte, hzero, hpointer, hlabel, ?_⟩))
      refine (if_neg hzero).trans ((if_neg hpointer).trans ((if_neg hlabel).trans ?_))
      rw [slice_of_le (Nat.not_lt.mp (not_or.mp hlabel).2)]
      rfl

/-- The part of a name that lies at its offset: labels, and at their end a zero or a pointer. -/
inductive InPlace (bytes : List UInt8) : Nat → Nat → Prop
  | root {position : Nat} (h : bytes[position]? = some 0) : InPlace bytes position (position + 1)
  | pointer {position : Nat} {length low : UInt8} (h : bytes[position]? = some length)
      (hpointer : length &&& 0xC0 = 0xC0) (hlow : bytes[position + 1]? = some low) :
      InPlace bytes position (position + 2)
  | label {position stop : Nat} {length : UInt8} (h : bytes[position]? = some length)
      (hne : length ≠ 0) (hpointer : length &&& 0xC0 ≠ 0xC0)
      (hfits : position + 1 + length.toNat ≤ bytes.length)
      (rest : InPlace bytes (position + 1 + length.toNat) stop) : InPlace bytes position stop

theorem InPlace.bounds {start stop : Nat} (h : InPlace bytes start stop) :
    start < stop ∧ stop ≤ bytes.length := by
  induction h with
  | root h =>
      have hlt := (List.getElem?_eq_some_iff.mp h).1
      omega
  | pointer h hpointer hlow =>
      have hlt := (List.getElem?_eq_some_iff.mp hlow).1
      omega
  | label h hne hpointer hfits rest ih => omega

theorem nameLoop_rounds (bytes : List UInt8) (count : Nat) (s : NameState) :
    (nameLoop bytes count s).2 ≤ count := by
  induction count generalizing s with
  | zero => exact le_rfl
  | succ count ih =>
      rw [nameLoop]
      cases nameRound bytes s with
      | error exit => exact Nat.le_add_left 1 count
      | ok next =>
          cases next with
          | inr found => exact Nat.le_add_left 1 count
          | inl next => exact Nat.succ_le_succ (ih next)

/-- Where the reader goes on: behind the first pointer, or at this position. -/
theorem resume_getD (s : NameState) (position : Nat) :
    s.resume.getD position = if s.jumped then s.offset else position := by
  unfold NameState.resume
  cases s.jumped with
  | true => rfl
  | false => rfl

theorem nameLoop_agrees (bytes : List UInt8) (count : Nat) (s : NameState) :
    Agrees (nameLoop bytes count s).1
      (RoomDiscovery.nameLoop bytes count s.position s.resume s.labels) := by
  induction count generalizing s with
  | zero => exact .error _ rfl
  | succ count ih =>
      rw [nameLoop]
      obtain ⟨exit, hround, hexit, hnone⟩ | ⟨hzero, hround⟩ |
        ⟨length, low, hbyte, hne, hpointer, hlow, htarget, hround⟩ |
        ⟨length, hbyte, hne, hpointer, hlabel, hround⟩ := nameRound_cases bytes s
      · rw [hround, hnone]
        exact .error exit hexit
      · rw [hround, RoomDiscovery.nameLoop, hzero]
        dsimp only
        rw [if_pos rfl, resume_getD]
        exact .ok _
      · rw [hround, RoomDiscovery.nameLoop, hbyte]
        dsimp only
        rw [if_neg hne, if_pos hpointer, hlow]
        dsimp only
        rw [if_neg (Nat.not_le.mpr htarget)]
        rw [resume_getD]
        exact ih _
      · rw [hround, RoomDiscovery.nameLoop, hbyte]
        dsimp only
        rw [if_neg hne, if_neg hpointer, if_neg hlabel]
        exact ih _

/-- A name that is found ends behind its in-place part, or where the first pointer ended. -/
theorem nameLoop_stop {count : Nat} {text : Text} {stop : Nat}
    (h : (nameLoop bytes count s).1 = .ok (text, stop)) :
    if s.jumped then stop = s.offset else InPlace bytes s.position stop := by
  induction count generalizing s with
  | zero => cases h
  | succ count ih =>
      rw [nameLoop] at h
      obtain ⟨exit, hround, -, -⟩ | ⟨hzero, hround⟩ |
        ⟨length, low, hbyte, hne, hpointer, hlow, htarget, hround⟩ |
        ⟨length, hbyte, hne, hpointer, hlabel, hround⟩ := nameRound_cases bytes s
      · rw [hround] at h
        cases h
      · rw [hround] at h
        cases h
        cases s.jumped with
        | true => rfl
        | false => exact .root hzero
      · rw [hround] at h
        have hstop := ih h
        dsimp only at hstop
        rw [if_pos rfl] at hstop
        rw [hstop]
        cases s.jumped with
        | true => rfl
        | false => exact .pointer hbyte hpointer hlow
      · rw [hround] at h
        have hstop := ih h
        dsimp only at hstop
        cases hjumped : s.jumped with
        | true =>
            rw [hjumped, if_pos rfl] at hstop
            exact hstop
        | false =>
            rw [hjumped, if_neg Bool.false_ne_true] at hstop
            exact .label hbyte hne hpointer (Nat.not_lt.mp (not_or.mp hlabel).2) hstop

theorem name_agrees (bytes : List UInt8) (offset : Nat) :
    Agrees (name bytes offset) (RoomDiscovery.name bytes offset) :=
  nameLoop_agrees bytes 32 { offset := offset, position := offset }

theorem name_stop {offset : Nat} {text : Text} {stop : Nat}
    (h : name bytes offset = .ok (text, stop)) : InPlace bytes offset stop :=
  nameLoop_stop h

end Names

section Bodies

variable {bytes : List UInt8}

theorem header_agrees (bytes : List UInt8) : Agrees (header bytes) (RoomDiscovery.header bytes) := by
  apply Agrees.check rfl
  intro _
  apply (u16_agrees bytes 2).bind
  intro flags _
  apply Agrees.check rfl
  intro _
  apply (u16_agrees bytes 4).bind
  intro questions _
  apply (u16_agrees bytes 6).bind
  intro answers _
  apply (u16_agrees bytes 8).bind
  intro authorities _
  apply (u16_agrees bytes 10).bind
  intro additional _
  exact Agrees.check rfl fun _ => .ok _

theorem skipQuestions_agrees (bytes : List UInt8) (questions cursor : Nat) :
    Agrees (skipQuestions bytes questions cursor)
      (RoomDiscovery.skipQuestions bytes questions cursor) := by
  induction questions generalizing cursor with
  | zero => exact .ok cursor
  | succ questions ih =>
      apply (name_agrees bytes cursor).bind
      rintro ⟨text, stop⟩ _
      exact Agrees.check rfl fun _ => ih (stop + 4)

theorem readRecord_agrees (bytes : List UInt8) (cursor : Nat) :
    Agrees (readRecord bytes cursor) (RoomDiscovery.readRecord bytes cursor) := by
  apply (name_agrees bytes cursor).bind
  rintro ⟨owner, stop⟩ _
  apply Agrees.check rfl
  intro _
  apply (u16_agrees bytes stop).bind
  intro type _
  apply (u32_agrees bytes (stop + 4)).bind
  intro ttl _
  apply (u16_agrees bytes (stop + 8)).bind
  intro length _
  exact Agrees.check rfl fun _ => .ok _

/-- The data of a record that was read lies inside the packet. -/
theorem readRecord_fits {cursor : Nat} {record : DnsRecord}
    (h : readRecord bytes cursor = .ok record) : record.cursor + record.length ≤ bytes.length := by
  have hsome := (h ▸ readRecord_agrees bytes cursor).of_ok
  rw [RoomDiscovery.readRecord] at hsome
  obtain ⟨⟨owner, stop⟩, -, hsome⟩ := Option.bind_eq_some_iff.mp hsome
  dsimp only at hsome
  split_ifs at hsome
  obtain ⟨type, -, hsome⟩ := Option.bind_eq_some_iff.mp hsome
  obtain ⟨ttl, -, hsome⟩ := Option.bind_eq_some_iff.mp hsome
  obtain ⟨length, -, hsome⟩ := Option.bind_eq_some_iff.mp hsome
  split_ifs at hsome with hshort
  cases hsome
  exact Nat.not_lt.mp hshort

theorem length_of_equals {text ascii : Text} (h : equalsIgnoreCase text ascii = true) :
    text.length = ascii.length := by
  have hsame := congrArg List.length (of_decide_eq_true h)
  rwa [List.length_map, List.length_map] at hsame

theorem textFrom_of_startsWith {text ascii : Text} (h : startsWithIgnoreCase text ascii = true) :
    textFrom text ascii.length = .ok (text.drop ascii.length) := by
  have hlength := length_of_equals h
  rw [List.length_take] at hlength
  exact if_neg (by omega)

theorem displayName_eq (service : Text) :
    displayName service = .ok (RoomDiscovery.displayName service) := by
  unfold displayName RoomDiscovery.displayName
  by_cases hsuffix : endsWithIgnoreCase service ('.' :: serviceType) = true
  · have hlength := length_of_equals hsuffix
    rw [List.length_drop, List.length_cons] at hlength
    rw [if_pos hsuffix, if_pos hsuffix]
    exact if_neg (by omega)
  · rw [if_neg hsuffix, if_neg hsuffix]

/-- The strings of a TXT record inside the packet are read to their end. -/
theorem readTexts_eq {owner : Text} {stop position fuel : Nat} {identifiers : OrderedMap Text Text}
    (hstop : stop ≤ bytes.length) (hfuel : stop - position ≤ fuel) :
    readTexts bytes owner stop position identifiers =
      (RoomDiscovery.readTexts owner fuel ((bytes.drop position).take (stop - position)) identifiers,
        .ok ()) := by
  induction fuel generalizing position identifiers with
  | zero =>
      rw [readTexts, if_neg (by omega : ¬ position < stop)]
      rfl
  | succ fuel ih =>
      rw [readTexts]
      by_cases hless : position < stop
      · have hposition : position < bytes.length := by omega
        have hindex : index bytes position = .ok bytes[position] := by
          rw [index, List.getElem?_eq_getElem hposition]
        have hcount : stop - position = (stop - (position + 1)) + 1 := by omega
        rw [if_pos hless, hindex, hcount, take_drop_succ hposition, RoomDiscovery.readTexts]
        dsimp only
        generalize bytes[position] = size
        have hlength : ((bytes.drop (position + 1)).take (stop - (position + 1))).length =
            stop - (position + 1) := by
          rw [List.length_take, List.length_drop]
          omega
        rw [hlength]
        by_cases hshort : stop < position + 1 + size.toNat
        · rw [if_pos hshort, if_pos (by omega)]
        · have hstring : ((bytes.drop (position + 1)).take (stop - (position + 1))).take size.toNat =
              RoomDiscovery.slice bytes (position + 1) size.toNat := by
            rw [List.take_take, RoomDiscovery.slice, Nat.min_eq_left (by omega)]
          have hrest : ((bytes.drop (position + 1)).take (stop - (position + 1))).drop size.toNat =
              (bytes.drop (position + 1 + size.toNat)).take (stop - (position + 1 + size.toNat)) := by
            rw [List.drop_take, List.drop_drop]
            congr 1
            omega
          rw [if_neg hshort, if_neg (by omega), slice_of_le (by omega), hstring, hrest]
          dsimp only
          by_cases hroom : startsWithIgnoreCase (getString (RoomDiscovery.slice bytes
              (position + 1) size.toNat)) "room=".toList = true
          · have htext := textFrom_of_startsWith hroom
            have hfive : "room=".toList.length = 5 := rfl
            rw [hfive] at htext
            rw [if_pos hroom, if_pos hroom, htext]
            exact ih (by omega)
          · rw [if_neg hroom, if_neg hroom]
            exact ih (by omega)
      · have hnil : (bytes.drop position).take (stop - position) = [] := by
          rw [Nat.sub_eq_zero_of_le (Nat.not_lt.mp hless), List.take_zero]
        rw [if_neg hless, hnil]
        rfl

theorem stamp_eq (learned : LearnedRecords) (now : Int) (known : OrderedMap Text KnownRoom)
    (service : Text) :
    stamp learned now known service = (RoomDiscovery.stamp learned now known service, .ok ()) := by
  unfold stamp RoomDiscovery.stamp announced
  rw [displayName_eq]
  cases learned.targets.lookup service with
  | none => rfl
  | some target =>
      rw [Option.bind_eq_bind, Option.bind_some]
      dsimp only
      cases learned.addresses.lookup target.1 with
      | none => rfl
      | some address => rfl

theorem stampServices_eq (learned : LearnedRecords) (now : Int) (services : List Text)
    (known : OrderedMap Text KnownRoom) :
    stampServices learned now services known =
      (services.foldl (RoomDiscovery.stamp learned now) known, .ok ()) := by
  induction services generalizing known with
  | nil => rfl
  | cons service services ih =>
      rw [stampServices, stamp_eq]
      exact ih _

end Bodies

section Totality

variable {σ : Type} {bytes : List UInt8}

/-- The same state, reached at the end of a body or at an exit that does not escape. -/
inductive Ends : σ × Reads Unit → σ × Bool → Prop
  | ok (s : σ) : Ends (s, .ok ()) (s, true)
  | error (s : σ) (exit : DnsExit) (h : exit.escapes = false) : Ends (s, .error exit) (s, false)

theorem learn_ends {record : DnsRecord} (hfits : record.cursor + record.length ≤ bytes.length)
    (learned : LearnedRecords) :
    Ends (learn bytes record learned) ((RoomDiscovery.learn bytes record learned).getD learned,
      (RoomDiscovery.learn bytes record learned).isSome) := by
  unfold learn RoomDiscovery.learn
  split_ifs
  · obtain ⟨found, hname, hsome⟩ | ⟨exit, hname, hexit, hnone⟩ :=
      (name_agrees bytes record.cursor).elim
    · rw [hname, hsome]
      dsimp only [Option.bind_eq_bind, Option.bind_some]
      split_ifs
      · exact .ok learned
      · exact .ok _
    · rw [hname, hnone]
      exact .error learned exit hexit
  · obtain ⟨found, hname, hsome⟩ | ⟨exit, hname, hexit, hnone⟩ :=
      (name_agrees bytes (record.cursor + 6)).elim
    · rw [hname, hsome]
      obtain ⟨port, hport, hsome⟩ | ⟨exit, hport, hexit, hnone⟩ :=
        (u16_agrees bytes (record.cursor + 4)).elim
      · rw [hport, hsome]
        exact .ok _
      · rw [hport, hnone]
        exact .error learned exit hexit
    · rw [hname, hnone]
      exact .error learned exit hexit
  · next haddress =>
      rw [slice_of_le (by omega)]
      exact .ok _
  · have htexts := @readTexts_eq bytes record.owner (record.cursor + record.length) record.cursor _
      learned.identifiers hfits (le_refl _)
    rw [Nat.add_sub_cancel_left] at htexts
    rw [htexts]
    exact .ok _
  · exact .ok learned

theorem learnRecords_ends (bytes : List UInt8) (records cursor : Nat) (learned : LearnedRecords) :
    Ends (learnRecords bytes records cursor learned)
      (RoomDiscovery.learnRecords bytes records cursor learned) := by
  induction records generalizing cursor learned with
  | zero => exact .ok learned
  | succ records ih =>
      rw [learnRecords, RoomDiscovery.learnRecords]
      obtain ⟨record, hrecord, hsome⟩ | ⟨exit, hrecord, hexit, hnone⟩ :=
        (readRecord_agrees bytes cursor).elim
      · rw [hrecord, hsome]
        dsimp only
        by_cases hgoodbye : record.ttl = 0
        · rw [if_pos hgoodbye, if_pos hgoodbye]
          exact ih _ learned
        · rw [if_neg hgoodbye, if_neg hgoodbye]
          have hlearn := learn_ends (readRecord_fits hrecord) learned
          generalize learn bytes record learned = left at hlearn ⊢
          cases hright : RoomDiscovery.learn bytes record learned with
          | none =>
              rw [hright] at hlearn
              cases hlearn with
              | error _ exit hexit => exact .error learned exit hexit
          | some next =>
              rw [hright] at hlearn
              cases hlearn with
              | ok => exact ih _ next
      · rw [hrecord, hnone]
        exact .error learned exit hexit

theorem learnPacket_ends (packet : List UInt8) (learned : LearnedRecords) :
    Ends (learnPacket packet learned) (RoomDiscovery.learnPacket packet learned) := by
  unfold learnPacket RoomDiscovery.learnPacket
  obtain ⟨counts, hheader, hsome⟩ | ⟨exit, hheader, hexit, hnone⟩ := (header_agrees packet).elim
  · rw [hheader, hsome]
    dsimp only
    obtain ⟨cursor, hcursor, hsome⟩ | ⟨exit, hcursor, hexit, hnone⟩ :=
      (skipQuestions_agrees packet counts.1 12).elim
    · rw [hcursor, hsome]
      exact learnRecords_ends packet counts.2 cursor learned
    · rw [hcursor, hnone]
      exact .error learned exit hexit
  · rw [hheader, hnone]
    exact .error learned exit hexit

/-- Nothing escapes from `Parse`, and it does what the model without exceptions does. -/
theorem parse_eq (discovery : RoomDiscovery) (now : Int) (packet : List UInt8) :
    parse discovery now packet = (discovery.parse now packet, none) := by
  have hends := learnPacket_ends packet discovery.toLearnedRecords
  unfold parse body RoomDiscovery.parse
  generalize learnPacket packet discovery.toLearnedRecords = left at hends ⊢
  generalize RoomDiscovery.learnPacket packet discovery.toLearnedRecords = right at hends ⊢
  cases hends with
  | ok learned =>
      dsimp only
      rw [stampServices_eq]
  | error learned exit hexit =>
      dsimp only
      rw [hexit]
      rfl

end Totality

/-- `Parse` ends on every packet and no exception escapes it: of the accesses to the packet
only slices can fail. `Name` makes at most 32 rounds wherever it starts, raises nothing that
escapes, and leaves the cursor behind the part of the name that lies there. -/
theorem parse_total (packet : List UInt8) :
    (∀ discovery now, (body discovery now packet).2 ≠ .error .indexOutOfRange ∧
      parse discovery now packet = (discovery.parse now packet, none)) ∧
    ∀ offset,
      (nameLoop packet 32 { offset := offset, position := offset }).2 ≤ 32 ∧
      name packet offset ≠ .error .indexOutOfRange ∧
      ∀ text stop, name packet offset = .ok (text, stop) →
        InPlace packet offset stop ∧ offset < stop ∧ stop ≤ packet.length := by
  constructor
  · intro discovery now
    have hparse := parse_eq discovery now packet
    refine ⟨fun hescapes => ?_, hparse⟩
    have hboth : body discovery now packet =
        ((body discovery now packet).1, .error .indexOutOfRange) := by
      rw [← hescapes]
    rw [parse, hboth] at hparse
    cases congrArg Prod.snd hparse
  · intro offset
    refine ⟨nameLoop_rounds packet 32 _, fun hescapes => ?_, fun text stop hname => ?_⟩
    · obtain ⟨found, hname, -⟩ | ⟨exit, hname, hexit, -⟩ := (name_agrees packet offset).elim
      · rw [hname] at hescapes
        cases hescapes
      · rw [hname] at hescapes
        cases hescapes
        cases hexit
    · exact ⟨name_stop hname, (name_stop hname).bounds⟩

/-- A pointer to itself is followed until the rounds are used up. -/
example : nameLoop [0xC0, 0] 32 { offset := 0, position := 0 } =
    (.error (.formatException "DNS name has too many labels.".toList), 32) := rfl

end DnsReader

end SyncAudio
