import Mathlib.Data.List.Infix
import Mathlib.Tactic.Common
import SyncAudio.Lib.BigEndian

/-!
# Compressed names

A name is a list of labels. In a message each label stands behind its length, and the name
ends with a zero byte or goes on at a label elsewhere in the message.

## Implementation notes

Bytes are read through a function, so that a message and a buffer that goes on with zeros are
read alike.
-/

namespace SyncAudio.DomainName

variable {byteAt other : Nat → Option UInt8} {offset reads stop target : Nat}
  {label : List UInt8} {labels rest : List (List UInt8)} {bytes more : List UInt8}

/-- The bytes stand at an offset. -/
def Holds (byteAt : Nat → Option UInt8) (offset : Nat) (bytes : List UInt8) : Prop :=
  ∀ i byte, bytes[i]? = some byte → byteAt (offset + i) = some byte

/-- What can be read of a message. -/
def inMessage (message : List UInt8) : Nat → Option UInt8 := fun i => message[i]?

/-- What can be read of a buffer that goes on with zeros up to its capacity. -/
def padded (message : List UInt8) (capacity : Nat) : Nat → Option UInt8 := fun i =>
  if i < capacity then some (message[i]?.getD 0) else none

theorem Holds.mono (hbytes : ∀ i byte, byteAt i = some byte → other i = some byte)
    (h : Holds byteAt offset bytes) : Holds other offset bytes :=
  fun i byte hbyte => hbytes _ _ (h i byte hbyte)

theorem holds_append : Holds byteAt offset (bytes ++ more) ↔
    Holds byteAt offset bytes ∧ Holds byteAt (offset + bytes.length) more := by
  constructor
  · intro h
    constructor
    · intro i byte hbyte
      apply h i byte
      rw [List.getElem?_append_left (List.getElem?_eq_some_iff.mp hbyte).1]
      exact hbyte
    · intro i byte hbyte
      have hi := h (bytes.length + i) byte
      rw [List.getElem?_append_right (Nat.le_add_right _ _), Nat.add_sub_cancel_left] at hi
      rw [Nat.add_assoc]
      exact hi hbyte
  · rintro ⟨hfirst, hsecond⟩ i byte hbyte
    by_cases hi : i < bytes.length
    · rw [List.getElem?_append_left hi] at hbyte
      exact hfirst i byte hbyte
    · rw [List.getElem?_append_right (by omega)] at hbyte
      have hat := hsecond _ byte hbyte
      rw [Nat.add_assoc, Nat.add_sub_cancel' (by omega)] at hat
      exact hat

theorem holds_cons {byte : UInt8} : Holds byteAt offset (byte :: bytes) ↔
    byteAt offset = some byte ∧ Holds byteAt (offset + 1) bytes := by
  rw [← List.singleton_append, holds_append]
  apply and_congr_left
  intro _
  constructor
  · intro h
    exact h 0 byte rfl
  · intro h i other hother
    cases i with
    | zero => exact hother ▸ h
    | succ i => exact absurd hother (by simp)

theorem inMessage_append {i : Nat} {byte : UInt8} (h : inMessage bytes i = some byte) :
    inMessage (bytes ++ more) i = some byte := by
  rw [inMessage, List.getElem?_append_left (List.getElem?_eq_some_iff.mp h).1]
  exact h

theorem inMessage_padded {i capacity : Nat} {byte : UInt8} (hfits : bytes.length ≤ capacity)
    (h : inMessage bytes i = some byte) : padded bytes capacity i = some byte := by
  have hi := (List.getElem?_eq_some_iff.mp h).1
  rw [inMessage] at h
  rw [padded, if_pos (by omega), h]
  rfl

theorem padded_eq_some {i capacity : Nat} {byte : UInt8} :
    padded bytes capacity i = some byte ↔ i < capacity ∧ bytes[i]?.getD 0 = byte := by
  rw [padded, Option.ite_none_right_eq_some, Option.some_inj]

/-- Behind a first part stands the rest. -/
theorem holds_message (before bytes after : List UInt8) :
    Holds (inMessage (before ++ bytes ++ after)) before.length bytes := by
  intro i byte hbyte
  have hi := (List.getElem?_eq_some_iff.mp hbyte).1
  rw [inMessage, List.append_assoc, List.getElem?_append_right (Nat.le_add_right _ _),
    Nat.add_sub_cancel_left, List.getElem?_append_left hi]
  exact hbyte

/-- What stands in a message is a slice of it. -/
theorem Holds.slice (h : Holds (inMessage more) offset bytes) :
    (more.drop offset).take bytes.length = bytes := by
  apply List.ext_getElem?
  intro i
  rw [List.getElem?_take]
  split_ifs with hi
  · rw [List.getElem?_drop, List.getElem?_eq_getElem hi]
    exact h i _ (List.getElem?_eq_getElem hi)
  · rw [List.getElem?_eq_none (by omega)]

/-- A slice of a message stands in it. -/
theorem holds_of_slice (h : (more.drop offset).take bytes.length = bytes) :
    Holds (inMessage more) offset bytes := by
  intro i byte hbyte
  have hi := (List.getElem?_eq_some_iff.mp hbyte).1
  rw [← h, List.getElem?_take_of_lt hi, List.getElem?_drop] at hbyte
  exact hbyte

theorem Holds.length_le (h : Holds (inMessage more) offset bytes) (hbytes : bytes ≠ []) :
    offset + bytes.length ≤ more.length := by
  have hpos := List.length_pos_iff.mpr hbytes
  have hlast : bytes.length - 1 < bytes.length := by omega
  have hat := h _ _ (List.getElem?_eq_getElem hlast)
  have hlt := (List.getElem?_eq_some_iff.mp hat).1
  omega

/-- A label is not empty, and its length leaves the two high bits clear. -/
structure IsLabel (label : List UInt8) : Prop where
  pos : 0 < label.length
  lt : label.length < 64

/-- A label behind its length. -/
def labelBytes (label : List UInt8) : List UInt8 := label.length.toUInt8 :: label

/-- Labels, without the end of the name. -/
def wire (labels : List (List UInt8)) : List UInt8 := labels.flatMap labelBytes

/-- The name goes on at an offset. -/
def reference (target : Nat) : List UInt8 := BigEndian.bytes16 (0xC000 ||| target.toUInt16)

/-- The labels of the name at an offset, how many lengths, references and ends are read for
them, and the offset behind the name. -/
inductive Spells (byteAt : Nat → Option UInt8) :
    Nat → List (List UInt8) → Nat → Nat → Prop
  | root {offset : Nat} (h : byteAt offset = some 0) :
      Spells byteAt offset [] 1 (offset + 1)
  | label {offset : Nat} {label : List UInt8} {labels : List (List UInt8)} {reads stop : Nat}
      (hlabel : IsLabel label) (h : Holds byteAt offset (labelBytes label))
      (hrest : Spells byteAt (offset + 1 + label.length) labels reads stop) :
      Spells byteAt offset (label :: labels) (reads + 1) stop
  | reference {offset target : Nat} {label : List UInt8} {labels : List (List UInt8)}
      {reads stop : Nat} (htarget : target < 2 ^ 14) (h : Holds byteAt offset (reference target))
      (hlabel : IsLabel label) (hplain : Holds byteAt target (labelBytes label))
      (hrest : Spells byteAt target (label :: labels) reads stop) :
      Spells byteAt offset (label :: labels) (reads + 1) (offset + 2)

theorem Spells.mono (hbytes : ∀ i byte, byteAt i = some byte → other i = some byte)
    (h : Spells byteAt offset labels reads stop) : Spells other offset labels reads stop := by
  induction h with
  | root h => exact .root (hbytes _ _ h)
  | label hlabel h _ ih => exact .label hlabel (h.mono hbytes) ih
  | reference htarget h hlabel hplain _ ih =>
      exact .reference htarget (h.mono hbytes) hlabel (hplain.mono hbytes) ih

@[simp] theorem wire_nil : wire [] = [] := rfl

@[simp] theorem wire_cons (label : List UInt8) (labels : List (List UInt8)) :
    wire (label :: labels) = labelBytes label ++ wire labels := rfl

@[simp] theorem wire_append (labels rest : List (List UInt8)) :
    wire (labels ++ rest) = wire labels ++ wire rest :=
  List.flatMap_append

@[simp] theorem length_labelBytes (label : List UInt8) :
    (labelBytes label).length = 1 + label.length :=
  Nat.add_comm _ _

@[simp] theorem length_reference (target : Nat) : (reference target).length = 2 := rfl

/-- Labels in front of a name make a longer one. -/
theorem Spells.prepend (hlabels : ∀ label ∈ labels, IsLabel label)
    (hwire : Holds byteAt offset (wire labels))
    (h : Spells byteAt (offset + (wire labels).length) rest reads stop) :
    Spells byteAt offset (labels ++ rest) (labels.length + reads) stop := by
  induction labels generalizing offset with
  | nil => simpa using h
  | cons label labels ih =>
      rw [wire_cons] at hwire h
      obtain ⟨hfirst, hothers⟩ := holds_append.mp hwire
      rw [length_labelBytes, ← Nat.add_assoc] at hothers
      have hrest := ih (fun other hother => hlabels other (List.mem_cons_of_mem label hother)) hothers
        (by simpa [Nat.add_assoc] using h)
      rw [List.length_cons, Nat.succ_add]
      exact .label (hlabels label List.mem_cons_self) hfirst hrest

/-- Where the labels of a name begin, and the name from each of them on. -/
def marks (offset : Nat) : List (List UInt8) → List (List UInt8) → List (Nat × List (List UInt8))
  | [], _ => []
  | label :: labels, rest =>
      (offset, label :: labels ++ rest) :: marks (offset + 1 + label.length) labels rest

@[simp] theorem length_marks (offset : Nat) (labels rest : List (List UInt8)) :
    (marks offset labels rest).length = labels.length := by
  induction labels generalizing offset with
  | nil => rfl
  | cons label labels ih => simp [marks, ih]

/-- The offsets of the labels do not depend on what follows. -/
theorem marks_offsets (offset : Nat) (labels rest others : List (List UInt8)) :
    (marks offset labels rest).map Prod.fst = (marks offset labels others).map Prod.fst := by
  induction labels generalizing offset with
  | nil => rfl
  | cons label labels ih => simp [marks, ih (offset + 1 + label.length)]

theorem marks_concat (offset : Nat) (labels : List (List UInt8)) (label : List UInt8) :
    (marks offset (labels ++ [label]) rest).map Prod.fst =
      (marks offset labels rest).map Prod.fst ++ [offset + (wire labels).length] := by
  induction labels generalizing offset with
  | nil => rfl
  | cons first labels ih =>
      simp only [List.cons_append, marks, List.map_cons, ih, wire_cons, List.length_append,
        length_labelBytes, Nat.add_assoc]

/-- Each mark is a suffix of the labels with what follows them. -/
theorem mem_marks {entry : Nat × List (List UInt8)} (h : entry ∈ marks offset labels rest) :
    ∃ i < labels.length, entry.2 = labels.drop i ++ rest := by
  induction labels generalizing offset with
  | nil => exact absurd h List.not_mem_nil
  | cons label labels ih =>
      cases List.mem_cons.mp h with
      | inl hfirst =>
          rw [hfirst]
          exact ⟨0, Nat.zero_lt_succ _, rfl⟩
      | inr hrest =>
          obtain ⟨i, hi, heq⟩ := ih hrest
          exact ⟨i + 1, Nat.succ_lt_succ hi, heq⟩

/-- The name can be read at its offset. -/
def Readable (byteAt : Nat → Option UInt8) (entry : Nat × List (List UInt8)) : Prop :=
  ∃ reads stop, Spells byteAt entry.1 entry.2 reads stop

theorem Readable.mono {entry : Nat × List (List UInt8)}
    (hbytes : ∀ i byte, byteAt i = some byte → other i = some byte)
    (h : Readable byteAt entry) : Readable other entry := by
  obtain ⟨reads, stop, hspells⟩ := h
  exact ⟨reads, stop, hspells.mono hbytes⟩

/-- Every label of a name begins a name that can be read. -/
theorem readable_marks (hlabels : ∀ label ∈ labels, IsLabel label)
    (hwire : Holds byteAt offset (wire labels))
    (h : Spells byteAt (offset + (wire labels).length) rest reads stop) :
    ∀ entry ∈ marks offset labels rest, Readable byteAt entry := by
  induction labels generalizing offset with
  | nil =>
      intro entry hentry
      exact absurd hentry List.not_mem_nil
  | cons label labels ih =>
      intro entry hentry
      cases List.mem_cons.mp hentry with
      | inl hfirst =>
          rw [hfirst]
          exact ⟨_, _, Spells.prepend hlabels hwire h⟩
      | inr hothers =>
          rw [wire_cons] at hwire h
          obtain ⟨-, hwire⟩ := holds_append.mp hwire
          rw [length_labelBytes, ← Nat.add_assoc] at hwire
          apply ih (fun other hother => hlabels other (List.mem_cons_of_mem label hother)) hwire _
            entry hothers
          simpa [Nat.add_assoc] using h

theorem toUInt8_toNat {n : Nat} (h : n < 256) : n.toUInt8.toNat = n :=
  Nat.mod_eq_of_lt h

/-- The high bits of a length are clear. -/
theorem plain_length {n : Nat} (h : n < 64) : n.toUInt8 &&& 0xC0 ≠ 0xC0 := by
  have hall : ∀ k : Fin 64, k.val.toUInt8 &&& 0xC0 ≠ 0xC0 := by decide
  exact hall ⟨n, h⟩

theorem length_ne_zero {n : Nat} (hpos : 0 < n) (h : n < 64) : n.toUInt8 ≠ 0 := by
  intro hzero
  have hnat := congrArg UInt8.toNat hzero
  rw [toUInt8_toNat (by omega)] at hnat
  exact absurd hnat (by simpa using hpos.ne')

/-- The two bytes of a reference. -/
theorem reference_eq (h : target < 2 ^ 14) :
    reference target = [(192 + target / 256).toUInt8, (target % 256).toUInt8] := by
  have hor : 0xC000 ||| target = 0xC000 + target :=
    (Nat.two_pow_add_eq_or_of_lt (i := 14) h 3).symm
  have hnat : (0xC000 ||| target.toUInt16).toNat = 0xC000 + target := by
    rw [UInt16.toNat_or, Nat.toUInt16_eq, UInt16.toNat_ofNat',
      Nat.mod_eq_of_lt (show target < 2 ^ 16 by omega)]
    exact hor
  rw [reference, BigEndian.bytes16, List.cons_eq_cons, List.cons_eq_cons]
  refine ⟨?_, ?_, rfl⟩
  · apply UInt8.toNat_inj.mp
    rw [UInt16.toNat_toUInt8, UInt16.toNat_shiftRight, hnat, toUInt8_toNat (by omega)]
    simp only [Nat.shiftRight_eq_div_pow]
    change (0xC000 + target) / 2 ^ 8 % 2 ^ 8 = 192 + target / 256
    omega
  · apply UInt8.toNat_inj.mp
    rw [UInt16.toNat_toUInt8, hnat, toUInt8_toNat (by omega)]
    omega

/-- The first byte of a reference is told from a length. -/
theorem reference_marked (h : target < 2 ^ 14) :
    (192 + target / 256).toUInt8 &&& 0xC0 = 0xC0 := by
  have hall : ∀ k : Fin 64, (192 + k.val).toUInt8 &&& 0xC0 = 0xC0 := by decide
  exact hall ⟨target / 256, by omega⟩

theorem reference_ne_zero (h : target < 2 ^ 14) : (192 + target / 256).toUInt8 ≠ 0 := by
  have hall : ∀ k : Fin 64, (192 + k.val).toUInt8 ≠ 0 := by decide
  exact hall ⟨target / 256, by omega⟩

/-- The bits of a reference give its target. -/
theorem reference_target (h : target < 2 ^ 14) :
    ((192 + target / 256).toUInt8 &&& 0x3F).toNat <<< 8 ||| (target % 256).toUInt8.toNat =
      target := by
  have hhigh : ((192 + target / 256).toUInt8 &&& 0x3F).toNat = target / 256 := by
    have hall : ∀ k : Fin 64, ((192 + k.val).toUInt8 &&& 0x3F).toNat = k.val := by decide
    exact hall ⟨target / 256, by omega⟩
  rw [hhigh, toUInt8_toNat (by omega), Nat.shiftLeft_eq, Nat.mul_comm,
    ← Nat.two_pow_add_eq_or_of_lt (i := 8) (by omega), Nat.div_add_mod]

end SyncAudio.DomainName
