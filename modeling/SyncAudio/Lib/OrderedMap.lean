import Mathlib.Order.Lattice
import Mathlib.Data.List.Nodup
import Mathlib.Data.List.Pairwise
import Mathlib.Data.List.TakeWhile
import Mathlib.Order.Basic
import Mathlib.Tactic.SplitIfs

/-!
# Ordered maps

A map is the list of its entries in increasing key order, so walking the list
is iterating over the map. The order is part of the structure.
-/

namespace SyncAudio

/-- A map from keys to values, iterated in key order. -/
@[ext] structure OrderedMap (K V : Type*) [LT K] where
  entries : List (K × V)
  sorted : entries.Pairwise fun a b => a.1 < b.1

namespace OrderedMap

variable {K V : Type*} [LinearOrder K]

def empty : OrderedMap K V := ⟨[], List.Pairwise.nil⟩

/-- Put a new entry in front of the first larger key. -/
def insertEntry (k : K) (v : V) : List (K × V) → List (K × V)
  | [] => [(k, v)]
  | e :: es => if k < e.1 then (k, v) :: e :: es else e :: insertEntry k v es

theorem mem_insertEntry {k : K} {v : V} {a : K × V} {es : List (K × V)} :
    a ∈ insertEntry k v es ↔ a = (k, v) ∨ a ∈ es := by
  induction es with
  | nil => simp [insertEntry]
  | cons e es ih =>
      unfold insertEntry
      split_ifs
      · rw [List.mem_cons]
      · rw [List.mem_cons, ih, List.mem_cons]
        exact or_left_comm

@[simp] theorem length_insertEntry (k : K) (v : V) (es : List (K × V)) :
    (insertEntry k v es).length = es.length + 1 := by
  induction es with
  | nil => rfl
  | cons e es ih =>
      unfold insertEntry
      split_ifs
      · rfl
      · rw [List.length_cons, ih, List.length_cons]

theorem sorted_insertEntry {k : K} {v : V} {es : List (K × V)}
    (hsorted : es.Pairwise fun a b => a.1 < b.1) (hnew : ∀ e ∈ es, e.1 ≠ k) :
    (insertEntry k v es).Pairwise fun a b => a.1 < b.1 := by
  induction es with
  | nil => simp [insertEntry]
  | cons e es ih =>
      obtain ⟨hhead, htail⟩ := List.pairwise_cons.mp hsorted
      unfold insertEntry
      split_ifs with hlt
      · refine List.pairwise_cons.mpr ⟨?_, hsorted⟩
        intro a ha
        rcases List.mem_cons.mp ha with rfl | ha
        · exact hlt
        · exact hlt.trans (hhead a ha)
      · refine List.pairwise_cons.mpr ⟨?_, ih htail fun a ha => hnew a (List.mem_cons_of_mem _ ha)⟩
        intro a ha
        rcases mem_insertEntry.mp ha with rfl | ha
        · exact lt_of_le_of_ne (not_lt.mp hlt) (hnew e List.mem_cons_self)
        · exact hhead a ha

/-- Insert an entry unless the key is present; `none` when it is. -/
def tryEmplace (m : OrderedMap K V) (k : K) (v : V) : Option (OrderedMap K V) :=
  if h : ∀ e ∈ m.entries, e.1 ≠ k then
    some ⟨insertEntry k v m.entries, sorted_insertEntry m.sorted h⟩
  else none

/-- Erase entries from the front as long as they meet `p`. -/
def eraseWhile (m : OrderedMap K V) (p : K × V → Bool) : OrderedMap K V :=
  ⟨m.entries.dropWhile p, m.sorted.sublist (List.dropWhile_sublist p)⟩

/-- Erase the entry with the smallest key. -/
def eraseFirst (m : OrderedMap K V) : OrderedMap K V :=
  ⟨m.entries.tail, m.sorted.sublist (List.tail_sublist _)⟩

/-- Set the value of a key, whether it is present or not. -/
def assign (m : OrderedMap K V) (k : K) (v : V) : OrderedMap K V :=
  ⟨insertEntry k v (m.entries.filter fun e => e.1 ≠ k),
    sorted_insertEntry (m.sorted.filter _) fun _ he => of_decide_eq_true (List.mem_filter.mp he).2⟩

/-- Erase a key, if it is present. -/
def erase (m : OrderedMap K V) (k : K) : OrderedMap K V :=
  ⟨m.entries.filter fun e => e.1 ≠ k, m.sorted.filter _⟩

/-- Erase what does not meet `p`. -/
def filter (m : OrderedMap K V) (p : K × V → Bool) : OrderedMap K V :=
  ⟨m.entries.filter p, m.sorted.filter _⟩

/-- The value of a key. -/
def lookup (m : OrderedMap K V) (k : K) : Option V :=
  (m.entries.find? fun e => e.1 = k).map Prod.snd

/-- The smallest key. -/
def firstKey (m : OrderedMap K V) : Option K := m.entries.head?.map Prod.fst

def size (m : OrderedMap K V) : Nat := m.entries.length

/-- Setting a new key inserts an entry. -/
theorem entries_assign {m : OrderedMap K V} {k : K} (v : V) (hnew : ∀ e ∈ m.entries, e.1 ≠ k) :
    (m.assign k v).entries = insertEntry k v m.entries := by
  have hkept : (m.entries.filter fun e => e.1 ≠ k) = m.entries :=
    List.filter_eq_self.mpr fun e he => decide_eq_true (hnew e he)
  exact congrArg (insertEntry k v) hkept

/-- An entry is determined by its key. -/
theorem eq_of_key_eq {m : OrderedMap K V} {a b : K × V} (ha : a ∈ m.entries) (hb : b ∈ m.entries)
    (hkey : a.1 = b.1) : a = b := by
  have hkeys : (m.entries.map Prod.fst).Nodup := by
    rw [List.Nodup, List.pairwise_map]
    exact m.sorted.imp fun hlt => hlt.ne
  exact List.inj_on_of_nodup_map hkeys ha hb hkey

theorem lookup_of_mem {m : OrderedMap K V} {k : K} {v : V} (h : (k, v) ∈ m.entries) :
    m.lookup k = some v := by
  unfold lookup
  cases hfind : m.entries.find? fun e => e.1 = k with
  | none =>
      have hne := List.find?_eq_none.mp hfind _ h
      exact absurd (decide_eq_true rfl) hne
  | some e =>
      have hfound := List.find?_some hfind
      have hkey : e.1 = k := of_decide_eq_true hfound
      rw [eq_of_key_eq (List.mem_of_find?_eq_some hfind) h hkey]
      rfl

theorem mem_of_lookup {m : OrderedMap K V} {k : K} {v : V} (h : m.lookup k = some v) :
    (k, v) ∈ m.entries := by
  unfold lookup at h
  obtain ⟨e, hfind, rfl⟩ := Option.map_eq_some_iff.mp h
  have hfound := List.find?_some hfind
  have hkey : e.1 = k := of_decide_eq_true hfound
  rw [← hkey]
  exact List.mem_of_find?_eq_some hfind

theorem mem_assign_iff {m : OrderedMap K V} {k : K} {v : V} {e : K × V} :
    e ∈ (m.assign k v).entries ↔ e = (k, v) ∨ e ∈ m.entries ∧ e.1 ≠ k := by
  refine mem_insertEntry.trans (or_congr_right ?_)
  rw [List.mem_filter, decide_eq_true_iff]

theorem lookup_eq_some_iff {m : OrderedMap K V} {k : K} {v : V} :
    m.lookup k = some v ↔ (k, v) ∈ m.entries :=
  ⟨mem_of_lookup, lookup_of_mem⟩

theorem lookup_assign (m : OrderedMap K V) (k : K) (v : V) (other : K) :
    (m.assign k v).lookup other = if k = other then some v else m.lookup other := by
  apply Option.ext
  intro w
  rw [lookup_eq_some_iff, mem_assign_iff]
  split_ifs with hkey
  · simp [hkey, eq_comm]
  · simp [Ne.symm hkey, lookup_eq_some_iff]

theorem mem_assign {m : OrderedMap K V} {k : K} {v : V} {e : K × V}
    (h : e ∈ (m.assign k v).entries) : e = (k, v) ∨ e ∈ m.entries := by
  obtain hnew | hkept := mem_assign_iff.mp h
  · exact .inl hnew
  · exact .inr hkept.1

theorem mem_of_firstKey {m : OrderedMap K V} {k : K} (h : m.firstKey = some k) :
    ∃ v, (k, v) ∈ m.entries := by
  obtain ⟨e, hhead, rfl⟩ := Option.map_eq_some_iff.mp h
  exact ⟨e.2, List.mem_of_head? hhead⟩

/-- The first key is the smallest one. -/
theorem firstKey_le {m : OrderedMap K V} {k : K} (h : m.firstKey = some k) :
    ∀ e ∈ m.entries, k ≤ e.1 := by
  have hsorted := m.sorted
  intro e he
  unfold firstKey at h
  cases hentries : m.entries with
  | nil =>
      rw [hentries] at he
      cases he
  | cons first rest =>
      rw [hentries] at h hsorted he
      cases h
      rcases List.mem_cons.mp he with rfl | hrest
      · exact le_rfl
      · exact ((List.pairwise_cons.mp hsorted).1 e hrest).le

theorem firstKey_eq_none {m : OrderedMap K V} (h : m.firstKey = none) : m.entries = [] := by
  unfold firstKey at h
  exact List.head?_eq_none_iff.mp (Option.map_eq_none_iff.mp h)

theorem firstKey_of_le {m : OrderedMap K V} {k : K} {v : V} (hmem : (k, v) ∈ m.entries)
    (hle : ∀ e ∈ m.entries, k ≤ e.1) : m.firstKey = some k := by
  cases hfirst : m.firstKey with
  | none =>
      rw [firstKey_eq_none hfirst] at hmem
      cases hmem
  | some first =>
      obtain ⟨w, hw⟩ := mem_of_firstKey hfirst
      exact congrArg some (le_antisymm (firstKey_le hfirst _ hmem) (hle _ hw))

/-- Setting a key that is not below the first one leaves the first one. -/
theorem firstKey_assign {m : OrderedMap K V} {k : K} (v : V) (hle : ∀ c ∈ m.firstKey, c ≤ k) :
    (m.assign k v).firstKey = some (m.firstKey.getD k) := by
  have hnew : (k, v) ∈ (m.assign k v).entries := mem_insertEntry.mpr (.inl rfl)
  cases hfirst : m.firstKey with
  | none =>
      apply firstKey_of_le hnew
      intro e he
      obtain rfl | hbefore := mem_assign he
      · exact le_rfl
      · rw [firstKey_eq_none hfirst] at hbefore
        cases hbefore
  | some first =>
      have hfirstLe : first ≤ k := hle first hfirst
      obtain ⟨w, hw⟩ := mem_of_firstKey hfirst
      have hall : ∀ e ∈ (m.assign k v).entries, first ≤ e.1 := by
        intro e he
        obtain rfl | hbefore := mem_assign he
        · exact hfirstLe
        · exact firstKey_le hfirst e hbefore
      by_cases hsame : first = k
      · apply firstKey_of_le (v := v) _ hall
        rw [hsame]
        exact hnew
      · apply firstKey_of_le _ hall
        · exact w
        · apply mem_insertEntry.mpr
          exact .inr (List.mem_filter.mpr ⟨hw, decide_eq_true hsame⟩)

theorem tryEmplace_some {m m' : OrderedMap K V} {k : K} {v : V}
    (h : m.tryEmplace k v = some m') :
    (∀ e ∈ m.entries, e.1 ≠ k) ∧ m'.entries = insertEntry k v m.entries := by
  unfold tryEmplace at h
  split_ifs at h with hnew
  exact ⟨hnew, (Option.some.inj h) ▸ rfl⟩

theorem tryEmplace_none {m : OrderedMap K V} {k : K} {v : V} (h : m.tryEmplace k v = none) :
    ∃ e ∈ m.entries, e.1 = k := by
  unfold tryEmplace at h
  split_ifs at h with hnew
  simpa using hnew

theorem mem_eraseFirst {m : OrderedMap K V} {e : K × V} :
    e ∈ m.eraseFirst.entries ↔ e ∈ m.entries ∧ m.entries.head? ≠ some e := by
  cases hentries : m.entries with
  | nil => simp [eraseFirst, hentries]
  | cons first rest =>
      have hsorted := m.sorted
      rw [hentries] at hsorted
      obtain ⟨hfirst, -⟩ := List.pairwise_cons.mp hsorted
      simp only [eraseFirst, hentries, List.tail_cons, List.mem_cons, List.head?_cons, ne_eq,
        Option.some.injEq]
      constructor
      · intro he
        exact ⟨Or.inr he, fun heq => (lt_irrefl _ (heq ▸ hfirst e he)).elim⟩
      · rintro ⟨rfl | he, hne⟩
        · exact absurd rfl hne
        · exact he

/-- An entry that fails `p` survives the erasure of the leading entries. -/
theorem mem_eraseWhile_of_not {m : OrderedMap K V} {p : K × V → Bool} {e : K × V}
    (he : e ∈ m.entries) (hp : p e = false) : e ∈ (m.eraseWhile p).entries := by
  have hsplit := List.takeWhile_append_dropWhile (p := p) (l := m.entries)
  rw [← hsplit] at he
  rcases List.mem_append.mp he with htake | hdrop
  · have := List.mem_takeWhile_imp htake
    rw [hp] at this
    cases this
  · exact hdrop

theorem mem_of_mem_eraseWhile {m : OrderedMap K V} {p : K × V → Bool} {e : K × V}
    (he : e ∈ (m.eraseWhile p).entries) : e ∈ m.entries :=
  (List.dropWhile_sublist p).subset he

end OrderedMap

end SyncAudio
