import Mathlib.Order.Lattice
import Mathlib.Tactic.Common

/-!
# Maps kept in key order

A sorted map is an association list whose keys strictly increase.  Iteration
follows the list, so a search by predicate returns the matching entry of least
key, whatever order the entries were inserted in.  `find?_eq_some_iff` is that
fact.  `get?_eq_some_iff` reads a lookup as membership.
-/

namespace Lib

universe u v

/-- An association list in strictly increasing key order. -/
structure SortedMap (κ : Type u) (α : Type v) [LT κ] where
  /-- The entries, least key first. -/
  entries : List (κ × α)
  /-- The keys strictly increase. -/
  sorted : entries.Pairwise fun left right => left.1 < right.1

namespace SortedMap

variable {κ : Type u} {α : Type v}

/-- The map without entries. -/
def empty [LT κ] : SortedMap κ α := ⟨[], List.Pairwise.nil⟩

/-- The map with one entry. -/
def singleton [LT κ] (key : κ) (value : α) : SortedMap κ α :=
  ⟨[(key, value)], List.pairwise_singleton _ _⟩

/-- The first entry, in key order, that satisfies the test. -/
def find? [LT κ] (m : SortedMap κ α) (test : κ → Bool) : Option (κ × α) :=
  m.entries.find? fun entry => test entry.1

/-- The value stored under a key. -/
def get? [LT κ] [DecidableEq κ] (m : SortedMap κ α) (key : κ) : Option α :=
  (m.find? fun candidate => decide (candidate = key)).map Prod.snd

/-- The keys, in order. -/
def keys [LT κ] (m : SortedMap κ α) : List κ := m.entries.map Prod.fst

variable [LinearOrder κ] {m : SortedMap κ α}

/-- A search finds the matching entry of least key. -/
theorem find?_eq_some_iff {test : κ → Bool} {found : κ × α} :
    m.find? test = some found ↔
      found ∈ m.entries ∧ test found.1 = true ∧
        ∀ entry ∈ m.entries, entry.1 < found.1 → test entry.1 = false := by
  unfold find?
  rw [List.find?_eq_some_iff_append]
  constructor
  · rintro ⟨hit, before, after, split, misses⟩
    refine ⟨by rw [split]; simp, hit, ?_⟩
    intro entry member lower
    rw [split, List.mem_append, List.mem_cons] at member
    rcases member with member | rfl | member
    · simpa using misses entry member
    · exact absurd lower (lt_irrefl _)
    · have ordered := m.sorted
      rw [split, List.pairwise_append] at ordered
      have above := (List.pairwise_cons.mp ordered.2.1).1 entry member
      exact absurd lower (lt_asymm above)
  · rintro ⟨member, hit, misses⟩
    obtain ⟨before, after, split⟩ := List.append_of_mem member
    refine ⟨hit, before, after, split, ?_⟩
    intro entry hentry
    have ordered := m.sorted
    rw [split, List.pairwise_append] at ordered
    have lower : entry.1 < found.1 := ordered.2.2 entry hentry found (by simp)
    have hmem : entry ∈ m.entries := by rw [split]; exact List.mem_append_left _ hentry
    simp [misses entry hmem lower]

/-- A search fails exactly when no key satisfies the test. -/
theorem find?_eq_none_iff {test : κ → Bool} :
    m.find? test = none ↔ ∀ entry ∈ m.entries, test entry.1 = false := by
  simp [find?, List.find?_eq_none]

/-- A lookup reads the entry of that key. -/
theorem get?_eq_some_iff {key : κ} {value : α} :
    m.get? key = some value ↔ (key, value) ∈ m.entries := by
  unfold get?
  constructor
  · intro h
    obtain ⟨⟨found, stored⟩, hfound, rfl⟩ := Option.map_eq_some_iff.mp h
    obtain ⟨member, hit, _⟩ := find?_eq_some_iff.mp hfound
    have same : found = key := by simpa using hit
    rwa [← same]
  · intro member
    have hfound : m.find? (fun candidate => decide (candidate = key)) = some (key, value) := by
      refine find?_eq_some_iff.mpr ⟨member, by simp, ?_⟩
      intro entry _ lower
      simpa using ne_of_lt lower
    rw [hfound, Option.map_some]

/-! ## Changes of one value -/

/-- The map with the value of one key changed, if it is there. -/
def adjust (m : SortedMap κ α) (key : κ) (change : α → α) : SortedMap κ α where
  entries := m.entries.map fun entry =>
    (entry.1, if entry.1 = key then change entry.2 else entry.2)
  sorted := List.pairwise_map.mpr m.sorted

/-- A search finds the entry it found before, with its value changed or not. -/
theorem find?_adjust (m : SortedMap κ α) (key : κ) (change : α → α) (test : κ → Bool) :
    (m.adjust key change).find? test = (m.find? test).map fun entry =>
      (entry.1, if entry.1 = key then change entry.2 else entry.2) :=
  List.find?_map

theorem get?_adjust (m : SortedMap κ α) (key other : κ) (change : α → α) :
    (m.adjust key change).get? other =
      if other = key then (m.get? key).map change else m.get? other := by
  unfold get?
  rw [find?_adjust, Option.map_map]
  split
  case isTrue heq =>
    subst heq
    cases hfound : m.find? fun candidate => decide (candidate = other) with
    | none => rfl
    | some entry =>
        have hkey : entry.1 = other := by simpa using (find?_eq_some_iff.mp hfound).2.1
        simp [hkey]
  case isFalse hne =>
    cases hfound : m.find? fun candidate => decide (candidate = other) with
    | none => rfl
    | some entry =>
        have hkey : entry.1 = other := by simpa using (find?_eq_some_iff.mp hfound).2.1
        simp [hkey, hne]

/-! ## Insertion and removal -/

/-- Entries in key order, with the value of one key set. -/
def insertEntry (key : κ) (value : α) : List (κ × α) → List (κ × α)
  | [] => [(key, value)]
  | entry :: rest =>
      if key < entry.1 then (key, value) :: entry :: rest
      else if key = entry.1 then (key, value) :: rest
      else entry :: insertEntry key value rest

theorem mem_insertEntry {key : κ} {value : α} {entries : List (κ × α)}
    (hsorted : entries.Pairwise fun left right => left.1 < right.1) {entry : κ × α} :
    entry ∈ insertEntry key value entries ↔
      entry = (key, value) ∨ entry ∈ entries ∧ entry.1 ≠ key := by
  induction entries with
  | nil => simp [insertEntry]
  | cons first rest ih =>
      obtain ⟨hfirst, hrest⟩ := List.pairwise_cons.mp hsorted
      unfold insertEntry
      split
      case isTrue hlower =>
        -- every key of the list is above the new one
        have hother : entry ∈ first :: rest → entry.1 ≠ key := by
          intro hentry
          rcases List.mem_cons.mp hentry with rfl | hentry
          · exact ne_of_gt hlower
          · exact ne_of_gt (lt_trans hlower (hfirst entry hentry))
        rw [List.mem_cons]
        exact or_congr Iff.rfl ⟨fun h => ⟨h, hother h⟩, And.left⟩
      case isFalse =>
        split
        case isTrue heq =>
          have hother : entry ∈ rest → entry.1 ≠ key := by
            intro hentry
            rw [heq]
            exact ne_of_gt (hfirst entry hentry)
          rw [List.mem_cons, List.mem_cons]
          constructor
          · rintro (h | h)
            · exact .inl h
            · exact .inr ⟨.inr h, hother h⟩
          · rintro (h | ⟨rfl | h, hkey⟩)
            · exact .inl h
            · exact absurd heq.symm hkey
            · exact .inr h
        case isFalse hne =>
          rw [List.mem_cons, List.mem_cons, ih hrest]
          constructor
          · rintro (rfl | h | ⟨h, hkey⟩)
            · exact .inr ⟨.inl rfl, fun h => hne h.symm⟩
            · exact .inl h
            · exact .inr ⟨.inr h, hkey⟩
          · rintro (h | ⟨h | h, hkey⟩)
            · exact .inr (.inl h)
            · exact .inl h
            · exact .inr (.inr ⟨h, hkey⟩)

theorem pairwise_insertEntry {key : κ} {value : α} {entries : List (κ × α)}
    (hsorted : entries.Pairwise fun left right => left.1 < right.1) :
    (insertEntry key value entries).Pairwise fun left right => left.1 < right.1 := by
  induction entries with
  | nil => exact List.pairwise_singleton _ _
  | cons first rest ih =>
      obtain ⟨hfirst, hrest⟩ := List.pairwise_cons.mp hsorted
      unfold insertEntry
      split
      case isTrue hlower =>
        refine List.pairwise_cons.mpr ⟨fun entry hentry => ?_, hsorted⟩
        rcases List.mem_cons.mp hentry with rfl | hentry
        · exact hlower
        · exact lt_trans hlower (hfirst entry hentry)
      case isFalse hnot =>
        split
        case isTrue heq =>
          exact List.pairwise_cons.mpr ⟨fun entry hentry => heq ▸ hfirst entry hentry, hrest⟩
        case isFalse hne =>
          refine List.pairwise_cons.mpr ⟨fun entry hentry => ?_, ih hrest⟩
          rcases (mem_insertEntry hrest).mp hentry with rfl | ⟨hentry, _⟩
          · exact lt_of_le_of_ne (not_lt.mp hnot) fun h => hne h.symm
          · exact hfirst entry hentry

/-- The map with the value of one key set. -/
def insert (m : SortedMap κ α) (key : κ) (value : α) : SortedMap κ α :=
  ⟨insertEntry key value m.entries, pairwise_insertEntry m.sorted⟩

/-- The map with a value for one key, if it had none. -/
def insertNew (m : SortedMap κ α) (key : κ) (value : α) : SortedMap κ α :=
  if (m.get? key).isSome then m else m.insert key value

/-- The map without one key. -/
def erase (m : SortedMap κ α) (key : κ) : SortedMap κ α :=
  ⟨m.entries.filter fun entry => entry.1 ≠ key, m.sorted.filter _⟩

/-- The map with a value for each key of another map that it lacks. -/
def insertMissing (m defaults : SortedMap κ α) : SortedMap κ α :=
  defaults.entries.foldl (fun m entry => m.insertNew entry.1 entry.2) m

/-- The map of a list of entries, where the first of a key counts. -/
def ofEntries (entries : List (κ × α)) : SortedMap κ α :=
  entries.foldr (fun entry m => m.insert entry.1 entry.2) empty

@[simp] theorem get?_empty (key : κ) : (empty : SortedMap κ α).get? key = none := rfl

theorem get?_insert (m : SortedMap κ α) (key other : κ) (value : α) :
    (m.insert key value).get? other = if other = key then some value else m.get? other := by
  ext found
  rw [get?_eq_some_iff, insert, mem_insertEntry m.sorted, Prod.mk.injEq]
  split
  case isTrue heq =>
    subst heq
    simp [eq_comm]
  case isFalse hne =>
    rw [get?_eq_some_iff]
    simp [hne]

@[simp] theorem get?_insert_self (m : SortedMap κ α) (key : κ) (value : α) :
    (m.insert key value).get? key = some value := by
  rw [get?_insert, if_pos rfl]

theorem get?_erase (m : SortedMap κ α) (key other : κ) :
    (m.erase key).get? other = if other = key then none else m.get? other := by
  ext found
  rw [get?_eq_some_iff, erase, List.mem_filter]
  split
  case isTrue heq => simp [heq]
  case isFalse hne => simp [get?_eq_some_iff, hne]

/-- A key that has a value keeps it. -/
theorem insertNew_of_isSome {key : κ} (h : (m.get? key).isSome) (value : α) :
    m.insertNew key value = m :=
  if_pos h

/-- A key that has no value changes the map. -/
theorem insertNew_eq_self_iff {key : κ} (value : α) :
    m.insertNew key value = m ↔ m.get? key ≠ none := by
  constructor
  · intro h hnone
    rw [insertNew, hnone] at h
    have hget := get?_insert_self m key value
    rw [show m.insert key value = m from h, hnone] at hget
    cases hget
  · intro h
    exact insertNew_of_isSome (Option.isSome_iff_ne_none.mpr h) value

theorem get?_insertNew (m : SortedMap κ α) (key other : κ) (value : α) :
    (m.insertNew key value).get? other =
      if other = key then some ((m.get? key).getD value) else m.get? other := by
  unfold insertNew
  split
  case isTrue hsome =>
    obtain ⟨old, hold⟩ := Option.isSome_iff_exists.mp hsome
    by_cases heq : other = key
    · rw [if_pos heq, heq, hold, Option.getD_some]
    · rw [if_neg heq]
  case isFalse hnone =>
    rw [get?_insert, Option.not_isSome_iff_eq_none.mp hnone, Option.getD_none]

theorem insertMissing_eq_self {defaults : SortedMap κ α}
    (h : ∀ entry ∈ defaults.entries, (m.get? entry.1).isSome) : m.insertMissing defaults = m := by
  have hfold : ∀ {entries : List (κ × α)}, (∀ entry ∈ entries, (m.get? entry.1).isSome) →
      entries.foldl (fun m entry => m.insertNew entry.1 entry.2) m = m := by
    intro entries
    induction entries with
    | nil => exact fun _ => rfl
    | cons entry rest ih =>
        intro hall
        rw [List.foldl_cons, insertNew_of_isSome (hall entry List.mem_cons_self)]
        exact ih fun other hother => hall other (List.mem_cons_of_mem _ hother)
  exact hfold h

/-- A lookup reads the first entry of that key. -/
theorem get?_ofEntries (entries : List (κ × α)) (key : κ) :
    (ofEntries entries).get? key = entries.lookup key := by
  induction entries with
  | nil => rfl
  | cons entry rest ih =>
      change ((ofEntries rest).insert entry.1 entry.2).get? key = _
      rw [get?_insert, ih, List.lookup_cons]
      by_cases heq : key = entry.1
      · simp [heq]
      · simp [heq, beq_eq_false_iff_ne.mpr heq]

theorem entries_ofEntries {entries : List (κ × α)}
    (hsorted : entries.Pairwise fun left right => left.1 < right.1) :
    (ofEntries entries).entries = entries := by
  induction entries with
  | nil => rfl
  | cons entry rest ih =>
      obtain ⟨hfirst, hrest⟩ := List.pairwise_cons.mp hsorted
      change insertEntry entry.1 entry.2 (ofEntries rest).entries = _
      rw [ih hrest]
      cases rest with
      | nil => rfl
      | cons second others => exact if_pos (hfirst second List.mem_cons_self)

/-- The entries of a map make up the map. -/
theorem ofEntries_entries (m : SortedMap κ α) : ofEntries m.entries = m := by
  have hentries := entries_ofEntries m.sorted
  cases hm : ofEntries m.entries with
  | mk entries hsorted =>
      rw [hm] at hentries
      subst hentries
      rfl

/-- A lookup in the entries is a lookup in the map. -/
theorem lookup_entries (m : SortedMap κ α) (key : κ) : m.entries.lookup key = m.get? key := by
  rw [← get?_ofEntries, ofEntries_entries]

/-- A key keeps its value, and one without gets the default. -/
theorem get?_insertMissing (m defaults : SortedMap κ α) (key : κ) :
    (m.insertMissing defaults).get? key = (m.get? key).or (defaults.get? key) := by
  have hfold : ∀ (entries : List (κ × α)) (m : SortedMap κ α),
      (entries.foldl (fun m entry => m.insertNew entry.1 entry.2) m).get? key =
        (m.get? key).or (entries.lookup key) := by
    intro entries
    induction entries with
    | nil => simp
    | cons entry rest ih =>
        intro m
        rw [List.foldl_cons, ih, get?_insertNew, List.lookup_cons]
        by_cases heq : key = entry.1
        · subst heq
          cases m.get? entry.1 <;> simp
        · simp [heq, beq_eq_false_iff_ne.mpr heq]
  rw [← lookup_entries defaults]
  exact hfold defaults.entries m

end SortedMap

end Lib
