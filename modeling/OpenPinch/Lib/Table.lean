import Mathlib.Algebra.Group.Nat.Defs
import Mathlib.Data.List.Sort
import Mathlib.Tactic.Common

/-!
# Tables

A table is the list of its rows, oldest first.  The operations are the SQL
statements on one table: conditional updates and deletions, insertion under
uniqueness constraints, insertion with an update on conflict, and selection in
descending order.
-/

namespace Lib.Table

universe u v

variable {ρ : Type u}

/-- `update … set … where`. -/
def updateWhere (test : ρ → Bool) (change : ρ → ρ) (rows : List ρ) : List ρ :=
  rows.map fun row => if test row then change row else row

/-- `delete … where`. -/
def deleteWhere (test : ρ → Bool) (rows : List ρ) : List ρ := rows.filter fun row => !test row

/-- `insert`, which fails when a row is in conflict with the new one. -/
def insert (clash : ρ → Bool) (row : ρ) (rows : List ρ) : Option (List ρ) :=
  if rows.any clash then none else some (rows ++ [row])

/-- `insert … on conflict (target) do update`.  The conflict target is checked
before the other constraints, on which the statement fails. -/
def upsert (clash target : ρ → Bool) (change : ρ → ρ) (row : ρ) (rows : List ρ) :
    Option (List ρ) :=
  if rows.any target then some (updateWhere target change rows)
  else if rows.any clash then none
  else some (rows ++ [row])

/-- `insert … on conflict (key) do update`, where no other constraint can fail. -/
def upsertOn {κ : Type} [BEq κ] (key : ρ → κ) (change : ρ → ρ) (row : ρ) (rows : List ρ) :
    List ρ :=
  if rows.any (key · == key row) then updateWhere (key · == key row) change rows
  else rows ++ [row]

/-- `order by key asc`. -/
def ascending {κ : Type} [LE κ] [DecidableLE κ] (key : ρ → κ) (rows : List ρ) : List ρ :=
  rows.insertionSort fun left right => key left ≤ key right

/-- `order by key desc`. -/
def descending {κ : Type} [LE κ] [DecidableLE κ] (key : ρ → κ) (rows : List ρ) : List ρ :=
  rows.insertionSort fun left right => key right ≤ key left

/-- `limit`, of a `usize` cast to `i64`.  A negative limit is none. -/
def limit (n : Nat) (rows : List ρ) : List ρ := if n < 2 ^ 63 then rows.take n else rows

/-- Nothing new enters a table when it is updated: each row comes from a row. -/
theorem mem_updateWhere {test : ρ → Bool} {change : ρ → ρ} {rows : List ρ} {row : ρ} :
    row ∈ updateWhere test change rows ↔
      ∃ old ∈ rows, row = if test old then change old else old := by
  simp only [updateWhere, List.mem_map, eq_comm]

/-- An update that no row passes the test of. -/
theorem updateWhere_of_none {test : ρ → Bool} {change : ρ → ρ} {rows : List ρ}
    (h : ∀ row ∈ rows, test row = false) : updateWhere test change rows = rows := by
  rw [updateWhere, List.map_congr_left fun row hrow => if_neg (by simp [h row hrow]), List.map_id']

/-- An update of which no result has the property leaves those rows that have it. -/
theorem mem_of_mem_updateWhere {P : ρ → Prop} {test : ρ → Bool} {change : ρ → ρ} {rows : List ρ}
    {row : ρ} (h : ∀ old, ¬ P (change old)) (hrow : row ∈ updateWhere test change rows)
    (hP : P row) : row ∈ rows := by
  obtain ⟨old, hold, rfl⟩ := mem_updateWhere.mp hrow
  split at hP
  · exact absurd hP (h old)
  · rename_i htest
    rwa [if_neg htest]

/-- A row after `upsertOn` is one from before, an updated one or the new one. -/
theorem mem_of_mem_upsertOn {κ : Type} [BEq κ] {key : ρ → κ} {change : ρ → ρ} {new row : ρ}
    {rows : List ρ} (h : row ∈ upsertOn key change new rows) :
    row ∈ rows ∨ (∃ old ∈ rows, row = change old) ∨ row = new := by
  unfold upsertOn at h
  split at h
  · obtain ⟨old, hold, rfl⟩ := mem_updateWhere.mp h
    split
    · exact Or.inr (Or.inl ⟨old, hold, rfl⟩)
    · exact Or.inl hold
  · rcases List.mem_append.mp h with hbefore | hnew
    · exact Or.inl hbefore
    · exact Or.inr (Or.inr (List.mem_singleton.mp hnew))

/-- A row after `upsertOn` is the new one or an updated one, or another one with a
key of its own. -/
theorem of_mem_upsertOn {κ : Type} [BEq κ] [LawfulBEq κ] {key : ρ → κ} {change : ρ → ρ}
    {new row : ρ} {rows : List ρ} (h : row ∈ upsertOn key change new rows) :
    row = new ∨ (∃ old, row = change old) ∨ key row ≠ key new ∧ row ∈ rows := by
  unfold upsertOn at h
  split at h
  · obtain ⟨old, hold, rfl⟩ := mem_updateWhere.mp h
    split
    · exact Or.inr (Or.inl ⟨old, rfl⟩)
    · rename_i hkey
      exact Or.inr (Or.inr ⟨by simpa using hkey, hold⟩)
  · rename_i hnone
    rcases List.mem_append.mp h with hbefore | hnew
    · refine Or.inr (Or.inr ⟨fun hkey => hnone ?_, hbefore⟩)
      exact List.any_eq_true.mpr ⟨row, hbefore, beq_iff_eq.mpr hkey⟩
    · exact Or.inl (List.mem_singleton.mp hnew)

/-- An upsert keeps the rows with other keys. -/
theorem mem_upsertOn_of_ne {κ : Type} [BEq κ] [LawfulBEq κ] {key : ρ → κ} {change : ρ → ρ}
    {new row : ρ} {rows : List ρ} (h : row ∈ rows) (hne : key row ≠ key new) :
    row ∈ upsertOn key change new rows := by
  unfold upsertOn
  split
  · exact mem_updateWhere.mpr ⟨row, h, by simp [hne]⟩
  · exact List.mem_append_left _ h

/-- What shows of the rows with other keys still shows after an upsert. -/
theorem mem_map_upsertOn_of_ne {κ β : Type} [BEq κ] [LawfulBEq κ] {key : ρ → κ} {change : ρ → ρ}
    {new : ρ} {rows : List ρ} {f : ρ → β} {b : β} (h : b ∈ rows.map f)
    (hne : ∀ row, f row = b → key row ≠ key new) : b ∈ (upsertOn key change new rows).map f := by
  obtain ⟨row, hrow, hb⟩ := List.mem_map.mp h
  exact List.mem_map.mpr ⟨row, mem_upsertOn_of_ne hrow (hne row hb), hb⟩

/-- What shows after an upsert has what the new row and the updated ones show, or it shows of
another row. -/
theorem of_mem_map_upsertOn {κ β : Type} [BEq κ] [LawfulBEq κ] {key : ρ → κ} {change : ρ → ρ}
    {new : ρ} {rows : List ρ} {f : ρ → β} {P : β → Prop} (hnew : P (f new))
    (hchange : ∀ old, P (f (change old))) {b : β} (h : b ∈ (upsertOn key change new rows).map f) :
    P b ∨ ∃ row ∈ rows, key row ≠ key new ∧ f row = b := by
  obtain ⟨row, hrow, rfl⟩ := List.mem_map.mp h
  rcases of_mem_upsertOn hrow with rfl | ⟨old, rfl⟩ | ⟨hne, hbefore⟩
  · exact Or.inl hnew
  · exact Or.inl (hchange old)
  · exact Or.inr ⟨row, hbefore, hne, rfl⟩

/-- An upsert leaves a row with its key, the new one or an updated one. -/
theorem exists_mem_upsertOn {κ : Type} [BEq κ] [LawfulBEq κ] (key : ρ → κ) (change : ρ → ρ)
    (new : ρ) (rows : List ρ) :
    ∃ row ∈ upsertOn key change new rows, row = new ∨ ∃ old, row = change old := by
  unfold upsertOn
  split
  · rename_i hfound
    obtain ⟨old, hold, hkey⟩ := List.any_eq_true.mp hfound
    exact ⟨change old, mem_updateWhere.mpr ⟨old, hold, by rw [if_pos hkey]⟩, Or.inr ⟨old, rfl⟩⟩
  · exact ⟨new, List.mem_append_right _ (List.mem_singleton.mpr rfl), Or.inl rfl⟩

/-- A row that an update does not reach stays. -/
theorem mem_updateWhere_of_not {test : ρ → Bool} {change : ρ → ρ} {rows : List ρ} {row : ρ}
    (h : row ∈ rows) (htest : test row = false) : row ∈ updateWhere test change rows :=
  mem_updateWhere.mpr ⟨row, h, by simp [htest]⟩

/-- An insertion that succeeds has found no conflict and appends the row. -/
theorem insert_eq_some {clash : ρ → Bool} {row : ρ} {rows rows' : List ρ} :
    insert clash row rows = some rows' ↔
      (∀ other ∈ rows, clash other = false) ∧ rows' = rows ++ [row] := by
  unfold insert
  split
  · rename_i hclash
    obtain ⟨other, hother, htrue⟩ := List.any_eq_true.mp hclash
    simp only [reduceCtorEq, false_iff, not_and]
    intro hnone
    rw [hnone other hother] at htrue
    cases htrue
  · rename_i hclash
    have hfree : ∀ other ∈ rows, clash other = false := by simpa using hclash
    constructor
    · rintro ⟨rfl⟩
      exact ⟨hfree, rfl⟩
    · rintro ⟨-, rfl⟩
      rfl

theorem mem_deleteWhere {test : ρ → Bool} {rows : List ρ} {row : ρ} :
    row ∈ deleteWhere test rows ↔ row ∈ rows ∧ test row = false := by
  simp [deleteWhere]

/-- What an update marks is kept out. -/
theorem filter_updateWhere {keep : ρ → Bool} {change : ρ → ρ}
    (h : ∀ row, keep (change row) = false) (test : ρ → Bool) (rows : List ρ) :
    (updateWhere test change rows).filter keep = rows.filter fun row => keep row && !test row := by
  induction rows with
  | nil => rfl
  | cons row rows ih =>
      show ((if test row then change row else row) :: updateWhere test change rows).filter keep = _
      cases htest : test row with
      | true => simp [htest, h, ih]
      | false => simp [htest, ih, List.filter_cons]

/-- A deletion keeps the same rows out. -/
theorem filter_deleteWhere (keep test : ρ → Bool) (rows : List ρ) :
    (deleteWhere test rows).filter keep = rows.filter fun row => keep row && !test row := by
  rw [deleteWhere, List.filter_filter]

/-- An update that keeps the keys of the rows it changes keeps all keys. -/
theorem map_updateWhere_of_test {κ : Type v} {key : ρ → κ} {test : ρ → Bool} {change : ρ → ρ}
    (h : ∀ row, test row = true → key (change row) = key row) (rows : List ρ) :
    (updateWhere test change rows).map key = rows.map key := by
  rw [updateWhere, List.map_map]
  refine List.map_congr_left fun row _ => ?_
  show key (if test row then change row else row) = key row
  split
  · rename_i htest
    exact h row htest
  · rfl

/-- An update of other columns keeps the keys. -/
theorem map_updateWhere {κ : Type v} {key : ρ → κ} {test : ρ → Bool} {change : ρ → ρ}
    (h : ∀ row, key (change row) = key row) (rows : List ρ) :
    (updateWhere test change rows).map key = rows.map key :=
  map_updateWhere_of_test (fun row _ => h row) rows

/-- An upsert adds the key of its row and no other. -/
theorem mem_map_upsertOn {κ : Type} [BEq κ] [LawfulBEq κ] {key : ρ → κ} {change : ρ → ρ}
    {new : ρ} (h : ∀ row, key (change row) = key new) {rows : List ρ} {k : κ} :
    k ∈ (upsertOn key change new rows).map key ↔ k ∈ rows.map key ∨ k = key new := by
  unfold upsertOn
  split
  · rename_i hfound
    obtain ⟨row, hrow, hkey⟩ := List.any_eq_true.mp hfound
    have hnew : key new ∈ rows.map key := eq_of_beq hkey ▸ List.mem_map_of_mem hrow
    rw [map_updateWhere_of_test fun row htest => (h row).trans (eq_of_beq htest).symm]
    exact ⟨Or.inl, fun hk => hk.elim id fun heq => heq ▸ hnew⟩
  · simp

/-- A deletion by key takes that key and no other. -/
theorem mem_map_deleteWhere {κ : Type} [BEq κ] [LawfulBEq κ] {key : ρ → κ} {gone k : κ}
    {rows : List ρ} :
    k ∈ (deleteWhere (key · == gone) rows).map key ↔ k ∈ rows.map key ∧ k ≠ gone := by
  simp only [List.mem_map, mem_deleteWhere, beq_eq_false_iff_ne]
  constructor
  · rintro ⟨row, ⟨hrow, hne⟩, rfl⟩
    exact ⟨⟨row, hrow, rfl⟩, hne⟩
  · rintro ⟨⟨row, hrow, rfl⟩, hne⟩
    exact ⟨row, ⟨hrow, hne⟩, rfl⟩

/-- The row that a lookup finds by a key after an update that keeps the keys. -/
theorem find?_updateWhere {test found : ρ → Bool} {change : ρ → ρ}
    (h : ∀ row, found (change row) = found row) (rows : List ρ) :
    (updateWhere test change rows).find? found =
      (rows.find? found).map fun row => if test row then change row else row := by
  have hupdated : ∀ row, found (if test row then change row else row) = found row := by
    intro row
    split
    · exact h row
    · rfl
  induction rows with
  | nil => rfl
  | cons row rows ih =>
      show ((if test row then change row else row) :: updateWhere test change rows).find? found = _
      cases hrow : found row with
      | true => simp [hupdated, hrow]
      | false => simp [hupdated, hrow, ih]

/-- A deletion keeps keys apart. -/
theorem nodup_deleteWhere {κ : Type v} {key : ρ → κ} {rows : List ρ} (h : (rows.map key).Nodup)
    (test : ρ → Bool) : ((deleteWhere test rows).map key).Nodup :=
  h.sublist (List.Sublist.map key List.filter_sublist)

/-- An upsert keeps keys apart. -/
theorem nodup_upsertOn {κ : Type} [BEq κ] [LawfulBEq κ] {key : ρ → κ} {change : ρ → ρ} {new : ρ}
    (hchange : ∀ row, key (change row) = key new) {rows : List ρ} (h : (rows.map key).Nodup) :
    ((upsertOn key change new rows).map key).Nodup := by
  unfold upsertOn
  split
  · rwa [map_updateWhere_of_test fun row htest => (hchange row).trans (eq_of_beq htest).symm]
  · rename_i hnone
    rw [List.map_append, List.map_singleton]
    refine h.append (List.nodup_singleton _) ?_
    intro k hk hnew
    obtain ⟨row, hrow, rfl⟩ := List.mem_map.mp hk
    exact hnone (List.any_eq_true.mpr ⟨row, hrow, beq_iff_eq.mpr (List.mem_singleton.mp hnew)⟩)

/-- No row has the key that is left out. -/
theorem filter_ne_of_notMem {κ : Type} [BEq κ] [LawfulBEq κ] {key : ρ → κ} {gone : κ}
    {rows : List ρ} (h : gone ∉ rows.map key) : (rows.filter fun row => key row != gone) = rows :=
  List.filter_eq_self.mpr fun _ hrow => bne_iff_ne.mpr fun heq =>
    h (heq ▸ List.mem_map_of_mem hrow)

/-- An upsert leaves one row under its key, the new one or an updated one, where the old row
was or behind the others. -/
theorem upsertOn_split {κ : Type} [BEq κ] [LawfulBEq κ] {key : ρ → κ} (change : ρ → ρ) (new : ρ)
    {rows : List ρ} (h : (rows.map key).Nodup) :
    ∃ before row behind, upsertOn key change new rows = before ++ row :: behind ∧
      (rows.filter fun other => key other != key new) = before ++ behind ∧
        (row = new ∨ ∃ old ∈ rows, row = change old) := by
  unfold upsertOn
  split
  · rename_i hfound
    obtain ⟨old, hold, hkey⟩ := List.any_eq_true.mp hfound
    obtain ⟨before, behind, rfl⟩ := List.append_of_mem hold
    rw [beq_iff_eq] at hkey
    rw [List.map_append, List.map_cons, List.nodup_middle, List.nodup_cons, hkey,
      ← List.map_append] at h
    have hstay : updateWhere (key · == key new) change (before ++ behind) = before ++ behind :=
      updateWhere_of_none fun row hrow =>
        beq_false_of_ne fun heq => h.1 (heq ▸ List.mem_map_of_mem hrow)
    rw [updateWhere, List.map_append] at hstay
    obtain ⟨hbefore, hbehind⟩ := List.append_inj hstay (List.length_map _)
    refine ⟨before, change old, behind, ?_, ?_, Or.inr ⟨old, hold, rfl⟩⟩
    · rw [updateWhere, List.map_append, List.map_cons, hbefore, hbehind,
        if_pos (beq_iff_eq.mpr hkey)]
    · rw [List.filter_append, List.filter_cons_of_neg (by simp [hkey]), ← List.filter_append]
      exact filter_ne_of_notMem h.1
  · rename_i hnone
    refine ⟨rows, new, [], rfl, ?_, Or.inl rfl⟩
    rw [List.append_nil]
    refine filter_ne_of_notMem fun hmem => hnone ?_
    obtain ⟨other, hother, heq⟩ := List.mem_map.mp hmem
    exact List.any_eq_true.mpr ⟨other, hother, beq_iff_eq.mpr heq⟩

/-- The first rows without one of them. -/
theorem take_filter_of_mem {κ : Type} [BEq κ] [LawfulBEq κ] {key : ρ → κ} {gone : κ} {n : Nat}
    {rows : List ρ} (h : (rows.map key).Nodup) (hgone : gone ∈ (rows.take (n + 1)).map key) :
    (rows.filter fun row => key row != gone).take n =
      (rows.take (n + 1)).filter fun row => key row != gone := by
  induction rows generalizing n with
  | nil => simp at hgone
  | cons row rows ih =>
      rw [List.map_cons, List.nodup_cons] at h
      rw [List.take_succ_cons]
      by_cases hrow : key row = gone
      · have hrest : gone ∉ rows.map key := hrow ▸ h.1
        have htaken : gone ∉ (rows.take n).map key := fun hmem => hrest
          ((List.take_sublist n rows).map key |>.subset hmem)
        rw [List.filter_cons_of_neg (by simp [hrow]), List.filter_cons_of_neg (by simp [hrow]),
          filter_ne_of_notMem hrest, filter_ne_of_notMem htaken]
      · rw [List.filter_cons_of_pos (by simp [hrow]), List.filter_cons_of_pos (by simp [hrow])]
        rw [List.take_succ_cons, List.map_cons, List.mem_cons] at hgone
        have hlater := hgone.resolve_left (Ne.symm hrow)
        cases n with
        | zero => simp at hlater
        | succ n => rw [List.take_succ_cons, ih h.2 hlater]

/-- The first rows of the others are among the first rows. -/
theorem mem_take_of_mem_filter {κ : Type} [BEq κ] [LawfulBEq κ] {key : ρ → κ} {gone : κ} {n : Nat}
    {rows : List ρ} {row : ρ} (h : (rows.map key).Nodup)
    (hrow : row ∈ (rows.filter fun row => key row != gone).take n) : row ∈ rows.take (n + 1) := by
  induction rows generalizing n with
  | nil => simp at hrow
  | cons first rows ih =>
      rw [List.map_cons, List.nodup_cons] at h
      rw [List.take_succ_cons, List.mem_cons]
      by_cases hfirst : key first = gone
      · rw [List.filter_cons_of_neg (by simp [hfirst]), filter_ne_of_notMem (hfirst ▸ h.1)] at hrow
        exact Or.inr hrow
      · rw [List.filter_cons_of_pos (by simp [hfirst])] at hrow
        cases n with
        | zero => simp at hrow
        | succ n =>
            rw [List.take_succ_cons, List.mem_cons] at hrow
            exact hrow.imp id (ih h.2)

/-- An upsert that succeeds updates the target, or finds no conflict and appends the row. -/
theorem upsert_eq_some {clash target : ρ → Bool} {change : ρ → ρ} {row : ρ} {rows rows' : List ρ} :
    upsert clash target change row rows = some rows' ↔
      rows.any target = true ∧ rows' = updateWhere target change rows ∨
        rows.any target = false ∧ rows.any clash = false ∧ rows' = rows ++ [row] := by
  unfold upsert
  cases rows.any target <;> cases rows.any clash <;> simp [eq_comm]

/-- The first row in descending order has the greatest key. -/
theorem head_descending {κ : Type} [LinearOrder κ] (key : ρ → κ) {rows : List ρ} {row : ρ}
    (h : row ∈ rows) :
    ∃ first, (descending key rows).head? = some first ∧ key row ≤ key first := by
  have hrow : row ∈ descending key rows := (List.mem_insertionSort _).mpr h
  have : Std.Total fun left right : ρ => key right ≤ key left :=
    ⟨fun left right => le_total (key right) (key left)⟩
  have : IsTrans ρ fun left right => key right ≤ key left :=
    ⟨fun _ _ _ h h' => le_trans h' h⟩
  have hsorted : (descending key rows).Pairwise fun left right => key right ≤ key left :=
    List.pairwise_insertionSort _ rows
  cases hlist : descending key rows with
  | nil =>
      rw [hlist] at hrow
      cases hrow
  | cons first rest =>
      rw [hlist] at hrow hsorted
      refine ⟨first, rfl, ?_⟩
      rcases List.mem_cons.mp hrow with rfl | hlater
      · exact le_refl _
      · exact (List.pairwise_cons.mp hsorted).1 row hlater

/-- Relations that agree on the elements of a list sort it alike. -/
theorem insertionSort_congr {r s : ρ → ρ → Prop} [DecidableRel r] [DecidableRel s]
    {rows : List ρ} (h : ∀ a ∈ rows, ∀ b ∈ rows, r a b ↔ s a b) :
    rows.insertionSort r = rows.insertionSort s := by
  have hinsert : ∀ (a : ρ) (rows : List ρ), (∀ b ∈ rows, r a b ↔ s a b) →
      rows.orderedInsert r a = rows.orderedInsert s a := by
    intro a rows
    induction rows with
    | nil => intro _; rfl
    | cons b rest ih =>
        intro hagree
        obtain ⟨hfirst, hrest⟩ := List.forall_mem_cons.mp hagree
        simp only [List.orderedInsert, hfirst, ih hrest]
  induction rows with
  | nil => rfl
  | cons a rest ih =>
      have hrest := ih fun b hb c hc =>
        h b (List.mem_cons_of_mem a hb) c (List.mem_cons_of_mem a hc)
      rw [List.insertionSort_cons, List.insertionSort_cons, hrest]
      refine hinsert a _ fun b hb => h a List.mem_cons_self b (List.mem_cons_of_mem a ?_)
      exact (List.mem_insertionSort s).mp hb

section

variable {κ : Type} [LinearOrder κ]

theorem descending_cons (key : ρ → κ) (row : ρ) (rows : List ρ) :
    descending key (row :: rows) =
      (descending key rows).orderedInsert (fun left right => key right ≤ key left) row := rfl

theorem mem_descending {key : ρ → κ} {rows : List ρ} {row : ρ} :
    row ∈ descending key rows ↔ row ∈ rows :=
  List.mem_insertionSort _

theorem perm_descending (key : ρ → κ) (rows : List ρ) : (descending key rows).Perm rows :=
  List.perm_insertionSort _ rows

theorem pairwise_descending (key : ρ → κ) (rows : List ρ) :
    (descending key rows).Pairwise fun left right => key right ≤ key left := by
  have : Std.Total fun left right : ρ => key right ≤ key left :=
    ⟨fun left right => le_total (key right) (key left)⟩
  have : IsTrans ρ fun left right => key right ≤ key left :=
    ⟨fun _ _ _ h h' => le_trans h' h⟩
  exact List.pairwise_insertionSort _ rows

/-- The rows that a limit cuts off are no greater than those before it. -/
theorem le_of_mem_drop {key : ρ → κ} {rows : List ρ} {n : Nat} {kept cut : ρ}
    (hkept : kept ∈ (descending key rows).take n) (hcut : cut ∈ (descending key rows).drop n) :
    key cut ≤ key kept := by
  have hsorted := pairwise_descending key rows
  rw [← List.take_append_drop n (descending key rows)] at hsorted
  exact (List.pairwise_append.mp hsorted).2.2 kept hkept cut hcut

/-- The first of the greatest rows comes first, and the order of the others stays. -/
theorem descending_of_max {key : ρ → κ} {before behind : List ρ} {row : ρ}
    (hbefore : ∀ other ∈ before, key other < key row)
    (hbehind : ∀ other ∈ behind, key other ≤ key row) :
    descending key (before ++ row :: behind) = row :: descending key (before ++ behind) := by
  induction before with
  | nil =>
      rw [List.nil_append, List.nil_append, descending_cons]
      cases hrest : descending key behind with
      | nil => rfl
      | cons first rest =>
          have hfirst : first ∈ behind := mem_descending.mp (hrest ▸ List.mem_cons_self)
          rw [List.orderedInsert_cons, if_pos (hbehind first hfirst)]
  | cons first before ih =>
      have hlt := hbefore first List.mem_cons_self
      rw [List.cons_append, List.cons_append, descending_cons, descending_cons,
        ih fun other hother => hbefore other (List.mem_cons_of_mem _ hother),
        List.orderedInsert_cons, if_neg (not_le.mpr hlt)]

/-- A row is put into the rows that pass a test where it is put into all of them. -/
theorem filter_orderedInsert (key : ρ → κ) {test : ρ → Bool} {row : ρ} {rows : List ρ}
    (hsorted : rows.Pairwise fun left right => key right ≤ key left) :
    (rows.orderedInsert (fun left right => key right ≤ key left) row).filter test =
      if test row then
        (rows.filter test).orderedInsert (fun left right => key right ≤ key left) row
      else rows.filter test := by
  induction rows with
  | nil => cases hrow : test row <;> simp [hrow]
  | cons first rest ih =>
      obtain ⟨hfirst, hrest⟩ := List.pairwise_cons.mp hsorted
      have ih := ih hrest
      rw [List.orderedInsert_cons]
      by_cases hle : key first ≤ key row
      · rw [if_pos hle]
        cases htest : test row with
        | false => simp [htest]
        | true =>
            rw [List.filter_cons_of_pos htest, if_pos rfl]
            cases hkept : (first :: rest).filter test with
            | nil => rfl
            | cons other others =>
                have hother : other ∈ first :: rest :=
                  (List.mem_filter.mp (hkept ▸ List.mem_cons_self)).1
                rw [List.orderedInsert_cons, if_pos]
                exact (List.mem_cons.mp hother).elim (fun h => h ▸ hle)
                  fun h => (hfirst other h).trans hle
      · rw [if_neg hle]
        cases hkeep : test first with
        | false =>
            rw [List.filter_cons_of_neg (by simp [hkeep]),
              List.filter_cons_of_neg (by simp [hkeep])]
            exact ih
        | true =>
            rw [List.filter_cons_of_pos hkeep, List.filter_cons_of_pos hkeep, ih]
            split
            · rw [List.orderedInsert_cons, if_neg hle]
            · rfl

/-- The rows that pass a test have the same order on their own. -/
theorem filter_descending (key : ρ → κ) (test : ρ → Bool) (rows : List ρ) :
    (descending key rows).filter test = descending key (rows.filter test) := by
  induction rows with
  | nil => rfl
  | cons row rows ih =>
      rw [descending_cons, filter_orderedInsert key (pairwise_descending key rows), ih]
      cases htest : test row with
      | true => rw [if_pos rfl, List.filter_cons_of_pos htest, descending_cons]
      | false => rw [if_neg (by simp), List.filter_cons_of_neg (by simp [htest])]

/-- A row that is upserted with the greatest key of the order comes first, and the others
behind it in their order. -/
theorem descending_upsertOn {ι : Type} [BEq ι] [LawfulBEq ι] {id : ρ → ι} {key : ρ → κ}
    {change : ρ → ρ} {new : ρ} {rows : List ρ} (hid : (rows.map id).Nodup)
    (hchange : ∀ old, key (change old) = key new)
    (hnew : ∀ other ∈ rows, id other ≠ id new → key other < key new) :
    ∃ row, (row = new ∨ ∃ old ∈ rows, row = change old) ∧
      descending key (upsertOn id change new rows) =
        row :: (descending key rows).filter fun other => id other != id new := by
  obtain ⟨before, row, behind, hupsert, hothers, hrow⟩ :=
    upsertOn_split change new hid
  have hkey : key row = key new := by
    rcases hrow with rfl | ⟨old, -, rfl⟩
    · rfl
    · exact hchange old
  have hlt : ∀ other ∈ before ++ behind, key other < key row := by
    intro other hother
    rw [← hothers] at hother
    obtain ⟨hmem, hne⟩ := List.mem_filter.mp hother
    exact hkey ▸ hnew other hmem (bne_iff_ne.mp hne)
  refine ⟨row, hrow, ?_⟩
  rw [hupsert, filter_descending, hothers]
  exact descending_of_max (fun other h => hlt other (List.mem_append_left _ h))
    fun other h => (hlt other (List.mem_append_right _ h)).le

/-- The first row in descending order after one more is put in front. -/
theorem head?_descending_cons (key : ρ → κ) (row : ρ) (rows : List ρ) :
    (descending key (row :: rows)).head? =
      match (descending key rows).head? with
      | none => some row
      | some other => if key other ≤ key row then some row else some other := by
  rw [descending_cons]
  cases descending key rows with
  | nil => rfl
  | cons other rest =>
      rw [List.orderedInsert_cons]
      split <;> simp_all

/-- The first row in descending order is the first of those with the greatest key. -/
theorem head?_descending {key : ρ → κ} {rows : List ρ} {first : ρ} :
    (descending key rows).head? = some first ↔
      ∃ before behind, rows = before ++ first :: behind ∧ (∀ row ∈ before, key row < key first) ∧
        ∀ row ∈ behind, key row ≤ key first := by
  induction rows generalizing first with
  | nil => simp [descending]
  | cons row rows ih =>
      rw [head?_descending_cons]
      cases hrows : (descending key rows).head? with
      | none =>
          have hnil : rows = [] := by
            cases rows with
            | nil => rfl
            | cons row rows =>
                obtain ⟨other, hother, -⟩ := head_descending key (List.mem_cons_self (a := row))
                rw [hother] at hrows
                cases hrows
          subst hnil
          constructor
          · rintro ⟨⟩
            exact ⟨[], [], rfl, nofun, nofun⟩
          · rintro ⟨before, behind, hsplit, -⟩
            cases before with
            | nil => exact congrArg some (List.cons.inj hsplit).1
            | cons _ before => simp at hsplit
      | some other =>
          obtain ⟨before, behind, hsplit, hbefore, hbehind⟩ := ih.mp hrows
          have hall : ∀ r ∈ rows, key r ≤ key other := by
            intro r hr
            rw [hsplit] at hr
            rcases List.mem_append.mp hr with hr | hr
            · exact (hbefore r hr).le
            · exact (List.mem_cons.mp hr).elim (fun h => h ▸ le_refl _) (hbehind r)
          dsimp only
          constructor
          · intro h
            split at h
            · rename_i hle
              cases h
              exact ⟨[], rows, rfl, nofun, fun r hr => (hall r hr).trans hle⟩
            · rename_i hlt
              cases h
              refine ⟨row :: before, behind, by rw [hsplit]; rfl, ?_, hbehind⟩
              intro r hr
              exact (List.mem_cons.mp hr).elim (fun h => h ▸ not_le.mp hlt) (hbefore r)
          · rintro ⟨before', behind', hsplit', hbefore', hbehind'⟩
            cases before' with
            | nil =>
                obtain ⟨rfl, rfl⟩ := List.cons.inj hsplit'
                have hother : other ∈ rows := hsplit ▸ List.mem_append_right _ List.mem_cons_self
                exact if_pos (hbehind' other hother)
            | cons r before' =>
                obtain ⟨rfl, hrest⟩ := List.cons.inj hsplit'
                have hfirst : some other = some first :=
                  hrows.symm.trans (ih.mpr ⟨before', behind', hrest,
                    fun r hr => hbefore' r (List.mem_cons_of_mem _ hr), hbehind'⟩)
                cases hfirst
                exact if_neg (not_le.mpr (hbefore' row List.mem_cons_self))

/-- The first row in descending order among those that pass a test. -/
theorem head?_descending_filter {key : ρ → κ} {test : ρ → Bool} {rows : List ρ} {first : ρ} :
    (descending key (rows.filter test)).head? = some first ↔
      ∃ before behind, rows = before ++ first :: behind ∧ test first = true ∧
        (∀ row ∈ before, test row = true → key row < key first) ∧
          ∀ row ∈ behind, test row = true → key row ≤ key first := by
  rw [head?_descending]
  constructor
  · rintro ⟨before, behind, hsplit, hbefore, hbehind⟩
    obtain ⟨left, right, rfl, hleft, hright⟩ := List.filter_eq_append_iff.mp hsplit
    obtain ⟨skipped, right, rfl, hskipped, hfirst, hright⟩ := List.filter_eq_cons_iff.mp hright
    subst hleft hright
    refine ⟨left ++ skipped, right, by simp, hfirst, fun row hrow htest => ?_, fun row hrow htest =>
      hbehind row (List.mem_filter.mpr ⟨hrow, htest⟩)⟩
    rcases List.mem_append.mp hrow with hleft | hskip
    · exact hbefore row (List.mem_filter.mpr ⟨hleft, htest⟩)
    · exact absurd htest (hskipped row hskip)
  · rintro ⟨before, behind, rfl, hfirst, hbefore, hbehind⟩
    refine ⟨before.filter test, behind.filter test, ?_, fun row hrow => ?_, fun row hrow => ?_⟩
    · rw [List.filter_append, List.filter_cons_of_pos hfirst]
    · exact hbefore row (List.mem_filter.mp hrow).1 (List.mem_filter.mp hrow).2
    · exact hbehind row (List.mem_filter.mp hrow).1 (List.mem_filter.mp hrow).2

end

/-! ## Passes over rows -/

/-- A composition that returns has gone through its first part. -/
theorem ok_of_bind {α β ε : Type} {r : Except ε α} {f : α → Except ε β} {b : β}
    (h : r >>= f = .ok b) : ∃ a, r = .ok a ∧ f a = .ok b := by
  cases r with
  | error e => cases h
  | ok a => exact ⟨a, rfl, h⟩

/-- The first item of a successful pass over a list, and the rest. -/
theorem mapM_cons_ok {α β ε : Type} {f : α → Except ε β} {a : α} {as : List α} {bs : List β}
    (h : (a :: as).mapM f = .ok bs) :
    ∃ first rest, f a = .ok first ∧ as.mapM f = .ok rest ∧ bs = first :: rest := by
  rw [List.mapM_cons] at h
  obtain ⟨first, hfirst, h⟩ := ok_of_bind h
  obtain ⟨rest, hrest, h⟩ := ok_of_bind h
  cases h
  exact ⟨first, rest, hfirst, hrest, rfl⟩

/-- Each result of a successful pass over a list is that of an item. -/
theorem mem_of_mapM_ok {α β ε : Type} {f : α → Except ε β} {as : List α} {bs : List β}
    (h : as.mapM f = .ok bs) {b : β} (hb : b ∈ bs) : ∃ a ∈ as, f a = .ok b := by
  induction as generalizing bs with
  | nil =>
      cases h
      exact absurd hb List.not_mem_nil
  | cons a as ih =>
      obtain ⟨first, rest, hfirst, hrest, rfl⟩ := mapM_cons_ok h
      rcases List.mem_cons.mp hb with rfl | hlater
      · exact ⟨a, List.mem_cons_self, hfirst⟩
      · obtain ⟨other, hother, hf⟩ := ih hrest hlater
        exact ⟨other, List.mem_cons_of_mem _ hother, hf⟩

/-- Each item of a successful pass over a list has a result. -/
theorem exists_of_mapM_ok {α β ε : Type} {f : α → Except ε β} {as : List α} {bs : List β}
    (h : as.mapM f = .ok bs) {a : α} (ha : a ∈ as) : ∃ b ∈ bs, f a = .ok b := by
  induction as generalizing bs with
  | nil => exact absurd ha List.not_mem_nil
  | cons first as ih =>
      obtain ⟨b, rest, hb, hrest, rfl⟩ := mapM_cons_ok h
      rcases List.mem_cons.mp ha with rfl | hlater
      · exact ⟨b, List.mem_cons_self, hb⟩
      · obtain ⟨other, hother, hf⟩ := ih hrest hlater
        exact ⟨other, List.mem_cons_of_mem _ hother, hf⟩

/-- The keys of the results, when each has that of its item. -/
theorem map_of_mapM_ok {α β ε κ : Type} {f : α → Except ε β} {key : α → κ} {key' : β → κ}
    (hkey : ∀ a b, f a = .ok b → key' b = key a) {as : List α} {bs : List β}
    (h : as.mapM f = .ok bs) : bs.map key' = as.map key := by
  induction as generalizing bs with
  | nil =>
      cases h
      rfl
  | cons a as ih =>
      obtain ⟨first, rest, hfirst, hrest, rfl⟩ := mapM_cons_ok h
      rw [List.map_cons, List.map_cons, hkey a first hfirst, ih hrest]

/-- A traversal of elements that all have a value succeeds. -/
theorem mapM_ok_of_forall {α β ε : Type} {f : α → Except ε β} {as : List α}
    (h : ∀ a ∈ as, ∃ b, f a = .ok b) : ∃ bs, as.mapM f = .ok bs := by
  induction as with
  | nil => exact ⟨[], rfl⟩
  | cons a as ih =>
      obtain ⟨b, hb⟩ := h a List.mem_cons_self
      obtain ⟨bs, hbs⟩ := ih fun other hother => h other (List.mem_cons_of_mem _ hother)
      exact ⟨b :: bs, by rw [List.mapM_cons, hb, hbs]; rfl⟩

/-- What a traversal that succeeds returns is all that there is. -/
theorem filterMap_of_mapM_ok {α β ε : Type} {f : α → Except ε β} {as : List α} {bs : List β}
    (h : as.mapM f = .ok bs) : (as.filterMap fun a => (f a).toOption) = bs := by
  induction as generalizing bs with
  | nil =>
      cases h
      rfl
  | cons a as ih =>
      obtain ⟨first, rest, hfirst, hrest, rfl⟩ := mapM_cons_ok h
      rw [List.filterMap_cons, hfirst, ih hrest]
      rfl

/-- A traversal that has a value for every element. -/
theorem map_of_mapM_some {α β : Type} {f : α → Option β} {as : List α} {bs : List β}
    (h : as.mapM f = some bs) : as.map f = bs.map some := by
  induction as generalizing bs with
  | nil =>
      cases h
      rfl
  | cons a as ih =>
      rw [List.mapM_cons] at h
      obtain ⟨first, hfirst, h⟩ := Option.bind_eq_some_iff.mp h
      obtain ⟨rest, hrest, h⟩ := Option.bind_eq_some_iff.mp h
      cases h
      rw [List.map_cons, List.map_cons, hfirst, ih hrest]

end Lib.Table
