import OpenPinch.Lib.Table

/-!
# Tables over time

What became of the rows of a table, in the columns that `key` reads.  A table that
`Extends` another one starts with what its rows showed: an update of other
columns, an insertion and an upsert do no more to it.  One that `Renews` another
may have lost rows: those that are left come first, in their order.

Distinct keys stay distinct under all these statements.
-/

namespace Lib.Table

universe u v

variable {ρ : Type u} {κ : Type v}

/-- The columns of the first table are those of the first rows of the second. -/
def Extends (key : ρ → κ) (rows rows' : List ρ) : Prop := rows.map key <+: rows'.map key

namespace Extends

variable {key : ρ → κ} {rows rows' rows'' : List ρ}

theorem refl (key : ρ → κ) (rows : List ρ) : Extends key rows rows := List.prefix_refl _

theorem trans (h : Extends key rows rows') (h' : Extends key rows' rows'') :
    Extends key rows rows'' :=
  List.IsPrefix.trans h h'

theorem append (key : ρ → κ) (rows more : List ρ) : Extends key rows (rows ++ more) := by
  rw [Extends, List.map_append]
  exact List.prefix_append _ _

/-- An update of other columns. -/
theorem updateWhere {test : ρ → Bool} {change : ρ → ρ}
    (h : ∀ row, test row = true → key (change row) = key row) (rows : List ρ) :
    Extends key rows (updateWhere test change rows) :=
  ⟨[], by rw [List.append_nil, map_updateWhere_of_test h]⟩

theorem insert {clash : ρ → Bool} {row : ρ} (h : insert clash row rows = some rows') :
    Extends key rows rows' := by
  obtain ⟨-, rfl⟩ := insert_eq_some.mp h
  exact append key rows [row]

theorem upsert {clash target : ρ → Bool} {change : ρ → ρ} {row : ρ}
    (hchange : ∀ old, key (change old) = key old)
    (h : upsert clash target change row rows = some rows') : Extends key rows rows' := by
  rcases upsert_eq_some.mp h with ⟨-, rfl⟩ | ⟨-, -, rfl⟩
  · exact updateWhere (fun old _ => hchange old) rows
  · exact append key rows [row]

theorem upsertOn {ν : Type} [BEq ν] {name : ρ → ν} {change : ρ → ρ} {row : ρ}
    (hchange : ∀ old, (name old == name row) = true → key (change old) = key old) (rows : List ρ) :
    Extends key rows (upsertOn name change row rows) := by
  unfold Table.upsertOn
  split
  · exact updateWhere hchange rows
  · exact append key rows [row]

end Extends

/-- The columns of the second table are some of those of the first, in their order,
and then new ones. -/
def Renews (key : ρ → κ) (rows rows' : List ρ) : Prop :=
  ∃ left more, left.Sublist (rows.map key) ∧ rows'.map key = left ++ more

theorem Extends.renews {key : ρ → κ} {rows rows' : List ρ} (h : Extends key rows rows') :
    Renews key rows rows' := by
  obtain ⟨more, hmore⟩ := h
  exact ⟨rows.map key, more, List.Sublist.refl _, hmore.symm⟩

namespace Renews

variable {key : ρ → κ} {rows rows' rows'' : List ρ}

theorem refl (key : ρ → κ) (rows : List ρ) : Renews key rows rows := (Extends.refl key rows).renews

theorem trans (h : Renews key rows rows') (h' : Renews key rows' rows'') :
    Renews key rows rows'' := by
  obtain ⟨left, more, hleft, hrows'⟩ := h
  obtain ⟨left', more', hleft', hrows''⟩ := h'
  rw [hrows'] at hleft'
  obtain ⟨old, new, rfl, hold, -⟩ := List.sublist_append_iff.mp hleft'
  exact ⟨old, new ++ more', hold.trans hleft, by rw [hrows'', List.append_assoc]⟩

theorem deleteWhere (test : ρ → Bool) (rows : List ρ) :
    Renews key rows (deleteWhere test rows) :=
  ⟨(Table.deleteWhere test rows).map key, [], List.filter_sublist.map key,
    (List.append_nil _).symm⟩

end Renews

/-! ## Distinct keys -/

section

variable {key : ρ → κ} {rows rows' : List ρ}

theorem nodup_append_singleton {row : ρ} (h : (rows.map key).Nodup)
    (hnew : ∀ other ∈ rows, key other ≠ key row) : ((rows ++ [row]).map key).Nodup := by
  rw [List.map_append, List.map_singleton]
  refine h.append (List.nodup_singleton _) fun k hk hrow => ?_
  obtain ⟨other, hother, rfl⟩ := List.mem_map.mp hk
  exact hnew other hother (List.mem_singleton.mp hrow)

/-- An update of other columns keeps keys apart. -/
theorem nodup_updateWhere {test : ρ → Bool} {change : ρ → ρ} (h : (rows.map key).Nodup)
    (hchange : ∀ row, key (change row) = key row) :
    ((updateWhere test change rows).map key).Nodup := by
  rwa [map_updateWhere hchange]

/-- An insertion whose conflicts are those of the key keeps keys apart. -/
theorem nodup_insert {clash : ρ → Bool} {row : ρ} (h : (rows.map key).Nodup)
    (hclash : ∀ other, key other = key row → clash other = true)
    (hinsert : insert clash row rows = some rows') : (rows'.map key).Nodup := by
  obtain ⟨hfree, rfl⟩ := insert_eq_some.mp hinsert
  refine nodup_append_singleton h fun other hother hsame => ?_
  have hfound := hfree other hother
  rw [hclash other hsame] at hfound
  cases hfound

/-- So does an upsert for which a row with the key of the new one is in conflict
with it or its target. -/
theorem nodup_upsert {clash target : ρ → Bool} {change : ρ → ρ} {row : ρ}
    (h : (rows.map key).Nodup) (hchange : ∀ old, key (change old) = key old)
    (hclash : ∀ other, key other = key row → (target other || clash other) = true)
    (hupsert : upsert clash target change row rows = some rows') : (rows'.map key).Nodup := by
  rcases upsert_eq_some.mp hupsert with ⟨-, rfl⟩ | ⟨htarget, hfree, rfl⟩
  · exact nodup_updateWhere h hchange
  · refine nodup_append_singleton h fun other hother hsame => ?_
    have hnone := List.any_eq_false.mp htarget other hother
    have hfound := List.any_eq_false.mp hfree other hother
    rcases Bool.or_eq_true _ _ ▸ hclash other hsame with hfirst | hsecond
    · exact hnone hfirst
    · exact hfound hsecond

end

end Lib.Table
