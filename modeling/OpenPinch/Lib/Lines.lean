import Mathlib.Data.List.Infix
import Mathlib.Tactic.Common

/-!
# Lines of a growing text

A text is read as its complete lines and the rest behind the last separator.
What is appended to it goes to the rest first, so that all lines but the last
stay as they are.
-/

namespace Lib.Lines

variable {α : Type} [DecidableEq α] {sep : α}

/-- The lines that a separator ends. -/
def complete (sep : α) (text : List α) : List (List α) := (text.splitOn sep).dropLast

/-- What follows the last separator. -/
def rest (sep : α) (text : List α) : List α :=
  (text.splitOn sep).getLast (List.splitOn_ne_nil sep text)

theorem splitOn_eq (sep : α) (text : List α) :
    text.splitOn sep = complete sep text ++ [rest sep text] :=
  (List.dropLast_append_getLast _).symm

/-- The parts are determined by all but the last and the last. -/
theorem parts_of_splitOn {text : List α} {front : List (List α)} {last : List α}
    (h : text.splitOn sep = front ++ [last]) :
    complete sep text = front ∧ rest sep text = last := by
  unfold complete rest
  simp only [h]
  exact ⟨List.dropLast_concat, List.getLast_append_singleton front⟩

theorem splitOn_append (sep : α) (text more : List α) :
    (text ++ more).splitOn sep = complete sep text ++ (rest sep text ++ more).splitOn sep := by
  induction text with
  | nil => simp [complete, rest]
  | cons a behind ih =>
      have hbehind := splitOn_eq sep behind
      by_cases ha : a = sep
      · subst ha
        have hcons : (a :: behind).splitOn a = ([] :: complete a behind) ++ [rest a behind] := by
          simp [List.splitOn_cons_eq_if_modifyHead, hbehind]
        obtain ⟨hcomplete, hrest⟩ := parts_of_splitOn hcons
        rw [hcomplete, hrest, List.cons_append, List.splitOn_cons_eq_if_modifyHead,
          if_pos (by simp), ih, List.cons_append]
      · rw [List.cons_append, List.splitOn_cons_eq_if_modifyHead, if_neg (by simpa using ha), ih]
        cases hparts : complete sep behind with
        | nil =>
            rw [hparts] at hbehind
            have hcons : (a :: behind).splitOn sep = [] ++ [a :: rest sep behind] := by
              simp [List.splitOn_cons_eq_if_modifyHead, hbehind, ha]
            obtain ⟨hcomplete, hrest⟩ := parts_of_splitOn hcons
            rw [hcomplete, hrest, List.nil_append, List.nil_append, List.cons_append,
              List.splitOn_cons_eq_if_modifyHead, if_neg (by simpa using ha)]
        | cons first others =>
            rw [hparts] at hbehind
            have hcons : (a :: behind).splitOn sep =
                ((a :: first) :: others) ++ [rest sep behind] := by
              simp [List.splitOn_cons_eq_if_modifyHead, hbehind, ha]
            obtain ⟨hcomplete, hrest⟩ := parts_of_splitOn hcons
            rw [hcomplete, hrest]
            rfl

theorem complete_append (sep : α) (text more : List α) :
    complete sep (text ++ more) = complete sep text ++ complete sep (rest sep text ++ more) := by
  have hsplit := splitOn_append sep text more
  rw [splitOn_eq sep (rest sep text ++ more), ← List.append_assoc] at hsplit
  exact (parts_of_splitOn hsplit).1

theorem rest_append (sep : α) (text more : List α) :
    rest sep (text ++ more) = rest sep (rest sep text ++ more) := by
  have hsplit := splitOn_append sep text more
  rw [splitOn_eq sep (rest sep text ++ more), ← List.append_assoc] at hsplit
  exact (parts_of_splitOn hsplit).2

/-- The lines of a text: the complete ones, and a last one that is not empty. -/
def lines (sep : α) (ended cut : List α → List α) (text : List α) : List (List α) :=
  (complete sep text).map ended ++ if rest sep text = [] then [] else [cut (rest sep text)]

variable {ended cut : List α → List α}

/-- Appending changes no line but the last. -/
theorem dropLast_lines_prefix (text more : List α) :
    (lines sep ended cut text).dropLast <+: lines sep ended cut (text ++ more) := by
  have hkept : (complete sep text).map ended <+: lines sep ended cut (text ++ more) := by
    unfold lines
    rw [complete_append, List.map_append, List.append_assoc]
    exact List.prefix_append _ _
  by_cases hrest : rest sep text = []
  · rw [lines, if_pos hrest, List.append_nil]
    exact (List.dropLast_prefix _).trans hkept
  · rw [lines, if_neg hrest, List.dropLast_concat]
    exact hkept

/-- What is appended behind a separator has lines of its own. -/
theorem lines_append {text : List α} (hrest : rest sep text = []) (more : List α) :
    lines sep ended cut (text ++ more) = lines sep ended cut text ++ lines sep ended cut more := by
  unfold lines
  rw [complete_append, rest_append, hrest, if_pos rfl, List.nil_append, List.map_append,
    List.append_nil, List.append_assoc]

/-- Appending does not take a line away. -/
theorem length_lines_le (text more : List α) :
    (lines sep ended cut text).length ≤ (lines sep ended cut (text ++ more)).length := by
  by_cases hrest : rest sep text = []
  · rw [lines_append hrest, List.length_append]
    exact Nat.le_add_right _ _
  · have hsome : complete sep (rest sep text ++ more) ≠ [] ∨ rest sep (text ++ more) ≠ [] := by
      by_contra hnone
      obtain ⟨hcomplete, hlast⟩ := not_or.mp hnone
      have hsplit := splitOn_eq sep (rest sep text ++ more)
      rw [not_not.mp hcomplete, ← rest_append, not_not.mp hlast] at hsplit
      have hjoin : [sep].intercalate ((rest sep text ++ more).splitOn sep) =
          rest sep text ++ more :=
        List.intercalate_splitOn sep
      rw [hsplit] at hjoin
      simp [hrest] at hjoin
    have hlen : 0 < (complete sep (rest sep text ++ more)).length ∨ rest sep (text ++ more) ≠ [] :=
      hsome.imp List.length_pos_of_ne_nil id
    unfold lines
    rw [complete_append, if_neg hrest]
    simp only [List.length_append, List.length_map, List.length_singleton]
    split
    · rename_i hnone
      have hpos := hlen.resolve_right (not_not.mpr hnone)
      omega
    · simp

/-! ## Followers -/

section

variable {β : Type} {before after : List β} {d : Nat}

/-- A list whose last part only grows is extended, where all before its last element is
fixed. -/
theorem prefix_of_drop_prefix (hfixed : before.dropLast <+: after)
    (hd : before = [] ∨ d < before.length) (h : before.drop d <+: after.drop d) :
    before <+: after := by
  rcases hd with rfl | hd
  · exact List.nil_prefix
  · have htake : before.take d = after.take d := by
      obtain ⟨behind, rfl⟩ := hfixed
      have hlen : d ≤ before.dropLast.length := by
        rw [List.length_dropLast]
        omega
      rw [List.take_append_of_le_length hlen, List.dropLast_eq_take, List.take_take,
        Nat.min_eq_left (by omega)]
    rw [← List.take_append_drop d before, ← List.take_append_drop d after, htake]
    exact (List.prefix_append_right_inj _).mpr h

/-- The end of a list, continued by a later end of a list that keeps all before its last
element: it is the end of the longer list exactly when this list extends the first one and
is continued where the first one ends. -/
theorem drop_append_drop_iff {e : Nat} (hfixed : before.dropLast <+: after)
    (hd : before = [] ∧ d = 0 ∨ d < before.length) (he : e ≤ after.length) :
    before.drop d ++ after.drop e = after.drop d ↔ before <+: after ∧ e = before.length := by
  have hlen := hfixed.length_le
  rw [List.length_dropLast] at hlen
  constructor
  · intro h
    have hextends : before <+: after := by
      refine prefix_of_drop_prefix hfixed (hd.imp And.left id) ?_
      rw [← h]
      exact List.prefix_append _ _
    have hlens := congrArg List.length h
    simp only [List.length_append, List.length_drop] at hlens
    rcases hd with ⟨rfl, rfl⟩ | hd
    · exact ⟨hextends, by simp at hlens ⊢; omega⟩
    · exact ⟨hextends, by omega⟩
  · rintro ⟨⟨extra, rfl⟩, rfl⟩
    have hd' : d ≤ before.length := by
      rcases hd with ⟨-, rfl⟩ | hd
      · exact Nat.zero_le _
      · exact Nat.le_of_lt hd
    rw [List.drop_left, List.drop_append_of_le_length hd']

/-- The last `n` elements, or none too many. -/
def last (n : Nat) (list : List β) : List β := list.drop (list.length - n)

@[simp] theorem length_last (n : Nat) (list : List β) :
    (last n list).length = min n list.length := by
  unfold last
  rw [List.length_drop]
  omega

/-- What holds of all starts of a longer list. -/
theorem forall_prefix_concat {P : List β → Prop} {list : List β} {a : β} :
    (∀ done, done <+: list ++ [a] → P done) ↔
      (∀ done, done <+: list → P done) ∧ P (list ++ [a]) := by
  constructor
  · intro h
    exact ⟨fun done hdone => h done (hdone.trans (List.prefix_append _ _)),
      h _ (List.prefix_refl _)⟩
  · rintro ⟨hbefore, hlast⟩ done hdone
    rcases List.prefix_concat_iff.mp hdone with rfl | hdone
    · exact hlast
    · exact hbefore done hdone

/-- What holds of all steps through a longer list. -/
theorem forall_step_concat {P : List β → β → Prop} {list : List β} {a : β} :
    (∀ done b, done ++ [b] <+: list ++ [a] → P done b) ↔
      (∀ done b, done ++ [b] <+: list → P done b) ∧ P list a := by
  constructor
  · intro h
    exact ⟨fun done b hdone => h done b (hdone.trans (List.prefix_append _ _)),
      h list a (List.prefix_refl _)⟩
  · rintro ⟨hbefore, hlast⟩ done b hdone
    rcases List.prefix_concat_iff.mp hdone with hsame | hdone
    · obtain ⟨rfl, hb⟩ := List.append_inj' hsame rfl
      cases hb
      exact hlast
    · exact hbefore done b hdone

/-- One more element, and without the first one when there are more than `n`. -/
def pushLast (n : Nat) (kept : List β) (a : β) : List β :=
  if n < (kept ++ [a]).length then (kept ++ [a]).tail else kept ++ [a]

/-- Pushing the elements one by one keeps the last ones. -/
theorem foldl_pushLast (n : Nat) (list : List β) : list.foldl (pushLast n) [] = last n list := by
  induction list using List.reverseRecOn with
  | nil => simp [last]
  | append_singleton list a ih =>
      rw [List.foldl_append, ih, List.foldl_cons, List.foldl_nil, pushLast]
      simp only [List.length_append, List.length_singleton, length_last]
      by_cases hfull : n ≤ list.length
      · rw [if_pos (by omega)]
        unfold last
        rw [List.length_append, List.length_singleton, ← List.drop_one]
        by_cases hnone : n = 0
        · subst hnone
          simp
        · rw [List.drop_append_of_le_length (by rw [List.length_drop]; omega), List.drop_drop,
            List.drop_append_of_le_length (by omega)]
          congr 2
          omega
      · rw [if_neg (by omega)]
        unfold last
        rw [List.length_append, List.length_singleton, show list.length - n = 0 by omega,
          show list.length + 1 - n = 0 by omega]
        rfl

end

end Lib.Lines
