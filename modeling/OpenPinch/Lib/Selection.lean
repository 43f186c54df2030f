import Mathlib.Data.Finset.Card
import Mathlib.Data.List.TakeWhile
import Mathlib.Tactic.Common

/-!
# Bounded selections

A selection is a list that is filled up to a limit.  `insertNew` adds an element
unless one with its key is there or the selection is full.  The lemmas read the
loops that fill a selection as list functions, and say which elements of a list
enter one.
-/

namespace Lib

namespace Selection

variable {α β ι κ : Type}

/-! ## Loops -/

/-- What is found under a key is added when it passes the test and fewer than the
limit were added. -/
def within (limit : Nat) (find : κ → Option α) (test : α → Bool) (size : β → Nat)
    (add : β → α → β) (b : β) (key : κ) : β :=
  match find key with
  | some a => if size b < limit && test a then add b a else b
  | none => b

/-- What passes a test on a part of the state is added. -/
def wherever (view : β → ι) (test : ι → α → Bool) (add : β → α → β) (b : β) (a : α) : β :=
  if test (view b) a then add b a else b

section

variable {limit : Nat} {find : κ → Option α}

/-- A loop with a limit adds the first that are found and pass the test. -/
theorem foldl_within (size : β → Nat) (add : β → α → β)
    (hsize : ∀ b a, size (add b a) = size b + 1) (test : α → Bool) (keys : List κ) (b : β) :
    keys.foldl (within limit find test size add) b =
      (((keys.filterMap find).filter test).take (limit - size b)).foldl add b := by
  induction keys generalizing b with
  | nil => simp
  | cons key keys ih =>
      rw [List.foldl_cons, ih]
      cases hfind : find key with
      | none => simp [within, hfind]
      | some a =>
          cases htest : test a with
          | false => simp [within, hfind, htest]
          | true =>
              by_cases hroom : size b < limit
              · have hone : limit - size b = (limit - (size b + 1)) + 1 := by omega
                rw [hone]
                simp [within, hfind, htest, hroom, hsize]
              · have hfull : limit - size b = 0 := by omega
                simp [within, hfind, hroom, hfull]

/-- The part of the state that the loop keeps decides for all elements. -/
theorem foldl_wherever (view : β → ι) (add : β → α → β)
    (hview : ∀ b a, view (add b a) = view b) (test : ι → α → Bool) (as : List α) (b : β) :
    as.foldl (wherever view test add) b = (as.filter (test (view b))).foldl add b := by
  induction as generalizing b with
  | nil => rfl
  | cons a as ih =>
      rw [List.foldl_cons, ih]
      cases htest : test (view b) a with
      | true => simp [wherever, htest, hview]
      | false => simp [wherever, htest]

end

/-! ## Elements with keys -/

variable {key : α → κ} {limit : Nat}

/-- What is found under keys has those of the keys under which there is something. -/
theorem map_filterMap_find {find : κ → Option α} (h : ∀ k a, find k = some a → key a = k)
    (keys : List κ) : (keys.filterMap find).map key = keys.filter fun k => (find k).isSome := by
  induction keys with
  | nil => rfl
  | cons k keys ih =>
      cases hfind : find k with
      | none => simp [hfind, ih]
      | some a => simp [hfind, ih, h k a hfind]

/-- What is found under different keys has different keys. -/
theorem nodup_filterMap_find {find : κ → Option α} (h : ∀ k a, find k = some a → key a = k)
    {keys : List κ} (hkeys : keys.Nodup) : ((keys.filterMap find).map key).Nodup := by
  rw [map_filterMap_find h]
  exact hkeys.filter _

variable [DecidableEq κ]

/-- An element is added unless one with its key is there or there are enough. -/
def insertNew (key : α → κ) (limit : Nat) (found : List α) (a : α) : List α :=
  if !found.any (key · == key a) && found.length < limit then found ++ [a] else found

theorem insertNew_of_mem {found : List α} {a : α} (h : key a ∈ found.map key) :
    insertNew key limit found a = found := by
  obtain ⟨other, hother, hkey⟩ := List.mem_map.mp h
  have hany : found.any (key · == key a) = true :=
    List.any_eq_true.mpr ⟨other, hother, beq_iff_eq.mpr hkey⟩
  simp [insertNew, hany]

theorem insertNew_of_full {found : List α} (h : limit ≤ found.length) (a : α) :
    insertNew key limit found a = found := by
  simp [insertNew, Nat.not_lt.mpr h]

theorem insertNew_of_room {found : List α} {a : α} (hnew : key a ∉ found.map key)
    (hroom : found.length < limit) : insertNew key limit found a = found ++ [a] := by
  have hany : found.any (key · == key a) = false := by
    simpa using hnew
  simp [insertNew, hany, hroom]

/-- What is there stays. -/
theorem prefix_insertNew (found : List α) (a : α) : found <+: insertNew key limit found a := by
  unfold insertNew
  split
  · exact List.prefix_append found [a]
  · exact List.prefix_refl found

theorem prefix_foldl_insertNew (as found : List α) :
    found <+: as.foldl (insertNew key limit) found := by
  induction as generalizing found with
  | nil => exact List.prefix_refl found
  | cons a as ih => exact (prefix_insertNew found a).trans (ih _)

/-- What is added is one of the elements. -/
theorem mem_of_mem_foldl_insertNew {as found : List α} {a : α}
    (h : a ∈ as.foldl (insertNew key limit) found) : a ∈ found ∨ a ∈ as := by
  induction as generalizing found with
  | nil => exact Or.inl h
  | cons first as ih =>
      rcases ih h with hfound | hlater
      · unfold insertNew at hfound
        split at hfound
        · rcases List.mem_append.mp hfound with hbefore | hfirst
          · exact Or.inl hbefore
          · exact Or.inr (List.mem_cons.mpr (Or.inl (List.mem_singleton.mp hfirst)))
        · exact Or.inl hfound
      · exact Or.inr (List.mem_cons_of_mem first hlater)

theorem foldl_insertNew_of_full {found : List α} (h : limit ≤ found.length) (as : List α) :
    as.foldl (insertNew key limit) found = found := by
  induction as with
  | nil => rfl
  | cons a as ih => rw [List.foldl_cons, insertNew_of_full h, ih]

/-- No key is added twice. -/
theorem nodup_foldl_insertNew {found : List α} (h : (found.map key).Nodup) (as : List α) :
    ((as.foldl (insertNew key limit) found).map key).Nodup := by
  induction as generalizing found with
  | nil => exact h
  | cons a as ih =>
      refine ih ?_
      unfold insertNew
      split
      · rename_i hnew
        rw [List.map_append, List.map_singleton]
        refine h.append (List.nodup_singleton _) fun k hk hlast => ?_
        obtain ⟨other, hother, rfl⟩ := List.mem_map.mp hk
        have hany : found.any (key · == key a) = true :=
          List.any_eq_true.mpr ⟨other, hother, beq_iff_eq.mpr (List.mem_singleton.mp hlast)⟩
        simp [hany] at hnew
      · exact h

/-- A selection grows by the new keys, up to the limit. -/
theorem length_foldl_insertNew {found : List α} (h : found.length ≤ limit) (as : List α) :
    (as.foldl (insertNew key limit) found).length =
      min limit (found.length + ((as.map key).toFinset \ (found.map key).toFinset).card) := by
  induction as generalizing found with
  | nil => simp [h]
  | cons a as ih =>
      rw [List.foldl_cons, List.map_cons, List.toFinset_cons]
      by_cases hmem : key a ∈ found.map key
      · rw [insertNew_of_mem hmem, ih h, Finset.insert_sdiff_of_mem _ (List.mem_toFinset.mpr hmem)]
      rcases Nat.lt_or_eq_of_le h with hroom | hfull
      · have hlength : (found ++ [a]).length = found.length + 1 := by simp
        have hkeys : ((found ++ [a]).map key).toFinset =
            insert (key a) (found.map key).toFinset := by
          ext k
          simp
        have hrest : insert (key a) (as.map key).toFinset \ (found.map key).toFinset =
            insert (key a) ((as.map key).toFinset \ insert (key a) (found.map key).toFinset) := by
          ext k
          simp only [Finset.mem_sdiff, Finset.mem_insert, List.mem_toFinset]
          by_cases hk : k = key a
          · simp [hk, hmem]
          · simp [hk]
        rw [insertNew_of_room hmem hroom, ih (by omega), hlength, hkeys, hrest,
          Finset.card_insert_of_notMem (by simp)]
        omega
      · rw [insertNew_of_full hfull.ge, foldl_insertNew_of_full hfull.ge]
        omega

/-- All candidates pass the test, or the first that pass fill the selection. -/
def Passes (key : α → κ) (limit : Nat) (test : α → Bool) (found as : List α) : Prop :=
  (∀ a ∈ as, test a = true) ∨ limit ≤ found.length +
    (((as.takeWhile test).map key).toFinset \ (found.map key).toFinset).card

instance (key : α → κ) (limit : Nat) (test : α → Bool) (found as : List α) :
    Decidable (Passes key limit test found as) :=
  inferInstanceAs (Decidable (_ ∨ _))

/-- With one element for each key, the whole selection passes a test exactly when
the candidates pass it as far as they count. -/
theorem forall_foldl_insertNew {found as : List α} (find : κ → Option α) (test : α → Bool)
    (hlength : found.length ≤ limit) (hfound : ∀ a ∈ found, find (key a) = some a)
    (htest : ∀ a ∈ found, test a = true) (has : ∀ a ∈ as, find (key a) = some a) :
    (∀ a ∈ as.foldl (insertNew key limit) found, test a = true) ↔
      Passes key limit test found as := by
  have hsplit : as = as.takeWhile test ++ as.dropWhile test := List.takeWhile_append_dropWhile.symm
  have hbefore : ∀ a ∈ (as.takeWhile test).foldl (insertNew key limit) found,
      test a = true ∧ find (key a) = some a := by
    intro a ha
    rcases mem_of_mem_foldl_insertNew ha with hold | hnew
    · exact ⟨htest a hold, hfound a hold⟩
    · exact ⟨List.mem_takeWhile_imp hnew, has a ((List.takeWhile_prefix test).subset hnew)⟩
  have hcount : ((as.takeWhile test).foldl (insertNew key limit) found).length =
      min limit (found.length +
        (((as.takeWhile test).map key).toFinset \ (found.map key).toFinset).card) :=
    length_foldl_insertNew hlength (as.takeWhile test)
  constructor
  · intro hall
    cases hdrop : as.dropWhile test with
    | nil =>
        rw [hdrop, List.append_nil] at hsplit
        exact Or.inl (List.takeWhile_eq_self_iff.mp hsplit.symm)
    | cons first rest =>
        have hfirst : test first = false := by
          have hhead : as.dropWhile test ≠ [] := by simp [hdrop]
          simpa [hdrop] using List.head_dropWhile_not test hhead
        refine Or.inr (Nat.le_of_not_lt fun hroom => ?_)
        rw [hsplit, hdrop, List.foldl_append, List.foldl_cons] at hall
        by_cases hmem :
            key first ∈ ((as.takeWhile test).foldl (insertNew key limit) found).map key
        · -- the element with that key would be the first one without the property
          obtain ⟨other, hother, hkey⟩ := List.mem_map.mp hmem
          obtain ⟨hpass, hat⟩ := hbefore other hother
          have hat' : find (key first) = some first :=
            has first (hsplit ▸ hdrop ▸ List.mem_append_right _ List.mem_cons_self)
          rw [hkey, hat'] at hat
          rw [← Option.some.inj hat, hfirst] at hpass
          cases hpass
        · rw [insertNew_of_room hmem (by omega)] at hall
          have hin := hall first ((prefix_foldl_insertNew rest _).subset
            (List.mem_append_right _ (List.mem_singleton_self first)))
          rw [hfirst] at hin
          cases hin
  · rintro (hall | hfull) a ha
    · exact (mem_of_mem_foldl_insertNew ha).elim (htest a) (hall a)
    · rw [hsplit, List.foldl_append, foldl_insertNew_of_full (by omega)] at ha
      exact (hbefore a ha).1

/-! ## Windows -/

/-- What passes the test, in order, up to the limit. -/
def firstOf (test : α → Bool) (limit : Nat) (as : List α) : List α := (as.filter test).take limit

/-- A window finds the first that pass the test exactly when enough of them are in it or none is
behind it. -/
theorem firstOf_take_eq_iff {test : α → Bool} {limit window : Nat} {as : List α} :
    firstOf test limit (as.take window) = firstOf test limit as ↔
      limit ≤ (as.take window).countP test ∨ ∀ a ∈ as.drop window, test a = false := by
  have hsplit : as.filter test = (as.take window).filter test ++ (as.drop window).filter test := by
    rw [← List.filter_append, List.take_append_drop]
  rw [firstOf, firstOf, hsplit, List.take_append, List.self_eq_append_right, List.take_eq_nil_iff,
    List.countP_eq_length_filter, Nat.sub_eq_zero_iff_le]
  simp only [List.filter_eq_nil_iff, Bool.not_eq_true]

/-- The first of a list in descending order are all above a bound exactly when so many of
the list are. -/
theorem forall_take_iff_countP {κ : Type} [LinearOrder κ] {key : α → κ} {as : List α} {n : Nat}
    {bound : κ} (hsorted : as.Pairwise fun left right => key right ≤ key left)
    (hlength : n ≤ as.length) :
    (∀ a ∈ as.take n, bound ≤ key a) ↔ n ≤ as.countP fun a => bound ≤ key a := by
  have htaken : (as.take n).length = n := List.length_take_of_le hlength
  have hcount : as.countP (fun a => bound ≤ key a) =
      (as.take n).countP (fun a => bound ≤ key a) + (as.drop n).countP fun a => bound ≤ key a := by
    rw [← List.countP_append, List.take_append_drop]
  constructor
  · intro hall
    have hfull : (as.take n).countP (fun a => bound ≤ key a) = n :=
      (List.countP_eq_length.mpr fun a ha => decide_eq_true (hall a ha)).trans htaken
    omega
  · intro hmany a ha
    by_contra hlow
    rw [← List.take_append_drop n as] at hsorted
    -- what is cut off is below that element, so that only the others count
    have hnone : (as.drop n).countP (fun a => bound ≤ key a) = 0 := by
      refine List.countP_eq_zero.mpr fun b hb hbound => hlow ?_
      have hle := (List.pairwise_append.mp hsorted).2.2 a ha b hb
      exact (of_decide_eq_true hbound).trans hle
    have hfew : (as.take n).countP (fun a => bound ≤ key a) < n := by
      refine lt_of_le_of_ne (List.countP_le_length.trans_eq htaken) fun heq => hlow ?_
      exact of_decide_eq_true (List.countP_eq_length.mp (heq.trans htaken.symm) a ha)
    omega

end Selection

end Lib
