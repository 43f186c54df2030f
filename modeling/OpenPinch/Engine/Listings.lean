import OpenPinch.Engine.BrainForget
import OpenPinch.Engine.StoreRules
import OpenPinch.Lib.Selection

/-!
# Listings of sessions and pairings

The two listings read the 512 rows that were updated last, and filter those.  A row
that the filters select is missed when enough newer rows are not selected:
`listings_selected` says when a listing is what its filters ask for.
-/

namespace OpenPinch

open Lib (wp Table.descending)
open Lib.Selection (firstOf firstOf_take_eq_iff)

section

variable [Externals]

/-! ## Listings -/

/-- The rows of a table in the order of a listing. -/
def listingOrder {ρ : Type} (updatedAt : ρ → Instant) (rows : List ρ) : List ρ :=
  Table.descending (fun row => stamp (updatedAt row)) rows

/-- The first rows that are selected. -/
def selectedRows {ρ β : Type} (updatedAt : ρ → Instant) (record : ρ → β) (selects : β → Bool)
    (limit : Nat) (rows : List ρ) : List β :=
  firstOf selects (max limit 1) ((listingOrder updatedAt rows).map record)

/-- Of the newest rows enough are selected, or of the others none is. -/
def InWindow {ρ β : Type} (updatedAt : ρ → Instant) (record : ρ → β) (selects : β → Bool)
    (limit : Nat) (rows : List ρ) : Prop :=
  max limit 1 ≤ ((listingOrder updatedAt rows).take 512).countP (selects ∘ record) ∨
    ∀ row ∈ (listingOrder updatedAt rows).drop 512, selects (record row) = false

/-- A listing of the newest rows is that of all rows exactly when those selected are in the
window. -/
theorem window_eq_iff {ρ β : Type} {updatedAt : ρ → Instant} {record : ρ → β} {selects : β → Bool}
    {limit : Nat} {rows : List ρ} :
    firstOf selects (max limit 1) (((listingOrder updatedAt rows).take 512).map record) =
        selectedRows updatedAt record selects limit rows ↔
      InWindow updatedAt record selects limit rows := by
  rw [selectedRows, List.map_take, firstOf_take_eq_iff, ← List.map_take, List.countP_map,
    ← List.map_drop, List.forall_mem_map]
  rfl

/-- The filters of `list_sessions`. -/
def SessionListQuery.selects (query : SessionListQuery) (session : SessionRecord) : Bool :=
  (query.includeArchived || session.status != "archived") &&
    query.connector.all (· == session.connector) && query.status.all (· == session.status)

/-- The filters of `list_pairings`. -/
def PairingListQuery.selects (query : PairingListQuery) (pairing : PairingRecord) : Bool :=
  query.status.all (· == pairing.status) && query.connector.all (· == pairing.connector)

namespace StateStore

omit [Externals] in
/-- A listing that the database accepts. -/
theorem eval_listing {ρ β : Type} {rows : Conversations → List ρ} {answer : List ρ → List β}
    {w : World} (h : w.around.refuses w.around.statements = false) :
    ((EngineOp.guarded .conversations (do
      let found ← Stmt.select rows
      return answer found) : EngineOp (List β)).eval w).1 =
        .ok (answer (rows w.conversations)) := by
  have hrun : wp (EngineOp.guarded .conversations (do
      let found ← Stmt.select rows
      return answer found) : EngineOp (List β))
      (fun _ r _ => r = .ok (answer (rows w.conversations))) [] w :=
    EngineOp.wp_guarded (Stmt.run_bind (Stmt.run_select h)) rfl
  exact hrun

theorem eval_listSessions (query : SessionListQuery) {w : World}
    (h : w.around.refuses w.around.statements = false) :
    ((listSessions query).eval w).1 = .ok (firstOf query.selects (max query.limit 1)
      (((listingOrder SessionRow.updatedAt w.conversations.sessions).take 512).map
        sessionRecordFromRow)) :=
  eval_listing h

theorem eval_listPairings (query : PairingListQuery) {w : World}
    (h : w.around.refuses w.around.statements = false) :
    ((listPairings query).eval w).1 = .ok (firstOf query.selects (max query.limit 1)
      (((listingOrder PairingRow.updatedAt w.conversations.pairings).take 512).map
        pairingRecordFromRow)) :=
  eval_listing h

end StateStore

/-- A listing is the first of all rows that its filters select, exactly when those are in its
window. -/
theorem listings_selected {w : World} (h : w.around.refuses w.around.statements = false)
    (sessions : SessionListQuery) (pairings : PairingListQuery) :
    (((StateStore.listSessions sessions).eval w).1 =
        .ok (selectedRows SessionRow.updatedAt sessionRecordFromRow sessions.selects sessions.limit
          w.conversations.sessions) ↔
      InWindow SessionRow.updatedAt sessionRecordFromRow sessions.selects sessions.limit
        w.conversations.sessions) ∧
    (((StateStore.listPairings pairings).eval w).1 =
        .ok (selectedRows PairingRow.updatedAt pairingRecordFromRow pairings.selects pairings.limit
          w.conversations.pairings) ↔
      InWindow PairingRow.updatedAt pairingRecordFromRow pairings.selects pairings.limit
        w.conversations.pairings) := by
  rw [StateStore.eval_listSessions sessions h, StateStore.eval_listPairings pairings h,
    Except.ok.injEq, Except.ok.injEq]
  exact ⟨window_eq_iff, window_eq_iff⟩

end

/-! ## A pending pairing behind the window -/

/-- A pairing of the sender whose name has so many letters. -/
def approvedPairing (n : Nat) : PairingRow where
  pairingId := String.ofList (List.replicate n 'a')
  connector := "telegram"
  channelId := "1"
  sender := String.ofList (List.replicate n 'a')
  sessionId := ""
  status := "approved"
  reason := ""
  note := ""
  createdAt := 0
  updatedAt := 1000000000

/-- A pairing that waits, and was updated before the others. -/
def waitingPairing : PairingRow :=
  { approvedPairing 0 with pairingId := "b", sender := "b", status := "pending", updatedAt := 0 }

/-- So many approved pairings and the one that waits. -/
def pairingRows (n : Nat) : List PairingRow :=
  (List.range n).map approvedPairing ++ [waitingPairing]

def pairingsWorld (n : Nat) : World :=
  { World.fresh countingSurroundings fun _ => .ok "" with
    conversations := ⟨[], [], [], pairingRows n⟩ }

/-- The pairings that wait. -/
def waitingQuery : PairingListQuery := { connector := none, status := some "pending", limit := 1 }

/-- The approved pairings are the newest. -/
theorem listingOrder_pairingRows (n : Nat) :
    @listingOrder referenceExternals _ PairingRow.updatedAt (pairingRows n) = pairingRows n := by
  have hle : @stamp referenceExternals 0 ≤ @stamp referenceExternals 1000000000 := by
    decide
  refine List.Pairwise.insertionSort_eq (List.pairwise_append.mpr ⟨?_, ?_, ?_⟩)
  · exact List.pairwise_map.mpr (List.pairwise_of_forall fun k k' => le_refl _)
  · exact List.pairwise_singleton _ _
  · intro row hrow last hlast
    obtain ⟨k, -, rfl⟩ := List.mem_map.mp hrow
    cases List.mem_singleton.mp hlast
    exact hle

/-- Behind one approved pairing the one that waits is listed. -/
theorem listings_selected_waiting :
    ((@StateStore.listPairings referenceExternals waitingQuery).eval (pairingsWorld 1)).1 =
      .ok (@selectedRows referenceExternals _ _ PairingRow.updatedAt pairingRecordFromRow
        waitingQuery.selects waitingQuery.limit (pairingRows 1)) := by
  refine (@listings_selected referenceExternals (pairingsWorld 1) rfl ⟨none, none, false, 1⟩
    waitingQuery).2.mpr (Or.inr ?_)
  have hnone : (pairingRows 1).drop 512 = [] := rfl
  change ∀ row ∈ (@listingOrder referenceExternals _ PairingRow.updatedAt (pairingRows 1)).drop 512,
    waitingQuery.selects (pairingRecordFromRow row) = false
  rw [listingOrder_pairingRows, hnone]
  intro row hrow
  exact absurd hrow List.not_mem_nil

/-- Behind 512 of them it is not. -/
theorem listings_selected_fails :
    ¬ ∀ [Externals] (w : World), w.around.refuses w.around.statements = false →
      (∀ query : SessionListQuery, ((StateStore.listSessions query).eval w).1 =
        .ok (selectedRows SessionRow.updatedAt sessionRecordFromRow query.selects query.limit
          w.conversations.sessions)) ∧
      ∀ query : PairingListQuery, ((StateStore.listPairings query).eval w).1 =
        .ok (selectedRows PairingRow.updatedAt pairingRecordFromRow query.selects query.limit
          w.conversations.pairings) := by
  intro h
  have hlisted := (@h referenceExternals (pairingsWorld 512) rfl).2 waitingQuery
  have happroved : ∀ row ∈ (List.range 512).map approvedPairing,
      ¬ waitingQuery.selects (pairingRecordFromRow row) = true := by
    intro row hrow
    obtain ⟨k, -, rfl⟩ := List.mem_map.mp hrow
    simp [PairingListQuery.selects, waitingQuery, pairingRecordFromRow, approvedPairing]
  have hwindow := (@window_eq_iff referenceExternals _ _ _ _ _ _ _).mp
    (Except.ok.inj ((@StateStore.eval_listPairings referenceExternals waitingQuery
      (pairingsWorld 512) rfl).symm.trans hlisted))
  change @InWindow referenceExternals _ _ _ _ _ _ (pairingRows 512) at hwindow
  unfold InWindow at hwindow
  rw [listingOrder_pairingRows, pairingRows, List.take_left' (by simp),
    List.drop_left' (by simp)] at hwindow
  rcases hwindow with hcount | hbehind
  · have hzero := List.countP_eq_zero.mpr happroved
    exact absurd (hcount.trans_eq hzero) (by decide)
  · exact absurd (hbehind waitingPairing (List.mem_singleton.mpr rfl)) (by decide)

end OpenPinch
