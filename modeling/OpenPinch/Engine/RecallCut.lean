import OpenPinch.Engine.RecallResults

/-!
# What the cut of a search hides

`recall` searches three times as many facts as it returns, and asks for the scope
and the archive only of those.  `Uncut` says when the cut loses no fact: there are
enough eligible ones before it, or all of them are.
-/

namespace OpenPinch

open Lib (Table.descending Table.updateWhere_of_none Table.perm_descending Table.mem_of_mapM_ok
  Table.exists_of_mapM_ok Table.map_of_mapM_ok Table.mem_descending)
open Lib.Selection (nodup_filterMap_find)

section

variable [Externals]

namespace BrainManager

variable (manager : BrainManager) (query : BrainRecallQuery)

/-- The facts that are active, or archived when the query asks for these, and in its scope. -/
def eligibleFacts (t : BrainTables) : List BrainFactRecord :=
  ((t.facts.filter fun row => query.includeArchived || !row.archived).filterMap
    fun row => (manager.factRecord row).toOption).filter
      fun fact => scopeMatches fact.scopeJson query.scopeJson

/-- Enough of the facts are among these keys, or all are. -/
def Uncut (keys : List String) (facts : List BrainFactRecord) (n : Nat) : Prop :=
  n ≤ (facts.filter (keys.contains ·.id)).length ∨ ∀ fact ∈ facts, fact.id ∈ keys

/-- Below the limit of the list the newest rows are all that are asked for. -/
theorem mem_newest_iff {ρ : Type} {updatedAt : ρ → Instant} {archived : ρ → Bool}
    {includeArchived : Bool} {rows : List ρ} {row : ρ} (h : rows.length ≤ 512) :
    row ∈ newest updatedAt archived includeArchived rows ↔
      row ∈ rows ∧ (includeArchived || !archived row) = true := by
  have hlength : (Table.descending (fun row => stamp (updatedAt row)) rows).length ≤ 512 :=
    (Table.perm_descending _ rows).length_eq.trans_le h
  rw [newest, List.take_of_length_le hlength, List.mem_filter, Table.mem_descending]

end BrainManager

namespace Recollection

variable {read : Recollection} {manager : BrainManager} {query : BrainRecallQuery}
  {t : BrainTables} {rows : List VectorMemoryRow}

/-- The facts that are read. -/
theorem Of.mem_facts (h : read.Of manager query t rows) (hfacts : t.facts.length ≤ 512)
    {fact : BrainFactRecord} :
    fact ∈ read.facts ↔
      ∃ row ∈ t.facts, (query.includeArchived || !row.archived) = true ∧
        manager.factRecord row = .ok fact := by
  constructor
  · intro hfact
    obtain ⟨row, hrow, hrecord⟩ := Table.mem_of_mapM_ok h.facts hfact
    obtain ⟨hrow, hlisted⟩ := (BrainManager.mem_newest_iff hfacts).mp hrow
    exact ⟨row, hrow, hlisted, hrecord⟩
  · rintro ⟨row, hrow, hlisted, hrecord⟩
    obtain ⟨other, hother, hread⟩ := Table.exists_of_mapM_ok h.facts
      ((BrainManager.mem_newest_iff hfacts).mpr ⟨hrow, hlisted⟩)
    cases hread.symm.trans hrecord
    exact hother

/-- Those of them that are eligible. -/
theorem Of.mem_eligible (h : read.Of manager query t rows) (hfacts : t.facts.length ≤ 512)
    {fact : BrainFactRecord} :
    fact ∈ manager.eligibleFacts query t ↔
      fact ∈ read.facts ∧ scopeMatches fact.scopeJson query.scopeJson = true := by
  rw [h.mem_facts hfacts, BrainManager.eligibleFacts, List.mem_filter, List.mem_filterMap]
  refine and_congr_left' ⟨?_, ?_⟩
  · rintro ⟨row, hrow, hrecord⟩
    obtain ⟨hrow, hlisted⟩ := List.mem_filter.mp hrow
    cases hresult : manager.factRecord row with
    | error message =>
        rw [hresult] at hrecord
        cases hrecord
    | ok found =>
        rw [hresult] at hrecord
        cases hrecord
        exact ⟨row, hrow, hlisted, hresult⟩
  · rintro ⟨row, hrow, hlisted, hrecord⟩
    exact ⟨row, List.mem_filter.mpr ⟨hrow, hlisted⟩, by rw [hrecord]; rfl⟩

/-- The identifiers of the facts that are read. -/
theorem Of.nodup_facts (h : read.Of manager query t rows) (hkeys : t.Keyed) :
    (read.facts.map BrainFactRecord.id).Nodup := by
  rw [Table.map_of_mapM_ok (fun row fact hfact => (manager.factRecord_ids hfact).1) h.facts]
  exact BrainManager.nodup_newest hkeys.facts

/-- The hits on facts in the scope, before the limit. -/
def factsBefore (read : Recollection) (query : BrainRecallQuery) : List BrainFactRecord :=
  (read.factHits.filterMap read.factAt).filter
    fun fact => scopeMatches fact.scopeJson query.scopeJson

/-- They are the eligible facts under the keys of the hits. -/
theorem Of.mem_factsBefore (h : read.Of manager query t rows) (hkeys : t.Keyed)
    (hfacts : t.facts.length ≤ 512) {fact : BrainFactRecord} :
    fact ∈ read.factsBefore query ↔
      fact ∈ manager.eligibleFacts query t ∧ fact.id ∈ read.factHits := by
  rw [h.mem_eligible hfacts, factsBefore, List.mem_filter, List.mem_filterMap]
  constructor
  · rintro ⟨⟨key, hkey, hat⟩, hscope⟩
    have hread : fact ∈ read.facts := List.mem_reverse.mp (List.mem_of_find?_eq_some hat)
    exact ⟨⟨hread, hscope⟩, read.factAt_id hat ▸ hkey⟩
  · rintro ⟨⟨hread, hscope⟩, hhit⟩
    refine ⟨⟨fact.id, hhit, ?_⟩, hscope⟩
    cases hat : read.factAt fact.id with
    | none =>
        have hnone := List.find?_eq_none.mp hat fact (List.mem_reverse.mpr hread)
        simp at hnone
    | some other =>
        have hother : other ∈ read.facts := List.mem_reverse.mp (List.mem_of_find?_eq_some hat)
        rw [List.inj_on_of_nodup_map (h.nodup_facts hkeys) hother hread (read.factAt_id hat)]

/-- Different facts are eligible. -/
theorem nodup_eligibleFacts (manager : BrainManager) (query : BrainRecallQuery)
    {t : BrainTables} (hkeys : t.Keyed) : (manager.eligibleFacts query t).Nodup := by
  have hrows : t.facts.Pairwise fun row other => row.factId ≠ other.factId :=
    List.pairwise_map.mp hkeys.facts
  refine List.Nodup.filter _ ((hrows.filter _).filterMap _ fun row other hne fact hfact fact'
    hfact' heq => hne ?_)
  have hid {row : FactRow} {fact : BrainFactRecord}
      (h : (manager.factRecord row).toOption = some fact) : fact.id = row.factId := by
    cases hresult : manager.factRecord row with
    | error message =>
        rw [hresult] at h
        cases h
    | ok found =>
        rw [hresult] at h
        cases h
        exact (manager.factRecord_ids hresult).1
  rw [← hid hfact, ← hid hfact', heq]

theorem Of.perm_factsBefore (h : read.Of manager query t rows) (hkeys : t.Keyed)
    (hfacts : t.facts.length ≤ 512) (hindex : (rows.map VectorMemoryRow.address).Nodup) :
    (read.factsBefore query).Perm
      ((manager.eligibleFacts query t).filter (read.factHits.contains ·.id)) := by
  have hbefore : (read.factsBefore query).Nodup :=
    ((nodup_filterMap_find (fun _ _ => read.factAt_id)
      (BrainManager.nodup_hits manager hindex h.factHits)).of_map _).filter _
  have heligible := nodup_eligibleFacts manager query hkeys
  refine (List.perm_ext_iff_of_nodup hbefore (heligible.filter _)).mpr fun fact => ?_
  rw [h.mem_factsBefore hkeys hfacts, List.mem_filter, List.contains_iff_mem]

end Recollection

/-- A recall that returns fewer facts than it may returns every eligible one, exactly when the
cut of the search loses none. -/
theorem recall_hidesNone {manager : BrainManager} {query : BrainRecallQuery} {w : World}
    {answer : BrainRecallResult} (hkeys : w.brain.Keyed)
    (hindex : (w.vectorMemory.map VectorMemoryRow.address).Nodup)
    (hfacts : w.brain.facts.length ≤ 512)
    (h : ((manager.recall query).eval w).1 = .ok answer) :
    ∃ keys, manager.hits "brain-facts" query.query (max query.limit 1 * 3) w.vectorMemory =
        .ok keys ∧
      ((answer.facts.length < max query.limit 1 →
          ∀ fact ∈ manager.eligibleFacts query (manager.retained w.around w.brain),
            fact ∈ answer.facts) ↔
        BrainManager.Uncut keys
          (manager.eligibleFacts query (manager.retained w.around w.brain))
          (max query.limit 1)) := by
  obtain ⟨read, hread, rfl⟩ := (manager.recall_ok query).mp h
  have hof := manager.readRecall_of query hread
  have hretained := manager.keyed_retained w.around hkeys
  have hlength : (manager.retained w.around w.brain).facts.length ≤ 512 :=
    (List.length_map _).trans_le hfacts
  have hcount := (hof.perm_factsBefore hretained hlength hindex).length_eq
  refine ⟨read.factHits, hof.factHits, ?_⟩
  have hanswer : (read.result query).facts = (read.factsBefore query).take (max query.limit 1) := by
    rw [read.result_eq]
    rfl
  rw [hanswer, BrainManager.Uncut, ← hcount, List.length_take]
  rcases Nat.lt_or_ge (read.factsBefore query).length (max query.limit 1) with hfew | hmany
  · rw [List.take_of_length_le hfew.le]
    constructor
    · intro hall
      refine Or.inr fun fact hfact => ?_
      have hbefore := hall ((Nat.min_le_right _ _).trans_lt hfew) fact hfact
      exact ((hof.mem_factsBefore hretained hlength).mp hbefore).2
    · rintro (hmany | hkept) - fact hfact
      · exact absurd hmany (Nat.not_le.mpr hfew)
      · exact (hof.mem_factsBefore hretained hlength).mpr ⟨hfact, hkept fact hfact⟩
  · refine iff_of_true (fun hfew => ?_) (Or.inl hmany)
    rw [Nat.min_eq_left hmany] at hfew
    exact absurd hfew (Nat.lt_irrefl _)

end

theorem keyed_contact : (contactWorld (channelScope "1")).brain.Keyed where
  entities := List.nodup_singleton _
  facts := List.nodup_singleton _
  relations := List.nodup_nil
  tasks := List.nodup_nil

theorem recall_hidesNone_contact :
    ∃ answer, ((@BrainManager.recall jsonExternals plainBrain channelQuery).eval
        (contactWorld (channelScope "1"))).1 = .ok answer ∧
      ∀ fact ∈ @BrainManager.eligibleFacts jsonExternals plainBrain channelQuery
        (@BrainManager.retained jsonExternals plainBrain countingSurroundings
          (contactWorld (channelScope "1")).brain), fact ∈ answer.facts := by
  obtain ⟨keys, hkeys, hiff⟩ := @recall_hidesNone jsonExternals plainBrain channelQuery _ _
    keyed_contact (List.nodup_singleton _) (Nat.le_of_ble_eq_true rfl)
    (recall_contact (channelScope "1"))
  cases hkeys.symm.trans (hits_contact "brain-facts" (by simp))
  have hof := @BrainManager.readRecall_of jsonExternals plainBrain channelQuery _ _
    (readRecall_contact (channelScope "1"))
  refine ⟨_, recall_contact _, hiff.mpr (Or.inr fun fact hfact => ?_) ?_⟩
  · have hread := ((@Recollection.Of.mem_eligible jsonExternals _ _ _ _ _ hof
      (Nat.le_of_ble_eq_true rfl)).mp hfact).1
    cases List.mem_singleton.mp hread
    exact List.mem_singleton.mpr rfl
  · rw [@Recollection.result_eq jsonExternals]
    decide +kernel

/-! ## A fact behind those of another channel -/

/-- What was written in a channel. -/
def crowdRow (factId channel : String) : FactRow :=
  { contactFactRow (channelScope channel) with factId := factId }

def crowdRecord (factId channel : String) : BrainFactRecord :=
  { contactFactRecord (channelScope channel) with id := factId }

/-- The projection of a fact, with the words that it is found by. -/
def crowdProjection (factId fingerprint : String) : VectorMemoryRow :=
  { contactFactProjection with key := factId, fingerprint := fingerprint }

/-- Three greetings in channel 2, and other words in channel 1. -/
def crowdedWorld : World :=
  { World.fresh countingSurroundings fun _ => .ok "" with
    brain := ⟨[], [crowdRow "one" "2", crowdRow "two" "2", crowdRow "three" "2",
      crowdRow "four" "1"], [], [], []⟩
    vectorMemory := [crowdProjection "one" "hi", crowdProjection "two" "hi",
      crowdProjection "three" "hi", crowdProjection "four" "bye"] }

/-- A recall of one fact in channel 1. -/
def oneQuery : BrainRecallQuery := ⟨"hi", channelScope "1", 1, false⟩

/-- What it reads. -/
def crowdRecollection : Recollection where
  entities := []
  facts := [crowdRecord "one" "2", crowdRecord "two" "2", crowdRecord "three" "2",
    crowdRecord "four" "1"]
  tasks := []
  relations := []
  entityHits := []
  factHits := ["one", "two", "three"]
  taskHits := []

theorem factRecord_crowd (factId channel : String) :
    @BrainManager.factRecord jsonExternals plainBrain (crowdRow factId channel) =
      .ok (crowdRecord factId channel) := by
  have hpayload : @BrainManager.decryptPayload jsonExternals plainBrain BrainManager.factFields
      (crowdRow factId channel).encryptedBlobJson = .ok ["hi", channelScope channel, "message"] :=
    decryptPayload_storedPlain rfl (by decide) rfl
  unfold BrainManager.factRecord
  rw [hpayload]
  rfl

/-- The hits are the greetings. -/
theorem hits_crowd (nameSpace : String)
    (h : nameSpace ∈ ["brain-entities", "brain-facts", "brain-tasks"]) :
    @BrainManager.hits jsonExternals plainBrain nameSpace "hi" 3 crowdedWorld.vectorMemory =
      .ok (if nameSpace = "brain-facts" then ["one", "two", "three"] else []) := by
  revert nameSpace
  decide +kernel

theorem lasting_crowd : @BrainManager.Lasting jsonExternals crowdedWorld.brain := by
  have hsalient : ¬ (1 : Rat) < 7 / 20 := by decide +kernel
  refine @BrainManager.Lasting.mk jsonExternals _ (fun _ _ => rfl) (fun cutoff now => ?_)
    fun _ _ => rfl
  refine Table.updateWhere_of_none fun row hrow => ?_
  have hsalience : row.salience = 1 := by
    simp only [crowdedWorld, List.mem_cons, List.not_mem_nil, or_false] at hrow
    rcases hrow with rfl | rfl | rfl | rfl <;> rfl
  simp [hsalience, hsalient]

theorem readRecall_crowd :
    ((@BrainManager.readRecall jsonExternals plainBrain oneQuery).eval crowdedWorld).1 =
      .ok crowdRecollection := by
  have hcutoff : shift (countingSurroundings.clock countingSurroundings.ticks)
      (-2592000000000000) = some (-2592000000000000) := by
    decide
  have hfacts : [crowdRow "one" "2", crowdRow "two" "2", crowdRow "three" "2",
      crowdRow "four" "1"].mapM (@BrainManager.factRecord jsonExternals plainBrain) =
        .ok crowdRecollection.facts := by
    simp only [List.mapM_cons, factRecord_crowd]
    rfl
  exact @BrainManager.readRecall_ok jsonExternals plainBrain oneQuery crowdedWorld _ _
    crowdRecollection rfl (fun _ => rfl) lasting_crowd retention_contact hcutoff rfl hfacts rfl rfl
    (hits_crowd _ (by simp)) (hits_crowd _ (by simp)) (hits_crowd _ (by simp))

/-- The fact of channel 1 is not found in channel 1. -/
theorem recall_hidesNone_fails :
    ¬ ∀ [Externals] (manager : BrainManager) (query : BrainRecallQuery) (w : World)
        (answer : BrainRecallResult), w.brain.Keyed →
      (w.vectorMemory.map VectorMemoryRow.address).Nodup →
        (∀ nameSpace, (w.vectorMemory.filter (·.nameSpace == nameSpace)).length ≤ 256) →
          (w.brain.entities.length ≤ 512 ∧ w.brain.facts.length ≤ 512 ∧
              w.brain.relations.length ≤ 512 ∧ w.brain.tasks.length ≤ 512) →
            ((manager.recall query).eval w).1 = .ok answer →
              answer.facts.length < max query.limit 1 →
                ∀ fact ∈ manager.eligibleFacts query (manager.retained w.around w.brain),
                  fact ∈ answer.facts := by
  intro h
  have hrecall := (@BrainManager.recall_ok jsonExternals plainBrain oneQuery _ _).mpr
    ⟨_, readRecall_crowd, rfl⟩
  have hnone : (@Recollection.result jsonExternals crowdRecollection oneQuery).facts = [] := by
    rw [@Recollection.result_eq jsonExternals]
    decide +kernel
  have hof := @BrainManager.readRecall_of jsonExternals plainBrain oneQuery _ _ readRecall_crowd
  have heligible := (@Recollection.Of.mem_eligible jsonExternals _ _ _ _ _ hof
    (Nat.le_of_ble_eq_true rfl) (crowdRecord "four" "1")).mpr
      ⟨by simp [crowdRecollection], by decide +kernel⟩
  have hkeyed : crowdedWorld.brain.Keyed :=
    ⟨List.nodup_nil, by decide, List.nodup_nil, List.nodup_nil⟩
  have hin := @h jsonExternals plainBrain oneQuery crowdedWorld _ hkeyed (by decide)
    (fun nameSpace => (List.length_filter_le _ _).trans (Nat.le_of_ble_eq_true rfl))
    (by decide) hrecall (by rw [hnone]; decide) _ heligible
  rw [hnone] at hin
  cases hin

end OpenPinch
