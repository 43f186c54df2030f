import OpenPinch.Common.Reference
import OpenPinch.Engine.BrainTables
import OpenPinch.Lib.Rfc3339

/-!
# Stored timestamps

Timestamps are stored as texts and compared as texts.  Within the years 0000 to
9999 these comparisons are comparisons of the instants: those of the sessions
that are pruned, those of the records that decay, and those behind the order of
the rows of a table.
-/

namespace OpenPinch

open Lib (Table.ascending Table.descending Table.insertionSort_congr Table.updateWhere)
open Lib.Rfc3339 (Civil InYears exists_civil textOf)
open BrainManager (decayEntities decayFacts decayTasks)
open StateStore (isOlder)

section

variable [Externals]

/-- `DateTime::to_rfc3339` writes date and time with fixed width, the shortest exact
fraction of no, three, six or nine digits, and the offset of UTC. -/
def StampFormat : Prop := ∀ time : Civil, Externals.toRfc3339 time.instant = time.text

variable {a b : Instant}

theorem stamp_lt_iff (hformat : StampFormat) (ha : InYears a) (hb : InYears b) :
    stamp a < stamp b ↔ a < b := by
  obtain ⟨time, rfl⟩ := exists_civil ha
  obtain ⟨time', rfl⟩ := exists_civil hb
  rw [stamp, stamp, hformat, hformat]
  exact Civil.text_lt_iff_instant time time'

theorem stamp_le_iff (hformat : StampFormat) (ha : InYears a) (hb : InYears b) :
    stamp a ≤ stamp b ↔ a ≤ b := by
  rw [← not_lt, stamp_lt_iff hformat hb ha]
  exact Int.not_lt

/-- The rows of a table whose column holds instants of these years. -/
def ColumnInYears {ρ : Type} (column : ρ → Instant) (rows : List ρ) : Prop :=
  ∀ row ∈ rows, InYears (column row)

variable {ρ : Type} {column : ρ → Instant} {rows : List ρ}

theorem descending_stamp (hformat : StampFormat) (hrows : ColumnInYears column rows) :
    Table.descending (fun row => stamp (column row)) rows = Table.descending column rows :=
  Table.insertionSort_congr fun left hleft right hright =>
    stamp_le_iff hformat (hrows right hright) (hrows left hleft)

theorem ascending_stamp (hformat : StampFormat) (hrows : ColumnInYears column rows) :
    Table.ascending (fun row => stamp (column row)) rows = Table.ascending column rows :=
  Table.insertionSort_congr fun left hleft right hright =>
    stamp_le_iff hformat (hrows left hleft) (hrows right hright)

/-- An update of the rows that are older than a cutoff. -/
theorem updateWhere_stamp (hformat : StampFormat) {cutoff : Instant} (hcutoff : InYears cutoff)
    (hrows : ColumnInYears column rows) (test : ρ → Bool) (change : ρ → ρ) :
    Table.updateWhere (fun row => test row && stamp (column row) < stamp cutoff) change rows =
      Table.updateWhere (fun row => test row && column row < cutoff) change rows := by
  refine List.map_congr_left fun row hrow => ?_
  simp only [stamp_lt_iff hformat (hrows row hrow) hcutoff]

/-- Comparing stored timestamps is comparing times. -/
theorem stamps_sortChronologically (hformat : StampFormat) :
    (∀ a b : Instant, InYears a → InYears b → (stamp a < stamp b ↔ a < b)) ∧
      (∀ (threshold : Instant) (row : SessionRow), InYears threshold → InYears row.updatedAt →
        (isOlder threshold row = true ↔ row.updatedAt < threshold)) ∧
      (∀ (cutoff now : Instant) (rows : List EntityRow), InYears cutoff →
        ColumnInYears EntityRow.updatedAt rows →
          decayEntities cutoff now rows = Table.updateWhere
            (fun row => !row.archived && row.salience < 7 / 20 && row.updatedAt < cutoff)
            (fun row => { row with archived := true, updatedAt := now }) rows) ∧
      (∀ (cutoff now : Instant) (rows : List FactRow), InYears cutoff →
        ColumnInYears FactRow.updatedAt rows →
          decayFacts cutoff now rows = Table.updateWhere
            (fun row => !row.archived && row.salience < 7 / 20 && row.updatedAt < cutoff)
            (fun row => { row with archived := true, updatedAt := now }) rows) ∧
      (∀ (cutoff now : Instant) (rows : List TaskRow), InYears cutoff →
        ColumnInYears TaskRow.updatedAt rows →
          decayTasks cutoff now rows = Table.updateWhere
            (fun row => !row.archived && row.salience < 1 / 2 &&
              (row.status == "done" || row.status == "cancelled") && row.updatedAt < cutoff)
            (fun row => { row with archived := true, updatedAt := now }) rows) ∧
      ∀ (ρ : Type) (column : ρ → Instant) (rows : List ρ), ColumnInYears column rows →
        Table.descending (fun row => stamp (column row)) rows = Table.descending column rows ∧
          Table.ascending (fun row => stamp (column row)) rows = Table.ascending column rows := by
  refine ⟨fun a b => stamp_lt_iff hformat, fun threshold row hthreshold hrow => ?_,
    fun cutoff now rows hcutoff hrows => updateWhere_stamp hformat hcutoff hrows _ _,
    fun cutoff now rows hcutoff hrows => updateWhere_stamp hformat hcutoff hrows _ _,
    fun cutoff now rows hcutoff hrows => updateWhere_stamp hformat hcutoff hrows _ _,
    fun ρ column rows hrows => ⟨descending_stamp hformat hrows, ascending_stamp hformat hrows⟩⟩
  rw [isOlder, decide_eq_true_iff]
  exact stamp_lt_iff hformat hrow hthreshold

end

/-- The reference choice with timestamps of the calendar. -/
@[reducible] def calendarExternals : Externals :=
  { referenceExternals with toRfc3339 := textOf }

theorem stampFormat_calendar : @StampFormat calendarExternals := Civil.textOf_instant

/-- A second with a fraction is stored behind the second, and before the next one. -/
theorem stamps_sortChronologically_half :
    @stamp calendarExternals 1000000000 < @stamp calendarExternals 1500000000 ∧
      @stamp calendarExternals 1500000000 < @stamp calendarExternals 2000000000 := by
  have h := (@stamps_sortChronologically calendarExternals stampFormat_calendar).1
  exact ⟨(h _ _ (by decide) (by decide)).mpr (by decide),
    (h _ _ (by decide) (by decide)).mpr (by decide)⟩

end OpenPinch
