import OpenPinch.Common.Parse
import OpenPinch.Engine.BrainTables
import OpenPinch.Engine.Calls

/-!
# Cutoffs of pruning and retention

Both subtract a span from the current time, and panic when the calendar ends
before.  Neither the hours of a request nor the days of the configuration have an
upper limit, so `cutoffs_in_calendar` says which of them can be subtracted.
-/

namespace OpenPinch

open Lib (Op wp)

/-! ## Configuration -/

/-- `AppConfig::set` of the key `brain.archive_decay_days`. -/
def AppConfig.setArchiveDecayDays (config : AppConfig) (value : String) :
    Except String AppConfig :=
  match parseI64 value with
  | some days => .ok { config with brain := { config.brain with archiveDecayDays := days } }
  | none => .error "expected integer for brain.archive_decay_days"

theorem AppConfig.setArchiveDecayDays_ok {config config' : AppConfig} {value : String}
    (h : config.setArchiveDecayDays value = .ok config') :
    parseI64 value = some config'.brain.archiveDecayDays := by
  unfold AppConfig.setArchiveDecayDays at h
  cases hvalue : parseI64 value with
  | none => simp [hvalue] at h
  | some days =>
      rw [hvalue] at h
      cases h
      rfl

/-! ## Panics -/

/-- The operation panics. -/
def EngineOp.Panics {α : Type} (p : EngineOp α) (w : World) : Prop :=
  (Lib.Prog.eval p w).1 = .error .panic

/-- A statement without panics does not panic under the lock. -/
theorem EngineOp.wp_noPanic {τ α : Type} {v : View τ} {m : Stmt τ α} (hm : m.NoPanic)
    {labels : List Event} {w : World} :
    wp (EngineOp.guarded v m) (fun _ r _ => r ≠ .error .panic) labels w := by
  refine Op.wp_guarded ?_
  rw [View.result_run]
  exact hm (w.around, v.get w)

namespace StateStore

variable [Externals]

theorem noPanic_archiveSessionsStmt (threshold : Instant) :
    (archiveSessionsStmt threshold).NoPanic :=
  Stmt.noPanic_bind Stmt.noPanic_now fun _ => Stmt.noPanic_sql _

theorem noPanic_deleteSessionsStmt (threshold : Instant) :
    (deleteSessionsStmt threshold).NoPanic :=
  Stmt.noPanic_bind (Stmt.noPanic_sql _) fun _ => Stmt.noPanic_sql _

/-- A prune panics when its threshold is not in the calendar. -/
theorem panics_pruneSessions (request : SessionPruneRequestRecord) (w : World) :
    (pruneSessions request).Panics w ↔
      shift (w.around.clock w.around.ticks) (-(max request.olderThanHours 1 * hour)) = none := by
  cases hshift : shift (w.around.clock w.around.ticks) (-(max request.olderThanHours 1 * hour)) with
  | none =>
      have hrun : wp (pruneSessions request) (fun _ r _ => r = .error .panic) [] w := by
        refine Op.wp_bind (EngineOp.wp_now (Op.andThen_ok ?_))
        rw [hshift]
        exact Op.wp_bind (Op.wp_fail rfl)
      exact iff_of_true hrun rfl
  | some threshold =>
      have hstmt : (if request.archiveOnly then archiveSessionsStmt threshold
          else deleteSessionsStmt threshold).NoPanic := by
        split
        · exact noPanic_archiveSessionsStmt threshold
        · exact noPanic_deleteSessionsStmt threshold
      have hrun : wp (pruneSessions request) (fun _ r _ => r ≠ .error .panic) [] w := by
        refine Op.wp_bind (EngineOp.wp_now (Op.andThen_ok ?_))
        rw [hshift]
        refine Op.wp_bind (Op.wp_pure (Op.andThen_ok (Op.wp_bind (Lib.wp_mono
          (EngineOp.wp_noPanic hstmt) fun labels r w' hr => ?_))))
        cases r with
        | error fault => exact hr
        | ok changed => exact Op.andThen_ok (Op.wp_pure nofun)
      exact iff_of_false hrun nofun

end StateStore

namespace BrainManager

variable [Externals] (manager : BrainManager)

/-- Retention panics when its age is no duration, or its cutoff not in the calendar. -/
theorem panics_applyRetention (w : World) :
    manager.applyRetention.Panics w ↔
      ((secondsDuration (manager.config.archiveDecayDays * 86400)).bind fun age =>
        shift (w.around.clock w.around.ticks) (-age)) = none := by
  cases hage : secondsDuration (manager.config.archiveDecayDays * 86400) with
  | none =>
      have hrun : wp manager.applyRetention (fun _ r _ => r = .error .panic) [] w := by
        refine Op.wp_bind (EngineOp.wp_now (Op.andThen_ok ?_))
        rw [hage]
        exact Op.wp_bind (Op.wp_fail rfl)
      exact iff_of_true hrun rfl
  | some age =>
      cases hcutoff : shift (w.around.clock w.around.ticks) (-age) with
      | none =>
          have hrun : wp manager.applyRetention (fun _ r _ => r = .error .panic) [] w := by
            refine Op.wp_bind (EngineOp.wp_now (Op.andThen_ok ?_))
            rw [hage]
            refine Op.wp_bind (Op.wp_pure (Op.andThen_ok ?_))
            rw [hcutoff]
            exact Op.wp_bind (Op.wp_fail rfl)
          exact iff_of_true hrun hcutoff
      | some cutoff =>
          have hrun : wp manager.applyRetention (fun _ r _ => r ≠ .error .panic) [] w := by
            refine Op.wp_bind (EngineOp.wp_now (Op.andThen_ok ?_))
            rw [hage]
            refine Op.wp_bind (Op.wp_pure (Op.andThen_ok ?_))
            rw [hcutoff]
            refine Op.wp_bind (Op.wp_pure (Op.andThen_ok (EngineOp.wp_noPanic ?_)))
            refine Stmt.noPanic_bind Stmt.noPanic_now fun _ => ?_
            refine Stmt.noPanic_bind (Stmt.noPanic_sql _) fun _ => ?_
            refine Stmt.noPanic_bind Stmt.noPanic_now fun _ => ?_
            refine Stmt.noPanic_bind (Stmt.noPanic_sql _) fun _ => ?_
            exact Stmt.noPanic_bind Stmt.noPanic_now fun _ => Stmt.noPanic_sql _
          refine iff_of_false hrun ?_
          rw [Option.bind_some, hcutoff]
          nofun

end BrainManager

/-! ## Spans -/

/-- The last instant of the year 9999. -/
def lastInstant : Instant := 253402300799 * 1000000000 + 999999999

theorem shift_eq_none {instant duration : Int} :
    shift instant duration = none ↔
      ¬ (minInstant ≤ instant + duration ∧ instant + duration ≤ maxInstant) := by
  unfold shift
  split
  · rename_i hrange
    exact iff_of_false nofun (not_not.mpr hrange)
  · rename_i hrange
    exact iff_of_true rfl hrange

/-- The span is subtracted from the time inside the calendar. -/
def InCalendar (now span : Int) : Prop := minInstant ≤ now - span ∧ now - span ≤ maxInstant

/-- From a time in years of four digits, hours end in the calendar unless they begin it. -/
theorem threshold_eq_none {now : Int} (hlast : now ≤ lastInstant) (hours : Nat) :
    shift now (-(max hours 1 * hour)) = none ↔ ¬ minInstant ≤ now - max hours 1 * hour := by
  rw [shift_eq_none, ← Int.sub_eq_add_neg, and_iff_left]
  simp only [maxInstant, lastInstant, hour] at hlast ⊢
  omega

/-- From a time in years of four digits, days that stay in the calendar are a duration. -/
theorem cutoff_eq_none {now days : Int} (hfirst : 0 ≤ now) (hlast : now ≤ lastInstant) :
    ((secondsDuration (days * 86400)).bind fun age => shift now (-age)) = none ↔
      ¬ InCalendar now (days * (24 * hour)) := by
  have hspan : days * 86400 * 1000000000 = days * (24 * hour) := by
    simp only [hour]
    omega
  unfold secondsDuration
  split
  · rw [Option.bind_some, shift_eq_none, hspan, ← Int.sub_eq_add_neg]
    rfl
  · rename_i hlong
    refine iff_of_true rfl fun hcalendar => hlong ?_
    have hmin : (-8334601228800 * 1000000000 : Int) ≤ now - days * (24 * 3600000000000) :=
      hcalendar.1
    have hmax : now - days * (24 * 3600000000000) ≤ 8210266876799 * 1000000000 + 999999999 :=
      hcalendar.2
    simp only [lastInstant] at hlast
    omega

/-- With a current time from 1970 to 9999, a prune panics unless its hours end in the calendar,
and retention unless its days do, on either side. -/
theorem cutoffs_in_calendar [Externals] {w : World} (hfirst : 0 ≤ w.around.clock w.around.ticks)
    (hlast : w.around.clock w.around.ticks ≤ lastInstant) (request : SessionPruneRequestRecord)
    {manager : BrainManager} {config config' : AppConfig} {value : String}
    (hset : config.setArchiveDecayDays value = .ok config')
    (hconfig : manager.config = config'.brain) :
    (¬ (StateStore.pruneSessions request).Panics w ↔
      minInstant ≤ w.around.clock w.around.ticks - max request.olderThanHours 1 * hour) ∧
    ∃ days, parseI64 value = some days ∧ (¬ manager.applyRetention.Panics w ↔
      InCalendar (w.around.clock w.around.ticks) (days * (24 * hour))) := by
  refine ⟨?_, config'.brain.archiveDecayDays, AppConfig.setArchiveDecayDays_ok hset, ?_⟩
  · rw [StateStore.panics_pruneSessions, threshold_eq_none hlast, not_not]
  · rw [manager.panics_applyRetention, hconfig, cutoff_eq_none hfirst hlast, not_not]

/-- The configuration of reference with so many days of decay. -/
def decayingConfig (days : Int) : AppConfig :=
  { referenceRuntime.config with
    brain := { referenceRuntime.config.brain with archiveDecayDays := days } }

/-- The brain of that configuration. -/
def decayingBrain (days : Int) : BrainManager :=
  { referenceRuntime.brain with config := (decayingConfig days).brain }

/-- One hour and thirty days before the year 1970. -/
theorem cutoffs_in_calendar_month :
    ¬ (@StateStore.pruneSessions referenceExternals ⟨1, true⟩).Panics referenceWorld ∧
      ¬ (@BrainManager.applyRetention referenceExternals (decayingBrain 30)).Panics
        referenceWorld := by
  have hset : referenceRuntime.config.setArchiveDecayDays "30" = .ok (decayingConfig 30) := rfl
  obtain ⟨hprune, days, hdays, hretention⟩ := @cutoffs_in_calendar referenceExternals referenceWorld
    (by decide) (by decide) ⟨1, true⟩ (decayingBrain 30) _ _ _ hset rfl
  have hmonth : days = 30 := (Option.some.inj (hdays.symm.trans rfl))
  subst hmonth
  exact ⟨hprune.mpr (by decide), hretention.mpr ⟨by decide, by decide⟩⟩

/-- The largest number of hours reaches back before the calendar. -/
theorem cutoffs_in_calendar_fails :
    ¬ ∀ [Externals] {w : World}, 0 ≤ w.around.clock w.around.ticks →
      w.around.clock w.around.ticks ≤ lastInstant →
        ∀ (request : SessionPruneRequestRecord) {manager : BrainManager}
          {config config' : AppConfig} {value : String}, request.olderThanHours < 2 ^ 32 →
          config.setArchiveDecayDays value = .ok config' → manager.config = config'.brain →
            ¬ (StateStore.pruneSessions request).Panics w ∧ ¬ manager.applyRetention.Panics w := by
  intro h
  have hset : referenceRuntime.config.setArchiveDecayDays "30" = .ok (decayingConfig 30) := rfl
  obtain ⟨hprune, -⟩ := @h referenceExternals referenceWorld (by decide) (by decide)
    ⟨2 ^ 32 - 1, true⟩ (decayingBrain 30) _ _ _ (by decide) hset rfl
  exact hprune ((@StateStore.panics_pruneSessions referenceExternals _ _).mpr (by decide))

end OpenPinch
