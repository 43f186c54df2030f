import Mathlib.Data.List.Nodup
import Mathlib.Data.List.Perm.Basic
import Mathlib.Logic.Function.Basic
import OpenPinch.Common.Types
import OpenPinch.Lib.Transition

/-!
# The scheduler

The scheduler keeps, for each job, the number of its entry in the table of the
cron library, and replaces the entry when the job is scheduled again: the old one
is removed before the new one is added.  `Tracks` says that the two structures
are in step with the calls so far.
-/

namespace OpenPinch

open Lib (System)

/-! ## The cron library -/

/-- `cron.EntryID`. -/
abbrev EntryId := Nat

/-- The operations of `cron.Cron` on a table of entries.  An entry is a number
with the spec and what its function captures. -/
class CronTable (κ : Type) where
  /-- `cron.New`. -/
  new : κ
  /-- `Cron.Entries`. -/
  entries : κ → List (EntryId × ScheduleRequest)
  /-- `Cron.AddFunc`. -/
  addFunc : κ → ScheduleRequest → Except String EntryId × κ
  /-- `Cron.Remove`. -/
  remove : κ → EntryId → κ
  /-- The parser has a schedule for the spec. -/
  parses : String → Bool

open CronTable (entries addFunc remove parses)

/-- What the library documents: `AddFunc` adds an entry under a number of its own
when it has a schedule for the spec, else nothing, and `Remove` removes the entry
of a number. -/
structure CronLaws (κ : Type) [CronTable κ] : Prop where
  new : entries (CronTable.new : κ) = []
  added : ∀ (cron : κ) (request : ScheduleRequest), parses κ request.cron = true →
    ∃ id cron', addFunc cron request = (.ok id, cron') ∧ id ∉ (entries cron).map Prod.fst ∧
      (entries cron').Perm ((id, request) :: entries cron)
  rejected : ∀ (cron : κ) (request : ScheduleRequest), parses κ request.cron = false →
    ∃ message cron', addFunc cron request = (.error message, cron') ∧
      (entries cron').Perm (entries cron)
  removed : ∀ (cron : κ) (id : EntryId),
    (entries (remove cron id)).Perm ((entries cron).filter fun entry => entry.1 != id)

/-! ## The scheduler -/

/-- `Scheduler`, less the bridge and the mutex, which `Schedule` holds throughout. -/
structure Scheduler (κ : Type) where
  cron : κ
  ids : String → Option EntryId

namespace Scheduler

variable {κ : Type} [CronTable κ]

/-- `New`. -/
def new : Scheduler κ := ⟨CronTable.new, fun _ => none⟩

/-- The table without the entry of the job, if there is one. -/
def withoutJob (s : Scheduler κ) (jobId : String) : κ :=
  match s.ids jobId with
  | some existing => remove s.cron existing
  | none => s.cron

/-- `Scheduler.Schedule`. -/
def schedule (s : Scheduler κ) (request : ScheduleRequest) : Except String Unit × Scheduler κ :=
  match addFunc (s.withoutJob request.jobId) request with
  | (.ok entryId, cron) => (.ok (), ⟨cron, Function.update s.ids request.jobId (some entryId)⟩)
  | (.error message, cron) => (.error message, { s with cron := cron })

/-- What the active entries run. -/
def active (s : Scheduler κ) : List ScheduleRequest := (entries s.cron).map Prod.snd

end Scheduler

/-! ## Calls -/

/-- A scheduler and the calls so far, each with its outcome, the last one first. -/
structure Scheduling (κ : Type) where
  scheduler : Scheduler κ
  calls : List (ScheduleRequest × Except String Unit)

/-- The last call for the job that was accepted. -/
def lastAccepted : List (ScheduleRequest × Except String Unit) → String → Option ScheduleRequest
  | [], _ => none
  | (request, outcome) :: earlier, jobId =>
      if request.jobId = jobId ∧ outcome.toBool then some request else lastAccepted earlier jobId

namespace Scheduling

variable {κ : Type} [CronTable κ]

/-- After one more call. -/
def next (s : Scheduling κ) (request : ScheduleRequest) : Scheduling κ :=
  let (outcome, scheduler) := s.scheduler.schedule request
  ⟨scheduler, (request, outcome) :: s.calls⟩

/-- Calls of a scheduler, as long as they are allowed. -/
def system (κ : Type) [CronTable κ] (allowed : Scheduling κ → ScheduleRequest → Prop) :
    System (Scheduling κ) ScheduleRequest :=
  System.ofStep (· = ⟨Scheduler.new, []⟩) allowed fun s request => some (s.next request)

/-- The active entries are one for each job that was accepted, and carry its last
accepted call. -/
def RunsAccepted (s : Scheduling κ) : Prop :=
  ∀ jobId, (s.scheduler.active.filter fun request => request.jobId == jobId) =
    (lastAccepted s.calls jobId).toList

/-- The call has a schedule, or its job was never accepted. -/
def Replaces (s : Scheduling κ) (request : ScheduleRequest) : Prop :=
  parses κ request.cron = true ∨ lastAccepted s.calls request.jobId = none

/-- The numbers of the scheduler are those of the entries. -/
structure Tracks (s : Scheduling κ) : Prop where
  unique : ((entries s.scheduler.cron).map Prod.fst).Nodup
  ids : ∀ jobId id, s.scheduler.ids jobId = some id ↔
    ∃ request, (id, request) ∈ entries s.scheduler.cron ∧ request.jobId = jobId
  runs : s.RunsAccepted

variable {s : Scheduling κ} {request : ScheduleRequest}

/-! ## One call -/

/-- A list that is a permutation of an optional value has it alone. -/
theorem eq_toList_of_perm {α : Type} {l : List α} {value : Option α} (h : l.Perm value.toList) :
    l = value.toList := by
  cases value with
  | none => exact List.perm_nil.mp h
  | some a => exact List.perm_singleton.mp h

theorem job_of_active (h : s.RunsAccepted) (hnone : lastAccepted s.calls request.jobId = none)
    {entry : EntryId × ScheduleRequest} (hentry : entry ∈ entries s.scheduler.cron) :
    entry.2.jobId ≠ request.jobId := by
  intro hjob
  have hmem : entry.2 ∈ s.scheduler.active.filter fun other => other.jobId == request.jobId :=
    List.mem_filter.mpr ⟨List.mem_map_of_mem hentry, by simpa using hjob⟩
  rw [h request.jobId, hnone] at hmem
  cases hmem

/-- Only the entry of the job is removed. -/
theorem Tracks.withoutJob (laws : CronLaws κ) (h : s.Tracks) (jobId : String) :
    (entries (s.scheduler.withoutJob jobId)).Perm
      ((entries s.scheduler.cron).filter fun entry => entry.2.jobId != jobId) := by
  unfold Scheduler.withoutJob
  cases hid : s.scheduler.ids jobId with
  | none =>
      refine (List.filter_eq_self.mpr fun entry hentry => ?_).symm ▸ List.Perm.refl _
      rw [bne_iff_ne]
      intro hjob
      have hsome := (h.ids jobId entry.1).mpr ⟨entry.2, hentry, hjob⟩
      rw [hid] at hsome
      cases hsome
  | some existing =>
      obtain ⟨request, hmem, hjob⟩ := (h.ids jobId existing).mp hid
      have hsame : ∀ entry ∈ entries s.scheduler.cron,
          (entry.1 != existing) = (entry.2.jobId != jobId) := by
        intro entry hentry
        rw [Bool.eq_iff_iff, bne_iff_ne, bne_iff_ne, not_iff_not]
        constructor
        · intro hnumber
          rw [List.inj_on_of_nodup_map h.unique hentry hmem hnumber]
          exact hjob
        · intro hother
          have hsome := (h.ids jobId entry.1).mpr ⟨entry.2, hentry, hother⟩
          exact Option.some.inj (hsome.symm.trans hid)
      exact (List.filter_congr hsame) ▸ laws.removed s.scheduler.cron existing

/-- A call that changes neither the entries nor the accepted jobs. -/
theorem Tracks.of_perm (h : s.Tracks) {s' : Scheduling κ}
    (hentries : (entries s'.scheduler.cron).Perm (entries s.scheduler.cron))
    (hids : s'.scheduler.ids = s.scheduler.ids)
    (hcalls : ∀ jobId, lastAccepted s'.calls jobId = lastAccepted s.calls jobId) : s'.Tracks where
  unique := ((hentries.map Prod.fst).nodup_iff).mpr h.unique
  ids jobId id := by
    rw [hids, h.ids jobId id]
    exact exists_congr fun request => and_congr_left' hentries.mem_iff.symm
  runs jobId := by
    have hactive := (hentries.map Prod.snd).filter fun request => request.jobId == jobId
    rw [hcalls jobId]
    exact eq_toList_of_perm (hactive.trans (List.Perm.of_eq (h.runs jobId)))

/-- A call with a schedule takes the place of the earlier ones of its job. -/
theorem Tracks.accepted (laws : CronLaws κ) (h : s.Tracks)
    (hparses : parses κ request.cron = true) : (s.next request).Tracks := by
  obtain ⟨id, cron', hadd, hfresh, hadded⟩ :=
    laws.added (s.scheduler.withoutJob request.jobId) request hparses
  have hnext : s.next request = ⟨⟨cron', Function.update s.scheduler.ids request.jobId (some id)⟩,
      (request, .ok ()) :: s.calls⟩ := by
    simp only [next, Scheduler.schedule, hadd]
  have hkept := h.withoutJob laws request.jobId
  have hentries := hadded.trans (hkept.cons (id, request))
  rw [hnext]
  refine ⟨?_, fun jobId number => ?_, fun jobId => ?_⟩
  · rw [(hadded.map Prod.fst).nodup_iff]
    refine List.nodup_cons.mpr ⟨hfresh, ((hkept.map Prod.fst).nodup_iff).mpr ?_⟩
    exact h.unique.sublist (List.filter_sublist.map Prod.fst)
  · simp only [hentries.mem_iff, List.mem_cons, List.mem_filter, bne_iff_ne]
    by_cases hjob : jobId = request.jobId
    · subst hjob
      rw [Function.update_self]
      constructor
      · rintro ⟨rfl⟩
        exact ⟨request, Or.inl rfl, rfl⟩
      · rintro ⟨other, hnew | ⟨-, hother⟩, hsame⟩
        · rw [(Prod.mk.inj hnew).1]
        · exact absurd hsame hother
    · rw [Function.update_of_ne hjob, h.ids jobId number]
      constructor
      · rintro ⟨other, hmem, rfl⟩
        exact ⟨other, Or.inr ⟨hmem, hjob⟩, rfl⟩
      · rintro ⟨other, hnew | ⟨hmem, -⟩, rfl⟩
        · exact absurd (congrArg ScheduleRequest.jobId (Prod.mk.inj hnew).2) hjob
        · exact ⟨other, hmem, rfl⟩
  · refine eq_toList_of_perm (((hentries.map Prod.snd).filter _).trans ?_)
    rw [List.map_cons, List.filter_cons]
    have hmoved : (((entries s.scheduler.cron).filter fun entry =>
        entry.2.jobId != request.jobId).map Prod.snd) =
          s.scheduler.active.filter fun other => other.jobId != request.jobId := by
      rw [Scheduler.active, List.filter_map]
      rfl
    rw [hmoved, List.filter_filter]
    by_cases hjob : request.jobId = jobId
    · subst hjob
      have hgone : (s.scheduler.active.filter fun other => (other.jobId == request.jobId) &&
          (other.jobId != request.jobId)) = [] :=
        List.filter_eq_nil_iff.mpr fun other _ => by simp
      rw [hgone]
      simp [lastAccepted, Except.toBool]
    · have hothers : (s.scheduler.active.filter fun other => (other.jobId == jobId) &&
          (other.jobId != request.jobId)) =
            s.scheduler.active.filter fun other => other.jobId == jobId := by
        refine List.filter_congr fun other _ => ?_
        by_cases hother : other.jobId = jobId
        · simp [hother, Ne.symm hjob]
        · simp [hother]
      rw [hothers, h.runs jobId]
      simp [lastAccepted, hjob]

/-- A call without a schedule removes the entry of its job. -/
theorem Tracks.rejected (laws : CronLaws κ) (h : s.Tracks)
    (hparses : parses κ request.cron = false) :
    ∃ message cron', s.next request = ⟨{ s.scheduler with cron := cron' },
      (request, .error message) :: s.calls⟩ ∧ (entries cron').Perm
        ((entries s.scheduler.cron).filter fun entry => entry.2.jobId != request.jobId) := by
  obtain ⟨message, cron', hadd, hadded⟩ :=
    laws.rejected (s.scheduler.withoutJob request.jobId) request hparses
  refine ⟨message, cron', ?_, hadded.trans (h.withoutJob laws request.jobId)⟩
  simp only [next, Scheduler.schedule, hadd]

/-- A rejected call accepts nothing. -/
theorem Tracks.calls_rejected (laws : CronLaws κ) (h : s.Tracks)
    (hparses : parses κ request.cron = false) (jobId : String) :
    lastAccepted (s.next request).calls jobId = lastAccepted s.calls jobId := by
  obtain ⟨message, cron', hnext, -⟩ := h.rejected laws hparses
  rw [hnext]
  simp [lastAccepted, Except.toBool]

/-- A rejected call of a job without an entry changes no entry. -/
theorem Tracks.unknown (laws : CronLaws κ) (h : s.Tracks)
    (hparses : parses κ request.cron = false)
    (hnone : lastAccepted s.calls request.jobId = none) :
    (s.next request).Tracks ∧
      (entries (s.next request).scheduler.cron).Perm (entries s.scheduler.cron) := by
  obtain ⟨message, cron', hnext, hentries⟩ := h.rejected laws hparses
  have hsame : (entries s.scheduler.cron).filter
      (fun entry => entry.2.jobId != request.jobId) = entries s.scheduler.cron :=
    List.filter_eq_self.mpr fun entry hentry => by simpa using job_of_active h.runs hnone hentry
  rw [hsame] at hentries
  have hunchanged : (entries (s.next request).scheduler.cron).Perm (entries s.scheduler.cron) := by
    rw [hnext]
    exact hentries
  refine ⟨h.of_perm hunchanged ?_ (h.calls_rejected laws hparses), hunchanged⟩
  rw [hnext]

theorem Tracks.next (laws : CronLaws κ) (h : s.Tracks) (hreplaces : s.Replaces request) :
    (s.next request).Tracks := by
  cases hparses : parses κ request.cron with
  | true => exact h.accepted laws hparses
  | false =>
      have hnone := hreplaces.resolve_left (by simp [hparses])
      exact (h.unknown laws hparses hnone).1

/-! ## Runs of calls -/

/-- What the scheduler owes a call: it runs the accepted jobs, and an error leaves
the entries as they are. -/
structure Serves (s : Scheduling κ) (request : ScheduleRequest) : Prop where
  runs : (s.next request).RunsAccepted
  unchanged : ∀ message, (s.scheduler.schedule request).1 = .error message →
    (entries (s.next request).scheduler.cron).Perm (entries s.scheduler.cron)

/-- A call with a schedule succeeds. -/
theorem schedule_ok (laws : CronLaws κ) (hparses : parses κ request.cron = true) :
    (s.scheduler.schedule request).1 = .ok () := by
  obtain ⟨id, cron', hadd, -, -⟩ :=
    laws.added (s.scheduler.withoutJob request.jobId) request hparses
  simp only [Scheduler.schedule, hadd]

/-- No entry of the job is left by a rejected call. -/
theorem Tracks.none_of_runs (laws : CronLaws κ) (h : s.Tracks)
    (hparses : parses κ request.cron = false) (hruns : (s.next request).RunsAccepted) :
    lastAccepted s.calls request.jobId = none := by
  obtain ⟨message, cron', hnext, hentries⟩ := h.rejected laws hparses
  refine Option.toList_eq_nil_iff.mp ?_
  rw [← h.calls_rejected laws hparses, ← hruns request.jobId, hnext, Scheduler.active]
  refine List.filter_eq_nil_iff.mpr fun other hother => ?_
  obtain ⟨entry, hentry, rfl⟩ := List.mem_map.mp hother
  have hjob := (List.mem_filter.mp (hentries.mem_iff.mp hentry)).2
  simpa using hjob

theorem Tracks.serves_iff (laws : CronLaws κ) (h : s.Tracks) :
    s.Serves request ↔ s.Replaces request := by
  constructor
  · intro hserves
    cases hparses : parses κ request.cron with
    | true => exact Or.inl hparses
    | false => exact Or.inr (h.none_of_runs laws hparses hserves.runs)
  · intro hreplaces
    refine ⟨(h.next laws hreplaces).runs, fun message herror => ?_⟩
    cases hparses : parses κ request.cron with
    | true =>
        rw [schedule_ok laws hparses] at herror
        cases herror
    | false =>
        exact (h.unknown laws hparses (hreplaces.resolve_left (by simp [hparses]))).2

theorem tracks_reachable (laws : CronLaws κ) (h : (system κ Replaces).Reachable s) : s.Tracks := by
  refine h.invariant (P := Tracks) ?_ ?_
  · rintro s rfl
    constructor <;> simp [Scheduler.new, laws.new, RunsAccepted, Scheduler.active, lastAccepted]
  · rintro s request s' ⟨hreplaces, ⟨rfl⟩⟩ hs
    exact hs.next laws hreplaces

/-- As long as no call without a schedule is for an accepted job, the scheduler
runs the accepted jobs, and it serves just the calls that are no such. -/
theorem runs_accepted (laws : CronLaws κ) (h : (system κ Replaces).Reachable s) :
    s.RunsAccepted ∧ ∀ request, s.Serves request ↔ s.Replaces request :=
  ⟨(tracks_reachable laws h).runs, fun _ => (tracks_reachable laws h).serves_iff laws⟩

end Scheduling

/-! ## A table of entries -/

/-- Entries with numbers below the next one. -/
structure CronList where
  next : EntryId
  list : List (EntryId × ScheduleRequest)
  below : ∀ entry ∈ list, entry.1 < next

namespace CronList

def add (cron : CronList) (request : ScheduleRequest) : CronList where
  next := cron.next + 1
  list := (cron.next, request) :: cron.list
  below entry hentry := by
    rcases List.mem_cons.mp hentry with rfl | hbefore
    · exact Nat.lt_succ_self _
    · exact Nat.lt_succ_of_lt (cron.below entry hbefore)

def erase (cron : CronList) (id : EntryId) : CronList where
  next := cron.next
  list := cron.list.filter fun entry => entry.1 != id
  below entry hentry := cron.below entry (List.mem_filter.mp hentry).1

/-- The parser has no schedule for an empty spec. -/
instance : CronTable CronList where
  new := ⟨1, [], nofun⟩
  entries := list
  addFunc cron request :=
    if request.cron != "" then (.ok cron.next, cron.add request)
    else (.error "empty spec string", cron)
  remove := erase
  parses spec := spec != ""

theorem laws : CronLaws CronList where
  new := rfl
  added cron request hparses := by
    refine ⟨cron.next, cron.add request, if_pos hparses, fun hmem => ?_, List.Perm.refl _⟩
    obtain ⟨entry, hentry, hnumber⟩ := List.mem_map.mp hmem
    exact absurd hnumber (Nat.ne_of_lt (cron.below entry hentry))
  rejected cron request hparses :=
    ⟨_, cron, if_neg (by simpa [parses] using hparses), List.Perm.refl _⟩
  removed cron id := List.Perm.refl _

end CronList

/-- A job that is scheduled every minute. -/
def minutely : ScheduleRequest := ⟨"job", "* * * * *", "builtin.time", "\x7b\x7d"⟩

namespace Scheduling

/-- A job is scheduled, and scheduled again with other arguments. -/
theorem runs_accepted_again :
    (⟨Scheduler.new, []⟩ : Scheduling CronList).next minutely
      |>.next { minutely with argumentsJson := "[]" } |>.RunsAccepted := by
  refine (runs_accepted CronList.laws ?_).1
  have hstart : (system CronList Replaces).Reachable ⟨Scheduler.new, []⟩ := .of_init rfl
  exact (hstart.step ⟨Or.inl rfl, rfl⟩).step ⟨Or.inl rfl, rfl⟩

/-- A job that is scheduled again with a bad spec runs no more. -/
theorem runs_accepted_fails :
    ¬ ∀ {κ : Type} [CronTable κ], CronLaws κ → ∀ s : Scheduling κ,
      (system κ fun _ _ => True).Reachable s → s.RunsAccepted ∧ ∀ request, s.Serves request := by
  intro h
  have hstart : (system CronList fun _ _ => True).Reachable ⟨Scheduler.new, []⟩ := .of_init rfl
  have hruns := (h CronList.laws _ ((hstart.step ⟨trivial, rfl⟩).step ⟨trivial, rfl⟩ :
    (system CronList fun _ _ => True).Reachable ((⟨Scheduler.new, []⟩ : Scheduling CronList).next
      minutely |>.next { minutely with cron := "" }))).1 "job"
  exact absurd hruns (by decide)

end Scheduling

end OpenPinch
