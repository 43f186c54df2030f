import OpenPinch.Cli.DesktopHost

/-!
# The record of the desktop host

A record that can be read is that of a host that serves, or that did not end in
order (`recorded_reachable`).  When the hosts run one after the other, a host in its
loop is recorded, and a request is not lost: the host it is for leaves its loop
(`request_kept`).
-/

namespace OpenPinch.Desktop

open Lib (System)

/-! ## What a record says -/

/-- The state names the host. -/
structure Names (pid : Nat) (host : Host) (state : DesktopHostState) : Prop where
  hostPid : state.hostPid = pid
  gatewayEndpoint : state.gatewayEndpoint = host.listenAddress
  logFile : state.logFile = host.logFile

/-- A state names a host in all its phases. -/
theorem Names.behind {pid : Nat} {host : Host} {state : DesktopHostState}
    (h : Names pid host state) (phase : HostPhase) : Names pid { host with phase := phase } state :=
  ⟨h.hostPid, h.gatewayEndpoint, h.logFile⟩

/-- The hosts that may be behind a record: those that serve or end, those that were
killed, and those that failed. -/
def HostPhase.Leaves (state : DesktopHostState) : HostPhase → Prop
  | .serving _ => state.status = "running"
  | .polling _ => state.status = "running"
  | .opening _ failure => failure.isSome ∧ state.status = "running"
  | .writing _ _ failure => failure.isSome ∧ state.status = "running"
  | .closingShutdown => state.status = "running"
  | .closingState => state.status = "running"
  | .killed => state.status = "running"
  | .ended (.failed _) => state.status = "running" ∨ state.status = "gateway_exited"
  | _ => False

/-- The states that a host has at hand name it. -/
def Host.Consistent (pid : Nat) (host : Host) : Prop :=
  match host.phase with
  | .opening state failure => Names pid host state ∧
      state.status = if failure.isSome then "gateway_exited" else "running"
  | .writing state _ failure => Names pid host state ∧
      state.status = if failure.isSome then "gateway_exited" else "running"
  | .serving state => Names pid host state ∧ state.status = "running"
  | .polling state => Names pid host state ∧ state.status = "running"
  | _ => True

/-- A record that can be read names a host that may be behind it. -/
structure Recorded (s : Desk) : Prop where
  hosts : ∀ pid (host : Host), s.hosts[pid]? = some host → host.Consistent pid
  record : ∀ state, s.dir.load = some state →
    ∃ host, s.hosts[state.hostPid]? = some host ∧ Names state.hostPid host state ∧
      host.phase.Leaves state

/-! ## Steps -/

/-- What a step of a host does to the record and to what the host may be behind. -/
theorem Host.next_spec {pid : Nat} {host : Host} {input : HostInput} {dir dir' : RuntimeDir}
    {phase : HostPhase} (hnext : host.next pid input dir = some (phase, dir'))
    (hok : host.phase.removes = true → input.ok = true) (hhost : host.Consistent pid) :
    ({ host with phase := phase } : Host).Consistent pid ∧
    ∀ found, dir'.load = some found →
      (Names pid host found ∧ phase.Leaves found) ∨
        (dir.load = some found ∧ (host.phase.Leaves found → phase.Leaves found)) := by
  obtain ⟨listenAddress, logFile, before⟩ := host
  cases before with
  | loading =>
      simp only [Host.next] at hnext
      split at hnext
      · cases hnext
        exact ⟨trivial, fun found h => .inr ⟨h, id⟩⟩
      · cases hnext
        exact ⟨trivial, fun found h => .inr ⟨h, id⟩⟩
  | probing other =>
      simp only [Host.next] at hnext
      split at hnext
      · cases hnext
        exact ⟨trivial, fun found h => .inr ⟨h, id⟩⟩
      · cases hnext
        exact ⟨trivial, fun found h => .inr ⟨h, id⟩⟩
  | discarding =>
      cases hnext
      rw [hok rfl]
      exact ⟨trivial, by rintro _ ⟨⟩⟩
  | clearingShutdown =>
      cases hnext
      exact ⟨trivial, fun found h => .inr ⟨RuntimeDir.load_removeShutdown input.ok ▸ h, id⟩⟩
  | clearingState =>
      cases hnext
      rw [hok rfl]
      exact ⟨trivial, by rintro _ ⟨⟩⟩
  | booting =>
      simp only [Host.next] at hnext
      split at hnext
      · cases hnext
        exact ⟨⟨⟨rfl, rfl, rfl⟩, rfl⟩, fun found h => .inr ⟨h, False.elim⟩⟩
      · cases hnext
        exact ⟨trivial, fun found h => .inr ⟨h, False.elim⟩⟩
  | opening state failure =>
      simp only [Host.next] at hnext
      split at hnext
      · cases hnext
        refine ⟨⟨hhost.1.behind _, hhost.2⟩, fun found h => ?_⟩
        rw [RuntimeDir.load_create] at h
        cases h
      · cases hnext
        exact ⟨trivial, fun found h => .inr ⟨h, fun hleaves => .inl hleaves.2⟩⟩
  | writing state inode failure =>
      simp only [Host.next] at hnext
      split at hnext
      · cases failure with
        | none =>
            cases hnext
            refine ⟨⟨hhost.1.behind _, hhost.2⟩, fun found h => ?_⟩
            rcases RuntimeDir.load_put h with rfl | h
            · exact .inl hhost
            · exact .inr ⟨h, fun hleaves => absurd hleaves.1 (by simp)⟩
        | some message =>
            cases hnext
            refine ⟨trivial, fun found h => ?_⟩
            rcases RuntimeDir.load_put h with rfl | h
            · exact .inl ⟨hhost.1, .inr hhost.2⟩
            · exact .inr ⟨h, fun hleaves => .inl hleaves.2⟩
      · cases hnext
        exact ⟨trivial, fun found h =>
          .inr ⟨RuntimeDir.load_tear h, fun hleaves => .inl hleaves.2⟩⟩
  | serving state =>
      simp only [Host.next] at hnext
      split at hnext
      · split at hnext
        · cases hnext
          exact ⟨trivial, fun found h => .inr ⟨h, id⟩⟩
        · cases hnext
          exact ⟨trivial, fun found h => .inr ⟨h, .inl⟩⟩
      · split at hnext
        · cases hnext
          exact ⟨trivial, fun found h => .inr ⟨h, id⟩⟩
        · cases hnext
          exact ⟨⟨hhost.1.behind _, hhost.2⟩, fun found h => .inr ⟨h, id⟩⟩
  | polling state =>
      simp only [Host.next] at hnext
      split at hnext
      · split at hnext
        · cases hnext
          exact ⟨⟨hhost.1.behind _, hhost.2⟩, fun found h => .inr ⟨h, id⟩⟩
        · cases hnext
          obtain ⟨hnames, -⟩ := hhost
          exact ⟨⟨⟨hnames.hostPid, hnames.gatewayEndpoint, hnames.logFile⟩, rfl⟩,
            fun found h => .inr ⟨h, fun hrunning => ⟨rfl, hrunning⟩⟩⟩
      · cases hnext
        exact ⟨trivial, fun found h => .inr ⟨h, .inl⟩⟩
  | closingShutdown =>
      cases hnext
      exact ⟨trivial, fun found h => .inr ⟨RuntimeDir.load_removeShutdown input.ok ▸ h, id⟩⟩
  | closingState =>
      cases hnext
      rw [hok rfl]
      exact ⟨trivial, by rintro _ ⟨⟩⟩
  | stopping =>
      simp only [Host.next] at hnext
      split at hnext
      · cases hnext
        exact ⟨trivial, fun found h => .inr ⟨h, False.elim⟩⟩
      · cases hnext
        exact ⟨trivial, fun found h => .inr ⟨h, False.elim⟩⟩
  | ended result => cases hnext
  | killed => cases hnext

theorem HostPhase.Leaves.killed {state : DesktopHostState} {phase : HostPhase}
    (h : phase.Leaves state) (halive : phase.isOver = false) : HostPhase.killed.Leaves state := by
  cases phase with
  | serving own => exact h
  | polling own => exact h
  | opening own failure => exact h.2
  | writing own inode failure => exact h.2
  | closingShutdown => exact h
  | closingState => exact h
  | killed => exact h
  | ended result => cases halive
  | _ => exact h.elim

/-- The record that a command goes by. -/
def ShutdownPhase.record : ShutdownPhase → Option DesktopHostState
  | .requesting state => some state
  | .waiting state _ => some state
  | _ => none

/-- The record that a command has left a request for. -/
def ShutdownPhase.awaits : ShutdownPhase → Option DesktopHostState
  | .waiting state _ => some state
  | _ => none

/-- What a step of a command does: it goes by a record it has read, and leaves its
request before it waits. -/
theorem ShutdownPhase.next_spec {before phase : ShutdownPhase} {input : HostInput}
    {dir dir' : RuntimeDir} (h : before.next input dir = some (phase, dir')) :
    dir'.stateFile = dir.stateFile ∧
      (dir.shutdownFile = true → dir'.shutdownFile = true) ∧
      (∀ state, phase.record = some state →
        before.record = some state ∨ dir.load = some state) ∧
      ∀ state, phase.awaits = some state →
        before.awaits = some state ∨ dir'.shutdownFile = true := by
  cases before with
  | loading =>
      simp only [ShutdownPhase.next] at h
      split at h
      · rename_i found hfound
        cases h
        refine ⟨rfl, id, ?_, by rintro _ ⟨⟩⟩
        rintro _ ⟨⟩
        split at hfound
        · exact .inr hfound
        · cases hfound
      · cases h
        exact ⟨rfl, id, by rintro _ ⟨⟩, by rintro _ ⟨⟩⟩
  | requesting state =>
      simp only [ShutdownPhase.next] at h
      split at h
      · cases h
        exact ⟨rfl, fun _ => rfl, fun _ => .inl, fun _ _ => .inr rfl⟩
      · cases h
        refine ⟨rfl, fun hrequest => ?_, by rintro _ ⟨⟩, by rintro _ ⟨⟩⟩
        exact Bool.or_eq_true_iff.mpr (.inl hrequest)
  | waiting state rounds =>
      cases rounds with
      | zero =>
          cases h
          exact ⟨rfl, id, by rintro _ ⟨⟩, by rintro _ ⟨⟩⟩
      | succ rounds =>
          simp only [ShutdownPhase.next] at h
          split at h
          · cases h
            exact ⟨rfl, id, fun _ => .inl, fun _ => .inl⟩
          · cases h
            exact ⟨rfl, id, by rintro _ ⟨⟩, by rintro _ ⟨⟩⟩
  | requested gateway => cases h
  | failed message => cases h

/-- One host moves on, with or without an operation on the files. -/
theorem Recorded.setPhase {s : Desk} {pid : Nat} {host : Host} {phase : HostPhase}
    {dir : RuntimeDir} (hs : Recorded s) (hfound : s.hosts[pid]? = some host)
    (hconsistent : ({ host with phase := phase } : Host).Consistent pid)
    (hrecord : ∀ state, dir.load = some state →
      (Names pid host state ∧ phase.Leaves state) ∨
        (s.dir.load = some state ∧ (host.phase.Leaves state → phase.Leaves state))) :
    Recorded { s.setPhase pid host phase with dir := dir } where
  hosts := by
    intro other found h
    rcases getElem?_setPhase h with ⟨rfl, rfl⟩ | ⟨-, h⟩
    · exact hconsistent
    · exact hs.hosts other found h
  record := by
    intro state hload
    rcases hrecord state hload with ⟨hnames, hleaves⟩ | ⟨hload, hkept⟩
    · have hpid := hnames.hostPid
      subst hpid
      exact ⟨_, setPhase_self hfound phase, hnames.behind _, hleaves⟩
    · obtain ⟨other, hother, hnames, hleaves⟩ := hs.record state hload
      by_cases heq : state.hostPid = pid
      · subst heq
        obtain rfl := Option.some.inj (hfound.symm.trans hother)
        exact ⟨_, setPhase_self hfound phase, hnames.behind _, hkept hleaves⟩
      · exact ⟨other, (setPhase_other heq host phase).trans hother, hnames, hleaves⟩

theorem recorded_step {s s' : Desk} {move : Move} (hobliging : Obliging s move = true)
    (hmove : Moves s move s') (hs : Recorded s) : Recorded s' := by
  cases hmove with
  | start listenAddress logFile =>
      refine ⟨fun pid host h => ?_, fun state hload => ?_⟩
      · rcases getElem?_started h with h | ⟨-, rfl⟩
        · exact hs.hosts pid host h
        · trivial
      · obtain ⟨host, hfound, hnames, hleaves⟩ := hs.record state hload
        exact ⟨host, getElem?_kept hfound _, hnames, hleaves⟩
  | @step pid input host phase dir hfound hnext =>
      have hok : host.phase.removes = true → input.ok = true := by
        intro hremoves
        simpa [Obliging, hfound, hremoves] using hobliging
      obtain ⟨hconsistent, hrecord⟩ := Host.next_spec hnext hok (hs.hosts pid host hfound)
      exact hs.setPhase hfound hconsistent hrecord
  | @kill pid host hfound halive =>
      exact hs.setPhase hfound trivial fun _ hload => .inr ⟨hload, (·.killed halive)⟩
  | shutdown => exact ⟨hs.hosts, hs.record⟩
  | ask hfound hnext =>
      refine ⟨hs.hosts, fun state hload => hs.record state ?_⟩
      exact (RuntimeDir.load_congr (ShutdownPhase.next_spec hnext).1).symm.trans hload

theorem recorded_initial : Recorded Desk.initial where
  hosts := by
    rintro pid host ⟨⟩
  record := by
    rintro state ⟨⟩

theorem recorded_of_reachable {allowed : Desk → Move → Bool}
    (hallowed : ∀ s move, allowed s move = true → Obliging s move = true) {s : Desk}
    (h : (system allowed).Reachable s) : Recorded s := by
  refine System.Reachable.invariant (P := Recorded) ?_ ?_ h
  · rintro s rfl
    exact recorded_initial
  · intro s move s' hstep hs
    exact recorded_step (hallowed s move hstep.1) (moves_of_next? hstep.2) hs

/-- When no removal is refused, a record that can be read names a host with its
address and its log, and that host serves, or is about to end, or was killed, or
failed: never one that ended in order. -/
theorem recorded_reachable {s : Desk} (h : (system Obliging).Reachable s)
    {state : DesktopHostState} (hload : s.dir.load = some state) :
    ∃ host, s.hosts[state.hostPid]? = some host ∧ Names state.hostPid host state ∧
      host.phase.Leaves state :=
  (recorded_of_reachable (fun _ _ h => h) h).record state hload

/-! ## One after the other -/

/-- The host is in its loop. -/
def HostPhase.listens : HostPhase → Bool
  | .serving _ => true
  | .polling _ => true
  | _ => false

/-- The host has come to its loop, or has ended. -/
def HostPhase.settled : HostPhase → Bool
  | .loading => false
  | .probing _ => false
  | .discarding => false
  | .clearingShutdown => false
  | .clearingState => false
  | .booting => false
  | .opening _ failure => failure.isSome
  | .writing _ _ failure => failure.isSome
  | _ => true

/-- What the host has at hand is what is on disk. -/
def Host.Holds (dir : RuntimeDir) (host : Host) : Prop :=
  match host.phase with
  | .writing _ inode _ => dir.stateFile = some ⟨inode, .empty⟩
  | .serving state => dir.load = some state
  | .polling state => dir.load = some state
  | _ => True

/-- What holds when the hosts run one after the other. -/
structure Tidy (s : Desk) : Prop where
  recorded : Recorded s
  single : ∀ (pid other : Nat) (host found : Host), s.hosts[pid]? = some host →
    s.hosts[other]? = some found → host.phase.isOver = false → found.phase.isOver = false →
      other = pid
  holds : ∀ (pid : Nat) (host : Host), s.hosts[pid]? = some host → host.Holds s.dir
  callers : ∀ phase ∈ s.shutdowns, ∀ state, phase.record = some state →
    ∃ host, s.hosts[state.hostPid]? = some host ∧ host.phase.settled = true
  requests : ∀ phase ∈ s.shutdowns, ∀ state, phase.awaits = some state →
    ∀ host, s.hosts[state.hostPid]? = some host → host.phase.listens = true →
      s.dir.shutdownFile = true

section

variable {pid : Nat} {host : Host} {input : HostInput} {dir dir' : RuntimeDir}
  {phase : HostPhase}

theorem Host.holds_of_over (h : host.phase.isOver = true) (dir : RuntimeDir) :
    host.Holds dir := by
  obtain ⟨listenAddress, logFile, phase⟩ := host
  cases phase with
  | ended result => trivial
  | killed => trivial
  | _ => cases h

theorem HostPhase.listens_of_over (h : phase.isOver = true) : phase.listens = false := by
  cases phase with
  | ended result => rfl
  | killed => rfl
  | _ => cases h

theorem HostPhase.Leaves.settled {state : DesktopHostState} (h : phase.Leaves state) :
    phase.settled = true := by
  cases phase with
  | opening own failure => exact h.1
  | writing own inode failure => exact h.1
  | serving own => rfl
  | polling own => rfl
  | closingShutdown => rfl
  | closingState => rfl
  | ended result => rfl
  | killed => rfl
  | _ => exact h.elim

theorem Host.next_alive (h : host.next pid input dir = some (phase, dir')) :
    host.phase.isOver = false := by
  obtain ⟨listenAddress, logFile, before⟩ := host
  cases before with
  | ended result => cases h
  | killed => cases h
  | _ => rfl

/-- A host keeps what is on disk in step with what it has at hand. -/
theorem Host.next_holds (h : host.next pid input dir = some (phase, dir'))
    (hhost : host.Holds dir) : ({ host with phase := phase } : Host).Holds dir' := by
  obtain ⟨listenAddress, logFile, before⟩ := host
  cases before with
  | opening state failure =>
      simp only [Host.next] at h
      split at h
      · cases h
        exact RuntimeDir.stateFile_create
      · cases h
        trivial
  | writing state inode failure =>
      simp only [Host.next] at h
      split at h
      · cases failure with
        | none =>
            cases h
            exact RuntimeDir.load_put_empty hhost input.clean
        | some message =>
            cases h
            trivial
      · cases h
        trivial
  | serving state =>
      simp only [Host.next] at h
      split at h
      · split at h
        · cases h
          trivial
        · cases h
          trivial
      · split at h
        · cases h
          trivial
        · cases h
          exact hhost
  | polling state =>
      simp only [Host.next] at h
      split at h
      · split at h
        · cases h
          exact hhost
        · cases h
          trivial
      · cases h
        trivial
  | _ =>
      simp only [Host.next] at h
      repeat' split at h
      all_goals cases h
      all_goals trivial

/-- A host does not come back to its start, nor to its loop, and touches no request
while it is there. -/
theorem Host.next_settled (h : host.next pid input dir = some (phase, dir'))
    (hsettled : host.phase.settled = true) :
    phase.settled = true ∧
      (phase.listens = true →
        host.phase.listens = true ∧ dir'.shutdownFile = dir.shutdownFile) := by
  obtain ⟨listenAddress, logFile, before⟩ := host
  cases before with
  | opening state failure =>
      simp only [Host.next] at h
      split at h
      · cases h
        exact ⟨hsettled, by rintro ⟨⟩⟩
      · cases h
        exact ⟨rfl, by rintro ⟨⟩⟩
  | writing state inode failure =>
      obtain ⟨message, rfl⟩ := Option.isSome_iff_exists.mp hsettled
      simp only [Host.next] at h
      split at h
      · cases h
        exact ⟨rfl, by rintro ⟨⟩⟩
      · cases h
        exact ⟨rfl, by rintro ⟨⟩⟩
  | serving state =>
      simp only [Host.next] at h
      repeat' split at h
      all_goals cases h
      all_goals exact ⟨rfl, fun _ => ⟨rfl, rfl⟩⟩
  | polling state =>
      simp only [Host.next] at h
      repeat' split at h
      all_goals cases h
      all_goals exact ⟨rfl, fun _ => ⟨rfl, rfl⟩⟩
  | closingShutdown =>
      cases h
      exact ⟨rfl, by rintro ⟨⟩⟩
  | closingState =>
      cases h
      exact ⟨rfl, by rintro ⟨⟩⟩
  | stopping =>
      simp only [Host.next] at h
      split at h
      · cases h
        exact ⟨rfl, by rintro ⟨⟩⟩
      · cases h
        exact ⟨rfl, by rintro ⟨⟩⟩
  | ended result => cases h
  | killed => cases h
  | _ => cases hsettled

/-- At the head of its loop a host finds the request. -/
theorem Host.next_leaves {state : DesktopHostState} {next : HostPhase × RuntimeDir}
    (hserving : host.phase = .serving state) (hrequest : dir.shutdownFile = true)
    (h : host.next pid input dir = some next) : next.1.listens = false := by
  unfold Host.next at h
  rw [hserving] at h
  simp only [hrequest, if_true] at h
  repeat' split at h
  all_goals cases h
  all_goals rfl

end

theorem Host.holds_congr {host : Host} {dir dir' : RuntimeDir}
    (h : dir'.stateFile = dir.stateFile) (hhost : host.Holds dir) : host.Holds dir' := by
  obtain ⟨listenAddress, logFile, phase⟩ := host
  cases phase with
  | writing state inode failure => exact h.trans hhost
  | serving state => exact (RuntimeDir.load_congr h).trans hhost
  | polling state => exact (RuntimeDir.load_congr h).trans hhost
  | _ => trivial

theorem ShutdownPhase.record_of_awaits {phase : ShutdownPhase} {state : DesktopHostState}
    (h : phase.awaits = some state) : phase.record = some state := by
  cases phase with
  | waiting own rounds => exact h
  | _ => cases h

/-- A host in its loop has the record at hand that is on disk. -/
theorem Host.recorded_of_listens {pid : Nat} {host : Host} {dir : RuntimeDir}
    (hconsistent : host.Consistent pid) (hholds : host.Holds dir)
    (hlistens : host.phase.listens = true) :
    ∃ state, dir.load = some state ∧ Names pid host state := by
  obtain ⟨listenAddress, logFile, phase⟩ := host
  cases phase with
  | serving state => exact ⟨state, hholds, hconsistent.1⟩
  | polling state => exact ⟨state, hholds, hconsistent.1⟩
  | _ => cases hlistens

theorem Tidy.start {s : Desk} {listenAddress logFile : String} (hs : Tidy s)
    (hsuccessive : Successive s (.start listenAddress logFile) = true)
    (hrecorded : Recorded
      { s with hosts := s.hosts ++ [⟨listenAddress, logFile, .loading⟩] }) :
    Tidy { s with hosts := s.hosts ++ [⟨listenAddress, logFile, .loading⟩] } := by
  have hover : ∀ (pid : Nat) (host : Host), s.hosts[pid]? = some host →
      host.phase.isOver = true :=
    fun pid host h => List.all_eq_true.mp hsuccessive host (List.mem_of_getElem? h)
  refine ⟨hrecorded, ?_, ?_, ?_, ?_⟩
  · intro pid other host found hpid hother hhost hfound
    rcases getElem?_started hpid with hpid | ⟨rfl, -⟩
    · exact absurd (hover pid host hpid) (Bool.eq_false_iff.mp hhost)
    · rcases getElem?_started hother with hother | ⟨rfl, -⟩
      · exact absurd (hover other found hother) (Bool.eq_false_iff.mp hfound)
      · rfl
  · intro pid host h
    rcases getElem?_started h with h | ⟨-, rfl⟩
    · exact hs.holds pid host h
    · trivial
  · intro phase hphase state hstate
    obtain ⟨host, hfound, hsettled⟩ := hs.callers phase hphase state hstate
    exact ⟨host, getElem?_kept hfound _, hsettled⟩
  · intro phase hphase state hstate host hfound hlistens
    rcases getElem?_started hfound with hfound | ⟨-, rfl⟩
    · exact hs.requests phase hphase state hstate host hfound hlistens
    · cases hlistens

/-- One host moves on, with or without an operation on the files.  The others have
ended. -/
theorem Tidy.setPhase {s : Desk} {pid : Nat} {host : Host} {phase : HostPhase}
    {dir : RuntimeDir} (hs : Tidy s) (hfound : s.hosts[pid]? = some host)
    (halive : host.phase.isOver = false)
    (hholds : ({ host with phase := phase } : Host).Holds dir)
    (hsettles : host.phase.settled = true → phase.settled = true ∧
      (phase.listens = true →
        host.phase.listens = true ∧ dir.shutdownFile = s.dir.shutdownFile))
    (hrecorded : Recorded { s.setPhase pid host phase with dir := dir }) :
    Tidy { s.setPhase pid host phase with dir := dir } := by
  have hover : ∀ (other : Nat) (found : Host), other ≠ pid → s.hosts[other]? = some found →
      found.phase.isOver = true := by
    intro other found hne hother
    by_contra hlive
    exact hne (hs.single pid other host found hfound hother halive (Bool.eq_false_iff.mpr hlive))
  have hself : ∀ (other : Nat) (found : Host),
      (s.setPhase pid host phase).hosts[other]? = some found → found.phase.isOver = false →
        other = pid := by
    intro other found hother hlive
    rcases getElem?_setPhase hother with ⟨heq, -⟩ | ⟨hne, hother⟩
    · exact heq
    · exact absurd (hover other found hne hother) (Bool.eq_false_iff.mp hlive)
  refine ⟨hrecorded, ?_, ?_, ?_, ?_⟩
  · intro first second one two hone htwo hliveOne hliveTwo
    exact (hself second two htwo hliveTwo).trans (hself first one hone hliveOne).symm
  · intro other found hother
    rcases getElem?_setPhase hother with ⟨rfl, rfl⟩ | ⟨hne, hother⟩
    · exact hholds
    · exact Host.holds_of_over (hover other found hne hother) dir
  · intro before hbefore state hstate
    obtain ⟨other, hother, hsettled⟩ := hs.callers before hbefore state hstate
    by_cases heq : state.hostPid = pid
    · rw [heq] at hother ⊢
      obtain rfl := Option.some.inj (hfound.symm.trans hother)
      exact ⟨_, setPhase_self hfound phase, (hsettles hsettled).1⟩
    · exact ⟨other, (setPhase_other heq host phase).trans hother, hsettled⟩
  · intro before hbefore state hstate found hother hlistens
    rcases getElem?_setPhase hother with ⟨heq, rfl⟩ | ⟨hne, hother⟩
    · -- The command goes by a record, so that the host has come to its loop before.
      obtain ⟨other, hcaller, hsettled⟩ := hs.callers before hbefore state
        (ShutdownPhase.record_of_awaits hstate)
      rw [heq] at hcaller
      obtain rfl := Option.some.inj (hfound.symm.trans hcaller)
      obtain ⟨hlistened, hkept⟩ := (hsettles hsettled).2 hlistens
      exact hkept.trans (hs.requests before hbefore state hstate host (heq ▸ hfound) hlistened)
    · rw [HostPhase.listens_of_over (hover _ found hne hother)] at hlistens
      cases hlistens

theorem Tidy.ask {s : Desk} {caller : Nat} {input : HostInput} {before phase : ShutdownPhase}
    {dir : RuntimeDir} (hs : Tidy s) (hfound : s.shutdowns[caller]? = some before)
    (hnext : before.next input s.dir = some (phase, dir))
    (hrecorded : Recorded { s with shutdowns := s.shutdowns.set caller phase, dir := dir }) :
    Tidy { s with shutdowns := s.shutdowns.set caller phase, dir := dir } := by
  obtain ⟨hfile, hmonotone, hrecord, hawaits⟩ := ShutdownPhase.next_spec hnext
  have hbefore := List.mem_of_getElem? hfound
  refine ⟨hrecorded, hs.single, ?_, ?_, ?_⟩
  · intro pid host h
    exact Host.holds_congr hfile (hs.holds pid host h)
  · intro other hother state hstate
    rcases List.mem_or_eq_of_mem_set hother with hother | rfl
    · exact hs.callers other hother state hstate
    · rcases hrecord state hstate with hstate | hload
      · exact hs.callers before hbefore state hstate
      · obtain ⟨host, hhost, -, hleaves⟩ := hs.recorded.record state hload
        exact ⟨host, hhost, hleaves.settled⟩
  · intro other hother state hstate host hhost hlistens
    rcases List.mem_or_eq_of_mem_set hother with hother | rfl
    · exact hmonotone (hs.requests other hother state hstate host hhost hlistens)
    · rcases hawaits state hstate with hstate | hrequest
      · exact hmonotone (hs.requests before hbefore state hstate host hhost hlistens)
      · exact hrequest

/-- A command that has just been run goes by no record. -/
theorem Tidy.shutdown {s : Desk} (hs : Tidy s)
    (hrecorded : Recorded { s with shutdowns := s.shutdowns ++ [.loading] }) :
    Tidy { s with shutdowns := s.shutdowns ++ [.loading] } := by
  refine ⟨hrecorded, hs.single, hs.holds, ?_, ?_⟩
  · intro phase hphase state hstate
    rcases List.mem_append.mp hphase with hphase | hphase
    · exact hs.callers phase hphase state hstate
    · rw [List.mem_singleton.mp hphase] at hstate
      cases hstate
  · intro phase hphase state hstate
    rcases List.mem_append.mp hphase with hphase | hphase
    · exact hs.requests phase hphase state hstate
    · rw [List.mem_singleton.mp hphase] at hstate
      cases hstate

theorem tidy_step {s s' : Desk} {move : Move} (hobliging : Obliging s move = true)
    (hsuccessive : Successive s move = true) (hmove : Moves s move s') (hs : Tidy s) :
    Tidy s' := by
  have hrecorded := recorded_step hobliging hmove hs.recorded
  cases hmove with
  | start listenAddress logFile => exact hs.start hsuccessive hrecorded
  | step hfound hnext =>
      exact hs.setPhase hfound (Host.next_alive hnext)
        (Host.next_holds hnext (hs.holds _ _ hfound)) (Host.next_settled hnext) hrecorded
  | kill hfound halive =>
      exact hs.setPhase hfound halive trivial (fun _ => ⟨rfl, by rintro ⟨⟩⟩) hrecorded
  | shutdown => exact hs.shutdown hrecorded
  | ask hfound hnext => exact hs.ask hfound hnext hrecorded

theorem tidy_initial : Tidy Desk.initial where
  recorded := recorded_initial
  single := by
    rintro pid other host found ⟨⟩
  holds := by
    rintro pid host ⟨⟩
  callers := by
    rintro phase ⟨⟩
  requests := by
    rintro phase ⟨⟩

theorem tidy_of_reachable {s : Desk} (h : (system Orderly).Reachable s) : Tidy s := by
  refine System.Reachable.invariant (P := Tidy) ?_ ?_ h
  · rintro s rfl
    exact tidy_initial
  · intro s move s' hstep hs
    obtain ⟨hobliging, hsuccessive⟩ := Bool.and_eq_true_iff.mp hstep.1
    exact tidy_step hobliging hsuccessive (moves_of_next? hstep.2) hs

/-- When the hosts run one after the other, a host in its loop is the one that is
recorded.  A request is not lost: while a command waits, the host it asked finds the
request at the head of its loop and leaves it, or has left it. -/
theorem request_kept {s : Desk} (h : (system Orderly).Reachable s) :
    (∀ (pid : Nat) (host : Host), s.hosts[pid]? = some host → host.phase.listens = true →
      ∃ state, s.dir.load = some state ∧ Names pid host state) ∧
    ∀ phase ∈ s.shutdowns, ∀ state, phase.awaits = some state →
      ∃ host, s.hosts[state.hostPid]? = some host ∧
        (host.phase.listens = true → s.dir.shutdownFile = true) ∧
        ∀ own input next, host.phase = .serving own →
          host.next state.hostPid input s.dir = some next → next.1.listens = false := by
  have hs := tidy_of_reachable h
  refine ⟨fun pid host hfound hlistens => ?_, fun phase hphase state hstate => ?_⟩
  · exact Host.recorded_of_listens (hs.recorded.hosts pid host hfound) (hs.holds pid host hfound)
      hlistens
  · obtain ⟨host, hfound, -⟩ := hs.callers phase hphase state
      (ShutdownPhase.record_of_awaits hstate)
    have hrequest := hs.requests phase hphase state hstate host hfound
    refine ⟨host, hfound, hrequest, fun own input next hserving hnext => ?_⟩
    have hlistens : host.phase.listens = true := by
      rw [hserving]
      rfl
    exact Host.next_leaves hserving (hrequest hlistens) hnext

/-! ## A host that is asked and killed -/

/-- A host comes to its loop and is asked to end. -/
def askedHost : List Move :=
  .start "127.0.0.1:50051" "openpinch.log" ::
    List.replicate 6 (.step 0 { runtimeEndpoint := "runtime.sock", now := "1700000000" }) ++
    [.shutdown, .ask 0 {}, .ask 0 {}]

/-- The record of the host. -/
def askedState : DesktopHostState :=
  ⟨"running", 0, "127.0.0.1:50051", "runtime.sock", "openpinch.log", "1700000000"⟩

/-- What is there before the host finds the request. -/
def askedDesk : Desk where
  dir := ⟨some ⟨0, .whole askedState⟩, true, 1⟩
  hosts := [⟨"127.0.0.1:50051", "openpinch.log", .serving askedState⟩]
  shutdowns := [.waiting askedState 20]

/-- What is there when the host is killed. -/
def killedDesk : Desk :=
  { askedDesk with hosts := [⟨"127.0.0.1:50051", "openpinch.log", .killed⟩] }

theorem recorded_reachable_killed :
    ∃ host, killedDesk.hosts[0]? = some host ∧ Names 0 host askedState ∧
      host.phase.Leaves askedState := by
  have hplay : System.play Desk.next? Obliging (askedHost ++ [.kill 0]) Desk.initial =
      some killedDesk := by
    decide
  have hreachable : (system Obliging).Reachable killedDesk :=
    System.reachable_of_play (fun _ _ _ h => h) rfl hplay
  exact @recorded_reachable killedDesk hreachable askedState rfl

/-- The host that serves is named by the record, and leaves its loop at its next look. -/
theorem request_kept_asked :
    (∃ state, askedDesk.dir.load = some state ∧
      Names 0 ⟨"127.0.0.1:50051", "openpinch.log", .serving askedState⟩ state) ∧
    ∃ host, askedDesk.hosts[0]? = some host ∧
      (host.phase.listens = true → askedDesk.dir.shutdownFile = true) ∧
      ∀ own input next, host.phase = .serving own →
        host.next 0 input askedDesk.dir = some next → next.1.listens = false := by
  have hplay : System.play Desk.next? Orderly askedHost Desk.initial = some askedDesk := by
    decide
  have hreachable : (system Orderly).Reachable askedDesk :=
    System.reachable_of_play (fun _ _ _ h => h) rfl hplay
  obtain ⟨hrecords, hrequests⟩ := request_kept hreachable
  exact ⟨hrecords 0 _ rfl rfl,
    hrequests (.waiting askedState 20) (by decide) askedState rfl⟩

end OpenPinch.Desktop
