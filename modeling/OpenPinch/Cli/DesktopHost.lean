import OpenPinch.Lib.Transition

/-!
# The desktop host

`openpinch desktop host` records itself in a file and serves until it is
interrupted, its gateway ends, or `openpinch desktop shutdown` leaves a request in
a second file.  Any number of both commands run at the same time and take turns
between any two operations on the files; a host may be killed between any two.
-/

namespace OpenPinch.Desktop

open Lib (System)

/-! ## The files -/

/-- `DesktopHostState`. -/
structure DesktopHostState where
  status : String
  hostPid : Nat
  gatewayEndpoint : String
  runtimeEndpoint : String
  logFile : String
  startedAt : String
deriving DecidableEq, Repr

/-- The bytes of the file of the state: what parses as a state is one that was
written whole. -/
inductive RecordBytes where
  | empty
  | torn
  | whole (state : DesktopHostState)
deriving DecidableEq, Repr

/-- A file and its number, which stays with those who have it open. -/
structure RecordFile where
  inode : Nat
  bytes : RecordBytes
deriving DecidableEq, Repr

/-- The files of the desktop host in the runtime directory. -/
structure RuntimeDir where
  /-- `desktop-host.json`. -/
  stateFile : Option RecordFile
  /-- `desktop-host.shutdown` exists. -/
  shutdownFile : Bool
  /-- The number of the next file. -/
  inodes : Nat
deriving DecidableEq, Repr

namespace RuntimeDir

/-- `load_desktop_host_state`. -/
def load (dir : RuntimeDir) : Option DesktopHostState :=
  match dir.stateFile with
  | some ⟨_, .whole state⟩ => some state
  | _ => none

/-- `remove_file` on the file of the state, which may be refused. -/
def removeState (dir : RuntimeDir) (ok : Bool) : RuntimeDir :=
  if ok then { dir with stateFile := none } else dir

/-- `remove_file` on the request, which may be refused. -/
def removeShutdown (dir : RuntimeDir) (ok : Bool) : RuntimeDir :=
  if ok then { dir with shutdownFile := false } else dir

/-- The first half of `std::fs::write`: the file is emptied, or made. -/
def create (dir : RuntimeDir) : RuntimeDir :=
  match dir.stateFile with
  | some file => { dir with stateFile := some { file with bytes := .empty } }
  | none => { dir with stateFile := some ⟨dir.inodes, .empty⟩, inodes := dir.inodes + 1 }

/-- The number of the file that `create` opens. -/
def opened (dir : RuntimeDir) : Nat :=
  match dir.stateFile with
  | some file => file.inode
  | none => dir.inodes

/-- The second half: bytes are written to an open file.  They are on disk when the
file has not been replaced, and whole when nobody else wrote to it. -/
def put (dir : RuntimeDir) (inode : Nat) (state : DesktopHostState) (clean : Bool) : RuntimeDir :=
  match dir.stateFile with
  | some file =>
      if file.inode = inode then
        if file.bytes = .empty ∨ clean then
          { dir with stateFile := some ⟨inode, .whole state⟩ }
        else { dir with stateFile := some ⟨inode, .torn⟩ }
      else dir
  | none => dir

/-- A write that fails, before or behind its first bytes. -/
def tear (dir : RuntimeDir) (inode : Nat) (partly : Bool) : RuntimeDir :=
  match dir.stateFile with
  | some file =>
      if file.inode = inode ∧ partly then { dir with stateFile := some ⟨inode, .torn⟩ } else dir
  | none => dir

section

variable {dir : RuntimeDir} {state found : DesktopHostState}

theorem load_create : dir.create.load = none := by
  unfold create load
  cases dir.stateFile <;> rfl

theorem load_congr {other : RuntimeDir} (h : dir.stateFile = other.stateFile) :
    dir.load = other.load := by
  unfold load
  rw [h]

theorem load_removeState : (dir.removeState true).load = none := rfl

theorem load_removeShutdown (ok : Bool) : (dir.removeShutdown ok).load = dir.load := by
  cases ok <;> rfl

/-- What is read behind a write was written, or was there before. -/
theorem load_put {inode : Nat} {clean : Bool} (h : (dir.put inode state clean).load = some found) :
    found = state ∨ dir.load = some found := by
  unfold put at h
  split at h
  · rename_i file hfile
    split at h
    · split at h
      · exact .inl (Option.some.inj h).symm
      · cases h
    · exact .inr h
  · exact .inr h

theorem load_put_empty {inode : Nat} (h : dir.stateFile = some ⟨inode, .empty⟩) (clean : Bool) :
    (dir.put inode state clean).load = some state := by
  unfold put
  rw [h]
  exact congrArg RuntimeDir.load ((if_pos rfl).trans (if_pos (.inl rfl)))

theorem stateFile_create : dir.create.stateFile = some ⟨dir.opened, .empty⟩ := by
  unfold create opened
  cases dir.stateFile <;> rfl

theorem load_tear {inode : Nat} {partly : Bool} (h : (dir.tear inode partly).load = some found) :
    dir.load = some found := by
  unfold tear at h
  split at h
  · split at h
    · cases h
    · exact h
  · exact h

end

end RuntimeDir

/-! ## Hosts -/

/-- How `run_desktop_host` ends. -/
inductive HostResult where
  | alreadyRunning
  | stopped
  | failed (message : String)
deriving DecidableEq, Repr

/-- Where a host is: before which operation. -/
inductive HostPhase where
  /-- `healthy_desktop_host` reads the record. -/
  | loading
  /-- It asks the gateway of the record. -/
  | probing (found : DesktopHostState)
  /-- It removes a record whose gateway does not answer. -/
  | discarding
  | clearingShutdown
  | clearingState
  | booting
  /-- `write_desktop_host_state` opens the file, and what the host fails with
  behind it. -/
  | opening (state : DesktopHostState) (failure : Option String)
  | writing (state : DesktopHostState) (inode : Nat) (failure : Option String)
  /-- The head of the loop. -/
  | serving (state : DesktopHostState)
  /-- The gateway is asked whether it has ended. -/
  | polling (state : DesktopHostState)
  | closingShutdown
  | closingState
  /-- `shutdown_runtime_sidecars`. -/
  | stopping
  | ended (result : HostResult)
  | killed
deriving DecidableEq, Repr

/-- A host, with what it takes from its configuration. -/
structure Host where
  listenAddress : String
  logFile : String
  phase : HostPhase
deriving DecidableEq, Repr

/-- What happens to a host in one operation. -/
structure HostInput where
  /-- The operation succeeds; for a probe, the gateway answers. -/
  ok : Bool := true
  /-- Bytes that are written over others replace them. -/
  clean : Bool := true
  /-- A write that fails has written something. -/
  partly : Bool := true
  /-- Ctrl+C arrives. -/
  interrupt : Bool := false
  /-- The gateway has ended, with a status. -/
  exited : Option String := none
  runtimeEndpoint : String := ""
  now : String := ""
  error : String := ""
deriving DecidableEq, Repr

/-- The next operation of `run_desktop_host`. -/
def Host.next (pid : Nat) (host : Host) (input : HostInput) (dir : RuntimeDir) :
    Option (HostPhase × RuntimeDir) :=
  match host.phase with
  | .loading =>
      match (if input.ok then dir.load else none) with
      | some found => some (.probing found, dir)
      | none => some (.clearingShutdown, dir)
  | .probing _ =>
      -- The record is not asked whose gateway it is that answers.
      if input.ok then some (.ended .alreadyRunning, dir) else some (.discarding, dir)
  | .discarding => some (.clearingShutdown, dir.removeState input.ok)
  | .clearingShutdown => some (.clearingState, dir.removeShutdown input.ok)
  | .clearingState => some (.booting, dir.removeState input.ok)
  | .booting =>
      if input.ok then
        some (.opening
          { status := "running"
            hostPid := pid
            gatewayEndpoint := host.listenAddress
            runtimeEndpoint := input.runtimeEndpoint
            logFile := host.logFile
            startedAt := input.now } none, dir)
      else some (.ended (.failed input.error), dir)
  | .opening state failure =>
      if input.ok then some (.writing state dir.opened failure, dir.create)
      else some (.ended (.failed "failed to write desktop host state"), dir)
  | .writing state inode failure =>
      if input.ok then
        match failure with
        | none => some (.serving state, dir.put inode state input.clean)
        | some message => some (.ended (.failed message), dir.put inode state input.clean)
      else some (.ended (.failed "failed to write desktop host state"), dir.tear inode input.partly)
  | .serving state =>
      if input.interrupt then
        if input.ok then some (.closingShutdown, dir)
        else some (.ended (.failed "failed to listen for Ctrl+C"), dir)
      -- The half second is over.
      else if dir.shutdownFile then some (.closingShutdown, dir)
      else some (.polling state, dir)
  | .polling state =>
      if input.ok then
        match input.exited with
        | none => some (.serving state, dir)
        | some status =>
            some (.opening { state with status := "gateway_exited" }
              (some s!"gateway exited with status {status}"), dir)
      else some (.ended (.failed "poll gateway process"), dir)
  | .closingShutdown => some (.closingState, dir.removeShutdown input.ok)
  | .closingState => some (.stopping, dir.removeState input.ok)
  | .stopping =>
      if input.ok then some (.ended .stopped, dir) else some (.ended (.failed input.error), dir)
  | .ended _ => none
  | .killed => none

/-! ## Requests -/

/-- Where `shutdown_desktop_host` is. -/
inductive ShutdownPhase where
  | loading
  | requesting (state : DesktopHostState)
  /-- It waits for the record to go, for some more rounds. -/
  | waiting (state : DesktopHostState) (rounds : Nat)
  | requested (gateway : String)
  | failed (message : String)
deriving DecidableEq, Repr

/-- The next operation of `shutdown_desktop_host`. -/
def ShutdownPhase.next (phase : ShutdownPhase) (input : HostInput) (dir : RuntimeDir) :
    Option (ShutdownPhase × RuntimeDir) :=
  match phase with
  | .loading =>
      match (if input.ok then dir.load else none) with
      | some state => some (.requesting state, dir)
      | none => some (.failed "desktop host is not running", dir)
  | .requesting state =>
      if input.ok then some (.waiting state 20, { dir with shutdownFile := true })
      else
        some (.failed "failed to write desktop shutdown request",
          { dir with shutdownFile := dir.shutdownFile || input.partly })
  | .waiting state 0 => some (.requested state.gatewayEndpoint, dir)
  | .waiting state (rounds + 1) =>
      if dir.stateFile.isSome then some (.waiting state rounds, dir)
      else some (.requested state.gatewayEndpoint, dir)
  | .requested _ => none
  | .failed _ => none

/-! ## All together -/

/-- The files, the hosts by their process ids, and the shutdown commands. -/
structure Desk where
  dir : RuntimeDir
  hosts : List Host
  shutdowns : List ShutdownPhase
deriving DecidableEq, Repr

/-- What happens next. -/
inductive Move where
  /-- `openpinch desktop host` is run. -/
  | start (listenAddress logFile : String)
  /-- A host takes a step. -/
  | step (pid : Nat) (input : HostInput)
  /-- A host is killed. -/
  | kill (pid : Nat)
  /-- `openpinch desktop shutdown` is run. -/
  | shutdown
  /-- It takes a step. -/
  | ask (caller : Nat) (input : HostInput)
deriving DecidableEq, Repr

/-- The process has ended. -/
def HostPhase.isOver : HostPhase → Bool
  | .ended _ => true
  | .killed => true
  | _ => false

namespace Desk

/-- A host in another phase. -/
def setPhase (s : Desk) (pid : Nat) (host : Host) (phase : HostPhase) : Desk :=
  { s with hosts := s.hosts.set pid { host with phase := phase } }

/-- The state after a move. -/
def next? (s : Desk) : Move → Option Desk
  | .start listenAddress logFile =>
      some { s with hosts := s.hosts ++ [⟨listenAddress, logFile, .loading⟩] }
  | .step pid input => do
      let host ← s.hosts[pid]?
      let (phase, dir) ← host.next pid input s.dir
      some { s.setPhase pid host phase with dir := dir }
  | .kill pid => do
      let host ← s.hosts[pid]?
      if host.phase.isOver then none else some (s.setPhase pid host .killed)
  | .shutdown => some { s with shutdowns := s.shutdowns ++ [.loading] }
  | .ask caller input => do
      let phase ← s.shutdowns[caller]?
      let (phase, dir) ← phase.next input s.dir
      some { s with shutdowns := s.shutdowns.set caller phase, dir := dir }

/-- An empty directory and no commands. -/
def initial : Desk := ⟨⟨none, false, 0⟩, [], []⟩

end Desk

/-! ## Runs -/

/-- The next operation removes a file. -/
def HostPhase.removes : HostPhase → Bool
  | .discarding => true
  | .clearingShutdown => true
  | .clearingState => true
  | .closingShutdown => true
  | .closingState => true
  | _ => false

/-- No removal of a file is refused. -/
def Obliging (s : Desk) : Move → Bool
  | .step pid input => s.hosts[pid]?.all fun host => !host.phase.removes || input.ok
  | _ => true

/-- A host is started when the others have ended. -/
def Successive (s : Desk) : Move → Bool
  | .start _ _ => s.hosts.all fun host => host.phase.isOver
  | _ => true

/-- Both at once. -/
def Orderly (s : Desk) (move : Move) : Bool := Obliging s move && Successive s move

/-- The commands over a directory that is empty at first. -/
def system (allowed : Desk → Move → Bool) : System Desk Move :=
  System.ofStep (· = Desk.initial) (fun s move => allowed s move = true) Desk.next?

/-- What a move does. -/
inductive Moves (s : Desk) : Move → Desk → Prop where
  | start (listenAddress logFile : String) :
      Moves s (.start listenAddress logFile)
        { s with hosts := s.hosts ++ [⟨listenAddress, logFile, .loading⟩] }
  | step {pid : Nat} {input : HostInput} {host : Host} {phase : HostPhase} {dir : RuntimeDir}
      (found : s.hosts[pid]? = some host) (next : host.next pid input s.dir = some (phase, dir)) :
      Moves s (.step pid input) { s.setPhase pid host phase with dir := dir }
  | kill {pid : Nat} {host : Host} (found : s.hosts[pid]? = some host)
      (alive : host.phase.isOver = false) : Moves s (.kill pid) (s.setPhase pid host .killed)
  | shutdown : Moves s .shutdown { s with shutdowns := s.shutdowns ++ [.loading] }
  | ask {caller : Nat} {input : HostInput} {before phase : ShutdownPhase} {dir : RuntimeDir}
      (found : s.shutdowns[caller]? = some before)
      (next : before.next input s.dir = some (phase, dir)) :
      Moves s (.ask caller input)
        { s with shutdowns := s.shutdowns.set caller phase, dir := dir }

theorem moves_of_next? {s s' : Desk} {move : Move} (h : s.next? move = some s') :
    Moves s move s' := by
  cases move with
  | start listenAddress logFile =>
      cases h
      exact .start listenAddress logFile
  | step pid input =>
      obtain ⟨host, hfound, h⟩ := Option.bind_eq_some_iff.mp h
      obtain ⟨⟨phase, dir⟩, hnext, h⟩ := Option.bind_eq_some_iff.mp h
      cases h
      exact .step hfound hnext
  | kill pid =>
      obtain ⟨host, hfound, h⟩ := Option.bind_eq_some_iff.mp h
      cases halive : host.phase.isOver with
      | true =>
          rw [if_pos halive] at h
          cases h
      | false =>
          rw [if_neg (Bool.eq_false_iff.mp halive)] at h
          cases h
          exact .kill hfound halive
  | shutdown =>
      cases h
      exact .shutdown
  | ask caller input =>
      obtain ⟨before, hfound, h⟩ := Option.bind_eq_some_iff.mp h
      obtain ⟨⟨phase, dir⟩, hnext, h⟩ := Option.bind_eq_some_iff.mp h
      cases h
      exact .ask hfound hnext

/-- The hosts behind a move of one of them. -/
theorem getElem?_setPhase {s : Desk} {pid other : Nat} {host found : Host} {phase : HostPhase}
    (h : (s.setPhase pid host phase).hosts[other]? = some found) :
    (other = pid ∧ found = { host with phase := phase }) ∨
      (other ≠ pid ∧ s.hosts[other]? = some found) := by
  unfold Desk.setPhase at h
  rw [List.getElem?_set] at h
  by_cases heq : pid = other
  · rw [if_pos heq] at h
    split at h
    · exact .inl ⟨heq.symm, (Option.some.inj h).symm⟩
    · cases h
  · rw [if_neg heq] at h
    exact .inr ⟨Ne.symm heq, h⟩

theorem setPhase_self {s : Desk} {pid : Nat} {host : Host} (hfound : s.hosts[pid]? = some host)
    (phase : HostPhase) :
    (s.setPhase pid host phase).hosts[pid]? = some { host with phase := phase } :=
  List.getElem?_set_self (List.getElem?_eq_some_iff.mp hfound).1

theorem setPhase_other {s : Desk} {pid other : Nat} (hne : other ≠ pid) (host : Host)
    (phase : HostPhase) : (s.setPhase pid host phase).hosts[other]? = s.hosts[other]? :=
  List.getElem?_set_ne (Ne.symm hne)

/-- The hosts behind the start of another one. -/
theorem getElem?_started {hosts : List Host} {host found : Host} {pid : Nat}
    (h : (hosts ++ [host])[pid]? = some found) :
    hosts[pid]? = some found ∨ (pid = hosts.length ∧ found = host) := by
  rcases Nat.lt_trichotomy pid hosts.length with hlt | heq | hgt
  · rw [List.getElem?_append_left hlt] at h
    exact .inl h
  · rw [heq, List.getElem?_concat_length] at h
    exact .inr ⟨heq, (Option.some.inj h).symm⟩
  · have hlt := (List.getElem?_eq_some_iff.mp h).1
    rw [List.length_append, List.length_singleton] at hlt
    omega

theorem getElem?_kept {hosts : List Host} {found : Host} {pid : Nat}
    (h : hosts[pid]? = some found) (host : Host) : (hosts ++ [host])[pid]? = some found := by
  rw [List.getElem?_append_left (List.getElem?_eq_some_iff.mp h).1, h]

end OpenPinch.Desktop
