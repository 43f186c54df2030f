import OpenPinch.Common.Reference
import OpenPinch.Common.Types
import OpenPinch.Lib.Op
import OpenPinch.Lib.Table

/-!
# The world of the engine

The database, table by table, the model providers, and what the surroundings
answer: the clock, fresh identifiers, nonces and refusals of the database.  The
answers are streams, and the state counts how much of each has been read, so a
statement about all worlds is one about all answers.

A `Stmt` is what one acquisition of the connection does to a group of tables.
`View.run` lets it act on the world.  It leaves every other group alone.
-/

namespace OpenPinch

/-! ## Instants -/

/-- The first instant of the calendar, `DateTime::<Utc>::MIN_UTC`. -/
def minInstant : Instant := -8334601228800 * 1000000000

/-- The last one, `DateTime::<Utc>::MAX_UTC`. -/
def maxInstant : Instant := 8210266876799 * 1000000000 + 999999999

/-- A duration of so many seconds.  Nothing when it is outside the range of
`TimeDelta`. -/
def secondsDuration (seconds : Int) : Option Int :=
  if seconds.natAbs ≤ 9223372036854775 then some (seconds * 1000000000) else none

/-- An instant moved by a duration.  Nothing when it leaves the calendar. -/
def shift (instant duration : Int) : Option Instant :=
  if minInstant ≤ instant + duration ∧ instant + duration ≤ maxInstant then
    some (instant + duration)
  else none

/-! ## Rows -/

structure MessageRow where
  connector : String
  channelId : String
  sender : String
  body : String
  metadataJson : String
  createdAt : Instant
deriving DecidableEq, Repr

structure SessionRow where
  sessionId : String
  connector : String
  channelId : String
  participant : String
  sessionType : String
  title : String
  status : String
  replyMode : String
  queueMode : String
  modelProfile : String
  mentionOnly : Bool
  pendingPairing : Bool
  archived : Bool
  lastMessagePreview : String
  messageCount : Nat
  createdAt : Instant
  updatedAt : Instant
deriving DecidableEq, Repr

structure SessionMessageRow where
  messageId : String
  sessionId : String
  connector : String
  role : String
  sender : String
  body : String
  metadataJson : String
  createdAt : Instant
deriving DecidableEq, Repr

structure PairingRow where
  pairingId : String
  connector : String
  channelId : String
  sender : String
  sessionId : String
  status : String
  reason : String
  note : String
  createdAt : Instant
  updatedAt : Instant
deriving DecidableEq, Repr

structure JobRow where
  jobId : String
  cron : String
  tool : String
  argumentsJson : String
  createdAt : Instant
deriving DecidableEq, Repr

/-- A row of `prompt_cache` or `prefix_cache`. -/
structure CacheRow where
  key : String
  provider : String
  response : String
  createdAt : Instant
deriving DecidableEq, Repr

structure VectorMemoryRow where
  nameSpace : String
  key : String
  encryptedBlobJson : String
  metadataJson : String
  fingerprint : String
  createdAt : Instant
deriving DecidableEq, Repr

structure AuditRow where
  id : String
  category : String
  severity : String
  summary : String
  anomalyScore : Rat
  payloadJson : String
  createdAt : Instant
deriving DecidableEq, Repr

structure QueueTaskRow where
  taskId : String
  taskType : String
  target : String
  argumentsJson : String
  priority : String
  status : String
  createdAt : Instant
  updatedAt : Instant
deriving DecidableEq, Repr

structure ProtocolRunRow where
  protocolId : String
  transcriptJson : String
  findingsJson : String
  createdAt : Instant
deriving DecidableEq, Repr

structure EntityRow where
  entityId : String
  entityKind : String
  subtype : String
  encryptedBlobJson : String
  salience : Rat
  confidence : Rat
  fingerprint : String
  archived : Bool
  sourceRef : String
  createdAt : Instant
  updatedAt : Instant
deriving DecidableEq, Repr

structure FactRow where
  factId : String
  entityId : String
  encryptedBlobJson : String
  salience : Rat
  confidence : Rat
  fingerprint : String
  archived : Bool
  sourceRef : String
  createdAt : Instant
  updatedAt : Instant
deriving DecidableEq, Repr

structure RelationRow where
  relationId : String
  relationKind : String
  fromEntityId : String
  toEntityId : String
  metadataJson : String
  confidence : Rat
  archived : Bool
  createdAt : Instant
  updatedAt : Instant
deriving DecidableEq, Repr

structure TaskRow where
  taskId : String
  status : String
  priority : String
  dueAt : Option Instant
  encryptedBlobJson : String
  salience : Rat
  confidence : Rat
  fingerprint : String
  archived : Bool
  sourceRef : String
  createdAt : Instant
  updatedAt : Instant
deriving DecidableEq, Repr

structure IngestRow where
  sourceRef : String
  sourceKind : String
  fingerprint : String
  targetJson : String
  createdAt : Instant
deriving DecidableEq, Repr

/-! ## Groups of tables -/

/-- The tables about conversations. -/
structure Conversations where
  messages : List MessageRow
  sessions : List SessionRow
  sessionMessages : List SessionMessageRow
  pairings : List PairingRow

/-- The tables of exact and prefix replies. -/
structure Caches where
  promptCache : List CacheRow
  prefixCache : List CacheRow

/-- The tables of the brain. -/
structure BrainTables where
  entities : List EntityRow
  facts : List FactRow
  relations : List RelationRow
  tasks : List TaskRow
  ingestLog : List IngestRow

/-- The other tables. -/
structure Ledger where
  jobs : List JobRow
  auditEvents : List AuditRow
  queueTasks : List QueueTaskRow
  protocolRuns : List ProtocolRunRow

/-! ## The world -/

/-- What the surroundings answer, and how much of it has been read. -/
structure Surroundings where
  clock : Nat → Instant
  ticks : Nat
  uuid : Nat → String
  uuids : Nat
  nonce : Nat → Nonce
  nonces : Nat
  /-- The database refuses the statement of that number. -/
  refuses : Nat → Bool
  statements : Nat

/-- The model providers: what they answer to the request of each number, and the
requests so far, each a provider and a prompt. -/
structure Providers where
  answer : Nat → Except String String
  requests : List (String × String)

/-- The state of the engine. -/
structure World where
  around : Surroundings
  providers : Providers
  conversations : Conversations
  caches : Caches
  vectorMemory : List VectorMemoryRow
  brain : BrainTables
  ledger : Ledger

/-- The world of a database without rows, and of providers without requests. -/
def World.fresh (around : Surroundings) (answer : Nat → Except String String) : World where
  around := around
  providers := ⟨answer, []⟩
  conversations := ⟨[], [], [], []⟩
  caches := ⟨[], []⟩
  vectorMemory := []
  brain := ⟨[], [], [], [], []⟩
  ledger := ⟨[], [], [], []⟩

/-- Surroundings that count: the clock in seconds and the identifiers from zero.
The database refuses nothing. -/
def countingSurroundings : Surroundings where
  clock := fun n => n * 1000000000
  ticks := 0
  uuid := fun n => toString n
  uuids := 0
  nonce := fun _ => zeroNonce
  nonces := 0
  refuses := fun _ => false
  statements := 0

/-- What stops an operation: an error it returns, or a panic. -/
inductive Fault where
  | error (message : String)
  | panic
deriving DecidableEq, Repr

/-- A computation on the surroundings and a group of tables. -/
abbrev Stmt (τ α : Type) : Type := EStateM Fault (Surroundings × τ) α

namespace Stmt

variable {τ α : Type}

def fail (message : String) : Stmt τ α := fun s => .error (.error message) s

/-- `Utc::now`. -/
def now : Stmt τ Instant := fun s =>
  .ok (s.1.clock s.1.ticks) ({ s.1 with ticks := s.1.ticks + 1 }, s.2)

/-- `Uuid::new_v4`. -/
def newUuid : Stmt τ String := fun s =>
  .ok (s.1.uuid s.1.uuids) ({ s.1 with uuids := s.1.uuids + 1 }, s.2)

/-- The random nonce of an encryption. -/
def newNonce : Stmt τ Nonce := fun s =>
  .ok (s.1.nonce s.1.nonces) ({ s.1 with nonces := s.1.nonces + 1 }, s.2)

/-- An error as it is, or its value. -/
def ofExcept (r : Except String α) : Stmt τ α :=
  match r with
  | .ok a => Pure.pure a
  | .error message => fail message

/-- One SQL statement, which the database may refuse. -/
def sql (f : τ → Except String (α × τ)) : Stmt τ α := fun s =>
  let around := { s.1 with statements := s.1.statements + 1 }
  if s.1.refuses s.1.statements then .error (.error "database error") (around, s.2)
  else
    match f s.2 with
    | .ok (a, t) => .ok a (around, t)
    | .error message => .error (.error message) (around, s.2)

/-- `select`. -/
def select (f : τ → α) : Stmt τ α := sql fun t => .ok (f t, t)

/-- `update` or `delete`. -/
def execute (f : τ → τ) : Stmt τ Unit := sql fun t => .ok ((), f t)

/-- `insert` under uniqueness constraints. -/
def insert (f : τ → Option τ) : Stmt τ Unit := sql fun t =>
  match f t with
  | some t' => .ok ((), t')
  | none => .error "UNIQUE constraint failed"

end Stmt

/-- A group of tables in the world. -/
structure View (τ : Type) where
  get : World → τ
  set : World → τ → World

namespace View

def conversations : View Conversations :=
  ⟨World.conversations, fun w t => { w with conversations := t }⟩

def caches : View Caches := ⟨World.caches, fun w t => { w with caches := t }⟩

def vectorMemory : View (List VectorMemoryRow) :=
  ⟨World.vectorMemory, fun w t => { w with vectorMemory := t }⟩

def brain : View BrainTables := ⟨World.brain, fun w t => { w with brain := t }⟩

def ledger : View Ledger := ⟨World.ledger, fun w t => { w with ledger := t }⟩

/-- No tables at all. -/
def none : View Unit := ⟨fun _ => (), fun w _ => w⟩

/-- A statement on a group of tables, as one on the world. -/
def run {τ α : Type} (v : View τ) (m : Stmt τ α) : EStateM Fault World α := fun w =>
  match m (w.around, v.get w) with
  | .ok a (around, t) => .ok a (v.set { w with around := around } t)
  | .error e (around, t) => .error e (v.set { w with around := around } t)

end View

/-! ## Operations -/

/-- The target of a pairing: connector, channel and sender. -/
structure Target where
  connector : String
  channelId : String
  sender : String
deriving DecidableEq, Repr

/-- What an observer of the engine can tell about an action. -/
inductive Event where
  /-- Nothing but the tables shows it. -/
  | quiet
  /-- A message asks whether its pairing is approved. -/
  | approvalCheck (target : Target)
  /-- A message without an approved pairing asks for one. -/
  | pairingUpsert (target : Target)
  /-- The operator sets the status of a pairing. -/
  | pairingUpdate (pairingId status : String)
  /-- A message goes to the orchestrator, in a session and as a prompt. -/
  | submit (sessionId body prompt : String)
  /-- A provider returned a response to a prompt. -/
  | generated (provider prompt response : String)
  /-- The orchestrator returned a response, from a tier. -/
  | answered (response cacheTier : String)
deriving DecidableEq, Repr

/-- The operations of the engine. -/
abbrev EngineOp (α : Type) : Type := Lib.Op Event World Fault α

namespace EngineOp

open Lib (Op Prog)

variable {α β : Type}

def fail (message : String) : EngineOp α := Op.fail (.error message)

def panic : EngineOp α := Op.fail .panic

/-- A statement under the lock of the connection, with the event it is. -/
def guardedAs {τ : Type} (label : Event) (v : View τ) (m : Stmt τ α) : EngineOp α :=
  Op.guarded label (v.run m)

/-- A statement under the lock of the connection, and an operation that starts
before the lock is released. -/
def holding {τ : Type} (label : Event) (v : View τ) (m : Stmt τ α) (f : α → EngineOp β) :
    EngineOp β :=
  Op.holding label (v.run m) f

/-- A statement under the lock of the connection. -/
def guarded {τ : Type} (v : View τ) (m : Stmt τ α) : EngineOp α := guardedAs .quiet v m

/-- A computation that takes no lock and touches no table. -/
def outside (m : Stmt Unit α) : EngineOp α := Op.stmt .quiet (View.none.run m)

/-- `Utc::now`. -/
def now : EngineOp Instant := outside Stmt.now

/-- `Uuid::new_v4`. -/
def newUuid : EngineOp String := outside Stmt.newUuid

/-- The nonce of an encryption. -/
def newNonce : EngineOp Nonce := outside Stmt.newNonce

/-- An error as it is, or its value. -/
def ofExcept (r : Except String α) : EngineOp α :=
  match r with
  | .ok a => pure a
  | .error message => fail message

/-- A value, or a panic without one. -/
def orPanic (r : Option α) : EngineOp α :=
  match r with
  | some a => pure a
  | none => panic

/-- The event happens. -/
def emit (e : Event) : EngineOp Unit := Op.stmt e fun w => .ok () w

/-- The outcome of an operation as a value.  A panic goes on. -/
def attempt (p : EngineOp α) : EngineOp (Except String α) :=
  Prog.bind p fun r =>
    match r with
    | .ok a => .ret (.ok (.ok a))
    | .error (.error message) => .ret (.ok (.error message))
    | .error .panic => .ret (.error .panic)

/-- `let _ = …`, which drops the outcome. -/
def ignore (p : EngineOp α) : EngineOp Unit := do
  let _ ← attempt p
  return ()

/-- An operation without its result. -/
def dropResult {α : Type} (p : EngineOp α) : Lib.Prog Event World Unit :=
  Lib.Prog.bind p fun _ => .ret ()

theorem eval_dropResult {α : Type} (p : EngineOp α) (w : World) :
    (dropResult p).eval w = ((), (Lib.Prog.eval p w).2) :=
  Lib.Prog.eval_bind p _ w

end EngineOp

end OpenPinch
