import OpenPinch.Lib.FileSystem

/-!
# Operations on a file tree

A disk is a file tree whose operations may fail: every system call takes one
step, and `failsAt` says at which steps the system refuses.  The operations keep
the changes made before a failure, as the state of `EStateM` does.
-/

namespace Lib.FileSystem

/-- A file tree with the steps at which the system refuses. -/
structure Disk (β : Type) where
  tree : FileTree β
  failsAt : Nat → Bool
  step : Nat

/-- The operations on a disk. -/
abbrev DiskM (β α : Type) := EStateM String (Disk β) α

/-! ## Paths -/

/-- The texts between the slashes. -/
def splitSlash : List Char → List (List Char)
  | [] => [[]]
  | c :: rest =>
      if c = '/' then [] :: splitSlash rest
      else
        match splitSlash rest with
        | [] => [[c]]
        | first :: more => (c :: first) :: more

/-- `Path::new`, for the path of an absolute text. -/
def components (text : String) : RawPath := (splitSlash text.toList).map String.ofList

/-- `Path::join`: an absolute text replaces the path. -/
def join (base : RawPath) (text : String) : RawPath :=
  if text.toList.head? = some '/' then components text else base ++ components text

/-- The components of a path, `Path::components`. -/
def normalize (path : RawPath) : RawPath := path.filter fun name => !(name = "" || name = ".")

/-- `Path::parent`. -/
def parent? (path : RawPath) : Option RawPath :=
  match (normalize path).reverse with
  | [] => none
  | _ :: rest => some rest.reverse

variable {β : Type}

namespace FileTree

/-- The location of the node a path names, links at its end not followed. -/
def entryLocation? (t : FileTree β) (path : RawPath) : Option Location :=
  match (normalize path).reverse with
  | [] => some []
  | name :: rest =>
      match t.resolve rest.reverse with
      | .found location =>
          if name = ".." then some location.dropLast
          else (t.node? (location ++ [name])).map fun _ => location ++ [name]
      | _ => none

/-- A new directory, `mkdir`. -/
def mkdir (t : FileTree β) (path : RawPath) : Option (FileTree β) :=
  match (normalize path).reverse with
  | [] => none
  | name :: rest =>
      match t.resolve rest.reverse with
      | .found location => t.insert location name .dir
      | _ => none

/-- The path to the parent leads to a node. -/
def parentFound (t : FileTree β) (path : RawPath) : Bool :=
  match (normalize path).reverse with
  | [] => true
  | _ :: rest =>
      match t.resolve rest.reverse with
      | .found _ => true
      | _ => false

/-- The path leads to a file that is written anew, or to a free name. -/
def writeFile (t : FileTree β) (path : RawPath) (content : β) : Option (FileTree β) :=
  match t.resolve path with
  | .found location =>
      match t.node? location, location.getLast? with
      | some (.file _), some name =>
          (t.remove location).insert location.dropLast name (.file content)
      | _, _ => none
  | .absent parent name => t.insert parent name (.file content)
  | .failed => none

end FileTree

namespace Disk

/-- The text of an error the system reports itself. -/
def systemError : String := "system error"

/-- Takes one step and says whether the system refuses it. -/
def refused : DiskM β Bool := fun d => .ok (d.failsAt d.step) { d with step := d.step + 1 }

def getTree : DiskM β (FileTree β) := fun d => .ok d.tree d

def setTree (t : FileTree β) : DiskM β Unit := fun d => .ok () { d with tree := t }

def fail {α : Type} (message : String) : DiskM β α := fun d => .error message d

/-- `Path::exists`: an error counts as no. -/
def pathExists (path : RawPath) : DiskM β Bool := do
  if ← refused then return false
  return ((← getTree).target? path).isSome

/-- `Path::is_dir`: an error counts as no. -/
def isDir (path : RawPath) : DiskM β Bool := do
  if ← refused then return false
  return ((← getTree).target? path).any Node.isDir

/-- `fs::read_dir`: the names of the entries of a directory. -/
def readDir (path : RawPath) (message : String) : DiskM β (List String) := do
  if ← refused then fail message
  let t ← getTree
  match t.resolve path with
  | .found location =>
      if (t.node? location).any Node.isDir then
        return (t.below location).filterMap fun entry =>
          match entry.1 with
          | [name] => some name
          | _ => none
      else fail message
  | _ => fail message

/-- `DirEntry::file_type`: the entry itself, its link not followed. -/
def entryNode (path : RawPath) : DiskM β (Node β) := do
  if ← refused then fail systemError
  let t ← getTree
  match (t.entryLocation? path).bind t.node? with
  | some node => return node
  | none => fail systemError

/-- `fs::read`. -/
def read (path : RawPath) (message : String) : DiskM β β := do
  if ← refused then fail message
  match (← getTree).content? path with
  | some content => return content
  | none => fail message

/-- How `mkdir` ends.  The error of kind `NotFound` is told from the others. -/
inductive MkdirResult where
  | created
  | notFound
  | failed
deriving DecidableEq, Repr

/-- `mkdir`. -/
def createDir (path : RawPath) : DiskM β MkdirResult := do
  if ← refused then return .failed
  let t ← getTree
  match t.mkdir path with
  | some t' => setTree t'; return .created
  | none => return if t.parentFound path then .failed else .notFound

/-- `mkdir`, with whether it made the directory. -/
def mkdir (path : RawPath) : DiskM β Bool := do return decide ((← createDir path) = .created)

/-- `fs::create_dir_all` on the reversed components. -/
def createDirAllRev (message : String) : List String → DiskM β Unit
  | [] => return ()
  | name :: rest => do
      let path := (name :: rest).reverse
      match ← createDir path with
      | .created => return ()
      | .failed =>
          if ← isDir path then return ()
          fail message
      | .notFound =>
          createDirAllRev message rest
          if ← mkdir path then return ()
          if ← isDir path then return ()
          fail message

/-- `fs::create_dir_all`. -/
def createDirAll (path : RawPath) (message : String) : DiskM β Unit :=
  createDirAllRev message (normalize path).reverse

/-- Removes the node at a location, which has nothing below it. -/
def unlink (message : String) (location : Location) : DiskM β Unit := do
  if ← refused then fail message
  setTree ((← getTree).remove location)

/-- `fs::remove_dir_all`: contents first, a link without its target.  A file is no
directory. -/
def removeDirAll (path : RawPath) (message : String) : DiskM β Unit := do
  let t ← getTree
  match t.entryLocation? path with
  | none => fail message
  | some location =>
      if (t.node? location).any Node.isFile then fail message
      else
        let doomed := t.entries.filter fun entry => location.isPrefixOf entry.1
        doomed.forM fun entry => unlink message entry.1

/-- `fs::copy`.  The system may refuse it before the target is opened; a copy that
is cut off inside the content, which leaves a shorter file, is not modelled. -/
def copy (source target : RawPath) (message : String) : DiskM β Unit := do
  let content ← read source message
  if ← refused then fail message
  match (← getTree).writeFile target content with
  | some t => setTree t
  | none => fail message

/-- What `WalkDir` visits: the path itself, and the nodes below it when it leads
to a directory, directories before their contents.  Links are visited, not
followed. -/
def walkDir (path : RawPath) : DiskM β (List (Location × Node β)) := do
  if ← refused then fail systemError
  let t ← getTree
  let some entry := t.entryLocation? path | fail systemError
  let some node := t.node? entry | fail systemError
  match t.resolve path with
  | .found location =>
      if (t.node? location).any Node.isDir then return ([], node) :: t.below location
      else return [([], node)]
  | _ => return [([], node)]

/-! ## Successful operations -/

theorem bind_eq_ok {α γ : Type} {x : DiskM β α} {f : α → DiskM β γ} {d d' : Disk β} {c : γ} :
    (x >>= f) d = .ok c d' ↔ ∃ a middle, x d = .ok a middle ∧ f a middle = .ok c d' := by
  show EStateM.bind x f d = _ ↔ _
  unfold EStateM.bind
  cases x d with
  | ok a middle => simp
  | error message middle => simp

/-- Reading does not change the tree. -/
theorem read_ok {path : RawPath} {message : String} {d d' : Disk β} {content : β}
    (h : read path message d = .ok content d') :
    d'.tree = d.tree ∧ d.tree.content? path = some content := by
  obtain ⟨denied, middle, hstep, h⟩ := bind_eq_ok.mp h
  cases hstep
  cases hdenied : d.failsAt d.step with
  | true =>
      rw [hdenied] at h
      cases h
  | false =>
      rw [hdenied] at h
      simp only [Bool.false_eq_true, ↓reduceIte] at h
      obtain ⟨tree, middle, htree, h⟩ := bind_eq_ok.mp h
      cases htree
      dsimp only at h
      cases hcontent : d.tree.content? path with
      | none =>
          rw [hcontent] at h
          cases h
      | some found =>
          rw [hcontent] at h
          cases h
          exact ⟨rfl, rfl⟩

theorem pathExists_ok {path : RawPath} {d d' : Disk β} {answer : Bool}
    (h : pathExists path d = .ok answer d') : d'.tree = d.tree := by
  obtain ⟨denied, middle, hstep, h⟩ := bind_eq_ok.mp h
  cases hstep
  cases hdenied : d.failsAt d.step with
  | true =>
      rw [hdenied] at h
      cases h
      rfl
  | false =>
      rw [hdenied] at h
      cases h
      rfl

/-- A loop whose turns only read establishes what each of them does. -/
theorem forM_reads {α : Type} {visit : α → DiskM β PUnit} {P : α → FileTree β → Prop}
    (hvisit : ∀ item d d', visit item d = .ok () d' → d'.tree = d.tree ∧ P item d.tree)
    {items : List α} {d d' : Disk β} (h : forM items visit d = .ok () d') :
    d'.tree = d.tree ∧ ∀ item ∈ items, P item d.tree := by
  induction items generalizing d with
  | nil =>
      cases h
      exact ⟨rfl, fun item hitem => absurd hitem List.not_mem_nil⟩
  | cons first rest ih =>
      rw [List.forM_cons] at h
      obtain ⟨_, middle, hfirst, hrest⟩ := bind_eq_ok.mp h
      obtain ⟨htree, hholds⟩ := hvisit first d middle hfirst
      obtain ⟨htree', hall⟩ := ih hrest
      refine ⟨htree'.trans htree, fun item hitem => ?_⟩
      rcases List.mem_cons.mp hitem with rfl | hitem
      · exact hholds
      · exact htree ▸ hall item hitem

end Disk

end Lib.FileSystem
