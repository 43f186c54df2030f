import OpenPinch.Lib.DiskRules

/-!
# Operations step by step

Each system call takes one step, and what it does depends on the tree and on
whether the system refuses that step.  Here are the equations of single steps, and
of the operations on a name in a directory (`Slot`), with what a refusal of their
first step leaves.
-/

namespace Lib.FileSystem.Disk

variable {β α γ : Type}

theorem run_bind (m : DiskM β α) (f : α → DiskM β γ) (d : Disk β) :
    (m >>= f) d = match m d with
      | .ok a d' => f a d'
      | .error message d' => .error message d' := by
  show EStateM.bind m f d = _
  unfold EStateM.bind
  cases m d <;> rfl

/-- A result with the disk it leaves. -/
def ending : Except String α → Disk β → EStateM.Result String (Disk β) α
  | .ok a, d => .ok a d
  | .error message, d => .error message d

/-- A result without the disk it leaves. -/
def outcome : EStateM.Result String (Disk β) α → Except String α
  | .ok a _ => .ok a
  | .error message _ => .error message

@[simp] theorem outcome_ending (r : Except String α) (d : Disk β) : outcome (ending r d) = r := by
  cases r <;> rfl

/-! ## Single steps -/

theorem refused_run {d : Disk β} (hgo : d.failsAt d.step = false) :
    refused d = .ok false { d with step := d.step + 1 } :=
  congrArg (fun answer => EStateM.Result.ok answer _) hgo

theorem refused_denied {d : Disk β} (hdenied : d.failsAt d.step = true) :
    refused d = .ok true { d with step := d.step + 1 } :=
  congrArg (fun answer => EStateM.Result.ok answer _) hdenied

theorem getTree_bind (f : FileTree β → DiskM β α) (d : Disk β) :
    (getTree >>= f) d = f d.tree d := by
  rw [run_bind]
  rfl

theorem pathExists_run {d : Disk β} (hgo : d.failsAt d.step = false) (path : RawPath) :
    pathExists path d = .ok (d.tree.target? path).isSome { d with step := d.step + 1 } := by
  unfold pathExists
  rw [run_bind, refused_run hgo]
  rfl

/-- Looking for a path takes one step, whatever the answer. -/
theorem pathExists_eq (path : RawPath) (d : Disk β) :
    pathExists path d = .ok (!d.failsAt d.step && (d.tree.target? path).isSome)
      { d with step := d.step + 1 } := by
  cases hgo : d.failsAt d.step with
  | false => exact pathExists_run hgo path
  | true =>
      unfold pathExists
      rw [run_bind, refused_denied hgo]
      rfl

theorem isDir_eq (path : RawPath) (d : Disk β) :
    isDir path d = .ok (!d.failsAt d.step && (d.tree.target? path).any Node.isDir)
      { d with step := d.step + 1 } := by
  unfold isDir
  cases hgo : d.failsAt d.step with
  | false =>
      rw [run_bind, refused_run hgo]
      rfl
  | true =>
      rw [run_bind, refused_denied hgo]
      rfl

theorem walkDir_denied {d : Disk β} (hdenied : d.failsAt d.step = true) (path : RawPath) :
    walkDir path d = .error systemError { d with step := d.step + 1 } := by
  unfold walkDir
  rw [run_bind, refused_denied hdenied]
  rfl

theorem createDir_run {d : Disk β} (hgo : d.failsAt d.step = false) {path : RawPath}
    {t : FileTree β} (hmkdir : d.tree.mkdir path = some t) :
    createDir path d = .ok .created ⟨t, d.failsAt, d.step + 1⟩ := by
  unfold createDir
  rw [run_bind, refused_run hgo]
  simp only [Bool.false_eq_true, if_false]
  rw [getTree_bind, hmkdir]
  rfl

theorem unlink_run {d : Disk β} (hgo : d.failsAt d.step = false) (message : String)
    (location : Location) :
    unlink message location d = .ok () ⟨d.tree.remove location, d.failsAt, d.step + 1⟩ := by
  unfold unlink
  rw [run_bind, refused_run hgo]
  rfl

theorem entryNode_run {d : Disk β} (hgo : d.failsAt d.step = false) (path : RawPath) :
    entryNode path d =
      ending (((d.tree.entryLocation? path).bind d.tree.node?).elim (.error systemError) .ok)
        { d with step := d.step + 1 } := by
  unfold entryNode
  rw [run_bind, refused_run hgo]
  simp only [Bool.false_eq_true, if_false]
  rw [getTree_bind]
  cases (d.tree.entryLocation? path).bind d.tree.node? <;> rfl

theorem read_run {d : Disk β} (hgo : d.failsAt d.step = false) (path : RawPath)
    (message : String) :
    read path message d =
      ending ((d.tree.content? path).elim (.error message) .ok) { d with step := d.step + 1 } := by
  unfold read
  rw [run_bind, refused_run hgo]
  simp only [Bool.false_eq_true, if_false]
  rw [getTree_bind]
  cases d.tree.content? path <;> rfl

theorem readDir_run {d : Disk β} (hgo : d.failsAt d.step = false) (path : RawPath)
    (message : String) :
    readDir path message d =
      ending ((d.tree.names? path).elim (.error message) .ok) { d with step := d.step + 1 } := by
  unfold readDir FileTree.names?
  rw [run_bind, refused_run hgo]
  simp only [Bool.false_eq_true, if_false]
  rw [getTree_bind]
  cases d.tree.resolve path with
  | found location =>
      simp only
      split <;> rfl
  | absent parent name => rfl
  | failed => rfl

/-! ## Steps in a slot -/

section

open FileTree

variable {d : Disk β} {path : RawPath} {name : String}

/-- A directory is not made where something is, nor when the system refuses. -/
theorem createDir_failed (hslot : d.tree.Slot path name)
    (h : d.failsAt d.step = true ∨ ∃ node, d.tree.node? (normalize path ++ [name]) = some node) :
    createDir (normalize path ++ [name]) d = .ok .failed { d with step := d.step + 1 } := by
  unfold createDir
  cases hgo : d.failsAt d.step with
  | true =>
      rw [run_bind, refused_denied hgo]
      rfl
  | false =>
      rw [run_bind, refused_run hgo]
      simp only [Bool.false_eq_true, if_false]
      obtain ⟨node, hnode⟩ := h.resolve_left (by rw [hgo]; exact Bool.false_ne_true)
      rw [getTree_bind, hslot.mkdir_taken hnode]
      simp only [hslot.parentFound, if_true]
      rfl

theorem createDirAll_failed (hslot : d.tree.Slot path name)
    (h : d.failsAt d.step = true ∨ ∃ node, d.tree.node? (normalize path ++ [name]) = some node)
    (message : String) :
    createDirAll (path ++ [name]) message d =
      ending (if !d.failsAt (d.step + 1) &&
          (d.tree.node? (normalize path ++ [name])).any Node.isDir then .ok ()
        else .error message) { d with step := d.step + 2 } := by
  have hpath : (name :: (normalize path).reverse).reverse = normalize path ++ [name] := by simp
  have htarget : d.tree.target? (normalize path ++ [name]) =
      d.tree.node? (normalize path ++ [name]) := by
    have hnormal := hslot.normal.target?_eq
    rwa [normalize_normalize] at hnormal
  unfold createDirAll
  rw [normalize_name hslot.valid, List.reverse_append, List.reverse_singleton]
  show createDirAllRev message (name :: (normalize path).reverse) d = _
  unfold createDirAllRev
  rw [hpath, run_bind, createDir_failed hslot h]
  simp only
  rw [run_bind, isDir_eq, htarget]
  simp only
  split <;> rfl

/-- One step makes the directory of a free name. -/
theorem createDirAll_free (hslot : d.tree.Slot path name)
    (hfree : d.tree.node? (normalize path ++ [name]) = none) (hgo : d.failsAt d.step = false)
    (message : String) :
    ∃ t, createDirAll (path ++ [name]) message d = .ok () ⟨t, d.failsAt, d.step + 1⟩ ∧
      Edits (normalize path ++ [name]) d.tree t ∧
        t.node? (normalize path ++ [name]) = some .dir := by
  obtain ⟨t, hmkdir, hdir⟩ := hslot.mkdir_free hfree
  refine ⟨t, ?_, hslot.mkdir_edits (by simp) hmkdir, hdir⟩
  have hpath : (name :: (normalize path).reverse).reverse = normalize path ++ [name] := by simp
  unfold createDirAll
  rw [normalize_name hslot.valid, List.reverse_append, List.reverse_singleton]
  show createDirAllRev message (name :: (normalize path).reverse) d = _
  unfold createDirAllRev
  rw [hpath, run_bind, createDir_run hgo hmkdir]
  rfl

/-- What a removal goes through, when the name is a directory. -/
theorem removeDirAll_eq (hslot : d.tree.Slot path name)
    (hnode : d.tree.node? (normalize path ++ [name]) = some .dir) (message : String) :
    ∃ (first : Location × Node β) (rest : List (Location × Node β)),
      normalize path ++ [name] <+: first.1 ∧ d.tree.node? first.1 = some first.2 ∧
      removeDirAll (path ++ [name]) message d = (do
        unlink message first.1
        rest.forM fun entry => unlink message entry.1) d := by
  have hroot : normalize path ++ [name] ≠ [] := by simp
  have hlocation : d.tree.entryLocation? (path ++ [name]) = some (normalize path ++ [name]) := by
    rw [FileTree.entryLocation_name hslot.dir hslot.valid, hnode]
    rfl
  have hrun : removeDirAll (path ++ [name]) message d =
      ((d.tree.entries.filter fun entry => (normalize path ++ [name]).isPrefixOf entry.1).forM
        fun entry => unlink message entry.1) d := by
    unfold removeDirAll
    rw [getTree_bind, hlocation]
    simp only [hnode, Option.any_some, Node.isFile, Bool.false_eq_true, if_false]
  have hmem : (normalize path ++ [name], .dir) ∈ d.tree.entries.filter fun entry =>
      (normalize path ++ [name]).isPrefixOf entry.1 :=
    List.mem_filter.mpr ⟨FileTree.mem_of_node? hroot hnode,
      List.isPrefixOf_iff_prefix.mpr (List.prefix_refl _)⟩
  cases hdoomed : d.tree.entries.filter fun entry =>
      (normalize path ++ [name]).isPrefixOf entry.1 with
  | nil =>
      rw [hdoomed] at hmem
      cases hmem
  | cons first rest =>
      have hfirst : first ∈ d.tree.entries.filter fun entry =>
          (normalize path ++ [name]).isPrefixOf entry.1 := by
        rw [hdoomed]
        exact List.mem_cons_self
      obtain ⟨hentry, hbelow⟩ := List.mem_filter.mp hfirst
      refine ⟨first, rest, List.isPrefixOf_iff_prefix.mp hbelow, FileTree.node?_of_mem hentry, ?_⟩
      rw [hrun, hdoomed, List.forM_eq_forM, List.forM_cons]

theorem removeDirAll_file (hslot : d.tree.Slot path name) {content : β}
    (hnode : d.tree.node? (normalize path ++ [name]) = some (.file content)) (message : String) :
    removeDirAll (path ++ [name]) message d = .error message d := by
  have hlocation : d.tree.entryLocation? (path ++ [name]) = some (normalize path ++ [name]) := by
    rw [FileTree.entryLocation_name hslot.dir hslot.valid, hnode]
    rfl
  unfold removeDirAll
  rw [getTree_bind, hlocation]
  simp only [hnode, Option.any_some, Node.isFile, if_true]
  rfl

/-- A removal whose first step is refused removes nothing. -/
theorem removeDirAll_denied (hslot : d.tree.Slot path name)
    (hnode : d.tree.node? (normalize path ++ [name]) = some .dir)
    (hdenied : d.failsAt d.step = true) (message : String) :
    removeDirAll (path ++ [name]) message d = .error message { d with step := d.step + 1 } := by
  obtain ⟨first, rest, -, -, hrun⟩ := removeDirAll_eq hslot hnode message
  rw [hrun, run_bind]
  have hunlink : unlink message first.1 d = .error message { d with step := d.step + 1 } := by
    unfold unlink
    rw [run_bind, refused_denied hdenied]
    rfl
  rw [hunlink]

/-- A removal that fails behind its first step has removed something. -/
theorem removeDirAll_cut (hslot : d.tree.Slot path name)
    (hnode : d.tree.node? (normalize path ++ [name]) = some .dir)
    (hgo : d.failsAt d.step = false) {message message' : String} {d' : Disk β}
    (hfails : removeDirAll (path ++ [name]) message d = .error message' d') :
    ∃ location, normalize path ++ [name] <+: location ∧ d'.tree.node? location = none ∧
      ∃ node, d.tree.node? location = some node := by
  obtain ⟨first, rest, hbelow, hthere, hrun⟩ := removeDirAll_eq hslot hnode message
  rw [hrun, run_bind, unlink_run hgo] at hfails
  refine ⟨first.1, hbelow, ?_, first.2, hthere⟩
  have hroot : first.1 ≠ [] := fun hnil => by simp [hnil] at hbelow
  have hgone : Keeps (fun t : FileTree β => t.node? first.1 = none)
      (rest.forM fun entry => unlink message entry.1) :=
    keeps_forM fun entry _ => keeps_unlink message entry.1 fun t ht => FileTree.node?_remove_none ht
  exact hgone.error (FileTree.node?_remove_below hroot (List.prefix_refl _)) hfails

end

end Lib.FileSystem.Disk
