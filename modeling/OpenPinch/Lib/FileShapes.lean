import OpenPinch.Lib.FileFrames

/-!
# The shape of a file tree

What a path leads to depends on which nodes are directories, files and links, and
not on what the files hold.  `resolveOver` follows a path over such a shape
(`resolve_eq_resolveOver`).

A directory that is copied with its links followed has directories where it had
them, and files everywhere else (`laidOut`).
-/

namespace Lib.FileSystem

universe u

variable {β : Type u}

/-- The node without the content of a file. -/
def Node.shape : Node β → Node Unit
  | .file _ => .file ()
  | .dir => .dir
  | .link absolute target => .link absolute target

/-- What a copy that follows links makes of a node. -/
def Node.copied : Node β → Node Unit
  | .dir => .dir
  | _ => .file ()

theorem Node.shape_eq_dir_iff {node : Node β} : node.shape = .dir ↔ node = .dir := by
  cases node <;> simp [shape]

theorem Node.shape_eq_file_iff {node : Node β} :
    node.shape = .file () ↔ ∃ content, node = .file content := by
  cases node <;> simp [shape]

theorem Node.shape_eq_link_iff {node : Node β} {absolute : Bool} {target : RawPath} :
    node.shape = .link absolute target ↔ node = .link absolute target := by
  cases node <;> simp [shape]

/-- Which nodes there are. -/
abbrev Shape := Location → Option (Node Unit)

/-! ## Following a path -/

/-- The walk from a directory.  `follow` continues behind a link. -/
def walkOver (shape : Shape) (follow : Location → RawPath → FileTree.Resolution) :
    Location → RawPath → FileTree.Resolution
  | base, [] => .found base
  | base, name :: rest =>
      if name = "" ∨ name = "." then walkOver shape follow base rest
      else if name = ".." then walkOver shape follow base.dropLast rest
      else
        match shape (base ++ [name]) with
        | none => if rest = [] then .absent base name else .failed
        | some (.file _) => if rest = [] then .found (base ++ [name]) else .failed
        | some .dir => walkOver shape follow (base ++ [name]) rest
        | some (.link absolute target) =>
            follow (if absolute then [] else base) (target ++ rest)

/-- The walk over at most so many links. -/
def resolveOverFrom (shape : Shape) : Nat → Location → RawPath → FileTree.Resolution
  | 0 => walkOver shape fun _ _ => .failed
  | hops + 1 => walkOver shape (resolveOverFrom shape hops)

/-- The walk from the root. -/
def resolveOver (shape : Shape) (path : RawPath) : FileTree.Resolution :=
  resolveOverFrom shape FileTree.hopLimit [] path

namespace FileTree

def shape (t : FileTree β) : Shape := fun location => (t.node? location).map Node.shape

theorem shape_eq_dir_iff {t : FileTree β} {location : Location} :
    t.shape location = some .dir ↔ t.node? location = some .dir := by
  simp [shape, Node.shape_eq_dir_iff]

theorem shape_eq_file_iff {t : FileTree β} {location : Location} :
    t.shape location = some (.file ()) ↔ ∃ content, t.node? location = some (.file content) := by
  simp only [shape, Option.map_eq_some_iff, Node.shape_eq_file_iff]
  constructor
  · rintro ⟨node, hnode, content, rfl⟩
    exact ⟨content, hnode⟩
  · rintro ⟨content, hnode⟩
    exact ⟨_, hnode, content, rfl⟩

theorem shape_eq_link_iff {t : FileTree β} {location : Location} {absolute : Bool}
    {target : RawPath} :
    t.shape location = some (.link absolute target) ↔
      t.node? location = some (.link absolute target) := by
  simp [shape, Node.shape_eq_link_iff]

theorem walk_eq_walkOver (t : FileTree β) (follow : Location → RawPath → Resolution)
    (base : Location) (path : RawPath) :
    t.walk follow base path = walkOver t.shape follow base path := by
  induction path generalizing base with
  | nil => rfl
  | cons name rest ih =>
      rw [walk, walkOver, ih, ih]
      have hnode : t.shape (base ++ [name]) = (t.node? (base ++ [name])).map Node.shape := rfl
      rw [hnode]
      cases t.node? (base ++ [name]) with
      | none => rfl
      | some node =>
          cases node with
          | file content => rfl
          | dir => simp only [Option.map_some, Node.shape, ih]
          | link absolute target => rfl

theorem resolveFrom_eq_resolveOverFrom (t : FileTree β) (hops : Nat) :
    t.resolveFrom hops = resolveOverFrom t.shape hops := by
  induction hops with
  | zero => exact funext fun base => funext fun path => walk_eq_walkOver t _ base path
  | succ hops ih =>
      funext base path
      rw [resolveFrom, resolveOverFrom, walk_eq_walkOver, ih]

/-- A path leads over the shape of a tree where it leads in the tree. -/
theorem resolve_eq_resolveOver (t : FileTree β) (path : RawPath) :
    t.resolve path = resolveOver t.shape path := by
  rw [resolve, resolveOver, resolveFrom_eq_resolveOverFrom]

/-- The tree with the directory at `source` copied to a new directory. -/
def laidOut (t : FileTree β) (source home : Location) : Shape := fun location =>
  if home <+: location then (t.node? (source ++ location.drop home.length)).map Node.copied
  else t.shape location

theorem laidOut_below (t : FileTree β) (source home relative : Location) :
    t.laidOut source home (home ++ relative) =
      (t.node? (source ++ relative)).map Node.copied := by
  rw [laidOut, if_pos (List.prefix_append home relative), List.drop_left]

end FileTree

end Lib.FileSystem
