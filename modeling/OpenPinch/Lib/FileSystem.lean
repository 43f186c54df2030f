import Mathlib.Data.List.Basic
import Mathlib.Tactic.Common

/-!
# File trees

A tree is a list of nodes under their locations, newest first, in which every
node but a root entry lies in a directory that is older than it.  A location is
the list of the names on the way from the root.  A path is the list of what
stands between the slashes of its text: names, empty texts, `.` and `..`.

`resolve` follows a path through directories and symbolic links, over at most
`hopLimit` links.  A location with a node other than a link resolves to itself
(`resolve_location`).
-/

namespace Lib.FileSystem

universe u

/-- The names from the root to a node. -/
abbrev Location := List String

/-- A path as the texts between its slashes. -/
abbrev RawPath := List String

/-- A file with its content, a directory, or a symbolic link with its target. -/
inductive Node (β : Type u) where
  | file (content : β)
  | dir
  | link (absolute : Bool) (target : RawPath)
deriving DecidableEq, Repr

variable {β : Type u}

/-- The node is a directory. -/
def Node.isDir : Node β → Bool
  | .dir => true
  | _ => false

/-- The node is a regular file. -/
def Node.isFile : Node β → Bool
  | .file _ => true
  | _ => false

/-- A name that can stand in a directory. -/
def ValidName (name : String) : Prop := name ≠ "" ∧ name ≠ "." ∧ name ≠ ".."

instance (name : String) : Decidable (ValidName name) :=
  inferInstanceAs (Decidable (name ≠ "" ∧ name ≠ "." ∧ name ≠ ".."))

/-- The node at a location.  The root is a directory. -/
def lookup (entries : List (Location × Node β)) (location : Location) : Option (Node β) :=
  if location = [] then some .dir
  else (entries.find? fun entry => entry.1 = location).map Prod.snd

/-- Every entry has a valid name of its own in a directory that is older. -/
inductive WellFormed : List (Location × Node β) → Prop where
  | nil : WellFormed []
  | cons {entries : List (Location × Node β)} {parent : Location} {name : String}
      {node : Node β} : ValidName name → lookup entries parent = some .dir →
      lookup entries (parent ++ [name]) = none → WellFormed entries →
      WellFormed ((parent ++ [name], node) :: entries)

/-- A file tree. -/
structure FileTree (β : Type u) where
  entries : List (Location × Node β)
  wellFormed : WellFormed entries

namespace FileTree

/-- The tree of the root alone. -/
def empty : FileTree β := ⟨[], .nil⟩

/-- The node at a location. -/
def node? (t : FileTree β) (location : Location) : Option (Node β) := lookup t.entries location

@[simp] theorem node?_root (t : FileTree β) : t.node? [] = some .dir := rfl

end FileTree

/-! ## Changing a tree -/

theorem lookup_cons_other {entries : List (Location × Node β)} {location other : Location}
    (h : location ≠ other) (node : Node β) :
    lookup ((location, node) :: entries) other = lookup entries other := by
  simp [lookup, h]

/-- Removing the entries below a location keeps the others. -/
theorem lookup_filter {entries : List (Location × Node β)} {removed other : Location}
    (h : ¬ removed <+: other) :
    lookup (entries.filter fun entry => !removed.isPrefixOf entry.1) other =
      lookup entries other := by
  unfold lookup
  by_cases hroot : other = []
  · rw [if_pos hroot, if_pos hroot]
  · rw [if_neg hroot, if_neg hroot, List.find?_filter]
    congr 2
    funext entry
    by_cases hentry : entry.1 = other
    · have hkept : removed.isPrefixOf entry.1 = false := by
        rw [hentry, Bool.eq_false_iff]
        exact fun hinside => h (List.isPrefixOf_iff_prefix.mp hinside)
      simp [hentry, ← hentry ▸ hkept]
    · simp [hentry]

theorem lookup_filter_none {entries : List (Location × Node β)} {removed other : Location}
    (h : lookup entries other = none) :
    lookup (entries.filter fun entry => !removed.isPrefixOf entry.1) other = none := by
  unfold lookup at h ⊢
  by_cases hroot : other = []
  · rw [if_pos hroot] at h
    cases h
  · rw [if_neg hroot, Option.map_eq_none_iff, List.find?_eq_none] at h ⊢
    intro entry hentry
    exact h entry (List.mem_filter.mp hentry).1

theorem WellFormed.filter {entries : List (Location × Node β)} (h : WellFormed entries)
    (removed : Location) :
    WellFormed (entries.filter fun entry => !removed.isPrefixOf entry.1) := by
  induction h with
  | nil => exact .nil
  | @cons entries parent name node hname hparent hfresh _ ih =>
      cases hkept : removed.isPrefixOf (parent ++ [name]) with
      | true => simpa [List.filter_cons, hkept] using ih
      | false =>
          have hother : ¬ removed <+: parent := by
            intro hinside
            have := List.isPrefixOf_iff_prefix.mpr
              (hinside.trans (List.prefix_append parent [name]))
            rw [hkept] at this
            cases this
          have hcons : (((parent ++ [name], node) :: entries).filter
              fun entry => !removed.isPrefixOf entry.1) =
              (parent ++ [name], node) ::
                entries.filter fun entry => !removed.isPrefixOf entry.1 := by
            simp [hkept]
          rw [hcons]
          exact .cons hname ((lookup_filter hother).trans hparent) (lookup_filter_none hfresh) ih

namespace FileTree

/-- A new node in an existing directory. -/
def insert (t : FileTree β) (parent : Location) (name : String) (node : Node β) :
    Option (FileTree β) :=
  match hparent : lookup t.entries parent, hfresh : lookup t.entries (parent ++ [name]) with
  | some .dir, none =>
      if hname : ValidName name then
        some ⟨(parent ++ [name], node) :: t.entries, .cons hname hparent hfresh t.wellFormed⟩
      else none
  | _, _ => none

/-- The tree without a node and what is below it. -/
def remove (t : FileTree β) (location : Location) : FileTree β :=
  ⟨t.entries.filter fun entry => !location.isPrefixOf entry.1, t.wellFormed.filter location⟩

/-- The nodes below a location, oldest first, with the names on the way from it. -/
def below (t : FileTree β) (location : Location) : List (Location × Node β) :=
  t.entries.reverse.filterMap fun entry =>
    if location.isPrefixOf entry.1 ∧ entry.1 ≠ location then
      some (entry.1.drop location.length, entry.2)
    else none

/-- What lies at a location below another is listed there. -/
theorem mem_below {t : FileTree β} {location relative : Location} {node : Node β}
    (hrelative : relative ≠ []) (hnode : t.node? (location ++ relative) = some node) :
    (relative, node) ∈ t.below location := by
  have hroot : location ++ relative ≠ [] := fun h => hrelative (List.append_eq_nil_iff.mp h).2
  rw [node?, lookup, if_neg hroot, Option.map_eq_some_iff] at hnode
  obtain ⟨entry, hfind, rfl⟩ := hnode
  have hkey : entry.1 = location ++ relative := by
    have := List.find?_some hfind
    exact of_decide_eq_true this
  refine List.mem_filterMap.mpr
    ⟨entry, List.mem_reverse.mpr (List.mem_of_find?_eq_some hfind), ?_⟩
  rw [if_pos, hkey, List.drop_left]
  rw [hkey]
  exact ⟨List.isPrefixOf_iff_prefix.mpr (List.prefix_append _ _), by simpa using hrelative⟩

/-! ## Following a path -/

/-- What a path leads to. -/
inductive Resolution where
  /-- The path leads to the node at a location. -/
  | found (location : Location)
  /-- All but the last name is there, and is a directory. -/
  | absent (parent : Location) (name : String)
  | failed
deriving DecidableEq, Repr

/-- The walk from a directory.  `follow` continues behind a link. -/
def walk (t : FileTree β) (follow : Location → RawPath → Resolution) :
    Location → RawPath → Resolution
  | base, [] => .found base
  | base, name :: rest =>
      if name = "" ∨ name = "." then t.walk follow base rest
      else if name = ".." then t.walk follow base.dropLast rest
      else
        match t.node? (base ++ [name]) with
        | none => if rest = [] then .absent base name else .failed
        | some (.file _) => if rest = [] then .found (base ++ [name]) else .failed
        | some .dir => t.walk follow (base ++ [name]) rest
        | some (.link absolute target) =>
            follow (if absolute then [] else base) (target ++ rest)

/-- The walk over at most so many links. -/
def resolveFrom (t : FileTree β) : Nat → Location → RawPath → Resolution
  | 0 => t.walk fun _ _ => .failed
  | hops + 1 => t.walk (t.resolveFrom hops)

/-- The number of links the system follows. -/
def hopLimit : Nat := 40

/-- The walk from the root. -/
def resolve (t : FileTree β) (path : RawPath) : Resolution := t.resolveFrom hopLimit [] path

theorem lookup_prefix {entries : List (Location × Node β)} (h : WellFormed entries)
    {location below : Location} {node : Node β} (hbelow : below ≠ [])
    (hnode : lookup entries (location ++ below) = some node) :
    lookup entries location = some .dir := by
  induction h generalizing location below node with
  | nil =>
      cases below with
      | nil => exact absurd rfl hbelow
      | cons name rest => simp [lookup] at hnode
  | @cons entries parent name new hname hparent hfresh hwf ih =>
      by_cases hhit : parent ++ [name] = location ++ below
      · -- the newest entry lies in the location or below it
        obtain ⟨below', last, rfl⟩ := List.eq_nil_or_concat below |>.resolve_left hbelow
        rw [List.concat_eq_append, ← List.append_assoc] at hhit
        obtain ⟨rfl, hlast⟩ := List.append_inj' hhit rfl
        have hdir : lookup entries location = some .dir := by
          cases below' with
          | nil => simpa using hparent
          | cons first rest => exact ih (List.cons_ne_nil first rest) hparent
        rw [lookup_cons_other _ new]
        · exact hdir
        · intro heq
          have := congrArg List.length heq
          simp at this
      · rw [lookup_cons_other hhit] at hnode
        have hdir := ih hbelow hnode
        rw [lookup_cons_other _ new]
        · exact hdir
        · intro heq
          rw [heq, hdir] at hfresh
          cases hfresh

theorem validName_of_lookup {entries : List (Location × Node β)} (h : WellFormed entries)
    {parent : Location} {name : String} {node : Node β}
    (hnode : lookup entries (parent ++ [name]) = some node) : ValidName name := by
  induction h with
  | nil => simp [lookup] at hnode
  | @cons entries other last new hname _ _ _ ih =>
      by_cases hhit : other ++ [last] = parent ++ [name]
      · obtain ⟨_, hlast⟩ := List.append_inj' hhit rfl
        cases hlast
        exact hname
      · rw [lookup_cons_other hhit] at hnode
        exact ih hnode

/-- From a directory on the way, the rest of a location leads to it. -/
theorem walk_location (t : FileTree β) (follow : Location → RawPath → Resolution)
    {location rest : Location} {node : Node β} (hnode : t.node? (location ++ rest) = some node)
    (hlink : ∀ absolute target, node ≠ .link absolute target) :
    t.walk follow location rest = .found (location ++ rest) := by
  induction rest generalizing location with
  | nil => rw [List.append_nil]; rfl
  | cons name rest ih =>
      have hsplit : location ++ name :: rest = (location ++ [name]) ++ rest := by simp
      have hfirst : ∃ first, t.node? (location ++ [name]) = some first ∧
          (rest = [] → first = node) ∧ (rest ≠ [] → first = .dir) := by
        cases rest with
        | nil => exact ⟨node, hnode, fun _ => rfl, fun h => absurd rfl h⟩
        | cons next more =>
            rw [hsplit] at hnode
            have hdir := lookup_prefix t.wellFormed (List.cons_ne_nil next more) hnode
            exact ⟨.dir, hdir, fun h => absurd h (List.cons_ne_nil next more), fun _ => rfl⟩
      obtain ⟨first, hfound, hlast, hmore⟩ := hfirst
      have hvalid := validName_of_lookup t.wellFormed hfound
      rw [walk, if_neg (by simp [hvalid.1, hvalid.2.1]), if_neg hvalid.2.2, hfound]
      cases first with
      | dir =>
          rw [hsplit]
          exact ih (hsplit ▸ hnode)
      | file content =>
          have hnil : rest = [] := by
            apply Classical.byContradiction
            intro hrest
            cases hmore hrest
          subst hnil
          rfl
      | link absolute target =>
          have hnil : rest = [] := by
            apply Classical.byContradiction
            intro hrest
            cases hmore hrest
          exact absurd (hlast hnil).symm (hlink absolute target)

/-- A location with a node that is no link resolves to itself. -/
theorem resolve_location (t : FileTree β) {location : Location} {node : Node β}
    (hnode : t.node? location = some node)
    (hlink : ∀ absolute target, node ≠ .link absolute target) :
    t.resolve location = .found location :=
  @walk_location β t (t.resolveFrom 39) [] location node hnode hlink

/-- The node a path leads to. -/
def target? (t : FileTree β) (path : RawPath) : Option (Node β) :=
  match t.resolve path with
  | .found location => t.node? location
  | _ => none

/-- The content of the file a path leads to. -/
def content? (t : FileTree β) (path : RawPath) : Option β :=
  match t.target? path with
  | some (.file content) => some content
  | _ => none

theorem content?_eq_some_iff {t : FileTree β} {path : RawPath} {content : β} :
    t.content? path = some content ↔
      ∃ location, t.resolve path = .found location ∧ t.node? location = some (.file content) := by
  unfold content? target?
  cases t.resolve path with
  | found location =>
      cases hnode : t.node? location with
      | none => simp [hnode]
      | some node => cases node <;> simp [hnode]
  | absent parent name => simp
  | failed => simp

theorem target?_isDir_iff {t : FileTree β} {path : RawPath} :
    (t.target? path).any Node.isDir = true ↔
      ∃ location, t.resolve path = .found location ∧ t.node? location = some .dir := by
  unfold target?
  cases t.resolve path with
  | found location =>
      cases hnode : t.node? location with
      | none => simp [hnode]
      | some node => cases node <;> simp [hnode, Node.isDir]
  | absent parent name => simp
  | failed => simp

end FileTree

end Lib.FileSystem
