import Mathlib.Data.List.Infix
import OpenPinch.Lib.Disk

/-!
# What changes to a file tree leave alone

`Edits region` relates two trees that differ below a location only, where the
second has no link that the first has not.  `Outside regions` leaves the links
open and allows several locations.

A path whose text names a directory, one more name and names below it leads
there or nowhere as long as no links stand below that name (`leads_slot`).  So an
operation on such a path edits what is below the name and nothing else.
-/

namespace Lib.FileSystem

variable {β : Type}

/-- The node is a symbolic link. -/
def Node.isLink : Node β → Bool
  | .link _ _ => true
  | _ => false

/-! ## Normal paths -/

theorem normalize_append (path rest : RawPath) :
    normalize (path ++ rest) = normalize path ++ normalize rest :=
  List.filter_append path rest

theorem normalize_normalize (path : RawPath) : normalize (normalize path) = normalize path := by
  simp [normalize]

theorem normalize_names {names : List String} (h : ∀ name ∈ names, ValidName name) :
    normalize names = names := by
  refine List.filter_eq_self.mpr fun name hname => ?_
  have hvalid := h name hname
  simp [hvalid.1, hvalid.2.1]

theorem normalize_name {name : String} (hvalid : ValidName name) (path : RawPath) :
    normalize (path ++ [name]) = normalize path ++ [name] := by
  have hname : normalize [name] = [name] := normalize_names (by simpa using hvalid)
  rw [normalize_append, hname]

theorem normalize_below {path : RawPath} {name : String} (hname : ValidName name)
    {rest : List String} (hvalid : ∀ other ∈ rest, ValidName other) :
    normalize (path ++ name :: rest) = normalize path ++ name :: rest := by
  have hnames : ∀ other ∈ name :: rest, ValidName other := by
    intro other hother
    rcases List.mem_cons.mp hother with rfl | hother
    · exact hname
    · exact hvalid other hother
  rw [normalize_append, normalize_names hnames]

/-- The way to the end of a normal path is normal. -/
theorem normalize_init {init : RawPath} {last : String} {path : RawPath}
    (h : init ++ [last] = normalize path) : normalize init = init := by
  have hall : normalize (init ++ [last]) = init ++ [last] := by rw [h, normalize_normalize]
  refine List.filter_eq_self.mpr fun name hname => ?_
  exact List.filter_eq_self.mp hall name (List.mem_append_left _ hname)

theorem parent?_append {path parent : RawPath} (h : parent? path = some parent) :
    ∃ last, normalize parent ++ [last] = normalize path := by
  unfold parent? at h
  split at h
  · cases h
  · rename_i last rest hreverse
    cases h
    have hpath : rest.reverse ++ [last] = normalize path := by
      rw [← List.reverse_cons, ← hreverse, List.reverse_reverse]
    exact ⟨last, by rw [normalize_init hpath, hpath]⟩

namespace FileTree

variable {t t' : FileTree β}

/-! ## Insertion and removal -/

/-- What an insertion found, and what it leaves. -/
theorem insert_eq_some {parent : Location} {name : String} {node : Node β}
    (h : t.insert parent name node = some t') :
    ValidName name ∧ t.node? parent = some .dir ∧ t.node? (parent ++ [name]) = none ∧
      t'.entries = (parent ++ [name], node) :: t.entries := by
  unfold insert at h
  split at h
  · rename_i hparent hfresh
    split at h
    · rename_i hname
      cases h
      exact ⟨hname, hparent, hfresh, rfl⟩
    · cases h
  · cases h

/-- A valid name that is free in a directory can be taken. -/
theorem exists_insert {parent : Location} {name : String} (hname : ValidName name)
    (hparent : t.node? parent = some .dir) (hfresh : t.node? (parent ++ [name]) = none)
    (node : Node β) : ∃ t', t.insert parent name node = some t' := by
  unfold insert
  split
  · rw [dif_pos hname]
    exact ⟨_, rfl⟩
  · rename_i hother
    exact absurd hfresh (hother hparent)

theorem node?_insert {parent : Location} {name : String} {node : Node β}
    (h : t.insert parent name node = some t') (location : Location) :
    t'.node? location =
      if location = parent ++ [name] then some node else t.node? location := by
  obtain ⟨-, -, -, hentries⟩ := insert_eq_some h
  unfold node?
  rw [hentries]
  by_cases hhere : location = parent ++ [name]
  · rw [if_pos hhere, hhere]
    simp [lookup]
  · rw [if_neg hhere]
    exact lookup_cons_other (Ne.symm hhere) node

theorem node?_remove_other {removed location : Location} (h : ¬ removed <+: location) :
    (t.remove removed).node? location = t.node? location :=
  lookup_filter h

theorem node?_remove_none {removed location : Location} (h : t.node? location = none) :
    (t.remove removed).node? location = none :=
  lookup_filter_none h

theorem node?_remove_below {removed location : Location} (hroot : location ≠ [])
    (h : removed <+: location) : (t.remove removed).node? location = none := by
  unfold node? lookup remove
  rw [if_neg hroot, Option.map_eq_none_iff, List.find?_filter, List.find?_eq_none]
  intro entry _
  simp only [Bool.not_eq_true', decide_eq_true_eq, not_and]
  rintro hkept rfl
  rw [List.isPrefixOf_iff_prefix.mpr h] at hkept
  cases hkept

/-! ## Locations -/

theorem node?_parent {location below : Location} {node : Node β}
    (hnode : t.node? (location ++ below) = some node) (hbelow : below ≠ []) :
    t.node? location = some .dir :=
  lookup_prefix t.wellFormed hbelow hnode

/-- A prefix of a directory is a directory. -/
theorem node?_dir_above {location below : Location}
    (hdir : t.node? (location ++ below) = some .dir) : t.node? location = some .dir := by
  cases below with
  | nil => rwa [List.append_nil] at hdir
  | cons name rest => exact node?_parent hdir (List.cons_ne_nil name rest)

theorem node?_none_below {location below : Location} (hnone : t.node? location = none) :
    t.node? (location ++ below) = none := by
  cases hnode : t.node? (location ++ below) with
  | none => rfl
  | some node =>
      cases below with
      | nil => rw [List.append_nil, hnone] at hnode; cases hnode
      | cons name rest =>
          rw [node?_parent hnode (List.cons_ne_nil name rest)] at hnone
          cases hnone

theorem validName_of_node? {location : Location} {node : Node β}
    (hnode : t.node? location = some node) : ∀ name ∈ location, ValidName name := by
  intro name hname
  obtain ⟨before, after, rfl⟩ := List.append_of_mem hname
  cases after with
  | nil => exact validName_of_lookup t.wellFormed hnode
  | cons next more =>
      rw [show before ++ name :: next :: more = (before ++ [name]) ++ next :: more by simp] at hnode
      exact validName_of_lookup t.wellFormed (node?_parent hnode (List.cons_ne_nil next more))

theorem mem_of_node? {location : Location} {node : Node β} (hroot : location ≠ [])
    (hnode : t.node? location = some node) : (location, node) ∈ t.entries := by
  rw [node?, lookup, if_neg hroot, Option.map_eq_some_iff] at hnode
  obtain ⟨entry, hfind, rfl⟩ := hnode
  have hfound := List.find?_some hfind
  have hkey : entry.1 = location := of_decide_eq_true hfound
  rw [← hkey]
  exact List.mem_of_find?_eq_some hfind

/-- An entry is the node at its location. -/
theorem node?_of_mem {entry : Location × Node β} (hentry : entry ∈ t.entries) :
    t.node? entry.1 = some entry.2 := by
  obtain ⟨entries, hwf⟩ := t
  induction hwf with
  | nil => cases hentry
  | @cons older parent name node hname hparent hfresh hwf ih =>
      rcases List.mem_cons.mp hentry with rfl | hentry
      · simp [node?, lookup]
      · have hnode := ih hentry
        have hother : parent ++ [name] ≠ entry.1 := by
          intro heq
          rw [heq] at hfresh
          cases hfresh.symm.trans hnode
        exact (lookup_cons_other hother node).trans hnode

/-- Behind an entry come none of the directories on the way to it. -/
theorem entries_ordered (t : FileTree β) :
    t.entries.Pairwise fun later entry => ¬ later.1 <+: entry.1 := by
  obtain ⟨entries, hwf⟩ := t
  induction hwf with
  | nil => exact List.Pairwise.nil
  | @cons older parent name node hname hparent hfresh hwf ih =>
      refine List.Pairwise.cons (fun entry hentry hprefix => ?_) ih
      have hfound := @node?_of_mem _ ⟨older, hwf⟩ entry hentry
      obtain ⟨rest, hrest⟩ := hprefix
      have hnone := @node?_none_below _ ⟨older, hwf⟩ _ rest hfresh
      rw [hrest, hfound] at hnone
      cases hnone

theorem validName_of_mem {entry : Location × Node β} (hentry : entry ∈ t.entries) :
    ∀ name ∈ entry.1, ValidName name := by
  obtain ⟨entries, hwf⟩ := t
  induction hwf with
  | nil => cases hentry
  | @cons older parent name node hname hparent _ hwf ih =>
      rcases List.mem_cons.mp hentry with rfl | hentry
      · intro other hother
        rcases List.mem_append.mp hother with hother | hother
        · exact @validName_of_node? _ ⟨older, hwf⟩ parent .dir hparent other hother
        · rw [List.mem_singleton.mp hother]
          exact hname
      · exact ih hentry

theorem validName_of_mem_below {location : Location} {entry : Location × Node β}
    (hentry : entry ∈ t.below location) : ∀ name ∈ entry.1, ValidName name := by
  obtain ⟨original, horiginal, hsome⟩ := List.mem_filterMap.mp hentry
  split at hsome
  · cases hsome
    intro name hname
    exact validName_of_mem (List.mem_reverse.mp horiginal) name (List.mem_of_mem_drop hname)
  · cases hsome

theorem node?_of_mem_below {location : Location} {entry : Location × Node β}
    (hentry : entry ∈ t.below location) :
    entry.1 ≠ [] ∧ t.node? (location ++ entry.1) = some entry.2 := by
  obtain ⟨original, horiginal, hsome⟩ := List.mem_filterMap.mp hentry
  split at hsome
  · rename_i hbelow
    cases hsome
    obtain ⟨rest, hrest⟩ := List.isPrefixOf_iff_prefix.mp hbelow.1
    simp only [← hrest, List.drop_left]
    refine ⟨?_, hrest ▸ node?_of_mem (List.mem_reverse.mp horiginal)⟩
    rintro rfl
    exact hbelow.2 (hrest.symm.trans (List.append_nil location))
  · cases hsome

/-- Directories come before what is in them. -/
theorem below_ordered (t : FileTree β) (location : Location) :
    (t.below location).Pairwise fun entry later => ¬ later.1 <+: entry.1 := by
  refine List.Pairwise.filterMap _ (fun entry later hordered shown hshown shown' hshown' => ?_)
    (List.pairwise_reverse.mpr t.entries_ordered)
  split at hshown
  · split at hshown'
    · rename_i hbelow hbelow'
      cases hshown
      cases hshown'
      obtain ⟨rest, hrest⟩ := List.isPrefixOf_iff_prefix.mp hbelow.1
      obtain ⟨rest', hrest'⟩ := List.isPrefixOf_iff_prefix.mp hbelow'.1
      simp only [← hrest, ← hrest', List.drop_left]
      rw [← hrest, ← hrest', List.prefix_append_right_inj] at hordered
      exact hordered
    · cases hshown'
  · cases hshown

/-- No link stands at the location or below it. -/
def LinkFree (t : FileTree β) (region : Location) : Prop :=
  ∀ location, region <+: location → ∀ absolute target,
    t.node? location ≠ some (.link absolute target)

/-- A tree without links is free of them everywhere. -/
theorem linkFree_of_entries (h : ∀ entry ∈ t.entries, entry.2.isLink = false)
    (region : Location) : t.LinkFree region := by
  intro location _ absolute target hlink
  unfold node? lookup at hlink
  split at hlink
  · cases hlink
  · obtain ⟨entry, hentry, hnode⟩ := Option.map_eq_some_iff.mp hlink
    have hplain := h entry (List.mem_of_find?_eq_some hentry)
    rw [hnode] at hplain
    cases hplain

/-! ## Where a path leads -/

/-- A text that names a directory leads there, and on with what comes after it. -/
theorem walk_directory (t : FileTree β) (follow : Location → RawPath → Resolution)
    {base : Location} {path : RawPath} (rest : RawPath)
    (hdir : t.node? (base ++ normalize path) = some .dir) :
    t.walk follow base (path ++ rest) = t.walk follow (base ++ normalize path) rest := by
  induction path generalizing base with
  | nil => simp [normalize]
  | cons name path ih =>
      by_cases hskip : name = "" ∨ name = "."
      · have hnormal : normalize (name :: path) = normalize path := by
          rcases hskip with rfl | rfl <;> simp [normalize]
        rw [hnormal] at hdir ⊢
        rw [List.cons_append, walk, if_pos hskip]
        exact ih hdir
      · have hnormal : normalize (name :: path) = name :: normalize path := by
          simp [normalize, not_or.mp hskip]
        have hsplit : base ++ name :: normalize path = (base ++ [name]) ++ normalize path := by
          simp
        rw [hnormal, hsplit] at hdir ⊢
        have hhere := node?_dir_above hdir
        have hvalid := validName_of_lookup t.wellFormed hhere
        rw [List.cons_append, walk, if_neg hskip, if_neg hvalid.2.2, hhere]
        exact ih hdir

/-- The path leads to the location, or nowhere. -/
structure Leads (t : FileTree β) (path : RawPath) (location : Location) : Prop where
  found : ∀ other, t.resolve path = .found other → other = location
  absent : ∀ parent name, t.resolve path = .absent parent name → parent ++ [name] = location

/-- The walk along names under which there are no links. -/
theorem walk_names (t : FileTree β) (follow : Location → RawPath → Resolution) {base : Location}
    {names : List String} (hvalid : ∀ name ∈ names, ValidName name)
    (hfree : ∀ before, before <+: names → before ≠ [] → ∀ absolute target,
      t.node? (base ++ before) ≠ some (.link absolute target)) :
    (∀ other, t.walk follow base names = .found other → other = base ++ names) ∧
      ∀ parent name, t.walk follow base names = .absent parent name →
        parent ++ [name] = base ++ names := by
  induction names generalizing base with
  | nil =>
      constructor
      · intro other hfound
        cases hfound
        exact (List.append_nil base).symm
      · intro parent name habsent
        cases habsent
  | cons name rest ih =>
      have hname := hvalid name List.mem_cons_self
      have hsplit : base ++ name :: rest = (base ++ [name]) ++ rest := by simp
      rw [walk, if_neg (by simp [hname.1, hname.2.1]), if_neg hname.2.2]
      cases hnode : t.node? (base ++ [name]) with
      | none =>
          by_cases hrest : rest = []
          · subst hrest
            rw [if_pos rfl]
            refine ⟨fun other hfound => (by cases hfound), fun parent last habsent => ?_⟩
            cases habsent
            rfl
          · rw [if_neg hrest]
            exact ⟨fun other hfound => (by cases hfound),
              fun parent last habsent => (by cases habsent)⟩
      | some node =>
          cases node with
          | file content =>
              by_cases hrest : rest = []
              · subst hrest
                simp only [if_pos]
                refine ⟨fun other hfound => ?_, fun parent last habsent => (by cases habsent)⟩
                cases hfound
                rfl
              · simp only [if_neg hrest]
                exact ⟨fun other hfound => (by cases hfound),
                  fun parent last habsent => (by cases habsent)⟩
          | dir =>
              rw [hsplit]
              refine ih (fun other hother => hvalid other (List.mem_cons_of_mem _ hother)) ?_
              intro before hbefore hne absolute target
              have hlink := hfree (name :: before) (List.cons_prefix_cons.mpr ⟨rfl, hbefore⟩)
                (List.cons_ne_nil name before) absolute target
              rwa [show base ++ name :: before = (base ++ [name]) ++ before by simp] at hlink
          | link absolute target =>
              exact absurd hnode (hfree [name]
                (List.cons_prefix_cons.mpr ⟨rfl, List.nil_prefix⟩) (List.cons_ne_nil name [])
                absolute target)

/-- Behind a directory, a name under which there are no links leads where it says. -/
theorem leads_slot {path : RawPath} {name : String} {rest : List String}
    (hdir : t.node? (normalize path) = some .dir)
    (hvalid : ∀ other ∈ name :: rest, ValidName other)
    (hfree : t.LinkFree (normalize path ++ [name])) :
    t.Leads (path ++ name :: rest) (normalize path ++ name :: rest) := by
  have hresolve : t.resolve (path ++ name :: rest) =
      t.walk (t.resolveFrom 39) (normalize path) (name :: rest) :=
    @walk_directory _ t (t.resolveFrom 39) [] path (name :: rest) hdir
  have hlinks : ∀ before, before <+: name :: rest → before ≠ [] → ∀ absolute target,
      t.node? (normalize path ++ before) ≠ some (.link absolute target) := by
    intro before hbefore hne
    cases before with
    | nil => exact absurd rfl hne
    | cons first more =>
        obtain ⟨rfl, -⟩ := List.cons_prefix_cons.mp hbefore
        exact hfree _ ⟨more, by simp⟩
  have hnames := walk_names t (t.resolveFrom 39) hvalid hlinks
  constructor
  · intro other hfound
    exact hnames.1 other (hresolve ▸ hfound)
  · intro parent last habsent
    exact hnames.2 parent last (hresolve ▸ habsent)

/-- A path whose text names a location with a node other than a link leads there. -/
theorem resolve_text {path : RawPath} {rest : List String} {node : Node β}
    (hdir : t.node? (normalize path) = some .dir)
    (hnode : t.node? (normalize path ++ rest) = some node)
    (hlink : ∀ absolute target, node ≠ .link absolute target) :
    t.resolve (path ++ rest) = .found (normalize path ++ rest) :=
  (@walk_directory _ t (t.resolveFrom 39) [] path rest hdir).trans
    (walk_location t (t.resolveFrom 39) hnode hlink)

/-! ## Operations on paths -/

theorem mkdir_normalize (t : FileTree β) (path : RawPath) :
    t.mkdir (normalize path) = t.mkdir path := by
  unfold mkdir
  rw [normalize_normalize]

/-- A new directory leaves the nodes as they are. -/
theorem node?_mkdir {path : RawPath} (hmkdir : t.mkdir path = some t') {location : Location}
    {node : Node β} (hnode : t.node? location = some node) : t'.node? location = some node := by
  unfold mkdir at hmkdir
  split at hmkdir
  · cases hmkdir
  · rename_i name rest _
    split at hmkdir
    · rename_i parent _
      rw [node?_insert hmkdir, if_neg]
      · exact hnode
      · rintro rfl
        rw [(insert_eq_some hmkdir).2.2.1] at hnode
        cases hnode
    · cases hmkdir

/-- What a written file changes. -/
theorem node?_writeFile {path : RawPath} {content : β} {location : Location}
    (hleads : t.Leads path location) (hwrite : t.writeFile path content = some t')
    (other : Location) :
    t'.node? other = if other = location then some (.file content) else t.node? other := by
  unfold writeFile at hwrite
  cases hresolve : t.resolve path with
  | failed =>
      rw [hresolve] at hwrite
      cases hwrite
  | absent parent name =>
      rw [hresolve] at hwrite
      rw [node?_insert hwrite, hleads.absent parent name hresolve]
  | found found =>
      rw [hresolve] at hwrite
      obtain rfl := hleads.found found hresolve
      simp only at hwrite
      split at hwrite
      · rename_i old name hfile hlast
        obtain ⟨init, rfl⟩ := List.getLast?_eq_some_iff.mp hlast
        rw [List.dropLast_concat] at hwrite
        rw [node?_insert hwrite]
        by_cases hother : other = init ++ [name]
        · rw [if_pos hother, if_pos hother]
        · rw [if_neg hother, if_neg hother]
          by_cases hbelow : init ++ [name] <+: other
          · -- nothing is below a file
            obtain ⟨rest, rfl⟩ := hbelow
            have hrest : rest ≠ [] := by
              rintro rfl
              exact hother (List.append_nil _)
            rw [node?_remove_below (by simp) (List.prefix_append _ _)]
            cases hnode : t.node? (init ++ [name] ++ rest) with
            | none => rfl
            | some node =>
                rw [node?_parent hnode hrest] at hfile
                cases hfile
          · exact node?_remove_other hbelow
      · cases hwrite

/-- A directory is not written as a file. -/
theorem writeFile_directory {path : RawPath} {content : β} {location : Location}
    (hleads : t.Leads path location) (hdir : t.node? location = some .dir) :
    t.writeFile path content = none := by
  unfold writeFile
  cases hresolve : t.resolve path with
  | failed => rfl
  | absent parent name =>
      simp only
      cases hinsert : t.insert parent name (.file content) with
      | none => rfl
      | some t' =>
          have hfree := (insert_eq_some hinsert).2.2.1
          rw [hleads.absent parent name hresolve, hdir] at hfree
          cases hfree
  | found found =>
      obtain rfl := hleads.found found hresolve
      simp only [hdir]

/-- A directory is not made anew. -/
theorem mkdir_existing {location : Location} (hnode : t.node? location = some .dir) :
    t.mkdir location = none := by
  have hnormal := normalize_names (validName_of_node? hnode)
  unfold mkdir
  rw [hnormal]
  cases hreverse : location.reverse with
  | nil => rfl
  | cons name rest =>
      have hlocation : location = rest.reverse ++ [name] := by
        rw [← List.reverse_reverse location, hreverse, List.reverse_cons]
      subst hlocation
      have hparent := node?_parent hnode (List.cons_ne_nil name [])
      have hresolve := resolve_location t hparent (by intro absolute target heq; cases heq)
      simp only [hresolve]
      cases hinsert : t.insert rest.reverse name .dir with
      | none => rfl
      | some t' =>
          rw [(insert_eq_some hinsert).2.2.1] at hnode
          cases hnode

theorem resolve_directory {path : RawPath} (hdir : t.node? (normalize path) = some .dir) :
    t.resolve path = .found (normalize path) := by
  have hresolve := @resolve_text _ t path [] .dir hdir (by rw [List.append_nil]; exact hdir)
    (by intro absolute target heq; cases heq)
  rwa [List.append_nil, List.append_nil] at hresolve

/-! ## The names in a directory -/

/-- The names in the directory that a path leads to. -/
def names? (t : FileTree β) (path : RawPath) : Option (List String) :=
  match t.resolve path with
  | .found location =>
      if (t.node? location).any Node.isDir then
        some ((t.below location).filterMap fun entry =>
          match entry.1 with
          | [name] => some name
          | _ => none)
      else none
  | _ => none

/-- The names of the nodes in a directory are listed, and no others. -/
theorem mem_names?_iff {path : RawPath} {names : List String}
    (hdir : t.node? (normalize path) = some .dir) (hnames : t.names? path = some names)
    {name : String} : name ∈ names ↔ ∃ node, t.node? (normalize path ++ [name]) = some node := by
  unfold names? at hnames
  rw [resolve_directory hdir] at hnames
  simp only [hdir, Option.any_some, Node.isDir, if_true, Option.some.injEq] at hnames
  subst hnames
  constructor
  · intro hname
    obtain ⟨entry, hentry, hone⟩ := List.mem_filterMap.mp hname
    split at hone
    · rename_i first heq
      cases hone
      exact ⟨_, heq ▸ (node?_of_mem_below hentry).2⟩
    · cases hone
  · rintro ⟨node, hnode⟩
    exact List.mem_filterMap.mpr ⟨([name], node), mem_below (List.cons_ne_nil name []) hnode, rfl⟩

/-- A directory can be listed. -/
theorem exists_names? {path : RawPath} (hdir : t.node? (normalize path) = some .dir) :
    ∃ names, t.names? path = some names := by
  unfold names?
  rw [resolve_directory hdir]
  simp only [hdir, Option.any_some, Node.isDir, if_true]
  exact ⟨_, rfl⟩

/-! ## Edits -/

/-- The trees differ below the region only, and the second one has no new links. -/
structure Edits (region : Location) (t t' : FileTree β) : Prop where
  outside : ∀ location, ¬ region <+: location → t'.node? location = t.node? location
  links : ∀ location absolute target, t'.node? location = some (.link absolute target) →
    t.node? location = some (.link absolute target)

/-- The trees differ below the regions only. -/
def Outside (regions : List Location) (t t' : FileTree β) : Prop :=
  ∀ location, (∀ region ∈ regions, ¬ region <+: location) → t'.node? location = t.node? location

namespace Edits

variable {region : Location} {t'' : FileTree β}

theorem refl (region : Location) (t : FileTree β) : Edits region t t :=
  ⟨fun _ _ => rfl, fun _ _ _ => id⟩

theorem trans (h : Edits region t t') (h' : Edits region t' t'') : Edits region t t'' :=
  ⟨fun location hother => (h'.outside location hother).trans (h.outside location hother),
    fun location absolute target hlink =>
      h.links location absolute target (h'.links location absolute target hlink)⟩

theorem linkFree (h : Edits region t t') {other : Location} (hfree : t.LinkFree other) :
    t'.LinkFree other :=
  fun location hbelow absolute target hlink =>
    hfree location hbelow absolute target (h.links location absolute target hlink)

theorem of_insert {parent : Location} {name : String} {node : Node β}
    (hinsert : t.insert parent name node = some t') (hbelow : region <+: parent ++ [name])
    (hlink : ∀ absolute target, node ≠ .link absolute target) : Edits region t t' := by
  constructor
  · intro location hother
    rw [node?_insert hinsert, if_neg]
    rintro rfl
    exact hother hbelow
  · intro location absolute target hfound
    rw [node?_insert hinsert] at hfound
    split at hfound
    · cases hfound
      exact absurd rfl (hlink absolute target)
    · exact hfound

theorem of_remove {removed : Location} (hbelow : region <+: removed) :
    Edits region t (t.remove removed) := by
  constructor
  · intro location hother
    exact node?_remove_other fun hinside => hother (hbelow.trans hinside)
  · intro location absolute target hfound
    by_cases hinside : removed <+: location
    · by_cases hroot : location = []
      · rw [hroot, node?_root] at hfound
        cases hfound
      · rw [node?_remove_below hroot hinside] at hfound
        cases hfound
    · rwa [node?_remove_other hinside] at hfound

theorem toOutside (h : Edits region t t') : Outside [region] t t' :=
  fun location hother => h.outside location (hother region List.mem_cons_self)

end Edits

namespace Outside

variable {regions : List Location} {t'' : FileTree β}

theorem refl (regions : List Location) (t : FileTree β) : Outside regions t t := fun _ _ => rfl

theorem trans (h : Outside regions t t') (h' : Outside regions t' t'') : Outside regions t t'' :=
  fun location hother => (h' location hother).trans (h location hother)

theorem mono {more : List Location} (h : Outside regions t t') (hsub : regions ⊆ more) :
    Outside more t t' :=
  fun location hother => h location fun region hregion => hother region (hsub hregion)

/-- The trees agree at and below a location that is apart from the region. -/
theorem apart {region other location : Location} (h : Outside [region] t t')
    (hother : ¬ region <+: other) (hregion : ¬ other <+: region) (hbelow : other <+: location) :
    t'.node? location = t.node? location := by
  refine h location fun region' hregion' hprefix => ?_
  rw [List.mem_singleton.mp hregion'] at hprefix
  rcases List.prefix_or_prefix_of_prefix hprefix hbelow with hprefix | hprefix
  · exact hother hprefix
  · exact hregion hprefix

end Outside

/-- A name in a directory that a text names. -/
theorem entryLocation_name {path : RawPath} {name : String}
    (hdir : t.node? (normalize path) = some .dir) (hvalid : ValidName name) :
    t.entryLocation? (path ++ [name]) =
      (t.node? (normalize path ++ [name])).map fun _ => normalize path ++ [name] := by
  have hresolve := resolve_location t hdir (by intro absolute target heq; cases heq)
  unfold entryLocation?
  rw [normalize_name hvalid, List.reverse_append, List.reverse_singleton]
  simp only [List.singleton_append, List.reverse_reverse, hresolve, if_neg hvalid.2.2]

/-! ## Slots -/

/-- A name in a directory that a text names, with no links at the name or below it. -/
structure Slot (t : FileTree β) (path : RawPath) (name : String) : Prop where
  dir : t.node? (normalize path) = some .dir
  valid : ValidName name
  free : t.LinkFree (normalize path ++ [name])

namespace Slot

variable {path : RawPath} {name : String}

theorem edits (hslot : t.Slot path name) (h : Edits (normalize path ++ [name]) t t') :
    t'.Slot path name where
  dir := by
    rw [h.outside _ ?_]
    · exact hslot.dir
    · intro hprefix
      have hlength := hprefix.length_le
      rw [List.length_append, List.length_singleton] at hlength
      omega
  valid := hslot.valid
  free := h.linkFree hslot.free

theorem normal (hslot : t.Slot path name) : t.Slot (normalize path) name := by
  have hnormal := normalize_normalize path
  exact ⟨by rw [hnormal]; exact hslot.dir, hslot.valid, by rw [hnormal]; exact hslot.free⟩

theorem leads (hslot : t.Slot path name) {rest : List String}
    (hvalid : ∀ other ∈ rest, ValidName other) :
    t.Leads (path ++ name :: rest) (normalize path ++ name :: rest) := by
  refine leads_slot hslot.dir (fun other hother => ?_) hslot.free
  rcases List.mem_cons.mp hother with rfl | hother
  · exact hslot.valid
  · exact hvalid other hother

theorem target?_free (hslot : t.Slot path name)
    (hfree : t.node? (normalize path ++ [name]) = none) : t.target? (path ++ [name]) = none := by
  have hleads : t.Leads (path ++ [name]) (normalize path ++ [name]) :=
    hslot.leads fun other hother => absurd hother List.not_mem_nil
  unfold target?
  cases hresolve : t.resolve (path ++ [name]) with
  | found location =>
      rw [← hleads.found location hresolve] at hfree
      exact hfree
  | absent parent last => rfl
  | failed => rfl

theorem target?_node (hslot : t.Slot path name) {node : Node β}
    (hnode : t.node? (normalize path ++ [name]) = some node) :
    t.target? (path ++ [name]) = some node := by
  have hresolve := resolve_text hslot.dir hnode (by
    rintro absolute target rfl
    exact hslot.free _ (List.prefix_refl _) absolute target hnode)
  unfold target?
  rw [hresolve]
  exact hnode

theorem target?_eq (hslot : t.Slot path name) :
    t.target? (path ++ [name]) = t.node? (normalize path ++ [name]) := by
  cases hnode : t.node? (normalize path ++ [name]) with
  | none => exact hslot.target?_free hnode
  | some node => exact hslot.target?_node hnode

/-- Every part of the path behind the directory leads where it says. -/
theorem leads_part (hslot : t.Slot path name) {rest init : List String}
    (hvalid : ∀ other ∈ rest, ValidName other) (hinit : init <+: name :: rest)
    {location : Location} (hfound : t.resolve (normalize path ++ init) = .found location) :
    location = normalize path ++ init := by
  cases init with
  | nil =>
      rw [List.append_nil] at hfound ⊢
      rw [resolve_location t hslot.dir (by intro absolute target heq; cases heq)] at hfound
      cases hfound
      rfl
  | cons first more =>
      obtain ⟨rfl, hmore⟩ := List.cons_prefix_cons.mp hinit
      have hleads := hslot.normal.leads fun other hother => hvalid other (hmore.subset hother)
      rw [normalize_normalize] at hleads
      exact hleads.found location hfound

/-- A new directory at or below the name is put where the path says. -/
theorem mkdir_inserts (hslot : t.Slot path name) {rest : List String}
    (hvalid : ∀ other ∈ rest, ValidName other)
    (hmkdir : t.mkdir (normalize path ++ name :: rest) = some t') :
    ∃ parent last, parent ++ [last] = normalize path ++ name :: rest ∧
      t.insert parent last .dir = some t' := by
  have hall : ∀ other ∈ name :: rest, ValidName other := by
    intro other hother
    rcases List.mem_cons.mp hother with rfl | hother
    · exact hslot.valid
    · exact hvalid other hother
  have hnormal : normalize (normalize path ++ name :: rest) = normalize path ++ name :: rest := by
    rw [normalize_append, normalize_normalize, normalize_names hall]
  obtain ⟨init, last, hsplit⟩ : ∃ init last, name :: rest = init ++ [last] :=
    ⟨_, _, (List.dropLast_append_getLast (List.cons_ne_nil name rest)).symm⟩
  unfold mkdir at hmkdir
  rw [hnormal, hsplit, ← List.append_assoc, List.reverse_append, List.reverse_singleton] at hmkdir
  simp only [List.singleton_append, List.reverse_reverse] at hmkdir
  cases hresolve : t.resolve (normalize path ++ init) with
  | absent parent other => rw [hresolve] at hmkdir; cases hmkdir
  | failed => rw [hresolve] at hmkdir; cases hmkdir
  | found location =>
      rw [hresolve] at hmkdir
      have hlocation := hslot.leads_part hvalid ⟨[last], hsplit.symm⟩ hresolve
      refine ⟨location, last, ?_, hmkdir⟩
      rw [hlocation, List.append_assoc, ← hsplit]

/-- A name that is taken does not become a directory. -/
theorem mkdir_taken (hslot : t.Slot path name) {node : Node β}
    (hnode : t.node? (normalize path ++ [name]) = some node) :
    t.mkdir (normalize path ++ [name]) = none := by
  cases hmkdir : t.mkdir (normalize path ++ [name]) with
  | none => rfl
  | some t' =>
      obtain ⟨parent, last, hgoal, hinsert⟩ := hslot.mkdir_inserts (by simp) hmkdir
      rw [← hgoal, (insert_eq_some hinsert).2.2.1] at hnode
      cases hnode

theorem parentFound (hslot : t.Slot path name) :
    t.parentFound (normalize path ++ [name]) = true := by
  have hresolve := resolve_location t hslot.dir (by intro absolute target heq; cases heq)
  unfold FileTree.parentFound
  rw [normalize_name hslot.valid, normalize_normalize, List.reverse_append,
    List.reverse_singleton]
  simp only [List.singleton_append, List.reverse_reverse, hresolve]

/-- A free name becomes a directory. -/
theorem mkdir_free (hslot : t.Slot path name)
    (hfree : t.node? (normalize path ++ [name]) = none) :
    ∃ t', t.mkdir (normalize path ++ [name]) = some t' ∧
      t'.node? (normalize path ++ [name]) = some .dir := by
  obtain ⟨t', hinsert⟩ := exists_insert hslot.valid hslot.dir hfree .dir
  refine ⟨t', ?_, by rw [node?_insert hinsert, if_pos rfl]⟩
  have hresolve := resolve_location t hslot.dir (by intro absolute target heq; cases heq)
  unfold mkdir
  rw [normalize_name hslot.valid, normalize_normalize, List.reverse_append,
    List.reverse_singleton]
  simp only [List.singleton_append, List.reverse_reverse, hresolve]
  exact hinsert

theorem mkdir_edits (hslot : t.Slot path name) {rest : List String}
    (hvalid : ∀ other ∈ rest, ValidName other)
    (hmkdir : t.mkdir (normalize path ++ name :: rest) = some t') :
    Edits (normalize path ++ [name]) t t' := by
  obtain ⟨parent, last, hgoal, hinsert⟩ := hslot.mkdir_inserts hvalid hmkdir
  refine Edits.of_insert hinsert ?_ (by intro absolute target heq; cases heq)
  rw [hgoal]
  exact ⟨rest, by simp⟩

/-- A file written at or below the name. -/
theorem writeFile_edits (hslot : t.Slot path name) {rest : List String}
    (hvalid : ∀ other ∈ rest, ValidName other) {content : β}
    (hwrite : t.writeFile (path ++ name :: rest) content = some t') :
    Edits (normalize path ++ [name]) t t' := by
  have hnode := node?_writeFile (hslot.leads hvalid) hwrite
  constructor
  · intro location hother
    rw [hnode, if_neg]
    rintro rfl
    exact hother ⟨rest, by simp⟩
  · intro location absolute target hlink
    rw [hnode] at hlink
    split at hlink
    · cases hlink
    · exact hlink

end Slot

end FileTree

end Lib.FileSystem
