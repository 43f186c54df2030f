import OpenPinch.Common.SkillFrames
import OpenPinch.Lib.FileShapes

/-!
# What a copy leaves

`copyDirectory` goes through the nodes below its source, directories before their
contents.  When it returns, the new directory is laid out as the source is
(`copyDirectory_laidOut`).  When it fails, some node of the source has nothing at
its place (`copyDirectory_missing`).
-/

namespace OpenPinch

open Lib.FileSystem
open Lib.FileSystem.Disk (Keeps Triple Visits)
open Lib.FileSystem.FileTree (Edits Slot)

/-! ## One turn -/

section

variable {t₀ : FileTree Bytes} {path : RawPath} {name : String} {relative : Location}
  {node : Node Bytes}

/-- A turn keeps what allows for directories on the way and for the copied file. -/
theorem keeps_copyEntry_of {J : FileTree Bytes → Prop} (hslot : t₀.Slot path name)
    (hvalid : ∀ other ∈ relative, ValidName other) (source : RawPath)
    (hmade : ∀ t t' made, J t → made <+: normalize path ++ name :: relative →
      t.node? made = none →
      (∀ other, t'.node? other = if other = made then some .dir else t.node? other) → J t')
    (hwritten : node.isDir = false → ∀ t t' content, J t →
      t.node? (normalize path ++ name :: relative) ≠ some .dir →
      (∀ other, t'.node? other = if other = normalize path ++ name :: relative then
        some (.file content) else t.node? other) → J t') :
    Keeps (fun t => Edits (normalize path ++ [name]) t₀ t ∧ J t)
      (copyEntry source (path ++ [name]) relative node) := by
  have hcreate : ∀ goal, normalize goal <+: normalize path ++ name :: relative → ∀ message,
      Keeps (fun t => Edits (normalize path ++ [name]) t₀ t ∧ J t)
        (Disk.createDirAll goal message) := fun goal hgoal message =>
    Disk.keeps_createDirAll_made hslot hvalid hgoal
      (fun t t' made hJ hway => hmade t t' made hJ (hway.trans hgoal)) message
  refine triple_copyEntry hslot.valid hvalid (fun _ => hcreate _ ?_)
    (fun parent last hparent => hcreate parent (hparent ▸ List.prefix_append _ _))
    fun hfile message => Disk.triple_copy message ?_
  · rw [normalize_below hslot.valid hvalid]
  · intro t t' content ⟨hedits, hJ⟩ _ hwrite
    have hslot' := hslot.edits hedits
    have hleads := hslot'.leads hvalid
    refine ⟨hedits.trans (hslot'.writeFile_edits hvalid hwrite), ?_⟩
    refine hwritten hfile t t' content hJ (fun hdir => ?_) (FileTree.node?_writeFile hleads hwrite)
    rw [FileTree.writeFile_directory hleads hdir] at hwrite
    cases hwrite

/-- A turn that returns has made its node. -/
theorem triple_copyEntry_lays (hslot : t₀.Slot path name)
    (hvalid : ∀ other ∈ relative, ValidName other) (source : RawPath) (node : Node Bytes) :
    Triple (Edits (normalize path ++ [name]) t₀) (copyEntry source (path ++ [name]) relative node)
      (fun _ t => Edits (normalize path ++ [name]) t₀ t ∧
        t.shape (normalize path ++ name :: relative) = some node.copied)
      (Edits (normalize path ++ [name]) t₀) := by
  have hcreate : ∀ goal, normalize goal <+: normalize path ++ name :: relative → ∀ message,
      Keeps (Edits (normalize path ++ [name]) t₀) (Disk.createDirAll goal message) :=
    fun _ => Disk.keeps_createDirAll_slot hslot hvalid
  refine triple_copyEntry hslot.valid hvalid (fun hdir message => ?_)
    (fun parent last hparent => hcreate parent (hparent ▸ List.prefix_append _ _))
    fun hfile message => Disk.triple_copy message ?_
  · refine (Disk.triple_createDirAll_goal hslot hvalid message).mono (fun _ => id)
      (fun _ t ht => ⟨ht.1, ?_⟩) fun _ => id
    cases node with
    | dir => exact FileTree.shape_eq_dir_iff.mpr ht.2
    | file content => cases hdir
    | link absolute target => cases hdir
  · intro t t' content hedits _ hwrite
    have hslot' := hslot.edits hedits
    refine ⟨hedits.trans (hslot'.writeFile_edits hvalid hwrite), ?_⟩
    have hnode : t'.node? (normalize path ++ name :: relative) = some (.file content) := by
      rw [FileTree.node?_writeFile (hslot'.leads hvalid) hwrite, if_pos rfl]
    cases node with
    | dir => cases hfile
    | file _ => exact FileTree.shape_eq_file_iff.mpr ⟨content, hnode⟩
    | link _ _ => exact FileTree.shape_eq_file_iff.mpr ⟨content, hnode⟩

/-- A turn that fails has not made its node. -/
theorem triple_copyEntry_fails (hslot : t₀.Slot path name)
    (hvalid : ∀ other ∈ relative, ValidName other) (source : RawPath) (node : Node Bytes) :
    Triple (fun t => Edits (normalize path ++ [name]) t₀ t ∧
        t.node? (normalize path ++ name :: relative) = none)
      (copyEntry source (path ++ [name]) relative node)
      (fun _ => Edits (normalize path ++ [name]) t₀)
      (fun t => Edits (normalize path ++ [name]) t₀ t ∧
        t.node? (normalize path ++ name :: relative) = none) := by
  -- the directories on the way are shorter
  have hway : ∀ parent last, normalize parent ++ [last] = normalize path ++ name :: relative →
      ∀ message, Keeps (fun t => Edits (normalize path ++ [name]) t₀ t ∧
        t.node? (normalize path ++ name :: relative) = none) (Disk.createDirAll parent message) :=
    fun parent last hparent message =>
      Disk.keeps_createDirAll_free hslot hvalid (hparent ▸ List.prefix_append _ _) message
        fun hprefix => by
          have hlength := hprefix.length_le
          rw [← hparent, List.length_append, List.length_singleton] at hlength
          omega
  refine triple_copyEntry hslot.valid hvalid (fun _ message => ?_) hway
    fun _ message => Disk.triple_copy message ?_
  · have hgoal := Disk.triple_createDirAll_goal_of
      (fun t => t.node? (normalize path ++ name :: relative) = none) hslot hvalid message
      fun parent last hparent => hway parent last hparent message
    exact hgoal.mono (fun _ => id) (fun _ _ ht => ht.1) fun _ => id
  · intro t t' content ⟨hedits, _⟩ _ hwrite
    exact hedits.trans ((hslot.edits hedits).writeFile_edits hvalid hwrite)

end

/-! ## A copy that returns -/

/-- The new directory is there, and what is below it has a counterpart below the source. -/
structure PartlyLaid (t₀ : FileTree Bytes) (source place : Location) (t : FileTree Bytes) :
    Prop where
  dir : t.node? place = some .dir
  only : ∀ relative node, t.node? (place ++ relative) = some node →
    ∃ original, t₀.node? (source ++ relative) = some original

section

variable {t₀ : FileTree Bytes} {path : RawPath} {name : String} {source : Location}
  {entry : Location × Node Bytes}

/-- Where a node is, there is one on the way to it. -/
theorem exists_node_above {t : FileTree Bytes} {relative above : Location} {node : Node Bytes}
    (hnode : t.node? (source ++ relative) = some node) (habove : above <+: relative) :
    ∃ original, t.node? (source ++ above) = some original := by
  obtain ⟨rest, rfl⟩ := habove
  cases rest with
  | nil => exact ⟨node, by rwa [List.append_nil] at hnode⟩
  | cons next more =>
      rw [← List.append_assoc] at hnode
      exact ⟨_, FileTree.node?_parent hnode (List.cons_ne_nil next more)⟩

theorem keeps_partlyLaid (hslot : t₀.Slot path name) {original : Node Bytes}
    (horiginal : t₀.node? (source ++ entry.1) = some original) (root : RawPath) :
    Keeps (fun t => Edits (normalize path ++ [name]) t₀ t ∧
        PartlyLaid t₀ source (normalize path ++ [name]) t)
      (copyEntry root (path ++ [name]) entry.1 entry.2) := by
  have hgoal : normalize path ++ name :: entry.1 = normalize path ++ [name] ++ entry.1 := by simp
  have hvalid : ∀ other ∈ entry.1, ValidName other := fun other hother =>
    FileTree.validName_of_node? horiginal other (List.mem_append_right _ hother)
  refine keeps_copyEntry_of hslot hvalid root (fun t t' made hlaid hway hfree hnodes => ?_)
    fun _ t t' content hlaid hplain hnodes => ?_
  · constructor
    · rw [hnodes, if_neg]
      · exact hlaid.dir
      · rintro rfl
        rw [hlaid.dir] at hfree
        cases hfree
    · intro relative node hnode
      rw [hnodes] at hnode
      split at hnode
      · rename_i hmade
        rw [← hmade, hgoal, List.prefix_append_right_inj] at hway
        exact exists_node_above horiginal hway
      · exact hlaid.only relative node hnode
  · constructor
    · rw [hnodes, if_neg]
      · exact hlaid.dir
      · intro hplace
        rw [← hplace] at hplain
        exact hplain hlaid.dir
    · intro relative node hnode
      rw [hnodes] at hnode
      split at hnode
      · rename_i hsame
        rw [hgoal] at hsame
        exact ⟨original, List.append_cancel_left hsame ▸ horiginal⟩
      · exact hlaid.only relative node hnode

/-- What has been made stays. -/
theorem keeps_laid (hslot : t₀.Slot path name) (hvalid : ∀ name ∈ entry.1, ValidName name)
    {other : Location × Node Bytes} (hsame : other.1 = entry.1 → other.2 = entry.2)
    (root : RawPath) :
    Keeps (fun t => Edits (normalize path ++ [name]) t₀ t ∧
        t.shape (normalize path ++ name :: other.1) = some other.2.copied)
      (copyEntry root (path ++ [name]) entry.1 entry.2) := by
  refine keeps_copyEntry_of hslot hvalid root (fun t t' made hlaid hway hfree hnodes => ?_)
    fun hfile t t' content hlaid hplain hnodes => ?_
  · rw [FileTree.shape, hnodes, if_neg]
    · exact hlaid
    · rintro rfl
      rw [FileTree.shape, hfree] at hlaid
      cases hlaid
  · rw [FileTree.shape, hnodes]
    split
    · rename_i hhere
      rw [hsame (by simpa using hhere)]
      cases hnode : entry.2 with
      | dir =>
          rw [hnode] at hfile
          cases hfile
      | file _ => rfl
      | link _ _ => rfl
    · exact hlaid

/-- Turns through the nodes of a directory make each of them. -/
theorem triple_copyEntries_lays (hslot : t₀.Slot path name) (root : RawPath)
    {entries : List (Location × Node Bytes)}
    (hentries : ∀ item ∈ entries, ∃ original, t₀.node? (source ++ item.1) = some original)
    (hmem : entry ∈ entries) (hsame : ∀ item ∈ entries, entry.1 = item.1 → entry.2 = item.2) :
    Triple (fun t => Edits (normalize path ++ [name]) t₀ t ∧
        PartlyLaid t₀ source (normalize path ++ [name]) t)
      (entries.forM fun item => copyEntry root (path ++ [name]) item.1 item.2)
      (fun _ t => (Edits (normalize path ++ [name]) t₀ t ∧
          PartlyLaid t₀ source (normalize path ++ [name]) t) ∧
        t.shape (normalize path ++ name :: entry.1) = some entry.2.copied)
      (fun t => Edits (normalize path ++ [name]) t₀ t ∧
        PartlyLaid t₀ source (normalize path ++ [name]) t) := by
  have hvalid : ∀ item ∈ entries, ∀ other ∈ item.1, ValidName other := by
    intro item hitem other hother
    obtain ⟨original, horiginal⟩ := hentries item hitem
    exact FileTree.validName_of_node? horiginal other (List.mem_append_right _ hother)
  have hkeeps : ∀ item ∈ entries,
      Keeps (fun t => Edits (normalize path ++ [name]) t₀ t ∧
          PartlyLaid t₀ source (normalize path ++ [name]) t)
        (copyEntry root (path ++ [name]) item.1 item.2) := by
    intro item hitem
    obtain ⟨original, horiginal⟩ := hentries item hitem
    exact keeps_partlyLaid hslot horiginal root
  -- what is made by the entry's own turn stays in the turns after it
  refine Disk.triple_forM_mem hkeeps (fun item hitem => ?_) hmem ?_
  · refine ((hkeeps item hitem).and
      (keeps_laid hslot (hvalid item hitem) (hsame item hitem) root)).mono
        (fun _ ht => ⟨ht.1, ht.1.1, ht.2⟩) (fun _ _ ht => ⟨ht.1, ht.2.2⟩)
        fun _ ht => ⟨ht.1, ht.2.2⟩
  · exact ((triple_copyEntry_lays hslot (hvalid entry hmem) root entry.2).and
      (hkeeps entry hmem)).mono (fun _ ht => ⟨ht.1, ht⟩) (fun _ _ ht => ⟨ht.2, ht.1.2⟩)
        fun _ ht => ht.2

/-- A copy that has every node of the source is laid out as the source. -/
theorem PartlyLaid.shape_eq {t : FileTree Bytes} (hsource : t₀.node? source = some .dir)
    (hedits : Edits (normalize path ++ [name]) t₀ t)
    (hlaid : PartlyLaid t₀ source (normalize path ++ [name]) t)
    (hmade : ∀ item ∈ t₀.below source,
      t.shape (normalize path ++ name :: item.1) = some item.2.copied) :
    t.shape = t₀.laidOut source (normalize path ++ [name]) := by
  funext location
  by_cases hbelow : normalize path ++ [name] <+: location
  · obtain ⟨relative, rfl⟩ := hbelow
    rw [FileTree.laidOut_below]
    by_cases hrelative : relative = []
    · subst hrelative
      rw [List.append_nil, List.append_nil, hsource]
      exact FileTree.shape_eq_dir_iff.mpr hlaid.dir
    · cases hnode : t₀.node? (source ++ relative) with
      | some original =>
          have hshape := hmade _ (FileTree.mem_below hrelative hnode)
          rwa [show normalize path ++ name :: relative =
            normalize path ++ [name] ++ relative by simp] at hshape
      | none =>
          cases hnew : t.node? (normalize path ++ [name] ++ relative) with
          | none => rw [FileTree.shape, hnew]; rfl
          | some node =>
              obtain ⟨original, horiginal⟩ := hlaid.only relative node hnew
              rw [hnode] at horiginal
              cases horiginal
  · rw [FileTree.laidOut, if_neg hbelow, FileTree.shape, FileTree.shape,
      hedits.outside location hbelow]

/-- A copy of a directory that returns is laid out as the directory. -/
theorem copyDirectory_laidOut {root : RawPath} (hslot : t₀.Slot path name)
    (hdir : t₀.node? (normalize path ++ [name]) = some .dir)
    (hempty : ∀ relative node, t₀.node? (normalize path ++ [name] ++ relative) = some node →
      relative = [])
    (hroot : t₀.resolve root = .found source) (hsource : t₀.node? source = some .dir)
    {d d' : Disk Bytes} (hd : d.tree = t₀)
    (hrun : copyDirectory root (path ++ [name]) d = .ok () d') :
    d'.tree.shape = t₀.laidOut source (normalize path ++ [name]) := by
  obtain ⟨entries, middle, hwalk, hloop⟩ := Disk.bind_eq_ok.mp hrun
  obtain ⟨htree, hvisits⟩ := (Disk.triple_walkDir (I := fun t => t = t₀) root).ok hd hwalk
  rw [htree] at hvisits
  obtain ⟨first, ⟨-, hother⟩ | ⟨location, hfound, rfl⟩⟩ := hvisits
  · exact absurd hsource (hother source hroot)
  · obtain rfl : source = location := by
      rw [hroot] at hfound
      exact FileTree.Resolution.found.inj hfound
    have hsourceHere : t₀.node? (source ++ []) = some .dir := by rwa [List.append_nil]
    have hstart : Edits (normalize path ++ [name]) t₀ middle.tree ∧
        PartlyLaid t₀ source (normalize path ++ [name]) middle.tree := by
      rw [htree]
      refine ⟨Edits.refl _ _, hdir, fun relative node hnode => ?_⟩
      rw [hempty relative node hnode]
      exact ⟨_, hsourceHere⟩
    have hentries : ∀ item ∈ ([], first) :: t₀.below source,
        ∃ original, t₀.node? (source ++ item.1) = some original := by
      intro item hitem
      rcases List.mem_cons.mp hitem with rfl | hitem
      · exact ⟨_, hsourceHere⟩
      · exact ⟨_, (FileTree.node?_of_mem_below hitem).2⟩
    have hmade : ∀ entry ∈ t₀.below source,
        d'.tree.shape (normalize path ++ name :: entry.1) = some entry.2.copied := by
      intro entry hmem
      obtain ⟨hne, hnode⟩ := FileTree.node?_of_mem_below hmem
      refine ((triple_copyEntries_lays hslot root hentries (List.mem_cons_of_mem _ hmem)
        fun item hitem hsame => ?_).ok hstart hloop).2
      rcases List.mem_cons.mp hitem with rfl | hitem
      · exact absurd hsame hne
      · have hitemNode := (FileTree.node?_of_mem_below hitem).2
        rw [← hsame, hnode] at hitemNode
        exact Option.some.inj hitemNode
    obtain ⟨hedits, hlaid⟩ := (Disk.keeps_forM fun item hitem =>
      keeps_partlyLaid hslot (hentries item hitem).choose_spec root).ok hstart hloop
    exact hlaid.shape_eq hsource hedits hmade

/-- What is there stays there. -/
theorem keeps_copyDirectory_found (hslot : t₀.Slot path name) (root : RawPath)
    (location : Location) :
    Keeps (fun t => Edits (normalize path ++ [name]) t₀ t ∧ ∃ node, t.node? location = some node)
      (copyDirectory root (path ++ [name])) := by
  refine Triple.bind (Disk.triple_walkDir root) fun entries d ⟨hd, hvisits⟩ => ?_
  have hkeeps : ∀ entry ∈ entries, Keeps (fun t => Edits (normalize path ++ [name]) t₀ t ∧
      ∃ node, t.node? location = some node)
      (copyEntry root (path ++ [name]) entry.1 entry.2) := fun entry hentry => ?_
  · exact Disk.keeps_forM hkeeps d hd
  refine keeps_copyEntry_of hslot (hvisits.valid hentry) root
    (fun t t' made ⟨node, hnode⟩ _ _ hnodes => ?_) fun _ t t' content ⟨node, hnode⟩ _ hnodes => ?_
  · rw [hnodes]
    split
    · exact ⟨_, rfl⟩
    · exact ⟨node, hnode⟩
  · rw [hnodes]
    split
    · exact ⟨_, rfl⟩
    · exact ⟨node, hnode⟩

end

/-! ## A copy that fails -/

section

variable {t₀ : FileTree Bytes} {path : RawPath} {name : String} {relative : Location}

/-- A turn makes nothing that is not on the way to its node. -/
theorem keeps_copyEntry_free (hslot : t₀.Slot path name)
    (hvalid : ∀ other ∈ relative, ValidName other) (source : RawPath) (node : Node Bytes)
    {other : Location} (haside : ¬ other <+: relative) :
    Keeps (fun t => Edits (normalize path ++ [name]) t₀ t ∧
        t.node? (normalize path ++ name :: other) = none)
      (copyEntry source (path ++ [name]) relative node) := by
  have haside' : ¬ normalize path ++ name :: other <+: normalize path ++ name :: relative := by
    rw [List.prefix_append_right_inj, List.cons_prefix_cons]
    exact fun h => haside h.2
  refine keeps_copyEntry_of hslot hvalid source (fun t t' made hnone hway _ hnodes => ?_)
    fun _ t t' content hnone _ hnodes => ?_
  · rw [hnodes, if_neg]
    · exact hnone
    · rintro rfl
      exact haside' hway
  · rw [hnodes, if_neg]
    · exact hnone
    · rintro heq
      exact haside' (heq ▸ List.prefix_refl _)

/-- A loop that fails has not made some of its nodes. -/
theorem triple_copies_missing (hslot : t₀.Slot path name) (source : RawPath)
    {entries : List (Location × Node Bytes)}
    (hvalid : ∀ entry ∈ entries, ∀ other ∈ entry.1, ValidName other)
    (hordered : entries.Pairwise fun entry later => ¬ later.1 <+: entry.1) :
    Triple (fun t => Edits (normalize path ++ [name]) t₀ t ∧
        ∀ entry ∈ entries, t.node? (normalize path ++ name :: entry.1) = none)
      (entries.forM fun entry => copyEntry source (path ++ [name]) entry.1 entry.2)
      (fun _ _ => True)
      (fun t => ∃ entry ∈ entries, t.node? (normalize path ++ name :: entry.1) = none) := by
  induction entries with
  | nil => exact Triple.pure fun _ _ => trivial
  | cons first rest ih =>
      obtain ⟨hfirst, hrest⟩ := List.pairwise_cons.mp hordered
      have hhere := hvalid first List.mem_cons_self
      have hlater := ih (fun entry hentry => hvalid entry (List.mem_cons_of_mem _ hentry)) hrest
      -- the nodes of the later turns are still missing behind the first one
      have hmissing : Triple (fun t => Edits (normalize path ++ [name]) t₀ t ∧
            ∀ entry ∈ first :: rest, t.node? (normalize path ++ name :: entry.1) = none)
          (copyEntry source (path ++ [name]) first.1 first.2)
          (fun _ t => Edits (normalize path ++ [name]) t₀ t ∧
            ∀ entry ∈ rest, t.node? (normalize path ++ name :: entry.1) = none)
          (fun t => ∃ entry ∈ first :: rest,
            t.node? (normalize path ++ name :: entry.1) = none) := by
        refine Triple.of_cases (fun d d' _ hd hrun => ?_) fun d d' message hd hrun => ?_
        · refine ⟨(keeps_copyEntry hslot hhere source first.2).ok hd.1 hrun,
            fun entry hentry => ?_⟩
          exact ((keeps_copyEntry_free hslot hhere source first.2 (hfirst entry hentry)).ok
            ⟨hd.1, hd.2 entry (List.mem_cons_of_mem _ hentry)⟩ hrun).2
        · exact ⟨first, List.mem_cons_self, ((triple_copyEntry_fails hslot hhere source
            first.2).error ⟨hd.1, hd.2 first List.mem_cons_self⟩ hrun).2⟩
      refine Triple.bind hmissing fun _ => hlater.mono (fun _ => id) (fun _ _ => id) ?_
      rintro t ⟨entry, hentry, hnone⟩
      exact ⟨entry, List.mem_cons_of_mem _ hentry, hnone⟩

/-- A copy into an empty directory that fails leaves it empty, or without some node of the
directory that was copied. -/
theorem copyDirectory_missing {root : RawPath} (hslot : t₀.Slot path name)
    (hempty : ∀ relative, relative ≠ [] →
      t₀.node? (normalize path ++ name :: relative) = none)
    {d d' : Disk Bytes} (hd : d.tree = t₀) {message : String}
    (hrun : copyDirectory root (path ++ [name]) d = .error message d') :
    (∀ relative, relative ≠ [] → d'.tree.node? (normalize path ++ name :: relative) = none) ∨
      ∃ source, t₀.resolve root = .found source ∧ ∃ entry ∈ t₀.below source,
        d'.tree.node? (normalize path ++ name :: entry.1) = none := by
  have hnone : ∀ other ∈ ([] : Location), ValidName other := fun _ hother => nomatch hother
  have haside : ∀ relative : Location, relative ≠ [] → ¬ relative <+: [] :=
    fun relative hne hprefix => hne (List.prefix_nil.mp hprefix)
  -- the turn of the directory itself
  have hfirst : ∀ node, Triple (fun t => t = t₀) (copyEntry root (path ++ [name]) [] node)
      (fun _ t => Edits (normalize path ++ [name]) t₀ t ∧ ∀ relative, relative ≠ [] →
        t.node? (normalize path ++ name :: relative) = none)
      (fun t => ∀ relative, relative ≠ [] →
        t.node? (normalize path ++ name :: relative) = none) := by
    refine fun node => Triple.of_cases (fun d d' _ hd hrun => ?_) fun d d' _ hd hrun => ?_
    · have hedits : Edits (normalize path ++ [name]) t₀ d.tree := hd ▸ Edits.refl _ _
      refine ⟨(keeps_copyEntry hslot hnone root node).ok hedits hrun, fun relative hne => ?_⟩
      exact ((keeps_copyEntry_free hslot hnone root node (haside relative hne)).ok
        ⟨hedits, hd ▸ hempty relative hne⟩ hrun).2
    · intro relative hne
      exact ((keeps_copyEntry_free hslot hnone root node (haside relative hne)).error
        ⟨hd ▸ Edits.refl _ _, hd ▸ hempty relative hne⟩ hrun).2
  have hcopy : Triple (fun t => t = t₀) (copyDirectory root (path ++ [name])) (fun _ _ => True)
      (fun t => (∀ relative, relative ≠ [] →
          t.node? (normalize path ++ name :: relative) = none) ∨
        ∃ source, t₀.resolve root = .found source ∧ ∃ entry ∈ t₀.below source,
          t.node? (normalize path ++ name :: entry.1) = none) := by
    refine Triple.bind ((Disk.triple_walkDir root).mono (fun _ => id) (fun _ _ => id)
      fun t ht => Or.inl (ht ▸ hempty)) fun entries => Triple.start fun t ⟨ht, hvisits⟩ => ?_
    subst ht
    obtain ⟨node, ⟨rfl, -⟩ | ⟨source, hfound, rfl⟩⟩ := hvisits
    · exact Triple.bind ((hfirst node).mono (fun _ => id) (fun _ _ => id) fun _ => Or.inl)
        fun _ => Triple.pure fun _ _ => trivial
    · refine Triple.bind ((hfirst node).mono (fun _ => id) (fun _ _ => id) fun _ => Or.inl)
        fun _ => ?_
      refine (triple_copies_missing hslot root
        (fun entry hentry => FileTree.validName_of_mem_below hentry)
        (t.below_ordered source)).mono (fun t' ht' => ⟨ht'.1, fun entry hentry => ?_⟩)
        (fun _ _ => id) fun t' ht' => Or.inr ⟨source, hfound, ht'⟩
      exact ht'.2 _ (FileTree.node?_of_mem_below hentry).1
  exact hcopy.error hd hrun

end

end OpenPinch
