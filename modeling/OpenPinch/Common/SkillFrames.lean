import OpenPinch.Common.Skill
import OpenPinch.Lib.DiskRules

/-!
# Where bundles are copied to

A verification changes the tree in its temporary directory and nowhere else, and
the replacement of an installed skill in the directory of the skill.  Both hold
at whatever step the system refuses to go on.
-/

namespace OpenPinch

open Lib.FileSystem
open Lib.FileSystem.Disk (Keeps Triple)
open Lib.FileSystem.FileTree (Edits LinkFree Outside Slot)

/-! ## Copying -/

section

variable {t₀ : FileTree Bytes} {path : RawPath} {name : String}

/-- A turn makes a directory, or the directories on the way to a file that it copies. -/
theorem triple_copyEntry (hname : ValidName name) {relative : Location}
    (hvalid : ∀ other ∈ relative, ValidName other) {source : RawPath} {node : Node Bytes}
    {P E : FileTree Bytes → Prop} {Q : Unit → FileTree Bytes → Prop}
    (hdir : node.isDir = true → ∀ message,
      Triple P (Disk.createDirAll (path ++ name :: relative) message) Q E)
    (hway : ∀ parent last, normalize parent ++ [last] = normalize path ++ name :: relative →
      ∀ message, Triple P (Disk.createDirAll parent message) (fun _ => P) E)
    (hcopy : node.isDir = false → ∀ message,
      Triple P (Disk.copy (source ++ relative) (path ++ name :: relative) message) Q E) :
    Triple P (copyEntry source (path ++ [name]) relative node) Q E := by
  have hgoal : path ++ [name] ++ relative = path ++ name :: relative := by simp
  unfold copyEntry
  rw [hgoal]
  refine Triple.ite (fun hnode => hdir hnode _) fun hnode => ?_
  have hfile : node.isDir = false := Bool.not_eq_true _ ▸ hnode
  cases hparent : parent? (path ++ name :: relative) with
  | none => exact hcopy hfile _
  | some parent =>
      obtain ⟨last, hlast⟩ := parent?_append hparent
      rw [normalize_below hname hvalid] at hlast
      exact Triple.bind (hway parent last hlast _) fun _ => hcopy hfile _

theorem keeps_copyEntry (hslot : t₀.Slot path name) {relative : Location}
    (hvalid : ∀ other ∈ relative, ValidName other) (source : RawPath) (node : Node Bytes) :
    Keeps (Edits (normalize path ++ [name]) t₀)
      (copyEntry source (path ++ [name]) relative node) :=
  triple_copyEntry hslot.valid hvalid
    (fun _ => Disk.keeps_createDirAll_slot hslot hvalid
      (normalize_below hslot.valid hvalid ▸ List.prefix_refl _))
    (fun _ _ hparent => Disk.keeps_createDirAll_slot hslot hvalid
      (hparent ▸ List.prefix_append _ _))
    fun _ => Disk.keeps_copy_slot hslot hvalid _

theorem keeps_copyDirectory (hslot : t₀.Slot path name) (source : RawPath) :
    Keeps (Edits (normalize path ++ [name]) t₀) (copyDirectory source (path ++ [name])) := by
  refine Triple.bind (Disk.triple_walkDir source) fun entries d hd => ?_
  refine Disk.keeps_forM (fun entry hentry => ?_) d hd.1
  exact keeps_copyEntry hslot (fun other hother => hd.2.valid hentry other hother) source entry.2

end

/-- The replacement in `install_verified_bundle`. -/
def replaceInstalled (destination : RawPath) (home : Location) : SkillM Unit := do
  if ← Disk.pathExists destination then
    Disk.removeDirAll destination s!"failed to replace {displayPath destination}"
  Disk.createDirAll destination s!"failed to create {displayPath destination}"
  copyDirectory (unpackedPath home) destination

theorem installVerifiedBundle_eq [Externals] [SkillExternals]
    (source destination rootPath : RawPath) (home : Location) :
    installVerifiedBundle source destination rootPath home = (do
      let manifest ← verifySkillBundle source rootPath home
      withTempDir home (replaceInstalled destination home)
      dropTempDir home
      return manifest) :=
  rfl

/-- A replacement changes what it replaces and nothing else. -/
theorem keeps_replaceInstalled {t₀ : FileTree Bytes} {path : RawPath} {name : String}
    (hslot : t₀.Slot path name) (home : Location) :
    Keeps (Edits (normalize path ++ [name]) t₀) (replaceInstalled (path ++ [name]) home) := by
  have hnone : ∀ other ∈ ([] : List String), ValidName other := by
    intro other hother
    cases hother
  have hcreate : ∀ message, Keeps (Edits (normalize path ++ [name]) t₀)
      (Disk.createDirAll (path ++ [name]) message) :=
    Disk.keeps_createDirAll_slot hslot hnone (by rw [normalize_name hslot.valid])
  have hfill : Keeps (Edits (normalize path ++ [name]) t₀) (do
      Disk.createDirAll (path ++ [name]) s!"failed to create {displayPath (path ++ [name])}"
      copyDirectory (unpackedPath home) (path ++ [name])) :=
    Triple.bind (hcreate _) fun _ => keeps_copyDirectory hslot _
  refine Triple.bind (Disk.triple_pathExists _) fun there => Triple.ite (fun _ => ?_) fun _ => hfill
  exact Triple.bind (Disk.keeps_removeDirAll_slot hslot _) fun _ => hfill

/-! ## What a copy holds -/

theorem normalize_temp {t : FileTree Bytes} {temp : Location} (htemp : t.node? temp = some .dir) :
    normalize ("" :: temp) = temp := by
  have hnormal := normalize_names (FileTree.validName_of_node? htemp)
  simpa [Lib.FileSystem.normalize] using hnormal

theorem resolve_unpacked {t : FileTree Bytes} {home : Location} (hhome : t.node? home = some .dir)
    {rest : List String} {node : Node Bytes} (hnode : t.node? (home ++ rest) = some node)
    (hlink : ∀ absolute target, node ≠ .link absolute target) :
    t.resolve (unpackedPath home ++ rest) = .found (home ++ rest) := by
  have hnormal : normalize (unpackedPath home) = home := normalize_temp hhome
  have hresolve := @FileTree.resolve_text _ t (unpackedPath home) rest node
    (by rw [hnormal]; exact hhome) (by rw [hnormal]; exact hnode) hlink
  rwa [hnormal] at hresolve

/-- Behind a directory that a text names, the way goes on from there. -/
theorem resolve_behind {t : FileTree Bytes} {base : Location} (hdir : t.node? base = some .dir)
    (rest : RawPath) :
    t.resolve (unpackedPath base ++ rest) = t.walk (t.resolveFrom 39) base rest := by
  have hnormal : normalize (unpackedPath base) = base := normalize_temp hdir
  have hwalk := @FileTree.walk_directory _ t (t.resolveFrom 39) [] (unpackedPath base) rest
    (by rw [hnormal]; exact hdir)
  rw [hnormal] at hwalk
  exact hwalk

/-- A file that is read in a directory has a node there, be it a link. -/
theorem exists_node_of_content {t : FileTree Bytes} {home : Location}
    (hhome : t.node? home = some .dir) {file : String} (hfile : ValidName file) {bytes : Bytes}
    (hread : t.content? (unpackedPath home ++ [file]) = some bytes) :
    ∃ node, t.node? (home ++ [file]) = some node := by
  obtain ⟨location, hresolve, -⟩ := FileTree.content?_eq_some_iff.mp hread
  cases hnode : t.node? (home ++ [file]) with
  | some node => exact ⟨node, rfl⟩
  | none =>
      rw [resolve_behind hhome, FileTree.walk, if_neg (by simp [hfile.1, hfile.2.1]),
        if_neg hfile.2.2, hnode] at hresolve
      simp at hresolve

/-- The directory holds the file. -/
structure HoldsFile (t : FileTree Bytes) (home : Location) (file : String) (bytes : Bytes) :
    Prop where
  dir : t.node? home = some .dir
  file : t.node? (home ++ [file]) = some (.file bytes)

theorem HoldsFile.content {t : FileTree Bytes} {home : Location} {file : String}
    {bytes : Bytes} (h : HoldsFile t home file bytes) :
    t.content? (unpackedPath home ++ [file]) = some bytes :=
  FileTree.content?_eq_some_iff.mpr ⟨_, resolve_unpacked h.dir h.file (by simp), h.file⟩

/-- Without links, a file that is read in a directory is there. -/
theorem HoldsFile.of_content {t : FileTree Bytes} {temp : Location} {name file : String}
    {bytes : Bytes} (htemp : t.node? temp = some .dir) (hname : ValidName name)
    (hfree : t.LinkFree (temp ++ [name])) (hfile : ValidName file)
    (h : t.content? (unpackedPath (temp ++ [name]) ++ [file]) = some bytes) :
    HoldsFile t (temp ++ [name]) file bytes := by
  have hnormal := normalize_temp htemp
  have hslot : t.Slot ("" :: temp) name :=
    ⟨by rw [hnormal]; exact htemp, hname, by rw [hnormal]; exact hfree⟩
  have hleads := hslot.leads (by simpa using hfile : ∀ other ∈ [file], ValidName other)
  have hpath : unpackedPath (temp ++ [name]) ++ [file] = "" :: temp ++ name :: [file] := by
    simp [unpackedPath]
  obtain ⟨location, hresolve, hnode⟩ := FileTree.content?_eq_some_iff.mp h
  rw [hpath] at hresolve
  have hlocation := hleads.found location hresolve
  rw [hnormal, show temp ++ name :: [file] = temp ++ [name] ++ [file] by simp] at hlocation
  rw [hlocation] at hnode
  exact ⟨FileTree.node?_parent hnode (List.cons_ne_nil file []), hnode⟩

section

variable {t₀ : FileTree Bytes} {path : RawPath} {name : String} {home : Location} {file : String}
  {bytes : Bytes}

/-- What is copied over the file is what the file holds. -/
theorem triple_copy_file (hslot : t₀.Slot path name)
    (hsource : ∀ t, Edits (normalize path ++ [name]) t₀ t → HoldsFile t home file bytes)
    (hfile : ValidName file) (message : String) :
    Triple (Edits (normalize path ++ [name]) t₀)
      (Disk.copy (unpackedPath home ++ [file]) (path ++ name :: [file]) message)
      (fun _ t => Edits (normalize path ++ [name]) t₀ t ∧
        t.node? (normalize path ++ name :: [file]) = some (.file bytes))
      (Edits (normalize path ++ [name]) t₀) := by
  refine Disk.triple_copy message fun t t' content hedits hcontent hwrite => ?_
  have hslot' := hslot.edits hedits
  have hvalid : ∀ other ∈ [file], ValidName other := by simpa using hfile
  rw [(hsource t hedits).content] at hcontent
  cases hcontent
  refine ⟨hedits.trans (hslot'.writeFile_edits hvalid hwrite), ?_⟩
  rw [FileTree.node?_writeFile (hslot'.leads hvalid) hwrite, if_pos rfl]

/-- A turn leaves the copied file as it is: it copies the same again, or something else. -/
theorem keeps_copyEntry_file (hslot : t₀.Slot path name)
    (hsource : ∀ t, Edits (normalize path ++ [name]) t₀ t → HoldsFile t home file bytes)
    {relative : Location} (hvalid : ∀ other ∈ relative, ValidName other) (node : Node Bytes) :
    Keeps (fun t => Edits (normalize path ++ [name]) t₀ t ∧
        t.node? (normalize path ++ name :: [file]) = some (.file bytes))
      (copyEntry (unpackedPath home) (path ++ [name]) relative node) := by
  have hcreate : ∀ goal, normalize goal <+: normalize path ++ name :: relative → ∀ message,
      Keeps (fun t => Edits (normalize path ++ [name]) t₀ t ∧
        t.node? (normalize path ++ name :: [file]) = some (.file bytes))
        (Disk.createDirAll goal message) := fun goal hgoal message =>
    (Disk.keeps_createDirAll_slot hslot hvalid hgoal message).and
      (Disk.keeps_createDirAll_node _ _ _ _)
  refine triple_copyEntry hslot.valid hvalid
    (fun _ => hcreate _ (normalize_below hslot.valid hvalid ▸ List.prefix_refl _))
    (fun _ _ hparent => hcreate _ (hparent ▸ List.prefix_append _ _))
    fun _ message => Disk.triple_copy message fun t t' content ht hcontent hwrite => ?_
  · obtain ⟨hedits, hnode⟩ := ht
    have hslot' := hslot.edits hedits
    refine ⟨hedits.trans (hslot'.writeFile_edits hvalid hwrite), ?_⟩
    rw [FileTree.node?_writeFile (hslot'.leads hvalid) hwrite]
    split
    · rename_i hsame
      have hrelative : relative = [file] := by simpa using hsame.symm
      rw [hrelative, (hsource t hedits).content] at hcontent
      cases hcontent
      rfl
    · exact hnode

/-- A copy of a directory with a file holds the file. -/
theorem triple_copyDirectory_file (hslot : t₀.Slot path name)
    (hsource : ∀ t, Edits (normalize path ++ [name]) t₀ t → HoldsFile t home file bytes)
    (hfile : ValidName file) :
    Triple (Edits (normalize path ++ [name]) t₀)
      (copyDirectory (unpackedPath home) (path ++ [name]))
      (fun _ t => Edits (normalize path ++ [name]) t₀ t ∧
        t.node? (normalize path ++ name :: [file]) = some (.file bytes))
      (Edits (normalize path ++ [name]) t₀) := by
  refine Triple.bind (Disk.triple_walkDir _) fun entries d hd => ?_
  obtain ⟨hedits, hvisits⟩ := hd
  have hholds := hsource d.tree hedits
  have hvalid : ∀ entry ∈ entries, ∀ other ∈ entry.1, ValidName other :=
    fun entry hentry => hvisits.valid hentry
  have hresolve := @resolve_unpacked d.tree home hholds.dir [] .dir
    (by rw [List.append_nil]; exact hholds.dir) (by simp)
  rw [List.append_nil, List.append_nil] at hresolve
  have hentry := hvisits.mem hresolve hholds.dir
    (FileTree.mem_below (List.cons_ne_nil file []) hholds.file)
  refine Disk.triple_forM_mem
    (fun entry hentry => keeps_copyEntry hslot (hvalid entry hentry) _ entry.2)
    (fun entry hentry => keeps_copyEntry_file hslot hsource (hvalid entry hentry) entry.2)
    hentry ?_ d hedits
  have hone : ∀ other ∈ [file], ValidName other := by simpa using hfile
  exact triple_copyEntry hslot.valid hone (fun hdir => by cases hdir)
    (fun _ _ hparent => Disk.keeps_createDirAll_slot hslot hone (hparent ▸ List.prefix_append _ _))
    fun _ => triple_copy_file hslot hsource hfile

/-- So does what an install puts in place of the directory of the skill. -/
theorem triple_replaceInstalled_file (hslot : t₀.Slot path name)
    (hsource : ∀ t, Edits (normalize path ++ [name]) t₀ t → HoldsFile t home file bytes)
    (hfile : ValidName file) :
    Triple (Edits (normalize path ++ [name]) t₀) (replaceInstalled (path ++ [name]) home)
      (fun _ t => Edits (normalize path ++ [name]) t₀ t ∧
        t.node? (normalize path ++ name :: [file]) = some (.file bytes))
      (Edits (normalize path ++ [name]) t₀) := by
  have hnone : ∀ other ∈ ([] : List String), ValidName other := by
    intro other hother
    cases hother
  have hfill := fun message => Triple.bind
    (Disk.keeps_createDirAll_slot hslot hnone (by rw [normalize_name hslot.valid]) message)
    fun _ => triple_copyDirectory_file hslot hsource hfile
  refine Triple.bind (Disk.triple_pathExists _) fun there =>
    Triple.ite (fun _ => ?_) fun _ => hfill _
  exact Triple.bind (Disk.keeps_removeDirAll_slot hslot _) fun _ => hfill _

end

/-! ## Temporary directories -/

section

variable {α : Type} {P E : FileTree Bytes → Prop} {Q : α → FileTree Bytes → Prop}

theorem keeps_dropTempDir {I : FileTree Bytes → Prop} {home : Location}
    (h : Keeps I (Disk.removeDirAll (unpackedPath home) "")) : Keeps I (dropTempDir home) := by
  intro d hd
  have hremoved := h d hd
  unfold dropTempDir
  cases hrun : Disk.removeDirAll (unpackedPath home) "" d with
  | ok _ d' => rw [hrun] at hremoved; exact hremoved
  | error _ d' => rw [hrun] at hremoved; exact hremoved

theorem triple_withTempDir {home : Location} {body : SkillM α} (hbody : Triple P body Q E)
    (hdrop : Keeps E (dropTempDir home)) : Triple P (withTempDir home body) Q E := by
  intro d hd
  have hresult := hbody d hd
  unfold withTempDir
  cases hrun : body d with
  | ok a d' => rw [hrun] at hresult; exact hresult
  | error message d' =>
      rw [hrun] at hresult
      have hdropped := hdrop d' hresult
      simp only
      cases hrun' : dropTempDir home d' with
      | ok _ d'' => rw [hrun'] at hdropped; exact hdropped
      | error _ d'' => rw [hrun'] at hdropped; exact hdropped

end

/-- A name that is free in the directory of temporary files. -/
structure FreshName (t : FileTree Bytes) (temp : Location) (name : String) : Prop where
  temp_dir : t.node? temp = some .dir
  valid : ValidName name
  free : t.node? (temp ++ [name]) = none

instance (t : FileTree Bytes) (temp : Location) (name : String) :
    Decidable (FreshName t temp name) :=
  decidable_of_iff (t.node? temp = some .dir ∧ ValidName name ∧ t.node? (temp ++ [name]) = none)
    ⟨fun h => ⟨h.1, h.2.1, h.2.2⟩, fun h => ⟨h.temp_dir, h.valid, h.free⟩⟩

/-- Unpacking an archive into a directory changes nothing outside of it. -/
def UnpacksBelow [SkillExternals] : Prop :=
  ∀ bytes home t, t.node? home = some .dir →
    Outside [home] t (SkillExternals.unpackArchive bytes (unpackedPath home) t).1

section

variable {t₀ : FileTree Bytes} {temp : Location} {name : String}

/-- Nothing is there, so no links are. -/
theorem FreshName.slot (hfresh : FreshName t₀ temp name) : t₀.Slot ("" :: temp) name := by
  have hnormal := normalize_temp hfresh.temp_dir
  refine ⟨by rw [hnormal]; exact hfresh.temp_dir, hfresh.valid, ?_⟩
  rw [hnormal]
  rintro location ⟨rest, rfl⟩ absolute target hlink
  rw [FileTree.node?_none_below hfresh.free] at hlink
  cases hlink

/-- A directory that has just been made among the temporary files. -/
structure NewDirectory (t : FileTree Bytes) (temp : Location) (name : String) : Prop where
  normal : normalize ("" :: temp) = temp
  slot : t.Slot ("" :: temp) name
  dir : t.node? (temp ++ [name]) = some .dir
  empty : ∀ relative node, t.node? (temp ++ [name] ++ relative) = some node → relative = []

theorem FreshName.made (hfresh : FreshName t₀ temp name) {t₁ : FileTree Bytes}
    (hmkdir : t₀.mkdir (unpackedPath (temp ++ [name])) = some t₁) :
    NewDirectory t₁ temp name ∧ Edits (temp ++ [name]) t₀ t₁ := by
  have hslot := hfresh.slot
  have hnormal := normalize_temp hfresh.temp_dir
  have hpath : normalize (unpackedPath (temp ++ [name])) = normalize ("" :: temp) ++ [name] :=
    normalize_name hfresh.valid ("" :: temp)
  rw [← FileTree.mkdir_normalize, hpath] at hmkdir
  obtain ⟨parent, last, hgoal, hinsert⟩ := hslot.mkdir_inserts (by simp) hmkdir
  have hedits := hslot.mkdir_edits (by simp) hmkdir
  have hslot₁ := hslot.edits hedits
  rw [hnormal] at hgoal hedits
  have hnode := FileTree.node?_insert hinsert
  rw [hgoal] at hnode
  refine ⟨⟨hnormal, hslot₁, by rw [hnode, if_pos rfl], fun relative node hthere => ?_⟩, hedits⟩
  rw [hnode] at hthere
  split at hthere
  · rename_i hhome
    exact List.append_right_eq_self.mp hhome
  · rw [FileTree.node?_none_below hfresh.free] at hthere
    cases hthere

/-- The directory of a bundle is dropped, whatever is in it. -/
theorem keeps_drop (htemp : t₀.node? temp = some .dir) (hvalid : ValidName name) :
    Keeps (Outside [temp ++ [name]] t₀) (dropTempDir (temp ++ [name])) := by
  have hnormal := normalize_temp htemp
  refine keeps_dropTempDir ?_
  have hremove : Keeps (Outside [normalize ("" :: temp) ++ [name]] t₀)
      (Disk.removeDirAll ("" :: temp ++ [name]) "") :=
    Disk.keeps_removeDirAll_name (by rw [hnormal]; exact htemp) hvalid ""
  rw [hnormal] at hremove
  exact hremove

variable [Externals] [SkillExternals]

/-! ## Verification -/

omit [SkillExternals] in
theorem keeps_verifyManifestFiles {I : FileTree Bytes → Prop} (root : RawPath)
    (manifest : SkillManifest) : Keeps I (verifyManifestFiles root manifest) := by
  refine Disk.keeps_forM fun file _ => ?_
  refine Triple.bind (Disk.triple_pathExists _) fun there => ?_
  refine Triple.ite (fun _ => Triple.fail_bind fun _ => id) fun _ => ?_
  have hdigest : Keeps I (sha256File (join root file.path)) :=
    Triple.bind (Disk.keeps_read _ _) fun _ => Triple.pure fun _ => id
  refine Triple.bind hdigest fun actual => ?_
  exact Triple.ite (fun _ => Triple.fail fun _ => id) fun _ => Triple.pure fun _ => id

theorem keeps_checkUnpacked {I : FileTree Bytes → Prop} (rootPath : RawPath) (home : Location) :
    Keeps I (checkUnpacked rootPath home) := by
  have hsignature : ∀ path, Keeps I (readSignature path) := fun path => by
    refine Triple.bind (Disk.keeps_read _ _) fun raw => ?_
    cases SkillExternals.signatureFromSlice raw with
    | some signature => exact Triple.pure fun _ => id
    | none => exact Triple.fail fun _ => id
  have hroot : Keeps I (loadTrustRoot rootPath) := by
    refine Triple.bind (Disk.keeps_read _ _) fun raw => ?_
    cases SkillExternals.trustRootFromSlice raw with
    | some root => exact Triple.pure fun _ => id
    | none => exact Triple.fail fun _ => id
  refine Triple.bind (Disk.keeps_read _ _) fun manifestBytes => ?_
  refine Triple.bind (hsignature _) fun signature => Triple.bind hroot fun root => ?_
  have hbytes : Keeps I (checkBytes manifestBytes signature root) := by
    unfold checkBytes
    cases verifyBytes manifestBytes signature root with
    | ok _ => exact Triple.pure fun _ => id
    | error message => exact Triple.fail fun _ => id
  refine Triple.bind hbytes fun _ => ?_
  cases SkillExternals.manifestFromSlice manifestBytes with
  | none => exact Triple.fail fun _ => id
  | some manifest =>
      exact Triple.bind (keeps_verifyManifestFiles _ manifest) fun _ => Triple.pure fun _ => id

omit [Externals] in
/-- The bundle is unpacked into its directory. -/
theorem triple_unpackBundle (hunpack : UnpacksBelow) {t₁ : FileTree Bytes}
    (hnew : NewDirectory t₁ temp name) (path : RawPath) :
    Triple (fun t => t = t₁) (unpackBundle path (temp ++ [name]))
      (fun _ => Outside [temp ++ [name]] t₁) (Outside [temp ++ [name]] t₁) := by
  refine Triple.bind (Disk.triple_isDir path) fun there => Triple.ite (fun _ => ?_) fun _ => ?_
  · have hcopy := keeps_copyDirectory hnew.slot path
    rw [hnew.normal] at hcopy
    refine hcopy.mono ?_ (fun _ _ h => h.toOutside) fun _ h => h.toOutside
    rintro t rfl
    exact Edits.refl _ _
  · have hread : ∀ message, Triple (fun t => t = t₁) (Disk.read path message)
        (fun _ t => t = t₁) (Outside [temp ++ [name]] t₁) := fun message =>
      (Disk.keeps_read path message).mono (fun _ => id) (fun _ _ => id)
        (by rintro t rfl; exact Outside.refl _ _)
    refine Triple.bind (hread _) fun bytes => Triple.bind Triple.getTree fun tree => ?_
    refine Triple.bind (Triple.setTree (Q := fun _ => Outside [temp ++ [name]] t₁) ?_) fun _ => ?_
    · rintro t ⟨rfl, rfl⟩
      exact hunpack bytes (temp ++ [name]) _ hnew.dir
    · exact Triple.ite (fun _ => Triple.fail fun _ => id) fun _ => Triple.pure fun _ => id

/-- A verification changes its temporary directory and nothing else. -/
theorem triple_verifySkillBundle (hunpack : UnpacksBelow) (hfresh : FreshName t₀ temp name)
    (path rootPath : RawPath) :
    Triple (fun t => t = t₀) (verifySkillBundle path rootPath (temp ++ [name]))
      (fun _ => Outside [temp ++ [name]] t₀) (Outside [temp ++ [name]] t₀) := by
  refine Triple.bind (Disk.triple_mkdir _) fun made => ?_
  cases made with
  | false =>
      refine Triple.fail_bind ?_
      rintro t rfl
      exact Outside.refl _ _
  | true =>
      refine Triple.start fun t₁ hmade => ?_
      obtain ⟨t, rfl, hmkdir⟩ := hmade
      obtain ⟨hnew, hedits⟩ := hfresh.made hmkdir
      have hbefore := hedits.toOutside
      refine Triple.ite (fun h => by cases h) fun _ => ?_
      refine triple_withTempDir ?_ (keeps_drop hfresh.temp_dir hfresh.valid)
      refine Triple.bind (Q := fun _ => Outside [temp ++ [name]] t) ?_ fun _ =>
        keeps_checkUnpacked rootPath _
      exact (triple_unpackBundle hunpack hnew path).mono
        (fun _ => id) (fun _ _ h => hbefore.trans h) fun _ h => hbefore.trans h

end

end OpenPinch
