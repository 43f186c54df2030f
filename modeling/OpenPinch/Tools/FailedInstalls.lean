import OpenPinch.Lib.DiskRuns
import OpenPinch.Tools.Installs

/-!
# Installs that fail

An install replaces the directory of the skill in place: it removes what is
there, and copies the unpacked bundle file by file.  A step that the system
refuses in between leaves the directory removed in part, or filled in part.

So a call that fails leaves the installed skills alone as long as it does not come
to the first change of the destination.  When it does, and nothing or a whole
install was there, the installed skills are not as they were
(`failedInstall_unharmed`).
-/

namespace OpenPinch

open Lib (Op)
open Lib.FileSystem
open Lib.FileSystem.Disk (Keeps Triple)
open Lib.FileSystem.FileTree (Edits Outside)

/-! ## Replacements that fail -/

section

variable {skills : SkillManager} {temp : Location}

/-- The first change of a replacement is not refused.  What it is depends on what the place holds
and on whether the look at it was refused: a new directory, the removal of something in the old
one, or a file that is copied into the old one. -/
def Begins (d : Disk Bytes) (place : Location) : Prop :=
  match d.tree.node? place with
  | none => d.failsAt (d.step + 1) = false
  | some .dir =>
      if d.failsAt d.step then
        d.failsAt (d.step + 2) = false ∧ d.failsAt (d.step + 3) = false
      else d.failsAt (d.step + 1) = false
  | some _ => False

/-- The first change of a directory that is found is a removal. -/
theorem begins_dir {d : Disk Bytes} {place : Location} (hdir : d.tree.node? place = some .dir)
    (hseen : d.failsAt d.step = false) :
    Begins d place ↔ d.failsAt (d.step + 1) = false := by
  simp only [Begins, hdir, hseen, Bool.false_eq_true, if_false]

/-- The place holds a node for every node of the unpacked bundle. -/
structure HoldsAll (t : FileTree Bytes) (home place : Location) : Prop where
  unpacked : t.node? home = some .dir
  whole : ∀ relative node, t.node? (home ++ relative) = some node →
    ∃ node', t.node? (place ++ relative) = some node'

/-- A replacement that fails before its first change changes nothing. -/
theorem replaceInstalled_idle {d d' : Disk Bytes} (hsite : InstallSite skills temp d.tree)
    {manifest : SkillManifest} {home : Location} (hidle : ¬ Begins d (skills.place manifest))
    {message : String}
    (hrun : replaceInstalled (skills.installsDir ++ [manifest.dirName]) home d =
      .error message d') : d'.tree = d.tree := by
  have hslot := hsite.slot manifest
  unfold replaceInstalled at hrun
  rw [Disk.run_bind, Disk.pathExists_eq, hslot.target?_eq] at hrun
  let next : Disk Bytes := { d with step := d.step + 1 }
  have hslot' : next.tree.Slot skills.installsDir manifest.dirName := hslot
  unfold Begins SkillManager.place SkillManager.location at hidle
  cases hnode : d.tree.node? (normalize skills.installsDir ++ [manifest.dirName]) with
  | none =>
      simp only [hnode, Bool.not_eq_false] at hidle
      simp only [hnode, Option.isSome_none, Bool.and_false, Bool.false_eq_true, if_false] at hrun
      rw [Disk.run_bind, Disk.createDirAll_failed (d := next) hslot' (Or.inl hidle)] at hrun
      simp only [next, hnode, Option.any_none, Bool.and_false, Bool.false_eq_true, if_false,
        Disk.ending] at hrun
      cases hrun
      rfl
  | some node =>
      have hthere : ∃ node, next.tree.node? (normalize skills.installsDir ++ [manifest.dirName]) =
          some node := ⟨node, hnode⟩
      cases hseen : d.failsAt d.step with
      | true =>
          simp only [hseen, Bool.not_true, Bool.false_and, Bool.false_eq_true, if_false] at hrun
          rw [Disk.run_bind, Disk.createDirAll_failed (d := next) hslot' (Or.inr hthere)] at hrun
          cases node with
          | file content =>
              simp only [next, hnode, Option.any_some, Node.isDir, Bool.and_false,
                Bool.false_eq_true, if_false, Disk.ending] at hrun
              cases hrun
              rfl
          | link absolute target =>
              exact absurd hnode (hslot.free _ (List.prefix_refl _) absolute target)
          | dir =>
              simp only [hnode, hseen, if_true, not_and, Bool.not_eq_false] at hidle
              cases hmade : d.failsAt (d.step + 2) with
              | true =>
                  simp only [next, Nat.add_assoc, Nat.reduceAdd, hmade, Bool.not_true,
                    Bool.false_and, Bool.false_eq_true, if_false, Disk.ending] at hrun
                  cases hrun
                  rfl
              | false =>
                  simp only [next, Nat.add_assoc, Nat.reduceAdd, hmade, hnode, Option.any_some,
                    Node.isDir, Bool.not_false, Bool.true_and, if_true, Disk.ending] at hrun
                  unfold copyDirectory at hrun
                  rw [Disk.run_bind, Disk.walkDir_denied (hidle hmade)] at hrun
                  cases hrun
                  rfl
      | false =>
          simp only [hseen, hnode, Bool.not_false, Option.isSome_some, Bool.and_self,
            if_true] at hrun
          cases node with
          | file content =>
              rw [Disk.run_bind, Disk.removeDirAll_file (d := next) hslot' hnode] at hrun
              have hsame : d' = next := (EStateM.Result.error.inj hrun).2.symm
              rw [hsame]
          | link absolute target =>
              exact absurd hnode (hslot.free _ (List.prefix_refl _) absolute target)
          | dir =>
              simp only [hnode, hseen, Bool.false_eq_true, if_false, Bool.not_eq_false] at hidle
              rw [Disk.run_bind, Disk.removeDirAll_denied (d := next) hslot' hnode hidle] at hrun
              cases hrun
              rfl

/-- The unpacked bundle is not below the place. -/
theorem InstallSite.not_place_prefix {t : FileTree Bytes} (hsite : InstallSite skills temp t)
    {name : String} (hhome : ¬ temp ++ [name] <+: skills.location) (manifest : SkillManifest)
    (relative : Location) : ¬ skills.place manifest <+: temp ++ [name] ++ relative := by
  intro hprefix
  rcases List.prefix_or_prefix_of_prefix ((List.prefix_append _ _).trans hprefix)
    (List.prefix_append (temp ++ [name]) relative) with hbelow | hbelow
  · exact hsite.not_prefix_home hhome hbelow
  · exact hhome hbelow

variable {t : FileTree Bytes} {manifest : SkillManifest} {name : String}

/-- Behind the removal, a replacement that fails leaves out some node. -/
theorem refill_missing (hsite : InstallSite skills temp t)
    (hhome : ¬ temp ++ [name] <+: skills.location)
    (hholds : HoldsAll t (temp ++ [name]) (skills.place manifest))
    (hmanifest : ∃ node, t.node? (temp ++ [name] ++ ["manifest.json"]) = some node)
    {d d' : Disk Bytes} (hedits : Edits (skills.place manifest) t d.tree)
    (hgone : d.tree.node? (skills.place manifest) = none) {message message' : String}
    (hrun : (do
      Disk.createDirAll (skills.installsDir ++ [manifest.dirName]) message
      copyDirectory (unpackedPath (temp ++ [name]))
        (skills.installsDir ++ [manifest.dirName])) d = .error message' d') :
    ∃ relative, d'.tree.node? (skills.place manifest ++ relative) = none ∧
      ∃ node, t.node? (skills.place manifest ++ relative) = some node := by
  have hslot := (hsite.slot manifest).edits hedits
  have hnone : ∀ other ∈ ([] : Location), ValidName other := fun _ hother => nomatch hother
  have hplace : normalize (skills.installsDir ++ [manifest.dirName]) = skills.place manifest :=
    normalize_name manifest.validName_dirName _
  have hbelow : ∀ relative, normalize skills.installsDir ++ manifest.dirName :: relative =
      skills.place manifest ++ relative := by
    simp [SkillManager.place, SkillManager.location]
  have hunpacked := hholds.whole [] .dir (by rw [List.append_nil]; exact hholds.unpacked)
  rw [Disk.run_bind] at hrun
  cases hmade : Disk.createDirAll (skills.installsDir ++ [manifest.dirName]) message d with
  | error message₁ d₁ =>
      rw [hmade] at hrun
      cases hrun
      have hgoal := Disk.triple_createDirAll_goal_of
        (fun t => t.node? (skills.place manifest) = none) hslot hnone message
        fun parent last hparent => Disk.keeps_createDirAll_free hslot hnone
          (hparent ▸ List.prefix_append _ _) message fun hprefix => by
            have hlength := hprefix.length_le
            have htotal := congrArg List.length hparent
            simp only [SkillManager.place, SkillManager.location, List.length_append,
              List.length_cons, List.length_nil] at hlength htotal
            omega
      refine ⟨[], ?_, hunpacked⟩
      rw [List.append_nil]
      exact (hgoal.error ⟨Edits.refl _ _, hgone⟩ hmade).2
  | ok _ d₁ =>
      rw [hmade] at hrun
      have hedits₁ := (Disk.keeps_createDirAll_slot hslot hnone (hplace ▸ List.prefix_refl _)
        message).ok (Edits.refl _ _) hmade
      have hempty : ∀ relative, relative ≠ [] →
          d₁.tree.node? (normalize skills.installsDir ++ manifest.dirName :: relative) = none := by
        intro relative hne
        refine ((Disk.keeps_createDirAll_free hslot hnone (hplace ▸ List.prefix_refl _) message
          fun hprefix => hne ?_).ok ⟨Edits.refl _ _, ?_⟩ hmade).2
        · rw [hplace, hbelow] at hprefix
          have hlength := hprefix.length_le
          rw [List.length_append] at hlength
          exact List.eq_nil_of_length_eq_zero (by omega)
        · rw [hbelow]
          exact FileTree.node?_none_below hgone
      have hsame : ∀ relative, d₁.tree.node? (temp ++ [name] ++ relative) =
          t.node? (temp ++ [name] ++ relative) := fun relative =>
        (hedits.trans hedits₁).outside _ (hsite.not_place_prefix hhome manifest relative)
      rcases copyDirectory_missing (hslot.edits hedits₁) hempty rfl hrun with
        hmissing | ⟨source, hfound, entry, hentry, hmissing⟩
      · obtain ⟨node, hnode⟩ := hmanifest
        exact ⟨["manifest.json"], hbelow _ ▸ hmissing _ (List.cons_ne_nil _ _),
          hholds.whole _ node hnode⟩
      · have hdir : d₁.tree.node? (temp ++ [name] ++ []) = some .dir := by
          rw [hsame, List.append_nil]
          exact hholds.unpacked
        have hhere := resolve_unpacked (by rwa [List.append_nil] at hdir) hdir
          (by intro absolute target heq; cases heq)
        rw [List.append_nil, hfound, List.append_nil] at hhere
        obtain rfl := FileTree.Resolution.found.inj hhere
        have hnode := (FileTree.node?_of_mem_below hentry).2
        rw [hsame] at hnode
        exact ⟨entry.1, hbelow _ ▸ hmissing, hholds.whole _ _ hnode⟩

/-- A replacement that fails behind its first change has changed the place, when that was free, or
held all of the bundle and was found. -/
theorem replaceInstalled_changes {d d' : Disk Bytes} (hsite : InstallSite skills temp d.tree)
    (hhome : ¬ temp ++ [name] <+: skills.location)
    (hbegins : Begins d (skills.place manifest))
    (hwhole : d.tree.node? (skills.place manifest) = none ∨
      d.failsAt d.step = false ∧ HoldsAll d.tree (temp ++ [name]) (skills.place manifest))
    (hmanifest : d.tree.node? (temp ++ [name]) = some .dir →
      ∃ node, d.tree.node? (temp ++ [name] ++ ["manifest.json"]) = some node) {message : String}
    (hrun : replaceInstalled (skills.installsDir ++ [manifest.dirName]) (temp ++ [name]) d =
      .error message d') :
    ∃ location, skills.place manifest <+: location ∧
      d'.tree.node? location ≠ d.tree.node? location := by
  have hslot := hsite.slot manifest
  let next : Disk Bytes := { d with step := d.step + 1 }
  have hslot' : next.tree.Slot skills.installsDir manifest.dirName := hslot
  unfold replaceInstalled at hrun
  rw [Disk.run_bind, Disk.pathExists_eq, hslot.target?_eq] at hrun
  unfold Begins at hbegins
  cases hnode : d.tree.node? (skills.place manifest) with
  | none =>
      have hnode' : d.tree.node? (normalize skills.installsDir ++ [manifest.dirName]) = none :=
        hnode
      simp only [hnode] at hbegins
      simp only [hnode', Option.isSome_none, Bool.and_false, Bool.false_eq_true, if_false] at hrun
      obtain ⟨t, hmade, hedits, hdir⟩ := Disk.createDirAll_free (d := next) hslot' hnode' hbegins
        s!"failed to create {displayPath (skills.installsDir ++ [manifest.dirName])}"
      rw [Disk.run_bind, hmade] at hrun
      obtain ⟨-, node, hthere⟩ := (keeps_copyDirectory_found (hslot.edits hedits) _ _).error
        ⟨Edits.refl _ _, ⟨_, hdir⟩⟩ hrun
      refine ⟨skills.place manifest, List.prefix_refl _, ?_⟩
      rw [hnode]
      exact fun heq => by cases hthere.symm.trans heq
  | some node =>
      obtain ⟨hseen, hholds⟩ := hwhole.resolve_left (by rw [hnode]; exact Option.some_ne_none node)
      obtain rfl : node = .dir := by
        cases node with
        | dir => rfl
        | file content => simp only [hnode] at hbegins
        | link absolute target => simp only [hnode] at hbegins
      have hnode' : d.tree.node? (normalize skills.installsDir ++ [manifest.dirName]) =
        some .dir := hnode
      simp only [hnode, hseen, Bool.false_eq_true, if_false] at hbegins
      simp only [hseen, hnode', Bool.not_false, Option.isSome_some, Bool.and_self, if_true] at hrun
      rw [Disk.run_bind] at hrun
      cases hremoved : Disk.removeDirAll (skills.installsDir ++ [manifest.dirName])
          s!"failed to replace {displayPath (skills.installsDir ++ [manifest.dirName])}" next with
      | error message₁ d₁ =>
          rw [hremoved] at hrun
          cases hrun
          obtain ⟨location, hbelow, hgone, node, hthere⟩ :=
            Disk.removeDirAll_cut (d := next) hslot' hnode' hbegins hremoved
          refine ⟨location, hbelow, ?_⟩
          rw [hgone, show d.tree.node? location = some node from hthere]
          exact fun heq => by cases heq
      | ok _ d₁ =>
          rw [hremoved] at hrun
          obtain ⟨hedits, hgone⟩ := (Disk.triple_removeDirAll_gone hslot' _).ok
            (Edits.refl _ _) hremoved
          obtain ⟨relative, hmissing, node, hthere⟩ :=
            refill_missing hsite hhome hholds (hmanifest hholds.unpacked) hedits hgone hrun
          refine ⟨_, List.prefix_append _ relative, ?_⟩
          rw [hmissing, hthere]
          exact fun heq => by cases heq

end

/-! ## Failed installs -/

/-- The installed skills are as they were. -/
def Unharmed (skills : SkillManager) (t t' : FileTree Bytes) : Prop :=
  ∀ location, skills.location <+: location → t'.node? location = t.node? location

section

variable {skills : SkillManager} {temp : Location} {name : String} {t t' t'' : FileTree Bytes}

theorem Unharmed.refl (skills : SkillManager) (t : FileTree Bytes) : Unharmed skills t t :=
  fun _ _ => rfl

theorem Unharmed.trans (h : Unharmed skills t t') (h' : Unharmed skills t' t'') :
    Unharmed skills t t'' :=
  fun location hbelow => (h' location hbelow).trans (h location hbelow)

theorem InstallSite.unharmed (hsite : InstallSite skills temp t)
    (hhome : ¬ temp ++ [name] <+: skills.location) (h : Outside [temp ++ [name]] t t') :
    Unharmed skills t t' :=
  fun _ hbelow => hsite.node?_below hhome h hbelow

/-- A dropped directory is no reason to fail. -/
theorem dropTempDir_bind {α : Type} (home : Location) (a : α) (d : Disk Bytes) :
    ∃ d', (do dropTempDir home; return a : SkillM α) d = .ok a d' := by
  rw [Disk.run_bind]
  unfold dropTempDir
  cases Disk.removeDirAll (unpackedPath home) "" d with
  | ok _ d' => exact ⟨d', rfl⟩
  | error _ d' => exact ⟨d', rfl⟩

/-- An error is the one of the body, and behind it the directory is dropped. -/
theorem withTempDir_error {α : Type} {body : SkillM α} {d d' : Disk Bytes} {message : String}
    (hrun : withTempDir (temp ++ [name]) body d = .error message d') :
    ∃ d₁, body d = .error message d₁ ∧ d' = Op.after (dropTempDir (temp ++ [name])) d₁ := by
  unfold withTempDir at hrun
  cases hbody : body d with
  | ok a d₁ =>
      rw [hbody] at hrun
      cases hrun
  | error message₁ d₁ =>
      rw [hbody] at hrun
      unfold Op.after
      cases hdrop : dropTempDir (temp ++ [name]) d₁ with
      | ok _ d₂ =>
          simp only [hdrop] at hrun
          cases hrun
          exact ⟨d₁, rfl, by rw [hdrop]⟩
      | error _ d₂ =>
          simp only [hdrop] at hrun
          cases hrun
          exact ⟨d₁, rfl, by rw [hdrop]⟩

/-- A dropped directory leaves the installed skills alone. -/
theorem InstallSite.dropped {d : Disk Bytes} (hsite : InstallSite skills temp d.tree)
    (hvalid : ValidName name) (hhome : ¬ temp ++ [name] <+: skills.location) :
    InstallSite skills temp (Op.after (dropTempDir (temp ++ [name])) d).tree ∧
      Unharmed skills d.tree (Op.after (dropTempDir (temp ++ [name])) d).tree := by
  have hchange := (keeps_drop hsite.temp_dir hvalid).after (Outside.refl _ d.tree)
  exact ⟨hsite.outside hhome hchange, hsite.unharmed hhome hchange⟩

end

section

variable [Externals] [SkillExternals] (skills : SkillManager) (trustRoot : RawPath)
  (temp : Location) (call : InstallCall)

/-- The destination is found, and the call is not forced. -/
def InstallCall.blocked (d : Disk Bytes) : Bool :=
  match verifySkillBundle call.source trustRoot (temp ++ [call.name]) d with
  | .error _ _ => false
  | .ok manifest d₁ =>
      !d₁.failsAt d₁.step &&
        (d₁.tree.target? (skills.installedSkillDir manifest.id manifest.version)).isSome &&
          !call.force

/-- What a call comes to the replacement with. -/
def InstallCall.replacing? (d : Disk Bytes) : Option Staged :=
  if call.blocked skills trustRoot temp d then none else staged? trustRoot temp call d

/-- A call comes to the first change of its destination. -/
def InstallCall.Replaces (d : Disk Bytes) : Prop :=
  ∃ staged, call.replacing? skills trustRoot temp d = some staged ∧
    (staged.verified.OneName → Begins staged.disk (skills.place staged.verified))

/-- It does, and the destination is one free name, or holds all of the bundle and is found. -/
structure InstallCall.ReplacesWhole (d : Disk Bytes) (staged : Staged) : Prop where
  replacing : call.replacing? skills trustRoot temp d = some staged
  one_name : staged.verified.OneName
  begins : Begins staged.disk (skills.place staged.verified)
  whole : staged.disk.tree.node? (skills.place staged.verified) = none ∨
    staged.disk.failsAt staged.disk.step = false ∧
      HoldsAll staged.disk.tree (temp ++ [call.name']) (skills.place staged.verified)

variable {skills trustRoot temp call} {name : String}

/-- Behind the first verification a call fails before the replacement or in it. -/
theorem installOver_error (hunpack : UnpacksBelow) {d d' : Disk Bytes} {source : RawPath}
    {force : Bool} {manifest : SkillManifest} (hfresh : FreshName d.tree temp name)
    {message : String}
    (hrun : skills.installOver trustRoot source force manifest (temp ++ [name]) d =
      .error message d') :
    if !d.failsAt d.step &&
        (d.tree.target? (skills.installedSkillDir manifest.id manifest.version)).isSome && !force
    then d'.tree = d.tree
    else
      match verifySkillBundle source trustRoot (temp ++ [name]) { d with step := d.step + 1 } with
      | .error _ _ => Outside [temp ++ [name]] d.tree d'.tree
      | .ok _ d₁ => Outside [temp ++ [name]] d.tree d₁.tree ∧
          (∃ bytes, d₁.tree.content? (unpackedPath (temp ++ [name]) ++ ["manifest.json"]) =
            some bytes) ∧
          ∃ message' d₂, replaceInstalled (skills.installedSkillDir manifest.id manifest.version)
              (temp ++ [name]) d₁ = .error message' d₂ ∧
            d' = Op.after (dropTempDir (temp ++ [name])) d₂ := by
  unfold SkillManager.installOver at hrun
  rw [Disk.run_bind, Disk.pathExists_eq] at hrun
  simp only at hrun
  split at hrun
  · rename_i hfound
    cases hrun
    rw [if_pos hfound]
  · rename_i hfound
    rw [if_neg hfound]
    rw [installVerifiedBundle_eq, Disk.run_bind] at hrun
    have hverify := triple_verifySkillBundle hunpack hfresh source trustRoot
    cases hsecond : verifySkillBundle source trustRoot (temp ++ [name])
        { d with step := d.step + 1 } with
    | error message₁ d₁ =>
        rw [hsecond] at hrun
        cases hrun
        exact hverify.error (d := { d with step := d.step + 1 }) rfl hsecond
    | ok manifest' d₁ =>
        rw [hsecond] at hrun
        obtain ⟨⟨bytes, _, _, hread, _⟩, -⟩ := verifySkillBundle_checked hsecond
        simp only at hrun ⊢
        refine ⟨hverify.ok (d := { d with step := d.step + 1 }) rfl hsecond, ⟨bytes, hread⟩, ?_⟩
        rw [Disk.run_bind] at hrun
        cases hreplace : withTempDir (temp ++ [name])
            (replaceInstalled (skills.installedSkillDir manifest.id manifest.version)
              (temp ++ [name])) d₁ with
        | ok _ d₂ =>
            rw [hreplace] at hrun
            obtain ⟨d₃, hreturns⟩ := dropTempDir_bind (temp ++ [name]) manifest' d₂
            exact absurd (hreturns.symm.trans hrun) (by simp)
        | error message₂ d₂ =>
            rw [hreplace] at hrun
            cases hrun
            obtain ⟨d₃, hrefused, hdropped⟩ := withTempDir_error hreplace
            exact ⟨_, d₃, hrefused, hdropped⟩

/-- A call that fails does so before the replacement or in it. -/
theorem perform_error (hunpack : UnpacksBelow) {d d' : Disk Bytes}
    (hsite : InstallSite skills temp d.tree) (hfresh : call.Fresh temp d.tree) {message : String}
    (hrun : skills.perform trustRoot temp call d = .error message d') :
    match call.replacing? skills trustRoot temp d with
    | none => Unharmed skills d.tree d'.tree
    | some ⟨verified, _, d₂⟩ => InstallSite skills temp d₂.tree ∧ Unharmed skills d.tree d₂.tree ∧
        (∃ bytes, d₂.tree.content? (unpackedPath (temp ++ [call.name']) ++ ["manifest.json"]) =
          some bytes) ∧
        ∃ message' d₃, replaceInstalled (skills.installedSkillDir verified.id verified.version)
            (temp ++ [call.name']) d₂ = .error message' d₃ ∧
          (InstallSite skills temp d₃.tree → Unharmed skills d₃.tree d'.tree) := by
  have hhome := hfresh.first.apart hsite
  have hhome' := hfresh.second.apart hsite
  unfold InstallCall.replacing? InstallCall.blocked staged?
  unfold SkillManager.perform SkillManager.install at hrun
  rw [Disk.run_bind] at hrun
  have hverify := triple_verifySkillBundle hunpack hfresh.first call.source trustRoot
  cases hfirst : verifySkillBundle call.source trustRoot (temp ++ [call.name]) d with
  | error message₁ d₁ =>
      rw [hfirst] at hrun
      cases hrun
      exact hsite.unharmed hhome (hverify.error rfl hfirst)
  | ok manifest d₁ =>
      rw [hfirst] at hrun
      have hchange := hverify.ok rfl hfirst
      have hsite₁ := hsite.outside hhome hchange
      have hfresh₁ := hfresh.second.outside hfresh.different hchange hsite₁.temp_dir
      have hunharmed := hsite.unharmed hhome hchange
      simp only at hrun ⊢
      rw [Disk.run_bind] at hrun
      cases hover : withTempDir (temp ++ [call.name]) (skills.installOver trustRoot call.source
          call.force manifest (temp ++ [call.name'])) d₁ with
      | ok installed d₂ =>
          rw [hover] at hrun
          obtain ⟨d₃, hreturns⟩ := dropTempDir_bind (temp ++ [call.name])
            (SkillInfo.mk installed.id installed.version installed.name installed.description
              true true installed.entrypoint installed.language) d₂
          exact absurd (hreturns.symm.trans hrun) (by simp)
      | error message₂ d₂ =>
          rw [hover] at hrun
          cases hrun
          obtain ⟨d₃, hinner, rfl⟩ := withTempDir_error hover
          have hcases := installOver_error hunpack hfresh₁ hinner
          have hdropped : ∀ {t : FileTree Bytes}, InstallSite skills temp d₃.tree →
              Unharmed skills t d₃.tree →
                Unharmed skills t (Op.after (dropTempDir (temp ++ [call.name])) d₃).tree :=
            fun hsite₃ hkept => hkept.trans (hsite₃.dropped hfresh.first.valid hhome).2
          split at hcases
          · rename_i hfound
            rw [if_pos hfound]
            exact hdropped (hcases ▸ hsite₁) (hcases ▸ hunharmed)
          · rename_i hfound
            rw [if_neg hfound]
            cases hsecond : verifySkillBundle call.source trustRoot (temp ++ [call.name'])
                { d₁ with step := d₁.step + 1 } with
            | error message₃ d₄ =>
                rw [hsecond] at hcases
                exact hdropped (hsite₁.outside hhome' hcases)
                  (hunharmed.trans (hsite₁.unharmed hhome' hcases))
            | ok manifest' d₄ =>
                rw [hsecond] at hcases
                obtain ⟨hchange', hread, message', d₅, hrefused, rfl⟩ := hcases
                refine ⟨hsite₁.outside hhome' hchange',
                  hunharmed.trans (hsite₁.unharmed hhome' hchange'), hread, message', d₅, hrefused,
                  fun hsite₅ => ?_⟩
                obtain ⟨hsite₃, hkept⟩ := hsite₅.dropped hfresh.second.valid hhome'
                exact hdropped hsite₃ hkept

/-- A call that fails leaves the installed skills as they are, unless it comes to the first change
of its destination.  Then it does not, if the destination is one free name, or holds all of the
bundle and is found. -/
theorem failedInstall_unharmed (hunpack : UnpacksBelow) {d d' : Disk Bytes}
    (hsite : InstallSite skills temp d.tree) (hfresh : call.Fresh temp d.tree) {message : String}
    (hrun : skills.perform trustRoot temp call d = .error message d') :
    (¬ call.Replaces skills trustRoot temp d → Unharmed skills d.tree d'.tree) ∧
      ((∃ staged, call.ReplacesWhole skills trustRoot temp d staged) →
        ¬ Unharmed skills d.tree d'.tree) := by
  have hcases := perform_error hunpack hsite hfresh hrun
  cases hreplacing : call.replacing? skills trustRoot temp d with
  | none =>
      rw [hreplacing] at hcases
      refine ⟨fun _ => hcases, ?_⟩
      rintro ⟨staged, hwhole⟩
      cases hreplacing.symm.trans hwhole.replacing
  | some staged =>
      obtain ⟨verified, manifest, d₂⟩ := staged
      rw [hreplacing] at hcases
      obtain ⟨hsite₂, hunharmed, ⟨bytes, hread⟩, message', d₃, hreplace, hdropped⟩ := hcases
      constructor
      · intro hidle
        have hnot : ¬ (verified.OneName → Begins d₂ (skills.place verified)) :=
          fun hbegins => hidle ⟨_, hreplacing, hbegins⟩
        obtain ⟨hname, hbegins⟩ := Classical.not_imp.mp hnot
        rw [verified.installedSkillDir_eq hname skills] at hreplace
        have hsame := replaceInstalled_idle hsite₂ hbegins hreplace
        rw [hsame] at hdropped
        exact hunharmed.trans (hdropped hsite₂)
      · rintro ⟨staged, hwhole⟩ hkept
        obtain rfl : _ = staged := Option.some.inj (hreplacing.symm.trans hwhole.replacing)
        rw [verified.installedSkillDir_eq hwhole.one_name skills] at hreplace
        have hhome' : ¬ temp ++ [call.name'] <+: skills.location := hfresh.second.apart hsite
        have hedits : Edits (skills.place verified) d₂.tree d₃.tree :=
          (keeps_replaceInstalled (hsite₂.slot verified) _).error (Edits.refl _ _) hreplace
        have hunharmed₃ := hdropped (hsite₂.edits hedits)
        obtain ⟨location, hbelow, hchanged⟩ := replaceInstalled_changes hsite₂ hhome' hwhole.begins
          hwhole.whole (fun hdir => exists_node_of_content hdir (by decide) hread) hreplace
        have hlocation := (List.prefix_append skills.location [verified.dirName]).trans hbelow
        refine hchanged ?_
        rw [← hunharmed₃ location hlocation, hkept location hlocation,
          hunharmed location hlocation]

end

/-! ### Installs that fail over an installed skill -/

/-- What a call that fails says, and what it leaves of the manifest of `s`. -/
def failure? (call : InstallCall) (d : Disk Bytes) : Option (String × Option (Node Bytes)) :=
  match @SkillManager.perform referenceExternals bundleExternals localSkills ["", "root.json"]
      ["tmp"] call d with
  | .ok _ _ => none
  | .error message d' => some (message, d'.tree.node? ["i", "s-1", "manifest.json"])

theorem failure?_eq_some {call : InstallCall} {d : Disk Bytes} {message : String}
    {node : Option (Node Bytes)} (h : failure? call d = some (message, node)) :
    ∃ d', @SkillManager.perform referenceExternals bundleExternals localSkills
        ["", "root.json"] ["tmp"] call d = .error message d' ∧
      d'.tree.node? ["i", "s-1", "manifest.json"] = node := by
  unfold failure? at h
  split at h
  · cases h
  · rename_i d' hrun
    cases h
    exact ⟨d', hrun, rfl⟩

/-- The bundles, with the first version of `s` installed. -/
def versionTree : FileTree Bytes :=
  ((do
    let t ← sourcesTree.insert ["i"] "s-1" .dir
    let t ← t.insert ["i", "s-1"] "manifest.json" (.file (asBytes firstVersion.text))
    t.insert ["i", "s-1"] "manifest.sig.json" (.file (asBytes firstVersion.signatureText)) :
      Option (FileTree Bytes))).getD sourcesTree

/-- A disk with that version on which one step is refused. -/
def refusing (step : Nat) : Disk Bytes := ⟨versionTree, fun step' => step' == step, 0⟩

/-- The first version of `s` is installed once more, without force. -/
def heldCall : InstallCall := { againCall with force := false }

theorem refusing_there :
    (refusing 44).tree.node? ["i", "s-1", "manifest.json"] =
      some (.file (asBytes firstVersion.text)) := by
  decide +kernel

/-- What a call comes to the replacement with on such a disk. -/
def replacing? (call : InstallCall) (step : Nat) : Option Staged :=
  @InstallCall.replacing? referenceExternals bundleExternals localSkills ["", "root.json"]
    ["tmp"] call (refusing step)

/-- The unforced call fails before the replacement. -/
theorem heldCall_fails :
    failure? heldCall (refusing 44) =
        some ("skill s@1 is already installed; re-run with --force to replace it",
          some (.file (asBytes firstVersion.text))) ∧
      (replacing? heldCall 44).isNone := by
  decide +kernel

/-- The forced call comes to the directory of `s`, and its first removal is refused. -/
theorem againCall_fails_replace :
    failure? againCall (refusing 34) =
        some ("failed to replace /i/s-1", some (.file (asBytes firstVersion.text))) ∧
      (replacing? againCall 34).any fun staged =>
        staged.verified = firstVersion.manifest ∧
          staged.disk.tree.node? ["i", "s-1"] = some .dir ∧
          staged.disk.failsAt staged.disk.step = false ∧
          staged.disk.failsAt (staged.disk.step + 1) = true := by
  decide +kernel

/-- It comes there, and cannot write the manifest. -/
theorem againCall_fails_copy :
    failure? againCall (refusing 44) =
        some ("failed to copy /tmp/t4/manifest.json to /i/s-1/manifest.json", none) ∧
      (replacing? againCall 44).any fun staged =>
        staged.verified = firstVersion.manifest ∧
          staged.disk.tree.node? ["i", "s-1"] = some .dir ∧
          staged.disk.failsAt staged.disk.step = false ∧
          staged.disk.failsAt (staged.disk.step + 1) = false ∧
          staged.disk.tree.node? ["tmp", "t4"] = some .dir ∧
          ∀ entry ∈ ([], .dir) :: staged.disk.tree.below ["tmp", "t4"],
            (staged.disk.tree.node? (["i", "s-1"] ++ entry.1)).isSome := by
  decide +kernel

theorem failedInstall_unharmed_fails :
    ∃ message d', @SkillManager.perform referenceExternals bundleExternals localSkills
        ["", "root.json"] ["tmp"] againCall (refusing 44) = .error message d' ∧
      ¬ Unharmed localSkills (refusing 44).tree d'.tree := by
  obtain ⟨d', hrun, hgone⟩ := failure?_eq_some againCall_fails_copy.1
  refine ⟨_, d', hrun, fun hkept => ?_⟩
  have hsame := hkept ["i", "s-1", "manifest.json"] ⟨["s-1", "manifest.json"], rfl⟩
  rw [hgone, refusing_there] at hsame
  cases hsame

theorem HoldsAll.of_below {t : FileTree Bytes} {home place : Location}
    (hunpacked : t.node? home = some .dir)
    (hbelow : ∀ entry ∈ ([], .dir) :: t.below home, (t.node? (place ++ entry.1)).isSome) :
    HoldsAll t home place := by
  refine ⟨hunpacked, fun relative node hnode => Option.isSome_iff_exists.mp ?_⟩
  cases relative with
  | nil => exact hbelow ([], .dir) List.mem_cons_self
  | cons name rest =>
      exact hbelow _ (List.mem_cons_of_mem _ (FileTree.mem_below (List.cons_ne_nil _ _) hnode))

theorem versionTree_site : InstallSite localSkills ["tmp"] versionTree where
  installs_dir := by decide
  link_free := FileTree.linkFree_of_entries (by decide) _
  temp_dir := by decide
  temp_apart := by decide

theorem refusing_fresh (step : Nat) (force : Bool) :
    InstallCall.Fresh ["tmp"] { againCall with force := force } (refusing step).tree := by
  have hfresh : againCall.Fresh ["tmp"] versionTree := by decide
  exact ⟨hfresh.first, hfresh.second, hfresh.different⟩

/-- The unforced call does not come to the replacement. -/
theorem heldCall_not_replaces :
    ¬ @InstallCall.Replaces referenceExternals bundleExternals localSkills ["", "root.json"]
      ["tmp"] heldCall (refusing 44) := by
  rintro ⟨staged, hreplacing, -⟩
  have hnone := heldCall_fails.2
  unfold replacing? at hnone
  rw [hreplacing] at hnone
  cases hnone

/-- With the first removal refused, the forced call does not come behind it. -/
theorem againCall_not_replaces :
    ¬ @InstallCall.Replaces referenceExternals bundleExternals localSkills ["", "root.json"]
      ["tmp"] againCall (refusing 34) := by
  rintro ⟨staged, hreplacing, hbegins⟩
  have hdenied := againCall_fails_replace.2
  unfold replacing? at hdenied
  rw [hreplacing, Option.any_some, decide_eq_true_eq] at hdenied
  obtain ⟨hverified, hdir, hseen, hrefused⟩ := hdenied
  rw [hverified] at hbegins
  rw [(begins_dir hdir hseen).mp (hbegins (by decide))] at hrefused
  cases hrefused

theorem againCall_replacesWhole :
    ∃ staged, @InstallCall.ReplacesWhole referenceExternals bundleExternals localSkills
      ["", "root.json"] ["tmp"] againCall (refusing 44) staged := by
  obtain ⟨staged, hreplacing, hfacts⟩ := (Option.any_eq_true _ _).mp againCall_fails_copy.2
  obtain ⟨hverified, hdir, hseen, hfirst, hunpacked, hbelow⟩ := of_decide_eq_true hfacts
  refine ⟨staged, @InstallCall.ReplacesWhole.mk referenceExternals bundleExternals _ _ _ _ _ _
    hreplacing ?_ ?_ (Or.inr ⟨hseen, ?_⟩)⟩
  · rw [hverified]
    decide
  · rw [hverified]
    exact (begins_dir hdir hseen).mpr hfirst
  · rw [hverified]
    exact HoldsAll.of_below hunpacked hbelow

/-- The unforced call and the one whose first removal is refused leave the skills as they are, and
the one that cannot write the manifest does not. -/
theorem failedInstall_unharmed_again :
    (∃ message d', @SkillManager.perform referenceExternals bundleExternals localSkills
        ["", "root.json"] ["tmp"] heldCall (refusing 44) = .error message d' ∧
      Unharmed localSkills (refusing 44).tree d'.tree) ∧
    (∃ message d', @SkillManager.perform referenceExternals bundleExternals localSkills
        ["", "root.json"] ["tmp"] againCall (refusing 34) = .error message d' ∧
      Unharmed localSkills (refusing 34).tree d'.tree) ∧
    ∃ message d', @SkillManager.perform referenceExternals bundleExternals localSkills
        ["", "root.json"] ["tmp"] againCall (refusing 44) = .error message d' ∧
      ¬ Unharmed localSkills (refusing 44).tree d'.tree := by
  obtain ⟨held, hheld, -⟩ := failure?_eq_some heldCall_fails.1
  obtain ⟨denied, hdenied, -⟩ := failure?_eq_some againCall_fails_replace.1
  obtain ⟨cut, hcut, -⟩ := failure?_eq_some againCall_fails_copy.1
  refine ⟨⟨_, held, hheld, ?_⟩, ⟨_, denied, hdenied, ?_⟩, ⟨_, cut, hcut, ?_⟩⟩
  · exact (@failedInstall_unharmed referenceExternals bundleExternals _ _ _ _
      (unpacksBelow_signed _) _ _ versionTree_site (refusing_fresh 44 false) _ hheld).1
      heldCall_not_replaces
  · exact (@failedInstall_unharmed referenceExternals bundleExternals _ _ _ _
      (unpacksBelow_signed _) _ _ versionTree_site (refusing_fresh 34 true) _ hdenied).1
      againCall_not_replaces
  · exact (@failedInstall_unharmed referenceExternals bundleExternals _ _ _ _
      (unpacksBelow_signed _) _ _ versionTree_site (refusing_fresh 44 true) _ hcut).2
      againCall_replacesWhole

end OpenPinch
