import OpenPinch.Lib.DiskRuns
import OpenPinch.Tools.Installs

/-!
# The order in which installed skills are listed

`installedManifest` takes the first directory whose manifest has the id, in the
order in which the system lists them, and an entry that cannot be read ends the
search as well.  So the order does not matter when the entries that end a search
end it alike, and only then (`sameInEveryOrder_iff`).

That fails when two versions of one skill are installed, each in a directory of
its own.  After a run of installs the order does not matter for the skills that
have one directory, and for no others (`installs_sameInEveryOrder_iff`).
-/

namespace OpenPinch

open Lib (Op)
open Lib.FileSystem
open Lib.FileSystem.Disk (ending outcome)
open Lib.FileSystem.FileTree (Edits Outside)

/-! ## The search -/

section

variable [SkillExternals]

/-- What `readManifest` finds in a tree. -/
def manifestAt (t : FileTree Bytes) (path : RawPath) : Except String SkillManifest :=
  match t.content? path with
  | none => .error s!"failed to open {displayPath path}"
  | some data =>
      match fromUtf8 data with
      | none => .error s!"failed to read {displayPath path}"
      | some _ =>
          match SkillExternals.manifestFromSlice data with
          | none => .error "failed to decode installed skill manifest"
          | some manifest => .ok manifest

/-- How an entry ends the search for an id, when it does. -/
def verdict? (root : RawPath) (skillId : String) (t : FileTree Bytes) (name : String) :
    Option (Except String (SkillManifest × RawPath)) :=
  let path := join root name
  match (t.entryLocation? path).bind t.node? with
  | none => some (.error Disk.systemError)
  | some node =>
      if !node.isDir then none
      else if !(t.target? (bundleManifestPath path)).isSome then none
      else
        match manifestAt t (bundleManifestPath path) with
        | .error message => some (.error message)
        | .ok manifest => if manifest.id = skillId then some (.ok (manifest, path)) else none

/-- What the entries in an order give. -/
def firstVerdict (root : RawPath) (skillId : String) (t : FileTree Bytes) (names : List String) :
    Except String (SkillManifest × RawPath) :=
  (names.findSome? (verdict? root skillId t)).getD (.error s!"skill {skillId} is not installed")

/-- The tree on a disk that refuses nothing. -/
def plainDisk (t : FileTree Bytes) (step : Nat) : Disk Bytes := ⟨t, fun _ => false, step⟩

theorem readManifest_run (t : FileTree Bytes) (path : RawPath) (step : Nat) :
    readManifest path (plainDisk t step) = ending (manifestAt t path) (plainDisk t (step + 1)) := by
  unfold readManifest manifestAt
  rw [Disk.run_bind, Disk.read_run rfl]
  simp only [plainDisk]
  cases t.content? path with
  | none => rfl
  | some data =>
      simp only [Option.elim, ending]
      cases fromUtf8 data with
      | none => rfl
      | some _ =>
          simp only
          cases SkillExternals.manifestFromSlice data <;> rfl

/-- One entry ends the search or is passed over. -/
theorem searchInstalled_cons (root : RawPath) (skillId : String) (t : FileTree Bytes)
    (name : String) (rest : List String) (step : Nat) :
    ∃ step', SkillManager.searchInstalled root skillId (name :: rest) (plainDisk t step) =
      match verdict? root skillId t name with
      | some verdict => ending verdict (plainDisk t step')
      | none => SkillManager.searchInstalled root skillId rest (plainDisk t step') := by
  rw [SkillManager.searchInstalled, Disk.run_bind, Disk.entryNode_run rfl]
  unfold verdict?
  simp only [plainDisk]
  cases hnode : (t.entryLocation? (join root name)).bind t.node? with
  | none => exact ⟨step + 1, rfl⟩
  | some node =>
      simp only [Option.elim, ending]
      by_cases hdir : node.isDir = true
      · rw [if_neg (by simp [hdir]), if_neg (by simp [hdir]), Disk.run_bind,
          Disk.pathExists_run rfl]
        simp only
        by_cases hthere : (t.target? (bundleManifestPath (join root name))).isSome = true
        · rw [if_neg (by simp [hthere]), if_neg (by simp [hthere]), Disk.run_bind,
            ← plainDisk, readManifest_run]
          refine ⟨step + 1 + 1 + 1, ?_⟩
          cases manifestAt t (bundleManifestPath (join root name)) with
          | error message => rfl
          | ok manifest =>
              simp only [ending]
              split <;> rfl
        · rw [if_pos (by simp [hthere]), if_pos (by simp [hthere])]
          exact ⟨step + 1 + 1, rfl⟩
      · rw [if_pos (by simp [hdir]), if_pos (by simp [hdir])]
        exact ⟨step + 1, rfl⟩

/-- The search takes what the entries give in their order. -/
theorem searchInstalled_run (root : RawPath) (skillId : String) (t : FileTree Bytes)
    (names : List String) (step : Nat) :
    ∃ step', SkillManager.searchInstalled root skillId names (plainDisk t step) =
      ending (firstVerdict root skillId t names) (plainDisk t step') := by
  induction names generalizing step with
  | nil => exact ⟨step, rfl⟩
  | cons name rest ih =>
      obtain ⟨step', hrun⟩ := searchInstalled_cons root skillId t name rest step
      rw [hrun]
      unfold firstVerdict
      rw [List.findSome?_cons]
      cases verdict? root skillId t name with
      | some verdict => exact ⟨step', rfl⟩
      | none => exact ih step'

end

/-! ## Orders -/

/-- An order in which a directory may be listed. -/
def Reorders (order : List String → List String) : Prop := ∀ names, (order names).Perm names

/-- The system that lists in the order. -/
@[reducible] def listedBy (packDir : FileTree Bytes → RawPath → Option Bytes)
    (order : List String → List String) : PackExternals :=
  ⟨order, packDir⟩

/-- The first answer is the same in lists with the same members when all answers are alike. -/
theorem findSome?_eq_of_alike {α β : Type} {f : α → Option β} {l l' : List α}
    (hmem : ∀ a, a ∈ l' ↔ a ∈ l)
    (halike : ∀ a ∈ l, ∀ b ∈ l, ∀ x y, f a = some x → f b = some y → x = y) :
    l'.findSome? f = l.findSome? f := by
  cases hfirst : l.findSome? f with
  | none =>
      rw [List.findSome?_eq_none_iff] at hfirst ⊢
      exact fun a ha => hfirst a ((hmem a).mp ha)
  | some x =>
      obtain ⟨a, ha, hx⟩ := List.exists_of_findSome?_eq_some hfirst
      cases hfirst' : l'.findSome? f with
      | none =>
          rw [List.findSome?_eq_none_iff.mp hfirst' a ((hmem a).mpr ha)] at hx
          cases hx
      | some y =>
          obtain ⟨b, hb, hy⟩ := List.exists_of_findSome?_eq_some hfirst'
          rw [halike b ((hmem b).mp hb) a ha y x hy hx]

section

variable [SkillExternals] (packDir : FileTree Bytes → RawPath → Option Bytes)
  (skills : SkillManager) (t : FileTree Bytes)

/-- Which skill is found, and what is packed of it, is the same in every order of the listing. -/
def SkillManager.SameInEveryOrder (skillId : String) : Prop :=
  ∀ order order', Reorders order → Reorders order' → ∀ step,
    outcome (@installedManifest _ (listedBy packDir order) skills skillId (plainDisk t step)) =
        outcome (@installedManifest _ (listedBy packDir order') skills skillId
          (plainDisk t step)) ∧
      outcome (@packagedWorkspace _ (listedBy packDir order) skills skillId (plainDisk t step)) =
        outcome (@packagedWorkspace _ (listedBy packDir order') skills skillId (plainDisk t step))

variable {packDir skills t}

/-- What is found in an order. -/
def SkillManager.foundIn (skills : SkillManager) (t : FileTree Bytes) (skillId : String)
    (order : List String → List String) : Except String (SkillManifest × RawPath) :=
  match t.names? skills.installsDir with
  | none => .error
      s!"failed to read installed skills directory {displayPath skills.installsDir}"
  | some names => firstVerdict skills.installsDir skillId t (order names)

theorem installedManifest_run (skillId : String) (order : List String → List String)
    (step : Nat) :
    ∃ step', @SkillManager.installedManifest _ (listedBy packDir order) skills skillId
      (plainDisk t step) = ending (skills.foundIn t skillId order) (plainDisk t step') := by
  unfold SkillManager.installedManifest SkillManager.foundIn
  rw [Disk.run_bind, Disk.readDir_run rfl]
  simp only [plainDisk]
  cases t.names? skills.installsDir with
  | none => exact ⟨step + 1, rfl⟩
  | some names => exact searchInstalled_run _ skillId t (order names) (step + 1)

theorem packagedWorkspace_outcome (skillId : String) (order : List String → List String)
    (step : Nat) :
    outcome (@SkillManager.packagedWorkspace _ (listedBy packDir order) skills skillId
      (plainDisk t step)) =
        (skills.foundIn t skillId order).bind fun (manifest, root) =>
          match packDir t root with
          | some bytes => .ok (manifest, base64EncodeString bytes)
          | none => .error s!"failed to archive {displayPath root}" := by
  obtain ⟨step', hrun⟩ := @installedManifest_run _ packDir skills t skillId order step
  unfold SkillManager.packagedWorkspace
  rw [Disk.run_bind, hrun]
  cases skills.foundIn t skillId order with
  | error message => rfl
  | ok found =>
      obtain ⟨manifest, root⟩ := found
      show outcome ((match packDir t root with
        | some bytes => pure (manifest, base64EncodeString bytes)
        | none => Disk.fail s!"failed to archive {displayPath root}" :
          SkillM (SkillManifest × String)) (plainDisk t step')) =
        match packDir t root with
        | some bytes => .ok (manifest, base64EncodeString bytes)
        | none => .error s!"failed to archive {displayPath root}"
      cases packDir t root <;> rfl

theorem SkillManager.sameInEveryOrder_of_foundIn {skillId : String}
    (h : ∀ order order', Reorders order → Reorders order' →
      skills.foundIn t skillId order = skills.foundIn t skillId order') :
    skills.SameInEveryOrder packDir t skillId := by
  intro order order' horder horder' step
  obtain ⟨_, hrun⟩ := @installedManifest_run _ packDir skills t skillId order step
  obtain ⟨_, hrun'⟩ := @installedManifest_run _ packDir skills t skillId order' step
  have hfound := h order order' horder horder'
  constructor
  · rw [hrun, hrun', Disk.outcome_ending, Disk.outcome_ending, hfound]
  · rw [packagedWorkspace_outcome, packagedWorkspace_outcome, hfound]

/-- The order does not matter just when the entries that end the search end it alike. -/
theorem SkillManager.sameInEveryOrder_iff {skillId : String} :
    skills.SameInEveryOrder packDir t skillId ↔
      ∀ names, t.names? skills.installsDir = some names →
        ∀ name ∈ names, ∀ name' ∈ names, ∀ verdict verdict',
          verdict? skills.installsDir skillId t name = some verdict →
            verdict? skills.installsDir skillId t name' = some verdict' → verdict = verdict' := by
  constructor
  · intro hsame names hnames name hname name' hname' verdict verdict' hverdict hverdict'
    -- the name is listed first
    let before : String → List String → List String := fun first names =>
      if first ∈ names then first :: names.erase first else names
    have hreorders : ∀ first, Reorders (before first) := by
      intro first names
      by_cases hfirst : first ∈ names
      · simp only [before, if_pos hfirst]
        exact (List.perm_cons_erase hfirst).symm
      · simp only [before, if_neg hfirst]
        exact List.Perm.refl _
    have hfound : ∀ first ∈ names, ∀ found,
        verdict? skills.installsDir skillId t first = some found →
          skills.foundIn t skillId (before first) = found := by
      intro first hfirst found hverdict
      unfold SkillManager.foundIn firstVerdict
      simp only [hnames, before, if_pos hfirst, List.findSome?_cons, hverdict, Option.getD_some]
    obtain ⟨_, hrun⟩ := @installedManifest_run _ packDir skills t skillId (before name) 0
    obtain ⟨_, hrun'⟩ := @installedManifest_run _ packDir skills t skillId (before name') 0
    have houtcome := (hsame _ _ (hreorders name) (hreorders name') 0).1
    rwa [hrun, hrun', Disk.outcome_ending, Disk.outcome_ending, hfound name hname verdict hverdict,
      hfound name' hname' verdict' hverdict'] at houtcome
  · intro halike
    refine SkillManager.sameInEveryOrder_of_foundIn fun order order' horder horder' => ?_
    unfold SkillManager.foundIn
    cases hnames : t.names? skills.installsDir with
    | none => rfl
    | some names =>
        have hmem : ∀ name, name ∈ order' names ↔ name ∈ order names := fun name =>
          (horder' names).mem_iff.trans (horder names).mem_iff.symm
        have hlisted : ∀ name ∈ order names, name ∈ names := fun name =>
          (horder names).mem_iff.mp
        simp only [firstVerdict]
        rw [findSome?_eq_of_alike hmem fun name hname name' hname' verdict verdict' =>
          halike names hnames name (hlisted name hname) name' (hlisted name' hname') verdict
            verdict']

end

/-! ## What an install puts in place -/

/-- The staged bundle names one directory, and has no links and a manifest that is text. -/
structure Staged.Plain (staged : Staged) (home : Location) : Prop where
  one_name : staged.verified.OneName
  link_free : staged.disk.tree.LinkFree home
  text : ∀ bytes, staged.disk.tree.content? (unpackedPath home ++ ["manifest.json"]) = some bytes →
    (fromUtf8 bytes).isSome

theorem Staged.Plain.of_entries {staged : Staged} {home : Location}
    (hname : staged.verified.OneName)
    (hlinks : staged.disk.tree.entries.all fun entry => !entry.2.isLink)
    (htext : (staged.disk.tree.content? (unpackedPath home ++ ["manifest.json"])).all fun bytes =>
      (fromUtf8 bytes).isSome) : staged.Plain home := by
  refine ⟨hname, FileTree.linkFree_of_entries (fun entry hentry => ?_) _, fun bytes hcontent => ?_⟩
  · simpa using List.all_eq_true.mp hlinks entry hentry
  · rw [hcontent] at htext
    exact htext

section

variable [Externals] [SkillExternals] {skills : SkillManager} {trustRoot : RawPath}
  {temp : Location} {call : InstallCall}

/-- An install that returns replaces the directory and drops what it staged. -/
theorem perform_ok {d d' : Disk Bytes} {info : SkillInfo}
    (hrun : skills.perform trustRoot temp call d = .ok info d') :
    ∃ staged d₁ d₂, staged? trustRoot temp call d = some staged ∧
      replaceInstalled (skills.installedSkillDir staged.verified.id staged.verified.version)
        (temp ++ [call.name']) staged.disk = .ok () d₁ ∧
      dropTempDir (temp ++ [call.name']) d₁ = .ok () d₂ ∧
      dropTempDir (temp ++ [call.name]) d₂ = .ok () d' := by
  obtain ⟨verified, d₁, hfirst, hrest⟩ := Disk.bind_eq_ok.mp hrun
  obtain ⟨manifest, d₂, hover, hrest⟩ := Disk.bind_eq_ok.mp hrest
  obtain ⟨_, d₃, hdrop, hdone⟩ := Disk.bind_eq_ok.mp hrest
  cases hdone
  obtain ⟨there, d₄, hexists, hover⟩ := Disk.bind_eq_ok.mp (withTempDir_ok hover)
  rw [Disk.pathExists_eq, EStateM.Result.ok.injEq] at hexists
  obtain ⟨-, rfl⟩ := hexists
  cases hkept : there && !call.force with
  | true =>
      rw [hkept] at hover
      obtain ⟨_, _, hfail, _⟩ := Disk.bind_eq_ok.mp hover
      cases hfail
  | false =>
      rw [hkept] at hover
      obtain ⟨manifest', d₅, hsecond, hrest⟩ := Disk.bind_eq_ok.mp hover
      obtain ⟨_, d₆, hreplace, hrest⟩ := Disk.bind_eq_ok.mp hrest
      obtain ⟨_, d₇, hdrop', hdone⟩ := Disk.bind_eq_ok.mp hrest
      cases hdone
      refine ⟨⟨verified, manifest, d₅⟩, d₆, d₂, ?_, withTempDir_ok hreplace, hdrop', hdrop⟩
      unfold staged?
      simp only [hfirst, hsecond]

/-- What the verifications leave. -/
structure Staged.Ready (staged : Staged) (skills : SkillManager) (temp : Location)
    (name' : String) : Prop where
  site : InstallSite skills temp staged.disk.tree
  manifest : ∃ bytes, HoldsFile staged.disk.tree (temp ++ [name']) "manifest.json" bytes ∧
    (fromUtf8 bytes).isSome ∧ SkillExternals.manifestFromSlice bytes = some staged.manifest

theorem staged?_ready (hunpack : UnpacksBelow) {d : Disk Bytes}
    (hsite : InstallSite skills temp d.tree) (hfresh : call.Fresh temp d.tree) {staged : Staged}
    (hstaged : staged? trustRoot temp call d = some staged)
    (hplain : staged.Plain (temp ++ [call.name'])) :
    verified? trustRoot temp call d = some staged.verified ∧
      staged.Ready skills temp call.name' := by
  unfold staged? at hstaged
  cases hfirst : verifySkillBundle call.source trustRoot (temp ++ [call.name]) d with
  | error message d₁ =>
      rw [hfirst] at hstaged
      cases hstaged
  | ok verified d₁ =>
      rw [hfirst] at hstaged
      simp only at hstaged
      cases hsecond : verifySkillBundle call.source trustRoot (temp ++ [call.name'])
          { d₁ with step := d₁.step + 1 } with
      | error message d₂ =>
          rw [hsecond] at hstaged
          cases hstaged
      | ok manifest d₂ =>
          rw [hsecond] at hstaged
          cases hstaged
          have hhome := hfresh.first.apart hsite
          have hhome' := hfresh.second.apart hsite
          have hchange := (triple_verifySkillBundle hunpack hfresh.first _ _).ok rfl hfirst
          have hsite₁ := hsite.outside hhome hchange
          have hfresh₁ := hfresh.second.outside hfresh.different hchange hsite₁.temp_dir
          have hstart : ({ d₁ with step := d₁.step + 1 } : Disk Bytes).tree = d₁.tree := rfl
          have hchange' := (triple_verifySkillBundle hunpack hfresh₁ _ _).ok hstart hsecond
          have hsite₂ := hsite₁.outside hhome' hchange'
          refine ⟨by rw [verified?, hfirst], hsite₂, ?_⟩
          obtain ⟨bytes, _, _, hcontent, hparse, -⟩ := (verifySkillBundle_checked hsecond).1
          have hholds := HoldsFile.of_content hsite₂.temp_dir hfresh.second.valid hplain.link_free
            (by decide) hcontent
          exact ⟨bytes, hholds, hplain.text bytes hcontent, hparse⟩

/-- The directory of the skill holds the manifest. -/
def HoldsSkill (skills : SkillManager) (t : FileTree Bytes) (name skillId : String) : Prop :=
  ∃ bytes manifest, t.node? (skills.location ++ name :: ["manifest.json"]) = some (.file bytes) ∧
    (fromUtf8 bytes).isSome ∧ SkillExternals.manifestFromSlice bytes = some manifest ∧
      manifest.id = skillId

/-- An install that returns puts the staged manifest into the directory. -/
theorem perform_holds (hunpack : UnpacksBelow) {d d' : Disk Bytes} {info : SkillInfo}
    (hsite : InstallSite skills temp d.tree) (hfresh : call.Fresh temp d.tree) {staged : Staged}
    (hstaged : staged? trustRoot temp call d = some staged)
    (hplain : staged.Plain (temp ++ [call.name']))
    (hrun : skills.perform trustRoot temp call d = .ok info d') :
    Within skills temp (call.regions skills temp staged.verified) d.tree d'.tree ∧
      HoldsSkill skills d'.tree staged.verified.dirName staged.manifest.id := by
  obtain ⟨hverified, hsite₂, bytes, hholds, htext, hparse⟩ :=
    staged?_ready hunpack hsite hfresh hstaged hplain
  have hwithin : Within skills temp (call.regions skills temp staged.verified) d.tree
      (Op.after (skills.perform trustRoot temp call) d).tree :=
    perform_verified hunpack hsite hfresh hverified hplain.one_name
  rw [Op.after, hrun] at hwithin
  refine ⟨hwithin, bytes, staged.manifest, ?_, htext, hparse, rfl⟩
  obtain ⟨staged', d₁, d₂, hstaged', hreplace, hdrop, hdrop'⟩ := perform_ok hrun
  rw [hstaged] at hstaged'
  cases hstaged'
  rw [staged.verified.installedSkillDir_eq hplain.one_name skills] at hreplace
  -- what is staged is apart from what is replaced
  have hsource : ∀ t, Edits (normalize skills.installsDir ++ [staged.verified.dirName])
      staged.disk.tree t → HoldsFile t (temp ++ [call.name']) "manifest.json" bytes := by
    intro t hedits
    have hsame : ∀ location, temp ++ [call.name'] <+: location →
        t.node? location = staged.disk.tree.node? location := by
      intro location hhome
      refine hedits.outside location fun hplace => ?_
      have hlocation := (List.prefix_append skills.location [staged.verified.dirName]).trans hplace
      exact hfresh.second.not_below hsite hlocation hhome
    exact ⟨(hsame _ (List.prefix_refl _)).trans hholds.dir,
      (hsame _ (List.prefix_append _ _)).trans hholds.file⟩
  obtain ⟨hedits, hfile⟩ := (triple_replaceInstalled_file (hsite₂.slot staged.verified) hsource
    (by decide)).ok (Edits.refl _ _) hreplace
  have hsite₃ : InstallSite skills temp d₁.tree := hsite₂.edits hedits
  have hchange := (keeps_drop hsite₃.temp_dir hfresh.second.valid).ok (Outside.refl _ _) hdrop
  have hsite₄ := hsite₃.outside (hfresh.second.apart hsite) hchange
  have hchange' := (keeps_drop hsite₄.temp_dir hfresh.first.valid).ok (Outside.refl _ _) hdrop'
  have hbelow := List.prefix_append skills.location [staged.verified.dirName, "manifest.json"]
  rw [hsite₄.node?_below (hfresh.first.apart hsite) hchange' hbelow,
    hsite₃.node?_below (hfresh.second.apart hsite) hchange hbelow]
  exact hfile

omit [Externals] in
/-- A directory that holds the manifest of a skill ends the search for it, and for no other one. -/
theorem HoldsSkill.verdict {t : FileTree Bytes} (hdir : t.node? skills.location = some .dir)
    {name skillId : String} (hvalid : ValidName name) (hslash : '/' ∉ name.toList)
    (h : HoldsSkill skills t name skillId) :
    ∃ manifest, ∀ other, verdict? skills.installsDir other t name =
      if skillId = other then some (.ok (manifest, skills.installsDir ++ [name])) else none := by
  obtain ⟨bytes, manifest, hnode, htext, hparse, rfl⟩ := h
  have hpath : join skills.installsDir name = skills.installsDir ++ [name] := join_name hslash _
  have hmanifestPath : bundleManifestPath (skills.installsDir ++ [name]) =
      skills.installsDir ++ name :: ["manifest.json"] := by
    rw [bundleManifestPath, join_name (by decide)]
    simp
  have hplace : t.node? (skills.location ++ [name]) = some .dir := by
    rw [show skills.location ++ name :: ["manifest.json"] =
      skills.location ++ [name] ++ ["manifest.json"] by simp] at hnode
    exact FileTree.node?_parent hnode (List.cons_ne_nil _ _)
  have hentry : (t.entryLocation? (skills.installsDir ++ [name])).bind t.node? = some .dir := by
    rw [FileTree.entryLocation_name hdir hvalid]
    show ((t.node? (skills.location ++ [name])).map fun _ => skills.location ++ [name]).bind
      t.node? = some .dir
    rw [hplace]
    exact hplace
  have hresolve := FileTree.resolve_text hdir hnode (by simp)
  have htarget : t.target? (skills.installsDir ++ name :: ["manifest.json"]) =
      some (.file bytes) := by
    unfold FileTree.target?
    rw [hresolve]
    exact hnode
  have hmanifest : manifestAt t (skills.installsDir ++ name :: ["manifest.json"]) =
      .ok manifest := by
    obtain ⟨text, htext⟩ := Option.isSome_iff_exists.mp htext
    unfold manifestAt FileTree.content?
    simp only [htarget, htext, hparse]
  refine ⟨manifest, fun other => ?_⟩
  unfold verdict?
  simp only [hpath, hentry, hmanifestPath, htarget, hmanifest, Node.isDir, Option.isSome_some,
    Bool.not_true, Bool.false_eq_true, if_false]

end

/-! ## Runs of installs that return -/

section

variable [Externals] [SkillExternals] (skills : SkillManager) (trustRoot : RawPath)
  (temp : Location)

/-- What the call of the step stages. -/
def InstallStep.staged (step : InstallStep) : Option Staged :=
  staged? trustRoot temp step.call step.before

/-- The call of the step returns. -/
def InstallStep.Returns (step : InstallStep) : Prop :=
  ∃ info d', skills.perform trustRoot temp step.call step.before = .ok info d'

/-- What was last put into the directory of the name. -/
def latest? (steps : List InstallStep) (name : String) : Option Staged :=
  (steps.filterMap fun step => step.staged trustRoot temp).reverse.find? fun staged =>
    staged.verified.dirName = name

/-- The skill is not in two directories. -/
def InOneDirectory (steps : List InstallStep) (skillId : String) : Prop :=
  ∀ name name' staged staged', latest? trustRoot temp steps name = some staged →
    latest? trustRoot temp steps name' = some staged' → staged.manifest.id = skillId →
      staged'.manifest.id = skillId → name = name'

/-- The names in the directory of installed skills are those that something was put into, and the
directories hold what was put into them last. -/
structure Accounted (steps : List InstallStep) (t : FileTree Bytes) : Prop where
  latest : ∀ name node, t.node? (skills.location ++ [name]) = some node →
    ∃ staged, latest? trustRoot temp steps name = some staged
  holds : ∀ name staged, latest? trustRoot temp steps name = some staged →
    ValidName name ∧ '/' ∉ name.toList ∧ HoldsSkill skills t name staged.manifest.id

variable {skills trustRoot temp}

/-- What was last put into a directory was staged by a step for it. -/
theorem latest?_eq_some {steps : List InstallStep} {name : String} {staged : Staged}
    (h : latest? trustRoot temp steps name = some staged) :
    staged.verified.dirName = name ∧ ∃ step ∈ steps, step.staged trustRoot temp = some staged := by
  have hname := List.find?_some h
  have hmem := List.mem_reverse.mp (List.mem_of_find?_eq_some h)
  exact ⟨of_decide_eq_true hname, List.mem_filterMap.mp hmem⟩

theorem latest?_concat {steps : List InstallStep} {step : InstallStep} {staged : Staged}
    (hstaged : step.staged trustRoot temp = some staged) (name : String) :
    latest? trustRoot temp (steps ++ [step]) name =
      if staged.verified.dirName = name then some staged
      else latest? trustRoot temp steps name := by
  unfold latest?
  rw [List.filterMap_append, List.reverse_append]
  simp only [List.filterMap_cons, List.filterMap_nil, hstaged, List.reverse_singleton,
    List.singleton_append, List.find?_cons]
  by_cases hname : staged.verified.dirName = name <;> simp [hname]

/-- One install accounts for its directory and leaves the others as they are. -/
theorem Accounted.step (hunpack : UnpacksBelow) {steps : List InstallStep} {call : InstallCall}
    {d d' : Disk Bytes} {info : SkillInfo} (hsite : InstallSite skills temp d.tree)
    (hfresh : call.Fresh temp d.tree) (h : Accounted skills trustRoot temp steps d.tree)
    {staged : Staged} (hstaged : staged? trustRoot temp call d = some staged)
    (hplain : staged.Plain (temp ++ [call.name']))
    (hrun : skills.perform trustRoot temp call d = .ok info d') :
    Accounted skills trustRoot temp (steps ++ [⟨call, d⟩]) d'.tree := by
  obtain ⟨hwithin, hholds⟩ := perform_holds hunpack hsite hfresh hstaged hplain hrun
  have hlatest := @latest?_concat _ _ trustRoot temp steps ⟨call, d⟩ staged hstaged
  -- the other directories
  have hsame : ∀ name, ¬ staged.verified.dirName = name → ∀ location,
      skills.location ++ [name] <+: location → d'.tree.node? location = d.tree.node? location := by
    intro name hname location hbelow
    have hlocation := (List.prefix_append skills.location [name]).trans hbelow
    refine hwithin.outside location fun region hregion => ?_
    simp only [InstallCall.regions, List.mem_cons, List.not_mem_nil, or_false] at hregion
    rcases hregion with rfl | rfl | rfl
    · exact hfresh.first.not_below hsite hlocation
    · exact hfresh.second.not_below hsite hlocation
    · exact not_below_other (Ne.symm hname) hbelow
  constructor
  · intro name node hnode
    rw [hlatest]
    by_cases hname : staged.verified.dirName = name
    · exact ⟨staged, if_pos hname⟩
    · rw [hsame name hname _ (List.prefix_refl _)] at hnode
      rw [if_neg hname]
      exact h.latest name node hnode
  · intro name staged' hstaged'
    rw [hlatest] at hstaged'
    by_cases hname : staged.verified.dirName = name
    · rw [if_pos hname] at hstaged'
      cases hstaged'
      rw [← hname]
      exact ⟨staged.verified.validName_dirName, hplain.one_name, hholds⟩
    · rw [if_neg hname] at hstaged'
      obtain ⟨hvalid, hslash, bytes, manifest, hfile, hrest⟩ := h.holds name staged' hstaged'
      refine ⟨hvalid, hslash, bytes, manifest, ?_, hrest⟩
      rw [hsame name hname _ ⟨["manifest.json"], by simp⟩]
      exact hfile

/-- In a run of installs that return, every name is accounted for. -/
theorem InstallRun.accounted (hunpack : UnpacksBelow) {start d : Disk Bytes}
    {steps : List InstallStep} (hrun : InstallRun skills trustRoot temp start steps d)
    (hsite : InstallSite skills temp start.tree)
    (hempty : ∀ name, start.tree.node? (skills.location ++ [name]) = none)
    (hreturns : ∀ step ∈ steps, step.Returns skills trustRoot temp)
    (hplain : ∀ step ∈ steps, ∀ staged, step.staged trustRoot temp = some staged →
      staged.Plain (temp ++ [step.call.name'])) :
    InstallSite skills temp d.tree ∧ Accounted skills trustRoot temp steps d.tree := by
  induction hrun with
  | start =>
      refine ⟨hsite, fun name node hnode => ?_, fun name staged hstaged => by cases hstaged⟩
      rw [hempty name] at hnode
      cases hnode
  | @step steps d call _ hfresh ih =>
      obtain ⟨hbefore, haccounted⟩ := ih (fun step hstep => hreturns step (by simp [hstep]))
        fun step hstep => hplain step (by simp [hstep])
      obtain ⟨info, d', hperform⟩ := hreturns ⟨call, d⟩ (by simp)
      obtain ⟨staged, _, _, hstaged, -⟩ := perform_ok hperform
      have hstagedPlain := hplain ⟨call, d⟩ (by simp) staged hstaged
      have hafter : InstallStep.after ⟨call, d⟩ skills trustRoot temp = d' := by
        unfold InstallStep.after Op.after
        rw [hperform]
      rw [hafter]
      exact ⟨(perform_holds hunpack hbefore hfresh hstaged hstagedPlain hperform).1.site,
        haccounted.step hunpack hbefore hfresh hstaged hstagedPlain hperform⟩

/-- After installs that return, what runs as a skill does not depend on the order in which the
directory is listed just when that skill is not in two directories. -/
theorem installs_sameInEveryOrder_iff (hunpack : UnpacksBelow) {start d : Disk Bytes}
    {steps : List InstallStep} (hrun : InstallRun skills trustRoot temp start steps d)
    (hsite : InstallSite skills temp start.tree)
    (hempty : ∀ name, start.tree.node? (skills.location ++ [name]) = none)
    (hreturns : ∀ step ∈ steps, step.Returns skills trustRoot temp)
    (hplain : ∀ step ∈ steps, ∀ staged, step.staged trustRoot temp = some staged →
      staged.Plain (temp ++ [step.call.name']))
    (packDir : FileTree Bytes → RawPath → Option Bytes) (skillId : String) :
    skills.SameInEveryOrder packDir d.tree skillId ↔
      InOneDirectory trustRoot temp steps skillId := by
  obtain ⟨hend, haccounted⟩ := hrun.accounted hunpack hsite hempty hreturns hplain
  obtain ⟨names, hnames⟩ := FileTree.exists_names? hend.installs_dir
  have hverdict : ∀ name staged, latest? trustRoot temp steps name = some staged →
      ∃ manifest, ∀ other, verdict? skills.installsDir other d.tree name =
        if staged.manifest.id = other then some (.ok (manifest, skills.installsDir ++ [name]))
        else none := by
    intro name staged hstaged
    obtain ⟨hvalid, hslash, hholds⟩ := haccounted.holds name staged hstaged
    exact hholds.verdict hend.installs_dir hvalid hslash
  constructor
  · intro hsame name name' staged staged' hstaged hstaged' hid hid'
    obtain ⟨manifest, hfirst⟩ := hverdict name staged hstaged
    obtain ⟨manifest', hsecond⟩ := hverdict name' staged' hstaged'
    have hlisted : ∀ name staged, latest? trustRoot temp steps name = some staged →
        name ∈ names := by
      intro name staged hstaged
      obtain ⟨-, -, bytes, _, hfile, -⟩ := haccounted.holds name staged hstaged
      rw [List.append_cons] at hfile
      exact (FileTree.mem_names?_iff hend.installs_dir hnames).mpr
        ⟨_, FileTree.node?_parent hfile (List.cons_ne_nil _ _)⟩
    -- both end the search for the skill, each with its own directory
    have halike := SkillManager.sameInEveryOrder_iff.mp hsame names hnames
      name (hlisted name staged hstaged) name' (hlisted name' staged' hstaged') _ _
      ((hfirst _).trans (if_pos hid)) ((hsecond _).trans (if_pos hid'))
    have hpath := (Prod.mk.inj (Except.ok.inj halike)).2
    exact List.singleton_inj.mp (List.append_cancel_left hpath)
  · intro hone
    refine SkillManager.sameInEveryOrder_iff.mpr ?_
    intro names hnames name hname name' hname' verdict verdict' hends hends'
    have hskill : ∀ name ∈ names, ∀ verdict,
        verdict? skills.installsDir skillId d.tree name = some verdict →
          ∃ staged, latest? trustRoot temp steps name = some staged ∧
            staged.manifest.id = skillId := by
      intro name hname verdict hends
      obtain ⟨node, hnode⟩ := (FileTree.mem_names?_iff hend.installs_dir hnames).mp hname
      obtain ⟨staged, hstaged⟩ := haccounted.latest name node hnode
      obtain ⟨manifest, hfirst⟩ := hverdict name staged hstaged
      rw [hfirst] at hends
      split at hends
      · exact ⟨staged, hstaged, ‹_›⟩
      · cases hends
    obtain ⟨staged, hstaged, hid⟩ := hskill name hname verdict hends
    obtain ⟨staged', hstaged', hid'⟩ := hskill name' hname' verdict' hends'
    obtain rfl := hone name name' staged staged' hstaged hstaged' hid hid'
    rw [hends'] at hends
    exact (Option.some.inj hends).symm

end

/-! ### Two skills, and two versions of one of them -/

def secondCall : InstallCall := installCall "secondVersion" false "t3" "t4"

/-- The skill `a` is installed, and then both versions of `s`. -/
def threeSteps : List InstallStep :=
  [⟨dashedVersionCall, sourcesDisk⟩, ⟨firstCall, installed dashedVersionCall sourcesDisk⟩,
    ⟨secondCall, twoSkillsDisk⟩]

/-- The disk with the three directories. -/
def threeDisk : Disk Bytes := installed secondCall twoSkillsDisk

/-- The version of `s` that is found in an order. -/
def versionIn (order : List String → List String) : Except String String :=
  (outcome (@SkillManager.installedManifest bundleExternals (listedBy (fun _ _ => none) order)
    localSkills "s" (plainDisk threeDisk.tree 0))).map fun found => found.1.version

theorem threeSteps_facts :
    secondCall.Fresh ["tmp"] twoSkillsDisk.tree ∧
      threeSteps.all (fun step => (outcome (@SkillManager.perform referenceExternals
        bundleExternals localSkills ["", "root.json"] ["tmp"] step.call step.before)).toBool) ∧
      threeSteps.all (fun step =>
        (@InstallStep.staged referenceExternals bundleExternals ["", "root.json"] ["tmp"] step).all
          fun staged =>
            staged.verified = staged.manifest ∧
              staged.manifest ∈
                [dashedVersion.manifest, firstVersion.manifest, secondVersion.manifest] ∧
              staged.disk.tree.entries.all (fun entry => !entry.2.isLink) ∧
              (staged.disk.tree.content? (unpackedPath (["tmp"] ++ [step.call.name']) ++
                ["manifest.json"])).all fun bytes => (fromUtf8 bytes).isSome) ∧
      ["s-1", "s-2"].map (fun name =>
        (@latest? referenceExternals bundleExternals ["", "root.json"] ["tmp"] threeSteps name).map
          fun staged => staged.manifest.id) = [some "s", some "s"] ∧
      versionIn id = .ok "1" ∧ versionIn List.reverse = .ok "2" := by
  decide +kernel

theorem sourcesTree_empty (name : String) :
    sourcesTree.node? (localSkills.location ++ [name]) = none := by
  have hentries : ∀ entry ∈ sourcesTree.entries, entry.1.dropLast ≠ localSkills.location := by
    decide +kernel
  cases hnode : sourcesTree.node? (localSkills.location ++ [name]) with
  | none => rfl
  | some node =>
      exact absurd List.dropLast_concat (hentries _ (FileTree.mem_of_node? (by simp) hnode))

theorem three_run :
    @InstallRun referenceExternals bundleExternals localSkills ["", "root.json"] ["tmp"]
      sourcesDisk threeSteps threeDisk :=
  @InstallRun.step referenceExternals bundleExternals _ _ _ _ _ _ secondCall
    (@InstallRun.step referenceExternals bundleExternals _ _ _ _ _ _ firstCall
      dashedVersion_run twoSkillSteps_verified.1) threeSteps_facts.1

theorem threeSteps_return :
    ∀ step ∈ threeSteps, @InstallStep.Returns referenceExternals bundleExternals localSkills
      ["", "root.json"] ["tmp"] step := by
  intro step hstep
  have hreturns := List.all_eq_true.mp threeSteps_facts.2.1 step hstep
  cases hrun : @SkillManager.perform referenceExternals bundleExternals localSkills
      ["", "root.json"] ["tmp"] step.call step.before with
  | ok info d' => exact ⟨info, d', hrun⟩
  | error message d' =>
      rw [hrun] at hreturns
      cases hreturns

theorem installs_sameInEveryOrder_fails :
    (∀ name, sourcesTree.node? (localSkills.location ++ [name]) = none) ∧
      @InstallRun referenceExternals bundleExternals localSkills ["", "root.json"] ["tmp"]
        sourcesDisk threeSteps threeDisk ∧
      (∀ step ∈ threeSteps, @InstallStep.Returns referenceExternals bundleExternals localSkills
        ["", "root.json"] ["tmp"] step) ∧
      ¬ @SkillManager.SameInEveryOrder bundleExternals (fun _ _ => none) localSkills
        threeDisk.tree "s" := by
  refine ⟨sourcesTree_empty, three_run, threeSteps_return, fun hsame => ?_⟩
  obtain ⟨-, -, -, -, hfirst, hsecond⟩ := threeSteps_facts
  have hfound := (hsame id List.reverse (fun names => List.Perm.refl names) List.reverse_perm 0).1
  unfold versionIn at hfirst hsecond
  rw [hfound, hsecond] at hfirst
  simp at hfirst

/-- The order matters for `s`, and not for `a`. -/
theorem installs_sameInEveryOrder_three :
    @SkillManager.SameInEveryOrder bundleExternals (fun _ _ => none) localSkills
        threeDisk.tree "a" ∧
      ¬ @SkillManager.SameInEveryOrder bundleExternals (fun _ _ => none) localSkills
        threeDisk.tree "s" := by
  obtain ⟨-, -, hstaged, hlatest, -⟩ := threeSteps_facts
  have hfacts : ∀ step ∈ threeSteps, ∀ staged,
      @InstallStep.staged referenceExternals bundleExternals ["", "root.json"] ["tmp"] step =
        some staged → _ := fun step hstep staged hsome => by
    have hall := List.all_eq_true.mp hstaged step hstep
    rw [hsome, Option.all_some] at hall
    exact of_decide_eq_true hall
  have hiff := @installs_sameInEveryOrder_iff referenceExternals bundleExternals localSkills
    ["", "root.json"] ["tmp"] (unpacksBelow_signed _) _ _ _ three_run sourcesTree_site
    sourcesTree_empty threeSteps_return (fun step hstep staged hsome => by
      obtain ⟨hverified, hmanifest, hlinks, htext⟩ := hfacts step hstep staged hsome
      refine Staged.Plain.of_entries ?_ hlinks htext
      have hall : ∀ manifest ∈
          [dashedVersion.manifest, firstVersion.manifest, secondVersion.manifest],
          manifest.OneName := by decide
      exact hverified ▸ hall _ hmanifest) (fun _ _ => none)
  constructor
  · refine (hiff "a").mpr ?_
    have hname : ∀ name staged, @latest? referenceExternals bundleExternals ["", "root.json"]
        ["tmp"] threeSteps name = some staged → staged.manifest.id = "a" → name = "a-b-c" := by
      intro name staged hnamed hid
      obtain ⟨hdir, step, hstep, hsome⟩ :=
        @latest?_eq_some referenceExternals bundleExternals _ _ _ _ _ hnamed
      obtain ⟨hverified, hmanifest, -, -⟩ := hfacts step hstep staged hsome
      have hall : ∀ manifest ∈
          [dashedVersion.manifest, firstVersion.manifest, secondVersion.manifest],
          manifest.id = "a" → manifest.dirName = "a-b-c" := by decide
      rw [← hdir, hverified]
      exact hall _ hmanifest hid
    intro name name' staged staged' hnamed hnamed' hid hid'
    exact (hname name staged hnamed hid).trans (hname name' staged' hnamed' hid').symm
  · intro hsame
    simp only [List.map_cons, List.map_nil, List.cons.injEq, Option.map_eq_some_iff] at hlatest
    obtain ⟨⟨staged, hnamed, hid⟩, ⟨staged', hnamed', hid'⟩, -⟩ := hlatest
    have hone := (hiff "s").mp hsame "s-1" "s-2" staged staged' hnamed hnamed' hid hid'
    exact absurd hone (by decide)

end OpenPinch
