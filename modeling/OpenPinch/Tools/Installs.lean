import OpenPinch.Common.SignedContent
import OpenPinch.Tools.SkillManager

/-!
# Installing skills

A skill is installed in the directory `{id}-{version}` of the installed skills.
The text is one name when it holds no slash, and then an install changes that
directory, the directories of the two verifications, and nothing else.  Two
skills share a directory when their texts agree, as those of `a` `b-c` and of
`a-b` `c` do.  `installs_apart` is about runs in which neither happens.
-/

namespace OpenPinch

open Lib (Op)
open Lib.FileSystem
open Lib.FileSystem.Disk (Keeps Triple)
open Lib.FileSystem.FileTree (Edits LinkFree Outside Slot)

/-! ## The directory of a skill -/

/-- The text that names the directory of a skill. -/
def SkillManifest.dirName (manifest : SkillManifest) : String :=
  s!"{manifest.id}-{manifest.version}"

/-- The text is one name. -/
def SkillManifest.OneName (manifest : SkillManifest) : Prop := '/' ∉ manifest.dirName.toList

instance (manifest : SkillManifest) : Decidable manifest.OneName :=
  inferInstanceAs (Decidable ('/' ∉ manifest.dirName.toList))

theorem splitSlash_of_not_mem {text : List Char} (h : '/' ∉ text) : splitSlash text = [text] := by
  induction text with
  | nil => rfl
  | cons c rest ih =>
      have hne : c ≠ '/' := fun heq => h (heq ▸ List.mem_cons_self)
      rw [splitSlash, if_neg hne, ih fun hmem => h (List.mem_cons_of_mem c hmem)]

theorem join_name {text : String} (h : '/' ∉ text.toList) (base : RawPath) :
    join base text = base ++ [text] := by
  have hfirst : text.toList.head? ≠ some '/' := fun hhead => h (List.mem_of_mem_head? hhead)
  rw [join, if_neg hfirst, components, splitSlash_of_not_mem h]
  simp

namespace SkillManifest

variable {manifest : SkillManifest}

theorem dash_mem_dirName (manifest : SkillManifest) : '-' ∈ manifest.dirName.toList := by
  have hsplit : manifest.dirName.toList =
      manifest.id.toList ++ ("-".toList ++ manifest.version.toList) := by
    show (manifest.id ++ "-" ++ manifest.version).toList = _
    simp
  rw [hsplit]
  exact List.mem_append_right _ (List.mem_append_left _ List.mem_cons_self)

theorem validName_dirName (manifest : SkillManifest) : ValidName manifest.dirName := by
  have hdash := manifest.dash_mem_dirName
  refine ⟨fun heq => ?_, fun heq => ?_, fun heq => ?_⟩
  · rw [heq] at hdash
    revert hdash
    decide
  · rw [heq] at hdash
    revert hdash
    decide
  · rw [heq] at hdash
    revert hdash
    decide

theorem installedSkillDir_eq (h : manifest.OneName) (skills : SkillManager) :
    skills.installedSkillDir manifest.id manifest.version =
      skills.installsDir ++ [manifest.dirName] :=
  join_name h skills.installsDir

end SkillManifest

/-- Where the installed skills are. -/
def SkillManager.location (skills : SkillManager) : Location := normalize skills.installsDir

/-- Where a skill is installed. -/
def SkillManager.place (skills : SkillManager) (manifest : SkillManifest) : Location :=
  skills.location ++ [manifest.dirName]

/-! ## The machine -/

/-- The directory of the installed skills is there, with no links on the way to it or in it.
The directory of temporary files lies elsewhere. -/
structure InstallSite (skills : SkillManager) (temp : Location) (t : FileTree Bytes) : Prop where
  installs_dir : t.node? skills.location = some .dir
  link_free : t.LinkFree skills.location
  temp_dir : t.node? temp = some .dir
  temp_apart : ¬ skills.location <+: temp

section

variable {skills : SkillManager} {temp : Location} {name : String} {t t' : FileTree Bytes}

/-- A directory that is new among the temporary files is apart from the installed skills. -/
theorem FreshName.apart (hfresh : FreshName t temp name) (hsite : InstallSite skills temp t) :
    ¬ temp ++ [name] <+: skills.location := by
  rintro ⟨rest, hrest⟩
  have hnone := @FileTree.node?_none_below _ t _ rest hfresh.free
  rw [hrest, hsite.installs_dir] at hnone
  cases hnone

namespace InstallSite

theorem not_prefix_home (hsite : InstallSite skills temp t)
    (hhome : ¬ temp ++ [name] <+: skills.location) : ¬ skills.location <+: temp ++ [name] := by
  intro hprefix
  rcases List.prefix_concat_iff.mp hprefix with heq | hprefix
  · exact hhome (heq ▸ List.prefix_refl _)
  · exact hsite.temp_apart hprefix

/-- Changes to a temporary directory leave the installed skills alone. -/
theorem node?_below (hsite : InstallSite skills temp t)
    (hhome : ¬ temp ++ [name] <+: skills.location) (h : Outside [temp ++ [name]] t t')
    {location : Location} (hbelow : skills.location <+: location) :
    t'.node? location = t.node? location :=
  h.apart hhome (hsite.not_prefix_home hhome) hbelow

theorem outside (hsite : InstallSite skills temp t)
    (hhome : ¬ temp ++ [name] <+: skills.location) (h : Outside [temp ++ [name]] t t') :
    InstallSite skills temp t' where
  installs_dir := by
    rw [hsite.node?_below hhome h (List.prefix_refl _)]
    exact hsite.installs_dir
  link_free := fun location hbelow absolute target => by
    rw [hsite.node?_below hhome h hbelow]
    exact hsite.link_free location hbelow absolute target
  temp_dir := by
    rw [h temp fun region hregion hprefix => ?_]
    · exact hsite.temp_dir
    · have hlength := hprefix.length_le
      rw [List.mem_singleton.mp hregion, List.length_append, List.length_singleton] at hlength
      omega
  temp_apart := hsite.temp_apart

/-- The directory of a skill can be replaced. -/
theorem slot (hsite : InstallSite skills temp t) (manifest : SkillManifest) :
    t.Slot skills.installsDir manifest.dirName where
  dir := hsite.installs_dir
  valid := manifest.validName_dirName
  free := fun location hbelow => hsite.link_free location ((List.prefix_append _ _).trans hbelow)

theorem edits (hsite : InstallSite skills temp t) {manifest : SkillManifest}
    (h : Edits (skills.place manifest) t t') : InstallSite skills temp t' where
  installs_dir := ((hsite.slot manifest).edits h).dir
  link_free := h.linkFree hsite.link_free
  temp_dir := by
    rw [h.outside temp fun hprefix => hsite.temp_apart ((List.prefix_append _ _).trans hprefix)]
    exact hsite.temp_dir
  temp_apart := hsite.temp_apart

end InstallSite

/-- What is below the installed skills is not below a new directory among the temporary files. -/
theorem FreshName.not_below (hfresh : FreshName t temp name)
    (hsite : InstallSite skills temp t)
    {location : Location} (hlocation : skills.location <+: location) :
    ¬ temp ++ [name] <+: location := by
  intro hprefix
  rcases List.prefix_or_prefix_of_prefix hprefix hlocation with hprefix | hprefix
  · exact hfresh.apart hsite hprefix
  · exact hsite.not_prefix_home (hfresh.apart hsite) hprefix

/-- Another new name stays new. -/
theorem FreshName.outside {name' : String} (hfresh : FreshName t temp name')
    (hne : name ≠ name') (h : Outside [temp ++ [name]] t t') (hdir : t'.node? temp = some .dir) :
    FreshName t' temp name' where
  temp_dir := hdir
  valid := hfresh.valid
  free := by
    rw [h _ fun region hregion hprefix => ?_]
    · exact hfresh.free
    · rw [List.mem_singleton.mp hregion] at hprefix
      have heq := hprefix.eq_of_length (by simp)
      exact hne (List.singleton_inj.mp (List.append_cancel_left heq))

/-- The machine is in order, and the trees differ in the regions only. -/
structure Within (skills : SkillManager) (temp : Location) (regions : List Location)
    (t₀ t : FileTree Bytes) : Prop where
  site : InstallSite skills temp t
  outside : Outside regions t₀ t

variable {regions : List Location} {t₀ : FileTree Bytes}

theorem Within.home (h : Within skills temp regions t₀ t) (hmem : temp ++ [name] ∈ regions)
    (hhome : ¬ temp ++ [name] <+: skills.location) (hchange : Outside [temp ++ [name]] t t') :
    Within skills temp regions t₀ t' :=
  ⟨h.site.outside hhome hchange, h.outside.trans (hchange.mono (by simpa using hmem))⟩

theorem keeps_drop_within (hvalid : ValidName name)
    (hhome : ¬ temp ++ [name] <+: skills.location) (hmem : temp ++ [name] ∈ regions) :
    Keeps (Within skills temp regions t₀) (dropTempDir (temp ++ [name])) := by
  refine Triple.start fun t h => ?_
  refine (keeps_drop h.site.temp_dir hvalid).mono ?_ (fun _ _ => h.home hmem hhome)
    fun _ => h.home hmem hhome
  rintro _ rfl
  exact Outside.refl _ _

variable [Externals] [SkillExternals]

theorem triple_verify_within (hunpack : UnpacksBelow) (hmem : temp ++ [name] ∈ regions)
    (source trustRoot : RawPath) :
    Triple (fun t => Within skills temp regions t₀ t ∧ FreshName t temp name)
      (verifySkillBundle source trustRoot (temp ++ [name]))
      (fun _ => Within skills temp regions t₀) (Within skills temp regions t₀) := by
  refine Triple.start fun t ⟨h, hfresh⟩ => ?_
  have hhome := hfresh.apart h.site
  exact (triple_verifySkillBundle hunpack hfresh source trustRoot).mono (fun _ => id)
    (fun _ _ => h.home hmem hhome) fun _ => h.home hmem hhome

omit [Externals] [SkillExternals] in
theorem keeps_replace_within {manifest : SkillManifest} (hname : manifest.OneName)
    (hmem : skills.place manifest ∈ regions) (home : Location) :
    Keeps (Within skills temp regions t₀)
      (replaceInstalled (skills.installedSkillDir manifest.id manifest.version) home) := by
  rw [manifest.installedSkillDir_eq hname skills]
  refine Triple.start fun t h => ?_
  have hedits : ∀ t', Edits (skills.place manifest) t t' → Within skills temp regions t₀ t' :=
    fun t' hedits => ⟨h.site.edits hedits, h.outside.trans (hedits.toOutside.mono (by simpa))⟩
  refine (keeps_replaceInstalled (h.site.slot manifest) home).mono ?_ (fun _ => hedits) hedits
  rintro _ rfl
  exact Edits.refl _ _

/-- A verified bundle changes the second temporary directory and the directory of its skill. -/
theorem triple_installOver (hunpack : UnpacksBelow) {manifest : SkillManifest}
    (hname : manifest.OneName) (hhome : ¬ temp ++ [name] <+: skills.location)
    (hvalid : ValidName name) (hmem : temp ++ [name] ∈ regions)
    (hplace : skills.place manifest ∈ regions) (trustRoot source : RawPath) (force : Bool) :
    Triple (fun t => Within skills temp regions t₀ t ∧ FreshName t temp name)
      (skills.installOver trustRoot source force manifest (temp ++ [name]))
      (fun _ => Within skills temp regions t₀) (Within skills temp regions t₀) := by
  refine Triple.bind (Disk.triple_pathExists _) fun there => ?_
  refine Triple.ite (fun _ => Triple.fail_bind fun _ h => h.1) fun _ => ?_
  refine Triple.bind (triple_verify_within hunpack hmem source trustRoot) fun _ => ?_
  have hdrop : Keeps (Within skills temp regions t₀) (dropTempDir (temp ++ [name])) :=
    keeps_drop_within hvalid hhome hmem
  refine Triple.bind (triple_withTempDir (keeps_replace_within hname hplace _) hdrop) fun _ => ?_
  exact Triple.bind hdrop fun _ => Triple.pure fun _ => id

end

/-! ## Runs of installs -/

/-- A call of `SkillManager::install`, with the names of its two temporary directories. -/
structure InstallCall where
  source : RawPath
  force : Bool
  name : String
  name' : String
deriving DecidableEq, Repr

section

variable [Externals] [SkillExternals] (skills : SkillManager) (trustRoot : RawPath)
  (temp : Location)

/-- The call on a machine with a directory of temporary files. -/
def SkillManager.perform (call : InstallCall) : SkillM SkillInfo :=
  skills.install trustRoot call.source call.force (temp ++ [call.name]) (temp ++ [call.name'])

/-- The manifest of the bundle, when it verifies. -/
def verified? (call : InstallCall) (d : Disk Bytes) : Option SkillManifest :=
  match verifySkillBundle call.source trustRoot (temp ++ [call.name]) d with
  | .ok manifest _ => some manifest
  | .error _ _ => none

/-- What the verifications of a call find, and the disk behind them. -/
structure Staged where
  /-- The manifest that names the directory. -/
  verified : SkillManifest
  /-- The manifest that is copied. -/
  manifest : SkillManifest
  disk : Disk Bytes

/-- The verifications of a call.  In between, it looks for the destination. -/
def staged? (call : InstallCall) (d : Disk Bytes) : Option Staged :=
  match verifySkillBundle call.source trustRoot (temp ++ [call.name]) d with
  | .error _ _ => none
  | .ok verified d₁ =>
      match verifySkillBundle call.source trustRoot (temp ++ [call.name'])
          { d₁ with step := d₁.step + 1 } with
      | .error _ _ => none
      | .ok manifest d₂ => some ⟨verified, manifest, d₂⟩

/-- The names of the temporary directories are new. -/
structure InstallCall.Fresh (call : InstallCall) (t : FileTree Bytes) : Prop where
  first : FreshName t temp call.name
  second : FreshName t temp call.name'
  different : call.name ≠ call.name'

instance (call : InstallCall) (t : FileTree Bytes) : Decidable (call.Fresh temp t) :=
  decidable_of_iff (FreshName t temp call.name ∧ FreshName t temp call.name' ∧
      call.name ≠ call.name')
    ⟨fun h => ⟨h.1, h.2.1, h.2.2⟩, fun h => ⟨h.first, h.second, h.different⟩⟩

variable {skills trustRoot temp}

/-- What a call changes. -/
def InstallCall.regions (call : InstallCall) (skills : SkillManager) (temp : Location)
    (manifest : SkillManifest) : List Location :=
  [temp ++ [call.name], temp ++ [call.name'], skills.place manifest]

/-- A bundle that does not verify changes the first temporary directory. -/
theorem perform_unverified (hunpack : UnpacksBelow) {call : InstallCall} {d : Disk Bytes}
    (hsite : InstallSite skills temp d.tree) (hfresh : call.Fresh temp d.tree)
    (hverified : verified? trustRoot temp call d = none) :
    Within skills temp [temp ++ [call.name]] d.tree
      (Op.after (skills.perform trustRoot temp call) d).tree := by
  have hverify : Triple
      (fun t => Within skills temp [temp ++ [call.name]] d.tree t ∧ FreshName t temp call.name)
      (verifySkillBundle call.source trustRoot (temp ++ [call.name]))
      (fun _ => Within skills temp [temp ++ [call.name]] d.tree)
      (Within skills temp [temp ++ [call.name]] d.tree) :=
    triple_verify_within hunpack (List.mem_singleton_self _) call.source trustRoot
  unfold SkillManager.perform SkillManager.install
  rw [Op.after_bind]
  cases hrun : verifySkillBundle call.source trustRoot (temp ++ [call.name]) d with
  | ok manifest d' =>
      rw [verified?, hrun] at hverified
      cases hverified
  | error message d' => exact hverify.error ⟨⟨hsite, Outside.refl _ _⟩, hfresh.first⟩ hrun

/-- A verified bundle changes the temporary directories and the directory of its skill. -/
theorem perform_verified (hunpack : UnpacksBelow) {call : InstallCall} {d : Disk Bytes}
    (hsite : InstallSite skills temp d.tree) (hfresh : call.Fresh temp d.tree)
    {manifest : SkillManifest} (hverified : verified? trustRoot temp call d = some manifest)
    (hname : manifest.OneName) :
    Within skills temp (call.regions skills temp manifest) d.tree
      (Op.after (skills.perform trustRoot temp call) d).tree := by
  have hhome := hfresh.first.apart hsite
  have hhome' := hfresh.second.apart hsite
  have hmem : temp ++ [call.name] ∈ call.regions skills temp manifest := by
    simp [InstallCall.regions]
  have hmem' : temp ++ [call.name'] ∈ call.regions skills temp manifest := by
    simp [InstallCall.regions]
  have hplace : skills.place manifest ∈ call.regions skills temp manifest := by
    simp [InstallCall.regions]
  unfold SkillManager.perform SkillManager.install
  rw [Op.after_bind]
  cases hrun : verifySkillBundle call.source trustRoot (temp ++ [call.name]) d with
  | error message d' =>
      rw [verified?, hrun] at hverified
      cases hverified
  | ok verified d₁ =>
      rw [verified?, hrun] at hverified
      cases hverified
      have hchange := (triple_verifySkillBundle hunpack hfresh.first _ _).ok rfl hrun
      have hwithin : Within skills temp (call.regions skills temp manifest) d.tree d₁.tree :=
        Within.home ⟨hsite, Outside.refl _ _⟩ hmem hhome hchange
      have hfresh₁ := hfresh.second.outside hfresh.different hchange hwithin.site.temp_dir
      have hdrop : Keeps (Within skills temp (call.regions skills temp manifest) d.tree)
          (dropTempDir (temp ++ [call.name])) :=
        keeps_drop_within hfresh.first.valid hhome hmem
      have hinner := @triple_installOver skills temp call.name' _ d.tree _ _ hunpack manifest hname
        hhome' hfresh.second.valid hmem' hplace trustRoot call.source call.force
      have hover := triple_withTempDir hinner hdrop
      refine Triple.after (Triple.bind hover fun _ => ?_) ⟨hwithin, hfresh₁⟩
      exact Triple.bind hdrop fun _ => Triple.pure fun _ => id

/-- A call of a run, and the disk it starts from. -/
structure InstallStep where
  call : InstallCall
  before : Disk Bytes

namespace InstallStep

/-- The manifest of the bundle, when it verifies. -/
def verified (step : InstallStep) (trustRoot : RawPath) (temp : Location) :
    Option SkillManifest :=
  verified? trustRoot temp step.call step.before

/-- What the call leaves. -/
def after (step : InstallStep) (skills : SkillManager) (trustRoot : RawPath) (temp : Location) :
    Disk Bytes :=
  Op.after (skills.perform trustRoot temp step.call) step.before

end InstallStep

/-- A run of installs, each of which returns or fails. -/
inductive InstallRun (skills : SkillManager) (trustRoot : RawPath) (temp : Location)
    (start : Disk Bytes) : List InstallStep → Disk Bytes → Prop where
  | start : InstallRun skills trustRoot temp start [] start
  | step {steps : List InstallStep} {d : Disk Bytes} (call : InstallCall) :
      InstallRun skills trustRoot temp start steps d → call.Fresh temp d.tree →
      InstallRun skills trustRoot temp start (steps ++ [⟨call, d⟩])
        (InstallStep.after ⟨call, d⟩ skills trustRoot temp)

/-- The manifests of a run name directories of their own. -/
structure OwnNames (trustRoot : RawPath) (temp : Location) (steps : List InstallStep) : Prop where
  one_name : ∀ step ∈ steps, ∀ manifest, step.verified trustRoot temp = some manifest →
    manifest.OneName
  different : ∀ step ∈ steps, ∀ step' ∈ steps, ∀ manifest manifest',
    step.verified trustRoot temp = some manifest →
    step'.verified trustRoot temp = some manifest' → manifest.dirName = manifest'.dirName →
      manifest.id = manifest'.id ∧ manifest.version = manifest'.version

theorem OwnNames.of_manifests {trustRoot : RawPath} {temp : Location} {steps : List InstallStep}
    {manifests : List SkillManifest}
    (hverified : steps.map (fun step => step.verified trustRoot temp) = manifests.map some)
    (hone : ∀ manifest ∈ manifests, manifest.OneName)
    (hdifferent : ∀ manifest ∈ manifests, ∀ manifest' ∈ manifests,
      manifest.dirName = manifest'.dirName →
        manifest.id = manifest'.id ∧ manifest.version = manifest'.version) :
    OwnNames trustRoot temp steps := by
  have hmem : ∀ step ∈ steps, ∀ manifest, step.verified trustRoot temp = some manifest →
      manifest ∈ manifests := by
    intro step hstep manifest hmanifest
    have himage := List.mem_map_of_mem (f := fun step => step.verified trustRoot temp) hstep
    rw [hverified, hmanifest] at himage
    simpa using himage
  constructor
  · intro step hstep manifest hmanifest
    exact hone manifest (hmem step hstep manifest hmanifest)
  · intro step hstep step' hstep' manifest manifest' hmanifest hmanifest'
    exact hdifferent manifest (hmem step hstep manifest hmanifest) manifest'
      (hmem step' hstep' manifest' hmanifest')

/-- A step touches its own directories, and no directory of another skill. -/
structure InstallStep.Apart (step : InstallStep) (skills : SkillManager) (trustRoot : RawPath)
    (temp : Location) (steps : List InstallStep) : Prop where
  unverified : step.verified trustRoot temp = none →
    Outside [temp ++ [step.call.name]] step.before.tree (step.after skills trustRoot temp).tree
  verified : ∀ manifest, step.verified trustRoot temp = some manifest →
    Outside (step.call.regions skills temp manifest) step.before.tree
      (step.after skills trustRoot temp).tree
  others : ∀ manifest, step.verified trustRoot temp = some manifest → ∀ step' ∈ steps,
    ∀ manifest', step'.verified trustRoot temp = some manifest' →
      (manifest'.id, manifest'.version) ≠ (manifest.id, manifest.version) →
        skills.place manifest' ≠ skills.place manifest ∧
          ∀ location, skills.place manifest' <+: location →
            (step.after skills trustRoot temp).tree.node? location =
              step.before.tree.node? location

/-- Before each call of a run the machine is in order. -/
theorem InstallRun.sites (hunpack : UnpacksBelow) {start d : Disk Bytes}
    {steps : List InstallStep} (hrun : InstallRun skills trustRoot temp start steps d)
    (hsite : InstallSite skills temp start.tree)
    (hname : ∀ step ∈ steps, ∀ manifest, step.verified trustRoot temp = some manifest →
      manifest.OneName) :
    InstallSite skills temp d.tree ∧ ∀ step ∈ steps,
      InstallSite skills temp step.before.tree ∧ step.call.Fresh temp step.before.tree := by
  induction hrun with
  | start => exact ⟨hsite, fun step hstep => absurd hstep List.not_mem_nil⟩
  | @step steps d call _ hfresh ih =>
      obtain ⟨hbefore, hall⟩ := ih fun step hstep => hname step (List.mem_append_left _ hstep)
      constructor
      · cases hverified : verified? trustRoot temp call d with
        | none => exact (perform_unverified hunpack hbefore hfresh hverified).site
        | some manifest =>
            exact (perform_verified hunpack hbefore hfresh hverified
              (hname ⟨call, d⟩ (by simp) manifest hverified)).site
      · intro step hstep
        rcases List.mem_append.mp hstep with hstep | hstep
        · exact hall step hstep
        · rw [List.mem_singleton.mp hstep]
          exact ⟨hbefore, hfresh⟩

omit [Externals] [SkillExternals] in
/-- A location below one of two directories is not below the other. -/
theorem not_below_other {manifest : SkillManifest} {name : String} {location : Location}
    (hne : name ≠ manifest.dirName) (hbelow : skills.location ++ [name] <+: location) :
    ¬ skills.place manifest <+: location := by
  intro hbelow'
  have hprefix := List.prefix_of_prefix_length_le hbelow hbelow' (by simp [SkillManager.place])
  have heq := hprefix.eq_of_length (by simp [SkillManager.place])
  exact hne (List.singleton_inj.mp (List.append_cancel_left heq))

/-- In a run whose manifests name directories of their own, every call touches its
temporary directories and the directory of its skill only, and no other skill. -/
theorem installs_apart (hunpack : UnpacksBelow) {start d : Disk Bytes} {steps : List InstallStep}
    (hrun : InstallRun skills trustRoot temp start steps d)
    (hsite : InstallSite skills temp start.tree) (hnames : OwnNames trustRoot temp steps) :
    ∀ step ∈ steps, step.Apart skills trustRoot temp steps := by
  intro step hstep
  obtain ⟨hbefore, hfresh⟩ := (hrun.sites hunpack hsite hnames.one_name).2 step hstep
  have hverified : ∀ manifest, step.verified trustRoot temp = some manifest →
      Outside (step.call.regions skills temp manifest) step.before.tree
        (step.after skills trustRoot temp).tree := fun manifest hmanifest =>
    (perform_verified hunpack hbefore hfresh hmanifest
      (hnames.one_name step hstep manifest hmanifest)).outside
  refine ⟨fun hnone => (perform_unverified hunpack hbefore hfresh hnone).outside, hverified, ?_⟩
  intro manifest hmanifest step' hstep' manifest' hmanifest' hother
  have hne : manifest'.dirName ≠ manifest.dirName := by
    intro heq
    obtain ⟨hid, hversion⟩ := hnames.different step' hstep' step hstep manifest' manifest
      hmanifest' hmanifest heq
    exact hother (by rw [hid, hversion])
  refine ⟨fun heq => ?_, fun location hbelow => hverified manifest hmanifest location ?_⟩
  · exact hne (List.singleton_inj.mp (List.append_cancel_left heq))
  · have hlocation := (List.prefix_append skills.location [manifest'.dirName]).trans hbelow
    simp only [InstallCall.regions, List.mem_cons, List.not_mem_nil, or_false]
    rintro region (rfl | rfl | rfl)
    · exact hfresh.first.not_below hbefore hlocation
    · exact hfresh.second.not_below hbefore hlocation
    · exact not_below_other hne hbelow

end

/-! ### Two skills with one directory -/

/-- A tree with a directory for each bundle, one for temporary files and one for the installed
skills. -/
def bundleTree (bundles : List (String × SignedBundle)) : FileTree Bytes :=
  ((do
    let t ← FileTree.empty.insert [] "root.json" (.file (asBytes bareTrustRootText))
    let t ← t.insert [] "tmp" .dir
    let t ← t.insert [] "i" .dir
    bundles.foldlM (fun t entry => do
      let t ← t.insert [] entry.1 .dir
      let t ← t.insert [entry.1] "manifest.json" (.file (asBytes entry.2.text))
      t.insert [entry.1] "manifest.sig.json" (.file (asBytes entry.2.signatureText))) t :
        Option (FileTree Bytes))).getD FileTree.empty

/-! The signatures are genuine ones of the key `bareKey`. -/

def dashedVersion : SignedBundle where
  manifest := ⟨"a", "b-c", "a", "", "sh", "run.sh", []⟩
  text := "\x7b\"id\":\"a\",\"version\":\"b-c\",\"name\":\"a\",\"description\":\"\",\"language\":\"sh\",\"entrypoint\":\"run.sh\",\"files\":[]\x7d"
  signature := "dj8OoOO8eyLUEytxlA5qir65d++grymsq7xpW2a3G8csa5A4zDPjGVR19NwWf/R1woKG978bxMtQ/CAQWM46CA=="
  signatureBytes :=
    [118, 63, 14, 160, 227, 188, 123, 34, 212, 19, 43, 113, 148, 14, 106, 138, 190, 185, 119, 239,
      160, 175, 41, 172, 171, 188, 105, 91, 102, 183, 27, 199, 44, 107, 144, 56, 204, 51, 227, 25,
      84, 117, 244, 220, 22, 127, 244, 117, 194, 130, 134, 247, 191, 27, 196, 203, 80, 252, 32, 16,
      88, 206, 58, 8]
  signatureText := "\x7b\"key_id\":\"k\",\"signature\":\"dj8OoOO8eyLUEytxlA5qir65d++grymsq7xpW2a3G8csa5A4zDPjGVR19NwWf/R1woKG978bxMtQ/CAQWM46CA==\"\x7d"

def dashedId : SignedBundle where
  manifest := ⟨"a-b", "c", "a-b", "", "sh", "run.sh", []⟩
  text := "\x7b\"id\":\"a-b\",\"version\":\"c\",\"name\":\"a-b\",\"description\":\"\",\"language\":\"sh\",\"entrypoint\":\"run.sh\",\"files\":[]\x7d"
  signature := "03Ygpr0XLye9Vooh6RXkeSP4gj4rVWfpl1Q5g5NrXYigPkaJJMdVk4LC+PSk8l3htvfXLFD+VZGBmZ/C8z/+Dg=="
  signatureBytes :=
    [211, 118, 32, 166, 189, 23, 47, 39, 189, 86, 138, 33, 233, 21, 228, 121, 35, 248, 130, 62, 43,
      85, 103, 233, 151, 84, 57, 131, 147, 107, 93, 136, 160, 62, 70, 137, 36, 199, 85, 147, 130,
      194, 248, 244, 164, 242, 93, 225, 182, 247, 215, 44, 80, 254, 85, 145, 129, 153, 159, 194,
      243, 63, 254, 14]
  signatureText := "\x7b\"key_id\":\"k\",\"signature\":\"03Ygpr0XLye9Vooh6RXkeSP4gj4rVWfpl1Q5g5NrXYigPkaJJMdVk4LC+PSk8l3htvfXLFD+VZGBmZ/C8z/+Dg==\"\x7d"

def firstVersion : SignedBundle where
  manifest := ⟨"s", "1", "s", "", "sh", "run.sh", []⟩
  text := "\x7b\"id\":\"s\",\"version\":\"1\",\"name\":\"s\",\"description\":\"\",\"language\":\"sh\",\"entrypoint\":\"run.sh\",\"files\":[]\x7d"
  signature := "xHYoHcR2jAHa+3pEIRH+dZy6aXqW1PecUL/8ywS0I7f746V9NIm/ytqFl84nVcypIl5VE+8hx08BfJfUYIoHAg=="
  signatureBytes :=
    [196, 118, 40, 29, 196, 118, 140, 1, 218, 251, 122, 68, 33, 17, 254, 117, 156, 186, 105, 122,
      150, 212, 247, 156, 80, 191, 252, 203, 4, 180, 35, 183, 251, 227, 165, 125, 52, 137, 191, 202,
      218, 133, 151, 206, 39, 85, 204, 169, 34, 94, 85, 19, 239, 33, 199, 79, 1, 124, 151, 212, 96,
      138, 7, 2]
  signatureText := "\x7b\"key_id\":\"k\",\"signature\":\"xHYoHcR2jAHa+3pEIRH+dZy6aXqW1PecUL/8ywS0I7f746V9NIm/ytqFl84nVcypIl5VE+8hx08BfJfUYIoHAg==\"\x7d"

def secondVersion : SignedBundle where
  manifest := ⟨"s", "2", "s", "", "sh", "run.sh", []⟩
  text := "\x7b\"id\":\"s\",\"version\":\"2\",\"name\":\"s\",\"description\":\"\",\"language\":\"sh\",\"entrypoint\":\"run.sh\",\"files\":[]\x7d"
  signature := "qL+oRwMyK5WoY7QsPUWNFcelB6nihcAK/9P0f9T3aVTUMskiHhIiNzebaCIweDlXkg5o4gzB0cuQm9NPSAjhCA=="
  signatureBytes :=
    [168, 191, 168, 71, 3, 50, 43, 149, 168, 99, 180, 44, 61, 69, 141, 21, 199, 165, 7, 169, 226,
      133, 192, 10, 255, 211, 244, 127, 212, 247, 105, 84, 212, 50, 201, 34, 30, 18, 34, 55, 55,
      155, 104, 34, 48, 120, 57, 87, 146, 14, 104, 226, 12, 193, 209, 203, 144, 155, 211, 79, 72, 8,
      225, 8]
  signatureText := "\x7b\"key_id\":\"k\",\"signature\":\"qL+oRwMyK5WoY7QsPUWNFcelB6nihcAK/9P0f9T3aVTUMskiHhIiNzebaCIweDlXkg5o4gzB0cuQm9NPSAjhCA==\"\x7d"

@[reducible] def bundleExternals : SkillExternals :=
  signedExternals [dashedVersion, dashedId, firstVersion, secondVersion]

/-- A tree with the four bundles. -/
def sourcesTree : FileTree Bytes :=
  bundleTree [("dashedVersion", dashedVersion), ("dashedId", dashedId),
    ("firstVersion", firstVersion), ("secondVersion", secondVersion)]

/-- A disk with the four bundles on which no step is refused. -/
def sourcesDisk : Disk Bytes := ⟨sourcesTree, fun _ => false, 0⟩

/-- The skills of the machine. -/
def localSkills : SkillManager := ⟨["", "i"]⟩

/-- A call for one of the bundles. -/
def installCall (source : String) (force : Bool) (name name' : String) : InstallCall :=
  ⟨["", source], force, name, name'⟩

/-- The disk after a call. -/
def installed (call : InstallCall) (d : Disk Bytes) : Disk Bytes :=
  @InstallStep.after referenceExternals bundleExternals ⟨call, d⟩ localSkills ["", "root.json"]
    ["tmp"]

def dashedVersionCall : InstallCall := installCall "dashedVersion" false "t1" "t2"

def dashedIdCall : InstallCall := installCall "dashedId" true "t3" "t4"

def firstCall : InstallCall := installCall "firstVersion" false "t1" "t2"

/-- The first version of `s` is installed anew. -/
def againCall : InstallCall := installCall "firstVersion" true "t3" "t4"

/-- The skill `a` `b-c` is installed, and then `a-b` `c`. -/
def dashedSteps : List InstallStep :=
  [⟨dashedVersionCall, sourcesDisk⟩,
    ⟨dashedIdCall, installed dashedVersionCall sourcesDisk⟩]

theorem dashedSteps_verified :
    dashedVersionCall.Fresh ["tmp"] sourcesTree ∧
      dashedIdCall.Fresh ["tmp"] (installed dashedVersionCall sourcesDisk).tree ∧
      dashedSteps.map (fun step =>
        @InstallStep.verified referenceExternals bundleExternals step ["", "root.json"] ["tmp"]) =
          [some dashedVersion.manifest, some dashedId.manifest] := by
  decide +kernel

theorem sourcesTree_site : InstallSite localSkills ["tmp"] sourcesTree where
  installs_dir := by decide
  link_free := FileTree.linkFree_of_entries (by decide) _
  temp_dir := by decide
  temp_apart := by decide

/-- A run of one install. -/
theorem dashedVersion_run :
    @InstallRun referenceExternals bundleExternals localSkills ["", "root.json"] ["tmp"]
      sourcesDisk [⟨dashedVersionCall, sourcesDisk⟩]
      (installed dashedVersionCall sourcesDisk) :=
  @InstallRun.step referenceExternals bundleExternals _ _ _ _ _ _ dashedVersionCall
    (@InstallRun.start referenceExternals bundleExternals localSkills ["", "root.json"] ["tmp"]
      sourcesDisk) dashedSteps_verified.1

theorem installs_apart_fails :
    (∃ d, @InstallRun referenceExternals bundleExternals localSkills ["", "root.json"] ["tmp"]
        sourcesDisk dashedSteps d) ∧
      ¬ ∀ step ∈ dashedSteps, @InstallStep.Apart referenceExternals bundleExternals step localSkills
        ["", "root.json"] ["tmp"] dashedSteps := by
  obtain ⟨-, hfresh', hverified⟩ := dashedSteps_verified
  simp only [dashedSteps, List.map_cons, List.map_nil, List.cons.injEq] at hverified
  obtain ⟨hfirst, hsecond, -⟩ := hverified
  constructor
  · exact ⟨_, @InstallRun.step referenceExternals bundleExternals _ _ _ _ _ _ dashedIdCall
      dashedVersion_run hfresh'⟩
  · intro hapart
    have hothers := @InstallStep.Apart.others referenceExternals bundleExternals _ _ _ _ _
      (hapart _ (List.mem_cons_of_mem _ List.mem_cons_self)) dashedId.manifest hsecond _
      List.mem_cons_self dashedVersion.manifest hfirst (by decide)
    exact hothers.1 rfl

/-! ### Two skills with directories of their own -/

/-- The disk with both skills. -/
def twoSkillsDisk : Disk Bytes := installed firstCall (installed dashedVersionCall sourcesDisk)

/-- The skill `a` `b-c` is installed, then `s` `1`, and that one anew. -/
def twoSkillSteps : List InstallStep :=
  [⟨dashedVersionCall, sourcesDisk⟩, ⟨firstCall, installed dashedVersionCall sourcesDisk⟩,
    ⟨againCall, twoSkillsDisk⟩]

theorem twoSkillSteps_verified :
    firstCall.Fresh ["tmp"] (installed dashedVersionCall sourcesDisk).tree ∧
      againCall.Fresh ["tmp"] twoSkillsDisk.tree ∧
      twoSkillSteps.map (fun step =>
        @InstallStep.verified referenceExternals bundleExternals step ["", "root.json"] ["tmp"]) =
          [dashedVersion.manifest, firstVersion.manifest, firstVersion.manifest].map some ∧
      twoSkillsDisk.tree.node? ["i", "a-b-c", "manifest.json"] =
        some (.file (asBytes dashedVersion.text)) := by
  decide +kernel

theorem twoSkills_run :
    @InstallRun referenceExternals bundleExternals localSkills ["", "root.json"] ["tmp"]
      sourcesDisk twoSkillSteps (installed againCall twoSkillsDisk) :=
  @InstallRun.step referenceExternals bundleExternals _ _ _ _ _ _ againCall
    (@InstallRun.step referenceExternals bundleExternals _ _ _ _ _ _ firstCall
      dashedVersion_run twoSkillSteps_verified.1) twoSkillSteps_verified.2.1

/-- The forced install of `s` leaves `a` as it is. -/
theorem installs_apart_twoSkills :
    @InstallStep.Apart referenceExternals bundleExternals ⟨againCall, twoSkillsDisk⟩
        localSkills ["", "root.json"] ["tmp"] twoSkillSteps ∧
      (installed againCall twoSkillsDisk).tree.node? ["i", "a-b-c", "manifest.json"] =
        some (.file (asBytes dashedVersion.text)) := by
  obtain ⟨-, -, hverified, hthere⟩ := twoSkillSteps_verified
  have hnames := @OwnNames.of_manifests referenceExternals bundleExternals _ _ _ _ hverified
    (by decide) (by decide)
  have hapart := @installs_apart referenceExternals bundleExternals _ _ _ (unpacksBelow_signed _)
    _ _ _ twoSkills_run sourcesTree_site hnames ⟨againCall, twoSkillsDisk⟩ (by simp [twoSkillSteps])
  simp only [twoSkillSteps, List.map_cons, List.map_nil, List.cons.injEq] at hverified
  obtain ⟨hfirst, -, hagain, -⟩ := hverified
  refine ⟨hapart, ?_⟩
  have hothers := @InstallStep.Apart.others referenceExternals bundleExternals _ _ _ _ _ hapart
    firstVersion.manifest hagain _ List.mem_cons_self dashedVersion.manifest hfirst (by decide)
  exact (hothers.2 ["i", "a-b-c", "manifest.json"] ⟨["manifest.json"], rfl⟩).trans hthere

end OpenPinch
