import OpenPinch.Common.Copies

/-!
# Signed content

The checks of a bundle look at the files that its manifest lists, and at nothing
else.  So the unpacked directory holds what the signed manifest lists, and only
that, when the bundle covers itself: each of its files is where a path of the
manifest leads, and the paths, the entrypoint and the links lead to such files
(`verifySkillBundle_signedContent_iff`).

Where they lead is read off the bundle.  A directory is laid out with its links
followed, so that only an archive brings links of its own.
-/

namespace OpenPinch

open Lib.FileSystem
open Lib.FileSystem.Disk (Triple)
open Lib.FileSystem.FileTree (Edits Outside)

section

variable [Externals] [SkillExternals]

/-! ## Signed content -/

/-- The two files of a bundle that the manifest does not list. -/
def metadataFiles : List Location := [["manifest.json"], ["manifest.sig.json"]]

/-- A path of the manifest leads to the location. -/
def ListedAt (t : FileTree Bytes) (home : Location) (manifest : SkillManifest)
    (location : Location) : Prop :=
  ∃ file ∈ manifest.files,
    t.resolve (join (unpackedPath home) file.path) = .found location

/-- The unpacked directory holds what the signed manifest lists and nothing else. -/
structure SignedContent (t : FileTree Bytes) (rootPath : RawPath) (home : Location)
    (manifest : SkillManifest) : Prop where
  manifest_signed : ManifestSigned t rootPath home manifest
  /-- Every regular file is listed. -/
  files_listed : ∀ relative content, relative ≠ [] →
    t.node? (home ++ relative) = some (.file content) → relative ∉ metadataFiles →
    ListedAt t home manifest (home ++ relative)
  /-- Every listed path leads to a regular file of the directory with the listed digest. -/
  listed_files : ∀ file ∈ manifest.files, ∃ relative content,
    t.resolve (join (unpackedPath home) file.path) = .found (home ++ relative) ∧
      t.node? (home ++ relative) = some (.file content) ∧ relative ∉ metadataFiles ∧
      lowerHex (Externals.sha256 content).bytes = file.sha256
  entrypoint_listed : ∃ location,
    t.resolve (join (unpackedPath home) manifest.entrypoint) = .found location ∧
      ListedAt t home manifest location
  /-- Every file that a copy of the directory reads is listed. -/
  copied_listed : ∀ entry ∈ t.below home, entry.2.isDir = false → entry.1 ∉ metadataFiles →
    ∀ location content, t.resolve (unpackedPath home ++ entry.1) = .found location →
      t.node? location = some (.file content) → ListedAt t home manifest location

/-! ## How a bundle is laid out -/

/-- Where the nodes of the bundle are when it is unpacked.  A directory is copied with its links
followed, and an archive is what its crate makes of it. -/
def bundleShape (t : FileTree Bytes) (path : RawPath) (home : Location) : Shape :=
  match t.mkdir (unpackedPath home) with
  | none => t.shape
  | some t' =>
      match t'.resolve path with
      | .found source =>
          match t'.node? source with
          | some .dir => t'.laidOut source home
          | some (.file bytes) =>
              (SkillExternals.unpackArchive bytes (unpackedPath home) t').1.shape
          | _ => t'.shape
      | _ => t'.shape

/-- The path leads to a file of the bundle that its manifest can list. -/
def LeadsInside (shape : Shape) (home : Location) (path : RawPath) : Prop :=
  ∃ relative, relative ≠ [] ∧ relative ∉ metadataFiles ∧
    resolveOver shape path = .found (home ++ relative) ∧
      shape (home ++ relative) = some (.file ())

/-- The manifest covers the bundle. -/
structure SkillManifest.Covers (manifest : SkillManifest) (shape : Shape) (home : Location) :
    Prop where
  /-- Every file is where one of the paths leads. -/
  files_named : ∀ relative, relative ≠ [] → relative ∉ metadataFiles →
    shape (home ++ relative) = some (.file ()) → ∃ file ∈ manifest.files,
      resolveOver shape (join (unpackedPath home) file.path) = .found (home ++ relative)
  paths_inside : ∀ file ∈ manifest.files,
    LeadsInside shape home (join (unpackedPath home) file.path)
  entrypoint_inside : LeadsInside shape home (join (unpackedPath home) manifest.entrypoint)
  /-- A link of an archive leads to such a file, when it leads to a file. -/
  links_inside : ∀ relative absolute target location, relative ≠ [] → relative ∉ metadataFiles →
    shape (home ++ relative) = some (.link absolute target) →
    resolveOver shape (unpackedPath home ++ relative) = .found location →
    shape location = some (.file ()) → LeadsInside shape home (unpackedPath home ++ relative)

variable {path rootPath : RawPath} {temp : Location} {name : String} {manifest : SkillManifest}

omit [Externals] in
/-- A bundle is unpacked as it is laid out. -/
theorem shape_unpackBundle {t₁ : FileTree Bytes} (hnew : NewDirectory t₁ temp name)
    {d d' : Disk Bytes} (hd : d.tree = t₁)
    (hrun : unpackBundle path (temp ++ [name]) d = .ok () d') :
    ∃ source, t₁.resolve path = .found source ∧
      (t₁.node? source = some .dir ∧ d'.tree.shape = t₁.laidOut source (temp ++ [name]) ∨
        ∃ bytes, t₁.node? source = some (.file bytes) ∧ d'.tree =
          (SkillExternals.unpackArchive bytes (unpackedPath (temp ++ [name])) t₁).1) := by
  obtain ⟨there, d₁, hisDir, hrun⟩ := Disk.bind_eq_ok.mp hrun
  obtain ⟨htree, hanswer⟩ :=
    (Disk.triple_isDir_answer (I := fun t => t = t₁) (E := fun _ => True) path).ok hd hisDir
  cases there with
  | true =>
      obtain ⟨source, hresolve, hsource⟩ := FileTree.target?_isDir_iff.mp (htree ▸ hanswer rfl)
      refine ⟨source, hresolve, Or.inl ?_⟩
      have hlaid := copyDirectory_laidOut hnew.slot (by rw [hnew.normal]; exact hnew.dir)
        (by rw [hnew.normal]; exact hnew.empty) hresolve hsource htree hrun
      rw [hnew.normal] at hlaid
      exact ⟨hsource, hlaid⟩
  | false =>
      obtain ⟨bytes, d₂, hread, hrun⟩ := Disk.bind_eq_ok.mp hrun
      obtain ⟨hread, hcontent⟩ := Disk.read_ok hread
      rw [htree] at hread hcontent
      obtain ⟨source, hresolve, hnode⟩ := FileTree.content?_eq_some_iff.mp hcontent
      refine ⟨source, hresolve, Or.inr ⟨bytes, hnode, ?_⟩⟩
      obtain ⟨tree, d₃, hget, hrun⟩ := Disk.bind_eq_ok.mp hrun
      cases hget
      rw [hread] at hrun
      cases hunpacked : SkillExternals.unpackArchive bytes (unpackedPath (temp ++ [name])) t₁ with
      | mk unpacked success =>
          rw [hunpacked] at hrun
          obtain ⟨_, d₄, hset, hrun⟩ := Disk.bind_eq_ok.mp hrun
          cases hset
          cases success with
          | false => cases hrun
          | true =>
              cases hrun
              rfl

/-- The directory of a bundle that verifies is as the bundle is laid out. -/
theorem verifySkillBundle_shape {d d' : Disk Bytes} (hfresh : FreshName d.tree temp name)
    (h : verifySkillBundle path rootPath (temp ++ [name]) d = .ok manifest d') :
    bundleShape d.tree path (temp ++ [name]) = d'.tree.shape := by
  obtain ⟨made, d₁, hmkdir, h⟩ := Disk.bind_eq_ok.mp h
  have hmade := (Disk.triple_mkdir (I := fun t => t = d.tree) (E := fun _ => True) _).ok rfl hmkdir
  cases made with
  | false =>
      obtain ⟨_, _, hfail, _⟩ := Disk.bind_eq_ok.mp h
      cases hfail
  | true =>
      rw [if_pos rfl] at hmade
      obtain ⟨_, rfl, hmade⟩ := hmade
      obtain ⟨_, d₂, hunpack, hcheck⟩ := Disk.bind_eq_ok.mp (withTempDir_ok h)
      obtain ⟨htree, -⟩ := checkUnpacked_ok hcheck
      obtain ⟨source, hresolve, hlaid⟩ :=
        shape_unpackBundle (hfresh.made hmade).1 rfl hunpack
      unfold bundleShape
      rw [hmade, htree]
      simp only [hresolve]
      rcases hlaid with ⟨hsource, hlaid⟩ | ⟨bytes, hsource, hlaid⟩
      · rw [hsource]
        exact hlaid.symm
      · rw [hsource, hlaid]

/-! ## When the content is signed -/

section

variable {t : FileTree Bytes}

omit [Externals] [SkillExternals] in
/-- Where something is read in a directory, there is no file. -/
theorem not_file_of_content (htemp : t.node? temp = some .dir) (hname : ValidName name)
    {file : String} {bytes content : Bytes}
    (hread : t.content? (unpackedPath (temp ++ [name]) ++ [file]) = some bytes) :
    t.node? (temp ++ [name]) ≠ some (.file content) := by
  intro hnode
  obtain ⟨location, hresolve, -⟩ := FileTree.content?_eq_some_iff.mp hread
  have hpath : unpackedPath (temp ++ [name]) ++ [file] = unpackedPath temp ++ [name, file] := by
    simp [unpackedPath]
  rw [hpath, resolve_behind htemp, FileTree.walk, if_neg (by simp [hname.1, hname.2.1]),
    if_neg hname.2.2, hnode] at hresolve
  simp at hresolve

theorem leadsInside_of_listed {home : Location} (signed : SignedContent t rootPath home manifest)
    (hhome : ∀ content, t.node? home ≠ some (.file content)) {file : ManifestFile}
    (hfile : file ∈ manifest.files) {path : RawPath}
    (hsame : t.resolve path = t.resolve (join (unpackedPath home) file.path)) :
    LeadsInside t.shape home path := by
  obtain ⟨relative, content, hfound, hnode, hplain, -⟩ := signed.listed_files file hfile
  refine ⟨relative, ?_, hplain, ?_, FileTree.shape_eq_file_iff.mpr ⟨content, hnode⟩⟩
  · rintro rfl
    rw [List.append_nil] at hnode
    exact hhome content hnode
  · rw [← FileTree.resolve_eq_resolveOver, hsame, hfound]

theorem SignedContent.covers {home : Location} (signed : SignedContent t rootPath home manifest)
    (hhome : ∀ content, t.node? home ≠ some (.file content)) : manifest.Covers t.shape home where
  files_named relative hrelative hplain hshape := by
    obtain ⟨content, hnode⟩ := FileTree.shape_eq_file_iff.mp hshape
    obtain ⟨file, hfile, hfound⟩ := signed.files_listed relative content hrelative hnode hplain
    exact ⟨file, hfile, FileTree.resolve_eq_resolveOver t _ ▸ hfound⟩
  paths_inside file hfile := leadsInside_of_listed signed hhome hfile rfl
  entrypoint_inside := by
    obtain ⟨location, hentrypoint, file, hfile, hfound⟩ := signed.entrypoint_listed
    exact leadsInside_of_listed signed hhome hfile (hentrypoint.trans hfound.symm)
  links_inside relative absolute target location hrelative hplain hlink hleads hshape := by
    obtain ⟨content, hnode⟩ := FileTree.shape_eq_file_iff.mp hshape
    rw [← FileTree.resolve_eq_resolveOver] at hleads
    obtain ⟨file, hfile, hfound⟩ := signed.copied_listed (relative, .link absolute target)
      (FileTree.mem_below hrelative (FileTree.shape_eq_link_iff.mp hlink)) rfl hplain location
      content hleads hnode
    exact leadsInside_of_listed signed hhome hfile (hleads.trans hfound.symm)

omit [Externals] [SkillExternals] in
/-- What leads to a file that the manifest can list leads to a listed one. -/
theorem SkillManifest.Covers.listedAt {home : Location} (covers : manifest.Covers t.shape home)
    {path : RawPath} (hinside : LeadsInside t.shape home path) {location : Location}
    (hleads : t.resolve path = .found location) : ListedAt t home manifest location := by
  obtain ⟨relative, hrelative, hplain, hfound, hshape⟩ := hinside
  rw [← FileTree.resolve_eq_resolveOver, hleads] at hfound
  obtain rfl := FileTree.Resolution.found.inj hfound
  obtain ⟨file, hfile, hfound⟩ := covers.files_named relative hrelative hplain hshape
  exact ⟨file, hfile, (FileTree.resolve_eq_resolveOver t _).trans hfound⟩

theorem SkillManifest.Covers.signedContent {home : Location}
    (covers : manifest.Covers t.shape home) (hsigned : ManifestSigned t rootPath home manifest)
    (hmatches : ∀ file ∈ manifest.files, DigestMatches t (unpackedPath home) file) :
    SignedContent t rootPath home manifest where
  manifest_signed := hsigned
  files_listed relative content hrelative hnode hplain := by
    obtain ⟨file, hfile, hfound⟩ := covers.files_named relative hrelative hplain
      (FileTree.shape_eq_file_iff.mpr ⟨content, hnode⟩)
    exact ⟨file, hfile, (FileTree.resolve_eq_resolveOver t _).trans hfound⟩
  listed_files file hfile := by
    obtain ⟨content, hcontent, hdigest⟩ := hmatches file hfile
    obtain ⟨location, hleads, hnode⟩ := FileTree.content?_eq_some_iff.mp hcontent
    obtain ⟨relative, -, hplain, hfound, -⟩ := covers.paths_inside file hfile
    rw [← FileTree.resolve_eq_resolveOver, hleads] at hfound
    obtain rfl := FileTree.Resolution.found.inj hfound
    exact ⟨relative, content, hleads, hnode, hplain, hdigest⟩
  entrypoint_listed := by
    obtain ⟨relative, -, -, hfound, -⟩ := covers.entrypoint_inside
    rw [← FileTree.resolve_eq_resolveOver] at hfound
    exact ⟨_, hfound, covers.listedAt covers.entrypoint_inside hfound⟩
  copied_listed entry hentry hplain hother location content hleads hnode := by
    obtain ⟨hrelative, hentryNode⟩ := FileTree.node?_of_mem_below hentry
    have hhome := FileTree.node?_parent hentryNode hrelative
    obtain ⟨relative, node⟩ := entry
    cases node with
    | dir => cases hplain
    | file content' =>
        -- a file leads to itself
        rw [resolve_unpacked hhome hentryNode (by intro absolute target heq; cases heq)] at hleads
        obtain rfl := FileTree.Resolution.found.inj hleads
        obtain ⟨file, hfile, hfound⟩ := covers.files_named relative hrelative hother
          (FileTree.shape_eq_file_iff.mpr ⟨_, hentryNode⟩)
        exact ⟨file, hfile, (FileTree.resolve_eq_resolveOver t _).trans hfound⟩
    | link absolute target =>
        refine covers.listedAt (covers.links_inside relative absolute target location hrelative
          hother (FileTree.shape_eq_link_iff.mpr hentryNode) ?_
          (FileTree.shape_eq_file_iff.mpr ⟨content, hnode⟩)) hleads
        rw [← FileTree.resolve_eq_resolveOver, hleads]

end

/-- For a bundle that verifies, the unpacked directory holds signed content and nothing else
exactly when the manifest covers the bundle. -/
theorem verifySkillBundle_signedContent_iff (hunpack : UnpacksBelow) {d d' : Disk Bytes}
    (hfresh : FreshName d.tree temp name)
    (h : verifySkillBundle path rootPath (temp ++ [name]) d = .ok manifest d') :
    SignedContent d'.tree rootPath (temp ++ [name]) manifest ↔
      manifest.Covers (bundleShape d.tree path (temp ++ [name])) (temp ++ [name]) := by
  obtain ⟨hsigned, hmatches⟩ := verifySkillBundle_checked h
  rw [verifySkillBundle_shape hfresh h]
  constructor
  · intro signed
    obtain ⟨bytes, _, _, hread, _⟩ := hsigned
    have hchange : Outside [temp ++ [name]] d.tree d'.tree :=
      (triple_verifySkillBundle hunpack hfresh path rootPath).ok rfl h
    have htemp : d'.tree.node? temp = some .dir := by
      rw [hchange temp fun region hregion hprefix => ?_]
      · exact hfresh.temp_dir
      · have hlength := hprefix.length_le
        rw [List.mem_singleton.mp hregion, List.length_append, List.length_singleton] at hlength
        omega
    exact signed.covers fun content => not_file_of_content htemp hfresh.valid hread
  · exact fun covers => covers.signedContent hsigned hmatches

end

/-! ### A bundle that lists its files, and one that does not -/

/-- A manifest, its text, the signature of the text, and the document with it. -/
structure SignedBundle where
  manifest : SkillManifest
  text : String
  signature : String
  signatureBytes : Bytes
  signatureText : String

def bareKey : String := "11qYAYKxCrfVS/7TyWQHOg7hcvPapiMlrwIaaPcHURo="

def bareKeyBytes : Bytes :=
  [215, 90, 152, 1, 130, 177, 10, 183, 213, 75, 254, 211, 201, 100, 7, 58, 14, 225, 114, 243, 218,
    166, 35, 37, 175, 2, 26, 104, 247, 7, 81, 26]

def bareTrustRootText : String :=
  "\x7b\"version\":\"1\",\"keys\":[\x7b\"key_id\":\"k\",\"public_key\":\"" ++ bareKey ++
    "\"\x7d]\x7d"

/-- The other crates on the documents of some bundles. -/
@[reducible] def signedExternals (bundles : List SignedBundle) : SkillExternals where
  manifestFromSlice bytes :=
    (bundles.find? fun bundle => asBytes bundle.text == bytes).map SignedBundle.manifest
  signatureFromSlice bytes :=
    (bundles.find? fun bundle => asBytes bundle.signatureText == bytes).map fun bundle =>
      ⟨"k", bundle.signature⟩
  trustRootFromSlice bytes :=
    if bytes = asBytes bareTrustRootText then some ⟨"1", [⟨"k", bareKey⟩]⟩ else none
  validKey key := key.bytes = bareKeyBytes
  verifySignature key payload signature :=
    key.bytes = bareKeyBytes ∧ bundles.any fun bundle =>
      bundle.signatureBytes == signature.bytes && asBytes bundle.text == payload
  unpackArchive _ _ t := (t, false)

theorem unpacksBelow_signed (bundles : List SignedBundle) :
    @UnpacksBelow (signedExternals bundles) :=
  fun _ _ _ _ => Outside.refl _ _

/-! The signatures are genuine ones of the key `bareKey`. -/

/-- A manifest that lists nothing. -/
def bareBundle : SignedBundle where
  manifest := ⟨"s", "1", "s", "", "sh", "run.sh", []⟩
  text := "\x7b\"id\":\"s\",\"version\":\"1\",\"name\":\"s\",\"description\":\"\",\"language\":\"sh\",\"entrypoint\":\"run.sh\",\"files\":[]\x7d"
  signature := "xHYoHcR2jAHa+3pEIRH+dZy6aXqW1PecUL/8ywS0I7f746V9NIm/ytqFl84nVcypIl5VE+8hx08BfJfUYIoHAg=="
  signatureBytes :=
    [196, 118, 40, 29, 196, 118, 140, 1, 218, 251, 122, 68, 33, 17, 254, 117, 156, 186, 105, 122,
      150, 212, 247, 156, 80, 191, 252, 203, 4, 180, 35, 183, 251, 227, 165, 125, 52, 137, 191, 202,
      218, 133, 151, 206, 39, 85, 204, 169, 34, 94, 85, 19, 239, 33, 199, 79, 1, 124, 151, 212, 96,
      138, 7, 2]
  signatureText := "\x7b\"key_id\":\"k\",\"signature\":\"xHYoHcR2jAHa+3pEIRH+dZy6aXqW1PecUL/8ywS0I7f746V9NIm/ytqFl84nVcypIl5VE+8hx08BfJfUYIoHAg==\"\x7d"

/-- A manifest that lists two files. -/
def listedBundle : SignedBundle where
  manifest := ⟨"t", "1", "t", "", "sh", "./run.sh",
    [⟨"run.sh", "e7ac0786668e0ff0f02b62bd04f45ff636fd82db63b1104601c975dc005f3a67"⟩,
      ⟨"lib/help.sh", "e7ac0786668e0ff0f02b62bd04f45ff636fd82db63b1104601c975dc005f3a67"⟩]⟩
  text := "\x7b\"id\":\"t\",\"version\":\"1\",\"name\":\"t\",\"description\":\"\",\"language\":\"sh\",\"entrypoint\":\"./run.sh\",\"files\":[\x7b\"path\":\"run.sh\",\"sha256\":\"e7ac0786668e0ff0f02b62bd04f45ff636fd82db63b1104601c975dc005f3a67\"\x7d,\x7b\"path\":\"lib/help.sh\",\"sha256\":\"e7ac0786668e0ff0f02b62bd04f45ff636fd82db63b1104601c975dc005f3a67\"\x7d]\x7d"
  signature := "JsiDsjl6OkkQ8LpC7Fqn109xsXe1UoDW9jty9f+18vlD7eX2EL/2qejtONHfpHypa+HVYdCLJapZJ7AhcwriCw=="
  signatureBytes :=
    [38, 200, 131, 178, 57, 122, 58, 73, 16, 240, 186, 66, 236, 90, 167, 215, 79, 113, 177, 119,
      181, 82, 128, 214, 246, 59, 114, 245, 255, 181, 242, 249, 67, 237, 229, 246, 16, 191, 246,
      169, 232, 237, 56, 209, 223, 164, 124, 169, 107, 225, 213, 97, 208, 139, 37, 170, 89, 39, 176,
      33, 115, 10, 226, 11]
  signatureText := "\x7b\"key_id\":\"k\",\"signature\":\"JsiDsjl6OkkQ8LpC7Fqn109xsXe1UoDW9jty9f+18vlD7eX2EL/2qejtONHfpHypa+HVYdCLJapZJ7AhcwriCw==\"\x7d"

@[reducible] def listedExternals : SkillExternals := signedExternals [bareBundle, listedBundle]

/-- A directory `b` with the signed manifest, a file, and a link to a file elsewhere. -/
def bundleDisk (bundle : SignedBundle) : Disk Bytes where
  tree := ((do
    let t ← FileTree.empty.insert [] "b" .dir
    let t ← t.insert ["b"] "manifest.json" (.file (asBytes bundle.text))
    let t ← t.insert ["b"] "manifest.sig.json" (.file (asBytes bundle.signatureText))
    let t ← t.insert ["b"] "run.sh" (.file [0x3a])
    let t ← t.insert ["b"] "lib" .dir
    let t ← t.insert ["b", "lib"] "help.sh" (.link true ["shared.sh"])
    let t ← t.insert [] "shared.sh" (.file [0x3a])
    let t ← t.insert [] "root.json" (.file (asBytes bareTrustRootText))
    t.insert [] "tmp" .dir : Option (FileTree Bytes))).getD FileTree.empty
  failsAt := fun _ => false
  step := 0

/-- The verification of the directory. -/
def verifiedBundle (bundle : SignedBundle) : EStateM.Result String (Disk Bytes) SkillManifest :=
  @verifySkillBundle referenceExternals listedExternals ["", "b"] ["", "root.json"] ["tmp", "u"]
    (bundleDisk bundle)

/-- The manifest that a verification returns, with the node it leaves at a location. -/
def verifiedWith (location : Location) :
    EStateM.Result String (Disk Bytes) SkillManifest → Option (SkillManifest × Option (Node Bytes))
  | .ok manifest d => some (manifest, d.tree.node? location)
  | .error _ _ => none

theorem verifiedWith_eq_some {location : Location}
    {r : EStateM.Result String (Disk Bytes) SkillManifest} {manifest : SkillManifest}
    {node : Option (Node Bytes)} (h : verifiedWith location r = some (manifest, node)) :
    ∃ d, r = .ok manifest d ∧ d.tree.node? location = node := by
  cases r with
  | ok found d =>
      obtain ⟨rfl, hnode⟩ := Prod.mk.inj (Option.some.inj h)
      exact ⟨d, rfl, hnode⟩
  | error message d => cases h

theorem verifySkillBundle_unlistedEntrypoint :
    ∃ d, verifiedBundle bareBundle = .ok bareBundle.manifest d ∧
      d.tree.node? ["tmp", "u", "run.sh"] = some (.file [0x3a]) ∧
      ¬ @SignedContent referenceExternals listedExternals d.tree ["", "root.json"] ["tmp", "u"]
        bareBundle.manifest := by
  obtain ⟨d, hverified, hfile⟩ := verifiedWith_eq_some (by decide +kernel :
    verifiedWith ["tmp", "u", "run.sh"] (verifiedBundle bareBundle) =
      some (bareBundle.manifest, some (.file [0x3a])))
  refine ⟨d, hverified, hfile, fun signed => ?_⟩
  have hlisted := @SignedContent.files_listed referenceExternals listedExternals _ _ _ _ signed
  obtain ⟨file, hlisted, _⟩ := hlisted ["run.sh"] [0x3a] (by decide) hfile (by decide)
  cases hlisted

/-- The tree with the new directory. -/
def listedTree : FileTree Bytes :=
  ((bundleDisk listedBundle).tree.mkdir (unpackedPath ["tmp", "u"])).getD FileTree.empty

theorem listedTree_shape :
    @bundleShape listedExternals (bundleDisk listedBundle).tree ["", "b"] ["tmp", "u"] =
      listedTree.laidOut ["b"] ["tmp", "u"] := by
  have hmkdir : (bundleDisk listedBundle).tree.mkdir (unpackedPath ["tmp", "u"]) =
      some listedTree := by
    have hmade : ((bundleDisk listedBundle).tree.mkdir (unpackedPath ["tmp", "u"])).isSome := by
      decide +kernel
    obtain ⟨t, ht⟩ := Option.isSome_iff_exists.mp hmade
    rw [listedTree, ht, Option.getD_some]
  have hresolve : listedTree.resolve ["", "b"] = .found ["b"] := by decide +kernel
  have hdir : listedTree.node? ["b"] = some .dir := by decide +kernel
  unfold bundleShape
  simp only [hmkdir, hresolve, hdir]

theorem listedBundle_covers : listedBundle.manifest.Covers
    (@bundleShape listedExternals (bundleDisk listedBundle).tree ["", "b"] ["tmp", "u"])
    ["tmp", "u"] := by
  have hentries : ∀ entry ∈ listedTree.below ["b"], entry.1 ∉ metadataFiles →
      entry.2.copied = .file () → ∃ file ∈ listedBundle.manifest.files,
        resolveOver (listedTree.laidOut ["b"] ["tmp", "u"])
          (join (unpackedPath ["tmp", "u"]) file.path) = .found (["tmp", "u"] ++ entry.1) := by
    decide +kernel
  have hpaths : ∀ path ∈ "./run.sh" :: listedBundle.manifest.files.map ManifestFile.path,
      ∃ relative ∈ [["run.sh"], ["lib", "help.sh"]], relative ≠ [] ∧ relative ∉ metadataFiles ∧
        resolveOver (listedTree.laidOut ["b"] ["tmp", "u"])
          (join (unpackedPath ["tmp", "u"]) path) = .found (["tmp", "u"] ++ relative) ∧
        listedTree.laidOut ["b"] ["tmp", "u"] (["tmp", "u"] ++ relative) = some (.file ()) := by
    decide +kernel
  rw [listedTree_shape]
  refine ⟨fun relative hrelative hplain hshape => ?_, fun file hfile => ?_, ?_, ?_⟩
  · rw [FileTree.laidOut_below, Option.map_eq_some_iff] at hshape
    obtain ⟨node, hnode, hcopied⟩ := hshape
    exact hentries (relative, node) (FileTree.mem_below hrelative hnode) hplain hcopied
  · obtain ⟨relative, -, hleads⟩ := hpaths file.path
      (List.mem_cons_of_mem _ (List.mem_map_of_mem hfile))
    exact ⟨relative, hleads⟩
  · obtain ⟨relative, -, hleads⟩ := hpaths "./run.sh" List.mem_cons_self
    exact ⟨relative, hleads⟩
  · intro relative absolute target location _ _ hlink
    rw [FileTree.laidOut_below, Option.map_eq_some_iff] at hlink
    obtain ⟨node, -, hcopied⟩ := hlink
    cases node <;> cases hcopied

theorem verifySkillBundle_signedContent_iff_listed :
    ∃ d, verifiedBundle listedBundle = .ok listedBundle.manifest d ∧
      @SignedContent referenceExternals listedExternals d.tree ["", "root.json"] ["tmp", "u"]
        listedBundle.manifest := by
  obtain ⟨d, hverified, -⟩ := verifiedWith_eq_some (by decide +kernel :
    verifiedWith ["tmp", "u", "lib", "help.sh"] (verifiedBundle listedBundle) =
      some (listedBundle.manifest, some (.file [0x3a])))
  refine ⟨d, hverified, ?_⟩
  exact (@verifySkillBundle_signedContent_iff referenceExternals listedExternals _ _ ["tmp"] "u" _
    (unpacksBelow_signed _) _ _ (by decide +kernel) hverified).mpr listedBundle_covers

end OpenPinch
