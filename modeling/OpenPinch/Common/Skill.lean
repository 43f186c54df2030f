import OpenPinch.Common.Reference
import OpenPinch.Lib.Disk

/-!
# Skill bundles

A bundle is a directory or an archive with a manifest, the signature of the
manifest, and files.  `verifySkillBundle` unpacks it into a fresh directory,
checks the signature of the manifest, and then the digest of every file the
manifest lists.  `installVerifiedBundle` copies the whole directory.

What the checks establish is `verifySkillBundle_checked`.
-/

namespace OpenPinch

open Lib.FileSystem

/-! ## Data -/

/-- `TrustedKey`. -/
structure TrustedKey where
  keyId : String
  publicKey : String
deriving DecidableEq, Repr

/-- `TrustRoot`. -/
structure TrustRoot where
  version : String
  keys : List TrustedKey
deriving DecidableEq, Repr

/-- `SignatureEnvelope`. -/
structure SignatureEnvelope where
  keyId : String
  signature : String
deriving DecidableEq, Repr

/-- `ManifestFile`. -/
structure ManifestFile where
  path : String
  sha256 : String
deriving DecidableEq, Repr

/-- `SkillManifest`. -/
structure SkillManifest where
  id : String
  version : String
  name : String
  description : String
  language : String
  entrypoint : String
  files : List ManifestFile
deriving DecidableEq, Repr

/-- The functions of other crates that read and check a bundle. -/
class SkillExternals where
  /-- `serde_json::from_slice::<SkillManifest>`. -/
  manifestFromSlice : Bytes → Option SkillManifest
  /-- `serde_json::from_slice::<SignatureEnvelope>`. -/
  signatureFromSlice : Bytes → Option SignatureEnvelope
  /-- `serde_json::from_slice::<TrustRoot>`. -/
  trustRootFromSlice : Bytes → Option TrustRoot
  /-- `VerifyingKey::from_bytes` accepts the key. -/
  validKey : FixedBytes 32 → Bool
  /-- `VerifyingKey::verify`. -/
  verifySignature : FixedBytes 32 → Bytes → FixedBytes 64 → Bool
  /-- `Archive::unpack` behind the zstd decoder: the tree it leaves when it
  unpacks the bytes below a path, and whether it succeeded. -/
  unpackArchive : Bytes → RawPath → FileTree Bytes → FileTree Bytes × Bool

section

variable [Externals] [SkillExternals]

/-- The operations on the disk that holds bundles. -/
abbrev SkillM (α : Type) := DiskM Bytes α

/-- `Path::display`. -/
def displayPath (path : RawPath) : String := String.intercalate "/" path

/-! ## The checks -/

/-- `sha256_file`. -/
def sha256File (path : RawPath) : SkillM String := do
  let data ← Disk.read path s!"failed to read {displayPath path}"
  return lowerHex (Externals.sha256 data).bytes

/-- `load_trust_root`. -/
def loadTrustRoot (path : RawPath) : SkillM TrustRoot := do
  let raw ← Disk.read path s!"failed to read {displayPath path}"
  match SkillExternals.trustRootFromSlice raw with
  | some root => return root
  | none => Disk.fail "failed to parse trust root"

/-- `read_signature`. -/
def readSignature (path : RawPath) : SkillM SignatureEnvelope := do
  let raw ← Disk.read path s!"failed to read {displayPath path}"
  match SkillExternals.signatureFromSlice raw with
  | some signature => return signature
  | none => Disk.fail "failed to parse signature envelope"

/-- `verify_bytes`. -/
def verifyBytes (payload : Bytes) (signature : SignatureEnvelope) (root : TrustRoot) :
    Except String Unit := do
  let some key := root.keys.find? fun candidate => candidate.keyId == signature.keyId
    | .error "signature key not trusted"
  let some publicKeyBytes := base64DecodeVec key.publicKey | .error "invalid base64 public key"
  if hkey : publicKeyBytes.length = 32 then
    if SkillExternals.validKey ⟨publicKeyBytes, hkey⟩ then
      let some signatureBytes := base64DecodeVec signature.signature
        | .error "invalid base64 signature"
      if hsignature : signatureBytes.length = 64 then
        if SkillExternals.verifySignature ⟨publicKeyBytes, hkey⟩ payload
            ⟨signatureBytes, hsignature⟩ then
          .ok ()
        else .error "signature verification failed"
      else .error "signature must be 64 bytes"
    else .error "invalid Ed25519 public key"
  else .error "public key must be 32 bytes"

/-- `verify_bytes`, as a step of the verification. -/
def checkBytes (payload : Bytes) (signature : SignatureEnvelope) (root : TrustRoot) :
    SkillM Unit :=
  match verifyBytes payload signature root with
  | .ok () => return ()
  | .error message => Disk.fail message

/-- The check of one listed file. -/
def verifyManifestFile (root : RawPath) (file : ManifestFile) : SkillM Unit := do
  let path := join root file.path
  if !(← Disk.pathExists path) then
    Disk.fail s!"manifest referenced missing file {file.path}"
  let actual ← sha256File path
  if actual ≠ file.sha256 then
    Disk.fail s!"digest mismatch for {file.path}: expected {file.sha256}, got {actual}"

/-- `verify_manifest_files`. -/
def verifyManifestFiles (root : RawPath) (manifest : SkillManifest) : SkillM Unit :=
  manifest.files.forM (verifyManifestFile root)

/-! ## Unpacking and copying -/

/-- One turn of `copy_directory`, for what lies at `relative` in the source. -/
def copyEntry (source target : RawPath) (relative : Location) (node : Node Bytes) :
    SkillM Unit := do
  let goal := target ++ relative
  if node.isDir then
    Disk.createDirAll goal s!"failed to create {displayPath goal}"
  else
    if let some parent := parent? goal then Disk.createDirAll parent Disk.systemError
    Disk.copy (source ++ relative) goal
      s!"failed to copy {displayPath (source ++ relative)} to {displayPath goal}"

/-- `copy_directory`. -/
def copyDirectory (source target : RawPath) : SkillM Unit := do
  let entries ← Disk.walkDir source
  entries.forM fun entry => copyEntry source target entry.1 entry.2

/-- `unpack_skill_archive`. -/
def unpackSkillArchive (path output : RawPath) : SkillM Unit := do
  let bytes ← Disk.read path s!"failed to open {displayPath path}"
  let (tree, unpacked) := SkillExternals.unpackArchive bytes output (← Disk.getTree)
  Disk.setTree tree
  if !unpacked then Disk.fail s!"failed to unpack {displayPath path}"

/-- The path of the temporary directory at a location. -/
def unpackedPath (home : Location) : RawPath := "" :: home

/-- Drops a `TempDir`: the directory is removed, errors are ignored. -/
def dropTempDir (home : Location) : SkillM Unit := fun d =>
  match Disk.removeDirAll (unpackedPath home) "" d with
  | .ok _ d' => .ok () d'
  | .error _ d' => .ok () d'

/-- Runs what owns a `TempDir`, and drops the directory when it fails. -/
def withTempDir {α : Type} (home : Location) (body : SkillM α) : SkillM α := fun d =>
  match body d with
  | .ok a d' => .ok a d'
  | .error message d' =>
      match dropTempDir home d' with
      | .ok _ d'' => .error message d''
      | .error _ d'' => .error message d''

/-- The unpacking in `verify_skill_bundle`. -/
def unpackBundle (path : RawPath) (home : Location) : SkillM Unit := do
  if ← Disk.isDir path then copyDirectory path (unpackedPath home)
  else unpackSkillArchive path (unpackedPath home)

/-- The checks in `verify_skill_bundle`. -/
def checkUnpacked (rootPath : RawPath) (home : Location) : SkillM SkillManifest := do
  let manifestPath := unpackedPath home ++ ["manifest.json"]
  let signaturePath := unpackedPath home ++ ["manifest.sig.json"]
  let manifestBytes ← Disk.read manifestPath s!"failed to read {displayPath manifestPath}"
  let signature ← readSignature signaturePath
  let root ← loadTrustRoot rootPath
  checkBytes manifestBytes signature root
  match SkillExternals.manifestFromSlice manifestBytes with
  | some manifest =>
      verifyManifestFiles (unpackedPath home) manifest
      return manifest
  | none => Disk.fail "failed to parse skill manifest"

/-- `verify_skill_bundle`.  `home` is where `TempDir::new` puts the directory. -/
def verifySkillBundle (path rootPath : RawPath) (home : Location) : SkillM SkillManifest := do
  if !(← Disk.mkdir (unpackedPath home)) then
    Disk.fail "failed to create temporary skill directory"
  withTempDir home do
    unpackBundle path home
    checkUnpacked rootPath home

/-- `install_verified_bundle`. -/
def installVerifiedBundle (source destination rootPath : RawPath) (home : Location) :
    SkillM SkillManifest := do
  let manifest ← verifySkillBundle source rootPath home
  withTempDir home do
    if ← Disk.pathExists destination then
      Disk.removeDirAll destination s!"failed to replace {displayPath destination}"
    Disk.createDirAll destination s!"failed to create {displayPath destination}"
    copyDirectory (unpackedPath home) destination
  dropTempDir home
  return manifest

/-! ## What the checks establish -/

omit [SkillExternals] in
theorem sha256File_ok {path : RawPath} {d d' : Disk Bytes} {digest : String}
    (h : sha256File path d = .ok digest d') :
    d'.tree = d.tree ∧ ∃ content, d.tree.content? path = some content ∧
      lowerHex (Externals.sha256 content).bytes = digest := by
  obtain ⟨content, middle, hread, h⟩ := Disk.bind_eq_ok.mp h
  cases h
  obtain ⟨htree, hcontent⟩ := Disk.read_ok hread
  exact ⟨htree, content, hcontent, rfl⟩

omit [Externals] in
theorem readSignature_ok {path : RawPath} {d d' : Disk Bytes} {signature : SignatureEnvelope}
    (h : readSignature path d = .ok signature d') :
    d'.tree = d.tree ∧
      (d.tree.content? path).bind SkillExternals.signatureFromSlice = some signature := by
  obtain ⟨raw, middle, hread, h⟩ := Disk.bind_eq_ok.mp h
  obtain ⟨htree, hcontent⟩ := Disk.read_ok hread
  rw [hcontent, Option.bind_some]
  cases hparse : SkillExternals.signatureFromSlice raw with
  | none => simp only [hparse] at h; cases h
  | some parsed => simp only [hparse] at h; cases h; exact ⟨htree, rfl⟩

omit [Externals] in
theorem loadTrustRoot_ok {path : RawPath} {d d' : Disk Bytes} {root : TrustRoot}
    (h : loadTrustRoot path d = .ok root d') :
    d'.tree = d.tree ∧
      (d.tree.content? path).bind SkillExternals.trustRootFromSlice = some root := by
  obtain ⟨raw, middle, hread, h⟩ := Disk.bind_eq_ok.mp h
  obtain ⟨htree, hcontent⟩ := Disk.read_ok hread
  rw [hcontent, Option.bind_some]
  cases hparse : SkillExternals.trustRootFromSlice raw with
  | none => simp only [hparse] at h; cases h
  | some parsed => simp only [hparse] at h; cases h; exact ⟨htree, rfl⟩

omit [Externals] in
theorem checkBytes_ok {payload : Bytes} {signature : SignatureEnvelope} {root : TrustRoot}
    {d d' : Disk Bytes} (h : checkBytes payload signature root d = .ok () d') :
    d' = d ∧ verifyBytes payload signature root = .ok () := by
  unfold checkBytes at h
  cases hverify : verifyBytes payload signature root with
  | error message => rw [hverify] at h; cases h
  | ok _ => rw [hverify] at h; cases h; exact ⟨rfl, rfl⟩

/-- The path leads to a file with the listed digest. -/
def DigestMatches (t : FileTree Bytes) (root : RawPath) (file : ManifestFile) : Prop :=
  ∃ content, t.content? (join root file.path) = some content ∧
    lowerHex (Externals.sha256 content).bytes = file.sha256

omit [SkillExternals] in
theorem verifyManifestFile_ok {root : RawPath} {file : ManifestFile} {d d' : Disk Bytes}
    (h : verifyManifestFile root file d = .ok () d') :
    d'.tree = d.tree ∧ DigestMatches d.tree root file := by
  obtain ⟨there, d₁, hexists, h⟩ := Disk.bind_eq_ok.mp h
  have h₁ := Disk.pathExists_ok hexists
  cases there with
  | false =>
      obtain ⟨_, _, hfail, _⟩ := Disk.bind_eq_ok.mp h
      cases hfail
  | true =>
      simp only [Bool.not_true, Bool.false_eq_true, ↓reduceIte] at h
      obtain ⟨actual, d₃, hdigest, h⟩ := Disk.bind_eq_ok.mp h
      obtain ⟨h₃, content, hcontent, hactual⟩ := sha256File_ok hdigest
      by_cases hsame : actual = file.sha256
      · rw [if_neg (not_not_intro hsame)] at h
        cases h
        rw [h₁] at h₃ hcontent
        exact ⟨h₃, content, hcontent, hactual.trans hsame⟩
      · rw [if_pos hsame] at h
        cases h

omit [SkillExternals] in
theorem verifyManifestFiles_ok {root : RawPath} {manifest : SkillManifest} {d d' : Disk Bytes}
    (h : verifyManifestFiles root manifest d = .ok () d') :
    d'.tree = d.tree ∧ ∀ file ∈ manifest.files, DigestMatches d.tree root file :=
  Disk.forM_reads (P := fun file t => DigestMatches t root file)
    (fun _ _ _ hfile => verifyManifestFile_ok hfile) h

/-- The manifest in the unpacked directory carries a valid signature of a key of
the trust root. -/
def ManifestSigned (t : FileTree Bytes) (rootPath : RawPath) (home : Location)
    (manifest : SkillManifest) : Prop :=
  ∃ manifestBytes signature root,
    t.content? (unpackedPath home ++ ["manifest.json"]) = some manifestBytes ∧
    SkillExternals.manifestFromSlice manifestBytes = some manifest ∧
    (t.content? (unpackedPath home ++ ["manifest.sig.json"])).bind
      SkillExternals.signatureFromSlice = some signature ∧
    (t.content? rootPath).bind SkillExternals.trustRootFromSlice = some root ∧
    verifyBytes manifestBytes signature root = .ok ()

theorem checkUnpacked_ok {rootPath : RawPath} {home : Location} {manifest : SkillManifest}
    {d d' : Disk Bytes} (h : checkUnpacked rootPath home d = .ok manifest d') :
    d'.tree = d.tree ∧ ManifestSigned d.tree rootPath home manifest ∧
      ∀ file ∈ manifest.files, DigestMatches d.tree (unpackedPath home) file := by
  obtain ⟨manifestBytes, d₁, step₁, rest₁⟩ := Disk.bind_eq_ok.mp h
  obtain ⟨signature, d₂, step₂, rest₂⟩ := Disk.bind_eq_ok.mp rest₁
  obtain ⟨root, d₃, step₃, rest₃⟩ := Disk.bind_eq_ok.mp rest₂
  obtain ⟨_, d₄, step₄, rest₄⟩ := Disk.bind_eq_ok.mp rest₃
  -- every step reads the same tree
  obtain ⟨h₁, hmanifest⟩ := Disk.read_ok step₁
  obtain ⟨h₂, hsignature⟩ := readSignature_ok step₂
  obtain ⟨h₃, hroot⟩ := loadTrustRoot_ok step₃
  obtain ⟨rfl, hverified⟩ := checkBytes_ok step₄
  rw [h₁] at h₂ hsignature
  rw [h₂] at h₃ hroot
  cases hparse : SkillExternals.manifestFromSlice manifestBytes with
  | none =>
      simp only [hparse] at rest₄
      cases rest₄
  | some parsed =>
      simp only [hparse] at rest₄
      obtain ⟨_, d₅, hfiles, done⟩ := Disk.bind_eq_ok.mp rest₄
      cases done
      obtain ⟨h₅, hmatches⟩ := verifyManifestFiles_ok hfiles
      rw [h₃] at h₅ hmatches
      exact ⟨h₅, ⟨manifestBytes, signature, root, hmanifest, hparse, hsignature, hroot, hverified⟩,
        hmatches⟩

omit [Externals] [SkillExternals] in
theorem withTempDir_ok {α : Type} {home : Location} {body : SkillM α} {d d' : Disk Bytes} {a : α}
    (h : withTempDir home body d = .ok a d') : body d = .ok a d' := by
  unfold withTempDir at h
  cases hbody : body d with
  | ok b d₁ =>
      rw [hbody] at h
      exact h
  | error message d₁ =>
      rw [hbody] at h
      cases hdrop : dropTempDir home d₁ with
      | ok _ d₂ => simp only [hdrop] at h; cases h
      | error _ d₂ => simp only [hdrop] at h; cases h

/-- A bundle that verifies has a signed manifest and the listed digests. -/
theorem verifySkillBundle_checked {path rootPath : RawPath} {home : Location}
    {manifest : SkillManifest} {d d' : Disk Bytes}
    (h : verifySkillBundle path rootPath home d = .ok manifest d') :
    ManifestSigned d'.tree rootPath home manifest ∧
      ∀ file ∈ manifest.files, DigestMatches d'.tree (unpackedPath home) file := by
  obtain ⟨made, d₁, hmkdir, h⟩ := Disk.bind_eq_ok.mp h
  cases made with
  | false =>
      obtain ⟨_, _, hfail, _⟩ := Disk.bind_eq_ok.mp h
      cases hfail
  | true =>
      simp only [Bool.not_true, Bool.false_eq_true, ↓reduceIte] at h
      obtain ⟨_, d₂, hunpack, h⟩ := Disk.bind_eq_ok.mp (withTempDir_ok h)
      obtain ⟨htree, hsigned, hmatches⟩ := checkUnpacked_ok h
      rw [htree]
      exact ⟨hsigned, hmatches⟩

end

end OpenPinch
