import OpenPinch.Common.Skill

/-!
# Installed skills

`SkillManager.install` verifies a bundle and puts it into the directory that is
named by its id and version.  `SkillManager.installedManifest` looks through the
directory of installed skills for the first one whose manifest has the id asked
for, in the order in which the system lists the directory.  `packagedWorkspace`
packs the directory it found.
-/

namespace OpenPinch

open Lib.FileSystem

/-- What listing and packing a directory leave to the system and to other crates. -/
class PackExternals where
  /-- The order in which `fs::read_dir` lists names. -/
  listed : List String → List String
  /-- The bytes of `tar::Builder::append_dir_all` behind the zstd encoder, for the
  directory a path leads to.  Nothing when they fail. -/
  packDir : FileTree Bytes → RawPath → Option Bytes

/-- `SkillManager`, with what the tool executor uses of it. -/
structure SkillManager where
  /-- `paths.installs_dir`. -/
  installsDir : RawPath

/-- `SkillInfo`. -/
structure SkillInfo where
  id : String
  version : String
  name : String
  description : String
  installed : Bool
  verified : Bool
  entrypoint : String
  language : String
deriving DecidableEq, Repr

namespace SkillManager

/-- `SkillManager::installed_skill_dir`. -/
def installedSkillDir (skills : SkillManager) (skillId version : String) : RawPath :=
  join skills.installsDir s!"{skillId}-{version}"

section

variable [Externals] [SkillExternals]

/-- What `SkillManager::install` does with a verified bundle. -/
def installOver (skills : SkillManager) (trustRoot source : RawPath) (force : Bool)
    (verified : SkillManifest) (home : Location) : SkillM SkillManifest := do
  let destination := skills.installedSkillDir verified.id verified.version
  if (← Disk.pathExists destination) && !force then
    let skill := s!"{verified.id}@{verified.version}"
    Disk.fail s!"skill {skill} is already installed; re-run with --force to replace it"
  installVerifiedBundle source destination trustRoot home

/-- `SkillManager::install`.  `trustRoot` is `config.trust_root`, resolved.  `home` and `home'`
are where `TempDir::new` puts the directories of the two verifications. -/
def install (skills : SkillManager) (trustRoot source : RawPath) (force : Bool)
    (home home' : Location) : SkillM SkillInfo := do
  let verified ← verifySkillBundle source trustRoot home
  let manifest ← withTempDir home (skills.installOver trustRoot source force verified home')
  dropTempDir home
  return {
    id := manifest.id
    version := manifest.version
    name := manifest.name
    description := manifest.description
    installed := true
    verified := true
    entrypoint := manifest.entrypoint
    language := manifest.language }

end

end SkillManager

section

variable [Externals] [SkillExternals] [PackExternals]

/-- `bundle_manifest_path`. -/
def bundleManifestPath (bundleRoot : RawPath) : RawPath := join bundleRoot "manifest.json"

/-- `read_text_file` and `serde_json::from_str`. -/
def readManifest (path : RawPath) : SkillM SkillManifest := do
  let data ← Disk.read path s!"failed to open {displayPath path}"
  match fromUtf8 data with
  | none => Disk.fail s!"failed to read {displayPath path}"
  | some _ =>
      match SkillExternals.manifestFromSlice data with
      | some manifest => return manifest
      | none => Disk.fail "failed to decode installed skill manifest"

namespace SkillManager

/-- The loop of `SkillManager::installed_manifest`. -/
def searchInstalled (installRoot : RawPath) (skillId : String) :
    List String → SkillM (SkillManifest × RawPath)
  | [] => Disk.fail s!"skill {skillId} is not installed"
  | name :: rest => do
      let path := join installRoot name
      if !(← Disk.entryNode path).isDir then
        searchInstalled installRoot skillId rest
      else if !(← Disk.pathExists (bundleManifestPath path)) then
        searchInstalled installRoot skillId rest
      else
        let manifest ← readManifest (bundleManifestPath path)
        if manifest.id = skillId then return (manifest, path)
        else searchInstalled installRoot skillId rest

/-- `SkillManager::installed_manifest`. -/
def installedManifest (skills : SkillManager) (skillId : String) :
    SkillM (SkillManifest × RawPath) := do
  let names ← Disk.readDir skills.installsDir
    s!"failed to read installed skills directory {displayPath skills.installsDir}"
  searchInstalled skills.installsDir skillId (PackExternals.listed names)

/-- `SkillManager::packaged_workspace`. -/
def packagedWorkspace (skills : SkillManager) (skillId : String) :
    SkillM (SkillManifest × String) := do
  let (manifest, root) ← skills.installedManifest skillId
  match PackExternals.packDir (← Disk.getTree) root with
  | some bytes => return (manifest, base64EncodeString bytes)
  | none => Disk.fail s!"failed to archive {displayPath root}"

end SkillManager

end

end OpenPinch
