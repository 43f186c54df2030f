import OpenPinch.Common.Reference

/-!
# The encryption manager

`EncryptionManager.loadOrInit` runs once in every bootstrap of the engine.  The
run that finds no key file generates a key, writes its Base64 and encrypts
under the key itself.  Every run that finds the file decodes it and encrypts
under the digest of what it decoded.  `bootstraps` is a sequence of runs over
one key file, and `bootstraps_eq` gives the keys of all of them.

The key of the first run is therefore used in that run only.
`decryptText_later_iff` says which blobs the runs that follow can still read.
-/

namespace OpenPinch

section

variable [Externals]

/-! ## The manager -/

/-- The encryption section of the configuration. -/
structure EncryptionConfig where
  enabled : Bool
  keyFile : String
  encryptMemory : Bool
  encryptAgentChannels : Bool
deriving DecidableEq, Repr

/-- `EncryptionManager`, less the session key pair and the attestation data. -/
structure EncryptionManager where
  enabled : Bool
  key : Key
deriving DecidableEq

namespace EncryptionManager

/-- `EncryptionManager::load_or_init`.  `keyFile` is the text of the key file, if
there is one, and `fresh` is what `generate_data_key` returns in this run.  The
result holds the manager and the key file as the run leaves it. -/
def loadOrInit (config : EncryptionConfig) (keyFile : Option String) (fresh : Key) :
    Except String (EncryptionManager × Option String) :=
  match keyFile with
  | some raw =>
      match base64DecodeVec (trim raw) with
      | none => .error "invalid stored encryption key"
      | some decoded =>
          .ok ({ enabled := config.enabled, key := deriveKeyFromMaterial decoded }, some raw)
  | none =>
      .ok ({ enabled := config.enabled, key := fresh }, some (base64EncodeString fresh.bytes))

/-- `EncryptionManager::encrypt_text`, with the nonce it draws. -/
def encryptText (manager : EncryptionManager) (nonce : Nonce) (plaintext : String) :
    Except String EncryptedBlob :=
  if manager.enabled then encryptBytes manager.key nonce (asBytes plaintext)
  else .ok ⟨"", base64EncodeString (asBytes plaintext)⟩

/-- `EncryptionManager::decrypt_text`. -/
def decryptText (manager : EncryptionManager) (blob : EncryptedBlob) : Except String String := do
  let bytes ←
    if manager.enabled then decryptBytes manager.key blob
    else
      match base64DecodeVec blob.ciphertext with
      | some bytes => .ok bytes
      | none => .error "invalid plaintext blob"
  match fromUtf8 bytes with
  | some text => .ok text
  | none => .error "memory payload was not valid UTF-8"

end EncryptionManager

/-! ## Runs over one key file -/

/-- What one bootstrap is given: its configuration and the key it would
generate. -/
structure Bootstrap where
  config : EncryptionConfig
  fresh : Key

/-- The managers of a sequence of bootstraps, each one starting from the key
file the one before it left. -/
def bootstraps : Option String → List Bootstrap → Except String (List EncryptionManager)
  | _, [] => .ok []
  | keyFile, boot :: rest => do
      let (manager, keyFile) ← EncryptionManager.loadOrInit boot.config keyFile boot.fresh
      let managers ← bootstraps keyFile rest
      return manager :: managers

/-- With a key file in place every run uses the digest of the stored key. -/
theorem bootstraps_stored (stored : Key) (boots : List Bootstrap) :
    bootstraps (some (base64EncodeString stored.bytes)) boots =
      .ok (boots.map fun boot =>
        { enabled := boot.config.enabled, key := deriveKeyFromMaterial stored.bytes }) := by
  induction boots with
  | nil => rfl
  | cons boot rest ih =>
      simp only [bootstraps, EncryptionManager.loadOrInit, trim_base64EncodeString,
        base64DecodeVec_encodeString, Except.bind, bind, ih, pure, Except.pure, List.map_cons]

/-- Without one the first run uses the key it generates, and every later run the
digest of that key. -/
theorem bootstraps_eq (first : Bootstrap) (rest : List Bootstrap) :
    bootstraps none (first :: rest) =
      .ok ({ enabled := first.config.enabled, key := first.fresh } ::
        rest.map fun boot =>
          { enabled := boot.config.enabled, key := deriveKeyFromMaterial first.fresh.bytes }) := by
  simp only [bootstraps, EncryptionManager.loadOrInit, Except.bind, bind, bootstraps_stored,
    pure, Except.pure]

/-! ## Reading a blob in a later run -/

/-- One enabled manager reads what another wrote exactly when they hold the same
key. -/
theorem decryptText_iff_key (laws : AeadLaws) {writer reader : EncryptionManager}
    (hwriter : writer.enabled = true) (hreader : reader.enabled = true) {nonce : Nonce}
    {text : String} {blob : EncryptedBlob} (h : writer.encryptText nonce text = .ok blob) :
    reader.decryptText blob = .ok text ↔ writer.key = reader.key := by
  rw [EncryptionManager.encryptText, if_pos hwriter] at h
  obtain ⟨ciphertext, hseal, hread⟩ := decryptBytes_encryptBytes (k := reader.key) h
  rw [EncryptionManager.decryptText, if_pos hreader, hread]
  constructor
  · intro hok
    apply Classical.byContradiction
    intro different
    rw [laws.decrypt_other hseal different] at hok
    cases hok
  · intro same
    rw [← same, laws.decrypt_same hseal]
    simp [bind, Except.bind]

/-- In a sequence of enabled runs that starts without a key file, a blob is read
back in its own run and in every later one exactly when its run was not the one
that created the key file, or no run follows. -/
theorem decryptText_later_iff (laws : AeadLaws) (boots : List Bootstrap)
    (managers : List EncryptionManager) (hruns : bootstraps none boots = .ok managers)
    (henabled : ∀ boot ∈ boots, boot.config.enabled = true)
    (hdigest : ∀ boot, boots.head? = some boot →
      deriveKeyFromMaterial boot.fresh.bytes ≠ boot.fresh)
    (i : Nat) (writer : EncryptionManager) (hwriter : managers[i]? = some writer)
    (nonce : Nonce) (text : String) (blob : EncryptedBlob)
    (hblob : writer.encryptText nonce text = .ok blob) :
    (∀ j reader, i ≤ j → managers[j]? = some reader → reader.decryptText blob = .ok text) ↔
      (0 < i ∨ i + 1 = managers.length) := by
  cases boots with
  | nil => cases hruns; simp at hwriter
  | cons first rest =>
      rw [bootstraps_eq] at hruns
      cases hruns
      have hfirst := henabled first (List.mem_cons_self ..)
      have hrest : ∀ boot ∈ rest, boot.config.enabled = true :=
        fun boot hb => henabled boot (List.mem_cons_of_mem _ hb)
      -- every run but the first holds the digest of the stored key
      have later : ∀ (n : Nat) (manager : EncryptionManager),
          (rest.map fun boot => ({ enabled := boot.config.enabled
                                   key := deriveKeyFromMaterial first.fresh.bytes } :
            EncryptionManager))[n]? = some manager →
          manager.enabled = true ∧ manager.key = deriveKeyFromMaterial first.fresh.bytes := by
        intro n manager h
        obtain ⟨boot, hboot, rfl⟩ := List.mem_map.mp (List.mem_of_getElem? h)
        exact ⟨hrest boot hboot, rfl⟩
      cases i with
      | zero =>
          cases hwriter
          simp only [Nat.lt_irrefl, false_or, List.length_cons, List.length_map]
          constructor
          · intro readable
            cases rest with
            | nil => rfl
            | cons second rest =>
                have hread := readable 1
                  { enabled := second.config.enabled
                    key := deriveKeyFromMaterial first.fresh.bytes } (by omega) rfl
                have same := (decryptText_iff_key laws hfirst
                  (hrest second (List.mem_cons_self ..)) hblob).mp hread
                exact absurd same.symm (hdigest first rfl)
          · intro hlast j reader _ hreader
            have hj : j = 0 := by
              have hlt := (List.getElem?_eq_some_iff.mp hreader).1
              simp only [List.length_cons, List.length_map] at hlt
              omega
            subst hj
            cases hreader
            exact (decryptText_iff_key laws hfirst hfirst hblob).mpr rfl
      | succ i =>
          rw [List.getElem?_cons_succ] at hwriter
          have hw := later i writer hwriter
          refine iff_of_true ?_ (Or.inl (Nat.succ_pos i))
          intro j reader hij hreader
          obtain ⟨j, rfl⟩ : ∃ n, j = n + 1 := ⟨j - 1, by omega⟩
          rw [List.getElem?_cons_succ] at hreader
          have hr := later j reader hreader
          exact (decryptText_iff_key laws hw.1 hr.1 hblob).mpr (hw.2.trans hr.2.symm)

end

/-- Two runs over one key file.  The first one creates it. -/
def twoBootstraps : List Bootstrap :=
  let config : EncryptionConfig := ⟨true, "", true, true⟩
  [⟨config, onesKey⟩, ⟨config, onesKey⟩]

theorem decryptText_firstRun :
    @AeadLaws referenceExternals ∧
      @deriveKeyFromMaterial referenceExternals onesKey.bytes ≠ onesKey ∧ ∃ first second blob,
      @bootstraps referenceExternals none twoBootstraps = .ok [first, second] ∧
      @EncryptionManager.encryptText referenceExternals first zeroNonce "t" = .ok blob ∧
      @EncryptionManager.decryptText referenceExternals second blob = .error "decryption failed" :=
  ⟨reference_aeadLaws, by decide +kernel, ⟨true, onesKey⟩,
    ⟨true, @deriveKeyFromMaterial referenceExternals onesKey.bytes⟩, _, rfl, rfl,
    by decide +kernel⟩

theorem decryptText_later_iff_firstRun :
    (∀ j reader, 0 ≤ j →
      [⟨true, onesKey⟩, ⟨true, @deriveKeyFromMaterial referenceExternals onesKey.bytes⟩][j]? =
        some reader →
      @EncryptionManager.decryptText referenceExternals reader
        ⟨base64EncodeString zeroNonce.bytes,
          base64EncodeString (onesKey.bytes ++ zeroNonce.bytes ++ asBytes "t")⟩ = .ok "t") ↔
      (0 < 0 ∨ 0 + 1 = 2) :=
  @decryptText_later_iff referenceExternals reference_aeadLaws twoBootstraps
    [⟨true, onesKey⟩, ⟨true, @deriveKeyFromMaterial referenceExternals onesKey.bytes⟩] rfl
    (by decide) (by intro boot h; cases h; decide +kernel) 0 ⟨true, onesKey⟩ rfl zeroNonce "t" _ rfl

end OpenPinch
