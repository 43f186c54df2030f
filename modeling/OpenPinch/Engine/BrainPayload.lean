import OpenPinch.Common.JsonText
import OpenPinch.Engine.BrainTables
import OpenPinch.Engine.Encryption

/-!
# Payloads are read back

The texts of a record are an object of strings, which is encrypted and stored as
another object of strings.  `decryptPayload_stored` says that the manager reads
the same texts from it.
-/

namespace OpenPinch

section

variable [Externals]

/-- The documented behaviour of `serde_json`: an object of strings is read back
with the same members, in whatever order. -/
structure JsonLaws : Prop where
  read_texts : ∀ members : List (String × String), (members.map Prod.fst).Nodup →
    ∃ found, Externals.jsonParse (Externals.jsonText (Json.texts members)) = some (.obj found) ∧
      found.Perm (members.map fun member => (member.1, Json.str member.2))

end

/-! ## Fields of objects -/

namespace Json

/-- Of members with different names one has the name of a member. -/
theorem filter_name {members : List (String × Json)} {member : String × Json}
    (hnames : (members.map Prod.fst).Nodup) (h : member ∈ members) :
    members.filter (·.1 == member.1) = [member] := by
  induction members with
  | nil => cases h
  | cons first members ih =>
      obtain ⟨hfirst, hrest⟩ := List.nodup_cons.mp hnames
      rcases List.mem_cons.mp h with rfl | hlater
      · have hnone : members.filter (·.1 == member.1) = [] := by
          refine List.filter_eq_nil_iff.mpr fun other hother heq => hfirst ?_
          exact List.mem_map.mpr ⟨other, hother, eq_of_beq heq⟩
        simp [hnone]
      · have hne : first.1 ≠ member.1 := fun heq =>
          hfirst (heq ▸ List.mem_map_of_mem hlater)
        simp [hne, ih hrest hlater]

theorem filter_name_perm {found members : List (String × Json)} {member : String × Json}
    (hperm : found.Perm members) (hnames : (members.map Prod.fst).Nodup) (h : member ∈ members) :
    found.filter (·.1 == member.1) = [member] := by
  have hfilter := hperm.filter (·.1 == member.1)
  rw [filter_name hnames h] at hfilter
  exact List.perm_singleton.mp hfilter

/-- The fields of an object, in the order of the names. -/
theorem fields?_perm {found members : List (String × Json)} (hperm : found.Perm members)
    (hnames : (members.map Prod.fst).Nodup) :
    fields? (members.map Prod.fst) (.obj found) = some (members.map Prod.snd) := by
  have hpart : ∀ part ⊆ members,
      fields? (part.map Prod.fst) (.obj found) = some (part.map Prod.snd) := by
    intro part
    induction part with
    | nil => simp [fields?]
    | cons member part ih =>
        intro hsubset
        obtain ⟨hmember, hrest⟩ := List.cons_subset.mp hsubset
        have hone := filter_name_perm hperm hnames hmember
        have hlater := ih hrest
        simp only [fields?] at hlater ⊢
        simp [hone, hlater]
  exact hpart members (List.Subset.refl members)

theorem fields?_texts {found : List (String × Json)} {members : List (String × String)}
    (hperm : found.Perm (members.map fun member => (member.1, Json.str member.2)))
    (hnames : (members.map Prod.fst).Nodup) :
    fields? (members.map Prod.fst) (.obj found) = some ((members.map Prod.snd).map .str) := by
  have hfields := fields?_perm hperm (by rwa [List.map_map])
  simpa [Function.comp_def] using hfields

theorem mapM_asStr? (values : List String) : (values.map Json.str).mapM asStr? = some values := by
  induction values with
  | nil => rfl
  | cons value values ih => simp [asStr?, ih]

/-- A member of an object is under its name. -/
theorem get?_perm {found members : List (String × Json)} {member : String × Json}
    (hperm : found.Perm members) (hnames : (members.map Prod.fst).Nodup) (h : member ∈ members) :
    get? (.obj found) member.1 = some member.2 := by
  have hone := filter_name_perm hperm hnames h
  rw [get?, ← List.head?_filter, hone]
  rfl

end Json

/-! ## Payloads -/

section

variable [Externals]

/-- What was encrypted is decrypted. -/
theorem EncryptionManager.decryptText_encryptText (laws : AeadLaws)
    {encryption : EncryptionManager} {nonce : Nonce} {text : String} {blob : EncryptedBlob}
    (h : encryption.encryptText nonce text = .ok blob) :
    encryption.decryptText blob = .ok text := by
  cases henabled : encryption.enabled with
  | true => exact (decryptText_iff_key laws henabled henabled h).mpr rfl
  | false =>
      simp only [encryptText, henabled] at h
      cases h
      simp [decryptText, henabled, bind, Except.bind]

/-- A blob is read back from its text. -/
theorem EncryptedBlob.ofJson?_toJson (json : JsonLaws) (blob : EncryptedBlob) :
    EncryptedBlob.ofJson? (Externals.jsonText blob.toJson) = some blob := by
  obtain ⟨found, hparse, hperm⟩ := json.read_texts
    [("nonce", blob.nonce), ("ciphertext", blob.ciphertext)] (by simp)
  have hfields := Json.fields?_texts hperm (by simp)
  have htext : blob.toJson = Json.texts [("nonce", blob.nonce), ("ciphertext", blob.ciphertext)] :=
    rfl
  rw [ofJson?, htext, hparse]
  simp only [List.map_cons, List.map_nil] at hfields
  simp [hfields]

namespace BrainManager

variable {manager : BrainManager}

/-- The texts of a stored payload are read back. -/
theorem decryptPayload_stored (json : JsonLaws) (laws : AeadLaws) {fields values : List String}
    {nonce : Nonce} {blob : EncryptedBlob} (hfields : fields.Nodup)
    (hlength : values.length = fields.length)
    (h : manager.encryption.encryptText nonce
      (Externals.jsonText (.obj (fields.zip (values.map .str)))) = .ok blob) :
    manager.decryptPayload fields (Externals.jsonText blob.toJson) = .ok values := by
  have hnames : (fields.zip values).map Prod.fst = fields :=
    List.map_fst_zip (Nat.le_of_eq hlength.symm)
  have hvalues : (fields.zip values).map Prod.snd = values :=
    List.map_snd_zip (Nat.le_of_eq hlength)
  have htexts : Json.obj (fields.zip (values.map .str)) = Json.texts (fields.zip values) := by
    rw [Json.texts, List.zip_map_right]
    rfl
  have hdistinct : ((fields.zip values).map Prod.fst).Nodup := by rwa [hnames]
  obtain ⟨found, hparse, hperm⟩ := json.read_texts _ hdistinct
  have hread := Json.fields?_texts hperm hdistinct
  rw [hnames, hvalues] at hread
  rw [htexts] at h
  simp only [decryptPayload, EncryptedBlob.ofJson?_toJson json,
    EncryptionManager.decryptText_encryptText laws h, hparse, Option.bind_some, hread,
    Json.mapM_asStr?]

end BrainManager

end

/-! ## The reference choice -/

theorem json_laws : @JsonLaws jsonExternals :=
  @JsonLaws.mk jsonExternals fun members _ =>
    ⟨_, Json.read_write_texts members, List.Perm.refl _⟩

theorem json_aeadLaws : @AeadLaws jsonExternals :=
  @AeadLaws.mk jsonExternals referenceDecrypt_same referenceDecrypt_other

/-- A payload as it is stored without encryption. -/
def storedPlain (fields values : List String) : String :=
  @Externals.jsonText jsonExternals (EncryptedBlob.toJson ⟨"", base64EncodeString (asBytes
    (@Externals.jsonText jsonExternals (.obj (fields.zip (values.map .str)))))⟩)

theorem decryptPayload_storedPlain {manager : BrainManager} {fields values : List String}
    (hplain : manager.encryption.enabled = false) (hfields : fields.Nodup)
    (hlength : values.length = fields.length) :
    @BrainManager.decryptPayload jsonExternals manager fields (storedPlain fields values) =
      .ok values := by
  refine @BrainManager.decryptPayload_stored jsonExternals manager json_laws json_aeadLaws _ _
    zeroNonce _ hfields hlength ?_
  simp [EncryptionManager.encryptText, hplain]

end OpenPinch
