import OpenPinch.Common.Reference
import OpenPinch.Engine.Text
import OpenPinch.Lib.Words

/-!
# Similarity of fingerprints

A fingerprint holds the words of a text in order and without repetition, and
splitting it at white space gives them back.  So counting the common words of
two fingerprints measures the overlap of the sets of words.
-/

namespace OpenPinch

open Lib (IsRun mem_destutter_ne mem_splitOnP_iff overlap overlap_comm overlap_empty_left
  overlap_eq_one_iff overlap_le_one overlap_nonneg pairwise_lt_destutter splitOnP_intercalate)

/-! ## Tokens -/

theorem splitChars_eq_splitOnP (test : Char → Bool) (text : List Char) :
    splitChars test text = text.splitOnP test := by
  induction text with
  | nil => rfl
  | cons c rest ih =>
      rw [splitChars, List.splitOnP_cons_eq_if_modifyHead, ih]
      cases hparts : rest.splitOnP test with
      | nil => exact absurd hparts (List.splitOnP_ne_nil test rest)
      | cons first more => rfl

/-- The tokens of a text are its runs that are not empty. -/
theorem mem_tokens_iff {test : Char → Bool} {text token : String} :
    token ∈ tokens test text ↔ IsRun test text.toList token.toList ∧ token ≠ "" := by
  rw [← mem_splitOnP_iff, ← splitChars_eq_splitOnP]
  unfold tokens
  simp only [List.mem_map, List.mem_filter]
  constructor
  · rintro ⟨run, ⟨hrun, hne⟩, rfl⟩
    refine ⟨by simpa using hrun, fun hempty => ?_⟩
    have hnil : run = [] := by simpa using congrArg String.toList hempty
    simp [hnil] at hne
  · rintro ⟨hrun, hne⟩
    exact ⟨token.toList, ⟨hrun, by simpa [List.isEmpty_iff] using hne⟩, by simp⟩

/-- Words joined by blanks are the tokens of the joined text. -/
theorem tokens_intercalate {test : Char → Bool} (hblank : test ' ' = true) {words : List String}
    (hwords : ∀ word ∈ words, word ≠ "" ∧ ∀ c ∈ word.toList, test c = false) :
    tokens test (String.intercalate " " words) = words := by
  by_cases hnone : words = []
  · subst hnone
    rfl
  · have hsplit : splitChars test (String.intercalate " " words).toList =
        words.map String.toList := by
      rw [splitChars_eq_splitOnP, String.toList_intercalate]
      refine splitOnP_intercalate hblank (fun part hpart => ?_) (by simpa using hnone)
      obtain ⟨word, hword, rfl⟩ := List.mem_map.mp hpart
      exact (hwords word hword).2
    have hfull : (words.map String.toList).filter (fun token => !token.isEmpty) =
        words.map String.toList := by
      refine List.filter_eq_self.mpr fun part hpart => ?_
      obtain ⟨word, hword, rfl⟩ := List.mem_map.mp hpart
      simpa [List.isEmpty_iff] using (hwords word hword).1
    rw [tokens, hsplit, hfull, List.map_map]
    exact (List.map_congr_left fun word _ => String.ofList_toList).trans (List.map_id _)

/-! ## Sorting -/

theorem dedup_eq_destutter (words : List String) : dedup words = words.destutter (· ≠ ·) := by
  have hfrom : ∀ (rest : List String) (word : String),
      dedup (word :: rest) = rest.destutter' (· ≠ ·) word := by
    intro rest
    induction rest with
    | nil => intro word; rfl
    | cons other more ih =>
        intro word
        by_cases heq : word = other
        · rw [dedup, if_pos heq, heq, ih, List.destutter'_cons_neg _ (by simp)]
        · rw [dedup, if_neg heq, ih, List.destutter'_cons_pos _ heq]
  cases words with
  | nil => rfl
  | cons word rest => exact hfrom rest word

theorem mem_dedup_sortTexts {words : List String} {word : String} :
    word ∈ dedup (sortTexts words) ↔ word ∈ words := by
  rw [dedup_eq_destutter, mem_destutter_ne]
  exact List.mem_insertionSort _

theorem pairwise_lt_dedup_sortTexts (words : List String) :
    (dedup (sortTexts words)).Pairwise (· < ·) := by
  rw [dedup_eq_destutter]
  exact pairwise_lt_destutter (List.pairwise_insertionSort (· ≤ ·) words)

/-- Words that increase are sorted and have no neighbours that are equal. -/
theorem dedup_sortTexts_of_pairwise_lt {words : List String} (h : words.Pairwise (· < ·)) :
    dedup (sortTexts words) = words := by
  have hsorted : sortTexts words = words := (h.imp le_of_lt).insertionSort_eq
  have hchain : words.IsChain (· ≠ ·) := (h.imp ne_of_lt).isChain
  rw [hsorted, dedup_eq_destutter, List.destutter_of_isChain _ _ hchain]

/-! ## Lower case -/

theorem isUpper_iff {c : Char} : c.isUpper = true ↔ 65 ≤ c.toNat ∧ c.toNat ≤ 90 := by
  change decide ('A'.val ≤ c.val ∧ c.val ≤ 'Z'.val) = true ↔ _
  simp [UInt32.le_iff_toNat_le]

theorem isLower_iff {c : Char} : c.isLower = true ↔ 97 ≤ c.toNat ∧ c.toNat ≤ 122 := by
  change (decide ('a'.val ≤ c.val) && decide (c.val ≤ 'z'.val)) = true ↔ _
  simp [UInt32.le_iff_toNat_le]

theorem isDigit_iff {c : Char} : c.isDigit = true ↔ 48 ≤ c.toNat ∧ c.toNat ≤ 57 := by
  change (decide ('0'.val ≤ c.val) && decide (c.val ≤ '9'.val)) = true ↔ _
  simp [UInt32.le_iff_toNat_le]

theorem isLower_toLower_or (c : Char) : c.toLower = c ∨ c.toLower.isLower = true := by
  by_cases hupper : c.val ≥ 'A'.val ∧ c.val ≤ 'Z'.val
  · right
    obtain ⟨hlow, hhigh⟩ := hupper
    rw [ge_iff_le, UInt32.le_iff_toNat_le] at hlow
    rw [UInt32.le_iff_toNat_le] at hhigh
    rw [isLower_iff, show c.toLower = _ from dif_pos ⟨hlow, hhigh⟩]
    change 65 ≤ c.val.toNat at hlow
    change c.val.toNat ≤ 90 at hhigh
    change 97 ≤ (c.val.toNat + 32) % 2 ^ 32 ∧ (c.val.toNat + 32) % 2 ^ 32 ≤ 122
    omega
  · exact .inl (dif_neg hupper)

theorem toLower_of_isLower {c : Char} (h : c.isLower = true) : c.toLower = c := by
  have hlow : 97 ≤ c.val.toNat := (isLower_iff.mp h).1
  refine dif_neg ?_
  rintro ⟨-, hhigh⟩
  rw [UInt32.le_iff_toNat_le] at hhigh
  change c.val.toNat ≤ 90 at hhigh
  omega

theorem toLower_toLower (c : Char) : c.toLower.toLower = c.toLower := by
  rcases isLower_toLower_or c with hsame | hlower
  · rw [hsame, hsame]
  · exact toLower_of_isLower hlower

/-! ## Fingerprints -/

section

variable [Externals]

/-- What `char::is_alphanumeric` accepts: no white space, and the ASCII letters in
lower case. -/
structure AlphanumericChars : Prop where
  notSpace : ∀ c : Char, Externals.isAlphanumeric c = true → isWhitespace c = false
  lowercase : ∀ c : Char, c.isLower = true → Externals.isAlphanumeric c = true

/-- The alphanumeric tokens of a text in lower case. -/
def lowerTokens (text : String) : List String :=
  (tokens (fun c => !Externals.isAlphanumeric c) text).map toAsciiLowercase

/-- The set of the alphanumeric tokens of a text in lower case. -/
def wordSet (text : String) : Finset String := (lowerTokens text).toFinset

/-- The words of a text are its alphanumeric runs in lower case. -/
theorem mem_wordSet_iff {text word : String} :
    word ∈ wordSet text ↔
      ∃ run : String, IsRun (fun c => !Externals.isAlphanumeric c) text.toList run.toList ∧
        run ≠ "" ∧ toAsciiLowercase run = word := by
  unfold wordSet lowerTokens
  simp only [List.mem_toFinset, List.mem_map, mem_tokens_iff, and_assoc]

/-- The words of a fingerprint, in order. -/
def fingerprintWords (content : String) : List String := dedup (sortTexts (lowerTokens content))

theorem fingerprint_eq (content : String) :
    fingerprint content = String.intercalate " " (fingerprintWords content) := rfl

theorem toFinset_fingerprintWords (content : String) :
    (fingerprintWords content).toFinset = wordSet content := by
  ext word
  rw [wordSet, List.mem_toFinset, List.mem_toFinset]
  exact mem_dedup_sortTexts

theorem nodup_fingerprintWords (content : String) : (fingerprintWords content).Nodup :=
  (pairwise_lt_dedup_sortTexts _).imp ne_of_lt

/-- A text of alphanumeric characters in lower case. -/
def IsWord (word : String) : Prop :=
  word ≠ "" ∧ ∀ c ∈ word.toList, Externals.isAlphanumeric c = true ∧ c.toLower = c

theorem isWord_of_mem (hchars : AlphanumericChars) {content word : String}
    (h : word ∈ fingerprintWords content) : IsWord word := by
  have hmem : word ∈ wordSet content := by
    rw [← toFinset_fingerprintWords]
    exact List.mem_toFinset.mpr h
  obtain ⟨run, ⟨-, -, -, hclean, -⟩, hne, rfl⟩ := mem_wordSet_iff.mp hmem
  constructor
  · intro hempty
    have hnil : run.toList.map Char.toLower = [] := by
      simpa [toAsciiLowercase] using congrArg String.toList hempty
    exact hne (by simpa using hnil)
  · intro c hc
    simp only [toAsciiLowercase, String.toList_ofList, List.mem_map] at hc
    obtain ⟨d, hd, rfl⟩ := hc
    refine ⟨?_, toLower_toLower d⟩
    rcases isLower_toLower_or d with hsame | hlower
    · rw [hsame]
      simpa using hclean d hd
    · exact hchars.lowercase _ hlower

theorem splitWhitespace_fingerprint (hchars : AlphanumericChars) (content : String) :
    splitWhitespace (fingerprint content) = fingerprintWords content := by
  rw [fingerprint_eq, splitWhitespace]
  refine tokens_intercalate rfl fun word hword => ?_
  obtain ⟨hne, hword⟩ := isWord_of_mem hchars hword
  exact ⟨hne, fun c hc => hchars.notSpace c (hword c hc).1⟩

theorem lowerTokens_fingerprint (hchars : AlphanumericChars) (content : String) :
    lowerTokens (fingerprint content) = fingerprintWords content := by
  have hblank : Externals.isAlphanumeric ' ' = false := by
    by_contra hblank
    have hspace := hchars.notSpace ' ' (by simpa using hblank)
    exact absurd hspace (by decide)
  have htokens : tokens (fun c => !Externals.isAlphanumeric c) (fingerprint content) =
      fingerprintWords content := by
    rw [fingerprint_eq]
    refine tokens_intercalate (by simp [hblank]) fun word hword => ?_
    obtain ⟨hne, hword⟩ := isWord_of_mem hchars hword
    exact ⟨hne, fun c hc => by simp [(hword c hc).1]⟩
  rw [lowerTokens, htokens]
  refine (List.map_congr_left fun word hword => ?_).trans (List.map_id _)
  have hlower : word.toList.map Char.toLower = word.toList :=
    (List.map_congr_left fun c hc => ((isWord_of_mem hchars hword).2 c hc).2).trans (List.map_id _)
  rw [toAsciiLowercase, hlower, String.ofList_toList, id]

theorem fingerprint_fingerprint (hchars : AlphanumericChars) (content : String) :
    fingerprint (fingerprint content) = fingerprint content := by
  have hsame : dedup (sortTexts (fingerprintWords content)) = fingerprintWords content :=
    dedup_sortTexts_of_pairwise_lt (pairwise_lt_dedup_sortTexts _)
  rw [fingerprint_eq, fingerprintWords, lowerTokens_fingerprint hchars, hsame, ← fingerprint_eq]

/-! ## Similarity -/

omit [Externals] in
/-- Counting in lists without repetition measures the overlap of the sets. -/
theorem similarity_eq_overlap {left right : String} (hleft : (splitWhitespace left).Nodup)
    (hright : (splitWhitespace right).Nodup) :
    similarity left right =
      overlap (splitWhitespace left).toFinset (splitWhitespace right).toFinset := by
  unfold similarity
  generalize splitWhitespace left = leftTokens at hleft ⊢
  generalize splitWhitespace right = rightTokens at hright ⊢
  by_cases hempty : leftTokens = [] ∨ rightTokens = []
  · rcases hempty with rfl | rfl
    · simp [overlap_empty_left]
    · rw [overlap_comm]
      simp [overlap_empty_left]
  · have hcount : leftTokens.countP (fun token => rightTokens.contains token) =
        (leftTokens.toFinset ∩ rightTokens.toFinset).card := by
      rw [List.countP_eq_length_filter,
        ← List.toFinset_card_of_nodup (hleft.filter _), List.toFinset_filter]
      congr 1
      ext token
      simp
    have hunion := Finset.card_union_add_card_inter leftTokens.toFinset rightTokens.toFinset
    rw [List.toFinset_card_of_nodup hleft, List.toFinset_card_of_nodup hright] at hunion
    have hsum : leftTokens.length + rightTokens.length -
        (leftTokens.toFinset ∩ rightTokens.toFinset).card =
          (leftTokens.toFinset ∪ rightTokens.toFinset).card := by
      omega
    have hfull : ¬ (leftTokens.isEmpty || rightTokens.isEmpty) = true := by
      simpa using hempty
    simp only [hcount, hsum]
    rw [if_neg hfull]
    rfl

theorem similarity_fingerprints (hchars : AlphanumericChars) (a b : String) :
    similarity (fingerprint a) (fingerprint b) = overlap (wordSet a) (wordSet b) := by
  have ha := splitWhitespace_fingerprint hchars a
  have hb := splitWhitespace_fingerprint hchars b
  rw [similarity_eq_overlap (ha ▸ nodup_fingerprintWords a) (hb ▸ nodup_fingerprintWords b),
    ha, hb, toFinset_fingerprintWords, toFinset_fingerprintWords]

/-- The similarity of two fingerprints is the overlap of the sets of words. -/
theorem similarity_isOverlap (hchars : AlphanumericChars) (a b : String) :
    similarity (fingerprint a) (fingerprint b) =
        ((wordSet a ∩ wordSet b).card : Rat) / ((wordSet a ∪ wordSet b).card : Rat) ∧
      (wordSet a = ∅ ∨ wordSet b = ∅ → similarity (fingerprint a) (fingerprint b) = 0) ∧
      similarity (fingerprint a) (fingerprint b) = similarity (fingerprint b) (fingerprint a) ∧
      0 ≤ similarity (fingerprint a) (fingerprint b) ∧
      similarity (fingerprint a) (fingerprint b) ≤ 1 ∧
      (similarity (fingerprint a) (fingerprint b) = 1 ↔
        wordSet a = wordSet b ∧ (wordSet a).Nonempty) ∧
      fingerprint (fingerprint a) = fingerprint a := by
  rw [similarity_fingerprints hchars a b, similarity_fingerprints hchars b a]
  refine ⟨rfl, ?_, overlap_comm _ _, overlap_nonneg _ _, overlap_le_one _ _,
    overlap_eq_one_iff _ _, fingerprint_fingerprint hchars a⟩
  rintro (hempty | hempty)
  · rw [hempty, overlap_empty_left]
  · rw [hempty, overlap_comm, overlap_empty_left]

end

theorem alphanumericChars_reference : @AlphanumericChars referenceExternals := by
  refine @AlphanumericChars.mk referenceExternals (fun c hc => ?_) fun c hc => ?_
  · have hc : c.isAlphanum = true := hc
    change ((c.isUpper || c.isLower) || c.isDigit) = true at hc
    rw [Bool.or_eq_true, Bool.or_eq_true, isUpper_iff, isLower_iff, isDigit_iff] at hc
    simp only [isWhitespace, Bool.or_eq_false_iff, Bool.and_eq_false_iff, decide_eq_false_iff_not,
      beq_eq_false_iff_ne]
    omega
  · show c.isAlphanum = true
    change ((c.isUpper || c.isLower) || c.isDigit) = true
    simp [hc]

theorem similarity_isOverlap_dogs :
    @similarity (@fingerprint referenceExternals "the Dog, the cat")
        (@fingerprint referenceExternals "dog!") = 1 / 3 ∧
      @fingerprint referenceExternals (@fingerprint referenceExternals "the Dog, the cat") =
        "cat dog the" := by
  have h := @similarity_isOverlap referenceExternals alphanumericChars_reference
    "the Dog, the cat" "dog!"
  obtain ⟨hshare, -, -, -, -, -, hagain⟩ := h
  have hcards : (@wordSet referenceExternals "the Dog, the cat" ∩
        @wordSet referenceExternals "dog!").card = 1 ∧
      (@wordSet referenceExternals "the Dog, the cat" ∪
        @wordSet referenceExternals "dog!").card = 3 ∧
      @fingerprint referenceExternals "the Dog, the cat" = "cat dog the" := by
    decide +kernel
  obtain ⟨hinter, hunion, hwords⟩ := hcards
  rw [hinter, hunion] at hshare
  exact ⟨by simpa using hshare, hagain.trans hwords⟩

end OpenPinch
