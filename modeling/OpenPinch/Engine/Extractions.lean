import OpenPinch.Engine.Text
import OpenPinch.Lib.Utf8

/-!
# Slices of a message

The engine finds a phrase in the lower-cased bytes of a message and slices the
message itself behind it.  A slice that begins inside a character panics.
`Bytewise` has the functions as they work on bytes.  None of their slices panics,
and they return what `Engine.Text` says (`extractAfterCaseInsensitive_eq`).
-/

namespace OpenPinch

open Lib (Utf8.encode Utf8.encode_append Utf8.encode_nil Utf8.encode_map_toLower Utf8.find
  Utf8.find_encode Utf8.find_eq_some Utf8.find_here Utf8.lower Utf8.toByteArray_eq_encode)

/-! ## Model -/

/-- The text from a byte on, `&text[offset..]`.  Nothing where it panics. -/
def sliceFrom (text : String) (offset : Nat) : Option String :=
  if IsCharBoundary text offset then fromUtf8 ((asBytes text).drop offset) else none

/-- The bytes of `str::to_ascii_lowercase`. -/
def lowerBytes (text : String) : Bytes := (asBytes text).map Utf8.lower

namespace Bytewise

/-- `extract_after_case_insensitive`. -/
def extractAfterCaseInsensitive (content marker : String) : Option (Option String) :=
  match Utf8.find (lowerBytes marker) (lowerBytes content) with
  | none => some none
  | some index => do
      let behind ← sliceFrom content (index + (asBytes marker).length)
      let value := trimChars (fun c => c == '.' || c == ':') (trimChars isWhitespace behind.toList)
      return if value = [] then none else some (String.ofList value)

/-- The first of the markers with something behind it. -/
def extractAfterAny (content : String) : List String → Option (Option String)
  | [] => some none
  | marker :: rest => do
      match ← extractAfterCaseInsensitive content marker with
      | some value => return some value
      | none => extractAfterAny content rest

/-- What follows a title, up to three words. -/
def titledMention (content : String) (titled : String × String) :
    Option (Option (String × String)) :=
  match Utf8.find (asBytes titled.1) (lowerBytes content) with
  | none => some none
  | some index => do
      let behind ← sliceFrom content (index + (asBytes titled.1).length)
      let remainder := String.intercalate " " ((splitWhitespace behind).take 3)
      return if remainder = "" then none else some (titled.2, remainder)

/-- `extract_environment_mentions`. -/
def extractEnvironmentMentions (content : String) : Option (List (String × String)) := do
  let lower := lowerBytes content
  let named := [(" production ", "deployment", "production"), (" prod ", "deployment", "prod"),
    (" staging ", "deployment", "staging"), (" stage ", "deployment", "stage"),
    (" development ", "deployment", "development"), (" dev ", "deployment", "dev"),
    (" remote ", "place", "remote"), (" office ", "place", "office"),
    (" home ", "place", "home")].filterMap fun (needle, subtype, title) =>
      if (Utf8.find (asBytes needle) lower).isSome then some (subtype, title) else none
  let titled ← [("project ", "project"), ("team ", "team")].mapM (titledMention content)
  return dedup ((named ++ titled.filterMap id).insertionSort fun left right => pairLe left right)

/-- `extract_task_summary`. -/
def extractTaskSummary (content : String) : Option (Option String) := do
  match ← extractAfterAny content ["remind me to ", "remember to ", "need to ", "needs to ",
      "please ", "todo: ", "todo ", "must "] with
  | some value => return some (truncateWithEllipsis value 180)
  | none =>
      let trimmed := trim content
      let lower := lowerBytes trimmed
      return if !endsWith trimmed "?" &&
          ["implement", "create", "fix", "update", "build", "memorize"].any fun verb =>
            (Utf8.find (asBytes verb) lower).isSome then
        some (truncateWithEllipsis trimmed 180)
      else none

/-- `extract_assistant_commitment`. -/
def extractAssistantCommitment (content : String) : Option (Option String) := do
  let found ← extractAfterAny content ["i will ", "i'll ", "next step is to ", "i can "]
  return found.map fun value => truncateWithEllipsis value 180

end Bytewise

/-! ## Offsets -/

theorem lowerBytes_eq (text : String) :
    lowerBytes text = Utf8.encode (toAsciiLowercase text).toList := by
  rw [lowerBytes, asBytes_eq, toAsciiLowercase, String.toList_ofList, Utf8.encode_map_toLower]

/-- Lower-casing keeps the number of bytes. -/
theorem length_encode_toLower (chars : List Char) :
    (Utf8.encode (chars.map Char.toLower)).length = (Utf8.encode chars).length := by
  rw [Utf8.encode_map_toLower, List.length_map]

/-- A slice between two parts of a text is the second part. -/
theorem sliceFrom_append (before behind : String) :
    sliceFrom (before ++ behind) (asBytes before).length = some behind := by
  have hboundary : IsCharBoundary (before ++ behind) (asBytes before).length :=
    ⟨before, behind, rfl, rfl⟩
  rw [sliceFrom, if_pos hboundary, asBytes_append, List.drop_left, fromUtf8_asBytes]

theorem findChars_eq (needle text : List Char) : findChars needle text = Utf8.find needle text := by
  induction text with
  | nil => rfl
  | cons c rest ih => simp [findChars, Utf8.find, ih, List.isPrefixOf_iff_prefix]

theorem toList_toAsciiLowercase (text : String) :
    (toAsciiLowercase text).toList = text.toList.map Char.toLower :=
  String.toList_ofList

/-- Where a phrase begins among the lower-cased bytes, by where it does among the characters. -/
theorem find_lowerBytes (needle : List Char) (content : String) :
    Utf8.find (Utf8.encode needle) (lowerBytes content) =
      (findChars needle (toAsciiLowercase content).toList).map fun i =>
        (Utf8.encode (content.toList.take i)).length := by
  rw [findChars_eq]
  cases needle with
  | nil =>
      rw [Utf8.encode_nil, Utf8.find_here List.nil_prefix, Utf8.find_here List.nil_prefix]
      rfl
  | cons c rest =>
      rw [lowerBytes_eq, Utf8.find_encode (List.cons_ne_nil c rest), toList_toAsciiLowercase]
      simp only [← List.map_take, length_encode_toLower]

/-- The characters at an occurrence, which are the phrase in lower case. -/
theorem map_take_of_findChars {needle : List Char} {content : String} {i : Nat}
    (h : findChars needle (toAsciiLowercase content).toList = some i) :
    ((content.toList.drop i).take needle.length).map Char.toLower = needle := by
  rw [findChars_eq, toList_toAsciiLowercase] at h
  obtain ⟨hthere, -⟩ := Utf8.find_eq_some h
  rw [← List.map_drop] at hthere
  rw [List.map_take]
  exact (List.prefix_iff_eq_take.mp hthere).symm

/-- The slice behind an occurrence begins between two characters. -/
theorem sliceFrom_behind {needle : List Char} {content : String} {i : Nat}
    (h : findChars needle (toAsciiLowercase content).toList = some i) :
    sliceFrom content ((Utf8.encode (content.toList.take i)).length +
        (Utf8.encode needle).length) =
      some (String.ofList (content.toList.drop (i + needle.length))) := by
  have hparts : content = String.ofList (content.toList.take (i + needle.length)) ++
      String.ofList (content.toList.drop (i + needle.length)) := by
    rw [← String.ofList_append, List.take_append_drop, String.ofList_toList]
  have hlength : (asBytes (String.ofList (content.toList.take (i + needle.length)))).length =
      (Utf8.encode (content.toList.take i)).length + (Utf8.encode needle).length := by
    conv_rhs => rw [← map_take_of_findChars h, length_encode_toLower]
    rw [asBytes_eq, String.toList_ofList, List.take_add, Utf8.encode_append, List.length_append]
  have hslice := sliceFrom_append (String.ofList (content.toList.take (i + needle.length)))
    (String.ofList (content.toList.drop (i + needle.length)))
  rwa [← hparts, hlength] at hslice

/-! ## What the functions return -/

/-- The slice behind a marker does not panic, and what is returned is that of
`Engine.Text`. -/
theorem extractAfterCaseInsensitive_eq (content marker : String) :
    Bytewise.extractAfterCaseInsensitive content marker =
      some (extractAfterCaseInsensitive content marker) := by
  have hbytes : (asBytes marker).length =
      (Utf8.encode (toAsciiLowercase marker).toList).length := by
    rw [toList_toAsciiLowercase, length_encode_toLower, asBytes_eq]
  have hchars : marker.toList.length = (toAsciiLowercase marker).toList.length := by
    rw [toList_toAsciiLowercase, List.length_map]
  unfold Bytewise.extractAfterCaseInsensitive extractAfterCaseInsensitive
  rw [lowerBytes_eq marker, find_lowerBytes]
  simp only
  cases hfound : findChars (toAsciiLowercase marker).toList (toAsciiLowercase content).toList with
  | none => simp
  | some i =>
      simp only [Option.map_some, Option.bind_some]
      rw [hbytes, hchars, sliceFrom_behind hfound]
      simp

theorem extractAfterAny_eq (content : String) (markers : List String) :
    Bytewise.extractAfterAny content markers =
      some (markers.findSome? (extractAfterCaseInsensitive content)) := by
  induction markers with
  | nil => rfl
  | cons marker rest ih =>
      rw [Bytewise.extractAfterAny, extractAfterCaseInsensitive_eq, List.findSome?_cons]
      cases extractAfterCaseInsensitive content marker with
      | none => exact ih
      | some value => rfl

/-- A phrase is found among the bytes when it is in the text. -/
theorem isSome_find_asBytes (needle content : String) :
    (Utf8.find (asBytes needle) (lowerBytes content)).isSome =
      containsText (toAsciiLowercase content) needle := by
  rw [asBytes_eq, find_lowerBytes, Option.isSome_map, containsText]

theorem titledMention_eq (content start subtype : String) :
    Bytewise.titledMention content (start, subtype) =
      some ((findChars start.toList (toAsciiLowercase content).toList).bind fun index =>
        let behind := String.ofList (content.toList.drop (index + start.toList.length))
        let remainder := String.intercalate " " ((splitWhitespace behind).take 3)
        if remainder = "" then none else some (subtype, remainder)) := by
  unfold Bytewise.titledMention
  simp only
  rw [asBytes_eq, find_lowerBytes]
  cases hfound : findChars start.toList (toAsciiLowercase content).toList with
  | none => simp
  | some i =>
      simp only [Option.map_some, Option.bind_some]
      rw [sliceFrom_behind hfound]
      simp

theorem extractEnvironmentMentions_eq (content : String) :
    Bytewise.extractEnvironmentMentions content = some (extractEnvironmentMentions content) := by
  unfold Bytewise.extractEnvironmentMentions extractEnvironmentMentions
  simp only [isSome_find_asBytes, List.mapM_cons, List.mapM_nil, titledMention_eq]
  rfl

theorem extractTaskSummary_eq (content : String) :
    Bytewise.extractTaskSummary content = some (extractTaskSummary content) := by
  unfold Bytewise.extractTaskSummary extractTaskSummary
  rw [extractAfterAny_eq]
  simp only [isSome_find_asBytes, Option.bind_eq_bind, Option.bind_some]
  cases List.findSome? (extractAfterCaseInsensitive content) _ with
  | none => rfl
  | some value => rfl

theorem extractAssistantCommitment_eq (content : String) :
    Bytewise.extractAssistantCommitment content = some (extractAssistantCommitment content) := by
  unfold Bytewise.extractAssistantCommitment extractAssistantCommitment
  rw [extractAfterAny_eq]
  rfl

/-! ## Values behind a marker -/

/-- The value stands behind the first occurrence of the marker, in whatever case the ASCII
letters are. -/
def FollowsFirst (content marker value : String) : Prop :=
  ∃ before found between behind, content = before ++ found ++ between ++ value ++ behind ∧
    toAsciiLowercase found = toAsciiLowercase marker ∧
    ∀ before' found' behind', content = before' ++ found' ++ behind' →
      toAsciiLowercase found' = toAsciiLowercase marker → before.length ≤ before'.length

/-- Trimming takes something away at both ends. -/
theorem isInfix_trimChars (test : Char → Bool) (text : List Char) :
    trimChars test text <:+: text := by
  have hback : trimChars test text <+: text.dropWhile test := by
    rw [← List.reverse_suffix, trimChars, List.reverse_reverse]
    exact List.dropWhile_suffix test
  exact hback.isInfix.trans (List.dropWhile_suffix test).isInfix

/-- The first occurrence is not behind any other. -/
theorem le_of_findChars {content marker before found behind : String} {i : Nat}
    (h : findChars (toAsciiLowercase marker).toList (toAsciiLowercase content).toList = some i)
    (hcontent : content = before ++ found ++ behind)
    (hfound : toAsciiLowercase found = toAsciiLowercase marker) : i ≤ before.length := by
  rw [findChars_eq] at h
  obtain ⟨-, hfirst⟩ := Utf8.find_eq_some h
  by_contra hlt
  refine hfirst before.length (Nat.lt_of_not_le hlt) ?_
  rw [← hfound, hcontent, toList_toAsciiLowercase, toList_toAsciiLowercase]
  simp [← String.length_toList]

theorem followsFirst_of_extractAfter {content marker value : String}
    (h : extractAfterCaseInsensitive content marker = some value) :
    value ≠ "" ∧ FollowsFirst content marker value := by
  obtain ⟨i, hfound, hvalue⟩ := Option.bind_eq_some_iff.mp h
  simp only at hvalue
  split at hvalue
  · cases hvalue
  rename_i hnonempty
  obtain rfl := Option.some.inj hvalue
  obtain ⟨between, behind, hparts⟩ := (isInfix_trimChars (fun c => c == '.' || c == ':') _).trans
    (isInfix_trimChars isWhitespace (content.toList.drop (i + marker.toList.length)))
  have hmarker : ((content.toList.drop i).take marker.toList.length).map Char.toLower =
      (toAsciiLowercase marker).toList := by
    have hthere := map_take_of_findChars hfound
    rwa [toList_toAsciiLowercase, List.length_map, ← toList_toAsciiLowercase] at hthere
  refine ⟨fun hempty => hnonempty (by simpa using hempty),
    String.ofList (content.toList.take i),
    String.ofList ((content.toList.drop i).take marker.toList.length), String.ofList between,
    String.ofList behind, ?_, ?_, fun before found behind hcontent hlower => ?_⟩
  · rw [← String.toList_inj]
    simp only [String.toList_append, String.toList_ofList]
    rw [List.append_assoc _ between, List.append_assoc _ (between ++ _), hparts, ← List.take_add,
      List.take_append_drop]
  · rw [← String.toList_inj, toList_toAsciiLowercase, String.toList_ofList, hmarker]
  · have hle := le_of_findChars hfound hcontent hlower
    simpa using Or.inl hle

/-- Slicing behind a marker or a title does not panic, and what follows a marker is a part of
the text behind its first occurrence that is not empty. -/
theorem extractions_between_characters (content marker : String) :
    (Bytewise.extractAfterCaseInsensitive content marker).isSome ∧
      (Bytewise.extractEnvironmentMentions content).isSome ∧
      ∀ value, Bytewise.extractAfterCaseInsensitive content marker = some (some value) →
        value ≠ "" ∧ FollowsFirst content marker value := by
  rw [extractAfterCaseInsensitive_eq, extractEnvironmentMentions_eq]
  exact ⟨rfl, rfl, fun value h => followsFirst_of_extractAfter (Option.some.inj h)⟩

end OpenPinch
