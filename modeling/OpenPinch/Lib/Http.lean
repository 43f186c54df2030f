import OpenPinch.Lib.Utf8

/-!
# The frame of a request

HTTP/1.1 over a byte stream: a request line, header lines and an empty line, all
ended by CR LF, and a body of as many bytes as `Content-Length` says.  A
well-formed request is read back from its bytes, and from no more and no fewer
(`read_write`).
-/

namespace Lib.Http

/-- A request.  The header fields are in the order of their lines. -/
structure Request where
  method : List UInt8
  target : List UInt8
  fields : List (List UInt8 × List UInt8)
  body : List UInt8
deriving DecidableEq

/-! ## Lines -/

/-- The bytes of a text. -/
abbrev bytes (text : String) : List UInt8 := Utf8.encode text.toList

/-- The line end. -/
def crlf : List UInt8 := [13, 10]

/-- The lines up to the empty one, and what is behind it.  The argument is the
part of the first line that has been read. -/
def readLines : List UInt8 → List UInt8 → Option (List (List UInt8) × List UInt8)
  | _, [] => none
  | line, 13 :: 10 :: rest =>
      if line = [] then some ([], rest)
      else (readLines [] rest).map fun (lines, rest) => (line :: lines, rest)
  | line, b :: rest => readLines (line ++ [b]) rest

theorem readLines_cons {b : UInt8} (hb : b ≠ 13) (line rest : List UInt8) :
    readLines line (b :: rest) = readLines (line ++ [b]) rest := by
  rw [readLines]
  intro _ heq _
  exact hb heq

/-- A part of a line without CR is read into the line. -/
theorem readLines_append {part : List UInt8} (hpart : 13 ∉ part) (line rest : List UInt8) :
    readLines line (part ++ rest) = readLines (line ++ part) rest := by
  induction part generalizing line with
  | nil => rw [List.nil_append, List.append_nil]
  | cons b part ih =>
      obtain ⟨hb, hpart⟩ := not_or.mp (List.mem_cons.not.mp hpart)
      rw [List.cons_append, readLines_cons (Ne.symm hb), ih hpart, List.append_assoc]
      rfl

theorem readLines_crlf {line : List UInt8} (hline : line ≠ []) (rest : List UInt8) :
    readLines line (crlf ++ rest) =
      (readLines [] rest).map fun (lines, rest) => (line :: lines, rest) :=
  if_neg hline

/-- Lines are read back up to the empty one. -/
theorem readLines_write {lines : List (List UInt8)} (hcr : ∀ line ∈ lines, 13 ∉ line)
    (hne : ∀ line ∈ lines, line ≠ []) (rest : List UInt8) :
    readLines [] (lines.flatMap (· ++ crlf) ++ crlf ++ rest) = some (lines, rest) := by
  induction lines with
  | nil => rfl
  | cons line lines ih =>
      obtain ⟨hline, hcr⟩ := List.forall_mem_cons.mp hcr
      obtain ⟨hfilled, hne⟩ := List.forall_mem_cons.mp hne
      have hrest := ih hcr hne
      simp only [List.flatMap_cons, List.append_assoc] at hrest ⊢
      rw [readLines_append hline, List.nil_append, readLines_crlf hfilled, hrest]
      rfl

/-! ## Numbers -/

/-- A number in decimal. -/
def decimal (n : Nat) : List UInt8 := Utf8.encode (Nat.toDigits 10 n)

/-- The number that decimal digits stand for. -/
def readDecimal (digits : List UInt8) : Option Nat :=
  let chars := digits.map fun b => Char.ofNat b.toNat
  if chars ≠ [] ∧ chars.all Char.isDigit then some (Nat.ofDigitChars 10 chars 0) else none

theorem toNat_digit_le {c : Char} (h : c.isDigit = true) : c.toNat ≤ 57 := by
  simp only [Char.isDigit, Bool.and_eq_true, decide_eq_true_eq, UInt32.le_iff_toNat_le] at h
  exact h.2

theorem utf8EncodeChar_digit {c : Char} (h : c.isDigit = true) :
    String.utf8EncodeChar c = [UInt8.ofNat c.toNat] := by
  have hsmall : c.val.toNat ≤ 57 := toNat_digit_le h
  fun_cases String.utf8EncodeChar c with
  | case1 v hone => rfl
  | case2 v hone htwo => exact absurd hsmall (by omega)
  | case3 v hone htwo hthree => exact absurd hsmall (by omega)
  | case4 v hone htwo hthree => exact absurd hsmall (by omega)

theorem encode_digits {chars : List Char} (h : ∀ c ∈ chars, c.isDigit = true) :
    Utf8.encode chars = chars.map fun c => UInt8.ofNat c.toNat := by
  induction chars with
  | nil => rfl
  | cons c chars ih =>
      obtain ⟨hc, hchars⟩ := List.forall_mem_cons.mp h
      rw [Utf8.encode_cons, utf8EncodeChar_digit hc, ih hchars]
      rfl

theorem isDigit_toDigits {n : Nat} {c : Char} (h : c ∈ Nat.toDigits 10 n) : c.isDigit = true :=
  Nat.isDigit_of_mem_toDigits (by decide) (by decide) h

theorem ofNat_toNat_digit {c : Char} (h : c.isDigit = true) :
    Char.ofNat (UInt8.ofNat c.toNat).toNat = c := by
  have hsmall := toNat_digit_le h
  rw [UInt8.toNat_ofNat', Nat.mod_eq_of_lt (by omega), Char.ofNat_toNat]

/-- A number is read back. -/
theorem readDecimal_decimal (n : Nat) : readDecimal (decimal n) = some n := by
  have hdigits : ∀ c ∈ Nat.toDigits 10 n, c.isDigit = true := fun c => isDigit_toDigits
  have hchars : (decimal n).map (fun b => Char.ofNat b.toNat) = Nat.toDigits 10 n := by
    rw [decimal, encode_digits hdigits, List.map_map]
    exact (List.map_congr_left fun c hc => ofNat_toNat_digit (hdigits c hc)).trans (List.map_id _)
  have hne : Nat.toDigits 10 n ≠ [] := Nat.toDigits_ne_nil
  unfold readDecimal
  rw [hchars]
  exact (if_pos ⟨hne, List.all_eq_true.mpr hdigits⟩).trans
    (congrArg some Nat.ofDigitChars_ten_toDigits)

theorem cr_notMem_decimal (n : Nat) : 13 ∉ decimal n := by
  intro hmem
  rw [decimal, encode_digits fun c => isDigit_toDigits] at hmem
  obtain ⟨c, hc, heq⟩ := List.mem_map.mp hmem
  have hback := ofNat_toNat_digit (isDigit_toDigits hc)
  rw [heq] at hback
  subst hback
  exact absurd (isDigit_toDigits hc) (by decide)

/-! ## Requests -/

/-- The request line. -/
def requestLine (request : Request) : List UInt8 :=
  [32].intercalate [request.method, request.target, bytes "HTTP/1.1"]

/-- The line of a header field. -/
def fieldLine (field : List UInt8 × List UInt8) : List UInt8 :=
  field.1 ++ 58 :: 32 :: field.2

/-- The bytes of a request. -/
def write (request : Request) : List UInt8 :=
  (requestLine request :: request.fields.map fieldLine).flatMap (· ++ crlf) ++ crlf ++
    request.body

/-- The method and the target of a request line. -/
def readRequestLine (line : List UInt8) : Option (List UInt8 × List UInt8) :=
  match line.splitOn 32 with
  | [method, target, version] => if version = bytes "HTTP/1.1" then some (method, target) else none
  | _ => none

/-- The name and the value of a header line. -/
def readField (line : List UInt8) : Option (List UInt8 × List UInt8) :=
  match line.span (· ≠ 58) with
  | (name, 58 :: 32 :: value) => some (name, value)
  | _ => none

/-- The length of the body that the header fields announce. -/
def contentLength (fields : List (List UInt8 × List UInt8)) : Option Nat := do
  let field ← fields.find? fun field => field.1.map Utf8.lower == bytes "content-length"
  readDecimal field.2

/-- A request with nothing behind it. -/
def read (input : List UInt8) : Option Request := do
  let (lines, body) ← readLines [] input
  match lines with
  | [] => none
  | first :: rest => do
      let (method, target) ← readRequestLine first
      let fields ← rest.mapM readField
      let length ← contentLength fields
      if body.length = length then some ⟨method, target, fields, body⟩ else none

/-- Nothing in the head of the request ends a part of it early, and the body has
the length that is announced. -/
structure WellFormed (request : Request) : Prop where
  method : 32 ∉ request.method ∧ 13 ∉ request.method
  target : 32 ∉ request.target ∧ 13 ∉ request.target
  fields : ∀ field ∈ request.fields, 58 ∉ field.1 ∧ 13 ∉ field.1 ∧ 13 ∉ field.2
  length : contentLength request.fields = some request.body.length

theorem readRequestLine_requestLine {request : Request} (h : WellFormed request) :
    readRequestLine (requestLine request) = some (request.method, request.target) := by
  have hversion : (32 : UInt8) ∉ bytes "HTTP/1.1" := by decide
  have hsplit : (requestLine request).splitOn 32 =
      [request.method, request.target, bytes "HTTP/1.1"] :=
    List.splitOn_intercalate 32 (by simp [h.method.1, h.target.1, hversion]) (by simp)
  unfold readRequestLine
  rw [hsplit]
  exact if_pos rfl

theorem readField_fieldLine {field : List UInt8 × List UInt8} (h : 58 ∉ field.1) :
    readField (fieldLine field) = some field := by
  have hspan : (fieldLine field).span (· ≠ 58) = (field.1, 58 :: 32 :: field.2) := by
    unfold fieldLine
    rw [List.span_eq_takeWhile_dropWhile, List.takeWhile_append_of_pos,
      List.dropWhile_append_of_pos]
    · simp
    · intro b hb
      simpa using ne_of_mem_of_not_mem hb h
    · intro b hb
      simpa using ne_of_mem_of_not_mem hb h
  unfold readField
  rw [hspan]
  rfl

theorem mapM_readField {fields : List (List UInt8 × List UInt8)}
    (h : ∀ field ∈ fields, 58 ∉ field.1) :
    fields.mapM (readField ∘ fieldLine) = some fields := by
  induction fields with
  | nil => rfl
  | cons field fields ih =>
      obtain ⟨hfield, hrest⟩ := List.forall_mem_cons.mp h
      rw [List.mapM_cons, Function.comp_apply, readField_fieldLine hfield, ih hrest]
      rfl

theorem cr_notMem_lines {request : Request} (h : WellFormed request) :
    ∀ line ∈ requestLine request :: request.fields.map fieldLine, 13 ∉ line := by
  have hversion : (13 : UInt8) ∉ bytes "HTTP/1.1" := by decide
  refine List.forall_mem_cons.mpr ⟨?_, List.forall_mem_map.mpr fun field hfield => ?_⟩
  · simp [requestLine, h.method.2, h.target.2, hversion]
  · obtain ⟨-, hname, hvalue⟩ := h.fields field hfield
    simp [fieldLine, hname, hvalue]

/-- A well-formed request is read back. -/
theorem read_write {request : Request} (h : WellFormed request) :
    read (write request) = some request := by
  have hfilled : ∀ line ∈ requestLine request :: request.fields.map fieldLine, line ≠ [] := by
    refine List.forall_mem_cons.mpr ⟨?_, List.forall_mem_map.mpr fun field _ => ?_⟩
    · simp [requestLine]
    · simp [fieldLine]
  have hfields : (request.fields.map fieldLine).mapM readField = some request.fields := by
    rw [List.mapM_map]
    exact mapM_readField fun field hfield => (h.fields field hfield).1
  unfold read write
  rw [readLines_write (cr_notMem_lines h) hfilled]
  simp [readRequestLine_requestLine h, hfields, h.length]

end Lib.Http
