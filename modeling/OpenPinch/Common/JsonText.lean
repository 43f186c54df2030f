import OpenPinch.Common.Reference

/-!
# Compact JSON texts

A writer and a reader of JSON without white space, and the reference choice of
the external functions that has them.  Numbers are integers.  Control characters
stand in a string as escapes only: the writer escapes them, and the reader refuses
them raw.  An object of strings is read back as it was written.
-/

namespace OpenPinch

namespace Json

/-! ## Writing -/

/-- A character below the blank, which a string must not have raw. -/
def isControl (c : Char) : Bool := c.toNat < 32

/-- What stands for a character of a string. -/
def escapeChar (c : Char) : List Char :=
  if c = '"' ∨ c = '\\' then ['\\', c]
  else if isControl c then
    ['\\', 'u', '0', '0', Nat.digitChar (c.toNat / 16), Nat.digitChar (c.toNat % 16)]
  else [c]

/-- The characters of a string between its quotes. -/
def escape (text : List Char) : List Char := text.flatMap escapeChar

/-- A string in quotes. -/
def quote (text : String) : List Char := '"' :: escape text.toList ++ ['"']

mutual

/-- The characters of a value. -/
def write : Json → List Char
  | .null => "null".toList
  | .bool true => "true".toList
  | .bool false => "false".toList
  | .num value => (toString value.num).toList
  | .str text => quote text
  | .arr items => '[' :: writeItems items ++ [']']
  | .obj members => '\x7b' :: writeMembers members ++ ['\x7d']

/-- The items of an array. -/
def writeItems : List Json → List Char
  | [] => []
  | [item] => write item
  | item :: rest => write item ++ ',' :: writeItems rest

/-- The members of an object. -/
def writeMembers : List (String × Json) → List Char
  | [] => []
  | [(name, value)] => quote name ++ ':' :: write value
  | (name, value) :: rest => quote name ++ ':' :: write value ++ ',' :: writeMembers rest

end

/-! ## Reading -/

/-- The value of a hexadecimal digit. -/
def hexValue (c : Char) : Option Nat := (List.range 16).find? fun n => Nat.digitChar n == c.toLower

/-- The character of an escape of two digits. -/
def unescape (high low : Char) : Option Char := do
  let h ← hexValue high
  let l ← hexValue low
  return Char.ofNat (16 * h + l)

/-- The characters of a string up to its closing quote, and what follows. -/
def readString : List Char → Option (List Char × List Char)
  | [] => none
  | '"' :: rest => some ([], rest)
  | '\\' :: 'u' :: '0' :: '0' :: high :: low :: rest => do
      let c ← unescape high low
      let (text, rest) ← readString rest
      return (c :: text, rest)
  | '\\' :: c :: rest =>
      if c = '"' ∨ c = '\\' then (readString rest).map fun (text, rest) => (c :: text, rest)
      else none
  | c :: rest =>
      if isControl c then none else (readString rest).map fun (text, rest) => (c :: text, rest)

/-- The digits at the front as a number, after the number before them. -/
def readDigits (before : Nat) : List Char → Nat × List Char
  | [] => (before, [])
  | c :: rest =>
      if c.isDigit then readDigits (10 * before + (c.toNat - '0'.toNat)) rest
      else (before, c :: rest)

mutual

/-- A value of at most that depth, and what follows it. -/
def readValue : Nat → List Char → Option (Json × List Char)
  | 0, _ => none
  | depth + 1, text =>
      match text with
      | 'n' :: 'u' :: 'l' :: 'l' :: rest => some (.null, rest)
      | 't' :: 'r' :: 'u' :: 'e' :: rest => some (.bool true, rest)
      | 'f' :: 'a' :: 'l' :: 's' :: 'e' :: rest => some (.bool false, rest)
      | '"' :: rest => (readString rest).map fun (text, rest) => (.str (String.ofList text), rest)
      | '[' :: ']' :: rest => some (.arr [], rest)
      | '[' :: rest => (readItems depth rest).map fun (items, rest) => (.arr items, rest)
      | '\x7b' :: '\x7d' :: rest => some (.obj [], rest)
      | '\x7b' :: rest => (readMembers depth rest).map fun (members, rest) => (.obj members, rest)
      | '-' :: rest =>
          let (value, rest) := readDigits 0 rest
          some (.num (-value), rest)
      | c :: rest =>
          if c.isDigit then
            let (value, rest) := readDigits 0 (c :: rest)
            some (.num value, rest)
          else none
      | [] => none

/-- The items of an array up to its closing bracket. -/
def readItems : Nat → List Char → Option (List Json × List Char)
  | 0, _ => none
  | depth + 1, text => do
      let (item, rest) ← readValue depth text
      match rest with
      | ']' :: rest => some ([item], rest)
      | ',' :: rest => do
          let (items, rest) ← readItems depth rest
          some (item :: items, rest)
      | _ => none

/-- The members of an object up to its closing brace. -/
def readMembers : Nat → List Char → Option (List (String × Json) × List Char)
  | 0, _ => none
  | depth + 1, text =>
      match text with
      | '"' :: rest => do
          let (name, rest) ← readString rest
          match rest with
          | ':' :: rest => do
              let (value, rest) ← readValue depth rest
              let member := (String.ofList name, value)
              match rest with
              | '\x7d' :: rest => some ([member], rest)
              | ',' :: rest => do
                  let (members, rest) ← readMembers depth rest
                  some (member :: members, rest)
              | _ => none
          | _ => none
      | _ => none

end

/-- A whole text as a value. -/
def read (text : String) : Option Json :=
  match readValue (text.toList.length + 1) text.toList with
  | some (value, []) => some value
  | _ => none

/-- The two digits of a control character give it back. -/
theorem unescape_digits {c : Char} (hc : isControl c = true) :
    unescape (Nat.digitChar (c.toNat / 16)) (Nat.digitChar (c.toNat % 16)) = some c := by
  have hvalue : ∀ n < 16, hexValue (Nat.digitChar n) = some n := by decide
  have hsmall : c.toNat < 32 := of_decide_eq_true hc
  rw [unescape, hvalue _ (by omega), hvalue _ (Nat.mod_lt _ (by decide))]
  simp only [Option.bind_eq_bind, Option.bind_some, Nat.div_add_mod, Char.ofNat_toNat]
  rfl

/-- A string is read back as it was written. -/
theorem readString_escape (text rest : List Char) :
    readString (escape text ++ '"' :: rest) = some (text, rest) := by
  induction text with
  | nil => simp [escape, readString]
  | cons c text ih =>
      rw [escape, List.flatMap_cons, ← escape, List.append_assoc, escapeChar]
      by_cases hc : c = '"' ∨ c = '\\'
      · rw [if_pos hc]
        rcases hc with rfl | rfl <;> simp [readString, ih]
      · obtain ⟨hquote, hslash⟩ := not_or.mp hc
        rw [if_neg hc]
        cases hcontrol : isControl c with
        | true =>
            simp only [if_true, List.cons_append, List.nil_append]
            rw [readString, unescape_digits hcontrol, ih]
            rfl
        | false =>
            simp only [Bool.false_eq_true, if_false, List.cons_append, List.nil_append]
            rw [readString, hcontrol, ih]
            · rfl
            · exact hquote
            · exact fun _ _ _ h => absurd h hslash
            · exact fun _ _ h => absurd h hslash

/-! ## Objects of strings -/

theorem quote_append (text : String) (rest : List Char) :
    quote text ++ rest = '"' :: (escape text.toList ++ '"' :: rest) := by
  simp [quote]

/-- A string value is read back, whatever follows it. -/
theorem readValue_quote (text : String) (depth : Nat) (rest : List Char) :
    readValue (depth + 1) (quote text ++ rest) = some (.str text, rest) := by
  rw [quote_append, readValue, readString_escape]
  simp

/-- An object of strings. -/
def texts (members : List (String × String)) : Json :=
  .obj (members.map fun member => (member.1, .str member.2))

/-- The last member that is a string. -/
theorem readMembers_last (member : String × String) (depth : Nat) (rest : List Char) :
    readMembers (depth + 2) (quote member.1 ++ ':' :: (quote member.2 ++ '\x7d' :: rest)) =
      some ([(member.1, .str member.2)], rest) := by
  rw [quote_append, readMembers, readString_escape]
  simp [readValue_quote]

/-- A member that is a string, before others. -/
theorem readMembers_next (member : String × String) (depth : Nat) (rest : List Char) :
    readMembers (depth + 2) (quote member.1 ++ ':' :: (quote member.2 ++ ',' :: rest)) =
      (readMembers (depth + 1) rest).map fun (members, rest) =>
        ((member.1, .str member.2) :: members, rest) := by
  rw [quote_append, readMembers, readString_escape]
  simp only [Option.bind_eq_bind, Option.bind_some, readValue_quote, String.ofList_toList]
  cases readMembers (depth + 1) rest <;> rfl

/-- Members that are strings are read back, up to the closing brace. -/
theorem readMembers_write (member : String × String) (members : List (String × String))
    (rest : List Char) {depth : Nat} (h : members.length + 1 < depth) :
    readMembers depth
        (writeMembers ((member :: members).map fun member => (member.1, .str member.2)) ++
          '\x7d' :: rest) =
      some ((member :: members).map fun member => (member.1, .str member.2), rest) := by
  induction members generalizing member depth with
  | nil =>
      obtain ⟨depth, rfl⟩ : ∃ d, depth = d + 2 := ⟨depth - 2, by simp at h; omega⟩
      have hlast := readMembers_last member depth rest
      simpa [writeMembers, write] using hlast
  | cons next members ih =>
      obtain ⟨depth, rfl⟩ : ∃ d, depth = d + 2 := ⟨depth - 2, by simp at h; omega⟩
      have hroom : members.length + 1 < depth + 1 := by
        simp only [List.length_cons] at h
        omega
      have hnext := readMembers_next member depth (writeMembers
        ((next :: members).map fun member => (member.1, .str member.2)) ++ '\x7d' :: rest)
      rw [ih next hroom] at hnext
      simpa [writeMembers, write] using hnext

theorem length_writeMembers (members : List (String × Json)) :
    members.length ≤ (writeMembers members).length := by
  induction members with
  | nil => simp
  | cons member members ih =>
      cases members with
      | nil =>
          simp only [writeMembers, quote, List.length_append, List.length_cons, List.length_nil]
          omega
      | cons next members =>
          simp only [writeMembers, List.length_cons, List.length_append] at ih ⊢
          omega

/-- An object of strings is read back as it was written. -/
theorem read_write_texts (members : List (String × String)) :
    read (String.ofList (texts members).write) = some (texts members) := by
  have hvalue : readValue ((texts members).write.length + 1) (texts members).write =
      some (texts members, []) := by
    cases members with
    | nil => rfl
    | cons member members =>
        have hlength := length_writeMembers
          ((member :: members).map fun member => (member.1, .str member.2))
        have hroom : members.length + 1 < (texts (member :: members)).write.length := by
          simp only [texts, write, List.length_cons, List.length_append, List.length_map]
            at hlength ⊢
          omega
        have hmembers := readMembers_write member members [] hroom
        obtain ⟨tail, htail⟩ : ∃ tail, writeMembers
            ((member :: members).map fun member => (member.1, .str member.2)) ++ ['\x7d'] =
              '"' :: tail := by
          cases members with
          | nil => exact ⟨_, rfl⟩
          | cons next members => exact ⟨_, rfl⟩
        have hopen : (texts (member :: members)).write = '\x7b' :: '"' :: tail :=
          congrArg ('\x7b' :: ·) htail
        rw [htail] at hmembers
        conv_lhs => rw [hopen]
        rw [readValue, ← hopen, hmembers]
        · rfl
        · nofun
  rw [read, String.toList_ofList, hvalue]

end Json

/-- The reference choice, with the writer and the reader. -/
@[reducible] def jsonExternals : Externals :=
  { referenceExternals with
    jsonParse := Json.read
    jsonText := fun value => String.ofList value.write
    jsonPretty := fun value => String.ofList value.write }

end OpenPinch
