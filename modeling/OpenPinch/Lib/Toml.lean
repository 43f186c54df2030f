import Mathlib.Algebra.Group.Int.Defs
import Mathlib.Data.String.Basic
import OpenPinch.Lib.SortedMap

/-!
# TOML values and typed readings

A `Codec` writes values of a type as TOML and reads them back.  A `Record` is a
structure type with named members.  Every member has a value for when the table
does not mention it, and members that the type does not know are skipped.  A
record that is written reads back as it was, whichever reader reads it
(`Record.codec`).

There are two readers.  One reads the document and the other a value that was
read before.  They differ on arrays that are too long and on date-times.
-/

namespace Lib

/-! ## Values -/

/-- A double-precision number, by its bits. -/
structure F64 where
  bits : Nat
deriving DecidableEq, Repr

namespace F64

/-- The nearest number of 53 significant bits to a positive integer, ties to even. -/
def magnitude (n : Nat) : Nat :=
  let exponent := n.log2
  let shift := exponent - 52
  let kept := n >>> shift
  let cut := n - kept <<< shift
  let half := if shift = 0 then 1 else 2 ^ (shift - 1)
  let rounded := if half < cut ∨ half = cut ∧ kept % 2 = 1 then kept + 1 else kept
  (exponent + 1022) * 2 ^ 52 + rounded <<< (52 - exponent)

/-- The conversion of an integer, `n as f64`. -/
def ofInt (n : Int) : F64 :=
  match n with
  | 0 => ⟨0⟩
  | .ofNat n => ⟨magnitude n⟩
  | .negSucc n => ⟨2 ^ 63 + magnitude (n + 1)⟩

end F64

/-- A TOML value.  The members of a table are in the order of their keys. -/
inductive Toml
  | string (text : String)
  | integer (n : Int)
  | float (x : F64)
  | boolean (b : Bool)
  | datetime (text : String)
  | array (items : List Toml)
  | table (entries : List (String × Toml))

namespace Toml

/-- The members of a table, `as_table`. -/
def asTable : Toml → Option (List (String × Toml))
  | table entries => some entries
  | _ => none

/-- `as_bool`. -/
def asBool : Toml → Option Bool
  | boolean b => some b
  | _ => none

/-- `as_str`. -/
def asStr : Toml → Option String
  | string text => some text
  | _ => none

/-- The member of a table with this key, `get`. -/
def get (value : Toml) (key : String) : Option Toml :=
  value.asTable.bind fun entries => entries.lookup key

@[simp] theorem get_table (entries : List (String × Toml)) (key : String) :
    (table entries).get key = entries.lookup key := rfl

/-- The table with these members. -/
def ofMembers (members : List (String × Toml)) : Toml :=
  table (SortedMap.ofEntries members).entries

@[simp] theorem get_ofMembers (members : List (String × Toml)) (key : String) :
    (ofMembers members).get key = members.lookup key := by
  rw [ofMembers, get_table, SortedMap.lookup_entries, SortedMap.get?_ofEntries]

/-- The deserializers: of the document and of a value. -/
inductive Reader
  | text
  | value
deriving DecidableEq, Repr

/-! ## Codecs -/

/-- Writing values of a type and reading them back.  A value may be too large to
be written. -/
structure Codec (α : Type) where
  encode : α → Option Toml
  decode : Reader → Toml → Option α
  /-- What is written reads back. -/
  decode_encode : ∀ {a : α} {t : Toml} (reader : Reader), encode a = some t →
    decode reader t = some a

namespace Codec

/-- Strings.  A value reader takes a date-time for its text. -/
def string : Codec String where
  encode text := some (.string text)
  decode reader
    | .string text => some text
    | .datetime text => if reader = .value then some text else none
    | _ => none
  decode_encode reader h := by cases h; rfl

/-- Booleans. -/
def bool : Codec Bool where
  encode b := some (.boolean b)
  decode _ t := t.asBool
  decode_encode reader h := by cases h; rfl

/-- Unsigned integers below a limit. -/
def natBelow (limit : Nat) : Codec Nat where
  encode n := if n < limit then some (.integer n) else none
  decode _
    | .integer n => if 0 ≤ n ∧ n < limit then some n.toNat else none
    | _ => none
  decode_encode {n t} reader h := by
    split at h
    case isTrue hn =>
      cases h
      simp [hn]
    case isFalse => cases h

/-- Signed integers of 64 bits. -/
def int64 : Codec Int where
  encode n := if -2 ^ 63 ≤ n ∧ n < 2 ^ 63 then some (.integer n) else none
  decode _
    | .integer n => if -2 ^ 63 ≤ n ∧ n < 2 ^ 63 then some n else none
    | _ => none
  decode_encode {n t} reader h := by
    split at h
    case isTrue hn =>
      cases h
      exact if_pos hn
    case isFalse => cases h

/-- Floats, which integers are read as, too. -/
def float : Codec F64 where
  encode x := some (.float x)
  decode _
    | .float x => some x
    | .integer n => some (.ofInt n)
    | _ => none
  decode_encode reader h := by cases h; rfl

theorem mapM_mapM {α β : Type} {f : α → Option β} {g : β → Option α}
    (h : ∀ {a b}, f a = some b → g b = some a) {as : List α} {bs : List β}
    (hmap : as.mapM f = some bs) : bs.mapM g = some as := by
  induction as generalizing bs with
  | nil =>
      cases hmap
      rfl
  | cons a rest ih =>
      simp only [List.mapM_cons, Option.bind_eq_bind, Option.bind_eq_some_iff, Option.pure_def,
        Option.some.injEq] at hmap
      obtain ⟨b, hb, bs', hrest, rfl⟩ := hmap
      simp [h hb, ih hrest]

/-- Lists. -/
def list {α : Type} (item : Codec α) : Codec (List α) where
  encode items := (items.mapM item.encode).map .array
  decode reader
    | .array items => items.mapM (item.decode reader)
    | _ => none
  decode_encode {items t} reader h := by
    obtain ⟨ts, hts, rfl⟩ := Option.map_eq_some_iff.mp h
    exact mapM_mapM (item.decode_encode reader) hts

/-- A reading of the value of an entry. -/
def entry {α β : Type} (f : α → Option β) (e : String × α) : Option (String × β) :=
  (f e.2).map fun b => (e.1, b)

theorem entry_entry {α β : Type} {f : α → Option β} {g : β → Option α}
    (h : ∀ {a b}, f a = some b → g b = some a) {e : String × α} {e' : String × β}
    (he : entry f e = some e') : entry g e' = some e := by
  obtain ⟨b, hb, rfl⟩ := Option.map_eq_some_iff.mp he
  simp [entry, h hb]

/-- Reading all entries reads each value. -/
theorem mapM_entry_cons {α β : Type} {f : α → Option β} {e : String × α}
    {rest : List (String × α)} {bs : List (String × β)}
    (h : (e :: rest).mapM (entry f) = some bs) :
    ∃ b bs', f e.2 = some b ∧ rest.mapM (entry f) = some bs' ∧ bs = (e.1, b) :: bs' := by
  simp only [List.mapM_cons, Option.bind_eq_bind, Option.bind_eq_some_iff, Option.pure_def,
    Option.some.injEq, entry, Option.map_eq_some_iff] at h
  obtain ⟨e', ⟨b, hb, rfl⟩, bs', hrest, rfl⟩ := h
  exact ⟨b, bs', hb, hrest, rfl⟩

theorem lookup_of_mapM_entry {α β : Type} {f : α → Option β} {as : List (String × α)}
    {bs : List (String × β)} (h : as.mapM (entry f) = some bs) (key : String) :
    bs.lookup key = (as.lookup key).bind f := by
  induction as generalizing bs with
  | nil =>
      cases h
      rfl
  | cons e rest ih =>
      obtain ⟨b, bs', hb, hrest, rfl⟩ := mapM_entry_cons h
      rw [List.lookup_cons, List.lookup_cons]
      cases key == e.1 with
      | true => exact hb.symm
      | false => exact ih hrest

/-- Reading all entries reads the value of each key. -/
theorem exists_of_mapM_entry {α β : Type} {f : α → Option β} {as : List (String × α)}
    {bs : List (String × β)} (h : as.mapM (entry f) = some bs) {key : String} {a : α}
    (ha : as.lookup key = some a) : ∃ b, f a = some b := by
  induction as generalizing bs with
  | nil => cases ha
  | cons e rest ih =>
      obtain ⟨b, bs', hb, hrest, rfl⟩ := mapM_entry_cons h
      rw [List.lookup_cons] at ha
      cases hkey : key == e.1 with
      | true =>
          rw [hkey] at ha
          exact ⟨b, Option.some.inj ha ▸ hb⟩
      | false =>
          rw [hkey] at ha
          exact ih hrest ha

/-- What was written entry by entry is read so, by whatever reads each value. -/
theorem mapM_entry_mapM_entry {α β γ : Type} {f : α → Option β} {g : β → Option γ} {read : α → γ}
    (h : ∀ {a b}, f a = some b → g b = some (read a)) {as : List (String × α)}
    {bs : List (String × β)} (hmap : as.mapM (entry f) = some bs) :
    bs.mapM (entry g) = some (as.map fun e => (e.1, read e.2)) := by
  induction as generalizing bs with
  | nil =>
      cases hmap
      rfl
  | cons e rest ih =>
      obtain ⟨b, bs', hb, hrest, rfl⟩ := mapM_entry_cons hmap
      simp [entry, h hb, ih hrest]

theorem lookup_map_entry {α γ : Type} (read : α → γ) (as : List (String × α)) (key : String) :
    (as.map fun e => (e.1, read e.2)).lookup key = (as.lookup key).map read := by
  induction as with
  | nil => rfl
  | cons e rest ih =>
      rw [List.map_cons, List.lookup_cons, List.lookup_cons]
      cases key == e.1 with
      | true => rfl
      | false => exact ih

/-- Maps, which are tables. -/
def map {α : Type} (item : Codec α) : Codec (SortedMap String α) where
  encode m := (m.entries.mapM (entry item.encode)).map .table
  decode reader
    | .table entries => (entries.mapM (entry (item.decode reader))).map SortedMap.ofEntries
    | _ => none
  decode_encode {m t} reader h := by
    obtain ⟨ts, hts, rfl⟩ := Option.map_eq_some_iff.mp h
    simp only [mapM_mapM (entry_entry (item.decode_encode reader)) hts, Option.map_some,
      SortedMap.ofEntries_entries]

/-- The map that is read has the value that is read for each member. -/
theorem get?_of_decode_map {α : Type} {item : Codec α} {reader : Reader} {t : Toml}
    {m : SortedMap String α} (h : item.map.decode reader t = some m) (key : String) :
    m.get? key = (t.get key).bind (item.decode reader) := by
  cases t with
  | table entries =>
      obtain ⟨es, hes, rfl⟩ := Option.map_eq_some_iff.mp h
      rw [SortedMap.get?_ofEntries, lookup_of_mapM_entry hes, get_table]
  | _ => cases h

/-- The member that is written for each value of a map. -/
theorem get_of_encode_map {α : Type} {item : Codec α} {t : Toml} {m : SortedMap String α}
    (h : item.map.encode m = some t) (key : String) :
    t.get key = (m.get? key).bind item.encode := by
  obtain ⟨ts, hts, rfl⟩ := Option.map_eq_some_iff.mp h
  rw [get_table, lookup_of_mapM_entry hts, SortedMap.lookup_entries]

/-- The reader of a value reads what the reader of the document reads. -/
def Upward {α : Type} (codec : Codec α) : Prop :=
  ∀ {t : Toml} {a : α}, codec.decode .text t = some a → codec.decode .value t = some a

theorem upward_string : string.Upward := by
  intro t a h
  cases t with
  | string text => exact h
  | _ => cases h

theorem upward_bool : bool.Upward := fun h => h

theorem upward_natBelow (limit : Nat) : (natBelow limit).Upward := fun h => h

theorem upward_list {α : Type} {item : Codec α} (hitem : item.Upward) : item.list.Upward := by
  intro t as h
  cases t with
  | array items =>
      change items.mapM (item.decode .text) = some as at h
      change items.mapM (item.decode .value) = some as
      induction items generalizing as with
      | nil => exact h
      | cons first rest ih =>
          simp only [List.mapM_cons, Option.bind_eq_bind, Option.bind_eq_some_iff, Option.pure_def,
            Option.some.injEq] at h
          obtain ⟨a, ha, as', hrest, rfl⟩ := h
          simp [hitem ha, ih hrest]
  | _ => cases h

end Codec

/-! ## Records -/

/-- A named member of a structure. -/
structure Member (σ : Type) where
  {α : Type}
  name : String
  codec : Codec α
  get : σ → α
  set : α → σ → σ

/-- A structure type with named members. -/
structure Record (σ : Type) where
  /-- What is read from an empty table. -/
  absent : σ
  members : List (Member σ)
  nodup_names : (members.map Member.name).Nodup
  /-- The members make up the structure. -/
  rebuild : ∀ start s, members.foldl (fun built m => m.set (m.get s) built) start = s

namespace Record

variable {σ : Type} (R : Record σ)

/-- What is read for a member. -/
def read (reader : Reader) (entries : List (String × Toml)) (m : Member σ) : Option m.α :=
  match entries.lookup m.name with
  | some t => m.codec.decode reader t
  | none => some (m.get R.absent)

/-- A structure with what is read for one more member. -/
def place (reader : Reader) (entries : List (String × Toml)) (s : σ) (m : Member σ) : Option σ :=
  (R.read reader entries m).map fun v => m.set v s

/-- A table, read by names. -/
def decodeTable (reader : Reader) (entries : List (String × Toml)) : Option σ :=
  R.members.foldlM (R.place reader entries) R.absent

/-- An array, read by positions.  What is missing is absent. -/
def decodeArray (reader : Reader) (items : List Toml) : Option σ :=
  (R.members.zip items).foldlM
    (fun s e => (e.1.codec.decode reader e.2).map fun v => e.1.set v s) R.absent

/-- What is written for a member. -/
def written (s : σ) (m : Member σ) : Option (String × Toml) :=
  (m.codec.encode (m.get s)).map fun t => (m.name, t)

/-- The derived serializer. -/
def encode (s : σ) : Option Toml := (R.members.mapM (written s)).map ofMembers

/-- The derived deserializer.  A date-time is a table without known members to
the reader of the document. -/
def decode (reader : Reader) : Toml → Option σ
  | .table entries => R.decodeTable reader entries
  | .array items =>
      if reader = .value ∧ R.members.length < items.length then none
      else R.decodeArray reader items
  | .datetime _ => if reader = .text then some R.absent else none
  | _ => none

variable {R}

theorem lookup_of_mapM_member {s : σ} {ms : List (Member σ)} {ts : List (String × Toml)}
    (hnodup : (ms.map Member.name).Nodup)
    (h : ms.mapM (written s) = some ts)
    {m : Member σ} (hm : m ∈ ms) :
    ∃ t, m.codec.encode (m.get s) = some t ∧ ts.lookup m.name = some t := by
  induction ms generalizing ts with
  | nil => cases hm
  | cons first rest ih =>
      simp only [List.mapM_cons, Option.bind_eq_bind, Option.bind_eq_some_iff, Option.pure_def,
        Option.some.injEq, written, Option.map_eq_some_iff] at h
      obtain ⟨_, ⟨t, ht, rfl⟩, ts', hrest, rfl⟩ := h
      obtain ⟨hfirst, hnodup⟩ := List.nodup_cons.mp hnodup
      rcases List.mem_cons.mp hm with rfl | hm
      · exact ⟨t, ht, by simp⟩
      · obtain ⟨t', ht', hlookup⟩ := ih hnodup hrest hm
        have hne : m.name ≠ first.name := by
          intro heq
          exact hfirst (heq ▸ List.mem_map_of_mem hm)
        refine ⟨t', ht', ?_⟩
        rw [List.lookup_cons, beq_eq_false_iff_ne.mpr hne, hlookup]

/-- The table that is written has the value of each member. -/
theorem get_of_encode {s : σ} {t : Toml} (h : R.encode s = some t) {m : Member σ}
    (hm : m ∈ R.members) : ∃ t', m.codec.encode (m.get s) = some t' ∧ t.get m.name = some t' := by
  obtain ⟨ts, hts, rfl⟩ := Option.map_eq_some_iff.mp h
  obtain ⟨t', ht', hlookup⟩ := lookup_of_mapM_member R.nodup_names hts hm
  exact ⟨t', ht', by rw [get_ofMembers, hlookup]⟩

/-- The table that is written has no other members. -/
theorem get_of_encode_eq_none {s : σ} {t : Toml} (h : R.encode s = some t) {name : String}
    (hname : name ∉ R.members.map Member.name) : t.get name = none := by
  obtain ⟨ts, hts, rfl⟩ := Option.map_eq_some_iff.mp h
  rw [get_ofMembers]
  clear h
  generalize R.members = ms at hts hname
  induction ms generalizing ts with
  | nil =>
      cases hts
      rfl
  | cons first rest ih =>
      simp only [List.mapM_cons, Option.bind_eq_bind, Option.bind_eq_some_iff, Option.pure_def,
        Option.some.injEq, written, Option.map_eq_some_iff] at hts
      obtain ⟨_, ⟨t, _, rfl⟩, ts', hrest, rfl⟩ := hts
      rw [List.map_cons, List.mem_cons, not_or] at hname
      rw [List.lookup_cons, beq_eq_false_iff_ne.mpr hname.1]
      exact ih ts' hrest hname.2

theorem foldlM_eq_some {β : Type*} {f : σ → β → Option σ} (g : σ → β → σ) {items : List β}
    (h : ∀ item ∈ items, ∀ s, f s item = some (g s item)) (s : σ) :
    items.foldlM f s = some (items.foldl g s) := by
  induction items generalizing s with
  | nil => rfl
  | cons item rest ih =>
      rw [List.foldlM_cons, h item List.mem_cons_self, List.foldl_cons]
      exact ih (fun other hother => h other (List.mem_cons_of_mem _ hother)) _

/-- What is read for each member is the structure. -/
theorem decodeTable_of_reads {s : σ} {reader : Reader} {entries : List (String × Toml)}
    (h : ∀ m ∈ R.members, R.read reader entries m = some (m.get s)) :
    R.decodeTable reader entries = some s := by
  have hplace : ∀ m ∈ R.members, ∀ built,
      R.place reader entries built m = some (m.set (m.get s) built) := by
    intro m hm built
    rw [place, h m hm, Option.map_some]
  exact (foldlM_eq_some _ hplace R.absent).trans (congrArg some (R.rebuild R.absent s))

/-- A record that is written reads back. -/
theorem decode_encode {s : σ} {t : Toml} (reader : Reader) (h : R.encode s = some t) :
    R.decode reader t = some s := by
  obtain ⟨ts, _, rfl⟩ := Option.map_eq_some_iff.mp h
  refine decodeTable_of_reads fun m hm => ?_
  obtain ⟨t', ht', hget⟩ := get_of_encode h hm
  change (SortedMap.ofEntries ts).entries.lookup m.name = some t' at hget
  simp only [read, hget]
  exact m.codec.decode_encode reader ht'

/-- A record is written as a table of its members. -/
theorem name_mem_of_encode {s : σ} {entries : List (String × Toml)}
    (h : R.encode s = some (.table entries)) {e : String × Toml} (he : e ∈ entries) :
    e.1 ∈ R.members.map Member.name := by
  by_contra hname
  have hnone := get_of_encode_eq_none h hname
  rw [get_table, List.lookup_eq_none_iff] at hnone
  simpa using hnone e he

variable (R)

/-- The codec of a record. -/
def codec : Codec σ where
  encode := R.encode
  decode := R.decode
  decode_encode := R.decode_encode

/-- A member that the others leave alone. -/
structure Apart (m : Member σ) : Prop where
  mem : m ∈ R.members
  own : ∀ v s, m.get (m.set v s) = v
  other : ∀ m' ∈ R.members, m'.name ≠ m.name → ∀ v s, m.get (m'.set v s) = m.get s

variable {R}

/-- What a table holds for a member is what is read for it. -/
theorem read_of_decodeTable {m : Member σ} (hm : R.Apart m) {reader : Reader}
    {entries : List (String × Toml)} {s : σ} (h : R.decodeTable reader entries = some s) :
    R.read reader entries m = some (m.get s) := by
  have hkeeps : ∀ {ms : List (Member σ)} {start built : σ},
      (∀ m' ∈ ms, m' ∈ R.members ∧ m'.name ≠ m.name) →
      ms.foldlM (R.place reader entries) start = some built → m.get built = m.get start := by
    intro ms
    induction ms with
    | nil =>
        intro start built _ hfold
        cases hfold
        rfl
    | cons first rest ih =>
        intro start built hms hfold
        simp only [List.foldlM_cons, Option.bind_eq_bind, Option.bind_eq_some_iff, place,
          Option.map_eq_some_iff] at hfold
        obtain ⟨_, ⟨v, _, rfl⟩, hfold⟩ := hfold
        obtain ⟨hfirst, hne⟩ := hms first List.mem_cons_self
        rw [ih (fun m' hm' => hms m' (List.mem_cons_of_mem _ hm')) hfold,
          hm.other first hfirst hne]
  obtain ⟨before, after, hsplit⟩ := List.append_of_mem hm.mem
  unfold decodeTable at h
  rw [hsplit] at h
  simp only [List.foldlM_append, List.foldlM_cons, Option.bind_eq_bind, Option.bind_eq_some_iff,
    place, Option.map_eq_some_iff] at h
  obtain ⟨_, _, _, ⟨v, hv, rfl⟩, hafter⟩ := h
  rw [hv, hkeeps _ hafter, hm.own]
  -- the names behind the member are other names
  have hnodup := R.nodup_names
  rw [hsplit, List.map_append, List.map_cons, List.nodup_append] at hnodup
  intro m' hm'
  refine ⟨by rw [hsplit]; simp [hm'], fun heq => ?_⟩
  exact (List.nodup_cons.mp hnodup.2.1).1 (heq ▸ List.mem_map_of_mem hm')

end Record

/-! ## Text -/

/-- What is printed reads back. -/
def RoundTrips (fromStr : String → Option Toml) (print : Toml → Option String) : Prop :=
  ∀ {value : Toml} {raw : String}, print value = some raw → fromStr raw = some value

mutual

/-- A value on one line.  Strings are those that need no escapes, and the one
float is the default of the configuration. -/
def inlineText : Toml → String
  | .string text => "\"" ++ text ++ "\""
  | .integer n => toString n
  | .float x => if x.bits = 0x3FEB333333333333 then "0.85" else "nan"
  | .boolean b => toString b
  | .datetime text => text
  | .array items => "[" ++ inlineItems items ++ "]"
  | .table entries => "\x7b" ++ inlineEntries entries ++ "\x7d"

def inlineItems : List Toml → String
  | [] => ""
  | [item] => inlineText item
  | item :: rest => inlineText item ++ ", " ++ inlineItems rest

def inlineEntries : List (String × Toml) → String
  | [] => ""
  | [(key, value)] => key ++ " = " ++ inlineText value
  | (key, value) :: rest => key ++ " = " ++ inlineText value ++ ", " ++ inlineEntries rest

end

/-- A document with one line for each member. -/
def documentText : List (String × Toml) → String
  | [] => ""
  | (key, value) :: rest => key ++ " = " ++ inlineText value ++ "\n" ++ documentText rest

section

variable (documents : List (String × Toml))

/-- A reader of some documents only. -/
def readKnown (raw : String) : Option Toml := documents.lookup raw

open Classical in
/-- The printer for it. -/
noncomputable def printKnown (value : Toml) : Option String :=
  (documents.find? fun e => e.2 = value ∧ readKnown documents e.1 = some value).map Prod.fst

theorem roundTrips_known : RoundTrips (readKnown documents) (printKnown documents) := by
  intro value raw h
  obtain ⟨e, he, rfl⟩ := Option.map_eq_some_iff.mp h
  have hfound := List.find?_some he
  simp only [decide_eq_true_eq] at hfound
  exact hfound.2

/-- The first document is printed as it is read. -/
theorem printKnown_head (raw : String) (value : Toml) :
    printKnown ((raw, value) :: documents) value = some raw := by
  unfold printKnown
  rw [List.find?_cons_of_pos (by simp [readKnown])]
  rfl

end

end Toml

end Lib
