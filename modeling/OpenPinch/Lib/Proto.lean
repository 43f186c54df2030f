import Mathlib.Data.List.Nodup
import Mathlib.Data.String.Basic
import OpenPinch.Lib.SortedMap

/-!
# Messages by schema

A schema lists the types of messages, each with the names and kinds of its fields.
A message of a type holds a value for every field, and the default of the kind
where none was set.  Fields are read and set by name.  To name a field that the
type does not have, or one of another kind, is a panic, and such an operation is
`none`.

A `Move` takes the value of one field to another.  `collect` makes a record of a
message by moves, and `fill` a message of a record.  When the moves of the second
undo those of the first, filling what was collected gives the message back
(`fill_collect`).
-/

namespace Lib.Proto

/-! ## Schemas -/

/-- The kinds of fields. -/
inductive Kind where
  | string
  | bool
  | int64
  | uint32
  | double
  | strings
  | stringMap
  | message (type : String)
  | messages (type : String)
deriving DecidableEq, Repr

structure Field where
  name : String
  kind : Kind
deriving DecidableEq, Repr

/-- A type of messages.  No two of its fields have one name. -/
structure MessageType where
  name : String
  fields : List Field
  nodup_names : (fields.map Field.name).Nodup := by decide

abbrev Schema := List MessageType

/-- The type of this name. -/
def Schema.type? (schema : Schema) (name : String) : Option MessageType :=
  schema.find? fun type => type.name == name

/-! ## Messages -/

/-- Named values: a message with its fields, or a record of the program. -/
structure Fields (V : Type) where
  type : String
  entries : List (String × V)

inductive Value (D : Type) where
  | string (text : String)
  | bool (b : Bool)
  | int64 (n : Int64)
  | uint32 (n : UInt32)
  | double (x : D)
  | strings (texts : List String)
  | stringMap (entries : SortedMap String String)
  | message (child : Option (Fields (Value D)))
  | messages (children : List (Fields (Value D)))

abbrev Message (D : Type) := Fields (Value D)

variable {D : Type}

/-- The value of a field that was never set. -/
def Kind.default [Zero D] : Kind → Value D
  | string => .string ""
  | bool => .bool false
  | int64 => .int64 0
  | uint32 => .uint32 0
  | double => .double 0
  | strings => .strings []
  | stringMap => .stringMap .empty
  | message _ => .message none
  | messages _ => .messages []

/-- The value is of the kind. -/
def Kind.admits : Kind → Value D → Bool
  | string, .string _ => true
  | bool, .bool _ => true
  | int64, .int64 _ => true
  | uint32, .uint32 _ => true
  | double, .double _ => true
  | strings, .strings _ => true
  | stringMap, .stringMap _ => true
  | message _, .message none => true
  | message type, .message (some child) => child.type == type
  | messages type, .messages children => children.all fun child => child.type == type
  | _, _ => false

/-- The message of the type with these values, and defaults elsewhere. -/
def MessageType.assign [Zero D] (type : MessageType) (value : String → Option (Value D)) :
    Message D :=
  ⟨type.name, type.fields.map fun f => (f.name, (value f.name).getD f.kind.default)⟩

/-- A message without values. -/
def Schema.newMessage [Zero D] (schema : Schema) (name : String) : Option (Message D) :=
  (schema.type? name).map fun type => type.assign fun _ => none

namespace Message

def get (m : Message D) (field : String) : Option (Value D) := m.entries.lookup field

/-- The value of a field that is read as one of this kind. -/
def read (m : Message D) (field : String) (kind : Kind) : Option (Value D) :=
  (m.get field).filter fun v => kind.admits v

def set (schema : Schema) (m : Message D) (field : String) (v : Value D) : Option (Message D) := do
  let type ← schema.type? m.type
  let f ← type.fields.find? fun f => f.name == field
  if f.kind.admits v then
    some ⟨m.type, m.entries.map fun e => if e.1 = field then (e.1, v) else e⟩
  else none

/-- A text is appended to a list. -/
def addString (schema : Schema) (field : String) (m : Message D) (text : String) :
    Option (Message D) :=
  match m.get field with
  | some (.strings texts) => m.set schema field (.strings (texts ++ [text]))
  | _ => none

/-- A message is appended to a list. -/
def addMessage (schema : Schema) (field : String) (m : Message D) (child : Message D) :
    Option (Message D) :=
  match m.get field with
  | some (.messages children) => m.set schema field (.messages (children ++ [child]))
  | _ => none

/-- An entry is put into a map. -/
def addEntry (schema : Schema) (field : String) (entry : String × String) (m : Message D) :
    Option (Message D) :=
  match m.get field with
  | some (.stringMap entries) =>
      m.set schema field (.stringMap (entries.insert entry.1 entry.2))
  | _ => none

/-- A value is put into a field.  Lists and maps are filled by their elements.  The
order of the entries of a map is of no importance, and here the last one comes first. -/
def put (schema : Schema) (m : Message D) (field : String) : Value D → Option (Message D)
  | .strings texts => texts.foldlM (addString schema field) m
  | .messages children => children.foldlM (addMessage schema field) m
  | .stringMap map => map.entries.foldrM (addEntry schema field) m
  | v => m.set schema field v

end Message

/-! ## Conformance -/

mutual

/-- The value is of the kind, and so are the values in it. -/
inductive Holds (schema : Schema) : Kind → Value D → Prop where
  | string (text : String) : Holds schema .string (.string text)
  | bool (b : Bool) : Holds schema .bool (.bool b)
  | int64 (n : Int64) : Holds schema .int64 (.int64 n)
  | uint32 (n : UInt32) : Holds schema .uint32 (.uint32 n)
  | double (x : D) : Holds schema .double (.double x)
  | strings (texts : List String) : Holds schema .strings (.strings texts)
  | stringMap (map : SortedMap String String) : Holds schema .stringMap (.stringMap map)
  | absent (type : String) : Holds schema (.message type) (.message none)
  | present {type : String} {child : Message D} (h : Conforms schema type child) :
      Holds schema (.message type) (.message (some child))
  | messages {type : String} {children : List (Message D)}
      (h : ∀ child ∈ children, Conforms schema type child) :
      Holds schema (.messages type) (.messages children)

/-- The message has the fields of the type, with values of their kinds. -/
inductive Conforms (schema : Schema) : String → Message D → Prop where
  | of {name : String} {type : MessageType} {m : Message D} (named : m.type = name)
      (known : schema.type? name = some type)
      (names : m.entries.map Prod.fst = type.fields.map Field.name)
      (kinds : ∀ f ∈ type.fields, ∀ v, m.get f.name = some v → Holds schema f.kind v) :
      Conforms schema name m

end

variable {schema : Schema} {type : MessageType}

theorem type?_eq_some {name : String} (h : schema.type? name = some type) :
    type.name = name := by
  have hfound := List.find?_some h
  exact beq_iff_eq.mp hfound

theorem Conforms.type_eq {name : String} {m : Message D} (h : Conforms schema name m) :
    m.type = name := by
  cases h
  assumption

theorem Holds.admits {kind : Kind} {v : Value D} (h : Holds schema kind v) :
    kind.admits v = true := by
  cases h with
  | present h => exact beq_iff_eq.mpr h.type_eq
  | messages h => exact List.all_eq_true.mpr fun child hmem => beq_iff_eq.mpr (h child hmem).type_eq
  | _ => rfl

theorem lookup_map_of_mem {α V : Type} {key : α → String} (value : α → V) {items : List α}
    (hnodup : (items.map key).Nodup) {item : α} (h : item ∈ items) :
    (items.map fun x => (key x, value x)).lookup (key item) = some (value item) := by
  induction items with
  | nil => cases h
  | cons first rest ih =>
      obtain ⟨hfirst, hrest⟩ := List.nodup_cons.mp hnodup
      rw [List.map_cons, List.lookup_cons]
      rcases List.mem_cons.mp h with rfl | h
      · simp
      · have hne : key item ≠ key first := fun heq =>
          hfirst (heq ▸ List.mem_map_of_mem h)
        rw [beq_eq_false_iff_ne.mpr hne]
        exact ih hrest h

theorem lookup_map_of_not_mem {α V : Type} {key : α → String} (value : α → V)
    {items : List α} {name : String} (h : name ∉ items.map key) :
    (items.map fun x => (key x, value x)).lookup name = none := by
  rw [List.lookup_eq_none_iff]
  intro entry hentry
  obtain ⟨x, hx, rfl⟩ := List.mem_map.mp hentry
  exact bne_iff_ne.mpr fun heq : name = key x => h (heq ▸ List.mem_map_of_mem hx)

section

variable [Zero D]

@[simp] theorem get_assign {value : String → Option (Value D)} {f : Field} (hf : f ∈ type.fields) :
    (type.assign value).get f.name = some ((value f.name).getD f.kind.default) :=
  lookup_map_of_mem _ type.nodup_names hf

theorem Kind.holds_default (kind : Kind) : Holds (D := D) schema kind kind.default := by
  cases kind with
  | string => exact .string ""
  | bool => exact .bool false
  | int64 => exact .int64 0
  | uint32 => exact .uint32 0
  | double => exact .double 0
  | strings => exact .strings []
  | stringMap => exact .stringMap .empty
  | message name => exact .absent name
  | messages name => exact .messages fun _ hmem => nomatch hmem

/-- A message with values of the right kinds conforms. -/
theorem conforms_assign (type : MessageType) {value : String → Option (Value D)}
    (htype : schema.type? type.name = some type)
    (h : ∀ f ∈ type.fields, ∀ v, value f.name = some v → Holds schema f.kind v) :
    Conforms schema type.name (type.assign value) := by
  refine .of rfl htype (by simp [MessageType.assign]) fun f hf v hv => ?_
  rw [get_assign hf] at hv
  cases hvalue : value f.name with
  | none =>
      rw [hvalue] at hv
      exact Option.some.inj hv ▸ f.kind.holds_default
  | some v' =>
      rw [hvalue] at hv
      exact Option.some.inj hv ▸ h f hf v' hvalue

/-- Messages of one type with the same values are one. -/
theorem assign_congr {value value' : String → Option (Value D)}
    (h : ∀ f ∈ type.fields,
      (value f.name).getD f.kind.default = (value' f.name).getD f.kind.default) :
    type.assign value = type.assign value' :=
  congrArg (Fields.mk type.name) (List.map_congr_left fun f hf => by rw [h f hf])

/-- A message that conforms is made up of its values. -/
theorem Conforms.assigned {m : Message D} (h : Conforms schema type.name m)
    (htype : schema.type? type.name = some type) :
    type.assign m.get = m ∧
      ∀ f ∈ type.fields, ∃ v, m.get f.name = some v ∧ Holds schema f.kind v := by
  cases h with
  | @of _ known _ named hknown names kinds =>
      obtain rfl : known = type := Option.some.inj (hknown.symm.trans htype)
      have hnodup : (m.entries.map Prod.fst).Nodup := names ▸ known.nodup_names
      have hentry : ∀ entry ∈ m.entries, m.get entry.1 = some entry.2 := fun entry hentry => by
        have hlookup := lookup_map_of_mem Prod.snd hnodup hentry
        rwa [show (fun e : String × Value D => (e.1, e.2)) = id from rfl, List.map_id] at hlookup
      have hfield : ∀ f ∈ known.fields, ∃ v, m.get f.name = some v := fun f hf => by
        have hname : f.name ∈ m.entries.map Prod.fst := names ▸ List.mem_map_of_mem hf
        obtain ⟨entry, hmem, hkey⟩ := List.mem_map.mp hname
        exact ⟨entry.2, hkey ▸ hentry entry hmem⟩
      refine ⟨?_, fun f hf => ?_⟩
      · have hvalues : (known.assign m.get).entries = m.entries := calc
          known.fields.map (fun f => (f.name, (m.get f.name).getD f.kind.default))
            = (known.fields.map Field.name).map fun name =>
                (name, (m.get name).getD (.bool false)) := by
              rw [List.map_map]
              refine List.map_congr_left fun f hf => ?_
              obtain ⟨v, hv⟩ := hfield f hf
              simp [hv]
          _ = m.entries.map fun entry => (entry.1, (m.get entry.1).getD (.bool false)) := by
              rw [← names, List.map_map]
              rfl
          _ = m.entries.map id := List.map_congr_left fun entry hmem => by
              rw [hentry entry hmem]
              rfl
          _ = m.entries := List.map_id _
        cases m with
        | mk name entries => exact congrArg₂ Fields.mk named.symm hvalues
      · obtain ⟨v, hv⟩ := hfield f hf
        exact ⟨v, hv, kinds f hf v hv⟩

/-! ## Setting fields -/

theorem find?_field {f : Field} (hf : f ∈ type.fields) :
    type.fields.find? (fun g => g.name == f.name) = some f := by
  have hsome : (type.fields.find? fun g => g.name == f.name).isSome :=
    List.find?_isSome.mpr ⟨f, hf, beq_self_eq_true f.name⟩
  obtain ⟨g, hg⟩ := Option.isSome_iff_exists.mp hsome
  have hname := List.find?_some hg
  rw [hg, List.inj_on_of_nodup_map type.nodup_names (List.mem_of_find?_eq_some hg) hf
    (beq_iff_eq.mp hname)]

/-- A list is filled by its elements. -/
theorem foldlM_add {β : Type} {step : Message D → β → Option (Message D)} (state : List β → Value D)
    {value : String → Option (Value D)} {f : Field} (all : List β)
    (hstep : ∀ (value : String → Option (Value D)) pre item post, all = pre ++ item :: post →
      value f.name = some (state pre) → step (type.assign value) item =
        some (type.assign (Function.update value f.name (some (state (pre ++ [item]))))))
    (items pre : List β) (hall : all = pre ++ items) (hvalue : value f.name = some (state pre)) :
    items.foldlM step (type.assign value) =
      some (type.assign (Function.update value f.name (some (state all)))) := by
  induction items generalizing pre value with
  | nil =>
      rw [hall, List.append_nil, ← hvalue, Function.update_eq_self]
      rfl
  | cons item rest ih =>
      rw [List.foldlM_cons, hstep value pre item rest hall hvalue, Option.bind_eq_bind,
        Option.bind_some, ih (pre ++ [item]) (by rw [hall, List.append_assoc]; rfl)
          (Function.update_self ..), Function.update_idem]

section

variable (htype : schema.type? type.name = some type) {value : String → Option (Value D)}
  {f : Field} (hf : f ∈ type.fields)

include htype hf

theorem set_assign {v : Value D} (hv : f.kind.admits v = true) :
    (type.assign value).set schema f.name v =
      some (type.assign (Function.update value f.name (some v))) := by
  have hset : (type.assign value).set schema f.name v = some ⟨type.name,
      (type.assign value).entries.map fun e => if e.1 = f.name then (e.1, v) else e⟩ := by
    unfold Message.set
    rw [show (type.assign value).type = type.name from rfl, htype, Option.bind_eq_bind,
      Option.bind_some, find?_field hf, Option.bind_eq_bind, Option.bind_some, if_pos hv]
  rw [hset]
  refine congrArg (fun entries => some (Fields.mk type.name entries)) ?_
  refine (List.map_map ..).trans (List.map_congr_left fun g _ => ?_)
  by_cases hname : g.name = f.name
  · simp [hname]
  · simp [hname]

/-- A map is filled by its entries. -/
theorem foldrM_add {entries : List (String × String)} (hkind : f.kind = .stringMap)
    (hvalue : value f.name = some (.stringMap .empty)) :
    entries.foldrM (Message.addEntry schema f.name) (type.assign value) =
      some (type.assign
        (Function.update value f.name (some (.stringMap (.ofEntries entries))))) := by
  induction entries with
  | nil =>
      rw [show SortedMap.ofEntries ([] : List (String × String)) = .empty from rfl, ← hvalue,
        Function.update_eq_self]
      rfl
  | cons entry rest ih =>
      rw [List.foldrM_cons, ih, Option.bind_eq_bind, Option.bind_some]
      have hget : (type.assign (Function.update value f.name
          (some (.stringMap (.ofEntries rest))))).get f.name =
            some (.stringMap (.ofEntries rest)) := by
        rw [get_assign hf, Function.update_self, Option.getD_some]
      unfold Message.addEntry
      rw [hget]
      refine (set_assign htype hf (by rw [hkind]; rfl)).trans ?_
      rw [Function.update_idem]
      rfl

/-- A value is put into a field that was not set. -/
theorem put_assign (hfree : value f.name = none) {v : Value D} (hv : f.kind.admits v = true) :
    (type.assign value).put schema f.name v =
      some (type.assign (Function.update value f.name (some v))) := by
  have hblank : type.assign value =
      type.assign (Function.update value f.name (some f.kind.default)) := by
    refine assign_congr fun g hg => ?_
    by_cases hname : g.name = f.name
    · rw [List.inj_on_of_nodup_map type.nodup_names hg hf hname, hfree, Function.update_self]
      rfl
    · rw [Function.update_of_ne hname]
  have hstart := Function.update_self f.name (some f.kind.default) value
  cases v with
  | strings texts =>
      have hkind : f.kind = .strings := by
        cases hkind : f.kind <;> simp_all [Kind.admits]
      rw [hblank]
      rw [hkind] at hstart ⊢
      refine (foldlM_add .strings texts (fun value pre text _ _ hpre => ?_) texts [] rfl
        hstart).trans (by rw [Function.update_idem])
      unfold Message.addString
      rw [get_assign hf, hpre, Option.getD_some]
      exact set_assign htype hf (by rw [hkind]; rfl)
  | messages children =>
      obtain ⟨name, hkind, hchildren⟩ : ∃ name, f.kind = .messages name ∧
          ∀ child ∈ children, child.type = name := by
        cases hkind : f.kind <;> simp_all [Kind.admits]
      rw [hblank]
      rw [hkind] at hstart ⊢
      refine (foldlM_add .messages children (fun value pre child post hall hpre => ?_) children []
        rfl hstart).trans (by rw [Function.update_idem])
      unfold Message.addMessage
      rw [get_assign hf, hpre, Option.getD_some]
      refine set_assign htype hf ?_
      rw [hkind]
      refine List.all_eq_true.mpr fun other hother => beq_iff_eq.mpr (hchildren other ?_)
      rw [hall]
      rcases List.mem_append.mp hother with hother | hother
      · exact List.mem_append_left _ hother
      · rw [List.mem_singleton.mp hother]
        exact List.mem_append_right _ List.mem_cons_self
  | stringMap map =>
      have hkind : f.kind = .stringMap := by
        cases hkind : f.kind <;> simp_all [Kind.admits]
      rw [hblank]
      rw [hkind] at hstart ⊢
      refine (foldrM_add htype hf hkind hstart).trans ?_
      rw [Function.update_idem, SortedMap.ofEntries_entries]
  | _ => exact set_assign htype hf hv

end

/-- Values are put into fields that were not set. -/
theorem foldlM_put (htype : schema.type? type.name = some type) (puts : List (String × Value D))
    {value : String → Option (Value D)} (hnodup : (puts.map Prod.fst).Nodup)
    (hputs : ∀ put ∈ puts, value put.1 = none ∧
      ∃ f ∈ type.fields, f.name = put.1 ∧ f.kind.admits put.2 = true) :
    puts.foldlM (fun out put => out.put schema put.1 put.2) (type.assign value) =
      some (type.assign fun name => (puts.lookup name).or (value name)) := by
  induction puts generalizing value with
  | nil => rfl
  | cons put rest ih =>
      obtain ⟨hput, hrest⟩ := List.nodup_cons.mp hnodup
      obtain ⟨hfree, f, hf, hname, hadmits⟩ := hputs put List.mem_cons_self
      rw [List.foldlM_cons, ← hname, put_assign htype hf (hname ▸ hfree) hadmits,
        Option.bind_eq_bind, Option.bind_some, ih hrest fun other hother => ?_]
      · refine congrArg some (assign_congr fun g _ => ?_)
        rw [List.lookup_cons]
        by_cases hg : g.name = put.1
        · have hnone : rest.lookup put.1 = none := by
            rw [List.lookup_eq_none_iff]
            exact fun entry hentry => bne_iff_ne.mpr fun heq =>
              hput (heq ▸ List.mem_map_of_mem hentry)
          rw [hg, hnone, hname, Function.update_self, beq_self_eq_true]
          rfl
        · rw [hname, Function.update_of_ne hg, beq_eq_false_iff_ne.mpr hg]
      · obtain ⟨hother', hfield⟩ := hputs other (List.mem_cons_of_mem _ hother)
        refine ⟨?_, hfield⟩
        rw [Function.update_of_ne, hother']
        intro heq
        exact hput (hname ▸ heq ▸ List.mem_map_of_mem hother)

/-! ## Moves -/

/-- The value of one field is taken to another. -/
structure Move (D : Type) where
  source : String
  convert : Value D → Option (Value D)
  target : String

def Move.value (move : Move D) (m : Message D) : Option (Value D) :=
  (m.get move.source).bind move.convert

/-- The record of the values that are moved. -/
def collect (name : String) (moves : List (Move D)) (m : Message D) : Option (Message D) :=
  (moves.mapM fun (move : Move D) => (move.value m).map (Prod.mk move.target)).map (Fields.mk name)

/-- The value of a message is put into another. -/
def Move.carry (schema : Schema) (m out : Message D) (move : Move D) : Option (Message D) :=
  (move.value m).bind fun v => out.put schema move.target v

/-- A new message with constants and the values that are moved. -/
def fill (schema : Schema) (name : String) (constants : List (String × Value D))
    (moves : List (Move D)) (m : Message D) : Option (Message D) := do
  let blank ← schema.newMessage name
  let started ← constants.foldlM (fun out put => out.put schema put.1 put.2) blank
  moves.foldlM (Move.carry schema m) started

/-- The moves of the second undo those of the first, from a message of one type to a
message of another whose fields have their values from the fields `origin`. -/
structure Undoes (schema : Schema) (source target : MessageType) (origin : String → String)
    (constants : List (String × Value D)) (reads writes : List (Move D)) : Prop where
  nodup_reads : (reads.map Move.target).Nodup
  nodup_writes : (constants.map Prod.fst ++ writes.map Move.target).Nodup
  admitted : ∀ put ∈ constants, ∃ f ∈ target.fields, f.name = put.1 ∧
    f.kind.admits put.2 = true
  undone : ∀ w ∈ writes, ∃ f ∈ target.fields, f.name = w.target ∧
    ⟨origin f.name, f.kind⟩ ∈ source.fields ∧
      ∃ r ∈ reads, r.target = w.source ∧ r.source = origin f.name ∧
        ∀ v, Holds schema f.kind v → (r.convert v).bind w.convert = some v
  used : ∀ r ∈ reads, ∃ w ∈ writes, w.source = r.target
  covered : ∀ f ∈ target.fields, f.name ∈ constants.map Prod.fst ++ writes.map Move.target

theorem mapM_of {α β : Type} {f : α → Option β} {g : α → β} {items : List α}
    (h : ∀ x ∈ items, f x = some (g x)) : items.mapM f = some (items.map g) := by
  induction items with
  | nil => rfl
  | cons first rest ih =>
      rw [List.mapM_cons, h first List.mem_cons_self,
        ih fun x hx => h x (List.mem_cons_of_mem _ hx)]
      rfl

/-- Two functions one after the other, on each of a list. -/
theorem mapM_bind_mapM {α β : Type} {f : α → Option β} {g : β → Option α} {items : List α}
    (h : ∀ x ∈ items, (f x).bind g = some x) :
    ∃ images, items.mapM f = some images ∧ images.mapM g = some items := by
  induction items with
  | nil => exact ⟨[], rfl, rfl⟩
  | cons first rest ih =>
      obtain ⟨images, himages, hback⟩ := ih fun x hx => h x (List.mem_cons_of_mem _ hx)
      obtain ⟨image, himage, hfirst⟩ := Option.bind_eq_some_iff.mp (h first List.mem_cons_self)
      refine ⟨image :: images, ?_, ?_⟩
      · rw [List.mapM_cons, himage, himages]
        rfl
      · rw [List.mapM_cons, hfirst, hback]
        rfl

omit [Zero D] in
/-- The record of moves that all have a value. -/
theorem collect_of (name : String) {moves : List (Move D)} {m : Message D}
    (hnodup : (moves.map Move.target).Nodup)
    (hvalue : ∀ move ∈ moves, ∃ v, move.value m = some v) :
    ∃ g, collect name moves m = some g ∧ g.type = name ∧
      ∀ move ∈ moves, g.get move.target = move.value m := by
  have hsome : ∀ move ∈ moves,
      move.value m = some ((move.value m).getD (.bool false)) := fun move hmove => by
    obtain ⟨v, hv⟩ := hvalue move hmove
    rw [hv, Option.getD_some]
  refine ⟨⟨name, moves.map fun move => (move.target, (move.value m).getD (.bool false))⟩, ?_, rfl,
    fun move hmove => ?_⟩
  · have hmap : ∀ move ∈ moves, (move.value m).map (Prod.mk move.target) =
        some (move.target, (move.value m).getD (.bool false)) := fun move hmove => by
      obtain ⟨v, hv⟩ := hvalue move hmove
      rw [hv, Option.map_some, Option.getD_some]
    rw [collect, mapM_of hmap, Option.map_some]
  · exact (lookup_map_of_mem _ hnodup hmove).trans (hsome move hmove).symm

omit [Zero D] in
/-- What a record holds that was collected. -/
theorem get_of_collect {name : String} {moves : List (Move D)} {m g : Message D}
    (h : collect name moves m = some g) (hnodup : (moves.map Move.target).Nodup) {move : Move D}
    (hmove : move ∈ moves) : g.get move.target = move.value m := by
  obtain ⟨entries, hentries, rfl⟩ := Option.map_eq_some_iff.mp h
  have hvalue : ∀ other ∈ moves, ∃ v, other.value m = some v := by
    clear hnodup hmove h
    induction moves generalizing entries with
    | nil => exact fun other hother => absurd hother List.not_mem_nil
    | cons first rest ih =>
        rw [List.mapM_cons] at hentries
        obtain ⟨entry, hentry, hrest⟩ := Option.bind_eq_some_iff.mp hentries
        obtain ⟨others, hothers, -⟩ := Option.bind_eq_some_iff.mp hrest
        obtain ⟨v, hv, -⟩ := Option.map_eq_some_iff.mp hentry
        intro other hother
        rcases List.mem_cons.mp hother with rfl | hother
        · exact ⟨v, hv⟩
        · exact ih others hothers other hother
  obtain ⟨g, hcollect, -, hget⟩ := collect_of name hnodup hvalue
  rw [h] at hcollect
  exact Option.some.inj hcollect ▸ hget move hmove

omit [Zero D] in
/-- Moves that all have a value put those values. -/
theorem foldlM_moves {moves : List (Move D)} {m out : Message D} {value : Move D → Value D}
    (h : ∀ move ∈ moves, move.value m = some (value move)) :
    moves.foldlM (Move.carry schema m) out =
      (moves.map fun move => (move.target, value move)).foldlM
        (fun out put => out.put schema put.1 put.2) out := by
  induction moves generalizing out with
  | nil => rfl
  | cons move rest ih =>
      rw [List.foldlM_cons, List.map_cons, List.foldlM_cons, Move.carry, h move List.mem_cons_self]
      exact congrArg _ (funext fun out => ih fun other hother =>
        h other (List.mem_cons_of_mem _ hother))

section

variable {source target : MessageType} {origin : String → String}
  {constants : List (String × Value D)} {reads writes : List (Move D)}

omit [Zero D] in
/-- The values that are written are those of the origins. -/
theorem Undoes.written (h : Undoes schema source target origin constants reads writes)
    {m : Message D} (hm : ∀ f ∈ source.fields, ∃ v, m.get f.name = some v ∧ Holds schema f.kind v)
    {w : Move D} (hw : w ∈ writes) :
    ∃ f ∈ target.fields, f.name = w.target ∧ ∃ v, m.get (origin w.target) = some v ∧
      f.kind.admits v = true ∧ ∃ r ∈ reads, r.target = w.source ∧ ∃ u, r.value m = some u ∧
        w.convert u = some v := by
  obtain ⟨f, hf, hname, horigin, r, hr, htarget, hsource, hundo⟩ := h.undone w hw
  obtain ⟨v, hv, hholds⟩ := hm _ horigin
  obtain ⟨u, hread, hwrite⟩ := Option.bind_eq_some_iff.mp (hundo v hholds)
  refine ⟨f, hf, hname, v, hname ▸ hv, hholds.admits, r, hr, htarget, u, ?_, hwrite⟩
  rw [Move.value, hsource, hv, Option.bind_some, hread]

/-- A message that is filled from what was collected. -/
theorem fill_collect (h : Undoes schema source target origin constants reads writes)
    (hsource : schema.type? source.name = some source)
    (htarget : schema.type? target.name = some target) {m : Message D}
    (hm : Conforms schema source.name m) (name : String) :
    ∃ g, collect name reads m = some g ∧ g.type = name ∧
      fill schema target.name constants writes g =
        some (target.assign fun field => (constants.lookup field).or (m.get (origin field))) := by
  obtain ⟨-, hvalues⟩ := hm.assigned hsource
  obtain ⟨g, hcollect, htype, hget⟩ := collect_of name (m := m) h.nodup_reads fun r hr => by
    obtain ⟨w, hw, hsame⟩ := h.used r hr
    obtain ⟨-, -, -, -, -, -, r', hr', htarget', u, hu, -⟩ := h.written hvalues hw
    rw [List.inj_on_of_nodup_map h.nodup_reads hr hr' (hsame.symm.trans htarget'.symm)]
    exact ⟨u, hu⟩
  refine ⟨g, hcollect, htype, ?_⟩
  -- each write gets the value of its origin
  have hwrite : ∀ w ∈ writes, w.value g = some ((m.get (origin w.target)).getD (.bool false)) := by
    intro w hw
    obtain ⟨-, -, -, v, hv, -, r, hr, hsame, u, hu, hconvert⟩ := h.written hvalues hw
    rw [Move.value, ← hsame, hget r hr, hu, Option.bind_some, hconvert, hv, Option.getD_some]
  obtain ⟨hconstants, htargets, hapart⟩ := List.nodup_append.mp h.nodup_writes
  have hnames : (writes.map fun w => (w.target, (m.get (origin w.target)).getD (.bool false))).map
      Prod.fst = writes.map Move.target := by
    rw [List.map_map]
    rfl
  unfold fill
  rw [Schema.newMessage, htarget, Option.map_some, Option.bind_eq_bind, Option.bind_some,
    foldlM_put htarget constants hconstants fun put hput => ⟨rfl, h.admitted put hput⟩,
    Option.bind_some, foldlM_moves hwrite,
    foldlM_put htarget _ (hnames ▸ htargets) fun put hput => ?_]
  · refine congrArg some (assign_congr fun f hf => ?_)
    rw [Option.or_none]
    rcases List.mem_append.mp (h.covered f hf) with hconstant | hwritten
    · have hunwritten := fun hmem => hapart f.name hconstant f.name hmem rfl
      rw [lookup_map_of_not_mem _ hunwritten, Option.none_or]
      obtain ⟨put, hput, hname⟩ := List.mem_map.mp hconstant
      have hlookup := lookup_map_of_mem Prod.snd hconstants hput
      rw [show (fun e : String × Value D => (e.1, e.2)) = id from rfl, List.map_id,
        hname] at hlookup
      rw [hlookup, Option.some_or]
    · obtain ⟨w, hw, hname⟩ := List.mem_map.mp hwritten
      obtain ⟨-, -, -, v, hv, -⟩ := h.written hvalues hw
      have hnone : constants.lookup f.name = none := by
        rw [List.lookup_eq_none_iff]
        exact fun entry hentry => bne_iff_ne.mpr fun heq =>
          hapart entry.1 (List.mem_map_of_mem hentry) f.name hwritten heq.symm
      rw [← hname, lookup_map_of_mem _ htargets hw, Option.some_or, hname, hnone, Option.none_or,
        Option.getD_some, ← hname, hv]
      rfl
  · obtain ⟨w, hw, rfl⟩ := List.mem_map.mp hput
    obtain ⟨f, hf, hname, v, hv, hadmits, -⟩ := h.written hvalues hw
    refine ⟨?_, f, hf, hname, by rw [hv]; exact hadmits⟩
    rw [Option.or_none, List.lookup_eq_none_iff]
    exact fun entry hentry => bne_iff_ne.mpr fun heq =>
      hapart entry.1 (List.mem_map_of_mem hentry) w.target (List.mem_map_of_mem hw) heq.symm

end

/-- A message is made up of its values. -/
theorem Conforms.assign_get {m : Message D} (h : Conforms schema type.name m)
    (htype : schema.type? type.name = some type) : type.assign m.get = m :=
  (h.assigned htype).1

/-- The message with other values in some fields. -/
def Message.update (m : Message D) (values : List (String × Value D)) : Message D :=
  ⟨m.type, m.entries.map fun entry => (entry.1, (values.lookup entry.1).getD entry.2)⟩

omit [Zero D] in
@[simp] theorem Message.update_nil (m : Message D) : m.update [] = m :=
  congrArg (Fields.mk m.type) (List.map_id _)

theorem Conforms.assign_update {m : Message D} (h : Conforms schema type.name m)
    (htype : schema.type? type.name = some type) (values : List (String × Value D)) :
    type.assign (fun field => (values.lookup field).or (m.get field)) = m.update values := by
  have hentries : m.entries = type.fields.map fun f =>
      (f.name, (m.get f.name).getD f.kind.default) :=
    congrArg Fields.entries (h.assign_get htype).symm
  rw [Message.update, hentries, h.type_eq, List.map_map]
  refine congrArg (Fields.mk type.name) (List.map_congr_left fun f _ => ?_)
  cases hlookup : values.lookup f.name <;> simp [hlookup]

/-! ## Tables -/

/-- A field that is copied to another. -/
structure Copy where
  source : String
  kind : Kind
  target : String
deriving DecidableEq, Repr

def Copy.move (copy : Copy) : Move D :=
  ⟨copy.source, fun v => if copy.kind.admits v then some v else none, copy.target⟩

/-- The copies that make up a record of the type. -/
structure Table where
  type : String
  copies : List Copy
deriving DecidableEq, Repr

namespace Table

def collect (table : Table) (m : Message D) : Option (Message D) :=
  Proto.collect table.type (table.copies.map Copy.move) m

def fill (schema : Schema) (table : Table) (m : Message D) : Option (Message D) :=
  Proto.fill schema table.type [] (table.copies.map Copy.move) m

/-- The second table undoes the first on messages of the type. -/
def Undoes (type : MessageType) (reads writes : Table) : Prop :=
  writes.type = type.name ∧
  (reads.copies.map Copy.target).Nodup ∧
  (writes.copies.map Copy.target).Nodup ∧
  (∀ w ∈ writes.copies,
    ⟨w.target, w.kind⟩ ∈ type.fields ∧ ⟨w.target, w.kind, w.source⟩ ∈ reads.copies) ∧
  (∀ r ∈ reads.copies, ∃ w ∈ writes.copies, w.source = r.target) ∧
  ∀ f ∈ type.fields, f.name ∈ writes.copies.map Copy.target

instance (type : MessageType) (reads writes : Table) : Decidable (Undoes type reads writes) :=
  inferInstanceAs (Decidable (_ ∧ _ ∧ _ ∧ _ ∧ _ ∧ _))

omit [Zero D] in
theorem Undoes.moves {reads writes : Table} (h : Undoes type reads writes) :
    Proto.Undoes (D := D) schema type type id [] (reads.copies.map Copy.move)
      (writes.copies.map Copy.move) := by
  obtain ⟨-, hreads, hwrites, hundone, hused, hcovered⟩ := h
  have htargets (copies : List Copy) :
      (copies.map (Copy.move (D := D))).map Move.target = copies.map Copy.target := List.map_map
  constructor
  · rwa [htargets]
  · rwa [htargets]
  · exact fun put hput => absurd hput List.not_mem_nil
  · intro move hmove
    obtain ⟨w, hw, rfl⟩ := List.mem_map.mp hmove
    obtain ⟨hfield, hread⟩ := hundone w hw
    refine ⟨_, hfield, rfl, hfield, _, List.mem_map_of_mem hread, rfl, rfl, fun v hv => ?_⟩
    simp only [Copy.move, hv.admits, if_true, Option.bind_some]
  · intro move hmove
    obtain ⟨r, hr, rfl⟩ := List.mem_map.mp hmove
    obtain ⟨w, hw, hsame⟩ := hused r hr
    exact ⟨w.move, List.mem_map_of_mem hw, hsame⟩
  · intro f hf
    rw [htargets]
    exact hcovered f hf

/-- What the one table makes of a message, the other makes the message of. -/
theorem fill_collect (type : MessageType) {reads writes : Table} (h : Undoes type reads writes)
    (htype : schema.type? type.name = some type) {m : Message D}
    (hm : Conforms schema type.name m) :
    (reads.collect m).bind (writes.fill schema) = some m := by
  obtain ⟨g, hcollect, -, hfill⟩ := Proto.fill_collect h.moves htype htype hm reads.type
  rw [collect, hcollect, Option.bind_some, fill, h.1, hfill]
  exact congrArg some (hm.assign_get htype)

end Table

/-! ## Forms -/

/-- A field of the target, and where it comes from. -/
inductive Row where
  | copy (source : String) (kind : Kind) (target : String)
  | child (source : String) (table : Table) (target : String)
  | children (source : String) (table : Table) (target : String)
deriving DecidableEq, Repr

namespace Row

def source : Row → String
  | copy source _ _ => source
  | child source _ _ => source
  | children source _ _ => source

def target : Row → String
  | copy _ _ target => target
  | child _ _ target => target
  | children _ _ target => target

/-- What the row takes a value to.  `convert` makes a record by a table. -/
def value (convert : Table → Message D → Option (Message D)) : Row → Value D → Option (Value D)
  | copy source kind target, v => (Copy.mk source kind target).move.convert v
  | child _ _ _, .message none => some (.message none)
  | child _ table _, .message (some m) => (convert table m).map fun m => .message (some m)
  | children _ table _, .messages ms => (ms.mapM (convert table)).map .messages
  | _, _ => none

def move (convert : Table → Message D → Option (Message D)) (row : Row) : Move D :=
  ⟨row.source, row.value convert, row.target⟩

/-- The second row undoes the first on values of the kind. -/
def undoes (schema : Schema) : Kind → Row → Row → Bool
  | kind, copy _ r _, copy _ w _ => r == kind && w == kind
  | .message name, child _ r _, child _ w _ =>
      (schema.type? name).any fun type => decide (Table.Undoes type r w)
  | .messages name, children _ r _, children _ w _ =>
      (schema.type? name).any fun type => decide (Table.Undoes type r w)
  | _, _, _ => false

/-- A table of the type named undoes another. -/
theorem table_undoes {name : String} {r w : Table}
    (h : ((schema.type? name).any fun type => decide (Table.Undoes type r w)) = true)
    {m : Message D} (hm : Conforms schema name m) :
    (r.collect m).bind (w.fill schema) = some m := by
  obtain ⟨type, htype, hundoes⟩ := Option.any_eq_true _ _ |>.mp h
  have hname := type?_eq_some htype
  subst hname
  exact Table.fill_collect type (of_decide_eq_true hundoes) htype hm

/-- A value that is read by a row is written by a row that undoes it. -/
theorem value_value {kind : Kind} {r w : Row} (h : undoes schema kind r w = true) {v : Value D}
    (hv : Holds schema kind v) :
    (r.value Table.collect v).bind (w.value (Table.fill schema)) = some v := by
  cases r with
  | copy rsource r rtarget =>
      cases w with
      | copy wsource w wtarget =>
          obtain ⟨hr, hw⟩ := Bool.and_eq_true_iff.mp h
          simp only [value, Copy.move, beq_iff_eq.mp hr, beq_iff_eq.mp hw, hv.admits, if_true,
            Option.bind_some]
      | _ => cases kind <;> cases h
  | child rsource r rtarget =>
      cases w with
      | child wsource w wtarget =>
          cases hv with
          | absent name => rfl
          | present hm =>
              obtain ⟨g, hcollect, hfill⟩ := Option.bind_eq_some_iff.mp (table_undoes h hm)
              simp only [value, hcollect, hfill, Option.map_some, Option.bind_some]
          | _ => cases h
      | _ => cases kind <;> cases h
  | children rsource r rtarget =>
      cases w with
      | children wsource w wtarget =>
          cases hv with
          | @messages name ms hms =>
              obtain ⟨gs, hcollect, hfill⟩ := mapM_bind_mapM fun m hm => table_undoes h (hms m hm)
              simp only [value, hcollect, hfill, Option.map_some, Option.bind_some]
          | _ => cases h
      | _ => cases kind <;> cases h

end Row

/-- The rows that make up a record of the type, which has some fields besides. -/
structure Form (D : Type) where
  type : String
  constants : List (String × Value D) := []
  rows : List Row

namespace Form

def collect (form : Form D) (m : Message D) : Option (Message D) :=
  Proto.collect form.type (form.rows.map (Row.move Table.collect)) m

def fill (schema : Schema) (form : Form D) (m : Message D) : Option (Message D) :=
  Proto.fill schema form.type form.constants (form.rows.map (Row.move (Table.fill schema))) m

/-- The second form undoes the first, from a message of one type to one of another
whose fields have their values from the fields `origin`. -/
def Undoes (schema : Schema) (source target : MessageType) (origin : String → String)
    (reads writes : Form D) : Prop :=
  writes.type = target.name ∧
  (reads.rows.map Row.target).Nodup ∧
  (writes.constants.map Prod.fst ++ writes.rows.map Row.target).Nodup ∧
  (∀ put ∈ writes.constants, ∃ f ∈ target.fields, f.name = put.1 ∧ f.kind.admits put.2 = true) ∧
  (∀ w ∈ writes.rows, ∃ f ∈ target.fields, f.name = w.target ∧
    ⟨origin f.name, f.kind⟩ ∈ source.fields ∧
      ∃ r ∈ reads.rows, r.target = w.source ∧ r.source = origin f.name ∧
        r.undoes schema f.kind w = true) ∧
  (∀ r ∈ reads.rows, ∃ w ∈ writes.rows, w.source = r.target) ∧
  ∀ f ∈ target.fields, f.name ∈ writes.constants.map Prod.fst ++ writes.rows.map Row.target

instance (schema : Schema) (source target : MessageType) (origin : String → String)
    (reads writes : Form D) : Decidable (Undoes schema source target origin reads writes) :=
  inferInstanceAs (Decidable (_ ∧ _ ∧ _ ∧ _ ∧ _ ∧ _ ∧ _))

theorem Undoes.moves {source target : MessageType} {origin : String → String}
    {reads writes : Form D} (h : Undoes schema source target origin reads writes) :
    Proto.Undoes schema source target origin writes.constants
      (reads.rows.map (Row.move Table.collect))
      (writes.rows.map (Row.move (Table.fill schema))) := by
  obtain ⟨-, hreads, hwrites, hadmitted, hundone, hused, hcovered⟩ := h
  have htargets (convert : Table → Message D → Option (Message D)) (rows : List Row) :
      (rows.map (Row.move convert)).map Move.target = rows.map Row.target := List.map_map
  constructor
  · rwa [htargets]
  · rwa [htargets]
  · exact hadmitted
  · intro move hmove
    obtain ⟨w, hw, rfl⟩ := List.mem_map.mp hmove
    obtain ⟨f, hf, hname, horigin, r, hr, htarget, hsource, hundoes⟩ := hundone w hw
    exact ⟨f, hf, hname, horigin, _, List.mem_map_of_mem hr, htarget, hsource,
      fun v hv => Row.value_value hundoes hv⟩
  · intro move hmove
    obtain ⟨r, hr, rfl⟩ := List.mem_map.mp hmove
    obtain ⟨w, hw, hsame⟩ := hused r hr
    exact ⟨_, List.mem_map_of_mem hw, hsame⟩
  · intro f hf
    rw [htargets]
    exact hcovered f hf

/-- What the second form makes of what the first has made of a message. -/
theorem fill_collect (source target : MessageType) (origin : String → String)
    {reads writes : Form D} (h : Undoes schema source target origin reads writes)
    (hsource : schema.type? source.name = some source)
    (htarget : schema.type? target.name = some target) {m : Message D}
    (hm : Conforms schema source.name m) :
    (reads.collect m).bind (writes.fill schema) = some (target.assign fun field =>
      (writes.constants.lookup field).or (m.get (origin field))) := by
  obtain ⟨g, hcollect, -, hfill⟩ := Proto.fill_collect h.moves hsource htarget hm reads.type
  rw [collect, hcollect, Option.bind_some, fill, h.1, hfill]

omit [Zero D] in
theorem get_of_collect {form : Form D} {m g : Message D} (h : form.collect m = some g)
    (hnodup : (form.rows.map Row.target).Nodup) (row : Row) (hrow : row ∈ form.rows) :
    g.get row.target = (m.get row.source).bind (row.value Table.collect) := by
  have hmove := List.mem_map_of_mem (f := Row.move (D := D) Table.collect) hrow
  exact Proto.get_of_collect h (by rwa [List.map_map]) hmove

/-- A form that undoes another gives the message back, but for the fields it sets
itself. -/
theorem fill_collect_self (type : MessageType) {reads writes : Form D}
    (h : Undoes schema type type id reads writes) (htype : schema.type? type.name = some type)
    {m : Message D} (hm : Conforms schema type.name m) :
    (reads.collect m).bind (writes.fill schema) = some (m.update writes.constants) := by
  rw [fill_collect type type id h htype htype hm]
  exact congrArg some (hm.assign_update htype writes.constants)

/-- A form without fields of its own gives the message back. -/
theorem fill_collect_id (type : MessageType) {reads writes : Form D}
    (h : Undoes schema type type id reads writes) (hconstants : writes.constants = [])
    (htype : schema.type? type.name = some type) {m : Message D}
    (hm : Conforms schema type.name m) : (reads.collect m).bind (writes.fill schema) = some m := by
  rw [fill_collect_self type h htype hm, hconstants, Message.update_nil]

end Form

end

end Lib.Proto
