import Mathlib.Logic.Relation
import TrainingPortal.Proofs.Records

/-!
# What readers of records do not see

A reply of a portal has a shape: texts, integers and truth values in records and lists. What does
not concern the shape makes no difference to a reader: the order of members, members that the shape
does not know, and whether an optional member that has its default is written (`Shape.Alters`, one
change at a time, at any depth). What contradicts the shape makes the whole unreadable
(`Shape.Spoils`).

A reader that keeps to a shape in this sense (`Shape.Reads`) is built from readers that keep to the
shapes of its parts: `Reads.list` and `Reads.record` say so of lists and records.
-/

namespace TrainingPortal

open Json

/-- What a reply, or a part of it, consists of. -/
inductive Shape
  | text
  | integer
  | truth
  | list (item : Shape)
  /-- A record with named fields, of which some may be missing. -/
  | record (fields : List (String × Bool × Shape))

namespace Shape

/-- A field of a record: its name, whether it may be missing, and the shape of its value. -/
abbrev Field := String × Bool × Shape

/-- A field that must be given. -/
abbrev required (name : String) (shape : Shape) : Field := (name, false, shape)

/-- A field that may be missing. -/
abbrev optional (name : String) (shape : Shape) : Field := (name, true, shape)

/-- The names of fields. -/
def names (fields : List Field) : List String := fields.map (·.1)

/-- The default of a field that may be missing. -/
def default : Shape → Json
  | text => .text ""
  | integer => .integer 0
  | truth => .bool false
  | list _ => .array []
  | record _ => .object []

/-- Whether a value is of the JSON type that a shape asks for; an integer must fit into 64 bits, and
a record may also be written as an array of its fields in order. -/
inductive Suits : Shape → Json → Prop
  | text (s : String) : Suits text (.text s)
  | integer {n : Int} (h : Text.isInt64 n = true) : Suits integer (.integer n)
  | truth (b : Bool) : Suits truth (.bool b)
  | list (item : Shape) (items : List Json) : Suits (list item) (.array items)
  | object (fields : List Field) (members : List (String × Json)) :
    Suits (record fields) (.object members)
  | array (fields : List Field) (items : List Json) : Suits (record fields) (.array items)

/-- Changes that do not concern a shape, one at a time. -/
inductive Alters : Shape → Json → Json → Prop
  /-- The members of an object stand in another order. -/
  | order {fields : List Field} {members members' : List (String × Json)}
    (h : members.Perm members') : Alters (record fields) (.object members) (.object members')
  /-- A member that the shape does not know is left out. -/
  | unknown {fields : List Field} {name : String} (h : name ∉ names fields) (value : Json)
    (before after : List (String × Json)) :
    Alters (record fields) (.object (before ++ (name, value) :: after))
      (.object (before ++ after))
  /-- An optional member that has its default is left out. -/
  | default {fields : List Field} {name : String} {shape : Shape}
    (h : optional name shape ∈ fields) {before after : List (String × Json)}
    (single : name ∉ (before ++ after).map (·.1)) :
    Alters (record fields) (.object (before ++ (name, shape.default) :: after))
      (.object (before ++ after))
  /-- The value of a member is altered. -/
  | member {fields : List Field} {name : String} {maybe : Bool} {shape : Shape} {j j' : Json}
    (h : (name, maybe, shape) ∈ fields) (inner : Alters shape j j')
    (before after : List (String × Json)) :
    Alters (record fields) (.object (before ++ (name, j) :: after))
      (.object (before ++ (name, j') :: after))
  /-- The value of a field is altered in a record that is written as an array. -/
  | position {fields : List Field} {name : String} {maybe : Bool} {shape : Shape} {j j' : Json}
    {before : List Json} (h : fields[before.length]? = some (name, maybe, shape))
    (inner : Alters shape j j') (after : List Json) :
    Alters (record fields) (.array (before ++ j :: after)) (.array (before ++ j' :: after))
  /-- An item of a list is altered. -/
  | item {shape : Shape} {j j' : Json} (inner : Alters shape j j') (before after : List Json) :
    Alters (list shape) (.array (before ++ j :: after)) (.array (before ++ j' :: after))

/-- What contradicts a shape. -/
inductive Spoils : Shape → Json → Prop
  /-- A value of another type. -/
  | type {shape : Shape} {j : Json} (h : ¬ shape.Suits j) : Spoils shape j
  /-- A member that must be given is missing. -/
  | missing {fields : List Field} {name : String} {shape : Shape}
    (h : required name shape ∈ fields) {members : List (String × Json)}
    (fresh : name ∉ members.map (·.1)) : Spoils (record fields) (.object members)
  /-- A member has a value that contradicts its shape. -/
  | member {fields : List Field} {name : String} {maybe : Bool} {shape : Shape} {j : Json}
    (h : (name, maybe, shape) ∈ fields) {members : List (String × Json)}
    (given : (name, j) ∈ members) (inner : Spoils shape j) :
    Spoils (record fields) (.object members)
  /-- The same in a record that is written as an array. -/
  | position {fields : List Field} {name : String} {maybe : Bool} {shape : Shape} {j : Json}
    {before : List Json} (h : fields[before.length]? = some (name, maybe, shape))
    (inner : Spoils shape j) (after : List Json) :
    Spoils (record fields) (.array (before ++ j :: after))
  /-- An item of a list contradicts its shape. -/
  | item {shape : Shape} {j : Json} (inner : Spoils shape j) {items : List Json}
    (given : j ∈ items) : Spoils (list shape) (.array items)

/-! ## Fields -/

/-- What changes of a record make of the value that is given for a field. -/
inductive FieldAlters : Field → Option Json → Option Json → Prop
  | same (field : Field) (j? : Option Json) : FieldAlters field j? j?
  | given {name : String} {maybe : Bool} {shape : Shape} {j j' : Json} (h : shape.Alters j j') :
    FieldAlters (name, maybe, shape) (some j) (some j')
  | missing (name : String) (shape : Shape) :
    FieldAlters (optional name shape) (some shape.default) none

/-- What contradicts a field. -/
inductive FieldSpoils : Field → Option Json → Prop
  | given {name : String} {maybe : Bool} {shape : Shape} {j : Json} (h : shape.Spoils j) :
    FieldSpoils (name, maybe, shape) (some j)
  | missing (name : String) (shape : Shape) : FieldSpoils (required name shape) none

/-- What changes of a record make of the values that are given for its fields. -/
inductive FieldsAlter : List Field → List (Option Json) → List (Option Json) → Prop
  | nil : FieldsAlter [] [] []
  | cons {field : Field} {fields : List Field} {j? j?' : Option Json} {js js' : List (Option Json)}
    (first : FieldAlters field j? j?') (others : FieldsAlter fields js js') :
    FieldsAlter (field :: fields) (j? :: js) (j?' :: js')

/-- What contradicts one of the fields of a record. -/
inductive FieldsSpoil : List Field → List (Option Json) → Prop
  | here {field : Field} {fields : List Field} {j? : Option Json} {js : List (Option Json)}
    (h : FieldSpoils field j?) (same : js.length = fields.length) :
    FieldsSpoil (field :: fields) (j? :: js)
  | there {field : Field} {fields : List Field} {js : List (Option Json)} (j? : Option Json)
    (h : FieldsSpoil fields js) : FieldsSpoil (field :: fields) (j? :: js)

variable {field : Field} {fields : List Field} {j? j?' : Option Json}
  {js js' before after : List (Option Json)}

theorem FieldsAlter.length (h : FieldsAlter fields js js') :
    js.length = fields.length ∧ js'.length = fields.length := by
  induction h with
  | nil => exact ⟨rfl, rfl⟩
  | cons _ _ ih => exact ⟨congrArg (· + 1) ih.1, congrArg (· + 1) ih.2⟩

theorem FieldsAlter.refl (h : js.length = fields.length) : FieldsAlter fields js js := by
  induction js generalizing fields with
  | nil =>
    obtain rfl := List.length_eq_zero_iff.1 h.symm
    exact .nil
  | cons j? js ih =>
    cases fields with
    | nil => cases h
    | cons field fields => exact .cons (.same field j?) (ih (Nat.succ.inj h))

theorem FieldsSpoil.length (h : FieldsSpoil fields js) : js.length = fields.length := by
  induction h with
  | here _ same => exact congrArg (· + 1) same
  | there _ _ ih => exact congrArg (· + 1) ih

theorem fieldsAlter_append (found : fields[before.length]? = some field)
    (h : FieldAlters field j? j?') (same : (before ++ j? :: after).length = fields.length) :
    FieldsAlter fields (before ++ j? :: after) (before ++ j?' :: after) := by
  induction before generalizing fields with
  | nil =>
    cases fields with
    | nil => cases same
    | cons first fields =>
      obtain rfl := Option.some.inj found
      exact .cons h (.refl (Nat.succ.inj same))
  | cons first? before ih =>
    cases fields with
    | nil => cases same
    | cons first fields => exact .cons (.same first first?) (ih found (Nat.succ.inj same))

theorem fieldsSpoil_append (found : fields[before.length]? = some field)
    (h : FieldSpoils field j?) (same : (before ++ j? :: after).length = fields.length) :
    FieldsSpoil fields (before ++ j? :: after) := by
  induction before generalizing fields with
  | nil =>
    cases fields with
    | nil => cases same
    | cons first fields =>
      obtain rfl := Option.some.inj found
      exact .here h (Nat.succ.inj same)
  | cons first? before ih =>
    cases fields with
    | nil => cases same
    | cons first fields => exact .there first? (ih found (Nat.succ.inj same))

variable {f g : String → Option (Option Json)}

theorem fieldsAlter_mapM
    (h : ∀ field ∈ fields, Option.Rel (FieldAlters field) (f field.1) (g field.1)) :
    Option.Rel (FieldsAlter fields) ((names fields).mapM f) ((names fields).mapM g) := by
  induction fields with
  | nil => exact .some .nil
  | cons field fields ih =>
    obtain ⟨first, others⟩ := List.forall_mem_cons.1 h
    have others := ih others
    rw [names, List.map_cons, List.mapM_cons, List.mapM_cons]
    revert first
    generalize f field.1 = x, g field.1 = y
    rintro (first | _)
    case some =>
      revert others
      change Option.Rel _ ((names fields).mapM f) ((names fields).mapM g) → Option.Rel _
        (((names fields).mapM f).bind _) (((names fields).mapM g).bind _)
      generalize (names fields).mapM f = xs, (names fields).mapM g = ys
      rintro (others | _)
      · exact .some (.cons first others)
      · exact .none
    case none => exact .none

theorem fieldsSpoil_mapM (mem : field ∈ fields)
    (h : ∀ j?, f field.1 = some j? → FieldSpoils field j?)
    (given : (names fields).mapM f = some js) : FieldsSpoil fields js := by
  induction fields generalizing js with
  | nil => cases mem
  | cons first fields ih =>
    rw [names, List.map_cons, List.mapM_cons] at given
    obtain ⟨j?, here, given⟩ := Option.bind_eq_some_iff.1 given
    obtain ⟨js, there, given⟩ := Option.bind_eq_some_iff.1 given
    obtain rfl := Option.some.inj given
    rcases List.mem_cons.1 mem with rfl | mem
    · have same := (mapM_eq_some_iff.1 there).length_eq
      rw [List.length_map] at same
      exact .here (h j? here) same.symm
    · exact .there j? (ih mem there)

/-! ## Readers -/

variable {α β : Type}

/-- Whether a reader keeps to a shape. -/
structure Reads (shape : Shape) (decode : Json → Option α) : Prop where
  same {j j' : Json} (h : shape.Alters j j') : decode j = decode j'
  refuses {j : Json} (h : shape.Spoils j) : decode j = none

/-- Whether a reader of the value that is given for a field keeps to the field. -/
structure FieldReads (field : Field) (read : Option Json → Option α) : Prop where
  same {j? j?' : Option Json} (h : FieldAlters field j? j?') : read j? = read j?'
  refuses {j? : Option Json} (h : FieldSpoils field j?) : read j? = none

/-- Whether a reader of the values that are given for fields keeps to the fields. -/
structure FieldsRead (fields : List Field) (build : List (Option Json) → Option α) : Prop where
  same {js js' : List (Option Json)} (h : FieldsAlter fields js js') : build js = build js'
  refuses {js : List (Option Json)} (h : FieldsSpoil fields js) : build js = none

theorem reads_text : Reads text toText? where
  same := nofun
  refuses := by
    rintro j ⟨h⟩
    cases j with
    | text s => exact absurd (.text s) h
    | _ => rfl

theorem reads_integer : Reads integer toInt64? where
  same := nofun
  refuses := by
    rintro j ⟨h⟩
    cases j with
    | integer n => exact if_neg fun fits => h (.integer fits)
    | _ => rfl

theorem reads_truth : Reads truth toBool? where
  same := nofun
  refuses := by
    rintro j ⟨h⟩
    cases j with
    | bool b => exact absurd (.truth b) h
    | _ => rfl

theorem Reads.map {shape : Shape} {decode : Json → Option α} (h : Reads shape decode) (f : α → β) :
    Reads shape fun j => (decode j).map f where
  same alters := congrArg (Option.map f) (h.same alters)
  refuses spoils := congrArg (Option.map f) (h.refuses spoils)

/-- Reading a list keeps to the shape of its items. -/
theorem Reads.list {shape : Shape} {decode : Json → Option α} (h : Reads shape decode) :
    Reads (list shape) (toList? decode) where
  same := by
    rintro _ _ (_ | _ | _ | _ | _ | ⟨inner, before, after⟩)
    simp only [toList?, List.mapM_append, List.mapM_cons, h.same inner]
  refuses := by
    rintro j (suits | _ | _ | _ | ⟨inner, given⟩)
    · cases j with
      | array items => exact absurd (.list shape items) suits
      | _ => rfl
    · exact mapM_eq_none given (h.refuses inner)

theorem Reads.required {shape : Shape} {decode : Json → Option α} (h : Reads shape decode)
    (name : String) : FieldReads (Shape.required name shape) (Json.required decode) where
  same := by
    rintro _ _ (_ | alters)
    · rfl
    · exact h.same alters
  refuses := by
    rintro _ (spoils | _)
    · exact h.refuses spoils
    · rfl

theorem Reads.optional {shape : Shape} {decode : Json → Option α} (h : Reads shape decode)
    (name : String) {a : α} (default : decode shape.default = some a) :
    FieldReads (Shape.optional name shape) (Json.optional a decode) where
  same := by
    rintro _ _ (_ | alters | _)
    · rfl
    · exact h.same alters
    · exact default
  refuses := by
    rintro _ (spoils | _)
    exact h.refuses spoils

/-! ## Records -/

/-- A reader that has read all fields. -/
def done (a : α) : List (Option Json) → Option α
  | [] => some a
  | _ => none

/-- A reader that reads a field and goes on with the others. -/
def take (read : Option Json → Option β) (next : β → List (Option Json) → Option α) :
    List (Option Json) → Option α
  | j? :: js => (read j?).bind fun b => next b js
  | [] => none

theorem fieldsRead_done (a : α) : FieldsRead [] (done a) where
  same := by
    rintro _ _ ⟨⟩
    rfl
  refuses := nofun

theorem FieldReads.take {read : Option Json → Option β} {next : β → List (Option Json) → Option α}
    (first : FieldReads field read) (others : ∀ b, FieldsRead fields (next b)) :
    FieldsRead (field :: fields) (take read next) where
  same := by
    rintro _ _ (_ | ⟨here, there⟩)
    simp only [Shape.take, first.same here, (others _).same there]
  refuses := by
    rintro _ (⟨h, -⟩ | ⟨j?, h⟩)
    · simp only [Shape.take, first.refuses h, Option.bind_none]
    · simp only [Shape.take, (others _).refuses h, Option.bind_fun_none]

theorem FieldsRead.congr {build build' : List (Option Json) → Option α}
    (h : FieldsRead fields build')
    (same : ∀ js, js.length = fields.length → build js = build' js) : FieldsRead fields build where
  same alters := by
    rw [same _ alters.length.1, same _ alters.length.2, h.same alters]
  refuses spoils := by
    rw [same _ spoils.length, h.refuses spoils]

/-! ## Members of an object -/

section

variable {name other : String} {j : Json} {members members' before after : List (String × Json)}

theorem member?_of_perm
    (h : (members.filter (·.1 == name)).Perm (members'.filter (·.1 == name))) :
    member? members name = member? members' name := by
  unfold member?
  generalize members.filter (·.1 == name) = found, members'.filter (·.1 == name) = found' at h
  rcases found with _ | ⟨first, _ | ⟨second, rest⟩⟩
  · rw [h.nil_eq]
  · rw [List.singleton_perm.1 h]
  · rcases found' with _ | ⟨first', _ | ⟨second', rest'⟩⟩
    · cases h.length_eq
    · cases h.length_eq
    · rfl

theorem member?_append_of_ne (apart : other ≠ name) :
    member? (before ++ (other, j) :: after) name = member? (before ++ after) name := by
  simp [member?, List.filter_append, apart]

theorem filter_eq_nil (h : name ∉ members.map (·.1)) : members.filter (·.1 == name) = [] := by
  refine List.filter_eq_nil_iff.2 fun member mem same => h ?_
  exact List.mem_map.2 ⟨member, mem, beq_iff_eq.1 same⟩

theorem member?_of_not_mem (h : name ∉ members.map (·.1)) : member? members name = some none := by
  rw [member?, filter_eq_nil h]

theorem member?_append_single (single : name ∉ (before ++ after).map (·.1)) :
    member? (before ++ (name, j) :: after) name = some (some j) := by
  rw [List.map_append, List.mem_append, not_or] at single
  rw [member?, List.filter_append, filter_eq_nil single.1, List.filter_cons_of_pos (by simp),
    filter_eq_nil single.2]
  rfl

/-- A name that occurs twice has no value. -/
theorem member?_append_twice (twice : name ∈ (before ++ after).map (·.1)) :
    member? (before ++ (name, j) :: after) name = none := by
  obtain ⟨member, mem, same⟩ := List.mem_map.1 twice
  have found : member ∈ (before ++ after).filter (·.1 == name) :=
    List.mem_filter.2 ⟨mem, beq_iff_eq.2 same⟩
  have many : 2 ≤ ((before ++ (name, j) :: after).filter (·.1 == name)).length := by
    have one := List.length_pos_of_mem found
    rw [List.filter_append, List.length_append] at one ⊢
    rw [List.filter_cons_of_pos (by simp), List.length_cons]
    omega
  rw [member?]
  split
  case h_1 none => rw [none] at many; cases many
  case h_2 one => rw [one] at many; simp at many
  case h_3 => rfl

end

/-! ## Reading a record -/

theorem rel_refl (x : Option (Option Json)) : Option.Rel (FieldAlters field) x x := by
  cases x with
  | none => exact .none
  | some j? => exact .some (.same field j?)

namespace FieldsRead

variable {build : List (Option Json) → Option α} {members members' : List (String × Json)}

theorem bind_eq (h : FieldsRead fields build) {x y : Option (List (Option Json))}
    (alters : Option.Rel (FieldsAlter fields) x y) : x.bind build = y.bind build := by
  cases alters with
  | none => rfl
  | some alters => exact h.same alters

theorem object_eq (h : FieldsRead fields build)
    (alters : ∀ field ∈ fields,
      Option.Rel (FieldAlters field) (member? members field.1) (member? members' field.1)) :
    (fields? (names fields) (.object members)).bind build =
      (fields? (names fields) (.object members')).bind build :=
  h.bind_eq (fieldsAlter_mapM alters)

theorem object_eq_none (h : FieldsRead fields build) (mem : field ∈ fields)
    (spoils : ∀ j?, member? members field.1 = some j? → FieldSpoils field j?) :
    (fields? (names fields) (.object members)).bind build = none := by
  cases given : fields? (names fields) (.object members) with
  | none => rfl
  | some js => exact h.refuses (fieldsSpoil_mapM mem spoils given)

/-- The values given for fields by an array, whatever item stands at a position. -/
theorem fields?_array (fields : List Field) (before after : List Json) :
    (∀ j, fields? (names fields) (.array (before ++ j :: after)) = none) ∨
      ∃ missing, ∀ j, fields? (names fields) (.array (before ++ j :: after)) =
          some (before.map some ++ some j :: (after.map some ++ missing)) ∧
        (before.map some ++ some j :: (after.map some ++ missing)).length = fields.length := by
  have size (j : Json) : (before ++ j :: after).length = before.length + after.length + 1 := by
    rw [List.length_append, List.length_cons]
    omega
  by_cases fits : before.length + after.length + 1 ≤ (names fields).length
  · refine .inr ⟨List.replicate ((names fields).length - (before.length + after.length + 1)) none,
      fun j => ⟨?_, ?_⟩⟩
    · rw [fields?, size, if_pos fits]
      simp
    · have same : (names fields).length = fields.length := List.length_map ..
      simp only [List.length_append, List.length_cons, List.length_map, List.length_replicate]
      omega
  · refine .inl fun j => ?_
    rw [fields?, size, if_neg fits]

theorem field_unique (distinct : (names fields).Nodup) {name : String} {maybe : Bool}
    {shape : Shape} (mem : (name, maybe, shape) ∈ fields) (there : field ∈ fields)
    (same : name = field.1) : field = (name, maybe, shape) :=
  List.inj_on_of_nodup_map distinct there mem same.symm

theorem record_same (h : FieldsRead fields build) (distinct : (names fields).Nodup) {j j' : Json}
    (alters : (record fields).Alters j j') :
    (fields? (names fields) j).bind build = (fields? (names fields) j').bind build := by
  cases alters with
  | order perm =>
    refine h.object_eq fun field _ => ?_
    rw [member?_of_perm (perm.filter _)]
    exact rel_refl _
  | @unknown _ name new value before after =>
    refine h.object_eq fun field mem => ?_
    have apart : name ≠ field.1 := fun same => new (same ▸ List.mem_map_of_mem mem)
    rw [member?_append_of_ne apart]
    exact rel_refl _
  | @default _ name shape mem before after single =>
    refine h.object_eq fun field there => ?_
    by_cases same : name = field.1
    · obtain rfl := field_unique distinct mem there same
      rw [member?_append_single single, member?_of_not_mem single]
      exact .some (.missing name shape)
    · rw [member?_append_of_ne same]
      exact rel_refl _
  | @member _ name maybe shape j j' mem inner before after =>
    refine h.object_eq fun field there => ?_
    by_cases same : name = field.1
    · obtain rfl := field_unique distinct mem there same
      by_cases twice : name ∈ (before ++ after).map (·.1)
      · rw [member?_append_twice twice, member?_append_twice twice]
        exact .none
      · rw [member?_append_single twice, member?_append_single twice]
        exact .some (.given inner)
    · rw [member?_append_of_ne same, member?_append_of_ne same]
      exact rel_refl _
  | @position _ name maybe shape j j' before found inner after =>
    rcases fields?_array fields before after with tooLong | ⟨missing, given⟩
    · rw [tooLong, tooLong]
    · rw [(given j).1, (given j').1]
      exact h.same (fieldsAlter_append (by simpa using found) (.given inner) (given j).2)

theorem record_refuses (h : FieldsRead fields build) {j : Json}
    (spoils : (record fields).Spoils j) : (fields? (names fields) j).bind build = none := by
  cases spoils with
  | type suits =>
    cases j with
    | object members => exact absurd (.object fields members) suits
    | array items => exact absurd (.array fields items) suits
    | _ => rfl
  | @missing _ name shape mem members fresh =>
    refine h.object_eq_none mem fun j? given => ?_
    obtain rfl := Option.some.inj ((member?_of_not_mem fresh).symm.trans given)
    exact .missing name shape
  | @member _ name maybe shape j mem members there inner =>
    refine h.object_eq_none mem fun j? given => ?_
    obtain ⟨before, after, rfl⟩ := List.append_of_mem there
    by_cases twice : name ∈ (before ++ after).map (·.1)
    · exact nomatch (member?_append_twice twice).symm.trans given
    · obtain rfl := Option.some.inj ((member?_append_single twice).symm.trans given)
      exact .given inner
  | @position _ name maybe shape j before found inner after =>
    rcases fields?_array fields before after with tooLong | ⟨missing, given⟩
    · rw [tooLong]
      rfl
    · rw [(given j).1]
      exact h.refuses (fieldsSpoil_append (by simpa using found) (.given inner) (given j).2)

/-- **Reading a record keeps to its shape** if reading its fields keeps to them. -/
theorem record (h : FieldsRead fields build) (distinct : (names fields).Nodup) :
    Reads (record fields) fun j => (fields? (names fields) j).bind build :=
  ⟨h.record_same distinct, h.record_refuses⟩

end FieldsRead

end Shape

end TrainingPortal
