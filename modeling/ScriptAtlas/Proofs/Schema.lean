import ScriptAtlas.Json.Basic

/-! A schema lists the fields of a record. Writing and reading that follow a schema keep every law
of records as soon as each field is read from its own writing; the laws are proved once, for one
field and then for a list of them. -/
namespace ScriptAtlas

namespace Json

/-- The keys of an object in their order; other values have none. -/
def keys : Json → List String
  | .object members => members.map (·.1)
  | _ => []

/-- A member is missing or null. -/
def Lacks (json : Json) (key : String) : Prop :=
  json.member? key = none ∨ json.member? key = some .null

/-- What is written for a value is read as that value, also where the value came from something
that is written otherwise. -/
structure RoundTrips {α : Type} (write : α → Json) (read : Json → Option α) : Prop where
  restores : ∀ value, read (write value) = some value
  settles : ∀ json value, read json = some value → read (write value) = some value

/-- A record is written with all its fields and no others. It is read from an object by these
alone, or from an array that holds one item for each field, in their order, as from the object with
these members. An optional field that an object lacks is written as null; without any other field
the record is not read. -/
structure Faithful {α : Type} (write : α → Json) (read : Json → Option α)
    (fields optionals : List String) : Prop extends RoundTrips write read where
  writes : ∀ value, (write value).keys = fields
  shapes : ∀ json value, read json = some value →
    (∃ members, json = .object members) ∨ ∃ items, json = .array items
  ignores : ∀ members others, (∀ key ∈ fields, members.lookup key = others.lookup key) →
    read (.object members) = read (.object others)
  aligns : ∀ items, read (.array items) =
    if items.length = fields.length then read (.object (fields.zip items)) else none
  demands : ∀ members, ∀ key ∈ fields, key ∉ optionals → (Json.object members).Lacks key →
    read (.object members) = none
  fills : ∀ members value, read (.object members) = some value → ∀ key ∈ optionals,
    (Json.object members).Lacks key → (write value).member? key = some .null

theorem RoundTrips.of_restores {α : Type} {write : α → Json} {read : Json → Option α}
    (restores : ∀ value, read (write value) = some value) : RoundTrips write read where
  restores := restores
  settles _ value _ := restores value

/-- A field of a record: its key, the part of the record that it holds, and how that part is
written and read. -/
inductive Field (α : Type) : Type 1 where
  | required {β : Type} (key : String) (part : α → β) (write : β → Json) (read : Json → Option β)
  | optional {β : Type} (key : String) (part : α → Option β) (write : β → Json)
      (read : Json → Option β)

namespace Field

variable {α : Type} {field : Field α} {json other : Json} {value : α}

def key : Field α → String
  | required key _ _ _ => key
  | optional key _ _ _ => key

def isOptional : Field α → Bool
  | required .. => false
  | optional .. => true

/-- What is written for the part of a record. -/
def written (value : α) : Field α → Json
  | required _ part write _ => write (part value)
  | optional _ part write _ => .ofOption write (part value)

/-- The member under the key is read as the part of a record. -/
def Found (json : Json) (value : α) : Field α → Prop
  | required key part _ read => json.required key read = some (part value)
  | optional key part _ read => json.optional key read = some (part value)

/-- The part of a record is read from its own writing, and is not mistaken for an absent one. -/
def Restored (value : α) : Field α → Prop
  | required _ part write read => read (write (part value)) = some (part value)
  | optional _ part write read =>
    ∀ given ∈ part value, write given ≠ .null ∧ read (write given) = some given

/-- Null stands only for a part that may be absent. -/
def Strict : Field α → Prop
  | required _ _ _ read => read .null = none
  | optional .. => True

theorem lookup_written {schema : List (Field α)} (distinct : (schema.map key).Nodup)
    (known : field ∈ schema) :
    (schema.map fun field => (field.key, field.written value)).lookup field.key =
      some (field.written value) := by
  induction schema with
  | nil => exact nomatch known
  | cons head rest ih =>
    rw [List.map_cons, List.nodup_cons] at distinct
    rw [List.map_cons, List.lookup_cons]
    rcases List.mem_cons.1 known with rfl | later
    · rw [beq_self_eq_true]
    · have apart : field.key ≠ head.key := fun same =>
        distinct.1 (same ▸ List.mem_map_of_mem later)
      rw [beq_false_of_ne apart]
      exact ih distinct.2 later

theorem found_congr (same : json.member? field.key = other.member? field.key) :
    field.Found json value ↔ field.Found other value := by
  cases field with
  | required key part write read =>
    change json.member? key = other.member? key at same
    simp only [Found, Json.required, same]
  | optional key part write read =>
    change json.member? key = other.member? key at same
    simp only [Found, Json.optional, same]

theorem found_of_restored (member : json.member? field.key = some (field.written value))
    (restored : field.Restored value) : field.Found json value := by
  cases field with
  | required key part write read =>
    change json.member? key = some (write (part value)) at member
    rw [Found, Json.required, member, Option.bind_some]
    exact restored
  | optional key part write read =>
    change json.member? key = some (.ofOption write (part value)) at member
    rw [Found, Json.optional, member]
    cases given : part value with
    | none => rfl
    | some content =>
      obtain ⟨present, same⟩ := restored content given
      rw [Json.ofOption]
      split
      next missing => exact nomatch missing
      next null => exact absurd (Option.some.inj null) present
      next content found => rw [← Option.some.inj found, same, Option.map_some]

theorem not_found_of_lacks (strict : field.Strict) (demanded : field.isOptional = false)
    (lacks : json.Lacks field.key) : ¬ field.Found json value := by
  cases field with
  | optional => exact nomatch demanded
  | required key part write read =>
    rw [Found, Json.required]
    rcases lacks with missing | null
    · change json.member? key = none at missing
      rw [missing]
      exact nofun
    · change json.member? key = some .null at null
      rw [null, Option.bind_some, strict]
      exact nofun

theorem written_eq_null (allowed : field.isOptional = true) (lacks : json.Lacks field.key)
    (found : field.Found json value) : field.written value = .null := by
  cases field with
  | required => exact nomatch allowed
  | optional key part write read =>
    have absent : part value = none := by
      rw [Found, Json.optional] at found
      rcases lacks with missing | null
      · change json.member? key = none at missing
        rw [missing] at found
        exact (Option.some.inj found).symm
      · change json.member? key = some .null at null
        rw [null] at found
        exact (Option.some.inj found).symm
    rw [written, absent, Json.ofOption]

end Field

/-- Writing and reading go through the fields of a schema. -/
structure Follows {α : Type} (write : α → Json) (read : Json → Option α)
    (schema : List (Field α)) : Prop where
  distinct : (schema.map Field.key).Nodup
  strict : ∀ field ∈ schema, field.Strict
  writes : ∀ value, write value = .object (schema.map fun field => (field.key, field.written value))
  finds : ∀ json value, read json = some value ↔
    ∃ given, json.labelled? (schema.map Field.key) = some given ∧
      ∀ field ∈ schema, field.Found given value

namespace Follows

variable {α : Type} {write : α → Json} {read : Json → Option α} {schema : List (Field α)}

theorem member?_write (follows : Follows write read schema) {field : Field α}
    (known : field ∈ schema) (value : α) :
    (write value).member? field.key = some (field.written value) := by
  rw [follows.writes]
  exact Field.lookup_written follows.distinct known

theorem finds_object (follows : Follows write read schema) (members : List (String × Json))
    (value : α) :
    read (.object members) = some value ↔
      ∀ field ∈ schema, field.Found (.object members) value := by
  simp [follows.finds, labelled?]

theorem restores (follows : Follows write read schema) {value : α}
    (restored : ∀ field ∈ schema, field.Restored value) : read (write value) = some value := by
  have written (field : Field α) (known : field ∈ schema) := follows.member?_write known value
  rw [follows.writes] at written ⊢
  rw [follows.finds_object]
  intro field known
  exact Field.found_of_restored (written field known) (restored field known)

theorem faithful (follows : Follows write read schema)
    (restores : ∀ value, read (write value) = some value) :
    Faithful write read (schema.map Field.key)
      ((schema.filter Field.isOptional).map Field.key) where
  toRoundTrips := .of_restores restores
  writes value := by
    rw [follows.writes, keys, List.map_map]
    rfl
  shapes json value found := by
    obtain ⟨_, shaped, _⟩ := (follows.finds json value).1 found
    cases json with
    | object members => exact .inl ⟨members, rfl⟩
    | array items => exact .inr ⟨items, rfl⟩
    | _ => cases shaped
  ignores members others same := by
    refine Option.ext fun value => ?_
    rw [follows.finds_object, follows.finds_object]
    refine forall₂_congr fun field known => Field.found_congr ?_
    exact same field.key (List.mem_map_of_mem known)
  aligns items := by
    refine Option.ext fun value => ?_
    split
    · rename_i fits
      rw [follows.finds, follows.finds_object, labelled?, if_pos fits]
      simp
    · rename_i unfit
      rw [follows.finds, labelled?, if_neg unfit]
      simp
  demands members key member demanded lacks := by
    obtain ⟨field, known, rfl⟩ := List.mem_map.1 member
    have needed : field.isOptional = false := Bool.eq_false_iff.2 fun allowed =>
      demanded (List.mem_map_of_mem (List.mem_filter.2 ⟨known, allowed⟩))
    refine Option.eq_none_iff_forall_ne_some.2 fun value found => ?_
    exact Field.not_found_of_lacks (follows.strict field known) needed lacks
      ((follows.finds_object members value).1 found field known)
  fills members value found key member lacks := by
    obtain ⟨field, listed, rfl⟩ := List.mem_map.1 member
    obtain ⟨known, allowed⟩ := List.mem_filter.1 listed
    rw [follows.member?_write known, Field.written_eq_null allowed lacks]
    exact (follows.finds_object members value).1 found field known

end Follows

section Values

variable {α : Type} {write : α → Json} {read : Json → Option α}

@[simp] theorem text?_null : text? .null = none := rfl

@[simp] theorem flag?_null : flag? .null = none := rfl

@[simp] theorem word?_null : word? .null = none := rfl

@[simp] theorem list?_null : list? read .null = none := rfl

@[simp] theorem labelled?_null (fields : List String) : null.labelled? fields = none := rfl

@[simp] theorem text?_string (text : String) : text? (.string text) = some text := rfl

@[simp] theorem flag?_bool (flag : Bool) : flag? (.bool flag) = some flag := rfl

@[simp] theorem word?_ofNat (word : UInt32) : word? (.ofNat word.toNat) = some word := by
  have small := word.toNat_lt_size
  show (if word.toNat < UInt32.size then some word.toNat.toUInt32 else none) = some word
  rw [if_pos small]
  simp

theorem list?_map {values : List α} (restores : ∀ value ∈ values, read (write value) = some value) :
    list? read (.array (values.map write)) = some values := by
  show (values.map write).mapM read = some values
  induction values with
  | nil => rfl
  | cons value rest ih =>
    rw [List.forall_mem_cons] at restores
    rw [List.map_cons, List.mapM_cons, restores.1, ih restores.2]
    rfl

@[simp] theorem list?_strings (texts : List String) : list? text? (.strings texts) = some texts :=
  list?_map fun _ _ => rfl

/-- Where the items need no bound on their size, a nested list is a list like any other. -/
theorem nested_eq_required {json given : Json} {fields : List String} {key : String}
    (shaped : json.labelled? fields = some given) :
    (json.nested fields key fun item _ => read item) = given.required key (list? read) := by
  have member : (json.labelled? fields).bind (·.member? key) = given.member? key := by
    rw [shaped, Option.bind_some]
  unfold nested
  split
  next items found =>
    have plain : given.required key (list? read) = items.mapM read := by
      rw [required, ← member, found]
      rfl
    rw [plain, List.mapM_subtype fun _ _ => rfl, List.attach, List.unattach_attachWith]
  next other =>
    rw [member] at other
    unfold required
    cases found : given.member? key with
    | none => rfl
    | some value =>
      cases value with
      | array items => exact absurd found (other items)
      | _ => rfl

end Values

end Json

end ScriptAtlas
