/-! JSON values and the reading of their parts. A record is an object, or an array of all its fields
in order. Reading answers `none` for a part that is missing or has another type; only optional parts
may be absent or null. -/
namespace ScriptAtlas

/-- A JSON value; a number is `mantissa` times ten to the power of minus `exponent`. -/
inductive Json where
  | null
  | bool (value : Bool)
  | number (mantissa : Int) (exponent : Nat)
  | string (text : String)
  | array (items : List Json)
  | object (members : List (String × Json))
deriving Inhabited

namespace Json

def ofNat (value : Nat) : Json := .number value 0

/-- An optional part is written as null when it is absent. -/
def ofOption (write : α → Json) : Option α → Json
  | none => .null
  | some value => write value

def strings (texts : List String) : Json := .array (texts.map .string)

/-- The member of an object under a key. -/
def member? (json : Json) (key : String) : Option Json :=
  match json with
  | .object members => members.lookup key
  | _ => none

def text? : Json → Option String
  | .string text => some text
  | _ => none

def flag? : Json → Option Bool
  | .bool value => some value
  | _ => none

/-- An integer that fits into thirty-two bits without sign. -/
def word? : Json → Option UInt32
  | .number (.ofNat value) 0 => if value < UInt32.size then some value.toUInt32 else none
  | _ => none

def list? (read : Json → Option α) : Json → Option (List α)
  | .array items => items.mapM read
  | _ => none

/-- A record as an object: the items of an array are labelled with the fields in their order, and
there has to be one for each. -/
def labelled? (json : Json) (fields : List String) : Option Json :=
  match json with
  | .object members => some (.object members)
  | .array items => if items.length = fields.length then some (.object (fields.zip items)) else none
  | _ => none

/-- A member that has to be there. -/
def required (json : Json) (key : String) (read : Json → Option α) : Option α :=
  (json.member? key).bind read

/-- A member that may be missing or null. -/
def optional (json : Json) (key : String) (read : Json → Option α) : Option (Option α) :=
  match json.member? key with
  | none | some .null => some none
  | some value => (read value).map some

theorem sizeOf_lt_of_lookup {members : List (String × Json)} {key : String} {value : Json}
    (found : members.lookup key = some value) : sizeOf value < sizeOf members := by
  induction members with
  | nil => simp at found
  | cons head rest ih =>
    obtain ⟨name, content⟩ := head
    simp only [List.lookup_cons] at found
    split at found
    · cases found; simp; omega
    · have smaller := ih found; simp; omega

theorem sizeOf_lt_of_lookup_zip {fields : List String} {items : List Json} {key : String}
    {value : Json} (found : (fields.zip items).lookup key = some value) :
    sizeOf value < sizeOf items := by
  obtain ⟨before, after, split, _⟩ := List.lookup_eq_some_iff.mp found
  have member : (key, value) ∈ fields.zip items := by simp [split]
  exact List.sizeOf_lt_of_mem (List.of_mem_zip member).2

/-- A field of a record is smaller than the record. -/
theorem sizeOf_lt_of_member? {json value : Json} {fields : List String} {key : String}
    (found : (json.labelled? fields).bind (·.member? key) = some value) :
    sizeOf value < sizeOf json := by
  obtain ⟨given, shaped, found⟩ := Option.bind_eq_some_iff.mp found
  cases json with
  | object members =>
    cases shaped
    have smaller := sizeOf_lt_of_lookup found
    simp; omega
  | array items =>
    simp only [labelled?] at shaped
    split at shaped
    · cases shaped
      have smaller := sizeOf_lt_of_lookup_zip found
      simp; omega
    · cases shaped
  | _ => cases shaped

/-- A field that has to be an array of values of the same kind as the record itself; each item
comes with the proof that it is smaller. -/
def nested (json : Json) (fields : List String) (key : String)
    (read : (item : Json) → sizeOf item < sizeOf json → Option α) : Option (List α) :=
  match found : (json.labelled? fields).bind (·.member? key) with
  | some (.array items) =>
    items.attach.mapM fun item => read item.1 <| by
      have outer := sizeOf_lt_of_member? found
      have inner := List.sizeOf_lt_of_mem item.2
      simp at outer; omega
  | _ => none

end Json
end ScriptAtlas
