import Mathlib
import ScriptAtlas.Json.Writer
import ScriptAtlas.Proofs.RoundTrip

/-! The text of a JSON value determines the value. A numeral may be the beginning of another one, so
texts alone do not tell where they end; but what is written for a value is recognised in front of
anything that may follow it, and so are the values one after the other in arrays, objects and
records. -/
namespace ScriptAtlas

namespace Json

/-- Nothing follows, or a mark that ends a value. -/
def Ends (rest : List Char) : Prop := ∀ char ∈ rest.head?, char = ',' ∨ char = ']' ∨ char = '\x7d'

/-- What is written for a value, in front of anything that may follow it, is written for no other
value, nor with anything else behind it. -/
def Unambiguous {α : Type} (write : α → List Char) (value : α) : Prop :=
  ∀ other rest rest', Ends rest → Ends rest' → write value ++ rest = write other ++ rest' →
    value = other ∧ rest = rest'

/-! ### Strings -/

/-- The character that is meant after a backslash. -/
def escaped? : List Char → Option (Char × List Char)
  | 'u' :: '0' :: '0' :: high :: low :: rest =>
    (Text.Hex.value? high).bind fun upper =>
      (Text.Hex.value? low).map fun lower => (Char.ofNat (16 * upper + lower), rest)
  | 'b' :: rest => some ('\x08', rest)
  | 'f' :: rest => some ('\x0c', rest)
  | 'n' :: rest => some ('\n', rest)
  | 'r' :: rest => some ('\x0d', rest)
  | 't' :: rest => some ('\t', rest)
  | char :: rest => some (char, rest)
  | [] => none

/-- Read one character inside a string; a quotation mark is none. -/
def unescape? : List Char → Option (Char × List Char)
  | [] => none
  | first :: rest =>
    if first = '\x22' then none else if first = '\\' then escaped? rest else some (first, rest)

theorem value?_digit : ∀ value < 16, Text.Hex.value? (Text.Hex.digit value) = some value := by
  decide

theorem unescape?_escape (char : Char) (rest : List Char) :
    unescape? (escape char ++ rest) = some (char, rest) := by
  unfold escape
  iterate 7
    split
    · subst_vars
      rfl
  split
  · rename_i control
    have upper := value?_digit (char.toNat / 16) (by omega)
    have lower := value?_digit (char.toNat % 16) (by omega)
    have whole : 16 * (char.toNat / 16) + char.toNat % 16 = char.toNat := by omega
    simp [unescape?, escaped?, upper, lower, whole]
  · rename_i notQuote notBackslash _ _ _ _ _ _
    simp [unescape?, notQuote, notBackslash]

/-- What is written inside a string goes up to the next quotation mark that is not escaped. -/
theorem flatMap_escape_inj {chars chars' rest rest' : List Char}
    (same : chars.flatMap escape ++ '\x22' :: rest = chars'.flatMap escape ++ '\x22' :: rest') :
    chars = chars' ∧ rest = rest' := by
  have read (char : Char) (chars rest : List Char) :
      unescape? ((char :: chars).flatMap escape ++ rest) =
        some (char, chars.flatMap escape ++ rest) := by
    rw [List.flatMap_cons, List.append_assoc, unescape?_escape]
  induction chars generalizing chars' with
  | nil =>
    cases chars' with
    | nil => exact ⟨rfl, (List.cons.inj same).2⟩
    | cons char' chars' =>
      have other := read char' chars' ('\x22' :: rest')
      rw [← same] at other
      cases other
  | cons char chars ih =>
    have found := read char chars ('\x22' :: rest)
    cases chars' with
    | nil =>
      rw [same] at found
      cases found
    | cons char' chars' =>
      rw [same, read] at found
      obtain ⟨rfl, later⟩ := Prod.mk.inj (Option.some.inj found)
      obtain ⟨rfl, rfl⟩ := ih later.symm
      exact ⟨rfl, rfl⟩

/-- A string ends in its text, whatever follows. -/
theorem quote_append_inj {text text' : String} {rest rest' : List Char}
    (same : quote text ++ rest = quote text' ++ rest') : text = text' ∧ rest = rest' := by
  simp only [quote, List.cons_append, List.append_assoc, List.nil_append, List.cons.injEq,
    true_and] at same
  obtain ⟨chars, rests⟩ := flatMap_escape_inj same
  exact ⟨String.toList_inj.mp chars, rests⟩

/-! ### Numerals -/

/-- The power of ten of a numeral. -/
def powerChars : Nat → List Char
  | 0 => []
  | exponent + 1 => 'e' :: '-' :: (toString (exponent + 1)).toList

theorem numeral_eq (mantissa : Int) (exponent : Nat) :
    numeral mantissa exponent = (toString mantissa).toList ++ powerChars exponent := by
  cases exponent with
  | zero => simp [numeral, powerChars]
  | succ exponent => rfl

theorem isDigit_of_mem_toString {number : Nat} {char : Char}
    (member : char ∈ (toString number).toList) : char.isDigit = true := by
  rw [Nat.toString_eq_repr, Nat.toList_repr] at member
  exact Nat.isDigit_of_mem_toDigits (by decide) (by decide) member

/-- A mantissa is made of digits, perhaps behind a sign. -/
theorem mantissa_chars {mantissa : Int} {char : Char} (member : char ∈ (toString mantissa).toList) :
    char.isDigit = true ∨ char = '-' := by
  rw [Int.toString_eq_repr, Int.repr_eq_if] at member
  split at member
  · exact .inl (isDigit_of_mem_toString member)
  · rw [String.toList_append] at member
    rcases List.mem_append.mp member with sign | digit
    · exact .inr (List.mem_singleton.mp sign)
    · exact .inl (isDigit_of_mem_toString digit)

theorem mantissa_ne_nil (mantissa : Int) : (toString mantissa).toList ≠ [] := by
  rw [Int.toString_eq_repr, Int.repr_eq_if]
  split <;> simp [Nat.toList_repr, Nat.toDigits_ne_nil]

theorem power_chars {exponent : Nat} {char : Char} (member : char ∈ powerChars exponent) :
    char.isDigit = true ∨ char = '-' ∨ char = 'e' := by
  cases exponent with
  | zero => cases member
  | succ exponent =>
    rcases List.mem_cons.mp member with mark | member
    · exact .inr (.inr mark)
    rcases List.mem_cons.mp member with sign | digit
    · exact .inr (.inl sign)
    · exact .inl (isDigit_of_mem_toString digit)

theorem powerChars_inj {exponent exponent' : Nat}
    (same : powerChars exponent = powerChars exponent') :
    exponent = exponent' := by
  cases exponent with
  | zero =>
    cases exponent' with
    | zero => rfl
    | succ exponent' => cases same
  | succ exponent =>
    cases exponent' with
    | zero => cases same
    | succ exponent' =>
      have texts : (toString (exponent + 1)).toList = (toString (exponent' + 1)).toList := by
        simpa [powerChars] using same
      exact Nat.repr_injective (String.toList_inj.mp texts)

/-- The mantissa of a numeral goes up to the mark of its power. -/
theorem numeral_inj {mantissa mantissa' : Int} {exponent exponent' : Nat}
    (same : numeral mantissa exponent = numeral mantissa' exponent') :
    mantissa = mantissa' ∧ exponent = exponent' := by
  have digits (mantissa : Int) :
      ∀ char ∈ (toString mantissa).toList, (char.isDigit || char == '-') = true := by
    intro char member
    rcases mantissa_chars member with digit | sign <;> simp [*]
  have marked (exponent : Nat) :
      ∀ char ∈ (powerChars exponent).head?, (char.isDigit || char == '-') = false := by
    intro char first
    cases exponent with
    | zero => cases first
    | succ exponent =>
      obtain rfl := Option.some.inj first
      rfl
  rw [numeral_eq, numeral_eq] at same
  obtain ⟨mantissas, powers⟩ := Text.append_inj_of_run (digits mantissa) (digits mantissa')
    (marked exponent) (marked exponent') same
  exact ⟨Int.repr_injective (String.toList_inj.mp mantissas), powerChars_inj powers⟩

/-- A numeral goes up to the first character that no numeral has. -/
theorem numeral_append_inj {mantissa mantissa' : Int} {exponent exponent' : Nat}
    {rest rest' : List Char} (ends : Ends rest) (ends' : Ends rest')
    (same : numeral mantissa exponent ++ rest = numeral mantissa' exponent' ++ rest') :
    (mantissa = mantissa' ∧ exponent = exponent') ∧ rest = rest' := by
  have within (mantissa : Int) (exponent : Nat) :
      ∀ char ∈ numeral mantissa exponent, (char.isDigit || char == '-' || char == 'e') = true := by
    intro char member
    rw [numeral_eq] at member
    rcases List.mem_append.mp member with digit | power
    · rcases mantissa_chars digit with digit | sign <;> simp [*]
    · rcases power_chars power with digit | sign | mark <;> simp [*]
  have stops {rest : List Char} (ends : Ends rest) :
      ∀ char ∈ rest.head?, (char.isDigit || char == '-' || char == 'e') = false := by
    intro char first
    rcases ends char first with rfl | rfl | rfl <;> rfl
  obtain ⟨numerals, rests⟩ := Text.append_inj_of_run (within mantissa exponent)
    (within mantissa' exponent') (stops ends) (stops ends') same
  exact ⟨numeral_inj numerals, rests⟩

/-! ### Values one after the other -/

/-- Several values with commas between them. -/
def separated {α : Type} (write : α → List Char) : List α → List Char
  | [] => []
  | first :: rest => write first ++ rest.flatMap fun item => ',' :: write item

section Separated

variable {α : Type} {write : α → List Char} {closing : Char}

theorem ends_flatMap (closes : closing = ']' ∨ closing = '\x7d') (items : List α)
    (rest : List Char) :
    Ends ((items.flatMap fun item => ',' :: write item) ++ closing :: rest) := by
  intro char first
  cases items with
  | nil =>
    obtain rfl := Option.some.inj first
    exact .inr closes
  | cons item items =>
    obtain rfl := Option.some.inj first
    exact .inl rfl

/-- Values that each follow a comma, up to a closing bracket. -/
theorem flatMap_comma_inj (closes : closing = ']' ∨ closing = '\x7d') {items items' : List α}
    {rest rest' : List Char} (each : ∀ item ∈ items, Unambiguous write item)
    (same : (items.flatMap fun item => ',' :: write item) ++ closing :: rest =
      (items'.flatMap fun item => ',' :: write item) ++ closing :: rest') :
    items = items' ∧ rest = rest' := by
  have notComma : closing ≠ ',' := by
    rcases closes with rfl | rfl <;> decide
  induction items generalizing items' with
  | nil =>
    cases items' with
    | nil => exact ⟨rfl, (List.cons.inj same).2⟩
    | cons item' items' => exact absurd (List.cons.inj same).1 notComma
  | cons item items ih =>
    cases items' with
    | nil => exact absurd (List.cons.inj same).1.symm notComma
    | cons item' items' =>
      simp only [List.flatMap_cons, List.cons_append, List.append_assoc, List.cons.injEq,
        true_and] at same
      obtain ⟨rfl, later⟩ := each item (by simp) item' _ _ (ends_flatMap closes items rest)
        (ends_flatMap closes items' rest') same
      obtain ⟨rfl, rfl⟩ := ih (fun item member => each item (by simp [member])) later
      exact ⟨rfl, rfl⟩

/-- A list between brackets goes up to its own closing bracket. -/
theorem separated_append_inj (closes : closing = ']' ∨ closing = '\x7d')
    (begins : ∀ item rest, (write item ++ rest).head? ≠ some closing) {items items' : List α}
    {rest rest' : List Char} (each : ∀ item ∈ items, Unambiguous write item)
    (same : separated write items ++ closing :: rest =
      separated write items' ++ closing :: rest') :
    items = items' ∧ rest = rest' := by
  cases items with
  | nil =>
    cases items' with
    | nil => exact ⟨rfl, (List.cons.inj same).2⟩
    | cons item' items' =>
      rw [separated, separated, List.append_assoc] at same
      exact absurd (congrArg List.head? same).symm (begins item' _)
  | cons item items =>
    cases items' with
    | nil =>
      rw [separated, separated, List.append_assoc] at same
      exact absurd (congrArg List.head? same) (begins item _)
    | cons item' items' =>
      rw [separated, separated, List.append_assoc, List.append_assoc] at same
      obtain ⟨rfl, later⟩ := each item (by simp) item' _ _ (ends_flatMap closes items rest)
        (ends_flatMap closes items' rest') same
      obtain ⟨rfl, rfl⟩ := flatMap_comma_inj closes
        (fun item member => each item (by simp [member])) later
      exact ⟨rfl, rfl⟩

end Separated

/-! ### Values -/

/-- What a value is, apart from its contents. -/
inductive Shape where
  | null
  | bool
  | number
  | string
  | array
  | object
deriving DecidableEq

def shape : Json → Shape
  | .null => .null
  | .bool _ => .bool
  | .number .. => .number
  | .string _ => .string
  | .array _ => .array
  | .object _ => .object

/-- The shape of a value by the first character of its text. -/
def Shape.ofLead? (char : Char) : Option Shape :=
  if char.isDigit || char == '-' then some .number
  else if char = 'n' then some .null
  else if char = 't' ∨ char = 'f' then some .bool
  else if char = '\x22' then some .string
  else if char = '[' then some .array
  else if char = '\x7b' then some .object
  else none

theorem numeral_lead (mantissa : Int) (exponent : Nat) (rest : List Char) :
    (numeral mantissa exponent ++ rest).head?.bind Shape.ofLead? = some .number := by
  rw [numeral_eq]
  cases written : (toString mantissa).toList with
  | nil => exact absurd written (mantissa_ne_nil mantissa)
  | cons first others =>
    have lead : first.isDigit = true ∨ first = '-' := mantissa_chars (written ▸ List.mem_cons_self)
    rcases lead with digit | sign <;> simp [Shape.ofLead?, *]

theorem lead_chars (json : Json) (rest : List Char) :
    (json.chars ++ rest).head?.bind Shape.ofLead? = some json.shape := by
  cases json with
  | null => rfl
  | bool value => cases value <;> rfl
  | number mantissa exponent =>
    rw [chars]
    exact numeral_lead mantissa exponent rest
  | string text => rfl
  | array items => rfl
  | object members => rfl

theorem shape_eq_of_chars {json other : Json} {rest rest' : List Char}
    (same : json.chars ++ rest = other.chars ++ rest') : json.shape = other.shape := by
  have leads := lead_chars json rest
  rw [same, lead_chars other rest'] at leads
  exact (Option.some.inj leads).symm

/-- A member of an object: its key and its value. -/
def memberText (member : String × Json) : List Char := quote member.1 ++ ':' :: member.2.chars

theorem itemChars_eq (items : List Json) : itemChars items = separated chars items := by
  induction items with
  | nil => rw [itemChars, separated]
  | cons item items ih =>
    cases items with
    | nil => simp [itemChars, separated]
    | cons next items => simp [itemChars, ih, separated]

theorem memberChars_eq (members : List (String × Json)) :
    memberChars members = separated memberText members := by
  induction members with
  | nil => rw [memberChars, separated]
  | cons member members ih =>
    cases members with
    | nil => simp [memberChars, separated, memberText]
    | cons next members => simp [memberChars, ih, separated, memberText]

theorem chars_head?_ne (json : Json) (rest : List Char) :
    (json.chars ++ rest).head? ≠ some ']' := by
  intro closing
  have lead := lead_chars json rest
  rw [closing] at lead
  cases lead

theorem sizeOf_member_lt {member : String × Json} {members : List (String × Json)}
    (present : member ∈ members) : sizeOf member.2 < sizeOf members := by
  have inner := List.sizeOf_lt_of_mem present
  obtain ⟨key, json⟩ := member
  simp only [Prod.mk.sizeOf_spec] at inner ⊢
  omega

theorem memberText_head?_ne (member : String × Json) (rest : List Char) :
    (memberText member ++ rest).head? ≠ some '\x7d' := by
  simp [memberText, quote]

theorem memberText_unambiguous {member : String × Json} (value : Unambiguous chars member.2) :
    Unambiguous memberText member := by
  intro other rest rest' ends ends' same
  obtain ⟨key, json⟩ := member
  obtain ⟨key', json'⟩ := other
  simp only [memberText, List.append_assoc, List.cons_append] at same
  obtain ⟨rfl, values⟩ := quote_append_inj same
  obtain ⟨rfl, rests⟩ := value json' rest rest' ends ends' (List.cons.inj values).2
  exact ⟨rfl, rests⟩

theorem array_unambiguous {items : List Json} (each : ∀ item ∈ items, Unambiguous chars item) :
    Unambiguous chars (.array items) := by
  intro other rest rest' _ _ same
  cases other with
  | array items' =>
    simp only [chars, itemChars_eq, List.cons_append, List.append_assoc, List.nil_append,
      List.cons.injEq, true_and] at same
    obtain ⟨rfl, rests⟩ := separated_append_inj (.inl rfl) chars_head?_ne each same
    exact ⟨rfl, rests⟩
  | _ => cases shape_eq_of_chars same

theorem object_unambiguous {members : List (String × Json)}
    (each : ∀ member ∈ members, Unambiguous chars member.2) :
    Unambiguous chars (.object members) := by
  intro other rest rest' _ _ same
  cases other with
  | object members' =>
    simp only [chars, memberChars_eq, List.cons_append, List.append_assoc, List.nil_append,
      List.cons.injEq, true_and] at same
    obtain ⟨rfl, rests⟩ := separated_append_inj (.inr rfl) memberText_head?_ne
      (fun member present => memberText_unambiguous (each member present)) same
    exact ⟨rfl, rests⟩
  | _ => cases shape_eq_of_chars same

/-- Values without parts. -/
theorem scalar_unambiguous {json : Json} (array : json.shape ≠ .array)
    (object : json.shape ≠ .object) : Unambiguous chars json := by
  intro other rest rest' ends ends' same
  have shapes := shape_eq_of_chars same
  cases json with
  | null =>
    cases other with
    | null => exact ⟨rfl, List.append_cancel_left same⟩
    | _ => cases shapes
  | bool value =>
    cases other with
    | bool value' =>
      cases value <;> cases value'
      · exact ⟨rfl, List.append_cancel_left same⟩
      · simp [chars] at same
      · simp [chars] at same
      · exact ⟨rfl, List.append_cancel_left same⟩
    | _ => cases shapes
  | number mantissa exponent =>
    cases other with
    | number mantissa' exponent' =>
      rw [chars, chars] at same
      obtain ⟨⟨rfl, rfl⟩, rests⟩ := numeral_append_inj ends ends' same
      exact ⟨rfl, rests⟩
    | _ => cases shapes
  | string text =>
    cases other with
    | string text' =>
      rw [chars, chars] at same
      obtain ⟨rfl, rests⟩ := quote_append_inj same
      exact ⟨rfl, rests⟩
    | _ => cases shapes
  | array items => exact absurd rfl array
  | object members => exact absurd rfl object

/-- No text of a value runs into what follows it. -/
theorem chars_unambiguous (json : Json) : Unambiguous chars json :=
  match json with
  | .array items => array_unambiguous fun item member =>
    have := List.sizeOf_lt_of_mem member
    chars_unambiguous item
  | .object members => object_unambiguous fun member present =>
    have := sizeOf_member_lt present
    chars_unambiguous member.2
  | .null | .bool _ | .number .. | .string _ => scalar_unambiguous nofun nofun
termination_by sizeOf json

theorem compact_injective : Function.Injective compact := by
  intro json other same
  have texts : json.chars ++ [] = other.chars ++ [] := by
    simpa using String.ofList_inj.mp same
  exact (chars_unambiguous json other [] [] nofun nofun texts).1

end Json

/-- Reports with the same text are the same, whatever characters their texts hold and however deep
their symbols nest. -/
theorem DatedReport.text_injective :
    Function.Injective fun dated : DatedReport => dated.toJson.compact := by
  intro dated other same
  have values : dated.toJson = other.toJson := Json.compact_injective same
  have read := congrArg DatedReport.ofJson? values
  rw [DatedReport.ofJson?_toJson, DatedReport.ofJson?_toJson] at read
  exact Option.some.inj read

end ScriptAtlas
