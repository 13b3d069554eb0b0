import Mathlib.Data.List.DropRight
import Mathlib.Data.List.Infix
import ScriptAtlas.Source

/-! What is left of a string literal without its quotation marks. Trimming takes off every mark that
stands at an end, those of the contents too; so contents are altered exactly if they begin or end
with a mark, and what is left of them is their one largest inner part that does neither. -/
namespace ScriptAtlas
open SyntaxTree

namespace Text

/-- A text that neither begins nor ends with an unwanted character. -/
structure Clean (unwanted : Char → Prop) (chars : List Char) : Prop where
  first : ∀ char ∈ chars.head?, ¬unwanted char
  last : ∀ char ∈ chars.getLast?, ¬unwanted char

/-- A clean inner part of a text that lies in no other clean inner part of it. -/
structure MaximalClean (unwanted : Char → Prop) (whole part : List Char) : Prop where
  inner : part <:+: whole
  clean : Clean unwanted part
  maximal : ∀ other, other <:+: whole → Clean unwanted other → part <:+: other → other = part

section Trim
variable {unwanted : Char → Bool} {chars part : List Char}

theorem trimList_eq : trimList unwanted chars = (chars.dropWhile unwanted).rdropWhile unwanted :=
  rfl

theorem trimList_begins (unwanted : Char → Bool) (chars : List Char) :
    trimList unwanted chars <+: chars.dropWhile unwanted :=
  List.rdropWhile_prefix ..

theorem trimList_inner : trimList unwanted chars <:+: chars :=
  (trimList_begins unwanted chars).isInfix.trans (List.dropWhile_suffix unwanted).isInfix

theorem trimList_eq_nil_iff :
    trimList unwanted chars = [] ↔ ∀ char ∈ chars, unwanted char = true := by
  rw [trimList_eq, List.rdropWhile_eq_nil_iff]
  constructor
  · intro rest
    rw [← List.dropWhile_eq_nil_iff]
    by_contra left
    have wanted := List.head_dropWhile_not unwanted left
    simp [rest _ (List.head_mem left)] at wanted
  · intro all char member
    exact all char ((List.dropWhile_suffix unwanted).subset member)

theorem clean_trimList : Clean (unwanted · = true) (trimList unwanted chars) := by
  constructor
  · intro char found
    -- The first character that is left after both passes is the one left after the first pass.
    obtain ⟨after, split⟩ := trimList_begins unwanted chars
    have head : (chars.dropWhile unwanted).head? = some char := by
      rw [← split, List.head?_append, Option.mem_def.mp found, Option.some_or]
    have wanted := List.head?_dropWhile_not unwanted chars
    simpa [head] using wanted
  · intro char found
    obtain ⟨left, rfl⟩ := List.mem_getLast?_eq_getLast found
    exact List.rdropWhile_last_not unwanted _ left

/-- An inner part that begins with a wanted character is left whole where unwanted ones are dropped
from the beginning. -/
theorem infix_dropWhile (inner : part <:+: chars)
    (first : ∀ char ∈ part.head?, ¬unwanted char = true) : part <:+: chars.dropWhile unwanted := by
  induction chars with
  | nil => exact inner
  | cons head rest ih =>
    by_cases dropped : unwanted head = true
    · rw [List.dropWhile_cons_of_pos dropped]
      rcases List.infix_cons_iff.mp inner with start | later
      · rcases List.prefix_cons_iff.mp start with rfl | ⟨tail, rfl, _⟩
        · exact List.nil_infix
        · exact absurd dropped (first head rfl)
      · exact ih later
    · rwa [List.dropWhile_cons_of_neg dropped]

/-- Every clean inner part lies in what trimming leaves. -/
theorem infix_trimList (inner : part <:+: chars) (clean : Clean (unwanted · = true) part) :
    part <:+: trimList unwanted chars := by
  have begun : part <:+: chars.dropWhile unwanted := infix_dropWhile inner clean.first
  rw [← List.reverse_infix] at begun ⊢
  rw [trimList, List.reverse_reverse]
  apply infix_dropWhile begun
  rw [List.head?_reverse]
  exact clean.last

/-- Trimming leaves the one maximal clean inner part. -/
theorem maximalClean_iff :
    MaximalClean (unwanted · = true) chars part ↔ part = trimList unwanted chars := by
  constructor
  · intro largest
    have covered := infix_trimList largest.inner largest.clean
    exact (largest.maximal _ trimList_inner clean_trimList covered).symm
  · rintro rfl
    refine ⟨trimList_inner, clean_trimList, ?_⟩
    intro other inner clean covers
    exact List.infix_antisymm (infix_trimList inner clean) covers

theorem trimList_eq_self_iff :
    trimList unwanted chars = chars ↔ Clean (unwanted · = true) chars := by
  constructor
  · intro same
    rw [← same]
    exact clean_trimList
  · intro clean
    exact List.infix_antisymm trimList_inner (infix_trimList List.infix_rfl clean)

/-- An unwanted character at each end makes no difference. -/
theorem trimList_enclosed {mark : Char} (dropped : unwanted mark = true) :
    trimList unwanted (mark :: chars ++ [mark]) = trimList unwanted chars := by
  rw [trimList_eq, trimList_eq, List.cons_append, List.dropWhile_cons_of_pos dropped,
    List.dropWhile_append]
  split
  · rename_i empty
    rw [List.isEmpty_iff.mp empty, List.dropWhile_cons_of_pos dropped, List.dropWhile_nil]
  · rw [List.rdropWhile_concat_pos _ _ _ dropped]

end Trim

/-- A single or a double quotation mark. -/
def QuotationMark (char : Char) : Prop := char = '\x27' ∨ char = '\x22'

theorem isQuote_eq_true : (isQuote · = true) = QuotationMark := by
  funext char
  simp [isQuote, QuotationMark]

end Text

namespace Source
variable {source : Source} {node : Node} {mark : Char} {body : String}

/-- The value of a literal depends only on what stands between its marks. -/
theorem stringValue?_enclosed (literal : node.kind = .stringLiteral)
    (quotation : Text.QuotationMark mark)
    (written : source.text node = String.singleton mark ++ body ++ String.singleton mark) :
    source.stringValue? node =
      some (String.ofList (Text.trimList Text.isQuote body.toList)) := by
  have dropped : Text.isQuote mark = true := by
    rwa [← Text.isQuote_eq_true] at quotation
  have spelt : (source.text node).toList = mark :: body.toList ++ [mark] := by
    simp [written]
  rw [stringValue?, if_pos literal, Text.trim, spelt, Text.trimList_enclosed dropped]

/-- A literal has its contents as its value exactly if they neither begin nor end with a quotation
mark. In any case the value is their one maximal inner part that does neither. -/
theorem literal_value_maximal (literal : node.kind = .stringLiteral)
    (quotation : Text.QuotationMark mark)
    (written : source.text node = String.singleton mark ++ body ++ String.singleton mark) :
    (source.stringValue? node = some body ↔ Text.Clean Text.QuotationMark body.toList) ∧
      ∃ value, source.stringValue? node = some value ∧
        (∀ part : String,
          Text.MaximalClean Text.QuotationMark body.toList part.toList ↔ part = value) ∧
        (value = "" ↔ ∀ char ∈ body.toList, Text.QuotationMark char) := by
  rw [stringValue?_enclosed literal quotation written, ← Text.isQuote_eq_true]
  refine ⟨?_, _, rfl, ?_, ?_⟩
  · rw [Option.some_inj, ← String.toList_inj, String.toList_ofList]
    exact Text.trimList_eq_self_iff
  · intro part
    rw [← String.toList_inj, String.toList_ofList]
    exact Text.maximalClean_iff
  · rw [← String.toList_inj, String.toList_ofList]
    exact Text.trimList_eq_nil_iff

/-- Contents that begin with one kind of mark and end with the other, escaped, lose both; the mark
between them and the backslash stay. -/
theorem literal_value_maximal_sampleLiteral :
    let source := Source.ofBytes "lib/a.js" "'\"a\" \\''".toUTF8
    let node : Node := ⟨.stringLiteral, true, false, none, 0, 8, []⟩
    let body := "\"a\" \\'"
    let value := "a\" \\"
    node.kind = .stringLiteral ∧ Text.QuotationMark '\x27' ∧
      source.text node = String.singleton '\x27' ++ body ++ String.singleton '\x27' ∧
      source.stringValue? node = some value ∧ source.stringValue? node ≠ some body ∧
      (∀ part : String,
        Text.MaximalClean Text.QuotationMark body.toList part.toList ↔ part = value) := by
  intro source node body value
  have quotation : Text.QuotationMark '\x27' := .inl rfl
  have written :
      source.text node = String.singleton '\x27' ++ body ++ String.singleton '\x27' := by
    decide +kernel
  obtain ⟨kept, found, read, unique, -⟩ := literal_value_maximal rfl quotation written
  have same : source.stringValue? node = some value := by decide +kernel
  have altered : ¬Text.Clean Text.QuotationMark body.toList := by
    intro clean
    have first : body.toList.head? = some '\x22' := by decide +kernel
    exact clean.first '\x22' first (.inr rfl)
  obtain rfl : found = value := Option.some_inj.mp (read.symm.trans same)
  exact ⟨rfl, quotation, written, same, mt kept.mp altered, unique⟩

end Source
end ScriptAtlas
