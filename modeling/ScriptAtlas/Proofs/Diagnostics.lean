import ScriptAtlas.Proofs.Identity

/-! What the validator reports: one finding for each rule that a symbol breaks where it occurs, for
each call without a target, for each import without a path, and for each symbol at the top level
whose identifier came before. It finds nothing exactly if no rule is broken. -/
namespace ScriptAtlas

namespace Symbol

mutual
/-- The members of a symbol at any depth, each before its own. -/
def descendants : Symbol → List Symbol
  | { children, .. } => occurrences children

/-- Every symbol that occurs in a list, at the top level or as a member. -/
def occurrences : List Symbol → List Symbol
  | [] => []
  | symbol :: rest => symbol :: (descendants symbol ++ occurrences rest)
end

theorem descendants_eq (symbol : Symbol) : symbol.descendants = occurrences symbol.children := by
  cases symbol; rfl

theorem within_of_mem_occurrences {part : Symbol} {symbols : List Symbol}
    (member : part ∈ occurrences symbols) : ∃ symbol ∈ symbols, part.Within symbol := by
  refine occurrences.induct
    (fun symbol => part ∈ symbol.descendants → ∃ child ∈ symbol.children, part.Within child)
    (fun symbols => part ∈ occurrences symbols → ∃ symbol ∈ symbols, part.Within symbol)
    ?_ ?_ ?_ symbols member
  · intro id name kind location signature docComment exported receiver children calls metadata ih
    exact ih
  · intro absurd
    simp [occurrences] at absurd
  · intro symbol rest below later present
    rw [occurrences] at present
    rcases List.mem_cons.mp present with rfl | other
    · exact ⟨part, by simp, .self part⟩
    rcases List.mem_append.mp other with inside | after
    · obtain ⟨child, belongs, deeper⟩ := below inside
      exact ⟨symbol, by simp, .member belongs deeper⟩
    · obtain ⟨found, listed, deeper⟩ := later after
      exact ⟨found, by simp [listed], deeper⟩

theorem mem_occurrences_of_within {part symbol : Symbol} (inside : part.Within symbol)
    {symbols : List Symbol} (listed : symbol ∈ symbols) : part ∈ occurrences symbols := by
  induction inside generalizing symbols with
  | self =>
    induction listed with
    | head rest => simp [occurrences]
    | tail other _ ih => simp [occurrences, ih]
  | member belongs _ deeper =>
    induction listed with
    | head rest =>
      rw [occurrences, descendants_eq]
      exact List.mem_cons_of_mem _ (List.mem_append_left _ (deeper belongs))
    | tail other _ ih => simp [occurrences, ih]

/-- What holds of all that occurs in a list holds throughout its symbols. -/
theorem forall_occurrences_iff {property : Symbol → Prop} {symbols : List Symbol} :
    (∀ part ∈ occurrences symbols, property part) ↔
      ∀ symbol ∈ symbols, symbol.Throughout property := by
  constructor
  · intro all symbol listed part inside
    exact all part (mem_occurrences_of_within inside listed)
  · intro all part member
    obtain ⟨symbol, listed, inside⟩ := within_of_mem_occurrences member
    exact all symbol listed part inside

/-- The symbols that occur below the top level. -/
def belowTop (symbols : List Symbol) : List Symbol := symbols.flatMap descendants

/-- What the validator asks of a symbol wherever it occurs. -/
structure Sound (symbol : Symbol) : Prop where
  named : symbol.name ≠ ""
  begins : 1 ≤ symbol.location.startLine
  ends : symbol.location.startLine ≤ symbol.location.endLine
  owns : symbol.children ≠ [] → symbol.kind = .classType
  calls : ∀ call ∈ symbol.calls, call.target ≠ ""

end Symbol

open ScriptAtlas.Symbol

/-- Nothing to report: identifiers tell the symbols at the top level apart, every symbol is sound,
every member has a receiver, and every import a path. -/
structure Faultless (symbols : List Symbol) (imports : List Import) : Prop where
  distinct : (symbols.map (·.id)).Nodup
  sound : ∀ symbol ∈ symbols, symbol.Throughout Sound
  owned : ∀ symbol ∈ symbols, ∀ child ∈ symbol.children,
    child.Throughout fun part => part.receiver.isSome = true
  paths : ∀ dependency ∈ imports, dependency.path ≠ ""

/-- The symbols that have the identifier of an earlier one. -/
def repeatedIds (symbols : List Symbol) : List Symbol :=
  repeats (fun first second => first.id = second.id) symbols

/-- The number of broken rules: each counts once for each symbol at the top level, symbol
anywhere, member, call or import that breaks it. -/
def brokenRules (symbols : List Symbol) (imports : List Import) : Nat :=
  (repeatedIds symbols).length +
  (occurrences symbols).countP (fun symbol => symbol.name = "") +
  (occurrences symbols).countP (fun symbol => symbol.location.startLine < 1) +
  (occurrences symbols).countP
    (fun symbol => symbol.location.endLine < symbol.location.startLine) +
  (occurrences symbols).countP
    (fun symbol => symbol.children ≠ [] ∧ symbol.kind ≠ .classType) +
  (belowTop symbols).countP (fun symbol => symbol.receiver = none) +
  ((occurrences symbols).flatMap (·.calls)).countP (fun call => call.target = "") +
  imports.countP (fun dependency => dependency.path = "")

namespace Violation

/-- A rule for single symbols: when it is broken, and what is then reported. -/
structure Rule where
  broken : Symbol → Bool
  report : Symbol → Violation

namespace Rule

def findings (rule : Rule) (symbols : List Symbol) : List Violation :=
  (symbols.filter rule.broken).map rule.report

def named : Rule where
  broken symbol := symbol.name = ""
  report symbol := .emptyName symbol.location.startLine

def begins : Rule where
  broken symbol := symbol.location.startLine < 1
  report symbol := .startsAtZero symbol.name

def ends : Rule where
  broken symbol := symbol.location.endLine < symbol.location.startLine
  report symbol := .endsBeforeStart symbol.name symbol.location.endLine symbol.location.startLine

def owns : Rule where
  broken symbol := symbol.children ≠ [] ∧ symbol.kind ≠ .classType
  report symbol := .unexpectedChildren symbol.name symbol.kind

/-- The rule for members only. -/
def owned : Rule where
  broken symbol := symbol.receiver = none
  report symbol := .missingReceiver symbol.name

end Rule

/-- The findings on the calls of a symbol. -/
def ofCalls (symbol : Symbol) : List Violation :=
  (symbol.calls.filter fun call => call.target = "").map
    fun call => .emptyTarget symbol.name call.location.startLine

/-- The findings on symbols wherever they occur, rule by rule. -/
def anywhere (symbols : List Symbol) : List Violation :=
  Rule.named.findings symbols ++ Rule.begins.findings symbols ++ Rule.ends.findings symbols ++
    Rule.owns.findings symbols ++ symbols.flatMap ofCalls

/-- The findings on a file, rule by rule. -/
def byRule (symbols : List Symbol) (imports : List Import) : List Violation :=
  (repeatedIds symbols).map (fun symbol => .duplicateId symbol.id symbol.name) ++
    anywhere (occurrences symbols) ++ Rule.owned.findings (belowTop symbols) ++
    (imports.filter fun dependency => dependency.path = "").map
      fun dependency => .emptyPath dependency.location.startLine

@[simp] theorem Rule.findings_nil (rule : Rule) : rule.findings [] = [] := rfl

theorem Rule.findings_append (rule : Rule) (left right : List Symbol) :
    rule.findings (left ++ right) = rule.findings left ++ rule.findings right := by
  simp [findings]

theorem Rule.findings_singleton (rule : Rule) (symbol : Symbol) :
    rule.findings [symbol] = if rule.broken symbol then [rule.report symbol] else [] := by
  by_cases broken : rule.broken symbol <;> simp [findings, broken]

@[simp] theorem Rule.length_findings (rule : Rule) (symbols : List Symbol) :
    (rule.findings symbols).length = symbols.countP rule.broken := by
  simp [findings, List.countP_eq_length_filter]

theorem count_anywhere_append (violation : Violation) (left right : List Symbol) :
    (anywhere (left ++ right)).count violation =
      (anywhere left).count violation + (anywhere right).count violation := by
  simp only [anywhere, Rule.findings_append, List.flatMap_append, List.count_append]
  omega

private theorem isEmpty_eq_decide (text : String) : text.isEmpty = decide (text = "") := by
  rw [Bool.eq_iff_iff]
  simp

/-- The findings on a symbol by itself: its receiver counts if it is a member. -/
theorem ofSymbol_eq (symbol : Symbol) (isMember : Bool) :
    ofSymbol symbol isMember =
      Rule.named.findings [symbol] ++ Rule.begins.findings [symbol] ++
        Rule.ends.findings [symbol] ++ Rule.owns.findings [symbol] ++
        Rule.owned.findings (if isMember then [symbol] else []) ++ ofCalls symbol := by
  have owns : (!symbol.children.isEmpty && symbol.kind != .classType) =
      decide (symbol.children ≠ [] ∧ symbol.kind ≠ .classType) := by
    rw [Bool.eq_iff_iff]
    simp
  have owned : symbol.receiver.isNone = decide (symbol.receiver = none) := by
    rw [Bool.eq_iff_iff]
    simp
  cases isMember <;>
    simp [ofSymbol, ofCalls, Rule.findings_singleton, Rule.named, Rule.begins, Rule.ends, Rule.owns,
      Rule.owned, isEmpty_eq_decide, owns, owned]

theorem count_ofSymbol (violation : Violation) (symbol : Symbol) (isMember : Bool) :
    (ofSymbol symbol isMember).count violation =
      (anywhere [symbol]).count violation +
        (Rule.owned.findings (if isMember then [symbol] else [])).count violation := by
  rw [ofSymbol_eq]
  simp only [anywhere, List.flatMap_singleton, List.count_append]
  omega

/-- The findings on members are complete: those on each symbol below, and on its receiver. -/
def Complete (members : List Symbol) : Prop :=
  (ofMembers members).Perm
    (anywhere (occurrences members) ++ Rule.owned.findings (occurrences members))

/-- A symbol whose members are dealt with completely is so itself. Its own receiver counts if it is
a member. -/
theorem ofTree_perm {symbol : Symbol} (complete : Complete symbol.children) (isMember : Bool) :
    (ofTree isMember symbol).Perm
      (anywhere (symbol :: symbol.descendants) ++
        Rule.owned.findings ((if isMember then [symbol] else []) ++ symbol.descendants)) := by
  rw [List.perm_iff_count]
  intro violation
  have below := complete.count_eq violation
  rw [ofTree_eq, descendants_eq, ← List.singleton_append, Rule.findings_append]
  simp only [List.count_append, count_ofSymbol, count_anywhere_append] at below ⊢
  omega

/-- Members are dealt with completely at any depth. -/
theorem complete (members : List Symbol) : Complete members := by
  refine ofMembers.induct
    (fun _ symbol => Complete symbol.children) Complete ?_ ?_ ?_ members
  · intro _ id name kind location signature docComment exported receiver children calls metadata ih
    exact ih
  · exact .refl _
  · intro member rest own later
    unfold Complete at later ⊢
    rw [List.perm_iff_count]
    intro violation
    have first := (ofTree_perm own true).count_eq violation
    have others := later.count_eq violation
    rw [ofMembers, occurrences, ← List.cons_append]
    simp only [List.count_append, count_anywhere_append, Rule.findings_append, ↓reduceIte,
      List.singleton_append] at first others ⊢
    omega

/-- What is found in the symbols at the top level besides repeated identifiers. -/
theorem ofSymbols_others (seen : List String) (symbols : List Symbol) :
    (ofSymbols seen symbols).filter (!isDuplicate ·) = symbols.flatMap (ofTree false) := by
  induction symbols generalizing seen with
  | nil => rfl
  | cons symbol rest ih =>
    have own : (ofTree false symbol).filter (!isDuplicate ·) = ofTree false symbol := by
      apply List.filter_eq_self.mpr
      intro violation member
      have none := List.filter_eq_nil_iff.mp (ofTree_no_duplicate false symbol) violation member
      simpa using none
    rw [ofSymbols, List.filter_append, List.filter_append, own, ih, List.flatMap_cons]
    split <;> simp [isDuplicate]

theorem flatMap_ofTree_perm (symbols : List Symbol) :
    (symbols.flatMap (ofTree false)).Perm
      (anywhere (occurrences symbols) ++ Rule.owned.findings (belowTop symbols)) := by
  rw [List.perm_iff_count]
  intro violation
  induction symbols with
  | nil => rfl
  | cons symbol rest ih =>
    have first := (ofTree_perm (complete symbol.children) false).count_eq violation
    rw [List.flatMap_cons, occurrences, belowTop, List.flatMap_cons, ← belowTop,
      ← List.cons_append]
    simp only [List.count_append, count_anywhere_append, Rule.findings_append, Bool.false_eq_true,
      ↓reduceIte, List.nil_append] at first ih ⊢
    omega

theorem flatMap_ofImport (imports : List Import) :
    imports.flatMap ofImport =
      (imports.filter fun dependency => dependency.path = "").map
        fun dependency => .emptyPath dependency.location.startLine := by
  induction imports with
  | nil => rfl
  | cons dependency rest ih =>
    by_cases empty : dependency.path = "" <;> simp [ofImport, empty, ih]

theorem violations_others (symbols : List Symbol) (imports : List Import) :
    (violations symbols imports).filter (!isDuplicate ·) =
      symbols.flatMap (ofTree false) ++ imports.flatMap ofImport := by
  rw [violations, List.filter_append, ofSymbols_others, flatMap_ofImport, List.filter_map]
  simp [Function.comp_def, isDuplicate]

/-- The validator goes from symbol to symbol; its findings are those of all the rules. -/
theorem violations_perm (symbols : List Symbol) (imports : List Import) :
    (violations symbols imports).Perm (byRule symbols imports) := by
  have parts := List.filter_append_perm isDuplicate (violations symbols imports)
  rw [violations_duplicates, violations_others, flatMap_ofImport] at parts
  unfold byRule
  rw [List.append_assoc (_ ++ _), List.append_assoc, ← List.append_assoc (anywhere _)]
  exact parts.symm.trans (((flatMap_ofTree_perm symbols).append_right _).append_left _)

theorem length_byRule (symbols : List Symbol) (imports : List Import) :
    (byRule symbols imports).length = brokenRules symbols imports := by
  have calls : ((occurrences symbols).flatMap ofCalls).length =
      ((occurrences symbols).flatMap (·.calls)).countP (fun call => call.target = "") := by
    rw [List.length_flatMap, List.countP_flatMap]
    simp [ofCalls, List.countP_eq_length_filter, Function.comp_def]
  simp only [byRule, anywhere, brokenRules, List.length_append, List.length_map,
    Rule.length_findings, calls, ← List.countP_eq_length_filter]
  simp only [Rule.named, Rule.begins, Rule.ends, Rule.owns, Rule.owned]
  omega

end Violation

theorem repeats_eq_nil_iff {α : Type} {alike : α → α → Prop} [DecidableRel alike]
    {items : List α} :
    repeats alike items = [] ↔ items.Pairwise fun first second => ¬ alike first second := by
  rw [repeats, List.map_eq_nil_iff, List.filter_eq_nil_iff, List.pairwise_iff_getElem]
  constructor
  · intro none first second firstBound secondBound before same
    have entry : (items[second], second) ∈ items.zipIdx := by
      simp [List.mem_zipIdx_iff_getElem?]
    apply none _ entry
    rw [decide_eq_true_eq]
    exact ⟨items[first], List.mem_take_iff_getElem.mpr ⟨first, by omega, rfl⟩, same⟩
  · rintro apart ⟨item, place⟩ entry
    obtain ⟨bound, rfl⟩ : ∃ bound : place < items.length, items[place] = item :=
      List.getElem?_eq_some_iff.mp (List.mem_zipIdx_iff_getElem?.mp entry)
    rw [decide_eq_true_eq]
    rintro ⟨earlier, before, same⟩
    obtain ⟨index, lower, rfl⟩ := List.mem_take_iff_getElem.mp before
    exact apart index place (by omega) bound (by omega) same

theorem repeatedIds_eq_nil_iff {symbols : List Symbol} :
    repeatedIds symbols = [] ↔ (symbols.map (·.id)).Nodup := by
  rw [repeatedIds, repeats_eq_nil_iff, List.Nodup, List.pairwise_map]

theorem brokenRules_eq_zero_iff (symbols : List Symbol) (imports : List Import) :
    brokenRules symbols imports = 0 ↔ Faultless symbols imports := by
  have members : (∀ part ∈ belowTop symbols, part.receiver.isSome = true) ↔
      ∀ symbol ∈ symbols, ∀ child ∈ symbol.children,
        child.Throughout fun part => part.receiver.isSome = true := by
    simp only [belowTop, List.forall_mem_flatMap, descendants_eq, forall_occurrences_iff]
  simp only [brokenRules, Nat.add_eq_zero_iff, List.length_eq_zero_iff, List.countP_eq_zero,
    repeatedIds_eq_nil_iff, List.forall_mem_flatMap, decide_eq_true_eq, UInt32.not_lt]
  constructor
  · rintro ⟨⟨⟨⟨⟨⟨⟨distinct, named⟩, begins⟩, ends⟩, owns⟩, owned⟩, calls⟩, paths⟩
    refine ⟨distinct, forall_occurrences_iff.mp fun part member => ?_,
      members.mp fun part member => Option.isSome_iff_ne_none.mpr (owned part member), paths⟩
    exact {
      named := named part member
      begins := begins part member
      ends := ends part member
      owns := by simpa using owns part member
      calls := calls part member }
  · rintro ⟨distinct, sound, owned, paths⟩
    have sound := forall_occurrences_iff.mpr sound
    refine ⟨⟨⟨⟨⟨⟨⟨distinct, fun part member => (sound part member).named⟩,
      fun part member => (sound part member).begins⟩, fun part member => (sound part member).ends⟩,
      fun part member broken => broken.2 ((sound part member).owns broken.1)⟩,
      fun part member => Option.isSome_iff_ne_none.mp (members.mpr owned part member)⟩,
      fun part member => (sound part member).calls⟩, paths⟩

/-- The validator reports exactly what is wrong with a file: nothing if and only if there is no
fault, as many messages as there are broken rules, and, in some order, the messages of each rule
about all that breaks it. -/
theorem validate_reports_exactly (path : String) (symbols : List Symbol) (imports : List Import) :
    (validate path symbols imports = [] ↔ Faultless symbols imports) ∧
    (validate path symbols imports).length = brokenRules symbols imports ∧
    (validate path symbols imports).Perm
      ((Violation.byRule symbols imports).map (Violation.message path)) := by
  have exactly := (Violation.violations_perm symbols imports).map (Violation.message path)
  have length : (validate path symbols imports).length = brokenRules symbols imports := by
    rw [validate, exactly.length_eq, List.length_map, Violation.length_byRule]
  refine ⟨?_, length, exactly⟩
  rw [← brokenRules_eq_zero_iff, ← length, List.length_eq_zero_iff]

end ScriptAtlas
