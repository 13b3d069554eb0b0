import ScriptAtlas.Proofs.Admission

/-! The type name that a module takes from its path. Only the last two pieces of the path count, cut
at separators of either style; how many separators stand between the pieces and at the ends does
not. Capital letters are taken from tables, which are checked here once for all characters. -/
namespace ScriptAtlas

namespace Path

def isSeparator (char : Char) : Bool := char == '/' || char == '\\'

/-- The non-empty pieces of a text between separators of either style. -/
def pieces (chars : List Char) : List (List Char) :=
  (chars.splitOnP isSeparator).filter (!·.isEmpty)

/-- A file name is cut at its last dot; a name without a dot, or with a leading one only, stays
whole. -/
inductive IsStem (file : List Char) : List Char → Prop where
  | cut (stem extension : List Char) (named : stem ≠ []) (last : '.' ∉ extension)
      (parts : file = stem ++ '.' :: extension) : IsStem file stem
  | whole (undotted : '.' ∉ file.tail) : IsStem file file

/-- The piece that names a module: the stem of its file, or the directory of an `index` file. -/
inductive IsBase : List (List Char) → List Char → Prop where
  | file (front : List (List Char)) (file base : List Char) (stem : IsStem file base)
      (proper : base ≠ "index".toList) : IsBase (front ++ [file]) base
  | directory (front : List (List Char)) (base file : List Char)
      (index : IsStem file "index".toList) : IsBase (front ++ [base, file]) base

/-! ### Pieces -/

theorem split_slashed (chars : List Char) :
    Text.split '/' (chars.map slashed) = chars.splitOnP isSeparator := by
  induction chars with
  | nil => rfl
  | cons char rest ih =>
    rw [List.splitOnP_cons_eq_if_modifyHead, List.map_cons, Text.split, ih]
    by_cases separator : isSeparator char = true
    · have slash : slashed char = '/' := by
        simp only [isSeparator, Bool.or_eq_true, beq_iff_eq] at separator
        rcases separator with rfl | rfl <;> rfl
      rw [if_pos slash, if_pos separator]
    · have plain : char ≠ '/' ∧ char ≠ '\\' := by simpa [isSeparator] using separator
      rw [slashed_of_ne plain.2, if_neg plain.1, if_neg separator]
      cases split : rest.splitOnP isSeparator with
      | nil => exact absurd split (List.splitOnP_ne_nil _ _)
      | cons piece others => rfl

theorem segments_unix (path : String) : segments (unix path) = pieces path.toList := by
  rw [segments, toList_unix, split_slashed, pieces]

theorem ne_nil_of_mem_pieces {chars piece : List Char} (member : piece ∈ pieces chars) :
    piece ≠ [] := by
  simpa using (List.mem_filter.mp member).2

theorem pieces_append_cons {separator : Char} (separates : isSeparator separator = true)
    (left right : List Char) :
    pieces (left ++ separator :: right) = pieces left ++ pieces right := by
  rw [pieces, List.splitOnP_append_cons left right separates, List.filter_append]
  rfl

theorem pieces_run_append {run : List Char} (separators : ∀ char ∈ run, isSeparator char = true)
    (chars : List Char) : pieces (run ++ chars) = pieces chars := by
  induction run with
  | nil => rfl
  | cons first run ih =>
    have rest := ih fun char member => separators char (by simp [member])
    have cut := pieces_append_cons (separators first (by simp)) [] (run ++ chars)
    rw [List.cons_append, ← rest]
    exact cut

/-- A run of separators divides what stands before it from what follows; at the ends of a text it
makes no difference. -/
theorem pieces_around {run : List Char} (separators : ∀ char ∈ run, isSeparator char = true)
    {before after : List Char} (apart : before = [] ∨ after = [] ∨ run ≠ []) :
    pieces (before ++ run ++ after) = pieces before ++ pieces after := by
  cases run with
  | nil =>
    rcases apart with rfl | rfl | absent
    · rfl
    · simp [pieces]
    · exact absurd rfl absent
  | cons first run =>
    have later : ∀ char ∈ run, isSeparator char = true := fun char member =>
      separators char (by simp [member])
    rw [List.append_assoc, List.cons_append, pieces_append_cons (separators first (by simp)),
      pieces_run_append later]

theorem not_isSeparator_of_mem_splitOnP {chars piece : List Char} {char : Char}
    (member : piece ∈ chars.splitOnP isSeparator) (inside : char ∈ piece) :
    isSeparator char = false := by
  induction chars generalizing piece with
  | nil =>
    obtain rfl := List.mem_singleton.mp member
    cases inside
  | cons first rest ih =>
    rw [List.splitOnP_cons_eq_if_modifyHead] at member
    split at member
    · rcases List.mem_cons.mp member with rfl | later
      · cases inside
      · exact ih later inside
    · rename_i plain
      cases split : rest.splitOnP isSeparator with
      | nil => exact absurd split (List.splitOnP_ne_nil _ _)
      | cons head others =>
        rw [split, List.modifyHead_cons] at member
        rcases List.mem_cons.mp member with rfl | later
        · rcases List.mem_cons.mp inside with rfl | inside
          · exact Bool.eq_false_iff.mpr plain
          · exact ih (by simp [split]) inside
        · exact ih (by simp [split, later]) inside

theorem not_isSeparator_of_mem_pieces {chars piece : List Char} {char : Char}
    (member : piece ∈ pieces chars) (inside : char ∈ piece) : isSeparator char = false :=
  not_isSeparator_of_mem_splitOnP (List.mem_filter.mp member).1 inside

/-! ### The stem of a file and the base of a path -/

theorem stem_append {front extension : List Char} (named : front ≠ []) (last : '.' ∉ extension) :
    stem (front ++ '.' :: extension) = front := by
  rw [stem, Text.cutLast?_append last]
  simp [named]

theorem stem_of_undotted {file : List Char} (undotted : '.' ∉ file.tail) : stem file = file := by
  by_cases dotted : '.' ∈ file
  · obtain ⟨before, after, rfl, last⟩ := Text.exists_eq_append_of_mem dotted
    -- The last dot is the leading one: any other would be a dot of the tail.
    cases before with
    | nil =>
      have cut := Text.cutLast?_append last []
      simp only [List.nil_append] at cut ⊢
      simp [stem, cut]
    | cons first before => simp at undotted
  · rw [stem, Text.cutLast?_of_notMem dotted]

theorem isStem_iff {file name : List Char} : IsStem file name ↔ stem file = name := by
  constructor
  · intro cut
    cases cut with
    | cut _ extension named last parts => rw [parts, stem_append named last]
    | whole undotted => exact stem_of_undotted undotted
  · rintro rfl
    by_cases dotted : '.' ∈ file.tail
    · obtain ⟨before, extension, parts, last⟩ := Text.exists_eq_append_of_mem dotted
      cases file with
      | nil => cases dotted
      | cons first rest =>
        have whole : first :: rest = (first :: before) ++ '.' :: extension :=
          congrArg (first :: ·) parts
        have named : first :: before ≠ [] := by simp
        rw [whole, stem_append named last]
        exact .cut _ extension named last rfl
    · rw [stem_of_undotted dotted]
      exact .whole dotted

theorem not_isBase_nil (base : List Char) : ¬ IsBase [] base := by
  intro named
  generalize empty : ([] : List (List Char)) = parts at named
  cases named <;> simp at empty

theorem isBase_concat_iff {front : List (List Char)} {file base : List Char} :
    IsBase (front ++ [file]) base ↔
      stem file = base ∧ base ≠ "index".toList ∨
        stem file = "index".toList ∧ front.getLast? = some base := by
  constructor
  · intro named
    generalize whole : front ++ [file] = parts at named
    cases named with
    | file _ _ _ cut proper =>
      obtain ⟨rfl, rfl⟩ := List.append_singleton_inj.mp whole
      exact .inl ⟨isStem_iff.mp cut, proper⟩
    | directory before _ last index =>
      rw [List.append_cons before base [last]] at whole
      obtain ⟨rfl, rfl⟩ := List.append_singleton_inj.mp whole
      exact .inr ⟨isStem_iff.mp index, by simp⟩
  · rintro (⟨rfl, proper⟩ | ⟨index, last⟩)
    · exact .file front file _ (isStem_iff.mpr rfl) proper
    · obtain ⟨before, rfl⟩ := List.getLast?_eq_some_iff.mp last
      rw [List.append_assoc]
      exact .directory before base file (isStem_iff.mpr index)

/-- The base begins one of the pieces. -/
theorem IsBase.begins {parts : List (List Char)} {base : List Char} (named : IsBase parts base) :
    ∃ piece ∈ parts, base <+: piece := by
  cases named with
  | file front last _ stem _ =>
    refine ⟨last, by simp, ?_⟩
    cases stem with
    | cut _ extension _ _ parts => exact ⟨'.' :: extension, parts.symm⟩
    | whole _ => exact List.prefix_refl base
  | directory front _ last _ => exact ⟨base, by simp, List.prefix_refl base⟩

theorem IsBase.ne_nil {parts : List (List Char)} {base : List Char} (named : IsBase parts base)
    (filled : ∀ piece ∈ parts, piece ≠ []) : base ≠ [] := by
  cases named with
  | file front last _ stem _ =>
    cases stem with
    | cut _ _ named _ _ => exact named
    | whole _ => exact filled base (by simp)
  | directory front _ last _ => exact filled base (by simp)

theorem moduleName?_of_pieces_eq {path : String} {front : List (List Char)} {file : List Char}
    (parts : pieces path.toList = front ++ [file]) :
    moduleName? path = if stem file = "index".toList then front.getLast? else some (stem file) := by
  rw [moduleName?, segments_unix, parts]
  simp only [List.reverse_append, List.reverse_singleton, List.singleton_append, List.head?_reverse]

theorem moduleName?_eq_some_iff {path : String} {base : List Char} :
    moduleName? path = some base ↔ IsBase (pieces path.toList) base := by
  rcases List.eq_nil_or_concat (pieces path.toList) with empty | ⟨front, file, parts⟩
  · rw [moduleName?, segments_unix, empty]
    simp [not_isBase_nil]
  · rw [List.concat_eq_append] at parts
    rw [moduleName?_of_pieces_eq parts, parts, isBase_concat_iff]
    split
    · rename_i index
      constructor
      · exact fun last => .inr ⟨index, last⟩
      · rintro (⟨same, proper⟩ | ⟨_, last⟩)
        · exact absurd (same ▸ index) proper
        · exact last
    · rename_i proper
      constructor
      · intro same
        obtain rfl := Option.some.inj same
        exact .inl ⟨rfl, proper⟩
      · rintro (⟨same, _⟩ | ⟨index, _⟩)
        · rw [same]
        · exact absurd index proper

theorem moduleName?_eq_none_iff {path : String} :
    moduleName? path = none ↔ pieces path.toList = [] ∨
      ∃ file, pieces path.toList = [file] ∧ IsStem file "index".toList := by
  rcases List.eq_nil_or_concat (pieces path.toList) with empty | ⟨front, file, parts⟩
  · rw [moduleName?, segments_unix, empty]
    simp
  · rw [List.concat_eq_append] at parts
    rw [moduleName?_of_pieces_eq parts, parts]
    by_cases index : stem file = "index".toList
    · rw [if_pos index, List.getLast?_eq_none_iff]
      constructor
      · rintro rfl
        exact .inr ⟨file, rfl, isStem_iff.mpr index⟩
      · rintro (empty | ⟨alone, same, _⟩)
        · simp at empty
        · exact (List.append_eq_singleton_iff.mp same).resolve_right (by simp) |>.1
    · rw [if_neg index]
      simp only [reduceCtorEq, false_iff, not_or, not_exists, not_and]
      refine ⟨by simp, ?_⟩
      intro alone same named
      obtain ⟨_, rfl⟩ := List.append_singleton_inj.mp (same.trans (List.nil_append [alone]).symm)
      exact index (isStem_iff.mp named)

/-- Only the last two pieces of a path name its module. -/
theorem moduleName?_congr {path other : String}
    (same : (pieces path.toList).reverse.take 2 = (pieces other.toList).reverse.take 2) :
    moduleName? path = moduleName? other := by
  rw [moduleName?, moduleName?, segments_unix, segments_unix]
  cases parts : (pieces path.toList).reverse with
  | nil =>
    cases others : (pieces other.toList).reverse with
    | nil => rfl
    | cons file directories => simp [parts, others] at same
  | cons file directories =>
    cases others : (pieces other.toList).reverse with
    | nil => simp [parts, others] at same
    | cons file' directories' =>
      rw [parts, others, List.take_succ_cons, List.take_succ_cons] at same
      obtain ⟨rfl, later⟩ := List.cons.inj same
      have directory : directories.head? = directories'.head? := by
        simpa [List.head?_take] using congrArg List.head? later
      simp only [directory]

end Path

/-! ### Upper case -/

namespace Text.Uppercase

theorem toNat_of_ofNat_eq {code : Nat} {char : Char} (same : Char.ofNat code = char)
    (proper : char.toNat ≠ 0) : code = char.toNat := by
  subst same
  by_cases valid : code.isValidChar
  · rw [Char.ofNat, dif_pos valid]
    rfl
  · rw [Char.ofNat, dif_neg valid] at proper
    exact absurd rfl proper

/-- No expansion is empty, and none writes a separator. -/
theorem expansions_proper : ∀ entry ∈ expansions, entry.2 ≠ [] ∧
    ∀ code ∈ entry.2, Path.isSeparator (Char.ofNat code) = false := by
  decide +kernel

/-- A run is moved past both separators, or in between them. -/
theorem shifts_proper : ∀ shift ∈ shifts, '\\'.toNat < shift.first + shift.distance ∨
    '/'.toNat < shift.first + shift.distance ∧ shift.last + shift.distance < '\\'.toNat := by
  decide +kernel

theorem mem_expansions {code : Nat} {codes : List Nat}
    (found : expansions.lookup code = some codes) : (code, codes) ∈ expansions := by
  obtain ⟨before, after, parts, _⟩ := List.lookup_eq_some_iff.mp found
  simp [parts]

theorem upper_ne_nil (char : Char) : upper char ≠ [] := by
  unfold upper
  split
  · rename_i codes found
    simpa using (expansions_proper _ (mem_expansions found)).1
  · split <;> simp

/-- The upper-case form of a character that does not separate does not separate either. -/
theorem not_isSeparator_of_mem_upper {char capital : Char}
    (plain : Path.isSeparator char = false) (member : capital ∈ upper char) :
    Path.isSeparator capital = false := by
  unfold upper at member
  split at member
  · rename_i codes found
    obtain ⟨code, inside, rfl⟩ := List.mem_map.mp member
    exact (expansions_proper _ (mem_expansions found)).2 code inside
  split at member
  · rename_i shift found
    obtain rfl := List.mem_singleton.mp member
    have bounds : shift.first ≤ char.toNat ∧ char.toNat ≤ shift.last := by
      have inside := List.find?_some found
      simp only [Run.contains, Bool.and_eq_true, decide_eq_true_eq] at inside
      exact inside.1
    -- The moved character lies between the moved ends of its run.
    have placed := shifts_proper shift (List.mem_of_find?_eq_some found)
    have order : '/'.toNat < '\\'.toNat := by decide
    simp only [Path.isSeparator, Bool.or_eq_false_iff, beq_eq_false_iff_ne]
    constructor
    · intro slash
      have code := toNat_of_ofNat_eq slash (by decide)
      omega
    · intro backslash
      have code := toNat_of_ofNat_eq backslash (by decide)
      omega
  · obtain rfl := List.mem_singleton.mp member
    exact plain

end Text.Uppercase

namespace Path
open Text.Uppercase (upper)

/-- The two bases that name no type. -/
def isDots (base : List Char) : Bool := base == ['.'] || base == ['.', '.']

/-- A base names its type with a capital letter, unless it is made of dots. -/
theorem typeName?_of_moduleName? {path : String} {first : Char} {rest : List Char}
    (named : moduleName? path = some (first :: rest)) :
    typeName? path =
      if isDots (first :: rest) then none else some (String.ofList (upper first ++ rest)) := by
  simp [typeName?, named, isDots, Text.Uppercase.capitalize]

theorem exists_base {path : String} {base : List Char} (named : moduleName? path = some base) :
    ∃ first rest, base = first :: rest :=
  List.exists_cons_of_ne_nil
    ((moduleName?_eq_some_iff.mp named).ne_nil fun _ member => ne_nil_of_mem_pieces member)

theorem typeName?_eq_none_iff {path : String} :
    typeName? path = none ↔ pieces path.toList = [] ∨
      (∃ file, pieces path.toList = [file] ∧ IsStem file "index".toList) ∨
      ∃ base, IsBase (pieces path.toList) base ∧ isDots base = true := by
  rw [← or_assoc, ← moduleName?_eq_none_iff]
  simp only [← moduleName?_eq_some_iff]
  cases named : moduleName? path with
  | none => simp [typeName?, named]
  | some base =>
    obtain ⟨first, rest, rfl⟩ := exists_base named
    rw [typeName?_of_moduleName? named]
    simp

theorem typeName?_eq_some_iff {path name : String} :
    typeName? path = some name ↔ ∃ first rest, IsBase (pieces path.toList) (first :: rest) ∧
      isDots (first :: rest) = false ∧ name = String.ofList (upper first ++ rest) := by
  simp only [← moduleName?_eq_some_iff]
  cases named : moduleName? path with
  | none => simp [typeName?, named]
  | some base =>
    obtain ⟨first, rest, rfl⟩ := exists_base named
    rw [typeName?_of_moduleName? named]
    constructor
    · intro written
      split at written
      · cases written
      · rename_i proper
        exact ⟨first, rest, rfl, Bool.eq_false_iff.mpr proper, (Option.some.inj written).symm⟩
    · rintro ⟨first, rest, same, proper, rfl⟩
      obtain ⟨rfl, rfl⟩ := List.cons.inj (Option.some.inj same)
      simp [proper]

theorem typeName?_congr {path other : String}
    (same : (pieces path.toList).reverse.take 2 = (pieces other.toList).reverse.take 2) :
    typeName? path = typeName? other := by
  rw [typeName?, typeName?, moduleName?_congr same]

/-- A type name has no separator in it. -/
theorem not_isSeparator_of_isBase {path : String} {first : Char} {rest : List Char}
    (named : IsBase (pieces path.toList) (first :: rest)) :
    ∀ char ∈ upper first ++ rest, isSeparator char = false := by
  obtain ⟨piece, inside, begins⟩ := named.begins
  have plain : ∀ char ∈ first :: rest, isSeparator char = false := fun char member =>
    not_isSeparator_of_mem_pieces inside (begins.subset member)
  intro char member
  rcases List.mem_append.mp member with capital | later
  · exact Text.Uppercase.not_isSeparator_of_mem_upper (plain first (by simp)) capital
  · exact plain char (by simp [later])

/-- The type name of a path is the base of its pieces with a capital letter, unless there is no base
or it is made of dots. It is never empty, it has no separator, and neither what stands before the
last two pieces nor the number and style of the separators changes it. -/
theorem typeName_from_pieces (path : String) :
    (typeName? path = none ↔ pieces path.toList = [] ∨
      (∃ file, pieces path.toList = [file] ∧ IsStem file "index".toList) ∨
      ∃ base, IsBase (pieces path.toList) base ∧ isDots base = true) ∧
    (∀ name, typeName? path = some name ↔
      ∃ first rest, IsBase (pieces path.toList) (first :: rest) ∧ isDots (first :: rest) = false ∧
        name = String.ofList (upper first ++ rest)) ∧
    (∀ name, typeName? path = some name →
      name ≠ "" ∧ ∀ char ∈ name.toList, isSeparator char = false) ∧
    (∀ other : String,
      (pieces path.toList).reverse.take 2 = (pieces other.toList).reverse.take 2 →
      typeName? path = typeName? other) ∧
    (∀ before run run' after : List Char, path.toList = before ++ run ++ after →
      (∀ char ∈ run ++ run', isSeparator char = true) →
      (before = [] ∨ after = [] ∨ run ≠ [] ∧ run' ≠ []) →
      typeName? path = typeName? (String.ofList (before ++ run' ++ after))) := by
  refine ⟨typeName?_eq_none_iff, fun name => typeName?_eq_some_iff, ?_,
    fun other => typeName?_congr, ?_⟩
  · intro name written
    obtain ⟨first, rest, named, _, rfl⟩ := typeName?_eq_some_iff.mp written
    refine ⟨?_, ?_⟩
    · simp [Text.Uppercase.upper_ne_nil]
    · rw [String.toList_ofList]
      exact not_isSeparator_of_isBase named
  · intro before run run' after parts separators apart
    have pieced : pieces path.toList = pieces before ++ pieces after := by
      rw [parts]
      exact pieces_around (fun char member => separators char (by simp [member]))
        (apart.imp_right (Or.imp_right And.left))
    have pieced' : pieces (before ++ run' ++ after) = pieces before ++ pieces after :=
      pieces_around (fun char member => separators char (by simp [member]))
        (apart.imp_right (Or.imp_right And.right))
    exact typeName?_congr (by rw [pieced, String.toList_ofList, pieced'])

end Path
end ScriptAtlas
