/-! Cutting a text at a separator. -/
namespace ScriptAtlas.Text

/-- The pieces between the separators, empty ones included; there is always at least one. -/
def split (separator : Char) : List Char → List (List Char)
  | [] => [[]]
  | char :: rest =>
    if char = separator then [] :: split separator rest
    else
      match split separator rest with
      | [] => [[char]]
      | piece :: pieces => (char :: piece) :: pieces

theorem split_of_notMem {separator : Char} {chars : List Char} (absent : separator ∉ chars) :
    split separator chars = [chars] := by
  induction chars with
  | nil => rfl
  | cons char rest ih =>
    have other : char ≠ separator := fun same => absent (by simp [same])
    have later : separator ∉ rest := fun member => absent (by simp [member])
    simp [split, other, ih later]

theorem split_ne_nil (separator : Char) (chars : List Char) : split separator chars ≠ [] := by
  cases chars with
  | nil => simp [split]
  | cons char rest =>
    unfold split
    split
    · simp
    · split <;> simp

/-- A separator divides the pieces of what stands before it from those of what follows. -/
theorem split_append (separator : Char) (left right : List Char) :
    split separator (left ++ separator :: right) = split separator left ++ split separator right := by
  induction left with
  | nil => simp [split]
  | cons char rest ih =>
    by_cases same : char = separator
    · simp [split, same, ih]
    · cases pieces : split separator rest with
      | nil => exact absurd pieces (split_ne_nil separator rest)
      | cons piece others => simp [split, same, ih, pieces]

theorem bne_of_notMem {mark : Char} {chars : List Char} (absent : mark ∉ chars) :
    ∀ char ∈ chars, (char != mark) = true := by
  intro char member
  have other : char ≠ mark := fun same => absent (same ▸ member)
  simpa using other

/-- A text that is cut where a run of characters ends is cut in one way only. -/
theorem append_inj_of_run {run : Char → Bool} {left left' right right' : List Char}
    (within : ∀ char ∈ left, run char = true) (within' : ∀ char ∈ left', run char = true)
    (stops : ∀ char ∈ right.head?, run char = false)
    (stops' : ∀ char ∈ right'.head?, run char = false)
    (same : left ++ right = left' ++ right') : left = left' ∧ right = right' := by
  have taken {left right : List Char} (within : ∀ char ∈ left, run char = true)
      (stops : ∀ char ∈ right.head?, run char = false) :
      (left ++ right).takeWhile run = left := by
    rw [List.takeWhile_append_of_pos within]
    cases right with
    | nil => simp
    | cons char right => simp [stops char rfl]
  have lefts : left = left' := by rw [← taken within stops, same, taken within' stops']
  exact ⟨lefts, List.append_cancel_left (lefts ▸ same)⟩

/-- The parts before and after the last occurrence of a mark. -/
def cutLast? (mark : Char) (chars : List Char) : Option (List Char × List Char) :=
  match chars.reverse.dropWhile (· != mark) with
  | [] => none
  | _ :: before => some (before.reverse, (chars.reverse.takeWhile (· != mark)).reverse)

theorem cutLast?_append {mark : Char} {after : List Char} (absent : mark ∉ after)
    (before : List Char) : cutLast? mark (before ++ mark :: after) = some (before, after) := by
  have passed := bne_of_notMem (mt List.mem_reverse.mp absent)
  simp [cutLast?, List.dropWhile_append_of_pos passed, List.takeWhile_append_of_pos passed]

theorem cutLast?_of_notMem {mark : Char} {chars : List Char} (absent : mark ∉ chars) :
    cutLast? mark chars = none := by
  have passed : (chars.reverse ++ []).dropWhile (· != mark) = [] :=
    List.dropWhile_append_of_pos (bne_of_notMem (mt List.mem_reverse.mp absent))
  rw [List.append_nil] at passed
  rw [cutLast?, passed]

/-- A mark that occurs in a text has a last occurrence. -/
theorem exists_eq_append_of_mem {mark : Char} {chars : List Char} (member : mark ∈ chars) :
    ∃ before after, chars = before ++ mark :: after ∧ mark ∉ after := by
  obtain ⟨after, before, reversed, absent⟩ :=
    List.eq_append_cons_of_mem (List.mem_reverse.mpr member)
  refine ⟨before.reverse, after.reverse, ?_, by simpa using absent⟩
  simpa using congrArg List.reverse reversed

/-- The text without one given ending, or the text itself if it does not end so. -/
def dropEnding (ending text : String) : String :=
  if ending.toList.isSuffixOf text.toList then
    String.ofList (text.toList.take (text.toList.length - ending.toList.length))
  else text

end ScriptAtlas.Text
