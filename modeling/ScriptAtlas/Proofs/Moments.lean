import ScriptAtlas.Instant.Reader
import ScriptAtlas.Instant.Writer

/-! The text of a moment is read back as the same moment. The reader is lenient, so each part of the
text is followed through it: it takes exactly the digits that were written for a part, and stops at
the mark after them. -/
namespace ScriptAtlas.Instant

/-! ### Numerals -/

theorem digitsValue_eq_ofDigitChars (digits : List Char) :
    digitsValue digits = Nat.ofDigitChars 10 digits 0 := by
  unfold digitsValue
  rw [Nat.ofDigitChars_eq_foldl]
  congr 1
  funext value digit
  rw [Nat.mul_comm]
  rfl

section Padded

variable {width value : Nat}

theorem isDigit_of_mem_padded {char : Char} (member : char ∈ padded width value) :
    char.isDigit = true := by
  rcases List.mem_append.mp member with zero | digit
  · rw [(List.mem_replicate.mp zero).2]
    rfl
  · exact Nat.isDigit_of_mem_toDigits (by decide) (by decide) digit

theorem padded_ne_nil : padded width value ≠ [] := by
  simp [padded, Nat.toDigits_ne_nil]

/-- A number that is not too large is filled up to exactly its width. -/
theorem length_padded (wide : 0 < width) (fits : value < Nat.pow 10 width) :
    (padded width value).length = width := by
  have short := (Nat.length_toDigits_le_iff (by decide) wide).mpr fits
  simp only [padded, List.length_append, List.length_replicate]
  omega

@[simp] theorem digitsValue_padded : digitsValue (padded width value) = value := by
  rw [digitsValue_eq_ofDigitChars, padded, Nat.ofDigitChars_append,
    Nat.ofDigitChars_replicate_zero, Nat.mul_zero, Nat.ofDigitChars_ten_toDigits]

end Padded

/-! ### Parts of the text -/

theorem isBlank_of_isDigit {char : Char} (digit : char.isDigit = true) :
    Text.isBlank char = false := by
  have code : 48 ≤ char.toNat ∧ char.toNat ≤ 57 := by
    simpa [Char.isDigit, UInt32.le_iff_toNat_le] using digit
  simp only [Text.isBlank, Bool.or_eq_false_iff, Bool.and_eq_false_iff, decide_eq_false_iff_not,
    beq_eq_false_iff_ne]
  omega

theorem skipBlanks_cons {char : Char} (dark : Text.isBlank char = false) (rest : List Char) :
    skipBlanks (char :: rest) = char :: rest := by
  simp [skipBlanks, dark]

/-- A numeral begins with a digit, so there is nothing to skip before it. -/
theorem exists_padded_eq (width value : Nat) :
    ∃ first others, padded width value = first :: others ∧ first.isDigit = true := by
  cases written : padded width value with
  | nil => exact absurd written padded_ne_nil
  | cons first others =>
    have member : first ∈ padded width value := by simp [written]
    exact ⟨first, others, rfl, isDigit_of_mem_padded member⟩

theorem skipBlanks_padded (width value : Nat) (rest : List Char) :
    skipBlanks (padded width value ++ rest) = padded width value ++ rest := by
  obtain ⟨first, others, written, digit⟩ := exists_padded_eq width value
  rw [written]
  exact skipBlanks_cons (isBlank_of_isDigit digit) _

/-- The reader of digits takes a run of them whole if it may take no more or comes to another
character. -/
theorem digits?_append {limit : Nat} {run rest : List Char}
    (digits : ∀ char ∈ run, char.isDigit = true) (nonempty : run ≠ []) (fits : run.length ≤ limit)
    (stops : run.length = limit ∨ ∀ char ∈ rest.head?, char.isDigit = false) :
    digits? limit (run ++ rest) = some (run, rest) := by
  have taken : ((run ++ rest).take limit).takeWhile Char.isDigit = run := by
    rw [List.take_append, List.take_of_length_le fits, List.takeWhile_append_of_pos digits]
    rcases stops with full | mark
    · simp [full]
    · cases rest with
      | nil => simp
      | cons char rest =>
        have stop := mark char rfl
        cases limit - run.length <;> simp [stop]
  simp [digits?, taken, nonempty]

/-- A numeral that fills its width is read as its number. -/
theorem number?_padded {width value : Nat} (wide : 0 < width) (fits : value < Nat.pow 10 width)
    (rest : List Char) : number? width (padded width value ++ rest) = some (value, rest) := by
  have length := length_padded wide fits
  have read : digits? width (padded width value ++ rest) = some (padded width value, rest) :=
    digits?_append (fun _ => isDigit_of_mem_padded) padded_ne_nil (Nat.le_of_eq length)
      (.inl length)
  simp [number?, skipBlanks_padded, read]

theorem mark?_cons {mark : Char} (dark : Text.isBlank mark = false) (rest : List Char) :
    mark? mark (mark :: rest) = some rest := by
  simp [mark?, skipBlanks_cons dark]

/-- A year is read up to the hyphen after it, with or without a sign. -/
theorem year?_yearChars (year : Int) (rest : List Char) :
    year? (yearChars year ++ '-' :: rest) = some (year, '-' :: rest) := by
  have stops : ∀ char ∈ ('-' :: rest).head?, char.isDigit = false := by
    intro char member
    obtain rfl := Option.some.inj member
    rfl
  have signed : digits? (padded 4 year.natAbs ++ '-' :: rest).length
      (padded 4 year.natAbs ++ '-' :: rest) = some (padded 4 year.natAbs, '-' :: rest) :=
    digits?_append (fun _ => isDigit_of_mem_padded) padded_ne_nil (by simp) (.inr stops)
  unfold yearChars
  split
  · rename_i short
    have length : (padded 4 year.toNat).length = 4 := length_padded (by decide) (by simp; omega)
    have read : digits? 4 (padded 4 year.toNat ++ '-' :: rest) =
        some (padded 4 year.toNat, '-' :: rest) :=
      digits?_append (fun _ => isDigit_of_mem_padded) padded_ne_nil (Nat.le_of_eq length)
        (.inl length)
    have value : (digitsValue (padded 4 year.toNat) : Int) = year := by
      rw [digitsValue_padded]
      omega
    obtain ⟨first, others, written, digit⟩ := exists_padded_eq 4 year.toNat
    rw [year?, skipBlanks_padded, written]
    rw [written] at read value
    -- A digit is no sign, so the year is read by the rule for unsigned ones.
    split
    · rename_i sign
      obtain rfl := (List.cons.inj sign).1
      simp at digit
    · rename_i sign
      obtain rfl := (List.cons.inj sign).1
      simp at digit
    · rw [read, Option.map_some]
      simp only [value]
  · rename_i long
    split
    · rename_i negative
      rw [List.cons_append, year?, skipBlanks_cons (by decide)]
      simp only [signed, Option.map_some, digitsValue_padded]
      congr 2
      omega
    · rename_i positive
      rw [List.cons_append, year?, skipBlanks_cons (by decide)]
      simp only [signed, Option.map_some, digitsValue_padded]
      congr 2
      omega

/-- A fraction of some digits is read as nanoseconds. -/
theorem fraction?_padded {width value : Nat} (wide : 0 < width) (narrow : width ≤ 9)
    (fits : value < Nat.pow 10 width) (rest : List Char) :
    fraction? ('.' :: padded width value ++ 'Z' :: rest) =
      some (value * Nat.pow 10 (9 - width), 'Z' :: rest) := by
  have length := length_padded wide fits
  have read : digits? 9 (padded width value ++ 'Z' :: rest) =
      some (padded width value, 'Z' :: rest) :=
    digits?_append (fun _ => isDigit_of_mem_padded) padded_ne_nil (by omega) (.inr (by simp))
  simp [fraction?, read, length]

theorem fraction?_fractionChars {nano : Nat} (fits : nano < 1000000000) (rest : List Char) :
    fraction? (fractionChars nano ++ 'Z' :: rest) = some (nano, 'Z' :: rest) := by
  unfold fractionChars
  split
  · rename_i none
    rw [none]
    rfl
  split
  · rename_i whole
    rw [fraction?_padded (by decide) (by decide) (by simp; omega)]
    simp
    omega
  split
  · rename_i whole
    rw [fraction?_padded (by decide) (by decide) (by simp; omega)]
    simp
    omega
  · rw [fraction?_padded (by decide) (by decide) (by simp; omega)]
    simp

/-! ### Whole moments -/

theorem date?_written {date : Date} (valid : date.isValid = true) (rest : List Char) :
    date? (yearChars date.year ++
        '-' :: (padded 2 date.month ++ '-' :: (padded 2 date.day ++ rest))) =
      some (date, rest) := by
  have short : date.month ≤ 12 ∧ date.day ≤ Date.daysIn date.year date.month := by
    simp only [Date.isValid, Bool.and_eq_true, decide_eq_true_eq] at valid
    exact ⟨valid.1.1.2, valid.2⟩
  have days : Date.daysIn date.year date.month ≤ 31 := by
    unfold Date.daysIn
    split
    case h_5 => split <;> decide
    all_goals decide
  have month (rest : List Char) :
      number? 2 (padded 2 date.month ++ rest) = some (date.month, rest) :=
    number?_padded (by decide) (by simp; omega) rest
  have day (rest : List Char) : number? 2 (padded 2 date.day ++ rest) = some (date.day, rest) :=
    number?_padded (by decide) (by simp; omega) rest
  have hyphen (rest : List Char) : mark? '-' ('-' :: rest) = some rest :=
    mark?_cons (by decide) rest
  simp [date?, year?_yearChars, hyphen, month, day]

/-- A leap second is written as the second sixty, and read as one. -/
theorem clock?_written {clock : Clock} (valid : clock.isValid = true) (rest : List Char) :
    clock? (padded 2 clock.hour ++ ':' :: (padded 2 clock.minute ++
        ':' :: (padded 2 (clock.second + clock.nano / 1000000000) ++
          (fractionChars (clock.nano % 1000000000) ++ 'Z' :: rest)))) =
      some (clock, 'Z' :: rest) := by
  obtain ⟨hour, minute, second, nano⟩ := clock
  have short : hour < 24 ∧ minute < 60 ∧ second < 60 ∧
      (nano < 1000000000 ∨ second = 59 ∧ nano < 2000000000) := by
    simpa [Clock.isValid, and_assoc] using valid
  have numeral (value : Nat) (small : value < 100) (rest : List Char) :
      number? 2 (padded 2 value ++ rest) = some (value, rest) :=
    number?_padded (by decide) small rest
  have colon (rest : List Char) : mark? ':' (':' :: rest) = some rest :=
    mark?_cons (by decide) rest
  have fraction := fraction?_fractionChars (Nat.mod_lt nano (by decide : 1000000000 > 0)) rest
  simp only [clock?, numeral hour (by omega), numeral minute (by omega), colon,
    numeral (second + nano / 1000000000) (by omega), fraction, Option.bind_eq_bind,
    Option.bind_some]
  split
  · rename_i leap
    have parts : second = 59 ∧ nano % 1000000000 + 1000000000 = nano := by omega
    rw [parts.1, parts.2]
    rfl
  · rename_i regular
    have parts : second + nano / 1000000000 = second ∧ nano % 1000000000 = nano := by omega
    rw [parts.1, parts.2]
    rfl

/-- A valid date and time without an offset is its own moment. -/
theorem ofLocal?_zero (instant : Instant) :
    ofLocal? instant.date instant.clock 0 = some instant := by
  obtain ⟨date, ⟨hour, minute, second, nano⟩, valid⟩ := instant
  obtain ⟨dated, timed⟩ := Bool.and_eq_true_iff.mp valid
  have short : hour < 24 ∧ minute < 60 := by
    simp only [Clock.isValid, Bool.and_eq_true, decide_eq_true_eq] at timed
    omega
  have early : ¬ (hour : Int) * 60 + minute < 0 := by omega
  have late : (hour : Int) * 60 + minute < 1440 := by omega
  have time : (((hour : Int) * 60 + minute) % 1440).toNat = hour * 60 + minute := by omega
  have whole : (hour * 60 + minute) / 60 = hour ∧ (hour * 60 + minute) % 60 = minute := by omega
  simp [ofLocal?, dated, timed, early, late, time, whole]

/-- What is written for a moment is read as that moment. -/
theorem parse?_render (instant : Instant) : parse? instant.render = some instant := by
  obtain ⟨date, clock, valid⟩ := instant
  obtain ⟨dated, timed⟩ := Bool.and_eq_true_iff.mp valid
  have written : (render ⟨date, clock, valid⟩).toList = _ := String.toList_ofList
  simp only [chars, List.append_assoc, List.cons_append] at written
  simp only [parse?, written, date?_written dated, divider?, clock?_written timed, offset?,
    skipBlanks_cons (by decide : Text.isBlank 'Z' = false), Option.bind_eq_bind, Option.bind_some]
  exact ofLocal?_zero ⟨date, clock, valid⟩

end ScriptAtlas.Instant
