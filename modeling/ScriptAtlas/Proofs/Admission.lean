import ScriptAtlas.Service

/-! What the checks on a file look at. The path as it was given is read for the language only, and
there a backslash does not separate; everything else sees the path with slashes. So the separators
of a path matter exactly where they change the language, and they do not where the path ends in a
name with an extension. -/
namespace ScriptAtlas
open SyntaxTree

namespace Path

/-- A backslash becomes a slash. -/
def slashed (char : Char) : Char := if char = '\\' then '/' else char

theorem slashed_of_ne {char : Char} (other : char ≠ '\\') : slashed char = char := by
  simp [slashed, other]

theorem toList_unix (path : String) : (unix path).toList = path.toList.map slashed := by
  rw [unix, String.toList_ofList]
  rfl

@[simp] theorem unix_unix (path : String) : unix (unix path) = unix path := by
  apply String.toList_inj.mp
  rw [toList_unix, toList_unix, List.map_map]
  apply List.map_congr_left
  intro char _
  by_cases backslash : char = '\\' <;> simp [slashed, backslash]

/-- The path ends in a dot and an extension, and right before the dot stands no separator. -/
structure EndsIn (path : String) (extension : List Char) : Prop where
  shape : ∃ front last, path.toList = front ++ last :: '.' :: extension ∧
    last ≠ '/' ∧ last ≠ '\\' ∧ (last = '.' → extension ≠ [])
  plain : ∀ char ∈ extension, char ≠ '/' ∧ char ≠ '\\' ∧ char ≠ '.'

theorem EndsIn.unix {path : String} {extension : List Char} (ends : EndsIn path extension) :
    EndsIn (Path.unix path) extension := by
  obtain ⟨front, last, same, slash, backslash, proper⟩ := ends.shape
  have kept : extension.map slashed = extension := by
    calc
      extension.map slashed = extension.map id := by
        apply List.map_congr_left
        intro char member
        exact slashed_of_ne (ends.plain char member).2.1
      _ = extension := List.map_id extension
  refine ⟨⟨front.map slashed, last, ?_, slash, backslash, proper⟩, ends.plain⟩
  rw [toList_unix, same, List.map_append, List.map_cons, List.map_cons, kept,
    slashed_of_ne backslash]
  rfl

/-- What stands after the last slash is the last segment, unless it is empty. -/
theorem exists_segments {path : String} {front name : List Char} (same : path.toList = front ++ name)
    (absent : '/' ∉ name) (named : name ≠ []) :
    ∃ before back, segments path = before ++ [back ++ name] := by
  by_cases divided : '/' ∈ front
  · obtain ⟨before, back, parts, later⟩ := Text.exists_eq_append_of_mem divided
    have whole : '/' ∉ back ++ name := by simp [later, absent]
    refine ⟨(Text.split '/' before).filter (!·.isEmpty), back, ?_⟩
    rw [segments, same, parts, List.append_assoc, List.cons_append, Text.split_append,
      Text.split_of_notMem whole]
    simp [named]
  · have whole : '/' ∉ front ++ name := by simp [divided, absent]
    refine ⟨[], front, ?_⟩
    rw [segments, same, Text.split_of_notMem whole]
    simp [named]

theorem extension?_of_endsIn {path : String} {extension : List Char}
    (ends : EndsIn path extension) : extension? path = some (String.ofList extension) := by
  obtain ⟨front, last, same, slash, _, proper⟩ := ends.shape
  have absent : '/' ∉ last :: '.' :: extension := by
    have later : '/' ∉ extension := fun member => (ends.plain _ member).1 rfl
    simp [later, Ne.symm slash]
  obtain ⟨before, back, segmented⟩ := exists_segments same absent (by simp)
  have file : ((segments path).filter (· != ['.'])).getLast? =
      some (back ++ last :: '.' :: extension) := by
    have kept : back ++ last :: '.' :: extension ≠ ['.'] := by
      intro alone
      have length := congrArg List.length alone
      simp at length
      omega
    simp [segmented, kept]
  have notParent : back ++ last :: '.' :: extension ≠ ['.', '.'] := by
    intro parent
    have length := congrArg List.length parent
    have empty : back = [] ∧ extension = [] := by
      constructor <;> apply List.eq_nil_of_length_eq_zero <;> simp at length <;> omega
    obtain ⟨rfl, rfl⟩ := empty
    simp only [List.nil_append, List.cons.injEq, and_true] at parent
    exact proper parent rfl
  have dotless : '.' ∉ extension := fun member => (ends.plain _ member).2.2 rfl
  have cut := Text.cutLast?_append dotless (back ++ [last])
  rw [List.append_assoc, List.singleton_append] at cut
  simp [extension?, file, notParent, cut]

end Path

namespace Language

theorem name_inj {first second : Language} (same : first.name = second.name) : first = second := by
  have found := congrArg ofName same
  rw [ofName_name, ofName_name] at found
  exact Except.ok.inj found

/-- The language of a path depends on its extension only. -/
theorem toOption_ofPath (path : String) :
    (ofPath path).toOption = (Path.extension? path).elim (some .javascript) ofExtension? := by
  unfold ofPath
  cases Path.extension? path with
  | none => rfl
  | some extension =>
    simp only [Option.elim]
    cases ofExtension? extension <;> rfl

theorem toOption_ofPath_unix {path : String} {extension : List Char}
    (ends : Path.EndsIn path extension) :
    (ofPath (Path.unix path)).toOption = (ofPath path).toOption := by
  rw [toOption_ofPath, toOption_ofPath, Path.extension?_of_endsIn ends,
    Path.extension?_of_endsIn ends.unix]

end Language

/-- The kinds of reasons for which a file yields no report. -/
inductive ExtractError.Kind where
  | cancelled
  | fileTooLarge
  | invalidUtf8
  | unsupportedLanguage
  | parseFailed
deriving DecidableEq

def ExtractError.kind : ExtractError → Kind
  | .cancelled => .cancelled
  | .fileTooLarge _ _ => .fileTooLarge
  | .invalidUtf8 _ => .invalidUtf8
  | .unsupportedLanguage _ => .unsupportedLanguage
  | .parseFailed => .parseFailed

/-- Two answers are alike: reports of one file with the same contents, or errors of one kind. -/
inductive Alike : Except ExtractError Report → Except ExtractError Report → Prop where
  | reported {first second : Report} (filePath : first.filePath = second.filePath)
      (language : first.language = second.language) (hash : first.hash = second.hash)
      (symbols : first.symbols = second.symbols) (imports : first.imports = second.imports) :
      Alike (.ok first) (.ok second)
  | refused {first second : ExtractError} (kind : first.kind = second.kind) :
      Alike (.error first) (.error second)

namespace InputFile

variable {file : InputFile} {config : Config} {cancelled : Bool}

/-- A file that has passed the checks on its contents, which do not look at its path. -/
structure Sound (file : InputFile) (config : Config) (cancelled : Bool) : Prop where
  running : cancelled = false
  small : file.bytes.size ≤ config.maxFileSize
  valid : Text.Utf8.fault? file.bytes = none

/-- The rest of the checks, on a sound file. -/
theorem Sound.admitted (sound : file.Sound config cancelled) :
    file.admission config cancelled =
      match Language.ofPath file.path with
      | .error reason => .error (.unsupportedLanguage reason)
      | .ok language =>
        match file.tree with
        | none => .error .parseFailed
        | some root => .ok ⟨language, root⟩ := by
  have small : ¬ config.maxFileSize < file.bytes.size := Nat.not_lt.mpr sound.small
  cases chosen : Language.ofPath file.path with
  | error reason => simp [InputFile.admission, sound.running, small, sound.valid, chosen]
  | ok language =>
    cases parsed : file.tree <;>
      simp [InputFile.admission, sound.running, small, sound.valid, chosen, parsed]

theorem refused_of_not_sound (unsound : ¬ file.Sound config cancelled) :
    cancelled = true ∨ config.maxFileSize < file.bytes.size ∨
      Text.Utf8.fault? file.bytes ≠ none := by
  by_cases running : cancelled = true
  · exact .inl running
  by_cases large : config.maxFileSize < file.bytes.size
  · exact .inr (.inl large)
  by_cases valid : Text.Utf8.fault? file.bytes = none
  · exact absurd ⟨Bool.eq_false_iff.mpr running, Nat.not_lt.mp large, valid⟩ unsound
  · exact .inr (.inr valid)

/-- The first check that an unsound file fails does not depend on its path. -/
theorem admission_of_not_sound (unsound : ¬ file.Sound config cancelled) :
    ∃ error, ∀ path, InputFile.admission { file with path } config cancelled = .error error := by
  unfold InputFile.admission
  by_cases running : cancelled = true
  · exact ⟨.cancelled, fun path => by simp [running]⟩
  by_cases large : config.maxFileSize < file.bytes.size
  · exact ⟨.fileTooLarge file.bytes.size config.maxFileSize, fun path => by simp [running, large]⟩
  cases found : Text.Utf8.fault? file.bytes with
  | some fault => exact ⟨.invalidUtf8 fault, fun path => by simp [running, large, found]⟩
  | none =>
    exact absurd ⟨Bool.eq_false_iff.mpr running, Nat.not_lt.mp large, found⟩ unsound

/-- An admitted file is sound, and is read in the language of its path from its own tree. -/
theorem admission_eq_ok {admitted : Admitted}
    (passed : file.admission config cancelled = .ok admitted) :
    file.Sound config cancelled ∧ Language.ofPath file.path = .ok admitted.language ∧
      file.tree = some admitted.root := by
  by_cases sound : file.Sound config cancelled
  · rw [sound.admitted] at passed
    split at passed
    · cases passed
    rename_i language chosen
    split at passed
    · cases passed
    rename_i root parsed
    obtain rfl := Except.ok.inj passed
    exact ⟨sound, chosen, parsed⟩
  · obtain ⟨error, refused⟩ := admission_of_not_sound sound
    rw [refused file.path] at passed
    cases passed

/-- What the tree of a file yields when it is read for a report. -/
def extraction (file : InputFile) (config : Config) (admitted : Admitted) : Extraction :=
  (Context.extract ⟨Source.ofBytes file.path file.bytes, config.callLimits, false⟩
    config.includePrivate admitted.language.name admitted.root).extraction

theorem report_eq (file : InputFile) (config : Config) (admitted : Admitted) :
    (file.report config admitted).1 =
      { symbols := (file.extraction config admitted).symbols
        imports := (file.extraction config admitted).imports
        errors := (file.extraction config admitted).errors ++ validate file.path
          (file.extraction config admitted).symbols (file.extraction config admitted).imports
        filePath := Path.unix file.path
        language := admitted.language.name
        hash := Digest.Blake3.hex file.bytes } := rfl

theorem extraction_unix (file : InputFile) (config : Config) (admitted : Admitted) :
    { file with path := Path.unix file.path }.extraction config admitted =
      file.extraction config admitted := by
  have source : Source.ofBytes (Path.unix file.path) file.bytes =
      Source.ofBytes file.path file.bytes := by
    simp [Source.ofBytes]
  unfold extraction
  rw [source]

/-- The report of a file does not see the style of its separators. -/
theorem report_alike (file : InputFile) (config : Config) (admitted : Admitted) :
    Alike (.ok (file.report config admitted).1)
      (.ok ({ file with path := Path.unix file.path }.report config admitted).1) := by
  rw [report_eq, report_eq, extraction_unix]
  apply Alike.reported
  · exact (Path.unix_unix file.path).symm
  all_goals rfl

end InputFile

theorem extractFile_result (config : Config) (cancelled : Bool) (file : InputFile) :
    (extractFile config cancelled file).result =
      Except.map (fun admitted => (file.report config admitted).1)
        (file.admission config cancelled) := by
  unfold extractFile
  cases file.admission config cancelled <;> rfl

/-- A report is that of the file as it was admitted. -/
theorem extractFile_eq_ok {config : Config} {cancelled : Bool} {file : InputFile} {report : Report}
    (answered : (extractFile config cancelled file).result = .ok report) :
    ∃ admitted : Admitted, file.admission config cancelled = .ok admitted ∧
      report = (file.report config admitted).1 := by
  rw [extractFile_result] at answered
  cases passed : file.admission config cancelled with
  | error _ =>
    rw [passed] at answered
    cases answered
  | ok admitted =>
    rw [passed] at answered
    exact ⟨admitted, rfl, (Except.ok.inj answered).symm⟩

section Separators

variable {config : Config} {cancelled : Bool} {path : String} {bytes : ByteArray} {root : Node}

/-- A file that no check on its contents refuses has alike answers under its path as given and under
its path with slashes exactly if both choose the same language, or both choose none. -/
theorem alike_unix_of_sound (sound : InputFile.Sound ⟨path, bytes, some root⟩ config cancelled) :
    Alike (extractFile config cancelled ⟨path, bytes, some root⟩).result
        (extractFile config cancelled ⟨Path.unix path, bytes, some root⟩).result ↔
      (Language.ofPath path).toOption = (Language.ofPath (Path.unix path)).toOption := by
  have unixSound : InputFile.Sound ⟨Path.unix path, bytes, some root⟩ config cancelled :=
    ⟨sound.running, sound.small, sound.valid⟩
  have alike := InputFile.report_alike ⟨path, bytes, some root⟩ config
  rw [extractFile_result, extractFile_result, sound.admitted, unixSound.admitted]
  cases Language.ofPath path with
  | error reason =>
    cases Language.ofPath (Path.unix path) with
    | error _ => exact ⟨fun _ => rfl, fun _ => .refused rfl⟩
    | ok _ => exact ⟨nofun, nofun⟩
  | ok language =>
    cases Language.ofPath (Path.unix path) with
    | error _ => exact ⟨nofun, nofun⟩
    | ok other =>
      constructor
      · intro answers
        cases answers with
        | reported _ names _ _ _ => exact congrArg some (Language.name_inj names)
      · intro same
        obtain rfl := Option.some.inj same
        exact alike ⟨language, root⟩

theorem alike_unix_of_not_sound
    (unsound : ¬ InputFile.Sound ⟨path, bytes, some root⟩ config cancelled) :
    Alike (extractFile config cancelled ⟨path, bytes, some root⟩).result
      (extractFile config cancelled ⟨Path.unix path, bytes, some root⟩).result := by
  obtain ⟨error, refused⟩ := InputFile.admission_of_not_sound unsound
  rw [extractFile_result, extractFile_result, refused path, refused (Path.unix path)]
  exact .refused rfl

end Separators

/-- A file has alike answers under its path as given and under its path with slashes exactly if the
checks on its contents refuse it, or both paths choose the same language, or both none. They do so
wherever the path ends in a name with an extension. -/
theorem extractFile_alike_unix_iff (config : Config) (cancelled : Bool) (path : String)
    (bytes : ByteArray) (root : Node) :
    (Alike (extractFile config cancelled ⟨path, bytes, some root⟩).result
        (extractFile config cancelled ⟨Path.unix path, bytes, some root⟩).result ↔
      cancelled = true ∨ config.maxFileSize < bytes.size ∨ Text.Utf8.fault? bytes ≠ none ∨
        (Language.ofPath path).toOption = (Language.ofPath (Path.unix path)).toOption) ∧
    ∀ extension, Path.EndsIn path extension →
      Alike (extractFile config cancelled ⟨path, bytes, some root⟩).result
        (extractFile config cancelled ⟨Path.unix path, bytes, some root⟩).result := by
  by_cases sound : InputFile.Sound ⟨path, bytes, some root⟩ config cancelled
  · have iff := alike_unix_of_sound sound
    have ⟨running, small, valid⟩ := sound
    constructor
    · simpa [running, Nat.not_lt.mpr small, valid] using iff
    · intro extension ends
      exact iff.mpr (Language.toOption_ofPath_unix ends).symm
  · have alike := alike_unix_of_not_sound sound
    have refused : cancelled = true ∨ config.maxFileSize < bytes.size ∨
        Text.Utf8.fault? bytes ≠ none := InputFile.refused_of_not_sound sound
    refine ⟨⟨fun _ => ?_, fun _ => alike⟩, fun _ _ => alike⟩
    rcases refused with stopped | large | fault
    · exact .inl stopped
    · exact .inr (.inl large)
    · exact .inr (.inr (.inl fault))

/-- The tree of `var a;`. -/
def sampleVariable : Node :=
  ⟨.program, true, false, none, 0, 6, [
    ⟨.variableDeclaration, true, false, none, 0, 6, [
      ⟨.varToken, false, false, none, 0, 3, []⟩,
      ⟨.variableDeclarator, true, false, none, 4, 5, [
        ⟨.identifier, true, false, some .name, 4, 5, []⟩]⟩,
      ⟨.other ";", false, false, none, 5, 6, []⟩]⟩]⟩

/-- The file `var a;` at a path. -/
def variableFile (path : String) : InputFile := ⟨path, "var a;".toUTF8, some sampleVariable⟩

theorem variableFile_sound (path : String) : (variableFile path).Sound {} false := by
  have small : "var a;".toUTF8.size ≤ 5 * 1024 * 1024 := by decide +kernel
  have valid : Text.Utf8.fault? "var a;".toUTF8 = none := by decide +kernel
  exact ⟨rfl, small, valid⟩

theorem extractFile_alike_unix_variableFile :
    Path.EndsIn "lib\\router\\index.js" "js".toList ∧
    Alike (extractFile {} false (variableFile "lib\\router\\index.js")).result
      (extractFile {} false (variableFile "lib/router/index.js")).result := by
  have ends : Path.EndsIn "lib\\router\\index.js" "js".toList :=
    ⟨⟨"lib\\router\\inde".toList, 'x', by decide +kernel⟩, by simp⟩
  exact ⟨ends, (extractFile_alike_unix_iff {} false _ _ _).2 _ ends⟩

/-- The second dot of `..\bin\www` is taken for the beginning of an extension, that of `../bin/www`
is not: the file is refused under the one path and read under the other. -/
theorem extractFile_differs_unix :
    Path.unix "..\\bin\\www" = "../bin/www" ∧
    (∃ error, (extractFile {} false (variableFile "..\\bin\\www")).result = .error error ∧
      error.kind = .unsupportedLanguage) ∧
    (∃ report, (extractFile {} false (variableFile "../bin/www")).result = .ok report ∧
      report.language = "javascript" ∧ report.symbols.map (·.name) = ["a"]) ∧
    ¬ Alike (extractFile {} false (variableFile "..\\bin\\www")).result
      (extractFile {} false (variableFile "../bin/www")).result := by
  have taken : Path.extension? "..\\bin\\www" = some "\\bin\\www" := by decide +kernel
  have absent : Path.extension? "../bin/www" = none := by decide +kernel
  have first : (extractFile {} false (variableFile "..\\bin\\www")).result =
      .error (.unsupportedLanguage (.unknownExtension "\\bin\\www" "..\\bin\\www")) := by
    rw [extractFile_result, (variableFile_sound _).admitted]
    simp only [variableFile, Language.ofPath, taken]
    rfl
  have second : (extractFile {} false (variableFile "../bin/www")).result =
      .ok ((variableFile "../bin/www").report {} ⟨.javascript, sampleVariable⟩).1 := by
    rw [extractFile_result, (variableFile_sound _).admitted]
    simp only [variableFile, Language.ofPath, absent]
    rfl
  refine ⟨by decide +kernel, ⟨_, first, rfl⟩, ⟨_, second, rfl, by decide +kernel⟩, ?_⟩
  rw [first, second]
  nofun

end ScriptAtlas
