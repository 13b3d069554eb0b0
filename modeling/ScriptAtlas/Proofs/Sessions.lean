import ScriptAtlas.Proofs.Admission
import ScriptAtlas.Session
import Mathlib.Logic.Relation
import Mathlib.Data.List.Forall2

/-! Sessions as histories. Which tokens are cancelled is told by the steps alone: the cancellations
among them, and the clonings that relate one token to another. The groups of a running session
carry exactly that, and nothing else passes from one step to the next. -/
namespace ScriptAtlas

namespace SessionStep

/-- Whether a step opens a token, numbered after all earlier ones. -/
def opens : SessionStep → Bool
  | .fresh | .clone _ => true
  | _ => false

/-- The token that a step is about; a fresh one is about none. -/
def token? : SessionStep → Option Nat
  | .fresh => none
  | .clone token | .cancel token | .isCancelled token | .extract token _ | .batch token _ =>
    some token

end SessionStep

namespace Session

/-- The number of tokens after some steps; the first is there from the beginning. -/
def tokenCount (history : List SessionStep) : Nat := 1 + history.countP SessionStep.opens

/-- Every step after a history is about a token that exists by then. -/
def addressed (history : List SessionStep) : List SessionStep → Bool
  | [] => true
  | step :: rest =>
    step.token?.all (· < tokenCount history) && addressed (history ++ [step]) rest

/-- One token was made as the clone of another. -/
def Cloned (history : List SessionStep) (copy model : Nat) : Prop :=
  ∃ before after, history = before ++ SessionStep.clone model :: after ∧ copy = tokenCount before

/-- Tokens that a chain of clonings connects, in whichever direction. -/
def Related (history : List SessionStep) : Nat → Nat → Prop := Relation.EqvGen (Cloned history)

/-- A cancellation was applied to a token or to one that is related to it. -/
def Cancelled (history : List SessionStep) (token : Nat) : Prop :=
  ∃ target, SessionStep.cancel target ∈ history ∧ Related history target token

section History

variable {history : List SessionStep} {step : SessionStep}

theorem tokenCount_append (before after : List SessionStep) :
    tokenCount (before ++ after) = tokenCount before + after.countP SessionStep.opens := by
  simp [tokenCount, Nat.add_assoc]

theorem cloned_concat {copy model : Nat} :
    Cloned (history ++ [step]) copy model ↔
      Cloned history copy model ∨ step = .clone model ∧ copy = tokenCount history := by
  constructor
  · rintro ⟨before, after, same, rfl⟩
    rcases List.eq_nil_or_concat after with rfl | ⟨shorter, last, rfl⟩
    · obtain ⟨rfl, last⟩ := List.append_inj' same rfl
      exact .inr ⟨by simpa using last, rfl⟩
    · have same : history ++ [step] = (before ++ .clone model :: shorter) ++ [last] := by
        simpa using same
      obtain ⟨rfl, _⟩ := List.append_inj' same rfl
      exact .inl ⟨before, shorter, rfl, rfl⟩
  · rintro (⟨before, after, rfl, rfl⟩ | ⟨rfl, rfl⟩)
    · exact ⟨before, after ++ [step], by simp, rfl⟩
    · exact ⟨history, [], rfl, rfl⟩

theorem Related.append {first second : Nat} (related : Related history first second)
    (later : List SessionStep) : Related (history ++ later) first second := by
  refine Relation.EqvGen.mono ?_ _ _ related
  rintro copy model ⟨before, after, rfl, rfl⟩
  exact ⟨before, after ++ later, by simp, rfl⟩

/-- No later step takes a cancellation back. -/
theorem Cancelled.append {token : Nat} (cancelled : Cancelled history token)
    (later : List SessionStep) : Cancelled (history ++ later) token := by
  obtain ⟨target, applied, related⟩ := cancelled
  exact ⟨target, List.mem_append_left later applied, related.append later⟩

theorem addressed_append {before after : List SessionStep}
    (known : addressed history (before ++ after) = true) :
    addressed history before = true ∧ addressed (history ++ before) after = true := by
  induction before generalizing history with
  | nil => simpa [addressed] using known
  | cons step rest ih =>
    obtain ⟨own, others⟩ := Bool.and_eq_true_iff.mp known
    obtain ⟨inside, outside⟩ := ih others
    exact ⟨Bool.and_eq_true_iff.mpr ⟨own, inside⟩, by simpa using outside⟩

end History

end Session

namespace Tokens

/-- The tokens after some steps. -/
def after (config : Config) (tokens : Tokens) (steps : List SessionStep) : Tokens :=
  steps.foldl (fun tokens step => (tokens.step config step).1) tokens

variable {config : Config} {tokens : Tokens}

theorem run_append (before after : List SessionStep) :
    tokens.run config (before ++ after) =
      tokens.run config before ++ (tokens.after config before).run config after := by
  induction before generalizing tokens with
  | nil => rfl
  | cons step rest ih => simp [run, Tokens.after, ih]

theorem length_run (steps : List SessionStep) :
    (tokens.run config steps).length = steps.length := by
  induction steps generalizing tokens with
  | nil => rfl
  | cons step rest ih => simp [run, ih]

theorem getElem?_run (before after : List SessionStep) (step : SessionStep) :
    (tokens.run config (before ++ step :: after))[before.length]? =
      some ((tokens.after config before).step config step).2 := by
  rw [run_append, List.getElem?_append_right (Nat.le_of_eq (length_run before)), length_run,
    Nat.sub_self]
  rfl

section Groups

variable (tokens : Tokens) (token other : Nat)

/-- A fresh token is alone in its group, as a number was before it became a token. -/
@[simp] theorem group_fresh : tokens.fresh.group token = tokens.group token := by
  unfold group fresh
  rw [Array.getElem?_push]
  split
  · rename_i last
    simp [last]
  · rfl

theorem group_clone : (tokens.clone token).group other =
    if other = tokens.groups.size then tokens.group token else tokens.group other := by
  rw [group, clone, Array.getElem?_push]
  split <;> rfl

@[simp] theorem group_cancel : (tokens.cancel token).group other = tokens.group other := rfl

theorem isCancelled_iff :
    tokens.isCancelled token = true ↔ tokens.group token ∈ tokens.cancelled := by
  simp [isCancelled]

end Groups

/-- The tokens of a session carry its history: groups hold related tokens, and the cancelled
groups are those of the tokens that a cancellation was applied to. -/
structure Tracks (tokens : Tokens) (history : List SessionStep) : Prop where
  size : tokens.groups.size = Session.tokenCount history
  joined : ∀ token, Session.Related history (tokens.group token) token
  cloned : ∀ {copy model}, Session.Cloned history copy model →
    copy < tokens.groups.size ∧ model < tokens.groups.size ∧
      tokens.group copy = tokens.group model
  applied : ∀ {target}, SessionStep.cancel target ∈ history → target < tokens.groups.size
  cancelled : ∀ group, group ∈ tokens.cancelled ↔
    ∃ target, SessionStep.cancel target ∈ history ∧ tokens.group target = group

theorem tracks_initial : Tracks initial [] where
  size := rfl
  joined := by
    intro token
    have alone : initial.group token = token := by
      cases token <;> simp [group, initial]
    rw [alone]
    exact .refl token
  cloned := by
    rintro copy model ⟨before, after, same, _⟩
    simp at same
  applied := by simp
  cancelled := by simp [initial]

namespace Tracks

variable {history : List SessionStep}

/-- Tokens are in one group exactly if clonings connect them. -/
theorem group_eq_iff (tracks : tokens.Tracks history) (first second : Nat) :
    tokens.group first = tokens.group second ↔ Session.Related history first second := by
  constructor
  · intro same
    have joined := tracks.joined second
    rw [← same] at joined
    exact .trans _ _ _ (.symm _ _ (tracks.joined first)) joined
  · intro related
    induction related with
    | rel copy model cloned => exact (tracks.cloned cloned).2.2
    | refl token => rfl
    | symm _ _ _ ih => exact ih.symm
    | trans _ _ _ _ _ former latter => exact former.trans latter

/-- The flag of a token is that of its history. -/
theorem isCancelled_iff (tracks : tokens.Tracks history) (token : Nat) :
    tokens.isCancelled token = true ↔ Session.Cancelled history token := by
  rw [Tokens.isCancelled_iff, tracks.cancelled]
  exact exists_congr fun target => and_congr_right fun _ => tracks.group_eq_iff target token

/-- A step that neither clones nor cancels adds nothing to what is carried. -/
theorem keep (tracks : tokens.Tracks history) {step : SessionStep} {next : Tokens}
    (size : next.groups.size = Session.tokenCount (history ++ [step]))
    (groups : ∀ token, next.group token = tokens.group token)
    (cancelled : next.cancelled = tokens.cancelled)
    (plain : ∀ token, step ≠ .clone token ∧ step ≠ .cancel token) :
    next.Tracks (history ++ [step]) := by
  have grown : tokens.groups.size ≤ next.groups.size := by
    rw [tracks.size, size, Session.tokenCount_append]
    exact Nat.le_add_right _ _
  have past (target : Nat) : .cancel target ∈ history ++ [step] ↔ .cancel target ∈ history := by
    simp [(plain target).2.symm]
  exact {
    size
    joined := by
      intro token
      rw [groups]
      exact (tracks.joined token).append [step]
    cloned := by
      intro copy model cloned
      rcases Session.cloned_concat.mp cloned with old | ⟨same, _⟩
      · obtain ⟨copied, modelled, equal⟩ := tracks.cloned old
        rw [groups, groups]
        exact ⟨Nat.lt_of_lt_of_le copied grown, Nat.lt_of_lt_of_le modelled grown, equal⟩
      · exact absurd same (plain model).1
    applied := fun applied => Nat.lt_of_lt_of_le (tracks.applied ((past _).mp applied)) grown
    cancelled := by
      intro group
      rw [cancelled, tracks.cancelled]
      exact exists_congr fun target => by rw [past, groups] }

theorem clone (tracks : tokens.Tracks history) {token : Nat}
    (present : token < tokens.groups.size) :
    (tokens.clone token).Tracks (history ++ [.clone token]) := by
  have size : (tokens.clone token).groups.size = tokens.groups.size + 1 := by
    simp [Tokens.clone]
  have old {other : Nat} (inside : other < tokens.groups.size) :
      (tokens.clone token).group other = tokens.group other := by
    rw [group_clone, if_neg (Nat.ne_of_lt inside)]
  have new : (tokens.clone token).group tokens.groups.size = tokens.group token := by
    rw [group_clone, if_pos rfl]
  have link : Session.Cloned (history ++ [.clone token]) tokens.groups.size token :=
    Session.cloned_concat.mpr (.inr ⟨rfl, tracks.size⟩)
  exact {
    size := by rw [size, tracks.size, Session.tokenCount_append]; rfl
    joined := by
      intro other
      rw [group_clone]
      split
      · rename_i last
        rw [last]
        exact .trans _ _ _ ((tracks.joined token).append _) (.symm _ _ (.rel _ _ link))
      · exact (tracks.joined other).append _
    cloned := by
      intro copy model cloned
      rcases Session.cloned_concat.mp cloned with past | ⟨same, counted⟩
      · obtain ⟨copied, modelled, equal⟩ := tracks.cloned past
        rw [old copied, old modelled]
        exact ⟨by omega, by omega, equal⟩
      · obtain rfl := SessionStep.clone.inj same
        rw [counted, ← tracks.size, new, old present]
        exact ⟨by omega, by omega, rfl⟩
    applied := by
      intro target applied
      have past : .cancel target ∈ history := by simpa using applied
      have inside := tracks.applied past
      omega
    cancelled := by
      intro group
      change group ∈ tokens.cancelled ↔ _
      rw [tracks.cancelled]
      constructor
      · rintro ⟨target, applied, same⟩
        exact ⟨target, List.mem_append_left _ applied, by rw [old (tracks.applied applied), same]⟩
      · rintro ⟨target, applied, same⟩
        have applied : .cancel target ∈ history := by simpa using applied
        exact ⟨target, applied, by rw [← old (tracks.applied applied), same]⟩ }

theorem cancel (tracks : tokens.Tracks history) {token : Nat}
    (present : token < tokens.groups.size) :
    (tokens.cancel token).Tracks (history ++ [.cancel token]) where
  size := by
    rw [Session.tokenCount_append]
    exact tracks.size
  joined := fun other => (tracks.joined other).append _
  cloned := by
    intro copy model cloned
    rcases Session.cloned_concat.mp cloned with past | ⟨same, _⟩
    · exact tracks.cloned past
    · cases same
  applied := by
    intro target applied
    rcases List.mem_append.mp applied with past | now
    · exact tracks.applied past
    · obtain rfl := SessionStep.cancel.inj (List.mem_singleton.mp now)
      exact present
  cancelled := by
    intro group
    simp only [Tokens.cancel, List.mem_cons, tracks.cancelled]
    constructor
    · rintro (rfl | ⟨target, applied, same⟩)
      · exact ⟨token, by simp, rfl⟩
      · exact ⟨target, List.mem_append_left _ applied, same⟩
    · rintro ⟨target, applied, same⟩
      rcases List.mem_append.mp applied with past | now
      · exact .inr ⟨target, past, same⟩
      · obtain rfl := SessionStep.cancel.inj (List.mem_singleton.mp now)
        exact .inl same.symm

/-- Every step that is about an existing token keeps the tokens in line with the history. -/
theorem step (tracks : tokens.Tracks history) {step : SessionStep} (config : Config)
    (known : step.token?.all (· < Session.tokenCount history) = true) :
    (tokens.step config step).1.Tracks (history ++ [step]) := by
  rw [← tracks.size] at known
  have size (step : SessionStep) (idle : step.opens = false) :
      tokens.groups.size = Session.tokenCount (history ++ [step]) := by
    simp [Session.tokenCount_append, idle, tracks.size]
  cases step with
  | fresh =>
    apply tracks.keep _ (fun token => tokens.group_fresh token) rfl (by simp)
    rw [Session.tokenCount_append, ← tracks.size]
    exact Array.size_push _
  | clone token => exact tracks.clone (by simpa [SessionStep.token?] using known)
  | cancel token => exact tracks.cancel (by simpa [SessionStep.token?] using known)
  | isCancelled token => exact tracks.keep (size _ rfl) (fun _ => rfl) rfl (by simp)
  | extract token file => exact tracks.keep (size _ rfl) (fun _ => rfl) rfl (by simp)
  | batch token files => exact tracks.keep (size _ rfl) (fun _ => rfl) rfl (by simp)

/-- So do all steps of a session. -/
theorem after (tracks : tokens.Tracks history) (config : Config) {steps : List SessionStep}
    (known : Session.addressed history steps = true) :
    (tokens.after config steps).Tracks (history ++ steps) := by
  induction steps generalizing tokens history with
  | nil =>
    rw [List.append_nil]
    exact tracks
  | cons step rest ih =>
    obtain ⟨own, others⟩ := Bool.and_eq_true_iff.mp known
    have rested := ih (tracks.step config own) others
    rw [List.append_assoc] at rested
    exact rested

end Tracks

theorem length_states (tokens : Tokens) : tokens.states.length = tokens.groups.size := by
  simp [states]

theorem getElem?_states (tokens : Tokens) {token : Nat} (inside : token < tokens.groups.size) :
    tokens.states[token]? = some (tokens.isCancelled token) := by
  simp [states, inside]

end Tokens

/-- Cancellation is the only reason to refuse a file as cancelled. -/
theorem InputFile.admission_cancelled_iff {file : InputFile} {config : Config} {cancelled : Bool} :
    file.admission config cancelled = .error .cancelled ↔ cancelled = true := by
  constructor
  · intro refused
    by_contra running
    rw [InputFile.admission, if_neg running] at refused
    split at refused
    · cases refused
    split at refused
    · cases refused
    split at refused
    · cases refused
    split at refused <;> cases refused
  · rintro rfl
    rfl

theorem extractFile_cancelled_iff {config : Config} {cancelled : Bool} {file : InputFile} :
    (extractFile config cancelled file).result = .error .cancelled ↔ cancelled = true := by
  have refused : (extractFile config cancelled file).result = .error .cancelled ↔
      file.admission config cancelled = .error .cancelled := by
    rw [extractFile_result]
    cases file.admission config cancelled <;> simp [Except.map]
  exact refused.trans InputFile.admission_cancelled_iff

namespace Session

/-- What a step has to be answered after a history. Work on a file fails as cancelled if its token
is, and otherwise is answered as the only step of a new session would be; the answers to a batch
are those to its files, each taken for itself under the same token. -/
def Answers (config : Config) (history : List SessionStep) : SessionStep → SessionReply → Prop
  | .fresh, .token index | .clone _, .token index => index = tokenCount history
  | .cancel token, .states flags =>
    flags.length = tokenCount history ∧ ∀ other < tokenCount history,
      flags[other]? = some true ↔ Cancelled (history ++ [.cancel token]) other
  | .isCancelled token, .flag value => value = true ↔ Cancelled history token
  | .extract token file, .file answer =>
    (answer.result = .error .cancelled ↔ Cancelled history token) ∧
    (¬ Cancelled history token →
      Tokens.initial.run config [.extract 0 file] = [.file answer])
  | .batch token files, .files answers =>
    List.Forall₂ (fun file answer =>
      (Tokens.initial.run config (history ++ [.extract token file]))[history.length]? =
        some (.file answer)) files answers
  | _, _ => False

variable {config : Config} {history : List SessionStep}

theorem answers_extract (tracks : (Tokens.initial.after config history).Tracks history)
    (token : Nat) (file : InputFile) :
    Answers config history (.extract token file) (.file
      (extractFile config ((Tokens.initial.after config history).isCancelled token) file)) := by
  refine ⟨?_, ?_⟩
  · rw [extractFile_cancelled_iff, tracks.isCancelled_iff]
  · intro running
    rw [← tracks.isCancelled_iff, Bool.not_eq_true] at running
    rw [running]
    rfl

/-- Each step is answered as its history demands. -/
theorem answers_step (tracks : (Tokens.initial.after config history).Tracks history)
    {step : SessionStep} (known : step.token?.all (· < tokenCount history) = true) :
    Answers config history step ((Tokens.initial.after config history).step config step).2 := by
  cases step with
  | fresh => exact tracks.size
  | clone token => exact tracks.size
  | cancel token =>
    have next := tracks.step config known
    refine ⟨?_, ?_⟩
    · exact (Tokens.length_states _).trans tracks.size
    · intro other inside
      rw [← tracks.size] at inside
      have flag := Tokens.getElem?_states (Tokens.cancel _ token) inside
      rw [← next.isCancelled_iff]
      exact ⟨fun found => Option.some.inj (flag.symm.trans found), fun holds => holds ▸ flag⟩
  | isCancelled token => exact tracks.isCancelled_iff token
  | extract token file => exact answers_extract tracks token file
  | batch token files =>
    change List.Forall₂ _ files (files.map _)
    rw [List.forall₂_map_right_iff, List.forall₂_same]
    intro file _
    exact Tokens.getElem?_run history [] (.extract token file)

end Session

/-- Any session, from the history of its steps alone. After each step the cancelled tokens are those
that some cancellation among the steps so far has reached, through clonings in either direction; no
token is ever cancelled no more. Each step has its reply, and that of work on files depends on
nothing that came before, except whether the token is cancelled. -/
theorem session_isolated (config : Config) (steps : List SessionStep)
    (addressed : Session.addressed [] steps = true) :
    (Tokens.initial.run config steps).length = steps.length ∧
    ∀ before step after, steps = before ++ step :: after →
      (∀ token, (Tokens.initial.after config (before ++ [step])).isCancelled token = true ↔
        Session.Cancelled (before ++ [step]) token) ∧
      (∀ token, (Tokens.initial.after config before).isCancelled token = true →
        ∀ later, later <+: step :: after →
          (Tokens.initial.after config (before ++ later)).isCancelled token = true) ∧
      ∃ reply, (Tokens.initial.run config steps)[before.length]? = some reply ∧
        Session.Answers config before step reply := by
  have tracks (before rest : List SessionStep) (split : steps = before ++ rest) :
      (Tokens.initial.after config before).Tracks before :=
    Tokens.tracks_initial.after config (Session.addressed_append (split ▸ addressed)).1
  refine ⟨Tokens.length_run steps, ?_⟩
  intro before step after split
  have past := tracks before (step :: after) split
  refine ⟨?_, ?_, ?_⟩
  · have next := tracks (before ++ [step]) after (by simp [split])
    exact next.isCancelled_iff
  · rintro token cancelled later ⟨rest, whole⟩
    have next := tracks (before ++ later) rest (by simp [split, whole])
    rw [past.isCancelled_iff] at cancelled
    rw [next.isCancelled_iff]
    exact cancelled.append later
  · obtain ⟨_, ahead⟩ := Session.addressed_append (split ▸ addressed)
    obtain ⟨known, _⟩ := Bool.and_eq_true_iff.mp ahead
    subst split
    exact ⟨_, Tokens.getElem?_run before after step, Session.answers_step past known⟩

/-- A token is cloned, the clone is cancelled, and then the token is cloned once more. -/
def sampleHistory : List SessionStep := [.clone 0, .cancel 1, .clone 0, .fresh]

/-- The cancellation of one clone reaches the other, made later, and not the fresh token. -/
theorem session_isolated_sampleHistory :
    let steps := sampleHistory ++ [.extract 2 (variableFile "lib/a.js")]
    Session.addressed [] steps = true ∧
    Session.Cancelled sampleHistory 2 ∧ ¬ Session.Cancelled sampleHistory 3 ∧
    ∃ reply, (Tokens.initial.run {} steps)[4]? = some reply ∧
      Session.Answers {} sampleHistory (.extract 2 (variableFile "lib/a.js")) reply := by
  intro steps
  have addressed : Session.addressed [] steps = true := by decide
  have isolated := (session_isolated {} steps addressed).2
  have flags := (isolated [.clone 0, .cancel 1, .clone 0] .fresh [.extract 2 _] rfl).1
  refine ⟨addressed, ?_, ?_, ?_⟩
  · exact (flags 2).mp (by decide)
  · intro cancelled
    exact absurd ((flags 3).mpr cancelled) (by decide)
  · exact (isolated sampleHistory _ [] rfl).2.2

end ScriptAtlas
