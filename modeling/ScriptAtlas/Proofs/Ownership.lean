import ScriptAtlas.Proofs.FanOut
import ScriptAtlas.Proofs.Lineage

/-! Types that are named through their prototype. `X.prototype` is read in two ways: by its parts,
as a member expression whose property is `prototype`, and by its text, from which a final
`.prototype` is taken off. The readings agree exactly where a single dot stands between the two
parts; with a blank or a line break at the dot, only the first finds the name of the type. Which
end of an inheritance edge is read in which way depends on the form of the edge. -/
namespace ScriptAtlas
open SyntaxTree

namespace Text

theorem dropEnding_append (front ending : String) :
    dropEnding ending (front ++ ending) = front := by
  have suffix : ending.toList.isSuffixOf (front ++ ending).toList = true := by
    rw [List.isSuffixOf_iff_suffix, String.toList_append]
    exact List.suffix_append _ _
  rw [dropEnding, if_pos suffix, String.toList_append, List.length_append, Nat.add_sub_cancel,
    List.take_left, String.ofList_toList]

/-- A text loses its ending once; a text without that ending is left as it is. -/
theorem dropEnding_eq_iff {ending text front : String} :
    dropEnding ending text = front ↔
      text = front ++ ending ∨ (text = front ∧ ¬ending.toList <:+ text.toList) := by
  by_cases suffix : ending.toList <:+ text.toList
  · obtain ⟨chars, same⟩ := suffix
    have split : text = String.ofList chars ++ ending := by
      rw [← String.toList_inj, String.toList_append, String.toList_ofList, same]
    rw [split, dropEnding_append]
    simp [String.toList_append]
  · have kept : dropEnding ending text = text := by
      rw [dropEnding, if_neg (by rwa [List.isSuffixOf_iff_suffix])]
    rw [kept]
    constructor
    · intro same
      exact .inr ⟨same, suffix⟩
    · rintro (rfl | ⟨same, _⟩)
      · exact absurd (by simp [String.toList_append]) suffix
      · exact same

end Text

/-- The last of some items that meets a condition. -/
def IsLast {α : Type} (condition : α → Prop) (items : List α) (item : α) : Prop :=
  ∃ before after, items = before ++ item :: after ∧ condition item ∧
    ∀ later ∈ after, ¬condition later

theorem findSome?_reverse_eq_some_iff {α β : Type} {select : α → Option β} {items : List α}
    {value : β} :
    items.reverse.findSome? select = some value ↔
      ∃ item, IsLast (fun item => (select item).isSome) items item ∧ select item = some value := by
  rw [List.findSome?_eq_some_iff]
  constructor
  · rintro ⟨after, item, before, split, selected, passed⟩
    refine ⟨item, ⟨before.reverse, after.reverse, ?_, by simp [selected], ?_⟩, selected⟩
    · simpa using congrArg List.reverse split
    · intro later member
      simp [passed later (List.mem_reverse.mp member)]
  · rintro ⟨item, ⟨before, after, rfl, _, passed⟩, selected⟩
    refine ⟨after.reverse, item, before.reverse, by simp, selected, ?_⟩
    intro later member
    simpa using passed later (List.mem_reverse.mp member)

theorem find?_reverse_eq_some_iff {α : Type} {test : α → Bool} {items : List α} {item : α} :
    items.reverse.find? test = some item ↔ IsLast (test · = true) items item := by
  rw [List.find?_eq_some_iff_append]
  constructor
  · rintro ⟨passes, after, before, split, passed⟩
    refine ⟨before.reverse, after.reverse, ?_, passes, ?_⟩
    · simpa using congrArg List.reverse split
    · intro later member
      simpa using passed later (List.mem_reverse.mp member)
  · rintro ⟨before, after, rfl, passes, passed⟩
    refine ⟨passes, after.reverse, before.reverse, by simp, ?_⟩
    intro later member
    simpa using passed later (List.mem_reverse.mp member)

namespace Source

/-- A prototype as it is written: its owner, what stands between the two, and `prototype`. -/
structure Written (source : Source) (node : Node) (owner gap : String) : Prop where
  owned : source.prototypeOwner? node = some owner
  text : source.text node = owner ++ gap ++ "prototype"

/-- The forms of inheritance edges; `inherits` and the bare `setPrototypeOf` are one of them. -/
inductive EdgeForm where
  | direct
  | assign
  | mixin
  | create

namespace EdgeForm

/-- Whether the child is read by its parts. -/
def childByParts : EdgeForm → Bool
  | .create => true
  | .direct | .assign | .mixin => false

/-- Whether the parent is read by its parts. -/
def parentByParts : EdgeForm → Bool
  | .assign => true
  | .direct | .mixin | .create => false

end EdgeForm

/-- A call of something that has a name. -/
structure Calls (source : Source) (call callee : Node) (name : String) (qualified : Bool) :
    Prop where
  kind : call.kind = .callExpression
  found : call.child? .callee = some callee
  named : source.calleeName? callee = some (name, qualified)

/-- The nodes that stand for the child and the parent in an expression of one of the forms. -/
inductive Ends (source : Source) (expression : Node) : EdgeForm → Node → Node → Prop where
  | direct {callee child parent : Node} {name : String} {qualified : Bool} {rest : List Node}
      (calls : source.Calls expression callee name qualified)
      (inherits : name = "inherits" ∨ (name = "setPrototypeOf" ∧ qualified = false))
      (arguments : callArguments expression = child :: parent :: rest) :
      Ends source expression .direct child parent
  | assign {callee child parent : Node} {name : String} {rest : List Node}
      (calls : source.Calls expression callee name true) (other : name ≠ "inherits")
      (whole : source.text callee = "Object.assign")
      (arguments : callArguments expression = child :: rest)
      (target : (source.prototypeOwner? child).isSome)
      (last : IsLast (fun node => (source.prototypeOwner? node).isSome) rest parent) :
      Ends source expression .assign child parent
  | mixin {callee child parent : Node} {name : String} {qualified : Bool} {rest : List Node}
      (calls : source.Calls expression callee name qualified)
      (mixes : "mixin".toList <:+ name.toList)
      (other : ¬(qualified = true ∧ source.text callee = "Object.assign"))
      (arguments : callArguments expression = child :: rest)
      (last : IsLast (fun node => node.kind = .identifier ∨ node.kind = .memberExpression) rest
        parent) :
      Ends source expression .mixin child parent
  | create {left right callee parent : Node} {rest : List Node}
      (kind : expression.kind = .assignmentExpression)
      (assigned : expression.child? .left = some left)
      (owned : (source.prototypeOwner? left).isSome)
      (followed : expression.child? .right = some right) (call : right.kind = .callExpression)
      (called : right.child? .callee = some callee)
      (whole : source.text callee = "Object.create")
      (arguments : callArguments right = parent :: rest) :
      Ends source expression .create left parent

/-- The name that one end of an edge contributes. -/
def endName? (source : Source) (byParts : Bool) (node : Node) : Option String :=
  if byParts then source.prototypeOwner? node else some (source.ownerText node)

variable {source : Source} {expression node child parent : Node} {form : EdgeForm}
  {owner gap : String} {edge : Edge}

theorem ownerText_eq_iff {name : String} :
    source.ownerText node = name ↔
      source.text node = name ++ ".prototype" ∨
        (source.text node = name ∧ ¬".prototype".toList <:+ name.toList) := by
  rw [ownerText, Text.dropEnding_eq_iff]
  refine or_congr_right (and_congr_right fun same => ?_)
  rw [same]

namespace Written

/-- What stands before the dot is taken for a part of the name. -/
theorem ownerText_eq {blank : String} (written : source.Written node owner (blank ++ ".")) :
    source.ownerText node = owner ++ blank := by
  rw [Source.ownerText_eq_iff, written.text]
  left
  rw [String.append_assoc, String.append_assoc, String.append_assoc]
  rfl

/-- The reading by text finds the owner only behind a bare dot. -/
theorem ownerText_eq_iff (written : source.Written node owner gap) :
    source.ownerText node = owner ↔ gap = "." := by
  rw [Source.ownerText_eq_iff, written.text, String.append_assoc]
  have dotted : owner ++ (gap ++ "prototype") = owner ++ ".prototype" ↔ gap = "." := by
    rw [String.append_right_inj]
    change gap ++ "prototype" = "." ++ "prototype" ↔ gap = "."
    exact String.append_left_inj "prototype"
  have longer : owner ++ (gap ++ "prototype") ≠ owner := by
    intro same
    have lengths := congrArg String.length same
    simp at lengths
  rw [dotted]
  simp [longer]

theorem endName?_eq_iff (written : source.Written node owner gap) (byParts : Bool) :
    source.endName? byParts node = some owner ↔ byParts = true ∨ gap = "." := by
  unfold endName?
  cases byParts with
  | true => simp [written.owned]
  | false => simp [written.ownerText_eq_iff]

end Written

theorem directEdge?_eq_some_iff {arguments : List Node} :
    source.directEdge? arguments = some edge ↔
      ∃ child parent rest, arguments = child :: parent :: rest ∧
        source.ownerText child = edge.child ∧ source.ownerText parent = edge.parent := by
  obtain ⟨heir, ancestor⟩ := edge
  match arguments with
  | [] => simp [directEdge?]
  | [_] => simp [directEdge?]
  | child :: parent :: rest => simp [directEdge?]

theorem assignEdge?_eq_some_iff {arguments : List Node} :
    source.assignEdge? arguments = some edge ↔
      ∃ child parent rest, arguments = child :: rest ∧ (source.prototypeOwner? child).isSome ∧
        IsLast (fun node => (source.prototypeOwner? node).isSome) rest parent ∧
        source.ownerText child = edge.child ∧ source.prototypeOwner? parent = some edge.parent := by
  obtain ⟨heir, ancestor⟩ := edge
  cases arguments with
  | nil => simp [assignEdge?]
  | cons target rest =>
    constructor
    · intro found
      obtain ⟨name, owned, found⟩ := Option.bind_eq_some_iff.mp found
      obtain ⟨name', selected, same⟩ := Option.bind_eq_some_iff.mp found
      obtain ⟨rfl, rfl⟩ : source.ownerText target = heir ∧ name' = ancestor := by
        simpa using same
      obtain ⟨parent, last, named⟩ := findSome?_reverse_eq_some_iff.mp selected
      exact ⟨target, parent, rest, rfl, by simp [owned], last, rfl, named⟩
    · rintro ⟨child, parent, others, same, owned, last, rfl, named⟩
      obtain ⟨rfl, rfl⟩ := List.cons.inj same
      obtain ⟨name, owned⟩ := Option.isSome_iff_exists.mp owned
      have selected := findSome?_reverse_eq_some_iff.mpr ⟨parent, last, named⟩
      simp [assignEdge?, owned, selected]

theorem mixinEdge?_eq_some_iff {arguments : List Node} :
    source.mixinEdge? arguments = some edge ↔
      ∃ child parent rest, arguments = child :: rest ∧
        IsLast (fun node => node.kind = .identifier ∨ node.kind = .memberExpression) rest parent ∧
        source.ownerText child = edge.child ∧ source.ownerText parent = edge.parent := by
  obtain ⟨heir, ancestor⟩ := edge
  cases arguments with
  | nil => simp [mixinEdge?]
  | cons target rest =>
    simp [mixinEdge?, Option.bind_eq_some_iff, find?_reverse_eq_some_iff]

theorem createEdge?_eq_some_iff :
    source.createEdge? expression = some edge ↔
      ∃ left right callee parent rest, expression.child? .left = some left ∧
        source.prototypeOwner? left = some edge.child ∧ expression.child? .right = some right ∧
        right.kind = .callExpression ∧ right.child? .callee = some callee ∧
        source.text callee = "Object.create" ∧ callArguments right = parent :: rest ∧
        source.ownerText parent = edge.parent := by
  obtain ⟨heir, ancestor⟩ := edge
  unfold createEdge?
  constructor
  · intro found
    obtain ⟨left, assigned, found⟩ := Option.bind_eq_some_iff.mp found
    obtain ⟨name, owned, found⟩ := Option.bind_eq_some_iff.mp found
    obtain ⟨right, followed, found⟩ := Option.bind_eq_some_iff.mp found
    obtain ⟨call, found⟩ := guard_bind_eq_some.mp found
    obtain ⟨callee, called, found⟩ := Option.bind_eq_some_iff.mp found
    obtain ⟨whole, found⟩ := guard_bind_eq_some.mp found
    obtain ⟨parent, first, same⟩ := Option.bind_eq_some_iff.mp found
    obtain ⟨rest, arguments⟩ := List.head?_eq_some_iff.mp first
    obtain ⟨rfl, rfl⟩ : name = heir ∧ source.ownerText parent = ancestor := by simpa using same
    exact ⟨left, right, callee, parent, rest, assigned, owned, followed, call, called, whole,
      arguments, rfl⟩
  · rintro ⟨left, right, callee, parent, rest, assigned, owned, followed, call, called, whole,
      arguments, rfl⟩
    refine Option.bind_eq_some_iff.mpr ⟨left, assigned, ?_⟩
    refine Option.bind_eq_some_iff.mpr ⟨heir, owned, ?_⟩
    refine Option.bind_eq_some_iff.mpr ⟨right, followed, guard_bind_eq_some.mpr ⟨call, ?_⟩⟩
    refine Option.bind_eq_some_iff.mpr ⟨callee, called, guard_bind_eq_some.mpr ⟨whole, ?_⟩⟩
    rw [arguments]
    rfl

/-- An expression that states an edge, with its form and the nodes for the two names. -/
structure Spells (source : Source) (expression : Node) (edge : Edge) (form : EdgeForm)
    (child parent : Node) : Prop where
  ends : source.Ends expression form child parent
  child : source.endName? form.childByParts child = some edge.child
  parent : source.endName? form.parentByParts parent = some edge.parent

theorem spells_of_callEdge? (kind : expression.kind = .callExpression)
    (found : source.callEdge? expression = some edge) :
    ∃ form child parent, source.Spells expression edge form child parent := by
  obtain ⟨callee, calleeFound, found⟩ := Option.bind_eq_some_iff.mp found
  obtain ⟨⟨name, qualified⟩, named, found⟩ := Option.bind_eq_some_iff.mp found
  have calls : source.Calls expression callee name qualified := ⟨kind, calleeFound, named⟩
  simp only at found
  split at found
  · rename_i inherits
    obtain ⟨child, parent, rest, arguments, heir, ancestor⟩ := directEdge?_eq_some_iff.mp found
    exact ⟨.direct, child, parent, .direct calls (by simpa using inherits) arguments,
      congrArg some heir, congrArg some ancestor⟩
  rename_i indirect
  split at found
  · rename_i whole
    obtain ⟨child, parent, rest, arguments, target, last, heir, ancestor⟩ :=
      assignEdge?_eq_some_iff.mp found
    obtain rfl : qualified = true := whole.1
    have other : name ≠ "inherits" := fun same => indirect (.inl same)
    exact ⟨.assign, child, parent, .assign calls other whole.2 arguments target last,
      congrArg some heir, ancestor⟩
  rename_i other
  split at found
  · rename_i mixes
    obtain ⟨child, parent, rest, arguments, last, heir, ancestor⟩ :=
      mixinEdge?_eq_some_iff.mp found
    exact ⟨.mixin, child, parent,
      .mixin calls (List.isSuffixOf_iff_suffix.mp mixes) other arguments last,
      congrArg some heir, congrArg some ancestor⟩
  · cases found

theorem spells_of_edge? (found : source.edge? expression = some edge) :
    ∃ form child parent, source.Spells expression edge form child parent := by
  unfold edge? at found
  split at found
  · rename_i kind
    exact spells_of_callEdge? kind found
  · rename_i kind
    obtain ⟨left, right, callee, parent, rest, assigned, owned, followed, call, called, whole,
      arguments, ancestor⟩ := createEdge?_eq_some_iff.mp found
    exact ⟨.create, left, parent, .create kind assigned (by simp [owned]) followed call called
      whole arguments, owned, congrArg some ancestor⟩
  · cases found

theorem Calls.edge?_eq {callee : Node} {name : String} {qualified : Bool}
    (calls : source.Calls expression callee name qualified) :
    source.edge? expression =
      if name = "inherits" ∨ (name = "setPrototypeOf" ∧ !qualified) then
        source.directEdge? (callArguments expression)
      else if qualified ∧ source.text callee = "Object.assign" then
        source.assignEdge? (callArguments expression)
      else if "mixin".toList.isSuffixOf name.toList then
        source.mixinEdge? (callArguments expression)
      else none := by
  rw [edge?, calls.kind]
  simp only [callEdge?, calls.found, calls.named, Option.bind_eq_bind, Option.bind_some]

theorem Spells.edge?_eq (spells : source.Spells expression edge form child parent) :
    source.edge? expression = some edge := by
  obtain ⟨ends, heir, ancestor⟩ := spells
  cases ends with
  | direct calls inherits arguments =>
    rw [calls.edge?_eq, if_pos (by simpa using inherits)]
    exact directEdge?_eq_some_iff.mpr
      ⟨child, parent, _, arguments, Option.some.inj heir, Option.some.inj ancestor⟩
  | assign calls other whole arguments target last =>
    rw [calls.edge?_eq, if_neg (by simp [other]), if_pos ⟨rfl, whole⟩]
    exact assignEdge?_eq_some_iff.mpr
      ⟨child, parent, _, arguments, target, last, Option.some.inj heir, ancestor⟩
  | mixin calls mixes other arguments last =>
    -- the names of the direct form do not end in `mixin`
    have indirect : ∀ name, name = "inherits" ∨ name = "setPrototypeOf" →
        ¬"mixin".toList <:+ name.toList := by
      rintro _ (rfl | rfl) <;> decide
    rw [calls.edge?_eq, if_neg (fun direct => indirect _ (direct.imp_right And.left) mixes),
      if_neg other, if_pos (List.isSuffixOf_iff_suffix.mpr mixes)]
    exact mixinEdge?_eq_some_iff.mpr
      ⟨child, parent, _, arguments, last, Option.some.inj heir, Option.some.inj ancestor⟩
  | create kind assigned owned followed call called whole arguments =>
    rw [edge?, kind]
    exact createEdge?_eq_some_iff.mpr ⟨child, _, _, parent, _, assigned, heir, followed, call,
      called, whole, arguments, Option.some.inj ancestor⟩

/-- Each form finds names for both of its ends. -/
theorem Ends.exists_spells (ends : source.Ends expression form child parent) :
    ∃ edge, source.Spells expression edge form child parent := by
  obtain ⟨heir, named⟩ : ∃ heir, source.endName? form.childByParts child = some heir := by
    cases ends with
    | create _ _ owned => exact Option.isSome_iff_exists.mp owned
    | direct | assign | mixin => exact ⟨_, rfl⟩
  obtain ⟨ancestor, named'⟩ : ∃ ancestor,
      source.endName? form.parentByParts parent = some ancestor := by
    cases ends with
    | assign _ _ _ _ _ last =>
      obtain ⟨_, _, _, owned, _⟩ := last
      exact Option.isSome_iff_exists.mp owned
    | direct | mixin | create => exact ⟨_, rfl⟩
  exact ⟨⟨heir, ancestor⟩, ends, named, named'⟩

/-- The two readings of a prototype, and what becomes of them in an inheritance edge. Where a
prototype is read by its parts, the reading by text gives the same owner exactly if the text is the
owner followed by `.prototype`, or the owner itself without such an ending; of a prototype as it is
written, exactly if a bare dot stands before `prototype`, while anything before the dot ends up in
the name. An expression states an edge exactly if it has one of the forms, and then a prototype that
stands for the child or the parent contributes its owner exactly if that form reads this end by its
parts, or if there is a bare dot. -/
theorem edge_names_owner_iff (source : Source) :
    (∀ node owner, source.prototypeOwner? node = some owner →
      (source.ownerText node = owner ↔
        source.text node = owner ++ ".prototype" ∨
          (source.text node = owner ∧ ¬".prototype".toList <:+ owner.toList))) ∧
    (∀ node owner gap, source.Written node owner gap →
      (source.ownerText node = owner ↔ gap = ".")) ∧
    (∀ node owner blank, source.Written node owner (blank ++ ".") →
      source.ownerText node = owner ++ blank) ∧
    (∀ expression, (source.edge? expression).isSome ↔
      ∃ form child parent, source.Ends expression form child parent) ∧
    ∀ expression form child parent, source.Ends expression form child parent →
      ∃ edge, source.edge? expression = some edge ∧
        (∀ owner gap, source.Written child owner gap →
          (edge.child = owner ↔ form.childByParts = true ∨ gap = ".")) ∧
        ∀ owner gap, source.Written parent owner gap →
          (edge.parent = owner ↔ form.parentByParts = true ∨ gap = ".") := by
  refine ⟨fun _ _ _ => ownerText_eq_iff, fun _ _ _ written => written.ownerText_eq_iff,
    fun _ _ _ written => written.ownerText_eq, ?_, ?_⟩
  · intro expression
    rw [Option.isSome_iff_exists]
    constructor
    · rintro ⟨edge, found⟩
      obtain ⟨form, child, parent, spells⟩ := spells_of_edge? found
      exact ⟨form, child, parent, spells.ends⟩
    · rintro ⟨form, child, parent, ends⟩
      obtain ⟨edge, spells⟩ := ends.exists_spells
      exact ⟨edge, spells.edge?_eq⟩
  · intro expression form child parent ends
    obtain ⟨edge, spells⟩ := ends.exists_spells
    refine ⟨edge, spells.edge?_eq, fun owner gap written => ?_, fun owner gap written => ?_⟩
    · rw [← written.endName?_eq_iff, spells.child, Option.some_inj]
    · rw [← written.endName?_eq_iff, spells.parent, Option.some_inj]

end Source

/-- The tree of `C.prototype`, with so many bytes between its two words. -/
def samplePrototype (start gap : Nat) : Node :=
  ⟨.memberExpression, true, false, none, start, start + gap + 10, [
    ⟨.identifier, true, false, some .object, start, start + 1, []⟩,
    ⟨.propertyIdentifier, true, false, some .property, start + gap + 1, start + gap + 10, []⟩]⟩

/-- The tree of `Object.assign(C.prototype, P.prototype)`, by the widths of the two dots. -/
def sampleAssign (start first second : Nat) : Node :=
  ⟨.callExpression, true, false, none, start, start + first + second + 37, [
    sampleMember (some .callee) start (start + 6) (start + 13),
    ⟨.arguments, true, false, some .arguments, start + 13, start + first + second + 37, [
      samplePrototype (start + 14) first,
      samplePrototype (start + first + 26) second]⟩]⟩

def ownershipContext (text : String) : Context :=
  ⟨Source.ofBytes "lib/thing.js" text.toUTF8, CallLimits.standard, false⟩

/-- A broken line does no harm in the last argument of `Object.assign`. -/
theorem Source.edge_names_owner_sampleAssign :
    let source := (ownershipContext "Object.assign(C.prototype, P\n.prototype)").source
    source.Written (samplePrototype 14 1) "C" "." ∧
    source.Written (samplePrototype 27 2) "P" "\n." ∧
    source.Ends (sampleAssign 0 1 2) .assign (samplePrototype 14 1) (samplePrototype 27 2) ∧
    source.ownerText (samplePrototype 14 1) = "C" ∧
    source.ownerText (samplePrototype 27 2) = "P\n" ∧
    ∃ edge, source.edge? (sampleAssign 0 1 2) = some edge ∧
      edge.child = "C" ∧ edge.parent = "P" := by
  intro source
  have child : source.Written (samplePrototype 14 1) "C" "." :=
    ⟨by decide +kernel, by decide +kernel⟩
  have parent : source.Written (samplePrototype 27 2) "P" ("\n" ++ ".") :=
    ⟨by decide +kernel, by decide +kernel⟩
  have calls : source.Calls (sampleAssign 0 1 2) (sampleMember (some .callee) 0 6 13) "assign"
      true := ⟨rfl, rfl, by decide +kernel⟩
  have ends : source.Ends (sampleAssign 0 1 2) .assign (samplePrototype 14 1)
      (samplePrototype 27 2) :=
    .assign calls (by decide) (by decide +kernel) rfl (by decide +kernel)
      ⟨[], [], rfl, by decide +kernel, by simp⟩
  obtain ⟨_, tight, loose, _, contributes⟩ := source.edge_names_owner_iff
  obtain ⟨edge, found, heir, ancestor⟩ := contributes _ _ _ _ ends
  exact ⟨child, parent, ends, (tight _ _ _ child).mpr rfl, loose _ _ _ parent, edge, found,
    (heir _ _ child).mpr (.inr rfl), (ancestor _ _ parent).mpr (.inl rfl)⟩

/-- In the first argument it does: the edge is stated for a name that nothing has. -/
theorem Source.broken_line_loses_owner :
    let context := ownershipContext
      "function C() \x7b\x7d\nObject.assign(C\n.prototype, P.prototype);"
    let call := sampleAssign 16 2 1
    let root : Node := ⟨.program, true, false, none, 0, 57, [
      Context.sampleHeir 0, ⟨.expressionStatement, true, false, none, 16, 57, [call]⟩]⟩
    context.source.prototypeOwner? (samplePrototype 30 2) = some "C" ∧
    context.source.ownerText (samplePrototype 30 2) = "C\n" ∧
    context.source.edge? call = some ⟨"C\n", "P"⟩ ∧
    (context.extract true "javascript" root).extraction.symbols.map
      (fun symbol => (symbol.name, symbol.details.parent)) = [("C", none)] := by
  exact ⟨by decide +kernel, by decide +kernel, by decide +kernel, by decide +kernel⟩

end ScriptAtlas
