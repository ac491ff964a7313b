import PageSketch.Proofs.Template.Outline

/-! The attributes of the tags of a filled template, found in the template itself: what fills them, and which
classes they name. -/
namespace PageSketch.Template

open Markup

def Expr.shown (source : Expr) (scope : Scope) : String :=
  String.ofList (unescape (filled [.value true source] scope))

theorem Expr.shown_value {source : Expr} {value : Json} {scope : Scope}
    (found : source.eval scope = .ok (some value)) : source.shown scope = String.ofList value.display := by
  rw [Expr.shown, filled_value found, unescape_escape]
  rfl

theorem Expr.shown_text {source : Expr} {text : String} {scope : Scope}
    (found : source.eval scope = .ok (some (.text text))) : source.shown scope = text := by
  rw [Expr.shown_value found]
  exact String.ofList_toList

/-- A test on tags answers as another one does on what they are filled with, where it answers. -/
def Decides (test? : List Node → Option Bool) (test : Text → Bool) : Prop :=
  ∀ inside answer, test? inside = some answer → ∀ scope, test (filled inside scope) = answer

/-- Whether a tag is just this text, if that does not depend on the data. -/
def isTag? (name : Text) : List Node → Option Bool
  | [.text text] => some (text == name)
  | .text text :: _ => if text.isPrefixOf name then none else some false
  | _ => none

theorem decides_isTag? (name : Text) : Decides (isTag? name) (· == name) := by
  intro inside answer known scope
  unfold isTag? at known
  split at known
  · rename_i text
    obtain rfl := Option.some.inj known
    rw [filled_text]
  · rename_i text rest _
    split at known
    · cases known
    · rename_i apart
      obtain rfl := Option.some.inj known
      rw [filled_cons, filled_text, beq_eq_false_iff_ne]
      rintro rfl
      exact apart (List.isPrefixOf_iff_prefix.mpr (List.prefix_append _ _))
  · cases known

section Attributes

/-- The pieces that a mark cuts a part of a template into, if it stands in nothing that is inserted. -/
def Node.pieces? (mark : Char) : Node → Option (List (List Node))
  | .text own => some ((Text.pieces (· = mark) own).map ownText)
  | node => if node.lacks mark then some [[node]] else none

/-- The pieces that a mark cuts parts of a template into. -/
def piecesAll? (mark : Char) : List Node → Option (List (List Node))
  | [] => some [[]]
  | first :: rest => do
    let own ← first.pieces? mark
    let others ← piecesAll? mark rest
    return Text.glue own others

/-- The attributes among pieces of a tag. A value may depend on the data, a name may not. -/
def attributesIn? : List (List Node) → Option (List (Text × List Node))
  | [.text label] :: value :: rest => (attributesIn? rest).map ((attributeName label, value) :: ·)
  | [] | [_] => some []
  | _ => none

def attributes? (inside : List Node) : Option (List (Text × List Node)) :=
  (piecesAll? '"' inside).bind attributesIn?

variable {mark : Char} {scope : Scope}

private theorem Node.pieces_filled (isMark : Text.isMark mark = true) {node : Node} {pieces : List (List Node)}
    (found : node.pieces? mark = some pieces) (scope : Scope) :
    Text.pieces (· = mark) (filled [node] scope) = pieces.map (filled · scope) := by
  unfold Node.pieces? at found
  split at found
  · rename_i text
    obtain rfl := Option.some.inj found
    simp [Function.comp_def]
  · split at found
    · rename_i lacks
      obtain rfl := Option.some.inj found
      refine Text.pieces_of_unmarked fun char member => ?_
      rw [decide_eq_false_iff_not]
      rintro rfl
      exact node.notMem_of_lacks isMark lacks scope member
    · cases found

private theorem pieces_filled (isMark : Text.isMark mark = true) {nodes : List Node} {pieces : List (List Node)}
    (found : piecesAll? mark nodes = some pieces) (scope : Scope) :
    Text.pieces (· = mark) (filled nodes scope) = pieces.map (filled · scope) := by
  induction nodes generalizing pieces with
  | nil =>
    obtain rfl := Option.some.inj found
    rfl
  | cons first rest ih =>
    simp only [piecesAll?, Option.bind_eq_bind, Option.bind_eq_some_iff] at found
    obtain ⟨own, ofFirst, others, ofRest, same⟩ := found
    obtain rfl := Option.some.inj same
    rw [filled_cons, Text.pieces_append, Node.pieces_filled isMark ofFirst, ih ofRest,
      Text.glue_map fun first second => filled_append first second scope]

private theorem attributesOf_filled {pieces : List (List Node)} {found : List (Text × List Node)}
    (read : attributesIn? pieces = some found) (scope : Scope) :
    attributesOf (pieces.map (filled · scope)) =
      found.map (Prod.map id fun value => unescape (filled value scope)) := by
  fun_induction attributesIn? pieces generalizing found with
  | case1 label value rest ih =>
    obtain ⟨others, ofRest, rfl⟩ := Option.map_eq_some_iff.mp read
    rw [List.map_cons, List.map_cons, attributesOf, ih ofRest, filled_text]
    rfl
  | case2 =>
    obtain rfl := Option.some.inj read
    rfl
  | case3 =>
    obtain rfl := Option.some.inj read
    rfl
  | case4 => cases read

private theorem attributes_filled {inside : List Node} {found : List (Text × List Node)}
    (known : attributes? inside = some found) (scope : Scope) :
    attributes (filled inside scope) = found.map (Prod.map id fun value => unescape (filled value scope)) := by
  obtain ⟨pieces, cut, read⟩ := Option.bind_eq_some_iff.mp known
  rw [attributes, pieces_filled (by decide) cut, attributesOf_filled read]

mutual

/-- All that a part of a template may be filled with, if it inserts no value. -/
def Node.variants? : Node → Option (List Text)
  | .text text => some [text]
  | .value _ _ => none
  | .call _ _ _ => none
  | .block name _ body otherwise =>
    match Block.named? name with
    | some (.when _) => do
      let drawn ← variantsAll? body
      let others ← variantsAll? otherwise
      return [] :: (drawn ++ others)
    | _ => none
  | .placed _ node => node.variants?

def variantsAll? : List Node → Option (List Text)
  | [] => some [[]]
  | first :: rest => do
    let starts ← first.variants?
    let ends ← variantsAll? rest
    return starts.flatMap fun start => ends.map (start ++ ·)

end

mutual

private theorem Node.filled_mem_variants (node : Node) {texts : List Text} (known : node.variants? = some texts)
    (scope : Scope) : filled [node] scope ∈ texts := by
  match node with
  | .text text =>
    obtain rfl := Option.some.inj known
    rw [filled_text]
    exact List.mem_singleton_self text
  | .value _ _ | .call _ _ _ => simp [Node.variants?] at known
  | .block name args body otherwise =>
    simp only [Node.variants?] at known
    split at known
    · rename_i wanted named
      simp only [Option.bind_eq_bind, Option.bind_eq_some_iff] at known
      obtain ⟨drawn, ofBody, others, ofOtherwise, same⟩ := known
      obtain rfl := Option.some.inj same
      rw [filled_block, inBlock, named]
      split
      · split
        · exact List.mem_cons_of_mem _ (List.mem_append_left _ (filled_mem_variantsAll body ofBody scope))
        · exact List.mem_cons_of_mem _ (List.mem_append_right _ (filled_mem_variantsAll otherwise ofOtherwise scope))
      · rename_i each _
        cases each
      · exact List.mem_cons_self
    · cases known
  | .placed _ node =>
    rw [filled_placed]
    exact node.filled_mem_variants known scope

private theorem filled_mem_variantsAll (nodes : List Node) {texts : List Text}
    (known : variantsAll? nodes = some texts)
    (scope : Scope) : filled nodes scope ∈ texts := by
  match nodes with
  | [] =>
    obtain rfl := Option.some.inj known
    exact List.mem_singleton_self []
  | first :: rest =>
    simp only [variantsAll?, Option.bind_eq_bind, Option.bind_eq_some_iff] at known
    obtain ⟨starts, ofFirst, ends, ofRest, same⟩ := known
    obtain rfl := Option.some.inj same
    rw [filled_cons]
    exact List.mem_flatMap.mpr ⟨_, first.filled_mem_variants ofFirst scope,
      List.mem_map_of_mem (filled_mem_variantsAll rest ofRest scope)⟩

end

/-- Whether a tag names a class, if that does not depend on the data. -/
def hasClass? (name : String) (inside : List Node) : Option Bool :=
  (attributes? inside).bind fun found =>
    match found.lookup "class".toList with
    | none => some false
    | some value => (variantsAll? value).bind fun texts =>
      if texts.all fun text => names (unescape text) name then some true
      else if texts.all fun text => !names (unescape text) name then some false
      else none

theorem lookup_map {Key Value Other : Type} [BEq Key] (change : Value → Other) (entries : List (Key × Value))
    (key : Key) :
    (entries.map (Prod.map id change)).lookup key = (entries.lookup key).map change := by
  induction entries with
  | nil => rfl
  | cons entry rest ih =>
    rw [List.map_cons, List.lookup_cons, List.lookup_cons, ih, Prod.map_fst, id]
    split <;> rfl

private theorem attribute?_filled {inside : List Node} {found : List (Text × List Node)}
    (known : attributes? inside = some found) (name : String) (scope : Scope) :
    attribute? name (filled inside scope) =
      (found.lookup name.toList).map fun value => unescape (filled value scope) := by
  rw [attribute?, attributes_filled known, lookup_map]

theorem decides_hasClass? (name : String) : Decides (hasClass? name) (hasClass name) := by
  intro inside answer known scope
  obtain ⟨found, ofTag, class?⟩ := Option.bind_eq_some_iff.mp known
  rw [hasClass, attribute?_filled ofTag]
  split at class?
  · rename_i absent
    rw [absent, ← Option.some.inj class?]
    rfl
  · rename_i value given
    obtain ⟨texts, variants, agreed⟩ := Option.bind_eq_some_iff.mp class?
    have drawn := filled_mem_variantsAll value variants scope
    rw [given, Option.map_some, Option.any_some]
    split at agreed
    · rename_i all
      rw [← Option.some.inj agreed]
      exact List.all_eq_true.mp all _ drawn
    · split at agreed
      · rename_i none
        rw [← Option.some.inj agreed]
        simpa using List.all_eq_true.mp none _ drawn
      · cases agreed

def gives (name : String) (source : Expr) (inside : List Node) : Bool :=
  (attributes? inside).any fun found => (found.lookup name.toList).any (nodesAgree · [.value true source])

theorem attribute?_of_gives {name : String} {source : Expr} {inside : List Node}
    (given : gives name source inside) (scope : Scope) :
    (attribute? name (filled inside scope)).map String.ofList = some (source.shown scope) := by
  obtain ⟨found, known, any⟩ := (Option.any_eq_true _ _).mp given
  obtain ⟨value, listed, agrees⟩ := (Option.any_eq_true _ _).mp any
  rw [attribute?_filled known, listed, eq_of_nodesAgree value _ agrees]
  rfl

/-- Whether a tag names a class just if a test holds. -/
def switches (name : String) (test : Expr) (inside : List Node) : Bool :=
  (attributes? inside).any fun found =>
    match found.lookup "class".toList with
    | some [.text always, .block "if" [own] [.text more] []] =>
      own.agrees test && names (unescape (always ++ more)) name && !names (unescape always) name
    | _ => false

theorem hasClass_of_switches {name : String} {test : Expr} {inside : List Node}
    (switched : switches name test inside) (scope : Scope) :
    hasClass name (filled inside scope) = test.passes scope := by
  obtain ⟨found, known, listed⟩ := (Option.any_eq_true _ _).mp switched
  split at listed
  · rename_i always own more given
    simp only [Bool.and_eq_true, Bool.not_eq_true'] at listed
    obtain ⟨⟨same, on⟩, off⟩ := listed
    have drawn : filled [.text always, .block "if" [test] [.text more] []] scope =
        if test.passes scope then always ++ more else always := by
      have nothing (scope : Scope) : stretchesAll [] scope = [] := rfl
      rw [filled_cons, filled_text, filled_block, inBlock_if test _ nothing]
      split
      · exact congrArg (always ++ ·) (filled_text more scope)
      · exact List.append_nil always
    rw [hasClass, attribute?_filled known, given, own.eq_of_agrees test same, Option.map_some, Option.any_some,
      drawn]
    cases test.passes scope with
    | true => exact on
    | false => exact off
  · cases listed

end Attributes

end PageSketch.Template
