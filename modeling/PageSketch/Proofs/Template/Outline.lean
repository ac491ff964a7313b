import PageSketch.Proofs.Template.Verbatim
import PageSketch.Proofs.Text.Tokens
import PageSketch.Template.Parser

/-! The markup of a template: its tags, what stands between them, and the blocks around both. A filled template
has these tags and no others, whatever is inserted, as long as what is inserted is escaped. -/
namespace PageSketch.Template

open Markup

/-- Parts of a template with the blocks around them. -/
inductive Outline (Part : Type) where
  | part (own : Part)
  | block (name : String) (args : List Expr) (body otherwise : List (Outline Part))

section Outlines

variable {Part Other Result : Type}

mutual

/-- What the parts of an outline make at their places, in order. -/
def Outline.made (make : Part → Scope → Result) : Outline Part → Scope → List Result
  | .part own, scope => [make own scope]
  | .block name args body otherwise, scope =>
    inBlock name args (madeAll make body) (madeAll make otherwise) scope

/-- What the parts of several outlines make, one after the other. -/
def madeAll (make : Part → Scope → Result) : List (Outline Part) → Scope → List Result
  | [], _ => []
  | first :: rest, scope => first.made make scope ++ madeAll make rest scope

end

mutual

/-- Whether two outlines have the same blocks around parts that fit each other. -/
def Outline.fits (same : Part → Other → Bool) : Outline Part → Outline Other → Bool
  | .part own, .part other => same own other
  | .block name args body otherwise, .block name' args' body' otherwise' =>
    name == name' && argsAgree args args' && fitsAll same body body' && fitsAll same otherwise otherwise'
  | _, _ => false

def fitsAll (same : Part → Other → Bool) : List (Outline Part) → List (Outline Other) → Bool
  | [], [] => true
  | first :: rest, first' :: rest' => first.fits same first' && fitsAll same rest rest'
  | _, _ => false

end

variable {make : Part → Scope → Result} {make' : Other → Scope → Result} {same : Part → Other → Bool}

mutual

private theorem Outline.made_eq_of_fits (equal : ∀ own other, same own other → make own = make' other)
    (outline : Outline Part) (expected : Outline Other) (fit : outline.fits same expected) :
    outline.made make = expected.made make' := by
  match outline, expected with
  | .part own, .part other =>
    funext scope
    rw [Outline.made, Outline.made, equal own other fit]
  | .block name args body otherwise, .block name' args' body' otherwise' =>
    simp only [Outline.fits, Bool.and_eq_true, beq_iff_eq] at fit
    obtain ⟨⟨⟨sameName, sameArgs⟩, bodies⟩, others⟩ := fit
    funext scope
    rw [Outline.made, Outline.made, sameName, eq_of_argsAgree args args' sameArgs,
      madeAll_eq_of_fitsAll equal body body' bodies, madeAll_eq_of_fitsAll equal otherwise otherwise' others]

/-- Outlines with parts that make the same make the same. -/
theorem madeAll_eq_of_fitsAll (equal : ∀ own other, same own other → make own = make' other)
    (outlines : List (Outline Part)) (expected : List (Outline Other)) (fit : fitsAll same outlines expected) :
    madeAll make outlines = madeAll make' expected := by
  match outlines, expected with
  | [], [] => rfl
  | first :: rest, first' :: rest' =>
    simp only [fitsAll, Bool.and_eq_true] at fit
    funext scope
    rw [madeAll, madeAll, Outline.made_eq_of_fits equal first first' fit.1,
      madeAll_eq_of_fitsAll equal rest rest' fit.2]

end

private theorem madeAll_append (make : Part → Scope → Result) (first second : List (Outline Part)) (scope : Scope) :
    madeAll make (first ++ second) scope = madeAll make first scope ++ madeAll make second scope := by
  induction first with
  | nil => rfl
  | cons outline rest ih => rw [List.cons_append, madeAll, madeAll, ih, List.append_assoc]

mutual

private theorem Outline.map_made {Read : Type} (read : Result → Read) (outline : Outline Part) (scope : Scope) :
    (outline.made make scope).map read = outline.made (fun own scope => read (make own scope)) scope := by
  match outline with
  | .part own => rfl
  | .block name args body otherwise =>
    refine inBlock_rel (fun made expected => made.map read = expected) rfl ?_ (map_madeAll read body)
      (map_madeAll read otherwise) name args scope
    intro own others expected more first rest
    rw [List.map_append, first, rest]

theorem map_madeAll {Read : Type} (read : Result → Read) (outlines : List (Outline Part)) (scope : Scope) :
    (madeAll make outlines scope).map read = madeAll (fun own scope => read (make own scope)) outlines scope := by
  match outlines with
  | [] => rfl
  | first :: rest => rw [madeAll, madeAll, List.map_append, first.map_made read, map_madeAll read rest]

end

/-- A loop over an array makes its part once for each value, at the place of the value. -/
theorem madeAll_each {Value : Type} {encode : Value → Json} {values : List Value} {arg : Expr} {scope : Scope}
    (found : arg.eval scope = .ok (some (.array (values.map encode)))) (own : Part) :
    madeAll make [.block "each" [arg] [.part own] []] scope = values.mapIdx fun index value =>
      make own (scope.enter ⟨encode value, ("index", .number index) :: loopFacts index values.length⟩) := by
  have body (scope : Scope) : madeAll make [.part own] scope = [make own scope] := rfl
  have nothing (scope : Scope) : madeAll make [] scope = [] := rfl
  rw [madeAll, madeAll, List.append_nil, Outline.made, inBlock_loop rfl found nothing, Option.getD_some, rounds]
  simp only [body, ← List.map_eq_flatMap]
  apply List.ext_getElem
  · simp
  · intro index _ _
    simp

/-- The place of a value does not matter to a part that does not ask for it. -/
theorem madeAll_each_value {Value : Type} {encode : Value → Json} {values : List Value} {arg : Expr}
    {scope : Scope} (found : arg.eval scope = .ok (some (.array (values.map encode)))) {own : Part}
    {made : Value → Result} (same : ∀ value loop, make own (scope.enter ⟨encode value, loop⟩) = made value) :
    madeAll make [.block "each" [arg] [.part own] []] scope = values.map made := by
  rw [madeAll_each found]
  simp only [same]
  apply List.ext_getElem
  · simp
  · intro index _ _
    simp

theorem madeAll_if (make : Part → Scope → Result) (test : Expr)
    (body : List (Outline Part)) (scope : Scope) :
    madeAll make [.block "if" [test] body []] scope =
      if test.passes scope then madeAll make body scope else [] := by
  have nothing (scope : Scope) : madeAll make [] scope = [] := rfl
  rw [madeAll, madeAll, List.append_nil, Outline.made, inBlock_if test _ nothing]

end Outlines

/-- The text of parts of a template that suit their data. -/
def filled (nodes : List Node) (scope : Scope) : Text := textOf (stretchesAll nodes scope)

/-- A part of a template read as markup. -/
inductive Snippet where
  /-- A tag, made of these parts. -/
  | tag (inside : List Node)
  /-- Text or a value outside of all tags. -/
  | content (node : Node)

def Snippet.tokens : Snippet → Scope → List Token
  | .tag inside, scope => [.tag (filled inside scope)]
  | .content node, scope => (filled [node] scope).map .char

def tokensAll (outline : List (Outline Snippet)) (scope : Scope) : List Token :=
  (madeAll Snippet.tokens outline scope).flatten

/-- Text of the template as a part, unless it is empty. -/
def ownText (text : Text) : List Node := if text.isEmpty then [] else [.text text]

def contents (text : Text) : List (Outline Snippet) := ((ownText text).map Snippet.content).map .part

/-- The outline of a text of the template that goes on outside of all tags or in a tag with these parts, after
what was read of it, which is kept backwards; and the parts of the tag that it ends in. -/
def outlineText : (inside : Option (List Node)) → (begun : Text) → Text →
    List (Outline Snippet) × Option (List Node)
  | none, begun, [] => (contents begun.reverse, none)
  | some nodes, begun, [] => ([], some (nodes ++ ownText begun.reverse))
  | none, begun, first :: rest =>
    if first = '<' then
      let (found, after) := outlineText (some []) [] rest
      (contents begun.reverse ++ found, after)
    else outlineText none (first :: begun) rest
  | some nodes, begun, first :: rest =>
    if first = '>' then
      let (found, after) := outlineText none [] rest
      (.part (.tag (nodes ++ ownText begun.reverse)) :: found, after)
    else outlineText (some nodes) (first :: begun) rest

mutual

/-- Whether a part of a template never has the mark in it, whatever is inserted. -/
def Node.lacks (mark : Char) : Node → Bool
  | .text text => !text.contains mark
  | .value escaped _ => escaped
  | .call _ _ _ => false
  | .block _ _ body otherwise => lackAll mark body && lackAll mark otherwise
  | .placed _ node => node.lacks mark

def lackAll (mark : Char) : List Node → Bool
  | [] => true
  | first :: rest => first.lacks mark && lackAll mark rest

end

mutual

/-- The outline of a part of a template behind the parts of a tag that it goes on with, if it goes on with one.
A block stands inside a tag or around whole tags. -/
def Node.outline? (inside : Option (List Node)) : Node → Option (List (Outline Snippet) × Option (List Node))
  | .text text => some (outlineText inside [] text)
  | .value true source =>
    match inside with
    | none => some ([.part (.content (.value true source))], none)
    | some nodes => some ([], some (nodes ++ [.value true source]))
  | .value false _ => none
  | .call _ _ _ => none
  | .block name args body otherwise =>
    match inside with
    | none =>
      match outlineAll? none body, outlineAll? none otherwise with
      | some (inBody, none), some (inOtherwise, none) =>
        some ([.block name args inBody inOtherwise], none)
      | _, _ => none
    | some nodes =>
      if lackAll '>' body && lackAll '>' otherwise then
        some ([], some (nodes ++ [.block name args body otherwise]))
      else none
  | .placed _ node => node.outline? inside

/-- The outline of parts of a template, one after the other. -/
def outlineAll? (inside : Option (List Node)) :
    List Node → Option (List (Outline Snippet) × Option (List Node))
  | [] => some ([], inside)
  | first :: rest => do
    let (found, after) ← first.outline? inside
    let (more, final) ← outlineAll? after rest
    return (found ++ more, final)

end

def outlined? (template : Template) : Option (List (Outline Snippet)) :=
  (outlineAll? none template).bind fun (found, inside) => if inside.isNone then some found else none

section Filling

variable {scope : Scope}

@[simp]
theorem filled_nil (scope : Scope) : filled [] scope = [] := rfl

theorem filled_append (first second : List Node) (scope : Scope) :
    filled (first ++ second) scope = filled first scope ++ filled second scope := by
  rw [filled, stretchesAll_append, textOf_append]
  rfl

theorem filled_cons (first : Node) (rest : List Node) (scope : Scope) :
    filled (first :: rest) scope = filled [first] scope ++ filled rest scope :=
  filled_append [first] rest scope

private theorem filled_singleton (node : Node) (scope : Scope) :
    filled [node] scope = textOf (node.stretches scope) := by
  rw [filled, stretchesAll_singleton]

@[simp]
theorem filled_text (text : Text) (scope : Scope) : filled [.text text] scope = text := by
  rw [filled_singleton, Node.stretches]
  exact List.append_nil text

@[simp]
theorem filled_ownText (text : Text) (scope : Scope) : filled (ownText text) scope = text := by
  cases text with
  | nil => rfl
  | cons first rest => exact filled_text _ scope

/-- A value is escaped where it is inserted; nothing is inserted when the data lack it. -/
theorem filled_value {source : Expr} {value : Option Json} (found : source.eval scope = .ok value) :
    filled [.value true source] scope = escape ((value.map Json.display).getD []) := by
  rw [filled_singleton, Node.stretches, found]
  cases value with
  | none => rfl
  | some value => exact List.append_nil _

theorem filled_block (name : String) (args : List Expr) (body otherwise : List Node) (scope : Scope) :
    filled [.block name args body otherwise] scope =
      textOf (inBlock name args (stretchesAll body) (stretchesAll otherwise) scope) := by
  rw [filled_singleton, Node.stretches_block]

@[simp]
theorem filled_placed (position : Position) (node : Node) (scope : Scope) :
    filled [.placed position node] scope = filled [node] scope := by
  rw [filled_singleton, filled_singleton, Node.stretches]

/-- An escaped value, or nothing when the data lack it. -/
theorem exists_filled_value (source : Expr) (scope : Scope) :
    ∃ text, filled [.value true source] scope = escape text := by
  rw [filled_singleton, Node.stretches]
  split
  · exact ⟨_, List.append_nil _⟩
  · exact ⟨[], rfl⟩

private theorem notMem_filled_value {mark : Char} (isMark : Text.isMark mark = true) (source : Expr) (scope : Scope) :
    mark ∉ filled [.value true source] scope := by
  obtain ⟨text, same⟩ := exists_filled_value source scope
  rw [same]
  exact fun member => ne_of_mem_escape member isMark rfl

mutual

theorem Node.notMem_of_lacks {mark : Char} (isMark : Text.isMark mark = true) (node : Node)
    (lacks : node.lacks mark) (scope : Scope) : mark ∉ filled [node] scope := by
  match node with
  | .text text =>
    rw [filled_text]
    simpa [Node.lacks] using lacks
  | .value escaped source =>
    obtain rfl : escaped = true := lacks
    exact notMem_filled_value isMark source scope
  | .block name args body otherwise =>
    simp only [Node.lacks, Bool.and_eq_true] at lacks
    rw [filled_block]
    refine inBlock_keeps (fun stretches => mark ∉ textOf stretches) List.not_mem_nil ?_
      (notMem_of_lackAll isMark body lacks.1) (notMem_of_lackAll isMark otherwise lacks.2) name args scope
    intro first rest absent later
    rw [textOf_append, List.mem_append, not_or]
    exact ⟨absent, later⟩
  | .placed _ node =>
    rw [filled_placed]
    exact node.notMem_of_lacks isMark lacks scope

private theorem notMem_of_lackAll {mark : Char} (isMark : Text.isMark mark = true) (nodes : List Node)
    (lack : lackAll mark nodes) (scope : Scope) : mark ∉ filled nodes scope := by
  match nodes with
  | [] => exact List.not_mem_nil
  | first :: rest =>
    simp only [lackAll, Bool.and_eq_true] at lack
    rw [filled_cons, List.mem_append, not_or]
    exact ⟨first.notMem_of_lacks isMark lack.1 scope, notMem_of_lackAll isMark rest lack.2 scope⟩

end

end Filling

section Reading

variable {scope : Scope}

@[simp]
theorem tokensAll_nil (scope : Scope) : tokensAll [] scope = [] := rfl

private theorem tokensAll_append (first second : List (Outline Snippet)) (scope : Scope) :
    tokensAll (first ++ second) scope = tokensAll first scope ++ tokensAll second scope := by
  rw [tokensAll, madeAll_append, List.flatten_append]
  rfl

theorem tokensAll_cons (first : Outline Snippet) (rest : List (Outline Snippet)) (scope : Scope) :
    tokensAll (first :: rest) scope = tokensAll [first] scope ++ tokensAll rest scope :=
  tokensAll_append [first] rest scope

theorem tokensAll_part (snippet : Snippet) (scope : Scope) :
    tokensAll [.part snippet] scope = snippet.tokens scope := by
  simp [tokensAll, madeAll, Outline.made]

theorem tokensAll_block (name : String) (args : List Expr) (body otherwise : List (Outline Snippet))
    (scope : Scope) :
    tokensAll [.block name args body otherwise] scope =
      (inBlock name args (madeAll Snippet.tokens body) (madeAll Snippet.tokens otherwise) scope).flatten := by
  rw [tokensAll, madeAll, madeAll, List.append_nil, Outline.made]

@[simp]
theorem tokensAll_contents (text : Text) (scope : Scope) :
    tokensAll (contents text) scope = text.map .char := by
  rw [contents, ownText]
  split
  · rename_i empty
    rw [List.isEmpty_iff.mp empty]
    rfl
  · rw [List.map_singleton, List.map_singleton, tokensAll_part, Snippet.tokens, filled_text]

/-- The tokens of a text that goes on outside of all tags or in a tag with these parts, after what was read of
it, which is kept backwards. -/
def readOn (scope : Scope) (begun text : Text) : Option (List Node) → List Token
  | none => begun.reverse.map .char ++ tokensFrom none text
  | some nodes => tokensFrom (some (begun ++ (filled nodes scope).reverse)) text

private theorem readOn_outlineText (scope : Scope) (inside : Option (List Node)) (begun text rest : Text) :
    readOn scope begun (text ++ rest) inside =
      tokensAll (outlineText inside begun text).1 scope ++
        readOn scope [] rest (outlineText inside begun text).2 := by
  induction text generalizing inside begun with
  | nil =>
    cases inside with
    | none => simp [outlineText, readOn]
    | some nodes => simp [outlineText, readOn, filled_append]
  | cons first others ih =>
    cases inside with
    | none =>
      rw [outlineText, List.cons_append]
      by_cases opens : first = '<'
      · have later := ih (some []) []
        rw [if_pos opens, readOn, tokensFrom, if_pos opens]
        rw [readOn, filled_nil] at later
        rw [tokensAll_append, tokensAll_contents, List.append_assoc, ← later]
        rfl
      · have later := ih none (first :: begun)
        rw [if_neg opens, ← later, readOn, readOn, tokensFrom, if_neg opens, List.reverse_cons,
          List.map_append, List.append_assoc]
        rfl
    | some nodes =>
      rw [outlineText, List.cons_append]
      by_cases closes : first = '>'
      · have later := ih none []
        rw [if_pos closes, readOn, tokensFrom, if_pos closes, tokensAll_cons, tokensAll_part, Snippet.tokens,
          filled_append, filled_ownText, List.append_assoc, ← later, readOn]
        simp
      · have later := ih (some nodes) (first :: begun)
        rw [if_neg closes, ← later, readOn, readOn, tokensFrom, if_neg closes]
        rfl

/-- Text that closes no tag goes on with the tag that it stands in. -/
theorem readOn_inside {nodes others : List Node} (plain : '>' ∉ filled others scope) (rest : Text) :
    readOn scope [] (filled others scope ++ rest) (some nodes) =
      readOn scope [] rest (some (nodes ++ others)) := by
  simp only [readOn, tokensFrom_inside plain, filled_append, List.reverse_append, List.nil_append]

mutual

private theorem Node.readOn_outline (node : Node) {inside after : Option (List Node)} {found : List (Outline Snippet)}
    (outlined : node.outline? inside = some (found, after)) (scope : Scope) (rest : Text) :
    readOn scope [] (filled [node] scope ++ rest) inside =
      tokensAll found scope ++ readOn scope [] rest after := by
  match node with
  | .text text =>
    simp only [Node.outline?, Option.some.injEq] at outlined
    have read := readOn_outlineText scope inside [] text rest
    rw [outlined] at read
    rw [filled_text, read]
  | .value true source =>
    cases inside with
    | none =>
      obtain ⟨rfl, rfl⟩ := Prod.mk.inj (Option.some.inj outlined)
      rw [tokensAll_part, Snippet.tokens]
      exact tokensFrom_outside (notMem_filled_value (by decide) source scope) rest
    | some nodes =>
      obtain ⟨rfl, rfl⟩ := Prod.mk.inj (Option.some.inj outlined)
      exact readOn_inside (notMem_filled_value (by decide) source scope) rest
  | .value false _ | .call _ _ _ => simp [Node.outline?] at outlined
  | .block name args body otherwise =>
    cases inside with
    | some nodes =>
      simp only [Node.outline?] at outlined
      split at outlined
      · rename_i lack
        obtain ⟨rfl, rfl⟩ := Prod.mk.inj (Option.some.inj outlined)
        exact readOn_inside (Node.notMem_of_lacks (by decide) (.block name args body otherwise) lack scope) rest
      · cases outlined
    | none =>
      simp only [Node.outline?] at outlined
      split at outlined
      · rename_i inBody inOtherwise bodyOutlined otherwiseOutlined
        obtain ⟨rfl, rfl⟩ := Prod.mk.inj (Option.some.inj outlined)
        rw [filled_block, tokensAll_block]
        -- Outside of all tags the place does not matter to what is read on, so rounds may follow each other.
        refine inBlock_rel (fun stretches (parts : List (List Token)) => ∀ rest,
            tokensFrom none (textOf stretches ++ rest) = parts.flatten ++ tokensFrom none rest)
          (fun _ => rfl) ?_ (readOn_outlineAll body bodyOutlined) (readOn_outlineAll otherwise otherwiseOutlined)
          name args scope rest
        intro left right lefts rights first later rest
        rw [textOf_append, List.append_assoc, first, later, List.flatten_append, List.append_assoc]
      · cases outlined
  | .placed _ node =>
    rw [filled_placed]
    exact node.readOn_outline outlined scope rest

/-- Parts of a template are read as their outline, whatever is inserted. -/
theorem readOn_outlineAll (nodes : List Node) {inside after : Option (List Node)}
    {found : List (Outline Snippet)} (outlined : outlineAll? inside nodes = some (found, after)) (scope : Scope)
    (rest : Text) :
    readOn scope [] (filled nodes scope ++ rest) inside =
      tokensAll found scope ++ readOn scope [] rest after := by
  match nodes with
  | [] =>
    obtain ⟨rfl, rfl⟩ := Prod.mk.inj (Option.some.inj outlined)
    rfl
  | first :: others =>
    simp only [outlineAll?, Option.bind_eq_bind, Option.bind_eq_some_iff] at outlined
    obtain ⟨⟨own, between⟩, ofFirst, ⟨more, final⟩, ofRest, same⟩ := outlined
    obtain ⟨rfl, rfl⟩ := Prod.mk.inj (Option.some.inj same)
    rw [filled_cons, List.append_assoc, first.readOn_outline ofFirst, readOn_outlineAll others ofRest,
      tokensAll_append, List.append_assoc]

end

/-- A filled template is read as its outline. -/
theorem tokens_filled {template : Template} {outline : List (Outline Snippet)}
    (outlined : outlined? template = some outline) (scope : Scope) :
    tokens (filled template scope) = tokensAll outline scope := by
  obtain ⟨⟨found, inside⟩, whole, ended⟩ := Option.bind_eq_some_iff.mp outlined
  cases inside with
  | some nodes => cases ended
  | none =>
    obtain rfl := Option.some.inj ended
    have read := readOn_outlineAll template whole scope []
    simpa [readOn, tokens, tokensFrom] using read

end Reading

end PageSketch.Template
