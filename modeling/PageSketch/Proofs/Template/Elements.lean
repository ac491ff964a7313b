import PageSketch.Proofs.Template.Attributes

/-! The elements of a filled template, found in the template itself: each is drawn each time that the blocks
around it are. -/
namespace PageSketch.Template

open Markup

/-- An element: what its tag is made of, and what stands between the tags. -/
structure Element where
  inside : List Node
  between : List (Outline Snippet)

def Element.made (element : Element) (scope : Scope) : Text × List Token :=
  (filled element.inside scope, tokensAll element.between scope)

section Elements

mutual

/-- Whether no tag of an outline closes elements, whatever is inserted. -/
def Outline.isApart (closing : Text) : Outline Snippet → Bool
  | .part (.content _) => true
  | .part (.tag inside) => isTag? closing inside == some false
  | .block _ _ body otherwise => areApart closing body && areApart closing otherwise

def areApart (closing : Text) : List (Outline Snippet) → Bool
  | [] => true
  | first :: rest => first.isApart closing && areApart closing rest

end

/-- Whether an outline is a closing tag. -/
def Outline.isClosing (closing : Text) : Outline Snippet → Bool
  | .part (.tag inside) => isTag? closing inside == some true
  | .part (.content _) | .block _ _ _ _ => false

/-- The outlines before the next closing tag, if there surely is one and none before it. -/
def before? (closing : Text) : List (Outline Snippet) → Option (List (Outline Snippet))
  | [] => none
  | first :: rest =>
    if first.isClosing closing then some []
    else if first.isApart closing then (before? closing rest).map (first :: ·)
    else none

mutual

/-- The elements of an outline in front of others, with the blocks around them, and those of the others. -/
def Outline.elements? (opens? : List Node → Option Bool) (closing : Text) (rest : List (Outline Snippet))
    (others : List (Outline Element)) : Outline Snippet → Option (List (Outline Element))
  | .part (.content _) => some others
  | .part (.tag inside) =>
    match opens? inside with
    | some true => (before? closing rest).map fun between => .part ⟨inside, between⟩ :: others
    | some false => some others
    | none => none
  | .block name args body otherwise => do
    let inBody ← elementsAll? opens? closing body
    let inOtherwise ← elementsAll? opens? closing otherwise
    if inBody.isEmpty && inOtherwise.isEmpty then some others
    else some (.block name args inBody inOtherwise :: others)

/-- The elements of outlines, with the blocks around them. An element is closed where it is opened. -/
def elementsAll? (opens? : List Node → Option Bool) (closing : Text) :
    List (Outline Snippet) → Option (List (Outline Element))
  | [] => some []
  | first :: rest => do
    let others ← elementsAll? opens? closing rest
    first.elements? opens? closing rest others

end

variable {closing : Text}

mutual

private theorem Outline.notMem_of_isApart (outline : Outline Snippet) (apart : outline.isApart closing)
    (scope : Scope) :
    .tag closing ∉ tokensAll [outline] scope := by
  match outline with
  | .part (.content node) =>
    rw [tokensAll_part, Snippet.tokens]
    simp
  | .part (.tag inside) =>
    have other := decides_isTag? closing inside false (by simpa [Outline.isApart] using apart) scope
    rw [tokensAll_part, Snippet.tokens, List.mem_singleton, Token.tag.injEq]
    exact Ne.symm (by simpa using other)
  | .block name args body otherwise =>
    simp only [Outline.isApart, Bool.and_eq_true] at apart
    rw [tokensAll_block]
    refine inBlock_keeps (fun parts => Token.tag closing ∉ parts.flatten) List.not_mem_nil ?_
      (notMem_of_areApart body apart.1) (notMem_of_areApart otherwise apart.2) name args scope
    intro own rest absent later
    rw [List.flatten_append, List.mem_append, not_or]
    exact ⟨absent, later⟩

private theorem notMem_of_areApart (outlines : List (Outline Snippet)) (apart : areApart closing outlines)
    (scope : Scope) : .tag closing ∉ tokensAll outlines scope := by
  match outlines with
  | [] => exact List.not_mem_nil
  | first :: rest =>
    simp only [areApart, Bool.and_eq_true] at apart
    rw [tokensAll_cons, List.mem_append, not_or]
    exact ⟨first.notMem_of_isApart apart.1 scope, notMem_of_areApart rest apart.2 scope⟩

end

private theorem Outline.tokens_of_isClosing (outline : Outline Snippet) (closes : outline.isClosing closing)
    (scope : Scope) : tokensAll [outline] scope = [.tag closing] := by
  unfold Outline.isClosing at closes
  split at closes
  · rename_i inside
    have same := decides_isTag? closing inside true (eq_of_beq closes) scope
    rw [tokensAll_part, Snippet.tokens, eq_of_beq same]
  · cases closes
  · cases closes

private theorem exists_tokens_before {outlines between : List (Outline Snippet)}
    (found : before? closing outlines = some between) (scope : Scope) :
    ∃ rest, tokensAll outlines scope = tokensAll between scope ++ .tag closing :: rest ∧
      .tag closing ∉ tokensAll between scope := by
  induction outlines generalizing between with
  | nil => cases found
  | cons first rest ih =>
    rw [before?] at found
    split at found
    · rename_i closes
      obtain rfl := Option.some.inj found
      refine ⟨tokensAll rest scope, ?_, List.not_mem_nil⟩
      rw [tokensAll_cons, first.tokens_of_isClosing closes]
      rfl
    · split at found
      · rename_i apart
        obtain ⟨others, ofRest, rfl⟩ := Option.map_eq_some_iff.mp found
        obtain ⟨more, same, absent⟩ := ih ofRest
        refine ⟨more, ?_, ?_⟩
        · rw [tokensAll_cons, same, tokensAll_cons first others, List.append_assoc]
        · rw [tokensAll_cons, List.mem_append, not_or]
          exact ⟨first.notMem_of_isApart apart scope, absent⟩
      · cases found

variable {opens? : List Node → Option Bool} {opens : Text → Bool}

/-- Tokens have these elements, and none of them reaches into what follows. -/
def Draws (opens : Text → Bool) (closing : Text) (tokens : List Token) (drawn : List (Text × List Token)) :
    Prop :=
  elements opens closing tokens = drawn ∧ closes opens closing tokens

theorem Draws.append {first second : List Token} {drawn more : List (Text × List Token)}
    (before : Draws opens closing first drawn) (after : Draws opens closing second more) :
    Draws opens closing (first ++ second) (drawn ++ more) :=
  ⟨by rw [elements_append before.2, before.1, after.1], closes_append before.2 after.2⟩

private theorem draws_characters (text : Text) : Draws opens closing (text.map .char) [] := by
  constructor
  · rw [← List.append_nil (text.map _), elements_characters]
    rfl
  · rw [← List.append_nil (text.map _), closes_characters]
    rfl

private theorem draws_other {inside : Text} (other : opens inside = false) : Draws opens closing [.tag inside] [] := by
  simp [Draws, elements, closes, other]

private theorem draws_cons {inside : Text} (opened : opens inside = true) {between rest : List Token}
    (absent : .tag closing ∉ between) {drawn : List (Text × List Token)}
    (after : Draws opens closing (between ++ .tag closing :: rest) drawn) :
    Draws opens closing (.tag inside :: (between ++ .tag closing :: rest)) ((inside, between) :: drawn) := by
  have stops : (between ++ .tag closing :: rest).takeWhile (· ≠ .tag closing) = between := by
    rw [List.takeWhile_append_of_pos, List.takeWhile_cons_of_neg (by simp), List.append_nil]
    intro token member
    rw [decide_eq_true_eq]
    rintro rfl
    exact absent member
  constructor
  · rw [elements, if_pos opened, stops, after.1]
  · simp [closes, after.2]

mutual

private theorem Outline.draws_elements (decides : Decides opens? opens) (outline : Outline Snippet)
    {rest : List (Outline Snippet)} {others found : List (Outline Element)} {scope : Scope}
    (later : Draws opens closing (tokensAll rest scope) (madeAll Element.made others scope))
    (searched : outline.elements? opens? closing rest others = some found) :
    Draws opens closing (tokensAll (outline :: rest) scope) (madeAll Element.made found scope) := by
  rw [tokensAll_cons]
  match outline with
  | .part (.content node) =>
    obtain rfl := Option.some.inj searched
    rw [tokensAll_part, Snippet.tokens]
    exact (draws_characters _).append later
  | .part (.tag inside) =>
    rw [tokensAll_part, Snippet.tokens]
    simp only [Outline.elements?] at searched
    split at searched
    · rename_i opened
      obtain ⟨between, closed, rfl⟩ := Option.map_eq_some_iff.mp searched
      -- What stands behind the tag is drawn up to the closing tag and further, so its own elements are known.
      obtain ⟨more, same, absent⟩ := exists_tokens_before closed scope
      rw [same] at later ⊢
      exact draws_cons (decides inside true opened scope) absent later
    · rename_i other
      obtain rfl := Option.some.inj searched
      exact (draws_other (decides inside false other scope)).append later
    · cases searched
  | .block name args body otherwise =>
    simp only [Outline.elements?, Option.bind_eq_bind, Option.bind_eq_some_iff] at searched
    obtain ⟨inBody, ofBody, inOtherwise, ofOtherwise, same⟩ := searched
    have inside : Draws opens closing (tokensAll [.block name args body otherwise] scope)
        (inBlock name args (madeAll Element.made inBody) (madeAll Element.made inOtherwise) scope) := by
      rw [tokensAll_block]
      refine inBlock_rel (fun parts drawn => Draws opens closing parts.flatten drawn) ⟨rfl, rfl⟩ ?_
        (fun scope => draws_elementsAll decides body ofBody scope)
        (fun scope => draws_elementsAll decides otherwise ofOtherwise scope) name args scope
      intro left right lefts rights first after
      rw [List.flatten_append]
      exact first.append after
    -- Blocks around no elements are left out of what is found.
    have whole := inside.append later
    split at same
    · rename_i empty
      obtain rfl := Option.some.inj same
      simp only [Bool.and_eq_true, List.isEmpty_iff] at empty
      rw [empty.1, empty.2] at whole
      have nothing : inBlock name args (madeAll Element.made []) (madeAll Element.made []) scope = [] :=
        inBlock_nil name args scope
      rwa [nothing] at whole
    · obtain rfl := Option.some.inj same
      exact whole

/-- What a template draws has the elements of the template, each time that the blocks around it are drawn. -/
theorem draws_elementsAll (decides : Decides opens? opens) (outlines : List (Outline Snippet))
    {found : List (Outline Element)} (searched : elementsAll? opens? closing outlines = some found)
    (scope : Scope) : Draws opens closing (tokensAll outlines scope) (madeAll Element.made found scope) := by
  match outlines with
  | [] =>
    obtain rfl := Option.some.inj searched
    exact ⟨rfl, rfl⟩
  | first :: rest =>
    simp only [elementsAll?, Option.bind_eq_bind, Option.bind_eq_some_iff] at searched
    obtain ⟨others, ofRest, ofFirst⟩ := searched
    exact first.draws_elements decides (draws_elementsAll decides rest ofRest scope) ofFirst

end

/-- Whether an outline has elements that fit what is expected, in the blocks that are expected. -/
def finds {Other : Type} (opens? : List Node → Option Bool) (closing : Text) (same : Element → Other → Bool)
    (expected : List (Outline Other)) (outlines : List (Outline Snippet)) : Bool :=
  (elementsAll? opens? closing outlines).any fun found => fitsAll same found expected

/-- What is read of the elements of a filled template is made by what is expected of them. -/
theorem map_elements_of_finds (decides : Decides opens? opens) {Other Result : Type}
    {same : Element → Other → Bool} {expected : List (Outline Other)} {outlines : List (Outline Snippet)}
    (found : finds opens? closing same expected outlines) {read : Text × List Token → Result}
    {make : Other → Scope → Result}
    (equal : ∀ element other, same element other → ∀ scope, read (element.made scope) = make other scope)
    (scope : Scope) :
    (elements opens closing (tokensAll outlines scope)).map read = madeAll make expected scope := by
  obtain ⟨elements, searched, fit⟩ := (Option.any_eq_true _ _).mp found
  have made : madeAll (fun element scope => read (element.made scope)) elements = madeAll make expected :=
    madeAll_eq_of_fitsAll (fun element other fits => funext (equal element other fits)) elements expected fit
  rw [(draws_elementsAll decides outlines searched scope).1, map_madeAll, made]

end Elements

section Values

def areValue (source : Expr) : List (Outline Snippet) → Bool
  | [.part (.content (.value true own))] => own.agrees source
  | _ => false

theorem shown_of_areValue {outlines : List (Outline Snippet)} {source : Expr} (value : areValue source outlines)
    (scope : Scope) : Markup.shown (tokensAll outlines scope) = source.shown scope := by
  unfold areValue at value
  split at value
  · rename_i own
    rw [own.eq_of_agrees source value, tokensAll_part, Snippet.tokens, shown_characters]
    rfl
  · cases value

/-- Whether an outline has elements of a name around what is expected, in the blocks that are expected. -/
def holds {Other : Type} (name : String) (same : Other → List (Outline Snippet) → Bool)
    (expected : List (Outline Other)) (outlines : List (Outline Snippet)) : Bool :=
  finds (isTag? name.toList) ('/' :: name.toList) (fun element other => same other element.between) expected
    outlines

/-- What stands in the elements of a name is made by what is expected in them. -/
theorem map_within_of_holds {name : String} {Other Result : Type} {same : Other → List (Outline Snippet) → Bool}
    {expected : List (Outline Other)} {outlines : List (Outline Snippet)}
    (found : holds name same expected outlines) {read : List Token → Result} {make : Other → Scope → Result}
    (equal : ∀ other between, same other between → ∀ scope, read (tokensAll between scope) = make other scope)
    (scope : Scope) : (within name (tokensAll outlines scope)).map read = madeAll make expected scope := by
  rw [within, List.map_map]
  exact map_elements_of_finds (decides_isTag? _) found (fun element other => equal other element.between) scope

end Values

end PageSketch.Template
