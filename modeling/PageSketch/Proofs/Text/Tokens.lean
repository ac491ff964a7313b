import PageSketch.Proofs.Text.Marks
import PageSketch.Proofs.Text.Words

/-! Texts read as markup: tags, what they say of classes and other attributes, and what stands between them.
Escaped text is read as nothing but characters, and reading undoes the escapes. -/
namespace PageSketch.Markup

/-- A tag, by what stands between its angle brackets, or a character outside of all tags. -/
inductive Token where
  | tag (inside : Text)
  | char (char : Char)
  deriving DecidableEq

/-- The token as it is written. -/
def Token.written : Token → Text
  | .tag inside => '<' :: inside ++ ['>']
  | .char own => [own]

/-- The tokens of a text that goes on outside of all tags or inside one, whose beginning is kept backwards.
What is not closed at the end is no tag. -/
def tokensFrom : (inside : Option Text) → Text → List Token
  | _, [] => []
  | none, first :: rest =>
    if first = '<' then tokensFrom (some []) rest else .char first :: tokensFrom none rest
  | some inside, first :: rest =>
    if first = '>' then .tag inside.reverse :: tokensFrom none rest
    else tokensFrom (some (first :: inside)) rest

def tokens (text : Text) : List Token := tokensFrom none text

/-- What stands from each tag that opens an element to the next one that closes it: what the tag says, and the
tokens behind it. -/
def elements (opens : Text → Bool) (closing : Text) : List Token → List (Text × List Token)
  | [] => []
  | .char _ :: rest => elements opens closing rest
  | .tag inside :: rest =>
    if opens inside then
      (inside, rest.takeWhile (· ≠ .tag closing)) :: elements opens closing rest
    else elements opens closing rest

def tags (opens : Text → Bool) : List Token → List Text
  | [] => []
  | .char _ :: rest => tags opens rest
  | .tag inside :: rest => if opens inside then inside :: tags opens rest else tags opens rest

/-- What stands in each element of a name whose tags say nothing else. -/
def within (name : String) (tokens : List Token) : List (List Token) :=
  (elements (· == name.toList) ('/' :: name.toList) tokens).map Prod.snd

/-- The text that escaped text stands for. -/
def unescape : Text → Text
  | '&' :: 'a' :: 'm' :: 'p' :: ';' :: rest => '&' :: unescape rest
  | '&' :: 'l' :: 't' :: ';' :: rest => '<' :: unescape rest
  | '&' :: 'g' :: 't' :: ';' :: rest => '>' :: unescape rest
  | '&' :: 'q' :: 'u' :: 'o' :: 't' :: ';' :: rest => '"' :: unescape rest
  | '&' :: '#' :: 'x' :: '2' :: '7' :: ';' :: rest => '\'' :: unescape rest
  | '&' :: '#' :: 'x' :: '6' :: '0' :: ';' :: rest => '\x60' :: unescape rest
  | '&' :: '#' :: 'x' :: '3' :: 'D' :: ';' :: rest => '=' :: unescape rest
  | first :: rest => first :: unescape rest
  | [] => []

/-- What tokens show: their text, with the escapes undone. -/
def shown (tokens : List Token) : String := String.ofList (unescape (tokens.flatMap Token.written))

/-- The name of an attribute: the last word before the equals sign. -/
def attributeName (label : Text) : Text := ((Text.words (label.takeWhile (· ≠ '='))).getLast?).getD []

/-- The attributes among pieces of a tag, which are in turn outside and inside of quotes. -/
def attributesOf : List Text → List (Text × Text)
  | label :: value :: rest => (attributeName label, unescape value) :: attributesOf rest
  | _ => []

/-- The attributes that a tag gives values in double quotes, in order. -/
def attributes (inside : Text) : List (Text × Text) := attributesOf (Text.pieces (· = '"') inside)

def attribute? (name : String) (inside : Text) : Option Text := (attributes inside).lookup name.toList

def names (value : Text) (name : String) : Bool := (Text.words value).contains name.toList

def hasClass (name : String) (inside : Text) : Bool := (attribute? "class" inside).any (names · name)

section Reading

private theorem unescape_cons {first : Char} (plain : first ≠ '&') (rest : Text) :
    unescape (first :: rest) = first :: unescape rest := by
  conv_lhs => unfold unescape
  split <;> simp_all

private theorem unescape_escapeChar (char : Char) (rest : Text) :
    unescape (Template.escapeChar char ++ rest) = char :: unescape rest := by
  unfold Template.escapeChar
  split
  case h_8 noAmp _ _ _ _ _ _ => exact unescape_cons (by simpa using noAmp) rest
  all_goals rfl

theorem unescape_escape (text : Text) : unescape (Template.escape text) = text := by
  induction text with
  | nil => rfl
  | cons first rest ih =>
    rw [Template.escape, List.flatMap_cons, unescape_escapeChar, ← Template.escape, ih]

/-- Escaped text has none of the characters that open and close tags and quotes. -/
theorem ne_of_mem_escape {text : Text} {char : Char} (member : char ∈ Template.escape text) {mark : Char}
    (isMark : Text.isMark mark = true) : char ≠ mark := by
  rintro rfl
  rw [Text.marks_eq_nil_iff.mp (Text.marks_escape text) char member] at isMark
  cases isMark

theorem shown_characters (text : Text) : shown (text.map .char) = String.ofList (unescape text) := by
  have written : (text.map Token.char).flatMap Token.written = text := by
    rw [List.flatMap_map]
    exact List.flatMap_singleton' text
  rw [shown, written]

theorem tokensFrom_outside {text : Text} (plain : '<' ∉ text) (rest : Text) :
    tokensFrom none (text ++ rest) = text.map .char ++ tokensFrom none rest := by
  induction text with
  | nil => rfl
  | cons first others ih =>
    obtain ⟨own, absent⟩ := not_or.mp (List.mem_cons.not.mp plain)
    rw [List.cons_append, tokensFrom, if_neg (Ne.symm own), ih absent]
    rfl

theorem tokensFrom_inside {text : Text} (plain : '>' ∉ text) (inside rest : Text) :
    tokensFrom (some inside) (text ++ rest) = tokensFrom (some (text.reverse ++ inside)) rest := by
  induction text generalizing inside with
  | nil => rfl
  | cons first others ih =>
    obtain ⟨own, absent⟩ := not_or.mp (List.mem_cons.not.mp plain)
    rw [List.cons_append, tokensFrom, if_neg (Ne.symm own), ih absent, List.reverse_cons, List.append_assoc,
      List.singleton_append]

end Reading

section Elements

variable {opens : Text → Bool} {closing : Text}

/-- Whether each tag that opens an element has one behind it that closes it. -/
def closes (opens : Text → Bool) (closing : Text) : List Token → Bool
  | [] => true
  | .char _ :: rest => closes opens closing rest
  | .tag inside :: rest => (!opens inside || rest.contains (.tag closing)) && closes opens closing rest

theorem map_fst_elements (opens : Text → Bool) (closing : Text) (tokens : List Token) :
    (elements opens closing tokens).map Prod.fst = tags opens tokens := by
  fun_induction tags opens tokens with
  | case1 => rfl
  | case2 char rest ih => exact ih
  | case3 inside rest opened ih => rw [elements, if_pos opened, List.map_cons, ih]
  | case4 inside rest other ih => rw [elements, if_neg other, ih]

@[simp]
theorem elements_characters (text : Text) (rest : List Token) :
    elements opens closing (text.map .char ++ rest) = elements opens closing rest := by
  induction text with
  | nil => rfl
  | cons first others ih => exact ih

@[simp]
theorem closes_characters (text : Text) (rest : List Token) :
    closes opens closing (text.map .char ++ rest) = closes opens closing rest := by
  induction text with
  | nil => rfl
  | cons first others ih => exact ih

theorem elements_append {before : List Token} (closed : closes opens closing before) (after : List Token) :
    elements opens closing (before ++ after) =
      elements opens closing before ++ elements opens closing after := by
  induction before with
  | nil => rfl
  | cons token rest ih =>
    cases token with
    | char => exact ih closed
    | tag inside =>
      simp only [closes, Bool.and_eq_true] at closed
      rw [List.cons_append, elements, elements, ih closed.2]
      cases opened : opens inside with
      | false => rfl
      | true =>
        have ends : Token.tag closing ∈ rest := by simpa [opened] using closed.1
        have same : (rest ++ after).takeWhile (· ≠ .tag closing) = rest.takeWhile (· ≠ .tag closing) := by
          rw [List.takeWhile_append, if_neg]
          intro whole
          have all := List.takeWhile_eq_self_iff.mp (List.takeWhile_prefix _ |>.eq_of_length whole)
          simpa using all _ ends
        rw [if_pos rfl, if_pos rfl, same, List.cons_append]

theorem closes_append {before after : List Token} (first : closes opens closing before)
    (second : closes opens closing after) : closes opens closing (before ++ after) := by
  induction before with
  | nil => exact second
  | cons token rest ih =>
    cases token with
    | char => exact ih first
    | tag inside =>
      simp only [closes, Bool.and_eq_true, List.cons_append] at first ⊢
      refine ⟨?_, ih first.2⟩
      cases opened : opens inside with
      | false => rfl
      | true =>
        have ends : Token.tag closing ∈ rest := by simpa [opened] using first.1
        simp [ends]

end Elements

end PageSketch.Markup
