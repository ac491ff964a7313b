import PageSketch.Text.Blank
import PageSketch.Text.Digit
import PageSketch.Text.WordChar

/-! Text patterns and their matches.

A pattern is data. What it matches at a place is the list of all its matches there, the preferred
one first. A search takes the head of that list at the first place where there is one; it finds it
without making the list. Main statement: the match that it finds is the head. -/
namespace PageSketch

/-- Patterns over characters. Repetition is of single characters only. -/
inductive Pattern where
  /-- The empty text. -/
  | empty
  /-- One of the characters allowed. -/
  | one (allows : Char → Bool)
  /-- Any number of the characters allowed, as many as possible first. -/
  | many (allows : Char → Bool)
  /-- Any number of the characters allowed, as many as there are and no fewer. -/
  | run (allows : Char → Bool)
  /-- One pattern after the other. -/
  | next (first second : Pattern)
  /-- One pattern or, where it does not help, the other. -/
  | either (first second : Pattern)
  /-- A place between a word character and none. -/
  | wordEdge
  /-- The start of the text. -/
  | textStart
  /-- The end of the text. -/
  | textEnd
  /-- A pattern whose text is kept with the match. -/
  | group (inner : Pattern)

namespace Pattern

/-- The first `length` characters of a text, which are not copied before they are needed. -/
structure Slice where
  start : Text
  length : Nat
  deriving DecidableEq, Repr

def Slice.text (slice : Slice) : Text := slice.start.take slice.length

/-- A match: what it takes, the character before what is left, what is left, and its groups. -/
structure Match where
  taken : Slice
  last : Option Char
  rest : Text
  groups : List Slice := []
  deriving DecidableEq, Repr

/-- The text of a group of a match, by the place of the group among them. -/
def Match.group? (found : Match) (place : Nat) : Option Text := found.groups[place]?.map Slice.text

instance : Append Pattern := ⟨next⟩

/-- The matches of any number of allowed characters, the shortest first, after `length` of them have
been taken from the front of `start`. -/
def runsFrom (allows : Char → Bool) (start : Text) (length : Nat) (last : Option Char) :
    Text → List Match
  | [] => [⟨⟨start, length⟩, last, [], []⟩]
  | first :: rest =>
    ⟨⟨start, length⟩, last, first :: rest, []⟩ ::
      if allows first then runsFrom allows start (length + 1) (some first) rest else []

/-- The match of as many allowed characters as there are, after `length` of them have been taken
from the front of `start`. -/
def wholeRun (allows : Char → Bool) (start : Text) (length : Nat) (last : Option Char) :
    Text → Match
  | [] => ⟨⟨start, length⟩, last, [], []⟩
  | first :: rest =>
    if allows first then wholeRun allows start (length + 1) (some first) rest
    else ⟨⟨start, length⟩, last, first :: rest, []⟩

/-- Whether a word starts or ends between the character before a place and the text after it. -/
def atWordEdge (before : Option Char) (text : Text) : Bool :=
  before.any Text.isWordChar != text.head?.any Text.isWordChar

/-- The match of nothing at a place, if it is a place to match. -/
def nothingIf (holds : Bool) (before : Option Char) (text : Text) : List Match :=
  if holds then [⟨⟨text, 0⟩, before, text, []⟩] else []

/-- The matches at the front of `text`, preferred ones first, where `before` is the character that
stands before it. -/
def matchesAt : Pattern → (before : Option Char) → (text : Text) → List Match
  | .empty, before, text => nothingIf true before text
  | .one _, _, [] => []
  | .one allows, _, first :: rest =>
    if allows first then [⟨⟨first :: rest, 1⟩, some first, rest, []⟩] else []
  | .many allows, before, text => (runsFrom allows text 0 before text).reverse
  | .run allows, before, text => [wholeRun allows text 0 before text]
  | .next first second, before, text =>
    (first.matchesAt before text).flatMap fun head =>
      (second.matchesAt head.last head.rest).map fun tail =>
        ⟨⟨text, head.taken.length + tail.taken.length⟩, tail.last, tail.rest,
          head.groups ++ tail.groups⟩
  | .either first second, before, text =>
    first.matchesAt before text ++ second.matchesAt before text
  | .wordEdge, before, text => nothingIf (atWordEdge before text) before text
  | .textStart, before, text => nothingIf before.isNone before text
  | .textEnd, before, text => nothingIf text.isEmpty before text
  | .group inner, before, text =>
    (inner.matchesAt before text).map fun found =>
      { found with groups := found.taken :: found.groups }

/-- The first result that `use` has for a run of allowed characters, the longest run first, after
`length` of them have been taken from the front of `start`. -/
def useRun {Result : Type} (allows : Char → Bool) (start : Text) (use : Match → Option Result)
    (length : Nat) (last : Option Char) : Text → Option Result
  | [] => use ⟨⟨start, length⟩, last, [], []⟩
  | first :: rest =>
    match if allows first then useRun allows start use (length + 1) (some first) rest else none with
    | some result => some result
    | none => use ⟨⟨start, length⟩, last, first :: rest, []⟩

/-- The first result that `use` has for a match at the front of `text`, preferred ones first.
Matches after the one with the result are not looked at. -/
def useAt {Result : Type} : Pattern → (before : Option Char) → (text : Text) →
    (use : Match → Option Result) → Option Result
  | .empty, before, text, use => use ⟨⟨text, 0⟩, before, text, []⟩
  | .one _, _, [], _ => none
  | .one allows, _, first :: rest, use =>
    if allows first then use ⟨⟨first :: rest, 1⟩, some first, rest, []⟩ else none
  | .many allows, before, text, use => useRun allows text use 0 before text
  | .run allows, before, text, use => use (wholeRun allows text 0 before text)
  | .next first second, before, text, use =>
    first.useAt before text fun head =>
      second.useAt head.last head.rest fun tail =>
        use ⟨⟨text, head.taken.length + tail.taken.length⟩, tail.last, tail.rest,
          head.groups ++ tail.groups⟩
  | .either first second, before, text, use =>
    match first.useAt before text use with
    | some result => some result
    | none => second.useAt before text use
  | .wordEdge, before, text, use =>
    if atWordEdge before text then use ⟨⟨text, 0⟩, before, text, []⟩ else none
  | .textStart, before, text, use =>
    if before.isNone then use ⟨⟨text, 0⟩, before, text, []⟩ else none
  | .textEnd, before, text, use =>
    if text.isEmpty then use ⟨⟨text, 0⟩, before, text, []⟩ else none
  | .group inner, before, text, use =>
    inner.useAt before text fun found => use { found with groups := found.taken :: found.groups }

private theorem useRun_eq_findSome? {Result : Type} (allows : Char → Bool) (start : Text)
    (use : Match → Option Result) (length : Nat) (last : Option Char) (text : Text) :
    useRun allows start use length last text =
      (runsFrom allows start length last text).reverse.findSome? use := by
  induction text generalizing length last with
  | nil => simp [useRun, runsFrom]
  | cons first rest ih =>
    unfold useRun runsFrom
    by_cases allowed : allows first
    · simp only [allowed, if_true, ih, List.reverse_cons, List.findSome?_append,
        List.findSome?_singleton]
      cases (runsFrom allows start (length + 1) (some first) rest).reverse.findSome? use <;> rfl
    · simp [allowed]

private theorem findSome?_nothingIf {Result : Type} (holds : Bool) (before : Option Char) (text : Text)
    (use : Match → Option Result) :
    (nothingIf holds before text).findSome? use =
      if holds then use ⟨⟨text, 0⟩, before, text, []⟩ else none := by
  cases holds <;> simp [nothingIf]

private theorem findSome?_flatMap {Head Tail Result : Type} (heads : List Head) (tails : Head → List Tail)
    (use : Tail → Option Result) :
    (heads.flatMap tails).findSome? use =
      heads.findSome? fun head => (tails head).findSome? use := by
  induction heads with
  | nil => rfl
  | cons head rest ih =>
    simp only [List.flatMap_cons, List.findSome?_append, List.findSome?_cons, ih]
    cases (tails head).findSome? use <;> rfl

theorem useAt_eq_findSome? {Result : Type} (pattern : Pattern) (before : Option Char) (text : Text)
    (use : Match → Option Result) :
    pattern.useAt before text use = (pattern.matchesAt before text).findSome? use := by
  induction pattern generalizing Result before text with
  | empty => simp [useAt, matchesAt, nothingIf]
  | one allows =>
    cases text with
    | nil => simp [useAt, matchesAt]
    | cons first rest =>
      by_cases allowed : allows first <;> simp [useAt, matchesAt, allowed]
  | many allows => exact useRun_eq_findSome? allows text use 0 before text
  | run allows => simp [useAt, matchesAt]
  | next first second ihFirst ihSecond =>
    simp only [useAt, matchesAt, ihFirst, ihSecond, findSome?_flatMap, List.findSome?_map]
    rfl
  | either first second ihFirst ihSecond =>
    simp only [useAt, matchesAt, ihFirst, ihSecond, List.findSome?_append]
    cases (first.matchesAt before text).findSome? use <;> rfl
  | wordEdge => exact (findSome?_nothingIf _ before text use).symm
  | textStart => exact (findSome?_nothingIf _ before text use).symm
  | textEnd => exact (findSome?_nothingIf _ before text use).symm
  | group inner ih =>
    simp only [useAt, matchesAt, ih, List.findSome?_map]
    rfl

/-- The preferred match at the front of `text`, if there is one. -/
def matchAt? (pattern : Pattern) (before : Option Char) (text : Text) : Option Match :=
  pattern.useAt before text some

theorem matchAt?_eq_head? (pattern : Pattern) (before : Option Char) (text : Text) :
    pattern.matchAt? before text = (pattern.matchesAt before text).head? := by
  rw [matchAt?, useAt_eq_findSome?]
  cases pattern.matchesAt before text <;> rfl

/-- The preferred match at the first place that has one, in a text after `before`. -/
def findAfter (pattern : Pattern) (before : Option Char) : Text → Option Match
  | [] => pattern.matchAt? before []
  | first :: rest =>
    match pattern.matchAt? before (first :: rest) with
    | some found => some found
    | none => pattern.findAfter (some first) rest

/-- The preferred match at the first place of a text that has one. -/
def find? (pattern : Pattern) (text : Text) : Option Match := pattern.findAfter none text

/-- Whether the pattern matches somewhere in the text. -/
def occursIn (pattern : Pattern) (text : Text) : Bool := (pattern.find? text).isSome

/-- The text of the first group of the first match. -/
def firstGroup? (pattern : Pattern) (text : Text) : Option Text :=
  (pattern.find? text).bind (·.group? 0)

def sequence (patterns : List Pattern) : Pattern := patterns.foldr next empty

/-- The first of the patterns that helps; with none of them nothing matches. -/
def choice : List Pattern → Pattern
  | [] => one fun _ => false
  | [only] => only
  | first :: rest => either first (choice rest)

def literal (text : String) : Pattern :=
  sequence (text.toList.map fun char => one (· == char))

/-- Whether two characters are the same letter in some case, for an ASCII letter in lower case. The
Kelvin sign counts as `k` and the long `s` as `s`. -/
def sameLetter (letter char : Char) : Bool :=
  char.toLower == letter || (letter == 'k' && char == '\u212a') || (letter == 's' && char == 'ſ')

/-- The text in any letter case; `text` is in lower case. -/
def caseless (text : String) : Pattern :=
  sequence (text.toList.map fun letter => one (sameLetter letter))

def optional (pattern : Pattern) : Pattern := either pattern empty

/-- One or more of the characters allowed, as many as there are. -/
def several (allows : Char → Bool) : Pattern := one allows ++ run allows

/-- One or more of the characters allowed, as many as possible first. -/
def someOf (allows : Char → Bool) : Pattern := one allows ++ many allows

/-- All blanks, if there are any. -/
def blanks : Pattern := run Text.isBlank

def digits : Pattern := several Text.isDigit

def word (pattern : Pattern) : Pattern := wordEdge ++ pattern ++ wordEdge

def oneWord (words : List String) : Pattern := word (choice (words.map literal))

end Pattern

end PageSketch
