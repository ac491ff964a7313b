import PageSketch.Extraction.Kinds
import PageSketch.Proofs.Extraction.Parts
import PageSketch.Proofs.Text.Occurrence
import PageSketch.Proofs.Text.Quoted

/-! Testimonials: each quote line opens one, and the first list line up to the next quote line says whose words
they are. What such a line says is read back from the two forms in which it is written. -/
namespace PageSketch

private theorem Text.enclosed?_eq_some_iff {mark : Char} {text body : Text} :
    enclosed? mark text = some body ↔ text = mark :: (body ++ [mark]) := by
  cases text with
  | nil => simp [enclosed?]
  | cons first rest =>
    rw [enclosed?]
    constructor
    · intro found
      split at found
      · rename_i both
        obtain ⟨opens, closes⟩ := (Bool.and_eq_true _ _).mp both
        rw [of_decide_eq_true opens, ← Option.some.inj found,
          List.dropLast_append_getLast? mark (of_decide_eq_true closes)]
      · cases found
    · intro same
      obtain ⟨rfl, rfl⟩ := List.cons.inj same
      simp

private theorem Text.enclosed?_or_eq_some_iff {text body : Text} :
    (enclosed? '"' text).or (enclosed? '\'' text) = some body ↔
      ∃ mark, isQuote mark = true ∧ text = mark :: (body ++ [mark]) := by
  rw [Option.or_eq_some_iff, enclosed?_eq_some_iff, enclosed?_eq_some_iff]
  constructor
  · rintro (double | ⟨_, single⟩)
    · exact ⟨'"', rfl, double⟩
    · exact ⟨'\'', rfl, single⟩
  · rintro ⟨mark, isMark, rfl⟩
    rcases Bool.or_eq_true_iff.mp isMark with double | single
    · exact .inl (by rw [beq_iff_eq.mp double])
    · rw [beq_iff_eq.mp single]
      exact .inr ⟨rfl, rfl⟩

/-- A quote line and the quote on it: the line starts with `>`, or two equal quotation marks enclose it. -/
inductive IsQuote : (line quote : Text) → Prop
  | marked (rest : Text) : IsQuote ('>' :: rest) (Text.unquote rest)
  | enclosed {mark : Char} (isMark : Text.isQuote mark = true) (body : Text) :
      IsQuote (mark :: (body ++ [mark])) (Text.trim body)

private theorem Text.unquote_enclosed {mark : Char} (isMark : isQuote mark = true) (body : Text) :
    unquote (mark :: (body ++ [mark])) = trim body := by
  have dark : isBlank mark = false := by
    rw [Bool.eq_false_iff]
    intro blank
    rw [isQuote_of_isBlank blank] at isMark
    cases isMark
  have kept : trim (mark :: (body ++ [mark])) = mark :: (body ++ [mark]) := by
    apply trim_eq_self
    · rintro char ⟨⟩
      exact dark
    · intro char last
      rw [← List.cons_append, List.getLast?_concat] at last
      cases last
      exact dark
  rw [unquote, kept, enclosed?_or_eq_some_iff.mpr ⟨mark, isMark, rfl⟩]

private theorem quoteOn?_eq_some_iff {line quote : Text} : quoteOn? line = some quote ↔ IsQuote line quote := by
  unfold quoteOn?
  constructor
  · intro found
    split at found
    · rename_i rest starts
      rw [Text.after?_eq_some_iff.mp starts, ← Option.some.inj found]
      exact .marked rest
    · split at found
      · rename_i enclosed
        obtain ⟨body, inside⟩ := Option.isSome_iff_exists.mp enclosed
        obtain ⟨mark, isMark, rfl⟩ := Text.enclosed?_or_eq_some_iff.mp inside
        rw [← Option.some.inj found, Text.unquote_enclosed isMark]
        exact .enclosed isMark body
      · cases found
  · intro isQuote
    cases isQuote with
    | marked rest => rfl
    | @enclosed mark isMark body =>
      have unmarked : Text.after? ['>'] (mark :: (body ++ [mark])) = none := by
        apply if_neg
        rintro rfl
        cases isMark
      rw [unmarked, Text.enclosed?_or_eq_some_iff.mpr ⟨mark, isMark, rfl⟩, Text.unquote_enclosed isMark]
      rfl

/-- A quote, and whose words it is, as soon as that is said. -/
structure Saying where
  quote : Text
  source : Option Attribution := none

namespace Saying

/-- The saying after one more line: the first list line says whose words it is. -/
def read (saying : Saying) (line : Text) : Saying :=
  if saying.source.isNone && Text.isListItem line then
    { saying with source := some (.ofText (Text.itemText line)) }
  else saying

theorem foldl_read (saying : Saying) (lines : List Text) :
    lines.foldl read saying =
      { saying with
        source := saying.source.or ((lines.find? Text.isListItem).map fun line =>
          .ofText (Text.itemText line)) } := by
  induction lines generalizing saying with
  | nil =>
    rw [List.find?_nil, Option.map_none, Option.or_none]
    rfl
  | cons line rest ih =>
    rw [List.foldl_cons, ih, read]
    obtain ⟨quote, source⟩ := saying
    cases item : Text.isListItem line with
    | true =>
      rw [List.find?_cons_of_pos item]
      cases source <;> rfl
    | false =>
      rw [List.find?_cons_of_neg (by rw [item]; exact Bool.false_ne_true), Bool.and_false]
      rfl

/-- The testimonial at a place. Words of nobody have an empty author, role and company. -/
def toTestimonial (name : String) (place : Nat) (saying : Saying) : Testimonial :=
  let source := saying.source.getD ⟨[], [], []⟩
  { quote := String.ofList saying.quote
    author := String.ofList source.author
    role := String.ofList source.role
    company := String.ofList source.company
    avatar := portrait name place
    rating := 5 }

end Saying

namespace TestimonialNotes

/-- The notes on some sayings: the last one may still lack its source. -/
def ofSayings (name : String) (sayings : List Saying) : TestimonialNotes where
  read := sayings.mapIdx (Saying.toTestimonial name)
  awaitsAuthor := sayings.getLast?.any (·.source.isNone)

/-- Noting a line is reading it into the last saying, or opening a new one. -/
theorem add_ofSayings (name : String) (sayings : List Saying) (line : Text) :
    add name (ofSayings name sayings) line =
      ofSayings name (addLine quoteOn? (fun quote => ⟨quote, none⟩) Saying.read sayings line) := by
  cases quoted : quoteOn? line with
  | some quote =>
    rw [addLine_header quoted, ofSayings, ofSayings, add, quoted, List.mapIdx_concat, List.getLast?_concat,
      List.length_mapIdx]
    rfl
  | none =>
    rcases List.eq_nil_or_concat sayings with rfl | ⟨earlier, last, rfl⟩
    · simp only [add, addLine, quoted]
      rfl
    · rw [List.concat_eq_append, addLine_other quoted, ofSayings, ofSayings, add, quoted]
      simp only [List.mapIdx_concat, List.getLast?_concat, List.dropLast_concat, Option.any_some, Saying.read]
      -- The flag is up as long as the last saying has no source.
      split
      · rfl
      · rfl

private theorem foldl_add (name : String) (lines : List Text) :
    lines.foldl (add name) {} =
      ofSayings name (lines.foldl (addLine quoteOn? (fun quote => ⟨quote, none⟩) Saying.read) []) := by
  have start : ({} : TestimonialNotes) = ofSayings name [] := rfl
  rw [start]
  exact List.foldl_hom (ofSayings name) (add_ofSayings name)

end TestimonialNotes

/-- The quote of a part, and whose words it is by the first list line behind it. -/
def Part.saying (part : Part quoteOn?) : Saying where
  quote := part.head
  source := (part.body.find? Text.isListItem).map fun line => .ofText (Text.itemText line)

namespace Intent

variable (intent : Intent)

private theorem testimonials_eq :
    intent.testimonials =
      ((parts quoteOn? intent.lines).map Part.saying).mapIdx (Saying.toTestimonial intent.name) := by
  have said (part : Part quoteOn?) : part.body.foldl Saying.read ⟨part.head, none⟩ = part.saying := by
    rw [Saying.foldl_read, Option.none_or]
    rfl
  rw [testimonials, TestimonialNotes.foldl_add, foldl_addLine]
  simp only [said]
  rfl

/-- The testimonials that the quote lines give, or the default ones when there is no quote line. -/
def quotedTestimonials : List Testimonial :=
  if intent.lines.any fun line => (quoteOn? line).isSome then
    ((parts quoteOn? intent.lines).map Part.saying).mapIdx (Saying.toTestimonial intent.name)
  else defaultTestimonials intent.name

private theorem orDefaults_testimonials :
    orDefaults intent.testimonials (defaultTestimonials intent.name) = intent.quotedTestimonials := by
  rw [testimonials_eq]
  apply orDefaults_eq_ite
  rw [List.length_mapIdx, List.length_map]

private theorem avatars_quotedTestimonials :
    intent.quotedTestimonials.map Testimonial.avatar =
      (List.range intent.quotedTestimonials.length).map (portrait intent.name) := by
  have placed {Entry : Type} (entries : List Entry) {testimonial : Nat → Entry → Testimonial}
      (own : ∀ place entry, (testimonial place entry).avatar = portrait intent.name place) :
      (entries.mapIdx testimonial).map Testimonial.avatar =
        (List.range (entries.mapIdx testimonial).length).map (portrait intent.name) := by
    apply List.ext_getElem
    · simp
    · intro place _ _
      simp [own]
  rw [quotedTestimonials]
  split
  · exact placed _ fun _ _ => rfl
  · exact placed _ fun _ _ => rfl

/-- There is one testimonial for each quote line, in order. It is by whom the first list line up to the next quote
line says, or by nobody; no other line has a part in it, and its portrait is that of its place. Without a quote
line the three default testimonials stand in. -/
theorem testimonials_between_quotes :
    (∀ line quote, quoteOn? line = some quote ↔ IsQuote line quote) ∧
      (intent.lines.takeWhile fun line => (quoteOn? line).isNone) ++
          (parts quoteOn? intent.lines).flatMap Part.lines = intent.lines ∧
      (intent.extract .testimonial).items = intent.quotedTestimonials.map .testimonial ∧
      (defaultTestimonials intent.name).length = 3 ∧
      intent.quotedTestimonials.map Testimonial.avatar =
        (List.range intent.quotedTestimonials.length).map (portrait intent.name) := by
  have items : (intent.extract .testimonial).items =
      (orDefaults intent.testimonials (defaultTestimonials intent.name)).map .testimonial := rfl
  refine ⟨fun _ _ => quoteOn?_eq_some_iff, takeWhile_append_parts quoteOn? intent.lines, ?_, rfl,
    intent.avatars_quotedTestimonials⟩
  rw [items, orDefaults_testimonials]

end Intent

end PageSketch
