import Mathlib.Data.List.DropRight
import PageSketch.Text.Blank

/-! Trimming takes the blanks at the ends of a text and nothing else: what is trimmed stays as it is, and
blanks put around a text go again. -/
namespace PageSketch.Text

variable {text : Text} {char : Char}

theorem dropEndWhile_eq_rdropWhile (drops : Char → Bool) (text : Text) :
    dropEndWhile drops text = text.rdropWhile drops := by
  induction text with
  | nil => rfl
  | cons first rest ih =>
    rw [dropEndWhile, ih, List.rdropWhile, List.rdropWhile, List.reverse_cons,
      List.dropWhile_append]
    cases rest.reverse.dropWhile drops with
    | nil => cases dropped : drops first <;> simp [dropped]
    | cons last others =>
      simp only [List.isEmpty_cons, Bool.false_eq_true, if_false, List.reverse_append,
        List.reverse_singleton, List.singleton_append]
      split
      · rename_i empty
        simp at empty
      · rfl

private theorem trim_eq (text : Text) : trim text = (text.dropWhile isBlank).rdropWhile isBlank :=
  dropEndWhile_eq_rdropWhile isBlank _

theorem trim_append {left right : Text} (before : ∀ char ∈ left, isBlank char = true)
    (after : ∀ char ∈ right, isBlank char = true) (text : Text) :
    trim (left ++ text ++ right) = trim text := by
  have dropped (kept : Text) : (kept ++ right).rdropWhile isBlank = kept.rdropWhile isBlank := by
    rw [List.rdropWhile, List.reverse_append,
      List.dropWhile_append_of_pos (by simpa using after), List.rdropWhile]
  rw [trim_eq, trim_eq, List.append_assoc, List.dropWhile_append_of_pos before,
    List.dropWhile_append]
  split
  · rename_i empty
    rw [List.dropWhile_eq_nil_iff.mpr after, List.isEmpty_iff.mp empty]
  · exact dropped _

theorem trim_blanks_append {left : Text} (before : ∀ char ∈ left, isBlank char = true) (text : Text) :
    trim (left ++ text) = trim text := by
  have same := trim_append before (List.forall_mem_nil _) text
  rwa [List.append_nil] at same

theorem trim_append_blanks {right : Text} (after : ∀ char ∈ right, isBlank char = true) (text : Text) :
    trim (text ++ right) = trim text :=
  trim_append (List.forall_mem_nil _) after text

theorem trim_cons_blank (blank : isBlank char = true) (text : Text) : trim (char :: text) = trim text :=
  trim_blanks_append (List.forall_mem_singleton.mpr blank) text

theorem trim_eq_nil (blank : ∀ char ∈ text, isBlank char = true) : trim text = [] := by
  rw [trim_eq, List.dropWhile_eq_nil_iff.mpr blank, List.rdropWhile_nil]

theorem trim_sublist (text : Text) : (trim text).Sublist text := by
  rw [trim_eq]
  exact (List.rdropWhile_prefix _ _).sublist.trans (List.dropWhile_sublist _)

theorem head?_trim (first : char ∈ (trim text).head?) : isBlank char = false := by
  obtain ⟨rest, same⟩ := List.rdropWhile_prefix isBlank (text.dropWhile isBlank)
  have start := List.head?_dropWhile_not isBlank text
  rw [trim_eq] at first
  rw [← same, List.head?_append, Option.mem_def.mp first] at start
  exact start

theorem getLast?_trim (last : char ∈ (trim text).getLast?) : isBlank char = false := by
  rw [trim_eq] at last
  obtain ⟨nonempty, same⟩ := List.mem_getLast?_eq_getLast last
  rw [same]
  exact Bool.eq_false_iff.mpr (List.rdropWhile_last_not isBlank _ nonempty)

theorem startsDark (trimmed : trim text = text) : ∀ char ∈ text.head?, isBlank char = false := by
  intro char first
  rw [← trimmed] at first
  exact head?_trim first

theorem endsDark (trimmed : trim text = text) : ∀ char ∈ text.getLast?, isBlank char = false := by
  intro char last
  rw [← trimmed] at last
  exact getLast?_trim last

private theorem dropWhile_eq_self (start : ∀ char ∈ text.head?, isBlank char = false) :
    text.dropWhile isBlank = text := by
  cases text with
  | nil => rfl
  | cons first rest => exact List.dropWhile_cons_of_neg (by simp [start first rfl])

theorem trim_eq_self (start : ∀ char ∈ text.head?, isBlank char = false)
    (finish : ∀ char ∈ text.getLast?, isBlank char = false) : trim text = text := by
  rw [trim_eq, dropWhile_eq_self start, List.rdropWhile_eq_self_iff]
  intro nonempty
  rw [finish _ (List.getLast?_eq_getLast_of_ne_nil nonempty)]
  exact Bool.false_ne_true

theorem eq_nil_of_blank (blank : ∀ char ∈ text, isBlank char = true)
    (finish : ∀ char ∈ text.getLast?, isBlank char = false) : text = [] := by
  by_contra some
  have last := finish _ (List.getLast?_eq_getLast_of_ne_nil some)
  rw [blank _ (List.getLast_mem some)] at last
  cases last

theorem trim_trim (text : Text) : trim (trim text) = trim text :=
  trim_eq_self (fun _ => head?_trim) fun _ => getLast?_trim

/-- A text that starts with no blank is cut at its end only. -/
theorem exists_trim_append (start : ∀ char ∈ text.head?, isBlank char = false) :
    ∃ right, text = trim text ++ right ∧ ∀ char ∈ right, isBlank char = true := by
  refine ⟨(text.reverse.takeWhile isBlank).reverse, ?_, fun char member => ?_⟩
  · rw [trim_eq, dropWhile_eq_self start, List.rdropWhile, ← List.reverse_append, List.takeWhile_append_dropWhile,
      List.reverse_reverse]
  · exact List.mem_takeWhile_imp (List.mem_reverse.mp member)

/-- Trimming takes blanks off both ends. -/
theorem exists_append_trim_append (text : Text) :
    ∃ left right, text = left ++ trim text ++ right ∧ (∀ char ∈ left, isBlank char = true) ∧
      ∀ char ∈ right, isBlank char = true := by
  have parts : text.takeWhile isBlank ++ text.dropWhile isBlank = text := List.takeWhile_append_dropWhile
  have before : ∀ char ∈ text.takeWhile isBlank, isBlank char = true :=
    fun _ member => List.mem_takeWhile_imp member
  have start : ∀ char ∈ (text.dropWhile isBlank).head?, isBlank char = false := by
    intro char first
    have dark := List.head?_dropWhile_not isBlank text
    rw [Option.mem_def.mp first] at dark
    exact dark
  obtain ⟨right, same, after⟩ := exists_trim_append start
  have own : trim (text.dropWhile isBlank) = trim text := by
    rw [← trim_blanks_append before, parts]
  refine ⟨text.takeWhile isBlank, right, ?_, before, after⟩
  rw [List.append_assoc, ← own, ← same, parts]

end PageSketch.Text
