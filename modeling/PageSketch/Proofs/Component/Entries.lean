import Mathlib.Data.List.Induction
import PageSketch.OrderedMap

/-! The entries of a map that was made from pairs: the pairs themselves, in their order, when no key comes
twice, and never anything but pairs that were put in. Without one of its keys a map is what the others
are set to. -/
namespace PageSketch.OrderedMap

variable {Value : Type} {key : String} {value : Value} {entries pairs : List (String × Value)}

private theorem setEntry_of_notMem (fresh : key ∉ entries.map Prod.fst) :
    setEntry key value entries = entries ++ [(key, value)] := by
  induction entries with
  | nil => rfl
  | cons first rest ih =>
    simp only [List.map_cons, List.mem_cons, not_or] at fresh
    rw [setEntry, if_neg (Ne.symm fresh.1), ih fresh.2, List.cons_append]

private theorem mem_of_mem_setEntry {entry : String × Value} (member : entry ∈ setEntry key value entries) :
    entry = (key, value) ∨ entry ∈ entries := by
  induction entries with
  | nil => exact .inl (List.mem_singleton.mp member)
  | cons first rest ih =>
    rw [setEntry] at member
    split at member
    · rename_i same
      rcases List.mem_cons.mp member with replaced | kept
      · exact .inl (by rw [replaced, same])
      · exact .inr (List.mem_cons_of_mem _ kept)
    · rcases List.mem_cons.mp member with own | later
      · exact .inr (own ▸ List.mem_cons_self)
      · exact (ih later).imp_right (List.mem_cons_of_mem _)

private theorem entries_foldl_set (map : OrderedMap Value)
    (distinct : (map.entries.map Prod.fst ++ pairs.map Prod.fst).Nodup) :
    (pairs.foldl (fun map (key, value) => map.set key value) map).entries =
      map.entries ++ pairs := by
  induction pairs generalizing map with
  | nil => rw [List.foldl_nil, List.append_nil]
  | cons pair rest ih =>
    obtain ⟨key, value⟩ := pair
    have fresh : key ∉ map.entries.map Prod.fst := fun present =>
      (List.nodup_append.mp distinct).2.2 key present key (by simp) rfl
    have grown : (map.set key value).entries = map.entries ++ [(key, value)] :=
      setEntry_of_notMem fresh
    rw [List.foldl_cons, ih (map.set key value) (by simpa [grown] using distinct), grown,
      List.append_assoc, List.singleton_append]

theorem entries_ofList (distinct : (pairs.map Prod.fst).Nodup) : (ofList pairs).entries = pairs :=
  entries_foldl_set ∅ distinct

private theorem lookup_of_mem (distinct : (entries.map Prod.fst).Nodup) (member : (key, value) ∈ entries) :
    entries.lookup key = some value := by
  induction entries with
  | nil => cases member
  | cons first rest ih =>
    obtain ⟨name, old⟩ := first
    obtain ⟨fresh, others⟩ := List.nodup_cons.mp distinct
    rw [lookup_cons_eq_ite]
    rcases List.mem_cons.mp member with own | later
    · cases own
      exact if_pos rfl
    · have different : key ≠ name := by
        rintro rfl
        exact fresh (List.mem_map.mpr ⟨(key, value), later, rfl⟩)
      rw [if_neg different, ih others later]

theorem get?_ofList_of_mem (distinct : (pairs.map Prod.fst).Nodup) (member : (key, value) ∈ pairs) :
    (ofList pairs).get? key = some value := by
  rw [get?, entries_ofList distinct]
  exact lookup_of_mem distinct member

private theorem eq_of_entries_eq {left right : OrderedMap Value} (same : left.entries = right.entries) :
    left = right := by
  revert same
  cases left
  cases right
  rintro rfl
  rfl

theorem ofList_entries (map : OrderedMap Value) : ofList map.entries = map :=
  eq_of_entries_eq (entries_ofList map.distinct)

@[simp]
theorem ofList_concat (pairs : List (String × Value)) (key : String) (value : Value) :
    ofList (pairs ++ [(key, value)]) = (ofList pairs).set key value := by
  rw [ofList, List.foldl_append]
  rfl

def last? (pairs : List (String × Value)) (key : String) : Option Value := pairs.reverse.lookup key

theorem last?_concat (pairs : List (String × Value)) (name : String) (value : Value) (key : String) :
    last? (pairs ++ [(name, value)]) key = if key = name then some value else last? pairs key := by
  rw [last?, List.reverse_concat, lookup_cons_eq_ite]
  rfl

theorem last?_append (before after : List (String × Value)) (key : String) :
    last? (before ++ after) key = (last? after key).or (last? before key) := by
  rw [last?, List.reverse_append, List.lookup_append]
  rfl

theorem last?_eq_none_iff {pairs : List (String × Value)} {key : String} :
    last? pairs key = none ↔ key ∉ pairs.map Prod.fst := by
  induction pairs using List.reverseRecOn with
  | nil => simp [last?]
  | append_singleton pairs pair ih =>
    obtain ⟨name, value⟩ := pair
    rw [last?_concat, List.map_append, List.mem_append, not_or, ← ih]
    by_cases same : key = name
    · simp [same]
    · simp [same]

theorem mem_of_last? (given : last? pairs key = some value) : (key, value) ∈ pairs := by
  induction pairs using List.reverseRecOn with
  | nil => cases given
  | append_singleton pairs pair ih =>
    obtain ⟨name, own⟩ := pair
    rw [last?_concat] at given
    split at given
    · rename_i same
      cases given
      rw [same]
      exact List.mem_append_right pairs List.mem_cons_self
    · exact List.mem_append_left _ (ih given)

theorem last?_of_mem (distinct : (pairs.map Prod.fst).Nodup) (member : (key, value) ∈ pairs) :
    last? pairs key = some value := by
  refine lookup_of_mem ?_ (List.mem_reverse.mpr member)
  rw [List.map_reverse]
  exact List.pairwise_reverse.mpr (distinct.imp Ne.symm)

/-- A map holds what its keys are set to last. -/
theorem get?_ofList (pairs : List (String × Value)) (key : String) :
    (ofList pairs).get? key = last? pairs key := by
  induction pairs using List.reverseRecOn with
  | nil => rfl
  | append_singleton pairs pair ih =>
    obtain ⟨name, value⟩ := pair
    rw [ofList_concat, get?_set, last?_concat, ih]

/-- A key keeps its place when it is set again. -/
theorem keys_set (map : OrderedMap Value) (key : String) (value : Value) :
    (map.set key value).keys = if key ∈ map.keys then map.keys else map.keys ++ [key] := by
  obtain ⟨entries, distinct⟩ := map
  change (setEntry key value entries).map Prod.fst =
    if key ∈ entries.map Prod.fst then entries.map Prod.fst else entries.map Prod.fst ++ [key]
  clear distinct
  induction entries with
  | nil => rfl
  | cons first rest ih =>
    obtain ⟨name, old⟩ := first
    rw [setEntry]
    by_cases same : name = key
    · simp [same]
    · rw [if_neg same, List.map_cons, List.map_cons, ih]
      simp only [List.mem_cons, Ne.symm same, false_or]
      split
      · rfl
      · rw [List.cons_append]

/-- The keys of a map stand in the order in which they were first set. -/
theorem keys_ofList (pairs : List (String × Value)) :
    (ofList pairs).keys = (pairs.map Prod.fst).eraseDups := by
  induction pairs using List.reverseRecOn with
  | nil => rfl
  | append_singleton pairs pair ih =>
    obtain ⟨key, value⟩ := pair
    rw [ofList_concat, keys_set, ih, List.map_append, List.eraseDups_append]
    by_cases known : key ∈ pairs.map Prod.fst
    · simp [List.mem_eraseDups, known, List.removeAll]
    · simp [List.mem_eraseDups, known, List.removeAll, List.eraseDups_cons]

private theorem mem_of_mem_foldl_set (map : OrderedMap Value) {entry : String × Value}
    (member : entry ∈ (pairs.foldl (fun map (key, value) => map.set key value) map).entries) :
    entry ∈ map.entries ∨ entry ∈ pairs := by
  induction pairs generalizing map with
  | nil => exact .inl member
  | cons pair rest ih =>
    rcases ih (map.set pair.1 pair.2) member with before | later
    · rcases mem_of_mem_setEntry before with same | kept
      · exact .inr (same ▸ List.mem_cons_self)
      · exact .inl kept
    · exact .inr (List.mem_cons_of_mem _ later)

/-- Every entry of a map was put in as a pair. -/
theorem mem_of_mem_entries_ofList {entry : String × Value} (member : entry ∈ (ofList pairs).entries) :
    entry ∈ pairs :=
  (mem_of_mem_foldl_set ∅ member).resolve_left List.not_mem_nil

private theorem keys_prefix_setEntry (key : String) (value : Value) (entries : List (String × Value)) :
    entries.map Prod.fst <+: (setEntry key value entries).map Prod.fst := by
  induction entries with
  | nil => exact List.nil_prefix
  | cons first rest ih =>
    rw [setEntry]
    split
    · exact List.prefix_rfl
    · exact List.cons_prefix_cons.mpr ⟨rfl, ih⟩

private theorem keys_prefix_foldl_set (map : OrderedMap Value) (pairs : List (String × Value)) :
    map.keys <+: (pairs.foldl (fun map (key, value) => map.set key value) map).keys := by
  induction pairs generalizing map with
  | nil => exact List.prefix_rfl
  | cons pair rest ih =>
    exact (keys_prefix_setEntry pair.1 pair.2 map.entries).trans (ih (map.set pair.1 pair.2))

/-- The key that is set first is the first key. -/
theorem head?_keys_ofList (key : String) (value : Value) (pairs : List (String × Value)) :
    (ofList ((key, value) :: pairs)).keys.head? = some key := by
  obtain ⟨later, same⟩ := keys_prefix_foldl_set ((∅ : OrderedMap Value).set key value) pairs
  rw [ofList, List.foldl_cons, ← same]
  rfl

theorem lookup_filter (keeps : String → Bool) {name : String} (kept : keeps name = true)
    (entries : List (String × Value)) :
    (entries.filter (keeps ·.1)).lookup name = entries.lookup name := by
  induction entries with
  | nil => rfl
  | cons entry rest ih =>
    obtain ⟨key, value⟩ := entry
    rw [List.filter_cons, lookup_cons_eq_ite]
    by_cases same : name = key
    · subst same
      rw [if_pos kept, lookup_cons_eq_ite, if_pos rfl, if_pos rfl]
    · rw [if_neg same]
      split
      · rw [lookup_cons_eq_ite, if_neg same, ih]
      · exact ih

/-- Setting a key that is kept and keeping some keys can change places. -/
theorem filter_setEntry (keeps : String → Bool) (kept : keeps key = true)
    (entries : List (String × Value)) :
    (setEntry key value entries).filter (keeps ·.1) = setEntry key value (entries.filter (keeps ·.1)) := by
  induction entries with
  | nil => simp [setEntry, kept]
  | cons first rest ih =>
    rw [setEntry]
    split
    · rename_i same
      have keepsFirst : keeps first.1 = true := same ▸ kept
      rw [List.filter_cons, List.filter_cons, if_pos keepsFirst, if_pos keepsFirst, setEntry, if_pos same]
    · rename_i other
      rw [List.filter_cons, List.filter_cons, ih]
      split
      · rw [setEntry, if_neg other]
      · rfl

/-- The map without the entry of one key. -/
def without (key : String) (map : OrderedMap Value) : OrderedMap Value where
  entries := map.entries.filter (·.1 != key)
  distinct := map.distinct.sublist (List.filter_sublist.map Prod.fst)

theorem get?_without {name : String} (other : name ≠ key) (map : OrderedMap Value) :
    (map.without key).get? name = map.get? name :=
  lookup_filter (· != key) (by simpa using other) map.entries

/-- A map is the same without a key, whatever that key is set to. -/
theorem without_set_self (map : OrderedMap Value) (key : String) (value : Value) :
    (map.set key value).without key = map.without key := by
  apply eq_of_entries_eq
  change (setEntry key value map.entries).filter _ = map.entries.filter _
  induction map.entries with
  | nil => simp [setEntry]
  | cons first rest ih =>
    rw [setEntry]
    split
    · rename_i same
      simp [same]
    · rw [List.filter_cons, List.filter_cons, ih]

/-- What a map is without one key does not depend on the entry of that key before another is set. -/
theorem without_set (map : OrderedMap Value) (name key : String) (value : Value) :
    ((map.without name).set key value).without name = (map.set key value).without name := by
  have own (map : OrderedMap Value) : (map.without name).without name = map.without name := by
    apply eq_of_entries_eq
    change (map.entries.filter _).filter _ = map.entries.filter _
    rw [List.filter_filter]
    simp
  by_cases same : key = name
  · rw [same, without_set_self, without_set_self, own]
  · have kept : (map.set key value).without name = (map.without name).set key value :=
      eq_of_entries_eq (filter_setEntry (· != name) (by simpa using same) map.entries)
    rw [← kept, own]

end PageSketch.OrderedMap
