/-! Maps from texts that keep the order in which their keys were first set. -/
namespace PageSketch

/-- Entries in the order of their first insertion, no key twice. -/
structure OrderedMap (Value : Type) where
  entries : List (String × Value)
  distinct : (entries.map Prod.fst).Nodup := by simp
  deriving DecidableEq, Repr

namespace OrderedMap

variable {Value : Type}

def empty : OrderedMap Value := ⟨[], by simp⟩

instance : EmptyCollection (OrderedMap Value) := ⟨empty⟩

instance : Inhabited (OrderedMap Value) := ⟨empty⟩

/-- The entries with the value of `key` replaced, or with a new entry at the end. -/
def setEntry (key : String) (value : Value) : List (String × Value) → List (String × Value)
  | [] => [(key, value)]
  | (name, old) :: rest =>
    if name = key then (name, value) :: rest else (name, old) :: setEntry key value rest

private theorem mem_keys_setEntry (key : String) (value : Value) (entries : List (String × Value))
    (name : String) :
    name ∈ (setEntry key value entries).map Prod.fst ↔
      name = key ∨ name ∈ entries.map Prod.fst := by
  induction entries with
  | nil => simp [setEntry]
  | cons head rest ih =>
    unfold setEntry
    split
    · rename_i same
      simp only [List.map_cons, List.mem_cons, same]
      exact ⟨Or.inr, fun found => found.elim Or.inl id⟩
    · simp only [List.map_cons, List.mem_cons, ih]
      exact or_left_comm

private theorem nodup_keys_setEntry (key : String) (value : Value) (entries : List (String × Value))
    (distinct : (entries.map Prod.fst).Nodup) :
    ((setEntry key value entries).map Prod.fst).Nodup := by
  induction entries with
  | nil => simp [setEntry]
  | cons head rest ih =>
    simp only [List.map_cons, List.nodup_cons] at distinct
    unfold setEntry
    split
    · simpa using distinct
    · rename_i different
      simp only [List.map_cons, List.nodup_cons, mem_keys_setEntry, not_or]
      exact ⟨⟨different, distinct.1⟩, ih distinct.2⟩

/-- An existing key keeps its place and takes the new value; a new key goes last. -/
def set (map : OrderedMap Value) (key : String) (value : Value) : OrderedMap Value :=
  ⟨setEntry key value map.entries, nodup_keys_setEntry key value map.entries map.distinct⟩

/-- The value of a key. -/
def get? (map : OrderedMap Value) (key : String) : Option Value := map.entries.lookup key

def keys (map : OrderedMap Value) : List String := map.entries.map Prod.fst

theorem lookup_cons_eq_ite {Key : Type} [BEq Key] [LawfulBEq Key] [DecidableEq Key] (key : Key)
    (value : Value) (entries : List (Key × Value)) (name : Key) :
    List.lookup name ((key, value) :: entries) =
      if name = key then some value else entries.lookup name := by
  by_cases same : name = key
  · simp [same]
  · simp [List.lookup_cons, same, beq_eq_false_iff_ne.mpr same]

private theorem lookup_setEntry (key : String) (value : Value) (entries : List (String × Value))
    (name : String) :
    (setEntry key value entries).lookup name =
      if name = key then some value else entries.lookup name := by
  induction entries with
  | nil => exact lookup_cons_eq_ite key value [] name
  | cons head rest ih =>
    obtain ⟨first, old⟩ := head
    unfold setEntry
    by_cases same : first = key
    · simp only [same, if_true, lookup_cons_eq_ite]
      split <;> rfl
    · simp only [same, if_false, lookup_cons_eq_ite, ih]
      by_cases found : name = first
      · simp [found, same]
      · simp [found]

/-- A key has the value that was set last; the other keys keep theirs. -/
@[simp]
theorem get?_set (map : OrderedMap Value) (key : String) (value : Value) (name : String) :
    (map.set key value).get? name = if name = key then some value else map.get? name :=
  lookup_setEntry key value map.entries name

def ofList (pairs : List (String × Value)) : OrderedMap Value :=
  pairs.foldl (fun map (key, value) => map.set key value) ∅

end OrderedMap

end PageSketch
