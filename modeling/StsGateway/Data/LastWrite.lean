import Mathlib.Data.Finmap

namespace StsGateway.Data

/-! Tables filled by a sequence of writes, where a later write to a key
replaces an earlier one.
-/

section LastWrite

variable {Item Key Value : Type} [DecidableEq Key] {key : Item → Key} {value : Item → Value}
  {items : List Item} {sought : Key}

def insertAll (key : Item → Key) (value : Item → Value) (table : Finmap fun _ : Key => Value)
    (items : List Item) : Finmap fun _ : Key => Value :=
  items.foldl (fun table item => table.insert (key item) (value item)) table

def lastWrite (key : Item → Key) (value : Item → Value) (items : List Item) (sought : Key) :
    Option Value :=
  (items.filter fun item => key item = sought).getLast?.map value

theorem lastWrite_append (key : Item → Key) (value : Item → Value) (earlier later : List Item)
    (sought : Key) :
    lastWrite key value (earlier ++ later) sought =
      (lastWrite key value later sought).or (lastWrite key value earlier sought) := by
  simp only [lastWrite, List.filter_append, List.getLast?_append, Option.map_or]

theorem lastWrite_singleton (key : Item → Key) (value : Item → Value) (item : Item) (sought : Key) :
    lastWrite key value [item] sought = if key item = sought then some (value item) else none := by
  by_cases same : key item = sought
  · simp [lastWrite, same]
  · simp [lastWrite, same]

theorem lookup_insertAll (table : Finmap fun _ : Key => Value) :
    (insertAll key value table items).lookup sought =
      (lastWrite key value items sought).or (table.lookup sought) := by
  induction items generalizing table with
  | nil => rfl
  | cons item rest ih =>
      have inserted : (table.insert (key item) (value item)).lookup sought =
          (lastWrite key value [item] sought).or (table.lookup sought) := by
        rw [lastWrite_singleton]
        split
        · rename_i same
          rw [same, Finmap.lookup_insert, Option.some_or]
        · rename_i other
          rw [Finmap.lookup_insert_of_ne _ (Ne.symm other), Option.none_or]
      change (insertAll key value (table.insert (key item) (value item)) rest).lookup sought = _
      rw [ih, inserted, ← Option.or_assoc, ← lastWrite_append, List.singleton_append]

theorem lastWrite_comp {Other : Type} (convert : Value → Other) :
    lastWrite key (fun item => convert (value item)) items sought =
      (lastWrite key value items sought).map convert := by
  rw [lastWrite, lastWrite, Option.map_map]
  rfl

theorem mem_of_lastWrite {written : Value} (last : lastWrite key value items sought = some written) :
    ∃ item ∈ items, key item = sought ∧ value item = written := by
  obtain ⟨item, found, rfl⟩ := Option.map_eq_some_iff.mp last
  obtain ⟨listed, same⟩ := List.mem_filter.mp (List.mem_of_getLast? found)
  exact ⟨item, listed, of_decide_eq_true same, rfl⟩

theorem lastWrite_of_mem (key : Item → Key) (value : Item → Value) {item : Item} (listed : item ∈ items) :
    ∃ written, lastWrite key value items (key item) = some written := by
  cases last : (items.filter fun other => key other = key item).getLast? with
  | none =>
      rw [List.getLast?_eq_none_iff, List.filter_eq_nil_iff] at last
      exact absurd (decide_eq_true rfl) (last item listed)
  | some final => exact ⟨value final, by rw [lastWrite, last]; rfl⟩

end LastWrite

end StsGateway.Data
