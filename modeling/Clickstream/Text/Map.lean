/-!
# Maps from text to text

The attributes of an event and the contents of a storage are maps from text to
text, shown in ascending order of their keys (by code point, which is also the
order of their UTF-8 bytes). A `TextMap` holds its entries in that order, each
key once, so that equal maps are equal values.

* `get?_insert`, `get?_erase`: reading back what was written or removed;
* `TextMap.ext`: a map is determined by its entries.
-/

namespace Clickstream

/-- A map from text to text: its entries, in strictly ascending order of the keys. -/
structure TextMap where
  entries : List (String × String)
  sorted : entries.Pairwise fun a b => a.1 < b.1
  deriving DecidableEq

namespace TextMap

@[ext]
theorem ext {m n : TextMap} (h : m.entries = n.entries) : m = n := by
  cases m; cases n; simp_all

/-- The map with no entries. -/
def empty : TextMap := ⟨[], .nil⟩

instance : Inhabited TextMap := ⟨empty⟩

/-- The number of entries. -/
def size (m : TextMap) : Nat := m.entries.length

/-- The value under a key. -/
def get? (m : TextMap) (k : String) : Option String :=
  m.entries.lookup k

/-- Puts an entry at its place in an ordered list, in the place of an entry with
    the same key. -/
def place (k v : String) : List (String × String) → List (String × String)
  | [] => [(k, v)]
  | e :: rest =>
    if k < e.1 then (k, v) :: e :: rest
    else if k = e.1 then (k, v) :: rest
    else e :: place k v rest

theorem key_mem_place {k v : String} {l : List (String × String)} {e : String × String}
    (he : e ∈ place k v l) : e.1 = k ∨ e ∈ l := by
  induction l with
  | nil => simp only [place, List.mem_singleton] at he; exact .inl (by rw [he])
  | cons a l ih =>
    simp only [place] at he
    split at he
    · rcases List.mem_cons.1 he with rfl | he
      · exact .inl rfl
      · exact .inr he
    · split at he
      · rcases List.mem_cons.1 he with rfl | he
        · exact .inl rfl
        · exact .inr (List.mem_cons_of_mem _ he)
      · rcases List.mem_cons.1 he with rfl | he
        · exact .inr List.mem_cons_self
        · exact (ih he).imp_right (List.mem_cons_of_mem _)

theorem lt_of_not_lt_of_ne {a b : String} (h : ¬ a < b) (hne : ¬ a = b) : b < a :=
  String.not_le.1 fun hle => hne (String.le_antisymm hle (Std.not_lt.1 h))

theorem sorted_place (k v : String) {l : List (String × String)}
    (hl : l.Pairwise fun a b => a.1 < b.1) : (place k v l).Pairwise fun a b => a.1 < b.1 := by
  induction l with
  | nil => exact List.pairwise_singleton _ _
  | cons a l ih =>
    rw [List.pairwise_cons] at hl
    simp only [place]
    split
    · rename_i hk
      refine List.pairwise_cons.2 ⟨fun b hb => ?_, List.pairwise_cons.2 hl⟩
      rcases List.mem_cons.1 hb with rfl | hb
      · exact hk
      · exact String.lt_trans hk (hl.1 b hb)
    · split
      · rename_i hk
        exact List.pairwise_cons.2 ⟨fun b hb => hk ▸ hl.1 b hb, hl.2⟩
      · rename_i hlt hne
        refine List.pairwise_cons.2 ⟨fun b hb => ?_, ih hl.2⟩
        rcases key_mem_place hb with hb | hb
        · exact hb ▸ lt_of_not_lt_of_ne hlt hne
        · exact hl.1 b hb

/-- The map with `v` under `k`, whatever was there before. -/
def insert (m : TextMap) (k v : String) : TextMap :=
  ⟨place k v m.entries, sorted_place k v m.sorted⟩

/-- The map with nothing under `k`. -/
def erase (m : TextMap) (k : String) : TextMap :=
  ⟨m.entries.filter (·.1 ≠ k), m.sorted.filter _⟩

/-- Whether there is an entry under `k`. -/
def contains (m : TextMap) (k : String) : Bool := (m.get? k).isSome

/-- The map of a list of entries in which a later entry replaces an earlier one
    with the same key. -/
def ofList (l : List (String × String)) : TextMap :=
  l.foldl (fun m e => m.insert e.1 e.2) empty

theorem lookup_cons_of_ne {k : String} {e : String × String} (h : ¬ k = e.1)
    (l : List (String × String)) : (e :: l).lookup k = l.lookup k := by
  rw [List.lookup_cons, beq_eq_false_iff_ne.2 h]

theorem lookup_place_self (k v : String) (l : List (String × String)) :
    (place k v l).lookup k = some v := by
  induction l with
  | nil => simp [place]
  | cons a l ih =>
    simp only [place]
    split
    · simp
    · split
      · simp
      · rename_i hne
        rw [lookup_cons_of_ne hne, ih]

theorem lookup_place_of_ne {k k' : String} (hk : ¬ k' = k) (v : String)
    (l : List (String × String)) : (place k v l).lookup k' = l.lookup k' := by
  induction l with
  | nil => exact lookup_cons_of_ne hk []
  | cons a l ih =>
    simp only [place]
    split
    · exact lookup_cons_of_ne hk _
    · split
      · rename_i hka
        rw [lookup_cons_of_ne hk, lookup_cons_of_ne (hka ▸ hk)]
      · rw [List.lookup_cons, List.lookup_cons, ih]

theorem lookup_filter_ne_self (k : String) (l : List (String × String)) :
    (l.filter (·.1 ≠ k)).lookup k = none := by
  induction l with
  | nil => rfl
  | cons a l ih =>
    by_cases ha : a.1 = k
    · rw [List.filter_cons_of_neg (by simpa using ha), ih]
    · rw [List.filter_cons_of_pos (by simpa using ha), lookup_cons_of_ne (Ne.symm ha), ih]

theorem lookup_filter_ne_of_ne {k k' : String} (hk : ¬ k' = k) (l : List (String × String)) :
    (l.filter (·.1 ≠ k)).lookup k' = l.lookup k' := by
  induction l with
  | nil => rfl
  | cons a l ih =>
    by_cases ha : a.1 = k
    · rw [List.filter_cons_of_neg (by simpa using ha), lookup_cons_of_ne (ha ▸ hk), ih]
    · rw [List.filter_cons_of_pos (by simpa using ha), List.lookup_cons, List.lookup_cons, ih]

theorem get?_insert (m : TextMap) (k v k' : String) :
    (m.insert k v).get? k' = if k' = k then some v else m.get? k' := by
  split
  · rename_i h
    rw [h]
    exact lookup_place_self k v m.entries
  · rename_i h
    exact lookup_place_of_ne h v m.entries

theorem get?_erase (m : TextMap) (k k' : String) :
    (m.erase k).get? k' = if k' = k then none else m.get? k' := by
  split
  · rename_i h
    rw [h]
    exact lookup_filter_ne_self k m.entries
  · rename_i h
    exact lookup_filter_ne_of_ne h m.entries

@[simp] theorem get?_empty (k : String) : empty.get? k = none := rfl

end TextMap

end Clickstream
