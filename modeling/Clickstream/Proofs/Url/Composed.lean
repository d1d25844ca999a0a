import Clickstream.Unicode.Normal

/-!
# ASCII at the end of a composed text

Whether a text changes when it is composed is up to tables with thousands of
entries. About ASCII the tables say little: no ASCII character is made up of others,
none is a mark, and none is the second of two that are put together. So an ASCII
character at the end of a text is still there when the text is composed
(`composed_concat`).

The tables are texts. `Table.all_cons` goes through them row by row.
-/

namespace Clickstream.Unicode

/-! ## What the tables say about ASCII -/

namespace Table

variable {t : Table} {p : Entry → Bool} {c : Char}

/-- Something holds for all entries of a table if it does for those of the first row
    and of the others. -/
theorem all_cons {row : List Char} {rows : List String}
    (h : ((splitAt (· = ' ') row).filterMap Entry.parse?).all p = true)
    (hs : (ofRows rows).entries.all p = true) :
    (ofRows (String.ofList row :: rows)).entries.all p = true := by
  rw [ofRows] at hs ⊢
  simp only [List.flatMap_cons, List.all_append, String.toList_ofList, h, hs, Bool.and_self]

/-- A table says nothing about a character before all its entries. -/
theorem value?_of_lt {n : Nat} (h : t.entries.all (fun e => n ≤ e.first) = true)
    (hc : c.toNat < n) : t.value? c = none := by
  rw [value?, Option.map_eq_none_iff, List.find?_eq_none]
  intro e he
  have hn : n ≤ e.first := of_decide_eq_true (List.all_eq_true.1 h e he)
  simp only [Entry.covers, Bool.and_eq_true, decide_eq_true_eq, not_and]
  omega

end Table

/-- No composed character is in ASCII, and what it is composed with is not either. -/
theorem all_pairs :
    pairs.entries.all (fun e => 128 ≤ e.first && e.value.tail.all (128 ≤ ·)) = true := by
  unfold pairs
  -- One row after the other: the characters of a row are found by unification, and
  -- the kernel reads them without decoding the row.
  repeat refine Table.all_cons (by decide +kernel) ?_
  rfl

/-- No mark is in ASCII. -/
theorem all_combiningClasses :
    combiningClasses.entries.all (fun e => 128 ≤ e.first) = true := by
  unfold combiningClasses
  repeat refine Table.all_cons (by decide +kernel) ?_
  rfl

variable {c : Char}

theorem decompose?_of_ascii (hc : c.toNat < 128) : decompose? c = none := by
  have hs : decomposeSyllable? c.toNat = none := if_pos (.inl (Nat.lt_trans hc (by decide)))
  have ht : pairs.value? c = none := Table.value?_of_lt (List.all_eq_true.2 fun e he =>
    (Bool.and_eq_true_iff.1 (List.all_eq_true.1 all_pairs e he)).1) hc
  rw [decompose?, hs, ht]

theorem combiningClass_of_ascii (hc : c.toNat < 128) : combiningClass c = 0 := by
  unfold combiningClass
  rw [Table.value?_of_lt all_combiningClasses hc]

theorem compose?_of_ascii (hc : c.toNat < 128) (s : Char) : compose? s c = none := by
  have hs : composeSyllable? s.toNat c.toNat = none := by
    have hv : c.toNat < vowelBase := Nat.lt_trans hc (by decide)
    have ht : c.toNat < trailBase := Nat.lt_trans hc (by decide)
    rw [composeSyllable?, if_neg fun h => Nat.not_le.2 hv h.2.2.1,
      if_neg fun h => Nat.lt_asymm ht h.2.2.2.1]
  have ht : pairs.entries.find? (fun e => e.value = [s.toNat, c.toNat]) = none := by
    rw [List.find?_eq_none]
    intro e he hv
    have hall := (Bool.and_eq_true_iff.1 (List.all_eq_true.1 all_pairs e he)).2
    rw [of_decide_eq_true hv, List.tail_cons, List.all_cons, Bool.and_eq_true] at hall
    exact absurd hc (Nat.not_lt.2 (of_decide_eq_true hall.1))
  rw [compose?, hs, ht, Option.map_none]

/-! ## The end of a composed text -/

theorem sortMarks_concat (h : combiningClass c = 0) (cs : List Char) :
    ∀ before, ∃ ds, sortMarks before (cs ++ [c]) = ds ++ [c] := by
  induction cs with
  | nil => exact fun before => ⟨before.reverse, by simp [sortMarks, h]⟩
  | cons d cs ih =>
    intro before
    rw [List.cons_append, sortMarks]
    split
    · exact ih _
    · exact ih _

theorem composeFrom_concat (h : combiningClass c = 0) (hn : ∀ s, compose? s c = none)
    (cs : List Char) :
    ∀ starter between, ∃ ds, composeFrom starter between (cs ++ [c]) = ds ++ [c] := by
  induction cs with
  | nil =>
    intro starter between
    refine ⟨starter :: between.reverse, ?_⟩
    rw [List.nil_append]
    unfold composeFrom
    dsimp only
    rw [hn, ite_self, h]
    rfl
  | cons d cs ih =>
    intro starter between
    rw [List.cons_append]
    unfold composeFrom
    dsimp only
    split
    · exact ih _ _
    · split
      · obtain ⟨ds, hds⟩ := ih d []
        exact ⟨starter :: between.reverse ++ ds, by rw [hds, List.append_assoc]⟩
      · exact ih _ _

theorem composeAll_concat (h : combiningClass c = 0) (hn : ∀ s, compose? s c = none)
    (cs : List Char) : ∃ ds, composeAll (cs ++ [c]) = ds ++ [c] := by
  induction cs with
  | nil => exact ⟨[], by rw [List.nil_append, composeAll, if_pos h]; rfl⟩
  | cons d cs ih =>
    rw [List.cons_append, composeAll]
    split
    · exact composeFrom_concat h hn cs d []
    · obtain ⟨ds, hds⟩ := ih
      exact ⟨d :: ds, by rw [hds, List.cons_append]⟩

/-- An ASCII character at the end of a text stays there. -/
theorem composed_concat (hc : c.toNat < 128) (cs : List Char) :
    ∃ ds, composed (cs ++ [c]) = ds ++ [c] := by
  have hd : decomposeChar maxDecompositions c = [c] := by
    rw [maxDecompositions, decomposeChar, decompose?_of_ascii hc]
  have h := combiningClass_of_ascii hc
  obtain ⟨ds, hds⟩ := sortMarks_concat h (cs.flatMap (decomposeChar maxDecompositions)) []
  rw [composed, List.flatMap_append, List.flatMap_singleton, hd, hds]
  exact composeAll_concat h (compose?_of_ascii hc) ds

end Clickstream.Unicode
