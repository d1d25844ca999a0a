import Mathlib.Data.List.Basic
import Mathlib.Data.List.TakeWhile
import Mathlib.Data.Option.Basic
import Clickstream.Json.Token

/-!
# Numbers read back

A number is kept as it was written, up to the mark and the sign of its exponent and leading zeros
there. So it is written with a sign or none, digits, perhaps a point with more digits, and perhaps
an exponent, and what is written is read as the same number. The only numbers that are not are
those whose fraction is not made of digits (`Number.isLegible`), and no text spells one of these.

* `number?_numberChars`, `word?_numberChars`: what is written is read;
* `isLegible_of_number?`, `isLegible_of_word?`: what is read can be written.
-/

namespace Clickstream

/-- Whether the fraction of a number is made of digits. -/
def Number.isLegible (n : Number) : Bool := n.fraction.all (· < 10)

namespace Json

/-! ## Digits -/

theorem isDigit_digitChar {d : Nat} (h : d < 10) : Decimal.isDigit (Decimal.digitChar d) := by
  have hread := Decimal.digitOf?_digitChar ⟨d, h⟩
  rw [Decimal.isDigit, hread]
  rfl

theorem isDigit_of_mem_chars {n : Nat} {c : Char} (h : c ∈ Decimal.chars n) :
    Decimal.isDigit c := by
  obtain ⟨d, hd, rfl⟩ := List.mem_map.1 h
  exact isDigit_digitChar (Decimal.lt_of_mem_digits hd)

theorem head?_digits_ne_zero {n : Nat} (hn : n ≠ 0) : (Decimal.digits n).head? ≠ some 0 := by
  induction n using Decimal.digits.induct with
  | case1 n h => simpa [Decimal.digits, h] using hn
  | case2 n h ih =>
    rw [Decimal.digits, if_neg h, List.head?_append_of_ne_nil _ (Decimal.digits_ne_nil _)]
    exact ih (by omega)

/-- A number is written with no leading zeros. -/
theorem digits_canonical (n : Nat) :
    (Decimal.digits n).length = 1 ∨ (Decimal.digits n).head? ≠ some 0 := by
  rcases Nat.eq_zero_or_pos n with rfl | hn
  · exact .inl (by simp [Decimal.digits])
  · exact .inr (head?_digits_ne_zero (by omega))

theorem exists_chars_eq_cons (n : Nat) : ∃ c cs, Decimal.chars n = c :: cs ∧ Decimal.isDigit c := by
  obtain ⟨c, cs, hcs⟩ := List.exists_cons_of_ne_nil
    (show Decimal.chars n ≠ [] by simp [Decimal.chars, Decimal.digits_ne_nil])
  exact ⟨c, cs, hcs, isDigit_of_mem_chars (n := n) (by simp [hcs])⟩

/-- A run of digits is read up to what is none. -/
theorem scanDigits_append {ds : List Nat} {cs : List Char} (hne : ds ≠ [])
    (hds : ∀ d ∈ ds, d < 10) (hcs : ∀ c ∈ cs.head?, Decimal.isDigit c = false) :
    scanDigits (ds.map Decimal.digitChar ++ cs) = some (ds, cs) := by
  have hdigit : ∀ c ∈ ds.map Decimal.digitChar, Decimal.isDigit c :=
    List.forall_mem_map.2 fun d hd => isDigit_digitChar (hds d hd)
  have hstop : cs.takeWhile Decimal.isDigit = [] ∧ cs.dropWhile Decimal.isDigit = cs := by
    cases cs with
    | nil => exact ⟨rfl, rfl⟩
    | cons c cs => simp [hcs c rfl]
  have hread : (ds.map Decimal.digitChar).filterMap Decimal.digitOf? = ds := by
    rw [List.filterMap_map]
    calc ds.filterMap (Decimal.digitOf? ∘ Decimal.digitChar)
        = ds.filterMap some := List.filterMap_congr fun d hd =>
          Decimal.digitOf?_digitChar ⟨d, hds d hd⟩
      _ = ds := List.filterMap_some
  rw [scanDigits, List.takeWhile_append_of_pos hdigit, List.dropWhile_append_of_pos hdigit,
    hstop.1, hstop.2, List.append_nil]
  split
  · rename_i h
    exact absurd (List.map_eq_nil_iff.1 h) hne
  · rw [hread]

theorem lt_of_scanDigits {cs rest : List Char} {ds : List Nat}
    (h : scanDigits cs = some (ds, rest)) : ∀ d ∈ ds, d < 10 := by
  rw [scanDigits] at h
  split at h
  · cases h
  · cases h
    intro d hd
    obtain ⟨c, -, hc⟩ := List.mem_filterMap.1 hd
    rw [Decimal.digitOf?] at hc
    split at hc
    · cases hc
      omega
    · cases hc

/-! ## Numbers -/

/-- An exponent as it is written. -/
def exponentChars : Option Int → List Char
  | none => []
  | some e => 'e' :: (if e < 0 then ['-'] else []) ++ Decimal.chars e.natAbs

/-- What follows the digits of the whole part of a number. -/
def tailChars (n : Number) : List Char :=
  (if n.fraction.isEmpty then [] else '.' :: n.fraction.map Decimal.digitChar) ++
    exponentChars n.exponent

theorem numberChars_eq (n : Number) : numberChars n =
    (if n.negative then ['-'] else []) ++ (Decimal.chars n.whole ++ tailChars n) := by
  obtain ⟨negative, whole, fraction, _ | e⟩ := n <;>
    simp [numberChars, tailChars, exponentChars]

theorem exponent?_exponentChars (e : Option Int) : exponent? (exponentChars e) = some e := by
  cases e with
  | none => rfl
  | some e =>
    by_cases he : e < 0
    · have habs : -(e.natAbs : Int) = e := by omega
      simp only [exponentChars, he, if_true, exponent?, List.cons_append, List.nil_append, true_or,
        Decimal.nat?_chars]
      exact congrArg (fun n => some (some n)) habs
    · have habs : (e.natAbs : Int) = e := by omega
      have hhead : ∀ c rest, Decimal.chars e.natAbs = c :: rest → c ≠ '-' ∧ c ≠ '+' := by
        intro c rest h
        have hdigit : Decimal.isDigit c := isDigit_of_mem_chars (n := e.natAbs) (by simp [h])
        constructor <;> rintro rfl <;> revert hdigit <;> decide
      simp only [exponentChars, he, if_false, exponent?, List.cons_append, List.nil_append,
        true_or, if_true]
      split
      · rename_i h
        exact absurd rfl (hhead _ _ h).1
      · rename_i h
        exact absurd rfl (hhead _ _ h).2
      · rw [Decimal.nat?_chars]
        exact congrArg (fun n => some (some n)) habs

/-- Reads a number after its sign. -/
def unsigned? (negative : Bool) (cs : List Char) : Option Number := do
  let (ds, rest) ← scanDigits cs
  guard (ds.length = 1 ∨ ds.head? ≠ some 0)
  let (fraction, rest) ← match rest with
    | '.' :: rest => scanDigits rest
    | rest => some ([], rest)
  return { negative, whole := Decimal.value ds, fraction, exponent := ← exponent? rest }

theorem number?_minus (cs : List Char) : number? ('-' :: cs) = unsigned? true cs := rfl

theorem number?_of_ne {cs : List Char} (h : ∀ rest, cs ≠ '-' :: rest) :
    number? cs = unsigned? false cs := by
  rw [number?]
  · rfl
  · exact h

theorem unsigned?_chars {n : Number} (h : n.isLegible) :
    unsigned? n.negative (Decimal.chars n.whole ++ tailChars n) = some n := by
  obtain ⟨negative, whole, fraction, exponent⟩ := n
  -- What follows any digits is no digit.
  have hexponent : ∀ c ∈ (exponentChars exponent).head?, Decimal.isDigit c = false ∧ c ≠ '.' := by
    cases exponent with
    | none => exact nofun
    | some e =>
      rintro c ⟨⟩
      decide
  have htail : ∀ c ∈ (tailChars ⟨negative, whole, fraction, exponent⟩).head?,
      Decimal.isDigit c = false := by
    cases fraction with
    | nil => exact fun c hc => (hexponent c hc).1
    | cons d ds =>
      rintro c ⟨⟩
      decide
  have hwhole := scanDigits_append (Decimal.digits_ne_nil whole)
    (fun _ => Decimal.lt_of_mem_digits) htail
  have hguard := (Option.guard_eq_some' ()).2 (digits_canonical whole)
  simp only [unsigned?, Decimal.chars, hwhole, Option.bind_eq_bind, Option.bind_some, hguard,
    Decimal.value_digits]
  cases fraction with
  | nil =>
    show (match exponentChars exponent with | '.' :: rest => _ | rest => _) = _
    split
    · rename_i hdot
      exact absurd rfl (hexponent '.' (by rw [hdot]; rfl)).2
    · rw [exponent?_exponentChars]
      rfl
  | cons d ds =>
    have hds : ∀ e ∈ d :: ds, e < 10 := by simpa [Number.isLegible] using h
    have hfraction := scanDigits_append (List.cons_ne_nil d ds) hds fun c hc => (hexponent c hc).1
    simp only [tailChars, List.isEmpty_cons, Bool.false_eq_true, if_false, List.cons_append,
      hfraction, Option.bind_some, exponent?_exponentChars]
    rfl

/-- A number is read as it is written. -/
theorem number?_numberChars {n : Number} (h : n.isLegible) : number? (numberChars n) = some n := by
  rw [numberChars_eq]
  cases hsign : n.negative with
  | true => rw [if_pos rfl, List.singleton_append, number?_minus, ← hsign, unsigned?_chars h]
  | false =>
    rw [if_neg (by decide), List.nil_append, number?_of_ne, ← hsign, unsigned?_chars h]
    intro rest hrest
    obtain ⟨c, cs, hcs, hdigit⟩ := exists_chars_eq_cons n.whole
    rw [hcs] at hrest
    cases hrest
    revert hdigit
    decide

theorem isLegible_of_unsigned? {negative : Bool} {cs : List Char} {n : Number}
    (h : unsigned? negative cs = some n) : n.isLegible := by
  obtain ⟨⟨ds, rest⟩, -, h⟩ := Option.bind_eq_some_iff.1 h
  obtain ⟨-, -, h⟩ := Option.bind_eq_some_iff.1 h
  have hread {fraction : List Nat} {rest' : List Char}
      (h : (exponent? rest').bind (fun e => some ⟨negative, Decimal.value ds, fraction, e⟩) =
        some n)
      (hlt : ∀ d ∈ fraction, d < 10) : n.isLegible := by
    obtain ⟨e, -, hn⟩ := Option.bind_eq_some_iff.1 h
    cases hn
    simpa [Number.isLegible] using hlt
  dsimp only at h
  split at h
  · obtain ⟨⟨fraction, rest'⟩, hfraction, h⟩ := Option.bind_eq_some_iff.1 h
    exact hread h (lt_of_scanDigits hfraction)
  · exact hread h fun d hd => absurd hd List.not_mem_nil

/-- What is read can be written. -/
theorem isLegible_of_number? {cs : List Char} {n : Number} (h : number? cs = some n) :
    n.isLegible := by
  by_cases hsign : ∃ rest, cs = '-' :: rest
  · obtain ⟨rest, rfl⟩ := hsign
    exact isLegible_of_unsigned? h
  · rw [number?_of_ne (not_exists.1 hsign)] at h
    exact isLegible_of_unsigned? h

/-! ## Words -/

theorem numberChars_ne_nil (n : Number) : numberChars n ≠ [] := by
  obtain ⟨c, cs, hcs, -⟩ := exists_chars_eq_cons n.whole
  simp [numberChars_eq, hcs]

theorem isWordChar_of_isDigit {c : Char} (h : Decimal.isDigit c) : isWordChar c := by
  have hc : 48 ≤ c.toNat ∧ c.toNat ≤ 57 := by
    by_contra hc
    simp [Decimal.isDigit, Decimal.digitOf?, hc] at h
  have : c.isDigit := by simpa [Char.isDigit, UInt32.le_iff_toNat_le] using hc
  simp [isWordChar, Char.isAlphanum, this]

theorem isWordChar_of_mem_tailChars {n : Number} (h : n.isLegible) {c : Char}
    (hc : c ∈ tailChars n) : isWordChar c := by
  rcases List.mem_append.1 hc with hc | hc
  · split at hc
    · cases hc
    · rcases List.mem_cons.1 hc with rfl | hc
      · decide
      · obtain ⟨d, hd, rfl⟩ := List.mem_map.1 hc
        exact isWordChar_of_isDigit (isDigit_digitChar (by simpa using List.all_eq_true.1 h d hd))
  · cases hexponent : n.exponent with
    | none =>
      rw [hexponent] at hc
      cases hc
    | some e =>
      rw [hexponent, exponentChars] at hc
      rcases List.mem_append.1 hc with hc | hc
      · rcases List.mem_cons.1 hc with rfl | hc
        · decide
        · split at hc
          · rw [List.mem_singleton.1 hc]
            decide
          · cases hc
      · exact isWordChar_of_isDigit (isDigit_of_mem_chars hc)

theorem isWordChar_of_mem_numberChars {n : Number} (h : n.isLegible) {c : Char}
    (hc : c ∈ numberChars n) : isWordChar c := by
  rw [numberChars_eq] at hc
  rcases List.mem_append.1 hc with hc | hc
  · split at hc
    · rw [List.mem_singleton.1 hc]
      decide
    · cases hc
  · rcases List.mem_append.1 hc with hc | hc
    · exact isWordChar_of_isDigit (isDigit_of_mem_chars hc)
    · exact isWordChar_of_mem_tailChars h hc

/-- It begins with a sign or a digit, so it is none of the names. -/
theorem word?_numberChars {n : Number} (h : n.isLegible) :
    word? (numberChars n) = some (.number n) := by
  have hhead : ∀ c cs, numberChars n = c :: cs → c = '-' ∨ Decimal.isDigit c := by
    intro c cs hcs
    obtain ⟨d, ds, hds, hdigit⟩ := exists_chars_eq_cons n.whole
    rw [numberChars_eq, hds] at hcs
    split at hcs <;> cases hcs
    · exact .inl rfl
    · exact .inr hdigit
  have hname : ∀ c cs, (c ≠ '-' ∧ Decimal.isDigit c = false) → numberChars n ≠ c :: cs := by
    intro c cs hc hcs
    rcases hhead c cs hcs with rfl | hdigit
    · exact hc.1 rfl
    · rw [hdigit] at hc
      exact absurd hc.2 (by decide)
  rw [word?, if_neg, if_neg, if_neg, number?_numberChars h]
  · rfl
  all_goals simpa using hname _ _ (by decide)

theorem isLegible_of_word? {cs : List Char} {n : Number} (h : word? cs = some (.number n)) :
    n.isLegible := by
  rw [word?] at h
  split at h
  · cases h
  split at h
  · cases h
  split at h
  · cases h
  obtain ⟨m, hm, hmn⟩ := Option.map_eq_some_iff.1 h
  cases hmn
  exact isLegible_of_number? hm

end Json

end Clickstream
