import Clickstream.Proofs.Json.Number

/-!
# Spellings of tokens

A text spells tokens if it is these tokens one after the other, each in one of its spellings
(`Token.IsSpelledBy`), with blanks between them (`IsSpelling`). A word goes on as long as it can, so
whatever follows one must not begin like a word; of any other token it has no part in how the token
is read.

* `exists_of_scanQuoted`: a string is read up to its closing quote;
* `scan_of_isSpelledBy`: a token is read from each of its spellings;
* `tokenize_eq_some_iff`: a text is cut into the tokens that it spells, and into no others.
-/

namespace Clickstream.Json

/-! ## Tokens -/

/-- Whether a token is a number or a name: these end only where no word goes on. -/
def Token.isWord : Token → Bool
  | .null | .bool _ | .number _ => true
  | _ => false

/-- Whether a token can be read as it is written, as far as its numbers go. -/
def Token.isLegible : Token → Bool
  | .number n => n.isLegible
  | _ => true

/-- Whether no word that a text is put after can go on in it. -/
def EndsWord (cs : List Char) : Prop := ∀ c ∈ cs.head?, isWordChar c = false

theorem endsWord_nil : EndsWord [] := by simp [EndsWord]

theorem endsWord_cons {c : Char} (h : isWordChar c = false) (cs : List Char) :
    EndsWord (c :: cs) := by
  rintro d ⟨⟩
  exact h

/-- Whether characters are the given token, in one of its spellings. -/
inductive Token.IsSpelledBy : Token → List Char → Prop
  | punctuation {c : Char} {t : Token} : punctuation? c = some t → IsSpelledBy t [c]
  | word {w : List Char} {t : Token} : w ≠ [] → (∀ c ∈ w, isWordChar c) → word? w = some t →
    IsSpelledBy t w
  | quoted {w : List Char} {ps : List Piece} : scanQuoted [] w = some (ps, []) →
    IsSpelledBy (.string ((joinUnits [] ps).map String.ofList)) ('"' :: w)

/-- A text that is the given tokens, each in any spelling, with blanks between them. -/
inductive IsSpelling : List Char → List Token → Prop
  | nil : IsSpelling [] []
  | gap {c : Char} {cs : List Char} {ts : List Token} : isGap c → IsSpelling cs ts →
    IsSpelling (c :: cs) ts
  | token {t : Token} {w cs : List Char} {ts : List Token} : t.IsSpelledBy w →
    (t.isWord → EndsWord cs) → IsSpelling cs ts → IsSpelling (w ++ cs) (t :: ts)

/-! ## Scanning -/

/-- A character of a word is nothing else. -/
theorem not_special_of_isWordChar {c : Char} (h : isWordChar c) :
    isGap c = false ∧ c ≠ '"' ∧ punctuation? c = none := by
  refine ⟨Bool.eq_false_iff.2 fun hgap => ?_, fun hquote => ?_, ?_⟩
  · simp only [isGap, Bool.or_eq_true, decide_eq_true_eq] at hgap
    rcases hgap with ((rfl | rfl) | rfl) | rfl <;> revert h <;> decide
  · subst hquote
    revert h
    decide
  · unfold punctuation?
    split <;> first | rfl | (revert h; decide)

theorem scan_quote (before : List Token) {cs rest : List Char} {ps : List Piece}
    (h : scanQuoted [] cs = some (ps, rest)) :
    scan before ('"' :: cs) =
      scan (.string ((joinUnits [] ps).map String.ofList) :: before) rest := by
  have hgap : isGap '"' = false := by decide
  rw [scan]
  simp only [hgap, Bool.false_eq_true, if_false, if_true]
  split <;> simp_all

theorem scan_word (before : List Token) {w cs : List Char} {t : Token} (hword : word? w = some t)
    (hne : w ≠ []) (hw : ∀ c ∈ w, isWordChar c) (hcs : EndsWord cs) :
    scan before (w ++ cs) = scan (t :: before) cs := by
  obtain ⟨c, w, rfl⟩ := List.exists_cons_of_ne_nil hne
  obtain ⟨hgap, hquote, hpunct⟩ := not_special_of_isWordChar (hw c List.mem_cons_self)
  have hw' : ∀ d ∈ w, isWordChar d := fun d hd => hw d (List.mem_cons_of_mem _ hd)
  -- All of `w` goes into the word, and nothing of `cs`.
  have htake : (w ++ cs).takeWhile isWordChar = w := by
    rw [List.takeWhile_append_of_pos hw']
    cases cs with
    | nil => simp
    | cons d cs => simp [hcs d rfl]
  have hdrop : (w ++ cs).dropWhile isWordChar = cs := by
    rw [List.dropWhile_append_of_pos hw']
    cases cs with
    | nil => rfl
    | cons d cs => simp [hcs d rfl]
  rw [List.cons_append, scan, if_neg (by simp [hgap]), if_neg hquote]
  simp only [hpunct, hw c List.mem_cons_self, htake, hdrop, hword, if_true]

theorem not_special_of_punctuation? {c : Char} {t : Token} (h : punctuation? c = some t) :
    isGap c = false ∧ c ≠ '"' ∧ t.isWord = false := by
  unfold punctuation? at h
  split at h <;> cases h <;> decide

theorem scan_punctuation (before : List Token) {c : Char} {t : Token}
    (h : punctuation? c = some t) (cs : List Char) :
    scan before (c :: cs) = scan (t :: before) cs := by
  obtain ⟨hgap, hquote, -⟩ := not_special_of_punctuation? h
  rw [scan, if_neg (by simp [hgap]), if_neg hquote]
  simp only [h]

theorem isWord_of_word? {w : List Char} {t : Token} (h : word? w = some t) : t.isWord := by
  unfold word? at h
  split at h
  · cases h
    rfl
  split at h
  · cases h
    rfl
  split at h
  · cases h
    rfl
  obtain ⟨n, -, rfl⟩ := Option.map_eq_some_iff.1 h
  rfl

/-- What stands in quotes is read up to the closing quote, whatever follows it. -/
theorem exists_of_scanQuoted {before ps : List Piece} {cs rest : List Char}
    (h : scanQuoted before cs = some (ps, rest)) :
    ∃ w, cs = w ++ rest ∧ ∀ rest', scanQuoted before (w ++ rest') = some (ps, rest') := by
  fun_induction scanQuoted before cs with
  | case1 => cases h
  | case2 before rest' =>
    cases h
    exact ⟨['"'], rfl, fun _ => rfl⟩
  | case3 => cases h
  | case4 before a b c d cs n hn ih =>
    obtain ⟨w, rfl, hw⟩ := ih h
    refine ⟨'\\' :: 'u' :: a :: b :: c :: d :: w, rfl, fun rest' => ?_⟩
    simp [scanQuoted, hn, hw]
  | case5 => cases h
  | case6 before letter cs hshape c hc ih =>
    obtain ⟨w, rfl, hw⟩ := ih h
    refine ⟨'\\' :: letter :: w, rfl, fun rest' => ?_⟩
    -- A letter that stands for a character is not the mark of a unit.
    have hu : letter ≠ 'u' := by
      rintro rfl
      exact absurd (hc.symm.trans (by decide)) (Option.some_ne_none c)
    rw [List.cons_append, List.cons_append, scanQuoted]
    · simp only [hc, hw]
    · exact fun _ _ _ _ _ hletter _ => hu hletter
  | case7 => cases h
  | case8 before c cs hquote hescape hletter hlow ih =>
    obtain ⟨w, rfl, hw⟩ := ih h
    refine ⟨c :: w, rfl, fun rest' => ?_⟩
    -- A backslash is followed by some letter, or else the string has no end.
    have hbackslash : c ≠ '\\' := by
      intro hc
      cases hcs : w ++ rest with
      | nil =>
        rw [hcs] at h
        cases h
      | cons letter cs => exact hletter letter cs hc hcs
    rw [List.cons_append, scanQuoted]
    · rw [if_neg hlow, hw]
    · exact hquote
    · exact fun _ _ _ _ _ hc _ => hbackslash hc
    · exact fun _ _ hc _ => hbackslash hc

theorem scan_of_isSpelledBy (before : List Token) {t : Token} {w cs : List Char}
    (ht : t.IsSpelledBy w) (hcs : t.isWord → EndsWord cs) :
    scan before (w ++ cs) = scan (t :: before) cs := by
  cases ht with
  | punctuation h => exact scan_punctuation before h cs
  | word hne hw h => exact scan_word before h hne hw (hcs (isWord_of_word? h))
  | @quoted w ps h =>
    obtain ⟨w', hw', hscan⟩ := exists_of_scanQuoted h
    rw [List.append_nil] at hw'
    rw [hw', List.cons_append, scan_quote before (hscan cs)]

theorem scan_of_isSpelling {cs : List Char} {ts : List Token} (h : IsSpelling cs ts)
    (before : List Token) : scan before cs = some (before.reverse ++ ts) := by
  induction h generalizing before with
  | nil => simp [scan]
  | gap hc _ ih =>
    rw [scan, if_pos hc]
    exact ih before
  | token ht hcs _ ih =>
    rw [scan_of_isSpelledBy before ht hcs, ih]
    simp

/-- What a text is cut into is spelled by it. -/
theorem exists_of_scan {before ts : List Token} {cs : List Char} (h : scan before cs = some ts) :
    ∃ rest, ts = before.reverse ++ rest ∧ IsSpelling cs rest := by
  fun_induction scan before cs with
  | case1 before =>
    cases h
    exact ⟨[], (List.append_nil _).symm, .nil⟩
  | case2 _ _ _ hgap ih =>
    obtain ⟨rest, hts, hrest⟩ := ih h
    exact ⟨rest, hts, .gap hgap hrest⟩
  | case3 | case6 | case8 => cases h
  | case4 before cs ps cs' hscan _ _ ih =>
    obtain ⟨rest, hts, hrest⟩ := ih h
    obtain ⟨w, rfl, hw⟩ := exists_of_scanQuoted hscan
    refine ⟨_ :: rest, by simpa using hts, ?_⟩
    have hquoted := hw []
    rw [List.append_nil] at hquoted
    exact .token (.quoted hquoted) nofun hrest
  | case5 before c cs hgap hquote t ht ih =>
    obtain ⟨rest, hts, hrest⟩ := ih h
    refine ⟨t :: rest, by simpa using hts, ?_⟩
    exact .token (.punctuation ht) (by simp [(not_special_of_punctuation? ht).2.2]) hrest
  | case7 before c cs hgap hquote hpunct hc t ht _ ih =>
    obtain ⟨rest, hts, hrest⟩ := ih h
    refine ⟨t :: rest, by simpa using hts, ?_⟩
    have hspelling := IsSpelling.token (.word (List.cons_ne_nil _ _) ?_ ht) (fun _ => ?_) hrest
    · rwa [List.cons_append, List.takeWhile_append_dropWhile] at hspelling
    · exact List.forall_mem_cons.2 ⟨hc, fun _ => List.mem_takeWhile_imp⟩
    · intro d hd
      have hnot := List.head?_dropWhile_not isWordChar cs
      rw [Option.mem_def.1 hd] at hnot
      simpa using hnot

/-- A text is cut into the tokens that it spells, and into no others. -/
theorem tokenize_eq_some_iff {cs : List Char} {ts : List Token} :
    tokenize cs = some ts ↔ IsSpelling cs ts := by
  constructor
  · intro h
    obtain ⟨rest, rfl, hrest⟩ := exists_of_scan h
    exact hrest
  · intro h
    exact scan_of_isSpelling h []

theorem IsSpelling.all_isLegible {cs : List Char} {ts : List Token} (h : IsSpelling cs ts) :
    ts.all Token.isLegible := by
  have hlegible {t : Token} {w : List Char} (h : t.IsSpelledBy w) : t.isLegible := by
    cases h with
    | punctuation h =>
      unfold punctuation? at h
      split at h <;> cases h <;> rfl
    | word _ _ h =>
      cases t with
      | number n => exact isLegible_of_word? h
      | _ => rfl
    | quoted => rfl
  induction h with
  | nil => rfl
  | gap _ _ ih => exact ih
  | token ht _ _ ih => exact List.all_cons ▸ Bool.and_eq_true_iff.2 ⟨hlegible ht, ih⟩

end Clickstream.Json
