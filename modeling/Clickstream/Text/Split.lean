/-!
# Splitting a text

* `splitAt_ne_nil`: there is always at least one part;
* `splitAt_append_cons`: a separator parts what is before it from what is after it;
* `splitAt_concat`: any other character at the end is in the last part.
-/

namespace Clickstream

/-- The parts of a text between the characters that satisfy `p`. -/
def splitAt (p : Char → Bool) : List Char → List (List Char)
  | [] => [[]]
  | c :: rest =>
    match splitAt p rest with
    | [] => [[c]]
    | part :: parts => if p c then [] :: part :: parts else (c :: part) :: parts

variable {p : Char → Bool} {c : Char}

theorem splitAt_ne_nil (p : Char → Bool) (cs : List Char) : splitAt p cs ≠ [] := by
  cases cs with
  | nil => simp [splitAt]
  | cons c rest =>
    unfold splitAt
    split
    · simp
    · split <;> simp

theorem splitAt_cons {cs part : List Char} {parts : List (List Char)}
    (h : splitAt p cs = part :: parts) (c : Char) :
    splitAt p (c :: cs) = if p c then [] :: part :: parts else (c :: part) :: parts := by
  rw [splitAt]
  simp only [h]

theorem splitAt_append_cons (h : p c = true) (cs ds : List Char) :
    splitAt p (cs ++ c :: ds) = splitAt p cs ++ splitAt p ds := by
  induction cs with
  | nil =>
    obtain ⟨part, parts, hd⟩ := List.exists_cons_of_ne_nil (splitAt_ne_nil p ds)
    rw [List.nil_append, splitAt_cons hd, if_pos h, hd]
    rfl
  | cons d cs ih =>
    obtain ⟨part, parts, hs⟩ := List.exists_cons_of_ne_nil (splitAt_ne_nil p cs)
    rw [hs, List.cons_append] at ih
    rw [List.cons_append, splitAt_cons ih, splitAt_cons hs]
    split <;> rfl

theorem splitAt_concat (h : p c = false) (cs : List Char) :
    ∃ parts last, splitAt p (cs ++ [c]) = parts ++ [last ++ [c]] := by
  induction cs with
  | nil => exact ⟨[], [], by simp [splitAt, h]⟩
  | cons d cs ih =>
    obtain ⟨parts, last, hs⟩ := ih
    cases parts with
    | nil =>
      rw [List.cons_append, splitAt_cons hs]
      split
      · exact ⟨[[]], last, rfl⟩
      · exact ⟨[], d :: last, rfl⟩
    | cons part parts =>
      rw [List.cons_append, splitAt_cons hs]
      split
      · exact ⟨[] :: part :: parts, last, rfl⟩
      · exact ⟨(d :: part) :: parts, last, rfl⟩

end Clickstream
