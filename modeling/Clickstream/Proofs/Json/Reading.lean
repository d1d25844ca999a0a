import Clickstream.Proofs.Json.RoundTrip

/-!
# What a document holds

A text holds a value if it spells the tokens of the value (`Json.IsHeldBy`). Every such text is
read as the value, and no other.

The tokens are read one by one, and none is lost on the way: at any moment, what the reader stands
inside of and what it has just read spell the tokens so far (`Reader.spelled`). So there is one
sequence of tokens for each value.

* `spelled_of_step`: what is spelled after a token has this token at its end;
* `ofTokens?_eq_some_iff`: a value is read from its own tokens, and from no others;
* `parse_eq_some_iff`: the texts that hold a value are those that spell its tokens.
-/

namespace Clickstream.Json

/-! ## Frames -/

/-- The tokens of items with a comma after each. -/
def itemsBefore (items : List Json) : List Token := items.flatMap fun v => v.tokens ++ [.comma]

/-- The tokens of fields with a comma after each. -/
def fieldsBefore (fields : List (Quote × Json)) : List Token :=
  fields.flatMap fun f => .string f.1 :: .colon :: f.2.tokens ++ [.comma]

theorem itemTokens_concat (items : List Json) (v : Json) :
    itemTokens (items ++ [v]) = itemsBefore items ++ v.tokens := by
  induction items with
  | nil => rfl
  | cons w items ih =>
    have hstep : itemTokens (w :: (items ++ [v])) =
        w.tokens ++ .comma :: itemTokens (items ++ [v]) := by
      cases items <;> rfl
    rw [List.cons_append, hstep, ih, itemsBefore, itemsBefore, List.flatMap_cons]
    simp

theorem fieldTokens_concat (fields : List (Quote × Json)) (name : Quote) (v : Json) :
    fieldTokens (fields ++ [(name, v)]) =
      fieldsBefore fields ++ .string name :: .colon :: v.tokens := by
  induction fields with
  | nil => rfl
  | cons f fields ih =>
    have hstep : fieldTokens (f :: (fields ++ [(name, v)])) =
        .string f.1 :: .colon :: f.2.tokens ++ .comma :: fieldTokens (fields ++ [(name, v)]) := by
      cases fields <;> rfl
    rw [List.cons_append, hstep, ih, fieldsBefore, fieldsBefore, List.flatMap_cons]
    simp

/-- The tokens of a frame up to the current value. -/
def Frame.spelled : Frame → List Token
  | .items before => .openArray :: itemsBefore before.reverse
  | .fields before name => .openObject :: fieldsBefore before.reverse ++ [.string name, .colon]

/-- The tokens of what the reader stands inside of, from the outermost frame on. -/
def spelledInside (inside : List Frame) : List Token := inside.reverse.flatMap Frame.spelled

theorem spelledInside_cons (f : Frame) (inside : List Frame) :
    spelledInside (f :: inside) = spelledInside inside ++ f.spelled := by
  simp [spelledInside]

/-- The tokens that have led a reader to where it is. -/
def Reader.spelled : Reader → List Token
  | .value inside => spelledInside inside
  | .firstItem inside => spelledInside inside ++ [.openArray]
  | .firstName inside => spelledInside inside ++ [.openObject]
  | .name before inside => spelledInside inside ++ .openObject :: fieldsBefore before.reverse
  | .colon before key inside =>
    spelledInside inside ++ .openObject :: fieldsBefore before.reverse ++ [.string key]
  | .after v inside => spelledInside inside ++ v.tokens

theorem spelled_of_start {inside : List Frame} {t : Token} {r : Reader}
    (h : Reader.start inside t = some r) : r.spelled = spelledInside inside ++ [t] := by
  unfold Reader.start at h
  split at h <;> cases h <;> rfl

/-- No token is lost. -/
theorem spelled_of_step {r r' : Reader} {t : Token} (h : r.step t = some r') :
    r'.spelled = r.spelled ++ [t] := by
  unfold Reader.step at h
  split at h
  case h_1 => exact spelled_of_start h
  case h_3 =>
    rw [spelled_of_start h, spelledInside_cons]
    rfl
  all_goals cases h
  all_goals
    simp [Reader.spelled, spelledInside_cons, Frame.spelled, tokens, itemTokens, fieldTokens,
      itemsBefore, fieldsBefore, itemTokens_concat, fieldTokens_concat]

theorem spelled_of_foldlM {r r' : Reader} {ts : List Token}
    (h : ts.foldlM Reader.step r = some r') : r'.spelled = r.spelled ++ ts := by
  induction ts generalizing r with
  | nil =>
    cases h
    exact (List.append_nil _).symm
  | cons t ts ih =>
    rw [List.foldlM_cons] at h
    obtain ⟨r₁, hstep, hrest⟩ := Option.bind_eq_some_iff.1 h
    rw [ih hrest, spelled_of_step hstep, List.append_assoc, List.singleton_append]

/-- A value is read from its own tokens, and from no others. -/
theorem ofTokens?_eq_some_iff {ts : List Token} {v : Json} :
    ofTokens? ts = some v ↔ ts = v.tokens := by
  constructor
  · intro h
    obtain ⟨r, hr, hresult⟩ := Option.bind_eq_some_iff.1 h
    have hspelled := spelled_of_foldlM hr
    unfold Reader.result? at hresult
    split at hresult <;> cases hresult
    exact hspelled.symm
  · rintro rfl
    exact ofTokens?_tokens v

/-- Whether a text spells the tokens of a value. -/
def IsHeldBy (v : Json) (s : String) : Prop := IsSpelling s.toList v.tokens

theorem parse_eq_some_iff {s : String} {v : Json} : parse s = some v ↔ v.IsHeldBy s := by
  constructor
  · intro h
    obtain ⟨ts, hts, hv⟩ := Option.bind_eq_some_iff.1 h
    rw [IsHeldBy, ← ofTokens?_eq_some_iff.1 hv]
    exact tokenize_eq_some_iff.1 hts
  · intro h
    exact Option.bind_eq_some_iff.2 ⟨_, tokenize_eq_some_iff.2 h, ofTokens?_tokens v⟩

/-- What can be read can be written. -/
theorem isLegible_of_isHeldBy {s : String} {v : Json} (h : v.IsHeldBy s) : v.isLegible :=
  h.all_isLegible

end Clickstream.Json
