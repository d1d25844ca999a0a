import Clickstream.Json.Printer
import Clickstream.Json.Reader
import Clickstream.Proofs.Json.Spelling

/-!
# Documents read back

What is written of a value is read as the same value. This goes through the
tokens, as writing and reading both do: a text *spells* tokens if it is these
tokens as they are written, with blanks between them (`Spells`), however many.

* `Token.isSpelledBy_chars`: what is written of a token is one of its spellings;
* `spells_lines`: a value on lines of its own spells its tokens;
* `ofTokens?_tokens`: from its tokens the value is read;
* `parse_of_spells`, `parse_renderLines`: so the document holds the value that it
  was made of.

Numbers are the only restriction: their fractions are made of digits
(`Json.isLegible`), and what the program writes are whole numbers (`Json.isPlain`). A
string may be anything, also one without a text.
-/

namespace Clickstream.Json

/-! ## Strings -/

/-- The piece of a quoted string that a character is written as. -/
def pieceOf (c : Char) : Piece :=
  if (shortEscapes.find? (·.2 = c)).isNone ∧ c.toNat < 0x20 then .unit c.toNat else .char c

theorem escaped?_of_find? {c : Char} {e : Char × Char} (h : shortEscapes.find? (·.2 = c) = some e) :
    escaped? e.1 = some c ∧ e.1 ≠ 'u' := by
  have hc : e.2 = c := by simpa using List.find?_some h
  have hmem := List.mem_of_find?_eq_some h
  subst hc
  revert e
  decide

theorem unit?_control {n : Nat} (h : n < 0x20) :
    unit? '0' '0' (Hex.digitChar (n / 16)) (Hex.digitChar (n % 16)) = some n := by
  have hi := Hex.digitOf?_digitChar ⟨n / 16, by omega⟩
  have lo := Hex.digitOf?_digitChar ⟨n % 16, by omega⟩
  have zero : Hex.digitOf? '0' = some 0 := by decide
  simp only [unit?, hi, lo, zero, Option.bind_eq_bind, Option.bind_some, Option.pure_def]
  congr 1
  omega

/-- Of a character that is written, one piece is read. -/
theorem scanQuoted_escapeChar (before : List Piece) (c : Char) (cs : List Char) :
    scanQuoted before (escapeChar c ++ cs) = scanQuoted (pieceOf c :: before) cs := by
  cases hc : shortEscapes.find? (·.2 = c) with
  | some e =>
    -- A short escape: its letter is not the one that announces four digits.
    obtain ⟨hletter, hu⟩ := escaped?_of_find? hc
    have hpiece : pieceOf c = .char c := by simp [pieceOf, hc]
    simp only [escapeChar, hc, hpiece, List.cons_append, List.nil_append]
    rw [scanQuoted]
    · simp only [hletter]
    · exact fun _ _ _ _ _ h => absurd h hu
  | none =>
    -- Else a control character is written with four digits, and any other as it is.
    by_cases hlow : c.toNat < 0x20
    · have hpiece : pieceOf c = .unit c.toNat := by simp [pieceOf, hc, hlow]
      simp only [escapeChar, hc, hlow, hpiece, if_true, List.cons_append, List.nil_append]
      rw [scanQuoted, unit?_control hlow]
    · have hpiece : pieceOf c = .char c := by simp [pieceOf, hlow]
      have hquote : c ≠ '"' := fun h => by subst h; revert hc; decide
      have hslash : c ≠ '\\' := fun h => by subst h; revert hc; decide
      simp only [escapeChar, hc, hlow, hpiece, if_false, List.cons_append, List.nil_append]
      rw [scanQuoted]
      · rw [if_neg hlow]
      · exact hquote
      · exact fun _ _ _ _ _ h => absurd h hslash
      · exact fun _ _ h => absurd h hslash

theorem scanQuoted_flatMap_escapeChar (before : List Piece) (s cs : List Char) :
    scanQuoted before (s.flatMap escapeChar ++ '"' :: cs) =
      some (before.reverse ++ s.map pieceOf, cs) := by
  induction s generalizing before with
  | nil => simp [scanQuoted]
  | cons c s ih =>
    rw [List.flatMap_cons, List.append_assoc, scanQuoted_escapeChar, ih]
    simp

/-- A piece that stands for a character by itself, whatever follows. -/
theorem joinUnits_pieceOf (before : List Char) (c : Char) (ps : List Piece) :
    joinUnits before (pieceOf c :: ps) = joinUnits (c :: before) ps := by
  by_cases h : (shortEscapes.find? (·.2 = c)).isNone ∧ c.toNat < 0x20
  · -- A control character is no half of a pair, so nothing has to follow.
    have hhigh : isHighHalf c.toNat = false := by simp [isHighHalf]; omega
    have hlow : isLowHalf c.toNat = false := by simp [isLowHalf]; omega
    rw [pieceOf, if_pos h]
    rcases ps with _ | ⟨d | n, ps⟩ <;> simp [joinUnits, hhigh, hlow, Char.ofNat_toNat]
  · rw [pieceOf, if_neg h, joinUnits]

theorem joinUnits_map_pieceOf (before s : List Char) :
    joinUnits before (s.map pieceOf) = some (before.reverse ++ s) := by
  induction s generalizing before with
  | nil => simp [joinUnits]
  | cons c s ih =>
    rw [List.map_cons, joinUnits_pieceOf, ih]
    simp

/-! ## Tokens -/

/-- Whether a token is one that the program writes: its numbers are whole. -/
def Token.isPlain : Token → Bool
  | .number n => n = .ofNat n.whole
  | _ => true

theorem Token.isLegible_of_isPlain {t : Token} (h : t.isPlain) : t.isLegible := by
  cases t with
  | number n =>
    have hn : n = .ofNat n.whole := by simpa [isPlain] using h
    rw [hn]
    rfl
  | _ => rfl

/-- A text that is the given tokens, with blanks between them. -/
inductive Spells : List Char → List Token → Prop
  | nil : Spells [] []
  | gap {c : Char} {cs : List Char} {ts : List Token} : isGap c → Spells cs ts → Spells (c :: cs) ts
  | token {t : Token} {cs : List Char} {ts : List Token} :
      (t.isWord → EndsWord cs) → Spells cs ts →
      Spells (t.chars ++ cs) (t :: ts)

/-- What is written of a token is one of its spellings. -/
theorem Token.isSpelledBy_chars {t : Token} (ht : t.isLegible) : t.IsSpelledBy t.chars := by
  cases t with
  | openArray | closeArray | openObject | closeObject | colon | comma => exact .punctuation rfl
  | null => exact .word (w := "null".toList) (by simp) (by simp; decide) rfl
  | bool b =>
    cases b with
    | true => exact .word (w := "true".toList) (by simp) (by simp; decide) (by simp [word?])
    | false => exact .word (w := "false".toList) (by simp) (by simp; decide) (by simp [word?])
  | number n =>
    exact .word (numberChars_ne_nil n) (fun _ => isWordChar_of_mem_numberChars ht)
      (word?_numberChars ht)
  | string q =>
    cases q with
    | none =>
      -- What is no text is written as half of a pair, which joins to none again.
      have hchars : "\"\\ud800\"".toList = '"' :: ['\\', 'u', 'd', '8', '0', '0', '"'] := by simp
      have hunit : unit? 'd' '8' '0' '0' = some 0xd800 := by decide
      have hscan : scanQuoted [] ['\\', 'u', 'd', '8', '0', '0', '"'] =
          some ([.unit 0xd800], []) := by simp [scanQuoted, hunit]
      show (Token.string none).IsSpelledBy "\"\\ud800\"".toList
      rw [hchars]
      exact .quoted hscan
    | some s =>
      have hspelled := IsSpelledBy.quoted (scanQuoted_flatMap_escapeChar [] s.toList [])
      rw [List.reverse_nil, List.nil_append, joinUnits_map_pieceOf, List.reverse_nil,
        List.nil_append, Option.map_some, String.ofList_toList] at hspelled
      show (Token.string (some s)).IsSpelledBy (quoted s)
      rwa [quoted, List.cons_append]

theorem Spells.isSpelling {cs : List Char} {ts : List Token} (h : Spells cs ts)
    (hts : ts.all Token.isLegible) : IsSpelling cs ts := by
  induction h with
  | nil => exact .nil
  | gap hc _ ih => exact .gap hc (ih hts)
  | token hcs _ ih =>
    rw [List.all_cons, Bool.and_eq_true] at hts
    exact .token (Token.isSpelledBy_chars hts.1) hcs (ih hts.2)

/-! ## Lines -/

theorem spells_newLine (indent : Nat) {cs : List Char} {ts : List Token} (h : Spells cs ts) :
    Spells (newLine indent ++ cs) ts := by
  refine .gap (by decide) ?_
  induction indent with
  | zero => exact h
  | succ n ih => exact .gap (by decide) ih

theorem spells_token {t : Token} {cs : List Char} {ts : List Token} (h : Spells cs ts)
    (hcs : EndsWord cs) : Spells ([t].flatMap Token.chars ++ cs) (t :: ts) := by
  rw [List.flatMap_singleton]
  exact .token (fun _ => hcs) h

/-- A token of one character. -/
theorem Spells.mark {t : Token} {c : Char} {cs : List Char} {ts : List Token} (h : Spells cs ts)
    (ht : t.chars = [c] ∧ t.isWord = false) : Spells (c :: cs) (t :: ts) := by
  have := Spells.token (t := t) (by simp [ht.2]) h
  rwa [ht.1] at this

theorem spells_name (name : Quote) {cs : List Char} {ts : List Token} (h : Spells cs ts) :
    Spells ((Token.string name).chars ++ ':' :: ' ' :: cs) (.string name :: .colon :: ts) :=
  .token (by simp [Token.isWord]) (.mark (.gap (by decide) h) ⟨rfl, rfl⟩)

mutual

/-- A value on lines of its own spells its tokens. -/
theorem spells_lines (indent : Nat) {cs : List Char} {ts : List Token} (h : Spells cs ts)
    (hcs : EndsWord cs) : ∀ v : Json, Spells (v.lines indent ++ cs) (v.tokens ++ ts)
  | .null => spells_token h hcs
  | .bool _ => spells_token h hcs
  | .number _ => spells_token h hcs
  | .string _ => spells_token h hcs
  | .array [] => by
    have hchars : "[]".toList = ['[', ']'] := by simp
    rw [lines, hchars]
    exact .mark (.mark h ⟨rfl, rfl⟩) ⟨rfl, rfl⟩
  | .object [] => .mark (.mark h ⟨rfl, rfl⟩) ⟨rfl, rfl⟩
  -- The closing bracket stands on its own line, so it ends whatever is before it.
  | .array (v :: items) => by
    have hclose : Spells (newLine indent ++ ']' :: cs) (.closeArray :: ts) :=
      spells_newLine indent (h.mark ⟨rfl, rfl⟩)
    have hitems := spells_itemLines (indent + 2) hclose (endsWord_cons rfl _) (v :: items)
    simpa [lines, tokens] using hitems.mark (t := .openArray) ⟨rfl, rfl⟩
  | .object (f :: fields) => by
    have hclose : Spells (newLine indent ++ '\x7d' :: cs) (.closeObject :: ts) :=
      spells_newLine indent (h.mark ⟨rfl, rfl⟩)
    have hfields := spells_fieldLines (indent + 2) hclose (endsWord_cons rfl _) (f :: fields)
    simpa [lines, tokens] using hfields.mark (t := .openObject) ⟨rfl, rfl⟩

theorem spells_itemLines (indent : Nat) {cs : List Char} {ts : List Token} (h : Spells cs ts)
    (hcs : EndsWord cs) :
    ∀ items : List Json, Spells (itemLines indent items ++ cs) (itemTokens items ++ ts)
  | [] => h
  | [v] => by
    have hv := spells_newLine indent (spells_lines indent h hcs v)
    simpa [itemLines, itemTokens] using hv
  | v :: w :: items => by
    have hrest := (spells_itemLines indent h hcs (w :: items)).mark (t := .comma) ⟨rfl, rfl⟩
    have hv := spells_newLine indent (spells_lines indent hrest (endsWord_cons rfl _) v)
    simpa [itemLines, itemTokens] using hv

theorem spells_fieldLines (indent : Nat) {cs : List Char} {ts : List Token} (h : Spells cs ts)
    (hcs : EndsWord cs) :
    ∀ fields : List (Quote × Json),
      Spells (fieldLines indent fields ++ cs) (fieldTokens fields ++ ts)
  | [] => h
  | [(name, v)] => by
    have hv := spells_newLine indent (spells_name name (spells_lines indent h hcs v))
    simpa [fieldLines, fieldTokens] using hv
  | (name, v) :: f :: fields => by
    have hrest := (spells_fieldLines indent h hcs (f :: fields)).mark (t := .comma) ⟨rfl, rfl⟩
    have hv := spells_newLine indent
      (spells_name name (spells_lines indent hrest (endsWord_cons rfl _) v))
    simpa [fieldLines, fieldTokens] using hv

end

/-! ## Values -/

/-- A value begins like no end of an array, so that it may be the first item. -/
theorem foldlM_step_firstItem (inside : List Frame) (v : Json) (items : List Json)
    (ts : List Token) :
    (itemTokens (v :: items) ++ ts).foldlM Reader.step (.firstItem inside) =
      (itemTokens (v :: items) ++ ts).foldlM Reader.step (.value (.items [] :: inside)) := by
  cases v <;> cases items <;> rfl

mutual

/-- From the tokens of a value, wherever it stands, that value is read. -/
theorem foldlM_step_tokens (inside : List Frame) (ts : List Token) :
    ∀ v : Json, (v.tokens ++ ts).foldlM Reader.step (.value inside) =
      ts.foldlM Reader.step (.after v inside)
  | .null => rfl
  | .bool _ => rfl
  | .number _ => rfl
  | .string _ => rfl
  | .array [] => rfl
  | .object [] => rfl
  | .array (v :: items) => by
    have h := foldlM_step_itemTokens inside [] ts (v :: items) (List.cons_ne_nil v items)
    rw [← foldlM_step_firstItem] at h
    rw [tokens, List.append_assoc]
    exact h
  | .object (f :: fields) => by
    have h := foldlM_step_fieldTokens (r := .firstName inside) inside [] ts (fun _ => rfl)
      (f :: fields) (List.cons_ne_nil f fields)
    rw [tokens, List.append_assoc]
    exact h

/-- From the tokens of the items that are left, the array is read. -/
theorem foldlM_step_itemTokens (inside : List Frame) (before : List Json) (ts : List Token) :
    ∀ items : List Json, items ≠ [] →
      (itemTokens items ++ .closeArray :: ts).foldlM Reader.step
          (.value (.items before :: inside)) =
        ts.foldlM Reader.step (.after (.array (before.reverse ++ items)) inside)
  | [], h => absurd rfl h
  | [v], _ => by
    rw [itemTokens, foldlM_step_tokens _ _ v, ← List.reverse_cons]
    rfl
  | v :: w :: items, _ => by
    have h := foldlM_step_itemTokens inside (v :: before) ts (w :: items) (List.cons_ne_nil w items)
    rw [List.reverse_cons, List.append_assoc] at h
    rw [itemTokens, List.append_assoc, foldlM_step_tokens _ _ v]
    exact h

/-- From the tokens of the fields that are left, the object is read, if a name may
    come next. -/
theorem foldlM_step_fieldTokens (inside : List Frame) (before : List (Quote × Json))
    (ts : List Token) {r : Reader}
    (hr : ∀ name, r.step (.string name) = some (.colon before name inside)) :
    ∀ fields : List (Quote × Json), fields ≠ [] →
      (fieldTokens fields ++ .closeObject :: ts).foldlM Reader.step r =
        ts.foldlM Reader.step (.after (.object (before.reverse ++ fields)) inside)
  | [], h => absurd rfl h
  | [(name, v)], _ => by
    have h := foldlM_step_tokens (.fields before name :: inside) (.closeObject :: ts) v
    rw [fieldTokens, List.cons_append, List.foldlM_cons, hr, ← List.reverse_cons]
    exact h
  | (name, v) :: f :: fields, _ => by
    have hv := foldlM_step_tokens (.fields before name :: inside)
      (.comma :: fieldTokens (f :: fields) ++ .closeObject :: ts) v
    have h := foldlM_step_fieldTokens (r := .name ((name, v) :: before) inside) inside
      ((name, v) :: before) ts (fun _ => rfl) (f :: fields) (List.cons_ne_nil f fields)
    rw [List.reverse_cons, List.append_assoc] at h
    rw [fieldTokens, List.append_assoc, List.cons_append, List.foldlM_cons, hr]
    exact hv.trans h

end

theorem ofTokens?_tokens (v : Json) : ofTokens? v.tokens = some v := by
  have h := foldlM_step_tokens [] [] v
  rw [List.append_nil] at h
  rw [ofTokens?, h]
  rfl

/-- Whether a value is one that the program writes: its numbers are whole. -/
def isPlain (v : Json) : Bool := v.tokens.all Token.isPlain

theorem all_isPlain_fieldTokens {fields : List (Quote × Json)} (h : ∀ f ∈ fields, f.2.isPlain) :
    (fieldTokens fields).all Token.isPlain := by
  induction fields with
  | nil => rfl
  | cons f fields ih =>
    have hf : f.2.tokens.all Token.isPlain := h f List.mem_cons_self
    have hrest := ih fun g hg => h g (List.mem_cons_of_mem _ hg)
    cases fields <;> simp_all [fieldTokens, Token.isPlain]

theorem isPlain_record {fields : List (String × Json)} (h : ∀ f ∈ fields, f.2.isPlain) :
    (record fields).isPlain := by
  have hfields : (fieldTokens (fields.map fun f => (some f.1, f.2))).all Token.isPlain :=
    all_isPlain_fieldTokens (List.forall_mem_map.2 h)
  simp [isPlain, record, tokens, hfields, Token.isPlain]

/-- Whether the numbers of a value can be read as they are written. -/
def isLegible (v : Json) : Bool := v.tokens.all Token.isLegible

theorem isLegible_of_isPlain {v : Json} (h : v.isPlain) : v.isLegible :=
  List.all_eq_true.2 fun t ht => Token.isLegible_of_isPlain (List.all_eq_true.1 h t ht)

/-- A text that spells the tokens of a value holds that value. -/
theorem parse_of_spells {s : String} {v : Json} (h : v.isLegible)
    (hs : Spells s.toList v.tokens) : parse s = some v := by
  rw [parse, tokenize_eq_some_iff.2 (hs.isSpelling h)]
  exact ofTokens?_tokens v

/-- What is written on lines is read back. -/
theorem parse_renderLines {v : Json} (h : v.isPlain) : parse v.renderLines = some v := by
  have hspells := spells_lines 0 .nil endsWord_nil v
  rw [List.append_nil, List.append_nil] at hspells
  refine parse_of_spells (isLegible_of_isPlain h) ?_
  rwa [renderLines, String.toList_ofList]

end Clickstream.Json
