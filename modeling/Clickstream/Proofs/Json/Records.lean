import Clickstream.Json.Codec
import Clickstream.Proofs.Json.RoundTrip
import Clickstream.Proofs.Storage.Medium

/-!
# Records read back

What the program writes of a value is an object with nothing between its tokens, and it is read
in two steps: the text is parsed, and the fields are looked up. The first step gives the document
back as it was written. In the second a field is found by its name, so no two fields may have one
name; and a tagged record is read from a copy of the document, so it has to be one that can be
kept: with texts as its strings, numbers of a finite size, and no great depth
(`Json.IsWritable`).

* `parse_render`: a document with nothing between its tokens is read back;
* `Number.overflows_ofNat`: a number of 64 bits can be kept;
* `knownFields?_record`, `tagged?_and_knownFields?`: the fields of a record are found, also if it
  is tagged.
-/

namespace Clickstream

/-! ## Numbers -/

theorem Binary64.nearest_le (n : Nat) : nearest n ≤ 2 * n := by
  unfold nearest
  split
  · omega
  · rename_i hn
    have hn : n ≠ 0 := by
      rintro rfl
      exact hn (by decide)
    have hround : roundShift n (n.log2 - 52) ≤ n / 2 ^ (n.log2 - 52) + 1 := by
      simp only [roundShift, Nat.pow_eq]
      split <;> (try split) <;> omega
    have hpow : 2 ^ (n.log2 - 52) ≤ n :=
      (Nat.pow_le_pow_right (by decide) (Nat.sub_le ..)).trans (Nat.log2_self_le hn)
    calc roundShift n (n.log2 - 52) * Nat.pow 2 (n.log2 - 52)
        ≤ (n / 2 ^ (n.log2 - 52) + 1) * 2 ^ (n.log2 - 52) := Nat.mul_le_mul_right _ hround
      _ = n / 2 ^ (n.log2 - 52) * 2 ^ (n.log2 - 52) + 2 ^ (n.log2 - 52) := Nat.succ_mul ..
      _ ≤ n + n := Nat.add_le_add (Nat.div_mul_le_self ..) hpow
      _ = 2 * n := (Nat.two_mul n).symm

namespace Number

theorem le_foldl (s : Nat) (ds : List Nat) : s ≤ ds.foldl (fun n d => 10 * n + d) s := by
  induction ds generalizing s with
  | nil => exact Nat.le_refl s
  | cons d ds ih => exact Nat.le_trans (by omega) (ih (10 * s + d))

/-- No digit of a number of 64 bits is left over. -/
theorem keep_of_lt {s : Nat} {ds : List Nat}
    (h : ds.foldl (fun n d => 10 * n + d) s < Nat.pow 2 64) :
    keep s ds = (ds.foldl (fun n d => 10 * n + d) s, 0) := by
  induction ds generalizing s with
  | nil => rfl
  | cons d ds ih =>
    rw [keep, if_pos (Nat.lt_of_le_of_lt (le_foldl _ ds) h)]
    exact ih h

theorem overflows_ofNat {n : Nat} (h : n < Nat.pow 2 64) : (ofNat n).overflows = false := by
  have hkeep : keep 0 (Decimal.digits n) = (n, 0) := by
    have hvalue : (Decimal.digits n).foldl (fun n d => 10 * n + d) 0 = n := Decimal.value_digits n
    rw [keep_of_lt (by rwa [hvalue]), hvalue]
  have hbound : 2 * Nat.pow 2 64 < Nat.pow 2 1024 - Nat.pow 2 970 := by decide +kernel
  have hone : Binary64.nearest 1 = 1 := Binary64.nearest_of_lt (by decide)
  have hnearest := Binary64.nearest_le n
  have hfinite : Binary64.isInfinite (Binary64.nearest n * 1) = false := by
    simp only [Binary64.isInfinite, decide_eq_false_iff_not]
    omega
  unfold overflows
  rw [Nat.mul_one] at hfinite
  simp [ofNat, hkeep, keep, hone, hfinite]

end Number

namespace Json

/-! ## Documents -/

/-- A token that is no word may stand before anything. -/
theorem Spells.next {t : Token} {cs : List Char} {ts : List Token} (h : Spells cs ts)
    (ht : t.isWord = false) : Spells (t.chars ++ cs) (t :: ts) :=
  .token (by simp [ht]) h

mutual

/-- A value with nothing between its tokens spells them. -/
theorem spells_tokens {cs : List Char} {ts : List Token} (h : Spells cs ts)
    (hcs : EndsWord cs) : ∀ v : Json, Spells (v.tokens.flatMap Token.chars ++ cs) (v.tokens ++ ts)
  | .null | .bool _ | .number _ | .string _ => by
    rw [tokens]
    exact spells_token h hcs
  | .array items => by
    have hclose := h.next (t := .closeArray) rfl
    have hitems := spells_itemTokens hclose (endsWord_cons rfl _) items
    simpa [tokens] using hitems.next (t := .openArray) rfl
  | .object fields => by
    have hclose := h.next (t := .closeObject) rfl
    have hfields := spells_fieldTokens hclose (endsWord_cons rfl _) fields
    simpa [tokens] using hfields.next (t := .openObject) rfl

theorem spells_itemTokens {cs : List Char} {ts : List Token} (h : Spells cs ts)
    (hcs : EndsWord cs) :
    ∀ items : List Json,
      Spells ((itemTokens items).flatMap Token.chars ++ cs) (itemTokens items ++ ts)
  | [] => h
  | [v] => spells_tokens h hcs v
  | v :: w :: items => by
    have hrest := (spells_itemTokens h hcs (w :: items)).next (t := .comma) rfl
    simpa [itemTokens] using spells_tokens hrest (endsWord_cons rfl _) v

theorem spells_fieldTokens {cs : List Char} {ts : List Token} (h : Spells cs ts)
    (hcs : EndsWord cs) :
    ∀ fields : List (Quote × Json),
      Spells ((fieldTokens fields).flatMap Token.chars ++ cs) (fieldTokens fields ++ ts)
  | [] => h
  | [(name, v)] => by
    have hv := (spells_tokens h hcs v).next (t := .colon) rfl
    simpa [fieldTokens] using hv.next (t := .string name) rfl
  | (name, v) :: f :: fields => by
    have hrest := (spells_fieldTokens h hcs (f :: fields)).next (t := .comma) rfl
    have hv := (spells_tokens hrest (endsWord_cons rfl _) v).next (t := .colon) rfl
    simpa [fieldTokens] using hv.next (t := .string name) rfl

end

/-- What is written with nothing between the tokens is read back. -/
theorem parse_render_of_isLegible {v : Json} (h : v.isLegible) : parse v.render = some v := by
  have hspells := spells_tokens .nil endsWord_nil v
  rw [List.append_nil, List.append_nil] at hspells
  refine parse_of_spells h ?_
  rwa [render, String.toList_ofList]

theorem parse_render {v : Json} (h : v.isPlain) : parse v.render = some v :=
  parse_render_of_isLegible (isLegible_of_isPlain h)

theorem all_isPlain_itemTokens {items : List Json} (h : ∀ v ∈ items, v.isPlain) :
    (itemTokens items).all Token.isPlain := by
  induction items with
  | nil => rfl
  | cons v items ih =>
    have hv : v.tokens.all Token.isPlain := h v List.mem_cons_self
    have hrest := ih fun w hw => h w (List.mem_cons_of_mem _ hw)
    cases items <;> simp_all [itemTokens, Token.isPlain]

theorem itemsRetainable_of_forall {items : List Json} (h : ∀ v ∈ items, v.isRetainable) :
    itemsRetainable items := by
  induction items with
  | nil => rfl
  | cons v items ih =>
    obtain ⟨hv, hitems⟩ := List.forall_mem_cons.1 h
    simp [itemsRetainable, hv, ih hitems]

theorem itemsDepth_le {d : Nat} {items : List Json} (h : ∀ v ∈ items, v.depth ≤ d) :
    itemsDepth items ≤ d := by
  induction items with
  | nil => exact Nat.zero_le d
  | cons v items ih =>
    obtain ⟨hv, hitems⟩ := List.forall_mem_cons.1 h
    exact Nat.max_le.2 ⟨hv, ih hitems⟩

theorem fieldsRetainable_of_forall {fields : List (String × Json)}
    (h : ∀ f ∈ fields, f.2.isRetainable) :
    fieldsRetainable (fields.map fun f => (some f.1, f.2)) := by
  induction fields with
  | nil => rfl
  | cons f fields ih =>
    obtain ⟨hf, hfields⟩ := List.forall_mem_cons.1 h
    simp [fieldsRetainable, hf, ih hfields]

theorem fieldsDepth_le {d : Nat} {fields : List (String × Json)} (h : ∀ f ∈ fields, f.2.depth ≤ d) :
    fieldsDepth (fields.map fun f => (some f.1, f.2)) ≤ d := by
  induction fields with
  | nil => exact Nat.zero_le d
  | cons f fields ih =>
    obtain ⟨hf, hfields⟩ := List.forall_mem_cons.1 h
    exact Nat.max_le.2 ⟨hf, ih hfields⟩

/-- Whether a document is one that the program writes, that can be kept, and that is at most so
    deep. -/
structure IsWritable (d : Nat) (v : Json) : Prop where
  isPlain : v.isPlain
  isRetainable : v.isRetainable
  depth_le : v.depth ≤ d

namespace IsWritable

variable {d : Nat}

theorem mono {e : Nat} {v : Json} (h : v.IsWritable d) (hde : d ≤ e) : v.IsWritable e :=
  ⟨h.isPlain, h.isRetainable, h.depth_le.trans hde⟩

theorem text (s : String) : (Json.text s).IsWritable d := ⟨rfl, rfl, Nat.zero_le d⟩

theorem nat {n : Nat} (h : n < Nat.pow 2 64) : (Json.nat n).IsWritable d where
  isPlain := by simp [Json.isPlain, Json.nat, tokens, Token.isPlain, Number.ofNat]
  isRetainable := by simp [Json.nat, Json.isRetainable, Number.overflows_ofNat h]
  depth_le := Nat.zero_le d

theorem array {items : List Json} (h : ∀ v ∈ items, v.IsWritable d) :
    (Json.array items).IsWritable (d + 1) where
  isPlain := by
    simp [Json.isPlain, tokens, Token.isPlain, all_isPlain_itemTokens fun v hv => (h v hv).isPlain]
  isRetainable := itemsRetainable_of_forall fun v hv => (h v hv).isRetainable
  depth_le := Nat.succ_le_succ (itemsDepth_le fun v hv => (h v hv).depth_le)

theorem record {fields : List (String × Json)} (h : ∀ f ∈ fields, f.2.IsWritable d) :
    (Json.record fields).IsWritable (d + 1) where
  isPlain := isPlain_record fun f hf => (h f hf).isPlain
  isRetainable := fieldsRetainable_of_forall fun f hf => (h f hf).isRetainable
  depth_le := Nat.succ_le_succ (fieldsDepth_le fun f hf => (h f hf).depth_le)

end IsWritable

/-! ## Fields -/

@[simp] theorem text?_text (s : String) : (text s).text? = some s := rfl

theorem natBelow?_nat {n bound : Nat} (h : n < bound) : (nat n).natBelow? bound = some n := by
  simp [nat, natBelow?, h]

theorem lt_of_natBelow? {v : Json} {n bound : Nat} (h : v.natBelow? bound = some n) :
    n < bound := by
  cases v with
  | number m => simpa using (Option.filter_eq_some_iff.1 h).2
  | _ => cases h

/-- Fields with names out of a list, each at most once, are found as they were written. -/
theorem knownFields?_record (names : List String) (fields : List (String × Json))
    (hnames : ∀ f ∈ fields, f.1 ∈ names) (hnodup : (fields.map (·.1)).Nodup) :
    (record fields).knownFields? names = some fields := by
  have hfilter : fields.filter (fun f => f.1 ∈ names) = fields :=
    List.filter_eq_self.2 fun f hf => decide_eq_true (hnames f hf)
  simp [knownFields?, record, TextMap.namedFields?_record, hfilter, guard, hnodup]

theorem required?_of_lookup {α : Type} (read : Json → Option α) (fields : List (String × Json))
    (name : String) {v : Json} (h : fields.lookup name = some v) :
    required? read fields name = read v := by
  rw [required?, h]
  rfl

theorem optional?_of_lookup {α : Type} (read : Json → Option α) (fields : List (String × Json))
    (name : String) {v : Json} (h : fields.lookup name = some v) (hv : v ≠ .null) :
    optional? read fields name = (read v).map some := by
  unfold optional?
  rw [h]
  split
  · contradiction
  · rename_i hnull
    exact absurd (Option.some.inj hnull) hv
  · rename_i hsome
    rw [Option.some.inj hsome]

theorem exists_of_required? {α : Type} {read : Json → Option α} {fields : List (String × Json)}
    {name : String} {a : α} (h : required? read fields name = some a) : ∃ v, read v = some a := by
  obtain ⟨v, -, hv⟩ := Option.bind_eq_some_iff.1 h
  exact ⟨v, hv⟩

theorem exists_of_optional? {α : Type} {read : Json → Option α} {fields : List (String × Json)}
    {name : String} {a : α} (h : optional? read fields name = some (some a)) :
    ∃ v, read v = some a := by
  unfold optional? at h
  split at h
  · cases h
  · cases h
  · rename_i v _ _
    obtain ⟨b, hb, hba⟩ := Option.map_eq_some_iff.1 h
    cases hba
    exact ⟨v, hb⟩

/-- A tagged record is found without its tag, if no other field has the name of the tag. -/
theorem tagged?_withTag {tag : String} {fields : List (String × Json)}
    (h : (withTag tag fields).IsWritable maxDepth) (hnames : ∀ f ∈ fields, f.1 ≠ tagName) :
    (withTag tag fields).tagged? = some (tag, record fields) := by
  have hkept : (withTag tag fields).isRetainable ∧ (withTag tag fields).depth ≤ maxDepth :=
    ⟨h.isRetainable, h.depth_le⟩
  have hdoc : withTag tag fields =
      .object ((some tagName, .string (some tag)) :: fields.map fun f => (some f.1, f.2)) := rfl
  have hnone : ∀ f ∈ fields.map (fun f => ((some f.1 : Quote), f.2)), f.1 ≠ some tagName :=
    List.forall_mem_map.2 fun f hf hname => hnames f hf (Option.some.inj hname)
  have htag : (fields.map fun f => ((some f.1 : Quote), f.2)).filter (·.1 = some tagName) = [] :=
    List.filter_eq_nil_iff.2 fun f hf => by simpa using hnone f hf
  have hrest : (fields.map fun f => ((some f.1 : Quote), f.2)).filter (·.1 ≠ some tagName) =
      fields.map fun f => (some f.1, f.2) :=
    List.filter_eq_self.2 fun f hf => decide_eq_true (hnone f hf)
  rw [hdoc] at hkept ⊢
  rw [tagged?, if_pos hkept]
  simp only [List.filter_cons_of_pos, List.filter_cons_of_neg, htag, hrest, decide_true,
    ne_eq, not_true_eq_false, decide_false, Bool.false_eq_true, not_false_eq_true]
  rfl

/-- A tagged record is found with all its fields, if they have names out of a list, each at most
    once, and the tag has another. -/
theorem tagged?_and_knownFields? {tag : String} {fields : List (String × Json)}
    (h : (withTag tag fields).IsWritable maxDepth) (names : List String)
    (hnames : ∀ f ∈ fields, f.1 ∈ names) (hnodup : (fields.map (·.1)).Nodup)
    (htag : tagName ∉ names) :
    (withTag tag fields).tagged? = some (tag, record fields) ∧
      (record fields).knownFields? names = some fields :=
  ⟨tagged?_withTag h fun f hf heq => htag (heq ▸ hnames f hf),
    knownFields?_record names fields hnames hnodup⟩

end Json

end Clickstream
