import Mathlib.Data.List.Forall2
import Clickstream.Proofs.Json.Reading
import Clickstream.Proofs.Json.Records

/-!
# Forms of documents

The fields of a record may stand in any order, and others among them; but no known field may
stand there twice. A *format* says this of a whole document, with the records in it: which
documents agree with a given one (`Format.Agrees`), and in which a known field is given twice
(`Format.Doubled`). There are formats of values that have no fields, of lists, of records and of
tagged records. It is only said what becomes of objects: a record that is written as an array has
no names to put in another order.

A reader follows a format (`Format.IsReadBy`) if it reads agreeing documents alike, and none in
which a known field is doubled. A record reads its fields by name, one after the other, so it is
enough that each of them is read by what follows its own format (`Format.Reads`).

* `Format.isReadBy_list`, `Format.isReadBy_record`, `Format.isReadBy_tagged`: readers of lists and
  records follow formats;
* `Format.IsReadBy.describes`: hence of a type that is read like this, any text that holds an
  agreeing document is a text of the same value.
-/

namespace Clickstream

/-! ## Ordinary values -/

/-- Whether a number is an integer of 64 bits, with a sign or without. -/
structure Number.IsInteger (n : Number) : Prop where
  fraction : n.fraction = []
  exponent : n.exponent = none
  bounded : if n.negative then n.whole ≤ Nat.pow 2 63 else n.whole < Nat.pow 2 64

theorem Number.IsInteger.overflows {n : Number} (h : n.IsInteger) : n.overflows = false := by
  obtain ⟨negative, whole, fraction, exponent⟩ := n
  obtain ⟨rfl, rfl, hbounded⟩ := h
  have hlt : whole < Nat.pow 2 64 := by
    dsimp only at hbounded
    split at hbounded
    · exact Nat.lt_of_le_of_lt hbounded (by decide)
    · exact hbounded
  -- The sign does not matter.
  exact overflows_ofNat hlt

namespace Json

/-- The values that a further field may have: integers of 64 bits and texts, and all that can be
    made of them. -/
inductive IsOrdinary : Json → Prop
  | null : IsOrdinary .null
  | bool (b : Bool) : IsOrdinary (.bool b)
  | integer {n : Number} : n.IsInteger → IsOrdinary (.number n)
  | text (s : String) : IsOrdinary (.text s)
  | array {items : List Json} : (∀ v ∈ items, IsOrdinary v) → IsOrdinary (.array items)
  | object {fields : List (Quote × Json)} :
      (∀ f ∈ fields, f.1.isSome) → (∀ f ∈ fields, IsOrdinary f.2) → IsOrdinary (.object fields)

/-- Whether a property of values is one of everything in them, and ordinary values have it. -/
structure IsHereditary (P : Json → Prop) : Prop where
  null : P .null
  bool : ∀ b, P (.bool b)
  integer : ∀ n : Number, n.IsInteger → P (.number n)
  text : ∀ s, P (.text s)
  array : ∀ items, P (.array items) ↔ ∀ v ∈ items, P v
  object : ∀ fields : List (Quote × Json),
    P (.object fields) ↔ ∀ f ∈ fields, P (.string f.1) ∧ P f.2

theorem IsOrdinary.of_isHereditary {P : Json → Prop} (hP : IsHereditary P) {v : Json}
    (h : v.IsOrdinary) : P v := by
  induction h with
  | null => exact hP.null
  | bool b => exact hP.bool b
  | integer h => exact hP.integer _ h
  | text s => exact hP.text s
  | array _ ih => exact (hP.array _).2 ih
  | object hnames _ ih =>
    refine (hP.object _).2 fun f hf => ⟨?_, ih f hf⟩
    obtain ⟨s, hs⟩ := Option.isSome_iff_exists.1 (hnames f hf)
    rw [hs]
    exact hP.text s

theorem isHereditary_isRetainable : IsHereditary (·.isRetainable) where
  null := rfl
  bool _ := rfl
  integer n h := by simp [isRetainable, h.overflows]
  text _ := rfl
  array items := by
    rw [isRetainable]
    induction items with
    | nil => simp [itemsRetainable]
    | cons v items ih => simp [itemsRetainable, ih]
  object fields := by
    rw [isRetainable]
    induction fields with
    | nil => simp [fieldsRetainable]
    | cons f fields ih => simp [fieldsRetainable, isRetainable, ih]

theorem all_itemTokens_iff {p : Token → Bool} (hp : p .comma) (items : List Json) :
    (itemTokens items).all p ↔ ∀ v ∈ items, v.tokens.all p := by
  induction items with
  | nil => simp [itemTokens]
  | cons v items ih => cases items <;> simp_all [itemTokens]

theorem all_fieldTokens_iff {p : Token → Bool} (hp : p .comma ∧ p .colon)
    (fields : List (Quote × Json)) :
    (fieldTokens fields).all p ↔ ∀ f ∈ fields, p (.string f.1) ∧ f.2.tokens.all p := by
  induction fields with
  | nil => simp [fieldTokens]
  | cons f fields ih => cases fields <;> simp_all [fieldTokens, and_assoc]

theorem isHereditary_isLegible : IsHereditary (·.isLegible) where
  null := rfl
  bool _ := rfl
  integer n h := by
    simp [isLegible, tokens, Token.isLegible, Number.isLegible, h.fraction]
  text _ := rfl
  array items := by
    have := all_itemTokens_iff (p := Token.isLegible) rfl items
    simpa [isLegible, tokens, Token.isLegible] using this
  object fields := by
    have := all_fieldTokens_iff (p := Token.isLegible) ⟨rfl, rfl⟩ fields
    simpa [isLegible, tokens, Token.isLegible] using this

/-! ## Fields by name -/

/-- The field of an object under the name that it has, if that is a text. -/
def nameField (f : Quote × Json) : String × Json := (f.1.getD "", f.2)

theorem namedFields?_eq_some_iff {fields : List (Quote × Json)} {named : List (String × Json)} :
    namedFields? fields = some named ↔
      (∀ f ∈ fields, f.1.isSome) ∧ named = fields.map nameField := by
  induction fields generalizing named with
  | nil => exact ⟨fun h => ⟨nofun, (Option.some.inj h).symm⟩, fun h => congrArg some h.2.symm⟩
  | cons f fields ih =>
    rw [namedFields?] at ih ⊢
    rw [List.mapM_cons]
    obtain ⟨_ | name, v⟩ := f
    · simp
    · constructor
      · intro h
        obtain ⟨first, hfirst, h⟩ := Option.bind_eq_some_iff.1 h
        obtain ⟨rest, hrest, h⟩ := Option.bind_eq_some_iff.1 h
        obtain ⟨hsome, rfl⟩ := ih.1 hrest
        cases hfirst
        cases h
        exact ⟨List.forall_mem_cons.2 ⟨rfl, hsome⟩, rfl⟩
      · rintro ⟨hsome, rfl⟩
        simp only [ih.2 ⟨(List.forall_mem_cons.1 hsome).2, rfl⟩]
        rfl

theorem lookup_eq_some_iff_mem {β : Type} {l : List (String × β)} (h : (l.map (·.1)).Nodup)
    {k : String} {v : β} : l.lookup k = some v ↔ (k, v) ∈ l := by
  induction l with
  | nil => simp
  | cons e l ih =>
    obtain ⟨hnot, hnodup⟩ := List.nodup_cons.1 h
    obtain ⟨k', v'⟩ := e
    rw [List.lookup_cons, List.mem_cons]
    by_cases hk : k = k'
    · subst hk
      have hmem : (k, v) ∉ l := fun hmem => hnot (List.mem_map.2 ⟨_, hmem, rfl⟩)
      simp [hmem, eq_comm]
    · simp [beq_false_of_ne hk, hk, ih hnodup]

end Json

/-! ## Formats -/

/-- Which documents are of one form with a given one, and in which a known field is given
    twice. -/
structure Format where
  Agrees : Json → Json → Prop
  Doubled : Json → Prop
  /-- What is new in an agreeing document is ordinary. -/
  keeps : ∀ P, Json.IsHereditary P → ∀ v v', Agrees v v' → P v → P v'

namespace Format

open Json

/-- Whether two fields have one name, and values that agree if the name is known. -/
inductive FieldAgrees (formats : List (String × Format)) : Quote × Json → Quote × Json → Prop
  | same (f : Quote × Json) : FieldAgrees formats f f
  | known {name : String} {F : Format} {v v' : Json} : formats.lookup name = some F →
    F.Agrees v v' → FieldAgrees formats (some name, v) (some name, v')

/-- Whether a field has none of the given names, and an ordinary value. -/
def IsFurther (names : List String) (f : Quote × Json) : Prop :=
  ∃ name, f.1 = some name ∧ name ∉ names ∧ f.2.IsOrdinary

/-- Whether a record is another one with its fields in any order, its values replaced by agreeing
    ones, and further fields among them. -/
inductive RecordAgrees (formats : List (String × Format)) : Json → Json → Prop
  | same (v : Json) : RecordAgrees formats v v
  | object {fields fields' known further : List (Quote × Json)} :
    List.Forall₂ (FieldAgrees formats) fields known →
    (∀ f ∈ further, IsFurther (formats.map (·.1)) f) → fields'.Perm (known ++ further) →
    RecordAgrees formats (.object fields) (.object fields')

/-- Whether a known field of a record is given twice, or the value of one has such a field. -/
inductive RecordDoubled (formats : List (String × Format)) : Json → Prop
  | twice {before between after : List (Quote × Json)} {name : String} {v w : Json} :
    name ∈ formats.map (·.1) → RecordDoubled formats
      (.object (before ++ (some name, v) :: between ++ (some name, w) :: after))
  | inside {fields : List (Quote × Json)} {name : String} {F : Format} {v : Json} :
    (some name, v) ∈ fields → formats.lookup name = some F → F.Doubled v →
    RecordDoubled formats (.object fields)

theorem exists_of_mem_forall₂ {α β : Type} {R : α → β → Prop} {l : List α} {l' : List β}
    (h : List.Forall₂ R l l') {b : β} (hb : b ∈ l') : ∃ a ∈ l, R a b := by
  induction h with
  | nil => cases hb
  | @cons a b' l l' hab _ ih =>
    rcases List.mem_cons.1 hb with rfl | hb
    · exact ⟨a, List.mem_cons_self, hab⟩
    · obtain ⟨a', ha', hab'⟩ := ih hb
      exact ⟨a', List.mem_cons_of_mem a ha', hab'⟩

theorem RecordAgrees.keeps {formats : List (String × Format)} {P : Json → Prop}
    (hP : IsHereditary P) {v v' : Json} (h : RecordAgrees formats v v') (hv : P v) : P v' := by
  cases h with
  | same => exact hv
  | @object fields fields' known further hknown hfurther hperm =>
    refine (hP.object fields').2 fun f hf => ?_
    rcases List.mem_append.1 (hperm.subset hf) with hf | hf
    · obtain ⟨g, hg, hagrees⟩ := exists_of_mem_forall₂ hknown hf
      obtain ⟨hname, hvalue⟩ := (hP.object fields).1 hv g hg
      cases hagrees with
      | same => exact ⟨hname, hvalue⟩
      | @known name F v v' _ hvv' => exact ⟨hname, F.keeps P hP v v' hvv' hvalue⟩
    · obtain ⟨name, hname, -, hordinary⟩ := hfurther f hf
      rw [hname]
      exact ⟨hP.text name, hordinary.of_isHereditary hP⟩

/-- A value that has no form of its own. -/
def value : Format where
  Agrees v v' := v = v'
  Doubled _ := False
  keeps := by
    rintro P - v _ rfl h
    exact h

/-- A list of values of a format. -/
def list (F : Format) : Format where
  Agrees v v' := ∃ items items', v = .array items ∧ v' = .array items' ∧
    List.Forall₂ F.Agrees items items'
  Doubled v := ∃ items, v = .array items ∧ ∃ w ∈ items, F.Doubled w
  keeps := by
    rintro P hP _ _ ⟨items, items', rfl, rfl, hagrees⟩ h
    refine (hP.array items').2 fun w' hw' => ?_
    obtain ⟨w, hw, hww'⟩ := exists_of_mem_forall₂ hagrees hw'
    exact F.keeps P hP w w' hww' ((hP.array items).1 h w hw)

/-- A record with fields of the given names and formats. -/
def record (formats : List (String × Format)) : Format where
  Agrees := RecordAgrees formats
  Doubled := RecordDoubled formats
  keeps _ hP _ _ := RecordAgrees.keeps hP

/-- Whether a document is an object with the given tag. -/
def HasTag (tag : String) (v : Json) : Prop :=
  ∃ fields, v = .object fields ∧ (some tagName, .text tag) ∈ fields

/-- A tagged record, whose fields depend on the tag. It may not be too deep. -/
def tagged (formats : String → List (String × Format)) : Format where
  Agrees v v' := v'.depth ≤ maxDepth ∧ ∃ tag, HasTag tag v ∧
    RecordAgrees ((tagName, value) :: formats tag) v v'
  Doubled v := RecordDoubled [(tagName, value)] v ∨ ∃ tag, HasTag tag v ∧
    RecordDoubled (formats tag) v
  keeps := by
    rintro P hP v v' ⟨-, tag, -, hagrees⟩ h
    exact hagrees.keeps hP h

/-! ## Readers -/

/-- Whether a reader reads agreeing documents alike, and none in which a known field is
    doubled. -/
structure IsReadBy {α : Type} (F : Format) (read : Json → Option α) : Prop where
  agrees : ∀ {v v' : Json} {a : α}, F.Agrees v v' → read v = some a → read v' = some a
  doubled : ∀ {v : Json}, F.Doubled v → read v = none

variable {α β : Type}

theorem isReadBy_value (read : Json → Option α) : value.IsReadBy read where
  agrees := by
    rintro v _ a rfl h
    exact h
  doubled h := h.elim

theorem isReadBy_none (F : Format) : F.IsReadBy fun _ => (none : Option α) where
  agrees _ h := nomatch h
  doubled _ := rfl

theorem isReadBy_list {F : Format} {read : Json → Option α} (h : F.IsReadBy read) :
    F.list.IsReadBy fun v => do (← v.items?).mapM read where
  agrees := by
    rintro _ _ as ⟨items, items', rfl, rfl, hagrees⟩ hread
    simp only [items?, Option.bind_eq_bind, Option.bind_some] at hread ⊢
    induction hagrees generalizing as with
    | nil => exact hread
    | cons hvv' _ ih =>
      rw [List.mapM_cons] at hread ⊢
      obtain ⟨a, ha, hread⟩ := Option.bind_eq_some_iff.1 hread
      obtain ⟨as, has, hread⟩ := Option.bind_eq_some_iff.1 hread
      rw [h.agrees hvv' ha, ih has]
      exact hread
  doubled := by
    rintro _ ⟨items, rfl, w, hw, hdoubled⟩
    simp only [items?, Option.bind_eq_bind, Option.bind_some]
    induction items with
    | nil => cases hw
    | cons v items ih =>
      rw [List.mapM_cons]
      rcases List.mem_cons.1 hw with rfl | hw
      · rw [h.doubled hdoubled]
        rfl
      · rw [ih hw]
        cases read v <;> rfl

/-! ## Fields -/

/-- Whether the known fields of one record agree with those of another. -/
def KnownAgree (formats : List (String × Format)) (known known' : List (String × Json)) : Prop :=
  ∀ name F, formats.lookup name = some F →
    Option.Rel (fun v v' => v = v' ∨ F.Agrees v v') (known.lookup name) (known'.lookup name)

/-- Whether agreeing records are read alike, and none in which the value of one of the given
    fields has a field doubled. -/
structure Reads (formats : List (String × Format)) (names : List String)
    (read : List (String × Json) → Option α) : Prop where
  agrees : ∀ {known known' : List (String × Json)} {a : α}, KnownAgree formats known known' →
    read known = some a → read known' = some a
  doubled : ∀ {known : List (String × Json)} {name : String} {F : Format} {v : Json},
    name ∈ names → formats.lookup name = some F → known.lookup name = some v → F.Doubled v →
    read known = none

variable {formats : List (String × Format)} {names names' : List String} {name : String}

theorem reads_pure (a : α) : Reads formats [] fun _ => some a where
  agrees _ h := h
  doubled hname := nomatch hname

theorem Reads.bind {read : List (String × Json) → Option α}
    {next : α → List (String × Json) → Option β} (h : Reads formats names read)
    (hnext : ∀ a, Reads formats names' (next a)) :
    Reads formats (names ++ names') fun known => (read known).bind fun a => next a known where
  agrees hagree hread := by
    obtain ⟨a, ha, hread⟩ := Option.bind_eq_some_iff.1 hread
    exact Option.bind_eq_some_iff.2 ⟨a, h.agrees hagree ha, (hnext a).agrees hagree hread⟩
  doubled hname hF hv hdoubled := by
    rw [Option.bind_eq_none_iff]
    intro a ha
    rcases List.mem_append.1 hname with hname | hname
    · rw [h.doubled hname hF hv hdoubled] at ha
      cases ha
    · exact (hnext a).doubled hname hF hv hdoubled

theorem reads_required {F : Format} {read : Json → Option α} (hF : formats.lookup name = some F)
    (h : F.IsReadBy read) : Reads formats [name] fun known => required? read known name where
  agrees {known known' a} hagree hread := by
    obtain ⟨v, hv, ha⟩ := Option.bind_eq_some_iff.1 hread
    have hrel := hagree name F hF
    rw [hv] at hrel
    cases hv' : known'.lookup name with
    | none =>
      rw [hv'] at hrel
      cases hrel
    | some v' =>
      rw [hv'] at hrel
      rw [required?_of_lookup read known' name hv']
      cases hrel with
      | some hvv' =>
        rcases hvv' with rfl | hvv'
        · exact ha
        · exact h.agrees hvv' ha
  doubled {known name' F' v} hname hF' hv hdoubled := by
    obtain rfl := List.mem_singleton.1 hname
    rw [hF] at hF'
    cases hF'
    rw [required?_of_lookup read known _ hv, h.doubled hdoubled]

theorem reads_value {read : Json → Option α} (hF : formats.lookup name = some value) :
    Reads formats [name] fun known => required? read known name :=
  reads_required hF (isReadBy_value read)

/-- A field that may be missing has a value without a form of its own. -/
theorem reads_optional {read : Json → Option α} (hF : formats.lookup name = some value) :
    Reads formats [name] fun known => optional? read known name where
  agrees {known known' a} hagree hread := by
    have hlookup : known'.lookup name = known.lookup name := by
      have hrel := hagree name value hF
      rcases hv : known.lookup name with _ | v <;> rcases hv' : known'.lookup name with _ | v' <;>
        rw [hv, hv'] at hrel <;> cases hrel
      rename_i h
      exact congrArg some (h.elim Eq.symm Eq.symm)
    rw [optional?] at hread ⊢
    rwa [hlookup]
  doubled hname hF' _ hdoubled := by
    obtain rfl := List.mem_singleton.1 hname
    rw [hF] at hF'
    cases hF'
    exact hdoubled.elim

/-! ## Records -/

/-- The known fields of an object whose names are all texts. -/
def knownOf (names : List String) (fields : List (Quote × Json)) : List (String × Json) :=
  (fields.map nameField).filter fun f => names.contains f.1

theorem knownFields?_object {fields : List (Quote × Json)} (h : ∀ f ∈ fields, f.1.isSome) :
    (Json.object fields).knownFields? names =
      if ((knownOf names fields).map (·.1)).Nodup then some (knownOf names fields) else none := by
  have hnamed := namedFields?_eq_some_iff.2 ⟨h, rfl⟩
  simp only [knownFields?, hnamed, Option.bind_eq_bind, Option.bind_some]
  by_cases hnodup : ((knownOf names fields).map (·.1)).Nodup
  · rw [if_pos hnodup]
    exact Option.bind_eq_some_iff.2 ⟨(), (Option.guard_eq_some' ()).2 hnodup, rfl⟩
  · rw [if_neg hnodup]
    exact Option.bind_eq_none_iff.2 fun u hu => absurd ((Option.guard_eq_some' u).1 hu) hnodup

theorem isSome_of_knownFields? {fields : List (Quote × Json)} {known : List (String × Json)}
    (h : (Json.object fields).knownFields? names = some known) : ∀ f ∈ fields, f.1.isSome := by
  obtain ⟨named, hnamed, -⟩ := Option.bind_eq_some_iff.1 h
  exact (namedFields?_eq_some_iff.1 hnamed).1

/-- The known fields that are read are those of the object, each of them once. -/
theorem eq_knownOf {fields : List (Quote × Json)} {known : List (String × Json)}
    (h : (Json.object fields).knownFields? names = some known) :
    known = knownOf names fields ∧ (known.map (·.1)).Nodup := by
  rw [knownFields?_object (isSome_of_knownFields? h)] at h
  split at h
  · cases h
    exact ⟨rfl, ‹_›⟩
  · cases h

theorem knownOf_append (fields fields' : List (Quote × Json)) :
    knownOf names (fields ++ fields') = knownOf names fields ++ knownOf names fields' := by
  simp [knownOf]

theorem knownOf_further {further : List (Quote × Json)}
    (h : ∀ f ∈ further, IsFurther names f) : knownOf names further = [] := by
  refine List.filter_eq_nil_iff.2 (List.forall_mem_map.2 fun f hf => ?_)
  obtain ⟨name, hname, hnot, -⟩ := h f hf
  simpa [nameField, hname] using hnot

theorem knownOf_cons (f : Quote × Json) (fields : List (Quote × Json)) :
    knownOf names (f :: fields) = if names.contains (nameField f).1 then
      nameField f :: knownOf names fields else knownOf names fields := by
  rw [knownOf, List.map_cons, List.filter_cons]
  rfl

/-- Agreeing fields are known under the same names, with agreeing values. -/
theorem knownAgree_of_forall₂ (names : List String) {fields known : List (Quote × Json)}
    (h : List.Forall₂ (FieldAgrees formats) fields known) :
    (knownOf names known).map (·.1) = (knownOf names fields).map (·.1) ∧
      KnownAgree formats (knownOf names fields) (knownOf names known) := by
  induction h with
  | nil => exact ⟨rfl, fun _ _ _ => .none⟩
  | @cons f g fields known hfg _ ih =>
    obtain ⟨hnames, hagree⟩ := ih
    have hname : (nameField g).1 = (nameField f).1 := by cases hfg <;> rfl
    rw [knownOf_cons, knownOf_cons, hname]
    split
    · refine ⟨by rw [List.map_cons, List.map_cons, hname, hnames], fun name F hF => ?_⟩
      rw [List.lookup_cons, List.lookup_cons, hname]
      by_cases hk : name = (nameField f).1
      · rw [beq_iff_eq.2 hk]
        cases hfg with
        | same => exact .some (.inl rfl)
        | @known name' F' v v' hF' hvv' =>
          obtain rfl : name = name' := hk
          rw [hF] at hF'
          cases hF'
          exact .some (.inr hvv')
      · rw [beq_false_of_ne hk]
        exact hagree name F hF
    · exact ⟨hnames, hagree⟩

theorem lookup_eq_of_perm {l l' : List (String × β)} (h : l.Perm l')
    (hnodup : (l'.map (·.1)).Nodup) (k : String) : l.lookup k = l'.lookup k := by
  ext v
  rw [lookup_eq_some_iff_mem ((h.map _).nodup_iff.2 hnodup), lookup_eq_some_iff_mem hnodup,
    h.mem_iff]

theorem mem_of_lookup_eq_some {l : List (String × β)} {k : String} {v : β}
    (h : l.lookup k = some v) : k ∈ l.map (·.1) := by
  obtain ⟨before, after, rfl, -⟩ := List.lookup_eq_some_iff.1 h
  simp

theorem sublist_of_twice (before between after : List β) (a b : β) :
    [a, b].Sublist (before ++ a :: between ++ b :: after) := by
  rw [List.append_assoc, List.cons_append]
  exact .trans (.cons_cons _ (List.singleton_sublist.2 (by simp))) (List.sublist_append_right ..)

theorem not_nodup_of_twice {before between after : List (Quote × Json)} {v w : Json}
    (hname : name ∈ names) : ¬ ((knownOf names
      (before ++ (some name, v) :: between ++ (some name, w) :: after)).map (·.1)).Nodup := by
  have hsub := sublist_of_twice before between after ((some name : Quote), v) (some name, w)
  have htwo : (knownOf names [((some name : Quote), v), (some name, w)]).map (·.1) =
      [name, name] := by
    simp [knownOf, nameField, hname]
  intro hnodup
  have hone : ((knownOf names [((some name : Quote), v), (some name, w)]).map (·.1)).Nodup :=
    hnodup.sublist (((hsub.map nameField).filter _).map (·.1))
  rw [htwo] at hone
  simp at hone

theorem isSome_of_agrees {fields fields' known further : List (Quote × Json)}
    (hknown : List.Forall₂ (FieldAgrees formats) fields known)
    (hfurther : ∀ f ∈ further, IsFurther names f) (hperm : fields'.Perm (known ++ further))
    (h : ∀ f ∈ fields, f.1.isSome) : ∀ f ∈ fields', f.1.isSome := by
  intro f hf
  rcases List.mem_append.1 (hperm.subset hf) with hf | hf
  · obtain ⟨g, hg, hagrees⟩ := exists_of_mem_forall₂ hknown hf
    cases hagrees with
    | same => exact h _ hg
    | known => rfl
  · obtain ⟨name, hname, -⟩ := hfurther f hf
    rw [hname]
    rfl

theorem isReadBy_record {read : List (String × Json) → Option α}
    (h : Reads formats (formats.map (·.1)) read) :
    (record formats).IsReadBy fun v => (v.knownFields? (formats.map (·.1))).bind read where
  agrees {v v' a} hvv' hread := by
    cases hvv' with
    | same => exact hread
    | @object fields fields' known further hknown hfurther hperm =>
      obtain ⟨K, hK, hread⟩ := Option.bind_eq_some_iff.1 hread
      obtain ⟨rfl, hnodup⟩ := eq_knownOf hK
      obtain ⟨hnames, hagree⟩ := knownAgree_of_forall₂ (formats.map (·.1)) hknown
      have hsome := isSome_of_agrees hknown hfurther hperm (isSome_of_knownFields? hK)
      have hknownOf : (knownOf (formats.map (·.1)) fields').Perm
          (knownOf (formats.map (·.1)) known) := by
        have := (hperm.map nameField).filter fun f => (formats.map (·.1)).contains f.1
        rwa [← knownOf, ← knownOf, knownOf_append, knownOf_further hfurther,
          List.append_nil] at this
      rw [← hnames] at hnodup
      rw [knownFields?_object hsome, if_pos ((hknownOf.map _).nodup_iff.2 hnodup)]
      refine h.agrees (fun name F hF => ?_) hread
      rw [lookup_eq_of_perm hknownOf hnodup]
      exact hagree name F hF
  doubled {v} hv := by
    refine Option.bind_eq_none_iff.2 fun K hK => ?_
    cases hv with
    | twice hname =>
      obtain ⟨rfl, hnodup⟩ := eq_knownOf hK
      exact absurd hnodup (not_nodup_of_twice hname)
    | @inside fields name F v hmem hF hdoubled =>
      obtain ⟨rfl, hnodup⟩ := eq_knownOf hK
      have hname := mem_of_lookup_eq_some hF
      refine h.doubled hname hF ((lookup_eq_some_iff_mem hnodup).2 ?_) hdoubled
      exact List.mem_filter.2 ⟨List.mem_map_of_mem (f := nameField) hmem, by simpa using hname⟩

/-! ## Tagged records -/

/-- A tagged record has its tag once, and is found without it. -/
theorem tagged?_object_eq_some_iff {fields : List (Quote × Json)} {tag : String} {body : Json} :
    (Json.object fields).tagged? = some (tag, body) ↔
      ((Json.object fields).isRetainable ∧ (Json.object fields).depth ≤ maxDepth) ∧
        fields.filter (·.1 = some tagName) = [(some tagName, Json.text tag)] ∧
        body = .object (fields.filter (·.1 ≠ some tagName)) := by
  rw [tagged?]
  constructor
  · intro h
    split at h
    · rename_i hkept
      refine ⟨hkept, ?_⟩
      split at h
      · rename_i q tag' hfilter
        cases h
        have hq : q = some tagName := by
          have hmem : (q, Json.string (some tag)) ∈ fields.filter (·.1 = some tagName) := by
            rw [hfilter]
            exact List.mem_singleton_self _
          simpa using (List.mem_filter.1 hmem).2
        exact ⟨by rw [hfilter, hq]; rfl, rfl⟩
      · cases h
    · cases h
  · rintro ⟨hkept, hfilter, rfl⟩
    rw [if_pos hkept]
    simp only [hfilter]
    rfl

/-- A tagged record is of one kind. -/
theorem eq_of_hasTag {fields : List (Quote × Json)} {tag tag' : String} {body : Json}
    (h : (Json.object fields).tagged? = some (tag', body))
    (htag : (some tagName, .text tag) ∈ fields) : tag = tag' := by
  have hmem : (some tagName, Json.text tag) ∈ fields.filter (·.1 = some tagName) :=
    List.mem_filter.2 ⟨htag, decide_eq_true rfl⟩
  rw [(tagged?_object_eq_some_iff.1 h).2.1] at hmem
  cases List.mem_singleton.1 hmem
  rfl

/-- A record in which the tag is given twice is not a tagged record. -/
theorem tagged?_eq_none_of_twice {v : Json} (h : RecordDoubled [(tagName, value)] v) :
    v.tagged? = none := by
  cases h with
  | @twice before between after name v w hname =>
    obtain rfl := List.mem_singleton.1 hname
    refine Option.eq_none_iff_forall_ne_some.2 fun ⟨tag, body⟩ htagged => ?_
    have hsub := (sublist_of_twice before between after ((some tagName : Quote), v)
      (some tagName, w)).filter (·.1 = some tagName)
    rw [(tagged?_object_eq_some_iff.1 htagged).2.1] at hsub
    exact absurd hsub.length_le (by simp)
  | inside _ hF hdoubled =>
    rw [List.lookup_cons] at hF
    split at hF <;> cases hF
    exact hdoubled.elim

/-- The tag of an agreeing record is the same, and the other fields agree. -/
theorem filter_of_forall₂ {fields known : List (Quote × Json)}
    (h : List.Forall₂ (FieldAgrees ((tagName, value) :: formats)) fields known) :
    known.filter (·.1 = some tagName) = fields.filter (·.1 = some tagName) ∧
      List.Forall₂ (FieldAgrees formats) (fields.filter (·.1 ≠ some tagName))
        (known.filter (·.1 ≠ some tagName)) := by
  induction h with
  | nil => exact ⟨rfl, .nil⟩
  | @cons f g fields known hfg _ ih =>
    obtain ⟨htag, hrest⟩ := ih
    have hcases : f = g ∨
        f.1 ≠ some tagName ∧ g.1 ≠ some tagName ∧ FieldAgrees formats f g := by
      cases hfg with
      | same => exact .inl rfl
      | @known name F v v' hF hvv' =>
        rw [List.lookup_cons] at hF
        by_cases hname : name = tagName
        · subst hname
          rw [beq_self_eq_true] at hF
          cases hF
          obtain rfl : v = v' := hvv'
          exact .inl rfl
        · rw [beq_false_of_ne hname] at hF
          have hne : (some name : Quote) ≠ some tagName := fun h => hname (Option.some.inj h)
          exact .inr ⟨hne, hne, .known hF hvv'⟩
    rcases hcases with rfl | ⟨hf, hg, hfg⟩
    · by_cases hf : f.1 = some tagName
      · exact ⟨by simp [hf, htag], by simpa [hf] using hrest⟩
      · exact ⟨by simp [hf, htag], by simpa [hf] using hrest.cons (.same f)⟩
    · exact ⟨by simp [hf, hg, htag], by simpa [hf, hg] using hrest.cons hfg⟩

/-- The tag is none of the further fields. -/
theorem IsFurther.ne_tag {f : Quote × Json} (h : IsFurther (tagName :: names) f) :
    f.1 ≠ some tagName ∧ IsFurther names f := by
  obtain ⟨name, hname, hnot, hordinary⟩ := h
  obtain ⟨hne, hnot⟩ := not_or.1 (fun h => hnot (List.mem_cons.2 h))
  exact ⟨fun h => hne (Option.some.inj (hname.symm.trans h)), name, hname, hnot, hordinary⟩

/-- A known field that is doubled is not the tag, and so it is doubled without the tag. -/
theorem RecordDoubled.without_tag (htag : tagName ∉ formats.map (·.1))
    {fields : List (Quote × Json)} (h : RecordDoubled formats (.object fields)) :
    RecordDoubled formats (.object (fields.filter (·.1 ≠ some tagName))) := by
  have hne {name : String} (hname : name ∈ formats.map (·.1)) :
      (some name : Quote) ≠ some tagName := by
    rintro ⟨⟩
    exact htag hname
  cases h with
  | twice hname =>
    simp only [List.filter_append, List.filter_cons, hne hname, ne_eq, not_false_eq_true,
      decide_true, if_true]
    exact .twice hname
  | inside hmem hF hdoubled =>
    have hname := mem_of_lookup_eq_some hF
    exact .inside (List.mem_filter.2 ⟨hmem, decide_eq_true (hne hname)⟩) hF hdoubled

/-- A reader that looks at the tag of a document first, and then reads the rest as a record of the
    kind that it says, follows the format of tagged records. -/
theorem isReadBy_tagged {formats : String → List (String × Format)}
    {read : String × Json → Option α} (htag : ∀ tag, tagName ∉ (formats tag).map (·.1))
    (h : ∀ tag, (record (formats tag)).IsReadBy fun body => read (tag, body)) :
    (tagged formats).IsReadBy fun v => v.tagged?.bind read where
  agrees {v v' a} hvv' hread := by
    obtain ⟨hdepth, tag, ⟨fields, rfl, hmem⟩, hagrees⟩ := hvv'
    obtain ⟨⟨tag', body⟩, htagged, hread⟩ := Option.bind_eq_some_iff.1 hread
    obtain ⟨hkept, hfilter, rfl⟩ := tagged?_object_eq_some_iff.1 htagged
    obtain rfl := eq_of_hasTag htagged hmem
    have hretainable := hagrees.keeps isHereditary_isRetainable hkept.1
    refine Option.bind_eq_some_iff.2 ?_
    cases hagrees with
    | same => exact ⟨_, htagged, hread⟩
    | @object _ fields' known further hknown hfurther hperm =>
      obtain ⟨htags, hrest⟩ := filter_of_forall₂ hknown
      refine ⟨(tag, .object (fields'.filter (·.1 ≠ some tagName))),
        tagged?_object_eq_some_iff.2 ⟨⟨hretainable, hdepth⟩, ?_, rfl⟩, ?_⟩
      · have hnone : further.filter (·.1 = some tagName) = [] :=
          List.filter_eq_nil_iff.2 fun f hf => by simpa using (hfurther f hf).ne_tag.1
        have := hperm.filter (·.1 = some tagName)
        rw [List.filter_append, hnone, List.append_nil, htags, hfilter] at this
        exact List.perm_singleton.1 this
      · refine (h tag).agrees (.object hrest (fun f hf => (hfurther f hf).ne_tag.2) ?_) hread
        have hall : further.filter (·.1 ≠ some tagName) = further :=
          List.filter_eq_self.2 fun f hf => decide_eq_true (hfurther f hf).ne_tag.1
        have := hperm.filter (·.1 ≠ some tagName)
        rwa [List.filter_append, hall] at this
  doubled {v} hv := by
    refine Option.bind_eq_none_iff.2 fun ⟨tag', body⟩ htagged => ?_
    rcases hv with hv | ⟨tag, ⟨fields, rfl, hmem⟩, hdoubled⟩
    · rw [tagged?_eq_none_of_twice hv] at htagged
      cases htagged
    · obtain ⟨-, -, rfl⟩ := tagged?_object_eq_some_iff.1 htagged
      obtain rfl := eq_of_hasTag htagged hmem
      exact (h tag).doubled (hdoubled.without_tag (htag tag))

/-! ## Texts -/

/-- Whether a type is read from texts as a format says: if one text of a document holds a value,
    every text of an agreeing document holds this value, and there is such a text; and no text of
    a document in which a known field is doubled holds a value. -/
structure Describes (F : Format) (α : Type) [Codec α] : Prop where
  accepted : ∀ {s s' : String} {v v' : Json} {a : α}, v.IsHeldBy s → decode s = some a →
    F.Agrees v v' → v'.IsHeldBy s' → decode s' = some a
  written : ∀ {s : String} {v v' : Json}, v.IsHeldBy s → F.Agrees v v' → v'.IsHeldBy v'.render
  refused : ∀ {s : String} {v : Json}, F.Doubled v → v.IsHeldBy s → decode (α := α) s = none

theorem decode_of_isHeldBy [Codec α] {s : String} {v : Json} (h : v.IsHeldBy s) :
    decode (α := α) s = Codec.ofJson? v := by
  rw [decode, parse_eq_some_iff.2 h]
  rfl

theorem IsReadBy.describes {F : Format} [Codec α] (h : F.IsReadBy (Codec.ofJson? (α := α))) :
    F.Describes α where
  accepted hv ha hvv' hv' := by
    rw [decode_of_isHeldBy hv] at ha
    rw [decode_of_isHeldBy hv']
    exact h.agrees hvv' ha
  written {s v v'} hv hvv' := by
    have hlegible := F.keeps _ isHereditary_isLegible v v' hvv' (isLegible_of_isHeldBy hv)
    exact parse_eq_some_iff.1 (parse_render_of_isLegible hlegible)
  refused hdoubled hv := by
    rw [decode_of_isHeldBy hv]
    exact h.doubled hdoubled

end Format

end Clickstream
