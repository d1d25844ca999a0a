import Mathlib.Data.List.Basic
import Clickstream.Reference

/-!
# How an id is spelled

An id has one canonical spelling and is read in four: its 32 digits, the same in groups with
hyphens between, this in braces, or this behind the opening of a resource name. Letters may be
in either case everywhere, and nothing else is read.

A spelling is told by the canonical one (`Id.IsSpelling`), so it says of which id it is. That it
has the right length, hyphens and digits in the right places and no character that only looks
like one follows from this.

* `Id.ofHex?_eq_some_iff`, `Id.ofGrouped?_eq_some_iff`: digits without and with hyphens;
* `Id.parse_eq_some_iff`: exactly the spellings of an id are read as this id.
-/

namespace Clickstream

/-! ## Letters of either case -/

/-- A text with all its letters in lowercase. -/
def lower (cs : List Char) : List Char := cs.map Char.toLower

theorem length_lower (cs : List Char) : (lower cs).length = cs.length := List.length_map _

/-- Characters beyond the first 128 have no other case. -/
theorem toLower_eq_self {c : Char} (h : 128 ≤ c.toNat) : c.toLower = c := by
  have hnot : ¬ (c.val ≥ 'A'.val ∧ c.val ≤ 'Z'.val) := fun hc => by
    have hle : c.toNat ≤ 'Z'.toNat := UInt32.le_iff_toNat_le.1 hc.2
    have hz : 'Z'.toNat = 90 := rfl
    omega
  exact dif_neg hnot

/-- What is true of the first 128 characters, and of a character that is not among them. -/
theorem forall_of_ascii {p : Char → Prop} (hascii : ∀ n : Fin 128, p (Char.ofNat n))
    (hother : ∀ c : Char, 128 ≤ c.toNat → p c) (c : Char) : p c := by
  by_cases h : c.toNat < 128
  · simpa [Char.ofNat_toNat] using hascii ⟨c.toNat, h⟩
  · exact hother c (Nat.not_lt.1 h)

/-- A hexadecimal digit is read from its character in either case. -/
theorem digitOf?_eq_some_iff {d : Nat} (c : Char) :
    Hex.digitOf? c = some d ↔ d < 16 ∧ c.toLower = Hex.digitChar d := by
  have hdigit : ∀ d : Fin 16, (Hex.digitChar d).toNat < 128 := by decide
  refine forall_of_ascii (p := fun c => Hex.digitOf? c = some d ↔
    d < 16 ∧ c.toLower = Hex.digitChar d) (fun n => ?_) (fun c hc => ?_) c
  · have hread : ∀ n : Fin 128, ∀ d ∈ Hex.digitOf? (Char.ofNat n),
        d < 16 ∧ (Char.ofNat n).toLower = Hex.digitChar d := by decide
    have hspelled : ∀ n : Fin 128, ∀ d : Fin 16, (Char.ofNat n).toLower = Hex.digitChar d →
        Hex.digitOf? (Char.ofNat n) = some d.val := by decide
    exact ⟨fun h => hread n d h, fun h => hspelled n ⟨d, h.1⟩ h.2⟩
  · -- No other character is a digit, and none has a digit as its other case.
    have hnone : Hex.digitOf? c = none := by
      simp only [Hex.digitOf?]
      rw [if_neg (by omega), if_neg (by omega), if_neg (by omega)]
    rw [hnone, toLower_eq_self hc]
    refine ⟨nofun, fun h => ?_⟩
    have := hdigit ⟨d, h.1⟩
    rw [h.2] at hc
    simp only at this
    omega

theorem toLower_eq_hyphen_iff (c : Char) : c.toLower = '-' ↔ c = '-' :=
  forall_of_ascii (p := fun c => c.toLower = '-' ↔ c = '-') (by decide)
    (fun c hc => by rw [toLower_eq_self hc]) c

/-- Digits are read one by one. -/
theorem mapM_digitOf?_eq_some_iff {cs : List Char} {ds : List Nat} :
    cs.mapM Hex.digitOf? = some ds ↔ (∀ d ∈ ds, d < 16) ∧ lower cs = ds.map Hex.digitChar := by
  induction cs generalizing ds with
  | nil =>
    constructor
    · rintro ⟨⟩
      exact ⟨fun _ h => absurd h List.not_mem_nil, rfl⟩
    · rintro ⟨-, h⟩
      rw [List.map_eq_nil_iff.1 h.symm]
      rfl
  | cons c cs ih =>
    rw [List.mapM_cons]
    constructor
    · intro h
      obtain ⟨d, hd, h⟩ := Option.bind_eq_some_iff.1 h
      obtain ⟨es, hes, h⟩ := Option.bind_eq_some_iff.1 h
      cases h
      obtain ⟨hlt, hc⟩ := (digitOf?_eq_some_iff c).1 hd
      obtain ⟨hall, hcs⟩ := ih.1 hes
      exact ⟨List.forall_mem_cons.2 ⟨hlt, hall⟩, congrArg₂ List.cons hc hcs⟩
    · rintro ⟨hall, h⟩
      cases ds with
      | nil => cases h
      | cons d ds =>
        obtain ⟨hlt, hall⟩ := List.forall_mem_cons.1 hall
        obtain ⟨hc, hcs⟩ := List.cons.inj h
        rw [(digitOf?_eq_some_iff c).2 ⟨hlt, hc⟩, ih.2 ⟨hall, hcs⟩]
        rfl

namespace Id

variable {cs : List Char} {id : Id}

/-! ## Digits and groups -/

theorem ofNat_ofDigits_digits (id : Id) : ofNat (ofDigits (digits 32 id.toNat)) = id := by
  ext
  rw [ofDigits_digits]
  exact (Nat.mod_mod _ _).trans (Nat.mod_eq_of_lt id.isLt)

/-- The digits of the number that 32 digits spell. -/
theorem hex_ofNat_ofDigits {ds : List Nat} (hlt : ∀ d ∈ ds, d < 16) (hlen : ds.length = 32) :
    (ofNat (ofDigits ds)).hex = ds.map Hex.digitChar := by
  have hdigits : digits 32 (ofDigits ds) = ds := by
    have := digits_ofDigits ds.reverse fun d hd => hlt d (List.mem_reverse.1 hd)
    rwa [List.length_reverse, hlen, List.reverse_reverse] at this
  have htoNat : (ofNat (ofDigits ds)).toNat = ofDigits ds := by
    show ofDigits ds % Nat.pow 16 32 = ofDigits ds
    rw [← ofDigits_digits, hdigits]
  rw [hex, htoNat, hdigits]

/-- The digits of an id, with letters in either case, are read as this id. -/
theorem ofHex?_eq_some_iff : ofHex? cs = some id ↔ lower cs = id.hex := by
  constructor
  · intro h
    rw [ofHex?] at h
    split at h
    · rename_i hlen
      obtain ⟨ds, hds, rfl⟩ := Option.map_eq_some_iff.1 h
      obtain ⟨hlt, hcs⟩ := mapM_digitOf?_eq_some_iff.1 hds
      rw [hcs, hex_ofNat_ofDigits hlt]
      rw [← length_lower, hcs, List.length_map] at hlen
      exact hlen
    · cases h
  · intro h
    have hlen : cs.length = 32 := by rw [← length_lower, h, length_hex]
    have hread : cs.mapM Hex.digitOf? = some (digits 32 id.toNat) :=
      mapM_digitOf?_eq_some_iff.2 ⟨fun _ => lt_of_mem_digits, h⟩
    rw [ofHex?, if_pos hlen, hread, Option.map_some, ofNat_ofDigits_digits]

theorem lower_group (cs : List Char) : lower (group cs) = group (lower cs) := by
  have hhyphen : Char.toLower '-' = '-' := rfl
  simp [group, lower, hhyphen]

/-- A text of the right length with hyphens in the right places is a group of 32 characters. -/
theorem eq_group_of_ungroup {hs : List Char} (hlen : cs.length = 36) (h : ungroup cs = some hs) :
    hs.length = 32 ∧ cs = group hs := by
  rw [ungroup] at h
  split at h
  · rename_i hhyphens
    obtain ⟨h8, h13, h18, h23⟩ := hhyphens
    cases h
    refine ⟨by simp [hlen], ?_⟩
    match cs, hlen with
    | a0 :: a1 :: a2 :: a3 :: a4 :: a5 :: a6 :: a7 :: a8 :: a9 :: a10 :: a11 :: a12 :: a13 :: a14 ::
        a15 :: a16 :: a17 :: [a18, a19, a20, a21, a22, a23, a24, a25, a26, a27, a28, a29, a30, a31,
          a32, a33, a34, a35], _ =>
      cases h8
      cases h13
      cases h18
      cases h23
      rfl
  · cases h

theorem isSome_ungroup_iff : (ungroup (lower cs)).isSome ↔ (ungroup cs).isSome := by
  have hget (i : Nat) : (lower cs)[i]? = some '-' ↔ cs[i]? = some '-' := by
    rw [lower, List.getElem?_map]
    cases cs[i]? with
    | none => simp
    | some c => simpa using toLower_eq_hyphen_iff c
  simp only [ungroup, hget]
  split <;> simp

/-- The grouped spelling is read in either case, too. -/
theorem ofGrouped?_eq_some_iff (hlen : cs.length = 36) :
    ofGrouped? cs = some id ↔ lower cs = id.chars := by
  constructor
  · intro h
    obtain ⟨hs, hungroup, hhex⟩ := Option.bind_eq_some_iff.1 h
    obtain ⟨-, rfl⟩ := eq_group_of_ungroup hlen hungroup
    rw [lower_group, ofHex?_eq_some_iff.1 hhex, chars]
  · intro h
    have hsome : (ungroup cs).isSome := by
      rw [← isSome_ungroup_iff, h, chars, ungroup_group id.length_hex]
      rfl
    obtain ⟨hs, hungroup⟩ := Option.isSome_iff_exists.1 hsome
    obtain ⟨hlength, rfl⟩ := eq_group_of_ungroup hlen hungroup
    -- Without its hyphens the text is the digits, as the canonical spelling is.
    have hhex : lower hs = id.hex := by
      have hlower := congrArg ungroup ((lower_group hs).symm.trans h)
      rw [chars, ungroup_group ((length_lower hs).trans hlength),
        ungroup_group id.length_hex] at hlower
      exact Option.some.inj hlower
    rw [ofGrouped?, hungroup, Option.bind_some, ofHex?_eq_some_iff.2 hhex]

/-! ## Spellings -/

/-- The four spellings of an id. Which openings a resource name may have is left open. -/
inductive IsSpelling (Opening : List Char → Prop) (id : Id) : List Char → Prop
  | digits {cs : List Char} : lower cs = id.hex → IsSpelling Opening id cs
  | grouped {cs : List Char} : lower cs = id.chars → IsSpelling Opening id cs
  | braced {cs : List Char} : lower cs = id.chars → IsSpelling Opening id ('\x7b' :: cs ++ ['\x7d'])
  | named {opening cs : List Char} : Opening opening → lower cs = id.chars →
    IsSpelling Opening id (opening ++ cs)

/-- Whether a text spells an id. A resource name may be opened in either case, too. -/
def IsSpelledBy (id : Id) (text : String) : Prop :=
  IsSpelling (fun opening => lower opening = urn) id text.toList

theorem length_chars (id : Id) : id.chars.length = 36 := length_group id.length_hex

theorem ofChars?_of_isSpelling (h : IsSpelling (fun opening => lower opening = urn) id cs) :
    ofChars? cs = some id := by
  cases h with
  | digits h =>
    have hlen : cs.length = 32 := by rw [← length_lower, h, length_hex]
    rw [ofChars?, hlen]
    exact ofHex?_eq_some_iff.2 h
  | grouped h =>
    have hlen : cs.length = 36 := by rw [← length_lower, h, length_chars]
    rw [ofChars?, hlen]
    exact (ofGrouped?_eq_some_iff hlen).2 h
  | @braced cs h =>
    have hlen : cs.length = 36 := by rw [← length_lower, h, length_chars]
    have hlen' : ('\x7b' :: cs ++ ['\x7d']).length = 38 := by simp [hlen]
    rw [ofChars?, hlen']
    simp only [List.cons_append, List.head?_cons, List.getLast?_cons, List.getLast?_append,
      List.drop_one, List.tail_cons, List.dropLast_concat]
    simpa using (ofGrouped?_eq_some_iff hlen).2 h
  | @named opening cs hopening h =>
    have hlen : cs.length = 36 := by rw [← length_lower, h, length_chars]
    have hlen₀ : opening.length = 9 := by rw [← length_lower, hopening]; rfl
    have hlen' : (opening ++ cs).length = 45 := by simp [hlen, hlen₀]
    rw [ofChars?, hlen']
    simp only [← hlen₀, List.take_left, List.drop_left]
    rw [if_pos (show List.map Char.toLower opening = urn from hopening)]
    exact (ofGrouped?_eq_some_iff hlen).2 h

theorem isSpelling_of_ofChars? (h : ofChars? cs = some id) :
    IsSpelling (fun opening => lower opening = urn) id cs := by
  unfold ofChars? at h
  split at h
  · exact .digits (ofHex?_eq_some_iff.1 h)
  · rename_i hlen
    exact .grouped ((ofGrouped?_eq_some_iff hlen).1 h)
  · rename_i hlen
    split at h
    · rename_i hbraces
      obtain ⟨cs, rfl⟩ := List.head?_eq_some_iff.1 hbraces.1
      obtain ⟨cs, rfl⟩ : ∃ ds, cs = ds ++ ['\x7d'] := by
        have hne : cs ≠ [] := by rintro rfl; simp at hlen
        have hlast := hbraces.2
        rw [List.getLast?_cons_of_ne_nil hne] at hlast
        exact ⟨_, (List.dropLast_append_getLast? _ hlast).symm⟩
      simp only [List.drop_one, List.tail_cons, List.dropLast_concat] at h
      have hlength : cs.length = 36 := by simpa using hlen
      exact .braced ((ofGrouped?_eq_some_iff hlength).1 h)
    · cases h
  · rename_i hlen
    split at h
    · rename_i hopening
      have hlength : (cs.drop 9).length = 36 := by simp [hlen]
      rw [← List.take_append_drop 9 cs]
      exact .named hopening ((ofGrouped?_eq_some_iff hlength).1 h)
    · cases h
  · cases h

/-- Exactly the spellings of an id are read as this id. -/
theorem parse_eq_some_iff {text : String} : parse text = some id ↔ id.IsSpelledBy text :=
  ⟨isSpelling_of_ofChars?, ofChars?_of_isSpelling⟩

end Id

end Clickstream
