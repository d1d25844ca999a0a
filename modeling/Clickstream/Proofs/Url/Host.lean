import Clickstream.Proofs.Url.Composed
import Clickstream.Url.Host

/-!
# What a host ends in

No host ends in a control character or a blank (`Host.parse?_concat`). Between the text
and the labels in which such a character is refused stand several readers: percent
escapes become bytes and the bytes characters, these are mapped and composed, the text
is cut at its dots, and a label may be read back from its ASCII form. The character
comes through all of them unchanged and stays at the end, so each reader has one lemma
about a text with one more character (`…_concat`).
-/

namespace Clickstream

section MapM

variable {α β : Type} {f : α → Option β} {a : α}

theorem mapM_concat_of_none (h : f a = none) (as : List α) : (as ++ [a]).mapM f = none := by
  rw [List.mapM_append, List.mapM_cons, h]
  cases as.mapM f <;> rfl

theorem exists_of_mapM_concat {as : List α} {b : β} {bs : List β} (h : f a = some b)
    (hbs : (as ++ [a]).mapM f = some bs) : ∃ before, bs = before ++ [b] := by
  rw [List.mapM_append, List.mapM_cons, h] at hbs
  cases hm : as.mapM f with
  | none => rw [hm] at hbs; cases hbs
  | some before => rw [hm] at hbs; cases hbs; exact ⟨before, rfl⟩

end MapM

/-! ## Bytes -/

namespace Utf8

/-- The second byte of a character is not in ASCII. -/
theorem low_of_lead {n : Nat} {p : Pending} (h : lead n = .pending p) : 0x80 ≤ p.low := by
  unfold lead at h
  repeat' split at h
  all_goals cases h <;> simp

/-- A byte that does not go on with a character starts the next one. -/
theorem scan_of_not_between {p : Pending} {b : UInt8}
    (h : ¬ (p.low ≤ b.toNat ∧ b.toNat ≤ p.high)) (before : List (Option Char)) (bs : List UInt8) :
    scan before (some p) (b :: bs) = scan (none :: before) none (b :: bs) := by
  conv => lhs; unfold scan
  dsimp only
  rw [if_neg h]
  conv => rhs; unfold scan

/-- A byte in ASCII ends a text as the character that it is, whatever is pending. -/
theorem scan_concat {b : UInt8} (hb : b.toNat < 0x80) (bs : List UInt8) :
    ∀ before pending, (∀ p ∈ pending, 0x80 ≤ p.low) →
      ∃ cs, scan before pending (bs ++ [b]) = cs ++ [some (Char.ofNat b.toNat)] := by
  have hl : lead b.toNat = .char (Char.ofNat b.toNat) := if_pos hb
  induction bs with
  | nil =>
    intro before pending hp
    cases pending with
    | none => exact ⟨before.reverse, by simp [scan, hl]⟩
    | some p =>
      have hlow : ¬ (p.low ≤ b.toNat ∧ b.toNat ≤ p.high) := by
        have := hp p rfl
        omega
      refine ⟨(none :: before).reverse, ?_⟩
      rw [List.nil_append, scan_of_not_between hlow]
      simp [scan, hl]
  | cons d bs ih =>
    have fresh (before : List (Option Char)) : ∃ cs,
        scan before none (bs ++ [b]) = cs ++ [some (Char.ofNat b.toNat)] :=
      ih before none fun _ h => by cases h
    have started (before : List (Option Char)) (q : Pending) (hq : 0x80 ≤ q.low) : ∃ cs,
        scan before (some q) (bs ++ [b]) = cs ++ [some (Char.ofNat b.toNat)] :=
      ih before (some q) fun _ h => Option.some.inj h ▸ hq
    have first (before : List (Option Char)) : ∃ cs,
        scan before none (d :: (bs ++ [b])) = cs ++ [some (Char.ofNat b.toNat)] := by
      unfold scan
      dsimp only
      split
      · exact fresh _
      · exact started _ _ (low_of_lead ‹_›)
      · exact fresh _
    intro before pending hp
    rw [List.cons_append]
    cases pending with
    | none => exact first before
    | some p =>
      by_cases hd : p.low ≤ d.toNat ∧ d.toNat ≤ p.high
      · unfold scan
        dsimp only
        rw [if_pos hd]
        split
        · exact fresh _
        · exact started _ _ (Nat.le_refl _)
      · rw [scan_of_not_between hd]
        exact first _

theorem decode?_concat {b : UInt8} (hb : b.toNat < 0x80) {bs : List UInt8} {cs : List Char}
    (h : decode? (bs ++ [b]) = some cs) : ∃ before, cs = before ++ [Char.ofNat b.toNat] := by
  obtain ⟨before, hs⟩ := scan_concat hb bs [] none fun _ h => by cases h
  rw [decode?, hs] at h
  exact exists_of_mapM_concat (a := some (Char.ofNat b.toNat)) rfl h

end Utf8

variable {c : Char}

theorem ne_of_le (hc : c.toNat ≤ 0x20) {d : Char} (hd : 0x20 < d.toNat) : c ≠ d := by
  rintro rfl
  omega

theorem utf8EncodeChar_of_ascii (hc : c.toNat < 0x80) :
    String.utf8EncodeChar c = [UInt8.ofNat c.toNat] := by
  have h : c.val.toNat ≤ 0x7f := Nat.le_of_lt_succ hc
  unfold String.utf8EncodeChar
  simp only [h, if_true]
  rfl

/-- Nothing up to the blank is a digit. -/
theorem Hex.digitOf?_of_le (hc : c.toNat ≤ 0x20) : Hex.digitOf? c = none := by
  unfold Hex.digitOf?
  dsimp only
  rw [if_neg (by omega), if_neg (by omega), if_neg (by omega)]

/-- A percent sign before a character that is no digit stands for itself. -/
theorem Host.percentDecode_cons (hx : Hex.digitOf? c = none) {d : Char} {cs : List Char}
    (h : ∀ a b rest, d = '%' → cs = a :: b :: rest → False) :
    percentDecode (d :: (cs ++ [c])) = String.utf8EncodeChar d ++ percentDecode (cs ++ [c]) := by
  by_cases hd : d = '%'
  · subst hd
    match cs with
    | [] => rw [List.nil_append, percentDecode]; intro _ _ _ _ h; cases h
    | [a] =>
      rw [List.singleton_append, percentDecode, utf8EncodeChar_of_ascii (by decide)]
      split
      · next hy => rw [hx] at hy; cases hy
      · rfl
    | a :: b :: rest => exact (h a b rest rfl rfl).elim
  · rw [percentDecode]
    exact fun _ _ _ h => (hd h).elim

theorem Host.percentDecode_concat (hc : c.toNat ≤ 0x20) (cs : List Char) :
    ∃ bs, percentDecode (cs ++ [c]) = bs ++ [UInt8.ofNat c.toNat] := by
  have hx := Hex.digitOf?_of_le hc
  fun_induction percentDecode cs with
  | case1 a b rest x y ha hb ih =>
    obtain ⟨bs, hbs⟩ := ih
    refine ⟨UInt8.ofNat (16 * x + y) :: bs, ?_⟩
    rw [List.cons_append, List.cons_append, List.cons_append, percentDecode]
    simp only [ha, hb, hbs, List.cons_append]
  | case2 a b rest h ih =>
    obtain ⟨bs, hbs⟩ := ih
    refine ⟨0x25 :: bs, ?_⟩
    rw [List.cons_append, List.cons_append, List.cons_append, percentDecode]
    split
    · exact (h _ _ ‹_› ‹_›).elim
    · exact congrArg _ hbs
  | case3 d rest h ih => 
    obtain ⟨bs, hbs⟩ := ih
    refine ⟨String.utf8EncodeChar d ++ bs, ?_⟩
    rw [List.cons_append, percentDecode_cons hx h, hbs, List.append_assoc]
  | case4 => 
    refine ⟨[], ?_⟩
    rw [List.nil_append, percentDecode, utf8EncodeChar_of_ascii (by omega)]
    · rfl
    · intro _ _ _ _ h; cases h

/-! ## Labels -/

theorem Punycode.digitOf?_of_le (hc : c.toNat ≤ 0x20) : digitOf? c = none := by
  unfold digitOf?
  dsimp only
  rw [if_neg (by omega), if_neg (by omega), if_neg (by omega)]

theorem Punycode.decode?_concat (hx : digitOf? c = none) (hc : c ≠ '-') (cs : List Char) :
    decode? (cs ++ [c]) = none := by
  have stuck : ∀ (r : Reader) ds, (ds ++ [c]).foldlM Reader.step? r = none := by
    intro r ds
    rw [List.foldlM_append]
    cases ds.foldlM Reader.step? r with
    | none => rfl
    | some r =>
      rw [Option.bind_eq_bind, Option.bind_some, List.foldlM_cons, Reader.step?, hx]
      rfl
  obtain ⟨basic, ds, h⟩ : ∃ basic ds, atLastHyphen (cs ++ [c]) = (basic, ds ++ [c]) := by
    unfold atLastHyphen
    dsimp only
    split
    · exact ⟨[], cs, rfl⟩
    · refine ⟨_, (cs.reverse.takeWhile (· ≠ '-')).reverse, Prod.ext rfl ?_⟩
      simp [hc]
  rw [decode?, h]
  dsimp only
  rw [stuck]
  rfl

namespace Idna

theorem fate_of_le (hc : c.toNat ≤ 0x20) : fate c = .kept := by
  have hu : c.isUpper = false := by
    unfold Char.isUpper
    refine decide_eq_false fun h => ?_
    have hA : 65 ≤ c.toNat := UInt32.le_iff_toNat_le.1 h.1
    omega
  rw [fate, if_pos (by omega), hu]
  rfl

theorem mapped?_concat (hc : c.toNat ≤ 0x20) {cs ds : List Char}
    (h : mapped? (cs ++ [c]) = some ds) : ∃ before, ds = before ++ [c] := by
  obtain ⟨parts, hparts, hds⟩ := Option.bind_eq_some_iff.1 h
  obtain ⟨before, rfl⟩ := exists_of_mapM_concat (b := [c]) (by rw [fate_of_le hc]) hparts
  exact ⟨before.flatten, by rw [← Option.some.inj hds]; simp⟩

theorem isAllowed_of_le (hc : c.toNat ≤ 0x20) : isAllowed c = false := by
  have ha : isAscii c = true := decide_eq_true (by omega)
  have hn : ¬ 32 < c.toNat := Nat.not_lt.2 hc
  rw [isAllowed, if_pos ha]
  simp [hn]

theorem readBack?_concat (hc : c.toNat ≤ 0x20) {cs : List Char}
    (h : hasAsciiOpening (cs ++ [c]) = true) : readBack? (cs ++ [c]) = none := by
  have ho : (cs ++ [c]).take 4 = asciiOpening := of_decide_eq_true h
  have hlen : 4 ≤ cs.length := by
    refine Nat.le_of_not_lt fun hlt => ?_
    rw [List.take_of_length_le (by rw [List.length_append, List.length_singleton]; omega)] at ho
    have hm : c ∈ asciiOpening := ho ▸ List.mem_append_right _ (List.mem_singleton_self c)
    have hall : ∀ d ∈ asciiOpening, 0x20 < d.toNat := by simp [asciiOpening]
    exact absurd hc (Nat.not_le.2 (hall c hm))
  have hd : Punycode.decode? ((cs ++ [c]).drop 4) = none := by
    rw [List.drop_append_of_le_length hlen]
    exact Punycode.decode?_concat (Punycode.digitOf?_of_le hc) (ne_of_le hc (by decide)) _
  rw [readBack?, hd]
  exact Option.bind_fun_none _

theorem label?_concat (hc : c.toNat ≤ 0x20) (cs : List Char) : label? (cs ++ [c]) = none := by
  by_cases h : hasAsciiOpening (cs ++ [c]) = true
  · rw [label?, if_pos h, readBack?_concat hc h]
    rfl
  · have hv : isValidLabel (cs ++ [c]) = false := by
      simp [isValidLabel, isAllowed_of_le hc]
    rw [label?, if_neg h]
    dsimp only [Option.bind_eq_bind, Option.bind_some]
    rw [hv]
    rfl

theorem toAscii?_concat (hc : c.toNat ≤ 0x20) (cs : List Char) : toAscii? (cs ++ [c]) = none := by
  rw [toAscii?]
  cases h : mapped? (cs ++ [c]) with
  | none => rfl
  | some ds =>
    obtain ⟨before, rfl⟩ := mapped?_concat hc h
    obtain ⟨text, htext⟩ := Unicode.composed_concat (Nat.lt_of_le_of_lt hc (by decide)) before
    have hdot : c ≠ '.' := ne_of_le hc (by decide)
    obtain ⟨labels, last, hl⟩ := splitAt_concat (p := (· = '.')) (decide_eq_false hdot) text
    have hm : (splitAt (· = '.') (text ++ [c])).mapM label? = none := by
      rw [hl]
      exact mapM_concat_of_none (label?_concat hc last) labels
    rw [Option.bind_eq_bind, Option.bind_some, htext, hm]
    rfl

end Idna

/-! ## Hosts -/

/-- No host ends in a control character or a blank. -/
theorem Host.parse?_concat (hc : c.toNat ≤ 0x20) (cs : List Char) :
    Host.parse? (cs ++ [c]) = none := by
  unfold Host.parse?
  split
  · next rest h =>
    refine if_neg fun hl => ?_
    have hlast := congrArg List.getLast? h
    rw [List.getLast?_concat, List.getLast?_cons, hl] at hlast
    exact ne_of_le hc (by decide) (Option.some.inj hlast)
  · obtain ⟨bs, hbs⟩ := percentDecode_concat hc cs
    have hb : (UInt8.ofNat c.toNat).toNat = c.toNat := by
      rw [UInt8.toNat_ofNat', Nat.mod_eq_of_lt (by omega)]
    rw [hbs]
    cases h : Utf8.decode? (bs ++ [UInt8.ofNat c.toNat]) with
    | none => rfl
    | some ds =>
      obtain ⟨before, rfl⟩ := Utf8.decode?_concat (by omega) h
      rw [hb, Char.ofNat_toNat, Option.bind_eq_bind, Option.bind_some, Idna.toAscii?_concat hc]
      rfl

end Clickstream
