import Clickstream.Proofs.Url.Host
import Clickstream.Url

/-!
# The parts of an address

An address is read in two parts that do not look at each other: its site, which is
the scheme and the authority (`Url.site?`), and what follows the authority
(`Url.followedBy`); see `ofChars?_eq`. So the site stays as it is when a slash and more
are put behind an address (`opened?_append`, `authority_append`).

* `site?_concat`: no authority ends in a control character or a blank;
* `followedBy_of_not_mem`: without `?` and `#`, all that follows is the path.
-/

namespace Clickstream.Url

/-- Reads an authority: an address without what follows the authority. -/
def site? (scheme : Scheme) (authority : List Char) : Option Url := do
  let (userinfo, authority) := atLast '@' authority
  let (host, portText) := atPort false authority
  guard (!host.isEmpty)
  let (user, password) := upTo ':' (userinfo.getD [])
  return {
    scheme
    user
    password := password.getD []
    host := ← Host.parse? host
    port := ← port? scheme portText
    path := []
    query := none
    fragment := none }

/-- A site with what follows the authority. -/
def followedBy (site : Url) (cs : List Char) : Url :=
  let (beforeFragment, fragment) := upTo '#' cs
  let (pathText, query) := upTo '?' beforeFragment
  { site with path := readPath pathText, query, fragment }

/-- The scheme of a text, and what comes after its colon and slashes. -/
def opened? (cs : List Char) : Option (Scheme × List Char) :=
  (scheme? cs).map fun (scheme, rest) => (scheme, rest.dropWhile isSlash)

/-- A text up to the end of the authority. -/
def authority (cs : List Char) : List Char := cs.takeWhile fun c => !endsAuthority c

/-- A text from the end of the authority on. -/
def afterAuthority (cs : List Char) : List Char := cs.dropWhile fun c => !endsAuthority c

theorem ofChars?_eq (cs : List Char) :
    ofChars? cs = (opened? (clean cs)).bind fun (scheme, rest) =>
      (site? scheme (authority rest)).map (·.followedBy (afterAuthority rest)) := by
  unfold ofChars? opened?
  cases scheme? (clean cs) with
  | none => rfl
  | some opening =>
    dsimp only [Option.bind_eq_bind, Option.bind_some, Option.map_some, site?]
    rw [Option.map_bind]
    refine congrArg _ (funext fun _ => ?_)
    rw [Function.comp_apply, Option.map_bind]
    refine congrArg _ (funext fun _ => ?_)
    rw [Function.comp_apply, Option.map_bind]
    rfl

variable {c : Char}

theorem dropWhile_ne_of_not_mem {cs : List Char} (h : c ∉ cs) : cs.dropWhile (· ≠ c) = [] := by
  rw [← List.append_nil cs, List.dropWhile_append_of_pos, List.dropWhile_nil]
  exact fun d hd => decide_eq_true fun he => h (he ▸ hd)

theorem dropWhile_ne_append {cs : List Char} (h : c ∉ cs) (ds : List Char) :
    (cs ++ c :: ds).dropWhile (· ≠ c) = c :: ds := by
  rw [List.dropWhile_append_of_pos, List.dropWhile_cons_of_neg (by simp)]
  exact fun d hd => decide_eq_true fun he => h (he ▸ hd)

/-! ## More text behind an address -/

/-- The scheme with the given name, in either case. -/
def schemeNamed? (name : List Char) : Option Scheme :=
  match String.ofList (name.map Char.toLower) with
  | "http" => some .http
  | "https" => some .https
  | _ => none

theorem scheme?_of_not_mem {cs : List Char} (h : ':' ∉ cs) : scheme? cs = none := by
  rw [scheme?, dropWhile_ne_of_not_mem h]

theorem scheme?_name {name : List Char} (h : ':' ∉ name) (rest : List Char) :
    scheme? (name ++ ':' :: rest) = (schemeNamed? name).map fun s => (s, rest) := by
  have htake : (name ++ ':' :: rest).takeWhile (· ≠ ':') = name := by
    rw [List.takeWhile_append_of_pos, List.takeWhile_cons_of_neg (by simp), List.append_nil]
    exact fun d hd => decide_eq_true fun he => h (he ▸ hd)
  unfold scheme? schemeNamed?
  rw [dropWhile_ne_append h, htake]
  dsimp only
  generalize String.ofList (name.map Char.toLower) = text
  split
  · rfl
  · rfl
  · simp [*]

theorem scheme?_append {ds : List Char} (h : ':' ∉ ds) (cs : List Char) :
    scheme? (cs ++ ds) = (scheme? cs).map fun (scheme, rest) => (scheme, rest ++ ds) := by
  by_cases hc : ':' ∈ cs
  · obtain ⟨name, rest, rfl, hn⟩ := List.eq_append_cons_of_mem hc
    rw [List.append_assoc, List.cons_append, scheme?_name hn, scheme?_name hn, Option.map_map]
    rfl
  · rw [scheme?_of_not_mem hc, scheme?_of_not_mem (by simp [hc, h])]
    rfl

/-- What comes after the colon and the slashes is the end of the text. -/
theorem suffix_of_opened? {cs rest : List Char} {s : Scheme} (h : opened? cs = some (s, rest)) :
    rest <:+ cs := by
  by_cases hc : ':' ∈ cs
  · obtain ⟨name, after, rfl, hn⟩ := List.eq_append_cons_of_mem hc
    rw [opened?, scheme?_name hn, Option.map_map] at h
    obtain ⟨_, -, hs⟩ := Option.map_eq_some_iff.1 h
    cases hs
    exact (List.dropWhile_suffix _).trans
      ((List.suffix_cons _ _).trans (List.suffix_append _ _))
  · rw [opened?, scheme?_of_not_mem hc] at h
    cases h

theorem opened?_append {cs ds rest : List Char} {s : Scheme} (h : opened? cs = some (s, rest))
    (hne : rest ≠ []) (hd : ':' ∉ ds) : opened? (cs ++ ds) = some (s, rest ++ ds) := by
  obtain ⟨⟨s, after⟩, hs, hr⟩ := Option.map_eq_some_iff.1 h
  cases hr
  rw [opened?, scheme?_append hd, hs]
  simp only [Option.map_some, List.dropWhile_append, List.isEmpty_iff, if_neg hne]

/-- Slashes at the end do not make an address out of a text. -/
theorem exists_of_opened?_append {cs ds rest : List Char} {s : Scheme}
    (h : opened? (cs ++ ds) = some (s, rest)) (hne : rest ≠ []) (hd : ∀ d ∈ ds, isSlash d = true) :
    ∃ rest, opened? cs = some (s, rest) ∧ rest ≠ [] := by
  have hcolon : ':' ∉ ds := fun hm => absurd (hd ':' hm) (by decide)
  have hds : ds.dropWhile isSlash = [] := by
    rw [← List.append_nil ds, List.dropWhile_append_of_pos hd, List.dropWhile_nil]
  rw [opened?, scheme?_append hcolon, Option.map_map] at h
  obtain ⟨⟨s, after⟩, hs, hr⟩ := Option.map_eq_some_iff.1 h
  cases hr
  refine ⟨after.dropWhile isSlash, by rw [opened?, hs, Option.map_some], fun he => hne ?_⟩
  simp only [List.dropWhile_append, he, hds, List.isEmpty_nil, if_true]

theorem authority_append {d : Char} (hd : endsAuthority d = true) (cs ds : List Char) :
    authority (cs ++ d :: ds) = authority cs := by
  unfold authority
  rw [List.takeWhile_append, List.takeWhile_cons_of_neg (by simp [hd]), List.append_nil]
  split
  · next h => exact ((List.takeWhile_prefix _).eq_of_length h).symm
  · rfl

theorem afterAuthority_append {d : Char} (hd : endsAuthority d = true) (cs ds : List Char) :
    afterAuthority (cs ++ d :: ds) = afterAuthority cs ++ d :: ds := by
  unfold afterAuthority
  rw [List.dropWhile_append]
  split
  · next h => rw [List.isEmpty_iff.1 h, List.dropWhile_cons_of_neg (by simp [hd])]; rfl
  · rfl

theorem head?_afterAuthority (cs : List Char) :
    ∀ c ∈ (afterAuthority cs).head?, endsAuthority c = true := by
  intro c hc
  have h := List.head?_dropWhile_not (fun c => !endsAuthority c) cs
  rw [afterAuthority] at hc
  rw [hc] at h
  simpa using h

theorem endsAuthority_of_mem {cs : List Char} (h : c ∈ authority cs) : endsAuthority c = false := by
  simpa using List.all_eq_true.1 List.all_takeWhile c h

/-! ## Authorities -/

theorem atLast_concat {d : Char} (h : c ≠ d) (cs : List Char) :
    ∃ before after, atLast d (cs ++ [c]) = (before, after ++ [c]) := by
  unfold atLast
  dsimp only
  split
  · exact ⟨none, cs, rfl⟩
  · refine ⟨_, (cs.reverse.takeWhile (· ≠ d)).reverse, Prod.ext rfl ?_⟩
    simp [h]

/-- What ends in no colon still ends so when it is cut into host and port. -/
theorem atPort_concat (h : c ≠ ':') (cs : List Char) : ∀ inBrackets,
    atPort inBrackets (cs ++ [c]) = (cs ++ [c], none) ∨
      ∃ host port, atPort inBrackets (cs ++ [c]) = (host, some (port ++ [c])) := by
  induction cs with
  | nil => exact fun inBrackets => .inl (by simp [atPort, h])
  | cons d cs ih =>
    intro inBrackets
    rw [List.cons_append, atPort]
    split
    · exact .inr ⟨[], cs, rfl⟩
    · rcases ih (if d = '[' then true else if d = ']' then false else inBrackets) with
        ih | ⟨host, port, ih⟩
      · exact .inl (by rw [ih])
      · exact .inr ⟨d :: host, port, by rw [ih]⟩

theorem port?_concat (hc : c.toNat ≤ 0x20) (s : Scheme) (ds : List Char) :
    port? s (some (ds ++ [c])) = none := by
  have hd : Decimal.digitOf? c = none := if_neg fun h => by omega
  have hn : Decimal.nat? (ds ++ [c]) = none := by
    rw [Decimal.nat?, mapM_concat_of_none hd, Option.map_none, ite_self]
  unfold port?
  split
  · next h => cases h
  · next h => simp at h
  · next h =>
    cases h
    rw [hn]
    rfl

/-- No authority ends in a control character or a blank. -/
theorem site?_concat (hc : c.toNat ≤ 0x20) (s : Scheme) (cs : List Char) :
    site? s (cs ++ [c]) = none := by
  obtain ⟨before, after, hat⟩ := atLast_concat (ne_of_le hc (d := '@') (by decide)) cs
  unfold site?
  rw [hat]
  dsimp only
  rcases atPort_concat (ne_of_le hc (by decide)) after false with h | ⟨host, port, h⟩
  · rw [h, Host.parse?_concat hc]
    exact Option.bind_fun_none _
  · rw [h, port?_concat hc]
    dsimp only
    cases Host.parse? host <;> exact Option.bind_fun_none _

/-! ## What follows the authority -/

theorem upTo_of_not_mem {cs : List Char} (h : c ∉ cs) : upTo c cs = (cs, none) := by
  rw [upTo, dropWhile_ne_of_not_mem h]

theorem not_mem_of_upTo {cs : List Char} (h : (upTo c cs).2 = none) : c ∉ cs := by
  intro hc
  obtain ⟨as, bs, rfl, hn⟩ := List.eq_append_cons_of_mem hc
  rw [upTo, dropWhile_ne_append hn] at h
  cases h

theorem followedBy_of_not_mem {cs : List Char} (hf : '#' ∉ cs) (hq : '?' ∉ cs) (site : Url) :
    site.followedBy cs = { site with path := readPath cs, query := none, fragment := none } := by
  unfold followedBy
  simp only [upTo_of_not_mem hf, upTo_of_not_mem hq]

theorem not_mem_of_followedBy {cs : List Char} {site : Url}
    (hf : (site.followedBy cs).fragment = none) (hq : (site.followedBy cs).query = none) :
    '#' ∉ cs ∧ '?' ∉ cs := by
  have hf' : '#' ∉ cs := not_mem_of_upTo hf
  unfold followedBy at hq
  rw [upTo_of_not_mem hf'] at hq
  exact ⟨hf', not_mem_of_upTo hq⟩

end Clickstream.Url
