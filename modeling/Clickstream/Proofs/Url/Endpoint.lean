import Clickstream.Destination
import Clickstream.Proofs.Url.Parts
import Mathlib.Data.List.Basic

/-!
# Where batches are sent

A destination is checked as an address, but batches are sent to a text: the host as it
is written, without the slashes at its end, and with `/multi` behind it. The two agree on
most hosts, whatever slashes, dot segments and line ends are in them, but not on all. At
the end of a text, and only there, control characters and blanks are passed over; and a
backslash counts as a slash wherever it stands. `Destination.withoutSlashes` knows
neither. What it leaves at the end of the host then stands in the middle of what batches
are sent to: a blank there is part of the authority, which has none, or of a segment, and
a slash makes an empty segment.

* `readPath_append`: a path goes on from what it has come to (`Url.pathSoFar`), which is
  not always what it is when it ends there;
* `clean_append`: a text that goes on is cleaned at its start only;
* `ofChars?_append`: so the site stays as it is;
* `Destination.parse?_endpoint_iff`: which hosts the two agree on.
-/

namespace Clickstream

namespace Url

/-! ## Paths that go on -/

/-- The path that a text, which is empty or begins with a slash, has come to when more
    segments follow; the latest comes first. -/
def pathSoFar : List Char → List (List Char)
  | [] => []
  | _ :: cs => (splitAt isSlash cs).foldl (addSegment · · false) []

theorem resolve_append {ends : List (List Char)} (h : ends ≠ []) (segments : List (List Char)) :
    ∀ before, resolve before (segments ++ ends) =
      resolve (segments.foldl (addSegment · · false) before) ends := by
  induction segments with
  | nil => exact fun _ => rfl
  | cons s segments ih =>
    intro before
    rw [List.cons_append, resolve, ih, List.foldl_cons]
    simp [h]

/-- A slash ends the segment before it. -/
theorem readPath_append {cs : List Char} (h : ∀ c ∈ cs.head?, isSlash c = true)
    (ds : List Char) :
    readPath (cs ++ '/' :: ds) = resolve (pathSoFar cs) (splitAt isSlash ds) := by
  cases cs with
  | nil => rfl
  | cons c cs =>
    rw [List.cons_append, readPath, if_pos (h c rfl), splitAt_append_cons (by rfl),
      resolve_append (splitAt_ne_nil _ _)]
    rfl

/-- An empty segment is added for each slash. -/
theorem length_resolve_slashes (n : Nat) : ∀ before,
    (resolve before (splitAt isSlash (List.replicate n '/'))).length = before.length + n + 1 := by
  induction n with
  | zero => exact fun before => by simp [splitAt, resolve, addSegment, plainDots]
  | succ n ih =>
    intro before
    rw [List.replicate_succ, ← List.nil_append ('/' :: _), splitAt_append_cons (by rfl),
      resolve_append (splitAt_ne_nil _ _), ih]
    simp [splitAt, addSegment, plainDots]
    omega

theorem addSegment_nil (before : List (List Char)) (isLast : Bool) :
    addSegment before [] isLast = [] :: before := rfl

variable {c : Char}

/-- Nothing up to the blank is part of an escape. -/
theorem mem_plainDots (hc : c.toNat ≤ 0x20) {cs : List Char} (h : c ∈ cs) :
    c ∈ plainDots cs := by
  have hne (d : Char) (hd : 0x20 < d.toNat) : c ≠ d := ne_of_le hc hd
  fun_induction plainDots cs with
  | case1 rest ih =>
    simp only [List.mem_cons, hne '%' (by decide), hne '2' (by decide), hne 'e' (by decide),
      false_or] at h
    exact List.mem_cons_of_mem _ (ih h)
  | case2 rest ih =>
    simp only [List.mem_cons, hne '%' (by decide), hne '2' (by decide), hne 'E' (by decide),
      false_or] at h
    exact List.mem_cons_of_mem _ (ih h)
  | case3 d rest h1 h2 ih =>
    rcases List.mem_cons.1 h with rfl | h
    · exact List.mem_cons_self
    · exact List.mem_cons_of_mem _ (ih h)
  | case4 => exact h

/-- A segment with a control character or a blank is not made of dots. -/
theorem addSegment_of_mem (hc : c.toNat ≤ 0x20) {segment : List Char} (h : c ∈ segment)
    (before : List (List Char)) (isLast : Bool) :
    addSegment before segment isLast = segment :: before := by
  have hm := mem_plainDots hc h
  have hdot : c ≠ '.' := ne_of_le hc (by decide)
  have h2 : plainDots segment ≠ ['.', '.'] := fun he => by simp [he, hdot] at hm
  have h1 : plainDots segment ≠ ['.'] := fun he => by simp [he, hdot] at hm
  rw [addSegment, if_neg h2, if_neg h1]

theorem pathSoFar_concat_ne_nil (hc : c.toNat ≤ 0x20 ∨ isSlash c = true) (cs : List Char) :
    pathSoFar (cs ++ [c]) ≠ [] := by
  cases cs with
  | nil => simp [pathSoFar, splitAt, addSegment_nil]
  | cons d cs =>
    rw [List.cons_append, pathSoFar]
    by_cases hs : isSlash c = true
    · rw [splitAt_append_cons hs]
      simp [splitAt, addSegment_nil]
    · obtain ⟨parts, last, hp⟩ := splitAt_concat (Bool.eq_false_iff.2 hs) cs
      rw [hp, List.foldl_append, List.foldl_cons, List.foldl_nil,
        addSegment_of_mem (hc.resolve_right hs) (by simp)]
      simp

/-- A dot segment at the end of a path that leaves it empty leaves it empty anywhere. -/
theorem addSegment_eq_nil {before : List (List Char)} {segment : List Char} (hne : segment ≠ [])
    (h : (addSegment before segment true).reverse = [[]]) :
    addSegment before segment false = [] := by
  unfold addSegment at h ⊢
  dsimp only at h ⊢
  split at h
  · rw [if_pos ‹_›]
    simpa using h
  · rw [if_neg ‹_›]
    split at h
    · rw [if_pos ‹_›]
      simpa using h
    · have hs : segment = [] := by simpa using congrArg List.getLast? h
      exact (hne hs).elim

/-- A path that is empty, whatever slashes are at its end, stays so when more segments
    follow, if what is before those slashes does not end in a backslash. -/
theorem pathSoFar_eq_nil {cs : List Char} (h : ∀ d ∈ cs.head?, isSlash d = true)
    (hc : ∀ d ∈ cs.getLast?, isSlash d = false) {n : Nat}
    (hp : readPath (cs ++ List.replicate n '/') = [[]]) : pathSoFar cs = [] := by
  cases n with
  | succ n =>
    have hlen := length_resolve_slashes n (pathSoFar cs)
    rw [← readPath_append h, ← List.replicate_succ, hp, List.length_singleton] at hlen
    exact List.eq_nil_of_length_eq_zero (by omega)
  | zero =>
    rw [List.replicate_zero, List.append_nil] at hp
    cases cs with
    | nil => rfl
    | cons d cs =>
      obtain rfl | ⟨cs, c, rfl⟩ := cs.eq_nil_or_concat'
      · exact absurd (h d rfl) (by simp [hc d rfl])
      · rw [← List.cons_append, List.getLast?_concat] at hc
        obtain ⟨parts, last, hs⟩ := splitAt_concat (hc c rfl) cs
        rw [readPath, if_pos (h d rfl), hs, resolve_append (by simp)] at hp
        rw [pathSoFar, hs, List.foldl_append]
        exact addSegment_eq_nil (by simp) hp

theorem toList_multi : "/multi".toList = '/' :: "multi".toList := by simp

theorem readPath_multi_iff {cs : List Char} (h : ∀ d ∈ cs.head?, isSlash d = true) :
    readPath (cs ++ "/multi".toList) = ["multi".toList] ↔ pathSoFar cs = [] := by
  have hm : splitAt isSlash "multi".toList = ["multi".toList] := by simp [splitAt, isSlash]
  have hadd : addSegment (pathSoFar cs) "multi".toList true = "multi".toList :: pathSoFar cs := by
    simp [addSegment, plainDots]
  rw [toList_multi, readPath_append h, hm, resolve, hadd, List.reverse_cons]
  simp

/-! ## Texts that go on -/

/-- A text as it is read when more follows it. -/
def cleanStart (cs : List Char) : List Char := (cs.dropWhile isEdge).filter fun c => !isIgnored c

theorem isEdge_of_isIgnored (h : isIgnored c = true) : isEdge c = true := by
  simp only [isIgnored, Bool.or_eq_true, decide_eq_true_eq] at h
  rcases h with (rfl | rfl) | rfl <;> rfl

theorem dropWhile_append_of_neg {p : Char → Bool} {ds : List Char} (hne : ds ≠ [])
    (h : ∀ d ∈ ds, p d = false) (cs : List Char) : (ds ++ cs).dropWhile p = ds ++ cs := by
  cases ds with
  | nil => exact (hne rfl).elim
  | cons d ds =>
    have hd := h d List.mem_cons_self
    rw [List.cons_append, List.dropWhile_cons_of_neg (by simp [hd])]

theorem clean_append {ds : List Char} (hne : ds ≠ []) (h : ∀ d ∈ ds, isEdge d = false)
    (cs : List Char) : clean (cs ++ ds) = cleanStart cs ++ ds := by
  have hfront : (cs ++ ds).dropWhile isEdge = cs.dropWhile isEdge ++ ds := by
    have hds := dropWhile_append_of_neg hne h []
    rw [List.append_nil] at hds
    rw [List.dropWhile_append, hds]
    split
    · next he => rw [List.isEmpty_iff.1 he, List.nil_append]
    · rfl
  have hback : (ds.reverse ++ (cs.dropWhile isEdge).reverse).dropWhile isEdge =
      ds.reverse ++ (cs.dropWhile isEdge).reverse :=
    dropWhile_append_of_neg (by simpa using hne) (fun d hd => h d (List.mem_reverse.1 hd)) _
  have hkeep : ds.filter (fun c => !isIgnored c) = ds := by
    rw [List.filter_eq_self]
    intro d hd
    simp only [Bool.not_eq_true', ← Bool.not_eq_true]
    exact fun hi => absurd (isEdge_of_isIgnored hi) (by simp [h d hd])
  rw [clean, hfront, List.reverse_append, hback, List.reverse_append, List.reverse_reverse,
    List.reverse_reverse, List.filter_append, hkeep, cleanStart]

/-- What is passed over at the end of a text but not in the middle. -/
theorem exists_cleanStart (cs : List Char) :
    ∃ es, cleanStart cs = clean cs ++ es ∧ ∀ e ∈ es, isEdge e = true := by
  have h := List.takeWhile_append_dropWhile (p := isEdge) (l := (cs.dropWhile isEdge).reverse)
  refine ⟨((cs.dropWhile isEdge).reverse.takeWhile isEdge).reverse.filter fun c => !isIgnored c,
    ?_, fun e he => ?_⟩
  · rw [cleanStart, clean, ← List.filter_append, ← List.reverse_append, h, List.reverse_reverse]
  · have hm := List.mem_reverse.1 (List.mem_filter.1 he).1
    exact List.all_eq_true.1 List.all_takeWhile e hm

/-! ## More behind an address -/

/-- What a text says as an address, whatever stands behind its path so far. -/
theorem ofChars?_append {cs rest ds : List Char} {s : Scheme}
    (h : opened? (cleanStart cs) = some (s, rest)) (hne : rest ≠ [])
    (hd : ∀ d ∈ ds, isEdge d = false ∧ d ≠ ':') :
    ofChars? (cs ++ '/' :: ds) =
      (site? s (authority rest)).map (·.followedBy (afterAuthority rest ++ '/' :: ds)) := by
  have hall : ∀ d ∈ '/' :: ds, isEdge d = false ∧ d ≠ ':' := by
    rintro d (_ | ⟨_, hm⟩)
    · exact ⟨rfl, by decide⟩
    · exact hd d hm
  have hcolon : ':' ∉ '/' :: ds := fun hm => (hall ':' hm).2 rfl
  rw [ofChars?_eq, clean_append (by simp) fun d hm => (hall d hm).1,
    opened?_append h hne hcolon, Option.bind_some]
  dsimp only
  rw [authority_append rfl, afterAuthority_append rfl]

theorem exists_of_ofChars? {cs : List Char} {u : Url} (h : ofChars? cs = some u) :
    ∃ s rest, opened? (clean cs) = some (s, rest) ∧ rest ≠ [] := by
  rw [ofChars?_eq, Option.bind_eq_some_iff] at h
  obtain ⟨⟨s, rest⟩, ho, hs⟩ := h
  refine ⟨s, rest, ho, ?_⟩
  rintro rfl
  cases hs

/-- A text that is an address with slashes at its end is one that can go on. -/
theorem exists_opened? {cs : List Char} {n : Nat} {u : Url}
    (h : ofChars? (cs ++ List.replicate n '/') = some u) :
    ∃ s rest, opened? (cleanStart cs) = some (s, rest) ∧ rest ≠ [] := by
  obtain ⟨s, rest, ho, hne⟩ := exists_of_ofChars? h
  cases n with
  | zero =>
    obtain ⟨es, hes, hedge⟩ := exists_cleanStart cs
    rw [List.replicate_zero, List.append_nil] at ho
    have hcolon : ':' ∉ es := fun hm => absurd (hedge ':' hm) (by decide)
    exact ⟨s, rest ++ es, by rw [hes, opened?_append ho hne hcolon], by simp [hne]⟩
  | succ n =>
    have hn : ∀ d ∈ List.replicate (n + 1) '/', d = '/' := fun d hm => List.eq_of_mem_replicate hm
    rw [clean_append (by simp) fun d hm => hn d hm ▸ rfl] at ho
    exact ⟨s, exists_of_opened?_append ho hne fun d hm => hn d hm ▸ rfl⟩

/-- Whether a text, without the tabs and line ends in it, ends in a part of an address: in
    no control character, no blank, no slash and no backslash. -/
def endsInPart (cs : List Char) : Bool :=
  (cs.filter fun c => !isIgnored c).getLast?.any fun c => !isEdge c && !isSlash c

theorem mem_getLast?_of_suffix {cs ds : List Char} (h : ds <:+ cs) {d : Char}
    (hd : d ∈ ds.getLast?) : d ∈ cs.getLast? := by
  obtain ⟨front, rfl⟩ := h
  exact List.mem_getLast?_append_of_mem_getLast? hd

theorem endsInPart_eq {cs rest : List Char} {s : Scheme}
    (h : opened? (cleanStart cs) = some (s, rest)) {c : Char} (hc : c ∈ rest.getLast?) :
    endsInPart cs = (!isEdge c && !isSlash c) := by
  have hstart : cleanStart cs <:+ cs.filter fun c => !isIgnored c :=
    (List.dropWhile_suffix _).filter _
  have hlast := mem_getLast?_of_suffix ((suffix_of_opened? h).trans hstart) hc
  rw [endsInPart, hlast, Option.any_some]

/-- The head of what follows an authority is a slash, if there is no query and no fragment. -/
theorem isSlash_head {cs : List Char} (hf : '#' ∉ afterAuthority cs)
    (hq : '?' ∉ afterAuthority cs) : ∀ d ∈ (afterAuthority cs).head?, isSlash d = true := by
  intro d hd
  have hm := List.mem_of_mem_head? hd
  have hend := head?_afterAuthority cs d hd
  have hdq : d ≠ '?' := fun he => hq (he ▸ hm)
  have hdf : d ≠ '#' := fun he => hf (he ▸ hm)
  simpa [endsAuthority, hdq, hdf] using hend

theorem ofChars?_slashes {cs rest : List Char} {s : Scheme} {c : Char}
    (h : opened? (cleanStart cs) = some (s, rest)) (hc : c ∈ rest.getLast?)
    (hedge : isEdge c = false) (n : Nat) :
    ofChars? (cs ++ List.replicate n '/') = (site? s (authority rest)).map
      (·.followedBy (afterAuthority rest ++ List.replicate n '/')) := by
  cases n with
  | succ n =>
    refine ofChars?_append h (by rintro rfl; cases hc) fun d hd => ?_
    rw [List.eq_of_mem_replicate hd]
    exact ⟨rfl, by decide⟩
  | zero =>
    obtain ⟨es, hes, hall⟩ := exists_cleanStart cs
    have hnil : es = [] := by
      obtain rfl | ⟨front, e, rfl⟩ := es.eq_nil_or_concat'
      · rfl
      · have hlast := mem_getLast?_of_suffix (suffix_of_opened? h) hc
        rw [hes, ← List.append_assoc, List.getLast?_concat] at hlast
        cases hlast
        simp [hall c] at hedge
    rw [hnil, List.append_nil] at hes
    rw [List.replicate_zero, List.append_nil, List.append_nil, ofChars?_eq, ← hes, h]
    rfl

/-- What ends in a control character, a blank or a slash does not go on with one segment. -/
theorem readPath_multi_ne {rest : List Char} {s : Scheme} {site : Url} {c : Char}
    (hsite : site? s (authority rest) = some site) (hc : c ∈ rest.getLast?)
    (hends : c.toNat ≤ 0x20 ∨ isSlash c = true) (hf : '#' ∉ afterAuthority rest)
    (hq : '?' ∉ afterAuthority rest) :
    readPath (afterAuthority rest ++ "/multi".toList) ≠ ["multi".toList] := by
  rw [Ne, readPath_multi_iff (isSlash_head hf hq)]
  have hrest : authority rest ++ afterAuthority rest = rest := List.takeWhile_append_dropWhile
  obtain hnil | ⟨front, d, htail⟩ := (afterAuthority rest).eq_nil_or_concat'
  · -- All is authority, which has no slash and ends in no blank.
    rw [hnil, List.append_nil] at hrest
    rcases hends with hedge | hslash
    · obtain ⟨front, hfront⟩ := List.getLast?_eq_some_iff.1 hc
      rw [hrest, hfront, site?_concat hedge] at hsite
      cases hsite
    · have hm : c ∈ authority rest := by
        rw [hrest]
        exact List.mem_of_getLast? hc
      have hend := endsAuthority_of_mem hm
      simp [endsAuthority, hslash] at hend
  · rw [← hrest, htail, ← List.append_assoc, List.getLast?_concat] at hc
    cases hc
    exact htail ▸ pathSoFar_concat_ne_nil hends front

/-- What is the address of a site with some slashes at its end, and ends in no backslash
    before them, goes on with one segment. -/
theorem followedBy_multi {rest : List Char} {site : Url} {n : Nat} {c : Char}
    (ho : (site.followedBy (afterAuthority rest ++ List.replicate n '/')).isOrigin = true)
    (hc : c ∈ rest.getLast?) (hslash : isSlash c = false) :
    site.followedBy (afterAuthority rest ++ "/multi".toList) =
      { site with path := ["multi".toList], query := none, fragment := none } := by
  simp only [isOrigin, Bool.and_eq_true, decide_eq_true_eq, Option.isNone_iff_eq_none] at ho
  obtain ⟨⟨hpath, hquery⟩, hfragment⟩ := ho
  obtain ⟨hf, hq⟩ := not_mem_of_followedBy hfragment hquery
  rw [followedBy_of_not_mem hf hq] at hpath
  have hf' : '#' ∉ afterAuthority rest := fun hm => hf (List.mem_append_left _ hm)
  have hq' : '?' ∉ afterAuthority rest := fun hm => hq (List.mem_append_left _ hm)
  have hlast : ∀ d ∈ (afterAuthority rest).getLast?, isSlash d = false := by
    intro d hd
    have hdc := mem_getLast?_of_suffix (List.dropWhile_suffix _) hd
    rw [Option.mem_unique hdc hc]
    exact hslash
  have hmulti := (readPath_multi_iff (isSlash_head hf' hq')).2
    (pathSoFar_eq_nil (isSlash_head hf' hq') hlast hpath)
  rw [followedBy_of_not_mem, hmulti]
  · simp [hf']
  · simp [hq']

/-- The address of a site with some slashes at its end goes on with one segment if and only
    if it ends in a part of the address without them. -/
theorem ofChars?_multi_iff {cs : List Char} {n : Nat} {u : Url}
    (h : ofChars? (cs ++ List.replicate n '/') = some u) (ho : u.isOrigin = true) :
    ofChars? (cs ++ "/multi".toList) =
        some { u with path := ["multi".toList], query := none, fragment := none } ↔
      endsInPart cs = true := by
  obtain ⟨s, rest, hopen, hne⟩ := exists_opened? h
  have hm : ofChars? (cs ++ "/multi".toList) =
      (site? s (authority rest)).map (·.followedBy (afterAuthority rest ++ "/multi".toList)) := by
    rw [toList_multi]
    exact ofChars?_append hopen hne (by simp [isEdge])
  obtain rfl | ⟨front, c, hrest⟩ := rest.eq_nil_or_concat'
  · exact (hne rfl).elim
  -- The last character decides: it is the last one of the authority, or of the path.
  have hc : c ∈ rest.getLast? := by rw [hrest]; exact List.getLast?_concat
  rw [hm, endsInPart_eq hopen hc]
  constructor
  · intro hu
    obtain ⟨site, hsite, hv⟩ := Option.map_eq_some_iff.1 hu
    have hpath := congrArg Url.path hv
    obtain ⟨hf, hq⟩ := not_mem_of_followedBy (congrArg Url.fragment hv) (congrArg Url.query hv)
    rw [followedBy_of_not_mem hf hq] at hpath
    cases hends : !isEdge c && !isSlash c with
    | true => rfl
    | false =>
      rw [Bool.and_eq_false_iff, Bool.not_eq_false', Bool.not_eq_false'] at hends
      refine absurd hpath (readPath_multi_ne hsite hc (hends.imp_left of_decide_eq_true) ?_ ?_)
      · exact fun hm => hf (List.mem_append_left _ hm)
      · exact fun hm => hq (List.mem_append_left _ hm)
  · intro hends
    simp only [Bool.and_eq_true, Bool.not_eq_true'] at hends
    rw [ofChars?_slashes hopen hc hends.1] at h
    obtain ⟨site, hsite, rfl⟩ := Option.map_eq_some_iff.1 h
    rw [hsite, Option.map_some, followedBy_multi ho hc hends.2]
    rfl

end Url

namespace Destination

theorem exists_withoutSlashes (cs : List Char) :
    ∃ n, cs = withoutSlashes cs ++ List.replicate n '/' := by
  have h := List.takeWhile_append_dropWhile (p := (· = '/')) (l := cs.reverse)
  have hall : cs.reverse.takeWhile (· = '/') =
      List.replicate (cs.reverse.takeWhile (· = '/')).length '/' :=
    List.eq_replicate_iff.2
      ⟨rfl, fun d hd => of_decide_eq_true (List.all_eq_true.1 List.all_takeWhile d hd)⟩
  refine ⟨(cs.reverse.takeWhile (· = '/')).length, ?_⟩
  rw [withoutSlashes, ← List.reverse_replicate, ← hall, ← List.reverse_append, h,
    List.reverse_reverse]

theorem isHost_of_check {d : Destination} (h : d.check = .accepted) : isHost d.host = true := by
  unfold check at h
  split at h
  · cases h
  · split at h
    · assumption
    · cases h

/-- What an accepted destination sends its batches to is `/multi` on the site of its host,
    with the same scheme, user, password and port and without a query or a fragment,
    if and only if the host ends in a part of the address once the slashes at its end are
    taken off. -/
theorem parse?_endpoint_iff (d : Destination) (h : d.check = .accepted) :
    ∃ u, Url.parse? d.host = some u ∧
      (Url.parse? d.endpoint =
          some { u with path := ["multi".toList], query := none, fragment := none } ↔
        Url.endsInPart (withoutSlashes d.host.toList) = true) := by
  have hhost := isHost_of_check h
  unfold isHost at hhost
  split at hhost
  · next u hu =>
    obtain ⟨n, hn⟩ := exists_withoutSlashes d.host.toList
    refine ⟨u, hu, ?_⟩
    rw [Url.parse?, hn] at hu
    rw [Url.parse?, endpoint, String.toList_ofList]
    exact Url.ofChars?_multi_iff hu hhost
  · cases hhost

/-- A host with blanks, backslashes, a line end and dot segments. -/
def oddlySpelled : Destination :=
  { apiKey := "key", host := " HTTP:\\\\me@[::1]:3000\\x/..\n/" }

theorem parse?_endpoint_oddlySpelled : oddlySpelled.check = .accepted ∧
    ∃ u, Url.parse? oddlySpelled.host = some u ∧ Url.parse? oddlySpelled.endpoint =
      some { u with path := ["multi".toList], query := none, fragment := none } := by
  have h : oddlySpelled.check = .accepted := by decide +kernel
  obtain ⟨u, hu, hiff⟩ := parse?_endpoint_iff oddlySpelled h
  exact ⟨h, u, hu, hiff.2 (by decide +kernel)⟩

/-- A blank behind the host is enough: the destination is accepted, and what its batches
    are sent to is no address. -/
theorem exists_endpoint_none : ∃ d : Destination, d.check = .accepted ∧
    Url.parse? d.endpoint = none :=
  ⟨{ apiKey := "key", host := "http://[::1]:3000 " }, by decide +kernel⟩

end Destination

end Clickstream
