import Clickstream.Proofs.Storage.Medium

/-!
# Files as maps

A storage in a file keeps nothing between calls: each call reads the whole file, and a write puts
another in its place. So any number of handles may be used on one path, and what they are told
depends on the file alone. A file that is missing, blank or one object of strings stands for a map
(`FileContent.Holds`), and towards every call it is that map: the text between two calls, with its
escapes and its blanks, can not be noticed.

* `FileContent.holds_iff`: the files that stand for a map are the ones that can be read, given that
  something can be written at their path;
* `Backend.call_of_holds`, `Backend.call_of_load_eq_error`: one call on a file that stands for a
  map, and on one that can not be read; `Backend.run_of_holds`, `Backend.run_of_load_eq_error`:
  many calls;
* `Disk.run_eq`: of a run through any handles, each path sees the calls on it and no others;
* `Disk.isMap`: hence the answers to all calls on a path, whatever the file there holds at first.
-/

namespace Clickstream

/-! ## Maps -/

namespace TextMap

theorem lookup_eq_none_of_forall_lt {k : String} {l : List (String × String)}
    (h : ∀ e ∈ l, k < e.1) : l.lookup k = none :=
  List.lookup_eq_none_iff.2 fun e he => by simpa using String.ne_of_lt (h e he)

theorem not_lt_of_lookup {e e' : String × String} {l l' : List (String × String)}
    (hl' : (e' :: l').Pairwise fun a b => a.1 < b.1)
    (h : (e :: l).lookup e.1 = (e' :: l').lookup e.1) : ¬ e.1 < e'.1 := by
  intro hlt
  have hnone : (e' :: l').lookup e.1 = none := by
    refine lookup_eq_none_of_forall_lt fun d hd => ?_
    rcases List.mem_cons.1 hd with rfl | hd
    · exact hlt
    · exact String.lt_trans hlt ((List.pairwise_cons.1 hl').1 d hd)
  rw [hnone, List.lookup_cons_self] at h
  cases h

theorem eq_of_lookup {l l' : List (String × String)} (hl : l.Pairwise fun a b => a.1 < b.1)
    (hl' : l'.Pairwise fun a b => a.1 < b.1) (h : ∀ k, l.lookup k = l'.lookup k) : l = l' := by
  induction l generalizing l' with
  | nil =>
    cases l' with
    | nil => rfl
    | cons e l' =>
      have := h e.1
      rw [List.lookup_cons_self] at this
      cases this
  | cons e l ih =>
    cases l' with
    | nil =>
      have := h e.1
      rw [List.lookup_cons_self] at this
      cases this
    | cons e' l' =>
      -- Neither of the two first keys is below the other, and each is found in both lists.
      have hkey : e.1 = e'.1 := by
        by_contra hne
        exact not_lt_of_lookup hl (h e'.1).symm
          (lt_of_not_lt_of_ne (not_lt_of_lookup hl' (h e.1)) hne)
      have hvalue : e.2 = e'.2 := by
        have := h e.1
        rw [List.lookup_cons_self, hkey, List.lookup_cons_self] at this
        exact Option.some.inj this
      obtain rfl : e = e' := Prod.ext hkey hvalue
      obtain ⟨hlt, htail⟩ := List.pairwise_cons.1 hl
      obtain ⟨hlt', htail'⟩ := List.pairwise_cons.1 hl'
      refine congrArg _ (ih htail htail' fun k => ?_)
      by_cases hk : k = e.1
      · rw [hk, lookup_eq_none_of_forall_lt hlt, lookup_eq_none_of_forall_lt hlt']
      · rw [← lookup_cons_of_ne hk, h k, lookup_cons_of_ne hk]

/-- A map is determined by what is found in it. -/
theorem eq_of_get? {m n : TextMap} (h : ∀ k, m.get? k = n.get? k) : m = n :=
  ext (eq_of_lookup m.sorted n.sorted h)

theorem get?_foldl_insert (l : List (String × String)) (m : TextMap) (k : String) :
    (l.foldl (fun m e => m.insert e.1 e.2) m).get? k = (l.reverse.lookup k).or (m.get? k) := by
  induction l generalizing m with
  | nil => rfl
  | cons e l ih =>
    rw [List.foldl_cons, ih, get?_insert, List.reverse_cons, List.lookup_append, Option.or_assoc]
    by_cases hk : k = e.1
    · rw [if_pos hk, hk, List.lookup_cons_self, Option.some_or]
    · rw [if_neg hk, lookup_cons_of_ne hk, List.lookup_nil, Option.none_or]

/-- Of several entries with one key the last counts. -/
theorem get?_ofList (l : List (String × String)) (k : String) :
    (ofList l).get? k = l.reverse.lookup k := by
  rw [ofList, get?_foldl_insert, get?_empty, Option.or_none]

/-- Where nothing is found, there is nothing to remove. -/
theorem erase_of_get?_eq_none {m : TextMap} {k : String} (h : m.get? k = none) : m.erase k = m := by
  refine eq_of_get? fun k' => ?_
  rw [get?_erase]
  split
  · rename_i hk
    rw [hk, h]
  · rfl

end TextMap

/-! ## Documents -/

theorem toNat_of_isBlank {c : Char} (h : isBlank c) : c.toNat ≤ 0x20 ∨ 0x85 ≤ c.toNat := by
  simp [isBlank, blankRanges] at h
  omega

namespace Json

theorem toNat_of_isWordChar {c : Char} (h : isWordChar c) : 0x20 < c.toNat ∧ c.toNat < 0x85 := by
  unfold isWordChar Char.isAlphanum Char.isAlpha Char.isUpper Char.isLower Char.isDigit at h
  simp only [Bool.or_eq_true, Bool.and_eq_true, decide_eq_true_eq, UInt32.le_iff_toNat_le] at h
  rcases h with ((((⟨h, h'⟩ | ⟨h, h'⟩) | ⟨h, h'⟩) | rfl) | rfl) | rfl
  case inr | inl.inr | inl.inl.inr => decide
  all_goals
    simp only [Char.reduceVal, UInt32.reduceToNat, Char.toNat_val] at h h'
    omega

/-- A blank is no part of a token outside quotes. -/
theorem not_token_of_isBlank {c : Char} (h : isBlank c) :
    c ≠ '"' ∧ punctuation? c = none ∧ isWordChar c = false := by
  have hc := toNat_of_isBlank h
  refine ⟨?_, ?_, Bool.eq_false_iff.2 fun hword => ?_⟩
  · rintro rfl
    revert hc
    decide
  · unfold punctuation?
    split <;> first | rfl | (revert hc; decide)
  · have := toNat_of_isWordChar hword
    omega

theorem scan_of_isBlank {cs : List Char} (h : cs.all isBlank) (before : List Token) :
    scan before cs = some before.reverse ∨ scan before cs = none := by
  induction cs with
  | nil => exact .inl (by rw [scan])
  | cons c cs ih =>
    rw [List.all_cons, Bool.and_eq_true] at h
    obtain ⟨hquote, hpunct, hword⟩ := not_token_of_isBlank h.1
    rw [scan]
    by_cases hgap : isGap c
    · rw [if_pos hgap]
      exact ih h.2
    · rw [if_neg hgap, if_neg hquote]
      simp [hpunct, hword]

/-- Blank text is no document. -/
theorem parse_of_isBlankText {s : String} (h : isBlankText s) : parse s = none := by
  rcases scan_of_isBlank h [] with hscan | hscan <;> rw [parse, tokenize, hscan] <;> rfl

theorem eq_text_of_text? {v : Json} {s : String} (h : v.text? = some s) : v = .text s := by
  cases v with
  | string q => cases h; rfl
  | _ => cases h

end Json

/-! ## Files -/

namespace FileContent

/-- What stands at a path stands for a map: there is nothing yet, or blank text, or one object of
    strings, in which the last of several fields with one name counts. -/
inductive Holds : FileContent → TextMap → Prop
  | missing : Holds missing .empty
  | blank {s : String} : isBlankText s → Holds (text s) .empty
  | object {s : String} {fields : List (String × String)} {m : TextMap} :
      Json.parse s = some (.record (fields.map fun f => (f.1, .text f.2))) →
      (∀ k, m.get? k = fields.reverse.lookup k) → Holds (text s) m

theorem eq_map_of_mapM {α β : Type} {f : α → Option β} {g : β → α}
    (hf : ∀ a b, f a = some b → a = g b) {l : List α} {l' : List β} (h : l.mapM f = some l') :
    l = l'.map g := by
  induction l generalizing l' with
  | nil => cases h; rfl
  | cons a l ih =>
    simp only [List.mapM_cons, Option.bind_eq_bind, Option.bind_eq_some_iff, Option.pure_def,
      Option.some.injEq] at h
    obtain ⟨b, hb, bs, hbs, rfl⟩ := h
    rw [List.map_cons, ← hf a b hb, ← ih hbs]

/-- An object that can be read is one of strings, and stands for its last values. -/
theorem exists_fields_of_ofJson? {v : Json} {m : TextMap} (h : Codec.ofJson? v = some m) :
    ∃ fields : List (String × String),
      v = .record (fields.map fun f => (f.1, .text f.2)) ∧ m = .ofList fields := by
  cases v with
  | object fields =>
    simp only [Codec.ofJson?, Option.bind_eq_bind, Option.bind_eq_some_iff, Option.pure_def,
      Option.some.injEq] at h
    obtain ⟨named, hnamed, entries, hentries, rfl⟩ := h
    have hnames : fields = named.map fun f => (some f.1, f.2) := by
      refine eq_map_of_mapM (fun f d hf => ?_) hnamed
      obtain ⟨name, hname, rfl⟩ := Option.map_eq_some_iff.1 hf
      exact Prod.ext hname rfl
    have htexts : named = entries.map fun e => (e.1, .text e.2) := by
      refine eq_map_of_mapM (fun f e hf => ?_) hentries
      obtain ⟨s, hs, rfl⟩ := Option.map_eq_some_iff.1 hf
      exact Prod.ext rfl (Json.eq_text_of_text? hs)
    exact ⟨entries, by rw [hnames, htexts, Json.record], rfl⟩
  | _ => cases h

/-- The files that stand for a map are those that can be read, and written as well. -/
theorem holds_iff (path : String) (c : FileContent) (m : TextMap) :
    c.Holds m ↔ c ≠ .unreachable ∧ c.load path = .ok m := by
  constructor
  · rintro (_ | hblank | ⟨hparse, hm⟩)
    · exact ⟨nofun, rfl⟩
    · exact ⟨nofun, by rw [load, if_pos hblank]⟩
    · rename_i s fields
      refine ⟨nofun, ?_⟩
      have hblank : ¬ isBlankText s := fun hblank => by
        rw [Json.parse_of_isBlankText hblank] at hparse
        cases hparse
      have hdecode : decode s = some m := by
        rw [decode, hparse]
        refine (TextMap.ofJson?_record fields).trans
          (congrArg some (TextMap.eq_of_get? fun k => ?_))
        rw [hm, TextMap.get?_ofList]
      simp only [load, if_neg hblank, hdecode]
  · rintro ⟨hc, hload⟩
    cases c with
    | missing => cases hload; exact .missing
    | unreachable => exact absurd rfl hc
    | directory => cases hload
    | binary _ => cases hload
    | text s =>
      by_cases hblank : isBlankText s
      · rw [load, if_pos hblank] at hload
        cases hload
        exact .blank hblank
      · cases hdecode : (decode s : Option TextMap) with
        | none => simp [load, hblank, hdecode] at hload
        | some n =>
          obtain rfl : n = m := by simpa [load, hblank, hdecode] using hload
          obtain ⟨v, hv, hn⟩ := Option.bind_eq_some_iff.1 hdecode
          obtain ⟨fields, rfl, rfl⟩ := exists_fields_of_ofJson? hn
          exact .object hv (TextMap.get?_ofList fields)

theorem holds_render (m : TextMap) : (text (render m)).Holds m :=
  (holds_iff "" _ m).2 ⟨nofun, load_render "" m⟩

/-- A file that stands for a map can be written. -/
theorem Holds.save {c : FileContent} {m : TextMap} (h : c.Holds m) (path : String) (n : TextMap) :
    c.save path n = .ok (.text (render n)) := by
  cases h <;> rfl

theorem Holds.load {c : FileContent} {m : TextMap} (h : c.Holds m) (path : String) :
    c.load path = .ok m :=
  ((holds_iff path c m).1 h).2

/-- A file that stands for no map can not be read. -/
theorem exists_error_of_not_holds {c : FileContent} (hc : c ≠ .unreachable)
    (h : ∀ m, ¬ c.Holds m) (path : String) :
    ∃ e, c.load path = .error e ∧ ∀ s, c = .text s → ∃ cause, e = .corrupt path cause := by
  cases hload : c.load path with
  | ok m => exact absurd ((holds_iff path c m).2 ⟨hc, hload⟩) (h m)
  | error e =>
    refine ⟨e, rfl, ?_⟩
    rintro s rfl
    rw [load] at hload
    split at hload
    · cases hload
    · split at hload <;> cases hload
      exact ⟨_, rfl⟩

end FileContent

/-! ## Calls -/

namespace Backend

variable (path : String) {c : FileContent} {m : TextMap}

theorem call_get_of_holds (h : c.Holds m) (key : String) :
    call (.get key) { medium := .file path c } =
      (.ok (m.get? key), { medium := .file path c }) := by
  simp [call, getItem, Medium.getItem, h.load, Except.map]

theorem call_set_of_holds (h : c.Holds m) (key value : String) :
    call (.set key value) { medium := .file path c } =
      (.ok none, { medium := .file path (.text (FileContent.render (m.insert key value))) }) := by
  simp [call, setItem, attempt, Medium.setItem, h.load, h.save, Except.map, bind, Except.bind, pure,
    Except.pure]

theorem call_remove_of_holds (h : c.Holds m) {key : String} (hkey : m.contains key) :
    call (.remove key) { medium := .file path c } =
      (.ok none, { medium := .file path (.text (FileContent.render (m.erase key))) }) := by
  simp [call, removeItem, attempt, Medium.removeItem, h.load, h.save, hkey, Except.map, bind,
    Except.bind, pure, Except.pure]

/-- To remove what is not there writes nothing. -/
theorem call_remove_of_absent (h : c.Holds m) {key : String} (hkey : m.get? key = none) :
    call (.remove key) { medium := .file path c } = (.ok none, { medium := .file path c }) := by
  simp [call, removeItem, attempt, Medium.removeItem, h.load, TextMap.contains, hkey, Except.map,
    bind, Except.bind, pure, Except.pure]

/-- A call on a file that stands for a map is told what it would be told of that map in memory, and
    what is then in the file stands for what is then in memory. -/
theorem call_of_holds (h : c.Holds m) (cl : Call) :
    ∃ r c' m', call cl { medium := .memory m } = (r, { medium := .memory m' }) ∧
      call cl { medium := .file path c } = (r, { medium := .file path c' }) ∧ c'.Holds m' := by
  cases cl with
  | get key => exact ⟨_, c, m, rfl, call_get_of_holds path h key, h⟩
  | set key value =>
    exact ⟨_, _, m.insert key value, rfl, call_set_of_holds path h key value,
      FileContent.holds_render _⟩
  | remove key =>
    refine ⟨.ok none, ?_⟩
    cases hkey : m.get? key with
    | some value =>
      have hcontains : m.contains key := by rw [TextMap.contains, hkey]; rfl
      exact ⟨_, m.erase key, rfl, call_remove_of_holds path h hcontains,
        FileContent.holds_render _⟩
    | none =>
      -- Nothing is written, and the map without the key is the map.
      refine ⟨c, m, ?_, call_remove_of_absent path h hkey, h⟩
      show (Except.ok none, ({ medium := .memory (m.erase key) } : Backend)) = _
      rw [TextMap.erase_of_get?_eq_none hkey]

/-- Every call first reads the file, so where that fails it changes nothing. -/
theorem call_of_load_eq_error {path : String} {e : StorageError} (h : c.load path = .error e)
    (cl : Call) :
    call cl { medium := .file path c } = (.error e, { medium := .file path c }) := by
  cases cl with
  | get key => simp [call, getItem, Medium.getItem, h, Except.map]
  | set key value => simp [call, setItem, attempt, Medium.setItem, h, Except.map, bind, Except.bind]
  | remove key =>
    simp [call, removeItem, attempt, Medium.removeItem, h, Except.map, bind, Except.bind]

/-- Whatever stands at a path, a call leaves it a file at that path. -/
theorem exists_file_of_call (c : FileContent) (cl : Call) :
    ∃ r c', call cl { medium := .file path c } = (r, { medium := .file path c' }) := by
  cases hload : c.load path with
  | error e => exact ⟨_, c, call_of_load_eq_error hload cl⟩
  | ok m =>
    by_cases hc : c = .unreachable
    · -- It reads as if it were empty, but nothing can be written to it.
      subst hc
      cases cl <;> exact ⟨_, .unreachable, rfl⟩
    · obtain ⟨r, c', -, -, hcall, -⟩ :=
        call_of_holds path ((FileContent.holds_iff path c m).2 ⟨hc, hload⟩) cl
      exact ⟨r, c', hcall⟩

/-- Calls one after another: what each is told, and what is left. -/
def run : List Call → Backend → List (Except StorageError (Option String)) × Backend
  | [], b => ([], b)
  | cl :: rest, b =>
    let (r, b) := b.call cl
    let (rs, b) := b.run rest
    (r :: rs, b)

theorem run_of_holds (h : c.Holds m) (cls : List Call) :
    ∃ rs c' m', run cls { medium := .memory m } = (rs, { medium := .memory m' }) ∧
      run cls { medium := .file path c } = (rs, { medium := .file path c' }) ∧ c'.Holds m' := by
  induction cls generalizing c m with
  | nil => exact ⟨[], c, m, rfl, rfl, h⟩
  | cons cl cls ih =>
    obtain ⟨r, c₁, m₁, hmemory, hfile, h₁⟩ := call_of_holds path h cl
    obtain ⟨rs, c', m', hmemory', hfile', h'⟩ := ih h₁
    exact ⟨r :: rs, c', m', by simp only [run, hmemory, hmemory'],
      by simp only [run, hfile, hfile'], h'⟩

theorem run_of_load_eq_error {path : String} {e : StorageError} (h : c.load path = .error e)
    (cls : List Call) :
    run cls { medium := .file path c } =
      (cls.map fun _ => .error e, { medium := .file path c }) := by
  induction cls with
  | nil => rfl
  | cons cl cls ih => simp only [run, call_of_load_eq_error h, ih, List.map_cons]

end Backend

/-! ## Handles -/

/-- A handle on a file. It has the path of the file and nothing else. -/
structure FileHandle where
  path : String

/-- What stands at every path. Different paths are different files. -/
abbrev Disk := String → FileContent

namespace Disk

/-- The files after a storage was used: its file is as the storage left it. -/
def store (d : Disk) : Medium → Disk
  | .memory _ => d
  | .file path content => Function.update d path content

/-- A call through a handle, on the file as it is at that time. -/
def call (h : FileHandle) (cl : Call) (d : Disk) : Except StorageError (Option String) × Disk :=
  let (r, b) := Backend.call cl { medium := .file h.path (d h.path) }
  (r, d.store b.medium)

/-- Calls through handles, one after another: what each is told, and what is left. -/
def run : List (FileHandle × Call) → Disk →
    List (FileHandle × Except StorageError (Option String)) × Disk
  | [], d => ([], d)
  | (h, cl) :: rest, d =>
    let (r, d) := d.call h cl
    let (rs, d) := d.run rest
    ((h, r) :: rs, d)

/-- What belongs to the handles on a path. -/
def on {α : Type} (path : String) (xs : List (FileHandle × α)) : List α :=
  (xs.filter fun x => x.1.path = path).map (·.2)

theorem on_cons_self {α : Type} (h : FileHandle) (a : α) (xs : List (FileHandle × α)) :
    on h.path ((h, a) :: xs) = a :: on h.path xs := by
  simp [on]

theorem on_cons_of_ne {α : Type} {h : FileHandle} {path : String} (hne : h.path ≠ path) (a : α)
    (xs : List (FileHandle × α)) : on path ((h, a) :: xs) = on path xs := by
  simp [on, hne]

/-- A call leaves its file as a storage in that file does, and all others as they were. -/
theorem call_eq (h : FileHandle) (cl : Call) (d : Disk) :
    ∃ r c', Backend.call cl { medium := .file h.path (d h.path) } =
        (r, { medium := .file h.path c' }) ∧
      d.call h cl = (r, Function.update d h.path c') := by
  obtain ⟨r, c', hcall⟩ := Backend.exists_file_of_call h.path (d h.path) cl
  refine ⟨r, c', hcall, ?_⟩
  rw [call, hcall]
  rfl

/-- The handles on a path see one storage in the file there, whatever goes on elsewhere. -/
theorem run_eq (path : String) (turns : List (FileHandle × Call)) (d : Disk) :
    Backend.run (on path turns) { medium := .file path (d path) } =
      (on path (d.run turns).1, { medium := .file path ((d.run turns).2 path) }) := by
  induction turns generalizing d with
  | nil => rfl
  | cons turn turns ih =>
    obtain ⟨h, cl⟩ := turn
    obtain ⟨r, c', hcall, hd⟩ := call_eq h cl d
    have hrest := ih (Function.update d h.path c')
    simp only [run, hd]
    by_cases hpath : h.path = path
    · subst hpath
      rw [Function.update_self] at hrest
      simp only [on_cons_self, Backend.run, hcall, hrest]
    · rw [Function.update_of_ne (Ne.symm hpath)] at hrest
      rw [on_cons_of_ne hpath, on_cons_of_ne hpath, hrest]

/-- A file is a map from text to text. To all calls through all handles on its path, whatever is
    done elsewhere meanwhile, it is what a storage in memory is that holds the map it stands for,
    and it stands for what memory holds after each of them; what is not there is removed without
    writing. A file that stands for no map is never written: every call fails, and says that the
    file is corrupt if it holds text. -/
theorem isMap (path : String) (d : Disk) :
    (∀ m, (d path).Holds m →
      (∀ turns, ∃ m', ((d.run turns).2 path).Holds m' ∧
        Backend.run (on path turns) { medium := .memory m } =
          (on path (d.run turns).1, { medium := .memory m' })) ∧
      ∀ key, m.get? key = none → d.call ⟨path⟩ (.remove key) = (.ok none, d)) ∧
    (d path ≠ .unreachable → (∀ m, ¬ (d path).Holds m) →
      ∃ e, (∀ s, d path = .text s → ∃ cause, e = .corrupt path cause) ∧
        ∀ turns, on path (d.run turns).1 = (on path turns).map (fun _ => .error e) ∧
          (d.run turns).2 path = d path) := by
  refine ⟨fun m hm => ⟨fun turns => ?_, fun key hkey => ?_⟩, fun hreach hnone => ?_⟩
  · obtain ⟨rs, c', m', hmemory, hfile, hm'⟩ := Backend.run_of_holds path hm (on path turns)
    have hrun := hfile.symm.trans (run_eq path turns d)
    simp only [Prod.mk.injEq, Backend.mk.injEq, Medium.file.injEq, true_and, and_true] at hrun
    obtain ⟨rfl, rfl⟩ := hrun
    exact ⟨m', hm', hmemory⟩
  · rw [call, Backend.call_remove_of_absent path hm hkey]
    simp only [store, Function.update_eq_self]
  · obtain ⟨e, hload, htext⟩ := FileContent.exists_error_of_not_holds hreach hnone path
    refine ⟨e, htext, fun turns => ?_⟩
    have hrun := (Backend.run_of_load_eq_error hload (on path turns)).symm.trans
      (run_eq path turns d)
    simp only [Prod.mk.injEq, Backend.mk.injEq, Medium.file.injEq, true_and, and_true] at hrun
    exact ⟨hrun.1.symm, hrun.2.symm⟩

/-- An object with one name twice, as it may be found in a file. -/
def sampleObject : Json := .record [("a", .text "1"), ("", .text "é\n"), ("a", .text "2")]

/-- An array, which stands for no map. -/
def sampleArray : Json := .array [.nat 1, .nat 2, .nat 3]

/-- One file that stands for a map, and others that do not. -/
def sample : Disk := fun path =>
  .text (if path = "names.json" then sampleObject.renderLines else sampleArray.renderLines)

/-- Calls through two handles on the one file, and between them one on another. -/
def sampleTurns : List (FileHandle × Call) :=
  [(⟨"names.json"⟩, .set "\n" "\\"), (⟨"list.json"⟩, .get "a"), (⟨"names.json"⟩, .remove "b"),
    (⟨"names.json"⟩, .get "a")]

theorem isMap_sample :
    let m : TextMap := ⟨[("", "é\n"), ("a", "2")], by decide⟩
    ((sample "names.json").Holds m ∧
      (∃ m', ((sample.run sampleTurns).2 "names.json").Holds m' ∧
        Backend.run (on "names.json" sampleTurns) { medium := .memory m } =
          (on "names.json" (sample.run sampleTurns).1, { medium := .memory m' })) ∧
      sample.call ⟨"names.json"⟩ (.remove "b") = (.ok none, sample)) ∧
    (∀ m, ¬ (sample "list.json").Holds m) ∧
    ∃ cause, on "list.json" (sample.run sampleTurns).1 = [.error (.corrupt "list.json" cause)] ∧
      (sample.run sampleTurns).2 "list.json" = sample "list.json" := by
  intro m
  have hobject : Json.parse sampleObject.renderLines = some (.record
      ([("a", "1"), ("", "é\n"), ("a", "2")].map fun f => (f.1, .text f.2))) :=
    Json.parse_renderLines (v := sampleObject) rfl
  have harray : Json.parse sampleArray.renderLines = some sampleArray := Json.parse_renderLines rfl
  have hholds : (sample "names.json").Holds m := by
    have hlast : TextMap.ofList [("a", "1"), ("", "é\n"), ("a", "2")] = m := by decide
    have hsample : sample "names.json" = .text sampleObject.renderLines := rfl
    rw [hsample]
    exact .object hobject fun k => hlast ▸ TextMap.get?_ofList _ k
  have hnone : ∀ m, ¬ (sample "list.json").Holds m := by
    intro m h
    have hsample : sample "list.json" = .text sampleArray.renderLines := rfl
    rw [hsample] at h
    rcases h with _ | hblank | ⟨hparse, _⟩
    · rw [Json.parse_of_isBlankText hblank] at harray
      cases harray
    · rw [harray] at hparse
      cases hparse
  obtain ⟨hturns, habsent⟩ := (isMap "names.json" sample).1 m hholds
  obtain ⟨e, htext, herror⟩ := (isMap "list.json" sample).2 nofun hnone
  obtain ⟨cause, rfl⟩ := htext _ rfl
  exact ⟨⟨hholds, hturns sampleTurns, habsent "b" rfl⟩, hnone, cause, herror sampleTurns⟩

end Disk

end Clickstream
