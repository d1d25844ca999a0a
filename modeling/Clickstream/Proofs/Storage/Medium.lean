import Clickstream.Proofs.Json.RoundTrip
import Clickstream.Storage

/-!
# What a storage holds

A call of a storage changes what is found under one key, and only if it succeeds.
For a storage in memory that is the law of a map. For one in a file it says in
addition that the file is read back as it was written, whatever texts it holds.

* `FileContent.load_render`: a file that was written is read back;
* `Medium.getItem_of_setItem`, `Medium.getItem_of_removeItem`: what is found under
  any key after a call that succeeded.
-/

namespace Clickstream

/-! ## Maps as documents -/

namespace TextMap

/-- A key behind all others goes to the end. -/
theorem place_of_forall_lt {k v : String} {l : List (String × String)}
    (h : ∀ e ∈ l, e.1 < k) : place k v l = l ++ [(k, v)] := by
  induction l with
  | nil => rfl
  | cons e l ih =>
    have he := h e List.mem_cons_self
    rw [place, if_neg (String.lt_asymm he), if_neg (String.ne_of_lt he).symm,
      ih fun e' he' => h e' (List.mem_cons_of_mem _ he')]
    rfl

theorem entries_foldl_insert {m : TextMap} {l : List (String × String)}
    (h : (m.entries ++ l).Pairwise fun a b => a.1 < b.1) :
    (l.foldl (fun m e => m.insert e.1 e.2) m).entries = m.entries ++ l := by
  induction l generalizing m with
  | nil => simp
  | cons e l ih =>
    have hlt : ∀ d ∈ m.entries, d.1 < e.1 := fun d hd =>
      (List.pairwise_append.1 h).2.2 d hd e List.mem_cons_self
    have hinsert : (m.insert e.1 e.2).entries = m.entries ++ [e] := place_of_forall_lt hlt
    rw [List.append_cons] at h ⊢
    rw [List.foldl_cons, ih (by rwa [hinsert]), hinsert]

/-- A map is the map of its entries. -/
theorem ofList_entries (m : TextMap) : ofList m.entries = m := by
  ext1
  exact entries_foldl_insert (m := empty) m.sorted

theorem isPlain_toJson (m : TextMap) : (Codec.toJson m).isPlain :=
  Json.isPlain_record (List.forall_mem_map.2 fun _ _ => rfl)

theorem namedFields?_record (l : List (String × Json)) :
    Json.namedFields? (l.map fun f => (some f.1, f.2)) = some l := by
  induction l with
  | nil => rfl
  | cons f l ih =>
    rw [Json.namedFields?] at ih ⊢
    rw [List.map_cons, List.mapM_cons, ih]
    rfl

theorem mapM_text? (l : List (String × String)) :
    ((l.map fun e => (e.1, Json.text e.2)).mapM fun (k, v) => v.text?.map fun s => (k, s)) =
      some l := by
  induction l with
  | nil => rfl
  | cons e l ih =>
    rw [List.map_cons, List.mapM_cons, ih]
    rfl

/-- An object of strings is read entry by entry. -/
theorem ofJson?_record (l : List (String × String)) :
    Codec.ofJson? (Json.record (l.map fun e => (e.1, Json.text e.2))) = some (ofList l) := by
  show (do
    let fields ← Json.namedFields? _
    let entries ← fields.mapM fun (k, v) => v.text?.map fun s => (k, s)
    return ofList entries) = some (ofList l)
  rw [namedFields?_record]
  simp only [Option.bind_eq_bind, Option.bind_some, mapM_text?, Option.pure_def]

theorem ofJson?_toJson (m : TextMap) : Codec.ofJson? (Codec.toJson m) = some m :=
  (ofJson?_record m.entries).trans (congrArg some m.ofList_entries)

end TextMap

/-! ## Files -/

namespace FileContent

theorem isBlankText_render (m : TextMap) : isBlankText (render m) = false := by
  have hhead : (Json.lines 0 (Codec.toJson m)).head? = some '\x7b' := by
    show (Json.lines 0 (.object _)).head? = _
    cases m.entries.map _ <;> rfl
  obtain ⟨cs, hcs⟩ := List.head?_eq_some_iff.1 hhead
  rw [isBlankText, render, Json.renderLines, String.toList_ofList, hcs]
  rfl

/-- A file that was written is read back. -/
theorem load_render (path : String) (m : TextMap) : (text (render m)).load path = .ok m := by
  have hdecode : decode (render m) = some m := by
    rw [decode, render, Json.parse_renderLines m.isPlain_toJson]
    exact m.ofJson?_toJson
  simp only [load, isBlankText_render, hdecode, Bool.false_eq_true, if_false]

theorem eq_of_save {path : String} {m : TextMap} {c c' : FileContent}
    (h : c.save path m = .ok c') : c' = .text (render m) := by
  cases c <;> cases h <;> rfl

end FileContent

/-! ## Media -/

namespace Medium

variable {m m' : Medium} {key : String}

theorem getItem_of_load {path : String} {content : FileContent} {items : TextMap}
    (h : content.load path = .ok items) (key : String) :
    (file path content).getItem key = .ok (items.get? key) := by
  rw [getItem, h]
  rfl

/-- A file into which something was put holds its entries with the new one. -/
theorem eq_file_of_setItem {path value : String} {content : FileContent}
    (h : (file path content).setItem key value = .ok m') :
    ∃ items, content.load path = .ok items ∧
      m' = file path (.text (FileContent.render (items.insert key value))) := by
  cases hload : content.load path with
  | error e => simp [setItem, hload, bind, Except.bind] at h
  | ok items =>
    cases hsave : content.save path (items.insert key value) with
    | error e => simp [setItem, hload, hsave, bind, Except.bind] at h
    | ok content' =>
      have hm' : m' = file path content' := by
        simpa [setItem, hload, hsave, bind, Except.bind, pure, Except.pure] using h.symm
      exact ⟨items, rfl, by rw [hm', FileContent.eq_of_save hsave]⟩

/-- A file from which something was removed holds the other entries, or stays as it is if there
    was nothing to remove. -/
theorem eq_file_of_removeItem {path : String} {content : FileContent}
    (h : (file path content).removeItem key = .ok m') :
    ∃ items, content.load path = .ok items ∧
      (m' = file path (.text (FileContent.render (items.erase key))) ∨
        items.get? key = none ∧ m' = file path content) := by
  cases hload : content.load path with
  | error e => simp [removeItem, hload, bind, Except.bind] at h
  | ok items =>
    refine ⟨items, rfl, ?_⟩
    by_cases hkey : items.contains key
    · cases hsave : content.save path (items.erase key) with
      | error e => simp [removeItem, hload, hkey, hsave, bind, Except.bind] at h
      | ok content' =>
        have hm' : m' = file path content' := by
          simpa [removeItem, hload, hkey, hsave, bind, Except.bind, pure, Except.pure]
            using h.symm
        exact .inl (by rw [hm', FileContent.eq_of_save hsave])
    · refine .inr ⟨by simpa [TextMap.contains] using hkey, ?_⟩
      simpa [removeItem, hload, hkey, bind, Except.bind, pure, Except.pure] using h.symm

theorem getItem_of_setItem {value : String} (h : m.setItem key value = .ok m') (key' : String) :
    m'.getItem key' = if key' = key then .ok (some value) else m.getItem key' := by
  cases m with
  | memory items =>
    cases h
    simp only [getItem, TextMap.get?_insert]
    split <;> rfl
  | file path content =>
    obtain ⟨items, hload, rfl⟩ := eq_file_of_setItem h
    rw [getItem_of_load (FileContent.load_render path _), getItem_of_load hload,
      TextMap.get?_insert]
    split <;> rfl

theorem getItem_of_removeItem (h : m.removeItem key = .ok m') (key' : String) :
    m'.getItem key' = if key' = key then .ok none else m.getItem key' := by
  cases m with
  | memory items =>
    cases h
    simp only [getItem, TextMap.get?_erase]
    split <;> rfl
  | file path content =>
    obtain ⟨items, hload, rfl | ⟨hnone, rfl⟩⟩ := eq_file_of_removeItem h
    · rw [getItem_of_load (FileContent.load_render path _), getItem_of_load hload,
        TextMap.get?_erase]
      split <;> rfl
    · -- Without the key nothing is written, and the file stays as it is.
      split
      · rename_i hk
        rw [getItem_of_load hload, hk, hnone]
      · rfl

end Medium

end Clickstream
