import Clickstream.Proofs.Store.Content

/-!
# Storages that do not fail

A storage is *sound* if no call of it is made to fail and what holds its entries can be read
and written. Calls of a sound storage succeed, and leave it sound. So a store on sound storages
writes what it is given, as a whole, and shows what can be read in its slots.

* `Backend.IsSound.getItem`, `Backend.IsSound.setItem`, `Backend.IsSound.removeItem`: the calls
  of a sound storage;
* `SplitStore.view_of_isSound`, `SplitStore.commit_of_isSound`: what a tracker sees and commits
  on sound storages;
* `SplitStore.effect_of_isSound`: hence what an operation does there.
-/

namespace Clickstream

/-! ## Storages -/

/-- Whether what holds the entries can be read and written: a file is missing, blank or one
    object of strings, and its directory is there. -/
def Medium.IsSound : Medium → Prop
  | .memory _ => True
  | .file path content => content ≠ .unreachable ∧ ∃ items, content.load path = .ok items

theorem FileContent.exists_save {path : String} {c : FileContent}
    (h : (Medium.file path c).IsSound) (m : TextMap) :
    ∃ c', c.save path m = .ok c' ∧ (Medium.file path c').IsSound := by
  have hwritten : (Medium.file path (.text (render m))).IsSound :=
    ⟨by simp, m, load_render path m⟩
  obtain ⟨hreach, items, hload⟩ := h
  cases c with
  | missing | text => exact ⟨_, rfl, hwritten⟩
  | unreachable => exact absurd rfl hreach
  | directory | binary => cases hload

namespace Medium.IsSound

variable {m : Medium} (h : m.IsSound) (key : String)

include h

theorem getItem : ∃ o, m.getItem key = .ok o := by
  cases m with
  | memory items => exact ⟨_, rfl⟩
  | file path content =>
    obtain ⟨-, items, hload⟩ := h
    exact ⟨_, getItem_of_load hload key⟩

theorem setItem (value : String) : ∃ m', m.setItem key value = .ok m' ∧ m'.IsSound := by
  cases m with
  | memory items => exact ⟨_, rfl, trivial⟩
  | file path content =>
    obtain ⟨items, hload⟩ := h.2
    obtain ⟨c, hsave, hc⟩ := FileContent.exists_save h (items.insert key value)
    refine ⟨.file path c, ?_, hc⟩
    rw [Medium.setItem, hload]
    simp [bind, Except.bind, hsave, pure, Except.pure]

theorem removeItem : ∃ m', m.removeItem key = .ok m' ∧ m'.IsSound := by
  cases m with
  | memory items => exact ⟨_, rfl, trivial⟩
  | file path content =>
    obtain ⟨items, hload⟩ := h.2
    obtain ⟨c, hsave, hc⟩ := FileContent.exists_save h (items.erase key)
    rw [Medium.removeItem, hload]
    by_cases hkey : items.contains key
    · exact ⟨.file path c, by simp [bind, Except.bind, hkey, hsave, pure, Except.pure], hc⟩
    · exact ⟨.file path content, by simp [bind, Except.bind, hkey, pure, Except.pure], h⟩

end Medium.IsSound

/-- Whether every call of a storage succeeds. -/
structure Backend.IsSound (b : Backend) : Prop where
  fault : ∀ call, b.fault call = none
  medium : b.medium.IsSound

namespace Backend.IsSound

variable {b : Backend} (h : b.IsSound) (key : String)

include h

theorem getItem : ∃ o, b.getItem key = .ok o := by
  rw [Backend.getItem, h.fault]
  exact h.medium.getItem key

theorem attempt {call : Call} {write : Medium → Except StorageError Medium}
    (hwrite : ∃ m, write b.medium = .ok m ∧ m.IsSound) :
    ∃ b', b.attempt call write = (.ok (), b') ∧ b'.IsSound := by
  obtain ⟨m, hm, hsound⟩ := hwrite
  simp only [Backend.attempt, h.fault, hm]
  exact ⟨_, rfl, h.fault, hsound⟩

theorem setItem (value : String) : ∃ b', b.setItem key value = (.ok (), b') ∧ b'.IsSound :=
  h.attempt (h.medium.setItem key value)

theorem removeItem : ∃ b', b.removeItem key = (.ok (), b') ∧ b'.IsSound :=
  h.attempt (h.medium.removeItem key)

end Backend.IsSound

/-- Whether every call of the storages on a shelf succeeds. -/
structure Shelf.IsSound (s : Shelf) : Prop where
  durable : s.durable.IsSound
  transient : s.transient.IsSound

namespace Shelf.IsSound

variable {s : Shelf}

theorem backend (h : s.IsSound) (p : Place) : (s.backend p).IsSound := by
  cases p with
  | durable => exact h.durable
  | transient => exact h.transient

theorem put (h : s.IsSound) {b : Backend} (hb : b.IsSound) (p : Place) : (s.put b p).IsSound := by
  cases p with
  | durable => exact ⟨hb, h.transient⟩
  | transient => exact ⟨h.durable, hb⟩

end Shelf.IsSound

theorem Shelf.isSound_default : IsSound {} := ⟨⟨fun _ => rfl, trivial⟩, ⟨fun _ => rfl, trivial⟩⟩

/-! ## Stores -/

namespace SplitStore

theorem writeReference_of_isSound {k : Kind} (r : Option (Reference k)) (key : String)
    {b : Backend} (h : b.IsSound) :
    ∃ b', writeReference r key b = (.ok (), [], b') ∧ b'.IsSound := by
  cases r with
  | none =>
    obtain ⟨b', hb', hsound⟩ := h.removeItem key
    exact ⟨b', by simp only [writeReference, hb'], hsound⟩
  | some r =>
    obtain ⟨b', hb', hsound⟩ := h.setItem key r.id.render
    exact ⟨b', by simp only [writeReference, hb'], hsound⟩

/-- Whether the texts in some slots are references, in any spelling, or missing. -/
structure Slots.IsWellFormed (t : Slots) : Prop where
  visitor : ∃ v, readText .visitor t.visitor = .ok v
  session : ∃ r, readText .session t.session = .ok r

theorem Slots.isWellFormed_ofState (s : SiteState) : (ofState s).IsWellFormed :=
  ⟨⟨_, readText_spell s.visitor⟩, ⟨_, readText_spell s.session⟩⟩

variable {w : SplitStore × Shelf}

/-- On sound storages where nothing is malformed, a store shows what it holds, as far as that has
    ancestors, and measures nothing. -/
theorem get_of_isSound (h : w.2.IsSound) (hwell : (slots w).IsWellFormed) :
    get w = {
      result := if (contents w).visitor.isSome then .ok (contents w).normalized else .error .absent
      state := w } := by
  obtain ⟨v, hv⟩ := h.durable.getItem w.1.visitorKey
  obtain ⟨r, hr⟩ := (h.backend w.1.sessionPlace).getItem w.1.sessionKey
  obtain ⟨⟨visitor, hvisitor⟩, session, hsession⟩ := hwell
  have hcontents : (contents w).visitor = visitor := by
    rw [contents, Slots.state, hvisitor]
    rfl
  rw [get_of_getItem hv hr, Slots.read_of_readText hvisitor hsession, hcontents]
  rfl

/-- A tracker sees the same as an empty state where there is no visitor. -/
theorem view_of_isSound (h : w.2.IsSound) (hwell : (slots w).IsWellFormed) :
    store.view w = { result := .ok (contents w).normalized, state := w } := by
  simp only [Store.view, store, get_of_isSound h hwell]
  cases hvisitor : (contents w).visitor with
  | none => simp [SiteState.normalized, hvisitor, SiteState.empty]
  | some v => simp

/-- On sound storages, a commit succeeds, measures nothing and puts the new state into the
    slots. -/
theorem commit_of_isSound (hkeys : w.1.visitorKey ≠ w.1.sessionKey) (h : w.2.IsSound)
    (next : SiteState) :
    ∃ shelf, store.commit next w =
        { result := .ok next, state := ({ w.1 with area := next.area }, shelf) } ∧
      shelf.IsSound ∧ slots ({ w.1 with area := next.area }, shelf) = .ofState next := by
  obtain ⟨b, hb, hbsound⟩ :=
    writeReference_of_isSound next.session w.1.sessionKey (h.backend w.1.sessionPlace)
  have hput := h.put hbsound w.1.sessionPlace
  obtain ⟨b', hb', hbsound'⟩ := writeReference_of_isSound next.visitor w.1.visitorKey hput.durable
  have hset : set next w = {
      result := .ok next
      state :=
        ({ w.1 with area := next.area }, (w.2.put b w.1.sessionPlace).put b' .durable) } := by
    simp only [set, write, hb, hb']
    rfl
  refine ⟨_, (commit_eq_set next w).trans hset, hput.put hbsound' .durable, ?_⟩
  -- A write that succeeds has replaced everything.
  rcases slots_set hkeys next with ⟨⟨e, he⟩, -⟩ | ⟨-, hslots⟩
  · rw [hset] at he
    cases he
  · rwa [hset] at hslots

/-- On sound storages where nothing is malformed, an operation hands over all that it plans and
    leaves the new state in the slots. -/
theorem effect_of_isSound {op : Operation} {ids : Nat → FreshId} {y : SplitStore × Shelf}
    {hs ds : List Event} (hkeys : w.1.visitorKey ≠ w.1.sessionKey) (h : w.2.IsSound)
    (hwell : (slots w).IsWellFormed) (heffect : op.Effect store ids w hs ds y) :
    let p := op.plan ids (op.seen (contents w))
    hs = p.batch ∧ ds = [] ∧ y.1 = { w.1 with area := p.next.area } ∧ y.2.IsSound ∧
      slots y = .ofState p.next := by
  have hlook : store.look op w = { result := .ok (op.seen (contents w)), state := w } := by
    unfold Store.look Operation.seen
    split
    · rfl
    · exact view_of_isSound h hwell
  cases heffect with
  | blind look =>
    rw [hlook] at look
    cases look
  | @dropped s e look commit =>
    rw [hlook] at look commit
    cases look
    obtain ⟨shelf, hcommit, -⟩ := commit_of_isSound hkeys h (op.plan ids _).next
    rw [hcommit] at commit
    cases commit
  | @handed s c look commit =>
    rw [hlook] at look
    cases look
    obtain ⟨shelf, hcommit, hsound, hslots⟩ := commit_of_isSound hkeys h (op.plan ids _).next
    rw [state_look, hcommit]
    exact ⟨rfl, rfl, rfl, hsound, hslots⟩

end SplitStore

end Clickstream
