import Clickstream.Proofs.Storage.File
import Clickstream.Proofs.Store.Soundness

/-!
# A written state read back

On storages that do not fail, a write replaces all that a store has under its keys, whatever
texts stood there, and what it then shows is the state it was given, without what has no
ancestors. A second write of the same state finds everything as it is. For a file this is more
than that the same entries are found: the text must be the one that the program would write, and
a file may hold the same entries in another spelling until something is written to it. So a
storage *rests* under a key (`Medium.Rests`) if a text there is as it was found, and stands in a
medium as it was written, or nothing is there at all.

* `Medium.Rests.write`, `Medium.rests_of_write`, `Medium.Rests.write_of_ne`: a storage rests after
  a write, also when another key is written later, and then the write does nothing;
* `SplitStore.set_set`: so a state that was written is not written again;
* `SplitStore.get_of_written`: what any store with the same keys shows of it;
* `SplitStore.reads_back`: all of this for a store as it is opened, with anything in its variable.
-/

namespace Clickstream

/-! ## Media at rest -/

namespace TextMap

/-- To write what is there changes nothing. -/
theorem insert_of_get?_eq_some {m : TextMap} {k v : String} (h : m.get? k = some v) :
    m.insert k v = m := by
  refine eq_of_get? fun k' => ?_
  rw [get?_insert]
  split
  · rename_i hk
    rw [hk, h]
  · rfl

end TextMap

namespace Medium

/-- A text is put under a key, or what is there is removed. -/
def write (key : String) : Option String → Medium → Except StorageError Medium
  | some value => setItem key value
  | none => removeItem key

/-- What is in a file is as the program writes it. -/
def IsWritten : Medium → Prop
  | memory _ => True
  | file _ content => ∃ items, content = .text (FileContent.render items)

/-- What stands under a key, or that nothing does, is as the last write of it left it. -/
structure Rests (key : String) (o : Option String) (m : Medium) : Prop where
  found : m.getItem key = .ok o
  isWritten : o.isSome → m.IsWritten

variable {m m' : Medium} {key : String} {o : Option String}

theorem getItem_of_write (h : m.write key o = .ok m') (key' : String) :
    m'.getItem key' = if key' = key then .ok o else m.getItem key' := by
  cases o with
  | some value => exact getItem_of_setItem h key'
  | none => exact getItem_of_removeItem h key'

/-- A write that changes anything writes all of the file. -/
theorem isWritten_of_write (h : m.write key o = .ok m') (hm : o.isSome ∨ m.IsWritten) :
    m'.IsWritten := by
  cases m with
  | memory items => cases o <;> cases h <;> trivial
  | file path content =>
    cases o with
    | some value =>
      obtain ⟨items, -, rfl⟩ := eq_file_of_setItem h
      exact ⟨_, rfl⟩
    | none =>
      obtain ⟨items, -, rfl | ⟨-, rfl⟩⟩ := eq_file_of_removeItem h
      · exact ⟨_, rfl⟩
      · exact hm.resolve_left nofun

theorem rests_of_write (h : m.write key o = .ok m') : m'.Rests key o where
  found := (getItem_of_write h key).trans (if_pos rfl)
  isWritten ho := isWritten_of_write h (.inl ho)

/-- Under one key a storage goes on resting when another is written. -/
theorem Rests.of_write {key' : String} {o' : Option String} (hm : m.Rests key o)
    (hne : key ≠ key') (h : m.write key' o' = .ok m') : m'.Rests key o where
  found := ((getItem_of_write h key).trans (if_neg hne)).trans hm.found
  isWritten ho := isWritten_of_write h (.inr (hm.isWritten ho))

/-- Where a storage rests, the write that was made last does nothing. -/
theorem Rests.write_eq (h : m.Rests key o) : m.write key o = .ok m := by
  obtain ⟨hfound, hwritten⟩ := h
  cases m with
  | memory items =>
    have hget : items.get? key = o := Except.ok.inj hfound
    cases o with
    | some value => exact congrArg (Except.ok <| memory ·) (TextMap.insert_of_get?_eq_some hget)
    | none => exact congrArg (Except.ok <| memory ·) (TextMap.erase_of_get?_eq_none hget)
  | file path content =>
    cases hload : content.load path with
    | error e =>
      rw [getItem, hload] at hfound
      cases hfound
    | ok items =>
      have hget : items.get? key = o := by
        rw [getItem_of_load hload] at hfound
        exact Except.ok.inj hfound
      cases o with
      | some value =>
        obtain ⟨items', rfl⟩ := hwritten rfl
        obtain rfl : items' = items :=
          Except.ok.inj ((FileContent.load_render path items').symm.trans hload)
        simp [write, setItem, hload, TextMap.insert_of_get?_eq_some hget, FileContent.save, bind,
          Except.bind, pure, Except.pure]
      | none =>
        simp [write, removeItem, hload, TextMap.contains, hget, bind, Except.bind, pure,
          Except.pure]

theorem IsSound.write (h : m.IsSound) (key : String) (o : Option String) :
    ∃ m', m.write key o = .ok m' ∧ m'.IsSound := by
  cases o with
  | some value => exact h.setItem key value
  | none => exact h.removeItem key

end Medium

/-! ## References at rest -/

namespace SplitStore

variable {k : Kind} {r : Option (Reference k)} {key : String} {b b' : Backend}

theorem writeReference_eq (h : ∀ call, b.fault call = none) {m : Medium}
    (hm : b.medium.write key (r.map spell) = .ok m) :
    writeReference r key b = (.ok (), [], { b with medium := m }) := by
  cases r with
  | none =>
    have hremove : b.removeItem key = (.ok (), { b with medium := m }) := by
      simp only [Backend.removeItem, Backend.attempt, h]
      rw [show b.medium.removeItem key = .ok m from hm]
    simp only [writeReference, hremove]
  | some r =>
    have hset : b.setItem key r.id.render = (.ok (), { b with medium := m }) := by
      simp only [Backend.setItem, Backend.attempt, h]
      rw [show b.medium.setItem key r.id.render = .ok m from hm]
    simp only [writeReference, hset]

/-- A storage rests with a reference that was written, and goes on resting under other keys. -/
theorem exists_writeReference (r : Option (Reference k)) (key : String) (h : b.IsSound) :
    ∃ b', writeReference r key b = (.ok (), [], b') ∧ b'.IsSound ∧
      b'.medium.Rests key (r.map spell) ∧
      ∀ {key' o}, key' ≠ key → b.medium.Rests key' o → b'.medium.Rests key' o := by
  obtain ⟨m, hm, hsound⟩ := h.medium.write key (r.map spell)
  exact ⟨{ b with medium := m }, writeReference_eq h.fault hm, ⟨h.fault, hsound⟩,
    Medium.rests_of_write hm, fun hne hrest => hrest.of_write hne hm⟩

theorem writeReference_of_rests (h : ∀ call, b.fault call = none)
    (hrest : b.medium.Rests key (r.map spell)) : writeReference r key b = (.ok (), [], b) :=
  writeReference_eq h hrest.write_eq

/-- The storages of a store rest with a state. -/
structure AtRest (w : SplitStore × Shelf) (s : SiteState) : Prop where
  session : (w.2.backend w.1.sessionPlace).medium.Rests w.1.sessionKey (s.session.map spell)
  visitor : w.2.durable.medium.Rests w.1.visitorKey (s.visitor.map spell)

variable {w : SplitStore × Shelf} {s : SiteState}

/-- After a write everything rests, even in one storage that holds both texts: the visitor is
    written last, and leaves the session as it was written. -/
theorem atRest_set (hkeys : w.1.visitorKey ≠ w.1.sessionKey) (h : w.2.IsSound) (s : SiteState) :
    AtRest (set s w).state s := by
  obtain ⟨b, hb, hsound, hsession, -⟩ :=
    exists_writeReference s.session w.1.sessionKey (h.backend w.1.sessionPlace)
  obtain ⟨b', hb', -, hvisitor, hkeep⟩ :=
    exists_writeReference s.visitor w.1.visitorKey (h.put hsound w.1.sessionPlace).durable
  have hset : (set s w).state = ({ w.1 with area := s.area },
      (w.2.put b w.1.sessionPlace).put b' .durable) := by
    simp only [set, write, hb, hb']
  rw [hset]
  refine ⟨?_, hvisitor⟩
  cases hplace : w.1.sessionPlace with
  | transient => exact hsession
  | durable =>
    simp only [hplace] at hkeep ⊢
    exact hkeep hkeys.symm hsession

/-- Where everything rests already, a write does nothing but set the variable. -/
theorem set_of_atRest (h : w.2.IsSound) (hrest : AtRest w s) :
    set s w = { result := .ok s, state := ({ w.1 with area := s.area }, w.2) } := by
  have hsession := writeReference_of_rests (h.backend w.1.sessionPlace).fault hrest.session
  have hvisitor := writeReference_of_rests h.durable.fault hrest.visitor
  simp only [set, write, hsession, Shelf.put_backend, hvisitor]
  rfl

/-- A state that was written is not written again. -/
theorem set_set (hkeys : w.1.visitorKey ≠ w.1.sessionKey) (h : w.2.IsSound) (s : SiteState) :
    (set s (set s w).state).state = (set s w).state := by
  obtain ⟨shelf, hcommit, hsound, -⟩ := commit_of_isSound hkeys h s
  have hset := (commit_eq_set s w).symm.trans hcommit
  have hrest := atRest_set hkeys h s
  rw [hset] at hrest ⊢
  rw [set_of_atRest hsound hrest]

/-! ## Reading back -/

/-- What a store shows of a state: nothing if there is nothing in it. -/
def shown (s : SiteState) : Except SiteStateError SiteState :=
  if s.isEmpty then .error .absent else .ok s

theorem shown_normalized (s : SiteState) :
    shown s.normalized = if s.visitor.isSome then .ok s.normalized else .error .absent := by
  rcases s with ⟨_ | v, _ | r, _ | a⟩ <;> rfl

theorem get_of_slots_eq (h : w.2.IsSound) (hslots : slots w = .ofState s) :
    (get w).result = shown s.normalized := by
  rw [get_of_isSound h (hslots ▸ Slots.isWellFormed_ofState s), contents, hslots,
    Slots.state_ofState, shown_normalized]

/-- A write on sound storages succeeds, and any store with the same keys, whatever is in its
    variable, shows what was written, with its own area. -/
theorem get_of_written (hkeys : w.1.visitorKey ≠ w.1.sessionKey) (h : w.2.IsSound)
    (s : SiteState) :
    (set s w).result = .ok s ∧ ∀ area,
      (get ({ w.1 with area }, (set s w).state.2)).result =
        shown { s with area }.normalized := by
  obtain ⟨shelf, hcommit, hsound, hslots⟩ := commit_of_isSound hkeys h s
  have hset := (commit_eq_set s w).symm.trans hcommit
  rw [hset]
  refine ⟨rfl, fun area => get_of_slots_eq hsound ?_⟩
  exact congrArg (fun t : Slots => { t with area }) hslots

/-- Whatever stands in sound storages, a state that a store writes is what it shows next, without
    what has no ancestors, and nothing is shown if nothing has; nothing is shown of a cleared
    store; to write the state again changes nothing; and another store that is opened on the same
    storages shows the same without the area, which is in the variable of the first. The two roles
    may be played by one storage. -/
theorem reads_back {apiKey : String} {place : Place} {st : SplitStore}
    (hnew : new apiKey place = .ok st) (area : Option (Reference .area)) {shelf : Shelf}
    (hsound : shelf.IsSound) (s : SiteState) :
    let w := ({ st with area }, shelf)
    let written := set s w
    let cleared := clear w
    written.result = .ok s ∧ (get written.state).result = shown s.normalized ∧
      cleared.result = .ok .empty ∧ (get cleared.state).result = .error .absent ∧
      (set s written.state).state = written.state ∧
      ∀ st', new apiKey place = .ok st' →
        (get (st', written.state.2)).result = shown { s.normalized with area := none } := by
  intro w written cleared
  have hst := eq_of_new hnew
  have hkeys : w.1.visitorKey ≠ w.1.sessionKey := by
    show st.visitorKey ≠ st.sessionKey
    rw [hst]
    exact keyFor_ne apiKey apiKey
  have hstore (next : SiteState) :
      (set next w).state = ({ w.1 with area := next.area }, (set next w).state.2) :=
    Prod.ext (store_set next w) rfl
  obtain ⟨hresult, hget⟩ := get_of_written hkeys hsound s
  obtain ⟨hclear, hempty⟩ := get_of_written hkeys hsound .empty
  refine ⟨hresult, ?_, hclear, ?_, set_set hkeys hsound s, fun st' hnew' => ?_⟩
  · show (get (set s w).state).result = _
    rw [hstore]
    exact hget s.area
  · show (get (set .empty w).state).result = _
    rw [hstore]
    exact hempty none
  · -- The other store is as the first was when it was opened.
    have hst' : st' = { w.1 with area := none } := by
      rw [eq_of_new hnew']
      show _ = { st with area := none }
      rw [hst]
    have hnone : { s with area := none }.normalized = { s.normalized with area := none } := by
      rcases s with ⟨_ | v, _ | r, a⟩ <;> rfl
    rw [hst', hget none, hnone]

/-- One storage plays both roles, and there is no reference under either key. The state that is
    written has an area, but no session. -/
theorem reads_back_malformed :
    let id (n : Nat) : FreshId := ⟨Id.v7 n 0, Id.version_v7 n 0⟩
    let st : SplitStore := {
      visitorKey := keyFor "VISITOR" "key"
      sessionKey := keyFor "SESSION" "key"
      sessionPlace := .durable }
    let w : SplitStore × Shelf := ({ st with area := some (.ofFresh (id 3)) }, {
      durable.medium := .memory (.ofList [(keyFor "VISITOR" "key", "junk"),
        (keyFor "SESSION" "key", "")]) })
    let s : SiteState := { visitor := some (.ofFresh (id 1)), area := some (.ofFresh (id 2)) }
    new "key" .durable = .ok st ∧ w.2.IsSound ∧
      (get w).result = .error (.malformed "Invalid reference id 'junk'") ∧
      (set s w).result = .ok s ∧
      (get (set s w).state).result = .ok { visitor := some (.ofFresh (id 1)) } ∧
      (get (clear w).state).result = .error .absent ∧
      (set s (set s w).state).state = (set s w).state ∧
      (get (st, (set s w).state.2)).result = .ok { visitor := some (.ofFresh (id 1)) } := by
  intro id st w s
  have hnew : new "key" .durable = .ok st := by decide +kernel
  have hsound : w.2.IsSound := ⟨⟨fun _ => rfl, trivial⟩, ⟨fun _ => rfl, trivial⟩⟩
  obtain ⟨hset, hget, -, hclear, htwice, hother⟩ :=
    reads_back hnew (some (.ofFresh (id 3))) hsound s
  exact ⟨hnew, hsound, by decide +kernel, hset, hget, hclear, htwice, hother st hnew⟩

end SplitStore

end Clickstream
