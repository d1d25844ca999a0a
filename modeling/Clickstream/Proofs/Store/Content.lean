import Clickstream.Proofs.Storage.Medium
import Clickstream.Proofs.Tracker.Effect

/-!
# What a split store holds

A split store looks in three places: under a key in each of two storages, and in its
variable (`SplitStore.slots`). Every call of the store is told by what stands there before
and after it, whichever calls of the storages fail, and whatever texts stand there.

* `get_cases`: the store shows what can be read in these places (`Slots.read`), or a
  storage fails;
* `slots_set`: a write leaves the old texts with the new area, the old visitor with all
  else new, or everything new;
* `look_eq`, `commit_eq_set`: so do the looks and commits of a tracker.

A store *holds* a state if its parts stand there as the store writes them
(`SplitStore.Holds`).

* `get_of_holds`: the store shows the held state without what has no ancestors, or
  fails; it never calls it malformed;
* `holds_of_set`: a write leaves the held state with the new area, with the new
  session as well, or altogether replaced.
-/

namespace Clickstream

/-! ## Storages -/

namespace Backend

/-- The text that stands under a key, if what holds the entries can be read. -/
def found (key : String) (b : Backend) : Option String := (b.medium.getItem key).toOption.join

variable {b b' : Backend} {key : String}

theorem found_of_getItem {o : Option String} (h : b.getItem key = .ok o) : b.found key = o := by
  rw [getItem] at h
  split at h
  · cases h
  · rw [found, h]
    rfl

/-- A call that may write has failed and changed nothing, or has put a text under its
    key, or nothing, and left everything else as it was. -/
theorem attempt_cases {call : Call} {write : Medium → Except StorageError Medium}
    {o : Option String} {r : Except StorageError Unit}
    (hwrite : ∀ m', write b.medium = .ok m' → ∀ key',
      m'.getItem key' = if key' = key then .ok o else b.medium.getItem key')
    (h : b.attempt call write = (r, b')) :
    (∃ e, r = .error e) ∧ b' = b ∨
      r = .ok () ∧ ∀ key', b'.found key' = if key' = key then o else b.found key' := by
  rw [attempt] at h
  split at h
  · cases h
    exact .inl ⟨⟨_, rfl⟩, rfl⟩
  · split at h
    · rename_i m hm
      cases h
      refine .inr ⟨rfl, fun key' => ?_⟩
      rw [found, found, hwrite m hm key']
      split <;> rfl
    · cases h
      exact .inl ⟨⟨_, rfl⟩, rfl⟩

end Backend

namespace Shelf

theorem put_backend (s : Shelf) (p : Place) : s.put (s.backend p) p = s := by cases p <;> rfl

/-- A storage in which one key has changed, put in its place, changes that key there
    and nothing else. -/
theorem found_put {s : Shelf} {b : Backend} {p : Place} {key : String} {o : Option String}
    (h : ∀ key', b.found key' = if key' = key then o else (s.backend p).found key') (q : Place)
    (key' : String) : ((s.put b p).backend q).found key' =
      if q = p ∧ key' = key then o else (s.backend q).found key' := by
  by_cases hq : q = p
  · subst hq
    simp [h]
  · rw [backend_put_of_ne s b hq, if_neg (hq ·.1)]

end Shelf

/-- What a write over a state may leave: the new area with what was there, the new
    session as well, or the new state. -/
def SiteState.overwriting (next s : SiteState) : List SiteState :=
  [{ s with area := next.area }, { next with visitor := s.visitor }, next]

/-! ## References under keys -/

namespace SplitStore

/-- A reference as it is stored. -/
def spell {k : Kind} (r : Reference k) : String := r.id.render

/-- What stands under a key, as a reference. -/
def readText (k : Kind) : Option String → Except SiteStateError (Option (Reference k))
  | none => .ok none
  | some text =>
    match Reference.parse text with
    | .ok r => .ok (some r)
    | .error e => .error e.toSiteStateError

@[simp] theorem readText_spell {k : Kind} (o : Option (Reference k)) :
    readText k (o.map spell) = .ok o := by
  cases o with
  | none => rfl
  | some r => simp only [Option.map_some, readText, spell, Reference.parse_render]

theorem readReference_eq (k : Kind) (b : Backend) (key : String) :
    readReference k b key =
      match b.getItem key with
      | .ok o => (readText k o, [])
      | .error e => (.error (.storage e.message), [.storageFailed .get]) := by
  rw [readReference]
  rcases b.getItem key with e | _ | text
  · rfl
  · rfl
  · dsimp only [readText]
    rcases Reference.parse text with e | r <;> rfl

/-- A reference is written under its key and nowhere else, or the write fails and
    nothing changes. -/
theorem writeReference_cases {k : Kind} {o : Option (Reference k)} {key : String}
    {b b' : Backend} {r : Except SiteStateError Unit} {log : Log}
    (h : writeReference o key b = (r, log, b')) :
    (∃ e, r = .error e) ∧ b' = b ∨
      r = .ok () ∧ ∀ key', b'.found key' = if key' = key then o.map spell else b.found key' := by
  unfold writeReference at h
  cases o with
  | some ref =>
    rcases hset : b.setItem key ref.id.render with ⟨result, b₁⟩
    simp only [hset] at h
    rcases Backend.attempt_cases (fun _ => Medium.getItem_of_setItem) hset with
      ⟨⟨e, rfl⟩, rfl⟩ | ⟨rfl, hfound⟩ <;> cases h
    · exact .inl ⟨⟨_, rfl⟩, rfl⟩
    · exact .inr ⟨rfl, hfound⟩
  | none =>
    rcases hremove : b.removeItem key with ⟨result, b₁⟩
    simp only [hremove] at h
    rcases Backend.attempt_cases (fun _ => Medium.getItem_of_removeItem) hremove with
      ⟨⟨e, rfl⟩, rfl⟩ | ⟨rfl, hfound⟩ <;> cases h
    · exact .inl ⟨⟨_, rfl⟩, rfl⟩
    · exact .inr ⟨rfl, hfound⟩

/-! ## Slots -/

/-- What stands where a store looks: the texts under its keys, and the area in its
    variable. -/
structure Slots where
  visitor : Option String
  session : Option String
  area : Option (Reference .area)

/-- What stands where a store looks. -/
def slots (w : SplitStore × Shelf) : Slots where
  visitor := w.2.durable.found w.1.visitorKey
  session := (w.2.backend w.1.sessionPlace).found w.1.sessionKey
  area := w.1.area

namespace Slots

/-- A state as it is written. -/
def ofState (s : SiteState) : Slots := ⟨s.visitor.map spell, s.session.map spell, s.area⟩

/-- The state in some slots, without texts that are no references. -/
def state (t : Slots) : SiteState where
  visitor := (readText .visitor t.visitor).toOption.join
  session := (readText .session t.session).toOption.join
  area := t.area

/-- What can be read in some slots: the session only if there is a visitor, and the area
    only if there is a session. -/
def read (t : Slots) : Except SiteStateError SiteState :=
  match readText .visitor t.visitor with
  | .error e => .error e
  | .ok none => .error .absent
  | .ok (some visitor) =>
    match readText .session t.session with
    | .error e => .error e
    | .ok none => .ok { visitor := some visitor }
    | .ok (some session) =>
      .ok { visitor := some visitor, session := some session, area := t.area }

@[simp] theorem state_ofState (s : SiteState) : (ofState s).state = s := by
  simp only [state, ofState, readText_spell]
  rfl

theorem read_eq_ok {t : Slots} {s : SiteState} (h : t.read = .ok s) : s = t.state.normalized := by
  simp only [read] at h
  simp only [state]
  generalize readText .visitor t.visitor = v at h ⊢
  generalize readText .session t.session = r at h ⊢
  rcases v with e | _ | v
  · cases h
  · cases h
  · rcases r with e | _ | r <;> cases h <;> rfl

/-- What is read where both texts are references, or missing. -/
theorem read_of_readText {t : Slots} {v : Option (Reference .visitor)}
    {r : Option (Reference .session)} (hv : readText .visitor t.visitor = .ok v)
    (hr : readText .session t.session = .ok r) :
    t.read = if v.isSome then .ok t.state.normalized else .error .absent := by
  simp only [read, state, hv, hr]
  cases v <;> cases r <;> rfl

end Slots

theorem get_of_getItem {w : SplitStore × Shelf} {v r : Option String}
    (hv : w.2.durable.getItem w.1.visitorKey = .ok v)
    (hr : (w.2.backend w.1.sessionPlace).getItem w.1.sessionKey = .ok r) :
    get w = { result := (slots w).read, state := w } := by
  simp only [get, SplitStore.read, readReference_eq, hv, hr, Slots.read, slots,
    Backend.found_of_getItem hv, Backend.found_of_getItem hr]
  rcases readText .visitor v with e | _ | v <;> dsimp only
  rcases readText .session r with e | _ | r <;> rfl

/-- A store shows what can be read in its slots, or a storage fails. -/
theorem get_cases (w : SplitStore × Shelf) :
    (get w).result = (slots w).read ∨ ∃ d, (get w).result = .error (.storage d) := by
  rcases hv : w.2.durable.getItem w.1.visitorKey with e | v
  · exact .inr ⟨e.message, by simp only [get, SplitStore.read, readReference_eq, hv]⟩
  · rcases hr : (w.2.backend w.1.sessionPlace).getItem w.1.sessionKey with e | r
    · -- The session is not looked at if there is no visitor.
      simp only [get, SplitStore.read, readReference_eq, hv, hr, Slots.read, slots,
        Backend.found_of_getItem hv]
      rcases readText .visitor v with e' | _ | v
      · exact .inl rfl
      · exact .inl rfl
      · exact .inr ⟨e.message, rfl⟩
    · exact .inl (by rw [get_of_getItem hv hr])

/-- A write changes nothing but the variable of the store itself. -/
theorem store_set (next : SiteState) (w : SplitStore × Shelf) :
    (set next w).state.1 = { w.1 with area := next.area } := by
  simp only [set, write]
  rcases writeReference next.session w.1.sessionKey (w.2.backend w.1.sessionPlace) with
    ⟨_ | _, log, b⟩ <;> rfl

/-- A write has failed at the session and left the texts, has failed at the visitor and left
    that, or has replaced everything. -/
theorem slots_set {w : SplitStore × Shelf} (hkeys : w.1.visitorKey ≠ w.1.sessionKey)
    (next : SiteState) :
    (∃ e, (set next w).result = .error e) ∧
        (slots (set next w).state = { slots w with area := next.area } ∨
          slots (set next w).state =
            { Slots.ofState next with visitor := (slots w).visitor }) ∨
      (set next w).result = .ok next ∧ slots (set next w).state = .ofState next := by
  obtain ⟨st, shelf⟩ := w
  rcases hsession : writeReference next.session st.sessionKey (shelf.backend st.sessionPlace) with
    ⟨result, log, b⟩
  simp only [set, write, hsession]
  -- The area is in memory and already replaced when the session is written, and the visitor
  -- is written last.
  rcases writeReference_cases hsession with ⟨⟨e, rfl⟩, rfl⟩ | ⟨rfl, hb⟩
  · refine .inl ⟨⟨e, rfl⟩, .inl ?_⟩
    simp only [slots, Shelf.put_backend]
  · have hput := Shelf.found_put hb
    -- The visitor's key is another one, even if it is in the same storage.
    have hv : (shelf.put b st.sessionPlace).durable.found st.visitorKey =
        shelf.durable.found st.visitorKey :=
      (hput .durable st.visitorKey).trans (if_neg (hkeys ·.2))
    have hr : ((shelf.put b st.sessionPlace).backend st.sessionPlace).found st.sessionKey =
        next.session.map spell := (hput _ _).trans (if_pos ⟨rfl, rfl⟩)
    rcases hvisitor : writeReference next.visitor st.visitorKey
        (shelf.put b st.sessionPlace).durable with ⟨result, log', b'⟩
    rcases writeReference_cases hvisitor with ⟨⟨e, rfl⟩, rfl⟩ | ⟨rfl, hb'⟩
    · refine .inl ⟨⟨e, rfl⟩, .inr ?_⟩
      exact congrArg₂ (Slots.mk · · next.area) hv hr
    · have hput' := Shelf.found_put (p := .durable) hb'
      have hv' := (hput' .durable st.visitorKey).trans (if_pos ⟨rfl, rfl⟩)
      have hr' := ((hput' _ st.sessionKey).trans (if_neg (hkeys ·.2.symm))).trans hr
      exact .inr ⟨rfl, congrArg₂ (Slots.mk · · next.area) hv' hr'⟩

/-! ## States -/

/-- A store and its shelf hold a state: each part of it stands where the store looks
    for it. -/
structure Holds (w : SplitStore × Shelf) (s : SiteState) : Prop where
  keys_ne : w.1.visitorKey ≠ w.1.sessionKey
  visitor : w.2.durable.found w.1.visitorKey = s.visitor.map spell
  session : (w.2.backend w.1.sessionPlace).found w.1.sessionKey = s.session.map spell
  area : w.1.area = s.area

theorem keyFor_ne (a b : String) : keyFor "VISITOR" a ≠ keyFor "SESSION" b := by
  intro h
  have := congrArg String.toList h
  simp [keyFor] at this

theorem eq_of_new {apiKey : String} {place : Place} {st : SplitStore}
    (h : new apiKey place = .ok st) :
    st = { visitorKey := keyFor "VISITOR" apiKey, sessionKey := keyFor "SESSION" apiKey,
           sessionPlace := place } := by
  rw [new] at h
  split at h
  · cases h
  · exact (Except.ok.inj h).symm

/-- A new store holds nothing if nothing stands under its keys. -/
theorem holds_of_new {apiKey : String} {place : Place} {w : SplitStore × Shelf}
    (hnew : new apiKey place = .ok w.1) (hv : w.2.durable.found w.1.visitorKey = none)
    (hr : (w.2.backend w.1.sessionPlace).found w.1.sessionKey = none) : Holds w .empty := by
  have hst := eq_of_new hnew
  exact ⟨by rw [hst]; exact keyFor_ne apiKey apiKey, hv, hr, by rw [hst]; rfl⟩

theorem Holds.slots_eq {w : SplitStore × Shelf} {s : SiteState} (h : Holds w s) :
    slots w = .ofState s := by
  rw [slots, h.visitor, h.session, h.area]
  rfl

theorem holds_of_slots_eq {w : SplitStore × Shelf} {s : SiteState}
    (hkeys : w.1.visitorKey ≠ w.1.sessionKey) (h : slots w = .ofState s) : Holds w s :=
  ⟨hkeys, congrArg Slots.visitor h, congrArg Slots.session h, congrArg Slots.area h⟩

/-- What a store shows of the state that it holds. -/
theorem get_of_holds {w : SplitStore × Shelf} {s : SiteState} (h : Holds w s) :
    (get w).result = (if s.visitor.isSome then .ok s.normalized else .error .absent) ∨
      ∃ d, (get w).result = .error (.storage d) := by
  refine (get_cases w).imp_left fun hget => hget.trans ?_
  rw [h.slots_eq, Slots.read_of_readText (readText_spell s.visitor) (readText_spell s.session),
    Slots.state_ofState]

theorem holds_of_set {w : SplitStore × Shelf} {s : SiteState} (h : Holds w s) (next : SiteState) :
    ∃ s' ∈ next.overwriting s, Holds (set next w).state s' ∧
      ((set next w).result = .ok next → s' = next) := by
  have hkeys : (set next w).state.1.visitorKey ≠ (set next w).state.1.sessionKey := by
    rw [store_set]
    exact h.keys_ne
  have hslots := slots_set h.keys_ne next
  rw [h.slots_eq] at hslots
  rcases hslots with ⟨⟨e, he⟩, hslots | hslots⟩ | ⟨-, hslots⟩
  · refine ⟨{ s with area := next.area }, by simp [SiteState.overwriting],
      holds_of_slots_eq hkeys hslots, fun h => ?_⟩
    rw [he] at h
    cases h
  · refine ⟨{ next with visitor := s.visitor }, by simp [SiteState.overwriting],
      holds_of_slots_eq hkeys hslots, fun h => ?_⟩
    rw [he] at h
    cases h
  · exact ⟨next, by simp [SiteState.overwriting], holds_of_slots_eq hkeys hslots, fun _ => rfl⟩

/-! ## Contents -/

/-- The state in a store, as far as it can be read, with what has no ancestors. -/
def contents (w : SplitStore × Shelf) : SiteState := (slots w).state

/-- Whether a store belongs to an API key. -/
def IsFor (apiKey : String) (st : SplitStore) : Prop :=
  st.visitorKey = keyFor "VISITOR" apiKey ∧ st.sessionKey = keyFor "SESSION" apiKey

theorem IsFor.keys_ne {apiKey : String} {st : SplitStore} (h : st.IsFor apiKey) :
    st.visitorKey ≠ st.sessionKey := by
  rw [h.1, h.2]
  exact keyFor_ne apiKey apiKey

theorem state_look (op : Operation) (w : SplitStore × Shelf) : (store.look op w).state = w := by
  unfold Store.look
  split <;> rfl

/-- What a look shows is in the store, or it shows nothing. -/
theorem look_eq {op : Operation} {w : SplitStore × Shelf} {s : SiteState}
    (h : (store.look op w).result = .ok s) : s = .empty ∨ s = (contents w).normalized := by
  unfold Store.look Store.view at h
  split at h
  · exact .inl (Except.ok.inj h).symm
  · rcases get_cases w with hget | ⟨d, hget⟩ <;> simp only [store, hget] at h
    · rcases hread : (slots w).read with (_ | _ | _) | s' <;> simp only [hread] at h <;> cases h
      · exact .inl rfl
      · right
        rw [Slots.read_eq_ok hread]
        exact SiteState.normalized_normalized _
    · cases h

/-- Clearing is writing the empty state. -/
theorem commit_eq_set (next : SiteState) (w : SplitStore × Shelf) :
    store.commit next w = set next w := by
  unfold Store.commit
  split
  · rename_i h
    rw [SiteState.eq_empty_of_isEmpty h]
    rfl
  · rfl

theorem keys_commit (next : SiteState) (w : SplitStore × Shelf) :
    (store.commit next w).state.1 = { w.1 with area := next.area } := by
  rw [commit_eq_set, store_set]

theorem commit_store {π : Type} (next : SiteState) (w : World (SplitStore × Shelf) π) :
    (w.commit store next).2.store = (set next w.store).state := by
  rw [World.commit_eq]
  exact congrArg Outcome.state (commit_eq_set next w.store)

/-- A look changes nothing in the store. -/
theorem see_store {π : Type} {op : Operation} {w w' : World (SplitStore × Shelf) π}
    {r : Except SiteStateError SiteState} (h : World.see store op w = (r, w')) :
    w'.store = w.store := by
  have hget : (World.callStore store.get w).2.store = w.store := rfl
  unfold World.see World.read at h
  split at h
  · cases h
    rfl
  · split at h <;> (rename_i heq; rw [heq] at hget; cases h; exact hget)

/-- An operation that looks sees the held state without what has no ancestors. -/
theorem see_of_holds {π : Type} {op : Operation} {w w' : World (SplitStore × Shelf) π}
    {r s : SiteState} (h : Holds w.store s) (hsee : World.see store op w = (.ok r, w')) :
    r = if op.kind.isRoot then .empty else s.normalized := by
  rw [World.see] at hsee
  cases hroot : op.kind.isRoot with
  | true =>
    rw [hroot] at hsee
    cases hsee
    rfl
  | false =>
    simp only [hroot, Bool.false_eq_true, if_false, World.read, World.callStore, store] at hsee ⊢
    rcases get_of_holds h with hget | ⟨d, hget⟩ <;> rw [hget] at hsee
    · cases hv : s.visitor with
      | none =>
        rw [hv] at hsee
        cases hsee
        simp [SiteState.normalized, hv, SiteState.empty]
      | some v =>
        rw [hv] at hsee
        cases hsee
        exact s.normalized_normalized
    · cases hsee

end SplitStore

end Clickstream
