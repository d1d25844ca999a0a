import Clickstream.Proofs.Store.Ancestry
import Clickstream.Proofs.Store.Soundness

/-!
# Trackers that share their storages

Several trackers with one API key may share their storages. They have visitor and session in
common then, but each keeps the area to itself, in the variable of its store, where nobody
tells it that another one has replaced the session. So an area can outlive its session
(`exists_area_of_replaced`), and clicks go on being created in it.

That is all that can go wrong. Visitor and session are looked up in the storages by every
operation and written by it together, so they are true whoever wrote them; and the session of
an area is the one in the storages until another tracker replaces or removes it.

* `plan_of_area`: an operation keeps the area that it sees only if it is a click in it;
* `shares_after`: what one operation makes of the stores of all trackers;
* `isTrueExcept_run`: what every store shows after every run.
-/

namespace Clickstream

/-! ## States that are true with exceptions -/

/-- Everything in a state was created, under what stands above it in the state, but for the
    area, which may have been created under an excused session. -/
structure SiteState.IsTrueExcept (Excused : Reference .session → Prop) (created : List Event)
    (s : SiteState) : Prop where
  visitor : ∀ v, s.visitor = some v → .visitor v ∈ created
  session : ∀ r, s.session = some r → ∃ v, s.visitor = some v ∧ .session r v ∈ created
  area : ∀ a, s.area = some a → ∃ r, (s.session = some r ∨ Excused r) ∧ .area a r ∈ created

namespace SiteState

variable {Excused Excused' : Reference .session → Prop} {created created' : List Event}
  {s : SiteState}

theorem IsTrue.except (h : s.IsTrue created) : s.IsTrueExcept Excused created where
  visitor := h.visitor
  session := h.session
  area a ha := (h.area a ha).imp fun _ h => ⟨.inl h.1, h.2⟩

theorem IsTrueExcept.mono (h : s.IsTrueExcept Excused created)
    (hexcused : ∀ r, Excused r → Excused' r) (hsub : created ⊆ created') :
    s.IsTrueExcept Excused' created' where
  visitor v hv := hsub (h.visitor v hv)
  session r hr := (h.session r hr).imp fun _ h => ⟨h.1, hsub h.2⟩
  area a ha := (h.area a ha).imp fun r h => ⟨h.1.imp_right (hexcused r), hsub h.2⟩

theorem IsTrueExcept.normalized (h : s.IsTrueExcept Excused created) :
    s.normalized.IsTrueExcept Excused created := by
  obtain ⟨_ | v, _ | r, a⟩ := s
  · exact (isTrue_empty created).except
  · exact (isTrue_empty created).except
  · exact (isTrue_visitor h.visitor).except
  · exact h

/-- Without its area, the state is true. -/
theorem IsTrueExcept.isTrue (h : s.IsTrueExcept Excused created) :
    ({ s with area := none } : SiteState).IsTrue created :=
  isTrue_of_area_none h.visitor h.session rfl

end SiteState

/-- An operation keeps the area that it sees only if it is a click in it; any other does the
    same as without an area. -/
theorem Operation.plan_of_area (op : Operation) (ids : Nat → FreshId) {s : SiteState}
    (hs : s.isConsistent) :
    (op = .registerClick ∧ ∃ a, s.area = some a ∧
        op.plan ids s = ⟨[.click (.ofFresh (ids 0)) a], s⟩) ∨
      op.plan ids s = op.plan ids { s with area := none } := by
  obtain rfl | ⟨v, rfl⟩ | ⟨v, r, rfl⟩ | ⟨v, r, a, rfl⟩ := SiteState.eq_of_isConsistent hs
  · exact .inr rfl
  · exact .inr rfl
  · exact .inr rfl
  · cases op with
    | registerClick => exact .inl ⟨rfl, a, rfl, rfl⟩
    | _ => exact .inr rfl

/-- A click is created in the area that is planned. -/
theorem Operation.plan_registerClick (ids : Nat → FreshId) {s : SiteState} (hs : s.isConsistent) :
    ∃ c a, (registerClick.plan ids s).batch.getLast? = some (.click c a) ∧
      (registerClick.plan ids s).next.area = some a ∧
      (registerClick.plan ids s).next.visitor.isSome ∧
      (registerClick.plan ids s).next.isConsistent := by
  obtain rfl | ⟨v, rfl⟩ | ⟨v, r, rfl⟩ | ⟨v, r, a, rfl⟩ := SiteState.eq_of_isConsistent hs <;>
    exact ⟨_, _, rfl, rfl, rfl, rfl⟩

/-! ## Companies -/

/-- What one of several trackers has of its own. -/
structure Party (π : Type) where
  store : SplitStore
  publisher : π × List (List WireEvent)
  tracker : Tracker := {}
  log : Log := []

/-- Trackers that share their storages and a supply of ids, and all events that they have
    created. -/
structure Company (ι π : Type) where
  party : ι → Party π
  shelf : Shelf := {}
  supply : Supply
  created : List Event := []

namespace Company

variable {ι π : Type}

/-- The store of one of the trackers, on the storages. -/
def store (h : Company ι π) (i : ι) : SplitStore × Shelf := ((h.party i).store, h.shelf)

/-- What one of the trackers finds. -/
def scene (h : Company ι π) (i : ι) : Scene (RecordedWorld (SplitStore × Shelf) π) where
  tracker := (h.party i).tracker
  world := {
    store := h.store i
    publisher := (h.party i).publisher
    supply := h.supply
    log := (h.party i).log }

/-- One of the trackers runs an operation. -/
def after [DecidableEq ι] (publish : ι → Publisher π) (h : Company ι π) (t : ι × Operation) :
    Company ι π :=
  let env := World.surroundings SplitStore.store (publish t.1).recorded
  let s := (Tracker.perform env t.2 (h.scene t.1)).2
  { party := Function.update h.party t.1 {
      store := s.world.store.1
      publisher := s.world.publisher
      tracker := s.tracker
      log := s.world.log }
    shelf := s.world.store.2
    supply := s.world.supply
    created := h.created ++ Tracker.created env t.2 (h.scene t.1).world }

/-- Whether the trackers, which are at rest, share sound storages in which nothing is malformed,
    and look under the same keys. -/
structure Shares (apiKey : String) (place : Place) (h : Company ι π) : Prop where
  isFor : ∀ i, (h.party i).store.IsFor apiKey
  place : ∀ i, (h.party i).store.sessionPlace = place
  isAtRest : ∀ i, (h.party i).tracker = {}
  isSound : h.shelf.IsSound
  isWellFormed : ∀ i, (SplitStore.slots (h.store i)).IsWellFormed

open SplitStore

variable {apiKey : String} {place : Place} {h : Company ι π} {publish : ι → Publisher π}

/-- Stores on the same storages that look under the same keys differ in their areas only. -/
theorem slots_eq {st st' : SplitStore} (hst : st.IsFor apiKey) (hst' : st'.IsFor apiKey)
    (hplace : st'.sessionPlace = st.sessionPlace) (shelf : Shelf) :
    slots (st', shelf) = { slots (st, shelf) with area := st'.area } := by
  simp only [slots, hst.1, hst.2, hst'.1, hst'.2, hplace]

/-- New stores, where nothing stands under their keys. -/
theorem shares_of_new (hnew : ∀ i, SplitStore.new apiKey place = .ok (h.party i).store)
    (hrest : ∀ i, (h.party i).tracker = {}) (hsound : h.shelf.IsSound)
    (hvisitor : h.shelf.durable.found (keyFor "VISITOR" apiKey) = none)
    (hsession : (h.shelf.backend place).found (keyFor "SESSION" apiKey) = none) :
    h.Shares apiKey place ∧ ∀ i, contents (h.store i) = .empty := by
  have hslots (i : ι) : slots (h.store i) = .ofState .empty := by
    rw [store, eq_of_new (hnew i), slots, hvisitor, hsession]
    rfl
  refine ⟨⟨fun i => ?_, fun i => ?_, hrest, hsound, fun i => ?_⟩, fun i => ?_⟩
  · rw [eq_of_new (hnew i)]
    exact ⟨rfl, rfl⟩
  · rw [eq_of_new (hnew i)]
  · rw [hslots]
    exact Slots.isWellFormed_ofState _
  · rw [contents, hslots, Slots.state_ofState]

variable [DecidableEq ι]

/-- A tracker that is at rest changes its own store and the storages, and leaves the others
    alone. -/
theorem after_eq (publish : ι → Publisher π) {i : ι} (hrest : (h.party i).tracker = {})
    (op : Operation) :
    let w := (h.scene i).world
    let w' := (Tracker.operate SplitStore.store (publish i).recorded op w).2
    h.after publish (i, op) = {
      party := Function.update h.party i
        { store := w'.store.1, publisher := w'.publisher, log := w'.log }
      shelf := w'.store.2
      supply := w'.supply
      created := h.created ++
        Tracker.created (World.surroundings SplitStore.store (publish i).recorded) op w } := by
  have hscene : h.scene i = { world := (h.scene i).world } :=
    congrArg (Scene.mk · (h.scene i).world) hrest
  simp only [after]
  rw [hscene, Tracker.perform_eq]

/-- What one operation makes of the stores of all trackers. -/
theorem shares_after (publish : ι → Publisher π) (hh : h.Shares apiKey place) (i : ι)
    (op : Operation) :
    let p := op.plan (h.scene i).world.fresh (op.seen (contents (h.store i)))
    let h' := h.after publish (i, op)
    h'.Shares apiKey place ∧ h'.created = h.created ++ p.batch ∧
      contents (h'.store i) = p.next ∧
      ∀ j, j ≠ i → contents (h'.store j) = { p.next with area := (contents (h.store j)).area } := by
  intro p h'
  obtain ⟨hs, ds, heffect, hcreated, -⟩ :=
    Tracker.effect_operate SplitStore.store (publish i) op (h.scene i).world
  obtain ⟨rfl, rfl, hstore, hsound, hslots⟩ :=
    effect_of_isSound (hh.isFor i).keys_ne hh.isSound (hh.isWellFormed i) heffect
  have hafter := after_eq publish (hh.isAtRest i) op
  simp only [hcreated, List.append_nil] at hafter
  generalize (Tracker.operate SplitStore.store (publish i).recorded op (h.scene i).world).2 = w'
    at hstore hsound hslots hafter
  have hparty : h'.party i = { store := w'.store.1, publisher := w'.publisher, log := w'.log } := by
    simp only [h', hafter, Function.update_self]
  have hother (j : ι) (hj : j ≠ i) : h'.party j = h.party j := Function.update_of_ne hj ..
  -- The tracker has changed the area of its own store only.
  have hlike (j : ι) : (h'.party j).store.IsFor apiKey ∧ (h'.party j).store.sessionPlace = place ∧
      (h'.party j).tracker = {} := by
    by_cases hj : j = i
    · rw [hj, hparty]
      dsimp only
      rw [hstore]
      exact ⟨hh.isFor i, hh.place i, rfl⟩
    · rw [hother j hj]
      exact ⟨hh.isFor j, hh.place j, hh.isAtRest j⟩
  have hshelf : h'.shelf = w'.store.2 := congrArg shelf hafter
  have hown : slots (h'.store i) = .ofState p.next := by
    rw [store, hparty, hshelf]
    exact hslots
  have hall (j : ι) :
      slots (h'.store j) = .ofState { p.next with area := (h'.party j).store.area } := by
    rw [store, slots_eq (hlike i).1 (hlike j).1 ((hlike j).2.1.trans (hlike i).2.1.symm)]
    exact congrArg (fun t : Slots => { t with area := (h'.party j).store.area }) hown
  refine ⟨⟨fun j => (hlike j).1, fun j => (hlike j).2.1, fun j => (hlike j).2.2, hshelf ▸ hsound,
    fun j => ?_⟩, congrArg created hafter, ?_, fun j hj => ?_⟩
  · rw [hall j]
    exact Slots.isWellFormed_ofState _
  · rw [contents, hown, Slots.state_ofState]
  · rw [contents, hall j, Slots.state_ofState, hother j hj]
    rfl

/-! ## Runs -/

/-- Whether, in a run, another tracker than this one has replaced or removed a session: it was in
    the storages before an operation of the other one, and was not after it. -/
def Displaced (publish : ι → Publisher π) (start : Company ι π) (ts : List (ι × Operation)) (i : ι)
    (r : Reference .session) : Prop :=
  ∃ before t rest, ts = before ++ t :: rest ∧ t.1 ≠ i ∧
    (contents ((before.foldl (after publish) start).store i)).session = some r ∧
    (contents (((before ++ [t]).foldl (after publish) start).store i)).session ≠ some r

variable {start : Company ι π} {ts : List (ι × Operation)}

theorem Displaced.concat {i : ι} {r : Reference .session} (h : Displaced publish start ts i r)
    (t : ι × Operation) : Displaced publish start (ts ++ [t]) i r := by
  obtain ⟨before, t', rest, rfl, h⟩ := h
  exact ⟨before, t', rest ++ [t], by simp, h⟩

/-- What a tracker plans over a state that is true with exceptions is true with the same
    exceptions. -/
theorem isTrueExcept_plan {Excused : Reference .session → Prop} {created : List Event}
    {s : SiteState} (hs : s.IsTrueExcept Excused created) (op : Operation) (ids : Nat → FreshId) :
    let p := op.plan ids (op.seen s)
    p.next.IsTrueExcept Excused (created ++ p.batch) := by
  intro p
  have hseen : (op.seen s).IsTrueExcept Excused created := by
    unfold Operation.seen
    split
    · exact (SiteState.isTrue_empty created).except
    · exact hs.normalized
  rcases op.plan_of_area ids (op.isConsistent_seen s) with ⟨-, a, -, hp⟩ | hp
  · -- A click in an area leaves everything as it is.
    simp only [p, hp]
    exact hseen.mono (fun _ h => h) (by simp)
  · simp only [p, hp]
    exact (op.isTrue_plan ids hseen.isTrue).except

/-- What every store holds is true, but for areas whose session another tracker has replaced. -/
theorem isTrueExcept_run (hstart : start.Shares apiKey place)
    (htrue : ∀ i,
      (contents (start.store i)).IsTrueExcept (Displaced publish start [] i) start.created)
    (ts : List (ι × Operation)) :
    let h := ts.foldl (after publish) start
    h.Shares apiKey place ∧
      ∀ i, (contents (h.store i)).IsTrueExcept (Displaced publish start ts i) h.created := by
  induction ts using List.reverseRecOn with
  | nil => exact ⟨hstart, htrue⟩
  | append_singleton ts t ih =>
    obtain ⟨hshares, htrue⟩ := ih
    obtain ⟨i, op⟩ := t
    have hconcat : (ts ++ [(i, op)]).foldl (after publish) start =
        (ts.foldl (after publish) start).after publish (i, op) := List.foldl_concat ..
    obtain ⟨hshares', hcreated, hown, hother⟩ := shares_after publish hshares i op
    have hplan := isTrueExcept_plan (htrue i) op
      ((ts.foldl (after publish) start).scene i).world.fresh
    rw [hconcat]
    refine ⟨hshares', fun j => ?_⟩
    by_cases hj : j = i
    · rw [hj, hown, hcreated]
      exact hplan.mono (fun r hr => hr.concat _) (List.Subset.refl _)
    · rw [hother j hj, hcreated]
      refine ⟨hplan.visitor, hplan.session, fun a ha => ?_⟩
      obtain ⟨r, hr | hr, hmem⟩ := (htrue j).area a ha
      · refine ⟨r, ?_, List.mem_append_left _ hmem⟩
        -- Either the session of the area is still there, or it was replaced just now.
        refine or_iff_not_imp_left.2 fun hne => ⟨ts, (i, op), [], rfl, Ne.symm hj, hr, ?_⟩
        rwa [hconcat, hother j hj]
      · exact ⟨r, .inr (hr.concat _), List.mem_append_left _ hmem⟩

/-- Several trackers share storages that do not fail. Whatever they do, and in whatever order, the
    session that a store shows was created under the visitor that it shows, and the area under
    the session that it shows, unless another tracker has replaced or removed the session of the
    area meanwhile. A click is created in the area that the store of its tracker then shows. -/
theorem isTrueExcept_get_run (hnew : ∀ i, SplitStore.new apiKey place = .ok (start.party i).store)
    (hrest : ∀ i, (start.party i).tracker = {}) (hsound : start.shelf.IsSound)
    (hvisitor : start.shelf.durable.found (keyFor "VISITOR" apiKey) = none)
    (hsession : (start.shelf.backend place).found (keyFor "SESSION" apiKey) = none)
    (publish : ι → Publisher π) (ts : List (ι × Operation)) (i : ι) :
    let h := ts.foldl (after publish) start
    ((get (h.store i)).result = .error .absent ∨
        ∃ s, (get (h.store i)).result = .ok s ∧ s.isConsistent ∧
          s.IsTrueExcept (Displaced publish start ts i) h.created) ∧
      let h' := h.after publish (i, .registerClick)
      ∃ c a s, h'.created.getLast? = some (.click c a) ∧ (get (h'.store i)).result = .ok s ∧
        s.area = some a := by
  intro h
  obtain ⟨hstart, hempty⟩ := shares_of_new hnew hrest hsound hvisitor hsession
  obtain ⟨hshares, htrue⟩ : h.Shares apiKey place ∧
      ∀ i, (contents (h.store i)).IsTrueExcept (Displaced publish start ts i) h.created :=
    isTrueExcept_run hstart (fun i => by rw [hempty i]; exact (SiteState.isTrue_empty _).except) ts
  constructor
  · rw [get_of_isSound hshares.isSound (hshares.isWellFormed i)]
    split
    · exact .inr ⟨_, rfl, SiteState.isConsistent_normalized _, (htrue i).normalized⟩
    · exact .inl rfl
  · intro h'
    obtain ⟨hshares', hcreated, hown, -⟩ :=
      shares_after publish hshares i .registerClick
    obtain ⟨c, a, hlast, harea, hroot, hconsistent⟩ :=
      Operation.plan_registerClick (h.scene i).world.fresh
        (SiteState.isConsistent_normalized (contents (h.store i)))
    refine ⟨c, a, _, ?_, ?_, harea⟩
    · rw [hcreated]
      exact List.getLast?_append.trans (congrArg (·.or h.created.getLast?) hlast)
    · rw [get_of_isSound (w := h'.store i) hshares'.isSound (hshares'.isWellFormed i), hown]
      exact (if_pos hroot).trans
        (congrArg Except.ok ((SiteState.normalized_eq_self_iff _).2 hconsistent))

/-- The one tracker creates an area, and the other one a session. The store of the first then
    shows its area in the new session, and the next click is created there. -/
theorem exists_area_of_replaced :
    let id (n : Nat) : FreshId := ⟨Id.v7 n 0, Id.version_v7 n 0⟩
    let start : Company Bool Unit := {
      party := fun _ => {
        store := { visitorKey := keyFor "VISITOR" "key", sessionKey := keyFor "SESSION" "key" }
        publisher := ((), []) }
      supply := { ids := id } }
    let publish : Bool → Publisher Unit := fun _ batch u => (.ok batch.length, u)
    let h := [(false, .registerArea), (true, .registerSession)].foldl (after publish) start
    let h' := h.after publish (false, .registerClick)
    let s : SiteState := {
      visitor := some (.ofFresh (id 0))
      session := some (.ofFresh (id 3))
      area := some (.ofFresh (id 2)) }
    (get (h.store false)).result = .ok s ∧ ¬ s.IsTrue h.created ∧
      (get (h'.store false)).result = .ok s ∧
      h'.created.getLast? = some (.click (.ofFresh (id 4)) (.ofFresh (id 2))) ∧
      Event.area (.ofFresh (id 2)) (.ofFresh (id 3)) ∉ h'.created := by
  intro id start publish h h' s
  refine ⟨by decide +kernel, fun htrue => ?_, by decide +kernel, by decide +kernel,
    by decide +kernel⟩
  obtain ⟨r, hr, hmem⟩ := htrue.area _ rfl
  cases hr
  exact absurd hmem (by decide +kernel)

/-- The area of the first tracker is under a session that the second one has replaced. -/
theorem isTrueExcept_get_run_replaced :
    let id (n : Nat) : FreshId := ⟨Id.v7 n 0, Id.version_v7 n 0⟩
    let start : Company Bool Unit := {
      party := fun _ => {
        store := { visitorKey := keyFor "VISITOR" "key", sessionKey := keyFor "SESSION" "key" }
        publisher := ((), []) }
      supply := { ids := id } }
    let publish : Bool → Publisher Unit := fun _ batch u => (.ok batch.length, u)
    let ts : List (Bool × Operation) := [(false, .registerArea), (true, .registerSession)]
    let h := ts.foldl (after publish) start
    ∃ s, (get (h.store false)).result = .ok s ∧ s.area.isSome ∧
      s.IsTrueExcept (Displaced publish start ts false) h.created := by
  intro id start publish ts h
  have hnew (i : Bool) : SplitStore.new "key" .transient = .ok (start.party i).store := by
    rw [SplitStore.new, if_neg (by simp [isBlankText, isBlank, blankRanges])]
  have hrun := isTrueExcept_get_run hnew (fun _ => rfl) Shelf.isSound_default rfl rfl publish ts
    false
  rcases hrun.1 with habsent | ⟨s, hs, -, hexcept⟩
  · exact absurd habsent (by decide +kernel)
  · have hshown : (get (h.store false)).result.toOption.bind (·.area) ≠ none := by decide +kernel
    rw [hs] at hshown
    exact ⟨s, hs, Option.ne_none_iff_isSome.1 hshown, hexcept⟩

end Company

end Clickstream
