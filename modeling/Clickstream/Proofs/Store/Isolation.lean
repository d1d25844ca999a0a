import Clickstream.Proofs.Store.Mirror

/-!
# Trackers with different API keys

Any number of trackers may use the same storages, be it one storage in both roles. If no two of
them have the same API key, they have nothing to do with each other: each gets the answers that
it would get alone, however their calls interleave, and nothing under any key but theirs is
touched.

This rests on the keys: from a key of a store its API key and the part of the state can be told
(`SplitStore.not_owns`), and a write changes what it owns and nothing else
(`SplitStore.found_set`). What a store answers depends on its slots alone, if the storages do
not fail, so it cannot tell whether others are there (`SplitStore.simulates_agrees`).

* `Tenancy.agrees_after`, `Tenancy.agrees_after_of_ne`: a tracker's own call and a call of
  another, in a run with the others and in one without them;
* `Tenancy.isIsolated_run`: what all runs have in common.
-/

namespace Clickstream

variable {ι π : Type}

/-! ## Stores -/

theorem Backend.IsSound.getItem_eq {b : Backend} (h : b.IsSound) (key : String) :
    b.getItem key = .ok (b.found key) := by
  obtain ⟨o, ho⟩ := h.getItem key
  rw [ho, found_of_getItem ho]

namespace SplitStore

/-- Whether a store keeps a part of its state under a key in a storage. -/
def Owns (st : SplitStore) (p : Place) (key : String) : Prop :=
  p = .durable ∧ key = st.visitorKey ∨ p = st.sessionPlace ∧ key = st.sessionKey

theorem keyFor_injective (part : String) : Function.Injective (keyFor part) := by
  intro a b h
  simpa [keyFor, String.ext_iff] using h

/-- Stores with different API keys own nothing in common. -/
theorem not_owns {a b : String} (hab : a ≠ b) {st st' : SplitStore} (hst : st.IsFor a)
    (hst' : st'.IsFor b) {p : Place} {key : String} (h : st.Owns p key) : ¬ st'.Owns p key := by
  obtain ⟨hvisitor, hsession⟩ := hst
  obtain ⟨hvisitor', hsession'⟩ := hst'
  rcases h with ⟨-, rfl⟩ | ⟨-, rfl⟩ <;> rintro (⟨-, hkey⟩ | ⟨-, hkey⟩)
  · rw [hvisitor, hvisitor'] at hkey
    exact hab (keyFor_injective _ hkey)
  · rw [hvisitor, hsession'] at hkey
    exact keyFor_ne a b hkey
  · rw [hsession, hvisitor'] at hkey
    exact keyFor_ne b a hkey.symm
  · rw [hsession, hsession'] at hkey
    exact hab (keyFor_injective _ hkey)

/-- A reference that is written in one place changes one key there. -/
theorem found_put_writeReference {k : Kind} (o : Option (Reference k)) (key : String) (s : Shelf)
    (p : Place) {q : Place} {key' : String} (h : ¬ (q = p ∧ key' = key)) :
    ((s.put (writeReference o key (s.backend p)).2.2 p).backend q).found key' =
      (s.backend q).found key' := by
  rcases hwrite : writeReference o key (s.backend p) with ⟨result, log, b⟩
  rcases writeReference_cases hwrite with ⟨-, rfl⟩ | ⟨-, hfound⟩
  · rw [Shelf.put_backend]
  · rw [Shelf.found_put hfound, if_neg h]

/-- A write changes nothing but what the store owns. -/
theorem found_set (next : SiteState) {w : SplitStore × Shelf} {p : Place} {key : String}
    (h : ¬ w.1.Owns p key) :
    ((set next w).state.2.backend p).found key = (w.2.backend p).found key := by
  obtain ⟨st, shelf⟩ := w
  have hsession := found_put_writeReference next.session st.sessionKey shelf st.sessionPlace
    fun hkey => h (.inr hkey)
  rcases hwrite : writeReference next.session st.sessionKey (shelf.backend st.sessionPlace) with
    ⟨_ | _, log, b⟩ <;> simp only [set, write, hwrite] at hsession ⊢
  · exact hsession
  · have hvisitor := found_put_writeReference next.visitor st.visitorKey
      (shelf.put b st.sessionPlace) .durable fun hkey => h (.inl hkey)
    exact hvisitor.trans hsession

/-- What a store finds does not change if what it owns does not. -/
theorem slots_eq_of_found {st : SplitStore} {s s' : Shelf}
    (h : ∀ p key, st.Owns p key → (s'.backend p).found key = (s.backend p).found key) :
    slots (st, s') = slots (st, s) := by
  have hvisitor := h .durable st.visitorKey (.inl ⟨rfl, rfl⟩)
  have hsession := h st.sessionPlace st.sessionKey (.inr ⟨rfl, rfl⟩)
  exact congrArg₂ (Slots.mk · · st.area) hvisitor hsession

theorem get_eq_of_isSound {w : SplitStore × Shelf} (h : w.2.IsSound) :
    get w = { result := (slots w).read, state := w } :=
  get_of_getItem (h.durable.getItem_eq _) ((h.backend _).getItem_eq _)

/-- Whether the same store stands on two shelves, on each of which no call fails, and finds the
    same on both. -/
structure Agrees (x y : SplitStore × Shelf) : Prop where
  store : y.1 = x.1
  keys_ne : x.1.visitorKey ≠ x.1.sessionKey
  isSound : x.2.IsSound
  isSound' : y.2.IsSound
  slots : slots y = slots x

theorem Agrees.get {x y : SplitStore × Shelf} (h : Agrees x y) :
    (SplitStore.get x).Matches Agrees (SplitStore.get y) := by
  rw [get_eq_of_isSound h.isSound, get_eq_of_isSound h.isSound', h.slots]
  exact ⟨rfl, rfl, h⟩

theorem Agrees.set {x y : SplitStore × Shelf} (h : Agrees x y) (next : SiteState) :
    (SplitStore.set next x).Matches Agrees (SplitStore.set next y) := by
  have hkeys := h.keys_ne
  rw [← h.store] at hkeys
  obtain ⟨s, hs, hsound, hslots⟩ := commit_of_isSound h.keys_ne h.isSound next
  obtain ⟨s', hs', hsound', hslots'⟩ := commit_of_isSound hkeys h.isSound' next
  rw [commit_eq_set] at hs hs'
  rw [hs, hs']
  exact ⟨rfl, rfl, congrArg (fun st : SplitStore => { st with area := next.area }) h.store,
     h.keys_ne, hsound, hsound', hslots'.trans hslots.symm⟩

/-- A tracker cannot tell one of the shelves from the other. -/
theorem simulates_agrees : store.Simulates Agrees store where
  view x y h := by
    obtain ⟨hresult, hlog, hstate⟩ := h.get
    refine ⟨?_, hlog, hstate⟩
    simp only [Store.view, store, hresult]
  commit x y h next := by
    rw [commit_eq_set, commit_eq_set]
    exact h.set next

/-- An operation writes to its store once, or not at all. -/
theorem exists_set_of_effect {op : Operation} {ids : Nat → FreshId} {x y : SplitStore × Shelf}
    {hs ds : List Event} (h : op.Effect store ids x hs ds y) :
    y = x ∨ ∃ next, y = (set next x).state := by
  cases h with
  | blind => exact .inl (state_look op x)
  | dropped | handed =>
    rw [state_look, commit_eq_set]
    exact .inr ⟨_, rfl⟩

end SplitStore

/-! ## Trackers -/

/-- What can be asked of a tracker, or of its store behind its back. -/
inductive Use
  | get
  | set (s : SiteState)
  | clear
  | operate (op : Operation)

/-- What comes back: the result of a call and what was measured, or all that can be seen of an
    operation. -/
inductive Use.Answer
  | call (result : Except SiteStateError SiteState) (log : Log)
  | turn (t : Tracker.Turn)

namespace Use

open SplitStore

/-- A call of the store of a tracker that is at rest. -/
def call (f : SplitStore × Shelf → Outcome SiteStateError SiteState (SplitStore × Shelf))
    (w : RecordedWorld (SplitStore × Shelf) π) :
    Answer × RecordedWorld (SplitStore × Shelf) π :=
  let o := f w.store
  (.call o.result o.log, { w with store := o.state, log := w.log ++ o.log })

/-- Uses a tracker, or its store. -/
def run (publish : Publisher π) (w : RecordedWorld (SplitStore × Shelf) π) :
    Use → Answer × RecordedWorld (SplitStore × Shelf) π
  | get => call SplitStore.get w
  | set s => call (SplitStore.set s) w
  | clear => call SplitStore.clear w
  | operate op =>
    let r := Tracker.operate store publish.recorded op w
    (.turn (.between r.1 w r.2), r.2)

variable {publish : Publisher π} {w w' : RecordedWorld (SplitStore × Shelf) π}

theorem call_matches
    {f : SplitStore × Shelf → Outcome SiteStateError SiteState (SplitStore × Shelf)}
    (h : w.Matches Agrees w') (hf : (f w.store).Matches Agrees (f w'.store)) :
    (call f w').1 = (call f w).1 ∧ (call f w).2.Matches Agrees (call f w').2 :=
  ⟨congrArg₂ Answer.call hf.result hf.log, hf.state, h.publisher, h.supply,
    congrArg₂ (· ++ ·) h.log hf.log⟩

/-- Whatever is asked, the answers on two shelves that agree are the same. -/
theorem run_matches (h : w.Matches Agrees w') (publish : Publisher π) (u : Use) :
    (u.run publish w').1 = (u.run publish w).1 ∧
      (u.run publish w).2.Matches Agrees (u.run publish w').2 := by
  cases u with
  | get => exact call_matches h h.store.get
  | set s => exact call_matches h (h.store.set s)
  | clear => exact call_matches h (h.store.set .empty)
  | operate op =>
    obtain ⟨hresult, hworld⟩ := h.operate simulates_agrees publish.recorded op
    have hturn := Tracker.Turn.between_of_matches h hworld
      (Tracker.operate store publish.recorded op w').1
    exact ⟨congrArg Answer.turn (by rw [hturn, hresult]), hworld⟩

/-- Whatever is asked, the store is written to at most once. -/
theorem exists_set_of_run (publish : Publisher π) (w : RecordedWorld (SplitStore × Shelf) π)
    (u : Use) : (u.run publish w).2.store = w.store ∨
      ∃ next, (u.run publish w).2.store = (SplitStore.set next w.store).state := by
  cases u with
  | get => exact .inl rfl
  | set s => exact .inr ⟨s, rfl⟩
  | clear => exact .inr ⟨.empty, rfl⟩
  | operate op =>
    obtain ⟨hs, ds, heffect, -⟩ := Tracker.effect_operate store publish op w
    exact exists_set_of_effect heffect

end Use

/-! ## Tenancies -/

/-- What a tracker has of its own. -/
structure Tenant (π : Type) where
  store : SplitStore
  publisher : π × List (List WireEvent)
  supply : Supply
  log : Log := []

/-- Trackers that share their storages and nothing else. -/
structure Tenancy (ι π : Type) where
  tenant : ι → Tenant π
  shelf : Shelf := {}

namespace Tenancy

open SplitStore

/-- What one of the trackers finds. -/
def world (h : Tenancy ι π) (i : ι) : RecordedWorld (SplitStore × Shelf) π where
  store := ((h.tenant i).store, h.shelf)
  publisher := (h.tenant i).publisher
  supply := (h.tenant i).supply
  log := (h.tenant i).log

variable [DecidableEq ι]

/-- One of the trackers leaves this behind. -/
def put (h : Tenancy ι π) (i : ι) (w : RecordedWorld (SplitStore × Shelf) π) : Tenancy ι π where
  tenant := Function.update h.tenant i
    { store := w.store.1, publisher := w.publisher, supply := w.supply, log := w.log }
  shelf := w.store.2

/-- Uses one of the trackers. -/
def after (publish : ι → Publisher π) (h : Tenancy ι π) (i : ι) (u : Use) :
    Use.Answer × Tenancy ι π :=
  let r := u.run (publish i) (h.world i)
  (r.1, h.put i r.2)

/-- Uses the trackers in some order: the answers, each with the tracker that gave it, and what is
    left behind. -/
def run (publish : ι → Publisher π) : List (ι × Use) → Tenancy ι π →
    List (ι × Use.Answer) × Tenancy ι π
  | [], h => ([], h)
  | (i, u) :: us, h =>
    let r := h.after publish i u
    let rest := run publish us r.2
    ((i, r.1) :: rest.1, rest.2)

/-- Whether the trackers have API keys of their own, and no call of the storages fails. -/
structure IsApart (apiKey : ι → String) (h : Tenancy ι π) : Prop where
  injective : Function.Injective apiKey
  isFor : ∀ i, (h.tenant i).store.IsFor (apiKey i)
  isSound : h.shelf.IsSound

variable {apiKey : ι → String} {h h' : Tenancy ι π} {publish : ι → Publisher π} {i j : ι}

theorem world_put_self (h : Tenancy ι π) (i : ι) (w : RecordedWorld (SplitStore × Shelf) π) :
    (h.put i w).world i = w := by
  simp [world, put]

theorem world_put_of_ne (h : Tenancy ι π) (hij : i ≠ j)
    (w : RecordedWorld (SplitStore × Shelf) π) :
    (h.put j w).world i = { h.world i with store := ((h.tenant i).store, w.store.2) } := by
  simp [world, put, Function.update_of_ne hij]

/-- What a use does to the storages: nothing fails from then on either, and nothing has changed
    but what the store owns, which is the same as before. -/
structure Touches (st : SplitStore) (s : Shelf) (w : SplitStore × Shelf) : Prop where
  isSound : w.2.IsSound
  store : ∃ area, w.1 = { st with area }
  found : ∀ p key, ¬ st.Owns p key → (w.2.backend p).found key = (s.backend p).found key

omit [DecidableEq ι] in
theorem IsApart.touches (hh : h.IsApart apiKey) (publish : ι → Publisher π) (i : ι) (u : Use) :
    Touches (h.tenant i).store h.shelf (u.run (publish i) (h.world i)).2.store := by
  have hkeys : (h.world i).store.1.visitorKey ≠ (h.world i).store.1.sessionKey :=
    (hh.isFor i).keys_ne
  rcases Use.exists_set_of_run (publish i) (h.world i) u with hstore | ⟨next, hstore⟩ <;>
    rw [hstore]
  · exact ⟨hh.isSound, ⟨(h.tenant i).store.area, rfl⟩, fun _ _ _ => rfl⟩
  · obtain ⟨s, hs, hsound, -⟩ := commit_of_isSound hkeys hh.isSound next
    rw [commit_eq_set] at hs
    refine ⟨by rw [hs]; exact hsound, ⟨next.area, store_set next _⟩, fun p key hkey => ?_⟩
    exact found_set next hkey

theorem IsApart.after (hh : h.IsApart apiKey) (publish : ι → Publisher π) (i : ι) (u : Use) :
    (h.after publish i u).2.IsApart apiKey := by
  obtain ⟨hsound, ⟨area, hstore⟩, -⟩ := hh.touches publish i u
  refine ⟨hh.injective, fun j => ?_, hsound⟩
  by_cases hj : j = i
  · subst hj
    simp only [Tenancy.after, put, Function.update_self, hstore]
    exact hh.isFor j
  · simp only [Tenancy.after, put, Function.update_of_ne hj]
    exact hh.isFor j

/-- The stores own the same as before. -/
theorem IsApart.owns_after (hh : h.IsApart apiKey) (publish : ι → Publisher π) (i : ι) (u : Use)
    (j : ι) (p : Place) (key : String) :
    ((h.after publish i u).2.tenant j).store.Owns p key ↔ (h.tenant j).store.Owns p key := by
  obtain ⟨-, ⟨area, hstore⟩, -⟩ := hh.touches publish i u
  by_cases hj : j = i
  · subst hj
    simp only [Tenancy.after, put, Function.update_self, hstore]
    rfl
  · simp only [Tenancy.after, put, Function.update_of_ne hj]

/-- A tracker's own call gives the same answer in two runs that agree for it. -/
theorem agrees_after (hagrees : (h.world i).Matches Agrees (h'.world i))
    (publish : ι → Publisher π) (u : Use) :
    (h'.after publish i u).1 = (h.after publish i u).1 ∧
      ((h.after publish i u).2.world i).Matches Agrees ((h'.after publish i u).2.world i) := by
  simp only [after, world_put_self]
  exact Use.run_matches hagrees (publish i) u

/-- A call of another tracker is not noticed. -/
theorem agrees_after_of_ne (hh : h.IsApart apiKey)
    (hagrees : (h.world i).Matches Agrees (h'.world i)) (publish : ι → Publisher π) (hij : i ≠ j)
    (u : Use) : ((h.after publish j u).2.world i).Matches Agrees (h'.world i) := by
  obtain ⟨hsound, -, hfound⟩ := hh.touches publish j u
  simp only [after, world_put_of_ne h hij]
  generalize (u.run (publish j) (h.world j)).2.store.2 = s at hsound hfound
  obtain ⟨hstore, hkeys, -, hsound', hslots⟩ := hagrees.store
  have hsame : slots ((h.tenant i).store, s) = slots ((h.tenant i).store, h.shelf) :=
    slots_eq_of_found fun p key hkey =>
      hfound p key (not_owns (hh.injective.ne hij) (hh.isFor i) (hh.isFor j) hkey)
  exact ⟨⟨hstore, hkeys, hsound, hsound', hslots.trans hsame.symm⟩, hagrees.publisher,
    hagrees.supply, hagrees.log⟩

/-- In a run, a tracker gives the answers that it gives in a run without the others. -/
theorem answers_run (hh : h.IsApart apiKey) (hagrees : (h.world i).Matches Agrees (h'.world i))
    (publish : ι → Publisher π) (us : List (ι × Use)) :
    (run publish us h).1.filter (·.1 = i) = (run publish (us.filter (·.1 = i)) h').1 := by
  induction us generalizing h h' with
  | nil => rfl
  | cons u us ih =>
    obtain ⟨j, u⟩ := u
    have hh' := hh.after publish j u
    by_cases hj : j = i
    · subst hj
      obtain ⟨hanswer, hnext⟩ := agrees_after hagrees publish u
      simp [run, hanswer, ih hh' hnext]
    · simp [run, hj, ih hh' (agrees_after_of_ne hh hagrees publish (Ne.symm hj) u)]

/-- In a run, nothing changes but what the stores own. -/
theorem found_run (hh : h.IsApart apiKey) (publish : ι → Publisher π) (us : List (ι × Use))
    {p : Place} {key : String} (hkey : ∀ i, ¬ (h.tenant i).store.Owns p key) :
    (run publish us h).2.shelf.IsSound ∧
      ((run publish us h).2.shelf.backend p).found key = (h.shelf.backend p).found key := by
  induction us generalizing h with
  | nil => exact ⟨hh.isSound, rfl⟩
  | cons u us ih =>
    obtain ⟨i, u⟩ := u
    have hkey' (j : ι) : ¬ ((h.after publish i u).2.tenant j).store.Owns p key := by
      rw [hh.owns_after publish i u j p key]
      exact hkey j
    obtain ⟨hsound, hfound⟩ := ih (hh.after publish i u) hkey'
    exact ⟨hsound, hfound.trans ((hh.touches publish i u).found p key (hkey i))⟩

/-- Trackers with different API keys, with new stores on storages where no call fails, are
    isolated: however they are used, each gives the answers that it gives without the others, and
    every key that is none of theirs has the same text at the end as at the start. -/
theorem isIsolated_run {place : ι → Place} (hinj : Function.Injective apiKey)
    (hnew : ∀ i, SplitStore.new (apiKey i) (place i) = .ok (h.tenant i).store)
    (hsound : h.shelf.IsSound) (publish : ι → Publisher π) (us : List (ι × Use)) :
    (∀ i, (run publish us h).1.filter (·.1 = i) = (run publish (us.filter (·.1 = i)) h).1) ∧
      ∀ p key, (∀ i, ¬ (h.tenant i).store.Owns p key) →
        ((run publish us h).2.shelf.backend p).getItem key = (h.shelf.backend p).getItem key := by
  have hfor (i : ι) : (h.tenant i).store.IsFor (apiKey i) := by
    rw [eq_of_new (hnew i)]
    exact ⟨rfl, rfl⟩
  have hh : h.IsApart apiKey := ⟨hinj, hfor, hsound⟩
  refine ⟨fun i => ?_, fun p key hkey => ?_⟩
  · exact answers_run hh ⟨⟨rfl, (hfor i).keys_ne, hsound, hsound, rfl⟩, rfl, rfl, rfl⟩ publish us
  · obtain ⟨hsound', hfound⟩ := found_run hh publish us hkey
    rw [(hsound'.backend p).getItem_eq, (hsound.backend p).getItem_eq, hfound]

/-- Two trackers use one storage for everything, and the store of one of them is written and
    cleared behind its back. Another entry stands there all the time. -/
theorem isIsolated_run_oneStorage :
    let apiKey (i : Bool) : String := if i then "key" else "key_2"
    let id (n : Nat) : FreshId := ⟨Id.v7 n 0, Id.version_v7 n 0⟩
    let h : Tenancy Bool Unit := {
      tenant := fun i => {
        store := {
          visitorKey := keyFor "VISITOR" (apiKey i)
          sessionKey := keyFor "SESSION" (apiKey i)
          sessionPlace := .durable }
        publisher := ((), [])
        supply := { ids := fun n => id (2 * n + i.toNat) } }
      shelf := { durable := { medium := .memory (.ofList [("SALUS", "x")]) } } }
    let publish (_ : Bool) : Publisher Unit := fun batch u => (.ok batch.length, u)
    let us : List (Bool × Use) := [(true, .operate .registerSession),
      (false, .operate .registerClick), (true, .operate .registerArea), (false, .clear),
      (true, .get), (false, .get), (false, .set { visitor := some (.ofFresh (id 50)) }),
      (true, .operate .registerClick)]
    let visitors (i : Bool) : List (Option (Reference .visitor)) :=
      ((run publish us h).1.filter (·.1 = i)).filterMap fun
        | (_, .call (.ok s) _) => some s.visitor
        | _ => none
    visitors true = [some (.ofFresh (id 1))] ∧ visitors false = [none, some (.ofFresh (id 50))] ∧
      (∀ i, (run publish us h).1.filter (·.1 = i) =
        (run publish (us.filter (·.1 = i)) h).1) ∧
      ((run publish us h).2.shelf.durable).getItem "SALUS" = .ok (some "x") := by
  intro apiKey id h publish us visitors
  have hinj : Function.Injective apiKey := by
    intro i j
    revert i j
    decide
  have hnew (i : Bool) : SplitStore.new (apiKey i) .durable = .ok (h.tenant i).store := by
    revert i
    decide +kernel
  have hsound : h.shelf.IsSound := ⟨⟨fun _ => rfl, trivial⟩, ⟨fun _ => rfl, trivial⟩⟩
  obtain ⟨hanswers, hfound⟩ := isIsolated_run hinj hnew hsound publish us
  have hkey (i : Bool) : ¬ (h.tenant i).store.Owns .durable "SALUS" := by
    revert i
    simp only [Owns]
    decide +kernel
  refine ⟨by decide +kernel, by decide +kernel, hanswers, (hfound .durable "SALUS" hkey).trans ?_⟩
  decide +kernel

end Tenancy

end Clickstream
