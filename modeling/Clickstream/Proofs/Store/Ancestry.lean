import Clickstream.Proofs.Store.Content
import Clickstream.Proofs.Tracker.Plan

/-!
# True ancestry

What a split store shows is true: the session was created under the visitor beside
it, and the area under the session. This holds between operations whichever calls of
the storages fail, although a write may stop halfway and leave a new area with an old
session, or both with an old visitor.

What makes it so is the order in which the parts are written, and which part a new
state can have new (`SiteState.Follows`): while something of a kind is shown, a new
state has something of the next kind only under that very thing. So a new part is
either shown with the parent that it was created under or not shown at all, as its
parent is not there.

* `follows_plan`: what every operation plans follows on what it sees;
* `isTrue_overwriting`: a write over a state that follows on it may stop anywhere;
* `isTrue_run`: hence ancestry is true after every run.
-/

namespace Clickstream

/-! ## True states -/

namespace SiteState

/-- Everything in a state was created, under what stands above it in the state. -/
structure IsTrue (created : List Event) (s : SiteState) : Prop where
  visitor : ∀ v, s.visitor = some v → .visitor v ∈ created
  session : ∀ r, s.session = some r → ∃ v, s.visitor = some v ∧ .session r v ∈ created
  area : ∀ a, s.area = some a → ∃ r, s.session = some r ∧ .area a r ∈ created

/-- Whether a state has an area or a session only where the state before has the same
    parent for it, or none. -/
structure Follows (next s : SiteState) : Prop where
  session : next.session = none ∨ s.visitor = none ∨ next.visitor = s.visitor
  area : next.area = none ∨ s.session = none ∨ next.session = s.session

variable {created : List Event} {s next : SiteState}

theorem IsTrue.isConsistent (h : s.IsTrue created) : s.isConsistent := by
  -- A session without a visitor, or an area without a session, would not be true.
  obtain ⟨_ | v, _ | r, _ | a⟩ := s
  all_goals first
    | rfl
    | exact absurd (h.session _ rfl) (by simp)
    | exact absurd (h.area _ rfl) (by simp)

theorem isTrue_of_area_none (hvisitor : ∀ v, s.visitor = some v → .visitor v ∈ created)
    (hsession : ∀ r, s.session = some r → ∃ v, s.visitor = some v ∧ .session r v ∈ created)
    (harea : s.area = none) : s.IsTrue created :=
  ⟨hvisitor, hsession, by simp [harea]⟩

theorem isTrue_visitor {o : Option (Reference .visitor)}
    (h : ∀ v, o = some v → .visitor v ∈ created) :
    ({ visitor := o } : SiteState).IsTrue created :=
  isTrue_of_area_none h (by simp) rfl

theorem isTrue_empty (created : List Event) : empty.IsTrue created := isTrue_visitor (by simp)

theorem IsTrue.mono {created' : List Event} (h : s.IsTrue created) (hsub : created ⊆ created') :
    s.IsTrue created' where
  visitor v hv := hsub (h.visitor v hv)
  session r hr := (h.session r hr).imp fun _ h => ⟨h.1, hsub h.2⟩
  area a ha := (h.area a ha).imp fun _ h => ⟨h.1, hsub h.2⟩

theorem IsTrue.leave (h : s.IsTrue created) (k : Kind) : (s.leave k).IsTrue created := by
  cases k with
  | visitor => exact isTrue_empty created
  | session => exact isTrue_visitor h.visitor
  | area => exact isTrue_of_area_none h.visitor h.session rfl
  | click => exact h

/-- The new area is shown with the session that was there only if it was created under
    that one. -/
theorem isTrue_area (hs : s.normalized.IsTrue created) (hnext : next.IsTrue created)
    (hfollows : next.Follows s.normalized) :
    ({ s with area := next.area } : SiteState).normalized.IsTrue created := by
  obtain ⟨_ | v, _ | r, a⟩ := s
  · exact isTrue_empty created
  · exact isTrue_empty created
  · exact isTrue_visitor hs.visitor
  · -- As there is a session, the new area is under that very session.
    refine ⟨hs.visitor, hs.session, fun b hb => ?_⟩
    have hb : next.area = some b := hb
    have hsession : next.session = some r := by
      rcases hfollows.area with h | h | h
      · rw [h] at hb
        cases hb
      · cases h
      · exact h
    obtain ⟨r', hr', hcreated⟩ := hnext.area b hb
    rw [hsession] at hr'
    cases hr'
    exact ⟨r, rfl, hcreated⟩

/-- The new session is shown with the visitor that was there only if it was created
    under that one. -/
theorem isTrue_session (hs : s.normalized.IsTrue created) (hnext : next.IsTrue created)
    (hfollows : next.Follows s.normalized) :
    ({ next with visitor := s.visitor } : SiteState).normalized.IsTrue created := by
  cases hv : s.visitor with
  | none => exact isTrue_empty created
  | some v =>
    have hcreated : .visitor v ∈ created := hs.visitor v hv
    rcases hfollows.session with h | h | h
    · -- Without a session in the new state, only the visitor is shown.
      simp only [normalized, h, Option.isSome_some, if_true, Option.isSome_none]
      exact isTrue_visitor fun v' hv' => by cases hv'; exact hcreated
    · cases hv.symm.trans h
    · -- The new state has the same visitor, so it is there as a whole.
      have hnext' : ({ next with visitor := some v } : SiteState) = next := by
        rw [← hv]
        exact congrArg (fun o => ({ next with visitor := o } : SiteState)) h.symm
      rwa [hnext', (normalized_eq_self_iff next).2 hnext.isConsistent]

/-- Wherever a write over a state stops, what it leaves is true if the state before
    and the new one are and the one follows on the other. -/
theorem isTrue_overwriting (hs : s.normalized.IsTrue created) (hnext : next.IsTrue created)
    (hfollows : next.Follows s.normalized) {s' : SiteState} (h : s' ∈ next.overwriting s) :
    s'.normalized.IsTrue created := by
  simp only [overwriting, List.mem_cons, List.not_mem_nil, or_false] at h
  rcases h with rfl | rfl | rfl
  · exact isTrue_area hs hnext hfollows
  · exact isTrue_session hs hnext hfollows
  · rwa [(normalized_eq_self_iff s').2 hnext.isConsistent]

end SiteState

/-! ## Plans -/

namespace Plan

variable {ids : Nat → FreshId} {created : List Event} {p : Plan}

/-- An event is created under what the planned state holds, and then is in it. -/
theorem isTrue_extend (h : p.next.IsTrue (created ++ p.batch)) (k : Kind) :
    (p.extend ids k).next.IsTrue (created ++ (p.extend ids k).batch) := by
  rcases hunder : Event.under? p.next (ids p.batch.length) k with _ | e
  · simpa only [extend, hunder] using h
  · rw [extend_of_under? hunder]
    have hold : p.next.IsTrue (created ++ (p.batch ++ [e])) := h.mono (by simp)
    have hnew : e ∈ created ++ (p.batch ++ [e]) := by simp
    cases k with
    | visitor =>
      cases hunder
      exact SiteState.isTrue_visitor fun v hv => by cases hv; exact hnew
    | session =>
      obtain ⟨v, hv, rfl⟩ := Option.map_eq_some_iff.1 hunder
      exact SiteState.isTrue_of_area_none hold.visitor
        (fun r hr => by cases hr; exact ⟨v, hv, hnew⟩) rfl
    | area =>
      obtain ⟨r, hr, rfl⟩ := Option.map_eq_some_iff.1 hunder
      exact ⟨hold.visitor, hold.session, fun a ha => by cases ha; exact ⟨r, hr, hnew⟩⟩
    | click =>
      obtain ⟨a, ha, rfl⟩ := Option.map_eq_some_iff.1 hunder
      exact hold

theorem isTrue_foldl_extend (ks : List Kind) (h : p.next.IsTrue (created ++ p.batch)) :
    (ks.foldl (extend ids) p).next.IsTrue (created ++ (ks.foldl (extend ids) p).batch) := by
  induction ks generalizing p with
  | nil => exact h
  | cons k ks ih => exact ih (isTrue_extend h k)

end Plan

namespace Operation

variable (op : Operation) (ids : Nat → FreshId) {s : SiteState}

theorem isTrue_plan {created : List Event} (h : s.IsTrue created) :
    (op.plan ids s).next.IsTrue (created ++ (op.plan ids s).batch) := by
  rw [plan]
  split
  · exact Plan.isTrue_foldl_extend _ (by simpa using h)
  · simpa using h.leave op.kind

/-- What an operation plans follows on what it sees. -/
theorem follows_plan (h : s.isConsistent) : (op.plan ids s).next.Follows s := by
  obtain rfl | ⟨v, rfl⟩ | ⟨v, r, rfl⟩ | ⟨v, r, a, rfl⟩ := SiteState.eq_of_isConsistent h <;>
    cases op <;> constructor <;>
    first
      | exact .inl rfl
      | exact .inr (.inl rfl)
      | exact .inr (.inr rfl)

/-- One about visitors follows on anything, which is why it need not look. -/
theorem follows_plan_empty (h : op.kind.isRoot) (s : SiteState) :
    (op.plan ids .empty).next.Follows s := by
  cases op with
  | registerVisitor | deregisterVisitor => exact ⟨.inl rfl, .inl rfl⟩
  | _ => cases h

end Operation

/-! ## Runs -/

namespace World

variable {π : Type}

/-- The world with storages in which these calls fail. -/
def withFaults (durable transient : Call → Option StorageError)
    (w : World (SplitStore × Shelf) π) : World (SplitStore × Shelf) π :=
  let shelf := w.store.2
  { w with
    store := (w.store.1, {
      durable := { shelf.durable with fault := durable }
      transient := { shelf.transient with fault := transient } }) }

/-- What a store holds does not depend on which calls fail. -/
theorem holds_withFaults (durable transient : Call → Option StorageError)
    {w : World (SplitStore × Shelf) π} {s : SiteState} (h : SplitStore.Holds w.store s) :
    SplitStore.Holds (w.withFaults durable transient).store s := by
  refine ⟨h.keys_ne, h.visitor, ?_, h.area⟩
  rw [← h.session]
  simp only [withFaults]
  cases w.store.1.sessionPlace <;> rfl

end World

/-- An operation, and which calls of the storages fail while it runs. No operation
    makes a call twice, so every pattern of failures is of this form. -/
structure Turn where
  op : Operation
  durable : Call → Option StorageError := fun _ => none
  transient : Call → Option StorageError := fun _ => none

/-- A tracker on a split store, and all events that it has created. -/
structure Past (π : Type) where
  world : World (SplitStore × Shelf) π
  created : List Event := []

namespace Past

variable {π : Type} (publish : Publisher π)

/-- The tracker after one more operation. -/
def after (h : Past π) (t : Turn) : Past π :=
  let w := h.world.withFaults t.durable t.transient
  { world := (Tracker.operate SplitStore.store publish t.op w).2
    created := h.created ++
      Tracker.created (World.surroundings SplitStore.store publish) t.op w }

/-- The store holds a state that is true as far as it is shown. -/
def IsTrue (h : Past π) : Prop :=
  ∃ s, SplitStore.Holds h.world.store s ∧ s.normalized.IsTrue h.created

variable {publish}

theorem isTrue_after {h : Past π} (hh : h.IsTrue) (t : Turn) : (h.after publish t).IsTrue := by
  obtain ⟨s, hholds, htrue⟩ := hh
  have hholds := World.holds_withFaults t.durable t.transient hholds
  simp only [IsTrue, after]
  generalize h.world.withFaults t.durable t.transient = w at hholds
  rw [Tracker.operate_store, Tracker.created_eq]
  rcases hsee : World.see SplitStore.store t.op w with ⟨e | r, w'⟩ <;>
    have hstore := SplitStore.see_store hsee
  · -- It could not look, so nothing was created or written.
    simp only [hstore, List.append_nil]
    exact ⟨s, hholds, htrue⟩
  · have hr := SplitStore.see_of_holds hholds hsee
    -- The plan follows on what is stored: either that is what the operation saw, or the
    -- operation is about visitors and follows on anything.
    have hfollows : (t.op.plan w'.fresh r).next.Follows s.normalized := by
      cases hroot : t.op.kind.isRoot <;> rw [hroot] at hr
      · rw [hr]
        exact t.op.follows_plan _ (SiteState.isConsistent_normalized s)
      · rw [hr]
        exact t.op.follows_plan_empty _ hroot _
    have hnext : (t.op.plan w'.fresh r).next.IsTrue
        (h.created ++ (t.op.plan w'.fresh r).batch) := by
      refine t.op.isTrue_plan _ ?_
      rw [hr]
      split
      · exact SiteState.isTrue_empty _
      · exact htrue
    simp only
    generalize t.op.plan w'.fresh r = p at hfollows hnext
    -- Wherever the commit stops, it leaves one of the states of `overwriting`.
    obtain ⟨s', hs', hholds', -⟩ := SplitStore.holds_of_set hholds p.next
    rw [SplitStore.commit_store]
    refine ⟨s', ?_, SiteState.isTrue_overwriting (htrue.mono (by simp)) hnext hfollows hs'⟩
    rwa [← hstore] at hholds'

theorem isTrue_run {h : Past π} (hh : h.IsTrue) (turns : List Turn) :
    (turns.foldl (after publish) h).IsTrue := by
  induction turns generalizing h with
  | nil => exact hh
  | cons t turns ih => exact ih (isTrue_after hh t)

/-- Whether a look at the store is right about what was created: a state that it shows is
    consistent and true, and if it fails, then not over something malformed. -/
def IsRight (created : List Event) : Except SiteStateError SiteState → Prop
  | .ok s => s.isConsistent ∧ s.IsTrue created
  | .error e => ∀ detail, e ≠ .malformed detail

/-- Whatever operations a tracker has run since its store was new and nothing stood
    under its keys, with whatever failures of the storages, a look at the store is right,
    also if storages fail again. -/
theorem get_isTrue_run {apiKey : String} {place : Place} {w : World (SplitStore × Shelf) π}
    (hnew : SplitStore.new apiKey place = .ok w.store.1)
    (hvisitor : w.store.2.durable.found w.store.1.visitorKey = none)
    (hsession : (w.store.2.backend w.store.1.sessionPlace).found w.store.1.sessionKey = none)
    (publish : Publisher π) (turns : List Turn) (durable transient : Call → Option StorageError) :
    let h : Past π := turns.foldl (after publish) { world := w }
    IsRight h.created (SplitStore.get (h.world.withFaults durable transient).store).result := by
  intro h
  have hstart : IsTrue { world := w } :=
    ⟨.empty, SplitStore.holds_of_new hnew hvisitor hsession, SiteState.isTrue_empty []⟩
  obtain ⟨s, hholds, htrue⟩ : h.IsTrue := isTrue_run hstart turns
  rcases SplitStore.get_of_holds (World.holds_withFaults durable transient hholds) with
    hget | ⟨d, hget⟩ <;> rw [hget]
  · cases s.visitor with
    | none =>
      intro detail h
      cases h
    | some v => exact ⟨htrue.isConsistent, htrue⟩
  · intro detail h
    cases h

/-- A session is written, and then an area whose write fails halfway. -/
theorem get_isTrue_run_interrupted :
    let id (n : Nat) : FreshId := ⟨Id.v7 n 0, Id.version_v7 n 0⟩
    let w : World (SplitStore × Shelf) Unit := {
      store := ({
        visitorKey := SplitStore.keyFor "VISITOR" "key"
        sessionKey := SplitStore.keyFor "SESSION" "key"
        sessionPlace := .durable }, {})
      publisher := ()
      supply := { ids := id } }
    let publish : Publisher Unit := fun batch u => (.ok batch.length, u)
    let turns : List Turn := [{ op := .registerSession }, {
      op := .registerArea
      durable := fun call => if call.kind = .set then some .blankKey else none }]
    let h := turns.foldl (after publish) { world := w }
    IsRight h.created
      (SplitStore.get (h.world.withFaults (fun _ => none) fun _ => none).store).result := by
  intro id w publish turns
  have hnew : SplitStore.new "key" .durable = .ok w.store.1 := by
    rw [SplitStore.new, if_neg (by simp [isBlankText, isBlank, blankRanges])]
  have hvisitor : w.store.2.durable.found w.store.1.visitorKey = none := rfl
  have hsession : (w.store.2.backend w.store.1.sessionPlace).found w.store.1.sessionKey = none :=
    rfl
  exact get_isTrue_run (w := w) hnew hvisitor hsession publish turns (fun _ => none) fun _ => none

end Past

end Clickstream
