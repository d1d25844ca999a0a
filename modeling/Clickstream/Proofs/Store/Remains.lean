import Clickstream.Proofs.Store.Ancestry
import Clickstream.Proofs.Tracker.Causality

/-!
# What a failed commit leaves behind

When a commit fails, the tracker drops the events of the operation. A split store is not
written as a whole, however: its variable is set before anything can fail, and the session is
written before the visitor. So a commit that fails at a session leaves the new area in the
store, and one that fails at the visitor leaves area and session. Later operations find what
was left, and hang events on what was never handed over (`exists_hangsOn_dropped`).

Nothing else of what is dropped comes back. A new visitor is written last, so a commit that
fails has not written it; and what was not left in the store is not found there.

* `contents_commit`: what a commit leaves in the store, if it fails and if it does not;
* `isTraced_run`: everything in the store was there at the start, was handed over, or was
  left by a commit that failed;
* `isTraceable_run`: hence so is everything that an event hangs on.
-/

namespace Clickstream

variable {π : Type}

namespace SplitStore

/-! ## Commits that fail -/

variable {w : SplitStore × Shelf}

/-- A commit that fails leaves the new area, and the new session too if it fails only at the
    visitor. -/
theorem contents_commit (hkeys : w.1.visitorKey ≠ w.1.sessionKey) (next : SiteState) :
    match (store.commit next w).result with
    | .ok _ => contents (store.commit next w).state = next
    | .error _ =>
      contents (store.commit next w).state = { contents w with area := next.area } ∨
        contents (store.commit next w).state =
          { next with visitor := (contents w).visitor } := by
  rw [commit_eq_set]
  rcases slots_set hkeys next with ⟨⟨e, he⟩, hslots | hslots⟩ | ⟨hok, hslots⟩
  · rw [he]
    exact .inl (by rw [contents, hslots]; rfl)
  · rw [he]
    refine .inr ?_
    rw [contents, hslots]
    show Slots.state _ = _
    simp only [Slots.state, Slots.ofState, readText_spell]
    rfl
  · rw [hok]
    exact (congrArg Slots.state hslots).trans (Slots.state_ofState next)

/-- What is current where a commit has failed was current before, or is new and no visitor. -/
theorem current_of_left {s next s' : SiteState}
    (h : s' = { s with area := next.area } ∨ s' = { next with visitor := s.visitor }) {k : Kind}
    {r : Reference k} (hr : s'.current k = some r) :
    s.current k = some r ∨ (k = .session ∨ k = .area) ∧ next.current k = some r := by
  rcases h with rfl | rfl <;> cases k
  · exact .inl hr
  · exact .inl hr
  · exact .inr ⟨.inr rfl, hr⟩
  · cases hr
  · exact .inl hr
  · exact .inr ⟨.inl rfl, hr⟩
  · exact .inr ⟨.inr rfl, hr⟩
  · cases hr

/-- Whether an event that was dropped stands in the store after the operation that dropped it.
    Such an event is a session or an area. -/
structure IsLeft (d : Event × (SplitStore × Shelf)) : Prop where
  kind : d.1.kind = .session ∨ d.1.kind = .area
  held : (contents d.2).held d.1.kind = some d.1.reference

end SplitStore

/-! ## Runs -/

/-- One more operation, while these calls of the storages fail. -/
def Turn.run (publish : Publisher π) (h : Journal (SplitStore × Shelf) π) (t : Turn) :
    Journal (SplitStore × Shelf) π :=
  (h.meanwhile (World.withFaults t.durable t.transient)).after SplitStore.store publish t.op

open SplitStore

/-- Whether an event was handed over, or was in the store at the start, or was dropped by a
    commit that left it in the store. -/
def IsTraceable (start : SiteState) (dropped : List (Event × (SplitStore × Shelf)))
    (es : List WireEvent) (k : Kind) (id : Id) : Prop :=
  (∃ e ∈ es, e.kind = k ∧ e.id = id) ∨ (∃ r, start.current k = some r ∧ r.id = id) ∨
    ∃ d ∈ dropped, IsLeft d ∧ d.1.kind = k ∧ d.1.id = id

section Traceable

variable {start : SiteState} {dropped : List (Event × (SplitStore × Shelf))}
  {es : List WireEvent} {k : Kind} {id : Id}

theorem isMemory_isTraceable (start : SiteState) (dropped : List (Event × (SplitStore × Shelf))) :
    IsMemory (IsTraceable start dropped) where
  new es e := .inl ⟨e, by simp, rfl, rfl⟩
  keep e h _ := h.imp_left fun ⟨x, hx, hxid⟩ => ⟨x, List.mem_append_left _ hx, hxid⟩

theorem IsTraceable.append (h : IsTraceable start dropped es k id)
    (ds : List (Event × (SplitStore × Shelf))) : IsTraceable start (dropped ++ ds) es k id :=
  h.imp_right (·.imp_right fun ⟨d, hd, hleft⟩ => ⟨d, List.mem_append_left _ hd, hleft⟩)

/-- What was to be committed stays traceable when its events are dropped, if it stands in the
    store. -/
theorem IsTraceable.drop {batch : List Event} {y : SplitStore × Shelf} {r : Reference k}
    (h : IsTraceable start dropped (es ++ batch.map Event.toWire) k r.id)
    (hk : k = .session ∨ k = .area) (hr : (contents y).current k = some r) :
    IsTraceable start (dropped ++ batch.map (·, y)) es k r.id := by
  rcases h with ⟨x, hx, hkind, hid⟩ | hstart | hdropped
  · rcases List.mem_append.1 hx with hx | hx
    · exact .inl ⟨x, hx, hkind, hid⟩
    · -- It is one of the events that are dropped now.
      obtain ⟨e, he, rfl⟩ := List.mem_map.1 hx
      have hkind : e.kind = k := hkind
      subst hkind
      refine .inr (.inr ⟨(e, y), by simp [he], ⟨hk, ?_⟩, rfl, hid⟩)
      rw [SiteState.held, hr]
      exact congrArg (some <| AnyReference.mk e.kind ·) hid.symm
  · exact .inr (.inl hstart)
  · exact IsTraceable.append (.inr (.inr hdropped)) _

end Traceable

/-- Whether everything that was handed over, and everything in the store, can be traced. -/
structure Journal.IsTraced (start : SiteState) (h : Journal (SplitStore × Shelf) π) : Prop where
  isAtRest : h.IsAtRest
  keys_ne : h.scene.world.store.1.visitorKey ≠ h.scene.world.store.1.sessionKey
  founded : IsFounded (IsTraceable start h.dropped) h.handed
  known : (contents h.scene.world.store).IsKnown (IsTraceable start h.dropped) h.handed

variable {publish : Publisher π}

theorem slots_withFaults (durable transient : Call → Option StorageError)
    (w : World (SplitStore × Shelf) π) :
    slots (w.withFaults durable transient).store = slots w.store := by
  simp only [slots, World.withFaults]
  cases w.store.1.sessionPlace <;> rfl

/-- Whatever fails meanwhile, an operation finds what is in the store, and has one of its
    effects. -/
theorem effect_run (publish : Publisher π) {h : Journal (SplitStore × Shelf) π}
    (hrest : h.IsAtRest) (t : Turn) :
    ∃ x hs ds, x.1 = h.scene.world.store.1 ∧ contents x = contents h.scene.world.store ∧
      t.op.Effect store h.scene.world.fresh x hs ds (t.run publish h).scene.world.store ∧
      h.Grows (t.run publish h) hs ds := by
  obtain ⟨hs, ds, heffect, hgrows⟩ := Journal.effect_meanwhile store publish t.op hrest
    (fun x => (x.1, {
      durable := { x.2.durable with fault := t.durable }
      transient := { x.2.transient with fault := t.transient } }))
  exact ⟨(h.scene.world.withFaults t.durable t.transient).store, hs, ds, rfl,
    congrArg Slots.state (slots_withFaults t.durable t.transient _), heffect, hgrows⟩

theorem isTraced_run {start : SiteState} {h : Journal (SplitStore × Shelf) π}
    (hh : h.IsTraced start) (t : Turn) : (t.run publish h).IsTraced start := by
  obtain ⟨x, hs, ds, hkeys, hx, heffect, hgrows⟩ := effect_run publish hh.isAtRest t
  generalize t.run publish h = h' at heffect hgrows
  have hkeys : x.1.visitorKey ≠ x.1.sessionKey := hkeys ▸ hh.keys_ne
  have hstored : (contents x).IsKnown (IsTraceable start h.dropped) h.handed := hx ▸ hh.known
  have hplan (s : SiteState) (hlook : (store.look t.op x).result = .ok s) :
      (t.op.plan h.scene.world.fresh s).IsFounded (IsTraceable start h.dropped) h.handed := by
    refine t.op.isFounded_plan (isMemory_isTraceable start h.dropped) _ hh.founded ?_
    rcases look_eq hlook with rfl | rfl
    · exact SiteState.isKnown_empty
    · exact hstored.normalized
  have hhanded := hgrows.handed
  have hdropped := hgrows.dropped
  generalize hy : h'.scene.world.store = y at heffect hdropped
  cases heffect with
  | blind =>
    rw [List.map_nil, List.append_nil] at hhanded hdropped
    rw [state_look] at hy
    refine ⟨hgrows.isAtRest, hy ▸ hkeys, ?_, ?_⟩ <;> rw [hhanded, hdropped]
    · exact hh.founded
    · rw [hy]
      exact hstored
  | @handed s c look commit =>
    rw [List.map_nil, List.append_nil] at hdropped
    have hcontents := contents_commit hkeys (t.op.plan h.scene.world.fresh s).next
    rw [state_look] at commit hy
    simp only [commit] at hcontents
    refine ⟨hgrows.isAtRest, by rw [hy, keys_commit]; exact hkeys, ?_, ?_⟩ <;>
      rw [hhanded, hdropped]
    · exact (hplan _ look).batch
    · rw [hy, hcontents]
      exact (hplan _ look).next
  | @dropped s e look commit =>
    rw [List.map_nil, List.append_nil] at hhanded
    have hcontents := contents_commit hkeys (t.op.plan h.scene.world.fresh s).next
    rw [state_look] at commit hy hdropped
    simp only [commit] at hcontents
    rw [← hy] at hcontents hdropped
    refine ⟨hgrows.isAtRest, by rw [hy, keys_commit]; exact hkeys, ?_, fun k r hr => ?_⟩ <;>
      rw [hhanded, hdropped]
    · exact hh.founded.mono fun _ _ _ h => h.append _
    · -- What is in the store was there before, or was to be committed and is left now.
      rcases current_of_left hcontents hr with hold | ⟨hk, hnew⟩
      · exact (hstored k r hold).append _
      · exact ((hplan s look).next k r hnew).drop hk hr

/-- Where ids are distinct, a dropped event on which an event hangs was left in the store. -/
theorem isLeft_of_isFounded {start : SiteState} {h : Journal (SplitStore × Shelf) π}
    (hfounded : IsFounded (IsTraceable start h.dropped) h.handed)
    (hnodup : (h.handed.map (·.id) ++ h.dropped.map (·.1.id)).Nodup)
    (hstart : ∀ k r, start.current k = some r → r.id ∉ h.dropped.map (·.1.id))
    {d : Event × (SplitStore × Shelf)} (hd : d ∈ h.dropped) {e : WireEvent} (he : e ∈ h.handed)
    (hparent : e.parentId? = some d.1.id) : IsLeft d := by
  obtain ⟨before, after, hsplit⟩ := List.append_of_mem he
  have hhangs := hfounded before e after hsplit
  have hmem : d.1.id ∈ h.dropped.map (·.1.id) := List.mem_map_of_mem hd
  obtain ⟨-, hdropped, hdisjoint⟩ := List.nodup_append.1 hnodup
  rw [WireEvent.HangsOn, hparent] at hhangs
  cases hk : e.kind.parent? with
  | none =>
    rw [hk] at hhangs
    cases hhangs
  | some k =>
    rw [hk] at hhangs
    obtain ⟨id, hid, htrace⟩ := hhangs
    cases hid
    rcases htrace with ⟨p, hp, -, hid⟩ | ⟨r, hr, hid⟩ | ⟨d', hd', hleft, -, hid⟩
    · -- What was handed over was not dropped.
      have hp : p ∈ h.handed := hsplit ▸ List.mem_append_left _ hp
      exact absurd hid (hdisjoint _ (List.mem_map_of_mem hp) _ hmem)
    · exact absurd (hid ▸ hmem) (hstart k r hr)
    · rwa [List.inj_on_of_nodup_map hdropped hd' hd hid] at hleft

/-- Whatever fails in a run, everything that an event hangs on was handed over before it, was in
    the store at the start, or was left in the store by a commit that failed. So no event hangs
    on one that was dropped, unless that is a session or an area that the commit has left. -/
theorem isTraceable_run {apiKey : String} {w : RecordedWorld (SplitStore × Shelf) π}
    (hfor : w.store.1.IsFor apiKey) (hhanded : w.publisher.2 = []) (publish : Publisher π)
    (turns : List Turn) :
    let h := turns.foldl (Turn.run publish) { scene := { world := w } }
    let minted := w.minted h.scene.world
    IsFounded (IsTraceable (contents w.store) h.dropped) h.handed ∧
      (minted.Nodup → (∀ k r, (contents w.store).current k = some r → r.id ∉ minted) →
        ∀ d ∈ h.dropped, ∀ e ∈ h.handed, e.parentId? = some d.1.id → IsLeft d) := by
  intro h minted
  have hstart : Journal.IsTraced (contents w.store) { scene := { world := w } } :=
    ⟨rfl, hfor.keys_ne, by simpa [Journal.handed, hhanded] using isFounded_nil,
      fun k r hr => .inr (.inl ⟨r, hr, rfl⟩)⟩
  have hrun (h : Journal (SplitStore × Shelf) π) (t : Turn) (hh : h.IsTraced (contents w.store)) :
      (t.run publish h).IsTraced (contents w.store) ∧ ∃ op x hs ds y,
        Operation.Effect store op h.scene.world.fresh x hs ds y ∧
          h.Grows (t.run publish h) hs ds := by
    obtain ⟨x, hs, ds, -, -, heffect, hgrows⟩ := effect_run publish hh.isAtRest t
    exact ⟨isTraced_run hh t, _, x, hs, ds, _, heffect, hgrows⟩
  obtain ⟨htraced, n, hminted⟩ : h.IsTraced (contents w.store) ∧ ∃ n, h.IsMinted w.supply n :=
    Journal.isMinted_foldl hrun hstart (Journal.isMinted_start hhanded) turns
  have hperm : (h.handed.map (·.id) ++ h.dropped.map (·.1.id)).Perm minted := by
    rw [show minted = _ from hminted.minted_eq]
    exact hminted.perm
  refine ⟨htraced.founded, fun hnodup hstart d hd e he hparent => ?_⟩
  refine isLeft_of_isFounded htraced.founded (hperm.nodup_iff.2 hnodup) (fun k r hr hmem => ?_)
    hd he hparent
  exact hstart k r hr (hperm.subset (List.mem_append_right _ hmem))

/-- A commit fails at the visitor and another one at the session. Both operations fail and drop
    their event, and in both cases the next operation hangs an event on the dropped one, which
    is never handed over. Nothing was in the store at the start. -/
theorem exists_hangsOn_dropped :
    let w : RecordedWorld (SplitStore × Shelf) Unit := {
      store := ({ visitorKey := keyFor "VISITOR" "key", sessionKey := keyFor "SESSION" "key" }, {})
      publisher := ((), [])
      supply := { ids := fun n => ⟨Id.v7 n 0, Id.version_v7 n 0⟩ } }
    let publish : Publisher Unit := fun batch u => (.ok batch.length, u)
    let down (call : Call) : Option StorageError :=
      if call.kind = .set then some (.io "fault" "disk full") else none
    let turns : List Turn := [{ op := .registerVisitor },
      { op := .registerSession, durable := down }, { op := .registerArea },
      { op := .registerArea, transient := down }, { op := .registerClick }]
    let journal (n : Nat) := (turns.take n).foldl (Turn.run publish) { scene := { world := w } }
    let result (n : Nat) (t : Turn) := (Tracker.operate store publish.recorded t.op
      ((journal n).scene.world.withFaults t.durable t.transient)).1
    let h := journal 5
    contents w.store = .empty ∧
      (∀ n ∈ [1, 3], (turns[n]?.map (result n)) = some (.error
        (.internal "Site state storage failed: Storage I/O failed for fault: disk full"))) ∧
      h.dropped.map (·.1.kind) = [.session, .area] ∧
      ∀ d ∈ h.dropped, (∃ e ∈ h.handed, e.parentId? = some d.1.id) ∧
        ∀ e ∈ h.handed, e.id ≠ d.1.id := by
  decide +kernel

/-- The first commit fails at the visitor and leaves a session and an area that nothing hangs
    on, for want of a visitor. The third one fails at the session and leaves an area for a
    click. -/
theorem isTraceable_run_failing :
    let w : RecordedWorld (SplitStore × Shelf) Unit := {
      store := ({ visitorKey := keyFor "VISITOR" "key", sessionKey := keyFor "SESSION" "key" }, {})
      publisher := ((), [])
      supply := { ids := fun n => ⟨Id.v7 n 0, Id.version_v7 n 0⟩ } }
    let publish : Publisher Unit := fun batch u => (.ok batch.length, u)
    let down (call : Call) : Option StorageError :=
      if call.kind = .set then some (.io "fault" "disk full") else none
    let turns : List Turn := [{ op := .registerArea, durable := down }, { op := .registerArea },
      { op := .registerArea, transient := down }, { op := .registerClick }]
    let h := turns.foldl (Turn.run publish) { scene := { world := w } }
    h.handed.map (·.kind) = [.visitor, .session, .area, .click] ∧
      h.dropped.map (·.1.kind) = [.visitor, .session, .area, .area] ∧
      IsFounded (IsTraceable (contents w.store) h.dropped) h.handed ∧
      ∀ d ∈ h.dropped, ∀ e ∈ h.handed, e.parentId? = some d.1.id → IsLeft d := by
  intro w publish down turns h
  have hfor : w.store.1.IsFor "key" := ⟨rfl, rfl⟩
  obtain ⟨hfounded, hleft⟩ := isTraceable_run hfor rfl publish turns
  have hempty : contents w.store = .empty := by decide +kernel
  refine ⟨by decide +kernel, by decide +kernel, hfounded, hleft (by decide +kernel) ?_⟩
  intro k r hr
  rw [hempty] at hr
  cases k <;> cases hr

end Clickstream
