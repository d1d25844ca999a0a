import Clickstream.Proofs.Tracker.Conservation

/-!
# What an operation does to its store

Of a store an operation wants two things: a look at the state (`Store.look`) and a commit of
the state that it plans (`Store.commit`). Between the two it creates the events of its plan,
and after the commit it hands them over; if the commit fails, it drops them. So what an
operation does to its store and to its events follows from the outcomes of these two calls,
whatever else is going on in the world (`Operation.Effect`).

A `Journal` is a tracker at work, with the events that it has dropped so far.

* `effect_operate`: every operation has one of the three effects;
* `Journal.effect_after`: so has every operation of a tracker that goes from one to the next;
* `Journal.isMinted_foldl`: in a run every id is taken for one event, in the order of the
  supply.
-/

namespace Clickstream

variable {σ π : Type}

/-! ## The two calls -/

namespace Store

/-- The stored state as a tracker sees it: nothing stored is the empty state, and what has no
    ancestors is dropped. -/
def view (store : Store σ) (x : σ) : Outcome SiteStateError SiteState σ :=
  let outcome := store.get x
  { outcome with
    result := match outcome.result with
      | .ok s => .ok s.normalized
      | .error .absent => .ok .empty
      | .error e => .error e }

/-- A look at the stored state for an operation. One about visitors does not look. -/
def look (store : Store σ) (op : Operation) (x : σ) : Outcome SiteStateError SiteState σ :=
  if op.kind.isRoot then { result := .ok .empty, state := x } else store.view x

/-- A commit of a state: it is written, or the store is cleared if there is nothing in it. -/
def commit (store : Store σ) (next : SiteState) (x : σ) : Outcome SiteStateError SiteState σ :=
  if next.isEmpty then store.clear x else store.set next x

end Store

theorem World.read_eq (store : Store σ) (w : World σ π) :
    read store w = callStore store.view w := by
  unfold read Store.view callStore
  rcases h : (store.get w.store).result with (_ | _ | _) | s <;> simp only [h]

theorem World.see_eq (store : Store σ) (op : Operation) (w : World σ π) :
    see store op w = callStore (store.look op) w := by
  unfold see Store.look
  rw [read_eq]
  unfold callStore
  split
  · simp
  · rfl

theorem World.commit_eq (store : Store σ) (next : SiteState) (w : World σ π) :
    commit store next w = callStore (store.commit next) w := by
  unfold commit Store.commit callStore
  split <;> rfl

/-- What a look shows is consistent. -/
theorem Store.isConsistent_look {store : Store σ} {op : Operation} {x : σ} {s : SiteState}
    (h : (store.look op x).result = .ok s) : s.isConsistent := by
  unfold look view at h
  split at h
  · cases h
    rfl
  · rcases hget : (store.get x).result with (_ | _ | _) | s <;> simp only [hget] at h <;> cases h
    · rfl
    · exact SiteState.isConsistent_normalized _

/-! ## Effects -/

/-- What an operation does that finds a store in the state `x` and gets the ids `ids`: the
    events that it hands over, the events that it drops, and the state of the store after it. -/
inductive Operation.Effect (store : Store σ) (op : Operation) (ids : Nat → FreshId) (x : σ) :
    List Event → List Event → σ → Prop
  /-- It could not look, and has created nothing. -/
  | blind {e : SiteStateError} (look : (store.look op x).result = .error e) :
    Effect store op ids x [] [] (store.look op x).state
  /-- It could not commit what it planned, and has dropped its events. -/
  | dropped {s : SiteState} {e : SiteStateError} (look : (store.look op x).result = .ok s)
      (commit : (store.commit (op.plan ids s).next (store.look op x).state).result = .error e) :
    Effect store op ids x [] (op.plan ids s).batch
      (store.commit (op.plan ids s).next (store.look op x).state).state
  /-- It has committed what it planned, and handed its events over. -/
  | handed {s c : SiteState} (look : (store.look op x).result = .ok s)
      (commit : (store.commit (op.plan ids s).next (store.look op x).state).result = .ok c) :
    Effect store op ids x (op.plan ids s).batch []
      (store.commit (op.plan ids s).next (store.look op x).state).state

/-- No operation hands over some of its events and drops the others. -/
theorem Operation.Effect.eq_nil {store : Store σ} {op : Operation} {ids : Nat → FreshId} {x y : σ}
    {hs ds : List Event} (h : op.Effect store ids x hs ds y) : hs = [] ∨ ds = [] := by
  cases h with
  | blind | dropped => exact .inl rfl
  | handed => exact .inr rfl

/-- The events of an operation have the next ids, in order. -/
theorem Operation.Effect.ids {store : Store σ} {op : Operation} {ids : Nat → FreshId} {x y : σ}
    {hs ds : List Event} (h : op.Effect store ids x hs ds y) :
    (hs ++ ds).map Event.id = (List.range (hs ++ ds).length).map fun i => (ids i).id := by
  cases h with
  | blind => rfl
  | dropped look => exact Tracker.ids_plan op (Store.isConsistent_look look) ids
  | handed look =>
    rw [List.append_nil]
    exact Tracker.ids_plan op (Store.isConsistent_look look) ids

namespace Tracker

/-- What can be seen of an operation from outside, if it has handed over and dropped these
    events. -/
structure Shows (store : Store σ) (publish : Publisher π) (op : Operation) (w : RecordedWorld σ π)
    (handed dropped : List Event) : Prop where
  created : created (World.surroundings store publish.recorded) op w = handed ++ dropped
  batches : (operate store publish.recorded op w).2.publisher.2 =
    w.publisher.2 ++ if handed.isEmpty then [] else [handed.map Event.toWire]
  supply : (operate store publish.recorded op w).2.supply =
    { w.supply with taken := w.supply.taken + (handed ++ dropped).length }

/-- Every operation has one of the three effects. -/
theorem effect_operate (store : Store σ) (publish : Publisher π) (op : Operation)
    (w : RecordedWorld σ π) :
    ∃ handed dropped, op.Effect store w.fresh w.store handed dropped
        (operate store publish.recorded op w).2.store ∧
      Shows store publish op w handed dropped := by
  have hcreated := created_eq store publish.recorded op w
  have hoperate := operate_eq store publish.recorded op w
  rw [World.see_eq] at hcreated hoperate
  cases hlook : (store.look op w.store).result with
  | error e =>
    simp only [World.callStore, hlook] at hcreated hoperate
    refine ⟨[], [], ?_, hcreated, ?_, ?_⟩ <;> rw [hoperate]
    · exact .blind hlook
    · exact (List.append_nil _).symm
    · rfl
  | ok s =>
    -- The look takes no id, so the events get the next ones.
    have hfresh : World.fresh (World.callStore (store.look op) w).2 = w.fresh := rfl
    simp only [World.callStore, hlook] at hfresh hcreated hoperate
    rw [hfresh] at hcreated hoperate
    simp only [World.carryOut, World.commit_eq] at hoperate
    cases hcommit :
      (store.commit (op.plan w.fresh s).next (store.look op w.store).state).result with
    | error e =>
      simp only [World.callStore, World.withEvents, hcommit] at hoperate
      refine ⟨[], (op.plan w.fresh s).batch, ?_, hcreated, ?_, ?_⟩ <;> rw [hoperate]
      · exact .dropped hlook hcommit
      · exact (List.append_nil _).symm
      · rfl
    | ok c =>
      simp only [World.callStore, World.withEvents, hcommit] at hoperate
      refine ⟨(op.plan w.fresh s).batch, [], ?_, by rw [hcreated, List.append_nil], ?_, ?_⟩ <;>
        rw [hoperate]
      · rw [World.handOver]
        split <;> exact .handed hlook hcommit
      · rw [World.handOver]
        split
        · exact (List.append_nil _).symm
        · rfl
      · rw [World.handOver, List.append_nil]
        split <;> rfl

end Tracker

/-! ## One operation after another -/

/-- A tracker at work: the scene as it is now, and the events that it has created and never
    handed over, each with the store as it was after the operation that dropped it. -/
structure Journal (σ π : Type) where
  scene : Scene (RecordedWorld σ π)
  dropped : List (Event × σ) := []

namespace Journal

/-- The events that were handed over so far, in order. -/
def handed (h : Journal σ π) : List WireEvent := h.scene.world.publisher.2.flatten

/-- Something happens to the world while the tracker is at rest. -/
def meanwhile (change : RecordedWorld σ π → RecordedWorld σ π) (h : Journal σ π) : Journal σ π :=
  { h with scene := { h.scene with world := change h.scene.world } }

/-- One more operation. Its events are dropped if it hands no batch over. -/
def after (store : Store σ) (publish : Publisher π) (op : Operation) (h : Journal σ π) :
    Journal σ π :=
  let env := World.surroundings store publish.recorded
  let scene := (Tracker.perform env op h.scene).2
  { scene
    dropped := h.dropped ++
      if scene.world.publisher.2.length = h.scene.world.publisher.2.length then
        (Tracker.created env op h.scene.world).map (·, scene.world.store)
      else [] }

/-- Whether the tracker holds nothing. -/
def IsAtRest (h : Journal σ π) : Prop := h.scene.tracker = {}

/-- What has become of a journal by an operation that has handed over and dropped these
    events. -/
structure Grows (h h' : Journal σ π) (hs ds : List Event) : Prop where
  isAtRest : h'.IsAtRest
  handed : h'.handed = h.handed ++ hs.map Event.toWire
  dropped : h'.dropped = h.dropped ++ ds.map (·, h'.scene.world.store)
  supply : h'.scene.world.supply =
    { h.scene.world.supply with taken := h.scene.world.supply.taken + (hs ++ ds).length }

/-- Every operation of a tracker that is at rest has one of the three effects. -/
theorem effect_after (store : Store σ) (publish : Publisher π) (op : Operation) {h : Journal σ π}
    (hrest : h.IsAtRest) :
    ∃ handed dropped, op.Effect store h.scene.world.fresh h.scene.world.store handed dropped
        (h.after store publish op).scene.world.store ∧
      h.Grows (h.after store publish op) handed dropped := by
  obtain ⟨⟨tracker, w⟩, before⟩ := h
  cases hrest
  obtain ⟨handed, dropped, heffect, hcreated, hbatches, hsupply⟩ :=
    Tracker.effect_operate store publish op w
  refine ⟨handed, dropped, ?_, ?_⟩
  all_goals simp only [after, Tracker.perform_eq, hcreated]
  · exact heffect
  · refine ⟨rfl, ?_, ?_, hsupply⟩
    · simp only [Journal.handed, hbatches, List.flatten_append]
      split
      · rename_i hempty
        rw [List.isEmpty_iff.1 hempty]
        rfl
      · simp
    · simp only [hbatches]
      -- Events were dropped exactly if no batch was added.
      rcases heffect.eq_nil with rfl | rfl
      · simp
      · cases handed <;> simp

/-- Whatever has happened to the store while the tracker was at rest, an operation has one of
    the three effects on what it finds. -/
theorem effect_meanwhile (store : Store σ) (publish : Publisher π) (op : Operation)
    {h : Journal σ π} (hrest : h.IsAtRest) (change : σ → σ) :
    let h' := (h.meanwhile fun w => { w with store := change w.store }).after store publish op
    ∃ handed dropped, op.Effect store h.scene.world.fresh (change h.scene.world.store) handed
        dropped h'.scene.world.store ∧ h.Grows h' handed dropped := by
  obtain ⟨handed, dropped, heffect, hgrows⟩ := effect_after store publish op
    (h := h.meanwhile fun w => { w with store := change w.store }) hrest
  exact ⟨handed, dropped, heffect, hgrows.isAtRest, hgrows.handed, hgrows.dropped, hgrows.supply⟩

end Journal

/-! ## Ids -/

/-- The ids that were taken on the way from one world to another. -/
def World.minted (w w' : World σ π) : List Id :=
  (List.range (w'.supply.taken - w.supply.taken)).map fun i => (w.fresh i).id

namespace Journal

/-- Whether the events of a journal have the first ids of a supply, so many: each was taken for
    one event, which was handed over or dropped, and events are handed over in the order in
    which they were created. -/
structure IsMinted (s : Supply) (n : Nat) (h : Journal σ π) : Prop where
  supply : h.scene.world.supply = { s with taken := s.taken + n }
  handed : (h.handed.map (·.id)).Sublist ((List.range n).map fun i => (s.ids (s.taken + i)).id)
  perm : (h.handed.map (·.id) ++ h.dropped.map (·.1.id)).Perm
    ((List.range n).map fun i => (s.ids (s.taken + i)).id)

variable {store : Store σ} {op : Operation} {h h' : Journal σ π} {hs ds : List Event}
  {x y : σ}

theorem isMinted_start {w : RecordedWorld σ π} (h : w.publisher.2 = []) :
    IsMinted w.supply 0 { scene := { world := w } } where
  supply := rfl
  handed := by simp [Journal.handed, h]
  perm := by simp [Journal.handed, h]

theorem IsMinted.minted_eq {w : RecordedWorld σ π} {n : Nat} (hminted : h.IsMinted w.supply n) :
    w.minted h.scene.world = (List.range n).map fun i => (w.fresh i).id := by
  rw [World.minted, hminted.supply, Nat.add_sub_cancel_left]

theorem IsMinted.grows {s : Supply} {n : Nat} (hminted : h.IsMinted s n)
    (heffect : op.Effect store h.scene.world.fresh x hs ds y)
    (hgrows : h.Grows h' hs ds) : h'.IsMinted s (n + (hs ++ ds).length) := by
  have hids : (hs ++ ds).map Event.id =
      (List.range (hs ++ ds).length).map fun i => (s.ids (s.taken + (n + i))).id := by
    rw [heffect.ids]
    simp only [World.fresh, hminted.supply, Nat.add_assoc]
  have hrange : ((List.range (n + (hs ++ ds).length)).map fun i => (s.ids (s.taken + i)).id) =
      ((List.range n).map fun i => (s.ids (s.taken + i)).id) ++ (hs ++ ds).map Event.id := by
    rw [hids, List.range_add, List.map_append, List.map_map]
    rfl
  have hhanded : h'.handed.map (·.id) = h.handed.map (·.id) ++ hs.map Event.id := by
    rw [hgrows.handed, List.map_append, List.map_map]
    rfl
  have hdropped : h'.dropped.map (·.1.id) = h.dropped.map (·.1.id) ++ ds.map Event.id := by
    rw [hgrows.dropped, List.map_append, List.map_map]
    rfl
  refine ⟨?_, ?_, ?_⟩
  · rw [hgrows.supply, hminted.supply, Nat.add_assoc]
  · rw [hhanded, hrange, List.map_append]
    exact hminted.handed.append (List.sublist_append_left ..)
  · rw [hhanded, hdropped, hrange, List.map_append]
    -- What is new goes behind what was dropped before.
    refine List.Perm.trans ?_ (hminted.perm.append_right _)
    simp only [List.append_assoc]
    exact ((List.perm_append_comm_assoc ..).append_left _)

/-- What every operation keeps holds after a run, and the events of the run have the first ids of
    the supply. -/
theorem isMinted_foldl {τ : Type} {run : Journal σ π → τ → Journal σ π} {P : Journal σ π → Prop}
    (hrun : ∀ h t, P h → P (run h t) ∧ ∃ op x hs ds y,
      Operation.Effect store op h.scene.world.fresh x hs ds y ∧ h.Grows (run h t) hs ds)
    {s : Supply} {n : Nat} (hh : P h) (hminted : h.IsMinted s n) (ts : List τ) :
    P (ts.foldl run h) ∧ ∃ m, (ts.foldl run h).IsMinted s m := by
  induction ts generalizing h n with
  | nil => exact ⟨hh, n, hminted⟩
  | cons t ts ih =>
    obtain ⟨hkept, op, x, hs, ds, y, heffect, hgrows⟩ := hrun h t hh
    exact ih hkept (hminted.grows heffect hgrows)

end Journal

end Clickstream
