import Clickstream.Proofs.Tracker.Plan

/-!
# Trackers with different publishers

All that a tracker wants of a publisher is an answer to a batch. So two publishers that
give equal answers make no difference to it, whatever they do to have them
(`Publisher.Simulates`); and what it does to its store depends on no answer at all.

* `operate_of_simulates`, `operateAll_of_simulates`: with publishers that give equal answers,
  operations have equal results and leave equal worlds, the publishers apart;
* `operate_agrees`, `operateAll_agrees`: with any two publishers, stores and ids stay equal.
-/

namespace Clickstream

variable {σ π π' : Type}

/-- Whether two publishers answer alike from related states, and lead to related states. It
    does not matter what they do with an empty batch. -/
def Publisher.Simulates (R : π → π' → Prop) (publish : Publisher π) (publish' : Publisher π') :
    Prop :=
  ∀ batch x x', batch.isEmpty = false → R x x' →
    (publish batch x).1 = (publish' batch x').1 ∧ R (publish batch x).2 (publish' batch x').2

namespace World

/-- The world with another publisher. -/
def withPublisher (x : π') (w : World σ π) : World σ π' :=
  { store := w.store, publisher := x, supply := w.supply, log := w.log }

theorem see_withPublisher (store : Store σ) (op : Operation) (x : π') (w : World σ π) :
    see store op (w.withPublisher x) =
      ((see store op w).1, (see store op w).2.withPublisher x) := by
  unfold see read
  split
  · rfl
  · rcases h : (store.get w.store).result with ⟨_ | _ | _⟩ | s <;>
      simp only [callStore, withPublisher, h]

theorem commit_withPublisher (store : Store σ) (s : SiteState) (x : π') (w : World σ π) :
    commit store s (w.withPublisher x) =
      ((commit store s w).1, (commit store s w).2.withPublisher x) := by
  unfold commit
  split <;> rfl

/-- Whether two worlds have the same store and the same ids. -/
structure Agrees (w : World σ π) (w' : World σ π') : Prop where
  store : w'.store = w.store
  supply : w'.supply = w.supply

namespace Agrees

variable {w : World σ π} {w' : World σ π'} (h : w.Agrees w') (store : Store σ)

include h

theorem fresh_eq : w'.fresh = w.fresh := by
  funext i
  rw [fresh, fresh, h.supply]

theorem see (op : Operation) : (see store op w').1 = (see store op w).1 ∧
    (see store op w).2.Agrees (see store op w').2 := by
  obtain ⟨s, x, p, log⟩ := w
  obtain ⟨s', x', p', log'⟩ := w'
  obtain ⟨rfl, rfl⟩ : s' = s ∧ p' = p := ⟨h.store, h.supply⟩
  unfold World.see read
  split
  · exact ⟨rfl, rfl, rfl⟩
  · rcases hget : (store.get s').result with ⟨_ | _ | _⟩ | s <;> simp only [callStore, hget] <;>
      exact ⟨trivial, rfl, rfl⟩

theorem withEvents (es : List Event) : (w.withEvents es).Agrees (w'.withEvents es) where
  store := h.store
  supply := by rw [World.withEvents, World.withEvents, h.supply]

theorem commit (s : SiteState) : (commit store s w').1 = (commit store s w).1 ∧
    (commit store s w).2.Agrees (commit store s w').2 := by
  unfold World.commit callStore
  rw [h.store]
  split <;> exact ⟨rfl, rfl, h.supply⟩

theorem handOver (publish : Publisher π) (publish' : Publisher π') (batch : List Event) :
    (w.handOver publish batch).2.Agrees (w'.handOver publish' batch).2 := by
  unfold World.handOver
  split <;> exact ⟨h.store, h.supply⟩

theorem carryOut (publish : Publisher π) (publish' : Publisher π') (p : Plan) :
    (w.carryOut store publish p).2.Agrees (w'.carryOut store publish' p).2 := by
  obtain ⟨hresult, hagrees⟩ := (h.withEvents p.batch).commit store p.next
  unfold World.carryOut
  rcases hc : (w.withEvents p.batch).commit store p.next with ⟨_ | _, v⟩ <;>
    rcases hc' : (w'.withEvents p.batch).commit store p.next with ⟨_ | _, v'⟩ <;>
    rw [hc, hc'] at hresult hagrees <;> cases hresult
  · exact ⟨hagrees.store, hagrees.supply⟩
  · exact hagrees.handOver publish publish' p.batch

end Agrees

end World

namespace Tracker

variable (store : Store σ) {publish : Publisher π} {publish' : Publisher π'}

/-- Runs one operation after another. -/
def operateAll (store : Store σ) (publish : Publisher π) :
    List Operation → World σ π → List TrackingResult × World σ π
  | [], w => ([], w)
  | op :: ops, w =>
    let (result, w) := operate store publish op w
    let (results, w) := operateAll store publish ops w
    (result :: results, w)

/-! ## Any two publishers -/

theorem operate_agrees (publish : Publisher π) (publish' : Publisher π') (op : Operation)
    {w : World σ π} {w' : World σ π'} (h : w.Agrees w') :
    (operate store publish op w).2.Agrees (operate store publish' op w').2 := by
  obtain ⟨hresult, hagrees⟩ := h.see store op
  rw [operate_eq, operate_eq]
  -- Both see the same, so the mixed cases cannot be.
  rcases hsee : World.see store op w with ⟨_ | s, v⟩ <;>
    rcases hsee' : World.see store op w' with ⟨_ | s', v'⟩ <;>
    rw [hsee, hsee'] at hresult hagrees <;> cases hresult
  · exact ⟨hagrees.store, hagrees.supply⟩
  · simp only [hagrees.fresh_eq]
    exact hagrees.carryOut store publish publish' _

theorem operateAll_agrees (publish : Publisher π) (publish' : Publisher π') (ops : List Operation)
    {w : World σ π} {w' : World σ π'} (h : w.Agrees w') :
    (operateAll store publish ops w).2.Agrees (operateAll store publish' ops w').2 := by
  induction ops generalizing w w' with
  | nil => exact h
  | cons op ops ih => exact ih (operate_agrees store publish publish' op h)

/-! ## Publishers that answer alike -/

variable {R : π → π' → Prop} {w : World σ π} {x : π'}

theorem handOver_of_simulates (h : publish.Simulates R publish') (batch : List Event)
    (hx : R w.publisher x) :
    ∃ y, (w.withPublisher x).handOver publish' batch =
        ((w.handOver publish batch).1, (w.handOver publish batch).2.withPublisher y) ∧
      R (w.handOver publish batch).2.publisher y := by
  unfold World.handOver
  cases hbatch : batch.isEmpty with
  | true => exact ⟨x, rfl, hx⟩
  | false =>
    have hwire : (batch.map Event.toWire).isEmpty = false := by rw [List.isEmpty_map, hbatch]
    obtain ⟨hresult, hR⟩ := h _ _ _ hwire hx
    refine ⟨(publish' (batch.map Event.toWire) x).2, ?_, hR⟩
    simp only [Bool.false_eq_true, if_false, World.callPublisher, World.withPublisher, hresult]
    rfl

theorem carryOut_of_simulates (h : publish.Simulates R publish') (p : Plan)
    (hx : R w.publisher x) :
    ∃ y, (w.withPublisher x).carryOut store publish' p =
        ((w.carryOut store publish p).1, (w.carryOut store publish p).2.withPublisher y) ∧
      R (w.carryOut store publish p).2.publisher y := by
  have hcommit := World.commit_withPublisher store p.next x (w.withEvents p.batch)
  have hevents : (w.withPublisher x).withEvents p.batch =
      (w.withEvents p.batch).withPublisher x := rfl
  simp only [World.carryOut, hevents, hcommit]
  rcases hc : (w.withEvents p.batch).commit store p.next with ⟨_ | _, v⟩
  -- The commit leaves the publisher as it is, so the states are related still.
  all_goals
    have hx : R v.publisher x := by
      rw [(World.commit_frame hc).2]
      exact hx
  · exact ⟨x, rfl, hx⟩
  · exact handOver_of_simulates h p.batch hx

/-- With publishers that answer alike an operation comes to the same. -/
theorem operate_of_simulates (h : publish.Simulates R publish') (op : Operation)
    (hx : R w.publisher x) :
    ∃ y, operate store publish' op (w.withPublisher x) =
        ((operate store publish op w).1, (operate store publish op w).2.withPublisher y) ∧
      R (operate store publish op w).2.publisher y := by
  simp only [operate_eq, World.see_withPublisher]
  rcases hsee : World.see store op w with ⟨_ | s, v⟩
  all_goals
    have hx : R v.publisher x := by
      rw [(World.see_frame hsee).2]
      exact hx
  · exact ⟨x, rfl, hx⟩
  · exact carryOut_of_simulates store h _ hx

/-- So do any number of operations. -/
theorem operateAll_of_simulates (h : publish.Simulates R publish') (ops : List Operation)
    (hx : R w.publisher x) :
    ∃ y, operateAll store publish' ops (w.withPublisher x) =
        ((operateAll store publish ops w).1,
          (operateAll store publish ops w).2.withPublisher y) ∧
      R (operateAll store publish ops w).2.publisher y := by
  induction ops generalizing w x with
  | nil => exact ⟨x, rfl, hx⟩
  | cons op ops ih =>
    obtain ⟨y, hop, hy⟩ := operate_of_simulates store h op hx
    obtain ⟨z, hops, hz⟩ := ih hy
    refine ⟨z, ?_, hz⟩
    simp only [operateAll, hop, hops]

end Tracker

end Clickstream
