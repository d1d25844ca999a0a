import Clickstream.Proofs.Tracker.Effect

/-!
# Causal order

Whoever receives the events in the order in which they are handed over meets every event
after the one that it hangs on, and the latter is the most recent one of its kind. The parent
mostly comes from an earlier operation, through the store. So this needs that what is stored
was handed over, and that nothing of its kind was handed over since: a commit that fails
leaves the store as it was and drops the events, and a delivery that fails has been handed
over all the same.

What a new event may hang on is left open at first: `Knows es k id` says that after the events
`es` the id is known for the kind. All that is asked of such a memory is that a new event is
known, and that one is forgotten only for a new one of its kind (`IsMemory`).

* `isFounded_plan`: what an operation plans on a known state hangs on what is known;
* `isCausal_run`: hence everything that a tracker hands over is in causal order, each id is
  handed over once, and ids that are minted in order are handed over in order.
-/

namespace Clickstream

/-! ## What is known -/

section Memory

variable {Knows : List WireEvent → Kind → Id → Prop} {es : List WireEvent} {s : SiteState}

/-- Whether the latest event is always known, and an event is forgotten only for another one of
    its kind. -/
structure IsMemory (Knows : List WireEvent → Kind → Id → Prop) : Prop where
  new : ∀ es e, Knows (es ++ [e]) e.kind e.id
  keep : ∀ {es k id} e, Knows es k id → k ≠ e.kind → Knows (es ++ [e]) k id

/-- Whether an event hangs on something of the kind below that is known. A visitor hangs on
    nothing. -/
def WireEvent.HangsOn (e : WireEvent) (Known : Kind → Id → Prop) : Prop :=
  match e.kind.parent? with
  | none => e.parentId? = none
  | some k => ∃ id, e.parentId? = some id ∧ Known k id

/-- Whether every event hangs on something that was known before it. -/
def IsFounded (Knows : List WireEvent → Kind → Id → Prop) (es : List WireEvent) : Prop :=
  ∀ before e after, es = before ++ e :: after → e.HangsOn (Knows before)

/-- Whether everything in a state is known. -/
def SiteState.IsKnown (Knows : List WireEvent → Kind → Id → Prop) (es : List WireEvent)
    (s : SiteState) : Prop :=
  ∀ k (r : Reference k), s.current k = some r → Knows es k r.id

theorem isFounded_nil : IsFounded Knows [] := by
  intro before e after h
  simp at h

theorem isFounded_concat {e : WireEvent} (h : IsFounded Knows es) (he : e.HangsOn (Knows es)) :
    IsFounded Knows (es ++ [e]) := by
  intro before e' after heq
  rcases List.eq_nil_or_concat after with rfl | ⟨as, a, rfl⟩
  · obtain ⟨rfl, he'⟩ := List.append_inj' heq rfl
    cases he'
    exact he
  · rw [List.concat_eq_append, ← List.cons_append, ← List.append_assoc] at heq
    exact h before e' as (List.append_inj' heq rfl).1

theorem WireEvent.HangsOn.mono {e : WireEvent} {Known Known' : Kind → Id → Prop}
    (h : e.HangsOn Known) (hle : ∀ k id, Known k id → Known' k id) : e.HangsOn Known' := by
  unfold HangsOn at h ⊢
  split
  · simpa only [*] using h
  · rename_i k hk
    simp only [hk] at h
    exact h.imp fun id hid => ⟨hid.1, hle k id hid.2⟩

theorem IsFounded.mono {Knows' : List WireEvent → Kind → Id → Prop} (h : IsFounded Knows es)
    (hle : ∀ es k id, Knows es k id → Knows' es k id) : IsFounded Knows' es :=
  fun before e after heq => (h before e after heq).mono (hle before)

namespace SiteState

theorem isKnown_empty : empty.IsKnown Knows es := by
  intro k r h
  cases k <;> cases h

/-- After an event, what is current is the event, or what was current before and is of another
    kind. -/
theorem current_adopt {e : Event} {k : Kind} {r : Reference k}
    (h : (s.adopt e).current k = some r) :
    k = e.kind ∧ r.id = e.id ∨ k ≠ e.kind ∧ s.current k = some r := by
  cases e <;> cases k <;> simp_all [adopt, current, withVisitor, withSession, withArea, Event.kind]
  all_goals
    rw [← h]
    rfl

theorem current_leave {j k : Kind} {r : Reference k} (h : (s.leave j).current k = some r) :
    s.current k = some r := by
  cases j <;> cases k <;> simp_all [leave, current, withVisitor, withSession, withArea]

theorem current_normalized {k : Kind} {r : Reference k} (h : s.normalized.current k = some r) :
    s.current k = some r := by
  obtain ⟨_ | v, _ | t, a⟩ := s <;> cases k <;> simp_all [normalized, current]

theorem IsKnown.normalized (h : s.IsKnown Knows es) : s.normalized.IsKnown Knows es :=
  fun k r hr => h k r (current_normalized hr)

theorem IsKnown.adopt (hmem : IsMemory Knows) (h : s.IsKnown Knows es) (e : Event) :
    (s.adopt e).IsKnown Knows (es ++ [e.toWire]) := by
  intro k r hr
  rcases current_adopt hr with ⟨rfl, hid⟩ | ⟨hk, hr⟩
  · rw [hid]
    exact hmem.new es e.toWire
  · exact hmem.keep e.toWire (h k r hr) hk

end SiteState

/-! ## Plans -/

/-- Whether the events of a plan hang on what is known after the events before it, and what it
    is to commit is known after its own. -/
structure Plan.IsFounded (Knows : List WireEvent → Kind → Id → Prop) (es : List WireEvent)
    (p : Plan) : Prop where
  batch : Clickstream.IsFounded Knows (es ++ p.batch.map Event.toWire)
  next : p.next.IsKnown Knows (es ++ p.batch.map Event.toWire)

variable {ids : Nat → FreshId} {p : Plan}

theorem Plan.IsFounded.extend (hmem : IsMemory Knows) (h : p.IsFounded Knows es) (k : Kind) :
    (p.extend ids k).IsFounded Knows es := by
  rcases hunder : Event.under? p.next (ids p.batch.length) k with _ | e
  · simpa only [Plan.extend, hunder] using h
  · rw [extend_of_under? hunder]
    obtain ⟨hkind, -, hparent⟩ := Event.of_under? hunder
    have hbatch : es ++ (p.batch ++ [e]).map Event.toWire =
        es ++ p.batch.map Event.toWire ++ [e.toWire] := by simp
    refine ⟨?_, ?_⟩ <;> rw [hbatch]
    · refine isFounded_concat h.batch ?_
      have hkind : e.toWire.kind = k := hkind
      unfold WireEvent.HangsOn
      rw [hkind, Event.parentId?_toWire, hparent, SiteState.parentId?]
      cases hj : k.parent? with
      | none => rfl
      | some j =>
        -- The event hangs on what the plan holds of the kind below, which is known.
        have hheld : ∃ r, p.next.current j = some r := by
          cases k <;> cases hj <;> exact (Option.map_eq_some_iff.1 hunder).imp fun _ h => h.1
        obtain ⟨r, hr⟩ := hheld
        exact ⟨r.id, by rw [Option.bind_some, hr]; rfl, h.next j r hr⟩
    · exact h.next.adopt hmem e

/-- What an operation plans on a known state hangs on what is known. -/
theorem Operation.isFounded_plan (hmem : IsMemory Knows) (op : Operation) (ids : Nat → FreshId)
    (hes : IsFounded Knows es) (hs : s.IsKnown Knows es) : (op.plan ids s).IsFounded Knows es := by
  have hfoldl (ks : List Kind) {p : Plan} (hp : p.IsFounded Knows es) :
      (ks.foldl (Plan.extend ids) p).IsFounded Knows es := by
    induction ks generalizing p with
    | nil => exact hp
    | cons k ks ih => exact ih (hp.extend hmem k)
  rw [plan]
  split
  · exact hfoldl _ ⟨by simpa using hes, by simpa using hs⟩
  · refine ⟨by simpa using hes, fun k r hr => ?_⟩
    simpa using hs k r (SiteState.current_leave hr)

end Memory

/-! ## The most recent event -/

/-- Whether an id is that of the most recent event of a kind. -/
def IsLatest (es : List WireEvent) (k : Kind) (id : Id) : Prop :=
  ∃ before e after, es = before ++ e :: after ∧ e.kind = k ∧ e.id = id ∧ ∀ x ∈ after, x.kind ≠ k

/-- Whether every event but a visitor hangs on the most recent event of the kind below, which
    comes before it. -/
abbrev IsCausal (es : List WireEvent) : Prop := IsFounded IsLatest es

theorem isMemory_isLatest : IsMemory IsLatest where
  new es e := ⟨es, e, [], rfl, rfl, rfl, by simp⟩
  keep := by
    rintro es k id e ⟨before, x, after, rfl, hkind, hid, hafter⟩ hk
    refine ⟨before, x, after ++ [e], by simp, hkind, hid, fun y hy => ?_⟩
    rcases List.mem_append.1 hy with hy | hy
    · exact hafter y hy
    · rw [List.mem_singleton.1 hy]
      exact hk.symm

/-! ## Runs -/

namespace PlainStore

variable {π : Type}

/-- The store in which these calls fail, and no others. -/
def withFaults (onGet onSet onClear : Option SiteStateError) (x : PlainStore) : PlainStore :=
  { x with getFault := onGet, setFault := onSet, clearFault := onClear }

/-- An operation, and which calls of the store fail while it runs. -/
structure Turn where
  op : Operation
  onGet : Option SiteStateError := none
  onSet : Option SiteStateError := none
  onClear : Option SiteStateError := none

/-- One more operation, while these calls fail. -/
def Turn.run (publish : Publisher π) (h : Journal PlainStore π) (t : Turn) : Journal PlainStore π :=
  (h.meanwhile fun w =>
    { w with store := w.store.withFaults t.onGet t.onSet t.onClear }).after store publish t.op

variable {op : Operation} {x : PlainStore} {s : SiteState}

/-- What a look shows is stored, or it shows nothing. -/
theorem look_eq (h : (store.look op x).result = .ok s) : s = .empty ∨ s = x.state.normalized := by
  unfold Store.look Store.view at h
  split at h
  · exact .inl (Except.ok.inj h).symm
  · simp only [store, get] at h
    rcases hfault : x.getFault with _ | (_ | _ | _) <;> simp only [hfault] at h
    · cases hempty : x.state.isEmpty <;> simp only [hempty] at h
      · exact .inr (Except.ok.inj h).symm
      · exact .inl (Except.ok.inj h).symm
    · cases h
    · cases h
    · exact .inl (Except.ok.inj h).symm

theorem state_look (op : Operation) (x : PlainStore) :
    (store.look op x).state.state = x.state := by
  unfold Store.look Store.view
  split <;> rfl

/-- A commit that fails leaves what is stored as it is, and any other replaces it. -/
theorem state_commit (next : SiteState) (x : PlainStore) :
    (store.commit next x).state.state =
      match (store.commit next x).result with
      | .ok _ => next
      | .error _ => x.state := by
  unfold Store.commit
  split
  · rename_i h
    rw [SiteState.eq_empty_of_isEmpty h]
    simp only [store, clear]
    cases x.clearFault <;> rfl
  · simp only [store, set]
    cases x.setFault <;> rfl

end PlainStore

/-- Whether what was handed over is in causal order, and what is stored is the most recent of
    it. -/
structure Journal.IsOrdered {π : Type} (h : Journal PlainStore π) : Prop where
  isAtRest : h.IsAtRest
  causal : IsCausal h.handed
  latest : h.scene.world.store.state.IsKnown IsLatest h.handed

namespace PlainStore

variable {π : Type} {publish : Publisher π}

/-- Whatever fails meanwhile, an operation finds what is stored, and has one of its effects. -/
theorem effect_run (publish : Publisher π) {h : Journal PlainStore π} (hrest : h.IsAtRest)
    (t : Turn) :
    ∃ x hs ds, x.state = h.scene.world.store.state ∧
      t.op.Effect store h.scene.world.fresh x hs ds (t.run publish h).scene.world.store ∧
      h.Grows (t.run publish h) hs ds := by
  obtain ⟨hs, ds, heffect, hgrows⟩ := Journal.effect_meanwhile store publish t.op hrest
    (·.withFaults t.onGet t.onSet t.onClear)
  exact ⟨h.scene.world.store.withFaults t.onGet t.onSet t.onClear, hs, ds, rfl, heffect, hgrows⟩

/-- An operation keeps the order of what was handed over. -/
theorem isOrdered_run {h : Journal PlainStore π} (hh : h.IsOrdered) (t : Turn) :
    (t.run publish h).IsOrdered := by
  obtain ⟨x, hs, ds, hx, heffect, hgrows⟩ := effect_run publish hh.isAtRest t
  generalize t.run publish h = h' at heffect hgrows
  have hstored : x.state.IsKnown IsLatest h.handed := hx ▸ hh.latest
  have hlooked (s : SiteState) (hlook : (store.look t.op x).result = .ok s) :
      s.IsKnown IsLatest h.handed := by
    rcases look_eq hlook with rfl | rfl
    · exact SiteState.isKnown_empty
    · exact hstored.normalized
  have hhanded := hgrows.handed
  generalize hy : h'.scene.world.store = y at heffect
  cases heffect with
  | blind =>
    rw [List.map_nil, List.append_nil] at hhanded
    refine ⟨hgrows.isAtRest, hhanded ▸ hh.causal, ?_⟩
    rw [hhanded, hy, state_look]
    exact hstored
  | dropped look commit =>
    -- What is dropped was not committed, so what is stored is as recent as it was.
    rw [List.map_nil, List.append_nil] at hhanded
    refine ⟨hgrows.isAtRest, hhanded ▸ hh.causal, ?_⟩
    rw [hhanded, hy, state_commit, commit, state_look]
    exact hstored
  | handed look commit =>
    have hplan := t.op.isFounded_plan isMemory_isLatest h.scene.world.fresh hh.causal
      (hlooked _ look)
    refine ⟨hgrows.isAtRest, hhanded ▸ hplan.batch, ?_⟩
    rw [hhanded, hy, state_commit, commit]
    exact hplan.next

/-- From an empty store on, with whatever failures of the store and of deliveries, events are
    handed over in causal order: each but a visitor hangs on the most recent event of the kind
    below. If the ids that were minted are distinct, none is handed over twice, and if they go
    up, so do those that are handed over. -/
theorem isCausal_run {w : RecordedWorld PlainStore π} (hstore : w.store.state = .empty)
    (hhanded : w.publisher.2 = []) (publish : Publisher π) (turns : List Turn) :
    let h := turns.foldl (Turn.run publish) { scene := { world := w } }
    let minted := w.minted h.scene.world
    IsCausal h.handed ∧ (minted.Nodup → (h.handed.map (·.id)).Nodup) ∧
      (minted.Pairwise (·.toNat < ·.toNat) →
        (h.handed.map (·.id)).Pairwise (·.toNat < ·.toNat)) := by
  intro h minted
  have hstart : Journal.IsOrdered { scene := { world := w } } :=
    ⟨rfl, by simpa [Journal.handed, hhanded] using isFounded_nil,
      by simpa [hstore] using SiteState.isKnown_empty⟩
  have hrun (h : Journal PlainStore π) (t : Turn) (hh : h.IsOrdered) :
      (t.run publish h).IsOrdered ∧ ∃ op x hs ds y,
        Operation.Effect store op h.scene.world.fresh x hs ds y ∧
          h.Grows (t.run publish h) hs ds := by
    obtain ⟨x, hs, ds, -, heffect, hgrows⟩ := effect_run publish hh.isAtRest t
    exact ⟨isOrdered_run hh t, _, x, hs, ds, _, heffect, hgrows⟩
  obtain ⟨hordered, n, hminted⟩ : h.IsOrdered ∧ ∃ n, h.IsMinted w.supply n :=
    Journal.isMinted_foldl hrun hstart (Journal.isMinted_start hhanded) turns
  have hsub : (h.handed.map (·.id)).Sublist minted := by
    rw [show minted = _ from hminted.minted_eq]
    exact hminted.handed
  exact ⟨hordered.causal, hsub.nodup, fun hup => hup.sublist hsub⟩

/-- Nothing is ever delivered, one write fails, and one look finds nothing where a visitor is
    stored. -/
theorem isCausal_run_failing :
    let w : RecordedWorld PlainStore Unit := {
      store := {}
      publisher := ((), [])
      supply := { ids := fun n => ⟨Id.v7 n 0, Id.version_v7 n 0⟩ } }
    let publish : Publisher Unit := fun _ u => (.error ⟨.server, "down"⟩, u)
    let turns : List Turn := [{ op := .registerArea },
      { op := .registerSession, onSet := some (.storage "full") }, { op := .registerClick },
      { op := .deregisterArea }, { op := .registerClick, onGet := some .absent }]
    let h := turns.foldl (Turn.run publish) { scene := { world := w } }
    h.handed.map (·.kind) =
        [.visitor, .session, .area, .click, .visitor, .session, .area, .click] ∧
      h.dropped.map (·.1.kind) = [.session] ∧ IsCausal h.handed ∧ (h.handed.map (·.id)).Nodup ∧
      (h.handed.map (·.id)).Pairwise (·.toNat < ·.toNat) := by
  intro w publish turns h
  obtain ⟨hcausal, hnodup, hup⟩ := isCausal_run (w := w) rfl rfl publish turns
  exact ⟨by decide +kernel, by decide +kernel, hcausal, hnodup (by decide +kernel),
    hup (by decide +kernel)⟩

end PlainStore

end Clickstream
