import Clickstream.World

/-!
# What an operation does

An operation of the tracker is a staging in a monad, a commit and a delivery. Here
it is told once as a whole, without the monad: what it *sees* of the stored state
(`World.see`), what it *plans* to do about it (`Operation.plan`), and how the plan
is carried out.

A `Plan` is a batch of events and the state to commit. It grows by one event at a
time (`Plan.extend`): an event of a kind hangs on what the planned state holds of
the kind below, and takes the place of what the state held of its own kind.

* `stage_eq`: staging follows the plan, whatever the operation;
* `operate_eq`: so does the operation, in every case, with each failure.

Everything else about operations follows from the second, and no later proof has
to look into the monad again.
-/

namespace Clickstream

/-! ## States and events -/

namespace SiteState

/-- The reference of a kind that a state holds. A click is never held. -/
def current (s : SiteState) : (k : Kind) → Option (Reference k)
  | .visitor => s.visitor
  | .session => s.session
  | .area => s.area
  | .click => none

/-- The state in which an event is the current one of its kind. -/
def adopt (s : SiteState) : Event → SiteState
  | .visitor v => s.withVisitor (some v)
  | .session r _ => s.withSession (some r)
  | .area a _ => s.withArea (some a)
  | .click _ _ => s

/-- The state in which nothing of a kind is current, nor anything that hung on it. -/
def leave (s : SiteState) : Kind → SiteState
  | .visitor => s.withVisitor none
  | .session => s.withSession none
  | .area => s.withArea none
  | .click => s

/-- The kinds below a kind that a state lacks, the lowest first. -/
def missing (s : SiteState) (k : Kind) : List Kind :=
  Kind.all.filter fun j => j.rank < k.rank && (s.current j).isNone

theorem eq_empty_of_isEmpty {s : SiteState} (h : s.isEmpty) : s = empty := by
  obtain ⟨_ | v, _ | r, _ | a⟩ := s <;> simp_all [isEmpty, empty]

@[simp] theorem normalized_normalized (s : SiteState) : s.normalized.normalized = s.normalized :=
  (normalized_eq_self_iff _).2 (isConsistent_normalized s)

/-- The consistent states, by how far down they reach. -/
theorem eq_of_isConsistent {s : SiteState} (hs : s.isConsistent) :
    s = {} ∨ (∃ v, s = { visitor := some v }) ∨
      (∃ v r, s = { visitor := some v, session := some r }) ∨
      ∃ v r a, s = { visitor := some v, session := some r, area := some a } := by
  rcases s with ⟨_ | v, _ | r, _ | a⟩ <;> simp_all [isConsistent]

/-- In a consistent state, what is missing below a kind ends with the kind just
    below it, unless that is there; then nothing is missing. -/
theorem missing_of_parent? {s : SiteState} (hs : s.isConsistent) {k j : Kind}
    (h : k.parent? = some j) :
    s.missing k = if (s.current j).isSome then [] else s.missing j ++ [j] := by
  obtain rfl | ⟨v, rfl⟩ | ⟨v, r, rfl⟩ | ⟨v, r, a, rfl⟩ := eq_of_isConsistent hs <;> cases k <;>
    cases h <;> rfl

end SiteState

/-- An event of a kind, with a fresh id, that hangs on what the state holds of the
    kind below, if it holds that. -/
def Event.under? (s : SiteState) (id : FreshId) : Kind → Option Event
  | .visitor => some (.visitor (.ofFresh id))
  | .session => s.visitor.map (.session (.ofFresh id))
  | .area => s.session.map (.area (.ofFresh id))
  | .click => s.area.map (.click (.ofFresh id))

/-- The kind that an operation is about. -/
def Operation.kind : Operation → Kind
  | registerVisitor | deregisterVisitor => .visitor
  | registerSession | deregisterSession => .session
  | registerArea | deregisterArea => .area
  | registerClick => .click

/-! ## Plans -/

/-- The events that an operation is to create, and the state that it is to commit. -/
structure Plan where
  batch : List Event := []
  next : SiteState

namespace Plan

/-- The plan with another event, of the given kind. -/
def extend (ids : Nat → FreshId) (p : Plan) (k : Kind) : Plan :=
  match Event.under? p.next (ids p.batch.length) k with
  | some e => ⟨p.batch ++ [e], p.next.adopt e⟩
  | none => p

/-- The plan with an event of the given kind, after one of every kind that is
    missing below it. -/
def opening (ids : Nat → FreshId) (k : Kind) (p : Plan) : Plan :=
  (p.next.missing k ++ [k]).foldl (extend ids) p

/-- The plan after which something of the given kind is current: a new event only
    if there is nothing. -/
def obtaining (ids : Nat → FreshId) (k : Kind) (p : Plan) : Plan :=
  if (p.next.current k).isSome then p else p.opening ids k

variable {ids : Nat → FreshId} {p : Plan} {k : Kind}

theorem extend_of_under? {e : Event} (h : Event.under? p.next (ids p.batch.length) k = some e) :
    p.extend ids k = ⟨p.batch ++ [e], p.next.adopt e⟩ := by
  rw [extend, h]

theorem obtaining_of_current {r : Reference k} (h : p.next.current k = some r) :
    p.obtaining ids k = p := by
  rw [obtaining, h]
  rfl

theorem obtaining_of_current_eq_none (h : p.next.current k = none) :
    p.obtaining ids k = p.opening ids k := by
  rw [obtaining, h]
  rfl

/-- Opening a kind is obtaining something of the kind below it, and then one event more. -/
theorem opening_of_parent? (hp : p.next.isConsistent) {j : Kind} (h : k.parent? = some j) :
    p.opening ids k = (p.obtaining ids j).extend ids k := by
  rw [opening, SiteState.missing_of_parent? hp h, List.foldl_append, obtaining]
  split <;> rfl

/-- An event under a consistent state leaves it consistent. -/
theorem isConsistent_extend (hp : p.next.isConsistent) (k : Kind) :
    (p.extend ids k).next.isConsistent := by
  obtain ⟨es, ⟨_ | v, _ | r, _ | a⟩⟩ := p <;> cases k <;>
    first
      | rfl
      | exact hp

theorem isConsistent_foldl_extend (ks : List Kind) (hp : p.next.isConsistent) :
    (ks.foldl (extend ids) p).next.isConsistent := by
  induction ks generalizing p with
  | nil => exact hp
  | cons k ks ih => exact ih (isConsistent_extend hp k)

end Plan

/-- What an operation makes of a state: one that creates an event opens its kind,
    any other leaves it. -/
def Operation.plan (op : Operation) (ids : Nat → FreshId) (s : SiteState) : Plan :=
  if op.emits then Plan.opening ids op.kind { next := s } else { next := s.leave op.kind }

/-- What an operation sees of a stored state. One about visitors does not look. -/
def Operation.seen (op : Operation) (s : SiteState) : SiteState :=
  if op.kind.isRoot then .empty else s.normalized

theorem Operation.isConsistent_seen (op : Operation) (s : SiteState) :
    (op.seen s).isConsistent := by
  unfold seen
  split
  · rfl
  · exact SiteState.isConsistent_normalized s

/-! ## Worlds -/

namespace World

variable {σ π : Type}

/-- The id that is taken after so many others. -/
def fresh (w : World σ π) (i : Nat) : FreshId := w.supply.ids (w.supply.taken + i)

/-- The world after some events were created. -/
def withEvents (es : List Event) (w : World σ π) : World σ π :=
  { w with
    supply := { w.supply with taken := w.supply.taken + es.length }
    log := w.log ++ es.map fun e => .enqueued e.kind }

@[simp] theorem withEvents_nil (w : World σ π) : w.withEvents [] = w := by
  simp [withEvents]

/-- The stored state as an operation sees it: nothing stored is the empty state,
    and what has no ancestors is dropped. -/
def read (store : Store σ) (w : World σ π) : Except SiteStateError SiteState × World σ π :=
  match callStore store.get w with
  | (.ok s, w) => (.ok s.normalized, w)
  | (.error .absent, w) => (.ok .empty, w)
  | (.error e, w) => (.error e, w)

/-- What an operation sees of the stored state. One about visitors does not look. -/
def see (store : Store σ) (op : Operation) (w : World σ π) :
    Except SiteStateError SiteState × World σ π :=
  if op.kind.isRoot then (.ok .empty, w) else read store w

/-- Writes a state to the store, or clears the store if there is nothing in it. -/
def commit (store : Store σ) (s : SiteState) (w : World σ π) :
    Except SiteStateError SiteState × World σ π :=
  if s.isEmpty then callStore store.clear w else callStore (store.set s) w

/-- An operation ends. -/
def finish (result : TrackingResult) (w : World σ π) : TrackingResult × World σ π :=
  (result, w.measure (match result with | .ok count => .completed count | .error e => .failed e))

/-- An operation ends because the store failed: so many events are dropped. -/
def giveUp (e : SiteStateError) (dropped : Nat) (w : World σ π) : TrackingResult × World σ π :=
  (w.measure (.dropped dropped)).finish (.error (.internal e.message))

/-- An operation ends by handing over its batch, if there is anything in it. -/
def handOver (publish : Publisher π) (batch : List Event) (w : World σ π) :
    TrackingResult × World σ π :=
  if batch.isEmpty then w.finish (.ok 0)
  else
    let (result, w) := callPublisher publish (batch.map Event.toWire) w
    w.finish (result.mapError DeliveryError.toTrackingError)

/-- A plan is carried out: its state is committed, then its batch is handed over. -/
def carryOut (store : Store σ) (publish : Publisher π) (p : Plan) (w : World σ π) :
    TrackingResult × World σ π :=
  match (w.withEvents p.batch).commit store p.next with
  | (.error e, w) => w.giveUp e p.batch.length
  | (.ok _, w) => w.handOver publish p.batch

theorem isConsistent_see {store : Store σ} {op : Operation} {w w' : World σ π} {s : SiteState}
    (h : see store op w = (.ok s, w')) : s.isConsistent := by
  unfold see read at h
  split at h
  · cases h; rfl
  · split at h
    · cases h; exact SiteState.isConsistent_normalized _
    · cases h; rfl
    · cases h

/-- Looking at the store takes no id and touches no publisher. -/
theorem see_frame {store : Store σ} {op : Operation} {w w' : World σ π}
    {r : Except SiteStateError SiteState} (h : see store op w = (r, w')) :
    w'.supply = w.supply ∧ w'.publisher = w.publisher := by
  have hget : (callStore store.get w).2.supply = w.supply ∧
      (callStore store.get w).2.publisher = w.publisher := ⟨rfl, rfl⟩
  unfold see read at h
  split at h
  · cases h
    exact ⟨rfl, rfl⟩
  · split at h <;> (rename_i heq; rw [heq] at hget; cases h; exact hget)

/-- Nor does a commit. -/
theorem commit_frame {store : Store σ} {s : SiteState} {w w' : World σ π}
    {r : Except SiteStateError SiteState} (h : commit store s w = (r, w')) :
    w'.supply = w.supply ∧ w'.publisher = w.publisher := by
  unfold commit at h
  split at h <;> (cases h; exact ⟨rfl, rfl⟩)

end World

/-- The tracker in the middle of a plan. -/
def Plan.scene {σ π : Type} (p : Plan) (w : World σ π) : Scene (World σ π) where
  tracker := { draft := some p.next, queue := p.batch }
  world := w.withEvents p.batch

/-! ## Staging -/

namespace Tracker

variable {σ π : Type} (store : Store σ) (publish : Publisher π)

theorem siteState_eq (t : Tracker) (w : World σ π) :
    siteState (World.surroundings store publish) ⟨t, w⟩ =
      match World.read store w with
      | (.ok s, w) => .ok s ⟨t, w⟩
      | (.error e, w) => .error e ⟨t, w⟩ := by
  simp only [siteState, World.read, World.surroundings]
  rcases World.callStore store.get w with ⟨e | s, w'⟩
  · cases e <;> rfl
  · rfl

theorem loadDraft_scene (p : Plan) (w : World σ π) :
    loadDraft (World.surroundings store publish) (p.scene w) = .ok p.next (p.scene w) := rfl

theorem loadDraft_eq (w : World σ π) :
    loadDraft (World.surroundings store publish) ⟨{}, w⟩ =
      match World.read store w with
      | (.ok s, w) => .ok s (Plan.scene { next := s } w)
      | (.error e, w) => .error e ⟨{}, w⟩ := by
  have hstart : loadDraft (World.surroundings store publish) ⟨{}, w⟩ =
      (siteState (World.surroundings store publish) >>= fun s => setDraft s >>= fun _ => pure s)
        ⟨{}, w⟩ := rfl
  rw [hstart]
  simp only [bind, EStateM.bind, siteState_eq]
  rcases World.read store w with ⟨_ | s, w'⟩
  · rfl
  · simp only [setDraft, pure, EStateM.pure, Plan.scene, World.withEvents, List.map_nil,
      List.append_nil, List.length_nil, Nat.add_zero]

/-- What begins with the draft begins with a look at the store, if there is no draft. -/
theorem loadDraft_bind_eq {α : Type} (f : SiteState → Staging (World σ π) α) (w : World σ π) :
    (loadDraft (World.surroundings store publish) >>= f) ⟨{}, w⟩ =
      match World.read store w with
      | (.ok s, w) =>
        (loadDraft (World.surroundings store publish) >>= f) (Plan.scene { next := s } w)
      | (.error e, w) => .error e ⟨{}, w⟩ := by
  simp only [bind, EStateM.bind, loadDraft_eq]
  rcases World.read store w with ⟨_ | s, w'⟩ <;> rfl

theorem create_eq (event : FreshId → Event) (o : Option SiteState) (es : List Event)
    (w : World σ π) :
    let e := event (w.fresh es.length)
    create (World.surroundings store publish) event ⟨⟨o, es⟩, w.withEvents es⟩ =
      .ok (w.fresh es.length) ⟨⟨o, es ++ [e]⟩, w.withEvents (es ++ [e])⟩ := by
  simp [create, World.surroundings, World.mint, World.measure, World.withEvents, World.fresh,
    Supply.take, Nat.add_assoc]

theorem openVisitor_eq (o : Option SiteState) (p : Plan) (w : World σ π) :
    openVisitor (World.surroundings store publish) ⟨⟨o, p.batch⟩, w.withEvents p.batch⟩ =
      .ok (.ofFresh (w.fresh p.batch.length)) ((p.opening w.fresh .visitor).scene w) := by
  simp only [openVisitor, bind, EStateM.bind, create_eq]
  rfl

theorem obtainVisitor_eq (p : Plan) (w : World σ π) :
    ∃ v, obtainVisitor (World.surroundings store publish) (p.scene w) =
        .ok v ((p.obtaining w.fresh .visitor).scene w) ∧
      (p.obtaining w.fresh .visitor).next.visitor = some v := by
  cases hv : p.next.visitor with
  | some v =>
    have ho : p.obtaining w.fresh .visitor = p := Plan.obtaining_of_current hv
    refine ⟨v, ?_, by rw [ho, hv]⟩
    simp only [obtainVisitor, bind, EStateM.bind, loadDraft_scene, hv, ho]
    rfl
  | none =>
    have ho : p.obtaining w.fresh .visitor = p.opening w.fresh .visitor :=
      Plan.obtaining_of_current_eq_none hv
    refine ⟨.ofFresh (w.fresh p.batch.length), ?_, by rw [ho]; rfl⟩
    simp only [obtainVisitor, bind, EStateM.bind, loadDraft_scene, hv, ho]
    exact openVisitor_eq store publish _ p w

theorem openSession_eq {p : Plan} (hp : p.next.isConsistent) (w : World σ π) :
    ∃ r, openSession (World.surroundings store publish) (p.scene w) =
        .ok r ((p.opening w.fresh .session).scene w) ∧
      (p.opening w.fresh .session).next.session = some r := by
  obtain ⟨v, hv, hnext⟩ := obtainVisitor_eq store publish p w
  rw [Plan.opening_of_parent? hp rfl]
  -- Of the plan so far, all that matters is that it holds the visitor `v`.
  generalize p.obtaining w.fresh .visitor = q at hv hnext
  have he : q.extend w.fresh .session =
      ⟨q.batch ++ [.session (.ofFresh (w.fresh q.batch.length)) v],
        q.next.withSession (some (.ofFresh (w.fresh q.batch.length)))⟩ :=
    Plan.extend_of_under? (by rw [Event.under?, hnext]; rfl)
  refine ⟨.ofFresh (w.fresh q.batch.length), ?_, by rw [he]; rfl⟩
  simp only [openSession, bind, EStateM.bind, hv]
  simp only [Plan.scene, create_eq, he]
  rfl

theorem obtainSession_eq {p : Plan} (hp : p.next.isConsistent) (w : World σ π) :
    ∃ r, obtainSession (World.surroundings store publish) (p.scene w) =
        .ok r ((p.obtaining w.fresh .session).scene w) ∧
      (p.obtaining w.fresh .session).next.session = some r := by
  cases hr : p.next.session with
  | some r =>
    have ho : p.obtaining w.fresh .session = p := Plan.obtaining_of_current hr
    refine ⟨r, ?_, by rw [ho, hr]⟩
    simp only [obtainSession, bind, EStateM.bind, loadDraft_scene, hr, ho]
    rfl
  | none =>
    have ho : p.obtaining w.fresh .session = p.opening w.fresh .session :=
      Plan.obtaining_of_current_eq_none hr
    simp only [obtainSession, bind, EStateM.bind, loadDraft_scene, hr, ho]
    exact openSession_eq store publish hp w

theorem openArea_eq {p : Plan} (hp : p.next.isConsistent) (w : World σ π) :
    ∃ a, openArea (World.surroundings store publish) (p.scene w) =
        .ok a ((p.opening w.fresh .area).scene w) ∧
      (p.opening w.fresh .area).next.area = some a := by
  obtain ⟨r, hr, hnext⟩ := obtainSession_eq store publish hp w
  rw [Plan.opening_of_parent? hp rfl]
  generalize p.obtaining w.fresh .session = q at hr hnext
  have he : q.extend w.fresh .area =
      ⟨q.batch ++ [.area (.ofFresh (w.fresh q.batch.length)) r],
        q.next.withArea (some (.ofFresh (w.fresh q.batch.length)))⟩ :=
    Plan.extend_of_under? (by rw [Event.under?, hnext]; rfl)
  refine ⟨.ofFresh (w.fresh q.batch.length), ?_, by rw [he]; rfl⟩
  simp only [openArea, bind, EStateM.bind, hr]
  simp only [Plan.scene, create_eq, he]
  rfl

theorem obtainArea_eq {p : Plan} (hp : p.next.isConsistent) (w : World σ π) :
    ∃ a, obtainArea (World.surroundings store publish) (p.scene w) =
        .ok a ((p.obtaining w.fresh .area).scene w) ∧
      (p.obtaining w.fresh .area).next.area = some a := by
  cases ha : p.next.area with
  | some a =>
    have ho : p.obtaining w.fresh .area = p := Plan.obtaining_of_current ha
    refine ⟨a, ?_, by rw [ho, ha]⟩
    simp only [obtainArea, bind, EStateM.bind, loadDraft_scene, ha, ho]
    rfl
  | none =>
    have ho : p.obtaining w.fresh .area = p.opening w.fresh .area :=
      Plan.obtaining_of_current_eq_none ha
    simp only [obtainArea, bind, EStateM.bind, loadDraft_scene, ha, ho]
    exact openArea_eq store publish hp w

theorem click_eq {p : Plan} (hp : p.next.isConsistent) (w : World σ π) :
    click (World.surroundings store publish) (p.scene w) =
      .ok () ((p.opening w.fresh .click).scene w) := by
  obtain ⟨a, ha, hnext⟩ := obtainArea_eq store publish hp w
  rw [Plan.opening_of_parent? hp rfl]
  generalize p.obtaining w.fresh .area = q at ha hnext
  have he : q.extend w.fresh .click =
      ⟨q.batch ++ [.click (.ofFresh (w.fresh q.batch.length)) a], q.next⟩ :=
    Plan.extend_of_under? (by rw [Event.under?, hnext]; rfl)
  simp only [click, bind, EStateM.bind, ha]
  simp only [Plan.scene, create_eq, he]
  rfl

/-- An operation that is not about visitors begins with the draft. -/
theorem stage_eq_loadDraft_bind {op : Operation} (hop : op.kind.isRoot = false) :
    ∃ f, stage (World.surroundings store publish) op =
      loadDraft (World.surroundings store publish) >>= f := by
  cases op with
  | registerVisitor | deregisterVisitor => cases hop
  | deregisterSession | deregisterArea => exact ⟨_, rfl⟩
  | registerSession => exact ⟨_, by simp only [stage, openSession, obtainVisitor, bind_assoc]; rfl⟩
  | registerArea => exact ⟨_, by simp only [stage, openArea, obtainSession, bind_assoc]; rfl⟩
  | registerClick => exact ⟨_, by simp only [stage, click, obtainArea, bind_assoc]; rfl⟩

/-- Staging from a consistent draft follows the plan. -/
theorem stage_scene {op : Operation} (hop : op.kind.isRoot = false) {s : SiteState}
    (hs : s.isConsistent) (w : World σ π) :
    stage (World.surroundings store publish) op (Plan.scene { next := s } w) =
      .ok () ((op.plan w.fresh s).scene w) := by
  have hp : (Plan.mk [] s).next.isConsistent := hs
  cases op with
  | registerVisitor | deregisterVisitor => cases hop
  | deregisterSession | deregisterArea => rfl
  | registerSession =>
    obtain ⟨r, hr, -⟩ := openSession_eq store publish hp w
    simp only [stage, bind, EStateM.bind, hr]
    rfl
  | registerArea =>
    obtain ⟨a, ha, -⟩ := openArea_eq store publish hp w
    simp only [stage, bind, EStateM.bind, ha]
    rfl
  | registerClick => exact click_eq store publish hp w

/-- Staging sees the stored state and then follows the plan; it fails only if the
    state cannot be seen, and then it has created nothing. -/
theorem stage_eq (op : Operation) (w : World σ π) :
    stage (World.surroundings store publish) op ⟨{}, w⟩ =
      match World.see store op w with
      | (.ok s, w) => .ok () ((op.plan w.fresh s).scene w)
      | (.error e, w) => .error e ⟨{}, w⟩ := by
  cases hop : op.kind.isRoot with
  | true =>
    -- About visitors: no look at the store, and the plan starts from the empty state.
    rw [World.see, if_pos hop]
    cases op with
    | registerVisitor =>
      -- No draft is loaded here: the new visitor makes one.
      have h := openVisitor_eq store publish none { next := .empty } w
      rw [World.withEvents_nil] at h
      simp only [stage, bind, EStateM.bind, h]
      rfl
    | deregisterVisitor =>
      have h : stage (World.surroundings store publish) .deregisterVisitor ⟨{}, w⟩ =
          .ok () ⟨{ draft := some .empty }, w.withEvents []⟩ := by rw [World.withEvents_nil]; rfl
      rw [h]
      rfl
    | registerSession | deregisterSession | registerArea | deregisterArea | registerClick =>
      cases hop
  | false =>
    -- Any other operation loads the draft first. Once it is loaded, staging goes on as
    -- from the scene of a plan with no events yet.
    obtain ⟨f, hf⟩ := stage_eq_loadDraft_bind store publish hop
    rw [World.see, if_neg (by simp [hop]), hf, loadDraft_bind_eq]
    rcases hr : World.read store w with ⟨e | s, w'⟩
    · rfl
    · have hsee : World.see store op w = (.ok s, w') := by
        rw [World.see, if_neg (by simp [hop]), hr]
      simp only [← hf]
      exact stage_scene store publish hop (World.isConsistent_see hsee) w'

/-- The events that an operation creates, whatever becomes of them. -/
def created (env : Surroundings (World σ π)) (op : Operation) (w : World σ π) : List Event :=
  match stage env op { world := w } with
  | .ok _ s | .error _ s => s.tracker.queue

theorem created_eq (op : Operation) (w : World σ π) :
    created (World.surroundings store publish) op w =
      match World.see store op w with
      | (.ok s, w) => (op.plan w.fresh s).batch
      | (.error _, _) => [] := by
  rw [created, stage_eq]
  rcases World.see store op w with ⟨_ | s, w⟩ <;> rfl

/-! ## The whole operation -/

theorem commit_scene (p : Plan) (w : World σ π) :
    commit (World.surroundings store publish) (p.scene w) =
      match (w.withEvents p.batch).commit store p.next with
      | (result, w) => (result, ⟨⟨none, p.batch⟩, w⟩) := by
  simp only [commit, World.commit, Plan.scene, World.surroundings]

/-- An operation carries out its plan, if it can see the stored state; if not, it
    gives up with nothing created. -/
theorem operate_eq (op : Operation) (w : World σ π) :
    operate store publish op w =
      match World.see store op w with
      | (.ok s, w) => w.carryOut store publish (op.plan w.fresh s)
      | (.error e, w) => w.giveUp e 0 := by
  rw [operate, perform, prepare, stage_eq]
  rcases World.see store op w with ⟨e | s, w₁⟩
  · rfl
  · dsimp only
    generalize op.plan w₁.fresh s = p
    simp only [commit_scene, World.carryOut]
    rcases (w₁.withEvents p.batch).commit store p.next with ⟨e | _, w₂⟩
    · rfl
    · cases hb : p.batch.isEmpty <;> simp only [hb, World.handOver] <;> rfl

/-- An operation that comes to hand over a batch ends with what its publisher answers. -/
theorem operate_of_publishing {op : Operation} {w : World σ π} {batch : List Event}
    {s : Scene (World σ π)}
    (h : prepare (World.surroundings store publish) op { world := w } = (.publishing batch, s)) :
    batch.isEmpty = false ∧ (operate store publish op w).1 =
      (publish (batch.map Event.toWire) w.publisher).1.mapError
        DeliveryError.toTrackingError := by
  have hop : (operate store publish op w).1 =
      (publish (batch.map Event.toWire) s.world.publisher).1.mapError
        DeliveryError.toTrackingError := by
    rw [operate, perform, h]
    rfl
  rw [hop]
  rw [prepare, stage_eq] at h
  rcases hsee : World.see store op w with ⟨e | r, w₁⟩
  · rw [hsee] at h
    cases h
  · rw [hsee] at h
    dsimp only at h
    generalize op.plan w₁.fresh r = p at h
    rw [commit_scene] at h
    rcases hcommit : (w₁.withEvents p.batch).commit store p.next with ⟨e | c, w₂⟩ <;>
      rw [hcommit] at h
    · cases h
    · cases hbatch : p.batch.isEmpty <;> simp only [hbatch] at h <;> cases h
      -- Neither the look nor the commit has touched the publisher.
      have hpublisher : w₂.publisher = w.publisher :=
        (World.commit_frame hcommit).2.trans (World.see_frame hsee).2
      exact ⟨hbatch, by rw [← hpublisher]⟩

/-- What an operation does to the store is its look and its commit. -/
theorem operate_store (op : Operation) (w : World σ π) :
    (operate store publish op w).2.store =
      match World.see store op w with
      | (.ok s, w) =>
        ((w.withEvents (op.plan w.fresh s).batch).commit store (op.plan w.fresh s).next).2.store
      | (.error _, w) => w.store := by
  rw [operate_eq]
  rcases World.see store op w with ⟨_ | s, w⟩
  · rfl
  · simp only [World.carryOut]
    generalize op.plan w.fresh s = p
    rcases (w.withEvents p.batch).commit store p.next with ⟨_ | _, w₂⟩
    · rfl
    · simp only [World.handOver]
      split <;> rfl

end Tracker

end Clickstream
