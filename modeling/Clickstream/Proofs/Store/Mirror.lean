import Clickstream.Proofs.Store.Soundness

/-!
# Two stores that cannot be told apart

A plain store is what trackers are tested with, in the place of a split one. The two hold a
state in different ways and show it differently: without a visitor the split store shows that
nothing is there, also where a session is, and the plain one shows all that it holds. A tracker
that asks them cannot tell which of the two it has, as it sees of both what has its ancestors
there (`SplitStore.Mirrors`).

In general, two stores cannot be told apart if a tracker sees the same in both and commits to
both with the same outcome (`Store.Simulates`).

* `Tracker.answers_eq`: stores that simulate each other give a tracker the same answers to
  operations and to looks at the site state, in whatever order they come;
* `SplitStore.simulates`: a split store on sound storages and a plain one without faults are
  two such stores;
* `SplitStore.answers_eq_plain`: hence the answers are the same.
-/

namespace Clickstream

variable {σ σ' π : Type}

/-! ## Stores that answer alike -/

/-- Whether two outcomes are the same as far as callers can see, and lead to related states. -/
structure Outcome.Matches {ε α : Type} (R : σ → σ' → Prop) (o : Outcome ε α σ)
    (o' : Outcome ε α σ') : Prop where
  result : o'.result = o.result
  log : o'.log = o.log
  state : R o.state o'.state

/-- Whether in related states of two stores a tracker sees the same and commits with the same
    outcome, and the states stay related. -/
structure Store.Simulates (R : σ → σ' → Prop) (store : Store σ) (store' : Store σ') : Prop where
  view : ∀ x y, R x y → (store.view x).Matches R (store'.view y)
  commit : ∀ x y, R x y → ∀ next, (store.commit next x).Matches R (store'.commit next y)

section Simulates

variable {R : σ → σ' → Prop} {store : Store σ} {store' : Store σ'}

theorem Store.Simulates.look (h : store.Simulates R store') {x : σ} {y : σ'} (hxy : R x y)
    (op : Operation) : (store.look op x).Matches R (store'.look op y) := by
  unfold Store.look
  split
  · exact ⟨rfl, rfl, hxy⟩
  · exact h.view x y hxy

namespace World

/-- Whether two worlds are the same but for their stores, which are in related states. -/
structure Matches (R : σ → σ' → Prop) (w : World σ π) (w' : World σ' π) : Prop where
  store : R w.store w'.store
  publisher : w'.publisher = w.publisher
  supply : w'.supply = w.supply
  log : w'.log = w.log

namespace Matches

variable {w : World σ π} {w' : World σ' π} (h : w.Matches R w')

include h

theorem callStore {call : σ → Outcome SiteStateError SiteState σ}
    {call' : σ' → Outcome SiteStateError SiteState σ'}
    (hcall : (call w.store).Matches R (call' w'.store)) :
    (callStore call' w').1 = (callStore call w).1 ∧
      (callStore call w).2.Matches R (callStore call' w').2 :=
  ⟨hcall.result, hcall.state, h.publisher, h.supply, congrArg₂ (· ++ ·) h.log hcall.log⟩

theorem fresh_eq : w'.fresh = w.fresh := by
  funext i
  rw [fresh, fresh, h.supply]

theorem measure (m : Measurement) : (w.measure m).Matches R (w'.measure m) :=
  ⟨h.store, h.publisher, h.supply, congrArg (· ++ [m]) h.log⟩

theorem withEvents (es : List Event) : (w.withEvents es).Matches R (w'.withEvents es) where
  store := h.store
  publisher := h.publisher
  supply := by simp only [World.withEvents, h.supply]
  log := by simp only [World.withEvents, h.log]

theorem giveUp (e : SiteStateError) (n : Nat) :
    (w'.giveUp e n).1 = (w.giveUp e n).1 ∧ (w.giveUp e n).2.Matches R (w'.giveUp e n).2 :=
  ⟨rfl, (h.measure _).measure _⟩

theorem handOver (publish : Publisher π) (batch : List Event) :
    (w'.handOver publish batch).1 = (w.handOver publish batch).1 ∧
      (w.handOver publish batch).2.Matches R (w'.handOver publish batch).2 := by
  unfold World.handOver
  split
  · exact ⟨rfl, h.measure _⟩
  · -- The publishers are in the same state, so they give the same answer.
    simp only [callPublisher, h.publisher]
    refine ⟨rfl, measure ?_ _⟩
    exact ⟨h.store, rfl, h.supply, h.log⟩

theorem carryOut (hstore : store.Simulates R store') (publish : Publisher π) (p : Plan) :
    (w'.carryOut store' publish p).1 = (w.carryOut store publish p).1 ∧
      (w.carryOut store publish p).2.Matches R (w'.carryOut store' publish p).2 := by
  have hevents := h.withEvents p.batch
  obtain ⟨hresult, hworld⟩ := hevents.callStore (hstore.commit _ _ hevents.store p.next)
  unfold World.carryOut
  rw [commit_eq, commit_eq]
  generalize World.callStore (store.commit p.next) (w.withEvents p.batch) = o at hresult hworld
  generalize World.callStore (store'.commit p.next) (w'.withEvents p.batch) = o' at hresult hworld
  obtain ⟨result, v⟩ := o
  obtain ⟨_, v'⟩ := o'
  cases hresult
  cases result with
  | error e => exact hworld.giveUp e _
  | ok c => exact hworld.handOver publish p.batch

theorem operate (hstore : store.Simulates R store') (publish : Publisher π) (op : Operation) :
    (Tracker.operate store' publish op w').1 = (Tracker.operate store publish op w).1 ∧
      (Tracker.operate store publish op w).2.Matches R
        (Tracker.operate store' publish op w').2 := by
  obtain ⟨hresult, hworld⟩ := h.callStore (hstore.look h.store op)
  rw [Tracker.operate_eq, Tracker.operate_eq, see_eq, see_eq]
  generalize World.callStore (store.look op) w = o at hresult hworld
  generalize World.callStore (store'.look op) w' = o' at hresult hworld
  obtain ⟨result, v⟩ := o
  obtain ⟨_, v'⟩ := o'
  cases hresult
  cases result with
  | error e => exact hworld.giveUp e 0
  | ok s =>
    dsimp only
    rw [hworld.fresh_eq]
    exact hworld.carryOut hstore publish _

end Matches

end World

namespace Tracker

/-! ## Answers -/

/-- What can be asked of a tracker: an operation, or the site state. -/
inductive Request
  | operate (op : Operation)
  | state

/-- What it answers. -/
inductive Answer
  | turn (t : Turn)
  | state (result : Except SiteStateError SiteState)

/-- The answer of a tracker to a request, and the scene after it. -/
def answer (store : Store σ) (publish : Publisher π) (s : Scene (RecordedWorld σ π)) :
    Request → Answer × Scene (RecordedWorld σ π)
  | .operate op =>
    let (result, s') := perform (World.surroundings store publish.recorded) op s
    (.turn (.between result s.world s'.world), s')
  | .state =>
    match siteState (World.surroundings store publish.recorded) s with
    | .ok state s => (.state (.ok state), s)
    | .error e s => (.state (.error e), s)

/-- The answers of a tracker to requests one after the other. -/
def answers (store : Store σ) (publish : Publisher π) :
    List Request → Scene (RecordedWorld σ π) → List Answer
  | [], _ => []
  | r :: rs, s =>
    let (a, s) := answer store publish s r
    a :: answers store publish rs s

/-- What can be seen of an operation does not depend on the store. -/
theorem Turn.between_of_matches {w v : RecordedWorld σ π} {w' v' : RecordedWorld σ' π}
    (hw : w.Matches R w') (hv : v.Matches R v') (result : TrackingResult) :
    between result w' v' = between result w v := by
  simp only [between, hw.fresh_eq, hw.publisher, hw.supply, hw.log, hv.publisher, hv.supply, hv.log]

/-- The answer to a request is the same, and so are the worlds after it. -/
theorem answer_matches (hstore : store.Simulates R store') (publish : Publisher π)
    {w : RecordedWorld σ π} {w' : RecordedWorld σ' π} (h : w.Matches R w') (r : Request) :
    ∃ a v v', answer store publish { world := w } r = (a, { world := v }) ∧
      answer store' publish { world := w' } r = (a, { world := v' }) ∧ v.Matches R v' := by
  cases r with
  | operate op =>
    obtain ⟨hresult, hworld⟩ := h.operate hstore publish.recorded op
    simp only [answer, perform_eq, hresult]
    rw [Turn.between_of_matches h hworld]
    exact ⟨_, _, _, rfl, rfl, hworld⟩
  | state =>
    obtain ⟨hresult, hworld⟩ := h.callStore (hstore.view _ _ h.store)
    simp only [answer, siteState_eq, World.read_eq]
    generalize World.callStore store.view w = o at hresult hworld
    generalize World.callStore store'.view w' = o' at hresult hworld
    obtain ⟨result, v⟩ := o
    obtain ⟨_, v'⟩ := o'
    cases hresult
    cases result with
    | error e => exact ⟨_, _, _, rfl, rfl, hworld⟩
    | ok s => exact ⟨_, _, _, rfl, rfl, hworld⟩

/-- A tracker gives the same answers with either of two stores that simulate each other. -/
theorem answers_eq (hstore : store.Simulates R store') (publish : Publisher π)
    (rs : List Request) {w : RecordedWorld σ π} {w' : RecordedWorld σ' π} (h : w.Matches R w') :
    answers store' publish rs { world := w' } = answers store publish rs { world := w } := by
  induction rs generalizing w w' with
  | nil => rfl
  | cons r rs ih =>
    obtain ⟨a, v, v', hanswer, hanswer', hv⟩ := answer_matches hstore publish h r
    simp only [answers, hanswer, hanswer', ih hv]

end Tracker

end Simulates

/-! ## The two stores -/

namespace PlainStore

variable {x : PlainStore}

theorem faults_of_heal (h : x.heal = x) :
    x.getFault = none ∧ x.setFault = none ∧ x.clearFault = none :=
  ⟨(congrArg getFault h).symm, (congrArg setFault h).symm, (congrArg clearFault h).symm⟩

/-- A plain store without faults shows what it holds, as far as that has ancestors. -/
theorem view_of_heal (h : x.heal = x) :
    ∃ x', store.view x = { result := .ok x.state.normalized, state := x' } ∧ x'.heal = x' ∧
      x'.state = x.state := by
  obtain ⟨hget, hset, hclear⟩ := faults_of_heal h
  refine ⟨{ x with gets := x.gets + 1 }, ?_, by simp [heal, hget, hset, hclear], rfl⟩
  simp only [Store.view, store, get, hget]
  cases hempty : x.state.isEmpty with
  | true => simp [SiteState.eq_empty_of_isEmpty hempty, SiteState.empty, SiteState.normalized]
  | false => simp

/-- It keeps every state that is committed. -/
theorem commit_of_heal (h : x.heal = x) (next : SiteState) :
    ∃ x', store.commit next x = { result := .ok next, state := x' } ∧ x'.heal = x' ∧
      x'.state = next := by
  obtain ⟨hget, hset, hclear⟩ := faults_of_heal h
  unfold Store.commit
  split
  · rename_i hempty
    rw [SiteState.eq_empty_of_isEmpty hempty]
    exact ⟨{ x with clears := x.clears + 1, state := .empty }, by simp [store, clear, hclear],
      by simp [heal, hget, hset, hclear], rfl⟩
  · exact ⟨{ x with sets := x.sets + 1, state := next }, by simp [store, set, hset],
      by simp [heal, hget, hset, hclear], rfl⟩

end PlainStore

namespace SplitStore

/-- Whether a split store on sound storages, with nothing malformed in it, and a plain store
    without faults hold the same, as far as that has ancestors. -/
structure Mirrors (x : SplitStore × Shelf) (p : PlainStore) : Prop where
  keys_ne : x.1.visitorKey ≠ x.1.sessionKey
  isSound : x.2.IsSound
  isWellFormed : (slots x).IsWellFormed
  heal : p.heal = p
  state : p.state.normalized = (contents x).normalized

/-- What has no ancestors in the one or the other store is not seen, and goes with the next
    commit. -/
theorem simulates : store.Simulates Mirrors PlainStore.store where
  view x p h := by
    obtain ⟨p', hview, hheal, hstate⟩ := PlainStore.view_of_heal h.heal
    rw [view_of_isSound h.isSound h.isWellFormed, hview]
    exact ⟨congrArg Except.ok h.state, rfl, h.keys_ne, h.isSound, h.isWellFormed, hheal,
      (congrArg _ hstate).trans h.state⟩
  commit x p h next := by
    obtain ⟨shelf, hcommit, hsound, hslots⟩ := commit_of_isSound h.keys_ne h.isSound next
    obtain ⟨p', hcommit', hheal, hstate⟩ := PlainStore.commit_of_heal h.heal next
    rw [hcommit, hcommit']
    refine ⟨rfl, rfl, h.keys_ne, hsound, ?_, hheal, ?_⟩
    · rw [hslots]
      exact Slots.isWellFormed_ofState next
    · rw [hstate, contents, hslots, Slots.state_ofState]

end SplitStore

/-- A tracker on a split store, with storages that do not fail, and one on a plain store without
    faults give the same answers, whatever they are asked, if the two stores hold the same at
    the start, as far as that has ancestors, and nothing in the split store is malformed. -/
theorem SplitStore.answers_eq_plain {apiKey : String} {x : SplitStore × Shelf} {p : PlainStore}
    (hfor : x.1.IsFor apiKey) (hsound : x.2.IsSound) (hwell : (slots x).IsWellFormed)
    (hheal : p.heal = p) (hstate : p.state.normalized = (contents x).normalized)
    (publish : Publisher π) (publisher : π) (supply : Supply) (rs : List Tracker.Request) :
    Tracker.answers SplitStore.store publish rs
        { world := { store := x, publisher := (publisher, []), supply } } =
      Tracker.answers PlainStore.store publish rs
        { world := { store := p, publisher := (publisher, []), supply } } :=
  (Tracker.answers_eq simulates publish rs
    ⟨⟨hfor.keys_ne, hsound, hwell, hheal, hstate⟩, rfl, rfl, rfl⟩).symm

/-- Neither store has a visitor: the split one holds a session and an area, the plain one
    another area. -/
theorem SplitStore.answers_eq_plain_orphans :
    let id (n : Nat) : FreshId := ⟨Id.v7 n 0, Id.version_v7 n 0⟩
    let x : SplitStore × Shelf := ({
      visitorKey := keyFor "VISITOR" "key"
      sessionKey := keyFor "SESSION" "key"
      area := some (.ofFresh (id 2)) }, {
      transient.medium := .memory (.ofList [(keyFor "SESSION" "key",
        spell (Reference.ofFresh (k := .session) (id 1)))]) })
    let p : PlainStore := { state := { area := some (.ofFresh (id 3)) } }
    let publish : Publisher Unit := fun batch u => (.ok batch.length, u)
    let supply : Supply := { ids := fun n => id (10 + n) }
    let rs : List Tracker.Request :=
      [.state, .operate .deregisterArea, .operate .registerClick, .operate .deregisterSession,
        .state]
    let answers := Tracker.answers SplitStore.store publish rs
      { world := { store := x, publisher := ((), []), supply } }
    answers.map (fun | .turn t => t.handed.map (·.map (·.kind)) | .state _ => []) =
        [[], [], [[.visitor, .session, .area, .click]], [], []] ∧
      answers.filterMap (fun | .turn _ => none | .state r => some r) =
        [.ok {}, .ok { visitor := some (.ofFresh (id 10)) }] ∧
      answers = Tracker.answers PlainStore.store publish rs
        { world := { store := p, publisher := ((), []), supply } } := by
  intro id x p publish supply rs answers
  have hfor : x.1.IsFor "key" := ⟨rfl, rfl⟩
  have hsound : x.2.IsSound := ⟨⟨fun _ => rfl, trivial⟩, ⟨fun _ => rfl, trivial⟩⟩
  have hwell : (slots x).IsWellFormed := ⟨⟨none, rfl⟩, ⟨some _, readText_spell (some _)⟩⟩
  exact ⟨by decide +kernel, by decide +kernel,
    answers_eq_plain hfor hsound hwell rfl (by decide +kernel) publish () supply rs⟩

end Clickstream
