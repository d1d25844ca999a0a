import Clickstream.Proofs.Reference.Admission
import Clickstream.Proofs.Store.Isolation
import Clickstream.Proofs.Store.ReadBack
import Clickstream.Proofs.Tracker.Simulation

/-!
# Malformed states

Anybody may write under the keys of a store, so a tracker may find something there that is no
reference. Then it must not go on as if nothing were stored, for the next commit would replace
what it could not read. It gives up before it has created anything, and does so as often as it is
asked, because a look changes nothing. But it can be helped: an operation about visitors replaces
the whole state, and so does not look at all, and a commit writes over texts without reading them.

An operation *works* (`SplitStore.Works`) if it commits what it plans, and ends with the answer to
its batch. On storages that do not fail, only a malformed state keeps an operation from working,
and only one that looks.

* `SplitStore.operateAll_of_malformed`: how operations that look end on a malformed state;
* `SplitStore.works_of_isSound`: all others work;
* `SplitStore.worksOn_of_isReadable`: and so do all operations after one that has worked;
* `SplitStore.isContained`: hence a malformed state is contained, can be cured, and leaves no
  trace.
-/

namespace Clickstream

/-! ## Operations about visitors -/

/-- An operation about visitors has the same plan whatever it sees, and at most one id in it. -/
theorem Operation.plan_of_isRoot {op : Operation} (h : op.kind.isRoot) {ids ids' : Nat → FreshId}
    (hid : ids' 0 = ids 0) (s : SiteState) : op.plan ids' s = op.plan ids s := by
  cases op with
  | registerVisitor =>
    have hplan (ids : Nat → FreshId) : registerVisitor.plan ids s =
        ⟨[.visitor (.ofFresh (ids 0))], { visitor := some (.ofFresh (ids 0)) }⟩ := rfl
    rw [hplan, hplan, hid]
  | deregisterVisitor => rfl
  | registerSession | deregisterSession | registerArea | deregisterArea | registerClick => cases h

namespace SplitStore

variable {π : Type}

/-! ## What is seen -/

/-- Nothing but a malformed text keeps some slots from being read as the state in them, or as an
    absent one. -/
theorem Slots.read_cases (t : Slots) : (∃ d, t.read = .error (.malformed d)) ∨
    t.read = if t.state.visitor.isSome then .ok t.state.normalized else .error .absent := by
  have hmalformed {k : Kind} {o : Option String} {e : SiteStateError}
      (h : readText k o = .error e) : ∃ d, e = .malformed d := by
    obtain ⟨-, -, e', -, rfl⟩ := readText_eq_error_iff.1 h
    exact ⟨e'.message, rfl⟩
  cases hv : readText .visitor t.visitor with
  | error e =>
    obtain ⟨d, rfl⟩ := hmalformed hv
    exact .inl ⟨d, by rw [read, hv]⟩
  | ok v =>
    cases hr : readText .session t.session with
    | ok r =>
      have hvisitor : t.state.visitor = v := by
        rw [state, hv]
        rfl
      rw [hvisitor]
      exact .inr (read_of_readText hv hr)
    | error e =>
      obtain ⟨d, rfl⟩ := hmalformed hr
      -- A session that is malformed is not looked at where there is no visitor.
      cases v with
      | none =>
        have hvisitor : t.state.visitor = none := by
          rw [state, hv]
          rfl
        rw [hvisitor]
        exact .inr (by rw [read, hv]; rfl)
      | some v => exact .inl ⟨d, by rw [read, hv, hr]⟩

section Look

variable {x : SplitStore × Shelf} {op : Operation}

/-- On sound storages an operation sees the contents of its store, unless it looks and they are
    malformed, and in no case is anything measured. -/
theorem look_of_isSound (h : x.2.IsSound)
    (hseen : op.kind.isRoot ∨ ∀ d, (get x).result ≠ .error (.malformed d)) :
    store.look op x = { result := .ok (op.seen (contents x)), state := x } := by
  unfold Store.look Operation.seen
  split
  · rfl
  · rename_i hroot
    simp only [Store.view, store]
    have hget := get_eq_of_isSound h
    rw [hget] at hseen
    rcases (slots x).read_cases with ⟨d, hd⟩ | hread
    · exact absurd hd (hseen.resolve_left hroot d)
    · rw [hget, hread, contents]
      cases hv : (slots x).state.visitor with
      | some v => simp
      | none => simp [SiteState.normalized, hv, SiteState.empty]

/-- One that looks sees a malformed state as what it is. -/
theorem look_of_malformed {d : String} (h : x.2.IsSound)
    (hget : (get x).result = .error (.malformed d)) (hop : op.kind.isRoot = false) :
    store.look op x = { result := .error (.malformed d), state := x } := by
  rw [get_eq_of_isSound h] at hget
  simp only at hget
  simp only [Store.look, hop, Bool.false_eq_true, if_false, Store.view, store,
    get_eq_of_isSound h, hget]

end Look

/-! ## What is malformed is contained -/

/-- An operation that cannot look does nothing but say so. -/
theorem operate_of_malformed {x : SplitStore × Shelf} {d : String} (h : x.2.IsSound)
    (hget : (get x).result = .error (.malformed d)) {op : Operation}
    (hop : op.kind.isRoot = false) (publish : Publisher π) {w : World (SplitStore × Shelf) π}
    (hw : w.store = x) :
    ∃ log, Tracker.operate store publish op w =
      (.error (.internal (SiteStateError.malformed d).message),
        { w with log := w.log ++ log }) := by
  subst hw
  rw [Tracker.operate_eq, World.see_eq]
  simp only [World.callStore, look_of_malformed h hget hop, List.append_nil, World.giveUp,
    World.finish, World.measure, List.append_assoc]
  exact ⟨_, rfl⟩

/-- So do any number of them. -/
theorem operateAll_of_malformed {x : SplitStore × Shelf} {d : String} (h : x.2.IsSound)
    (hget : (get x).result = .error (.malformed d)) (publish : Publisher π) {ops : List Operation}
    (hops : ∀ op ∈ ops, op.kind.isRoot = false) {w : World (SplitStore × Shelf) π}
    (hw : w.store = x) :
    ∃ log, Tracker.operateAll store publish ops w =
      (ops.map fun _ => .error (.internal (SiteStateError.malformed d).message),
        { w with log := w.log ++ log }) := by
  induction ops generalizing w with
  | nil => exact ⟨[], by rw [List.append_nil]; rfl⟩
  | cons op ops ih =>
    obtain ⟨log, hop⟩ := operate_of_malformed h hget (hops op List.mem_cons_self) publish hw
    obtain ⟨log', hrest⟩ := ih (fun op' hmem => hops op' (List.mem_cons_of_mem op hmem))
      (w := { w with log := w.log ++ log }) hw
    refine ⟨log ++ log', ?_⟩
    simp only [Tracker.operateAll, hop, hrest, List.map_cons, List.append_assoc]

/-! ## What works -/

/-- What an operation plans after it has seen the contents of its store. -/
def planned (op : Operation) (w : World (SplitStore × Shelf) π) : Plan :=
  op.plan w.fresh (op.seen (contents w.store))

/-- Whether an operation works: it commits the state that it plans, and ends with the answer to
    its batch, if there is anything in it. -/
structure Works (publish : Publisher π) (op : Operation)
    (w : RecordedWorld (SplitStore × Shelf) π) : Prop where
  result : (Tracker.operate store publish.recorded op w).1 =
    if (planned op w).batch.isEmpty then .ok 0
    else (publish ((planned op w).batch.map Event.toWire) w.publisher.1).1.mapError
      DeliveryError.toTrackingError
  publisher : (Tracker.operate store publish.recorded op w).2.publisher =
    if (planned op w).batch.isEmpty then w.publisher
    else (publish.recorded ((planned op w).batch.map Event.toWire) w.publisher).2
  supply : (Tracker.operate store publish.recorded op w).2.supply =
    { w.supply with taken := w.supply.taken + (planned op w).batch.length }
  written : slots (Tracker.operate store publish.recorded op w).2.store =
    .ofState (planned op w).next
  same : (Tracker.operate store publish.recorded op w).2.store.1 =
    { w.store.1 with area := (planned op w).next.area }
  isSound : (Tracker.operate store publish.recorded op w).2.store.2.IsSound

variable {w : RecordedWorld (SplitStore × Shelf) π} {op : Operation}

theorem works_of_isSound (hkeys : w.store.1.visitorKey ≠ w.store.1.sessionKey)
    (h : w.store.2.IsSound)
    (hseen : op.kind.isRoot ∨ ∀ d, (get w.store).result ≠ .error (.malformed d))
    (publish : Publisher π) : Works publish op w := by
  obtain ⟨shelf, hstore, hsound, hslots⟩ := commit_of_isSound hkeys h (planned op w).next
  have hsee : World.see store op w = (.ok (op.seen (contents w.store)), w) := by
    rw [World.see_eq, World.callStore, look_of_isSound h hseen, List.append_nil]
  have hcommit : (w.withEvents (planned op w).batch).commit store (planned op w).next =
      (.ok (planned op w).next, { w.withEvents (planned op w).batch with
        store := ({ w.store.1 with area := (planned op w).next.area }, shelf) }) := by
    have hstore' : store.commit (planned op w).next (w.withEvents (planned op w).batch).store = _ :=
      hstore
    rw [World.commit_eq, World.callStore, hstore', List.append_nil]
  have hoperate : Tracker.operate store publish.recorded op w =
      World.handOver publish.recorded (planned op w).batch
        { w.withEvents (planned op w).batch with
          store := ({ w.store.1 with area := (planned op w).next.area }, shelf) } := by
    rw [Tracker.operate_eq, hsee]
    show World.carryOut store publish.recorded (planned op w) w = _
    rw [World.carryOut, hcommit]
  -- Handing over touches neither the store nor the supply, so this depends on the batch alone.
  constructor <;> rw [hoperate, World.handOver]
  case written => split <;> exact hslots
  case isSound => split <;> exact hsound
  all_goals split <;> rfl

/-! ## After an operation that has worked -/

/-- Whether a store is on sound storages, and the state in it is not malformed. -/
structure IsReadable (x : SplitStore × Shelf) : Prop where
  keys_ne : x.1.visitorKey ≠ x.1.sessionKey
  isSound : x.2.IsSound
  get_ne : ∀ d, (get x).result ≠ .error (.malformed d)

theorem isReadable_of_slots_eq {x : SplitStore × Shelf} {s : SiteState}
    (hkeys : x.1.visitorKey ≠ x.1.sessionKey) (h : x.2.IsSound) (hslots : slots x = .ofState s) :
    IsReadable x where
  keys_ne := hkeys
  isSound := h
  get_ne d hd := by
    rcases get_of_holds (holds_of_slots_eq hkeys hslots) with hget | ⟨d', hget⟩ <;>
      rw [hd] at hget
    · split at hget <;> cases hget
    · cases hget

theorem Works.isReadable {publish : Publisher π} (h : Works publish op w)
    (hkeys : w.store.1.visitorKey ≠ w.store.1.sessionKey) :
    IsReadable (Tracker.operate store publish.recorded op w).2.store :=
  isReadable_of_slots_eq (by rw [h.same]; exact hkeys) h.isSound h.written

/-- Whether every operation works, after any number of others. -/
def WorksOn (publish : Publisher π) (w : RecordedWorld (SplitStore × Shelf) π) : Prop :=
  ∀ (ops : List Operation) (op : Operation),
    Works publish op (Tracker.operateAll store publish.recorded ops w).2

/-- What is readable stays so, for the next operation writes all of it. -/
theorem worksOn_of_isReadable (h : IsReadable w.store) (publish : Publisher π) :
    WorksOn publish w := by
  intro ops
  induction ops generalizing w with
  | nil => exact fun op => works_of_isSound h.keys_ne h.isSound (.inr h.get_ne) publish
  | cons op ops ih =>
    have hworks : Works publish op w :=
      works_of_isSound h.keys_ne h.isSound (.inr h.get_ne) publish
    exact ih (hworks.isReadable h.keys_ne)

theorem planned_of_isRoot (h : op.kind.isRoot) {π' : Type}
    {w' : World (SplitStore × Shelf) π'} (hid : w'.fresh 0 = w.fresh 0) :
    planned op w' = planned op w := by
  simp only [planned, Operation.seen, if_pos h]
  exact Operation.plan_of_isRoot h hid _

/-- What comes of a state that may be malformed. -/
structure IsContained (publish : Publisher π) (w : RecordedWorld (SplitStore × Shelf) π) :
    Prop where
  /-- While it is malformed, no operation about sessions, areas and clicks does anything but say
      so, however many there are. -/
  contained : ∀ d, (get w.store).result = .error (.malformed d) → ∀ ops : List Operation,
    (∀ op ∈ ops, op.kind.isRoot = false) →
    let r := Tracker.operateAll store publish.recorded ops w
    r.1 = ops.map (fun _ => .error (.internal (SiteStateError.malformed d).message)) ∧
      r.2.store = w.store ∧ r.2.publisher = w.publisher ∧ r.2.supply = w.supply
  /-- A new visitor is committed whatever is stored, and then the store holds it alone. -/
  registered :
    let v := Reference.ofFresh (w.fresh 0)
    let r := Tracker.operate store publish.recorded .registerVisitor w
    r.1 = (publish [(Event.visitor v).toWire] w.publisher.1).1.mapError
        DeliveryError.toTrackingError ∧
      r.2.publisher = (publish.recorded [(Event.visitor v).toWire] w.publisher).2 ∧
      slots r.2.store = .ofState { visitor := some v } ∧
      (get r.2.store).result = .ok { visitor := some v } ∧ WorksOn publish r.2
  /-- So is it if there is to be none. -/
  deregistered :
    let r := Tracker.operate store publish.recorded .deregisterVisitor w
    r.1 = .ok 0 ∧ r.2.publisher = w.publisher ∧ slots r.2.store = .ofState .empty ∧
      (get r.2.store).result = .error .absent ∧ WorksOn publish r.2
  /-- Without a visitor, what is stored of a session is never looked at. -/
  unseen : visitorText w.store = .ok none → (get w.store).result = .error .absent ∧
    (∀ op : Operation, op.seen (contents w.store) = .empty) ∧ WorksOn publish w

theorem seen_of_visitorText (h : visitorText w.store = .ok none) (op : Operation) :
    op.seen (contents w.store) = .empty := by
  have hvisitor : (contents w.store).visitor = none := by
    have hslot : (slots w.store).visitor = none := Backend.found_of_getItem h
    rw [contents, Slots.state, hslot]
    rfl
  rw [Operation.seen]
  split
  · rfl
  · simp [SiteState.normalized, hvisitor, SiteState.empty]

theorem isContained_of_isSound (hkeys : w.store.1.visitorKey ≠ w.store.1.sessionKey)
    (h : w.store.2.IsSound) (publish : Publisher π) : IsContained publish w where
  contained d hd ops hops := by
    obtain ⟨log, hrun⟩ := operateAll_of_malformed h hd publish.recorded hops rfl
    intro r
    have hr : r = _ := hrun
    rw [hr]
    exact ⟨rfl, rfl, rfl, rfl⟩
  registered := by
    have hworks : Works publish .registerVisitor w := works_of_isSound hkeys h (.inl rfl) publish
    exact ⟨hworks.result, hworks.publisher, hworks.written,
      get_of_slots_eq hworks.isSound hworks.written,
      worksOn_of_isReadable (hworks.isReadable hkeys) publish⟩
  deregistered := by
    have hworks : Works publish .deregisterVisitor w := works_of_isSound hkeys h (.inl rfl) publish
    exact ⟨hworks.result, hworks.publisher, hworks.written,
      get_of_slots_eq hworks.isSound hworks.written,
      worksOn_of_isReadable (hworks.isReadable hkeys) publish⟩
  unseen hvisitor := by
    have hget : (get w.store).result = .error .absent := by rw [get_result, hvisitor]; rfl
    have hne (d : String) : (get w.store).result ≠ .error (.malformed d) := by
      rw [hget]
      exact nofun
    exact ⟨hget, seen_of_visitorText hvisitor, worksOn_of_isReadable ⟨hkeys, h, hne⟩ publish⟩

/-- Operations about visitors that get the same id and the same answers end alike, whatever was
    stored before them. -/
theorem ends_alike {π' : Type} {publish : Publisher π} {publish' : Publisher π'}
    {w' : RecordedWorld (SplitStore × Shelf) π'} (hop : op.kind.isRoot)
    (hworks : Works publish op w) (hworks' : Works publish' op w') (hid : w'.fresh 0 = w.fresh 0)
    (hanswer : ∀ batch, (publish' batch w'.publisher.1).1 = (publish batch w.publisher.1).1) :
    let r := Tracker.operate store publish.recorded op w
    let r' := Tracker.operate store publish'.recorded op w'
    r'.1 = r.1 ∧ slots r'.2.store = slots r.2.store ∧ ∃ batches,
      r.2.publisher.2 = w.publisher.2 ++ batches ∧
        r'.2.publisher.2 = w'.publisher.2 ++ batches := by
  have hplan := planned_of_isRoot hop hid
  refine ⟨?_, ?_, if (planned op w).batch.isEmpty then []
    else [(planned op w).batch.map Event.toWire], ?_, ?_⟩
  · rw [hworks.result, hworks'.result, hplan, hanswer]
  · rw [hworks.written, hworks'.written, hplan]
  · rw [hworks.publisher]
    split <;> simp [Publisher.recorded]
  · rw [hworks'.publisher, hplan]
    split <;> simp [Publisher.recorded]

/-- On storages that do not fail, whatever is stored under the keys of a store: while the state is
    malformed, every operation that looks at it fails and changes nothing; an operation about
    visitors puts a new state in its place, and then every operation works; what is stored of a
    session is not looked at without a visitor; and two runs of an operation about visitors that
    get the same id and the same answer end alike, whatever was stored before either of them. -/
theorem isContained {apiKey : String} (hfor : w.store.1.IsFor apiKey) (h : w.store.2.IsSound)
    (publish : Publisher π) :
    IsContained publish w ∧
      ∀ (π' : Type) (publish' : Publisher π') (w' : RecordedWorld (SplitStore × Shelf) π')
        (op : Operation), w'.store.1.IsFor apiKey → w'.store.2.IsSound → op.kind.isRoot →
        w'.fresh 0 = w.fresh 0 →
        (∀ batch, (publish' batch w'.publisher.1).1 = (publish batch w.publisher.1).1) →
        let r := Tracker.operate store publish.recorded op w
        let r' := Tracker.operate store publish'.recorded op w'
        r'.1 = r.1 ∧ slots r'.2.store = slots r.2.store ∧ ∃ batches,
          r.2.publisher.2 = w.publisher.2 ++ batches ∧
            r'.2.publisher.2 = w'.publisher.2 ++ batches := by
  refine ⟨isContained_of_isSound hfor.keys_ne h publish, ?_⟩
  intro π' publish' w' op hfor' h' hop hid hanswer
  exact ends_alike hop (works_of_isSound hfor.keys_ne h (.inl hop) publish)
    (works_of_isSound hfor'.keys_ne h' (.inl hop) publish') hid hanswer

/-- Neither text of the one store is a reference; the other holds nothing. The publisher is
    down. -/
theorem isContained_junk :
    let id (n : Nat) : FreshId := ⟨Id.v7 n 0, Id.version_v7 n 0⟩
    let st : SplitStore := {
      visitorKey := keyFor "VISITOR" "key"
      sessionKey := keyFor "SESSION" "key" }
    let w : RecordedWorld (SplitStore × Shelf) Unit := {
      store := ({ st with area := some (.ofFresh (id 1)) }, {
        durable.medium := .memory (.ofList [(keyFor "VISITOR" "key", "junk")])
        transient.medium := .memory (.ofList [(keyFor "SESSION" "key", "")]) })
      publisher := ((), [])
      supply := { ids := fun n => id (10 + n) } }
    let w' : RecordedWorld (SplitStore × Shelf) Unit := { w with store := (st, {}) }
    let publish : Publisher Unit := fun _ u => (.error ⟨.server, "down"⟩, u)
    let failed : TrackingResult :=
      .error (.internal "Malformed site state: Invalid reference id 'junk'")
    let r := Tracker.operate store publish.recorded .registerVisitor w
    let r' := Tracker.operate store publish.recorded .registerVisitor w'
    w.store.1.IsFor "key" ∧ w.store.2.IsSound ∧ w'.store.1.IsFor "key" ∧ w'.store.2.IsSound ∧
      (get w.store).result = .error (.malformed "Invalid reference id 'junk'") ∧
      (Tracker.operateAll store publish.recorded [.deregisterSession, .registerClick] w).1 =
        [failed, failed] ∧
      r.1 = .error (.internal "InternalServerError: down") ∧
      (get r.2.store).result = .ok { visitor := some (.ofFresh (id 10)) } ∧
      Works publish .registerClick r.2 ∧ r'.1 = r.1 ∧ slots r'.2.store = slots r.2.store := by
  intro id st w w' publish failed r r'
  have hfor : w.store.1.IsFor "key" := ⟨rfl, rfl⟩
  have hsound : w.store.2.IsSound := ⟨⟨fun _ => rfl, trivial⟩, ⟨fun _ => rfl, trivial⟩⟩
  have hget : (get w.store).result = .error (.malformed "Invalid reference id 'junk'") := by
    decide +kernel
  obtain ⟨⟨hcontained, ⟨hresult, -, -, hvisitor, hworks⟩, -, -⟩, halike⟩ :=
    isContained hfor hsound publish
  obtain ⟨hsame, hslots, -⟩ := halike Unit publish w' .registerVisitor ⟨rfl, rfl⟩
    Shelf.isSound_default rfl rfl fun _ => rfl
  exact ⟨hfor, hsound, ⟨rfl, rfl⟩, Shelf.isSound_default, hget,
    (hcontained _ hget [.deregisterSession, .registerClick] (by decide)).1, hresult, hvisitor,
    hworks [] .registerClick, hsame, hslots⟩

end SplitStore

end Clickstream
