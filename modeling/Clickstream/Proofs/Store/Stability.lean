import Clickstream.Proofs.Store.Remains

/-!
# Identities that stay

A visitor is known again, and so is a session. Once one of them is stored it stays, whatever
calls of the storages fail and however often the tracker is restarted on them, until an
operation is meant to replace or remove it, or the storage it is in is left behind. Until then
nothing of its kind is created, and what is created of the kind that hangs on it hangs on this
very one.

A commit writes all that the tracker knows, so this is no matter of leaving things alone: what
is stored must have been read before it is written again. Where a read fails, nothing is known
to be missing, and the operation ends.

* `SplitStore.look_eq_of_visitor`: a look that succeeds does not overlook what is stored;
* `Operation.heeds_plan`: what is planned keeps what is there below the kind of the operation;
* `Journal.heeds_run`: so does every incident that spares it;
* `Journal.keeps_foldl`: hence it stays in every run of such incidents.
-/

namespace Clickstream

variable {π : Type} {k : Kind} {r : Reference k}

theorem Kind.isRoot_eq_false_of_lt {j : Kind} (h : k.rank < j.rank) : j.isRoot = false := by
  cases k <;> cases j <;> first | rfl | exact absurd h (by decide)

/-! ## Plans -/

/-- Whether an event leaves a reference current: it is of a kind above, and if it is of the kind
    that hangs on the reference, it hangs on this very one. -/
structure Event.Heeds (r : Reference k) (e : Event) : Prop where
  rank : k.rank < e.kind.rank
  parent : e.kind.parent? = some k → e.parentId? = some r.id

namespace SiteState

theorem current_adopt_of_lt (s : SiteState) {e : Event} (h : k.rank < e.kind.rank) :
    (s.adopt e).current k = s.current k := by
  cases e <;> cases k <;> first | rfl | simp [Event.kind, Kind.rank] at h

theorem current_leave_of_lt (s : SiteState) {j : Kind} (h : k.rank < j.rank) :
    (s.leave j).current k = s.current k := by
  cases j <;> cases k <;> first | rfl | exact absurd h (by decide)

theorem normalized_leave (s : SiteState) (j : Kind) :
    (s.leave j).normalized = s.normalized.leave j := by
  rcases s with ⟨_ | v, _ | t, _ | a⟩ <;> cases j <;> rfl

/-- What is current both in a state and in one that was to replace it is so as well in what a
    commit that fails leaves. -/
theorem current_of_both {s next s' : SiteState} (hnext : next.isConsistent)
    (hr : s.normalized.current k = some r) (hr' : next.current k = some r)
    (h : s' = { s with area := next.area } ∨ s' = { next with visitor := s.visitor }) :
    s'.normalized.current k = some r := by
  rcases h with rfl | rfl <;> rcases s with ⟨_ | v, _ | t, _ | a⟩ <;>
    obtain rfl | ⟨v', rfl⟩ | ⟨v', t', rfl⟩ | ⟨v', t', a', rfl⟩ := eq_of_isConsistent hnext <;>
      cases k <;> simp_all [normalized, current]

theorem current_of_normalized {s : SiteState} (h : s.normalized.current k = some r) :
    s.current k = some r := by
  rcases s with ⟨_ | v, _ | t, _ | a⟩ <;> cases k <;> simp_all [normalized, current]

/-- Where something is current that has its ancestors there, there is a visitor. -/
theorem exists_visitor {s : SiteState} (h : s.normalized.current k = some r) :
    ∃ v, s.visitor = some v := by
  rcases s with ⟨_ | v, t, a⟩
  · cases k <;> cases h
  · exact ⟨v, rfl⟩

/-- In a consistent state, whatever is below something that is there is there too. -/
theorem isSome_current_of_le {s : SiteState} (hs : s.isConsistent) (hk : (s.current k).isSome)
    {j : Kind} (hj : j.rank ≤ k.rank) : (s.current j).isSome := by
  obtain rfl | ⟨v, rfl⟩ | ⟨v, t, rfl⟩ | ⟨v, t, a, rfl⟩ := eq_of_isConsistent hs <;> cases k <;>
    cases j <;> simp_all [current, Kind.rank]

theorem lt_of_mem_missing {s : SiteState} (hs : s.isConsistent) (hk : (s.current k).isSome)
    {i j : Kind} (hj : j ∈ s.missing i) : k.rank < j.rank := by
  have hnone := (List.mem_filter.1 hj).2
  rw [Bool.and_eq_true, Option.isNone_iff_eq_none] at hnone
  by_contra hle
  have := isSome_current_of_le hs hk (Nat.le_of_not_lt hle)
  simp [hnone.2] at this

end SiteState

/-- Whether a plan keeps a reference current. -/
structure Plan.Heeds (r : Reference k) (p : Plan) : Prop where
  next : p.next.current k = some r
  batch : ∀ e ∈ p.batch, e.Heeds r

theorem Plan.Heeds.extend {p : Plan} (h : p.Heeds r) (ids : Nat → FreshId) {j : Kind}
    (hj : k.rank < j.rank) : (p.extend ids j).Heeds r := by
  rcases hunder : Event.under? p.next (ids p.batch.length) j with _ | e
  · simpa only [Plan.extend, hunder] using h
  · rw [extend_of_under? hunder]
    obtain ⟨rfl, -, hparent⟩ := Event.of_under? hunder
    refine ⟨(SiteState.current_adopt_of_lt _ hj).trans h.next, fun e' he' => ?_⟩
    rcases List.mem_append.1 he' with he' | he'
    · exact h.batch e' he'
    · rw [List.mem_singleton.1 he']
      refine ⟨hj, fun hk => ?_⟩
      rw [hparent, SiteState.parentId?, hk, Option.bind_some, h.next, Option.map_some]

/-- An operation keeps what it sees of every kind below the one that it is about. -/
theorem Operation.heeds_plan (op : Operation) (ids : Nat → FreshId) {s : SiteState}
    (hs : s.isConsistent) (hr : s.current k = some r) (hk : k.rank < op.kind.rank) :
    (op.plan ids s).Heeds r := by
  have hfoldl (js : List Kind) (hjs : ∀ j ∈ js, k.rank < j.rank) {p : Plan} (hp : p.Heeds r) :
      (js.foldl (Plan.extend ids) p).Heeds r := by
    induction js generalizing p with
    | nil => exact hp
    | cons j js ih =>
      exact ih (fun i hi => hjs i (List.mem_cons_of_mem _ hi))
        (hp.extend ids (hjs j List.mem_cons_self))
  rw [plan]
  split
  · refine hfoldl _ (fun j hj => ?_) ⟨hr, by simp⟩
    rcases List.mem_append.1 hj with hj | hj
    · exact SiteState.lt_of_mem_missing hs (by rw [hr]; rfl) hj
    · rwa [List.mem_singleton.1 hj]
  · exact ⟨(SiteState.current_leave_of_lt s hk).trans hr, by simp⟩

theorem Operation.isConsistent_plan (op : Operation) (ids : Nat → FreshId) {s : SiteState}
    (hs : s.isConsistent) : (op.plan ids s).next.isConsistent := by
  rw [plan]
  split
  · exact Plan.isConsistent_foldl_extend _ hs
  · obtain rfl | ⟨v, rfl⟩ | ⟨v, t, rfl⟩ | ⟨v, t, a, rfl⟩ := SiteState.eq_of_isConsistent hs <;>
      cases op <;> rfl

/-! ## Stores -/

namespace SplitStore

variable {w : SplitStore × Shelf}

/-- Where there is a visitor, what can be read is not that all is absent. -/
theorem Slots.read_ne_absent {t : Slots} {v : Reference .visitor}
    (hv : readText .visitor t.visitor = .ok (some v)) : t.read ≠ .error .absent := by
  simp only [read, hv]
  cases t.session with
  | none => simp [readText]
  | some text =>
    simp only [readText]
    cases Reference.parse (k := .session) text <;> simp [ReferenceError.toSiteStateError]

/-- A look does not overlook a visitor that is stored, nor what hangs on it: it shows what is
    there, or fails. -/
theorem look_eq_of_visitor {op : Operation} (hop : op.kind.isRoot = false)
    {v : Reference .visitor} (hv : (contents w).visitor = some v) {s : SiteState}
    (h : (store.look op w).result = .ok s) : s = (contents w).normalized := by
  have hvisitor : readText .visitor (slots w).visitor = .ok (some v) := by
    simp only [contents, Slots.state] at hv
    rcases hread : readText .visitor (slots w).visitor with e | o <;> rw [hread] at hv
    · cases hv
    · exact congrArg Except.ok hv
  simp only [Store.look, hop, Store.view, store, Bool.false_eq_true, if_false] at h
  rcases get_cases w with hget | ⟨d, hget⟩ <;> simp only [hget] at h
  · have habsent := Slots.read_ne_absent hvisitor
    rcases hread : (slots w).read with (_ | _ | _) | t <;> simp only [hread] at h habsent
    · cases h
    · cases h
    · exact absurd rfl habsent
    · cases h
      rw [Slots.read_eq_ok hread]
      exact SiteState.normalized_normalized _
  · cases h

/-- A commit of a state in which something stored is still current leaves it there, whether it
    fails or not. -/
theorem current_of_commit (hkeys : w.1.visitorKey ≠ w.1.sessionKey) {next : SiteState}
    (hnext : next.isConsistent) (hr : (contents w).normalized.current k = some r)
    (hr' : next.current k = some r) :
    (contents (store.commit next w).state).normalized.current k = some r := by
  have hcontents := contents_commit hkeys next
  cases hcommit : (store.commit next w).result with
  | ok c =>
    simp only [hcommit] at hcontents
    rw [hcontents, (SiteState.normalized_eq_self_iff next).2 hnext, hr']
  | error e =>
    simp only [hcommit] at hcontents
    exact SiteState.current_of_both hnext hr hr' hcontents

/-- A new store on the same storages lacks the area, and the session too if that goes to a new
    storage. -/
theorem contents_reopen {apiKey : String} {freshSession : Bool} {w' : SplitStore × Shelf}
    (hfor : w.1.IsFor apiKey) (h : reopen apiKey freshSession w = .ok w') :
    w'.1.IsFor apiKey ∧
      contents w' = (contents w).leave (if freshSession then .session else .area) := by
  obtain ⟨hvisitor, hsession⟩ := hfor
  have hnew (place : Place) {st : SplitStore} (hst : new apiKey place = .ok st) :
      st =
        { visitorKey := w.1.visitorKey, sessionKey := w.1.sessionKey, sessionPlace := place } := by
    rw [eq_of_new hst, hvisitor, hsession]
  cases freshSession with
  | true =>
    rcases hst : new apiKey .transient with e | st
    · simp [reopen, hst, bind, Except.bind] at h
    · simp only [reopen, hst, bind, Except.bind, pure, Except.pure, if_true] at h
      cases h
      rw [hnew _ hst]
      exact ⟨⟨hvisitor, hsession⟩, rfl⟩
  | false =>
    rcases hst : new apiKey w.1.sessionPlace with e | st
    · simp [reopen, hst, bind, Except.bind] at h
    · simp only [reopen, hst, bind, Except.bind, pure, Except.pure, Bool.false_eq_true,
        if_false] at h
      cases h
      rw [hnew _ hst]
      exact ⟨⟨hvisitor, hsession⟩, rfl⟩

end SplitStore

/-! ## Runs -/

/-- What can happen to a tracker on two storages. An operation that is cut short is one in which
    every call fails from then on, and a restart after it. -/
inductive Incident
  /-- An operation, while some calls fail. -/
  | turn (t : Turn)
  /-- A new tracker, with a new store, on the same durable storage, and on the same transient one
      or a new one. -/
  | restart (freshSession : Bool)

/-- The lowest kind that may be replaced or removed. -/
def Incident.reach : Incident → Kind
  | turn t => t.op.kind
  | restart freshSession => if freshSession then .session else .area

/-- Whether an incident is none that may replace or remove what is of a kind. -/
def Incident.Spares (k : Kind) (i : Incident) : Prop := k.rank < i.reach.rank

/-- A restart. Nothing happens if the API key is blank. -/
def Journal.restart (apiKey : String) (freshSession : Bool) (h : Journal (SplitStore × Shelf) π) :
    Journal (SplitStore × Shelf) π :=
  match SplitStore.reopen apiKey freshSession h.scene.world.store with
  | .ok store => { h with scene := { world := { h.scene.world with store } } }
  | .error _ => h

/-- One more incident. -/
def Incident.run (apiKey : String) (publish : Publisher π)
    (h : Journal (SplitStore × Shelf) π) : Incident → Journal (SplitStore × Shelf) π
  | turn t => t.run publish h
  | restart freshSession => h.restart apiKey freshSession

namespace Journal

open SplitStore

variable {apiKey : String} {publish : Publisher π} {h h' h'' : Journal (SplitStore × Shelf) π}

/-- Whether a tracker is at rest, on a store for an API key. -/
structure IsReady (apiKey : String) (h : Journal (SplitStore × Shelf) π) : Prop where
  isAtRest : h.IsAtRest
  isFor : h.scene.world.store.1.IsFor apiKey

/-- Whether the events created between two moments all keep a reference current. -/
def Heeds (r : Reference k) (h h' : Journal (SplitStore × Shelf) π) : Prop :=
  ∃ hs ds, h'.handed = h.handed ++ hs.map Event.toWire ∧
    h'.dropped.map (·.1) = h.dropped.map (·.1) ++ ds ∧ ∀ e ∈ hs ++ ds, e.Heeds r

theorem heeds_refl (r : Reference k) (h : Journal (SplitStore × Shelf) π) : h.Heeds r h :=
  ⟨[], [], by simp, by simp, by simp⟩

theorem Heeds.trans (hh : h.Heeds r h') (hh' : h'.Heeds r h'') : h.Heeds r h'' := by
  obtain ⟨hs, ds, hhanded, hdropped, hheeds⟩ := hh
  obtain ⟨hs', ds', hhanded', hdropped', hheeds'⟩ := hh'
  refine ⟨hs ++ hs', ds ++ ds', ?_, ?_, fun e he => ?_⟩
  · rw [hhanded', hhanded, List.map_append, List.append_assoc]
  · rw [hdropped', hdropped, List.append_assoc]
  · have := hheeds e
    have := hheeds' e
    simp only [List.mem_append] at *
    tauto

/-- Whether a reference is in the store, as a tracker sees it. -/
def Knows (r : Reference k) (h : Journal (SplitStore × Shelf) π) : Prop :=
  (contents h.scene.world.store).normalized.current k = some r

theorem isReady_run (hready : h.IsReady apiKey) (publish : Publisher π) (i : Incident) :
    (i.run apiKey publish h).IsReady apiKey := by
  cases i with
  | turn t =>
    obtain ⟨x, hs, ds, hkeys, -, heffect, hgrows⟩ := effect_run publish hready.isAtRest t
    refine ⟨hgrows.isAtRest, ?_⟩
    have hfor : x.1.IsFor apiKey := hkeys ▸ hready.isFor
    show (t.run publish h).scene.world.store.1.IsFor apiKey
    generalize (t.run publish h).scene.world.store = y at heffect
    cases heffect with
    | blind => rwa [state_look]
    | dropped | handed =>
      rw [keys_commit, state_look]
      exact hfor
  | restart freshSession =>
    simp only [Incident.run, restart]
    split
    · rename_i w' hw'
      exact ⟨rfl, (contents_reopen hready.isFor hw').1⟩
    · exact hready

/-- An incident that spares what is known leaves it known, and every event that it creates keeps
    it current. -/
theorem heeds_run (hready : h.IsReady apiKey) (hknows : h.Knows r) (publish : Publisher π)
    {i : Incident} (hi : i.Spares k) :
    (i.run apiKey publish h).Knows r ∧ h.Heeds r (i.run apiKey publish h) := by
  cases i with
  | turn t =>
    obtain ⟨x, hs, ds, hkeys, hx, heffect, hgrows⟩ := effect_run publish hready.isAtRest t
    have hkeys : x.1.visitorKey ≠ x.1.sessionKey := hkeys ▸ hready.isFor.keys_ne
    have hknows : (contents x).normalized.current k = some r := hx ▸ hknows
    have hplan {s : SiteState} (hlook : (store.look t.op x).result = .ok s) :
        (contents (store.commit (t.op.plan h.scene.world.fresh s).next x).state).normalized.current
            k = some r ∧ ∀ e ∈ (t.op.plan h.scene.world.fresh s).batch, e.Heeds r := by
      obtain ⟨v, hv⟩ := SiteState.exists_visitor hknows
      obtain rfl := look_eq_of_visitor (Kind.isRoot_eq_false_of_lt hi) hv hlook
      have hnormalized := SiteState.isConsistent_normalized (contents x)
      have hheeds := t.op.heeds_plan h.scene.world.fresh hnormalized hknows hi
      exact ⟨current_of_commit hkeys (t.op.isConsistent_plan _ hnormalized) hknows hheeds.next,
        hheeds.batch⟩
    have hheeds (hcreated : ∀ e ∈ hs ++ ds, e.Heeds r) : h.Heeds r (t.run publish h) := by
      refine ⟨hs, ds, hgrows.handed, ?_, hcreated⟩
      rw [hgrows.dropped, List.map_append, List.map_map]
      exact congrArg _ (List.map_id ds)
    show (contents (t.run publish h).scene.world.store).normalized.current k = some r ∧ _
    generalize (t.run publish h).scene.world.store = y at heffect ⊢
    cases heffect with
    | blind =>
      rw [state_look]
      exact ⟨hknows, hheeds nofun⟩
    | dropped look =>
      rw [state_look]
      exact ⟨(hplan look).1, hheeds (hplan look).2⟩
    | handed look =>
      rw [state_look]
      exact ⟨(hplan look).1, hheeds (by simpa using (hplan look).2)⟩
  | restart freshSession =>
    simp only [Incident.run, restart]
    split
    · rename_i w' hw'
      refine ⟨?_, [], [], by simp [handed], by simp, by simp⟩
      rw [Knows, (contents_reopen hready.isFor hw').2, SiteState.normalized_leave]
      exact (SiteState.current_leave_of_lt _ hi).trans hknows
    · exact ⟨hknows, heeds_refl r h⟩

theorem isReady_foldl (hready : h.IsReady apiKey) (publish : Publisher π) (is : List Incident) :
    (is.foldl (Incident.run apiKey publish) h).IsReady apiKey := by
  induction is generalizing h with
  | nil => exact hready
  | cons i is ih => exact ih (isReady_run hready publish i)

theorem heeds_foldl (hready : h.IsReady apiKey) (hknows : h.Knows r) (publish : Publisher π)
    {is : List Incident} (his : ∀ i ∈ is, i.Spares k) :
    (is.foldl (Incident.run apiKey publish) h).Knows r ∧
      h.Heeds r (is.foldl (Incident.run apiKey publish) h) := by
  induction is generalizing h with
  | nil => exact ⟨hknows, heeds_refl r h⟩
  | cons i is ih =>
    obtain ⟨hi, his⟩ := List.forall_mem_cons.1 his
    obtain ⟨hknows', hheeds⟩ := heeds_run hready hknows publish hi
    obtain ⟨hknows'', hheeds'⟩ := ih (isReady_run hready publish i) hknows' his
    exact ⟨hknows'', hheeds.trans hheeds'⟩

/-- Whether a reference has stayed from one moment to another: it is stored at the end, it is what
    the events created meanwhile keep to, and no failure hides it from the next operation. -/
structure Keeps (r : Reference k) (h h' : Journal (SplitStore × Shelf) π) : Prop where
  stored : (contents h'.scene.world.store).current k = some r
  heeds : h.Heeds r h'
  seen : ∀ (t : Turn) s, t.op.kind.isRoot = false →
    (store.look t.op (h'.scene.world.withFaults t.durable t.transient).store).result = .ok s →
      s.current k = some r

theorem Knows.keeps (hknows : h'.Knows r) (hheeds : h.Heeds r h') : h.Keeps r h' where
  stored := SiteState.current_of_normalized hknows
  heeds := hheeds
  seen t s hop hlook := by
    have hcontents : contents (h'.scene.world.withFaults t.durable t.transient).store =
        contents h'.scene.world.store :=
      congrArg Slots.state (slots_withFaults t.durable t.transient _)
    obtain ⟨v, hv⟩ := SiteState.exists_visitor hknows
    rw [look_eq_of_visitor hop (hcontents ▸ hv) hlook, hcontents]
    exact hknows

/-- A visitor that is stored at some moment of a run stays until an operation is about visitors,
    and a session that is stored with it until one is about visitors or sessions or the session
    goes to a new storage. -/
theorem keeps_foldl {apiKey : String} {w : RecordedWorld (SplitStore × Shelf) π}
    (hfor : w.store.1.IsFor apiKey) (publish : Publisher π) (before : List Incident)
    {after : List Incident} (hafter : ∀ i ∈ after, i.Spares .visitor) :
    let h := before.foldl (Incident.run apiKey publish) { scene := { world := w } }
    let h' := after.foldl (Incident.run apiKey publish) h
    ∀ v, (contents h.scene.world.store).visitor = some v →
      h.Keeps v h' ∧
        ∀ r, (contents h.scene.world.store).session = some r →
          (∀ i ∈ after, i.Spares .session) → h.Keeps r h' := by
  intro h h' v hv
  have hready : h.IsReady apiKey :=
    isReady_foldl (h := { scene := { world := w } }) ⟨rfl, hfor⟩ publish before
  refine ⟨?_, fun r hr hsession => ?_⟩
  · obtain ⟨hknows, hheeds⟩ := heeds_foldl hready (r := v) hv publish hafter
    exact hknows.keeps hheeds
  · have hknows : h.Knows r := by simp [Knows, SiteState.normalized, SiteState.current, hv, hr]
    obtain ⟨hknows, hheeds⟩ := heeds_foldl hready hknows publish hsession
    exact hknows.keeps hheeds

/-- A session is opened, and from then on one call or another fails: an operation cannot read the
    visitor, the session is written and the visitor is not, a batch is refused, and the tracker is
    restarted. Three of the events after that are handed over and one is dropped, and all of them
    belong to what was opened first. -/
theorem keeps_foldl_failing :
    let w : RecordedWorld (SplitStore × Shelf) Nat := {
      store := ({ visitorKey := keyFor "VISITOR" "key", sessionKey := keyFor "SESSION" "key" }, {})
      publisher := (0, [])
      supply := { ids := fun n => ⟨Id.v7 n 0, Id.version_v7 n 0⟩ } }
    let publish : Publisher Nat := fun batch n =>
      (if n = 1 then .error ⟨.fetch, "refused"⟩ else .ok batch.length, n + 1)
    let down (c : StorageCall) (call : Call) : Option StorageError :=
      if call.kind = c then some (.io "fault" "disk full") else none
    let after : List Incident := [
      .turn { op := .registerArea, durable := down .get },
      .turn { op := .registerArea, durable := down .set }, .restart false,
      .turn { op := .registerArea }, .turn { op := .deregisterArea, transient := down .set },
      .restart false, .turn { op := .registerClick }]
    let h := [.turn { op := .registerSession }].foldl (Incident.run "key" publish)
      { scene := { world := w } }
    let h' := after.foldl (Incident.run "key" publish) h
    let v := Reference.ofFresh (k := .visitor) (w.fresh 0)
    let s := Reference.ofFresh (k := .session) (w.fresh 1)
    h'.handed.map (·.kind) = [.visitor, .session, .area, .area, .click] ∧
      h'.dropped.map (·.1.kind) = [.area] ∧ h.Keeps v h' ∧ h.Keeps s h' := by
  intro w publish down after h h' v s
  have hfor : w.store.1.IsFor "key" := ⟨rfl, rfl⟩
  have hvisitor : ∀ i ∈ after, i.Spares .visitor := by
    simp [after, Incident.Spares, Incident.reach, Operation.kind, Kind.rank]
  have hsession : ∀ i ∈ after, i.Spares .session := by
    simp [after, Incident.Spares, Incident.reach, Operation.kind, Kind.rank]
  obtain ⟨hv, hs⟩ := keeps_foldl hfor publish [.turn { op := .registerSession }] hvisitor v
    (by decide +kernel)
  exact ⟨by decide +kernel, by decide +kernel, hv, hs s (by decide +kernel) hsession⟩

end Journal

end Clickstream
