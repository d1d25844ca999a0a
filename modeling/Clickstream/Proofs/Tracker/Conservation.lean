import Mathlib.Data.List.Nodup
import Clickstream.Proofs.Pipeline.Schedule
import Clickstream.Proofs.Tracker.Cascade
import Clickstream.Recorder
import Clickstream.Store.Split

/-!
# Events are conserved

The events that an operation creates wait in a queue until it hands them over, all at once.
There are four ways out of an operation, and each of them has to empty the queue and to count
what became of it. If one of them left something behind, it would be found with the events of
a later operation; so a run goes from one operation to the next with the tracker as it is
(`Tracker.turns`), and what is said of an operation is only what can be seen of it from
outside: the ids that it took, the batches that the publisher got, and what was measured
(`Turn.between`).

* `tracker_perform`: the queue is empty after every operation, whatever it was before;
* `settles_operate`: an operation hands over what it created, or drops it;
* `runs_turns`, `conserves_turns`: hence no run loses an event or hands it over twice, and
  the counters add up.
-/

namespace Clickstream

/-! ## Counting -/

namespace Log

theorem counter_append (log log' : Log) (m : Metric) :
    counter (log ++ log') m = counter log m + counter log' m := by
  have htotal (l : List Nat) : total l = l.sum := (List.sum_eq_foldl ..).symm
  simp only [counter, samples, htotal, List.flatMap_append, List.filter_append, List.map_append,
    List.sum_append]

/-- What a log says of events and operations: how many events were created, how many of them
    were dropped, and how many operations ended. -/
structure Counts (log : Log) (created dropped ended : Nat) : Prop where
  enqueued : log.counter .enqueued = created
  dropped : log.counter .dropped = dropped
  ended : log.counter .completed + log.counter .failed = ended

variable {log log' : Log} {m n k m' n' k' : Nat}

theorem Counts.append (h : log.Counts m n k) (h' : Counts log' m' n' k') :
    Counts (log ++ log') (m + m') (n + n') (k + k') where
  enqueued := by rw [counter_append, h.enqueued, h'.enqueued]
  dropped := by rw [counter_append, h.dropped, h'.dropped]
  ended := by
    rw [counter_append, counter_append, ← h.ended, ← h'.ended]
    omega

theorem counts_nil : Counts [] 0 0 0 := ⟨rfl, rfl, rfl⟩

theorem counts_dropped (n : Nat) : Counts [.dropped n] 0 n 0 := by
  cases n with
  | zero => exact ⟨rfl, rfl, rfl⟩
  | succ n => exact ⟨rfl, Nat.zero_add _, rfl⟩

theorem counts_events (es : List Event) :
    Counts (es.map fun e => .enqueued e.kind) es.length 0 0 := by
  induction es with
  | nil => exact counts_nil
  | cons e es ih =>
    have hone : Counts [.enqueued e.kind] 1 0 0 := ⟨rfl, rfl, rfl⟩
    have := hone.append ih
    rwa [Nat.add_comm] at this

theorem counts_ending (result : TrackingResult) :
    Counts [match result with | .ok count => .completed count | .error e => .failed e] 0 0 1 := by
  cases result <;> exact ⟨rfl, rfl, rfl⟩

end Log

/-! ## Stores -/

/-- Whether all that a store measures are failures of its storage. -/
def Log.IsOfStorage (log : Log) : Prop := ∀ m ∈ log, ∃ call, m = .storageFailed call

theorem Log.IsOfStorage.counts {log : Log} (h : log.IsOfStorage) : log.Counts 0 0 0 := by
  induction log with
  | nil => exact counts_nil
  | cons m log ih =>
    obtain ⟨call, rfl⟩ := h m List.mem_cons_self
    have hone : Counts [.storageFailed call] 0 0 0 := ⟨rfl, rfl, rfl⟩
    exact hone.append (ih fun m hm => h m (List.mem_cons_of_mem _ hm))

theorem Log.isOfStorage_append {log log' : Log} (h : log.IsOfStorage) (h' : log'.IsOfStorage) :
    IsOfStorage (log ++ log') := fun m hm => (List.mem_append.1 hm).elim (h m) (h' m)

/-- Whether a store measures nothing but that its storage failed. -/
structure Store.MeasuresStorage {σ : Type} (store : Store σ) : Prop where
  get : ∀ s, (store.get s).log.IsOfStorage
  set : ∀ state s, (store.set state s).log.IsOfStorage
  clear : ∀ s, (store.clear s).log.IsOfStorage

theorem PlainStore.measuresStorage : PlainStore.store.MeasuresStorage where
  get _ := nofun
  set state s := by
    simp only [store, set]
    split <;> exact nofun
  clear s := by
    simp only [store, clear]
    split <;> exact nofun

namespace SplitStore

theorem isOfStorage_readReference (k : Kind) (b : Backend) (key : String) :
    (readReference k b key).2.IsOfStorage := by
  simp only [readReference]
  split
  · exact fun m hm => ⟨.get, List.mem_singleton.1 hm⟩
  · exact nofun
  · split <;> exact nofun

theorem isOfStorage_writeReference {k : Kind} (r : Option (Reference k)) (key : String)
    (b : Backend) : (writeReference r key b).2.1.IsOfStorage := by
  cases r <;> simp only [writeReference]
  all_goals
    split
    · exact nofun
    · exact fun m hm => ⟨_, List.mem_singleton.1 hm⟩

theorem isOfStorage_read (s : SplitStore) (shelf : Shelf) : (s.read shelf).2.IsOfStorage := by
  have hvisitor := isOfStorage_readReference .visitor shelf.durable s.visitorKey
  have hsession := isOfStorage_readReference .session (shelf.backend s.sessionPlace) s.sessionKey
  simp only [read]
  generalize readReference .visitor shelf.durable s.visitorKey = visitor at hvisitor ⊢
  generalize readReference .session (shelf.backend s.sessionPlace) s.sessionKey = session
    at hsession ⊢
  obtain ⟨_ | _ | v, log⟩ := visitor
  · exact hvisitor
  · exact hvisitor
  · obtain ⟨_ | _ | r, log'⟩ := session <;> exact Log.isOfStorage_append hvisitor hsession

theorem isOfStorage_write (state : SiteState) (s : SplitStore) (shelf : Shelf) :
    (write state s shelf).2.1.IsOfStorage := by
  have hsession := isOfStorage_writeReference state.session s.sessionKey
    (shelf.backend s.sessionPlace)
  simp only [write]
  generalize writeReference state.session s.sessionKey (shelf.backend s.sessionPlace) = session
    at hsession ⊢
  obtain ⟨_ | _, log, b⟩ := session
  · exact hsession
  · exact Log.isOfStorage_append hsession (isOfStorage_writeReference _ _ _)

theorem measuresStorage : SplitStore.store.MeasuresStorage where
  get w := isOfStorage_read w.1 w.2
  set state w := isOfStorage_write state w.1 w.2
  clear w := isOfStorage_write .empty w.1 w.2

end SplitStore

/-! ## Worlds that grow -/

/-- A world with a publisher that keeps the batches that were handed over. -/
abbrev RecordedWorld (σ π : Type) := World σ (π × List (List WireEvent))

namespace World

variable {σ π : Type} {w w₁ w₂ : RecordedWorld σ π} {n n' : Nat} {bs bs' : List (List WireEvent)}
  {log log' : Log}

/-- What has become of a world: so many ids were taken, these batches handed over, and this
    was measured. -/
structure Grows (w : RecordedWorld σ π) (n : Nat) (bs : List (List WireEvent)) (log : Log)
    (w' : RecordedWorld σ π) : Prop where
  supply : w'.supply = { w.supply with taken := w.supply.taken + n }
  handed : w'.publisher.2 = w.publisher.2 ++ bs
  log : w'.log = w.log ++ log

theorem Grows.trans (h : w.Grows n bs log w₁) (h' : w₁.Grows n' bs' log' w₂) :
    w.Grows (n + n') (bs ++ bs') (log ++ log') w₂ where
  supply := by rw [h'.supply, h.supply, Nat.add_assoc]
  handed := by rw [h'.handed, h.handed, List.append_assoc]
  log := by rw [h'.log, h.log, List.append_assoc]

theorem grows_refl (w : RecordedWorld σ π) : w.Grows 0 [] [] w :=
  ⟨rfl, (List.append_nil _).symm, (List.append_nil _).symm⟩

theorem grows_measure (m : Measurement) (w : RecordedWorld σ π) : w.Grows 0 [] [m] (w.measure m) :=
  ⟨rfl, (List.append_nil _).symm, rfl⟩

theorem grows_withEvents (es : List Event) (w : RecordedWorld σ π) :
    w.Grows es.length [] (es.map fun e => .enqueued e.kind) (w.withEvents es) :=
  ⟨rfl, (List.append_nil _).symm, rfl⟩

theorem grows_callStore {call : σ → Outcome SiteStateError SiteState σ}
    (hcall : ∀ s, (call s).log.IsOfStorage) (w : RecordedWorld σ π) :
    ∃ log, log.IsOfStorage ∧ w.Grows 0 [] log (callStore call w).2 :=
  ⟨_, hcall w.store, rfl, (List.append_nil _).symm, rfl⟩

theorem grows_see {store : Store σ} (hstore : store.MeasuresStorage) (op : Operation)
    (w : RecordedWorld σ π) : ∃ log, log.IsOfStorage ∧ w.Grows 0 [] log (see store op w).2 := by
  obtain ⟨log, hlog, hgrows⟩ := grows_callStore hstore.get w
  unfold see read
  split
  · exact ⟨[], nofun, grows_refl w⟩
  · generalize callStore store.get w = r at hgrows
    obtain ⟨(_ | _ | _) | _, w₁⟩ := r <;> exact ⟨log, hlog, hgrows⟩

theorem grows_commit {store : Store σ} (hstore : store.MeasuresStorage) (s : SiteState)
    (w : RecordedWorld σ π) : ∃ log, log.IsOfStorage ∧ w.Grows 0 [] log (commit store s w).2 := by
  unfold commit
  split
  · exact grows_callStore hstore.clear w
  · exact grows_callStore (hstore.set s) w

/-- An operation that gives up drops its events, and ends. -/
theorem grows_giveUp (e : SiteStateError) (n : Nat) (w : RecordedWorld σ π) :
    ∃ log, log.Counts 0 n 1 ∧ w.Grows 0 [] log (w.giveUp e n).2 :=
  ⟨_, (Log.counts_dropped n).append (Log.counts_ending (.error (.internal e.message))),
    (grows_measure (.dropped n) w).trans (grows_measure (.failed (.internal e.message)) _)⟩

theorem grows_finish (result : TrackingResult) (w : RecordedWorld σ π) :
    ∃ log, log.Counts 0 0 1 ∧ w.Grows 0 [] log (w.finish result).2 :=
  ⟨_, Log.counts_ending result, grows_measure _ w⟩

theorem grows_callPublisher (publish : Publisher π) (batch : List WireEvent)
    (w : RecordedWorld σ π) :
    w.Grows 0 [batch] [] (callPublisher publish.recorded batch w).2 :=
  ⟨rfl, rfl, (List.append_nil _).symm⟩

/-- Events are handed over in one batch, or not at all if there are none. -/
theorem grows_handOver (publish : Publisher π) (es : List Event) (w : RecordedWorld σ π) :
    ∃ log, log.Counts 0 0 1 ∧ w.Grows 0 (if es.isEmpty then [] else [es.map Event.toWire]) log
      (w.handOver publish.recorded es).2 := by
  unfold handOver
  split
  · exact grows_finish (.ok 0) w
  · have hgrows := grows_callPublisher publish (es.map Event.toWire) w
    obtain ⟨log, hlog, hgrows'⟩ := grows_finish
      ((callPublisher publish.recorded (es.map Event.toWire) w).1.mapError
        DeliveryError.toTrackingError)
      (callPublisher publish.recorded (es.map Event.toWire) w).2
    exact ⟨log, hlog, hgrows.trans hgrows'⟩

end World

namespace Tracker

variable {σ π : Type}

/-! ## One operation -/

/-- What can be seen of an operation when it has ended. -/
structure Turn where
  result : TrackingResult
  /-- The ids of the events that it created, in order. -/
  created : List Id
  /-- The batches that it handed over. -/
  handed : List (List WireEvent)
  log : Log

/-- What an operation has left behind in the world. -/
def Turn.between (result : TrackingResult) (w w' : RecordedWorld σ π) : Turn where
  result
  created := (List.range (w'.supply.taken - w.supply.taken)).map fun i => (w.fresh i).id
  handed := w'.publisher.2.drop w.publisher.2.length
  log := w'.log.drop w.log.length

/-- What can have become of the events of an operation. -/
inductive Turn.Settles (t : Turn) : Prop
  /-- They were handed over together. -/
  | handedOver (batch : List WireEvent) (handed : t.handed = [batch])
      (events : batch.map (·.id) = t.created) (nonempty : batch ≠ [])
      (dropped : t.log.counter .dropped = 0)
  /-- They were dropped. -/
  | dropped (detail : String) (result : t.result = .error (.internal detail))
      (handed : t.handed = []) (dropped : t.log.counter .dropped = t.created.length)
  /-- There were none. -/
  | nothing (created : t.created = []) (result : t.result = .ok 0) (handed : t.handed = [])
      (dropped : t.log.counter .dropped = 0)

theorem Turn.between_eq {w w' : RecordedWorld σ π} {n : Nat} {bs : List (List WireEvent)}
    {log : Log} (h : w.Grows n bs log w') (result : TrackingResult) :
    between result w w' = ⟨result, (List.range n).map fun i => (w.fresh i).id, bs, log⟩ := by
  rw [between, h.supply, h.handed, h.log, Nat.add_sub_cancel_left, List.drop_left, List.drop_left]

/-- The events that an operation plans take the next ids, in order. -/
theorem ids_plan (op : Operation) {s : SiteState} (hs : s.isConsistent) (ids : Nat → FreshId) :
    (op.plan ids s).batch.map Event.id =
      (List.range (op.plan ids s).batch.length).map fun i => (ids i).id := by
  refine List.ext_getElem (by simp) fun i hi _ => ?_
  have hi : i < (op.plan ids s).batch.length := by simpa using hi
  simpa using (op.isCascade_plan ids hs).ids i _ (List.getElem?_eq_getElem hi)

/-- It does not matter what else was measured. -/
theorem Turn.Settles.withLog {t : Turn} (h : t.Settles) {log : Log}
    (hlog : log.counter .dropped = t.log.counter .dropped) : Turn.Settles { t with log } := by
  cases h with
  | handedOver batch handed events nonempty dropped =>
    exact .handedOver batch handed events nonempty (hlog.trans dropped)
  | dropped detail result handed dropped =>
    exact .dropped detail result handed (hlog.trans dropped)
  | nothing created result handed dropped =>
    exact .nothing created result handed (hlog.trans dropped)

/-- A plan that is carried out settles its events. -/
theorem settles_carryOut {store : Store σ} (hstore : store.MeasuresStorage) (publish : Publisher π)
    (p : Plan) (w : RecordedWorld σ π) :
    ∃ bs log d, w.Grows p.batch.length bs log (w.carryOut store publish.recorded p).2 ∧
      log.Counts p.batch.length d 1 ∧
      Turn.Settles ⟨(w.carryOut store publish.recorded p).1, p.batch.map Event.id, bs, log⟩ := by
  have hgrows₁ := World.grows_withEvents p.batch w
  have hcounts₁ := Log.counts_events p.batch
  obtain ⟨l₂, hl₂, hgrows₂⟩ := World.grows_commit hstore p.next (w.withEvents p.batch)
  simp only [World.carryOut]
  generalize World.commit store p.next (w.withEvents p.batch) = outcome at hgrows₂ ⊢
  obtain ⟨e | s, w₂⟩ := outcome <;> dsimp only at hgrows₂ ⊢
  · obtain ⟨l₃, hl₃, hgrows₃⟩ := World.grows_giveUp e p.batch.length w₂
    have hcounts := (hcounts₁.append hl₂.counts).append hl₃
    simp only [Nat.zero_add, Nat.add_zero] at hcounts
    exact ⟨_, _, _, (hgrows₁.trans hgrows₂).trans hgrows₃, hcounts,
      .dropped e.message rfl rfl (by simpa using hcounts.dropped)⟩
  · obtain ⟨l₃, hl₃, hgrows₃⟩ := World.grows_handOver publish p.batch w₂
    have hcounts := (hcounts₁.append hl₂.counts).append hl₃
    refine ⟨_, _, _, (hgrows₁.trans hgrows₂).trans hgrows₃, hcounts, ?_⟩
    cases hbatch : p.batch with
    | nil => exact .nothing rfl rfl rfl (hbatch ▸ hcounts.dropped)
    | cons e es =>
      exact .handedOver _ rfl (List.map_map ..) (by simp) (hbatch ▸ hcounts.dropped)

/-- An operation settles its events. -/
theorem settles_operate {store : Store σ} (hstore : store.MeasuresStorage) (publish : Publisher π)
    (op : Operation) (w : RecordedWorld σ π) :
    ∃ n bs log d, w.Grows n bs log (operate store publish.recorded op w).2 ∧
      log.Counts n d 1 ∧
      Turn.Settles ⟨(operate store publish.recorded op w).1,
        (List.range n).map fun i => (w.fresh i).id, bs, log⟩ := by
  obtain ⟨l₁, hl₁, hgrows₁⟩ := World.grows_see hstore op w
  rw [operate_eq]
  rcases hsee : World.see store op w with ⟨e | s, w₁⟩ <;> rw [hsee] at hgrows₁ <;>
    dsimp only at hgrows₁ ⊢
  · obtain ⟨l₂, hl₂, hgrows₂⟩ := World.grows_giveUp e 0 w₁
    have hcounts := hl₁.counts.append hl₂
    exact ⟨_, _, _, _, hgrows₁.trans hgrows₂, hcounts, .dropped e.message rfl rfl hcounts.dropped⟩
  · -- The events of the plan have the next ids, as no id was taken for the look.
    have hfresh : w₁.fresh = w.fresh := by
      funext i
      rw [World.fresh, World.fresh, (World.see_frame hsee).1]
    obtain ⟨bs, l₂, d, hgrows₂, hl₂, hsettles⟩ :=
      settles_carryOut hstore publish (op.plan w₁.fresh s) w₁
    rw [ids_plan op (World.isConsistent_see hsee)] at hsettles
    rw [hfresh] at hgrows₂ hl₂ hsettles ⊢
    have hgrows := hgrows₁.trans hgrows₂
    have hcounts := hl₁.counts.append hl₂
    simp only [Nat.zero_add] at hgrows hcounts
    exact ⟨_, _, _, _, hgrows, hcounts, hsettles.withLog (hcounts.dropped.trans hl₂.dropped.symm)⟩

/-! ## One operation after another -/

/-- Whatever surrounds a tracker and whatever it holds, it is at rest when an operation hands over
    its batch. -/
theorem tracker_prepare {ω : Type} (env : Surroundings ω) (op : Operation) (s : Scene ω) :
    (prepare env op s).2.tracker = {} := by
  unfold prepare
  rcases stage env op s with ⟨_, s⟩ | ⟨e, s⟩
  · dsimp only
    rcases hcommit : commit env s with ⟨_ | _, s'⟩
    · rfl
    · have hdraft : s'.tracker.draft = none := by
        rw [show s' = (commit env s).2 by rw [hcommit]]
        rfl
      dsimp only
      split <;> simp [hdraft]
  · rfl

/-- It is at rest after the operation. -/
theorem tracker_perform {ω : Type} (env : Surroundings ω) (op : Operation) (s : Scene ω) :
    (perform env op s).2.tracker = {} := by
  have hprepare := tracker_prepare env op s
  unfold perform
  generalize prepare env op s = outcome at hprepare ⊢
  obtain ⟨_ | batch, s'⟩ := outcome <;> exact hprepare

/-- So it does not matter that the tracker goes from one operation to the next. -/
theorem perform_eq (store : Store σ) (publish : Publisher π) (op : Operation) (w : World σ π) :
    perform (World.surroundings store publish) op { world := w } =
      ((operate store publish op w).1, { world := (operate store publish op w).2 }) := by
  have hrest := tracker_perform (World.surroundings store publish) op { world := w }
  unfold operate
  generalize perform (World.surroundings store publish) op { world := w } = outcome at hrest ⊢
  obtain ⟨result, tracker, world⟩ := outcome
  cases hrest
  rfl

/-- Operations one after the other, each with what the one before has left in the tracker. -/
def turns (store : Store σ) (publish : Publisher π) :
    List Operation → Scene (RecordedWorld σ π) → List Turn × Scene (RecordedWorld σ π)
  | [], s => ([], s)
  | op :: ops, s =>
    let (result, s') := perform (World.surroundings store publish.recorded) op s
    let (ts, s'') := turns store publish ops s'
    (.between result s.world s'.world :: ts, s'')

/-- Everything that was measured in a run. -/
def Turn.logs (ts : List Turn) : Log := ts.flatMap (·.log)

/-- Every batch that was handed over in a run. -/
def Turn.batches (ts : List Turn) : List (List WireEvent) := ts.flatMap (·.handed)

/-- What is true of a run of operations that leads from one world to another. -/
structure Conserves (w : RecordedWorld σ π) (ts : List Turn) (w' : RecordedWorld σ π) : Prop where
  /-- Every operation hands its events over together, or drops them and fails. -/
  settles : ∀ t ∈ ts, t.Settles
  /-- Every event that was created is in one batch, once, which the same operation handed over;
      or in none, and the same operation failed and dropped what it had created. -/
  once : ∀ (i : Nat) (t : Turn) id, ts[i]? = some t → id ∈ t.created →
    (∃ batch, t.handed = [batch] ∧ (batch.map (·.id)).count id = 1 ∧
      t.log.counter .dropped = 0 ∧
      ∀ (j : Nat) (u : Turn), ts[j]? = some u → j ≠ i → ∀ b ∈ u.handed, id ∉ b.map (·.id)) ∨
    ((∃ detail, t.result = .error (.internal detail)) ∧
      t.log.counter .dropped = t.created.length ∧
      ∀ b ∈ Turn.batches ts, id ∉ b.map (·.id))
  /-- The events are those for which an id was taken. -/
  created : ts.flatMap (·.created) =
    (List.range (w'.supply.taken - w.supply.taken)).map fun i => (w.fresh i).id
  /-- These are all the batches that were handed over. -/
  handed : w'.publisher.2 = w.publisher.2 ++ Turn.batches ts
  /-- This is all that was measured. -/
  log : w'.log = w.log ++ Turn.logs ts
  /-- All events that were created were handed over or dropped. -/
  enqueued : (Turn.logs ts).counter .enqueued =
    (Turn.batches ts).flatten.length + (Turn.logs ts).counter .dropped
  /-- Every operation ended well or failed. -/
  ended : (Turn.logs ts).counter .completed + (Turn.logs ts).counter .failed = ts.length

/-- The events of an operation were handed over or dropped. -/
theorem Turn.Settles.length_created {t : Turn} (h : t.Settles) :
    t.created.length = t.handed.flatten.length + t.log.counter .dropped := by
  cases h with
  | handedOver batch handed events _ dropped => simp [handed, ← events, dropped]
  | dropped _ _ handed dropped => simp [handed, dropped]
  | nothing created _ handed dropped => simp [created, handed, dropped]

/-- What an operation hands over are the events that it created. -/
theorem Turn.Settles.mem_created {t : Turn} (h : t.Settles) {b : List WireEvent} {id : Id}
    (hb : b ∈ t.handed) (hid : id ∈ b.map (·.id)) : id ∈ t.created := by
  cases h with
  | handedOver batch handed events =>
    rw [handed, List.mem_singleton] at hb
    rwa [← events, ← hb]
  | dropped _ _ handed | nothing _ _ handed =>
    rw [handed] at hb
    cases hb

theorem length_created {ts : List Turn} (h : ∀ t ∈ ts, t.Settles) :
    (ts.flatMap (·.created)).length =
      (Turn.batches ts).flatten.length + (Turn.logs ts).counter .dropped := by
  induction ts with
  | nil => rfl
  | cons t ts ih =>
    obtain ⟨ht, hts⟩ := List.forall_mem_cons.1 h
    have hlength := ht.length_created
    have ih := ih hts
    simp only [Turn.batches, Turn.logs, List.flatMap_cons, List.length_append,
      List.flatten_append, Log.counter_append] at ih ⊢
    omega

/-- Where the ids are distinct, an event is handed over by the operation that created it, and
    by no other. -/
theorem eq_of_mem_handed {ts : List Turn} (h : ∀ t ∈ ts, t.Settles)
    (hids : (ts.flatMap (·.created)).Nodup) {i j : Nat} {t u : Turn} (ht : ts[i]? = some t)
    (hu : ts[j]? = some u) {b : List WireEvent} {id : Id} (hid : id ∈ t.created)
    (hb : b ∈ u.handed) (hmem : id ∈ b.map (·.id)) : j = i := by
  have hcreated := (h u (List.mem_of_getElem? hu)).mem_created hb hmem
  have hdisjoint := List.pairwise_iff_getElem.1 (List.nodup_flatMap.1 hids).2
  obtain ⟨hi, rfl⟩ := List.getElem?_eq_some_iff.1 ht
  obtain ⟨hj, rfl⟩ := List.getElem?_eq_some_iff.1 hu
  by_contra hne
  rcases Nat.lt_or_gt_of_ne hne with hlt | hlt
  · exact hdisjoint j i hj hi hlt hcreated hid
  · exact hdisjoint i j hi hj hlt hid hcreated

/-- What a run has left behind. -/
structure Runs (w : RecordedWorld σ π) (ts : List Turn) (w' : RecordedWorld σ π) (n d : Nat) :
    Prop where
  settles : ∀ t ∈ ts, t.Settles
  grows : w.Grows n (Turn.batches ts) (Turn.logs ts) w'
  created : ts.flatMap (·.created) = (List.range n).map fun i => (w.fresh i).id
  counts : (Turn.logs ts).Counts n d ts.length

theorem runs_turns {store : Store σ} (hstore : store.MeasuresStorage) (publish : Publisher π)
    (ops : List Operation) (w : RecordedWorld σ π) :
    let run := turns store publish ops { world := w }
    run.2.tracker = {} ∧ run.1.length = ops.length ∧
      ∃ n d, Runs w run.1 run.2.world n d := by
  induction ops generalizing w with
  | nil =>
    exact ⟨rfl, rfl, 0, 0, nofun, World.grows_refl w, rfl, Log.counts_nil⟩
  | cons op ops ih =>
    obtain ⟨n, bs, log, d, hgrows, hcounts, hsettles⟩ := settles_operate hstore publish op w
    have hbetween := Turn.between_eq hgrows (operate store publish.recorded op w).1
    simp only [turns, perform_eq, hbetween]
    generalize (operate store publish.recorded op w).1 = result at hsettles ⊢
    generalize (operate store publish.recorded op w).2 = w₁ at hgrows ⊢
    obtain ⟨htracker, hlength, m, d', hruns⟩ := ih w₁
    refine ⟨htracker, by simp [hlength], n + m, d + d', ?_, hgrows.trans hruns.grows, ?_, ?_⟩
    · exact List.forall_mem_cons.2 ⟨hsettles, hruns.settles⟩
    · have hfresh : w₁.fresh = fun i => w.fresh (n + i) := by
        funext i
        rw [World.fresh, World.fresh, hgrows.supply, Nat.add_assoc]
      rw [List.flatMap_cons, hruns.created, hfresh, List.range_add, List.map_append, List.map_map]
      rfl
    · have hlogs := hcounts.append hruns.counts
      rwa [Nat.add_comm 1] at hlogs

/-- Events are conserved, however often the store and the publisher fail. An operation that
    fails before it has handed its events over drops them, and none is left for the next. -/
theorem conserves_turns {store : Store σ} (hstore : store.MeasuresStorage) (publish : Publisher π)
    (ops : List Operation) (w : RecordedWorld σ π)
    (hids : ((turns store publish ops { world := w }).1.flatMap (·.created)).Nodup) :
    let run := turns store publish ops { world := w }
    run.2.tracker = {} ∧ run.1.length = ops.length ∧ Conserves w run.1 run.2.world := by
  obtain ⟨htracker, hlength, n, d, hruns⟩ := runs_turns hstore publish ops w
  refine ⟨htracker, hlength, ?_⟩
  generalize (turns store publish ops { world := w }).1 = ts at hids hruns ⊢
  generalize (turns store publish ops { world := w }).2.world = w' at hruns ⊢
  refine ⟨hruns.settles, fun i t id ht hid => ?_, ?_, hruns.grows.handed, hruns.grows.log, ?_,
    hruns.counts.ended⟩
  · have hother := fun (j : Nat) (u : Turn) (hu : ts[j]? = some u) b hb hmem =>
      eq_of_mem_handed hruns.settles hids ht hu (b := b) hid hb hmem
    have hmem := List.mem_of_getElem? ht
    cases hruns.settles t hmem with
    | handedOver batch handed events _ dropped =>
      have hnodup : (batch.map (·.id)).Nodup := events ▸ (List.nodup_flatMap.1 hids).1 t hmem
      refine .inl ⟨batch, handed, List.count_eq_one_of_mem hnodup (events ▸ hid), dropped, ?_⟩
      exact fun j u hu hne b hb hmem => hne (hother j u hu b hb hmem)
    | dropped detail result handed dropped =>
      refine .inr ⟨⟨detail, result⟩, dropped, fun b hb hmem => ?_⟩
      obtain ⟨u, hu, hb⟩ := List.mem_flatMap.1 hb
      obtain ⟨j, hj⟩ := List.mem_iff_getElem?.1 hu
      -- Only the operation itself could have handed the event over, and it has not.
      have hji := hother j u hj b hb hmem
      rw [hji, ht] at hj
      cases hj
      rw [handed] at hb
      cases hb
    | nothing created =>
      rw [created] at hid
      cases hid
  · rw [hruns.created, hruns.grows.supply, Nat.add_sub_cancel_left]
  · rw [hruns.counts.enqueued, ← length_created hruns.settles, hruns.created, List.length_map,
      List.length_range]

/-- A store that keeps nothing. Its script says which of its next calls fail. -/
def scripted : Store (List Bool) where
  get script := match script with
    | true :: rest =>
      { result := .error (.storage "down"), log := [.storageFailed .get], state := rest }
    | rest => { result := .error .absent, state := rest.tail }
  set state script := match script with
    | true :: rest =>
      { result := .error (.storage "full"), log := [.storageFailed .set], state := rest }
    | rest => { result := .ok state, state := rest.tail }
  clear script := { result := .ok .empty, state := script }

theorem measuresStorage_scripted : scripted.MeasuresStorage := by
  refine ⟨fun script => ?_, fun state script => ?_, fun script => nofun⟩ <;>
    simp only [scripted] <;> split
  · exact fun m hm => ⟨.get, List.mem_singleton.1 hm⟩
  · exact nofun
  · exact fun m hm => ⟨.set, List.mem_singleton.1 hm⟩
  · exact nofun

/-- The store fails to read, then to write, then the publisher fails, and then everything
    works. -/
theorem conserves_turns_failing :
    let w : RecordedWorld (List Bool) Recorder := {
      store := [true, false, true]
      publisher := ({ scripted := [.error ⟨.server, "down"⟩] }, [])
      supply := { ids := fun n => ⟨Id.v7 n 0, Id.version_v7 n 0⟩ } }
    let ops : List Operation :=
      [.registerArea, .registerArea, .registerVisitor, .deregisterSession, .registerClick]
    let run := turns scripted Recorder.deliver ops { world := w }
    run.1.map (·.result) = [.error (.internal "Site state storage failed: down"),
        .error (.internal "Site state storage failed: full"),
        .error (.internal "InternalServerError: down"), .ok 0, .ok 4] ∧
      run.1.map (·.created.length) = [0, 3, 1, 0, 4] ∧
      run.1.map (·.handed.map List.length) = [[], [], [1], [], [4]] ∧
      (Turn.logs run.1).counter .dropped = 3 ∧ Conserves w run.1 run.2.world := by
  intro w ops run
  exact ⟨by decide +kernel, by decide +kernel, by decide +kernel, by decide +kernel,
    (conserves_turns measuresStorage_scripted Recorder.deliver ops w (by decide +kernel)).2.2⟩

end Tracker

end Clickstream
