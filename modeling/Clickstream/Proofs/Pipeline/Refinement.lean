import Clickstream.Proofs.Pipeline.Settle
import Clickstream.Proofs.Tracker.Simulation
import Clickstream.Recorder
import Clickstream.Store.Plain

/-!
# A pipeline instead of its transport

Whether a tracker calls a transport itself or goes through a pipeline makes no difference
to it, nor to its store, nor to the transport, whatever the schedule. This is so for every
transport that answers and for every store, and it takes no more of the ids of requests than
that they are there, as only one request waits at a time.

If the worker turns the destination down, each batch comes back with that as its error, but
everything is stored as if it had been delivered.

* `isScheduler_publish`: the pipeline that settles after each call is one of the schedulers;
* `operateAll_pipeline`: a pipeline for a destination that is accepted refines its transport.
-/

namespace Clickstream

variable {σ τ π κ : Type} {build : Destination → Except Verdict τ} {deliver : τ → Publisher π}
  {id : Id} {d : Destination} {s : Situation π} {l : LivePipeline τ π}

/-! ## Between calls -/

namespace Situation

/-- Between calls a pipeline is at rest. -/
theorem exists_live_of_isBetweenCalls (hrest : s.leg.isAtRest)
    (h : LivePipeline.IsBetweenCalls build deliver (s.live build id d) l) :
    ∃ s' : Situation π, l = s'.live build id d ∧ s'.leg.isAtRest := by
  induction h with
  | start => exact ⟨s, rfl, hrest⟩
  | call _ hpublishes ih =>
    obtain ⟨s₁, rfl, hrest₁⟩ := ih
    obtain ⟨s₂, rfl, hrest₂, -⟩ := direct_of_publishes hrest₁ hpublishes
    exact ⟨s₂, rfl, hrest₂⟩

/-- A pipeline that was just started is at rest. -/
theorem live_start (build : Destination → Except Verdict τ) {ids : Supply} {p : Pipeline τ}
    (h : Pipeline.start ids d = .ok p) (x : π) :
    { pipeline := p, world := x } =
      live build ids.take.1.id d { world := x, ids := ids.take.2 } := by
  simp only [Pipeline.start, Gateway.connect] at h
  cases hcheck : d.check <;> rw [hcheck] at h <;> cases h
  rfl

end Situation

theorem LivePipeline.exists_live {ids : Supply} {p : Pipeline τ} (h : Pipeline.start ids d = .ok p)
    {x : π} (hl : IsBetweenCalls build deliver { pipeline := p, world := x } l) :
    ∃ s : Situation π, l = s.live build ids.take.1.id d ∧ s.leg.isAtRest := by
  rw [Situation.live_start build h x] at hl
  exact Situation.exists_live_of_isBetweenCalls rfl hl

/-- The pipeline that settles after each call is a scheduler. -/
theorem LivePipeline.isScheduler_publish {ids : Supply} {p : Pipeline τ}
    (h : Pipeline.start ids d = .ok p) (deliver : τ → Publisher π) (x : π) :
    IsScheduler build deliver { pipeline := p, world := x } (publish build deliver) := by
  rintro batch ⟨l, ⟨⟩⟩ hbetween -
  obtain ⟨s, rfl, hrest⟩ := exists_live h hbetween
  exact Situation.publishes_publish hrest batch

/-! ## Simulation -/

/-- Whether a pipeline has come through calls to a state of its transport, which was given
    these batches. -/
def LivePipeline.HasReached (build : Destination → Except Verdict τ) (deliver : τ → Publisher π)
    (start : LivePipeline τ π) (l : LivePipeline τ π × κ) (y : π × List (List WireEvent)) : Prop :=
  IsBetweenCalls build deliver start l.1 ∧ y = (l.1.world, l.1.pipeline.worker.given)

namespace Publisher

theorem direct_of_ok {t : τ} {batch : List WireEvent} (hbuild : build d = .ok t)
    (hbatch : batch.isEmpty = false) (y : π × List (List WireEvent)) :
    direct build deliver d batch y = (deliver t).recorded batch y := by
  simp only [direct, hbuild, hbatch, Bool.false_eq_true, if_false]

theorem direct_of_error {v : Verdict} (hbuild : build d = .error v) (batch : List WireEvent)
    (y : π × List (List WireEvent)) :
    direct build deliver d batch y = (.error Worker.notConfigured, y) := by
  rw [direct, hbuild]

variable {ids : Supply} {p : Pipeline τ} {x : π} {publish : Publisher (LivePipeline τ π × κ)}

/-- A pipeline answers as the direct publisher does. -/
theorem simulates_direct (hstart : Pipeline.start ids d = .ok p)
    (hpublish : LivePipeline.IsScheduler build deliver { pipeline := p, world := x } publish) :
    publish.Simulates (LivePipeline.HasReached build deliver { pipeline := p, world := x })
      (direct build deliver d) := by
  rintro batch ⟨l, k⟩ y - ⟨hbetween, rfl⟩
  obtain ⟨s₁, rfl, hrest₁⟩ := LivePipeline.exists_live hstart hbetween
  have hcall := hpublish batch (_, k) hbetween (Situation.exists_publishes hrest₁ batch)
  obtain ⟨s₂, hs₂, -, hdirect⟩ := Situation.direct_of_publishes hrest₁ hcall
  have hdirect : direct build deliver d batch ((s₁.live build ids.take.1.id d).world,
      (s₁.live build ids.take.1.id d).pipeline.worker.given) = _ := hdirect
  refine ⟨by rw [hdirect], hbetween.call hcall, ?_⟩
  rw [hdirect, hs₂]
  rfl

/-- So it answers as the transport does, if there is one. -/
theorem simulates_recorded {t : τ} (hstart : Pipeline.start ids d = .ok p)
    (hpublish : LivePipeline.IsScheduler build deliver { pipeline := p, world := x } publish)
    (hbuild : build d = .ok t) :
    publish.Simulates (LivePipeline.HasReached build deliver { pipeline := p, world := x })
      (deliver t).recorded := by
  intro batch l y hbatch hl
  rw [← direct_of_ok hbuild hbatch]
  exact simulates_direct hstart hpublish batch l y hbatch hl

/-- If there is none, it answers that, and nothing changes. -/
theorem simulates_refusal {v : Verdict} (hstart : Pipeline.start ids d = .ok p)
    (hpublish : LivePipeline.IsScheduler build deliver { pipeline := p, world := x } publish)
    (hbuild : build d = .error v) (z : π × List (List WireEvent)) :
    publish.Simulates (fun l (_ : Unit) =>
        LivePipeline.HasReached build deliver { pipeline := p, world := x } l z)
      fun _ u => (.error Worker.notConfigured, u) := by
  intro batch l _ hbatch hl
  have h := simulates_direct hstart hpublish batch l z hbatch hl
  rwa [direct_of_error hbuild] at h

end Publisher

/-! ## Runs of a tracker -/

namespace Tracker

/-- Operations through a pipeline come to the same as those that call a transport, of which
    it is also known which batches it was given. -/
structure IsSameRun (piped : List TrackingResult × World σ (LivePipeline τ π × κ))
    (direct : List TrackingResult × World σ (π × List (List WireEvent))) : Prop where
  results : piped.1 = direct.1
  store : piped.2.store = direct.2.store
  supply : piped.2.supply = direct.2.supply
  log : piped.2.log = direct.2.log
  transport : piped.2.publisher.1.world = direct.2.publisher.1
  given : piped.2.publisher.1.pipeline.worker.given = direct.2.publisher.2

/-- Operations through a pipeline whose worker turned the destination down: the transport
    is left alone, and the store is as it is with any publisher. -/
structure IsTurnedDown (store : Store σ) (publish : Publisher (LivePipeline τ π × κ))
    (ops : List Operation) (w : World σ π) (piped : World σ (LivePipeline τ π × κ)) : Prop where
  /-- What comes to be published next fails. -/
  refusal : ∀ op batch s,
    prepare (World.surroundings store publish) op { world := piped } = (.publishing batch, s) →
      (operate store publish op piped).1 = .error (.configuration Worker.notConfigured.detail)
  transport : piped.publisher.1.world = w.publisher
  given : piped.publisher.1.pipeline.worker.given = []
  stored : ∀ {π' : Type} (publish' : Publisher π') (x : π'),
    (operateAll store publish' ops (w.withPublisher x)).2.Agrees piped

/-- Operations through a pipeline for a destination that is accepted come to the same as those
    that call the transport for it, if one can be built, and are turned down otherwise. In
    either case every further call is answered. -/
theorem operateAll_pipeline {ids : Supply} {p : Pipeline τ} (hstart : Pipeline.start ids d = .ok p)
    (store : Store σ) (w : World σ π) {publish : Publisher (LivePipeline τ π × κ)}
    (hpublish : LivePipeline.IsScheduler build deliver { pipeline := p, world := w.publisher }
      publish) (k : κ) (ops : List Operation) :
    let start : LivePipeline τ π := { pipeline := p, world := w.publisher }
    let piped := operateAll store publish ops (w.withPublisher (start, k))
    (∀ t, build d = .ok t → IsSameRun piped
      (operateAll store (deliver t).recorded ops (w.withPublisher (w.publisher, [])))) ∧
    (∀ v, build d = .error v → IsTurnedDown store publish ops w piped.2) ∧
    piped.2.publisher.1.Answers build deliver := by
  intro start piped
  have hlive : start = Situation.live build ids.take.1.id d _ := Situation.live_start build hstart _
  have hgiven : start.pipeline.worker.given = [] := by
    rw [hlive]
    rfl
  have hreached : LivePipeline.HasReached build deliver start (start, k) (w.publisher, []) :=
    ⟨.start, by rw [hgiven]⟩
  refine ⟨fun t hbuild => ?_, fun v hbuild => ?_, ?_⟩
  · -- The relation that is kept says where the direct run must be.
    obtain ⟨y, hrun, -, hy⟩ := operateAll_of_simulates store
      (Publisher.simulates_recorded hstart hpublish hbuild) ops
      (w := w.withPublisher (start, k)) hreached
    have hrun : operateAll store (deliver t).recorded ops (w.withPublisher (w.publisher, [])) =
        (piped.1, piped.2.withPublisher y) := hrun
    rw [hrun]
    exact ⟨rfl, rfl, rfl, rfl, by rw [World.withPublisher, hy], by rw [World.withPublisher, hy]⟩
  · -- All that is kept is that the transport has not moved since the start.
    have hsimulates := Publisher.simulates_refusal hstart hpublish hbuild (w.publisher, [])
    obtain ⟨-, -, hrefused⟩ := operateAll_of_simulates (x := ()) store hsimulates ops
      (w := w.withPublisher (start, k)) hreached
    have hy := hrefused.2
    refine ⟨fun op batch s h => ?_, congrArg Prod.fst hy.symm, congrArg Prod.snd hy.symm,
      fun publish' x => operateAll_agrees store publish' publish ops ⟨rfl, rfl⟩⟩
    obtain ⟨hbatch, hresult⟩ := operate_of_publishing store publish h
    have hwire : (batch.map Event.toWire).isEmpty = false := by rw [List.isEmpty_map, hbatch]
    rw [hresult, (hsimulates _ _ () hwire hrefused).1]
    rfl
  · obtain ⟨y, -, hbetween, -⟩ := operateAll_of_simulates store
      (Publisher.simulates_direct hstart hpublish) ops (w := w.withPublisher (start, k)) hreached
    obtain ⟨s, hs, hrest⟩ := LivePipeline.exists_live hstart hbetween
    have hs : piped.2.publisher.1 = _ := hs
    rw [hs]
    exact Situation.answers_of_isAtRest hrest

/-- A click whose batch is turned down by the receiver, and an area, through a pipeline that
    settles after each call. -/
theorem operateAll_pipeline_settled :
    let id (n : Nat) : FreshId := ⟨Id.v7 n 0, Id.version_v7 n 0⟩
    let d : Destination := { apiKey := "key", host := "http://[::1]" }
    let build (_ : Destination) : Except Verdict Unit := .ok ()
    let deliver (_ : Unit) : Publisher Recorder := Recorder.deliver
    let w : World PlainStore Recorder := {
      store := {}
      publisher := { scripted := [.error ⟨.server, "down"⟩] }
      supply := { ids := id } }
    let ops : List Operation := [.registerClick, .registerArea]
    ∃ p, Pipeline.start { ids := fun n => id (n + 100) } d = .ok p ∧
      let direct := operateAll PlainStore.store (deliver ()).recorded ops
        (w.withPublisher (w.publisher, []))
      direct.1 = [.error (.internal "InternalServerError: down"), .ok 1] ∧
        direct.2.publisher.2.map List.length = [4, 1] ∧
        IsSameRun (operateAll PlainStore.store (LivePipeline.publish build deliver) ops
          (w.withPublisher ({ pipeline := p, world := w.publisher }, ()))) direct := by
  intro id d build deliver w ops
  have hcheck : d.check = .accepted := by decide +kernel
  have hstart : ∃ p : Pipeline Unit, Pipeline.start { ids := fun n => id (n + 100) } d = .ok p := by
    simp only [Pipeline.start, Gateway.connect, hcheck]
    exact ⟨_, rfl⟩
  obtain ⟨p, hstart⟩ := hstart
  refine ⟨p, hstart, rfl, rfl, ?_⟩
  exact (operateAll_pipeline hstart PlainStore.store w
    (LivePipeline.isScheduler_publish hstart deliver w.publisher) () ops).1 () rfl

end Tracker

end Clickstream
