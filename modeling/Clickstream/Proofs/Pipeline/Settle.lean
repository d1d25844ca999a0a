import Clickstream.Proofs.Pipeline.Simulation

/-!
# Settling is a schedule

`Pipeline.publish` makes a call and then takes every step that is possible, with a transport
that answers at once. What it does is one of the schedules that the call can go by: the
worker serves its requests one by one, the delivery asks and posts the answer, the router
routes what there is.

* `publishes_publish`: hence what a program sees that publishes so is what every other
  scheduler may show it.
-/

namespace Clickstream

variable {τ π : Type}

/-- The transport of a worker that answers at once. -/
def Transport.atOnce (deliver : τ → Publisher π) : Transport τ π := fun t batch x =>
  let (result, x) := deliver t batch x
  (some result, x)

theorem Service.ask_atOnce {deliver : τ → Publisher π} {s : Service τ} {t : τ}
    (h : s.worker.transport = some t) (e : Delivery) (x : π) :
    ask (.atOnce deliver) (s, x) e =
      ((s.finish? e.number (deliver t e.batch x).1 0).getD s, (deliver t e.batch x).2) := by
  simp only [ask, h, Transport.atOnce]

namespace LivePipeline

variable {build : Destination → Except Verdict τ} {deliver : τ → Publisher π}
  {l l' l'' : LivePipeline τ π} {steps rest : List Step}

/-- A call that waits while everything in the background is done. -/
def publish (build : Destination → Except Verdict τ) (deliver : τ → Publisher π) :
    Publisher (LivePipeline τ π × Unit) := fun batch s =>
  let (result, p, x) := Pipeline.publish build (.atOnce deliver) batch (s.1.pipeline, s.1.world)
  (result, { s.1 with pipeline := p, world := x }, ())

theorem run?_append (h : l.run? build deliver steps = some l')
    (h' : l'.run? build deliver rest = some l'') :
    l.run? build deliver (steps ++ rest) = some l'' := by
  rw [run?, List.foldlM_append]
  exact Option.bind_eq_some_iff.2 ⟨l', h, h'⟩

theorem run?_cons {e : Step} (h : l.step? build deliver e = some l')
    (h' : l'.run? build deliver rest = some l'') :
    l.run? build deliver (e :: rest) = some l'' := by
  rw [run?, List.foldlM_cons]
  exact Option.bind_eq_some_iff.2 ⟨l', h, h'⟩

/-- A step on the gateway's side changes nothing but the gateway. -/
theorem gateway_of_move? {e : Gateway.Step} (h : l.move? build (.gateway e) = some l') :
    l.pipeline.gateway.step? e = some l'.pipeline.gateway ∧
      l'.pipeline = { l.pipeline with gateway := l'.pipeline.gateway } := by
  obtain ⟨p, hp, hl⟩ := Option.bind_eq_some_iff.1 h
  cases hl
  rw [Pipeline.step?] at hp
  split at hp
  · obtain ⟨g, hg, rfl⟩ := Option.map_eq_some_iff.1 hp
    exact ⟨hg, rfl⟩
  · cases hp

/-- A step on the worker's side changes nothing but the worker's side. -/
theorem service_of_move? {e : Service.Step} (h : l.move? build (.worker e) = some l') :
    l.pipeline.service.step? build e = some l'.pipeline.service ∧
      l'.pipeline = l.pipeline.withService l'.pipeline.service := by
  obtain ⟨p, hp, hl⟩ := Option.bind_eq_some_iff.1 h
  cases hl
  obtain ⟨s, hs, rfl⟩ := Option.map_eq_some_iff.1 hp
  exact ⟨hs, rfl⟩

theorem serve?_of_step? (h : l.step? build deliver .serve = some l') :
    l.pipeline.service.serve? build = some l'.pipeline.service ∧
      l'.pipeline = l.pipeline.withService l'.pipeline.service :=
  service_of_move? h

theorem route?_of_step? (h : l.step? build deliver .route = some l') :
    l.pipeline.gateway.route? = some l'.pipeline.gateway ∧
      l'.pipeline = { l.pipeline with gateway := l'.pipeline.gateway } :=
  gateway_of_move? h

theorem finish?_of_step? {n elapsed : Nat}
    (h : l.step? build deliver (.finish n elapsed) = some l') :
    ∃ result, l.answers.lookup n = some result ∧
      l.pipeline.service.finish? n result elapsed = some l'.pipeline.service ∧
      l'.pipeline = l.pipeline.withService l'.pipeline.service := by
  obtain ⟨result, hresult, h⟩ := Option.bind_eq_some_iff.1 h
  exact ⟨result, hresult, service_of_move? h⟩

end LivePipeline

namespace Situation

variable {build : Destination → Except Verdict τ} {deliver : τ → Publisher π}
  {id i : Id} {d : Destination} {s s' : Situation π} {result : DeliveryResult}
  {x : π × List (List WireEvent)} {batch : List WireEvent}

/-- The worker serves what there is, the request to configure it first. -/
theorem serveAll_posted (build : Destination → Except Verdict τ) (deliver : τ → Publisher π)
    (id : Id) (d : Destination) (hleg : s.leg = .posted i batch) :
    ∃ (steps : List LivePipeline.Step) (s₁ s₂ : Situation π), (∀ e ∈ steps, e.isBackground) ∧
      (s.live build id d).run? build deliver steps = some (s₂.live build id d) ∧
      s₁.setup ≠ .requested ∧ s₁.past = s.past ∧ s₁.given = s.given ∧ s₁.world = s.world ∧
      IsTaken build deliver d i batch s₁ s₂ ∧
      (s.live build id d).pipeline.service.serveAll build =
        (s₂.live build id d).pipeline.service ∧
      (s₂.live build id d).pipeline =
        (s.live build id d).pipeline.withService (s₂.live build id d).pipeline.service := by
  by_cases hsetup : s.setup = .requested
  · -- Both requests are in the queue.
    have hresponses : s.leg.responses = [] := by
      rw [hleg]
      rfl
    have hconfigure : (s.live build id d).step? build deliver .serve = _ :=
      step?_serve_requested hsetup hresponses
    obtain ⟨s₂, htaken, hserve⟩ := exists_isTaken build deliver id d
      (s := { s with setup := .answered }) (by simp) hleg
    refine ⟨[.serve, .serve], { s with setup := .answered }, s₂,
      by simp [LivePipeline.Step.isBackground],
      LivePipeline.run?_cons hconfigure (LivePipeline.run?_cons hserve rfl), by simp, rfl, rfl, rfl,
      htaken, ?_⟩
    obtain ⟨hconfigure, hframe⟩ := LivePipeline.serve?_of_step? hconfigure
    obtain ⟨hserve, hframe'⟩ := LivePipeline.serve?_of_step? hserve
    have hqueue : (s.live build id d).pipeline.service.link.requests.queue =
        [.configure id d, .publish i batch] := by
      simp [live, Pipeline.service, hsetup, hleg, Setup.requests, Leg.requests]
    refine ⟨?_, by rw [hframe', hframe]; rfl⟩
    simp only [Service.serveAll, hqueue, List.foldl_cons, List.foldl_nil, hconfigure, hserve,
      Option.getD_some]
  · obtain ⟨s₂, htaken, hserve⟩ := exists_isTaken build deliver id d hsetup hleg
    refine ⟨[.serve], s, s₂, by simp [LivePipeline.Step.isBackground],
      LivePipeline.run?_cons hserve rfl, hsetup, rfl, rfl, rfl, htaken, ?_⟩
    obtain ⟨hserve, hframe⟩ := LivePipeline.serve?_of_step? hserve
    have hqueue : (s.live build id d).pipeline.service.link.requests.queue =
        [.publish i batch] := by
      simp [live, Pipeline.service, Setup.requests_of_ne hsetup, hleg, Leg.requests]
    refine ⟨?_, hframe⟩
    simp only [Service.serveAll, hqueue, List.foldl_cons, List.foldl_nil, hserve,
      Option.getD_some]

/-- The delivery asks, and posts the answer. -/
theorem askFrom_given (deliver : τ → Publisher π) (id : Id) {e : Delivery} {t : τ} {n : Nat}
    (hsetup : s.setup ≠ .requested)
    (hleg : s.leg = .given e) (hbuild : build d = .ok t) (hn : n ≤ e.number) :
    ∃ s' : Situation π, (s.live build id d).run? build deliver
        [.ask e.number, .finish e.number 0] = some (s'.live build id d) ∧
      s'.setup = s.setup ∧ s'.past = s.past ∧ (∃ c, s'.leg = .answered c) ∧
      Service.askFrom (.atOnce deliver) n ((s.live build id d).pipeline.service, s.world) =
        ((s'.live build id d).pipeline.service, s'.world) ∧
      (s'.live build id d).pipeline =
        (s.live build id d).pipeline.withService (s'.live build id d).pipeline.service := by
  obtain ⟨setup, leg, past, world, given, ids, verdict, reports, log, workerLog⟩ := s
  cases hleg
  have hask : (live build id d ⟨setup, .given e, past, world, given, ids, verdict, reports, log,
      workerLog⟩).step? build deliver (.ask e.number) = _ := step?_ask hsetup rfl hbuild
  have hfinish : (live build id d ⟨setup, .asked e (deliver t e.batch world).1, past,
      (deliver t e.batch world).2, given, ids, verdict, reports, log, workerLog⟩).step? build
        deliver (.finish e.number 0) = _ := step?_finish 0 rfl
  refine ⟨_, LivePipeline.run?_cons hask (LivePipeline.run?_cons hfinish rfl), rfl, rfl,
    ⟨_, rfl⟩, ?_⟩
  obtain ⟨r, hr, hpost, hframe⟩ := LivePipeline.finish?_of_step? hfinish
  obtain rfl : (deliver t e.batch world).1 = r := by simpa [live, Leg.answers] using hr
  have hrunning : [e].filter (n ≤ ·.number) = [e] := by simp [hn]
  have htransport : setup.transport build d = some t := by
    rw [Setup.transport_of_ne hsetup, hbuild]
    rfl
  refine ⟨?_, hframe⟩
  calc Service.askFrom (.atOnce deliver) n _
      = ([e].filter (n ≤ ·.number)).foldl (Service.ask (.atOnce deliver)) _ := rfl
    _ = _ := by rw [hrunning, List.foldl_cons, Service.ask_atOnce htransport]
    _ = _ := by
      rw [List.foldl_nil]
      exact congrArg (fun o => (Option.getD o _, (deliver t e.batch world).2)) hpost

/-- The router routes what there is. -/
theorem settle_answered (build : Destination → Except Verdict τ) (deliver : τ → Publisher π)
    (id : Id) (d : Destination) {c : FinishedCall} (hsetup : s.setup ≠ .requested)
    (hleg : s.leg = .answered c) :
    ∃ (steps : List LivePipeline.Step) (s' : Situation π), (∀ e ∈ steps, e.isBackground) ∧
      (s.live build id d).run? build deliver steps = some (s'.live build id d) ∧
      s'.past = s.past ∧ s'.leg = .ended c ∧ s'.world = s.world ∧
      (s.live build id d).pipeline.gateway.settle = (s'.live build id d).pipeline.gateway ∧
      (s'.live build id d).pipeline =
        { (s.live build id d).pipeline with gateway := (s'.live build id d).pipeline.gateway } := by
  cases h : s.setup with
  | requested => exact absurd h hsetup
  | answered =>
    -- The verdict stands in the queue before the result.
    obtain ⟨reports, hhear⟩ := step?_route_answered build deliver id d h
    have hroute : (live build id d { s with
        setup := .settled
        verdict := some (Worker.verdict build d)
        reports }).step? build deliver .route = _ := step?_route_ended rfl hleg
    refine ⟨[.route, .route], _, by simp [LivePipeline.Step.isBackground],
      LivePipeline.run?_cons hhear (LivePipeline.run?_cons hroute rfl), rfl, rfl, rfl, ?_⟩
    obtain ⟨hhear, hframe⟩ := LivePipeline.route?_of_step? hhear
    obtain ⟨hroute, hframe'⟩ := LivePipeline.route?_of_step? hroute
    have hqueue : (s.live build id d).pipeline.gateway.link.responses.queue =
        [.configured id (Worker.verdict build d), .ofResult c.id c.result] := by
      simp [live, h, hleg, Setup.responses, Leg.responses]
    refine ⟨?_, by rw [hframe', hframe]⟩
    simp only [Gateway.settle, hqueue, List.foldl_cons, List.foldl_nil, hhear, hroute,
      Option.getD_some, close?_live, Option.getD_none]
  | settled =>
    have hroute : (s.live build id d).step? build deliver .route = _ := step?_route_ended h hleg
    refine ⟨[.route], _, by simp [LivePipeline.Step.isBackground],
      LivePipeline.run?_cons hroute rfl, rfl, rfl, rfl, ?_⟩
    obtain ⟨hroute, hframe⟩ := LivePipeline.route?_of_step? hroute
    have hqueue : (s.live build id d).pipeline.gateway.link.responses.queue =
        [.ofResult c.id c.result] := by
      simp [live, h, hleg, Setup.responses, Leg.responses]
    refine ⟨?_, hframe⟩
    simp only [Gateway.settle, hqueue, List.foldl_cons, List.foldl_nil, hroute, Option.getD_some,
      close?_live, Option.getD_none]

/-- With a posted request, settling brings the call to its end. -/
theorem settle_posted (build : Destination → Except Verdict τ) (deliver : τ → Publisher π)
    (id : Id) (d : Destination) (hleg : s.leg = .posted i batch) :
    ∃ (steps : List LivePipeline.Step) (s' : Situation π) (c : FinishedCall),
      (∀ e ∈ steps, e.isBackground) ∧
      (s.live build id d).run? build deliver steps = some (s'.live build id d) ∧
      s'.past = s.past ∧ s'.leg = .ended c ∧
      Pipeline.settle build (.atOnce deliver) ((s.live build id d).pipeline, s.world) =
        ((s'.live build id d).pipeline, s'.world) := by
  obtain ⟨serving, s₁, s₂, hserving, hrun₁, hsetup₁, hpast₁, hgiven₁, hworld₁, htaken, hserve,
    hframe₁⟩ := serveAll_posted build deliver id d hleg
  -- The delivery that has begun, if one has, asks and posts.
  have hasking : ∃ (steps : List LivePipeline.Step) (s₃ : Situation π) (c : FinishedCall),
      (∀ e ∈ steps, e.isBackground) ∧
      (s₂.live build id d).run? build deliver steps = some (s₃.live build id d) ∧
      s₃.setup = s₁.setup ∧ s₃.past = s₁.past ∧ s₃.leg = .answered c ∧
      Service.askFrom (.atOnce deliver) s.given.length
          ((s₂.live build id d).pipeline.service, s.world) =
        ((s₃.live build id d).pipeline.service, s₃.world) ∧
      (s₃.live build id d).pipeline =
        (s₂.live build id d).pipeline.withService (s₃.live build id d).pipeline.service := by
    cases htaken with
    | given t hbuild hbatch =>
      obtain ⟨s₃, hrun, hsetup, hpast, ⟨c, hc⟩, hask, hframe⟩ := askFrom_given deliver id
        (n := s.given.length) (s := { s₁ with
          leg := .given ⟨s₁.given.length, i, batch⟩
          given := s₁.given ++ [batch] }) hsetup₁ rfl hbuild
        (Nat.le_of_eq (congrArg List.length hgiven₁.symm))
      rw [← hworld₁]
      exact ⟨_, s₃, c, by simp [LivePipeline.Step.isBackground], hrun, hsetup, hpast, hc, hask,
        hframe⟩
    | refused e hdirect =>
      -- The worker has answered already, and there is nothing to ask.
      refine ⟨[], _, _, by simp, rfl, rfl, rfl, rfl, ?_, rfl⟩
      rw [← hworld₁]
      rfl
  obtain ⟨asking, s₃, c, hasking, hrun₂, hsetup₃, hpast₃, hleg₃, hask, hframe₂⟩ := hasking
  obtain ⟨routing, s₄, hrouting, hrun₃, hpast₄, hleg₄, hworld₄, hroute, hframe₃⟩ :=
    settle_answered build deliver id d (by rwa [hsetup₃]) hleg₃
  refine ⟨serving ++ (asking ++ routing), s₄, c, ?_,
    LivePipeline.run?_append hrun₁ (LivePipeline.run?_append hrun₂ hrun₃), ?_, hleg₄, ?_⟩
  · simp only [List.mem_append]
    rintro e (he | he | he)
    · exact hserving e he
    · exact hasking e he
    · exact hrouting e he
  · rw [hpast₄, hpast₃, hpast₁]
  · have hgiven : (s.live build id d).pipeline.service.worker.given = s.given := rfl
    have hservice : (s.live build id d).pipeline.withService
        (s₃.live build id d).pipeline.service = (s₃.live build id d).pipeline := by
      rw [hframe₂, hframe₁]
      rfl
    simp only [Pipeline.settle, Service.settle, hserve, hgiven, hask, stop?_live, Option.getD_none,
      hservice, hroute, ← hframe₃, hworld₄]

/-- A call that nothing comes between has its request posted. -/
theorem call_live (build : Destination → Except Verdict τ) (deliver : τ → Publisher π) (id : Id)
    (d : Destination) (hrest : s.leg.isAtRest) (batch : List WireEvent) :
    (s.live build id d).pipeline.call batch = (live build id d { s.enter batch with
      leg := .posted s.ids.take.1.id batch }).pipeline := by
  -- Both halves of the call are steps, and those lead from situation to situation.
  have henter : (s.live build id d).step? build deliver (.enter batch) = _ := step?_enter hrest
  obtain ⟨henter, hframe⟩ := LivePipeline.gateway_of_move? henter
  have henter : (s.live build id d).pipeline.gateway.enter s.ids.take.1.id batch =
      ((s.enter batch).live build id d).pipeline.gateway := Option.some.inj henter
  have hpost : ((s.enter batch).live build id d).step? build deliver
      (.post (s.enter batch).past.length) = _ := step?_post (i := s.ids.take.1.id) rfl
  obtain ⟨hpost, hframe'⟩ := LivePipeline.gateway_of_move? hpost
  have hpost : ((s.enter batch).live build id d).pipeline.gateway.post?
      (s.enter batch).past.length = _ := hpost
  have hn : (s.live build id d).pipeline.gateway.calls.length = (s.enter batch).past.length :=
    length_calls_of_isAtRest hrest
  have hcall : (s.live build id d).pipeline.gateway.publish s.ids.take.1.id batch =
      (live build id d { s.enter batch with
        leg := .posted s.ids.take.1.id batch }).pipeline.gateway := by
    simp only [Gateway.publish, henter, hn, hpost, Option.getD_some, withdraw?_live,
      Option.getD_none]
  rw [hframe', hframe, ← hcall]
  rfl

/-- Whoever publishes through a pipeline at rest, and lets it settle, follows a schedule. -/
theorem publishes_publish (hrest : s.leg.isAtRest) (batch : List WireEvent) :
    let after := LivePipeline.publish build deliver batch (s.live build id d, ())
    LivePipeline.Publishes build deliver batch (s.live build id d) after.1 after.2.1 := by
  obtain ⟨steps, s', c, hsteps, hrun, hpast, hleg, hsettle⟩ := settle_posted build deliver id d
    (s := { s.enter batch with leg := .posted s.ids.take.1.id batch }) rfl
  have hn : (s.live build id d).pipeline.gateway.calls.length = s'.past.length := by
    rw [hpast]
    exact length_calls_of_isAtRest hrest
  have hresult : (s'.live build id d).outcome? s'.past.length = some c.result := by
    rw [outcome?_live, hleg]
    rfl
  have hafter : LivePipeline.publish build deliver batch (s.live build id d, ()) =
      (c.result, s'.live build id d, ()) := by
    have hsettle : Pipeline.settle build (.atOnce deliver)
        ((s.live build id d).pipeline.call batch, (s.live build id d).world) =
          ((s'.live build id d).pipeline, s'.world) := by
      rw [call_live build deliver id d hrest]
      exact hsettle
    have hanswers : s.leg.answers = s'.leg.answers := by
      rw [hleg, Leg.answers_of_isAtRest hrest]
      rfl
    rw [LivePipeline.outcome?, Gateway.outcome?] at hresult
    simp only [LivePipeline.publish, Pipeline.publish, hsettle, hn, hresult, Option.getD_some]
    simp only [live, hanswers]
  rw [hafter]
  refine ⟨{ after := steps, isBackground := by simpa using hsteps }, ?_, by rw [hn, hresult]⟩
  rw [LivePipeline.call?, LivePipeline.Schedule.steps, hn, hpast]
  refine LivePipeline.run?_cons (step?_enter hrest) (LivePipeline.run?_cons (step?_post rfl) hrun)

end Situation

end Clickstream
