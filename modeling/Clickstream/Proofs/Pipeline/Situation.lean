import Clickstream.Proofs.Pipeline.Schedule

/-!
# Situations of a pipeline

While one caller at a time waits for a pipeline, there are few situations that it can be
in. The request to configure the worker is on its way, answered or settled; the last call
has entered, or its request is posted, or its batch was given to the transport, and so on.
A `Situation` says how far both have come, with what they carry, and `Situation.live` is
the pipeline in that situation: both queues, the table, the worker and its deliveries.

* `step?_serve_requested` and so on: where a step leads from a situation in which it is
  possible. These are all steps that are.
-/

namespace Clickstream

/-- How far the request to configure the worker has come. -/
inductive Setup
  | requested
  | answered
  | settled

/-- A call that has its result. -/
structure FinishedCall where
  id : Id
  batch : List WireEvent
  result : DeliveryResult

/-- How far the last call has come. -/
inductive Leg
  /-- There was no call yet. -/
  | none
  | entered (id : Id) (batch : List WireEvent)
  | posted (id : Id) (batch : List WireEvent)
  /-- The batch is to be given to the transport. -/
  | given (d : Delivery)
  /-- The transport has answered. -/
  | asked (d : Delivery) (result : DeliveryResult)
  /-- The worker has answered. -/
  | answered (c : FinishedCall)
  | ended (c : FinishedCall)

/-- What there is in a pipeline between calls, or while a caller waits. -/
structure Situation (π : Type) where
  setup : Setup := .requested
  leg : Leg := .none
  /-- The calls before the last one. -/
  past : List FinishedCall := []
  world : π
  /-- The batches that the worker has taken for the transport. -/
  given : List (List WireEvent) := []
  ids : Supply
  verdict : Option Verdict := none
  reports : List Report := []
  /-- What the gateway measured. -/
  log : Log := []
  /-- What the worker measured. -/
  workerLog : Log := []

/-- The call as the gateway keeps it. -/
def FinishedCall.toCall (c : FinishedCall) : PublishCall :=
  { id := c.id, batch := c.batch, stage := .waiting, slot := some c.result }

/-- What a worker without a transport says of a destination. -/
def Worker.verdict {τ : Type} (build : Destination → Except Verdict τ) (d : Destination) :
    Verdict :=
  match build d with
  | .ok _ => .accepted
  | .error v => v

namespace Setup

variable {τ : Type} (build : Destination → Except Verdict τ) (id : Id) (d : Destination)

/-- What is on its way to the worker. -/
def requests : Setup → List Request
  | requested => [.configure id d]
  | _ => []

/-- What the worker has made of it. -/
def transport : Setup → Option τ
  | requested => .none
  | _ => (build d).toOption

/-- What is on its way to the gateway. -/
def responses : Setup → List Response
  | answered => [.configured id (Worker.verdict build d)]
  | _ => []

/-- How many steps are left. -/
def remaining : Setup → Nat
  | requested => 2
  | answered => 1
  | settled => 0

theorem remaining_le (s : Setup) : s.remaining ≤ 2 := by
  cases s <;> simp [remaining]

end Setup

namespace Leg

/-- The call as the gateway keeps it. -/
def calls : Leg → List PublishCall
  | none => []
  | entered id batch => [{ id, batch, stage := .entered }]
  | posted id batch => [{ id, batch, stage := .waiting }]
  | given d | asked d _ => [{ id := d.id, batch := d.batch, stage := .waiting }]
  | answered c => [{ id := c.id, batch := c.batch, stage := .waiting }]
  | ended c => [c.toCall]

/-- The entry of the call, which has a number. -/
def table (n : Nat) : Leg → List (Id × Nat)
  | none | ended _ => []
  | entered id _ | posted id _ => [(id, n)]
  | given d | asked d _ => [(d.id, n)]
  | answered c => [(c.id, n)]

/-- What is on its way to the worker. -/
def requests : Leg → List Request
  | posted id batch => [.publish id batch]
  | _ => []

/-- The deliveries on their way. -/
def running : Leg → List Delivery
  | given d | asked d _ => [d]
  | _ => []

/-- What the transport has answered. -/
def answers : Leg → List (Nat × DeliveryResult)
  | asked d result => [(d.number, result)]
  | _ => []

/-- What is on its way to the gateway. -/
def responses : Leg → List Response
  | answered c => [.ofResult c.id c.result]
  | _ => []

/-- Whether no call is on its way. -/
def isAtRest : Leg → Bool
  | none | ended _ => true
  | _ => false

/-- The last call, if it has its result. -/
def finished : Leg → List FinishedCall
  | ended c => [c]
  | _ => []

/-- What the caller has got, if it has. -/
def result? : Leg → Option DeliveryResult
  | ended c => some c.result
  | _ => .none

/-- Whether the caller waits for its result. -/
def isWaiting : Leg → Bool
  | posted _ _ | given _ | asked _ _ | answered _ => true
  | none | entered _ _ | ended _ => false

/-- How many steps are left. -/
def remaining : Leg → Nat
  | none | ended _ => 0
  | entered _ _ | posted _ _ => 4
  | given _ => 3
  | asked _ _ => 2
  | answered _ => 1

theorem not_isWaiting_of_isAtRest {l : Leg} (h : l.isAtRest) : ¬ l.isWaiting := by
  cases l with
  | none | ended => simp [isWaiting]
  | entered | posted | given | asked | answered => cases h

theorem answers_of_isAtRest {l : Leg} (h : l.isAtRest) : l.answers = [] := by
  cases l with
  | none | ended => rfl
  | entered | posted | given | asked | answered => cases h

theorem remaining_of_isAtRest {l : Leg} (h : l.isAtRest) : l.remaining = 0 := by
  cases l with
  | none | ended => rfl
  | entered | posted | given | asked | answered => cases h

end Leg

namespace Situation

variable {τ π : Type} (build : Destination → Except Verdict τ) (deliver : τ → Publisher π)
  (id : Id) (d : Destination)

/-- The pipeline in a situation; its first request had the given id. -/
def live (s : Situation π) : LivePipeline τ π where
  pipeline := {
    gateway := {
      link := {
        requests := { queue := s.setup.requests id d ++ s.leg.requests }
        responses := { queue := s.setup.responses build id d ++ s.leg.responses } }
      table := s.leg.table s.past.length
      verdict := s.verdict
      calls := s.past.map FinishedCall.toCall ++ s.leg.calls
      reports := s.reports
      log := s.log }
    ids := s.ids
    worker := { transport := s.setup.transport build d, running := s.leg.running, given := s.given }
    log := s.workerLog }
  world := s.world
  answers := s.leg.answers

/-- How many steps are left until nothing more happens in the background. -/
def remaining (s : Situation π) : Nat := s.setup.remaining + s.leg.remaining

end Situation

/-! ## Steps of any pipeline -/

section Steps

variable {τ π : Type} {build : Destination → Except Verdict τ} {deliver : τ → Publisher π}
  {id : Id} {d : Destination}

theorem LivePipeline.step?_enter {l : LivePipeline τ π} {batch : List WireEvent}
    (hsender : l.pipeline.gateway.link.requests.hasSender)
    (hopen : l.pipeline.gateway.isClosed = false) :
    let (id, ids) := l.pipeline.ids.take
    let g := l.pipeline.gateway
    l.step? build deliver (.enter batch) = some { l with
      pipeline := { l.pipeline with
        gateway := (g.withNewCall { id := id.id, batch, stage := .entered }).withTable
          (g.table ++ [(id.id, g.calls.length)])
        ids } } := by
  simp only [step?, enter?, move?, Pipeline.step?, Gateway.Step.isOwn, if_true, Gateway.step?,
    Gateway.enter, if_pos hsender, hopen, Bool.false_eq_true, if_false]
  rfl

theorem LivePipeline.step?_post {l : LivePipeline τ π} {n : Nat} {c : PublishCall} {link : Link}
    (hcall : l.pipeline.gateway.calls[n]? = some c) (hstage : c.stage = .entered)
    (hpost : l.pipeline.gateway.link.post? (.publish c.id c.batch) = some link) :
    l.step? build deliver (.post n) = some { l with
      pipeline := { l.pipeline with
        gateway := Gateway.withStage n .waiting { l.pipeline.gateway with link } } } := by
  simp only [step?, move?, Pipeline.step?, Gateway.Step.isOwn, if_true, Gateway.step?,
    Gateway.post?, hcall, Option.bind_eq_bind, Option.bind_some,
    (Option.guard_eq_some' ()).2 hstage, hpost]
  rfl

theorem Worker.handle_configure {w : Worker τ} (h : w.transport = none) :
    w.handle build (.configure id d) =
      ([.configured id (verdict build d)], [], { w with transport := (build d).toOption }) := by
  obtain ⟨transport, running, given⟩ := w
  cases h
  simp only [handle, configure, verdict]
  cases build d <;> rfl

theorem LivePipeline.step?_serve {l : LivePipeline τ π} {r : Request} {link : Link}
    {responses : List Response} {log : Log} {w : Worker τ} (hserving : l.pipeline.isServing)
    (htake : l.pipeline.gateway.link.take? = some (r, link))
    (hhandle : l.pipeline.worker.handle build r = (responses, log, w)) :
    l.step? build deliver .serve = some { l with
      pipeline := { l.pipeline with
        gateway := { l.pipeline.gateway with link := link.answerAll responses }
        worker := w
        log := l.pipeline.log ++ log } } := by
  have hserving : l.pipeline.service.isServing := hserving
  have htake : l.pipeline.service.link.take? = some (r, link) := htake
  have hhandle : l.pipeline.service.worker.handle build r = (responses, log, w) := hhandle
  simp only [step?, move?, Pipeline.step?, Service.step?, Service.serve?,
    (Option.guard_eq_some' ()).2 hserving, htake]
  simp only [Option.bind_eq_bind, Option.bind_some, Service.handle, hhandle]
  rfl

theorem LivePipeline.step?_serve_eq_none {l : LivePipeline τ π}
    (h : l.pipeline.gateway.link.requests.queue = []) : l.step? build deliver .serve = none := by
  have htake : l.pipeline.service.link.take? = none := by
    simp [Link.take?, Channel.receive?, Pipeline.service, h]
  simp [step?, move?, Pipeline.step?, Service.step?, Service.serve?, htake]

theorem LivePipeline.step?_route {l : LivePipeline τ π} {r : Response} {link : Link}
    (hcollect : l.pipeline.gateway.link.collect? = some (r, link)) :
    l.step? build deliver .route = some { l with
      pipeline := { l.pipeline with
        gateway := Gateway.deliver r { l.pipeline.gateway with link } } } := by
  simp only [step?, move?, Pipeline.step?, Gateway.step?, Gateway.route?, hcollect]
  rfl

theorem LivePipeline.step?_route_eq_none {l : LivePipeline τ π}
    (h : l.pipeline.gateway.link.responses.queue = []) : l.step? build deliver .route = none := by
  simp [step?, move?, Pipeline.step?, Gateway.step?, Gateway.route?, Link.collect?,
    Channel.receive?, h]

end Steps

theorem Setup.requests_of_ne {id : Id} {d : Destination} {s : Setup} (h : s ≠ .requested) :
    s.requests id d = [] := by
  cases s with
  | requested => exact absurd rfl h
  | answered | settled => rfl

theorem Setup.transport_of_ne {τ : Type} {build : Destination → Except Verdict τ}
    {d : Destination} {s : Setup} (h : s ≠ .requested) :
    s.transport build d = (build d).toOption := by
  cases s with
  | requested => exact absurd rfl h
  | answered | settled => rfl

/-! ## Steps in a situation -/

theorem modify_append_length {α : Type} (as : List α) (a : α) (f : α → α) :
    (as ++ [a]).modify as.length f = as ++ [f a] :=
  List.modifyTailIdx_add _ 0 as [a]

namespace Situation

variable {τ π : Type} {build : Destination → Except Verdict τ} {deliver : τ → Publisher π}
  {id i : Id} {d : Destination} {s : Situation π} {result : DeliveryResult}
  {batch : List WireEvent} {e : Delivery} {t : τ}

/-- The situation after another call has begun. -/
def enter (batch : List WireEvent) (s : Situation π) : Situation π :=
  let (id, ids) := s.ids.take
  { s with
    leg := .entered id.id batch
    past := s.past ++ s.leg.finished
    ids
    log := s.log ++ [.inFlight 1] }

theorem step?_enter (hleg : s.leg.isAtRest) :
    (s.live build id d).step? build deliver (.enter batch) =
      some ((s.enter batch).live build id d) := by
  obtain ⟨setup, leg, past, world, given, ids, verdict, reports, log, workerLog⟩ := s
  refine (LivePipeline.step?_enter rfl rfl).trans ?_
  cases leg with
  | none | ended =>
    simp only [live, enter, Leg.calls, Leg.finished, Leg.table, List.map_append, List.append_nil,
      List.length_append, List.length_map]
    rfl
  | entered | posted | given | asked | answered => cases hleg

theorem step?_post (hleg : s.leg = .entered i batch) :
    (s.live build id d).step? build deliver (.post s.past.length) =
      some (live build id d { s with leg := .posted i batch }) := by
  obtain ⟨setup, leg, past, world, given, ids, verdict, reports, log, workerLog⟩ := s
  cases hleg
  have hmodify := modify_append_length (past.map FinishedCall.toCall)
    { id := i, batch, stage := .entered } fun c => { c with stage := .waiting }
  have hcall : (past.map FinishedCall.toCall ++ [⟨i, batch, .entered, none⟩])[past.length]? =
      some ⟨i, batch, .entered, none⟩ := by simp
  rw [LivePipeline.step?_post hcall rfl rfl]
  rw [List.length_map] at hmodify
  simp only [live, Leg.calls, Gateway.withStage, hmodify]
  simp only [Leg.requests, List.append_nil]
  rfl

/-- The worker takes the destination, or turns it down. -/
theorem step?_serve_requested (hsetup : s.setup = .requested) (hleg : s.leg.responses = []) :
    (s.live build id d).step? build deliver .serve =
      some (live build id d { s with setup := .answered }) := by
  obtain ⟨setup, leg, past, world, given, ids, verdict, reports, log, workerLog⟩ := s
  cases hsetup
  have hleg : leg.responses = [] := hleg
  rw [LivePipeline.step?_serve rfl rfl (Worker.handle_configure rfl)]
  simp only [live, hleg, List.append_nil]
  rfl

/-- The worker takes a batch for its transport. -/
theorem step?_serve_given (hsetup : s.setup ≠ .requested) (hleg : s.leg = .posted i batch)
    (hbuild : build d = .ok t) (hbatch : batch.isEmpty = false) :
    (s.live build id d).step? build deliver .serve =
      some (live build id d { s with
        leg := .given ⟨s.given.length, i, batch⟩
        given := s.given ++ [batch] }) := by
  obtain ⟨setup, leg, past, world, given, ids, verdict, reports, log, workerLog⟩ := s
  cases hleg
  simp only [live, Setup.requests_of_ne hsetup, Setup.transport_of_ne hsetup, hbuild]
  have hhandle : Worker.handle build (.publish i batch)
      { transport := some t, running := [], given } =
        ([], [], {
          transport := some t
          running := [⟨given.length, i, batch⟩]
          given := given ++ [batch] }) := by
    simp only [Worker.handle, Worker.publish, hbatch]
    rfl
  rw [LivePipeline.step?_serve rfl rfl hhandle]
  simp only [List.append_nil]
  rfl

/-- The worker has no transport, or nothing for it. -/
theorem step?_serve_refused {e : DeliveryError} (hsetup : s.setup ≠ .requested)
    (hleg : s.leg = .posted i batch)
    (hpublish : Worker.publish i batch { transport := (build d).toOption, given := s.given } =
      .error e) :
    (s.live build id d).step? build deliver .serve =
      some (live build id d { s with
        leg := .answered ⟨i, batch, .error e⟩
        workerLog := s.workerLog ++ [.undelivered e.kind] }) := by
  obtain ⟨setup, leg, past, world, given, ids, verdict, reports, log, workerLog⟩ := s
  cases hleg
  simp only [live, Setup.requests_of_ne hsetup, Setup.transport_of_ne hsetup]
  have hhandle : Worker.handle build (.publish i batch)
      { transport := (build d).toOption, given } =
        ([.ofResult i (.error e)], [.undelivered e.kind],
          { transport := (build d).toOption, given }) := by
    simp only [Worker.handle, hpublish]
  rw [LivePipeline.step?_serve rfl rfl hhandle]
  simp only [Leg.responses, List.append_nil]
  rfl

theorem step?_ask (hsetup : s.setup ≠ .requested) (hleg : s.leg = .given e)
    (hbuild : build d = .ok t) :
    (s.live build id d).step? build deliver (.ask e.number) =
      some (live build id d { s with
        leg := .asked e (deliver t e.batch s.world).1
        world := (deliver t e.batch s.world).2 }) := by
  obtain ⟨setup, leg, past, world, given, ids, verdict, reports, log, workerLog⟩ := s
  cases hleg
  have hfind : [e].find? (fun e' => e'.number = e.number) = some e := by simp
  simp only [LivePipeline.step?, LivePipeline.ask?, live, Setup.transport_of_ne hsetup, hbuild,
    Worker.delivery?, Leg.running, hfind]
  rfl

theorem step?_finish (elapsed : Nat) (hleg : s.leg = .asked e result) :
    (s.live build id d).step? build deliver (.finish e.number elapsed) =
      some (live build id d { s with
        leg := .answered ⟨e.id, e.batch, result⟩
        workerLog := s.workerLog ++ [Worker.measured result elapsed] }) := by
  obtain ⟨setup, leg, past, world, given, ids, verdict, reports, log, workerLog⟩ := s
  cases hleg
  have hfind : [e].find? (fun e' => e'.number = e.number) = some e := by simp
  have hdelivered : [e].filter (fun e' => e'.number ≠ e.number) = [] := by simp
  have hlookup : [(e.number, result)].lookup e.number = some result := by simp
  have hposted : [(e.number, result)].filter (fun a => a.1 ≠ e.number) = [] := by simp
  simp only [LivePipeline.step?, LivePipeline.finish?, LivePipeline.move?, live, Leg.answers,
    hlookup, hposted, Pipeline.step?, Service.step?, Service.finish?, Pipeline.service,
    Worker.finish, Worker.delivery?, Worker.without, Leg.running, hfind, hdelivered]
  simp only [Leg.responses, List.append_nil]
  rfl

theorem step?_route_answered (build : Destination → Except Verdict τ) (deliver : τ → Publisher π)
    (id : Id) (d : Destination) (hsetup : s.setup = .answered) :
    ∃ reports, (s.live build id d).step? build deliver .route =
      some (live build id d { s with
        setup := .settled
        verdict := some (Worker.verdict build d)
        reports }) := by
  obtain ⟨setup, leg, past, world, given, ids, verdict, reports, log, workerLog⟩ := s
  cases hsetup
  rw [LivePipeline.step?_route rfl, Gateway.deliver]
  cases (Worker.verdict build d).isAccepted
  · exact ⟨_, rfl⟩
  · exact ⟨_, rfl⟩

/-- The caller gets its result. -/
theorem step?_route_ended {c : FinishedCall} (hsetup : s.setup = .settled)
    (hleg : s.leg = .answered c) :
    (s.live build id d).step? build deliver .route =
      some (live build id d { s with leg := .ended c, log := s.log ++ [.inFlight 0] }) := by
  obtain ⟨setup, leg, past, world, given, ids, verdict, reports, log, workerLog⟩ := s
  cases hsetup
  cases hleg
  have hdeliver (g : Gateway) : g.deliver (.ofResult c.id c.result) = g.resolve c.id c.result := by
    cases c.result <;> rfl
  have hlookup : [(c.id, past.length)].lookup c.id = some past.length := by simp
  have hfilter : [(c.id, past.length)].filter (fun a => a.1 ≠ c.id) = [] := by simp
  have hmodify := modify_append_length (past.map FinishedCall.toCall)
    { id := c.id, batch := c.batch, stage := .waiting } fun c' => { c' with slot := some c.result }
  -- The entry of the call is the only one, and the call is the last.
  rw [LivePipeline.step?_route rfl, hdeliver, Gateway.resolve]
  simp only [live, Leg.table, hlookup, hfilter]
  simp only [Gateway.withTable, Gateway.complete, Leg.calls]
  rw [List.length_map] at hmodify
  rw [hmodify]
  rfl

theorem stage_ne_refused {c : PublishCall}
    (hc : c ∈ s.past.map FinishedCall.toCall ++ s.leg.calls) : c.stage ≠ .refused := by
  rcases List.mem_append.1 hc with hc | hc
  · -- A call before the last one is kept as it was when it waited.
    obtain ⟨c, -, rfl⟩ := List.mem_map.1 hc
    simp [FinishedCall.toCall]
  · cases hleg : s.leg with
    | none =>
      rw [hleg] at hc
      cases hc
    | _ =>
      rw [hleg, Leg.calls, List.mem_singleton] at hc
      simp [hc, FinishedCall.toCall]

/-- A request can always be posted, so no call has to withdraw. -/
theorem withdraw?_live (s : Situation π) (n : Nat) :
    (s.live build id d).pipeline.gateway.withdraw? n = none := by
  rw [Option.eq_none_iff_forall_ne_some]
  intro g hg
  obtain ⟨c, hc, hstage, -⟩ := Gateway.exists_of_guard hg
  exact stage_ne_refused (List.mem_of_getElem? hc) hstage

/-- Nobody lets go of a channel, so router and worker go on. -/
theorem close?_live (s : Situation π) : (s.live build id d).pipeline.gateway.close? = none := by
  simp [Gateway.close?, Channel.isFinished, live]

theorem stop?_live (s : Situation π) : (s.live build id d).pipeline.service.stop? = none := by
  simp [Service.stop?, Channel.isFinished, Pipeline.service, live]

theorem step?_withdraw_eq_none (s : Situation π) (n : Nat) :
    (s.live build id d).step? build deliver (.withdraw n) = none := by
  simp only [LivePipeline.step?, LivePipeline.move?, Pipeline.step?, Gateway.step?, withdraw?_live]
  rfl

theorem step?_close_eq_none (s : Situation π) :
    (s.live build id d).step? build deliver .close = none := by
  simp only [LivePipeline.step?, LivePipeline.move?, Pipeline.step?, Gateway.step?, close?_live]
  rfl

theorem step?_stop_eq_none (s : Situation π) :
    (s.live build id d).step? build deliver .stop = none := by
  simp only [LivePipeline.step?, LivePipeline.move?, Pipeline.step?, Service.step?, stop?_live]
  rfl

end Situation

end Clickstream
