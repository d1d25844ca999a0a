import Clickstream.Pipeline
import Clickstream.Proofs.Gateway.Correlation
import Clickstream.Proofs.Worker.Handling

/-!
# What goes through a pipeline

The id of a call is entered into the table and goes to the worker with the request. There
it stays with a delivery, or goes straight into a response, and with the response it comes
back to the router. So there are four places where an id can be on its way
(`Stock.onTheWay`), and what was posted, served, answered and routed is the `Traffic`
between them.

The places belong to three parties that go away one after the other: the owner lets no more
requests in, then the worker stops, and then the router closes. As long as they keep to
that order (`Pipeline.IsOrderly`), a request that is posted is received, and so is every
response.

* `Pipeline.goes_of_step?`: every step keeps to the order and is one of the `Move`s. No
  later proof has to look into the steps.
-/

namespace Clickstream

/-- The id and the batch of a request to publish. -/
def Request.publish? : Request → Option (Id × List WireEvent)
  | .configure _ _ => none
  | .publish id batch => some (id, batch)

/-- The id of the call that makes a request. -/
def Request.callId? (r : Request) : Option Id := r.publish?.map (·.1)

/-- The id of the call that a response answers. -/
def Response.callId? (r : Response) : Option Id := r.result?.map fun _ => r.id

@[simp] theorem Request.callId?_configure (id : Id) (d : Destination) :
    (Request.configure id d).callId? = none := rfl

@[simp] theorem Request.callId?_publish (id : Id) (batch : List WireEvent) :
    (Request.publish id batch).callId? = some id := rfl

@[simp] theorem Response.callId?_configured (id : Id) (v : Verdict) :
    (Response.configured id v).callId? = none := rfl

@[simp] theorem Response.callId?_ofResult (id : Id) (x : DeliveryResult) :
    (Response.ofResult id x).callId? = some id := by
  rw [callId?, result?_ofResult, Option.map_some, id_ofResult]

namespace Link

variable {l l' : Link}

theorem exists_of_take? {r : Request} (h : l.take? = some (r, l')) :
    ∃ rest, l.requests.queue = r :: rest ∧
      l' = { l with requests := { l.requests with queue := rest } } := by
  obtain ⟨⟨r', c⟩, hreceive, hl'⟩ := Option.bind_eq_some_iff.1 h
  cases hl'
  obtain ⟨rest, hqueue, rfl⟩ := Channel.exists_of_receive? hreceive
  exact ⟨rest, hqueue, rfl⟩

theorem exists_of_collect? {r : Response} (h : l.collect? = some (r, l')) :
    ∃ rest, l.responses.queue = r :: rest ∧
      l' = { l with responses := { l.responses with queue := rest } } := by
  obtain ⟨⟨r', c⟩, hreceive, hl'⟩ := Option.bind_eq_some_iff.1 h
  cases hl'
  obtain ⟨rest, hqueue, rfl⟩ := Channel.exists_of_receive? hreceive
  exact ⟨rest, hqueue, rfl⟩

end Link

namespace Worker

variable {τ : Type} {build : Destination → Except Verdict τ} {w w' : Worker τ}

/-- A request that is taken becomes a delivery or a response. -/
theorem Handles.length_le {r : Request} {rs : List Response} (h : w.Handles build r rs w') :
    2 * w'.running.length + rs.length ≤ 2 * w.running.length + 2 := by
  cases h <;> simp [Nat.mul_add]

theorem length_without {n : Nat} {d : Delivery} (h : w.delivery? n = some d) :
    (w.without n).running.length < w.running.length := by
  obtain ⟨hnumber, hd⟩ := number_of_delivery? h
  exact List.length_filter_lt_length_iff_exists.2 ⟨d, hd, by simp [hnumber]⟩

end Worker

/-! ## Places -/

/-- What a pipeline holds: the calls and the table of the gateway, the two queues and the
    worker's deliveries. -/
structure Stock (τ : Type) where
  calls : List PublishCall
  table : List (Id × Nat)
  reports : List Report
  requests : List Request
  worker : Worker τ
  responses : List Response

namespace Stock

variable {τ : Type}

/-- The calls in the table whose requests are still to be posted. -/
def entering (s : Stock τ) : List Id := (s.calls.filter (·.stage = .entered)).map (·.id)

/-- The calls whose requests the worker has not taken. -/
def requested (s : Stock τ) : List Id := s.requests.filterMap (·.callId?)

/-- The calls whose batches the transport has. -/
def delivering (s : Stock τ) : List Id := s.worker.running.map (·.id)

/-- The calls whose responses the router has not taken. -/
def responded (s : Stock τ) : List Id := s.responses.filterMap (·.callId?)

/-- The calls that are somewhere between their entry and their response. -/
def onTheWay (s : Stock τ) : List Id := s.entering ++ s.requested ++ s.delivering ++ s.responded

end Stock

/-! ## Traffic -/

/-- What has passed from one party to the next, in order. -/
@[ext]
structure Traffic where
  /-- The calls that entered the table. -/
  entered : List Id := []
  /-- The requests that the gateway posted. -/
  posted : List Request := []
  /-- The requests that the worker took. -/
  served : List Request := []
  /-- The responses that the worker made. -/
  answered : List Response := []
  /-- The responses that the router took. -/
  routed : List Response := []
  deriving DecidableEq

/-- The traffic of two times, one after the other. -/
def Traffic.append (T U : Traffic) : Traffic where
  entered := T.entered ++ U.entered
  posted := T.posted ++ U.posted
  served := T.served ++ U.served
  answered := T.answered ++ U.answered
  routed := T.routed ++ U.routed

instance : Append Traffic := ⟨Traffic.append⟩

namespace Traffic

@[simp] theorem entered_append (T U : Traffic) : (T ++ U).entered = T.entered ++ U.entered := rfl

theorem append_empty (T : Traffic) : T ++ ({} : Traffic) = T :=
  Traffic.ext (List.append_nil _) (List.append_nil _) (List.append_nil _) (List.append_nil _)
    (List.append_nil _)

theorem append_assoc (T U V : Traffic) : T ++ U ++ V = T ++ (U ++ V) :=
  Traffic.ext (List.append_assoc _ _ _) (List.append_assoc _ _ _) (List.append_assoc _ _ _)
    (List.append_assoc _ _ _) (List.append_assoc _ _ _)

@[simp] theorem posted_append (T U : Traffic) : (T ++ U).posted = T.posted ++ U.posted := rfl

@[simp] theorem served_append (T U : Traffic) : (T ++ U).served = T.served ++ U.served := rfl

@[simp] theorem answered_append (T U : Traffic) :
    (T ++ U).answered = T.answered ++ U.answered := rfl

@[simp] theorem routed_append (T U : Traffic) : (T ++ U).routed = T.routed ++ U.routed := rfl

end Traffic

/-- An element that is changed stands between the others. -/
theorem exists_modify_eq {α : Type} {l : List α} {n : Nat} {a : α} (h : l[n]? = some a)
    (f : α → α) :
    ∃ before after, l = before ++ a :: after ∧ l.modify n f = before ++ f a :: after := by
  obtain ⟨hn, rfl⟩ := List.getElem?_eq_some_iff.1 h
  obtain ⟨before, b, after, hl, hlength, hmodify⟩ := List.exists_of_modify f hn
  have hb : l[n] = b := by simp [hl, ← hlength]
  rw [hb]
  exact ⟨before, after, hl, hmodify⟩

namespace Pipeline

variable {τ : Type} {build : Destination → Except Verdict τ} {p p' : Pipeline τ}

/-- What a pipeline holds. -/
def stock (p : Pipeline τ) : Stock τ where
  calls := p.gateway.calls
  table := p.gateway.table
  reports := p.gateway.reports
  requests := p.gateway.link.requests.queue
  worker := p.worker
  responses := p.gateway.link.responses.queue

/-- What passes in a step. -/
def passes (build : Destination → Except Verdict τ) (p : Pipeline τ) : Step → Traffic
  | .gateway (.enter id _) => { entered := if p.gateway.isClosed then [] else [id] }
  | .gateway (.post n) =>
    match p.gateway.calls[n]? with
    | some c =>
      let r := Request.publish c.id c.batch
      { posted := if (p.gateway.link.post? r).isSome then [r] else [] }
    | none => {}
  | .gateway .route => { routed := (p.gateway.link.collect?.map (·.1)).toList }
  | .worker .serve =>
    match p.gateway.link.take? with
    | some (r, _) => { served := [r], answered := (p.worker.handle build r).1 }
    | none => {}
  | .worker (.finish n result elapsed) =>
    { answered := ((p.worker.finish n result elapsed).map (·.1)).toList }
  | _ => {}

/-- Whether the transport answers: no delivery is lost in the step. -/
def Step.isReliable : Step → Bool
  | .worker (.lose _) => false
  | _ => true

/-- A run with a transport that always answers, with everything that has passed when it
    began and since. -/
inductive Course (build : Destination → Except Verdict τ) (T₀ : Traffic) (start : Pipeline τ) :
    Traffic → Pipeline τ → Prop
  | refl : Course build T₀ start T₀ start
  | step {T : Traffic} {p p' : Pipeline τ} {s : Step} : Course build T₀ start T p →
      s.isReliable → p.step? build s = some p' → Course build T₀ start (T ++ p.passes build s) p'

/-- What passes in a run. -/
def passesAll (build : Destination → Except Verdict τ) : Pipeline τ → List Step → Traffic
  | _, [] => {}
  | p, s :: steps =>
    match p.step? build s with
    | some p' => p.passes build s ++ passesAll build p' steps
    | none => {}

/-- Every run with a transport that always answers is a course. -/
theorem course_of_run? {T₀ T : Traffic} {start : Pipeline τ} {steps : List Step}
    (h : Course build T₀ start T p) (hsteps : ∀ s ∈ steps, s.isReliable)
    (hrun : p.run? build steps = some p') :
    Course build T₀ start (T ++ p.passesAll build steps) p' := by
  induction steps generalizing p T with
  | nil =>
    cases hrun
    rwa [passesAll, Traffic.append_empty]
  | cons s steps ih =>
    obtain ⟨p₁, hstep, hrun⟩ := Option.bind_eq_some_iff.1 hrun
    have hcourse := ih (h.step (hsteps s List.mem_cons_self) hstep)
      (fun s hs => hsteps s (List.mem_cons_of_mem _ hs)) hrun
    rwa [passesAll, hstep, ← Traffic.append_assoc]

/-- What has passed when a pipeline begins: the request to configure the worker is posted. -/
def opening (p : Pipeline τ) : Traffic := { posted := p.gateway.link.requests.queue }

/-- How much there is to do at most, if no more calls are made. -/
def remaining (p : Pipeline τ) : Nat :=
  3 * p.gateway.link.requests.queue.length + 2 * p.worker.running.length +
    p.gateway.link.responses.queue.length + p.gateway.calls.countP (·.stage = .waiting) +
    p.isServing.toNat + p.gateway.isRouting.toNat

/-! ## The order of the ends -/

/-- The parties go away one after the other, each when nothing is left for it to do, and no
    call fails. -/
structure IsOrderly (p : Pipeline τ) : Prop where
  stages : ∀ c ∈ p.gateway.calls, c.stage ≠ .refused ∧ c.stage ≠ .failed
  /-- Nobody is about to post when the owner has left. -/
  entered : ∀ c ∈ p.gateway.calls, c.stage = .entered → p.gateway.link.requests.hasSender
  serving : p.isServing →
    p.gateway.link.requests.hasReceiver ∧ p.gateway.link.responses.hasSender
  stopped : p.isServing = false → p.gateway.link.requests.hasSender = false ∧
    p.gateway.link.requests.queue = [] ∧ p.worker.running = [] ∧
    p.gateway.link.responses.hasSender = false
  routing : p.gateway.link.responses.hasReceiver = !p.gateway.isClosed
  closed : p.gateway.isClosed → p.isServing = false ∧ p.gateway.link.responses.queue = []

namespace IsOrderly

theorem isServing_of_hasSender (h : p.IsOrderly) (hsender : p.gateway.link.requests.hasSender) :
    p.isServing := by
  by_contra hstopped
  have := (h.stopped (by simpa using hstopped)).1
  simp [hsender] at this

theorem isServing_of_running (h : p.IsOrderly) {d : Delivery} (hd : d ∈ p.worker.running) :
    p.isServing := by
  by_contra hstopped
  have := (h.stopped (by simpa using hstopped)).2.2.1
  simp [this] at hd

/-- While the worker serves, the gateway is open and hears what it says. -/
theorem open_of_isServing (h : p.IsOrderly) (hserving : p.isServing) :
    p.gateway.isClosed = false ∧ p.gateway.link.responses.hasReceiver := by
  have hopen : p.gateway.isClosed = false := by
    by_contra hclosed
    have := (h.closed (by simpa using hclosed)).1
    simp [hserving] at this
  exact ⟨hopen, by rw [h.routing, hopen]; rfl⟩

end IsOrderly

/-! ## Moves -/

/-- What a step of an orderly pipeline does to what it holds, and what passes in it. -/
inductive Move (build : Destination → Except Verdict τ) (s : Stock τ) :
    Traffic → Stock τ → Prop
  | enter (id : Id) (batch : List WireEvent) :
      Move build s { entered := [id] } { s with
        calls := s.calls ++ [{ id, batch, stage := .entered }]
        table := s.table ++ [(id, s.calls.length)] }
  | post (n : Nat) (c : PublishCall) (found : s.calls[n]? = some c) (stage : c.stage = .entered) :
      Move build s { posted := [.publish c.id c.batch] } { s with
        calls := s.calls.modify n fun c => { c with stage := .waiting }
        requests := s.requests ++ [.publish c.id c.batch] }
  | abandon (n : Nat) (c : PublishCall) (found : s.calls[n]? = some c)
      (stage : c.stage = .waiting) :
      Move build s {} { s with calls := s.calls.modify n fun c => { c with stage := .abandoned } }
  | serve (r : Request) (rest : List Request) (rs : List Response) (w : Worker τ)
      (queue : s.requests = r :: rest) (handles : s.worker.Handles build r rs w) :
      Move build s { served := [r], answered := rs } { s with
        requests := rest, worker := w, responses := s.responses ++ rs }
  | finish (n : Nat) (d : Delivery) (x : DeliveryResult) (found : s.worker.delivery? n = some d) :
      Move build s { answered := [.ofResult d.id x] } { s with
        worker := s.worker.without n, responses := s.responses ++ [.ofResult d.id x] }
  /-- The router takes what the worker says of its configuration. -/
  | hear (r : Response) (rest : List Response) (reports : List Report)
      (queue : s.responses = r :: rest) (result : r.result? = none)
      (reported : ∀ e ∈ reports, e ∈ s.reports ∨ e = .configurationFailed) :
      Move build s { routed := [r] } { s with responses := rest, reports }
  /-- The router takes the answer to a call, which it finds by the table. -/
  | route (r : Response) (x : DeliveryResult) (rest : List Response) (calls : List PublishCall)
      (reports : List Report) (queue : s.responses = r :: rest) (result : r.result? = some x)
      (resolved : ∀ n, s.table.lookup r.id = some n → reports = s.reports ∧
        calls = s.calls.modify n fun c => { c with slot := some x }) :
      Move build s { routed := [r] } { s with
        calls, table := s.table.filter (·.1 ≠ r.id), reports, responses := rest }

/-- What a step does when the owner has left: no call is made and no request is posted, and
    there is less to do. -/
structure IsNearer (build : Destination → Except Verdict τ) (p : Pipeline τ) (s : Step)
    (p' : Pipeline τ) : Prop where
  left : p'.gateway.link.requests.hasSender = false
  entered : (p.passes build s).entered = []
  posted : (p.passes build s).posted = []
  remaining : s ≠ .gateway .leave → p'.remaining < p.remaining

/-- A step keeps to the order, and is one of the moves or moves nothing. It comes nearer to
    the end when the owner has left. -/
structure Goes (build : Destination → Except Verdict τ) (p : Pipeline τ) (s : Step)
    (p' : Pipeline τ) : Prop where
  isOrderly : p'.IsOrderly
  /-- When the router closes it completes what is still in the table, so that it moves nothing
      only if nothing is. -/
  move : Move build p.stock (p.passes build s) p'.stock ∨ p.passes build s = {} ∧
    ((p.stock.onTheWay = [] → p.stock.table = []) → p'.stock = p.stock)
  isNearer : p.gateway.link.requests.hasSender = false → p.IsNearer build s p'

/-! ### The gateway's side -/

variable {n : Nat} {g : Gateway}

theorem goes_enter (h : p.IsOrderly) (hsender : p.gateway.link.requests.hasSender) (id : Id)
    (batch : List WireEvent) :
    p.Goes build (.gateway (.enter id batch)) { p with gateway := p.gateway.enter id batch } := by
  have hopen := (h.open_of_isServing (h.isServing_of_hasSender hsender)).1
  have hnew (c : PublishCall) (hc : c ∈ p.gateway.calls ++ [{ id, batch, stage := .entered }]) :
      c ∈ p.gateway.calls ∨ c.stage = .entered := by
    rcases List.mem_append.1 hc with hc | hc
    · exact .inl hc
    · exact .inr (by rw [List.mem_singleton.1 hc])
  have hpasses : p.passes build (.gateway (.enter id batch)) = { entered := [id] } := by
    rw [passes, hopen]
    rfl
  rw [Gateway.enter, hopen, if_neg Bool.false_ne_true]
  refine ⟨⟨fun c hc => ?_, fun _ _ _ => hsender, h.serving, h.stopped, h.routing, h.closed⟩,
    hpasses ▸ .inl (.enter id batch), fun hleft => ?_⟩
  · rcases hnew c hc with hc | hc
    · exact h.stages c hc
    · simp [hc]
  · simp [hsender] at hleft

/-- The parties stay as they are when a call comes to another stage. -/
theorem IsOrderly.withStage (h : p.IsOrderly) {stage : CallStage}
    (hstage : stage ≠ .entered ∧ stage ≠ .refused ∧ stage ≠ .failed) :
    IsOrderly { p with gateway := p.gateway.withStage n stage } := by
  have hold (d : PublishCall) (hd : d ∈ (p.gateway.withStage n stage).calls) :
      d ∈ p.gateway.calls ∨ d.stage = stage := by
    obtain ⟨m, hm⟩ := List.mem_iff_getElem?.1 hd
    obtain ⟨c, hc, rfl⟩ := getElem?_modify_eq_some hm
    split
    · exact .inr rfl
    · exact .inl (List.mem_of_getElem? hc)
  refine ⟨fun d hd => ?_, fun d hd hentered => ?_, h.serving, h.stopped, h.routing, h.closed⟩
  · rcases hold d hd with hd | hd
    · exact h.stages d hd
    · exact hd ▸ hstage.2
  · rcases hold d hd with hd | hd
    · exact h.entered d hd hentered
    · exact absurd (hd ▸ hentered) hstage.1

theorem goes_post (h : p.IsOrderly) (hstep : p.gateway.post? n = some g) :
    p.Goes build (.gateway (.post n)) { p with gateway := g } := by
  obtain ⟨c, hc, hstage, hstep⟩ := Gateway.exists_of_guard hstep
  have hsender := h.entered c (List.mem_of_getElem? hc) hstage
  have hserving := h.isServing_of_hasSender hsender
  have hsend : p.gateway.link.post? (.publish c.id c.batch) = some { p.gateway.link with
      requests := { p.gateway.link.requests with
        queue := p.gateway.link.requests.queue ++ [.publish c.id c.batch] } } := by
    simp [Link.post?, Channel.send?, hsender, (h.serving hserving).1]
  have hpasses : p.passes build (.gateway (.post n)) = { posted := [.publish c.id c.batch] } := by
    simp only [passes, hc, hsend, Option.isSome_some, if_true]
  rw [hsend] at hstep
  cases hstep
  refine ⟨?_, hpasses ▸ .inl (.post n c hc hstage), fun hleft => ?_⟩
  · have hposted : IsOrderly { p with gateway := p.gateway.withStage n .waiting } :=
      h.withStage (by simp)
    refine ⟨hposted.stages, fun _ _ _ => hsender, h.serving, fun hstopped => ?_, h.routing,
      h.closed⟩
    simp [hserving] at hstopped
  · simp [hsender] at hleft

theorem goes_abandon (h : p.IsOrderly) (hstep : p.gateway.abandon? n = some g) :
    p.Goes build (.gateway (.abandon n)) { p with gateway := g } := by
  obtain ⟨c, hc, hstage, hstep⟩ := Gateway.exists_of_guard hstep
  cases hstep
  refine ⟨h.withStage (by simp), .inl (.abandon n c hc hstage.1),
    fun hleft => ⟨hleft, rfl, rfl, ?_⟩⟩
  intro _
  obtain ⟨before, after, hcalls, hmodify⟩ :=
    exists_modify_eq hc fun c : PublishCall => { c with stage := .abandoned }
  simp only [remaining, Gateway.withStage, hmodify]
  simp [hcalls, hstage.1, Gateway.isRouting]

/-- The router fills slots, and leaves the stages of all calls alone. -/
theorem stages_of_effect {e : Happening} (heffect : Gateway.Effect p.gateway g [e])
    (he : e = .closed ∨ ∃ r, e = .routed r) :
    g.calls.map (·.stage) = p.gateway.calls.map (·.stage) := by
  cases heffect with
  | hear _ _ calls | miss _ _ _ _ calls => rw [calls]
  | answer _ _ _ _ _ calls =>
    rw [calls, Gateway.map_modify]
    exact fun _ => rfl
  | close calls =>
    refine List.ext_getElem? fun n => ?_
    rw [List.getElem?_map, List.getElem?_map, calls]
    split <;> simp [Function.comp_def]
  | post | abandon | call | turnAway | withdraw => simp at he

/-- What is known of the calls by their stages alone. -/
theorem IsOrderly.of_stages (h : p.IsOrderly)
    (hstages : g.calls.map (·.stage) = p.gateway.calls.map (·.stage)) :
    (∀ c ∈ g.calls, c.stage ≠ .refused ∧ c.stage ≠ .failed) ∧
      (∀ c ∈ g.calls, c.stage = .entered → p.gateway.link.requests.hasSender) ∧
      g.calls.countP (·.stage = .waiting) = p.gateway.calls.countP (·.stage = .waiting) := by
  have hold (c : PublishCall) (hc : c ∈ g.calls) : ∃ d ∈ p.gateway.calls, d.stage = c.stage :=
    List.mem_map.1 (hstages ▸ List.mem_map_of_mem hc)
  refine ⟨fun c hc => ?_, fun c hc hentered => ?_, ?_⟩
  · obtain ⟨d, hd, hstage⟩ := hold c hc
    exact hstage ▸ h.stages d hd
  · obtain ⟨d, hd, hstage⟩ := hold c hc
    exact h.entered d hd (hstage.trans hentered)
  · have hcount (calls : List PublishCall) : calls.countP (·.stage = .waiting) =
        (calls.map (·.stage)).countP (· = .waiting) := by
      rw [List.countP_map]
      rfl
    rw [hcount, hcount, hstages]

/-- The stock when the router has taken a response off the queue. -/
theorem move_deliver {r : Response} {rest : List Response}
    (hqueue : p.gateway.link.responses.queue = r :: rest) (hg : g = { p.gateway with
      link := { p.gateway.link with
        responses := { p.gateway.link.responses with queue := rest } } }) :
    Move build p.stock { routed := [r] } { p with gateway := g.deliver r }.stock := by
  subst hg
  cases hresult : r.result? with
  | none =>
    cases r with
    | configured id verdict =>
      simp only [Gateway.deliver]
      cases verdict.isAccepted
      · refine .hear _ rest _ hqueue rfl fun e he => ?_
        simpa [Gateway.withReport, stock] using he
      · exact .hear _ rest _ hqueue rfl fun e he => .inl he
    | published | failed => cases hresult
  | some x =>
    have hdeliver (g : Gateway) : g.deliver r = g.resolve r.id x := by
      cases r <;> cases hresult <;> rfl
    rw [hdeliver]
    have hstock (g : Gateway) : { p with gateway := g.resolve r.id x }.stock =
        { { p with gateway := g }.stock with
          calls := (g.resolve r.id x).calls
          table := g.table.filter (·.1 ≠ r.id)
          reports := (g.resolve r.id x).reports } := by
      simp only [Gateway.resolve]
      cases g.table.lookup r.id <;> rfl
    rw [hstock]
    refine .route r x rest _ _ hqueue hresult fun n hn => ?_
    simp only [Gateway.resolve, Gateway.withTable]
    rw [show p.gateway.table.lookup r.id = some n from hn]
    exact ⟨rfl, rfl⟩

theorem goes_route (h : p.IsOrderly) (hstep : p.gateway.route? = some g) :
    p.Goes build (.gateway .route) { p with gateway := g } := by
  obtain ⟨⟨r, link⟩, hcollect, hg⟩ := Option.bind_eq_some_iff.1 hstep
  cases hg
  have hpasses : p.passes build (.gateway .route) = { routed := [r] } := by
    simp [passes, hcollect]
  have heffect := Gateway.effect_of_step? (s := .route) hstep
  rw [Gateway.happens, hcollect] at heffect
  obtain ⟨hstages, hentered, hwaiting⟩ := h.of_stages (stages_of_effect heffect (.inr ⟨r, rfl⟩))
  obtain ⟨rest, hqueue, rfl⟩ := Link.exists_of_collect? hcollect
  obtain ⟨hlink, hclosed⟩ := Gateway.deliver_frame r { p.gateway with
    link := { p.gateway.link with responses := { p.gateway.link.responses with queue := rest } } }
  refine ⟨⟨hstages, ?_, ?_, ?_, ?_, ?_⟩, hpasses ▸ .inl (move_deliver hqueue rfl), fun hleft => ?_⟩
  · rw [hlink]
    exact hentered
  · rw [hlink]
    exact h.serving
  · rw [hlink]
    exact h.stopped
  · rw [hlink, hclosed]
    exact h.routing
  · rw [hclosed]
    intro hclosed
    have hempty := (h.closed hclosed).2
    rw [hqueue] at hempty
    cases hempty
  · refine ⟨by rw [hlink]; exact hleft, by rw [hpasses], by rw [hpasses], fun _ => ?_⟩
    simp only [remaining, Gateway.isRouting, hlink, hwaiting, hqueue, List.length_cons]
    omega

/-- Nothing is on the way any more when the router closes. -/
theorem IsOrderly.onTheWay_of_isFinished (h : p.IsOrderly)
    (hfinished : p.gateway.link.responses.isFinished) :
    p.isServing = false ∧ p.gateway.link.responses.queue = [] ∧ p.stock.onTheWay = [] := by
  obtain ⟨hresponses, hsender⟩ : p.gateway.link.responses.queue = [] ∧
      p.gateway.link.responses.hasSender = false := by
    simpa [Channel.isFinished] using hfinished
  have hstopped : p.isServing = false := by
    by_contra hserving
    have := (h.serving (by simpa using hserving)).2
    simp [hsender] at this
  obtain ⟨hleft, hrequests, hrunning, -⟩ := h.stopped hstopped
  have hentering : p.stock.entering = [] := by
    refine List.map_eq_nil_iff.2 (List.filter_eq_nil_iff.2 fun c hc hstage => ?_)
    have := h.entered c hc (by simpa using hstage)
    simp [hleft] at this
  refine ⟨hstopped, hresponses, ?_⟩
  rw [Stock.onTheWay, hentering, Stock.requested, Stock.delivering, Stock.responded]
  simp [stock, hrequests, hrunning, hresponses]

theorem goes_close (h : p.IsOrderly) (hstep : p.gateway.close? = some g) :
    p.Goes build (.gateway .close) { p with gateway := g } := by
  obtain ⟨hstages, hentered, hwaiting⟩ :=
    h.of_stages (stages_of_effect (Gateway.effect_of_close? hstep) (.inl rfl))
  obtain ⟨⟨hrouting, hfinished⟩, calls, reports, log, hkept, rfl⟩ := Gateway.exists_of_close? hstep
  obtain ⟨hstopped, hresponses, hidle⟩ := h.onTheWay_of_isFinished hfinished
  refine ⟨⟨hstages, hentered, h.serving, h.stopped, rfl, fun _ => ⟨hstopped, rfl⟩⟩,
    .inr ⟨rfl, fun htable => ?_⟩, fun hleft => ⟨hleft, rfl, rfl, fun _ => ?_⟩⟩
  · have htable : p.gateway.table = [] := htable hidle
    obtain ⟨rfl, rfl⟩ := hkept htable
    simp [stock, Link.dropResponses, Channel.dropReceiver, hresponses, htable]
  · have hreceiver : p.gateway.link.responses.hasReceiver := hrouting
    simp [remaining, hwaiting, hresponses, hreceiver, Gateway.isRouting, Link.dropResponses,
      Channel.dropReceiver]

theorem goes_leave (h : p.IsOrderly) (hquiet : p.gateway.isQuiet) :
    p.Goes build (.gateway .leave) { p with gateway := p.gateway.leave } := by
  have hnone (c : PublishCall) (hc : c ∈ p.gateway.calls) : c.stage ≠ .entered := by
    have := List.all_eq_true.1 hquiet c hc
    intro hstage
    simp [hstage] at this
  refine ⟨⟨h.stages, fun c hc hstage => absurd hstage (hnone c hc), h.serving, ?_, h.routing,
    h.closed⟩, .inr ⟨rfl, fun _ => rfl⟩, fun hleft => ⟨rfl, rfl, rfl, fun hs => absurd rfl hs⟩⟩
  exact fun hstopped => ⟨rfl, (h.stopped hstopped).2⟩

/-! ### The worker's side -/

theorem goes_serve (h : p.IsOrderly) {s : Service τ} (hstep : p.service.serve? build = some s) :
    p.Goes build (.worker .serve) (p.withService s) := by
  obtain ⟨u, hguard, hstep⟩ := Option.bind_eq_some_iff.1 hstep
  have hserving : p.isServing := (Option.guard_eq_some' u).1 hguard
  obtain ⟨⟨r, link⟩, htake, hs⟩ := Option.bind_eq_some_iff.1 hstep
  cases hs
  obtain ⟨hreceiver, hsender⟩ := h.serving hserving
  obtain ⟨hopen, hheard⟩ := h.open_of_isServing hserving
  have hhandles := Worker.handles_handle build p.worker r
  have hpasses : p.passes build (.worker .serve) =
      { served := [r], answered := (p.worker.handle build r).1 } := by
    rw [passes, show p.gateway.link.take? = some (r, link) from htake]
  obtain ⟨rest, hqueue, rfl⟩ := Link.exists_of_take? htake
  simp only [withService, Service.handle, service]
  generalize p.worker.handle build r = answer at hhandles hpasses ⊢
  obtain ⟨rs, log, w⟩ := answer
  simp only [Link.answerAll_eq (l := { p.gateway.link with
    requests := { p.gateway.link.requests with queue := rest } }) hsender hheard]
  refine ⟨⟨h.stages, h.entered, h.serving, ?_, h.routing, ?_⟩,
    hpasses ▸ .inl (.serve r rest rs w hqueue hhandles),
    fun hleft => ⟨hleft, by rw [hpasses], by rw [hpasses], fun _ => ?_⟩⟩
  · exact fun hstopped => absurd hserving (by simp [show p.isServing = false from hstopped])
  · exact fun hclosed => absurd hopen (by simp [show p.gateway.isClosed from hclosed])
  · have hqueue : p.gateway.link.requests.queue = r :: rest := hqueue
    have hlength := hhandles.length_le
    simp [remaining, hqueue, Gateway.isRouting] at hlength ⊢
    omega

theorem goes_finish (h : p.IsOrderly) {x : DeliveryResult} {elapsed : Nat} {s : Service τ}
    (hstep : p.service.finish? n x elapsed = some s) :
    p.Goes build (.worker (.finish n x elapsed)) (p.withService s) := by
  obtain ⟨⟨r, log, w⟩, hfinish, hs⟩ := Option.bind_eq_some_iff.1 hstep
  cases hs
  have hpasses : p.passes build (.worker (.finish n x elapsed)) = { answered := [r] } := by
    rw [passes, show p.worker.finish n x elapsed = some (r, log, w) from hfinish]
    rfl
  obtain ⟨d, hd, hfinish⟩ := Option.bind_eq_some_iff.1 hfinish
  cases hfinish
  have hserving := h.isServing_of_running (Worker.number_of_delivery? hd).2
  obtain ⟨hreceiver, hsender⟩ := h.serving hserving
  obtain ⟨hopen, hheard⟩ := h.open_of_isServing hserving
  rw [withService]
  simp only [Link.answerAll_eq (l := p.service.link) hsender hheard]
  refine ⟨⟨h.stages, h.entered, h.serving, ?_, h.routing, ?_⟩, hpasses ▸ .inl (.finish n d x hd),
    fun hleft => ⟨hleft, by rw [hpasses], by rw [hpasses], fun _ => ?_⟩⟩
  · exact fun hstopped => absurd hserving (by simp [show p.isServing = false from hstopped])
  · exact fun hclosed => absurd hopen (by simp [show p.gateway.isClosed from hclosed])
  · have hlength := Worker.length_without hd
    simp [remaining, service, Gateway.isRouting] at hlength ⊢
    omega

theorem goes_stop (h : p.IsOrderly) {s : Service τ} (hstep : p.service.stop? = some s) :
    p.Goes build (.worker .stop) (p.withService s) := by
  rw [Service.stop?] at hstep
  split at hstep
  · rename_i hfinished
    cases hstep
    obtain ⟨hserving, hrequests, hrunning⟩ := hfinished
    obtain ⟨hempty, hleft⟩ : p.gateway.link.requests.queue = [] ∧
        p.gateway.link.requests.hasSender = false := by
      simpa [Channel.isFinished, service] using hrequests
    obtain ⟨hopen, -⟩ := h.open_of_isServing hserving
    refine ⟨⟨h.stages, h.entered, (nomatch ·), ?_, h.routing, ?_⟩, .inr ⟨rfl, fun _ => ?_⟩,
      fun _ => ⟨hleft, rfl, rfl, fun _ => ?_⟩⟩
    · exact fun _ => ⟨hleft, rfl, List.isEmpty_iff.1 hrunning, rfl⟩
    · exact fun hclosed => absurd hopen (by simp [show p.gateway.isClosed from hclosed])
    · simp only [stock, hempty]
      rfl
    · have hserving : p.isServing := hserving
      simp [remaining, hempty, hserving, withService, service, Gateway.isRouting,
        Link.dropRequests, Channel.dropReceiver, Link.closeResponses, Channel.dropSender]
  · cases hstep

/-- Every step keeps to the order, and is one of the moves. -/
theorem goes_of_step? (h : p.IsOrderly) {s : Step} (hs : s.isReliable)
    (hstep : p.step? build s = some p') : p.Goes build s p' := by
  cases s with
  | gateway s =>
    rw [step?] at hstep
    split at hstep
    · obtain ⟨g, hg, rfl⟩ := Option.map_eq_some_iff.1 hstep
      cases s with
      | enter id batch =>
        simp only [Gateway.step?] at hg
        split at hg <;> cases hg
        rename_i hsender
        exact goes_enter h hsender id batch
      | post n => exact goes_post h hg
      | withdraw n =>
        obtain ⟨c, hc, hrefused, -⟩ := Gateway.exists_of_guard hg
        exact absurd hrefused (h.stages c (List.mem_of_getElem? hc)).1
      | abandon n => exact goes_abandon h hg
      | route => exact goes_route h hg
      | close => exact goes_close h hg
      | leave =>
        simp only [Gateway.step?] at hg
        split at hg <;> cases hg
        rename_i hquiet
        exact goes_leave h hquiet
      | take | answer | dropRequests | closeResponses => simp [Gateway.Step.isOwn] at *
    · cases hstep
  | worker s =>
    obtain ⟨s', hs', rfl⟩ := Option.map_eq_some_iff.1 hstep
    cases s with
    | serve => exact goes_serve h hs'
    | finish n x elapsed => exact goes_finish h hs'
    | lose n => cases hs
    | stop => exact goes_stop h hs'

end Pipeline

end Clickstream
