import Clickstream.Proofs.Pipeline.Conservation

/-!
# A pipeline that is shut down

While the owner is there, the ids in the table are those on the way, and each of them is at
one place. When the owner lets no more requests in, the pipeline runs dry from one end to
the other: the worker takes what was posted and waits for its deliveries before it stops,
and the router takes what was answered before it closes. So it finds nothing in the table.

* `length_le_remaining`, `exists_background`: a pipeline that the owner has left goes on
  until the router has closed, and comes there in a bounded number of steps;
* `isDrained_of_isClosed`: then every call has had its one request served and its one
  response routed;
* `isConserved_of_course`: both, and what is true on the way, in every run in which the
  transport answers.
-/

namespace Clickstream

/-- Where a value occurs once among the images, its origin is found alone. -/
theorem filter_eq_singleton {α β : Type} [DecidableEq β] {f : α → Option β} {l : List α} {a : α}
    {b : β} (hl : (l.filterMap f).Nodup) (ha : a ∈ l) (hf : f a = some b) :
    l.filter (fun a => f a = some b) = [a] := by
  obtain ⟨before, after, rfl⟩ := List.append_of_mem ha
  rw [List.filterMap_append, List.filterMap_cons_some hf, List.nodup_middle, List.nodup_cons] at hl
  have hother : ∀ c ∈ before ++ after, f c ≠ some b := fun c hc hfc => by
    refine hl.1 ?_
    rw [← List.filterMap_append]
    exact List.mem_filterMap.2 ⟨c, hc, hfc⟩
  have hbefore : before.filter (fun a => f a = some b) = [] :=
    List.filter_eq_nil_iff.2 fun c hc => by simpa using hother c (List.mem_append_left _ hc)
  have hafter : after.filter (fun a => f a = some b) = [] :=
    List.filter_eq_nil_iff.2 fun c hc => by simpa using hother c (List.mem_append_right _ hc)
  rw [List.filter_append, List.filter_cons_of_pos (by simpa using hf), hbefore, hafter]
  rfl

namespace Pipeline

variable {τ : Type} {build : Destination → Except Verdict τ} {T T' : Traffic} {p p' : Pipeline τ}

/-- What is true of a pipeline at any time. -/
structure IsConserved (build : Destination → Except Verdict τ) (T : Traffic) (p : Pipeline τ) :
    Prop where
  /-- The ids in the table are those on the way. -/
  table : (p.gateway.table.map (·.1)).Perm p.stock.onTheWay
  /-- Each of them is at one place, and there once. -/
  once : p.stock.onTheWay.Nodup
  /-- The calls that are not on the way are those whose responses were routed. -/
  calls : (T.routed.filterMap (·.callId?) ++ p.stock.onTheWay).Perm (p.gateway.calls.map (·.id))
  /-- The requests are served in the order in which they were posted. -/
  requests : T.posted = T.served ++ p.gateway.link.requests.queue
  /-- The responses are routed in the order in which they were made. -/
  responses : T.answered = T.routed ++ p.gateway.link.responses.queue
  /-- The requests to publish are those of the calls that have posted. -/
  posted : (T.posted.filterMap (·.publish?)).Perm p.stock.made
  /-- A request that is served is delivered or answered. -/
  served : (T.served.filterMap (·.callId?)).Perm
    (p.stock.delivering ++ T.answered.filterMap (·.callId?))
  /-- No call fails on its own. -/
  stages : ∀ c ∈ p.gateway.calls, c.stage ≠ .refused ∧ c.stage ≠ .failed
  /-- What a call returns was routed to it. -/
  results : ∀ n x, p.gateway.outcome? n = some x →
    ∃ c, p.gateway.calls[n]? = some c ∧ .ofResult c.id x ∈ T.routed
  /-- At most that the worker was not configured is reported. -/
  reports : ∀ e ∈ p.gateway.reports, e = .configurationFailed
  /-- The router finds nothing in the table when it closes. -/
  close : ∀ p', p.step? build (.gateway .close) = some p' → p.gateway.table = [] ∧
    p'.gateway.calls = p.gateway.calls ∧ p'.gateway.reports = p.gateway.reports

/-- What is true of a pipeline whose router has closed. -/
structure IsDrained (T : Traffic) (p : Pipeline τ) : Prop where
  table : p.gateway.table = []
  onTheWay : p.stock.onTheWay = []
  served : T.served = T.posted
  routed : T.routed = T.answered
  /-- Every call has posted one request, which was served once, and one response to it was
      routed. That is what the call returns, unless its caller has gone away. -/
  calls : ∀ (n : Nat) (c : PublishCall), p.gateway.calls[n]? = some c →
    T.served.filter (·.callId? = some c.id) = [.publish c.id c.batch] ∧
    ∃ x, T.routed.filter (·.callId? = some c.id) = [.ofResult c.id x] ∧
      (p.gateway.outcome? n = some x ∨ c.stage = .abandoned ∧ c.slot = some x)

/-- Whether the step is one of the router, the worker or the transport. -/
def Step.isBackground : Step → Bool
  | .gateway .route | .gateway .close => true
  | .worker .serve | .worker (.finish _ _ _) | .worker .stop => true
  | _ => false

/-- What is true of a pipeline when the owner lets no more requests in. -/
structure Drains (build : Destination → Except Verdict τ) (T : Traffic) (p : Pipeline τ) :
    Prop where
  /-- However the steps interleave, there are only so many. -/
  bounded : ∀ steps p', (∀ s ∈ steps, s.isReliable ∧ s ≠ .gateway .leave) →
    p.run? build steps = some p' → steps.length ≤ p.remaining
  /-- In the background it goes on until the router has closed. -/
  goesOn : ∀ T' p', Course build T p T' p' → p'.gateway.isClosed = false →
    ∃ s, s.isBackground ∧ (p'.step? build s).isSome
  /-- Then everything has come to its end. -/
  drained : ∀ T' p', Course build T p T' p' → p'.gateway.isClosed →
    p'.IsDrained T' ∧ T'.posted = T.posted

/-! ## All courses -/

theorem isAccounted_of_course (h : Course build T p T' p') (horderly : p.IsOrderly)
    (haccounted : p.stock.IsAccounted T) (hids : T'.entered.Nodup) :
    p'.IsOrderly ∧ p'.stock.IsAccounted T' := by
  induction h with
  | refl => exact ⟨horderly, haccounted⟩
  | step _ hreliable hstep ih =>
    obtain ⟨horderly, haccounted⟩ := ih (List.nodup_append.1 hids).1
    have hgoes := goes_of_step? horderly hreliable hstep
    refine ⟨hgoes.isOrderly, ?_⟩
    rcases hgoes.move with hmove | ⟨hpasses, hkept⟩
    · exact haccounted.move (List.nodup_append.1 hids).1 hmove
    · rw [hpasses, Traffic.append_empty, hkept haccounted.table_eq_nil]
      exact haccounted

theorem isAccounted_start {ids : Supply} {d : Destination} (hstart : start ids d = .ok p) :
    p.IsOrderly ∧ p.stock.IsAccounted p.opening := by
  simp only [start, Gateway.connect] at hstart
  cases hcheck : d.check <;> rw [hcheck] at hstart <;> cases hstart
  exact ⟨⟨nofun, nofun, fun _ => ⟨rfl, rfl⟩, nofun, rfl, nofun⟩,
    ⟨rfl, .nil, .nil, nofun, nofun, rfl, rfl, .nil, .nil, Worker.isNumbered_empty, nofun⟩⟩

/-- When the owner has left, nothing enters and nothing is posted any more. -/
theorem left_of_course (h : Course build T p T' p') (horderly : p.IsOrderly)
    (hleft : p.gateway.link.requests.hasSender = false) :
    p'.IsOrderly ∧ p'.gateway.link.requests.hasSender = false ∧ T'.entered = T.entered ∧
      T'.posted = T.posted := by
  induction h with
  | refl => exact ⟨horderly, hleft, rfl, rfl⟩
  | step _ hreliable hstep ih =>
    obtain ⟨horderly, hleft, hentered, hposted⟩ := ih
    have hgoes := goes_of_step? horderly hreliable hstep
    have hnearer := hgoes.isNearer hleft
    refine ⟨hgoes.isOrderly, hnearer.left, ?_, ?_⟩
    · rw [Traffic.entered_append, hnearer.entered, List.append_nil, hentered]
    · rw [Traffic.posted_append, hnearer.posted, List.append_nil, hposted]

/-! ## The way to the end -/

/-- Every step of a run brings the end nearer. -/
theorem length_le_remaining {steps : List Step} (h : p.IsOrderly)
    (hleft : p.gateway.link.requests.hasSender = false)
    (hsteps : ∀ s ∈ steps, s.isReliable ∧ s ≠ .gateway .leave)
    (hrun : p.run? build steps = some p') : steps.length ≤ p.remaining := by
  induction steps generalizing p with
  | nil => exact Nat.zero_le _
  | cons s steps ih =>
    obtain ⟨p₁, hstep, hrun⟩ := Option.bind_eq_some_iff.1 hrun
    obtain ⟨hreliable, hs⟩ := hsteps s List.mem_cons_self
    have hgoes := goes_of_step? h hreliable hstep
    have hnearer := hgoes.isNearer hleft
    have hlength := ih hgoes.isOrderly hnearer.left
      (fun s hs => hsteps s (List.mem_cons_of_mem _ hs)) hrun
    have := hnearer.remaining hs
    rw [List.length_cons]
    omega

/-- There is always something to do in the background, as long as the router has not
    closed. -/
theorem exists_background (h : p.IsOrderly) (hleft : p.gateway.link.requests.hasSender = false)
    (hopen : p.gateway.isClosed = false) :
    ∃ s : Step, s.isBackground ∧ (p.step? build s).isSome := by
  have hrouting : p.gateway.link.responses.hasReceiver := by rw [h.routing, hopen]; rfl
  cases hserving : p.isServing with
  | true =>
    obtain ⟨hreceiver, hsender⟩ := h.serving hserving
    cases hrequests : p.gateway.link.requests.queue with
    | cons r rest =>
      refine ⟨.worker .serve, rfl, ?_⟩
      simp [step?, Service.step?, Service.serve?, service, hserving, Link.take?, Channel.receive?,
        hrequests, hreceiver]
    | nil =>
      cases hrunning : p.worker.running with
      | cons d ds =>
        refine ⟨.worker (.finish d.number (.ok 0) 0), rfl, ?_⟩
        simp [step?, Service.step?, Service.finish?, service, Worker.finish, Worker.delivery?,
          hrunning]
      | nil =>
        refine ⟨.worker .stop, rfl, ?_⟩
        simp [step?, Service.step?, Service.stop?, service, hserving, Channel.isFinished, hrequests,
          hleft, hrunning]
  | false =>
    obtain ⟨-, -, -, hsender⟩ := h.stopped hserving
    cases hresponses : p.gateway.link.responses.queue with
    | cons r rest =>
      refine ⟨.gateway .route, rfl, ?_⟩
      simp [step?, Gateway.Step.isOwn, Gateway.step?, Gateway.route?, Link.collect?,
        Channel.receive?, hresponses, hrouting]
    | nil =>
      refine ⟨.gateway .close, rfl, ?_⟩
      simp [step?, Gateway.Step.isOwn, Gateway.step?, Gateway.close?, Gateway.isRouting, hrouting,
        Channel.isFinished, hresponses, hsender]

/-! ## The end -/

/-- The request of a call that has posted was served, if everything was that was posted. -/
theorem filter_served (h : p.stock.IsAccounted T) (hserved : T.served = T.posted)
    (honce : (T.served.filterMap (·.callId?)).Nodup) {c : PublishCall} (hc : c ∈ p.gateway.calls)
    (hstage : c.stage ≠ .entered) :
    T.served.filter (·.callId? = some c.id) = [.publish c.id c.batch] := by
  have hmade : (c.id, c.batch) ∈ p.stock.made :=
    List.mem_map.2 ⟨c, List.mem_filter.2 ⟨hc, by simpa using hstage⟩, rfl⟩
  obtain ⟨r, hr, hpublish⟩ := List.mem_filterMap.1 (h.posted.mem_iff.2 hmade)
  cases r <;> cases hpublish
  exact filter_eq_singleton honce (hserved ▸ hr) rfl

/-- A call that has posted returns what stands in its slot, unless its caller has gone away. -/
theorem IsOrderly.outcome_of_slot (h : p.IsOrderly) {n : Nat} {c : PublishCall} {x : DeliveryResult}
    (hc : p.gateway.calls[n]? = some c) (hstage : c.stage ≠ .entered) (hx : c.slot = some x) :
    p.gateway.outcome? n = some x ∨ c.stage = .abandoned ∧ c.slot = some x := by
  obtain ⟨hrefused, hfailed⟩ := h.stages c (List.mem_of_getElem? hc)
  rw [Gateway.outcome?, hc]
  cases hcase : c.stage with
  | entered => exact absurd hcase hstage
  | refused => exact absurd hcase hrefused
  | failed => exact absurd hcase hfailed
  | waiting => exact .inl (by rw [Option.bind_some, PublishCall.result?, hcase, hx])
  | abandoned => exact .inr ⟨rfl, hx⟩

/-- No call fails on its own, so that what a call returns stands in its slot. -/
theorem IsOrderly.slot_of_outcome (h : p.IsOrderly) {n : Nat} {x : DeliveryResult}
    (hx : p.gateway.outcome? n = some x) :
    ∃ c, p.gateway.calls[n]? = some c ∧ c.slot = some x := by
  obtain ⟨c, hc, hresult⟩ := Option.bind_eq_some_iff.1 hx
  have hfailed := (h.stages c (List.mem_of_getElem? hc)).2
  refine ⟨c, hc, ?_⟩
  cases hstage : c.stage <;> simp_all [PublishCall.result?]

theorem isDrained_of_isClosed (h : p.IsOrderly) (haccounted : p.stock.IsAccounted T)
    (hids : T.entered.Nodup) (hclosed : p.gateway.isClosed) : p.IsDrained T := by
  obtain ⟨hstopped, hresponses⟩ := h.closed hclosed
  obtain ⟨hleft, hrequests, hrunning, hsender⟩ := h.stopped hstopped
  obtain ⟨-, -, hidle⟩ :=
    h.onTheWay_of_isFinished (by simp [Channel.isFinished, hresponses, hsender])
  have hserved : T.served = T.posted := by
    rw [haccounted.requests, show p.stock.requests = [] from hrequests, List.append_nil]
  have hrouted : T.routed = T.answered := by
    rw [haccounted.responses, show p.stock.responses = [] from hresponses, List.append_nil]
  have htable := haccounted.table_eq_nil hidle
  -- No response was routed twice, and so no request was served twice.
  have honce : (T.routed.filterMap (·.callId?)).Nodup :=
    (List.nodup_append.1 (haccounted.nodup hids)).1
  have honce' : (T.served.filterMap (·.callId?)).Nodup := by
    refine haccounted.served.nodup_iff.2 ?_
    rw [Stock.delivering, show p.stock.worker.running = [] from hrunning, ← hrouted]
    exact honce
  refine ⟨htable, hidle, hserved, hrouted, fun n c hc => ?_⟩
  have hstage : c.stage ≠ .entered := fun hentered => by
    have := h.entered c (List.mem_of_getElem? hc) hentered
    simp [hleft] at this
  refine ⟨filter_served haccounted hserved honce' (List.mem_of_getElem? hc) hstage, ?_⟩
  rcases haccounted.slots n c hc with ⟨-, hmem⟩ | ⟨x, hx, hmem⟩
  · rw [htable] at hmem
    cases hmem
  · exact ⟨x, filter_eq_singleton honce hmem (Response.callId?_ofResult _ _),
      h.outcome_of_slot hc hstage hx⟩

theorem isConserved_of_isAccounted (h : p.IsOrderly) (haccounted : p.stock.IsAccounted T)
    (hids : T.entered.Nodup) : p.IsConserved build T where
  table := haccounted.table
  once := (List.nodup_append.1 (haccounted.nodup hids)).2.1
  calls := by
    rw [show p.gateway.calls.map (·.id) = T.entered from haccounted.calls]
    exact haccounted.places
  requests := haccounted.requests
  responses := haccounted.responses
  posted := haccounted.posted
  served := haccounted.served
  stages := h.stages
  results n x hx := by
    obtain ⟨c, hc, hslot⟩ := h.slot_of_outcome hx
    rcases haccounted.slots n c hc with ⟨hnone, -⟩ | ⟨y, hy, hmem⟩
    · rw [hnone] at hslot
      cases hslot
    · rw [hslot] at hy
      cases hy
      exact ⟨c, hc, hmem⟩
  reports := haccounted.reports
  close p' hstep := by
    obtain ⟨g, hg, rfl⟩ := Option.map_eq_some_iff.1 hstep
    obtain ⟨⟨-, hfinished⟩, calls, reports, log, hkept, rfl⟩ := Gateway.exists_of_close? hg
    have htable := haccounted.table_eq_nil (h.onTheWay_of_isFinished hfinished).2.2
    exact ⟨htable, hkept htable⟩

/-- No request is lost or made twice between the gateway and the worker, and when the owner
    shuts the pipeline down everything that was posted is served and answered. -/
theorem isConserved_of_course {ids : Supply} {d : Destination} (hstart : start ids d = .ok p)
    (h : Course build p.opening p T p') (hids : T.entered.Nodup) :
    p'.IsConserved build T ∧
      (p'.gateway.link.requests.hasSender = false → p'.Drains build T) := by
  obtain ⟨horderly, haccounted⟩ := isAccounted_start hstart
  obtain ⟨horderly, haccounted⟩ := isAccounted_of_course h horderly haccounted hids
  refine ⟨isConserved_of_isAccounted horderly haccounted hids, fun hleft => ⟨?_, ?_, ?_⟩⟩
  · exact fun steps p₁ hsteps hrun => length_le_remaining horderly hleft hsteps hrun
  · intro T₁ p₁ h₁ hopen
    obtain ⟨horderly₁, hleft₁, -⟩ := left_of_course h₁ horderly hleft
    exact exists_background horderly₁ hleft₁ hopen
  · intro T₁ p₁ h₁ hclosed
    obtain ⟨-, -, hentered, hposted⟩ := left_of_course h₁ horderly hleft
    have hids₁ : T₁.entered.Nodup := hentered ▸ hids
    obtain ⟨horderly₁, haccounted₁⟩ := isAccounted_of_course h₁ horderly haccounted hids₁
    exact ⟨isDrained_of_isClosed horderly₁ haccounted₁ hids₁ hclosed, hposted⟩

/-- Three calls are on the way when the owner leaves, one of them at each place that is left,
    and one caller has gone away. The second batch is answered before the first, and the third
    has nothing in it. -/
theorem isConserved_of_course_shutDown :
    let ids : Supply := { ids := fun n => ⟨Id.v7 n 0, Id.version_v7 n 0⟩ }
    let id (n : Nat) : Id := Id.ofNat n
    let batch : List WireEvent := [⟨.visitor, id 9, none⟩]
    let d : Destination := { apiKey := "key", host := "http://[::1]" }
    let build (_ : Destination) : Except Verdict Unit := .ok ()
    let before : List Step :=
      [.gateway (.enter (id 1) batch), .gateway (.post 0), .worker .serve, .worker .serve,
        .gateway (.enter (id 2) batch), .gateway (.post 1), .worker .serve,
        .worker (.finish 1 (.ok 1) 0), .gateway (.enter (id 3) []), .gateway (.post 2),
        .gateway (.abandon 0), .gateway .leave]
    let after : List Step :=
      [.gateway .route, .worker .serve, .gateway .route, .worker (.finish 0 (.ok 1) 5),
        .worker .stop, .gateway .route, .gateway .route, .gateway .close]
    ∃ p₀ p p', Pipeline.start ids d = .ok p₀ ∧ p₀.run? build before = some p ∧
      p.run? build after = some p' ∧
      p.gateway.table.map (·.1) = [id 1, id 2, id 3] ∧
      p.stock.onTheWay = [id 3, id 1, id 2] ∧
      p.IsConserved build (p₀.opening ++ p₀.passesAll build before) ∧
      p'.IsDrained (p₀.opening ++ p₀.passesAll build before ++ p.passesAll build after) ∧
      p'.gateway.calls.map (·.slot) =
        [some (.ok 1), some (.ok 1), some (.error Worker.emptyBatch)] := by
  intro ids id batch d build before after
  have hcheck : d.check = .accepted := by decide +kernel
  obtain ⟨p₀, hstart, p, p', hbefore, hafter, htable, hway, hids, hleft, hclosed, hslots⟩ :
      ∃ p₀, Pipeline.start ids d = .ok p₀ ∧ ∃ p p', p₀.run? build before = some p ∧
        p.run? build after = some p' ∧
        p.gateway.table.map (·.1) = [id 1, id 2, id 3] ∧
        p.stock.onTheWay = [id 3, id 1, id 2] ∧
        (p₀.opening ++ p₀.passesAll build before).entered =
          [id 1, id 2, id 3] ∧
        p.gateway.link.requests.hasSender = false ∧ p'.gateway.isClosed ∧
        p'.gateway.calls.map (·.slot) =
          [some (.ok 1), some (.ok 1), some (.error Worker.emptyBatch)] := by
    refine ⟨{ gateway := Gateway.start ids.take.1.id d {}, ids := ids.take.2 }, ?_, ?_⟩
    · simp only [Pipeline.start, Gateway.connect, hcheck]
      rfl
    · exact ⟨_, _, rfl, rfl, rfl, rfl, rfl, rfl, rfl, rfl⟩
  have hnodup : (p₀.opening ++ p₀.passesAll build before).entered.Nodup := by
    rw [hids]
    decide
  have hcourse := course_of_run? (T := p₀.opening) .refl (by decide) hbefore
  obtain ⟨hconserved, hdrains⟩ := isConserved_of_course hstart hcourse hnodup
  exact ⟨p₀, p, p', hstart, hbefore, hafter, htable, hway, hconserved,
    ((hdrains hleft).drained _ _ (course_of_run? .refl (by decide) hafter) hclosed).1, hslots⟩

end Pipeline

end Clickstream
