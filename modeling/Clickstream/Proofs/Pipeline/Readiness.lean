import Clickstream.Http
import Clickstream.Proofs.Pipeline.Shutdown

/-!
# No request is too early

A worker turns a batch down that comes before it has a transport. Callers do not wait until
the worker has said that it is configured, and what it says travels by another channel than
their requests. They are safe all the same: the request to configure the worker is posted
before any call can be made, it is the only one, and the worker takes requests in the order
in which they were posted. So a worker is idle up to its first request, and from then on it
has its transport for good or will never have one (`Worker.HasCome`).

What the worker says of its configuration is its first response, and the router takes
responses in the order in which they were made. So the gateway has heard nothing at all, or
it knows which of the two it is.

* `Worker.HasCome.handles`: what becomes of a worker with its next request;
* `Pipeline.isReadied_of_step?`, `Pipeline.isReadied_of_run?`: a step and a run, in which the
  transport may as well break down;
* `Pipeline.neverTooEarly_of_run?`: what the callers get, and what the gateway knows.
-/

namespace Clickstream

/-- What a worker that could not build a transport makes of a request. -/
def Request.turnedDown (v : Verdict) : Request → Response
  | .configure id _ => .configured id v
  | .publish id _ => .failed id Worker.notConfigured

/-- The batches of requests that have something in them. -/
def Request.batches (rs : List Request) : List (List WireEvent) :=
  ((rs.filterMap (·.publish?)).map (·.2)).filter (· ≠ [])

@[simp] theorem Request.batches_append (rs ss : List Request) :
    batches (rs ++ ss) = batches rs ++ batches ss := by
  simp [batches]

theorem Request.eq_publish {r : Request} (h : r.publish?.isSome) :
    ∃ id batch, r = .publish id batch := by
  cases r with
  | configure => cases h
  | publish id batch => exact ⟨id, batch, rfl⟩

/-! ## Factories -/

/-- What builds senders, if there is access to the network. `client` says why not. -/
def Http.Sender.buildWith (client : Destination → Option String) (d : Destination) :
    Except Verdict Http.Sender :=
  match client d with
  | none => Http.Sender.build d
  | some detail => .error (Http.SetupError.client detail).verdict

/-- No destination is turned down as accepted: either there is no access to the network, or the
    destination was checked. -/
theorem Http.Sender.buildWith_ne_accepted (client : Destination → Option String)
    (d : Destination) : buildWith client d ≠ .error .accepted := by
  intro h
  simp only [buildWith] at h
  cases hclient : client d with
  | none =>
    simp only [hclient, build, new] at h
    cases hcheck : d.check <;> rw [hcheck] at h <;> cases h
  | some detail =>
    rw [hclient] at h
    cases h

/-! ## The worker -/

namespace Worker

variable {τ : Type} {build : Destination → Except Verdict τ} {id : Id} {d : Destination}
  {said : DeliveryResult → Prop} {served : List Request} {answered : List Response}
  {w w' : Worker τ}

/-- How far a worker has come with the requests that it has served, of which the first is to
    configure it and all others are to publish. What the transport may answer is `said`. -/
inductive HasCome (build : Destination → Except Verdict τ) (id : Id) (d : Destination)
    (said : DeliveryResult → Prop) : List Request → List Response → Worker τ → Prop
  | idle : HasCome build id d said [] [] {}
  /-- It has a transport, and turns down nothing but empty batches. -/
  | ready (t : τ) (rs : List Request) (as : List Response) (w : Worker τ) (built : build d = .ok t)
      (transport : w.transport = some t) (given : w.given = Request.batches rs)
      (answers : ∀ a ∈ as, ∃ x, a.result? = some x ∧ (x = .error emptyBatch ∨ said x)) :
      HasCome build id d said (.configure id d :: rs) (.configured id .accepted :: as) w
  /-- It has no transport, and turns down every batch. -/
  | refused (v : Verdict) (rs : List Request) (built : build d = .error v)
      (publishes : ∀ r ∈ rs, r.publish?.isSome) :
      HasCome build id d said (.configure id d :: rs)
        (.configured id v :: rs.map (·.turnedDown v)) {}

namespace HasCome

/-- The next of the requests that were posted brings a worker further. -/
theorem handles (h : HasCome build id d said served answered w) {r : Request}
    {posted rest : List Request} {rs : List Response}
    (hposted : .configure id d :: posted = served ++ r :: rest)
    (hpublishes : ∀ r ∈ posted, r.publish?.isSome) (hhandles : w.Handles build r rs w') :
    HasCome build id d said (served ++ [r]) (answered ++ rs) w' := by
  cases h with
  | idle =>
    obtain ⟨rfl, -⟩ := List.cons.inj hposted
    cases hhandles with
    | accepted _ _ t _ built =>
      exact .ready t [] [] _ built rfl rfl (fun a ha => absurd ha List.not_mem_nil)
    | rejected _ _ v _ built =>
      exact .refused v [] built fun r hr => absurd hr List.not_mem_nil
    | again _ _ t transport => cases transport
  | ready t ss as _ built transport given answers =>
    have hposted : posted = ss ++ r :: rest := (List.cons.inj hposted).2
    obtain ⟨i, batch, rfl⟩ := Request.eq_publish (hpublishes r (by simp [hposted]))
    cases hhandles with
    | notConfigured _ _ hnone => simp [transport] at hnone
    | emptyBatch =>
      refine .ready t (ss ++ [.publish i []]) (as ++ [_]) _ built transport ?_ fun a ha => ?_
      · rw [given, Request.batches_append]
        exact (List.append_nil _).symm
      · rcases List.mem_append.1 ha with ha | ha
        · exact answers a ha
        · rw [List.mem_singleton.1 ha]
          exact ⟨_, Response.result?_ofResult i _, .inl rfl⟩
    | started _ _ _ _ nonempty =>
      rw [List.append_nil]
      refine .ready t (ss ++ [.publish i batch]) as _ built ?_ ?_ answers
      · exact transport
      · simp [given, Request.batches, Request.publish?, nonempty]
  | refused v ss built publishes =>
    have hposted : posted = ss ++ r :: rest := (List.cons.inj hposted).2
    obtain ⟨i, batch, rfl⟩ := Request.eq_publish (hpublishes r (by simp [hposted]))
    cases hhandles with
    | notConfigured =>
      have hmem : ∀ r ∈ ss ++ [.publish i batch], r ∈ posted := fun r hr => by
        rw [hposted, List.append_cons]
        exact List.mem_append_left _ hr
      have h : HasCome build id d said (.configure id d :: (ss ++ [.publish i batch])) _ {} :=
        .refused v _ built fun r hr => hpublishes r (hmem r hr)
      simpa [Request.turnedDown, Response.ofResult] using h
    | emptyBatch _ _ transport | started _ _ _ transport => cases transport

/-- A delivery is on its way only if there is a transport, whose answer goes to the caller. -/
theorem finish (h : HasCome build id d said served answered w) {n : Nat} {e : Delivery}
    (he : w.delivery? n = some e) {x : DeliveryResult} (hx : said x) :
    HasCome build id d said served (answered ++ [.ofResult e.id x]) (w.without n) := by
  cases h with
  | idle | refused => cases he
  | ready t rs as _ built transport given answers =>
    refine .ready t rs (as ++ [.ofResult e.id x]) _ built ?_ ?_ fun a ha => ?_
    · exact transport
    · exact given
    · rcases List.mem_append.1 ha with ha | ha
      · exact answers a ha
      · rw [List.mem_singleton.1 ha]
        exact ⟨x, Response.result?_ofResult _ _, .inr hx⟩

/-- A worker stays where it is when deliveries are lost. -/
theorem shrink (h : HasCome build id d said served answered w)
    (htransport : w'.transport = w.transport) (hgiven : w'.given = w.given)
    (hrunning : w'.running ⊆ w.running) : HasCome build id d said served answered w' := by
  obtain ⟨transport', running', given'⟩ := w'
  cases h with
  | idle =>
    cases htransport
    cases hgiven
    cases List.eq_nil_of_subset_nil hrunning
    exact .idle
  | ready t rs as _ built transport given answers =>
    exact .ready t rs as _ built (htransport.trans transport) (hgiven.trans given) answers
  | refused v rs built publishes =>
    cases htransport
    cases hgiven
    cases List.eq_nil_of_subset_nil hrunning
    exact .refused v rs built publishes

/-- The first answer is what a fresh worker says when it is asked to configure itself, and
    all others are for callers. -/
theorem answered_eq (h : HasCome build id d said served answered w) :
    answered = [] ∨ ∃ as, answered = .configured id (({} : Worker τ).configure build d).1 :: as ∧
      ∀ a ∈ as, a.verdict? = none := by
  cases h with
  | idle => exact .inl rfl
  | ready t rs as _ built _ _ answers =>
    refine .inr ⟨as, by simp [configure, built], fun a ha => ?_⟩
    obtain ⟨x, hx, -⟩ := answers a ha
    cases a with
    | configured => cases hx
    | published | failed => rfl
  | refused v rs built publishes =>
    refine .inr ⟨rs.map (·.turnedDown v), by simp [configure, built], fun a ha => ?_⟩
    obtain ⟨r, hr, rfl⟩ := List.mem_map.1 ha
    obtain ⟨i, batch, rfl⟩ := Request.eq_publish (publishes r hr)
    rfl

/-- With a transport, every batch that has something in it was handed over, and only the
    others were turned down. -/
theorem of_ok (h : HasCome build id d said served answered w) {t : τ} (ht : build d = .ok t) :
    w.given = Request.batches served ∧
      ∀ a ∈ answered, ∀ x, a.result? = some x → x = .error emptyBatch ∨ said x := by
  cases h with
  | idle => exact ⟨rfl, fun a ha => absurd ha List.not_mem_nil⟩
  | ready _ rs as _ _ _ given answers =>
    refine ⟨given, fun a ha x hx => ?_⟩
    rcases List.mem_cons.1 ha with rfl | ha
    · cases hx
    · obtain ⟨y, hy, hfair⟩ := answers a ha
      rw [hx] at hy
      cases hy
      exact hfair
  | refused _ _ built => simp [ht] at built

/-- Without a transport every request that was served was turned down, and the worker is as
    it was in the beginning. -/
theorem of_error (h : HasCome build id d said served answered w) {v : Verdict}
    (hv : build d = .error v) : w = {} ∧ answered = served.map (·.turnedDown v) := by
  cases h with
  | idle => exact ⟨rfl, rfl⟩
  | ready t _ _ _ built => simp [hv] at built
  | refused _ _ built =>
    rw [hv] at built
    cases built
    exact ⟨rfl, rfl⟩

/-- A worker that has accepted its destination has a transport. -/
theorem isSome_transport (h : HasCome build id d said served answered w) (hanswered : answered ≠ [])
    {t : τ} (ht : build d = .ok t) : w.transport.isSome := by
  cases h with
  | idle => exact absurd rfl hanswered
  | ready _ _ _ _ _ transport => rw [transport]; rfl
  | refused _ _ built => simp [ht] at built

end HasCome

end Worker

/-! ## The stock -/

namespace Stock

variable {τ : Type} {build : Destination → Except Verdict τ} {id : Id} {d : Destination}
  {said : DeliveryResult → Prop} {T U : Traffic} {s s' : Stock τ}

/-- Requests and responses keep their order, and the request to configure the worker comes
    first. -/
structure IsReadied (build : Destination → Except Verdict τ) (id : Id) (d : Destination)
    (said : DeliveryResult → Prop) (T : Traffic) (s : Stock τ) : Prop where
  posted : ∃ rs, T.posted = .configure id d :: rs ∧ ∀ r ∈ rs, r.publish?.isSome
  requests : T.posted = T.served ++ s.requests
  responses : T.answered = T.routed ++ s.responses
  worker : s.worker.HasCome build id d said T.served T.answered

/-- Nothing goes from one place to the next, but deliveries may be lost. -/
structure Rests (s s' : Stock τ) : Prop where
  requests : s'.requests = s.requests
  responses : s'.responses = s.responses
  transport : s'.worker.transport = s.worker.transport
  given : s'.worker.given = s.worker.given
  running : s'.worker.running ⊆ s.worker.running

theorem Rests.of_worker (hrequests : s'.requests = s.requests)
    (hresponses : s'.responses = s.responses) (hworker : s'.worker = s.worker) :
    s.Rests s' where
  requests := hrequests
  responses := hresponses
  transport := by rw [hworker]
  given := by rw [hworker]
  running := by rw [hworker]; exact List.Subset.refl _

theorem IsReadied.rests (h : s.IsReadied build id d said T) (hrests : s.Rests s') :
    s'.IsReadied build id d said T where
  posted := h.posted
  requests := by rw [h.requests, hrests.requests]
  responses := by rw [h.responses, hrests.responses]
  worker := h.worker.shrink hrests.transport hrests.given hrests.running

theorem IsReadied.move (h : s.IsReadied build id d said T) (hmove : Pipeline.Move build s U s')
    (hsaid : U.served = [] → ∀ r ∈ U.answered, ∀ x, r.result? = some x → said x) :
    s'.IsReadied build id d said (T ++ U) := by
  obtain ⟨rs, hposted, hpublishes⟩ := h.posted
  obtain ⟨hrequests, hresponses⟩ := append_of_move h.requests h.responses hmove
  refine ⟨⟨rs ++ U.posted, by rw [Traffic.posted_append, hposted]; rfl, fun r hr => ?_⟩,
    hrequests, hresponses, ?_⟩
  · rcases List.mem_append.1 hr with hr | hr
    · exact hpublishes r hr
    · -- Only a call that has entered posts.
      cases hmove with
      | post => rw [List.mem_singleton.1 hr]; rfl
      | enter | abandon | serve | finish | hear | route => cases hr
  · rw [Traffic.served_append, Traffic.answered_append]
    cases hmove with
    | enter | post | abandon | hear | route =>
      rw [List.append_nil, List.append_nil]
      exact h.worker
    | serve r rest rs w queue handles =>
      rw [h.requests, queue] at hposted
      exact h.worker.handles hposted.symm hpublishes handles
    | finish n e x found =>
      rw [List.append_nil]
      exact h.worker.finish found (hsaid rfl _ List.mem_cons_self x (Response.result?_ofResult _ _))

end Stock

/-! ## Steps -/

/-- What stands in a slot after a step stood there before, or was routed, or says that the
    router has closed. -/
theorem Gateway.slot_of_effect_of_mem {g g' : Gateway} {es : List Happening}
    (heffect : Effect g g' es) {c' : PublishCall} (hc' : c' ∈ g'.calls) {x : DeliveryResult}
    (hx : c'.slot = some x) : (∃ c ∈ g.calls, c.slot = some x) ∨ x = .error unavailable ∨
      ∃ r, .routed r ∈ es ∧ r.result? = some x := by
  obtain ⟨n, hn⟩ := List.mem_iff_getElem?.1 hc'
  cases heffect with
  | idle calls | hear _ _ calls | miss _ _ _ _ calls => exact .inl ⟨c', calls ▸ hc', hx⟩
  | post _ _ _ _ calls | refuse _ _ _ _ calls | abandon _ _ _ _ calls
  | withdraw _ _ _ _ calls =>
    rw [calls] at hn
    obtain ⟨c, hc, rfl⟩ := getElem?_modify_eq_some hn
    refine .inl ⟨c, List.mem_of_getElem? hc, ?_⟩
    split at hx <;> exact hx
  | call c new calls | turnAway c new calls =>
    rw [calls] at hc'
    rcases List.mem_append.1 hc' with hc | hc
    · exact .inl ⟨c', hc, hx⟩
    · rw [List.mem_singleton.1 hc, new.1] at hx
      cases hx
  | answer r m y result _ calls =>
    rw [calls] at hn
    obtain ⟨c, hc, rfl⟩ := getElem?_modify_eq_some hn
    split at hx
    · cases hx
      exact .inr (.inr ⟨r, List.mem_singleton_self _, result⟩)
    · exact .inl ⟨c, List.mem_of_getElem? hc, hx⟩
  | close calls =>
    rw [calls] at hn
    split at hn
    · obtain ⟨c, -, rfl⟩ := Option.map_eq_some_iff.1 hn
      cases hx
      exact .inr (.inl rfl)
    · exact .inl ⟨c', List.mem_of_getElem? hn, hx⟩

namespace Pipeline

variable {τ : Type} {build : Destination → Except Verdict τ} {id : Id} {d : Destination}
  {said : DeliveryResult → Prop} {T : Traffic} {p p' : Pipeline τ} {s : Step}

/-- A step on the gateway's side is one of the gateway's own. -/
theorem exists_of_gateway {u : Gateway.Step} (hstep : p.step? build (.gateway u) = some p') :
    u.isOwn ∧ ∃ g, p.gateway.step? u = some g ∧ p' = { p with gateway := g } := by
  rw [step?] at hstep
  split at hstep
  · rename_i hown
    obtain ⟨g, hg, rfl⟩ := Option.map_eq_some_iff.1 hstep
    exact ⟨hown, g, hg, rfl⟩
  · cases hstep

/-- Only a delivery on its way can be lost. -/
theorem exists_of_lose {n : Nat} (hstep : p.step? build (.worker (.lose n)) = some p') :
    ∃ e, p.worker.delivery? n = some e ∧ p' = { p with worker := p.worker.without n } := by
  obtain ⟨t, ht, rfl⟩ := Option.map_eq_some_iff.1 hstep
  obtain ⟨w, hlose, ht⟩ := Option.bind_eq_some_iff.1 ht
  obtain ⟨e, he, hw⟩ := Option.bind_eq_some_iff.1 hlose
  cases hw
  cases ht
  exact ⟨e, he, rfl⟩

/-- The parties stay as they are when a delivery is lost. -/
theorem IsOrderly.without (h : p.IsOrderly) (n : Nat) :
    IsOrderly { p with worker := p.worker.without n } := by
  refine ⟨h.stages, h.entered, h.serving, fun hstopped => ?_, h.routing, h.closed⟩
  obtain ⟨hleft, hrequests, hrunning, hsender⟩ := h.stopped hstopped
  exact ⟨hleft, hrequests, by simp [Worker.without, hrunning], hsender⟩

theorem isReliable_or_lose (s : Step) : s.isReliable ∨ ∃ n, s = .worker (.lose n) := by
  cases s with
  | gateway => exact .inl rfl
  | worker u =>
    cases u with
    | serve | finish | stop => exact .inl rfl
    | lose n => exact .inr ⟨n, rfl⟩

/-- In a step in which nothing passes, nothing goes from one place to the next either. -/
theorem rests_of_step? (hstep : p.step? build s = some p') (hpasses : p.passes build s = {}) :
    p.stock.Rests p'.stock := by
  cases s with
  | gateway u =>
    obtain ⟨hown, g, hg, rfl⟩ := exists_of_gateway hstep
    cases u with
    | enter id batch =>
      simp only [Gateway.step?, Gateway.enter] at hg
      split at hg <;> cases hg
      split <;> exact .of_worker rfl rfl rfl
    | post n =>
      obtain ⟨c, hc, -, hg⟩ := Gateway.exists_of_guard hg
      cases hpost : p.gateway.link.post? (.publish c.id c.batch) with
      | some link => simp [passes, hc, hpost, Traffic.ext_iff] at hpasses
      | none =>
        rw [hpost] at hg
        cases hg
        exact .of_worker rfl rfl rfl
    | withdraw n | abandon n =>
      obtain ⟨c, -, -, hg⟩ := Gateway.exists_of_guard hg
      cases hg
      exact .of_worker rfl rfl rfl
    | route =>
      obtain ⟨c, hcollect, -⟩ := Option.bind_eq_some_iff.1 hg
      simp [passes, hcollect, Traffic.ext_iff] at hpasses
    | close =>
      obtain ⟨⟨-, hfinished⟩, calls, reports, log, -, rfl⟩ := Gateway.exists_of_close? hg
      have hempty : p.gateway.link.responses.queue = [] := by simp_all [Channel.isFinished]
      exact .of_worker rfl hempty.symm rfl
    | leave =>
      simp only [Gateway.step?] at hg
      split at hg <;> cases hg
      exact .of_worker rfl rfl rfl
    | take | answer | dropRequests | closeResponses => cases hown
  | worker u =>
    cases u with
    | lose n =>
      obtain ⟨e, -, rfl⟩ := exists_of_lose hstep
      exact ⟨rfl, rfl, rfl, rfl, List.filter_sublist.subset⟩
    | serve =>
      obtain ⟨t, ht, rfl⟩ := Option.map_eq_some_iff.1 hstep
      obtain ⟨-, -, ht⟩ := Option.bind_eq_some_iff.1 ht
      obtain ⟨r, htake, -⟩ := Option.bind_eq_some_iff.1 ht
      simp [passes, show p.gateway.link.take? = some r from htake, Traffic.ext_iff] at hpasses
    | finish n x elapsed =>
      obtain ⟨t, ht, rfl⟩ := Option.map_eq_some_iff.1 hstep
      obtain ⟨r, hfinish, -⟩ := Option.bind_eq_some_iff.1 ht
      simp [passes, show p.worker.finish n x elapsed = some r from hfinish, Traffic.ext_iff]
        at hpasses
    | stop =>
      obtain ⟨t, ht, rfl⟩ := Option.map_eq_some_iff.1 hstep
      simp only [Service.step?, Service.stop?] at ht
      split at ht <;> cases ht
      have hempty : p.gateway.link.requests.queue = [] := by
        simp_all [Channel.isFinished, service]
      exact .of_worker hempty.symm rfl rfl

/-- A step keeps to the order, and is one of the moves or moves nothing, also when a delivery
    is lost. -/
theorem moves_of_step? (h : p.IsOrderly) (hstep : p.step? build s = some p') :
    p'.IsOrderly ∧ (Move build p.stock (p.passes build s) p'.stock ∨
      p.passes build s = {} ∧ p.stock.Rests p'.stock) := by
  rcases isReliable_or_lose s with hs | ⟨n, rfl⟩
  · have hgoes := goes_of_step? h hs hstep
    exact ⟨hgoes.isOrderly, hgoes.move.imp_right fun hmove =>
      ⟨hmove.1, rests_of_step? hstep hmove.1⟩⟩
  · have hrests := rests_of_step? hstep rfl
    obtain ⟨e, -, rfl⟩ := exists_of_lose hstep
    exact ⟨h.without n, .inr ⟨rfl, hrests⟩⟩

/-- Where no delivery is on its way, none is lost. -/
theorem isReliable_of_step? (hrunning : p.worker.running = []) (hstep : p.step? build s = some p') :
    s.isReliable := by
  rcases isReliable_or_lose s with hs | ⟨n, rfl⟩
  · exact hs
  · obtain ⟨e, he, -⟩ := exists_of_lose hstep
    simp [Worker.delivery?, hrunning] at he

/-- A response that is not to a request just served is the transport's answer. -/
theorem said_of_passes (hserved : (p.passes build s).served = []) {r : Response}
    (hr : r ∈ (p.passes build s).answered) {x : DeliveryResult} (hx : r.result? = some x) :
    ∃ n elapsed, s = .worker (.finish n x elapsed) := by
  cases s with
  | gateway s =>
    cases s with
    | post n =>
      simp only [passes] at hr
      split at hr <;> cases hr
    | enter | withdraw | abandon | route | close | take | answer | dropRequests | closeResponses
    | leave => cases hr
  | worker s =>
    cases s with
    | serve =>
      simp only [passes] at hserved hr
      split at hserved
      · cases hserved
      · rename_i hnone
        rw [hnone] at hr
        cases hr
    | finish n y elapsed =>
      simp only [passes, Option.mem_toList, Option.map_eq_some_iff] at hr
      obtain ⟨a, hfinish, rfl⟩ := hr
      obtain ⟨e, -, ha⟩ := Option.bind_eq_some_iff.1 hfinish
      cases ha
      rw [Response.result?_ofResult] at hx
      cases hx
      exact ⟨n, elapsed, rfl⟩
    | lose | stop => cases hr

/-- The router notes what the worker says of its configuration, and nobody else does. -/
theorem verdict_of_step? (hstep : p.step? build s = some p') :
    p'.gateway.verdict =
      (p.passes build s).routed.foldl (fun v r => r.verdict?.or v) p.gateway.verdict := by
  cases s with
  | gateway u =>
    obtain ⟨hown, g, hg, rfl⟩ := exists_of_gateway hstep
    cases u with
    | enter id batch =>
      simp only [Gateway.step?, Gateway.enter] at hg
      split at hg <;> cases hg
      split <;> rfl
    | post n =>
      obtain ⟨c, hc, -, hg⟩ := Gateway.exists_of_guard hg
      simp only [passes, hc]
      split at hg <;> cases hg <;> rfl
    | withdraw n | abandon n =>
      obtain ⟨c, -, -, hg⟩ := Gateway.exists_of_guard hg
      cases hg
      rfl
    | route =>
      obtain ⟨⟨r, link⟩, hcollect, hg⟩ := Option.bind_eq_some_iff.1 hg
      cases hg
      simp [passes, hcollect, Gateway.verdict_deliver]
    | close =>
      obtain ⟨-, calls, reports, log, -, rfl⟩ := Gateway.exists_of_close? hg
      rfl
    | leave =>
      simp only [Gateway.step?] at hg
      split at hg <;> cases hg
      rfl
    | take | answer | dropRequests | closeResponses => cases hown
  | worker u =>
    obtain ⟨t, -, rfl⟩ := Option.map_eq_some_iff.1 hstep
    have hrouted : (p.passes build (.worker u)).routed = [] := by
      cases u with
      | serve => simp only [passes]; split <;> rfl
      | finish | lose | stop => rfl
    rw [hrouted]
    rfl

/-- What stands in a slot after a step stood there before, or passed the router, or says that
    the router has closed. -/
theorem slot_of_step? (hstep : p.step? build s = some p') {c' : PublishCall}
    (hc' : c' ∈ p'.gateway.calls) {x : DeliveryResult} (hx : c'.slot = some x) :
    (∃ c ∈ p.gateway.calls, c.slot = some x) ∨ x = .error unavailable ∨
      ∃ r ∈ (p.passes build s).routed, r.result? = some x := by
  cases s with
  | gateway u =>
    obtain ⟨-, g, hg, rfl⟩ := exists_of_gateway hstep
    refine (Gateway.slot_of_effect_of_mem (Gateway.effect_of_step? hg) hc' hx).imp_right
      fun h => h.imp_right fun ⟨r, hr, hresult⟩ => ⟨r, ?_, hresult⟩
    -- Only in a step of the router a response is routed.
    cases u with
    | route =>
      obtain ⟨a, ha, heq⟩ : ∃ a, p.gateway.link.collect? = some a ∧ a.1 = r := by
        simpa [Gateway.happens] using hr
      simp [passes, ha, heq]
    | enter =>
      simp only [Gateway.happens] at hr
      split at hr <;> simp at hr
    | post =>
      obtain ⟨_, -, heq⟩ := Option.map_eq_some_iff.1 (Option.mem_toList.1 hr)
      cases heq
    | withdraw | abandon | close => simp [Gateway.happens] at hr
    | take | answer | dropRequests | closeResponses | leave => cases hr
  | worker u =>
    obtain ⟨t, -, rfl⟩ := Option.map_eq_some_iff.1 hstep
    exact .inl ⟨c', hc', hx⟩

/-! ## Runs -/

/-- What is true of a pipeline since it began with the request to configure the worker. What
    the transport may answer is `said`. -/
structure IsReadied (build : Destination → Except Verdict τ) (start : Pipeline τ) (id : Id)
    (d : Destination) (said : DeliveryResult → Prop) (T : Traffic) (p : Pipeline τ) : Prop where
  isOrderly : p.IsOrderly
  stock : p.stock.IsReadied build id d said T
  verdict : p.gateway.verdict = T.routed.foldl (fun v r => r.verdict?.or v) none
  slots : ∀ c ∈ p.gateway.calls, ∀ x, c.slot = some x →
    x = .error unavailable ∨ ∃ r ∈ T.routed, r.result? = some x
  /-- Without a transport no delivery is lost. -/
  course : ∀ v, build d = .error v → Course build start.opening start T p

variable {start : Pipeline τ} {ids : Supply}

theorem isReadied_start (hstart : Pipeline.start ids d = .ok p) :
    IsReadied build p ids.take.1.id d said p.opening p := by
  obtain ⟨horderly, haccounted⟩ := isAccounted_start hstart
  simp only [Pipeline.start, Gateway.connect] at hstart
  cases hcheck : d.check <;> rw [hcheck] at hstart <;> cases hstart
  exact ⟨horderly, ⟨⟨[], rfl, fun _ hr => absurd hr List.not_mem_nil⟩, rfl, rfl, .idle⟩, rfl,
    fun c hc => absurd hc List.not_mem_nil, fun _ _ => .refl⟩

theorem isReadied_of_step? (h : IsReadied build start id d said T p)
    (hstep : p.step? build s = some p')
    (hsaid : ∀ n x elapsed, s = .worker (.finish n x elapsed) → said x) :
    IsReadied build start id d said (T ++ p.passes build s) p' := by
  obtain ⟨horderly, hmove⟩ := moves_of_step? h.isOrderly hstep
  refine ⟨horderly, ?_, ?_, fun c' hc' x hx => ?_, fun v hv => ?_⟩
  · rcases hmove with hmove | ⟨hpasses, hrests⟩
    · refine h.stock.move hmove fun hserved r hr x hx => ?_
      obtain ⟨n, elapsed, hs⟩ := said_of_passes hserved hr hx
      exact hsaid n x elapsed hs
    · rw [hpasses, Traffic.append_empty]
      exact h.stock.rests hrests
  · rw [verdict_of_step? hstep, h.verdict, Traffic.routed_append, List.foldl_append]
  · rw [Traffic.routed_append]
    rcases slot_of_step? hstep hc' hx with ⟨c, hc, hslot⟩ | hx | ⟨r, hr, hresult⟩
    · refine (h.slots c hc x hslot).imp_right fun ⟨r, hr, hresult⟩ => ?_
      exact ⟨r, List.mem_append_left _ hr, hresult⟩
    · exact .inl hx
    · exact .inr ⟨r, List.mem_append_right _ hr, hresult⟩
  · refine (h.course v hv).step ?_ hstep
    have hempty : p.worker = {} := (h.stock.worker.of_error hv).1
    exact isReliable_of_step? (by rw [hempty]) hstep

theorem isReadied_of_run? {steps : List Step} (h : IsReadied build start id d said T p)
    (hrun : p.run? build steps = some p')
    (hsaid : ∀ n x elapsed, .worker (.finish n x elapsed) ∈ steps → said x) :
    IsReadied build start id d said (T ++ p.passesAll build steps) p' := by
  induction steps generalizing p T with
  | nil =>
    cases hrun
    rwa [passesAll, Traffic.append_empty]
  | cons s steps ih =>
    obtain ⟨p₁, hstep, hrun⟩ := Option.bind_eq_some_iff.1 hrun
    have h₁ := isReadied_of_step? h hstep fun n x elapsed hs =>
      hsaid n x elapsed (hs ▸ List.mem_cons_self)
    have h' := ih h₁ hrun fun n x elapsed hs => hsaid n x elapsed (List.mem_cons_of_mem _ hs)
    rwa [passesAll, hstep, ← Traffic.append_assoc]

/-! ## What the callers get, and what the gateway knows -/

/-- What is true of a pipeline whose worker can build its transport. -/
structure IsEquipped (said : DeliveryResult → Prop) (T : Traffic) (p : Pipeline τ) : Prop where
  /-- The transport was given every batch that was served and has something in it. -/
  given : p.worker.given = Request.batches T.served
  /-- Only an empty batch is answered with anything that the transport has not said. -/
  answered : ∀ r ∈ T.answered, ∀ x, r.result? = some x → x = .error Worker.emptyBatch ∨ said x
  /-- A call gets one of these answers, or is told that the worker is gone. -/
  returned : ∀ n x, p.gateway.outcome? n = some x →
    x = .error unavailable ∨ x = .error Worker.emptyBatch ∨ said x
  neverTooEarly : ¬said (.error Worker.notConfigured) →
    (∀ r ∈ T.answered, r.result? ≠ some (.error Worker.notConfigured)) ∧
      ∀ n, p.gateway.outcome? n ≠ some (.error Worker.notConfigured)

/-- What is true of a pipeline whose worker cannot build its transport. -/
structure IsTurnedDown (v : Verdict) (T : Traffic) (p : Pipeline τ) : Prop where
  worker : p.worker = {}
  /-- Every request that was served is answered, and in this order. -/
  answered : T.answered = T.served.map (·.turnedDown v)
  /-- No call returns anything else. -/
  returned : T.entered.Nodup →
    ∀ n x, p.gateway.outcome? n = some x → x = .error Worker.notConfigured

/-- What the gateway knows of the worker's configuration. -/
structure IsInformed (build : Destination → Except Verdict τ) (id : Id) (d : Destination)
    (v : Verdict) (T : Traffic) (p : Pipeline τ) : Prop where
  /-- The worker is asked to configure itself once. -/
  posted : ∃ rs, T.posted = .configure id d :: rs ∧ ∀ r ∈ rs, r.publish?.isSome
  /-- It answers that once. -/
  answered : T.answered = [] ∨
    ∃ as, T.answered = .configured id v :: as ∧ ∀ a ∈ as, a.verdict? = none
  verdict : p.gateway.verdict = none ∧ T.routed = [] ∨
    p.gateway.verdict = some v ∧ .configured id v ∈ T.routed
  /-- What is known never changes. -/
  stays : ∀ u, p.gateway.verdict = some u → ∀ steps p', p.run? build steps = some p' →
    p'.gateway.verdict = some u
  accepted : p.gateway.verdict = some .accepted → p.worker.transport.isSome
  /-- If the destination was not accepted, there will never be a transport. -/
  rejected : ∀ u, p.gateway.verdict = some u → u ≠ .accepted →
    ∀ steps p', p.run? build steps = some p' → p'.worker.transport = none

theorem foldl_verdict {rs : List Response} (h : ∀ r ∈ rs, r.verdict? = none) (v : Option Verdict) :
    rs.foldl (fun v r => r.verdict?.or v) v = v := by
  induction rs generalizing v with
  | nil => rfl
  | cons r rs ih =>
    rw [List.foldl_cons, h r List.mem_cons_self, Option.none_or]
    exact ih (fun r hr => h r (List.mem_cons_of_mem _ hr)) v

/-- The gateway has heard nothing, or the answer to the request to configure the worker. -/
theorem IsReadied.verdict_eq (h : IsReadied build start id d said T p) :
    let v := (({} : Worker τ).configure build d).1
    p.gateway.verdict = none ∧ T.routed = [] ∨
      p.gateway.verdict = some v ∧ ∃ rs, T.routed = .configured id v :: rs := by
  intro v
  have hresponses := h.stock.responses
  rw [h.verdict]
  cases hrouted : T.routed with
  | nil => exact .inl ⟨rfl, rfl⟩
  | cons r rs =>
    refine .inr ?_
    rw [hrouted, List.cons_append] at hresponses
    rcases h.stock.worker.answered_eq with hnone | ⟨as, has, hsilent⟩
    · rw [hnone] at hresponses
      cases hresponses
    · obtain ⟨rfl, rfl⟩ := List.cons.inj (has.symm.trans hresponses)
      refine ⟨?_, rs, rfl⟩
      rw [List.foldl_cons]
      exact foldl_verdict (fun r hr => hsilent r (List.mem_append_left _ hr)) _

theorem isEquipped_of_isReadied (h : IsReadied build start id d said T p) {t : τ}
    (ht : build d = .ok t) : p.IsEquipped said T := by
  obtain ⟨hgiven, hanswers⟩ := h.stock.worker.of_ok ht
  have hreturned (n : Nat) (x : DeliveryResult) (hx : p.gateway.outcome? n = some x) :
      x = .error unavailable ∨ x = .error Worker.emptyBatch ∨ said x := by
    obtain ⟨c, hc, hslot⟩ := h.isOrderly.slot_of_outcome hx
    refine (h.slots c (List.mem_of_getElem? hc) x hslot).imp_right fun ⟨r, hr, hresult⟩ => ?_
    exact hanswers r (by rw [h.stock.responses]; exact List.mem_append_left _ hr) x hresult
  refine ⟨hgiven, hanswers, hreturned, fun hnot => ⟨fun r hr hx => ?_, fun n hx => ?_⟩⟩
  · rcases hanswers r hr _ hx with hempty | hsaid
    · simp [Worker.notConfigured, Worker.emptyBatch] at hempty
    · exact hnot hsaid
  · rcases hreturned n _ hx with hgone | hempty | hsaid
    · simp [Worker.notConfigured, unavailable] at hgone
    · simp [Worker.notConfigured, Worker.emptyBatch] at hempty
    · exact hnot hsaid

theorem isTurnedDown_of_isReadied (hstart : Pipeline.start ids d = .ok start)
    (h : IsReadied build start id d said T p) {v : Verdict} (hv : build d = .error v) :
    p.IsTurnedDown v T := by
  obtain ⟨hworker, hanswered⟩ := h.stock.worker.of_error hv
  refine ⟨hworker, hanswered, fun hids n x hx => ?_⟩
  -- As the transport loses nothing, the router has something to say to every call.
  obtain ⟨horderly, haccounted⟩ := isAccounted_start hstart
  obtain ⟨horderly, haccounted⟩ := isAccounted_of_course (h.course v hv) horderly haccounted hids
  have hconserved : p.IsConserved build T := isConserved_of_isAccounted horderly haccounted hids
  obtain ⟨c, -, hrouted⟩ := hconserved.results n x hx
  have hmem : .ofResult c.id x ∈ T.served.map (·.turnedDown v) := by
    rw [← hanswered, h.stock.responses]
    exact List.mem_append_left _ hrouted
  obtain ⟨r, -, hr⟩ := List.mem_map.1 hmem
  have hresult := congrArg Response.result? hr
  rw [Response.result?_ofResult] at hresult
  cases r <;> cases hresult
  rfl

theorem isInformed_of_isReadied (h : IsReadied build start id d (fun _ => True) T p)
    (hbuild : build d ≠ .error .accepted) :
    p.IsInformed build id d (({} : Worker τ).configure build d).1 T := by
  -- The answer tells whether there is a transport, as no factory rejects what it accepts.
  have hknown (u : Verdict) (hu : p.gateway.verdict = some u) :
      (({} : Worker τ).configure build d).1 = u ∧ T.answered ≠ [] ∧ T.routed ≠ [] := by
    rcases h.verdict_eq with ⟨hnone, -⟩ | ⟨hsome, rs, hrouted⟩
    · simp [hnone] at hu
    · exact ⟨Option.some.inj (hsome.symm.trans hu), by simp [h.stock.responses, hrouted],
        by simp [hrouted]⟩
  have hlater (steps : List Step) (p' : Pipeline τ) (hrun : p.run? build steps = some p') :
      IsReadied build start id d (fun _ => True) (T ++ p.passesAll build steps) p' :=
    isReadied_of_run? h hrun fun _ _ _ _ => trivial
  refine ⟨h.stock.posted, h.stock.worker.answered_eq, ?_, fun u hu steps p' hrun => ?_,
    fun hu => ?_, fun u hu hne steps p' hrun => ?_⟩
  · refine h.verdict_eq.imp_right fun ⟨hverdict, rs, hrouted⟩ => ⟨hverdict, ?_⟩
    rw [hrouted]
    exact List.mem_cons_self
  · obtain ⟨rfl, -, hrouted⟩ := hknown u hu
    rcases (hlater steps p' hrun).verdict_eq with ⟨-, hnone⟩ | ⟨hsome, -⟩
    · exact absurd (List.append_eq_nil_iff.1 hnone).1 hrouted
    · exact hsome
  · obtain ⟨haccepted, hanswered, -⟩ := hknown _ hu
    cases hd : build d with
    | ok t => exact h.stock.worker.isSome_transport hanswered hd
    | error v => simp_all [Worker.configure]
  · obtain ⟨hrejected, -⟩ := hknown u hu
    cases hd : build d with
    | ok t => simp_all [Worker.configure]
    | error v =>
      have hworker : p'.worker = {} := ((hlater steps p' hrun).stock.worker.of_error hd).1
      rw [hworker]

/-- Whenever calls are made and however the steps interleave: with a transport no call is told
    that the worker is not configured, and every batch that is served and has something in it
    reaches the transport; without one every call is told so. Of the configuration the gateway
    knows nothing yet, or what the worker has answered once, which tells the two cases apart. -/
theorem neverTooEarly_of_run? {steps : List Step} (hbuild : build d ≠ .error .accepted)
    (hstart : Pipeline.start ids d = .ok start) (hrun : start.run? build steps = some p) :
    let T := start.opening ++ start.passesAll build steps
    let said (x : DeliveryResult) := ∃ n elapsed, Step.worker (.finish n x elapsed) ∈ steps
    (∀ t, build d = .ok t → p.IsEquipped said T) ∧
      (∀ v, build d = .error v → p.IsTurnedDown v T) ∧
      p.IsInformed build ids.take.1.id d (({} : Worker τ).configure build d).1 T := by
  intro T said
  have h : IsReadied build start ids.take.1.id d said T p :=
    isReadied_of_run? (isReadied_start hstart) hrun fun n x elapsed hs => ⟨n, elapsed, hs⟩
  have hany : IsReadied build start ids.take.1.id d (fun _ => True) T p :=
    isReadied_of_run? (isReadied_start hstart) hrun fun _ _ _ _ => trivial
  exact ⟨fun t ht => isEquipped_of_isReadied h ht,
    fun v hv => isTurnedDown_of_isReadied hstart h hv, isInformed_of_isReadied hany hbuild⟩

/-- Two calls are made before the worker has taken its first request, one of them with nothing
    in its batch. A worker with access to the network delivers the other; one without it turns
    both down. -/
theorem neverTooEarly_of_run?_beforeConfigured :
    let ids : Supply := { ids := fun n => ⟨Id.v7 n 0, Id.version_v7 n 0⟩ }
    let d : Destination := { apiKey := "key", host := "http://[::1]" }
    let early : List Step :=
      [.gateway (.enter (Id.ofNat 1) [⟨.visitor, Id.ofNat 9, none⟩]),
        .gateway (.enter (Id.ofNat 2) []), .gateway (.post 1), .gateway (.post 0),
        .worker .serve, .worker .serve, .worker .serve]
    let routes : List Step := [.gateway .route, .gateway .route, .gateway .route]
    let online := Http.Sender.buildWith fun _ => none
    let offline := Http.Sender.buildWith fun _ => some "no access"
    let steps := early ++ .worker (.finish 0 (.ok 1) 5) :: routes
    ∃ start p q, Pipeline.start ids d = .ok start ∧
      start.run? online steps = some p ∧
      p.IsEquipped (fun x => ∃ n elapsed, Step.worker (.finish n x elapsed) ∈ steps)
        (start.opening ++ start.passesAll online steps) ∧
      p.gateway.verdict = some .accepted ∧
      p.gateway.outcome? 0 = some (.ok 1) ∧
      p.gateway.outcome? 1 = some (.error Worker.emptyBatch) ∧
      start.run? offline (early ++ routes) = some q ∧
      q.IsTurnedDown .invalid (start.opening ++ start.passesAll offline (early ++ routes)) ∧
      q.gateway.verdict = some .invalid ∧
      q.gateway.outcome? 0 = some (.error Worker.notConfigured) ∧
      q.gateway.outcome? 1 = some (.error Worker.notConfigured) := by
  intro ids d early routes online offline steps
  have hcheck : d.check = .accepted := by decide +kernel
  let start : Pipeline Http.Sender :=
    { gateway := Gateway.start ids.take.1.id d {}, ids := ids.take.2 }
  have hstart : Pipeline.start ids d = .ok start := by
    simp only [Pipeline.start, Gateway.connect, hcheck]
    rfl
  have hp : (start.run? online steps).map (fun p =>
      (p.gateway.verdict, p.gateway.outcome? 0, p.gateway.outcome? 1)) =
      some (some .accepted, some (.ok 1), some (.error Worker.emptyBatch)) := by decide +kernel
  have hq : (start.run? offline (early ++ routes)).map (fun p =>
      (p.gateway.verdict, p.gateway.outcome? 0, p.gateway.outcome? 1)) =
      some (some .invalid, some (.error Worker.notConfigured),
        some (.error Worker.notConfigured)) := by decide +kernel
  have honline : online d = .ok ⟨d.apiKey, d.endpoint, d.timeout⟩ := by
    simp only [online, Http.Sender.buildWith, Http.Sender.build, Http.Sender.new, hcheck]
    rfl
  have hoffline : offline d = .error .invalid := rfl
  obtain ⟨p, hrun, hp⟩ := Option.map_eq_some_iff.1 hp
  obtain ⟨q, hrun', hq⟩ := Option.map_eq_some_iff.1 hq
  simp only [Prod.mk.injEq] at hp hq
  have hequipped := (neverTooEarly_of_run? (Http.Sender.buildWith_ne_accepted _ d) hstart hrun).1
  have hturnedDown :=
    (neverTooEarly_of_run? (Http.Sender.buildWith_ne_accepted _ d) hstart hrun').2.1
  exact ⟨start, p, q, hstart, hrun, hequipped _ honline, hp.1, hp.2.1, hp.2.2, hrun',
    hturnedDown _ hoffline, hq.1, hq.2.1, hq.2.2⟩

end Pipeline

end Clickstream
