import Clickstream.Proofs.Pipeline.Situation

/-!
# What a pipeline yields

What a caller of a pipeline will get is settled when it calls: it is what the direct
publisher answers, as the request to configure the worker stands in the queue before all
others. A situation tells what its call yields (`Situation.Yields`), no step in the
background changes that, and each of them brings the pipeline nearer to its rest
(`Situation.Advances`).

* `advances_of_run?`: a run in the background leads from situation to situation, by as many
  steps as it comes nearer to the rest;
* `exists_step?_of_waits`: as long as a call waits, a step is possible;
* `direct_of_publishes`: under every schedule a call gets what the direct publisher answers;
* `answers_of_isAtRest`: and no schedule keeps it waiting.
-/

namespace Clickstream.Situation

variable {τ π : Type} {build : Destination → Except Verdict τ} {deliver : τ → Publisher π}
  {id i : Id} {d : Destination} {s s' s'' : Situation π} {l : LivePipeline τ π}
  {result : DeliveryResult} {x : π × List (List WireEvent)} {batch : List WireEvent} {m n : Nat}

section Definitions

variable (build : Destination → Except Verdict τ) (deliver : τ → Publisher π) (d : Destination)

/-- What the last call yields, and the world of the transport and the batches given to it
    that it leaves. The worker takes nothing up before the request to configure it. -/
def Yields (result : DeliveryResult) (x : π × List (List WireEvent)) (s : Situation π) : Prop :=
  match s.leg with
  | .none => (s.world, s.given) = x
  | .entered _ batch | .posted _ batch =>
    Publisher.direct build deliver d batch (s.world, s.given) = (result, x)
  | .given e => s.setup ≠ .requested ∧
      ∃ t, build d = .ok t ∧ deliver t e.batch s.world = (result, x.1) ∧ s.given = x.2
  | .asked _ r => s.setup ≠ .requested ∧ r = result ∧ (s.world, s.given) = x
  | .answered c => s.setup ≠ .requested ∧ c.result = result ∧ (s.world, s.given) = x
  | .ended c => c.result = result ∧ (s.world, s.given) = x

/-- What the worker makes of a request to publish: it takes the batch for its transport, or
    answers at once. -/
inductive IsTaken (i : Id) (batch : List WireEvent) (s : Situation π) : Situation π → Prop
  | given (t : τ) (accepted : build d = .ok t) (nonempty : batch.isEmpty = false) :
    IsTaken i batch s { s with
      leg := .given ⟨s.given.length, i, batch⟩
      given := s.given ++ [batch] }
  | refused (e : DeliveryError)
      (direct : Publisher.direct build deliver d batch (s.world, s.given) =
        (.error e, s.world, s.given)) :
    IsTaken i batch s { s with
      leg := .answered ⟨i, batch, .error e⟩
      workerLog := s.workerLog ++ [.undelivered e.kind] }

/-- One situation comes after another by so many steps in the background. -/
structure Advances (result : DeliveryResult) (x : π × List (List WireEvent)) (n : Nat)
    (s s' : Situation π) : Prop where
  yields : s'.Yields build deliver d result x
  past : s'.past = s.past
  /-- Something happens to a call only while its caller waits. -/
  leg : s'.leg = s.leg ∨ s.leg.isWaiting ∧ (s'.leg.isWaiting ∨ s'.leg.result?.isSome)
  remaining : s'.remaining + n ≤ s.remaining

end Definitions

/-! ## Steps -/

theorem Yields.responses_eq_nil (hs : s.Yields build deliver d result x)
    (hsetup : s.setup = .requested) : s.leg.responses = [] := by
  rw [Yields] at hs
  cases hleg : s.leg with
  | answered c =>
    rw [hleg] at hs
    exact absurd hsetup hs.1
  | _ => rfl

theorem Yields.withSetup (hs : s.Yields build deliver d result x) {setup : Setup}
    (hsetup : setup ≠ .requested) :
    ({ s with setup } : Situation π).Yields build deliver d result x := by
  obtain ⟨_, leg, past, world, given, ids, verdict, reports, log, workerLog⟩ := s
  cases leg with
  | given | asked | answered => exact ⟨hsetup, hs.2⟩
  | none | entered | posted | ended => exact hs

/-- The worker takes up a batch, or turns it down as the direct publisher does. -/
theorem exists_isTaken (build : Destination → Except Verdict τ) (deliver : τ → Publisher π)
    (id : Id) (d : Destination) (hsetup : s.setup ≠ .requested) (hleg : s.leg = .posted i batch) :
    ∃ s', s.IsTaken build deliver d i batch s' ∧
      (s.live build id d).step? build deliver .serve = some (s'.live build id d) := by
  cases hbuild : build d with
  | error v =>
    have hpublish : Worker.publish i batch { transport := (build d).toOption, given := s.given } =
        .error Worker.notConfigured := by
      rw [hbuild]
      rfl
    exact ⟨_, .refused _ (by rw [Publisher.direct, hbuild]),
      step?_serve_refused hsetup hleg hpublish⟩
  | ok t =>
    cases hbatch : batch.isEmpty with
    | true =>
      have hpublish : Worker.publish i batch
          { transport := (build d).toOption, given := s.given } = .error Worker.emptyBatch := by
        rw [hbuild, Worker.publish, hbatch]
        rfl
      exact ⟨_, .refused _ (by simp only [Publisher.direct, hbuild, hbatch, if_true]),
        step?_serve_refused hsetup hleg hpublish⟩
    | false => exact ⟨_, .given t hbuild hbatch, step?_serve_given hsetup hleg hbuild hbatch⟩

theorem IsTaken.advances (h : s.IsTaken build deliver d i batch s')
    (hs : s.Yields build deliver d result x) (hsetup : s.setup ≠ .requested)
    (hleg : s.leg = .posted i batch) : s.Advances build deliver d result x 1 s' := by
  simp only [Yields, hleg] at hs
  cases h with
  | given t hbuild hbatch =>
    simp only [Publisher.direct, hbuild, hbatch, Publisher.recorded] at hs
    obtain ⟨rfl, rfl⟩ := hs
    refine ⟨⟨hsetup, t, hbuild, rfl, rfl⟩, rfl, ?_, ?_⟩ <;>
      simp [hleg, Leg.isWaiting, remaining, Leg.remaining]
  | refused e hdirect =>
    rw [hdirect] at hs
    cases hs
    refine ⟨⟨hsetup, rfl, rfl⟩, rfl, ?_, ?_⟩ <;>
      simp [hleg, Leg.isWaiting, remaining, Leg.remaining]

theorem advances_of_serve (hs : s.Yields build deliver d result x)
    (h : (s.live build id d).step? build deliver .serve = some l) :
    ∃ s', l = s'.live build id d ∧ s.Advances build deliver d result x 1 s' := by
  -- The request to configure the worker is served before any other, so what is posted now
  -- does not matter.
  by_cases hsetup : s.setup = .requested
  · rw [step?_serve_requested hsetup (hs.responses_eq_nil hsetup)] at h
    cases h
    refine ⟨_, rfl, hs.withSetup (by simp), rfl, .inl rfl, ?_⟩
    simp only [remaining, hsetup, Setup.remaining]
    omega
  · cases hleg : s.leg with
    | posted i batch =>
      obtain ⟨s', hs', hstep⟩ := exists_isTaken build deliver id d hsetup hleg
      rw [hstep] at h
      cases h
      exact ⟨s', rfl, hs'.advances hs hsetup hleg⟩
    | none | entered | given | asked | answered | ended =>
      rw [LivePipeline.step?_serve_eq_none] at h
      · cases h
      · simp [live, Setup.requests_of_ne hsetup, hleg, Leg.requests]

theorem advances_of_ask (hs : s.Yields build deliver d result x)
    (h : (s.live build id d).step? build deliver (.ask n) = some l) :
    ∃ s', l = s'.live build id d ∧ s.Advances build deliver d result x 1 s' := by
  obtain ⟨t, ht, h'⟩ := Option.bind_eq_some_iff.1 h
  obtain ⟨e, he, h'⟩ := Option.bind_eq_some_iff.1 h'
  have hmem : e ∈ s.leg.running := List.mem_of_find?_eq_some he
  have hn : e.number = n := by simpa using List.find?_some he
  cases hleg : s.leg with
  | given e' =>
    rw [hleg, Leg.running, List.mem_singleton] at hmem
    subst hmem hn
    simp only [Yields, hleg] at hs
    obtain ⟨hsetup, t, hbuild, hdeliver, hgiven⟩ := hs
    rw [step?_ask hsetup hleg hbuild, hdeliver] at h
    cases h
    refine ⟨_, rfl, ⟨hsetup, rfl, by rw [hgiven]⟩, rfl, ?_, ?_⟩ <;>
      simp [hleg, Leg.isWaiting, remaining, Leg.remaining]
  | asked e' r =>
    -- The delivery has asked already.
    rw [hleg, Leg.running, List.mem_singleton] at hmem
    obtain ⟨u, hguard, -⟩ := Option.bind_eq_some_iff.1 h'
    have hlookup := (Option.guard_eq_some' u).1 hguard
    simp [live, hleg, Leg.answers, ← hmem, hn] at hlookup
  | none | entered | posted | answered | ended =>
    rw [hleg] at hmem
    cases hmem

theorem advances_of_finish {elapsed : Nat} (hs : s.Yields build deliver d result x)
    (h : (s.live build id d).step? build deliver (.finish n elapsed) = some l) :
    ∃ s', l = s'.live build id d ∧ s.Advances build deliver d result x 1 s' := by
  obtain ⟨r, hr, -⟩ := Option.bind_eq_some_iff.1 h
  have hr : s.leg.answers.lookup n = some r := hr
  cases hleg : s.leg with
  | asked e r' =>
    have hn : n = e.number := by
      by_cases hn : n = e.number
      · exact hn
      · rw [hleg, Leg.answers, List.lookup_cons, beq_false_of_ne hn] at hr
        cases hr
    subst hn
    simp only [Yields, hleg] at hs
    rw [step?_finish elapsed hleg] at h
    cases h
    refine ⟨_, rfl, hs, rfl, ?_, ?_⟩ <;>
      simp [hleg, Leg.isWaiting, remaining, Leg.remaining]
  | none | entered | posted | given | answered | ended =>
    rw [hleg] at hr
    cases hr

theorem advances_of_route (hs : s.Yields build deliver d result x)
    (h : (s.live build id d).step? build deliver .route = some l) :
    ∃ s', l = s'.live build id d ∧ s.Advances build deliver d result x 1 s' := by
  cases hsetup : s.setup with
  | requested =>
    -- The worker has answered nothing yet.
    rw [LivePipeline.step?_route_eq_none] at h
    · cases h
    · simp [live, hsetup, Setup.responses, hs.responses_eq_nil hsetup]
  | answered =>
    obtain ⟨reports, hstep⟩ := step?_route_answered build deliver id d hsetup
    rw [hstep] at h
    cases h
    refine ⟨_, rfl, hs.withSetup (by simp), rfl, .inl rfl, ?_⟩
    simp only [remaining, hsetup, Setup.remaining]
    omega
  | settled =>
    cases hleg : s.leg with
    | answered c =>
      rw [step?_route_ended hsetup hleg] at h
      cases h
      simp only [Yields, hleg] at hs
      refine ⟨_, rfl, hs.2, rfl, ?_, ?_⟩ <;>
        simp [hleg, Leg.isWaiting, Leg.result?, remaining, Leg.remaining]
    | none | entered | posted | given | asked | ended =>
      rw [LivePipeline.step?_route_eq_none] at h
      · cases h
      · simp [live, hsetup, hleg, Setup.responses, Leg.responses]

/-- A step in the background leads to the next situation. -/
theorem advances_of_step? {e : LivePipeline.Step} (hs : s.Yields build deliver d result x)
    (he : e.isBackground) (h : (s.live build id d).step? build deliver e = some l) :
    ∃ s', l = s'.live build id d ∧ s.Advances build deliver d result x 1 s' := by
  cases e with
  | enter | post => cases he
  | withdraw n =>
    rw [step?_withdraw_eq_none] at h
    cases h
  | close =>
    rw [step?_close_eq_none] at h
    cases h
  | stop =>
    rw [step?_stop_eq_none] at h
    cases h
  | route => exact advances_of_route hs h
  | serve => exact advances_of_serve hs h
  | ask n => exact advances_of_ask hs h
  | finish n elapsed => exact advances_of_finish hs h

/-- As long as it is not for the caller to go on, a step is possible in the background. -/
theorem exists_step?_of_waits (id : Id) (hs : s.Yields build deliver d result x)
    (hleg : s.leg.isWaiting) : ∃ e : LivePipeline.Step, e.isBackground ∧
      ((s.live build id d).step? build deliver e).isSome := by
  cases hsetup : s.setup with
  | requested =>
    exact ⟨.serve, rfl, by rw [step?_serve_requested hsetup (hs.responses_eq_nil hsetup)]; rfl⟩
  | answered =>
    obtain ⟨reports, hstep⟩ := step?_route_answered build deliver id d hsetup
    exact ⟨.route, rfl, by rw [hstep]; rfl⟩
  | settled =>
    have hne : s.setup ≠ .requested := by simp [hsetup]
    cases h : s.leg with
    | none | entered | ended =>
      rw [h] at hleg
      cases hleg
    | posted i batch =>
      obtain ⟨s', -, hstep⟩ := exists_isTaken build deliver id d hne h
      exact ⟨.serve, rfl, by rw [hstep]; rfl⟩
    | given e =>
      rw [Yields, h] at hs
      obtain ⟨-, t, hbuild, -⟩ := hs
      exact ⟨.ask e.number, rfl, by rw [step?_ask hne h hbuild]; rfl⟩
    | asked e r => exact ⟨.finish e.number 0, rfl, by rw [step?_finish 0 h]; rfl⟩
    | answered c => exact ⟨.route, rfl, by rw [step?_route_ended hsetup h]; rfl⟩

/-! ## Runs -/

theorem Advances.trans (h : s.Advances build deliver d result x m s')
    (h' : s'.Advances build deliver d result x n s'') :
    s.Advances build deliver d result x (m + n) s'' where
  yields := h'.yields
  past := h'.past.trans h.past
  leg := by
    rcases h.leg with heq | ⟨hwaiting, hleg⟩ <;> rcases h'.leg with heq' | ⟨hwaiting', hleg'⟩
    · exact .inl (heq'.trans heq)
    · exact .inr ⟨by rwa [← heq], hleg'⟩
    · exact .inr ⟨hwaiting, by rwa [heq']⟩
    · exact .inr ⟨hwaiting, hleg'⟩
  remaining := by
    have := h.remaining
    have := h'.remaining
    omega

/-- A run in the background leads to a later situation. -/
theorem advances_of_run? {steps : List LivePipeline.Step}
    (hs : s.Yields build deliver d result x) (hsteps : ∀ e ∈ steps, e.isBackground)
    (h : (s.live build id d).run? build deliver steps = some l) :
    ∃ s', l = s'.live build id d ∧ s.Advances build deliver d result x steps.length s' := by
  induction steps generalizing s with
  | nil =>
    cases h
    exact ⟨s, rfl, hs, rfl, .inl rfl, Nat.le_refl _⟩
  | cons e steps ih =>
    obtain ⟨l', hstep, hrun⟩ := Option.bind_eq_some_iff.1 h
    obtain ⟨s', rfl, hs'⟩ := advances_of_step? hs (hsteps e (by simp)) hstep
    obtain ⟨s'', rfl, hs''⟩ := ih hs'.yields (fun e he => hsteps e (by simp [he])) hrun
    refine ⟨s'', rfl, ?_⟩
    rw [List.length_cons, Nat.add_comm]
    exact hs'.trans hs''

/-! ## Calls -/

theorem yields_of_isAtRest (build : Destination → Except Verdict τ) (deliver : τ → Publisher π)
    (d : Destination) (hrest : s.leg.isAtRest) :
    ∃ result, s.Yields build deliver d result (s.world, s.given) := by
  unfold Yields
  cases hleg : s.leg <;> rw [hleg] at hrest
  case none => exact ⟨.ok 0, rfl⟩
  case ended c => exact ⟨c.result, rfl, rfl⟩
  all_goals cases hrest

theorem eq_of_yields_isAtRest (hs : s.Yields build deliver d result x) (hrest : s.leg.isAtRest) :
    (s.world, s.given) = x := by
  rw [Yields] at hs
  cases hleg : s.leg <;> rw [hleg] at hs hrest
  case none => exact hs
  case ended => exact hs.2
  all_goals cases hrest

/-- The number of the next call, or of the one that has just begun. -/
theorem length_calls_of_isAtRest (hrest : s.leg.isAtRest) :
    (s.live build id d).pipeline.gateway.calls.length = (s.past ++ s.leg.finished).length := by
  simp only [live, List.length_append, List.length_map]
  cases hleg : s.leg <;> rw [hleg] at hrest
  case none | ended => rfl
  all_goals cases hrest

theorem outcome?_live (s : Situation π) :
    (s.live build id d).outcome? s.past.length = s.leg.result? := by
  have hcall : (s.past.map FinishedCall.toCall ++ s.leg.calls)[s.past.length]? =
      s.leg.calls[0]? := by
    rw [List.getElem?_append_right (by simp), List.length_map, Nat.sub_self]
  simp only [LivePipeline.outcome?, Gateway.outcome?, live, hcall]
  cases s.leg <;> rfl

/-- Wherever a schedule has brought a call, it will get what the direct publisher answers,
    and not many steps are left. -/
theorem yields_of_call? {σ : LivePipeline.Schedule} (hrest : s.leg.isAtRest)
    (hx : Publisher.direct build deliver d batch (s.world, s.given) = (result, x))
    (h : (s.live build id d).call? build deliver σ batch = some l) :
    ∃ s' : Situation π, l = s'.live build id d ∧ s'.Yields build deliver d result x ∧
      s'.past = s.past ++ s.leg.finished ∧ (s'.leg.isWaiting ∨ s'.leg.result?.isSome) ∧
      s'.remaining + (σ.before ++ σ.between ++ σ.after).length ≤ 6 := by
  obtain ⟨before, between, after, hbackground⟩ := σ
  simp only [List.mem_append] at hbackground
  obtain ⟨l₁, l₂, hbefore, henter, h⟩ := LivePipeline.run?_eq_some_iff.1 h
  obtain ⟨l₃, l₄, hbetween, hpost, hafter⟩ := LivePipeline.run?_eq_some_iff.1 h
  -- Before the call enters, only the request to configure the worker can move.
  obtain ⟨r₀, hs⟩ := yields_of_isAtRest build deliver d hrest
  obtain ⟨s₁, rfl, h₁⟩ := advances_of_run? hs (fun e he => hbackground e (.inl (.inl he))) hbefore
  have hleg₁ : s₁.leg = s.leg :=
    h₁.leg.resolve_right fun hwaiting => Leg.not_isWaiting_of_isAtRest hrest hwaiting.1
  have hrest₁ : s₁.leg.isAtRest := by rwa [hleg₁]
  rw [step?_enter hrest₁] at henter
  cases henter
  -- From here on it is settled what the call yields, although its request is not posted.
  have hs₂ : (s₁.enter batch).Yields build deliver d result x := by
    show Publisher.direct build deliver d batch (s₁.world, s₁.given) = (result, x)
    rw [eq_of_yields_isAtRest h₁.yields hrest₁, hx]
  obtain ⟨s₃, rfl, h₃⟩ := advances_of_run? hs₂ (fun e he => hbackground e (.inl (.inr he))) hbetween
  have hleg₃ : s₃.leg = .entered s₁.ids.take.1.id batch :=
    h₃.leg.resolve_right fun hwaiting => by simp [enter, Leg.isWaiting] at hwaiting
  have hpast : s₃.past = s.past ++ s.leg.finished := by
    rw [h₃.past, enter, h₁.past, hleg₁]
  rw [length_calls_of_isAtRest hrest, ← hpast, step?_post hleg₃] at hpost
  cases hpost
  have hs₄ : ({ s₃ with leg := .posted s₁.ids.take.1.id batch } : Situation π).Yields
      build deliver d result x := by
    have hs₃ := h₃.yields
    simpa only [Yields, hleg₃] using hs₃
  obtain ⟨s₅, rfl, h₅⟩ := advances_of_run? hs₄ (fun e he => hbackground e (.inr he)) hafter
  refine ⟨s₅, rfl, h₅.yields, h₅.past.trans hpast, ?_, ?_⟩
  · rcases h₅.leg with heq | ⟨-, hleg⟩
    · rw [heq]
      exact .inl rfl
    · exact hleg
  · -- The caller's own steps take nothing from the count: a call begins with four steps
    -- left, and they are still left when it posts.
    have hbefore := h₁.remaining
    have hbetween := h₃.remaining
    have hafter := h₅.remaining
    have hsetup := s.setup.remaining_le
    have hleg := Leg.remaining_of_isAtRest hrest
    have hentered (i : Id) : (Leg.entered i batch).remaining = 4 := rfl
    have hposted (i : Id) : (Leg.posted i batch).remaining = 4 := rfl
    simp only [remaining, enter, hleg₁, hleg₃, hleg, hentered, hposted] at hbefore hbetween hafter
    simp only [List.length_append, remaining]
    omega

theorem result?_eq_some {leg : Leg} (h : leg.result? = some result) :
    ∃ c, leg = .ended c ∧ c.result = result := by
  cases leg with
  | ended c =>
    cases h
    exact ⟨c, rfl, rfl⟩
  | none | entered | posted | given | asked | answered => cases h

/-- A call that has its result has what the direct publisher answers, and the pipeline is at
    rest again. -/
theorem direct_of_publishes (hrest : s.leg.isAtRest)
    (h : LivePipeline.Publishes build deliver batch (s.live build id d) result l) :
    ∃ s' : Situation π, l = s'.live build id d ∧ s'.leg.isAtRest ∧
      Publisher.direct build deliver d batch (s.world, s.given) =
        (result, s'.world, s'.given) := by
  obtain ⟨σ, hcall, hresult⟩ := h
  rcases hx : Publisher.direct build deliver d batch (s.world, s.given) with ⟨r, x⟩
  obtain ⟨s', rfl, hs', hpast, -⟩ := yields_of_call? hrest hx hcall
  rw [length_calls_of_isAtRest hrest, ← hpast, outcome?_live] at hresult
  obtain ⟨c, hleg, rfl⟩ := result?_eq_some hresult
  simp only [Yields, hleg] at hs'
  exact ⟨s', rfl, by rw [hleg]; rfl, by rw [hs'.1, hs'.2]⟩

/-- A call that waits gets its result in some run. -/
theorem exists_run?_of_waits (id : Id) (hs : s.Yields build deliver d result x)
    (hleg : s.leg.isWaiting) :
    ∃ (steps : List LivePipeline.Step) (s' : Situation π), (∀ e ∈ steps, e.isBackground) ∧
      (s.live build id d).run? build deliver steps = some (s'.live build id d) ∧
      s'.past = s.past ∧ s'.leg.result?.isSome := by
  -- Each step in the background brings the pipeline nearer to its rest.
  induction hn : s.remaining using Nat.strongRecOn generalizing s with
  | ind n ih =>
    obtain ⟨e, he, hstep⟩ := exists_step?_of_waits id hs hleg
    obtain ⟨l, hstep⟩ := Option.isSome_iff_exists.1 hstep
    obtain ⟨s₁, rfl, h₁⟩ := advances_of_step? hs he hstep
    have hremaining := h₁.remaining
    have hrun {rest : List LivePipeline.Step} {s' : Situation π}
        (h : (s₁.live build id d).run? build deliver rest = some (s'.live build id d)) :
        (s.live build id d).run? build deliver (e :: rest) = some (s'.live build id d) := by
      rw [LivePipeline.run?, List.foldlM_cons, hstep]
      exact h
    by_cases hleg₁ : s₁.leg.isWaiting
    · obtain ⟨steps, s', hsteps, hrun', hpast, hresult⟩ :=
        ih s₁.remaining (by omega) h₁.yields hleg₁ rfl
      exact ⟨e :: steps, s', List.forall_mem_cons.2 ⟨he, hsteps⟩, hrun hrun',
        hpast.trans h₁.past, hresult⟩
    · -- A call that waited and does so no more has its result.
      refine ⟨[e], s₁, by simpa using he, hrun rfl, h₁.past, ?_⟩
      rcases h₁.leg with heq | ⟨-, hwaiting | hresult⟩
      · rw [heq] at hleg₁
        exact absurd hleg hleg₁
      · exact absurd hwaiting hleg₁
      · exact hresult

/-- There is a schedule under which a call gets its result. -/
theorem exists_publishes (hrest : s.leg.isAtRest) (batch : List WireEvent) :
    ∃ result l, LivePipeline.Publishes build deliver batch (s.live build id d) result l := by
  -- Nothing happens in the background until the request is posted.
  let entered := s.enter batch
  let posted : Situation π := { entered with leg := .posted s.ids.take.1.id batch }
  rcases hx : Publisher.direct build deliver d batch (s.world, s.given) with ⟨r, x⟩
  have hposted : posted.Yields build deliver d r x := hx
  obtain ⟨steps, s', hsteps, hrun, hpast, hresult⟩ :=
    exists_run?_of_waits id hposted rfl
  obtain ⟨result, hresult⟩ := Option.isSome_iff_exists.1 hresult
  have hn : (s.live build id d).pipeline.gateway.calls.length = entered.past.length :=
    length_calls_of_isAtRest hrest
  have hstart : (entered.live build id d).run? build deliver [] = some (entered.live build id d) :=
    rfl
  refine ⟨result, s'.live build id d, { after := steps, isBackground := by simpa using hsteps },
    ?_, ?_⟩
  · rw [LivePipeline.call?, LivePipeline.Schedule.steps, hn]
    refine LivePipeline.run?_eq_some_iff.2 ⟨_, _, rfl, step?_enter hrest, ?_⟩
    exact LivePipeline.run?_eq_some_iff.2 ⟨_, _, hstart, step?_post rfl, hrun⟩
  · rw [hn, ← hpast, outcome?_live, hresult]

/-- At rest a pipeline answers every call. -/
theorem answers_of_isAtRest (hrest : s.leg.isAtRest) :
    LivePipeline.Answers build deliver (s.live build id d) := by
  refine fun batch => ⟨exists_publishes hrest batch, fun σ l h => ?_⟩
  obtain ⟨s', rfl, hs', hpast, hleg, hremaining⟩ := yields_of_call? hrest rfl h
  refine ⟨by omega, ?_⟩
  rw [length_calls_of_isAtRest hrest, ← hpast, outcome?_live]
  rcases hleg with hwaiting | hresult
  · exact .inr (exists_step?_of_waits id hs' hwaiting)
  · exact .inl hresult

end Clickstream.Situation
