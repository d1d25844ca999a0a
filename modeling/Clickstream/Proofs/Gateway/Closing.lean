import Clickstream.Proofs.Gateway.Correlation

/-!
# Nobody waits for a closed gateway

When the worker posts no more responses, the router closes the gateway. The calls it
finds in the table are completed as unavailable. The dangerous calls are those that it
finds there before they have posted: their entry is gone, but their request may still be
posted, or be refused. A call that is refused leaves a table which it is not in any more.

* `table_of_course`: once closed, a table is empty for good;
* `slot_of_course`: what the router has put into the slot of a call stays there;
* `isShut_of_close`: hence no call waits after the end, however the steps interleave,
  and it ends by steps of its own.
-/

namespace Clickstream

namespace Gateway

/-- How a call ends without anybody else: it has returned, or its caller went away; or its
    request is still to be posted, or to leave the table, which it can do at once. -/
inductive Ending (g : Gateway) (n : Nat) (c : PublishCall) : Prop
  | returned (x : DeliveryResult) (outcome : g.outcome? n = some x)
  /-- It was completed, but nobody is there to see it. -/
  | abandoned (x : DeliveryResult) (stage : c.stage = .abandoned) (slot : c.slot = some x)
  /-- It leaves the table, and fails. -/
  | refused (g' : Gateway) (stage : c.stage = .refused) (step : g.step? (.withdraw n) = some g')
      (outcome : g'.outcome? n = some (.error unavailable))
  /-- It was completed before it has posted its request. If the request can be posted, it
      returns with its result, and if not, it fails. -/
  | entered (x : DeliveryResult) (g' : Gateway) (stage : c.stage = .entered)
      (slot : c.slot = some x) (step : g.step? (.post n) = some g')
      (outcome : g'.outcome? n = some x ∨ ∃ g'', g'.step? (.withdraw n) = some g'' ∧
        g''.outcome? n = some (.error unavailable))

/-- What is true of a gateway that the router has closed, whatever happens next. -/
structure IsShut (g : Gateway) : Prop where
  /-- Nothing is in the table, and never will be. -/
  table : ∀ H g', Course g H g' → g'.table = []
  /-- Every call was completed by the router or has failed on its own. -/
  settled : ∀ (n : Nat) (c : PublishCall), g.calls[n]? = some c →
    (∃ x, c.slot = some x) ∨ c.stage = .failed
  /-- None waits for anybody. -/
  ends : ∀ (n : Nat) (c : PublishCall), g.calls[n]? = some c → g.Ending n c
  /-- A call that begins now has failed at once, and does not enter the table. -/
  turnsAway : ∀ id batch g', g.step? (.enter id batch) = some g' →
    g'.table = g.table ∧ g'.outcome? g.calls.length = some (.error unavailable)

variable {H H' es : List Happening} {g₀ g g' : Gateway}

/-! ## The table of a closed gateway -/

/-- Nothing enters the table of a closed gateway. -/
theorem table_of_step? {s : Step} (hclosed : g.isClosed) (htable : g.table = [])
    (h : g.step? s = some g') : g'.table = [] := by
  have heffect := effect_of_step? h
  generalize g.happens s = es at heffect
  cases heffect with
  | idle _ table | post _ _ _ _ _ table | refuse _ _ _ _ _ table | abandon _ _ _ _ _ table
  | turnAway _ _ _ table | hear _ _ _ table | miss _ _ _ _ _ table => rw [table, htable]
  | withdraw _ _ _ _ _ table => rw [table, htable]; rfl
  | answer _ _ _ _ _ _ table => rw [table, htable]; rfl
  | close _ table => exact table
  | call _ _ _ _ _ isOpen => simp [hclosed] at isOpen

theorem table_of_course (hclosed : g.isClosed) (htable : g.table = []) (h : Course g H g') :
    g'.isClosed ∧ g'.table = [] := by
  induction h with
  | refl => exact ⟨hclosed, htable⟩
  | step _ hstep ih =>
    exact ⟨(isClosed_of_step? hstep).2 (.inl ih.1), table_of_step? ih.1 ih.2 hstep⟩

/-! ## The calls of a closed gateway -/

/-- A call keeps its id, and what the router has put into its slot. -/
theorem slot_of_effect (h : IsTracked H g) (heffect : Effect g g' es) {n : Nat} {c : PublishCall}
    {x : DeliveryResult} (hc : g.calls[n]? = some c) (hx : c.slot = some x) :
    ∃ c', g'.calls[n]? = some c' ∧ c'.id = c.id ∧ c'.slot = some x := by
  obtain ⟨c', hc', hid⟩ := exists_call_of_effect heffect hc
  refine ⟨c', hc', hid, ?_⟩
  rcases call_of_effect h heffect hc with hkeep | ⟨-, d, hd, hslot | hnone⟩
  · rw [hkeep] at hc'
    cases hc'
    exact hx
  · rw [hd] at hc'
    cases hc'
    rw [hslot, hx]
  · rw [hx] at hnone
    cases hnone

theorem slot_of_course {id : Id} {d : Destination} {link : Link}
    (h : Course (start id d link) H g) (h' : Course g H' g')
    (hids : (g'.calls.map (·.id)).Nodup) {n : Nat} {c : PublishCall} {x : DeliveryResult}
    (hc : g.calls[n]? = some c) (hx : c.slot = some x) :
    ∃ c', g'.calls[n]? = some c' ∧ c'.id = c.id ∧ c'.slot = some x := by
  induction h' with
  | refl => exact ⟨c, hc, rfl, hx⟩
  | step hcourse hstep ih =>
    have heffect := effect_of_step? hstep
    have hids := hids.sublist (ids_prefix_of_effect heffect).sublist
    obtain ⟨c₁, hc₁, hid₁, hx₁⟩ := ih hids
    have htracked := isTracked_of_course (h.trans hcourse) hids
    obtain ⟨c₂, hc₂, hid₂, hx₂⟩ := slot_of_effect htracked heffect hc₁ hx₁
    exact ⟨c₂, hc₂, hid₂.trans hid₁, hx₂⟩

/-- A call whose request was refused can always leave the table, and then has failed. -/
theorem exists_withdraw {n : Nat} {c : PublishCall} (hc : g.calls[n]? = some c)
    (hstage : c.stage = .refused) :
    ∃ g', g.step? (.withdraw n) = some g' ∧ g'.outcome? n = some (.error unavailable) := by
  refine ⟨(g.withTable (g.table.filter (·.1 ≠ c.id))).withStage n .failed, ?_, ?_⟩
  · simp only [step?, withdraw?, hc, Option.bind_eq_bind, Option.bind_some, hstage, guard_true]
    rfl
  · rw [outcome?, withStage, withTable]
    simp only [getElem?_modify_self hc, Option.bind_some]
    rfl

/-- A call that has entered can always go on: its request is posted or refused. -/
theorem exists_post {n : Nat} {c : PublishCall} (hc : g.calls[n]? = some c)
    (hstage : c.stage = .entered) :
    ∃ g', g.step? (.post n) = some g' ∧
      (g'.calls[n]? = some { c with stage := .waiting } ∨
        g'.calls[n]? = some { c with stage := .refused }) := by
  simp only [step?, post?, hc, Option.bind_eq_bind, Option.bind_some, hstage, guard_true]
  cases g.link.post? (.publish c.id c.batch) with
  | some link => exact ⟨_, rfl, .inl (getElem?_modify_self hc _)⟩
  | none => exact ⟨_, rfl, .inr (getElem?_modify_self hc _)⟩

/-- A call that the router has completed, or that has failed, ends without anybody else. -/
theorem ending_of_settled {n : Nat} {c : PublishCall} (hc : g.calls[n]? = some c)
    (h : (∃ x, c.slot = some x) ∨ c.stage = .failed) : g.Ending n c := by
  have houtcome : g.outcome? n = c.result? := by rw [outcome?, hc]; rfl
  rcases h with ⟨x, hx⟩ | hfailed
  · cases hstage : c.stage with
    | waiting => exact .returned x (by rw [houtcome, PublishCall.result?, hstage, hx])
    | failed => exact .returned _ (by rw [houtcome, PublishCall.result?, hstage])
    | abandoned => exact .abandoned x hstage hx
    | refused =>
      obtain ⟨g', hstep, hg'⟩ := exists_withdraw hc hstage
      exact .refused g' hstage hstep hg'
    | entered =>
      obtain ⟨g', hstep, hposted | hrefused⟩ := exists_post hc hstage
      · exact .entered x g' hstage hx hstep (.inl (by rw [outcome?, hposted]; exact hx))
      · exact .entered x g' hstage hx hstep (.inr (exists_withdraw hrefused rfl))
  · exact .returned _ (by rw [houtcome, PublishCall.result?, hfailed])

/-- The calls that the router finds in the table when it closes the gateway get the answer
    that the worker is gone. -/
theorem slot_of_close? (h : IsTracked H g) (hclose : g.close? = some g') {id : Id} {n : Nat}
    (hmem : (id, n) ∈ g.table) :
    ∃ c, g'.calls[n]? = some c ∧ c.id = id ∧ c.slot = some (.error unavailable) := by
  obtain ⟨c, hc, hid⟩ := h.known id n (.inl hmem)
  cases effect_of_close? hclose with
  | close calls _ =>
    have hn : n ∈ g.table.map (·.2) := List.mem_map.2 ⟨_, hmem, rfl⟩
    refine ⟨{ c with slot := some (.error unavailable) }, ?_, hid, rfl⟩
    rw [calls, if_pos hn, hc]
    rfl

/-- From the moment at which the router has closed a gateway, its table is empty, none of
    its calls waits for anybody, and calls that begin fail at once. Those which the router
    found in the table are completed as unavailable, and return nothing else. -/
theorem isShut_of_close {id : Id} {d : Destination} {link : Link} {H₁ H₂ : List Happening}
    {g₁ g₂ g : Gateway} (before : Course (start id d link) H₁ g₁)
    (close : g₁.step? .close = some g₂) (after : Course g₂ H₂ g)
    (hids : (g.calls.map (·.id)).Nodup) :
    g.IsShut ∧ ∀ i n, (i, n) ∈ g₁.table → ∃ c, g.calls[n]? = some c ∧ c.id = i ∧
      c.slot = some (.error unavailable) ∧ ∀ x, g.outcome? n = some x → x = .error unavailable := by
  have hcourse₂ := before.step close
  have hcourse := hcourse₂.trans after
  have htracked := isTracked_of_course hcourse hids
  have htable₂ : g₂.table = [] := by
    cases effect_of_close? close with
    | close _ table => exact table
  obtain ⟨hclosed, htable⟩ := table_of_course ((isClosed_of_step? close).2 (.inr rfl)) htable₂ after
  -- As nothing is in the table, a call without a result has failed.
  have hsettled (n : Nat) (c : PublishCall) (hc : g.calls[n]? = some c) :
      (∃ x, c.slot = some x) ∨ c.stage = .failed := by
    by_contra hnot
    rw [not_or, not_exists] at hnot
    have hmem := (htracked.calls n c hc).entry_of_slot_eq_none
      (Option.eq_none_iff_forall_ne_some.2 hnot.1) hnot.2
    rw [htable] at hmem
    cases hmem
  refine ⟨⟨fun H g' h => (table_of_course hclosed htable h).2, hsettled,
    fun n c hc => ending_of_settled hc (hsettled n c hc), ?_⟩, ?_⟩
  · intro i batch g' hstep
    rw [step?, enter, if_pos hclosed] at hstep
    split at hstep <;> cases hstep
    refine ⟨rfl, ?_⟩
    rw [outcome?, withNewCall, List.getElem?_append_right (Nat.le_refl _), Nat.sub_self]
    rfl
  · intro i n hmem
    have hids₂ := hids.sublist (ids_prefix_of_course after).sublist
    have hids₁ := hids₂.sublist (ids_prefix_of_effect (effect_of_step? close)).sublist
    obtain ⟨c₂, hc₂, hid₂, hslot₂⟩ := slot_of_close? (isTracked_of_course before hids₁) close hmem
    obtain ⟨c, hc, hid, hslot⟩ := slot_of_course hcourse₂ after hids hc₂ hslot₂
    refine ⟨c, hc, hid.trans hid₂, hslot, fun x hx => ?_⟩
    rw [outcome?, hc] at hx
    -- Its slot holds the answer that the worker is gone, and a failed call returns the same.
    cases hstage : c.stage <;> simp_all [PublishCall.result?]

/-- The worker posts no more responses while one call waits and two are about to post. The
    router closes, one of them posts all the same, and the other is refused, as the worker
    takes no more requests either. A fourth call is turned away. -/
theorem isShut_of_close_betweenSteps :
    ∃ H₁ g₁ g₂ H₂ g, Course (start (Id.ofNat 0) { apiKey := "key", host := "http://localhost" } {})
        H₁ g₁ ∧ g₁.step? .close = some g₂ ∧ Course g₂ H₂ g ∧ g₁.table.map (·.2) = [0, 1, 2] ∧
      g.calls.map (·.stage) = [.waiting, .waiting, .refused, .failed] ∧
      g.outcome? 0 = some (.error unavailable) ∧ g.outcome? 1 = some (.error unavailable) ∧
      g.reports = [.stoppedInFlight] ∧ g.IsShut := by
  obtain ⟨g₁, g₂, g, hbefore, hclose, hafter, htable, hids, hstages, hfirst,
    hsecond, hreports⟩ : ∃ g₁ g₂ g : Gateway,
      (start (Id.ofNat 0) { apiKey := "key", host := "http://localhost" } {}).run?
        [.enter (Id.ofNat 1) [], .enter (Id.ofNat 2) [], .enter (Id.ofNat 3) [], .post 0,
          .closeResponses] = some g₁ ∧
      g₁.close? = some g₂ ∧
      g₂.run? [.post 1, .dropRequests, .post 2, .enter (Id.ofNat 4) []] = some g ∧
      g₁.table.map (·.2) = [0, 1, 2] ∧ (g.calls.map (·.id)).Nodup ∧
      g.calls.map (·.stage) = [.waiting, .waiting, .refused, .failed] ∧
      g.outcome? 0 = some (.error unavailable) ∧ g.outcome? 1 = some (.error unavailable) ∧
      g.reports = [.stoppedInFlight] :=
    ⟨_, _, _, rfl, rfl, rfl, rfl, by decide, rfl, rfl, rfl, rfl⟩
  obtain ⟨H₁, hcourse₁⟩ := course_of_run? .refl hbefore
  obtain ⟨H₂, hcourse₂⟩ := course_of_run? .refl hafter
  exact ⟨H₁, g₁, g₂, H₂, g, hcourse₁, hclose, hcourse₂, htable, hstages, hfirst, hsecond, hreports,
    (isShut_of_close hcourse₁ hclose hcourse₂ hids).1⟩

end Gateway

end Clickstream
