import Clickstream.Proofs.Gateway.History

/-!
# The stages of a call

How far a call has come can be told from the history. From the moment its request is posted it
waits, until its caller goes away. It fails without the router in two cases: it finds the gateway
closed, and this it can only after the router has closed it; or its request cannot be posted, and
then it leaves the table. In this case it had entered at some moment of the course at which
nobody took requests (`Gateway.Refusal`).

* `isStaged_of_course`: the calls that wait, and those that are abandoned, by the history;
* `closed_of_turnedAway`: a call is turned away only after the end;
* `refusal_of_withdrew`: a call leaves the table only after its request was refused.
-/

namespace Clickstream

/-- Whether the stage of the `n`-th call is what a history says of it: the call waits from when
    its request is posted until its caller goes away. -/
structure PublishCall.IsStaged (H : List Happening) (n : Nat) (c : PublishCall) : Prop where
  waiting : c.stage = .waiting ↔ .posted n ∈ H ∧ .abandoned n ∉ H
  abandoned : c.stage = .abandoned ↔ .abandoned n ∈ H

namespace Gateway

variable {g₀ g g' : Gateway} {H before since es : List Happening} {n : Nat} {id : Id}

/-- How the `n`-th call has come to its stage in a step in which something happens. -/
inductive StageAfter (g : Gateway) (n : Nat) (c' : PublishCall) (es : List Happening) : Prop
  | begins (new : n = g.calls.length) (stage : c'.stage = .entered ∨ c'.stage = .failed)
      (quiet : .posted n ∉ es ∧ .abandoned n ∉ es)
  | stays (c : PublishCall) (found : g.calls[n]? = some c) (id : c.id = c'.id)
      (stage : c'.stage = c.stage) (quiet : .posted n ∉ es ∧ .abandoned n ∉ es)
  | posts (c : PublishCall) (found : g.calls[n]? = some c) (id : c.id = c'.id)
      (stage : c'.stage = .waiting) (before : c.stage = .entered) (happens : es = [.posted n])
  | isRefused (c : PublishCall) (found : g.calls[n]? = some c) (id : c.id = c'.id)
      (stage : c'.stage = .refused) (before : c.stage = .entered)
      (refused : g.link.post? (.publish c.id c.batch) = none)
      (quiet : .posted n ∉ es ∧ .abandoned n ∉ es)
  | withdraws (c : PublishCall) (found : g.calls[n]? = some c) (id : c.id = c'.id)
      (stage : c'.stage = .failed) (before : c.stage = .refused)
      (quiet : .posted n ∉ es ∧ .abandoned n ∉ es)
  | isAbandoned (c : PublishCall) (found : g.calls[n]? = some c) (id : c.id = c'.id)
      (stage : c'.stage = .abandoned) (before : c.stage = .waiting) (happens : es = [.abandoned n])

theorem stageAfter_of_modify {f : PublishCall → PublishCall} {m : Nat} {c c' : PublishCall}
    (hcalls : g'.calls = g.calls.modify m f) (hc' : g'.calls[n]? = some c')
    (found : g.calls[m]? = some c) (hself : m = n → c' = f c → StageAfter g n c' es)
    (hes : m ≠ n → .posted n ∉ es ∧ .abandoned n ∉ es) : StageAfter g n c' es := by
  rw [hcalls] at hc'
  obtain ⟨d, hd, hd'⟩ := getElem?_modify_eq_some hc'
  by_cases hmn : m = n
  · subst hmn
    rw [found] at hd
    cases hd
    exact hself rfl (by rw [hd', if_pos rfl])
  · rw [if_neg hmn] at hd'
    exact .stays d hd (by rw [hd']) (by rw [hd']) (hes hmn)

/-- The stage of a call after a step. No other proof has to look for it. -/
theorem stageAfter_of_effect (heffect : Effect g g' es) {c' : PublishCall}
    (hc' : g'.calls[n]? = some c') : StageAfter g n c' es := by
  cases heffect with
  | idle calls | hear _ _ calls | miss _ _ _ _ calls =>
    exact .stays c' (calls ▸ hc') rfl rfl (by simp)
  | post m c found entered calls =>
    refine stageAfter_of_modify calls hc' found ?_ fun hmn => by simp [Ne.symm hmn]
    rintro rfl rfl
    exact .posts c found rfl rfl entered rfl
  | refuse m c found refused calls =>
    refine stageAfter_of_modify calls hc' found ?_ fun _ => by simp
    rintro rfl rfl
    exact .isRefused c found rfl rfl refused.1 refused.2 (by simp)
  | abandon m c found waiting calls =>
    refine stageAfter_of_modify calls hc' found ?_ fun hmn => by simp [Ne.symm hmn]
    rintro rfl rfl
    exact .isAbandoned c found rfl rfl waiting.1 rfl
  | withdraw m c found refused calls =>
    refine stageAfter_of_modify calls hc' found ?_ fun _ => by simp
    rintro rfl rfl
    exact .withdraws c found rfl rfl refused (by simp)
  | answer _ _ _ _ _ calls =>
    rw [calls] at hc'
    obtain ⟨c, hc, rfl⟩ := getElem?_modify_eq_some hc'
    exact .stays c hc (by split <;> rfl) (by split <;> rfl) (by simp)
  | call c new calls | turnAway c new calls =>
    rw [calls, List.getElem?_append] at hc'
    split at hc'
    · exact .stays c' hc' rfl rfl (by simp)
    · rw [List.getElem?_singleton] at hc'
      split at hc' <;> cases hc'
      exact .begins (by omega) (by simp [new.2]) (by simp)
  | close calls =>
    rw [calls] at hc'
    split at hc'
    · obtain ⟨c, hc, rfl⟩ := Option.map_eq_some_iff.1 hc'
      exact .stays c hc rfl rfl (by simp)
    · exact .stays c' hc' rfl rfl (by simp)

/-! ## Calls that wait -/

/-- The stages of all calls are what a history says, and it speaks of no others. -/
structure IsStaged (H : List Happening) (g : Gateway) : Prop where
  calls : ∀ n (c : PublishCall), g.calls[n]? = some c → c.IsStaged H n
  known : ∀ n, .posted n ∈ H ∨ .abandoned n ∈ H → n < g.calls.length

theorem lt_of_posted (heffect : Effect g g' es) (hmem : .posted n ∈ es ∨ .abandoned n ∈ es) :
    n < g.calls.length := by
  cases heffect with
  | post m c found | abandon m c found =>
    obtain rfl : n = m := by simpa using hmem
    exact (List.getElem?_eq_some_iff.1 found).1
  | _ => simp at hmem

theorem isStaged_of_stageAfter (h : IsStaged H g) {c' : PublishCall}
    (hafter : StageAfter g n c' es) : c'.IsStaged (H ++ es) n := by
  cases hafter with
  | begins new stage quiet =>
    -- The history does not know the call yet.
    have hposted : .posted n ∉ H := fun hmem =>
      absurd (h.known n (.inl hmem)) (by rw [new]; exact Nat.lt_irrefl _)
    have habandoned : .abandoned n ∉ H := fun hmem =>
      absurd (h.known n (.inr hmem)) (by rw [new]; exact Nat.lt_irrefl _)
    rcases stage with stage | stage <;>
      exact ⟨by simp [stage, hposted, quiet], by simp [stage, habandoned, quiet]⟩
  | stays c found _ stage quiet =>
    obtain ⟨hwaiting, habandoned⟩ := h.calls n c found
    exact ⟨by simp [stage, hwaiting, quiet], by simp [stage, habandoned, quiet]⟩
  | isRefused c found _ stage before _ quiet | withdraws c found _ stage before quiet =>
    obtain ⟨hwaiting, habandoned⟩ := h.calls n c found
    rw [before] at hwaiting habandoned
    exact ⟨by simpa [stage, quiet] using hwaiting, by simpa [stage, quiet] using habandoned⟩
  | posts c found _ stage before happens | isAbandoned c found _ stage before happens =>
    obtain ⟨-, habandoned⟩ := h.calls n c found
    exact ⟨by simp [stage, happens, ← habandoned, before],
      by simp [stage, happens, ← habandoned, before]⟩

theorem isStaged_of_effect (h : IsStaged H g) (heffect : Effect g g' es) :
    IsStaged (H ++ es) g' where
  calls n c' hc' := isStaged_of_stageAfter h (stageAfter_of_effect heffect hc')
  known n hmem := by
    have hlength : g.calls.length ≤ g'.calls.length := by
      simpa using (ids_prefix_of_effect heffect).length_le
    rw [List.mem_append, List.mem_append, or_or_or_comm] at hmem
    exact Nat.lt_of_lt_of_le (hmem.elim (h.known n) (lt_of_posted heffect)) hlength

/-- A call waits from when its request is posted until its caller goes away, in every course. -/
theorem isStaged_of_course (h : Course g₀ H g) (hnew : g₀.calls = []) : IsStaged H g := by
  induction h with
  | refl => exact ⟨fun n c hc => by simp [hnew] at hc, fun n hmem => by simp at hmem⟩
  | step _ hstep ih => exact isStaged_of_effect ih (effect_of_step? hstep)

/-! ## Calls that are turned away -/

theorem closed_of_isClosed (h : Course g₀ H g) (hopen : g₀.isClosed = false)
    (hclosed : g.isClosed) : .closed ∈ H := by
  induction h with
  | refl => simp [hopen] at hclosed
  | step _ hstep ih =>
    rcases (isClosed_of_step? hstep).1 hclosed with hbefore | rfl
    · exact List.mem_append_left _ (ih hbefore)
    · exact List.mem_append_right _ List.mem_cons_self

/-- A call is turned away only after the router has closed the gateway. -/
theorem closed_of_turnedAway (h : Course g₀ H g) (hopen : g₀.isClosed = false)
    (hmem : .turnedAway n id ∈ H) :
    ∃ before after, H = before ++ .turnedAway n id :: after ∧ .closed ∈ before := by
  induction h with
  | refl => cases hmem
  | @step H g g' s hcourse hstep ih =>
    rcases List.mem_append.1 hmem with hold | hnew
    · obtain ⟨before, after, rfl, hclosed⟩ := ih hold
      exact ⟨before, after ++ g.happens s, by simp, hclosed⟩
    · have heffect := effect_of_step? hstep
      generalize g.happens s = es at heffect hnew ⊢
      cases heffect with
      | turnAway c _ _ _ _ ended =>
        obtain ⟨rfl, rfl⟩ : n = g.calls.length ∧ id = c.id := by simpa using hnew
        exact ⟨H, [], rfl, closed_of_isClosed hcourse hopen ended⟩
      | _ => simp at hnew

/-! ## Calls whose request is refused -/

/-- A moment of a course at which the request of a call could not be posted: the call had entered
    the table and was about to post, and the link took no requests. -/
inductive Refusal (g₀ : Gateway) (before : List Happening) (n : Nat) (id : Id)
    (since : List Happening) (g : Gateway) : Prop
  | intro (g₁ : Gateway) (c : PublishCall) (way : Course g₀ before g₁)
      (found : g₁.calls[n]? = some c) (entered : c.id = id ∧ c.stage = .entered)
      (refused : g₁.link.post? (.publish id c.batch) = none) (rest : Course g₁ since g)

theorem Refusal.step (h : Refusal g₀ before n id since g) {s : Step} (hstep : g.step? s = some g') :
    Refusal g₀ before n id (since ++ g.happens s) g' := by
  obtain ⟨g₁, c, way, found, entered, refused, rest⟩ := h
  exact .intro g₁ c way found entered refused (rest.step hstep)

/-- The request of a call is refused only in a step in which it cannot be posted. -/
theorem refused_of_effect (heffect : Effect g g' es) {c' : PublishCall}
    (hc' : g'.calls[n]? = some c') (hstage : c'.stage = .refused) :
    ∃ c, g.calls[n]? = some c ∧ c.id = c'.id ∧
      (c.stage = .refused ∨ c.stage = .entered ∧ g.link.post? (.publish c.id c.batch) = none) := by
  cases stageAfter_of_effect heffect hc' with
  | begins _ stage => simp [hstage] at stage
  | stays c found id stage => exact ⟨c, found, id, .inl (stage.symm.trans hstage)⟩
  | isRefused c found id _ before refused => exact ⟨c, found, id, .inr ⟨before, refused⟩⟩
  | posts _ _ _ stage | withdraws _ _ _ stage | isAbandoned _ _ _ stage => simp [hstage] at stage

/-- A call whose request is refused was about to post at a moment of the course. -/
theorem refusal_of_refused (h : Course g₀ H g) (hnew : g₀.calls = []) {c : PublishCall}
    (hc : g.calls[n]? = some c) (hstage : c.stage = .refused) :
    ∃ before since, H = before ++ since ∧ Refusal g₀ before n c.id since g := by
  induction h generalizing c with
  | refl => simp [hnew] at hc
  | @step H g g' s hcourse hstep ih =>
    obtain ⟨d, hd, hid, hstage | ⟨hentered, hrefused⟩⟩ :=
      refused_of_effect (effect_of_step? hstep) hc hstage
    · obtain ⟨before, since, rfl, hrefusal⟩ := ih hd hstage
      rw [hid] at hrefusal
      exact ⟨before, _, List.append_assoc .., hrefusal.step hstep⟩
    · have hrest : Course g ([] ++ g.happens s) g' := Course.refl.step hstep
      rw [hid] at hrefused
      exact ⟨H, _, rfl, .intro g d hcourse hd ⟨hid, hentered⟩ hrefused hrest⟩

theorem exists_refused_of_effect (heffect : Effect g g' es) (hmem : .withdrew n ∈ es) :
    ∃ c, g.calls[n]? = some c ∧ c.stage = .refused := by
  cases heffect with
  | withdraw m c found refused =>
    obtain rfl : n = m := by simpa using hmem
    exact ⟨c, found, refused⟩
  | _ => simp at hmem

/-- A call leaves the table only after its request was refused. -/
theorem refusal_of_withdrew (h : Course g₀ H g) (hnew : g₀.calls = []) (hmem : .withdrew n ∈ H) :
    ∃ c before since, g.calls[n]? = some c ∧ H = before ++ since ∧
      Refusal g₀ before n c.id since g ∧ .withdrew n ∈ since := by
  induction h with
  | refl => cases hmem
  | @step H g g' s hcourse hstep ih =>
    have heffect := effect_of_step? hstep
    rcases List.mem_append.1 hmem with hold | hnow
    · obtain ⟨c, before, since, hc, rfl, hrefusal, hleft⟩ := ih hold
      obtain ⟨c', hc', hid⟩ := exists_call_of_effect heffect hc
      rw [← hid] at hrefusal
      exact ⟨c', before, _, hc', List.append_assoc .., hrefusal.step hstep,
        List.mem_append_left _ hleft⟩
    · obtain ⟨c, hc, hstage⟩ := exists_refused_of_effect heffect hnow
      obtain ⟨before, since, rfl, hrefusal⟩ := refusal_of_refused hcourse hnew hc hstage
      obtain ⟨c', hc', hid⟩ := exists_call_of_effect heffect hc
      rw [← hid] at hrefusal
      exact ⟨c', before, _, hc', List.append_assoc .., hrefusal.step hstep,
        List.mem_append_right _ hnow⟩

end Gateway

end Clickstream
