import Mathlib.Data.List.Perm.Basic
import Clickstream.Proofs.Pipeline.Traffic

/-!
# No request is lost or made twice

Every id that has entered the table is at one of the four places on the way, or its response
was routed. The proof goes by the moves of a pipeline: most of them carry one id from one
place to the next. That the router always finds the entry of a response, and that the table
changes with the places, needs the invariant itself (`Stock.IsAccounted`), and that the ids
are distinct.

* `Stock.IsAccounted.transfers`: what a move does with the ids;
* `Stock.IsAccounted.move`: a move leaves everything accounted for.
-/

namespace Clickstream

/-- A request that the worker takes goes on as a delivery, or as a response. -/
theorem Worker.Handles.perm_callId? {τ : Type} {build : Destination → Except Verdict τ}
    {w w' : Worker τ} {r : Request} {rs : List Response} (h : w.Handles build r rs w') :
    (w'.running.map (·.id) ++ rs.filterMap (·.callId?)).Perm
      (w.running.map (·.id) ++ r.callId?.toList) := by
  cases h <;> simp [List.filterMap_cons]

namespace Stock

variable {τ : Type} {build : Destination → Except Verdict τ} {T U : Traffic} {s s' : Stock τ}

/-- The requests of the calls that have posted. -/
def made (s : Stock τ) : List (Id × List WireEvent) :=
  (s.calls.filter (·.stage ≠ .entered)).map fun c => (c.id, c.batch)

/-- Where everything is that has passed through a pipeline so far. -/
structure IsAccounted (T : Traffic) (s : Stock τ) : Prop where
  calls : s.calls.map (·.id) = T.entered
  /-- Every call is on its way, or its response was routed. -/
  places : (T.routed.filterMap (·.callId?) ++ s.onTheWay).Perm T.entered
  table : (s.table.map (·.1)).Perm s.onTheWay
  known : ∀ e ∈ s.table, (s.calls.map (·.id))[e.2]? = some e.1
  slots : ∀ (n : Nat) (c : PublishCall), s.calls[n]? = some c →
    c.slot = none ∧ (c.id, n) ∈ s.table ∨ ∃ x, c.slot = some x ∧ .ofResult c.id x ∈ T.routed
  requests : T.posted = T.served ++ s.requests
  responses : T.answered = T.routed ++ s.responses
  posted : (T.posted.filterMap (·.publish?)).Perm s.made
  served : (T.served.filterMap (·.callId?)).Perm
    (s.delivering ++ T.answered.filterMap (·.callId?))
  isNumbered : s.worker.IsNumbered
  reports : ∀ e ∈ s.reports, e = .configurationFailed

/-- A call that goes from one stage to another leaves one list and enters another, or
    neither. -/
theorem perm_stage {n : Nat} {c : PublishCall} (hc : s.calls[n]? = some c) (stage : CallStage)
    (hstage : stage ≠ .entered) :
    let s' := { s with calls := s.calls.modify n fun c => { c with stage } }
    if c.stage = .entered then
      s.entering.Perm (c.id :: s'.entering) ∧ s'.made.Perm ((c.id, c.batch) :: s.made)
    else s'.entering = s.entering ∧ s'.made = s.made := by
  obtain ⟨before, after, hcalls, hmodify⟩ :=
    exists_modify_eq hc fun c : PublishCall => { c with stage }
  dsimp only [entering, made]
  rw [hmodify, hcalls]
  split
  · rename_i h
    simp [h, hstage]
  · rename_i h
    simp [h, hstage]

/-- A result does not move a call from one list to another. -/
theorem eq_of_slot {n : Nat} {c : PublishCall} (hc : s.calls[n]? = some c) (x : DeliveryResult) :
    let s' := { s with calls := s.calls.modify n fun c => { c with slot := some x } }
    s'.entering = s.entering ∧ s'.made = s.made := by
  obtain ⟨before, after, hcalls, hmodify⟩ :=
    exists_modify_eq hc fun c : PublishCall => { c with slot := some x }
  dsimp only [entering, made]
  rw [hmodify, hcalls]
  constructor <;> simp only [List.filter_append, List.filter_cons] <;> split <;> simp

/-- A table without an entry has one id less. -/
theorem perm_filter_ne {table : List (Id × Nat)} (hids : (table.map (·.1)).Nodup) {id : Id}
    (hid : id ∈ table.map (·.1)) :
    (id :: (table.filter (·.1 ≠ id)).map (·.1)).Perm (table.map (·.1)) := by
  have hfilter : (table.filter (·.1 ≠ id)).map (·.1) = (table.map (·.1)).erase id := by
    rw [hids.erase_eq_filter, List.filter_map]
    exact congrArg _ (List.filter_congr fun e _ => by simp [bne, beq_eq_decide])
  rw [hfilter]
  exact (List.perm_cons_erase hid).symm

namespace IsAccounted

/-- A call is on its way once, and not after its response was routed. -/
theorem nodup (h : IsAccounted T s) (hids : T.entered.Nodup) :
    (T.routed.filterMap (·.callId?) ++ s.onTheWay).Nodup :=
  h.places.nodup_iff.2 hids

/-- When nothing is on the way, nothing is in the table. -/
theorem table_eq_nil (h : IsAccounted T s) (hidle : s.onTheWay = []) : s.table = [] :=
  List.map_eq_nil_iff.1 (List.perm_nil.1 (hidle ▸ h.table))

/-- The response that the router takes finds the entry of its call. -/
theorem exists_lookup (h : IsAccounted T s) {r : Response} {x : DeliveryResult}
    {rest : List Response} (hqueue : s.responses = r :: rest) (hx : r.result? = some x) :
    ∃ n c, s.table.lookup r.id = some n ∧ s.calls[n]? = some c ∧ c.id = r.id := by
  have hcall : r.callId? = some r.id := by rw [Response.callId?, hx]; rfl
  have hmem : r.id ∈ s.table.map (·.1) := by
    refine h.table.mem_iff.2 (List.mem_append_right _ ?_)
    rw [responded, hqueue, List.filterMap_cons_some hcall]
    exact List.mem_cons_self
  obtain ⟨e, he, hid⟩ := List.mem_map.1 hmem
  cases hlookup : s.table.lookup r.id with
  | none => simpa [hid] using List.lookup_eq_none_iff.1 hlookup e he
  | some n =>
    have hknown := h.known _ (mem_of_lookup hlookup)
    rw [List.getElem?_map] at hknown
    obtain ⟨c, hc, hcid⟩ := Option.map_eq_some_iff.1 hknown
    exact ⟨n, c, rfl, hc, hcid⟩

end IsAccounted

/-- What a move does with the ids: a call that enters has a place on the way and an entry in
    the table, and a response that is routed ends both. -/
structure Transfers (s : Stock τ) (U : Traffic) (s' : Stock τ) : Prop where
  calls : s'.calls.map (·.id) = s.calls.map (·.id) ++ U.entered
  places : (U.routed.filterMap (·.callId?) ++ s'.onTheWay).Perm (s.onTheWay ++ U.entered)
  table : (U.routed.filterMap (·.callId?) ++ s'.table.map (·.1)).Perm
    (s.table.map (·.1) ++ U.entered)

theorem IsAccounted.transfers (h : IsAccounted T s) (hids : T.entered.Nodup)
    (hmove : Pipeline.Move build s U s') : s.Transfers U s' := by
  cases hmove with
  | enter id batch =>
    refine ⟨by simp, List.perm_iff_count.2 fun a => ?_, by simp⟩
    simp [onTheWay, entering, requested, delivering, responded, List.count_cons]
    omega
  | post n c found stage =>
    refine ⟨by simp [Gateway.map_modify], List.perm_iff_count.2 fun a => ?_, by simp⟩
    have hstage := perm_stage found .waiting (by simp)
    rw [if_pos stage] at hstage
    have hcount := hstage.1.count_eq a
    simp [onTheWay, requested, entering, delivering, responded, List.count_cons] at hcount ⊢
    omega
  | abandon n c found stage =>
    refine ⟨by simp [Gateway.map_modify], ?_, by simp⟩
    have hstage := perm_stage found .abandoned (by simp)
    rw [if_neg (by simp [stage])] at hstage
    simp [onTheWay, hstage.1, requested, delivering, responded]
  | serve r rest rs w queue handles =>
    refine ⟨by simp, List.perm_iff_count.2 fun a => ?_, by simp⟩
    have hcount := handles.perm_callId?.count_eq a
    have hrequested : s.requested = r.callId?.toList ++ rest.filterMap (·.callId?) := by
      rw [requested, queue, List.filterMap_cons]
      cases r.callId? <;> rfl
    simp [onTheWay, entering, delivering, responded, hrequested] at hcount ⊢
    simp [requested]
    omega
  | finish n d x found =>
    refine ⟨by simp, List.perm_iff_count.2 fun a => ?_, by simp⟩
    have hcount := ((h.isNumbered.perm_without found).map (·.id)).count_eq a
    simp [onTheWay, entering, requested, delivering, responded, List.count_cons] at hcount ⊢
    omega
  | hear r rest reports queue result =>
    have hr : r.callId? = none := by rw [Response.callId?, result]; rfl
    refine ⟨by simp, ?_, by simp [hr]⟩
    simp [onTheWay, entering, requested, delivering, responded, queue, hr]
  | route r x rest calls reports queue result resolved =>
    obtain ⟨n, c, hlookup, hc, hid⟩ := h.exists_lookup queue result
    obtain ⟨-, rfl⟩ := resolved n hlookup
    have hr : r.callId? = some r.id := by rw [Response.callId?, result]; rfl
    refine ⟨by simp [Gateway.map_modify], List.perm_iff_count.2 fun a => ?_, ?_⟩
    · have hentering := (eq_of_slot hc x).1
      simp [onTheWay, entering, requested, delivering, responded, queue, hr, List.count_cons]
        at hentering ⊢
      rw [hentering]
      omega
    · have hnodup : (s.table.map (·.1)).Nodup :=
        h.table.nodup_iff.2 ((List.nodup_append.1 (h.nodup hids)).2.1)
      have hmem : r.id ∈ s.table.map (·.1) := List.mem_map_of_mem (mem_of_lookup hlookup)
      have hrouted : [r].filterMap (·.callId?) = [r.id] := by simp [hr]
      simp only [hrouted, List.append_nil]
      exact perm_filter_ne hnodup hmem

theorem IsAccounted.known_of_move (h : IsAccounted T s) (hids : T.entered.Nodup)
    (hmove : Pipeline.Move build s U s') :
    ∀ e ∈ s'.table, (s'.calls.map (·.id))[e.2]? = some e.1 := by
  have hold (e : Id × Nat) (he : e ∈ s.table) : (s'.calls.map (·.id))[e.2]? = some e.1 := by
    have hknown := h.known e he
    have hlt := (List.getElem?_eq_some_iff.1 hknown).1
    rw [(h.transfers hids hmove).calls, List.getElem?_append_left hlt, hknown]
  cases hmove with
  | post | abandon | serve | finish | hear => exact hold
  | enter id batch =>
    intro e he
    rcases List.mem_append.1 he with he | he
    · exact hold e he
    · simp [List.mem_singleton.1 he]
  | route => exact fun e he => hold e (List.mem_of_mem_filter he)

/-- What stands in the slot of a call is the answer that was routed. -/
theorem IsAccounted.slots_of_move (h : IsAccounted T s) (hids : T.entered.Nodup)
    (hmove : Pipeline.Move build s U s') {n : Nat} {c : PublishCall} (hc : s'.calls[n]? = some c) :
    c.slot = none ∧ (c.id, n) ∈ s'.table ∨
      ∃ x, c.slot = some x ∧ .ofResult c.id x ∈ (T ++ U).routed := by
  have hold {d : PublishCall} (hd : s.calls[n]? = some d) : d.slot = none ∧ (d.id, n) ∈ s.table ∨
      ∃ x, d.slot = some x ∧ .ofResult d.id x ∈ (T ++ U).routed :=
    (h.slots n d hd).imp_right fun ⟨x, hx, hmem⟩ => ⟨x, hx, List.mem_append_left _ hmem⟩
  cases hmove with
  | serve | finish | hear => exact hold hc
  | enter id batch =>
    rw [List.getElem?_append] at hc
    split at hc
    · exact (hold hc).imp_left fun ⟨hslot, hmem⟩ => ⟨hslot, List.mem_append_left _ hmem⟩
    · rename_i hnew
      obtain ⟨hn, rfl⟩ := List.getElem?_eq_some_iff.1 hc
      have hn : n = s.calls.length := by simp at hn; omega
      exact .inl ⟨by simp, by simp [hn]⟩
  | post m d found stage | abandon m d found stage =>
    obtain ⟨d, hd, rfl⟩ := getElem?_modify_eq_some hc
    have := hold hd
    split <;> exact this
  | route r x rest calls reports queue result resolved =>
    obtain ⟨m, d, hlookup, hd, hid⟩ := h.exists_lookup queue result
    obtain ⟨-, rfl⟩ := resolved m hlookup
    obtain ⟨c, hc', rfl⟩ := getElem?_modify_eq_some hc
    split
    · rename_i hmn
      subst hmn
      rw [hd] at hc'
      cases hc'
      refine .inr ⟨x, rfl, List.mem_append_right _ ?_⟩
      simp [hid, ← Response.eq_ofResult result]
    · rename_i hmn
      refine (hold hc').imp_left fun ⟨hslot, hmem⟩ => ⟨hslot, List.mem_filter.2 ⟨hmem, ?_⟩⟩
      -- Calls with distinct ids are told apart by them.
      suffices c.id ≠ r.id by simpa using this
      intro heq
      have hm : m < (s.calls.map (·.id)).length := by
        simpa using (List.getElem?_eq_some_iff.1 hd).1
      rw [← h.calls] at hids
      exact hmn ((List.getElem?_inj hm hids).1 (by simp [hd, hc', hid, heq]))

/-- What has passed is where it was, or has gone to the next place. -/
theorem append_of_move (hrequests : T.posted = T.served ++ s.requests)
    (hresponses : T.answered = T.routed ++ s.responses) (hmove : Pipeline.Move build s U s') :
    (T ++ U).posted = (T ++ U).served ++ s'.requests ∧
      (T ++ U).answered = (T ++ U).routed ++ s'.responses := by
  rw [Traffic.posted_append, hrequests, Traffic.answered_append, hresponses]
  cases hmove with
  | enter | abandon | post | finish => simp
  | serve _ _ _ _ queue | hear _ _ _ queue | route _ _ _ _ _ queue => simp [queue]

theorem IsAccounted.posted_of_move (h : IsAccounted T s) (hmove : Pipeline.Move build s U s') :
    ((T ++ U).posted.filterMap (·.publish?)).Perm s'.made := by
  rw [Traffic.posted_append, List.filterMap_append]
  refine (h.posted.append_right _).trans ?_
  cases hmove with
  | enter | serve | finish | hear => simp [made]
  | post n c found stage =>
    have hstage := perm_stage found .waiting (by simp)
    rw [if_pos stage] at hstage
    exact List.perm_append_comm.trans hstage.2.symm
  | abandon n c found stage =>
    have hstage := perm_stage found .abandoned (by simp)
    rw [if_neg (by simp [stage])] at hstage
    simpa using List.Perm.of_eq hstage.2.symm
  | route r x rest calls reports queue result resolved =>
    obtain ⟨n, c, hlookup, hc, -⟩ := h.exists_lookup queue result
    obtain ⟨-, rfl⟩ := resolved n hlookup
    simpa [made] using List.Perm.of_eq (eq_of_slot hc x).2.symm

theorem IsAccounted.served_of_move (h : IsAccounted T s) (hmove : Pipeline.Move build s U s') :
    ((T ++ U).served.filterMap (·.callId?)).Perm
      (s'.delivering ++ (T ++ U).answered.filterMap (·.callId?)) := by
  rw [Traffic.served_append, Traffic.answered_append, List.filterMap_append, List.filterMap_append]
  refine (h.served.append_right _).trans (List.perm_iff_count.2 fun a => ?_)
  cases hmove with
  | enter | abandon | hear | post | route => simp [delivering]
  | serve r rest rs w queue handles =>
    have hcount := handles.perm_callId?.count_eq a
    have hr : [r].filterMap (·.callId?) = r.callId?.toList := by
      cases hid : r.callId? <;> simp [hid]
    simp only [delivering, hr, List.count_append] at hcount ⊢
    omega
  | finish n d x found =>
    have hcount := ((h.isNumbered.perm_without found).map (·.id)).count_eq a
    simp [delivering, List.count_cons] at hcount ⊢
    omega

/-- A move leaves everything accounted for. -/
theorem IsAccounted.move (h : IsAccounted T s) (hids : T.entered.Nodup)
    (hmove : Pipeline.Move build s U s') : IsAccounted (T ++ U) s' := by
  have htransfers := h.transfers hids hmove
  obtain ⟨hrequests, hresponses⟩ := append_of_move h.requests h.responses hmove
  refine ⟨?_, ?_, ?_, h.known_of_move hids hmove, fun n c => h.slots_of_move hids hmove,
    hrequests, hresponses, h.posted_of_move hmove, h.served_of_move hmove, ?_, ?_⟩
  · rw [htransfers.calls, h.calls, Traffic.entered_append]
  · rw [Traffic.routed_append, List.filterMap_append, List.append_assoc, Traffic.entered_append]
    refine (htransfers.places.append_left _).trans ?_
    rw [← List.append_assoc]
    exact h.places.append_right _
  · have htable := htransfers.table.trans
      ((h.table.append_right _).trans htransfers.places.symm)
    exact (List.perm_append_left_iff _).1 htable
  · cases hmove with
    | enter | post | abandon | hear | route => exact h.isNumbered
    | serve r rest rs w queue handles => exact handles.isNumbered h.isNumbered
    | finish n => exact h.isNumbered.without n
  · cases hmove with
    | enter | post | abandon | serve | finish => exact h.reports
    | hear r rest reports queue result reported =>
      exact fun e he => (reported e he).elim (h.reports e) id
    | route r x rest calls reports queue result resolved =>
      obtain ⟨n, c, hlookup, -⟩ := h.exists_lookup queue result
      obtain ⟨rfl, -⟩ := resolved n hlookup
      exact h.reports

end Stock

end Clickstream
