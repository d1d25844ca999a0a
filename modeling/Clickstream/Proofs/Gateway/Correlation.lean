import Mathlib.Data.List.Nodup
import Clickstream.Proofs.Gateway.Stages

/-!
# Responses find their calls

A caller gets what the worker answered to its request, and nothing else, whatever the
worker sends and however the steps interleave. The table is the only link between a
request and its response, so the proof follows each call from the moment it entered
the table: what has happened since decides what stands in its slot and whether its
entry is still there (`PublishCall.IsTracked`).

* `isTracked_of_course`: every call is tracked in every course;
* `completion_of_isTracked`, `received_of_isTracked`: hence what a call returns is what the
  first response to it says, and what the first response to it says is what it returns;
* `isCorrelated_of_course`: a result never changes, a response completes the call with its
  id if it is the first to do so, and otherwise changes nothing.

The ids of the calls are distinct throughout, as they are taken from a supply of
fresh ones.
-/

namespace Clickstream

/-- A response that carries a result is the answer with that result. -/
theorem Response.eq_ofResult {r : Response} {x : DeliveryResult} (h : r.result? = some x) :
    r = .ofResult r.id x := by
  cases r <;> cases h <;> rfl

/-- What settles a call: a response with its id, the end of the gateway, or, with no
    result from the router, its own withdrawal. -/
def Happening.settles? (n : Nat) (id : Id) : Happening → Option (Option DeliveryResult)
  | .routed r => if r.id = id then r.result?.map some else none
  | .closed => some (some (.error unavailable))
  | .withdrew m => if m = n then some none else none
  | .called _ _ | .turnedAway _ _ | .posted _ | .abandoned _ => none

/-- What has settled a call first since it entered the table. -/
def fate? (n : Nat) (id : Id) (since : List Happening) : Option (Option DeliveryResult) :=
  since.findSome? (Happening.settles? n id)

/-- What is true of the `n`-th call after a history: it has entered the table, and its
    fate since then is in its slot and decides over its entry; or it was turned away. -/
inductive PublishCall.IsTracked (H : List Happening) (table : List (Id × Nat)) (n : Nat)
    (c : PublishCall) : Prop
  | entered (before since : List Happening) (history : H = before ++ .called n c.id :: since)
      (once : .called n c.id ∉ before ∧ .called n c.id ∉ since)
      (slot : c.slot = (fate? n c.id since).join)
      (entry : (c.id, n) ∈ table ↔ fate? n c.id since = none)
      (failed : c.stage = .failed ↔ .withdrew n ∈ since)
  | turnedAway (history : .turnedAway n c.id ∈ H) (slot : c.slot = none)
      (entry : (c.id, n) ∉ table) (failed : c.stage = .failed) (never : .called n c.id ∉ H)

namespace Gateway

/-- The calls of a gateway are tracked, and neither its table nor the history knows of
    others. -/
structure IsTracked (H : List Happening) (g : Gateway) : Prop where
  calls : ∀ n (c : PublishCall), g.calls[n]? = some c → c.IsTracked H g.table n
  known : ∀ id n, (id, n) ∈ g.table ∨ .called n id ∈ H → ∃ c, g.calls[n]? = some c ∧ c.id = id

end Gateway

/-! ## One call -/

namespace PublishCall.IsTracked

variable {H es : List Happening} {table table' : List (Id × Nat)} {n : Nat} {c c' : PublishCall}

/-- A call in the table has no result yet. -/
theorem slot_eq_none (h : c.IsTracked H table n) (hentry : (c.id, n) ∈ table) :
    c.slot = none ∧ c.stage ≠ .failed := by
  cases h with
  | entered before since history once slot entry failed =>
    have hfate := entry.1 hentry
    refine ⟨by rw [slot, hfate]; rfl, fun hfailed => ?_⟩
    have hnone := List.findSome?_eq_none_iff.1 hfate _ (failed.1 hfailed)
    simp [Happening.settles?] at hnone
  | turnedAway _ _ entry _ => exact absurd hentry entry

/-- A call without a result is in the table, unless it failed on its own. -/
theorem entry_of_slot_eq_none (h : c.IsTracked H table n) (hslot : c.slot = none)
    (hstage : c.stage ≠ .failed) : (c.id, n) ∈ table := by
  cases h with
  | entered before since history once slot entry failed =>
    refine entry.2 ?_
    rcases hfate : fate? n c.id since with _ | _ | x
    · rfl
    · obtain ⟨e, he, hsettles⟩ := List.exists_of_findSome?_eq_some hfate
      cases e with
      | withdrew m =>
        have hm : m = n := by simpa [Happening.settles?] using hsettles
        exact absurd (failed.2 (hm ▸ he)) hstage
      | routed r => simp [Happening.settles?] at hsettles
      | closed | called _ _ | turnedAway _ _ | posted _ | abandoned _ =>
        simp [Happening.settles?] at hsettles
    · rw [hfate, hslot] at slot
      cases slot
  | turnedAway _ _ _ failed => exact absurd failed hstage

/-- What does not settle a call leaves it as it is, its stage apart. -/
theorem keep (h : c.IsTracked H table n) (hes : ∀ e ∈ es, e.settles? n c.id = none)
    (hnew : .called n c.id ∉ es) (hid : c'.id = c.id) (hslot : c'.slot = c.slot)
    (hstage : c'.stage = .failed ↔ c.stage = .failed)
    (hentry : (c.id, n) ∈ table' ↔ (c.id, n) ∈ table) : c'.IsTracked (H ++ es) table' n := by
  cases h with
  | entered before since history once slot entry failed =>
    -- What the history has more since then settles nothing.
    have hfate : fate? n c.id (since ++ es) = fate? n c.id since := by
      rw [fate?, List.findSome?_append, List.findSome?_eq_none_iff.2 hes, Option.or_none, fate?]
    refine .entered before (since ++ es) ?_ ?_ ?_ ?_ ?_
    · rw [history, hid, List.append_assoc, List.cons_append]
    · rw [hid]
      exact ⟨once.1, by simp [once.2, hnew]⟩
    · rw [hslot, hid, hfate, slot]
    · rw [hid, hfate, hentry, entry]
    · have hw : .withdrew n ∉ es := fun hmem => by
        have := hes _ hmem
        simp [Happening.settles?] at this
      rw [hstage, failed, List.mem_append]
      simp [hw]
  | turnedAway history slot entry failed never =>
    refine .turnedAway ?_ (hslot.trans slot) ?_ (hstage.2 failed) ?_
    · rw [hid]
      exact List.mem_append_left _ history
    · rw [hid, hentry]
      exact entry
    · rw [hid, List.mem_append]
      exact not_or.2 ⟨never, hnew⟩

/-- What settles a call for the first time ends its entry and puts a result, if there is
    one, into its slot. -/
theorem settle (h : c.IsTracked H table n) {e : Happening} {o : Option DeliveryResult}
    (he : e.settles? n c.id = some o) (hentered : (c.id, n) ∈ table) (hid : c'.id = c.id)
    (hslot : c'.slot = o) (hstage : c'.stage = .failed ↔ c.stage = .failed ∨ e = .withdrew n)
    (hentry : (c.id, n) ∉ table') : c'.IsTracked (H ++ [e]) table' n := by
  cases h with
  | entered before since history once slot entry failed =>
    -- As the entry is still there, nothing has settled the call before.
    have hfate : fate? n c.id (since ++ [e]) = some o := by
      have hnone : since.findSome? (Happening.settles? n c.id) = none := entry.1 hentered
      simp [fate?, hnone, he]
    have hnew : .called n c.id ≠ e := fun h => by simp [← h, Happening.settles?] at he
    refine .entered before (since ++ [e]) ?_ ?_ ?_ ?_ ?_
    · rw [history, hid, List.append_assoc, List.cons_append]
    · rw [hid]
      exact ⟨once.1, by simp [once.2, hnew]⟩
    · rw [hid, hfate, hslot]
      rfl
    · rw [hid, hfate]
      simpa using hentry
    · rw [hstage, failed, List.mem_append, List.mem_singleton, eq_comm (a := e)]
  | turnedAway _ _ entry _ => exact absurd hentered entry

/-- What could settle a call makes no difference once it is settled, unless it withdraws. -/
theorem keep_settled (h : c.IsTracked H table n) {e : Happening} (hsettled : (c.id, n) ∉ table)
    (hnew : .called n c.id ≠ e) (hid : c'.id = c.id) (hslot : c'.slot = c.slot)
    (hstage : c'.stage = .failed ↔ c.stage = .failed ∨ e = .withdrew n)
    (hentry : (c.id, n) ∉ table') : c'.IsTracked (H ++ [e]) table' n := by
  cases h with
  | entered before since history once slot entry failed =>
    -- As the entry is gone, something has settled the call before, and only the first
    -- such thing counts.
    have hfate : fate? n c.id (since ++ [e]) = fate? n c.id since := by
      obtain ⟨o, ho⟩ := Option.ne_none_iff_exists'.1 (mt entry.2 hsettled)
      rw [ho]
      rw [fate?] at ho ⊢
      rw [List.findSome?_append, ho, Option.some_or]
    refine .entered before (since ++ [e]) ?_ ?_ ?_ ?_ ?_
    · rw [history, hid, List.append_assoc, List.cons_append]
    · rw [hid]
      exact ⟨once.1, by simp [once.2, hnew]⟩
    · rw [hslot, hid, hfate, slot]
    · rw [hid, hfate]
      exact iff_of_false hentry (mt entry.2 hsettled)
    · rw [hstage, failed, List.mem_append, List.mem_singleton, eq_comm (a := e)]
  | turnedAway history slot entry failed never =>
    refine .turnedAway ?_ (hslot.trans slot) ?_ (hstage.2 (.inl failed)) ?_
    · rw [hid]
      exact List.mem_append_left _ history
    · rw [hid]
      exact hentry
    · rw [hid, List.mem_append, List.mem_singleton]
      exact not_or.2 ⟨never, hnew⟩

end PublishCall.IsTracked

/-! ## All calls -/

theorem mem_of_lookup {table : List (Id × Nat)} {id : Id} {n : Nat}
    (h : table.lookup id = some n) : (id, n) ∈ table := by
  obtain ⟨l₁, l₂, hsplit, -⟩ := List.lookup_eq_some_iff.1 h
  simp [hsplit]

namespace Gateway

variable {H es : List Happening} {g g' : Gateway}

/-- Calls with distinct ids are told apart by them. -/
theorem eq_of_id_eq (hids : (g.calls.map (·.id)).Nodup) {m n : Nat} {c d : PublishCall}
    (hc : g.calls[m]? = some c) (hd : g.calls[n]? = some d) (h : c.id = d.id) : m = n := by
  obtain ⟨hm, rfl⟩ := List.getElem?_eq_some_iff.1 hc
  obtain ⟨hn, rfl⟩ := List.getElem?_eq_some_iff.1 hd
  have hm : m < (g.calls.map (·.id)).length := by simpa using hm
  have hn : n < (g.calls.map (·.id)).length := by simpa using hn
  have heq : (g.calls.map (·.id))[m] = (g.calls.map (·.id))[n] := by simpa using h
  exact hids.getElem_inj_iff.1 heq

/-- What the table finds for an id is the call with this id. -/
theorem IsTracked.call_of_lookup (h : IsTracked H g) {id : Id} {n : Nat}
    (found : g.table.lookup id = some n) : ∃ c, g.calls[n]? = some c ∧ c.id = id :=
  h.known id n (.inl (mem_of_lookup found))

theorem IsTracked.lt (h : IsTracked H g) {id : Id} {n : Nat}
    (hn : (id, n) ∈ g.table ∨ .called n id ∈ H) : n < g.calls.length := by
  obtain ⟨c, hc, -⟩ := h.known id n hn
  exact (List.getElem?_eq_some_iff.1 hc).1

theorem IsTracked.called_of_mem (h : IsTracked H g) {id : Id} {n : Nat} (hmem : (id, n) ∈ g.table) :
    .called n id ∈ H := by
  obtain ⟨c, hc, rfl⟩ := h.known id n (.inl hmem)
  cases h.calls n c hc with
  | entered _ _ history => simp [history]
  | turnedAway _ _ entry _ => exact absurd hmem entry

/-- A step in which no call is made, and each call stays tracked, whatever becomes of it. -/
theorem IsTracked.of_calls (h : IsTracked H g)
    (htable : g'.table ⊆ g.table) (hnew : ∀ n id, .called n id ∉ es)
    (hstay : ∀ (n : Nat) c, g.calls[n]? = some c → (g'.calls[n]?).isSome)
    (hcalls : ∀ n (c' : PublishCall), g'.calls[n]? = some c' →
      ∃ c : PublishCall, g.calls[n]? = some c ∧ c'.id = c.id ∧
        (c.IsTracked H g.table n → c'.IsTracked (H ++ es) g'.table n)) :
    IsTracked (H ++ es) g' where
  calls n c' hn := by
    obtain ⟨c, hc, -, hkeep⟩ := hcalls n c' hn
    exact hkeep (h.calls n c hc)
  known id n hn := by
    have hold : (id, n) ∈ g.table ∨ .called n id ∈ H := by
      refine hn.imp (@htable _) fun hmem => ?_
      exact (List.mem_append.1 hmem).resolve_right (hnew n id)
    obtain ⟨c, hc, hid⟩ := h.known id n hold
    obtain ⟨c', hc'⟩ := Option.isSome_iff_exists.1 (hstay n c hc)
    obtain ⟨d, hd, hd', -⟩ := hcalls n c' hc'
    rw [hc] at hd
    cases hd
    exact ⟨c', hc', hd'.trans hid⟩

theorem IsTracked.of_modify {m : Nat} {f : PublishCall → PublishCall} (h : IsTracked H g)
    (hcalls : g'.calls = g.calls.modify m f) (hid : ∀ c, (f c).id = c.id)
    (htable : g'.table ⊆ g.table) (hnew : ∀ n id, .called n id ∉ es)
    (hself : ∀ c : PublishCall, g.calls[m]? = some c → c.IsTracked H g.table m →
      (f c).IsTracked (H ++ es) g'.table m)
    (hother : ∀ n (c : PublishCall), m ≠ n → g.calls[n]? = some c → c.IsTracked H g.table n →
      c.IsTracked (H ++ es) g'.table n) : IsTracked (H ++ es) g' := by
  refine h.of_calls htable hnew (fun n c hc => by simp [hcalls, List.getElem?_modify, hc])
    fun n c' hn => ?_
  rw [hcalls] at hn
  obtain ⟨c, hc, rfl⟩ := getElem?_modify_eq_some hn
  refine ⟨c, hc, ?_, ?_⟩ <;> split
  · exact hid c
  · rfl
  · rename_i hmn
    subst hmn
    exact hself c hc
  · rename_i hmn
    exact hother n c hmn hc

/-- A call that comes to another stage without failing. -/
theorem IsTracked.of_stage {m : Nat} {d : PublishCall} {stage : CallStage} (h : IsTracked H g)
    (found : g.calls[m]? = some d)
    (hcalls : g'.calls = g.calls.modify m fun c => { c with stage })
    (htable : g'.table = g.table) (hstage : stage ≠ .failed ∧ d.stage ≠ .failed)
    (hes : ∀ e ∈ es, ∀ n id, e.settles? n id = none) (hnew : ∀ n id, .called n id ∉ es) :
    IsTracked (H ++ es) g' := by
  refine h.of_modify hcalls (fun _ => rfl) (by rw [htable]; exact fun _ h => h) hnew ?_ ?_ <;>
    rw [htable]
  · intro c hc htracked
    rw [found] at hc
    cases hc
    exact htracked.keep (fun e he => hes e he _ _) (hnew _ _) rfl rfl (by simp [hstage]) .rfl
  · intro n c _ _ htracked
    exact htracked.keep (fun e he => hes e he _ _) (hnew _ _) rfl rfl .rfl .rfl

theorem IsTracked.of_eq (h : IsTracked H g) (hcalls : g'.calls = g.calls)
    (htable : g'.table = g.table) (hnew : ∀ n id, .called n id ∉ es)
    (hkeep : ∀ n (c : PublishCall), g.calls[n]? = some c →
      c.IsTracked H g.table n → c.IsTracked (H ++ es) g.table n) : IsTracked (H ++ es) g' := by
  refine h.of_calls (by rw [htable]; exact fun _ h => h) hnew
    (fun n c hc => by simp [hcalls, hc]) fun n c hn => ?_
  rw [hcalls] at hn
  rw [htable]
  exact ⟨c, hn, rfl, hkeep n c hn⟩

theorem IsTracked.of_append {c : PublishCall} {e : Happening} (entries : List (Id × Nat))
    (h : IsTracked H g) (hcalls : g'.calls = g.calls ++ [c])
    (htable : g'.table = g.table ++ entries)
    (hentries : ∀ entry ∈ entries, entry = (c.id, g.calls.length))
    (he : ∀ n id, e.settles? n id = none)
    (hnew : ∀ n id, e = .called n id → n = g.calls.length ∧ id = c.id)
    (hself : (∀ id, (id, g.calls.length) ∉ g.table ∧ .called g.calls.length id ∉ H) →
      c.IsTracked (H ++ [e]) (g.table ++ entries) g.calls.length) : IsTracked (H ++ [e]) g' where
  calls n c' hn := by
    rw [hcalls, List.getElem?_append] at hn
    rw [htable]
    split at hn
    · rename_i hold
      refine (h.calls n c' hn).keep (by simpa using he n c'.id) ?_ rfl rfl .rfl ?_
      · intro hmem
        have := (hnew n c'.id (List.mem_singleton.1 hmem).symm).1
        omega
      · rw [List.mem_append, or_iff_left]
        intro hmem
        have hn : n = g.calls.length := congrArg Prod.snd (hentries _ hmem)
        omega
    · -- The new call has the next number, which neither the table nor the history knows.
      obtain ⟨hn0, rfl⟩ : n - g.calls.length = 0 ∧ c = c' := by
        rcases hk : n - g.calls.length with _ | k <;> simp_all
      have hn : n = g.calls.length := by omega
      rw [hn]
      refine hself fun id => ⟨fun hmem => ?_, fun hmem => ?_⟩
      · exact absurd (h.lt (.inl hmem)) (Nat.lt_irrefl _)
      · exact absurd (h.lt (.inr hmem)) (Nat.lt_irrefl _)
  known id n hn := by
    rw [htable, List.mem_append, List.mem_append, List.mem_singleton] at hn
    rw [hcalls]
    have hself : (id, n) = (c.id, g.calls.length) →
        ∃ d, (g.calls ++ [c])[n]? = some d ∧ d.id = id := by
      rintro ⟨⟩
      exact ⟨c, by simp, rfl⟩
    have hother (hold : (id, n) ∈ g.table ∨ .called n id ∈ H) :
        ∃ d, (g.calls ++ [c])[n]? = some d ∧ d.id = id := by
      obtain ⟨d, hd, hid⟩ := h.known id n hold
      exact ⟨d, by rw [List.getElem?_append_left (h.lt hold), hd], hid⟩
    rcases hn with (hn | hn) | hn | hn
    · exact hother (.inl hn)
    · exact hself (hentries _ hn)
    · exact hother (.inr hn)
    · obtain ⟨hn, hid⟩ := hnew n id hn.symm
      exact hself (by rw [hn, hid])

/-- Whatever happens in a step, the calls stay tracked. -/
theorem isTracked_of_effect (h : IsTracked H g) (hids : (g.calls.map (·.id)).Nodup)
    (heffect : Effect g g' es) : IsTracked (H ++ es) g' := by
  cases heffect with
  | idle calls table _ =>
    exact h.of_eq calls table (by simp) fun n c _ hc => by rwa [List.append_nil]
  | post m c found stage calls table _ | refuse m c found stage calls table _
  | abandon m c found stage calls table _ =>
    exact h.of_stage found calls table (by simp [stage]) (by simp [Happening.settles?]) (by simp)
  | call c new calls table _ =>
    refine h.of_append _ calls table (by simp) (fun _ _ => rfl) ?_ fun hnew => ?_
    · rintro _ _ ⟨⟩
      exact ⟨rfl, rfl⟩
    · -- Nothing has happened to it since it entered.
      refine .entered H [] (by simp) ⟨(hnew c.id).2, by simp⟩ new.1 ?_ ?_
      · simp [fate?]
      · simp [new.2]
  | turnAway c new calls table _ =>
    refine h.of_append [] calls (by simp [table]) (by simp) (fun _ _ => rfl) (by simp)
      fun hnew => ?_
    exact .turnedAway (by simp) new.1 (by simpa using (hnew c.id).1) new.2
      (by simpa using (hnew c.id).2)
  | withdraw m c found refused calls table _ =>
    refine h.of_modify calls (fun _ => rfl) (by rw [table]; exact List.filter_subset_self _)
      (by simp) ?_ ?_
    · intro c' hc' htracked
      rw [found] at hc'
      cases hc'
      have hentry : (c.id, m) ∉ g'.table := by simp [table]
      -- The router may have brought a result before the call leaves; then only the stage
      -- changes.
      by_cases hmem : (c.id, m) ∈ g.table
      · exact htracked.settle (o := none) (by simp [Happening.settles?]) hmem rfl
          (htracked.slot_eq_none hmem).1 (by simp) hentry
      · exact htracked.keep_settled hmem (by simp) rfl rfl (by simp) hentry
    · intro n c' hne hc' htracked
      have hid : c'.id ≠ c.id := fun hid => hne (eq_of_id_eq hids found hc' hid.symm)
      refine htracked.keep ?_ (by simp) rfl rfl .rfl ?_
      · simpa [Happening.settles?] using hne
      · simp [table, hid]
  | hear r result calls table =>
    refine h.of_eq calls table (by simp) fun n c _ hc => hc.keep ?_ (by simp) rfl rfl .rfl .rfl
    simp [Happening.settles?, result]
  | answer r m x result found calls table _ =>
    obtain ⟨d, hd, hid⟩ := h.call_of_lookup found
    refine h.of_modify calls (fun _ => rfl) (by rw [table]; exact List.filter_subset_self _)
      (by simp) ?_ ?_
    · intro c hc htracked
      rw [hd] at hc
      cases hc
      have hmem : (d.id, m) ∈ g.table := by
        rw [hid]
        exact mem_of_lookup found
      refine htracked.settle (o := some x) ?_ hmem rfl rfl (by simp) (by simp [table, hid])
      simp [Happening.settles?, hid, result]
    · -- No other call has this id, so the response is nothing to it.
      intro n c hne hc htracked
      have hne : r.id ≠ c.id := fun h => hne (eq_of_id_eq hids hd hc (hid.trans h))
      refine htracked.keep (by simp [Happening.settles?, hne]) (by simp) rfl rfl .rfl ?_
      simp [table, hne.symm]
  | miss r x result found calls table _ =>
    refine h.of_eq calls table (by simp) fun n c _ hc => ?_
    by_cases hid : r.id = c.id
    · -- The response has the id of this call but found no entry: the call was settled
      -- before.
      have hentry : (c.id, n) ∉ g.table := fun hmem => by
        have := List.lookup_eq_none_iff.1 found _ hmem
        simp [hid] at this
      exact hc.keep_settled hentry (by simp) rfl rfl (by simp) hentry
    · exact hc.keep (by simp [Happening.settles?, hid]) (by simp) rfl rfl .rfl .rfl
  | close calls table =>
    -- The end settles the calls that have an entry still, and there are no entries after.
    have hentry (n : Nat) (id : Id) : (id, n) ∉ g'.table := by simp [table]
    refine h.of_calls (by simp [table]) (by simp)
      (fun n c hc => by rw [calls]; split <;> simp [hc]) fun n c' hn => ?_
    rw [calls] at hn
    split at hn
    · rename_i hwaiting
      obtain ⟨c, hc, rfl⟩ := Option.map_eq_some_iff.1 hn
      obtain ⟨⟨id, m⟩, hmem, rfl⟩ := List.mem_map.1 hwaiting
      obtain ⟨d, hd, rfl⟩ := h.known id m (.inl hmem)
      rw [hd] at hc
      cases hc
      exact ⟨c, hd, rfl, fun htracked =>
        htracked.settle rfl hmem rfl rfl (by simp) (hentry _ _)⟩
    · rename_i hwaiting
      have hsettled : (c'.id, n) ∉ g.table := fun h => hwaiting (List.mem_map.2 ⟨_, h, rfl⟩)
      exact ⟨c', hn, rfl, fun htracked =>
        htracked.keep_settled hsettled (by simp) rfl rfl (by simp) (hentry _ _)⟩

/-! ## Courses -/

theorem isTracked_start (id : Id) (d : Destination) (link : Link) :
    IsTracked [] (start id d link) where
  calls _ _ h := by simp [start] at h
  known _ _ h := by simp [start] at h

/-- Every call is tracked, in every course with distinct ids. -/
theorem isTracked_of_course {id : Id} {d : Destination} {link : Link}
    (h : Course (start id d link) H g) (hids : (g.calls.map (·.id)).Nodup) : IsTracked H g := by
  induction h with
  | refl => exact isTracked_start id d link
  | step hcourse hstep ih =>
    have heffect := effect_of_step? hstep
    have hids := hids.sublist (ids_prefix_of_effect heffect).sublist
    exact isTracked_of_effect (ih hids) hids heffect

/-! ## Correlation -/

/-- Whether no response among these answers the request with an id. -/
def Unanswered (id : Id) (H : List Happening) : Prop :=
  ∀ r, .routed r ∈ H → r.id = id → r.result? = none

/-- Whether the first thing that settled a call, since it entered the table, is the response with
    the given result. -/
def IsAnswered (H : List Happening) (n : Nat) (id : Id) (x : DeliveryResult) : Prop :=
  ∃ before since after, H = before ++ .called n id :: since ++ .routed (.ofResult id x) :: after ∧
    Unanswered id since ∧ .closed ∉ since ∧ .withdrew n ∉ since

/-- How a call can have come to its result: by the first response to its request, by the
    end of the gateway before any, or by itself, as its request could not be posted or the end
    was before it. -/
inductive Completion (g₀ : Gateway) (H : List Happening) (g : Gateway) (n : Nat) (id : Id) :
    DeliveryResult → Prop
  | answered (x : DeliveryResult) (first : IsAnswered H n id x) : Completion g₀ H g n id x
  | closed (before since after : List Happening)
      (history : H = before ++ .called n id :: since ++ .closed :: after)
      (first : Unanswered id since) : Completion g₀ H g n id (.error unavailable)
  | withdrew (before since : List Happening) (history : H = before ++ since)
      (refusal : Refusal g₀ before n id since g) (left : .withdrew n ∈ since) :
      Completion g₀ H g n id (.error unavailable)
  | turnedAway (before after : List Happening) (history : H = before ++ .turnedAway n id :: after)
      (ended : .closed ∈ before) : Completion g₀ H g n id (.error unavailable)

/-- What is true of a gateway after a history, whatever happens next. -/
structure IsCorrelated (g₀ : Gateway) (H : List Happening) (g : Gateway) : Prop where
  /-- The router brings a call at most one result. -/
  once : ∀ s g', g.step? s = some g' → ∀ (n : Nat) (c : PublishCall) x, g.calls[n]? = some c →
    c.slot = some x → ∃ c', g'.calls[n]? = some c' ∧ c'.slot = some x
  /-- What a call has returned is final. -/
  final : ∀ s g', g.step? s = some g' → ∀ n x, g.outcome? n = some x → g'.outcome? n = some x
  /-- What it has returned is what the first response to it says, if there was one. -/
  completion : ∀ (n : Nat) (c : PublishCall) x, g.calls[n]? = some c → c.result? = some x →
    Completion g₀ H g n c.id x
  /-- A call waits from when its request is posted until its caller goes away. -/
  stages : ∀ n (c : PublishCall), g.calls[n]? = some c → c.IsStaged H n
  /-- What the first response to a call says is brought to it and stays there. The call has
      returned it if its request is posted, unless its caller went away. -/
  received : ∀ n id x, IsAnswered H n id x → ∃ c, g.calls[n]? = some c ∧ c.id = id ∧
    c.slot = some x ∧ (.posted n ∈ H → .abandoned n ∉ H → g.outcome? n = some x)
  /-- A response to a call that has neither a result nor failed can be routed. It brings the call
      exactly the result that it carries and takes its entry from the table, and a call that
      waits returns this result. -/
  answered : ∀ x link (n : Nat) (c : PublishCall), g.calls[n]? = some c → c.slot = none →
    c.stage ≠ .failed → g.link.collect? = some (.ofResult c.id x, link) →
    (c.id, n) ∈ g.table ∧ ∃ g', g.step? .route = some g' ∧
      g'.table = g.table.filter (·.1 ≠ c.id) ∧ g'.reports = g.reports ∧
      g'.calls[n]? = some { c with slot := some x } ∧
      (∀ m : Nat, m ≠ n → g'.calls[m]? = g.calls[m]?) ∧
      (c.stage = .waiting → g'.outcome? n = some x)
  /-- A response changes no call with another id. -/
  other : ∀ r link g', g.link.collect? = some (r, link) → g.step? .route = some g' →
    ∀ (n : Nat) (c : PublishCall), g.calls[n]? = some c → c.id ≠ r.id → g'.calls[n]? = some c
  /-- What the worker says of its configuration changes no call at all. -/
  configured : ∀ r link g', g.link.collect? = some (r, link) → r.result? = none →
    g.step? .route = some g' → g'.calls = g.calls ∧ g'.table = g.table
  /-- A response to no call, or to one that has had a response or has left, changes neither
      calls nor table, and is reported. -/
  unmatched : ∀ r link g', g.link.collect? = some (r, link) → r.result?.isSome →
    g.step? .route = some g' →
    ((∀ n, .called n r.id ∉ H) ∨ ∃ before since n, H = before ++ .called n r.id :: since ∧
      (¬ Unanswered r.id since ∨ .withdrew n ∈ since)) →
    g'.calls = g.calls ∧ g'.table = g.table ∧ g'.reports = g.reports ++ [.unmatchedResponse]
  /-- The first response to a call whose caller went away removes its entry, and nothing
      else happens to anybody. -/
  abandoned : ∀ r link g' (n : Nat) (c : PublishCall), g.link.collect? = some (r, link) →
    r.result?.isSome → g.step? .route = some g' → g.calls[n]? = some c → c.stage = .abandoned →
    c.slot = none → c.id = r.id →
    (r.id, n) ∈ g.table ∧ g'.table = g.table.filter (·.1 ≠ r.id) ∧ g'.reports = g.reports ∧
      (∀ m : Nat, m ≠ n → g'.calls[m]? = g.calls[m]?) ∧ ∀ m, g'.outcome? m = g.outcome? m

/-- Only a call without a result is changed in a step, and then it has its slot still, or
    had none. -/
theorem call_of_effect (h : IsTracked H g) (heffect : Effect g g' es) {n : Nat} {c : PublishCall}
    (hc : g.calls[n]? = some c) : g'.calls[n]? = some c ∨
      c.result? = none ∧ ∃ c', g'.calls[n]? = some c' ∧ (c'.slot = c.slot ∨ c.slot = none) := by
  have hwaiting (hmem : (c.id, n) ∈ g.table) : c.slot = none ∧ c.result? = none := by
    obtain ⟨hslot, hfailed⟩ := (h.calls n c hc).slot_eq_none hmem
    refine ⟨hslot, ?_⟩
    cases hstage : c.stage <;> simp_all [PublishCall.result?]
  cases heffect with
  | idle calls | hear _ _ calls | miss _ _ _ _ calls => exact .inl (by rw [calls, hc])
  | post m d found stage calls | refuse m d found stage calls | abandon m d found stage calls
  | withdraw m d found stage calls =>
    by_cases hmn : m = n
    · subst hmn
      rw [hc] at found
      cases found
      have hself := congrArg (·[m]?) calls
      exact .inr ⟨by simp [PublishCall.result?, stage], _,
        hself.trans (getElem?_modify_self hc _), .inl rfl⟩
    · exact .inl (by rw [calls, List.getElem?_modify_ne _ _ hmn, hc])
  | call d _ calls | turnAway d _ calls =>
    exact .inl (by rw [calls, List.getElem?_append_left (List.getElem?_eq_some_iff.1 hc).1, hc])
  | answer r m x result found calls =>
    by_cases hmn : m = n
    · subst hmn
      obtain ⟨d, hd, hid⟩ := h.call_of_lookup found
      rw [hc] at hd
      cases hd
      obtain ⟨hslot, hresult⟩ := hwaiting (by rw [hid]; exact mem_of_lookup found)
      refine .inr ⟨hresult, { c with slot := some x }, ?_, .inr hslot⟩
      rw [calls, getElem?_modify_self hc]
    · exact .inl (by rw [calls, List.getElem?_modify_ne _ _ hmn, hc])
  | close calls =>
    rw [calls, hc]
    split
    · rename_i horphan
      obtain ⟨⟨id, m⟩, hmem, rfl⟩ := List.mem_map.1 horphan
      obtain ⟨d, hd, hid⟩ := h.known id m (.inl hmem)
      rw [hc] at hd
      cases hd
      obtain ⟨hslot, hresult⟩ := hwaiting (by rwa [hid])
      exact .inr ⟨hresult, _, rfl, .inr hslot⟩
    · exact .inl rfl

theorem fate?_eq_none_iff {n : Nat} {id : Id} {since : List Happening} :
    fate? n id since = none ↔ Unanswered id since ∧ .closed ∉ since ∧ .withdrew n ∉ since := by
  rw [fate?, List.findSome?_eq_none_iff]
  constructor
  · intro h
    refine ⟨fun r hr hid => ?_, fun hclosed => ?_, fun hwithdrew => ?_⟩
    · simpa [Happening.settles?, hid] using h _ hr
    · simpa [Happening.settles?] using h _ hclosed
    · simpa [Happening.settles?] using h _ hwithdrew
  · rintro ⟨hunanswered, hclosed, hwithdrew⟩ e he
    cases e with
    | routed r =>
      by_cases hid : r.id = id
      · simp [Happening.settles?, hid, hunanswered r he hid]
      · simp [Happening.settles?, hid]
    | closed => exact absurd he hclosed
    | withdrew m =>
      have hm : m ≠ n := fun hm => hwithdrew (hm ▸ he)
      simp [Happening.settles?, hm]
    | called _ _ | turnedAway _ _ | posted _ | abandoned _ => rfl

/-- The first thing that settled a call is a response with its id, or the end. -/
theorem completion_of_fate {g₀ : Gateway} {before since : List Happening} {n : Nat} {id : Id}
    {x : DeliveryResult} (h : fate? n id since = some (some x)) :
    Completion g₀ (before ++ .called n id :: since) g n id x := by
  -- Before the happening `e` that settled the call, nothing else did.
  obtain ⟨first, e, after, rfl, he, hfirst⟩ := List.findSome?_eq_some_iff.1 h
  have hnone := fate?_eq_none_iff.1 (List.findSome?_eq_none_iff.2 hfirst)
  cases e with
  | routed r =>
    by_cases hid : r.id = id
    · obtain ⟨y, hy, hxy⟩ : ∃ y, r.result? = some y ∧ some y = some x := by
        simpa [Happening.settles?, hid] using he
      cases hxy
      have hr := Response.eq_ofResult hy
      rw [hid] at hr
      exact .answered x ⟨before, first, after, by rw [hr]; simp, hnone⟩
    · simp [Happening.settles?, hid] at he
  | closed =>
    cases he
    exact .closed before first after (by simp) hnone.1
  | withdrew m => simp [Happening.settles?] at he
  | called _ _ | turnedAway _ _ | posted _ | abandoned _ => cases he

/-- What a call has returned, it has come to in one of the ways. -/
theorem completion_of_isTracked {g₀ : Gateway} (hcourse : Course g₀ H g)
    (hnew : g₀.calls = [] ∧ g₀.isClosed = false) (h : IsTracked H g) {n : Nat} {c : PublishCall}
    {x : DeliveryResult} (hc : g.calls[n]? = some c) (hx : c.result? = some x) :
    Completion g₀ H g n c.id x := by
  have hfailed (hstage : c.stage = .failed) : x = .error unavailable := by
    simpa [PublishCall.result?, hstage] using hx.symm
  have hwaiting (hstage : c.stage ≠ .failed) : c.slot = some x := by
    cases hs : c.stage <;> simp_all [PublishCall.result?]
  cases h.calls n c hc with
  | entered before since history once slot entry failed =>
    -- What stands in the slot of a call that failed on its own is never returned.
    by_cases hstage : c.stage = .failed
    · have hwithdrew : .withdrew n ∈ H := by rw [history]; simp [failed.1 hstage]
      obtain ⟨d, first, rest, hd, hH, hrefusal, hleft⟩ :=
        refusal_of_withdrew hcourse hnew.1 hwithdrew
      rw [hc] at hd
      cases hd
      rw [hfailed hstage]
      exact .withdrew first rest hH hrefusal hleft
    · have hfate : fate? n c.id since = some (some x) := by
        rw [← Option.join_eq_some_iff, ← slot, hwaiting hstage]
      rw [history]
      exact completion_of_fate hfate
  | turnedAway history slot entry failed =>
    obtain ⟨before, after, hH, hclosed⟩ := closed_of_turnedAway hcourse hnew.2 history
    rw [hfailed failed]
    exact .turnedAway before after hH hclosed

/-- A call that the history knows is in the table until something settles it, and what has
    settled it first is in its slot. -/
theorem slot_of_called (h : IsTracked H g) {before since : List Happening} {n : Nat} {id : Id}
    (hH : H = before ++ .called n id :: since) : ∃ c, g.calls[n]? = some c ∧ c.id = id ∧
      c.slot = (fate? n id since).join ∧ ((id, n) ∈ g.table ↔ fate? n id since = none) := by
  have hcalled : .called n id ∈ H := by simp [hH]
  obtain ⟨c, hc, rfl⟩ := h.known id n (.inr hcalled)
  refine ⟨c, hc, rfl, ?_⟩
  cases h.calls n c hc with
  | entered before' since' history once slot entry failed =>
    rw [history] at hH
    -- A call enters once, so the history splits there in one way only.
    obtain ⟨rfl, -, rfl⟩ := (List.append_cons_inj_of_notMem once.1 once.2).1 hH
    exact ⟨slot, entry⟩
  | turnedAway _ _ _ _ never => exact absurd hcalled never

/-- What the first response to a call says is in its slot, and is returned if the call waits. -/
theorem received_of_isTracked (h : IsTracked H g) (hstaged : IsStaged H g) {n : Nat} {id : Id}
    {x : DeliveryResult}
    (hx : IsAnswered H n id x) : ∃ c, g.calls[n]? = some c ∧ c.id = id ∧ c.slot = some x ∧
      (.posted n ∈ H → .abandoned n ∉ H → g.outcome? n = some x) := by
  obtain ⟨before, since, after, hH, hfirst⟩ := hx
  have hfate : fate? n id (since ++ .routed (.ofResult id x) :: after) = some (some x) := by
    have hnone : since.findSome? (Happening.settles? n id) = none := fate?_eq_none_iff.2 hfirst
    simp [fate?, hnone, Happening.settles?]
  rw [List.append_assoc, List.cons_append] at hH
  obtain ⟨c, hc, hid, hslot, -⟩ := slot_of_called h hH
  rw [hfate] at hslot
  refine ⟨c, hc, hid, hslot, fun hposted hstays => ?_⟩
  have hstage := (hstaged.calls n c hc).waiting.2 ⟨hposted, hstays⟩
  rw [outcome?, hc, Option.bind_some, PublishCall.result?, hstage]
  exact hslot

/-- While a call has its entry, no response to it has come since it entered. -/
theorem unanswered_of_mem (h : IsTracked H g) (hids : (g.calls.map (·.id)).Nodup) {n m : Nat}
    {id : Id} (hmem : (id, n) ∈ g.table) {before since : List Happening}
    (hH : H = before ++ .called m id :: since) :
    m = n ∧ Unanswered id since ∧ .withdrew n ∉ since := by
  obtain ⟨c, hc, hid, -, hentry⟩ := slot_of_called h hH
  obtain ⟨d, hd, hdid⟩ := h.known id n (.inl hmem)
  obtain rfl := eq_of_id_eq hids hc hd (hid.trans hdid.symm)
  obtain ⟨hunanswered, -, hwithdrew⟩ := fate?_eq_none_iff.1 (hentry.1 hmem)
  exact ⟨rfl, hunanswered, hwithdrew⟩

/-- The router can always take the next response. -/
theorem exists_route {r : Response} {link : Link} (hr : g.link.collect? = some (r, link)) :
    ∃ g', g.step? .route = some g' := by
  rw [step?, route?, hr]
  exact ⟨_, rfl⟩

/-- What the router does with the response that it takes. -/
theorem effect_of_collect? {r : Response} {link : Link} (hr : g.link.collect? = some (r, link))
    (h : g.step? .route = some g') : Effect g g' [.routed r] := by
  have heffect := effect_of_step? h
  rwa [happens, hr] at heffect

/-- A response is nothing to a call with another id. -/
theorem getElem?_route_of_id_ne (h : IsTracked H g) {r : Response}
    (heffect : Effect g g' [.routed r]) {n : Nat} {c : PublishCall} (hc : g.calls[n]? = some c)
    (hid : c.id ≠ r.id) : g'.calls[n]? = some c := by
  cases heffect with
  | hear _ _ calls | miss _ _ _ _ calls => rw [calls, hc]
  | answer _ m x _ found calls =>
    obtain ⟨d, hd, hdid⟩ := h.call_of_lookup found
    have hmn : m ≠ n := by
      rintro rfl
      rw [hc] at hd
      cases hd
      exact hid hdid
    rw [calls, List.getElem?_modify_ne _ _ hmn, hc]

/-- A response with the id of an entry puts its result into the slot of that call, takes the
    entry from the table, and does nothing else. -/
theorem route_answered (h : IsTracked H g) (hids : (g.calls.map (·.id)).Nodup) {r : Response}
    (heffect : Effect g g' [.routed r]) {x : DeliveryResult} (hx : r.result? = some x) {n : Nat}
    {c : PublishCall} (hc : g.calls[n]? = some c) (hmem : (c.id, n) ∈ g.table)
    (hid : c.id = r.id) :
    g'.table = g.table.filter (·.1 ≠ r.id) ∧ g'.reports = g.reports ∧
      g'.calls[n]? = some { c with slot := some x } ∧
      ∀ m : Nat, m ≠ n → g'.calls[m]? = g.calls[m]? := by
  cases heffect with
  | hear _ result => simp [result] at hx
  | miss _ _ _ found =>
    have := List.lookup_eq_none_iff.1 found _ hmem
    simp [hid] at this
  | answer _ m y result found calls table reports =>
    rw [result] at hx
    cases hx
    obtain ⟨d, hd, hdid⟩ := h.call_of_lookup found
    obtain rfl : m = n := eq_of_id_eq hids hd hc (hdid.trans hid.symm)
    refine ⟨table, reports, ?_, fun k hk => ?_⟩
    · rw [calls, getElem?_modify_self hc]
    · rw [calls, List.getElem?_modify_ne _ _ hk.symm]

/-- What is put into the slot of an abandoned call is nothing to anybody. -/
theorem outcome?_of_abandoned {n : Nat} {c c' : PublishCall} (hc : g.calls[n]? = some c)
    (hc' : g'.calls[n]? = some c') (hstage : c.stage = .abandoned ∧ c'.stage = .abandoned)
    (hother : ∀ m : Nat, m ≠ n → g'.calls[m]? = g.calls[m]?) (m : Nat) :
    g'.outcome? m = g.outcome? m := by
  by_cases hm : m = n
  · subst hm
    rw [outcome?, outcome?, hc, hc', Option.bind_some, Option.bind_some, PublishCall.result?,
      PublishCall.result?, hstage.1, hstage.2]
  · rw [outcome?, outcome?, hother m hm]

/-- In every course of a gateway whose calls have distinct ids, responses and calls are
    correlated. -/
theorem isCorrelated_of_course {id : Id} {d : Destination} {link : Link}
    (h : Course (start id d link) H g) (hids : (g.calls.map (·.id)).Nodup) :
    IsCorrelated (start id d link) H g := by
  have htracked := isTracked_of_course h hids
  have hstaged := isStaged_of_course h rfl
  constructor
  case once =>
    intro s g' hstep n c x hc hx
    rcases call_of_effect htracked (effect_of_step? hstep) hc with hc' | ⟨-, c', hc', hslot⟩
    · exact ⟨c, hc', hx⟩
    · refine ⟨c', hc', ?_⟩
      rcases hslot with hslot | hslot
      · rw [hslot, hx]
      · rw [hslot] at hx
        cases hx
  case final =>
    intro s g' hstep n x hx
    obtain ⟨c, hc, hx⟩ := Option.bind_eq_some_iff.1 hx
    rcases call_of_effect htracked (effect_of_step? hstep) hc with hc' | ⟨hnone, -⟩
    · rw [outcome?, hc']
      exact hx
    · rw [hnone] at hx
      cases hx
  case completion =>
    intro n c x hc hx
    exact completion_of_isTracked h ⟨rfl, rfl⟩ htracked hc hx
  case stages =>
    exact hstaged.calls
  case received =>
    intro n id x hx
    exact received_of_isTracked htracked hstaged hx
  case answered =>
    intro x link n c hc hslot hstage hr
    have hmem := (htracked.calls n c hc).entry_of_slot_eq_none hslot hstage
    obtain ⟨g', hstep⟩ := exists_route hr
    obtain ⟨htable, hreports, hself, hother⟩ := route_answered htracked hids
      (effect_of_collect? hr hstep) (Response.result?_ofResult c.id x) hc hmem (by simp)
    rw [Response.id_ofResult] at htable
    refine ⟨hmem, g', hstep, htable, hreports, hself, hother, fun hwaiting => ?_⟩
    rw [outcome?, hself, Option.bind_some, PublishCall.result?, hwaiting]
  case other =>
    intro r link g' hr hstep n c hc hid
    exact getElem?_route_of_id_ne htracked (effect_of_collect? hr hstep) hc hid
  case configured =>
    intro r link g' hr hresult hstep
    cases effect_of_collect? hr hstep with
    | hear _ _ calls table => exact ⟨calls, table⟩
    | answer _ _ _ result | miss _ _ result => simp [hresult] at result
  case unmatched =>
    intro r link g' hr hresult hstep hH
    cases effect_of_collect? hr hstep with
    | hear _ result => simp [result] at hresult
    | miss _ _ _ _ calls table reports => exact ⟨calls, table, reports⟩
    | answer _ m x _ found =>
      have hmem := mem_of_lookup found
      rcases hH with hunknown | ⟨before, since, n, hH, hsettled⟩
      · exact absurd (htracked.called_of_mem hmem) (hunknown m)
      · obtain ⟨rfl, hunanswered, hwithdrew⟩ := unanswered_of_mem htracked hids hmem hH
        exact hsettled.elim (absurd hunanswered) fun h => absurd h hwithdrew
  case abandoned =>
    intro r link g' n c hr hresult hstep hc hstage hslot hid
    have hmem : (c.id, n) ∈ g.table :=
      (htracked.calls n c hc).entry_of_slot_eq_none hslot (by simp [hstage])
    obtain ⟨x, hx⟩ := Option.isSome_iff_exists.1 hresult
    obtain ⟨htable, hreports, hself, hother⟩ :=
      route_answered htracked hids (effect_of_collect? hr hstep) hx hc hmem hid
    exact ⟨by rwa [← hid], htable, hreports, hother,
      outcome?_of_abandoned hc hself ⟨hstage, hstage⟩ hother⟩

/-- Two calls are answered in the other order, one of them twice, and then something is
    answered that nobody asked for. -/
theorem isCorrelated_outOfOrder :
    ∃ H g, Course (start (Id.ofNat 0) { apiKey := "key", host := "http://localhost" } {}) H g ∧
      g.outcome? 0 = some (.error unavailable) ∧ g.outcome? 1 = some (.ok 3) ∧
      g.reports = [.unmatchedResponse, .unmatchedResponse] ∧
      IsCorrelated (start (Id.ofNat 0) { apiKey := "key", host := "http://localhost" } {}) H g := by
  have hrun : ∃ g, (start (Id.ofNat 0) { apiKey := "key", host := "http://localhost" } {}).run?
      [.enter (Id.ofNat 1) [], .enter (Id.ofNat 2) [], .post 1, .post 0,
        .answer (.published (Id.ofNat 2) ⟨3⟩), .answer (.published (Id.ofNat 2) ⟨4⟩),
        .answer (.failed (Id.ofNat 3) unavailable), .answer (.failed (Id.ofNat 1) unavailable),
        .route, .route, .route, .route] = some g := ⟨_, rfl⟩
  obtain ⟨g, hrun⟩ := hrun
  obtain ⟨H, hcourse⟩ := course_of_run? .refl hrun
  cases hrun
  exact ⟨_, _, hcourse, by decide, by decide, by decide, isCorrelated_of_course hcourse (by decide)⟩

end Gateway

end Clickstream
