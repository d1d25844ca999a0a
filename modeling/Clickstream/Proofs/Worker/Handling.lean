import Mathlib.Data.List.Nodup
import Clickstream.Worker.Service

/-!
# What a worker does with a request

A worker answers a request at once, or starts a delivery and answers when the transport
has. `Worker.Handles` lists the cases, with everything that changes in each of them.

* `Worker.handles_handle`: a worker does what the list says, and no later proof has to look
  into its decisions again;
* `Worker.IsNumbered`: the deliveries on their way bear different numbers, so that the
  answer to one of them takes this one away and no other (`perm_without`).
-/

namespace Clickstream

namespace Worker

variable {τ : Type} {build : Destination → Except Verdict τ} {w w' : Worker τ}

/-- What a worker does with a request: the responses at once, and the worker after it. -/
inductive Handles (build : Destination → Except Verdict τ) (w : Worker τ) :
    Request → List Response → Worker τ → Prop
  | accepted (id : Id) (d : Destination) (t : τ) (transport : w.transport = none)
      (built : build d = .ok t) :
      Handles build w (.configure id d) [.configured id .accepted] { w with transport := some t }
  /-- No transport can be built for the destination. -/
  | rejected (id : Id) (d : Destination) (v : Verdict) (transport : w.transport = none)
      (built : build d = .error v) :
      Handles build w (.configure id d) [.configured id v] w
  /-- There is a transport already. -/
  | again (id : Id) (d : Destination) (t : τ) (transport : w.transport = some t) :
      Handles build w (.configure id d) [.configured id .invalid] w
  | notConfigured (id : Id) (batch : List WireEvent) (transport : w.transport = none) :
      Handles build w (.publish id batch) [.ofResult id (.error Worker.notConfigured)] w
  | emptyBatch (id : Id) (t : τ) (transport : w.transport = some t) :
      Handles build w (.publish id []) [.ofResult id (.error Worker.emptyBatch)] w
  /-- The batch is to be delivered. -/
  | started (id : Id) (batch : List WireEvent) (t : τ) (transport : w.transport = some t)
      (nonempty : batch ≠ []) :
      Handles build w (.publish id batch) [] { w with
        running := w.running ++ [⟨w.given.length, id, batch⟩]
        given := w.given ++ [batch] }

theorem handles_handle (build : Destination → Except Verdict τ) (w : Worker τ) (r : Request) :
    Handles build w r (w.handle build r).1 (w.handle build r).2.2 := by
  obtain ⟨_ | t, running, given⟩ := w
  · cases r with
    | configure id d =>
      simp only [handle, configure]
      cases hbuild : build d with
      | ok t => exact .accepted id d t rfl hbuild
      | error v => exact .rejected id d v rfl hbuild
    | publish id batch => exact .notConfigured id batch rfl
  · cases r with
    | configure id d => exact .again id d t rfl
    | publish id batch =>
      cases batch with
      | nil => exact .emptyBatch id t rfl
      | cons e es => exact .started id (e :: es) t rfl (List.cons_ne_nil e es)

/-- What a worker does depends on what can be built in one case only: it has no transport,
    and is asked to configure itself. Then it matters what is built for this destination. -/
theorem handle_congr {build build' : Destination → Except Verdict τ} {r : Request}
    (h : w.transport = none → ∀ id d, r = .configure id d → build d = build' d) :
    w.handle build r = w.handle build' r := by
  obtain ⟨_ | t, running, given⟩ := w
  · cases r with
    | configure id d => simp only [handle, configure, h rfl id d rfl]
    | publish id batch => rfl
  · cases r with
    | configure id d | publish id batch => rfl

/-! ## Deliveries on their way -/

/-- The deliveries on their way bear different numbers, and none has the next one. -/
structure IsNumbered (w : Worker τ) : Prop where
  nodup : (w.running.map (·.number)).Nodup
  lt : ∀ d ∈ w.running, d.number < w.given.length

theorem isNumbered_empty : ({} : Worker τ).IsNumbered where
  nodup := .nil
  lt _ hd := absurd hd List.not_mem_nil

theorem Handles.isNumbered {r : Request} {rs : List Response} (hhandles : Handles build w r rs w')
    (h : w.IsNumbered) : w'.IsNumbered := by
  cases hhandles with
  | accepted => exact ⟨h.nodup, h.lt⟩
  | rejected | again | notConfigured | emptyBatch => exact h
  | started id batch =>
    refine ⟨?_, fun d hd => ?_⟩
    · rw [List.map_append]
      refine List.nodup_append.2 ⟨h.nodup, List.nodup_singleton _, fun n hn m hm => ?_⟩
      obtain ⟨d, hd, rfl⟩ := List.mem_map.1 hn
      have hlt := h.lt d hd
      simp only [List.map_cons, List.map_nil, List.mem_singleton] at hm
      omega
    · simp only [List.length_append, List.length_singleton]
      rcases List.mem_append.1 hd with hd | hd
      · have := h.lt d hd
        omega
      · rw [List.mem_singleton.1 hd]
        exact Nat.lt_succ_self _

theorem IsNumbered.handle (h : w.IsNumbered) (build : Destination → Except Verdict τ)
    (r : Request) : (w.handle build r).2.2.IsNumbered :=
  (handles_handle build w r).isNumbered h

theorem IsNumbered.without (h : w.IsNumbered) (n : Nat) : (w.without n).IsNumbered where
  nodup := h.nodup.sublist (List.filter_sublist.map _)
  lt d hd := h.lt d (List.mem_of_mem_filter hd)

theorem number_of_delivery? {n : Nat} {d : Delivery} (h : w.delivery? n = some d) :
    d.number = n ∧ d ∈ w.running :=
  ⟨by simpa using List.find?_some h, List.mem_of_find?_eq_some h⟩

/-- What is on its way is the delivery with a number, and the others. -/
theorem IsNumbered.perm_without (h : w.IsNumbered) {n : Nat} {d : Delivery}
    (hd : w.delivery? n = some d) : w.running.Perm (d :: (w.without n).running) := by
  obtain ⟨hnumber, before, after, hsplit, -⟩ := List.find?_eq_some_iff_append.1 hd
  have hnumber : d.number = n := by simpa using hnumber
  have hnodup := h.nodup
  rw [hsplit, List.map_append, List.map_cons] at hnodup
  obtain ⟨-, hafter, hdisjoint⟩ := List.nodup_append.1 hnodup
  -- No other delivery has this number, so only this one is taken away.
  have hkeep (l : List Delivery) (hl : ∀ e ∈ l, e.number ≠ n) :
      l.filter (·.number ≠ n) = l := List.filter_eq_self.2 fun e he => by simpa using hl e he
  have hbefore := hkeep before fun e he => by
    rw [← hnumber]
    exact hdisjoint _ (List.mem_map_of_mem he) _ List.mem_cons_self
  have hafter := hkeep after fun e he heq => by
    refine (List.nodup_cons.1 hafter).1 ?_
    rw [hnumber, ← heq]
    exact List.mem_map_of_mem he
  have hwithout : (w.without n).running = before ++ after := by
    rw [Worker.without, hsplit, List.filter_append, List.filter_cons_of_neg (by simp [hnumber]),
      hbefore, hafter]
  rw [hsplit, hwithout]
  exact List.perm_middle

end Worker

/-! ## Services -/

/-- A worker that is heard posts every response, in order. -/
theorem Link.answerAll_eq {l : Link} (hsender : l.responses.hasSender)
    (hreceiver : l.responses.hasReceiver) (rs : List Response) :
    l.answerAll rs =
      { l with responses := { l.responses with queue := l.responses.queue ++ rs } } := by
  induction rs generalizing l with
  | nil => simp [answerAll]
  | cons r rs ih =>
    have hanswer : l.answer? r =
        some { l with responses := { l.responses with queue := l.responses.queue ++ [r] } } := by
      simp [answer?, Channel.send?, hsender, hreceiver]
    rw [answerAll, List.foldl_cons, hanswer]
    refine (ih (l := { l with
      responses := { l.responses with queue := l.responses.queue ++ [r] } }) hsender
      hreceiver).trans ?_
    simp only [List.append_assoc, List.singleton_append]

end Clickstream
