import Mathlib.Data.List.Induction
import Mathlib.Data.List.Perm.Basic
import Mathlib.Data.List.TakeWhile
import Mathlib.Data.Option.Basic
import Clickstream.Proofs.Worker.Handling
import Clickstream.World

/-!
# The protocol of a worker

A worker is handed requests one after the other, while the deliveries that it has started
call the transport and end in whatever order they come to it. A `Shift` is a worker with
the world of its transport and the calls that were made of it; its steps are those of
whoever hands out requests and of the deliveries.

What each request leads to is a matter of the requests before it (`due`): they say whether
there is a transport (`builtBy`), and which batches it has been given (`deliverable`).

* `isWorking_of_run?`: at any time, what was posted and what is on its way is what is due,
  each of it once;
* `isServed_of_run?`: hence, when no delivery is on its way, every request has its one
  response, and the transport got every batch that was meant for it.
-/

namespace Clickstream

/-! ## Shifts -/

/-- A request, and what building a transport comes to at its time. -/
structure Demand (τ : Type) where
  build : Destination → Except Verdict τ
  request : Request

/-- A call of the transport: the number of the delivery that made it, what it was given
    and what it answered. -/
structure TransportCall (τ : Type) where
  number : Nat
  transport : τ
  batch : List WireEvent
  result : DeliveryResult

/-- A worker at work, with the world of its transport. -/
structure Shift (τ π : Type) where
  service : Service τ := {}
  world : π
  /-- The calls of the transport, the first one first. -/
  calls : List (TransportCall τ) := []

namespace Shift

/-- A step of whoever takes part. -/
inductive Step (τ : Type)
  /-- The worker is handed a request. -/
  | handle (h : Demand τ)
  /-- A delivery gives its batch to the transport. -/
  | ask (number : Nat)
  /-- A delivery posts what the transport has answered, and is over. -/
  | finish (number elapsed : Nat)

variable {τ π : Type}

/-- The request of a step, if it has one. -/
def Step.demand? : Step τ → Option (Demand τ)
  | .handle h => some h
  | .ask _ | .finish _ _ => none

/-- What the worker has posted. -/
def posted (s : Shift τ π) : List Response := s.service.link.responses.queue

/-- The call of the transport that a delivery has made, if it has. -/
def call? (n : Nat) (s : Shift τ π) : Option (TransportCall τ) := s.calls.find? (·.number = n)

/-- A delivery gives its batch to the transport, once. -/
def ask? (deliver : τ → Publisher π) (n : Nat) (s : Shift τ π) : Option (Shift τ π) := do
  let t ← s.service.worker.transport
  let d ← s.service.worker.delivery? n
  guard (s.call? n).isNone
  let (result, world) := deliver t d.batch s.world
  return { s with world, calls := s.calls ++ [⟨n, t, d.batch, result⟩] }

/-- What a transport answers that is called directly with some batches, one after the other,
    and its world after that. -/
def callAll (deliver : τ → Publisher π) :
    List (τ × List WireEvent) → π → List DeliveryResult × π
  | [], x => ([], x)
  | (t, batch) :: rest, x =>
    let (result, x) := deliver t batch x
    let (results, x) := callAll deliver rest x
    (result :: results, x)

/-- One step, if it is possible. -/
def step? (deliver : τ → Publisher π) (s : Shift τ π) : Step τ → Option (Shift τ π)
  | .handle h => some { s with service := s.service.handle h.build h.request }
  | .ask n => s.ask? deliver n
  | .finish n elapsed => do
    let c ← s.call? n
    return { s with service := ← s.service.finish? n c.result elapsed }

/-- A run of steps, all of which are possible. -/
def run? (deliver : τ → Publisher π) (s : Shift τ π) (steps : List (Step τ)) :
    Option (Shift τ π) :=
  steps.foldlM (step? deliver) s

end Shift

/-! ## What requests lead to -/

namespace Demand

variable {τ : Type}

/-- The transport that is built when a request is handled without one, if any is. -/
def builds? (h : Demand τ) : Option τ :=
  match h.request with
  | .configure _ d => (h.build d).toOption
  | .publish _ _ => none

/-- The batch that a request hands over, if there is anything in it. -/
def batch? (h : Demand τ) : Option (Id × List WireEvent) :=
  match h.request with
  | .configure _ _ => none
  | .publish id batch => if batch.isEmpty then none else some (id, batch)

/-- The transport after some requests: the first one that could be built. -/
def builtBy (hs : List (Demand τ)) : Option τ := hs.findSome? builds?

/-- The batches for the transport, with the ids of their requests: what comes after the
    request with which it was built, and has anything in it. -/
def deliverable (hs : List (Demand τ)) : List (Id × List WireEvent) :=
  (hs.dropWhile (·.builds?.isNone)).tail.filterMap batch?

/-- What a request leads to that comes after some others: a response or a delivery. -/
def due (before : List (Demand τ)) (h : Demand τ) : Response ⊕ Delivery :=
  match builtBy before, h.request with
  | none, .configure id d =>
    .inl (.configured id (match h.build d with | .ok _ => .accepted | .error v => v))
  | some _, .configure id _ => .inl (.configured id .invalid)
  | none, .publish id _ => .inl (.ofResult id (.error Worker.notConfigured))
  | some _, .publish id batch =>
    if batch.isEmpty then .inl (.ofResult id (.error Worker.emptyBatch))
    else .inr ⟨(deliverable before).length, id, batch⟩

/-- What some requests lead to, in their order, after some others. -/
def duesFrom (before : List (Demand τ)) : List (Demand τ) → List (Response ⊕ Delivery)
  | [] => []
  | h :: hs => due before h :: duesFrom (before ++ [h]) hs

/-- What requests lead to, in their order. -/
def dues (hs : List (Demand τ)) : List (Response ⊕ Delivery) := duesFrom [] hs

/-- The responses at once. -/
def immediate (hs : List (Demand τ)) : List Response := (dues hs).filterMap Sum.getLeft?

/-- The deliveries. -/
def deliveries (hs : List (Demand τ)) : List Delivery := (dues hs).filterMap Sum.getRight?

/-- How a request is answered that comes after some others. -/
inductive Answers (calls : List (TransportCall τ)) (before : List (Demand τ)) :
    Demand τ → Response → Prop
  | accepted (build : Destination → Except Verdict τ) (id : Id) (d : Destination) (t : τ)
      (first : builtBy before = none) (built : build d = .ok t) :
      Answers calls before ⟨build, .configure id d⟩ (.configured id .accepted)
  /-- No transport can be built, and the reason is the answer. -/
  | rejected (build : Destination → Except Verdict τ) (id : Id) (d : Destination) (v : Verdict)
      (first : builtBy before = none) (built : build d = .error v) :
      Answers calls before ⟨build, .configure id d⟩ (.configured id v)
  /-- There is a transport already. -/
  | again (build : Destination → Except Verdict τ) (id : Id) (d : Destination) (t : τ)
      (configured : builtBy before = some t) :
      Answers calls before ⟨build, .configure id d⟩ (.configured id .invalid)
  | notConfigured (build : Destination → Except Verdict τ) (id : Id) (batch : List WireEvent)
      (first : builtBy before = none) :
      Answers calls before ⟨build, .publish id batch⟩ (.failed id Worker.notConfigured)
  | emptyBatch (build : Destination → Except Verdict τ) (id : Id) (t : τ)
      (configured : builtBy before = some t) :
      Answers calls before ⟨build, .publish id []⟩ (.failed id Worker.emptyBatch)
  /-- The transport was given the batch, and its answer is the answer. -/
  | delivered (build : Destination → Except Verdict τ) (id : Id) (batch : List WireEvent) (t : τ)
      (c : TransportCall τ) (configured : builtBy before = some t) (nonempty : batch ≠ [])
      (called : c ∈ calls) (call : c.number = (deliverable before).length ∧ c.transport = t ∧
        c.batch = batch) :
      Answers calls before ⟨build, .publish id batch⟩ (.ofResult id c.result)

/-! ### One request more -/

variable (hs : List (Demand τ)) (h : Demand τ)

theorem builtBy_concat : builtBy (hs ++ [h]) = (builtBy hs).or h.builds? := by
  cases hh : h.builds? <;> simp [builtBy, List.findSome?_append, hh]

theorem builtBy_append_of_eq_some {hs : List (Demand τ)} {t : τ} (ht : builtBy hs = some t)
    (hs' : List (Demand τ)) : builtBy (hs ++ hs') = some t := by
  rw [builtBy, List.findSome?_append, ← builtBy, ht, Option.some_or]

theorem deliverable_of_builtBy_eq_none {hs : List (Demand τ)} (hnone : builtBy hs = none) :
    deliverable hs = [] := by
  have hdrop : hs.dropWhile (·.builds?.isNone) = [] :=
    List.dropWhile_eq_nil_iff.2 fun h hh => by
      rw [List.findSome?_eq_none_iff.1 hnone h hh]
      rfl
  rw [deliverable, hdrop]
  rfl

/-- Another request adds its batch, if there is a transport before it. -/
theorem deliverable_concat : deliverable (hs ++ [h]) =
    deliverable hs ++ if (builtBy hs).isSome then h.batch?.toList else [] := by
  cases hbuilt : builtBy hs with
  | none =>
    -- All requests so far are dropped, and the new one is so too or comes first.
    have hnone := List.findSome?_eq_none_iff.1 hbuilt
    have hdrop : (hs ++ [h]).dropWhile (·.builds?.isNone) =
        [h].dropWhile (·.builds?.isNone) :=
      List.dropWhile_append_of_pos fun h' hh' => by rw [hnone h' hh']; rfl
    have htail : ([h].dropWhile (·.builds?.isNone)).tail = [] := by
      rw [List.dropWhile_cons]
      split <;> rfl
    rw [deliverable, hdrop, htail, deliverable_of_builtBy_eq_none hbuilt]
    rfl
  | some t =>
    obtain ⟨h', hh', hbuilds⟩ := List.exists_of_findSome?_eq_some hbuilt
    have hne : hs.dropWhile (·.builds?.isNone) ≠ [] := fun hnil => by
      have := List.dropWhile_eq_nil_iff.1 hnil h' hh'
      rw [hbuilds] at this
      cases this
    rw [deliverable, List.dropWhile_append, if_neg (by simpa using hne),
      List.tail_append_of_ne_nil hne, List.filterMap_append, ← deliverable]
    cases hbatch : h.batch? <;> simp [hbatch]

theorem duesFrom_concat (before : List (Demand τ)) :
    duesFrom before (hs ++ [h]) = duesFrom before hs ++ [due (before ++ hs) h] := by
  induction hs generalizing before with
  | nil => simp [duesFrom]
  | cons h' hs ih => simp [duesFrom, ih]

theorem dues_concat : dues (hs ++ [h]) = dues hs ++ [due hs h] := by
  rw [dues, duesFrom_concat, List.nil_append, dues]

theorem getElem?_duesFrom (before : List (Demand τ)) (i : Nat) :
    (duesFrom before hs)[i]? = (hs[i]?).map (due (before ++ hs.take i)) := by
  induction hs generalizing before i with
  | nil => simp [duesFrom]
  | cons h hs ih =>
    cases i with
    | zero => simp [duesFrom]
    | succ i => simp [duesFrom, ih]

theorem length_duesFrom (before : List (Demand τ)) :
    (duesFrom before hs).length = hs.length := by
  induction hs generalizing before with
  | nil => rfl
  | cons h hs ih => rw [duesFrom, List.length_cons, ih, List.length_cons]

theorem immediate_concat :
    immediate (hs ++ [h]) = immediate hs ++ (due hs h).getLeft?.toList := by
  rw [immediate, dues_concat, List.filterMap_append, ← immediate]
  cases due hs h <;> rfl

theorem deliveries_concat :
    deliveries (hs ++ [h]) = deliveries hs ++ (due hs h).getRight?.toList := by
  rw [deliveries, dues_concat, List.filterMap_append, ← deliveries]
  cases due hs h <;> rfl

/-- The deliveries are the batches for the transport, numbered from the first one on. -/
theorem deliveries_eq :
    deliveries hs = (deliverable hs).mapIdx fun n p => ⟨n, p.1, p.2⟩ := by
  induction hs using List.reverseRecOn with
  | nil => rfl
  | append_singleton hs h ih =>
    rw [deliveries_concat, deliverable_concat, ih, due]
    obtain ⟨build, request⟩ := h
    cases request with
    | configure id d => cases builtBy hs <;> simp [batch?]
    | publish id batch =>
      cases builtBy hs with
      | none => simp
      | some t => cases batch <;> simp [batch?, List.mapIdx_append]

end Demand

namespace Shift

open Demand

variable {τ π : Type} {deliver : τ → Publisher π} {hs : List (Demand τ)} {s s' : Shift τ π}

/-! ## One step -/

/-- What is true of a worker at work that was handed these requests. -/
structure IsWorking (hs : List (Demand τ)) (s : Shift τ π) : Prop where
  /-- What it posts is heard. -/
  heard : s.service.link.responses.hasSender ∧ s.service.link.responses.hasReceiver
  transport : s.service.worker.transport = builtBy hs
  given : s.service.worker.given = (deliverable hs).map (·.2)
  numbered : s.service.worker.IsNumbered
  /-- Every call was made by a delivery that was due, with its batch, and by no other. -/
  calls : ∀ c ∈ s.calls, builtBy hs = some c.transport ∧
    ((deliverable hs)[c.number]?).map (·.2) = some c.batch
  once : (s.calls.map (·.number)).Nodup
  /-- What is due was posted or is on its way, each of it once. -/
  accounts : ∃ finished : List (Delivery × DeliveryResult),
    (deliveries hs).Perm (s.service.worker.running ++ finished.map (·.1)) ∧
      s.posted.Perm (immediate hs ++ finished.map fun f => .ofResult f.1.id f.2) ∧
      ∀ f ∈ finished, (s.call? f.1.number).map (·.result) = some f.2

theorem isWorking_nil (x : π) : IsWorking [] ({ world := x } : Shift τ π) where
  heard := ⟨rfl, rfl⟩
  transport := rfl
  given := rfl
  numbered := Worker.isNumbered_empty
  calls _ hc := absurd hc List.not_mem_nil
  once := .nil
  accounts := ⟨[], .nil, .nil, fun _ hf => absurd hf List.not_mem_nil⟩

/-- A worker that is handed a request does what is due. -/
theorem due_of_handles {w w' : Worker τ} {h : Demand τ} {responses : List Response}
    (htransport : w.transport = builtBy hs) (hgiven : w.given = (deliverable hs).map (·.2))
    (hhandles : w.Handles h.build h.request responses w') :
    (due hs h).getLeft?.toList = responses ∧
      w'.running = w.running ++ (due hs h).getRight?.toList ∧
      w'.transport = builtBy (hs ++ [h]) ∧ w'.given = (deliverable (hs ++ [h])).map (·.2) := by
  obtain ⟨build, request⟩ := h
  have hlength : w.given.length = (deliverable hs).length := by rw [hgiven, List.length_map]
  rw [due, builtBy_concat, deliverable_concat, ← htransport]
  cases hhandles with
  | accepted id d t transport built | rejected id d t transport built =>
    have built : build d = _ := built
    simp [transport, built, Demand.builds?, hgiven, Except.toOption]
  | again id d t transport => simp [transport, Demand.batch?, hgiven]
  | notConfigured id batch transport => simp [transport, Demand.builds?, hgiven]
  | emptyBatch id t transport => simp [transport, Demand.batch?, hgiven]
  | started id batch t transport nonempty =>
    simp [transport, Demand.batch?, hgiven, nonempty]

theorem isWorking_handle (hworking : IsWorking hs s) (h : Demand τ) :
    IsWorking (hs ++ [h]) { s with service := s.service.handle h.build h.request } := by
  obtain ⟨hleft, hright, htransport, hgiven⟩ := due_of_handles hworking.transport hworking.given
    (Worker.handles_handle h.build s.service.worker h.request)
  have hlink := Link.answerAll_eq hworking.heard.1 hworking.heard.2
    (s.service.worker.handle h.build h.request).1
  obtain ⟨finished, hdeliveries, hposted, hresults⟩ := hworking.accounts
  refine ⟨?_, htransport, hgiven, hworking.numbered.handle h.build h.request, fun c hc => ?_,
    hworking.once, finished, ?_, ?_, hresults⟩
  · rw [Service.handle]
    dsimp only
    rw [hlink]
    exact hworking.heard
  · obtain ⟨hbuilt, hbatch⟩ := hworking.calls c hc
    refine ⟨builtBy_append_of_eq_some hbuilt [h], ?_⟩
    obtain ⟨p, hp, hpbatch⟩ := Option.map_eq_some_iff.1 hbatch
    rw [deliverable_concat, List.getElem?_append_left (List.getElem?_eq_some_iff.1 hp).1, hp,
      Option.map_some, hpbatch]
  · rw [deliveries_concat, Service.handle]
    dsimp only
    rw [hright, List.append_assoc]
    exact (hdeliveries.append_right _).trans
      (by rw [List.append_assoc]; exact List.perm_append_comm.append_left _)
  · rw [immediate_concat, posted, Service.handle]
    dsimp only
    rw [hlink, hleft, List.append_assoc]
    exact (hposted.append_right _).trans
      (by rw [List.append_assoc]; exact List.perm_append_comm.append_left _)

/-- A call that was made can be found ever after. -/
theorem call?_append {n : Nat} {c : TransportCall τ} (hc : s.call? n = some c)
    (cs : List (TransportCall τ)) :
    (s.calls ++ cs).find? (·.number = n) = some c := by
  rw [List.find?_append, ← call?, hc, Option.some_or]

theorem isWorking_ask (hworking : IsWorking hs s) {n : Nat} (h : s.ask? deliver n = some s') :
    IsWorking hs s' := by
  obtain ⟨t, ht, h⟩ := Option.bind_eq_some_iff.1 h
  obtain ⟨d, hd, h⟩ := Option.bind_eq_some_iff.1 h
  obtain ⟨u, hnew, h⟩ := Option.bind_eq_some_iff.1 h
  cases h
  have hnew : s.call? n = none := by simpa using (Option.guard_eq_some' u).1 hnew
  obtain ⟨finished, hdeliveries, hposted, hresults⟩ := hworking.accounts
  refine ⟨hworking.heard, hworking.transport, hworking.given, hworking.numbered, fun c hc => ?_,
    ?_, finished, hdeliveries, hposted, fun f hf => ?_⟩
  · rcases List.mem_append.1 hc with hc | hc
    · exact hworking.calls c hc
    · -- The call is that of a delivery on its way, which is one of those that are due.
      rw [List.mem_singleton.1 hc]
      refine ⟨hworking.transport.symm.trans ht, ?_⟩
      obtain ⟨hnumber, hmem⟩ := Worker.number_of_delivery? hd
      have hdue : d ∈ deliveries hs := hdeliveries.mem_iff.2 (List.mem_append_left _ hmem)
      rw [deliveries_eq] at hdue
      obtain ⟨i, hi, rfl⟩ := List.mem_mapIdx.1 hdue
      rw [← hnumber, List.getElem?_eq_getElem hi]
      rfl
  · rw [List.map_append]
    refine List.nodup_append.2 ⟨hworking.once, List.nodup_singleton _, fun m hm k hk => ?_⟩
    obtain ⟨c, hc, rfl⟩ := List.mem_map.1 hm
    have hne := List.find?_eq_none.1 hnew c hc
    simp only [List.map_cons, List.map_nil, List.mem_singleton] at hk
    rw [hk]
    simpa using hne
  · obtain ⟨c, hc, hresult⟩ := Option.map_eq_some_iff.1 (hresults f hf)
    rw [call?, call?_append hc, Option.map_some, hresult]

theorem isWorking_finish (hworking : IsWorking hs s) {n elapsed : Nat}
    (h : s.step? deliver (.finish n elapsed) = some s') : IsWorking hs s' := by
  obtain ⟨c, hc, h⟩ := Option.bind_eq_some_iff.1 h
  obtain ⟨service, hservice, h⟩ := Option.bind_eq_some_iff.1 h
  cases h
  obtain ⟨⟨response, log, w⟩, hfinish, hservice⟩ := Option.bind_eq_some_iff.1 hservice
  cases hservice
  obtain ⟨d, hd, hfinish⟩ := Option.bind_eq_some_iff.1 hfinish
  cases hfinish
  have hlink := Link.answerAll_eq hworking.heard.1 hworking.heard.2 [.ofResult d.id c.result]
  obtain ⟨finished, hdeliveries, hposted, hresults⟩ := hworking.accounts
  have hrunning := hworking.numbered.perm_without hd
  refine ⟨?_, hworking.transport, hworking.given, hworking.numbered.without n, hworking.calls,
    hworking.once, finished ++ [(d, c.result)], ?_, ?_, fun f hf => ?_⟩
  · dsimp only
    rw [hlink]
    exact hworking.heard
  · refine hdeliveries.trans ((hrunning.append_right _).trans ?_)
    rw [List.map_append, ← List.append_assoc]
    exact (List.perm_append_singleton d _).symm
  · rw [posted]
    dsimp only
    rw [hlink, List.map_append, ← List.append_assoc]
    exact hposted.append_right _
  · rcases List.mem_append.1 hf with hf | hf
    · exact hresults f hf
    · rw [List.mem_singleton.1 hf]
      have hcall : s.call? d.number = some c := by rw [(Worker.number_of_delivery? hd).1, hc]
      exact congrArg _ hcall

/-- Whatever the step, what is due is accounted for. -/
theorem isWorking_of_step? (hworking : IsWorking hs s) {e : Step τ}
    (h : s.step? deliver e = some s') : IsWorking (hs ++ e.demand?.toList) s' := by
  cases e with
  | handle d =>
    cases h
    exact isWorking_handle hworking d
  | ask n =>
    rw [Step.demand?, Option.toList_none, List.append_nil]
    exact isWorking_ask hworking h
  | finish n elapsed =>
    rw [Step.demand?, Option.toList_none, List.append_nil]
    exact isWorking_finish hworking h

theorem isWorking_of_run? (hworking : IsWorking hs s) {steps : List (Step τ)}
    (h : s.run? deliver steps = some s') :
    IsWorking (hs ++ steps.filterMap Step.demand?) s' := by
  induction steps generalizing hs s with
  | nil =>
    cases h
    rwa [List.filterMap_nil, List.append_nil]
  | cons e steps ih =>
    obtain ⟨s₁, hstep, h⟩ := Option.bind_eq_some_iff.1 h
    have hrest := ih (isWorking_of_step? hworking hstep) h
    rw [List.append_assoc] at hrest
    cases hdemand : e.demand? <;> simpa [hdemand] using hrest

/-! ## When no delivery is on its way -/

/-- What is true of a worker that was handed these requests, one after the other. -/
structure IsServed (deliver : τ → Publisher π) (x : π) (hs : List (Demand τ)) (s : Shift τ π) :
    Prop where
  /-- The transport is the first one that could be built, and no other is ever used. -/
  transport : s.service.worker.transport = builtBy hs ∧
    ∀ c ∈ s.calls, builtBy hs = some c.transport
  /-- Once it is there it stays. -/
  kept : ∀ steps s' t, s.run? deliver steps = some s' →
    s.service.worker.transport = some t → s'.service.worker.transport = some t
  /-- No other request can build one. -/
  built : ∀ (i j : Nat) (h h' : Demand τ), hs[i]? = some h → hs[j]? = some h' →
    builtBy (hs.take i) = none → builtBy (hs.take j) = none → h.builds?.isSome → h'.builds?.isSome →
    i = j
  /-- What can be built makes no difference, except to a request to configure a worker without
      a transport; and then nothing matters but what is built for its destination. -/
  asked : ∀ (build build' : Destination → Except Verdict τ) r,
    (s.service.worker.transport = none → ∀ id d, r = .configure id d → build d = build' d) →
    s.service.handle build r = s.service.handle build' r
  /-- A delivery on its way can go on. -/
  goesOn : ∀ d ∈ s.service.worker.running,
    (∃ s', s.step? deliver (.ask d.number) = some s') ∨
      ∃ s', s.step? deliver (.finish d.number 0) = some s'
  /-- When none is on its way any more, there is one response to each request, and no other. -/
  answered : s.service.worker.running = [] → ∃ replies : List Response, s.posted.Perm replies ∧
    replies.length = hs.length ∧ ∀ (i : Nat) h r, hs[i]? = some h → replies[i]? = some r →
      r.id = h.request.id ∧ Answers s.calls (hs.take i) h r
  /-- The results of the calls are what the transport itself answers. -/
  results : callAll deliver (s.calls.map fun c => (c.transport, c.batch)) x =
    (s.calls.map (·.result), s.world)
  /-- By then the transport was given every batch that was meant for it once, as it was. -/
  given : s.service.worker.running = [] → (s.calls.map fun c => (c.number, c.batch)).Perm
    ((deliverable hs).mapIdx fun n p => (n, p.2))

/-- The answer to what a request leads to, which may be that of the transport. -/
def reply (s : Shift τ π) : Response ⊕ Delivery → Response :=
  Sum.elim id fun d => .ofResult d.id (((s.call? d.number).map (·.result)).getD (.ok 0))

theorem perm_map_elim {α β : Type} (l : List (α ⊕ β)) (f : β → α) :
    (l.filterMap Sum.getLeft? ++ (l.filterMap Sum.getRight?).map f).Perm
      (l.map (Sum.elim id f)) := by
  induction l with
  | nil => exact .nil
  | cons x l ih =>
    cases x with
    | inl a => exact ih.cons a
    | inr b => exact List.perm_middle.trans (ih.cons (f b))

theorem perm_posted (hworking : IsWorking hs s) (hrunning : s.service.worker.running = []) :
    s.posted.Perm ((dues hs).map s.reply) := by
  obtain ⟨finished, hdeliveries, hposted, hresults⟩ := hworking.accounts
  rw [hrunning, List.nil_append] at hdeliveries
  have hreplies : finished.map (fun f => Response.ofResult f.1.id f.2) =
      (finished.map (·.1)).map fun d =>
        .ofResult d.id (((s.call? d.number).map (·.result)).getD (.ok 0)) := by
    rw [List.map_map]
    refine List.map_congr_left fun f hf => ?_
    rw [Function.comp_apply, hresults f hf, Option.getD_some]
  rw [hreplies] at hposted
  exact hposted.trans (((hdeliveries.symm.map _).append_left _).trans (perm_map_elim _ _))

/-- A delivery that is over has called the transport with its batch. -/
theorem exists_call (hworking : IsWorking hs s) (hrunning : s.service.worker.running = [])
    {d : Delivery} (hd : d ∈ deliveries hs) :
    ∃ c, s.call? d.number = some c ∧ c.number = d.number ∧ c.batch = d.batch := by
  obtain ⟨finished, hdeliveries, -, hresults⟩ := hworking.accounts
  rw [hrunning, List.nil_append] at hdeliveries
  obtain ⟨f, hf, rfl⟩ := List.mem_map.1 (hdeliveries.mem_iff.1 hd)
  obtain ⟨c, hc, -⟩ := Option.map_eq_some_iff.1 (hresults f hf)
  have hnumber : c.number = f.1.number := by simpa using List.find?_some hc
  refine ⟨c, hc, hnumber, ?_⟩
  have hbatch := (hworking.calls c (List.mem_of_find?_eq_some hc)).2
  rw [deliveries_eq] at hd
  obtain ⟨i, hi, hf⟩ := List.mem_mapIdx.1 hd
  rw [hnumber, ← hf, List.getElem?_eq_getElem hi] at hbatch
  rw [← hf]
  exact (Option.some.inj hbatch).symm

theorem answers_of_due_eq_inl {calls : List (TransportCall τ)} {before : List (Demand τ)}
    {h : Demand τ} {r : Response} (hdue : due before h = .inl r) : Answers calls before h r := by
  obtain ⟨build, request⟩ := h
  rw [due] at hdue
  cases hbuilt : builtBy before with
  | none =>
    cases request with
    | configure id d =>
      cases hbuild : build d with
      | ok t =>
        simp only [hbuilt, hbuild, Sum.inl.injEq] at hdue
        rw [← hdue]
        exact .accepted build id d t hbuilt hbuild
      | error v =>
        simp only [hbuilt, hbuild, Sum.inl.injEq] at hdue
        rw [← hdue]
        exact .rejected build id d v hbuilt hbuild
    | publish id batch =>
      simp only [hbuilt, Sum.inl.injEq] at hdue
      rw [← hdue]
      exact .notConfigured build id batch hbuilt
  | some t =>
    cases request with
    | configure id d =>
      simp only [hbuilt, Sum.inl.injEq] at hdue
      rw [← hdue]
      exact .again build id d t hbuilt
    | publish id batch =>
      cases batch with
      | nil =>
        simp only [hbuilt, List.isEmpty_nil, if_true, Sum.inl.injEq] at hdue
        rw [← hdue]
        exact .emptyBatch build id t hbuilt
      | cons e es => simp [hbuilt] at hdue

theorem answers_of_due_eq_inr {calls : List (TransportCall τ)} {before : List (Demand τ)}
    {h : Demand τ} {d : Delivery} {c : TransportCall τ} (hdue : due before h = .inr d)
    (hc : c ∈ calls) (hnumber : c.number = d.number) (hbatch : c.batch = d.batch)
    (htransport : ∀ t, builtBy before = some t → c.transport = t) :
    Answers calls before h (.ofResult d.id c.result) := by
  obtain ⟨build, request⟩ := h
  rw [due] at hdue
  cases hbuilt : builtBy before with
  | none => cases request <;> simp [hbuilt] at hdue
  | some t =>
    cases request with
    | configure id d => simp [hbuilt] at hdue
    | publish id batch =>
      cases batch with
      | nil => simp [hbuilt] at hdue
      | cons e es =>
        simp only [hbuilt, List.isEmpty_cons, Bool.false_eq_true, if_false, Sum.inr.injEq] at hdue
        rw [← hdue] at hnumber hbatch ⊢
        exact .delivered build id (e :: es) t c hbuilt (List.cons_ne_nil e es) hc
          ⟨hnumber, htransport t hbuilt, hbatch⟩

theorem id_of_answers {calls : List (TransportCall τ)} {before : List (Demand τ)} {h : Demand τ}
    {r : Response} (hanswers : Answers calls before h r) : r.id = h.request.id := by
  cases hanswers with
  | accepted | rejected | again | notConfigured | emptyBatch => rfl
  | delivered => exact Response.id_ofResult _ _

theorem answers_reply (hworking : IsWorking hs s) (hrunning : s.service.worker.running = [])
    {i : Nat} {h : Demand τ} (hh : hs[i]? = some h) :
    Answers s.calls (hs.take i) h (s.reply (due (hs.take i) h)) := by
  cases hdue : due (hs.take i) h with
  | inl r => exact answers_of_due_eq_inl hdue
  | inr d =>
    have hdues : (dues hs)[i]? = some (.inr d) := by
      rw [dues, getElem?_duesFrom, hh, Option.map_some, List.nil_append, hdue]
    have hd : d ∈ deliveries hs :=
      List.mem_filterMap.2 ⟨.inr d, List.mem_of_getElem? hdues, rfl⟩
    obtain ⟨c, hc, hnumber, hbatch⟩ := exists_call hworking hrunning hd
    have hmem := List.mem_of_find?_eq_some hc
    have hreply : s.reply (.inr d) = .ofResult d.id c.result := by simp [reply, hc]
    rw [hreply]
    refine answers_of_due_eq_inr hdue hmem hnumber hbatch fun t ht => ?_
    have hbuilt := builtBy_append_of_eq_some ht (hs.drop i)
    rw [List.take_append_drop, (hworking.calls c hmem).1] at hbuilt
    exact Option.some.inj hbuilt

theorem perm_calls (hworking : IsWorking hs s) (hrunning : s.service.worker.running = []) :
    (s.calls.map fun c => (c.number, c.batch)).Perm
      ((deliverable hs).mapIdx fun n p => (n, p.2)) := by
  have hnodup : (s.calls.map fun c => (c.number, c.batch)).Nodup := by
    refine .of_map Prod.fst ?_
    rw [List.map_map]
    exact hworking.once
  have hnodup' : ((deliverable hs).mapIdx fun n p => (n, p.2)).Nodup := by
    refine .of_map Prod.fst ?_
    rw [List.mapIdx_eq_zipIdx_map, List.map_map]
    show ((deliverable hs).zipIdx.map Prod.snd).Nodup
    rw [List.zipIdx_map_snd]
    exact List.nodup_range'
  refine (List.perm_ext_iff_of_nodup hnodup hnodup').2 fun ⟨n, batch⟩ => ⟨fun hmem => ?_,
    fun hmem => ?_⟩
  · obtain ⟨c, hc, hpair⟩ := List.mem_map.1 hmem
    cases hpair
    obtain ⟨p, hp, hbatch⟩ := Option.map_eq_some_iff.1 (hworking.calls c hc).2
    obtain ⟨hlt, rfl⟩ := List.getElem?_eq_some_iff.1 hp
    exact List.mem_mapIdx.2 ⟨c.number, hlt, by rw [hbatch]⟩
  · obtain ⟨i, hi, hpair⟩ := List.mem_mapIdx.1 hmem
    cases hpair
    have hd : ⟨n, (deliverable hs)[n].1, (deliverable hs)[n].2⟩ ∈ deliveries hs := by
      rw [deliveries_eq]
      exact List.mem_mapIdx.2 ⟨n, hi, rfl⟩
    obtain ⟨c, hc, hnumber, hbatch⟩ := exists_call hworking hrunning hd
    exact List.mem_map.2 ⟨c, List.mem_of_find?_eq_some hc, by rw [hnumber, hbatch]⟩

theorem exists_step? (hworking : IsWorking hs s) (deliver : τ → Publisher π) {d : Delivery}
    (hd : d ∈ s.service.worker.running) :
    (∃ s', s.step? deliver (.ask d.number) = some s') ∨
      ∃ s', s.step? deliver (.finish d.number 0) = some s' := by
  obtain ⟨e, he⟩ := Option.isSome_iff_exists.1 (show (s.service.worker.delivery? d.number).isSome
    from List.find?_isSome.2 ⟨d, hd, by simp⟩)
  cases hc : s.call? d.number with
  | none =>
    -- There is something to deliver, so there is a transport.
    obtain ⟨finished, hdeliveries, -, -⟩ := hworking.accounts
    have hdue : d ∈ deliveries hs := hdeliveries.mem_iff.2 (List.mem_append_left _ hd)
    obtain ⟨t, ht⟩ : ∃ t, builtBy hs = some t := by
      refine Option.ne_none_iff_exists'.1 fun hnone => ?_
      rw [deliveries_eq, deliverable_of_builtBy_eq_none hnone] at hdue
      cases hdue
    refine .inl ⟨{ s with
      world := (deliver t e.batch s.world).2
      calls := s.calls ++ [⟨d.number, t, e.batch, (deliver t e.batch s.world).1⟩] }, ?_⟩
    simp [step?, ask?, hworking.transport, ht, he, hc]
  | some c => exact .inr ⟨_, by simp [step?, hc, Service.finish?, Worker.finish, he]; rfl⟩

theorem callAll_concat (deliver : τ → Publisher π) (cs : List (τ × List WireEvent)) (t : τ)
    (batch : List WireEvent) (x : π) :
    callAll deliver (cs ++ [(t, batch)]) x =
      ((callAll deliver cs x).1 ++ [(deliver t batch (callAll deliver cs x).2).1],
        (deliver t batch (callAll deliver cs x).2).2) := by
  induction cs generalizing x with
  | nil => rfl
  | cons c cs ih => simp only [List.cons_append, callAll, ih]

/-- The calls of the deliveries come to the same as calls that are made directly. -/
theorem callAll_of_step? {x : π} (hcalls : callAll deliver (s.calls.map fun c =>
      (c.transport, c.batch)) x = (s.calls.map (·.result), s.world)) {e : Step τ}
    (h : s.step? deliver e = some s') : callAll deliver (s'.calls.map fun c =>
      (c.transport, c.batch)) x = (s'.calls.map (·.result), s'.world) := by
  cases e with
  | handle d =>
    cases h
    exact hcalls
  | ask n =>
    obtain ⟨t, -, h⟩ := Option.bind_eq_some_iff.1 h
    obtain ⟨d, -, h⟩ := Option.bind_eq_some_iff.1 h
    obtain ⟨u, -, h⟩ := Option.bind_eq_some_iff.1 h
    cases h
    simp only [List.map_append, List.map_cons, List.map_nil, callAll_concat, hcalls]
  | finish n elapsed =>
    obtain ⟨c, -, h⟩ := Option.bind_eq_some_iff.1 h
    obtain ⟨service, -, h⟩ := Option.bind_eq_some_iff.1 h
    cases h
    exact hcalls

theorem callAll_of_run? {x : π} (hcalls : callAll deliver (s.calls.map fun c =>
      (c.transport, c.batch)) x = (s.calls.map (·.result), s.world)) {steps : List (Step τ)}
    (h : s.run? deliver steps = some s') : callAll deliver (s'.calls.map fun c =>
      (c.transport, c.batch)) x = (s'.calls.map (·.result), s'.world) := by
  induction steps generalizing s with
  | nil =>
    cases h
    exact hcalls
  | cons e steps ih =>
    obtain ⟨s₁, hstep, h⟩ := Option.bind_eq_some_iff.1 h
    exact ih (callAll_of_step? hcalls hstep) h

theorem le_of_builds {i j : Nat} {h : Demand τ} (hh : hs[i]? = some h) (hbuilds : h.builds?.isSome)
    (hnone : builtBy (hs.take j) = none) : j ≤ i := by
  by_contra hlt
  have hmem : h ∈ hs.take j :=
    List.mem_of_getElem? (by rw [List.getElem?_take_of_lt (Nat.lt_of_not_le hlt), hh])
  rw [List.findSome?_eq_none_iff.1 hnone h hmem] at hbuilds
  cases hbuilds

/-- Whatever a worker is handed, and in whatever order its deliveries end: once they have,
    every request has the one response that is due to it, by the transport that was built
    first, which was given every batch that came after. -/
theorem isServed_of_run? {x : π} {steps : List (Step τ)}
    (h : Shift.run? deliver { world := x } steps = some s) :
    IsServed deliver x (steps.filterMap Step.demand?) s := by
  have hworking := isWorking_of_run? (isWorking_nil x) h
  have hresults := callAll_of_run? (x := x) rfl h
  rw [List.nil_append] at hworking
  generalize steps.filterMap Step.demand? = hs at hworking
  constructor
  case transport => exact ⟨hworking.transport, fun c hc => (hworking.calls c hc).1⟩
  case kept =>
    intro steps' s' t hrun ht
    rw [(isWorking_of_run? hworking hrun).transport]
    exact builtBy_append_of_eq_some (hworking.transport.symm.trans ht) _
  case built =>
    intro i j d d' hd hd' hi hj hbuilds hbuilds'
    exact Nat.le_antisymm (le_of_builds hd' hbuilds' hi) (le_of_builds hd hbuilds hj)
  case asked =>
    intro build build' r hr
    rw [Service.handle, Service.handle, Worker.handle_congr hr]
  case goesOn => exact fun d hd => exists_step? hworking deliver hd
  case answered =>
    intro hrunning
    refine ⟨_, perm_posted hworking hrunning, ?_, fun i d r hd hr => ?_⟩
    · rw [List.length_map, dues, length_duesFrom]
    · rw [List.getElem?_map, dues, getElem?_duesFrom, hd] at hr
      cases hr
      have hanswers := answers_reply hworking hrunning hd
      exact ⟨id_of_answers hanswers, hanswers⟩
  case results => exact hresults
  case given => exact fun hrunning => perm_calls hworking hrunning

/-- A worker turns a batch down, is configured at the second attempt, and then takes two
    batches, which end in the other order, an empty one, and a request for another
    transport. -/
theorem isServed_outOfOrder :
    let id (n : Nat) : Id := Id.ofNat n
    let batch : List WireEvent := [⟨.visitor, id 9, none⟩]
    let d : Destination := { apiKey := "key", host := "http://localhost" }
    let deliver : String → Publisher Nat := fun _ _ x => (.ok x, x + 1)
    let steps : List (Step String) :=
      [.handle ⟨fun _ => .ok "first", .publish (id 1) batch⟩,
        .handle ⟨fun _ => .error .invalidHost, .configure (id 2) d⟩,
        .handle ⟨fun _ => .ok "second", .configure (id 3) d⟩,
        .handle ⟨fun _ => .ok "third", .publish (id 4) batch⟩,
        .handle ⟨fun _ => .ok "third", .publish (id 5) []⟩,
        .handle ⟨fun _ => .ok "third", .publish (id 6) batch⟩, .ask 1,
        .handle ⟨fun _ => .ok "third", .configure (id 7) d⟩, .finish 1 0, .ask 0, .finish 0 5]
    ∃ s, Shift.run? deliver { world := 0 } steps = some s ∧ s.service.worker.running = [] ∧
      s.posted = [.failed (id 1) Worker.notConfigured, .configured (id 2) .invalidHost,
        .configured (id 3) .accepted, .failed (id 5) Worker.emptyBatch,
        .configured (id 7) .invalid, .published (id 6) ⟨0⟩, .published (id 4) ⟨1⟩] ∧
      s.calls.map (·.transport) = ["second", "second"] ∧
      IsServed deliver 0 (steps.filterMap Step.demand?) s := by
  intro id batch d deliver steps
  obtain ⟨s, hrun, hrunning, hposted, hcalls⟩ : ∃ s,
      Shift.run? deliver { world := 0 } steps = some s ∧ s.service.worker.running = [] ∧
      s.posted = [.failed (id 1) Worker.notConfigured, .configured (id 2) .invalidHost,
        .configured (id 3) .accepted, .failed (id 5) Worker.emptyBatch,
        .configured (id 7) .invalid, .published (id 6) ⟨0⟩, .published (id 4) ⟨1⟩] ∧
      s.calls.map (·.transport) = ["second", "second"] := ⟨_, rfl, rfl, rfl, rfl⟩
  exact ⟨s, hrun, hrunning, hposted, hcalls, isServed_of_run? hrun⟩

end Shift

end Clickstream
