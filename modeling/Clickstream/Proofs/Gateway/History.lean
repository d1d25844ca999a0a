import Mathlib.Data.Option.Basic
import Clickstream.Gateway

/-!
# The history of a gateway

What a gateway owes its callers depends on what has happened to it: which calls
entered the table, posted their requests, were abandoned by their callers or left the
table again, which responses the router took, and whether it closed. A `Happening` is
one of these, and a `Course` is a run together with what happened in it.

* `Gateway.effect_of_step?`: what a step can do to calls, table and reports, with
  what happens in it. No other proof has to look into what a step does to these.
* `Gateway.ids_prefix_of_course`, `Gateway.isClosed_of_step?`: calls keep their places and
  their ids, and a gateway that is closed stays closed.
-/

namespace Clickstream

/-- Something that happens to the calls of a gateway. -/
inductive Happening
  /-- A call entered the table. -/
  | called (n : Nat) (id : Id)
  /-- A call found the gateway closed. -/
  | turnedAway (n : Nat) (id : Id)
  /-- The link took the request of a call. -/
  | posted (n : Nat)
  /-- The caller of a call went away. -/
  | abandoned (n : Nat)
  /-- A call left the table, as its request could not be posted. -/
  | withdrew (n : Nat)
  /-- The router took a response. -/
  | routed (r : Response)
  /-- The router closed the gateway. -/
  | closed
  deriving DecidableEq

/-- What a response says of the worker's configuration. -/
def Response.verdict? : Response → Option Verdict
  | .configured _ v => some v
  | .published _ _ | .failed _ _ => none

theorem getElem?_modify_eq_some {α : Type} {l : List α} {m n : Nat} {f : α → α} {b : α}
    (h : (l.modify m f)[n]? = some b) : ∃ a, l[n]? = some a ∧ b = if m = n then f a else a := by
  rw [List.getElem?_modify] at h
  obtain ⟨a, ha, rfl⟩ := Option.map_eq_some_iff.1 h
  exact ⟨a, ha, by split <;> rfl⟩

theorem getElem?_modify_self {α : Type} {l : List α} {n : Nat} {a : α} (h : l[n]? = some a)
    (f : α → α) : (l.modify n f)[n]? = some (f a) := by
  rw [List.getElem?_modify_eq, h]
  rfl

namespace Gateway

/-- What a call has returned, if it has. -/
def outcome? (g : Gateway) (n : Nat) : Option DeliveryResult :=
  (g.calls[n]?).bind PublishCall.result?

/-- What happens in a step. -/
def happens (g : Gateway) : Step → List Happening
  | .enter id _ =>
    if g.isClosed then [.turnedAway g.calls.length id] else [.called g.calls.length id]
  | .post n =>
    (((g.calls[n]?).bind fun c => g.link.post? (.publish c.id c.batch)).map fun _ =>
      Happening.posted n).toList
  | .withdraw n => [.withdrew n]
  | .abandon n => [.abandoned n]
  | .route => (g.link.collect?.map fun c => Happening.routed c.1).toList
  | .close => [.closed]
  | _ => []

/-- A run, with everything that happened in it. -/
inductive Course (start : Gateway) : List Happening → Gateway → Prop
  | refl : Course start [] start
  | step {H : List Happening} {g g' : Gateway} {s : Step} :
      Course start H g → g.step? s = some g' → Course start (H ++ g.happens s) g'

/-- Every run is a course. -/
theorem course_of_run? {start g g' : Gateway} {H : List Happening} (h : Course start H g)
    {steps : List Step} (hrun : g.run? steps = some g') : ∃ H', Course start (H ++ H') g' := by
  induction steps generalizing g H with
  | nil =>
    cases hrun
    exact ⟨[], by rwa [List.append_nil]⟩
  | cons s steps ih =>
    obtain ⟨g₁, hstep, hrun⟩ := Option.bind_eq_some_iff.1 hrun
    obtain ⟨H', hcourse⟩ := ih (h.step hstep) hrun
    exact ⟨_, by rwa [List.append_assoc] at hcourse⟩

variable {g₀ g g' : Gateway} {H H' es : List Happening}

theorem Course.trans (h : Course g₀ H g) (h' : Course g H' g') : Course g₀ (H ++ H') g' := by
  induction h' with
  | refl => rwa [List.append_nil]
  | step _ hstep ih =>
    rw [← List.append_assoc]
    exact ih.step hstep

/-! ## Steps -/

/-- What a step does to the calls, the table and the reports, by what happens in it. -/
inductive Effect (g g' : Gateway) : List Happening → Prop
  | idle (calls : g'.calls = g.calls) (table : g'.table = g.table)
      (reports : g'.reports = g.reports) : Effect g g' []
  | post (n : Nat) (c : PublishCall) (found : g.calls[n]? = some c) (entered : c.stage = .entered)
      (calls : g'.calls = g.calls.modify n fun c => { c with stage := .waiting })
      (table : g'.table = g.table) (reports : g'.reports = g.reports) : Effect g g' [.posted n]
  | refuse (n : Nat) (c : PublishCall) (found : g.calls[n]? = some c)
      (entered : c.stage = .entered ∧ g.link.post? (.publish c.id c.batch) = none)
      (calls : g'.calls = g.calls.modify n fun c => { c with stage := .refused })
      (table : g'.table = g.table) (reports : g'.reports = g.reports) : Effect g g' []
  | abandon (n : Nat) (c : PublishCall) (found : g.calls[n]? = some c)
      (waiting : c.stage = .waiting ∧ c.slot = none)
      (calls : g'.calls = g.calls.modify n fun c => { c with stage := .abandoned })
      (table : g'.table = g.table) (reports : g'.reports = g.reports) : Effect g g' [.abandoned n]
  | call (c : PublishCall) (new : c.slot = none ∧ c.stage = .entered)
      (calls : g'.calls = g.calls ++ [c]) (table : g'.table = g.table ++ [(c.id, g.calls.length)])
      (reports : g'.reports = g.reports) (isOpen : g.isClosed = false) :
      Effect g g' [.called g.calls.length c.id]
  | turnAway (c : PublishCall) (new : c.slot = none ∧ c.stage = .failed)
      (calls : g'.calls = g.calls ++ [c]) (table : g'.table = g.table)
      (reports : g'.reports = g.reports) (ended : g.isClosed) :
      Effect g g' [.turnedAway g.calls.length c.id]
  | withdraw (n : Nat) (c : PublishCall) (found : g.calls[n]? = some c)
      (refused : c.stage = .refused)
      (calls : g'.calls = g.calls.modify n fun c => { c with stage := .failed })
      (table : g'.table = g.table.filter (·.1 ≠ c.id))
      (reports : g'.reports = g.reports) : Effect g g' [.withdrew n]
  /-- The worker says something of its configuration. -/
  | hear (r : Response) (result : r.result? = none) (calls : g'.calls = g.calls)
      (table : g'.table = g.table) : Effect g g' [.routed r]
  /-- A response finds the entry with its id, and completes the call. -/
  | answer (r : Response) (n : Nat) (x : DeliveryResult) (result : r.result? = some x)
      (found : g.table.lookup r.id = some n)
      (calls : g'.calls = g.calls.modify n fun c => { c with slot := some x })
      (table : g'.table = g.table.filter (·.1 ≠ r.id))
      (reports : g'.reports = g.reports) : Effect g g' [.routed r]
  /-- A response finds no entry, and is reported. -/
  | miss (r : Response) (x : DeliveryResult) (result : r.result? = some x)
      (found : g.table.lookup r.id = none) (calls : g'.calls = g.calls)
      (table : g'.table = g.table)
      (reports : g'.reports = g.reports ++ [.unmatchedResponse]) : Effect g g' [.routed r]
  | close (calls : ∀ n, g'.calls[n]? = if n ∈ g.table.map (·.2)
        then (g.calls[n]?).map fun c => { c with slot := some (.error unavailable) }
        else g.calls[n]?)
      (table : g'.table = []) : Effect g g' [.closed]

theorem filter_of_lookup_eq_none {table : List (Id × Nat)} {id : Id} (h : table.lookup id = none) :
    table.filter (·.1 ≠ id) = table := by
  refine List.filter_eq_self.2 fun e he => ?_
  have hne : id ≠ e.1 := by simpa using List.lookup_eq_none_iff.1 h e he
  simpa using hne.symm

theorem effect_resolve {r : Response} {x : DeliveryResult} (hx : r.result? = some x) :
    Effect g (g.resolve r.id x) [.routed r] := by
  cases hfound : g.table.lookup r.id with
  | some n =>
    refine .answer r n x hx hfound ?_ ?_ ?_ <;> simp only [resolve, hfound] <;> rfl
  | none =>
    refine .miss r x hx hfound ?_ ?_ ?_ <;> simp only [resolve, hfound]
    · rfl
    · exact filter_of_lookup_eq_none hfound
    · rfl

theorem effect_deliver (r : Response) : Effect g (g.deliver r) [.routed r] := by
  cases r with
  | configured id verdict =>
    refine .hear _ rfl ?_ ?_ <;> simp only [deliver] <;> cases verdict.isAccepted <;> rfl
  | published id a => exact effect_resolve (r := .published id a) rfl
  | failed id e => exact effect_resolve (r := .failed id e) rfl

theorem verdict_deliver (r : Response) (g : Gateway) :
    (g.deliver r).verdict = r.verdict?.or g.verdict := by
  have hresolve (id : Id) (x : DeliveryResult) : (g.resolve id x).verdict = g.verdict := by
    simp only [resolve]
    cases g.table.lookup id <;> rfl
  cases r with
  | configured => rfl
  | published | failed => exact hresolve _ _

/-- A response that is delivered changes neither the link nor that the gateway is open. -/
theorem deliver_frame (r : Response) (g : Gateway) :
    (g.deliver r).link = g.link ∧ (g.deliver r).isClosed = g.isClosed := by
  have hresolve (id : Id) (x : DeliveryResult) :
      (g.resolve id x).link = g.link ∧ (g.resolve id x).isClosed = g.isClosed := by
    simp only [resolve]
    cases g.table.lookup id <;> exact ⟨rfl, rfl⟩
  cases r with
  | configured id verdict =>
    simp only [deliver]
    cases verdict.isAccepted <;> exact ⟨rfl, rfl⟩
  | published id a => exact hresolve id _
  | failed id e => exact hresolve id _

theorem effect_of_route? (h : g.route? = some g') : Effect g g' (g.happens .route) := by
  rw [route?] at h
  cases hcollect : g.link.collect? with
  | none => simp [hcollect] at h
  | some c =>
    obtain ⟨r, link⟩ := c
    have hg' : g' = Gateway.deliver r { g with link } := by simpa [hcollect] using h.symm
    have heffect := effect_deliver (g := { g with link }) r
    have hhappens : g.happens .route = [.routed r] := by simp [happens, hcollect]
    rw [hhappens, hg']
    -- Only the link has lost the response before it is delivered.
    cases heffect with
    | hear _ result calls table => exact .hear r result calls table
    | answer _ n x result found calls table reports =>
      exact .answer r n x result found calls table reports
    | miss _ x result found calls table reports =>
      exact .miss r x result found calls table reports

theorem getElem?_foldl_complete (x : DeliveryResult) (ms : List Nat) (g : Gateway) (n : Nat) :
    (ms.foldl (complete x) g).calls[n]? =
      if n ∈ ms then (g.calls[n]?).map fun c => { c with slot := some x } else g.calls[n]? := by
  induction ms generalizing g with
  | nil => rfl
  | cons m ms ih =>
    rw [List.foldl_cons, ih, complete, List.getElem?_modify]
    by_cases hm : m = n
    · by_cases hn : n ∈ ms <;> simp [hm, hn, Function.comp_def]
    · by_cases hn : n ∈ ms <;> simp [hm, hn, Ne.symm hm]

theorem table_foldl_complete (x : DeliveryResult) (ms : List Nat) (g : Gateway) :
    (ms.foldl (complete x) g).table = g.table := by
  induction ms generalizing g with
  | nil => rfl
  | cons m ms ih => exact ih (g.complete x m)

/-- What the router does when it closes. If nothing is in the table it touches no call and
    has nothing to report. -/
theorem exists_of_close? (h : g.close? = some g') : (g.isRouting ∧ g.link.responses.isFinished) ∧
    ∃ calls reports log, (g.table = [] → calls = g.calls ∧ reports = g.reports) ∧
      g' = { g with
        isClosed := true, link := g.link.dropResponses, table := [], calls, reports, log } := by
  have hcomplete (ms : List Nat) (g : Gateway) : ∃ calls, (ms = [] → calls = g.calls) ∧
      ms.foldl (complete (.error unavailable)) g = { g with calls } := by
    induction ms generalizing g with
    | nil => exact ⟨_, fun _ => rfl, rfl⟩
    | cons m ms ih =>
      obtain ⟨calls, -, hcalls⟩ := ih (g.complete (.error unavailable) m)
      exact ⟨calls, (nomatch ·), hcalls⟩
  rw [close?] at h
  split at h
  · rename_i hfinished
    cases h
    let closed : Gateway := withTable [] { g with isClosed := true, link := g.link.dropResponses }
    refine ⟨hfinished, ?_⟩
    split
    · obtain ⟨calls, hcalls, heq⟩ := hcomplete (g.table.map (·.2)) closed
      exact ⟨calls, _, _, fun htable => ⟨hcalls (by rw [htable]; rfl), rfl⟩, heq⟩
    · rename_i hnonempty
      obtain ⟨calls, -, heq⟩ := hcomplete (g.table.map (·.2)) (closed.withReport .stoppedInFlight)
      refine ⟨calls, _, _, fun htable => absurd ?_ hnonempty, heq⟩
      rw [htable]
      rfl
  · cases h

theorem effect_of_close? (h : g.close? = some g') : Effect g g' [.closed] := by
  rw [close?] at h
  split at h
  · cases h
    refine .close (fun n => ?_) ?_
    · rw [getElem?_foldl_complete]
      cases (g.table.map (·.2)).isEmpty <;> rfl
    · rw [table_foldl_complete]
      split <;> rfl
  · cases h

/-- A step of one call is only taken by a call that is in the right stage. -/
theorem exists_of_guard {α : Type} {o : Option PublishCall} {p : PublishCall → Prop}
    [DecidablePred p] {f : PublishCall → Option α} {a : α}
    (h : (do let c ← o; guard (p c); f c) = some a) : ∃ c, o = some c ∧ p c ∧ f c = some a := by
  obtain ⟨c, hc, h⟩ := Option.bind_eq_some_iff.1 h
  obtain ⟨u, hp, h⟩ := Option.bind_eq_some_iff.1 h
  exact ⟨c, hc, (Option.guard_eq_some' u).1 hp, h⟩

theorem effect_of_post? {n : Nat} (h : g.post? n = some g') :
    Effect g g' (g.happens (.post n)) := by
  obtain ⟨c, hc, hstage, h⟩ := exists_of_guard h
  split at h <;> rename_i hpost <;> cases h <;>
    simp only [happens, hc, Option.bind_some, hpost, Option.map_some, Option.map_none]
  · exact .post n c hc hstage rfl rfl rfl
  · exact .refuse n c hc ⟨hstage, hpost⟩ rfl rfl rfl

theorem effect_of_withdraw? {n : Nat} (h : g.withdraw? n = some g') :
    Effect g g' [.withdrew n] := by
  obtain ⟨c, hc, hstage, h⟩ := exists_of_guard h
  cases h
  exact .withdraw n c hc hstage rfl rfl rfl

theorem effect_of_abandon? {n : Nat} (h : g.abandon? n = some g') :
    Effect g g' [.abandoned n] := by
  obtain ⟨c, hc, hstage, h⟩ := exists_of_guard h
  cases h
  exact .abandon n c hc ⟨hstage.1, Option.isNone_iff_eq_none.1 hstage.2⟩ rfl rfl rfl

/-- A step has one of the effects, with what happens in it. -/
theorem effect_of_step? {s : Step} (h : g.step? s = some g') : Effect g g' (g.happens s) := by
  cases s with
  | enter id batch =>
    simp only [step?, enter, happens] at h ⊢
    cases hclosed : g.isClosed <;> simp only [hclosed] at h ⊢ <;> split at h <;> cases h
    · exact .call { id, batch, stage := .entered } ⟨rfl, rfl⟩ rfl rfl rfl hclosed
    · exact .turnAway { id, batch, stage := .failed } ⟨rfl, rfl⟩ rfl rfl rfl hclosed
  | post n => exact effect_of_post? h
  | withdraw n => exact effect_of_withdraw? h
  | abandon n => exact effect_of_abandon? h
  | route => exact effect_of_route? h
  | close => exact effect_of_close? h
  -- The other steps are those of the link.
  | take =>
    obtain ⟨⟨r, g₁⟩, htake, rfl⟩ := Option.map_eq_some_iff.1 h
    obtain ⟨⟨r', link⟩, -, hg₁⟩ := Option.bind_eq_some_iff.1 htake
    cases hg₁
    exact .idle rfl rfl rfl
  | answer r =>
    obtain ⟨link, -, hg'⟩ := Option.bind_eq_some_iff.1 h
    cases hg'
    exact .idle rfl rfl rfl
  | dropRequests | closeResponses =>
    cases h
    exact .idle rfl rfl rfl
  | leave =>
    simp only [step?] at h
    split at h <;> cases h
    exact .idle rfl rfl rfl

/-! ## What steps leave alone -/

/-- What a change leaves alone in every call stays in its place. -/
theorem map_modify {β : Type} (calls : List PublishCall) (n : Nat)
    {f : PublishCall → PublishCall} {proj : PublishCall → β} (hf : ∀ c, proj (f c) = proj c) :
    (calls.modify n f).map proj = calls.map proj := by
  refine List.ext_getElem? fun m => ?_
  rw [List.getElem?_map, List.getElem?_map, List.getElem?_modify]
  cases calls[m]? with
  | none => rfl
  | some c => by_cases hn : n = m <;> simp [hn, hf]

/-- Calls keep their places and their ids. -/
theorem ids_prefix_of_effect (heffect : Effect g g' es) :
    g.calls.map (·.id) <+: g'.calls.map (·.id) := by
  have hprefix (h : g'.calls.map (·.id) = g.calls.map (·.id)) :
      g.calls.map (·.id) <+: g'.calls.map (·.id) := ⟨[], by rw [h, List.append_nil]⟩
  cases heffect with
  | idle calls | hear _ _ calls | miss _ _ _ _ calls => exact hprefix (by rw [calls])
  | post _ _ _ _ calls | refuse _ _ _ _ calls | abandon _ _ _ _ calls | withdraw _ _ _ _ calls
  | answer _ _ _ _ _ calls =>
    refine hprefix ?_
    rw [calls, map_modify]
    exact fun _ => rfl
  | call _ _ calls | turnAway _ _ calls =>
    rw [calls, List.map_append]
    exact List.prefix_append _ _
  | close calls =>
    refine hprefix (List.ext_getElem? fun n => ?_)
    rw [List.getElem?_map, List.getElem?_map, calls]
    split <;> simp [Function.comp_def]

theorem ids_prefix_of_course (h : Course g H g') : g.calls.map (·.id) <+: g'.calls.map (·.id) := by
  induction h with
  | refl => exact List.prefix_rfl
  | step _ hstep ih => exact ih.trans (ids_prefix_of_effect (effect_of_step? hstep))

/-- A call keeps its place and its id. -/
theorem exists_call_of_effect (heffect : Effect g g' es) {n : Nat} {c : PublishCall}
    (hc : g.calls[n]? = some c) : ∃ c', g'.calls[n]? = some c' ∧ c'.id = c.id := by
  have hmap : (g.calls.map (·.id))[n]? = some c.id := by rw [List.getElem?_map, hc]; rfl
  have hid : (g'.calls.map (·.id))[n]? = some c.id := by
    obtain ⟨ids, hids⟩ := ids_prefix_of_effect heffect
    rw [← hids, List.getElem?_append_left (List.getElem?_eq_some_iff.1 hmap).1, hmap]
  rwa [List.getElem?_map, Option.map_eq_some_iff] at hid

/-- The router closes a gateway, and no step opens it again. -/
theorem isClosed_of_step? {s : Step} (h : g.step? s = some g') :
    g'.isClosed ↔ g.isClosed ∨ s = .close := by
  have hframe (heq : g'.isClosed = g.isClosed) (hs : s ≠ .close) :
      g'.isClosed ↔ g.isClosed ∨ s = .close := by rw [heq, or_iff_left hs]
  cases s with
  | enter id batch =>
    refine hframe ?_ nofun
    simp only [step?, enter] at h
    split at h
    · cases hclosed : g.isClosed <;> simp only [hclosed] at h <;> cases h <;> exact hclosed
    · cases h
  | post n =>
    obtain ⟨c, -, -, h⟩ := exists_of_guard h
    refine hframe ?_ nofun
    split at h <;> cases h <;> rfl
  | withdraw n | abandon n =>
    obtain ⟨c, -, -, h⟩ := exists_of_guard h
    cases h
    exact hframe rfl nofun
  | route =>
    obtain ⟨⟨r, link⟩, -, hg'⟩ := Option.bind_eq_some_iff.1 h
    cases hg'
    exact hframe (deliver_frame _ _).2 nofun
  | close =>
    obtain ⟨-, calls, reports, log, -, rfl⟩ := exists_of_close? h
    exact iff_of_true rfl (.inr rfl)
  | take =>
    obtain ⟨⟨r, g₁⟩, htake, rfl⟩ := Option.map_eq_some_iff.1 h
    obtain ⟨⟨r', link⟩, -, hg₁⟩ := Option.bind_eq_some_iff.1 htake
    cases hg₁
    exact hframe rfl nofun
  | answer r =>
    obtain ⟨link, -, hg'⟩ := Option.bind_eq_some_iff.1 h
    cases hg'
    exact hframe rfl nofun
  | dropRequests | closeResponses =>
    cases h
    exact hframe rfl nofun
  | leave =>
    simp only [step?] at h
    split at h <;> cases h
    exact hframe rfl nofun

end Gateway

end Clickstream
