import Clickstream.Proofs.Gateway.Closing

/-!
# The books of a gateway

A gateway shows how many requests wait for an answer, on a gauge and when it is asked; it
reports what goes wrong in the background; and it knows what the worker said last of its
configuration. All of this can be told from the history alone, without a look at the table:
the requests that wait are those that entered and that nothing has settled since
(`unsettled`), and what has to be reported of a response or of the end depends on them
(`reportsFrom`).

* `Gateway.notes_of_step?`: what a step notes, by what happens in it;
* `Gateway.table_eq_unsettled`: the table holds the calls that nothing has settled;
* `Gateway.isBalanced_of_course`: so gauge, reports and verdict are right after every step.
-/

namespace Clickstream

/-! ## What a history says -/

/-- Whether something that happens puts entries into the table or takes some out, or may do so:
    then the gauge is set. -/
def Happening.setsGauge : Happening → Bool
  | .called _ _ | .withdrew _ | .closed => true
  | .routed r => r.result?.isSome
  | .turnedAway _ _ | .posted _ | .abandoned _ => false

/-- What the worker says of its configuration. -/
def Happening.verdict? : Happening → Option Verdict
  | .routed r => r.verdict?
  | .called _ _ | .turnedAway _ _ | .posted _ | .abandoned _ | .withdrew _ | .closed => none

/-- The calls that have entered the table and that nothing has settled since: no response, no
    withdrawal and not the end of the gateway. -/
def unsettled : List Happening → List (Id × Nat)
  | [] => []
  | .called n id :: since =>
    if (fate? n id since).isNone then (id, n) :: unsettled since else unsettled since
  | _ :: since => unsettled since

/-- What has to be reported of something that happens while these calls are not settled: that the
    worker is not configured, that a response answers none of the calls, or that the end has come
    for some of them. -/
def Happening.report? (waiting : List (Id × Nat)) : Happening → Option Report
  | .routed (.configured _ v) => if v.isAccepted then none else some .configurationFailed
  | .routed r => if (waiting.lookup r.id).isNone then some .unmatchedResponse else none
  | .closed => if waiting.isEmpty then none else some .stoppedInFlight
  | .called _ _ | .turnedAway _ _ | .posted _ | .abandoned _ | .withdrew _ => none

/-- What has to be reported of a history that goes on from another, each report once. -/
def reportsFrom (before : List Happening) : List Happening → List Report
  | [] => []
  | e :: es => (e.report? (unsettled before)).toList ++ reportsFrom (before ++ [e]) es

theorem reportsFrom_append (before es es' : List Happening) :
    reportsFrom before (es ++ es') = reportsFrom before es ++ reportsFrom (before ++ es) es' := by
  induction es generalizing before with
  | nil => rw [List.append_nil]; rfl
  | cons e es ih =>
    rw [List.cons_append, reportsFrom, ih, reportsFrom, List.append_assoc, List.append_assoc]
    rfl

theorem fate?_concat (n : Nat) (id : Id) (since : List Happening) (e : Happening) :
    fate? n id (since ++ [e]) = (fate? n id since).or (e.settles? n id) := by
  rw [fate?, List.findSome?_append, List.findSome?_singleton, fate?]

/-- What happens next settles some of the calls that were left, and a call may begin. -/
theorem unsettled_concat (H : List Happening) (e : Happening) :
    unsettled (H ++ [e]) =
      (unsettled H).filter (fun c => (e.settles? c.2 c.1).isNone) ++ unsettled [e] := by
  induction H with
  | nil => rfl
  | cons d H ih =>
    cases d with
    | called n id =>
      rw [List.cons_append, unsettled, unsettled, ih, fate?_concat]
      cases fate? n id H with
      | some o => rfl
      | none => cases hs : e.settles? n id <;> simp [hs]
    | turnedAway | posted | abandoned | withdrew | routed | closed => exact ih

/-! ## What a step notes -/

namespace Gateway

variable {H es : List Happening} {g g' : Gateway}

/-- What a step adds to the measurements and reports, and what it makes of the verdict, by what
    happens in it. -/
structure Notes (g g' : Gateway) (es : List Happening) : Prop where
  log : g'.log = g.log ++ (es.filter (·.setsGauge)).map fun _ => .inFlight g'.inFlight
  reports : g'.reports = g.reports ++ es.filterMap (·.report? g.table)
  verdict : g'.verdict = (es.filterMap (·.verdict?)).getLast?.or g.verdict

/-- A step that touches neither of the three, and in which nothing happens that would. -/
theorem Notes.idle (h : g'.log = g.log ∧ g'.reports = g.reports ∧ g'.verdict = g.verdict)
    (hes : ∀ e ∈ es, e.setsGauge = false ∧ e.report? g.table = none ∧ e.verdict? = none) :
    Notes g g' es := by
  obtain ⟨hlog, hreports, hverdict⟩ := h
  have hgauge : es.filter (·.setsGauge) = [] :=
    List.filter_eq_nil_iff.2 fun e he => by simp [(hes e he).1]
  have hreport : es.filterMap (·.report? g.table) = [] :=
    List.filterMap_eq_nil_iff.2 fun e he => (hes e he).2.1
  have hsaid : es.filterMap (·.verdict?) = [] :=
    List.filterMap_eq_nil_iff.2 fun e he => (hes e he).2.2
  exact ⟨by rw [hlog, hgauge, List.map_nil, List.append_nil],
    by rw [hreports, hreport, List.append_nil], by rw [hverdict, hsaid]; rfl⟩

/-- A response that answers a call, or none. -/
theorem notes_resolve {r : Response} {x : DeliveryResult} (hx : r.result? = some x) :
    Notes g (g.resolve r.id x) [.routed r] := by
  have hreport : Happening.report? g.table (.routed r) =
      if (g.table.lookup r.id).isNone then some .unmatchedResponse else none := by
    cases r with
    | configured => cases hx
    | published | failed => rfl
  have hverdict : r.verdict? = none := by
    cases r with
    | configured => cases hx
    | published | failed => rfl
  simp only [resolve]
  cases hfound : g.table.lookup r.id <;>
    exact ⟨by simp [Happening.setsGauge, hx, withTable, complete, withReport, inFlight],
      by simp [hreport, hfound, withTable, complete, withReport],
      by simp [Happening.verdict?, hverdict, withTable, complete, withReport]⟩

theorem notes_deliver (r : Response) (g : Gateway) : Notes g (g.deliver r) [.routed r] := by
  cases r with
  | configured id v =>
    simp only [deliver]
    cases hv : v.isAccepted <;>
      exact ⟨by simp [Happening.setsGauge, Response.result?, withReport],
        by simp [Happening.report?, hv, withReport],
        by simp [Happening.verdict?, Response.verdict?]⟩
  | published id a => exact notes_resolve (r := .published id a) rfl
  | failed id e => exact notes_resolve (r := .failed id e) rfl

theorem notes_foldl_complete (x : DeliveryResult) (ms : List Nat) (g : Gateway) :
    (ms.foldl (complete x) g).log = g.log ∧ (ms.foldl (complete x) g).reports = g.reports ∧
      (ms.foldl (complete x) g).verdict = g.verdict := by
  induction ms generalizing g with
  | nil => exact ⟨rfl, rfl, rfl⟩
  | cons m ms ih => exact ih (g.complete x m)

theorem notes_of_close? (h : g.close? = some g') : Notes g g' [.closed] := by
  have htable : g'.table = [] := by
    cases effect_of_close? h with
    | close _ table => exact table
  rw [close?] at h
  split at h
  · cases h
    constructor
    · rw [(notes_foldl_complete _ _ _).1, inFlight, htable]
      split <;> rfl
    · rw [(notes_foldl_complete _ _ _).2.1]
      cases g.table <;> simp [Happening.report?, withReport, withTable]
    · rw [(notes_foldl_complete _ _ _).2.2]
      split <;> rfl
  · cases h

/-- What a step notes. -/
theorem notes_of_step? {s : Step} (h : g.step? s = some g') : Notes g g' (g.happens s) := by
  cases s with
  | enter id batch =>
    simp only [step?, enter, happens] at h ⊢
    cases hclosed : g.isClosed <;> simp only [hclosed] at h ⊢ <;> split at h <;> cases h
    · exact ⟨rfl, by simp [Happening.report?, withTable, withNewCall], rfl⟩
    · exact .idle ⟨rfl, rfl, rfl⟩ (List.forall_mem_singleton.2 ⟨rfl, rfl, rfl⟩)
  | post n =>
    obtain ⟨c, -, -, h⟩ := exists_of_guard h
    have hsilent : ∀ e ∈ g.happens (.post n),
        e.setsGauge = false ∧ e.report? g.table = none ∧ e.verdict? = none := by
      intro e he
      obtain ⟨_, -, rfl⟩ := Option.map_eq_some_iff.1 (Option.mem_toList.1 he)
      exact ⟨rfl, rfl, rfl⟩
    split at h <;> cases h <;> exact .idle ⟨rfl, rfl, rfl⟩ hsilent
  | withdraw n =>
    obtain ⟨c, -, -, h⟩ := exists_of_guard h
    cases h
    exact ⟨rfl, by simp [happens, Happening.report?, withTable, withStage], rfl⟩
  | abandon n =>
    obtain ⟨c, -, -, h⟩ := exists_of_guard h
    cases h
    exact .idle ⟨rfl, rfl, rfl⟩ (List.forall_mem_singleton.2 ⟨rfl, rfl, rfl⟩)
  | route =>
    obtain ⟨⟨r, link⟩, hcollect, h⟩ := Option.bind_eq_some_iff.1 h
    cases h
    have hhappens : g.happens .route = [.routed r] := by simp [happens, hcollect]
    -- Only the link has lost the response before it is delivered.
    obtain ⟨log, reports, verdict⟩ := notes_deliver r { g with link }
    rw [hhappens]
    exact ⟨log, reports, verdict⟩
  | close => exact notes_of_close? h
  | take =>
    obtain ⟨⟨r, g₁⟩, htake, rfl⟩ := Option.map_eq_some_iff.1 h
    obtain ⟨⟨r', link⟩, -, hg₁⟩ := Option.bind_eq_some_iff.1 htake
    cases hg₁
    exact .idle ⟨rfl, rfl, rfl⟩ (List.forall_mem_nil _)
  | answer r =>
    obtain ⟨link, -, hg'⟩ := Option.bind_eq_some_iff.1 h
    cases hg'
    exact .idle ⟨rfl, rfl, rfl⟩ (List.forall_mem_nil _)
  | dropRequests | closeResponses =>
    cases h
    exact .idle ⟨rfl, rfl, rfl⟩ (List.forall_mem_nil _)
  | leave =>
    simp only [step?] at h
    split at h <;> cases h
    exact .idle ⟨rfl, rfl, rfl⟩ (List.forall_mem_nil _)

/-! ## The table -/

/-- Entries of one call have its number, and no others have. -/
theorem IsTracked.id_eq_iff (h : IsTracked H g) (hids : (g.calls.map (·.id)).Nodup) {n m : Nat}
    {c : PublishCall} (hc : g.calls[n]? = some c) {id : Id} (hmem : (id, m) ∈ g.table) :
    id = c.id ↔ m = n := by
  obtain ⟨d, hd, rfl⟩ := h.known id m (.inl hmem)
  refine ⟨fun hid => eq_of_id_eq hids hd hc hid, ?_⟩
  rintro rfl
  rw [hc] at hd
  cases hd
  rfl

theorem unsettled_of_effect (h : IsTracked H g) (hids : (g.calls.map (·.id)).Nodup)
    (htable : g.table = unsettled H) (heffect : Effect g g' es) :
    g'.table = unsettled (H ++ es) := by
  -- What settles none of the calls and lets none begin leaves the table as it is.
  have hkeep (e : Happening) (he : ∀ n id, e.settles? n id = none) :
      unsettled (H ++ [e]) = g.table ++ unsettled [e] := by
    rw [unsettled_concat, ← htable, List.filter_eq_self.2 fun c _ => by rw [he]; rfl]
  -- A response takes out what has its id.
  have hanswer (r : Response) (hr : r.result?.isSome) :
      unsettled (H ++ [.routed r]) = g.table.filter (·.1 ≠ r.id) := by
    obtain ⟨x, hx⟩ := Option.isSome_iff_exists.1 hr
    rw [unsettled_concat, ← htable]
    refine (List.append_nil _).trans (List.filter_congr fun c _ => ?_)
    by_cases hid : r.id = c.1 <;> simp [Happening.settles?, hx, hid, Ne.symm]
  cases heffect with
  | idle _ table | refuse _ _ _ _ _ table => rw [table, List.append_nil, htable]
  | post _ _ _ _ _ table | abandon _ _ _ _ _ table =>
    rw [table, hkeep _ fun _ _ => rfl]
    exact (List.append_nil _).symm
  | call c _ _ table => rw [table, hkeep _ fun _ _ => rfl]; rfl
  | turnAway c _ _ table => rw [table, hkeep _ fun _ _ => rfl]; exact (List.append_nil _).symm
  | withdraw n c found _ _ table =>
    rw [table, unsettled_concat, ← htable]
    refine ((List.append_nil _).trans (List.filter_congr fun d hd => ?_)).symm
    have hid : d.1 = c.id ↔ d.2 = n := h.id_eq_iff hids found hd
    by_cases hn : d.2 = n <;> simp [Happening.settles?, hid, hn, Ne.symm]
  | hear r result _ table =>
    rw [table, hkeep (.routed r) fun n id => by simp [Happening.settles?, result]]
    exact (List.append_nil _).symm
  | answer r _ x result _ _ table => rw [table, hanswer r (by rw [result]; rfl)]
  | miss r x result found _ table =>
    rw [table, hanswer r (by rw [result]; rfl), filter_of_lookup_eq_none found]
  | close _ table =>
    rw [table, unsettled_concat, List.filter_eq_nil_iff.2 fun _ _ => by simp [Happening.settles?]]
    rfl

/-- The table holds the calls that nothing has settled. -/
theorem table_eq_unsettled {id : Id} {d : Destination} {link : Link}
    (h : Course (start id d link) H g) (hids : (g.calls.map (·.id)).Nodup) :
    g.table = unsettled H := by
  induction h with
  | refl => rfl
  | step hcourse hstep ih =>
    have heffect := effect_of_step? hstep
    have hids := hids.sublist (ids_prefix_of_effect heffect).sublist
    exact unsettled_of_effect (isTracked_of_course hcourse hids) hids (ih hids) heffect

/-! ## The books -/

/-- Whether the books of a gateway are right after a history. -/
structure IsBalanced (H : List Happening) (g : Gateway) : Prop where
  /-- The requests that wait are those of the calls that nothing has settled. -/
  inFlight : g.inFlight = (unsettled H).length
  /-- From the first time that it is set, the gauge shows their number. -/
  gauge : H.any (·.setsGauge) → g.inFlight < Nat.pow 2 53 →
    g.log.gauge? .inFlight = some g.inFlight
  /-- Before, no request waits. -/
  unset : ¬ H.any (·.setsGauge) → g.log.gauge? .inFlight = none ∧ g.inFlight = 0
  /-- Everything that has to be reported was reported once, in the order in which it happened. -/
  reports : g.reports = reportsFrom [] H
  /-- The verdict is the last one that the worker gave, under whatever id. -/
  verdict : g.verdict = (H.filterMap (·.verdict?)).getLast?

theorem gauge?_concat (log : Log) (n : Nat) :
    Log.gauge? (log ++ [.inFlight n]) .inFlight = some (Binary64.nearest n) := by
  simp [Log.gauge?, Log.samples, Measurement.samples]

/-- In a step one thing happens, or nothing. -/
theorem Effect.eq_nil_or_singleton (h : Effect g g' es) : es = [] ∨ ∃ e, es = [e] := by
  cases h with
  | idle | refuse => exact .inl rfl
  | post | abandon | call | turnAway | withdraw | hear | answer | miss | close =>
    exact .inr ⟨_, rfl⟩

/-- Where the gauge is not set, the table has not changed. -/
theorem Effect.table_eq (h : Effect g g' es) (hes : es.any (·.setsGauge) = false) :
    g'.table = g.table := by
  cases h with
  | idle _ table | post _ _ _ _ _ table | refuse _ _ _ _ _ table | abandon _ _ _ _ _ table
  | turnAway _ _ _ table | hear _ _ _ table | miss _ _ _ _ _ table => exact table
  | answer _ _ _ result => simp [Happening.setsGauge, result] at hes
  | call | withdraw | close => simp [Happening.setsGauge] at hes

/-- The last measurement is the number of entries in the table; and as long as there is none,
    there are no entries. -/
theorem log_of_course {id : Id} {d : Destination} {link : Link}
    (h : Course (start id d link) H g) :
    if H.any (·.setsGauge) then ∃ log, g.log = log ++ [.inFlight g.inFlight]
    else g.log = [] ∧ g.table = [] := by
  induction h with
  | refl => exact ⟨rfl, rfl⟩
  | @step H g g' s hcourse hstep ih =>
    have heffect := effect_of_step? hstep
    have hnotes := notes_of_step? hstep
    rw [List.any_append]
    rcases heffect.eq_nil_or_singleton with hes | ⟨e, hes⟩ <;> rw [hes] at heffect hnotes ⊢
    · have hlog : g'.log = g.log := hnotes.log.trans (List.append_nil _)
      rw [List.any_nil, Bool.or_false, hlog, inFlight, heffect.table_eq rfl]
      exact ih
    · rw [List.any_cons, List.any_nil, Bool.or_false]
      cases he : e.setsGauge with
      | true =>
        rw [Bool.or_true, if_pos rfl]
        exact ⟨g.log, by rw [hnotes.log]; simp [he]⟩
      | false =>
        have hlog : g'.log = g.log := by rw [hnotes.log]; simp [he]
        rw [Bool.or_false, hlog, inFlight, heffect.table_eq (by simp [he])]
        exact ih

/-- What was reported, and the verdict, after every step. -/
theorem notes_of_course {id : Id} {d : Destination} {link : Link}
    (h : Course (start id d link) H g) (hids : (g.calls.map (·.id)).Nodup) :
    g.reports = reportsFrom [] H ∧ g.verdict = (H.filterMap (·.verdict?)).getLast? := by
  induction h with
  | refl => exact ⟨rfl, rfl⟩
  | @step H g g' s hcourse hstep ih =>
    have heffect := effect_of_step? hstep
    have hids := hids.sublist (ids_prefix_of_effect heffect).sublist
    obtain ⟨hreports, hverdict⟩ := ih hids
    have hnotes := notes_of_step? hstep
    rw [reportsFrom_append, List.nil_append, List.filterMap_append, List.getLast?_append,
      ← hreports, ← hverdict]
    refine ⟨?_, hnotes.verdict⟩
    rw [hnotes.reports, table_eq_unsettled hcourse hids]
    rcases heffect.eq_nil_or_singleton with hes | ⟨e, hes⟩ <;> rw [hes]
    · rfl
    · cases he : e.report? (unsettled H) <;> simp [reportsFrom, he]

/-- After every step of a gateway whose calls have distinct ids its books are right, whatever
    the worker sends and however the steps interleave. -/
theorem isBalanced_of_course {id : Id} {d : Destination} {link : Link}
    (h : Course (start id d link) H g) (hids : (g.calls.map (·.id)).Nodup) : IsBalanced H g := by
  have hlog := log_of_course h
  obtain ⟨hreports, hverdict⟩ := notes_of_course h hids
  refine ⟨by rw [inFlight, table_eq_unsettled h hids], fun hset hlt => ?_, fun hunset => ?_,
    hreports, hverdict⟩
  · rw [if_pos hset] at hlog
    obtain ⟨log, hlog⟩ := hlog
    rw [hlog, gauge?_concat, Binary64.nearest_of_lt hlt]
  · rw [if_neg hunset] at hlog
    rw [hlog.1, inFlight, hlog.2]
    exact ⟨rfl, rfl⟩

/-- Three calls: the first is answered, twice; the second cannot be posted any more and
    withdraws; the third still waits when the router closes the gateway, and a fourth is turned
    away. Meanwhile the worker says twice how it is configured, the second time badly. -/
theorem isBalanced_of_course_closed :
    ∃ H g, Course (start (Id.ofNat 0) { apiKey := "key", host := "http://localhost" } {}) H g ∧
      H.any (·.setsGauge) ∧ g.log = [.inFlight 1, .inFlight 2, .inFlight 3, .inFlight 2,
        .inFlight 2, .inFlight 1, .inFlight 0] ∧
      g.reports = [.unmatchedResponse, .configurationFailed, .stoppedInFlight] ∧
      g.verdict = some .invalidKey ∧ g.calls.length = 4 ∧ IsBalanced H g := by
  obtain ⟨g, hrun, hids, hlog, hreports, hverdict, hcalls⟩ : ∃ g : Gateway,
      (start (Id.ofNat 0) { apiKey := "key", host := "http://localhost" } {}).run?
        [.enter (Id.ofNat 1) [], .post 0, .enter (Id.ofNat 2) [], .post 1, .enter (Id.ofNat 3) [],
          .answer (.configured (Id.ofNat 0) .accepted), .answer (.published (Id.ofNat 1) ⟨0⟩),
          .answer (.published (Id.ofNat 1) ⟨0⟩), .answer (.configured (Id.ofNat 9) .invalidKey),
          .route, .route, .route, .route, .dropRequests, .post 2, .withdraw 2, .closeResponses,
          .close, .enter (Id.ofNat 4) []] = some g ∧ (g.calls.map (·.id)).Nodup ∧
      g.log = [.inFlight 1, .inFlight 2, .inFlight 3, .inFlight 2, .inFlight 2, .inFlight 1,
        .inFlight 0] ∧
      g.reports = [.unmatchedResponse, .configurationFailed, .stoppedInFlight] ∧
      g.verdict = some .invalidKey ∧ g.calls.length = 4 :=
    ⟨_, rfl, by decide, rfl, rfl, rfl, rfl⟩
  obtain ⟨H, hcourse⟩ := course_of_run? .refl hrun
  rw [List.nil_append] at hcourse
  have hset : H.any (·.setsGauge) := by
    by_contra hunset
    have hempty := log_of_course hcourse
    rw [if_neg hunset, hlog] at hempty
    cases hempty.1
  exact ⟨H, g, hcourse, hset, hlog, hreports, hverdict, hcalls, isBalanced_of_course hcourse hids⟩

end Gateway

end Clickstream
