import Mathlib.Data.List.Chain
import Clickstream.Proofs.Tracker.Plan
import Clickstream.Store.Plain
import Clickstream.Wire

/-!
# Cascades

An operation that creates an event creates every ancestor of it that is missing
first. Since the state that it sees is consistent, what is missing is a line of
kinds that ends just below the kind of the operation (`isChain_missing`), so each
new event hangs on the one before, and the first on what was there already.

* `Plan.IsLine`: what is true of a plan while it grows, from one event to the next
  (`isLine_extend`) and hence along a whole line of kinds (`isLine_foldl`);
* `checkLineage_of_isChain`: a batch of such events is a line of descent;
* `operate_cascade`: what each of the operations creates, commits and hands over.
-/

namespace Clickstream

/-! ## Events on a state -/

/-- The reference of a kind that a state holds, with its kind beside it. -/
def SiteState.held (s : SiteState) (k : Kind) : Option AnyReference :=
  (s.current k).map Reference.erase

/-- What an event of a kind hangs on in a state. -/
def SiteState.parentId? (s : SiteState) (k : Kind) : Option Id :=
  k.parent?.bind fun j => (s.current j).map (·.id)

/-- Whether an event hangs on another one, which is of the kind below. -/
def Event.IsChildOf (child parent : Event) : Prop :=
  child.parentId? = some parent.id ∧ child.kind.parent? = some parent.kind

/-- An event can be created as soon as there is something for it to hang on. -/
theorem Event.under?_isSome {s : SiteState} {k : Kind} (id : FreshId)
    (h : ∀ j, k.parent? = some j → (s.current j).isSome) : (Event.under? s id k).isSome := by
  cases k with
  | visitor => rfl
  | session => simpa [Event.under?, SiteState.current] using h .visitor rfl
  | area => simpa [Event.under?, SiteState.current] using h .session rfl
  | click => simpa [Event.under?, SiteState.current] using h .area rfl

theorem Event.of_under? {s : SiteState} {k : Kind} {id : FreshId} {e : Event}
    (h : Event.under? s id k = some e) :
    e.kind = k ∧ e.id = id.id ∧ e.parentId? = s.parentId? k := by
  cases k with
  | visitor =>
    cases h
    exact ⟨rfl, rfl, rfl⟩
  | session | area | click =>
    obtain ⟨r, hr, rfl⟩ := Option.map_eq_some_iff.1 h
    simp [Event.kind, Event.id, Event.parentId?, SiteState.parentId?, Kind.parent?,
      SiteState.current, Reference.ofFresh, hr]

/-- An event that others can hang on is what is held of its kind. -/
theorem SiteState.parentId?_adopt (s : SiteState) {e : Event} {k : Kind}
    (h : k.parent? = some e.kind) : (s.adopt e).parentId? k = some e.id := by
  cases k <;> cases e <;> first | rfl | cases h

/-! ## Lines -/

/-- In a consistent state, the missing kinds below a kind and the kind itself follow
    one another. -/
theorem SiteState.isChain_missing {s : SiteState} (hs : s.isConsistent) (k : Kind) :
    (s.missing k ++ [k]).IsChain fun j k => k.parent? = some j := by
  obtain rfl | ⟨v, rfl⟩ | ⟨v, r, rfl⟩ | ⟨v, r, a, rfl⟩ := eq_of_isConsistent hs <;> cases k <;>
    simp [missing, Kind.all, Kind.rank, current, Kind.parent?]

/-- The first of them hangs on something that is there. -/
theorem SiteState.isSome_current_of_head? {s : SiteState} (hs : s.isConsistent) {k i j : Kind}
    (hi : (s.missing k ++ [k]).head? = some i) (hj : i.parent? = some j) :
    (s.current j).isSome := by
  obtain rfl | ⟨v, rfl⟩ | ⟨v, r, rfl⟩ | ⟨v, r, a, rfl⟩ := eq_of_isConsistent hs <;> cases k <;>
    cases hi <;> cases hj <;> rfl

/-- There are four kinds, so no line is longer than four. -/
theorem SiteState.length_missing_lt (s : SiteState) (k : Kind) : (s.missing k).length < 4 := by
  -- A kind below another one is no click.
  have hlt : ∀ j ∈ s.missing k, j ∈ [Kind.visitor, .session, .area] := by
    intro j hj
    have hrank : j.rank < k.rank := by
      have := (List.mem_filter.1 hj).2
      simp_all
    cases j <;> cases k <;> simp_all [Kind.rank]
  have hnodup : (s.missing k).Nodup := List.Pairwise.filter _ (by decide)
  exact Nat.lt_succ_of_le (hnodup.length_le_of_subset hlt)

/-- What is true of a plan that started from the state `s` and has created events of
    the kinds `ks`. -/
structure Plan.IsLine (ids : Nat → FreshId) (s : SiteState) (ks : List Kind) (p : Plan) : Prop where
  kinds : p.batch.map Event.kind = ks
  ids : ∀ i e, p.batch[i]? = some e → e.id = (ids i).id
  head : ∀ e, p.batch.head? = some e → e.parentId? = s.parentId? e.kind
  chain : p.batch.IsChain fun parent child => child.IsChildOf parent
  next : p.next = p.batch.foldl SiteState.adopt s

namespace Plan

variable {ids : Nat → FreshId} {s : SiteState} {ks : List Kind} {p : Plan}

theorem isLine_nil (ids : Nat → FreshId) (s : SiteState) : IsLine ids s [] { next := s } where
  kinds := rfl
  ids _ _ h := by simp at h
  head _ h := by simp at h
  chain := .nil
  next := rfl

/-- What the next event hangs on: the last event, or what the state at the start
    holds. -/
theorem IsLine.parentId?_next (h : IsLine ids s ks p) {k : Kind}
    (hk : ∀ j, ks.getLast? = some j → k.parent? = some j) :
    p.next.parentId? k = match p.batch.getLast? with
      | some e => some e.id
      | none => s.parentId? k := by
  rcases List.eq_nil_or_concat p.batch with hb | ⟨es, e, hb⟩
  · rw [h.next, hb]
    rfl
  · have he : k.parent? = some e.kind := hk _ (by rw [← h.kinds, hb]; simp)
    rw [h.next, hb]
    simpa using SiteState.parentId?_adopt (es.foldl SiteState.adopt s) he

/-- One more event keeps the line, if its kind follows the last one. -/
theorem isLine_extend (h : IsLine ids s ks p) {k : Kind}
    (hlast : ∀ j, ks.getLast? = some j → k.parent? = some j)
    (hfirst : ks = [] → ∀ j, k.parent? = some j → (s.current j).isSome) :
    IsLine ids s (ks ++ [k]) (p.extend ids k) := by
  have hparent := h.parentId?_next hlast
  -- The next event has something to hang on: the last one, or, if it is the first, what
  -- the state at the start holds.
  have hheld : ∀ j, k.parent? = some j → (p.next.current j).isSome := by
    intro j hj
    rcases List.eq_nil_or_concat p.batch with hb | ⟨es, e, hb⟩
    · have hks : ks = [] := by rw [← h.kinds, hb]; rfl
      rw [h.next, hb]
      exact hfirst hks j hj
    · rw [hb] at hparent
      simp only [List.concat_eq_append, List.getLast?_append, List.getLast?_singleton,
        Option.some_or, SiteState.parentId?, hj, Option.bind_some] at hparent
      simpa using congrArg Option.isSome hparent
  obtain ⟨e, he⟩ := Option.isSome_iff_exists.1 (Event.under?_isSome (ids p.batch.length) hheld)
  obtain ⟨hkind, hid, hpar⟩ := Event.of_under? he
  rw [extend_of_under? he]
  refine ⟨by simp [h.kinds, hkind], ?_, ?_, ?_, by simp [h.next]⟩
  · intro i e' hi
    rcases Nat.lt_trichotomy i p.batch.length with hlt | rfl | hgt
    · exact h.ids i e' (by rwa [List.getElem?_append_left hlt] at hi)
    · have : e' = e := by simpa using hi.symm
      rw [this, hid]
    · have hlen : i < (p.batch ++ [e]).length := (List.getElem?_eq_some_iff.1 hi).1
      rw [List.length_append, List.length_singleton] at hlen
      omega
  · intro e' he'
    rcases List.eq_nil_or_concat p.batch with hb | ⟨es, l, hb⟩
    · rw [hb] at he' hparent
      have : e' = e := by simpa using he'.symm
      rw [this, hpar, hkind, hparent]
      rfl
    · have hne : p.batch ≠ [] := by simp [hb]
      exact h.head e' (by rwa [List.head?_append_of_ne_nil _ hne] at he')
  · -- Only the link between the last event and the new one is new.
    refine List.isChain_append.2 ⟨h.chain, .singleton e, fun l hl c hc => ?_⟩
    have hc : c = e := by simpa using hc.symm
    have hl' : p.batch.getLast? = some l := hl
    rw [hl'] at hparent
    have hkl : k.parent? = some l.kind := hlast _ (by rw [← h.kinds, List.getLast?_map, hl']; rfl)
    rw [hc]
    exact ⟨hpar.trans hparent, by rw [hkind, hkl]⟩

/-- A plan stays a line while it grows along kinds that follow one another. -/
theorem isLine_foldl (h : IsLine ids s ks p) {ls : List Kind}
    (hchain : (ks ++ ls).IsChain fun j k => k.parent? = some j)
    (hfirst : ∀ i j, (ks ++ ls).head? = some i → i.parent? = some j → (s.current j).isSome) :
    IsLine ids s (ks ++ ls) (ls.foldl (extend ids) p) := by
  induction ls generalizing ks p with
  | nil => rwa [List.append_nil]
  | cons k ls ih =>
    have hk : IsLine ids s (ks ++ [k]) (p.extend ids k) := by
      refine isLine_extend h (fun j hj => ?_) fun hks j hj => ?_
      · exact (List.isChain_append.1 hchain).2.2 j hj k rfl
      · exact hfirst k j (by rw [hks]; rfl) hj
    rw [List.append_cons] at hchain hfirst ⊢
    exact ih hk hchain hfirst

/-- The plan that opens a kind is a line from the lowest missing kind to this one. -/
theorem isLine_opening (ids : Nat → FreshId) (hs : s.isConsistent) (k : Kind) :
    IsLine ids s (s.missing k ++ [k]) (opening ids k { next := s }) :=
  isLine_foldl (isLine_nil ids s) (SiteState.isChain_missing hs k) fun _ _ hi hj =>
    SiteState.isSome_current_of_head? hs hi hj

end Plan

/-! ## Lines of descent -/

/-- Events each of which hangs on the one before are a line of descent. -/
theorem checkLineage_of_isChain {es : List Event}
    (h : es.IsChain fun parent child => child.IsChildOf parent) :
    checkLineage (es.map Event.toWire) = .ok () := by
  induction es with
  | nil => rfl
  | cons parent es ih =>
    cases es with
    | nil => rfl
    | cons child es =>
      obtain ⟨⟨hparent, hkind⟩, hrest⟩ := List.isChain_cons_cons.1 h
      have hid : child.toWire.parentId? = some parent.toWire.id := by
        rw [Event.parentId?_toWire, hparent]
        rfl
      have hrank : child.toWire.kind.rank = parent.toWire.kind.rank + 1 :=
        Kind.rank_of_parent? hkind
      rw [List.map_cons, List.map_cons, checkLineage, if_neg (by simp [hid]),
        if_neg (by simp [hrank])]
      exact ih hrest

/-- What is written of an event: its rank, its id and the id of its parent, if it
    has one, and nothing else. -/
theorem Event.toJson_toWire (e : Event) :
    Codec.toJson e.toWire = .record ([("t", .nat e.kind.rank), ("i", .text e.id.render)] ++
      (e.parentId?.map fun p => ("a", Json.record [("parent", .text p.render)])).toList) := by
  cases e <;> rfl

/-! ## The operations -/

/-- What an operation makes of the consistent state `s` that it sees, if it gets the
    ids `ids`. -/
structure Operation.IsCascade (op : Operation) (ids : Nat → FreshId) (s : SiteState) (p : Plan) :
    Prop where
  /-- There is one event for every missing kind below, the lowest first, and one of
      the kind itself. -/
  kinds : p.batch.map Event.kind = if op.emits then s.missing op.kind ++ [op.kind] else []
  /-- Their ids are fresh. -/
  ids : ∀ i e, p.batch[i]? = some e → e.id = (ids i).id
  /-- The first hangs on what was there. -/
  head : ∀ e, p.batch.head? = some e → e.parentId? = s.parentId? e.kind
  /-- Each of the others hangs on the one before, and is one rank above it. -/
  chain : p.batch.IsChain fun parent child =>
    child.parentId? = some parent.id ∧ child.kind.rank = parent.kind.rank + 1
  lineage : checkLineage (p.batch.map Event.toWire) = .ok ()
  length : p.batch.length ≤ 4
  /-- What is sent of an event is its rank, its id and its parent. -/
  wire : ∀ e ∈ p.batch, Codec.toJson e.toWire =
    .record ([("t", .nat e.kind.rank), ("i", .text e.id.render)] ++
      (e.parentId?.map fun p => ("a", Json.record [("parent", .text p.render)])).toList)
  /-- The new events are current, clicks apart; what was there below the kind of the
      operation stays, and everything else is gone. -/
  held : ∀ k, p.next.held k = match p.batch.find? (·.kind = k) with
    | some e => if k.isLeaf then none else some e.reference
    | none => if k.rank < op.kind.rank then s.held k else none

theorem Operation.held_plan (op : Operation) (ids : Nat → FreshId) {s : SiteState}
    (hs : s.isConsistent) (k : Kind) :
    (op.plan ids s).next.held k = match (op.plan ids s).batch.find? (·.kind = k) with
      | some e => if k.isLeaf then none else some e.reference
      | none => if k.rank < op.kind.rank then s.held k else none := by
  obtain rfl | ⟨v, rfl⟩ | ⟨v, r, rfl⟩ | ⟨v, r, a, rfl⟩ := SiteState.eq_of_isConsistent hs <;>
    cases op <;> cases k <;> rfl

theorem Operation.isCascade_plan (op : Operation) (ids : Nat → FreshId) {s : SiteState}
    (hs : s.isConsistent) : op.IsCascade ids s (op.plan ids s) := by
  have hheld := op.held_plan ids hs
  cases hop : op.emits with
  | true =>
    have hplan : op.plan ids s = Plan.opening ids op.kind { next := s } := by
      rw [Operation.plan, if_pos hop]
    have hline := Plan.isLine_opening ids hs op.kind
    rw [← hplan] at hline
    refine ⟨by rw [hline.kinds, if_pos hop], hline.ids, hline.head, ?_,
      checkLineage_of_isChain hline.chain, ?_, fun e _ => e.toJson_toWire, hheld⟩
    · exact hline.chain.imp fun parent child h => ⟨h.1, Kind.rank_of_parent? h.2⟩
    · rw [← List.length_map Event.kind, hline.kinds, List.length_append]
      exact SiteState.length_missing_lt s op.kind
  | false =>
    have hbatch : (op.plan ids s).batch = [] := by rw [Operation.plan, if_neg (by simp [hop])]
    refine ⟨?_, ?_, ?_, ?_, ?_, ?_, fun e _ => e.toJson_toWire, hheld⟩ <;>
      simp [hbatch, hop, checkLineage]

namespace Tracker

variable {σ π : Type} {store : Store σ} {publish : Publisher π}

/-- An operation whose staging and commit succeed creates a cascade on the state that
    it sees. After one look at the store, or none, it commits the planned state with
    one more call; the publisher then gets the whole batch at once, or is not called. -/
theorem operate_cascade {op : Operation} {w : World σ π} {s s' : Scene (World σ π)} {c : SiteState}
    (hstage : stage (World.surroundings store publish) op { world := w } = .ok () s)
    (hcommit : commit (World.surroundings store publish) s = (.ok c, s')) :
    ∃ r w₁ p, World.see store op w = (.ok r, w₁) ∧ r.isConsistent ∧ op.IsCascade w.fresh r p ∧
      (w₁.withEvents p.batch).commit store p.next = (.ok c, s'.world) ∧
      s'.world.publisher = w.publisher ∧
      operate store publish op w =
        if op.emits then
          let (result, w₂) := World.callPublisher publish (p.batch.map Event.toWire) s'.world
          w₂.finish (result.mapError DeliveryError.toTrackingError)
        else s'.world.finish (.ok 0) := by
  rw [stage_eq] at hstage
  have hop := operate_eq store publish op w
  rcases hsee : World.see store op w with ⟨e | r, w₁⟩
  · rw [hsee] at hstage
    cases hstage
  · obtain ⟨hsupply, hpublisher⟩ := World.see_frame hsee
    have hfresh : w₁.fresh = w.fresh := by
      funext i
      rw [World.fresh, World.fresh, hsupply]
    have hr := World.isConsistent_see hsee
    have hcascade := op.isCascade_plan w.fresh hr
    simp only [hsee, hfresh] at hstage hop
    -- From here on the plan is any that is a cascade.
    generalize op.plan w.fresh r = p at hstage hop hcascade
    cases hstage
    rw [commit_scene] at hcommit
    rcases hw : (w₁.withEvents p.batch).commit store p.next with ⟨result, w₂⟩
    rw [hw] at hcommit
    cases hcommit
    have hempty : p.batch.isEmpty = !op.emits := by
      have hkinds := hcascade.kinds
      cases hemits : op.emits <;> rw [hemits] at hkinds <;> cases hb : p.batch <;> simp_all
    refine ⟨r, w₁, p, rfl, hr, hcascade, hw, ?_, ?_⟩
    · exact (World.commit_frame hw).2.trans hpublisher
    · rw [hop, World.carryOut, hw]
      cases hemits : op.emits <;> simp only [World.handOver, hempty, hemits] <;> rfl

/-- A click where a visitor is stored, and an area whose session is gone: a session, an
    area and the click are handed over, in one batch. -/
theorem operate_cascade_orphanedArea :
    let id (n : Nat) : FreshId := ⟨Id.v7 n 0, Id.version_v7 n 0⟩
    let seen : SiteState := { visitor := some (.ofFresh (id 100)) }
    let w : World PlainStore (List (List WireEvent)) := {
      store := { state := { seen with area := some (.ofFresh (id 101)) } }
      publisher := []
      supply := { ids := id } }
    let publish : Publisher (List (List WireEvent)) := fun batch sent =>
      (.ok batch.length, sent ++ [batch])
    ∃ p : Plan, Operation.registerClick.IsCascade w.fresh seen p ∧
      p.batch.map Event.kind = [.session, .area, .click] ∧
      (operate PlainStore.store publish .registerClick w).1 = .ok 3 ∧
      (operate PlainStore.store publish .registerClick w).2.publisher =
        [p.batch.map Event.toWire] := by
  intro id seen w publish
  have hstage : ∃ s, stage (World.surroundings PlainStore.store publish) .registerClick
      { world := w } = .ok () s := ⟨_, rfl⟩
  obtain ⟨s, hstage⟩ := hstage
  have hcommit : ∃ c s', commit (World.surroundings PlainStore.store publish) s = (.ok c, s') := by
    cases hstage
    exact ⟨_, _, rfl⟩
  obtain ⟨c, s', hcommit⟩ := hcommit
  obtain ⟨r, w₁, p, hsee, -, hcascade, -, hpublisher, hop⟩ := operate_cascade hstage hcommit
  cases hsee
  have hkinds : p.batch.map Event.kind = [.session, .area, .click] := hcascade.kinds
  have hlength : p.batch.length = 3 := by rw [← List.length_map Event.kind, hkinds]; rfl
  refine ⟨p, hcascade, hkinds, ?_, ?_⟩ <;> rw [hop]
  · simp [World.callPublisher, World.finish, publish, hlength, Operation.emits, Except.mapError]
  · show s'.world.publisher ++ [p.batch.map Event.toWire] = _
    rw [hpublisher]
    rfl

end Tracker

end Clickstream
