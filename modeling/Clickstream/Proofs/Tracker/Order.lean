import Clickstream.Proofs.Tracker.Conservation

/-!
# The calls of one operation

The store is read when the draft is first asked for, somewhere inside the chain of functions that
find or create the ancestors of an event; where that is depends on what was found before. And
there are four ways to end, each of which drops draft and queue in a place of its own. So neither
the order of the calls nor what is left behind can be seen in any one function.

Both are said here of any surroundings whatever, in which every call is noted down
(`Surroundings.noted`). The calls of an operation are one of four sequences (`Tracker.Course`), and
from these the rules are read off (`Tracker.IsDisciplined`).

* `Tracker.Creates`, `Tracker.Reads`: once there is a draft, staging only creates events, and
  without one it first reads the store; both go through the whole chain by what they say of `>>=`;
* `Tracker.perform_noted`: to note the calls down changes nothing;
* `Tracker.course_perform`, `Tracker.isDisciplined_of_course`: the calls of an operation of a
  tracker that is at rest, and the rules for them;
* `Tracker.tracker_live`: a tracker is at rest between operations, whatever happens;
* `Tracker.isDisciplined`: hence the rules hold of every operation, and a tracker is as good as a
  new one after each, and already while it waits for the publisher.
-/

namespace Clickstream

variable {ω : Type}

/-! ## Calls -/

/-- What the calls of an operation are for, in the order in which they are made. -/
inductive Phase
  | look
  | creation
  | commit
  | delivery
  | ending
  deriving DecidableEq, Repr

/-- The place of a phase in the order. -/
def Phase.rank : Phase → Nat
  | look => 0
  | creation => 1
  | commit => 2
  | delivery => 3
  | ending => 4

/-- A call that an operation makes, and what came of it. -/
inductive Act
  | get (r : Except SiteStateError SiteState)
  | set (s : SiteState) (r : Except SiteStateError SiteState)
  | clear (r : Except SiteStateError SiteState)
  | publish (batch : List WireEvent) (r : DeliveryResult)
  | mint (id : FreshId)
  | measure (m : Measurement)
  deriving DecidableEq

namespace Act

/-- What a call is for. -/
def phase : Act → Phase
  | get _ => .look
  | mint _ | measure (.enqueued _) => .creation
  | set _ _ | clear _ => .commit
  | publish _ _ => .delivery
  | measure _ => .ending

@[simp] theorem phase_get (r : Except SiteStateError SiteState) : (get r).phase = .look := rfl

@[simp] theorem phase_publish (batch : List WireEvent) (r : DeliveryResult) :
    (publish batch r).phase = .delivery := rfl

@[simp] theorem phase_dropped (n : Nat) : (measure (.dropped n)).phase = .ending := rfl

/-- What the store said to a new state, or to being cleared. -/
def committed? : Act → Option (Except SiteStateError SiteState)
  | set _ r | clear r => some r
  | _ => none

/-- What is measured. -/
def measured? : Act → Option Measurement
  | measure m => some m
  | _ => none

/-- Events are created one after another, each with an id of its own. -/
def creations (es : List (FreshId × Event)) : List Act :=
  es.flatMap fun e => [mint e.1, measure (.enqueued e.2.kind)]

end Act

/-- The same surroundings, in which every call is noted down. -/
def Surroundings.noted (env : Surroundings ω) : Surroundings (ω × List Act) where
  get w := let (r, x) := env.get w.1; (r, x, w.2 ++ [.get r])
  set s w := let (r, x) := env.set s w.1; (r, x, w.2 ++ [.set s r])
  clear w := let (r, x) := env.clear w.1; (r, x, w.2 ++ [.clear r])
  publish batch w := let (r, x) := env.publish batch w.1; (r, x, w.2 ++ [.publish batch r])
  mint w := let (id, x) := env.mint w.1; (id, x, w.2 ++ [.mint id])
  measure m w := (env.measure m w.1, w.2 ++ [.measure m])

/-- The scene without the notes. -/
def Scene.plain (s : Scene (ω × List Act)) : Scene ω := ⟨s.tracker, s.world.1⟩

namespace Tracker

variable {α β : Type} (env : Surroundings ω)

/-! ## Notes change nothing -/

/-- Two parts of staging do the same, but for the notes that one of them makes. -/
def IsNoted (x : Staging (ω × List Act) α) (y : Staging ω α) : Prop :=
  ∀ s, y s.plain = match x s with
    | .ok a s' => .ok a s'.plain
    | .error e s' => .error e s'.plain

theorem IsNoted.bind {x : Staging (ω × List Act) α} {y : Staging ω α}
    {f : α → Staging (ω × List Act) β} {g : α → Staging ω β} (h : IsNoted x y)
    (hf : ∀ a, IsNoted (f a) (g a)) : IsNoted (x >>= f) (y >>= g) := by
  intro s
  show EStateM.bind y g s.plain = match EStateM.bind x f s with
    | .ok a s' => .ok a s'.plain
    | .error e s' => .error e s'.plain
  simp only [EStateM.bind, h s]
  rcases x s with ⟨a, s'⟩ | ⟨e, s'⟩
  · exact hf a s'
  · rfl

theorem isNoted_pure (a : α) : IsNoted (ω := ω) (pure a) (pure a) := fun _ => rfl

theorem isNoted_setDraft (s : SiteState) : IsNoted (ω := ω) (setDraft s) (setDraft s) :=
  fun _ => rfl

theorem isNoted_create (event : FreshId → Event) :
    IsNoted (create env.noted event) (create env event) := fun _ => rfl

theorem isNoted_siteState : IsNoted (siteState env.noted) (siteState env) := by
  rintro ⟨t, w, as⟩
  have hget : env.noted.get (w, as) =
      ((env.get w).1, (env.get w).2, as ++ [.get (env.get w).1]) := rfl
  simp only [siteState, Scene.plain, hget]
  rcases env.get w with ⟨e | s, w'⟩
  · cases e <;> rfl
  · rfl

theorem isNoted_loadDraft : IsNoted (loadDraft env.noted) (loadDraft env) := by
  intro s
  obtain ⟨⟨_ | d, es⟩, w⟩ := s
  · exact (isNoted_siteState env).bind (fun s => (isNoted_setDraft s).bind fun _ => isNoted_pure s)
      ⟨⟨none, es⟩, w⟩
  · rfl

theorem isNoted_openVisitor : IsNoted (openVisitor env.noted) (openVisitor env) :=
  (isNoted_create env _).bind fun _ => (isNoted_setDraft _).bind fun _ => isNoted_pure _

theorem isNoted_obtainVisitor : IsNoted (obtainVisitor env.noted) (obtainVisitor env) := by
  refine (isNoted_loadDraft env).bind fun s => ?_
  cases s.visitor with
  | some v => exact isNoted_pure v
  | none => exact isNoted_openVisitor env

theorem isNoted_openSession : IsNoted (openSession env.noted) (openSession env) :=
  (isNoted_obtainVisitor env).bind fun _ => (isNoted_create env _).bind fun _ =>
    (isNoted_loadDraft env).bind fun _ => (isNoted_setDraft _).bind fun _ => isNoted_pure _

theorem isNoted_obtainSession : IsNoted (obtainSession env.noted) (obtainSession env) := by
  refine (isNoted_loadDraft env).bind fun s => ?_
  cases s.session with
  | some r => exact isNoted_pure r
  | none => exact isNoted_openSession env

theorem isNoted_openArea : IsNoted (openArea env.noted) (openArea env) :=
  (isNoted_obtainSession env).bind fun _ => (isNoted_create env _).bind fun _ =>
    (isNoted_loadDraft env).bind fun _ => (isNoted_setDraft _).bind fun _ => isNoted_pure _

theorem isNoted_obtainArea : IsNoted (obtainArea env.noted) (obtainArea env) := by
  refine (isNoted_loadDraft env).bind fun s => ?_
  cases s.area with
  | some a => exact isNoted_pure a
  | none => exact isNoted_openArea env

theorem isNoted_stage (op : Operation) : IsNoted (stage env.noted op) (stage env op) := by
  cases op with
  | registerVisitor => exact (isNoted_openVisitor env).bind fun _ => isNoted_pure _
  | deregisterVisitor => exact isNoted_setDraft _
  | registerSession => exact (isNoted_openSession env).bind fun _ => isNoted_pure _
  | deregisterSession => exact (isNoted_loadDraft env).bind fun _ => isNoted_setDraft _
  | registerArea => exact (isNoted_openArea env).bind fun _ => isNoted_pure _
  | deregisterArea => exact (isNoted_loadDraft env).bind fun _ => isNoted_setDraft _
  | registerClick =>
    exact (isNoted_obtainArea env).bind fun _ => (isNoted_create env _).bind fun _ => isNoted_pure _

theorem commit_noted (s : Scene (ω × List Act)) :
    commit env s.plain = ((commit env.noted s).1, (commit env.noted s).2.plain) := by
  obtain ⟨⟨_ | d, es⟩, w⟩ := s
  · rfl
  · simp only [commit, Scene.plain]
    split <;> rfl

theorem prepare_noted (op : Operation) (s : Scene (ω × List Act)) :
    prepare env op s.plain = ((prepare env.noted op s).1, (prepare env.noted op s).2.plain) := by
  simp only [prepare, isNoted_stage env op s]
  rcases stage env.noted op s with ⟨-, s₁⟩ | ⟨e, s₁⟩
  · simp only [commit_noted]
    rcases commit env.noted s₁ with ⟨e | d, s₂⟩
    · rfl
    · show (if s₂.tracker.queue.isEmpty then _ else _) = _
      dsimp only
      split <;> rfl
  · rfl

/-- To note the calls down changes nothing. -/
theorem perform_noted (op : Operation) (s : Scene (ω × List Act)) :
    perform env op s.plain = ((perform env.noted op s).1, (perform env.noted op s).2.plain) := by
  simp only [perform, prepare_noted]
  rcases prepare env.noted op s with ⟨r | batch, s₁⟩ <;> rfl

/-! ## Staging -/

/-- From one scene to the next, events were created, and there is a draft. -/
structure Adds (es : List (FreshId × Event)) (s s' : Scene (ω × List Act)) : Prop where
  draft : s'.tracker.draft.isSome
  queue : s'.tracker.queue = s.tracker.queue ++ es.map (·.2)
  acts : s'.world.2 = s.world.2 ++ Act.creations es

variable {s s' s'' : Scene (ω × List Act)} {es es' : List (FreshId × Event)}

theorem Adds.trans (h : Adds es s s') (h' : Adds es' s' s'') : Adds (es ++ es') s s'' where
  draft := h'.draft
  queue := by rw [h'.queue, h.queue, List.map_append, List.append_assoc]
  acts := by rw [h'.acts, h.acts, Act.creations, Act.creations, Act.creations, List.flatMap_append,
    List.append_assoc]

theorem adds_nil (h : s.tracker.draft.isSome) : Adds [] s s :=
  ⟨h, (List.append_nil _).symm, (List.append_nil _).symm⟩

/-- A part of staging that, once there is a draft, only creates events. -/
def Creates (x : Staging (ω × List Act) α) : Prop :=
  ∀ s, s.tracker.draft.isSome → ∃ a s' es, x s = .ok a s' ∧ Adds es s s'

theorem Creates.bind {x : Staging (ω × List Act) α} {f : α → Staging (ω × List Act) β}
    (h : Creates x) (hf : ∀ a, Creates (f a)) : Creates (x >>= f) := by
  intro s hs
  obtain ⟨a, s', es, hx, hadds⟩ := h s hs
  obtain ⟨b, s'', es', hfa, hadds'⟩ := hf a s' hadds.draft
  refine ⟨b, s'', es ++ es', ?_, hadds.trans hadds'⟩
  show EStateM.bind x f s = _
  rw [EStateM.bind, hx]
  exact hfa

theorem creates_pure (a : α) : Creates (ω := ω) (pure a) := fun s hs => ⟨a, s, [], rfl, adds_nil hs⟩

theorem creates_setDraft (d : SiteState) : Creates (ω := ω) (setDraft d) := fun _ _ =>
  ⟨(), _, [], rfl, rfl, (List.append_nil _).symm, (List.append_nil _).symm⟩

theorem creates_create (event : FreshId → Event) : Creates (create env.noted event) := by
  rintro ⟨⟨d, es⟩, w, as⟩ hd
  refine ⟨(env.mint w).1, _, [((env.mint w).1, event (env.mint w).1)], rfl, hd, rfl, ?_⟩
  show (as ++ [_]) ++ [_] = as ++ [_, _]
  rw [List.append_assoc]
  rfl

theorem creates_loadDraft : Creates (loadDraft env.noted) := by
  rintro ⟨⟨_ | d, es⟩, w⟩ hd
  · cases hd
  · exact ⟨d, _, [], rfl, adds_nil rfl⟩

/-- From one scene to the next the store was read, and there are no events yet. -/
structure Looked (r : Except SiteStateError SiteState) (s s' : Scene (ω × List Act)) : Prop where
  queue : s'.tracker.queue = []
  acts : s'.world.2 = s.world.2 ++ [.get r]

/-- A part of staging that, if nothing is there, first reads the store. It fails if that fails, and
    else only creates events. -/
def Looks (x : Staging (ω × List Act) α) : Prop :=
  ∀ s, s.tracker = {} → ∃ r s₁, Looked r s s₁ ∧
    ((∃ e, r = .error e ∧ e ≠ .absent ∧ x s = .error e s₁) ∨
      (∀ e, r = .error e → e = .absent) ∧ ∃ a s' es, x s = .ok a s' ∧ Adds es s₁ s')

theorem Looks.bind {x : Staging (ω × List Act) α} {f : α → Staging (ω × List Act) β}
    (h : Looks x) (hf : ∀ a, Creates (f a)) : Looks (x >>= f) := by
  intro s hs
  obtain ⟨r, s₁, hlooked, ⟨e, hr, he, hx⟩ | ⟨hr, a, s', es, hx, hadds⟩⟩ := h s hs
  · refine ⟨r, s₁, hlooked, .inl ⟨e, hr, he, ?_⟩⟩
    show EStateM.bind x f s = _
    rw [EStateM.bind, hx]
  · obtain ⟨b, s'', es', hfa, hadds'⟩ := hf a s' hadds.draft
    refine ⟨r, s₁, hlooked, .inr ⟨hr, b, s'', es ++ es', ?_, hadds.trans hadds'⟩⟩
    show EStateM.bind x f s = _
    rw [EStateM.bind, hx]
    exact hfa

/-- A part of staging that needs the draft, and reads the store for it if there is none. -/
structure Reads (x : Staging (ω × List Act) α) : Prop where
  creates : Creates x
  looks : Looks x

theorem Reads.bind {x : Staging (ω × List Act) α} {f : α → Staging (ω × List Act) β}
    (h : Reads x) (hf : ∀ a, Creates (f a)) : Reads (x >>= f) :=
  ⟨h.creates.bind hf, h.looks.bind hf⟩

theorem reads_loadDraft : Reads (loadDraft env.noted) where
  creates := creates_loadDraft env
  looks := by
    rintro ⟨t, w, as⟩ rfl
    have hstart : loadDraft env.noted ⟨{}, w, as⟩ =
        EStateM.bind (siteState env.noted) (fun d => EStateM.bind (setDraft d) fun _ => pure d)
          ⟨{}, w, as⟩ := rfl
    have hget : env.noted.get (w, as) =
        ((env.get w).1, (env.get w).2, as ++ [.get (env.get w).1]) := rfl
    refine ⟨(env.get w).1, ⟨{}, (env.get w).2, as ++ [.get (env.get w).1]⟩, ⟨rfl, rfl⟩, ?_⟩
    simp only [hstart, EStateM.bind, siteState, hget]
    rcases (env.get w).1 with e | d
    · by_cases he : e = .absent
      · subst he
        exact .inr ⟨by simp, .empty, _, [], rfl, rfl, rfl, (List.append_nil _).symm⟩
      · refine .inl ⟨e, rfl, he, ?_⟩
        cases e <;> first | rfl | exact absurd rfl he
    · exact .inr ⟨(fun _ h => by cases h), d.normalized, _, [], rfl, rfl, rfl,
        (List.append_nil _).symm⟩

theorem creates_openVisitor : Creates (openVisitor env.noted) :=
  (creates_create env _).bind fun _ => (creates_setDraft _).bind fun _ => creates_pure _

theorem reads_obtainVisitor : Reads (obtainVisitor env.noted) := by
  refine (reads_loadDraft env).bind fun s => ?_
  cases s.visitor with
  | some v => exact creates_pure v
  | none => exact creates_openVisitor env

theorem reads_openSession : Reads (openSession env.noted) :=
  (reads_obtainVisitor env).bind fun _ => (creates_create env _).bind fun _ =>
    (creates_loadDraft env).bind fun _ => (creates_setDraft _).bind fun _ => creates_pure _

theorem reads_obtainSession : Reads (obtainSession env.noted) := by
  refine (reads_loadDraft env).bind fun s => ?_
  cases s.session with
  | some r => exact creates_pure r
  | none => exact (reads_openSession env).creates

theorem reads_openArea : Reads (openArea env.noted) :=
  (reads_obtainSession env).bind fun _ => (creates_create env _).bind fun _ =>
    (creates_loadDraft env).bind fun _ => (creates_setDraft _).bind fun _ => creates_pure _

theorem reads_obtainArea : Reads (obtainArea env.noted) := by
  refine (reads_loadDraft env).bind fun s => ?_
  cases s.area with
  | some a => exact creates_pure a
  | none => exact (reads_openArea env).creates

/-- An operation that is not about visitors first reads the store. -/
theorem reads_stage {op : Operation} (hop : op.kind.isRoot = false) :
    Reads (stage env.noted op) := by
  cases op with
  | registerVisitor | deregisterVisitor => cases hop
  | registerSession => exact (reads_openSession env).bind fun _ => creates_pure _
  | deregisterSession => exact (reads_loadDraft env).bind fun _ => creates_setDraft _
  | registerArea => exact (reads_openArea env).bind fun _ => creates_pure _
  | deregisterArea => exact (reads_loadDraft env).bind fun _ => creates_setDraft _
  | registerClick =>
    exact (reads_obtainArea env).bind fun _ => (creates_create env _).bind fun _ => creates_pure _

/-- One about visitors does not, as it makes its draft itself. -/
theorem adds_stage {op : Operation} (hop : op.kind.isRoot) (s : Scene (ω × List Act)) :
    ∃ s' es, stage env.noted op s = .ok () s' ∧ Adds es s s' := by
  cases op with
  | registerVisitor =>
    obtain ⟨⟨d, es⟩, w, as⟩ := s
    refine ⟨_, [((env.mint w).1, .visitor (.ofFresh (env.mint w).1))], rfl, rfl, rfl, ?_⟩
    exact List.append_assoc as _ _
  | deregisterVisitor =>
    exact ⟨_, [], rfl, rfl, (List.append_nil _).symm, (List.append_nil _).symm⟩
  | _ => cases hop

/-! ## Whole operations -/

/-- The look of an operation that goes on: one about visitors does not look. -/
inductive IsLook (op : Operation) : List Act → Prop
  | root : op.kind.isRoot → IsLook op []
  | look {r : Except SiteStateError SiteState} :
      op.kind.isRoot = false → (∀ e, r = .error e → e = .absent) → IsLook op [.get r]

/-- An operation is counted as it ends. -/
def ended (r : TrackingResult) : Act :=
  .measure (match r with | .ok count => .completed count | .error e => .failed e)

/-- The calls of an operation from its beginning to its end, and how it ends. -/
inductive Course (op : Operation) : List Act → TrackingResult → Prop
  /-- The store could not be read. -/
  | blind {e : SiteStateError} (hop : op.kind.isRoot = false) (he : e ≠ .absent) :
      Course op [.get (.error e), .measure (.dropped 0), ended (.error (.internal e.message))]
        (.error (.internal e.message))
  /-- The new state could not be written. -/
  | dropped (es : List (FreshId × Event)) {look : List Act} {c : Act} {e : SiteStateError}
      (hlook : IsLook op look) (hc : c.committed? = some (.error e)) :
      Course op (look ++ Act.creations es ++
          [c, .measure (.dropped es.length), ended (.error (.internal e.message))])
        (.error (.internal e.message))
  /-- There was nothing to hand over. -/
  | silent {look : List Act} {c : Act} {s : SiteState} (hlook : IsLook op look)
      (hc : c.committed? = some (.ok s)) : Course op (look ++ [c, ended (.ok 0)]) (.ok 0)
  /-- The batch was handed over. -/
  | handed (es : List (FreshId × Event)) {look : List Act} {c : Act} {s : SiteState}
      {r : DeliveryResult} (hlook : IsLook op look) (hc : c.committed? = some (.ok s)) :
      Course op (look ++ Act.creations es ++
          [c, .publish ((es.map (·.2)).map Event.toWire) r,
            ended (r.mapError DeliveryError.toTrackingError)])
        (r.mapError DeliveryError.toTrackingError)

/-- Staging fails for one reason, the look; else it creates events after the look. -/
theorem stage_noted (op : Operation) (hs : s.tracker = {}) :
    (∃ e s', op.kind.isRoot = false ∧ e ≠ .absent ∧ stage env.noted op s = .error e s' ∧
      Looked (.error e) s s') ∨
    ∃ look es s', IsLook op look ∧ stage env.noted op s = .ok () s' ∧ s'.tracker.draft.isSome ∧
      s'.tracker.queue = es.map (·.2) ∧ s'.world.2 = s.world.2 ++ (look ++ Act.creations es) := by
  cases hop : op.kind.isRoot with
  | true =>
    obtain ⟨s', es, hstage, hadds⟩ := adds_stage env hop s
    have hqueue : s'.tracker.queue = es.map (·.2) := by
      rw [hadds.queue, hs]
      rfl
    exact .inr ⟨[], es, s', .root hop, hstage, hadds.draft, hqueue, hadds.acts⟩
  | false =>
    obtain ⟨r, s₁, hlooked, ⟨e, rfl, he, hstage⟩ | ⟨hr, ⟨⟩, s', es, hstage, hadds⟩⟩ :=
      (reads_stage env hop).looks s hs
    · exact .inl ⟨e, s₁, rfl, he, hstage, hlooked⟩
    · refine .inr ⟨[.get r], es, s', .look hop hr, hstage, hadds.draft, ?_, ?_⟩
      · rw [hadds.queue, hlooked.queue, List.nil_append]
      · rw [hadds.acts, hlooked.acts, List.append_assoc]

/-- A commit is one call of the store. -/
theorem commit_acts (s : Scene (ω × List Act)) :
    ∃ c r s', commit env.noted s = (r, s') ∧ c.committed? = some r ∧
      s'.tracker = ⟨none, s.tracker.queue⟩ ∧ s'.world.2 = s.world.2 ++ [c] := by
  obtain ⟨⟨_ | d, es⟩, w, as⟩ := s
  · exact ⟨.clear (env.clear w).1, _, _, rfl, rfl, rfl, rfl⟩
  · cases hd : d.isEmpty with
    | true =>
      have hcommit : commit env.noted ⟨⟨some d, es⟩, w, as⟩ =
          ((env.noted.clear (w, as)).1, ⟨⟨none, es⟩, (env.noted.clear (w, as)).2⟩) := by
        simp only [commit, hd, if_true]
      exact ⟨.clear (env.clear w).1, _, _, hcommit, rfl, rfl, rfl⟩
    | false =>
      have hcommit : commit env.noted ⟨⟨some d, es⟩, w, as⟩ =
          ((env.noted.set d (w, as)).1, ⟨⟨none, es⟩, (env.noted.set d (w, as)).2⟩) := by
        simp only [commit, hd, Bool.false_eq_true, if_false]
      exact ⟨.set d (env.set d w).1, _, _, hcommit, rfl, rfl, rfl⟩

theorem publish_acts (batch : List Event) (s : Scene (ω × List Act)) :
    ∃ r s', publish env.noted batch s = (r.mapError DeliveryError.toTrackingError, s') ∧
      s'.world.2 = s.world.2 ++ [.publish (batch.map Event.toWire) r] :=
  ⟨_, _, rfl, rfl⟩

/-- The store fails: what was created is dropped, and the operation ends. -/
theorem giveUp_acts (e : SiteStateError) (s : Scene (ω × List Act)) :
    (conclude env.noted (.error (.internal e.message)) (abort env.noted e s).2).world.2 =
      s.world.2 ++ [.measure (.dropped s.tracker.queue.length),
        ended (.error (.internal e.message))] :=
  List.append_assoc s.world.2 [_] [_]

theorem conclude_acts (r : TrackingResult) (s : Scene (ω × List Act)) :
    (conclude env.noted r s).world.2 = s.world.2 ++ [ended r] := rfl

/-- The calls of an operation of a tracker that is at rest. -/
theorem course_perform (op : Operation) (hs : s.tracker = {}) :
    ∃ as, (perform env.noted op s).2.world.2 = s.world.2 ++ as ∧
      Course op as (perform env.noted op s).1 := by
  rcases stage_noted env op hs with ⟨e, s₁, hop, he, hstage, hlooked⟩ |
    ⟨look, es, s₁, hlook, hstage, hdraft, hqueue, hacts⟩
  · have hperform : perform env.noted op s = (.error (.internal e.message),
        conclude env.noted (.error (.internal e.message)) (abort env.noted e s₁).2) := by
      simp only [perform, prepare, hstage]
      rfl
    rw [hperform]
    refine ⟨_, ?_, .blind hop he⟩
    rw [giveUp_acts, hlooked.acts, hlooked.queue, List.append_assoc]
    rfl
  · obtain ⟨c, r, s₂, hcommit, hc, htracker, hcommitted⟩ := commit_acts env s₁
    rw [hacts] at hcommitted
    cases r with
    | error e =>
      have hperform : perform env.noted op s = (.error (.internal e.message),
          conclude env.noted (.error (.internal e.message)) (abort env.noted e s₂).2) := by
        simp only [perform, prepare, hstage, hcommit]
        rfl
      rw [hperform]
      refine ⟨_, ?_, .dropped es hlook hc⟩
      rw [giveUp_acts, hcommitted, htracker, hqueue, List.length_map]
      simp
    | ok d =>
      by_cases hes : es = []
      · subst hes
        have hperform : perform env.noted op s =
            (.ok 0, conclude env.noted (.ok 0) { s₂ with tracker := {} }) := by
          simp [perform, prepare, hstage, hcommit, htracker, hqueue]
        rw [hperform]
        refine ⟨_, ?_, .silent hlook hc⟩
        rw [conclude_acts, hcommitted]
        simp [Act.creations]
      · obtain ⟨r, s₃, hpublish, hpublished⟩ :=
          publish_acts env (es.map (·.2)) { s₂ with tracker := {} }
        have hperform : perform env.noted op s = (r.mapError DeliveryError.toTrackingError,
            conclude env.noted (r.mapError DeliveryError.toTrackingError) s₃) := by
          simp [perform, prepare, hstage, hcommit, htracker, hqueue, hes, hpublish]
        rw [hperform]
        refine ⟨_, ?_, .handed es hlook hc⟩
        rw [conclude_acts, hpublished, hcommitted]
        simp

/-! ## Rules -/

/-- The rules for the calls of an operation, and for how it ends. -/
structure IsDisciplined (op : Operation) (as : List Act) (r : TrackingResult) : Prop where
  /-- The store is read before any event is created, and written before anything is handed over;
      after that it is not written. -/
  inOrder : as.Pairwise fun a b => a.phase.rank ≤ b.phase.rank
  /-- The store is read once at most, a state is set or the store cleared once at most, and a batch
      is handed over once at most. -/
  once : ∀ p, p = .look ∨ p = .commit ∨ p = .delivery → as.countP (·.phase = p) ≤ 1
  /-- An operation about visitors does not read the store. -/
  root : op.kind.isRoot → ∀ a ∈ as, a.phase ≠ .look
  /-- What is handed over was committed. -/
  committed : ∀ a ∈ as, a.phase = .delivery → ∃ c ∈ as, ∃ s, c.committed? = some (.ok s)
  /-- If the store can not be read, nothing is done, and no event is counted as dropped. -/
  blind : ∀ e, .get (.error e) ∈ as → e ≠ .absent →
    (∀ a ∈ as, a.phase ≠ .creation ∧ a.phase ≠ .commit ∧ a.phase ≠ .delivery) ∧
      Log.counter (as.filterMap Act.measured?) .dropped = 0 ∧ r = .error (.internal e.message)
  /-- If it can not be written, nothing is handed over. -/
  uncommitted : ∀ c ∈ as, ∀ e, c.committed? = some (.error e) →
    (∀ a ∈ as, a.phase ≠ .delivery) ∧ r = .error (.internal e.message)
  /-- If a batch is not accepted, the operation fails with that error. -/
  undelivered : ∀ batch e, .publish batch (.error e) ∈ as → r = .error e.toTrackingError

theorem phase_of_mem_creations {a : Act} (h : a ∈ Act.creations es) : a.phase = .creation := by
  obtain ⟨e, -, ha⟩ := List.mem_flatMap.1 h
  simp only [List.mem_cons, List.not_mem_nil, or_false] at ha
  rcases ha with rfl | rfl <;> rfl

theorem phase_of_committed? {c : Act} {r : Except SiteStateError SiteState}
    (h : c.committed? = some r) : c.phase = .commit := by
  cases c <;> first | rfl | cases h

@[simp] theorem phase_ended (r : TrackingResult) : (ended r).phase = .ending := by
  cases r <;> rfl

theorem ne_ended {a : Act} (h : a.phase ≠ .ending) (r : TrackingResult) : a ≠ ended r :=
  fun ha => h (ha ▸ phase_ended r)

section

variable {op : Operation} {look tail : List Act} {c : Act}

theorem IsLook.length_le (h : IsLook op look) : look.length ≤ 1 := by
  cases h <;> simp

theorem IsLook.of_mem (h : IsLook op look) {a : Act} (ha : a ∈ look) :
    a.phase = .look ∧ op.kind.isRoot = false ∧ ∀ e, a = .get (.error e) → e = .absent := by
  cases h with
  | root hop => cases ha
  | look hop hr =>
    obtain rfl := List.mem_singleton.1 ha
    exact ⟨rfl, hop, fun e he => hr e (Act.get.inj he)⟩

/-- Calls that go through the phases are in order. -/
theorem inOrder_append (hlook : IsLook op look) (hc : c.phase = .commit)
    (htail : tail.Pairwise fun a b => a.phase.rank ≤ b.phase.rank)
    (hrank : ∀ a ∈ tail, 3 ≤ a.phase.rank) :
    (look ++ Act.creations es ++ c :: tail).Pairwise fun a b => a.phase.rank ≤ b.phase.rank := by
  have hlook₀ : ∀ a ∈ look, a.phase.rank = 0 := fun a ha => by rw [(hlook.of_mem ha).1]; rfl
  have hcreation : ∀ a ∈ Act.creations es, a.phase.rank = 1 := fun a ha => by
    rw [phase_of_mem_creations ha]; rfl
  have hcommit : c.phase.rank = 2 := by rw [hc]; rfl
  have hbegin : ∀ a ∈ look ++ Act.creations es, a.phase.rank ≤ 1 := fun a ha => by
    rcases List.mem_append.1 ha with ha | ha
    · rw [hlook₀ a ha]
      exact Nat.zero_le 1
    · rw [hcreation a ha]
  have hend : ∀ b ∈ c :: tail, 2 ≤ b.phase.rank := fun b hb => by
    rcases List.mem_cons.1 hb with rfl | hb
    · rw [hcommit]
    · exact (hrank b hb).trans' (by decide)
  refine List.pairwise_append.2 ⟨List.pairwise_append.2 ⟨?_, ?_, fun a ha b _ => ?_⟩,
    List.pairwise_cons.2 ⟨fun b hb => ?_, htail⟩, fun a ha b hb => ?_⟩
  · exact List.pairwise_of_forall_mem_list fun a ha b hb => by rw [hlook₀ a ha, hlook₀ b hb]
  · exact List.pairwise_of_forall_mem_list fun a ha b hb => by rw [hcreation a ha, hcreation b hb]
  · rw [hlook₀ a ha]
    exact Nat.zero_le _
  · rw [hcommit]
    exact hend b (List.mem_cons_of_mem c hb)
  · exact (hbegin a ha).trans ((hend b hb).trans' (by decide))

theorem once_append (hlook : IsLook op look) (hc : c.phase = .commit)
    (htail : ∀ a ∈ tail, 3 ≤ a.phase.rank)
    (hdelivery : tail.countP (·.phase = .delivery) ≤ 1) (p : Phase)
    (hp : p = .look ∨ p = .commit ∨ p = .delivery) :
    (look ++ Act.creations es ++ c :: tail).countP (·.phase = p) ≤ 1 := by
  have hnone {as : List Act} (h : ∀ a ∈ as, a.phase ≠ p) : as.countP (·.phase = p) = 0 :=
    List.countP_eq_zero.2 fun a ha => by simpa using h a ha
  have hlook₁ : look.countP (·.phase = p) ≤ if p = .look then 1 else 0 := by
    split
    · exact List.countP_le_length.trans hlook.length_le
    · rename_i hne
      exact (hnone fun a ha => by rw [(hlook.of_mem ha).1]; exact Ne.symm hne).le
  have hcreation : (Act.creations es).countP (·.phase = p) = 0 := hnone fun a ha => by
    rw [phase_of_mem_creations ha]
    rcases hp with rfl | rfl | rfl <;> decide
  have htail₁ : tail.countP (·.phase = p) ≤ if p = .delivery then 1 else 0 := by
    split
    · rename_i hdel
      rw [hdel]
      exact hdelivery
    · rename_i hne
      refine (hnone fun a ha hap => ?_).le
      have := htail a ha
      rw [hap] at this
      rcases hp with rfl | rfl | rfl <;> first | exact hne rfl | exact absurd this (by decide)
  rw [List.countP_append, List.countP_append, hcreation, List.countP_cons]
  simp only [hc]
  rcases hp with rfl | rfl | rfl <;>
    simp only [reduceCtorEq, decide_false, decide_true, Bool.false_eq_true, if_true, if_false]
      at hlook₁ htail₁ ⊢ <;>
    omega

/-- A call that is not among the looks and creations. -/
theorem mem_end (hlook : IsLook op look) {a : Act} (ha : a ∈ look ++ Act.creations es ++ c :: tail)
    (h : 2 ≤ a.phase.rank) : a = c ∨ a ∈ tail := by
  rcases List.mem_append.1 ha with ha | ha
  · rcases List.mem_append.1 ha with ha | ha
    · rw [(hlook.of_mem ha).1] at h
      exact absurd h (by decide)
    · rw [phase_of_mem_creations ha] at h
      exact absurd h (by decide)
  · exact List.mem_cons.1 ha

/-- A look is among the looks. -/
theorem mem_look (hc : c.phase = .commit) (hrank : ∀ a ∈ tail, 3 ≤ a.phase.rank) {a : Act}
    (ha : a ∈ look ++ Act.creations es ++ c :: tail) (h : a.phase = .look) : a ∈ look := by
  rcases List.mem_append.1 ha with ha | ha
  · refine (List.mem_append.1 ha).resolve_right fun ha => ?_
    rw [phase_of_mem_creations ha] at h
    cases h
  · rcases List.mem_cons.1 ha with rfl | ha
    · rw [hc] at h
      cases h
    · have := hrank a ha
      rw [h] at this
      exact absurd this (by decide)

/-- Calls that go through the phases keep the rules, if a batch is only handed over after a commit
    that succeeded, and the operation ends as these two did. -/
theorem isDisciplined_append (hlook : IsLook op look) {x : Except SiteStateError SiteState}
    (hc : c.committed? = some x) (htail : tail.Pairwise fun a b => a.phase.rank ≤ b.phase.rank)
    (hrank : ∀ a ∈ tail, 3 ≤ a.phase.rank) (hdelivery : tail.countP (·.phase = .delivery) ≤ 1)
    {r : TrackingResult} (hok : ∀ a ∈ tail, a.phase = .delivery → ∃ s, x = .ok s)
    (herror : ∀ e, x = .error e → r = .error (.internal e.message))
    (hresult : ∀ batch e, .publish batch (.error e) ∈ tail → r = .error e.toTrackingError) :
    IsDisciplined op (look ++ Act.creations es ++ c :: tail) r := by
  have hcommit := phase_of_committed? hc
  have hdelivered :
      ∀ a ∈ look ++ Act.creations es ++ c :: tail, a.phase = .delivery → a ∈ tail := by
    intro a ha hphase
    refine (mem_end hlook ha (by rw [hphase]; decide)).resolve_left ?_
    rintro rfl
    rw [hcommit] at hphase
    cases hphase
  refine {
    inOrder := inOrder_append hlook hcommit htail hrank
    once := once_append hlook hcommit hrank hdelivery
    root := fun hop a ha hphase => ?_
    committed := fun a ha hphase => ?_
    blind := fun e he hne => ?_
    uncommitted := fun c' hc' e he => ?_
    undelivered := fun batch e he => hresult batch e (hdelivered _ he rfl) }
  · have := (hlook.of_mem (mem_look hcommit hrank ha hphase)).2.1
    rw [hop] at this
    cases this
  · obtain ⟨s, rfl⟩ := hok a (hdelivered a ha hphase) hphase
    exact ⟨c, by simp, s, hc⟩
  · exact absurd ((hlook.of_mem (mem_look hcommit hrank he rfl)).2.2 e rfl) hne
  · obtain rfl : c' = c := by
      have hphase := phase_of_committed? he
      refine (mem_end hlook hc' (by rw [hphase]; decide)).resolve_right fun htail => ?_
      have := hrank c' htail
      rw [hphase] at this
      exact absurd this (by decide)
    rw [hc] at he
    obtain rfl := Option.some.inj he
    refine ⟨fun a ha hphase => ?_, herror e rfl⟩
    obtain ⟨s, hs⟩ := hok a (hdelivered a ha hphase) hphase
    cases hs

end

/-- A course keeps the rules. -/
theorem isDisciplined_of_course {op : Operation} {as : List Act} {r : TrackingResult}
    (h : Course op as r) : IsDisciplined op as r := by
  have hget (e : SiteStateError) (r : TrackingResult) : Act.get (.error e) ≠ ended r :=
    ne_ended (by simp) r
  have hpublish (batch : List WireEvent) (d : DeliveryResult) (r : TrackingResult) :
      Act.publish batch d ≠ ended r := ne_ended (by simp) r
  cases h with
  | @blind e hop he =>
    exact {
      inOrder := by simp [Phase.rank]
      once := by rintro p (rfl | rfl | rfl) <;> simp
      root := fun h => absurd h (by rw [hop]; decide)
      committed := by simp
      blind := fun e' he' _ => by
        obtain rfl : e' = e := by simpa [hget] using he'
        exact ⟨by simp, rfl, rfl⟩
      uncommitted := fun c hc e' he' => by
        have hphase := phase_of_committed? he'
        revert c
        simp
      undelivered := by simp [hpublish] }
  | dropped es hlook hc =>
    refine isDisciplined_append hlook hc ?_ ?_ ?_ ?_ ?_ ?_ <;> simp [Phase.rank, hpublish]
  | @silent look c d hlook hc =>
    have h : IsDisciplined op (look ++ Act.creations [] ++ [c, ended (.ok 0)]) (.ok 0) := by
      refine isDisciplined_append hlook hc ?_ ?_ ?_ ?_ ?_ ?_ <;> simp [Phase.rank, hpublish]
    rwa [show Act.creations [] = [] from rfl, List.append_nil] at h
  | handed es hlook hc =>
    refine isDisciplined_append hlook hc ?_ ?_ ?_ (fun _ _ _ => ⟨_, rfl⟩) (fun _ h => by cases h) ?_
    · simp [Phase.rank]
    · simp [Phase.rank]
    · simp
    · intro batch e he
      have hr := (List.mem_cons.1 he).resolve_right (by simp [hpublish])
      rw [← (Act.publish.inj hr).2]
      rfl

/-! ## Between operations -/

/-- What may happen to a tracker: an operation; one that is given up while it waits for the
    publisher, if it comes to that; a look at the site state; and anything in the world around. -/
inductive Episode (ω : Type)
  | operation (op : Operation)
  | interruption (op : Operation)
  | look
  | elsewhere (f : ω → ω)

/-- What is heard of it. -/
inductive Heard
  | result (r : TrackingResult)
  | state (r : Except SiteStateError SiteState)
  | nothing

/-- One thing happens. -/
def happen (s : Scene ω) : Episode ω → Heard × Scene ω
  | .operation op => let (r, s) := perform env op s; (.result r, s)
  | .interruption op =>
    match prepare env op s with
    | (.finished r, s) => (.result r, conclude env r s)
    | (.publishing _, s) => (.nothing, s)
  | .look =>
    match siteState env s with
    | .ok state s => (.state (.ok state), s)
    | .error e s => (.state (.error e), s)
  | .elsewhere f => (.nothing, { s with world := f s.world })

/-- One thing happens after another. -/
def live : List (Episode ω) → Scene ω → List Heard × Scene ω
  | [], s => ([], s)
  | h :: hs, s =>
    let (a, s) := happen env s h
    let (as, s) := live hs s
    (a :: as, s)

theorem tracker_happen (s : Scene ω) (hs : s.tracker = {}) (h : Episode ω) :
    (happen env s h).2.tracker = {} := by
  cases h with
  | operation op => exact tracker_perform env op s
  | interruption op =>
    have hprepare := tracker_prepare env op s
    simp only [happen]
    split <;> rename_i heq <;> rw [heq] at hprepare <;> exact hprepare
  | look =>
    simp only [happen, siteState]
    rcases env.get s.world with ⟨e | d, w⟩
    · cases e <;> exact hs
    · exact hs
  | elsewhere f => exact hs

theorem tracker_live (history : List (Episode ω)) (s : Scene ω) (hs : s.tracker = {}) :
    (live env history s).2.tracker = {} := by
  induction history generalizing s with
  | nil => exact hs
  | cons h history ih => exact ih _ (tracker_happen env s hs h)

/-- The calls of an operation, as they are noted down. -/
def acts (op : Operation) (s : Scene ω) : List Act :=
  (perform env.noted op ⟨s.tracker, s.world, []⟩).2.world.2

/-- Whatever surrounds a tracker and whatever happened to it before, the calls of an operation keep
    the rules; and when it ends, and already while it waits for the publisher, the tracker is at
    rest: from then on it does, and is told, what a new one would in its place. -/
theorem isDisciplined (w : ω) (history : List (Episode ω)) (op : Operation) :
    let s := (live env history { world := w }).2
    IsDisciplined op (acts env op s) (perform env op s).1 ∧
      ∀ s', s' = (perform env op s).2 ∨ (∃ batch, prepare env op s = (.publishing batch, s')) →
        s'.tracker = {} ∧ ∀ later, live env later s' = live env later { world := s'.world } := by
  intro s
  have hs : s.tracker = {} := tracker_live env history _ rfl
  refine ⟨?_, fun s' hs' => ?_⟩
  · obtain ⟨as, hacts, hcourse⟩ := course_perform env (s := ⟨s.tracker, s.world, []⟩) op hs
    rw [List.nil_append] at hacts
    rw [acts, hacts]
    have hresult := congrArg (·.1) (perform_noted env op ⟨s.tracker, s.world, []⟩)
    exact hresult ▸ isDisciplined_of_course hcourse
  · have hrest : s'.tracker = {} := by
      rcases hs' with rfl | ⟨batch, hprepare⟩
      · exact tracker_perform env op s
      · have := tracker_prepare env op s
        rwa [hprepare] at this
    refine ⟨hrest, fun later => ?_⟩
    rw [← hrest]

/-- A session is registered, and given up while it waits. Then a click is registered, but the
    publisher fails. -/
theorem isDisciplined_undelivered :
    let publish : Publisher Unit := fun _ u => (.error ⟨.timeout, "late"⟩, u)
    let env := World.surroundings PlainStore.store publish
    let w : World PlainStore Unit := {
      store := {}
      publisher := ()
      supply := { ids := fun n => ⟨Id.v7 n 0, Id.version_v7 n 0⟩ } }
    let s := (live env [.interruption .registerSession] { world := w }).2
    (acts env .registerClick s).map Act.phase = [.look, .creation, .creation, .creation, .creation,
        .commit, .delivery, .ending] ∧
      IsDisciplined .registerClick (acts env .registerClick s)
        (.error (.internal "Timeout: late")) ∧
      (prepare env .registerClick s).2.tracker = {} ∧
      ∀ later, live env later (prepare env .registerClick s).2 =
        live env later { world := (prepare env .registerClick s).2.world } := by
  intro publish env w s
  obtain ⟨hrules, hrest⟩ := isDisciplined env w [.interruption .registerSession] .registerClick
  have hresult : (perform env .registerClick s).1 = .error (.internal "Timeout: late") := by
    decide +kernel
  have hwaits : (match (prepare env .registerClick s).1 with
      | .publishing _ => true
      | .finished _ => false) = true := by decide +kernel
  have hprepare : ∃ batch, prepare env .registerClick s =
      (.publishing batch, (prepare env .registerClick s).2) := by
    revert hwaits
    rcases prepare env .registerClick s with ⟨r | batch, s'⟩
    · exact fun h => by cases h
    · exact fun _ => ⟨batch, rfl⟩
  obtain ⟨htracker, hlater⟩ := hrest _ (.inr hprepare)
  exact ⟨by decide +kernel, hresult ▸ hrules, htracker, hlater⟩

end Tracker

end Clickstream
