import Clickstream.Pipeline
import Clickstream.Proofs.Gateway.History
import Clickstream.World

/-!
# Schedules

A caller of a pipeline waits for its result while the worker, the deliveries and the
router work in the background, in whatever order they come to it. A `LivePipeline` is a
pipeline with the world of its transport, in which each of these takes its own steps: a
delivery first asks the transport and posts the answer later.

A `Schedule` of a call is any order of such steps around and between the two steps of
the caller, at the end of which the call has its result. What publishes batches for a
tracker by waiting for such a pipeline is a scheduler (`IsScheduler`): it may choose any
schedule, by whatever it knows.

* `Publisher.direct`: what the same caller gets who calls the transport itself.
-/

namespace Clickstream

/-! ## Calls without a pipeline -/

section Direct

variable {τ π : Type}

/-- A publisher that also keeps the batches it was given. -/
def Publisher.recorded (publish : Publisher π) : Publisher (π × List (List WireEvent)) :=
  fun batch s =>
    let (result, x) := publish batch s.1
    (result, x, s.2 ++ [batch])

/-- The publisher that calls the transport for a destination directly, and answers like
    a worker where no transport is called. -/
def Publisher.direct (build : Destination → Except Verdict τ) (deliver : τ → Publisher π)
    (d : Destination) : Publisher (π × List (List WireEvent)) := fun batch s =>
  match build d with
  | .error _ => (.error Worker.notConfigured, s)
  | .ok t =>
    if batch.isEmpty then (.error Worker.emptyBatch, s) else (deliver t).recorded batch s

end Direct

/-! ## Steps -/

/-- A pipeline with the world of its transport. -/
structure LivePipeline (τ π : Type) where
  pipeline : Pipeline τ
  world : π
  /-- What the transport has answered and nobody has posted yet, with the numbers of the
      deliveries. -/
  answers : List (Nat × DeliveryResult) := []

namespace LivePipeline

/-- A step of whoever takes part. -/
inductive Step
  | enter (batch : List WireEvent)
  | post (call : Nat)
  | withdraw (call : Nat)
  | route
  | close
  | serve
  /-- A delivery gives its batch to the transport. -/
  | ask (delivery : Nat)
  /-- A delivery posts what the transport has answered. -/
  | finish (delivery elapsed : Nat)
  | stop
  deriving DecidableEq

/-- Whether the step is taken while a caller waits, and not by its own choice. -/
def Step.isBackground : Step → Bool
  | .enter _ | .post _ => false
  | _ => true

variable {τ π : Type} (build : Destination → Except Verdict τ) (deliver : τ → Publisher π)

/-- A step that does not touch the transport. -/
def move? (e : Pipeline.Step) (s : LivePipeline τ π) : Option (LivePipeline τ π) := do
  return { s with pipeline := ← s.pipeline.step? build e }

/-- A call begins, with the next id. -/
def enter? (batch : List WireEvent) (s : LivePipeline τ π) : Option (LivePipeline τ π) :=
  let (id, ids) := s.pipeline.ids.take
  move? build (.gateway (.enter id.id batch)) { s with pipeline := { s.pipeline with ids } }

/-- A delivery gives its batch to the transport, once. -/
def ask? (n : Nat) (s : LivePipeline τ π) : Option (LivePipeline τ π) := do
  let t ← s.pipeline.worker.transport
  let d ← s.pipeline.worker.delivery? n
  guard (s.answers.lookup n).isNone
  let (result, world) := deliver t d.batch s.world
  return { s with world, answers := s.answers ++ [(n, result)] }

/-- A delivery posts what the transport has answered. -/
def finish? (n elapsed : Nat) (s : LivePipeline τ π) : Option (LivePipeline τ π) := do
  let result ← s.answers.lookup n
  move? build (.worker (.finish n result elapsed))
    { s with answers := s.answers.filter (·.1 ≠ n) }

/-- One step, if it is possible. -/
def step? (s : LivePipeline τ π) : Step → Option (LivePipeline τ π)
  | .enter batch => s.enter? build batch
  | .post n => s.move? build (.gateway (.post n))
  | .withdraw n => s.move? build (.gateway (.withdraw n))
  | .route => s.move? build (.gateway .route)
  | .close => s.move? build (.gateway .close)
  | .serve => s.move? build (.worker .serve)
  | .ask n => s.ask? deliver n
  | .finish n elapsed => s.finish? build n elapsed
  | .stop => s.move? build (.worker .stop)

/-- A run of steps, all of which are possible. -/
def run? (s : LivePipeline τ π) (steps : List Step) : Option (LivePipeline τ π) :=
  steps.foldlM (step? build deliver) s

/-- A run goes through the states before and after each of its steps. -/
theorem run?_eq_some_iff {build : Destination → Except Verdict τ} {deliver : τ → Publisher π}
    {s s' : LivePipeline τ π} {steps rest : List Step} {e : Step} :
    s.run? build deliver (steps ++ e :: rest) = some s' ↔
      ∃ s₁ s₂, s.run? build deliver steps = some s₁ ∧ s₁.step? build deliver e = some s₂ ∧
        s₂.run? build deliver rest = some s' := by
  simp only [run?, List.foldlM_append, List.foldlM_cons, Option.bind_eq_bind,
    Option.bind_eq_some_iff, exists_and_left]

/-- What a call has returned, if it has. -/
def outcome? (s : LivePipeline τ π) (n : Nat) : Option DeliveryResult :=
  s.pipeline.gateway.outcome? n

/-! ## Calls -/

/-- The steps around one call: before it enters, until it posts, and until the caller
    goes on with its result. -/
structure Schedule where
  before : List Step := []
  between : List Step := []
  after : List Step := []
  isBackground : ∀ e ∈ before ++ between ++ after, e.isBackground

/-- The steps of a schedule, with those of the caller, whose call has a number. -/
def Schedule.steps (σ : Schedule) (n : Nat) (batch : List WireEvent) : List Step :=
  σ.before ++ .enter batch :: (σ.between ++ .post n :: σ.after)

/-- The pipeline after a call under a schedule, whether the call has its result or not. -/
def call? (σ : Schedule) (batch : List WireEvent) (s : LivePipeline τ π) :
    Option (LivePipeline τ π) :=
  s.run? build deliver (σ.steps s.pipeline.gateway.calls.length batch)

/-- A call gets a result under some schedule, which leaves the pipeline in this state. -/
def Publishes (batch : List WireEvent) (s : LivePipeline τ π) (result : DeliveryResult)
    (s' : LivePipeline τ π) : Prop :=
  ∃ σ : Schedule, s.call? build deliver σ batch = some s' ∧
    s'.outcome? s.pipeline.gateway.calls.length = some result

/-- Whether every call that begins now gets a result: there is a schedule, and whatever
    schedule it goes by, as long as it has no result there is another step in the background.
    There are six of them at most. -/
def Answers (s : LivePipeline τ π) : Prop :=
  ∀ batch, (∃ result s', Publishes build deliver batch s result s') ∧
    ∀ σ s', s.call? build deliver σ batch = some s' →
      (σ.before ++ σ.between ++ σ.after).length ≤ 6 ∧
        ((s'.outcome? s.pipeline.gateway.calls.length).isSome ∨
          ∃ e : Step, e.isBackground ∧ (s'.step? build deliver e).isSome)

/-- The states between the calls of a caller that waits for every result. -/
inductive IsBetweenCalls (start : LivePipeline τ π) : LivePipeline τ π → Prop
  | start : IsBetweenCalls start start
  | call {s s' : LivePipeline τ π} {batch : List WireEvent} {result : DeliveryResult} :
      IsBetweenCalls start s → Publishes build deliver batch s result s' →
        IsBetweenCalls start s'

/-- Whether a publisher waits for a pipeline: each call goes by some schedule, if there is
    one by which it gets a result. What it chooses by is of any type `κ`. -/
def IsScheduler {κ : Type} (start : LivePipeline τ π)
    (publish : Publisher (LivePipeline τ π × κ)) : Prop :=
  ∀ batch s, IsBetweenCalls build deliver start s.1 →
    (∃ result s', Publishes build deliver batch s.1 result s') →
      Publishes build deliver batch s.1 (publish batch s).1 (publish batch s).2.1

end LivePipeline

end Clickstream
