/-
# Jackfield.Router.Router -- the two routers

`Consumer` is what consumers answer while one `route` call runs: each is asked
`available` and `validate` at most once per call, and may answer differently the
next time.

`route` is asynchronous and suspends at one place only, the awaited `consume` of
the chosen consumer.  `Routing` is what running it up to there gives: either it
handed the message to a consumer and waits, with the rest of the function as
`resume` (which takes the measured latency), or it returned the envelope.
-/
import Jackfield.Registry.Registry

namespace Jackfield

set_option autoImplicit false

/-- The answers of the boxed consumers during one `route` call. -/
structure Consumer (M C : Type) where
  available : C → Bool
  validate : C → Envelope M → Bool

inductive Routing (F I M C : Type) where
  /-- `consume` of the consumer of `entry`, at index `idx`, was called with the message. -/
  | consuming (idx : Nat) (entry : RegistrationEntry F I M C) (resume : Nat → Registry F I M C)
  /-- The envelope came back, `Some(envelope)`. -/
  | unhandled (registry : Registry F I M C) (envelope : Envelope M)

variable {F I M C : Type} [F32 F] [Message M]

namespace AffinityRouter

/-- The scan of the ranked candidates: which were tried in vain (`true`: busy,
`false`: vetoed), and the winner. -/
def scan (consumer : Consumer M C) (entries : List (RegistrationEntry F I M C))
    (envelope : Envelope M) :
    List (Candidate F) → List (Nat × Bool) → List (Nat × Bool) × Option (Nat × RegistrationEntry F I M C)
  | [], preWinner => (preWinner, none)
  | c :: rest, preWinner =>
      match entries[c.idx]? with
      | none => scan consumer entries envelope rest preWinner -- never taken: `qualified_inRange`
      | some entry =>
          if !consumer.available entry.consumer then
            scan consumer entries envelope rest (preWinner ++ [(c.idx, true)])
          else if !consumer.validate entry.consumer envelope then
            scan consumer entries envelope rest (preWinner ++ [(c.idx, false)])
          else (preWinner, some (c.idx, entry))

def route (consumer : Consumer M C) (registry : Registry F I M C) (envelope : Envelope M) :
    Routing F I M C :=
  let plan := registry.plan envelope
  match scan consumer registry.entries envelope plan.qualified [] with
  | (preWinner, some (idx, entry)) =>
      .consuming idx entry fun latency =>
        (registry.observe plan (some idx) preWinner).observeConsumed idx plan.eventMeta latency
  | (preWinner, none) => .unhandled (registry.observe plan none preWinner) envelope

end AffinityRouter

namespace BlindRouter

/-- Does a required dimension of the entry reject the envelope? -/
def hardRejected (envelope : Envelope M) (entry : RegistrationEntry F I M C) : Bool :=
  (entry.dims.filter fun de => de.rejectOnMiss).any fun de =>
    (de.dim.evaluate envelope de.state).isReject

/-- The loop over the entries, from index `i` on. -/
def firstFit (consumer : Consumer M C) (envelope : Envelope M) :
    List (RegistrationEntry F I M C) → Nat → Option (Nat × RegistrationEntry F I M C)
  | [], _ => none
  | entry :: rest, i =>
      if hardRejected envelope entry then firstFit consumer envelope rest (i + 1)
      else if !consumer.available entry.consumer then firstFit consumer envelope rest (i + 1)
      else if !consumer.validate entry.consumer envelope then firstFit consumer envelope rest (i + 1)
      else some (i, entry)

def route (consumer : Consumer M C) (registry : Registry F I M C) (envelope : Envelope M) :
    Routing F I M C :=
  match firstFit consumer envelope registry.entries 0 with
  | some (idx, entry) => .consuming idx entry fun _ => registry
  | none => .unhandled registry envelope

end BlindRouter

/-- The routers of the crate. -/
inductive Router where
  | affinity
  | blind
  deriving DecidableEq

def Router.route (router : Router) (consumer : Consumer M C) (registry : Registry F I M C)
    (envelope : Envelope M) : Routing F I M C :=
  match router with
  | .affinity => AffinityRouter.route consumer registry envelope
  | .blind => BlindRouter.route consumer registry envelope

end Jackfield
