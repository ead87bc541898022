/-
# Jackfield.Endpoint.Throttle -- producer handles and their token buckets

A handle sends under its origin into the envelope channel.  One given out by
`register_producer_throttled` also has a token bucket, which its clones share.
`make_send` and `make_send_with_origin` return a future that first gets a token -- it
tries under the lock of the bucket, and sleeps in between -- and then waits for room in
the channel; `try_make_send` puts the message into the channel at once, or fails.

`Producers` is a bus with the handles given out, their buckets and the futures, at a
time.  Its steps are the calls, what a future does when it is polled, and the passing
of time, so its runs are all mixes of these over any number of handles, next to anything
else that happens to the bus.  Times are rational numbers of seconds, where the program
has `Instant` and `f64`.  The senders a handle and a future hold are counted by the
`makeHandle` and `dropHandle` of the bus.
-/
import Jackfield.Bus.Desk

namespace Jackfield

set_option autoImplicit false

/-! ## The bucket -/

structure TokenBucket where
  capacity : ℚ
  tokens : ℚ
  /-- Tokens per second. -/
  rate : ℚ
  lastRefill : ℚ
  deriving DecidableEq

structure Throttle where
  /-- Messages per second. -/
  rate : Nat
  burst : Nat
  deriving DecidableEq

inductive Acquired where
  | token
  | wait (duration : ℚ)
  /-- `from_secs_f64` panics: without a rate the wait is infinite. -/
  | panicked
  deriving DecidableEq

namespace TokenBucket

def new (ratePerSec burst : Nat) (now : ℚ) : TokenBucket where
  capacity := burst
  tokens := burst
  rate := ratePerSec
  lastRefill := now

def refill (b : TokenBucket) (now : ℚ) : TokenBucket :=
  -- `duration_since` saturates
  let elapsed := max 0 (now - b.lastRefill)
  { b with tokens := min (b.tokens + elapsed * b.rate) b.capacity, lastRefill := now }

def tryAcquire (b : TokenBucket) (now : ℚ) : TokenBucket × Acquired :=
  let b := b.refill now
  if 1 ≤ b.tokens then ({ b with tokens := b.tokens - 1 }, .token)
  else if b.rate = 0 then (b, .panicked)
  else (b, .wait ((1 - b.tokens) / b.rate))

end TokenBucket

/-! ## Handles and futures -/

/-- A handle; `throttle` names its bucket. -/
structure ProducerHandle where
  origin : ProducerId
  throttle : Option Nat
  deriving DecidableEq

inductive SendError where
  | channelFull
  | channelClosed
  deriving DecidableEq

inductive SendPhase where
  /-- In `wait_for_token`, about to try. -/
  | waiting
  | sleeping (deadline : ℚ)
  /-- In `sender.send`. -/
  | sending
  | ended
  deriving DecidableEq

/-- A future of `make_send` or `make_send_with_origin`. -/
structure MakeSend (M : Type) where
  origin : ProducerId
  message : M
  throttle : Option Nat
  phase : SendPhase

structure Producers (F I M C : Type) where
  desk : Desk F I M C
  now : ℚ
  buckets : List TokenBucket
  handles : List ProducerHandle
  sends : List (MakeSend M)

inductive ProducerAction (F I M C : Type) where
  /-- `make_handle`, and what `register_producer` attaches. -/
  | makeHandle (name : String)
  | registerProducerThrottled (name : String) (throttle : Throttle)
  | clone (h : Nat)
  | tryMakeSend (h : Nat) (message : M)
  | makeSend (h : Nat) (message : M)
  | makeSendWithOrigin (h : Nat) (origin : ProducerId) (message : M)
  | poll (n : Nat)
  /-- The future is dropped. -/
  | cancel (n : Nat)
  | wait (duration : ℚ)
  /-- Anything else that happens to the bus. -/
  | desk (a : DeskAction F I M C)

inductive ProducerEvent (M : Type) where
  | bus (e : Event M)
  /-- Bucket `b` was made. -/
  | throttled (b : Nat) (throttle : Throttle)
  /-- A `try_make_send` on a handle with this bucket returned. -/
  | tried (throttle : Option Nat) (now : ℚ) (error : Option SendError)
  /-- The `n`-th future got a token from bucket `b`. -/
  | acquired (n b : Nat) (now : ℚ)
  /-- The `n`-th future returned. -/
  | sent (n : Nat) (error : Option SendError)
  | panicked (n : Nat)
  deriving DecidableEq

namespace Producers

variable {F I M C : Type}

def init (capacity : Nat) (router : Router) (cap : Nat) : Producers F I M C where
  desk := .init capacity router cap
  now := 0
  buckets := []
  handles := []
  sends := []

/-- The future of a `make_send`, under this origin. -/
def begin (s : Producers F I M C) (handle : ProducerHandle) (origin : ProducerId) (message : M) :
    Producers F I M C :=
  { s with sends := s.sends ++ [⟨origin, message, handle.throttle, .waiting⟩] }

def setPhase (s : Producers F I M C) (n : Nat) (phase : SendPhase) : Producers F I M C :=
  { s with sends := s.sends.modify n fun send => { send with phase := phase } }

/-- `wait_for_token`, up to its next suspension or its end. -/
def waitForToken (s : Producers F I M C) (n : Nat) (throttle : Option Nat) :
    Option (Producers F I M C × List (ProducerEvent M)) :=
  match throttle with
  | none => some (s.setPhase n .sending, [])
  | some b =>
      s.buckets[b]?.map fun bucket =>
        let (bucket, answer) := bucket.tryAcquire s.now
        let s := { s with buckets := s.buckets.set b bucket }
        match answer with
        | .token => (s.setPhase n .sending, [.acquired n b s.now])
        | .wait duration => (s.setPhase n (.sleeping (s.now + duration)), [])
        | .panicked => (s.setPhase n .ended, [.panicked n])

variable [F32 F] [Message M]

/-- `sender.try_send`.  tokio keeps a slot that gets free for a sender that waits, and can
then answer `Full` with room in the buffer; here the channel is full when its buffer is. -/
def trySend (s : Producers F I M C) (origin : ProducerId) (message : M) :
    Except SendError (Producers F I M C × List (ProducerEvent M)) :=
  if s.desk.closed then .error .channelClosed
  else
    match s.desk.step (.world (.send origin message)) with
    | none => .error .channelFull
    | some (desk, es) => .ok ({ s with desk := desk }, es.map .bus)

def step (s : Producers F I M C) :
    ProducerAction F I M C → Option (Producers F I M C × List (ProducerEvent M))
  | .makeHandle name => some ({ s with handles := s.handles ++ [⟨⟨name⟩, none⟩] }, [])
  | .registerProducerThrottled name throttle =>
      match s.desk.world.control with
      | .idle =>
          if s.desk.closed then none
          else
            some ({ s with
                buckets := s.buckets ++ [.new throttle.rate throttle.burst s.now]
                handles := s.handles ++ [⟨⟨name⟩, some s.buckets.length⟩] },
              [.throttled s.buckets.length throttle])
      | _ => none
  | .clone h => s.handles[h]?.map fun handle => ({ s with handles := s.handles ++ [handle] }, [])
  | .tryMakeSend h message =>
      s.handles[h]?.map fun handle =>
        match s.trySend handle.origin message with
        | .error e => (s, [.tried handle.throttle s.now (some e)])
        | .ok (s', es) => (s', es ++ [.tried handle.throttle s.now none])
  | .makeSend h message =>
      s.handles[h]?.map fun handle => (s.begin handle handle.origin message, [])
  | .makeSendWithOrigin h origin message =>
      s.handles[h]?.map fun handle => (s.begin handle origin message, [])
  | .poll n =>
      match s.sends[n]? with
      | none => none
      | some send =>
          match send.phase with
          | .waiting => s.waitForToken n send.throttle
          | .sleeping deadline => if deadline ≤ s.now then some (s.setPhase n .waiting, []) else none
          | .sending =>
              match s.trySend send.origin send.message with
              | .error .channelClosed => some (s.setPhase n .ended, [.sent n (some .channelClosed)])
              -- it waits for room
              | .error .channelFull => none
              | .ok (s', es) => some (s'.setPhase n .ended, es ++ [.sent n none])
          | .ended => none
  | .cancel n => s.sends[n]?.map fun _ => (s.setPhase n .ended, [])
  | .wait duration => if 0 ≤ duration then some ({ s with now := s.now + duration }, []) else none
  | .desk a => (s.desk.step a).map fun (desk, es) => ({ s with desk := desk }, es.map .bus)

end Producers

end Jackfield
