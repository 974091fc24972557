import Pkcs11rs.Library.AssocMap
import Mathlib.Logic.Function.Basic

/-!
# The queue for an I2C bus

A worker that wants the bus takes the queue of the bus from `QUEUES`, enqueues a token and waits for its turn
(`pkcs11rs-connector/src/i2c/fair_queue.rs:20-77`, `i2c/device.rs:212-280`).  A step is what one worker does
under the mutex of `QUEUES` or of the queue, so `BusQueues.step` makes every interleaving.  A worker that
sleeps on the condition variable is woken by a dropped turn, by its deadline or for no reason.

Tokens are numbered in the order in which they are enqueued.  `granted` is a history.
-/

set_option autoImplicit false

namespace Pkcs11rs.Model

open Pkcs11rs.Library

inductive BusIdentity where
  | adapter (rdev : ℕ)
  | file (dev ino : ℕ)
  deriving DecidableEq

/-- How far `BusLock::acquire` has come. -/
inductive TurnPhase where
  /-- It has the queue and is about to enqueue. -/
  | admitted
  /-- Its token is in the queue, and it does not sleep. -/
  | queued (token : ℕ)
  /-- In `wait_timeout`. -/
  | asleep (token : ℕ)
  /-- `wait` has returned the error; the turn is about to be dropped. -/
  | expired (token : ℕ)
  /-- `wait` has returned the turn. -/
  | held (token : ℕ)
  /-- The turn is dropped. -/
  | dropped
  deriving DecidableEq

namespace TurnPhase

/-- The token of a turn that is not dropped. -/
def token : TurnPhase → Option ℕ
  | queued token => some token
  | asleep token => some token
  | expired token => some token
  | held token => some token
  | admitted => none
  | dropped => none

/-- `notify_all`. -/
def notified : TurnPhase → TurnPhase
  | asleep token => queued token
  | phase => phase

end TurnPhase

/-- A worker in `BusLock::acquire`, or with the lock it returned. -/
structure BusWorker where
  bus : BusIdentity
  queue : ℕ
  deadline : ℕ
  phase : TurnPhase
  deriving DecidableEq

/-- The queues of all buses. -/
structure BusQueues where
  now : ℕ
  queues : List (BusIdentity × ℕ)
  /-- The tokens of a queue. -/
  turns : ℕ → List ℕ
  workers : List (ℕ × BusWorker)
  nextQueue : ℕ
  nextToken : ℕ
  granted : List (BusIdentity × ℕ)

/-- What a worker does under a mutex. -/
inductive QueueEvent where
  | busQueue (worker : ℕ) (bus : BusIdentity) (deadline : ℕ)
  | enqueue (worker : ℕ)
  /-- A round of the loop of `wait`. -/
  | wait (worker : ℕ)
  /-- `wait_timeout` returns without a notification. -/
  | wake (worker : ℕ)
  | drop (worker : ℕ)
  /-- The last reference of the worker to the queue goes. -/
  | leave (worker : ℕ)
  | tick
  deriving DecidableEq

variable (s : BusQueues)

namespace BusQueues

def initial : BusQueues where
  now := 0
  queues := []
  turns := fun _ => []
  workers := []
  nextQueue := 0
  nextToken := 0
  granted := []

/-- `strong_count() != 0`. -/
def alive (queue : ℕ) : Bool := s.workers.any fun entry => entry.2.queue = queue

variable (worker : ℕ) (a : BusWorker)

/-- Another phase of a worker. -/
def setPhase (phase : TurnPhase) : BusQueues :=
  { s with workers := mapInsert s.workers worker { a with phase := phase } }

/-- `bus_queue`, with the queues that are still alive. -/
def busQueue (bus : BusIdentity) (deadline : ℕ) : BusQueues :=
  let kept := s.queues.filter fun entry => s.alive entry.2
  match mapGet kept bus with
  | some queue =>
    { s with
      queues := kept
      workers := mapInsert s.workers worker ⟨bus, queue, deadline, .admitted⟩ }
  | none =>
    { s with
      queues := mapInsert kept bus s.nextQueue
      turns := Function.update s.turns s.nextQueue []
      workers := mapInsert s.workers worker ⟨bus, s.nextQueue, deadline, .admitted⟩
      nextQueue := s.nextQueue + 1 }

def enqueue : BusQueues :=
  { s.setPhase worker a (.queued s.nextToken) with
    turns := Function.update s.turns a.queue (s.turns a.queue ++ [s.nextToken])
    nextToken := s.nextToken + 1 }

/-- The check of `Turn::wait`, with the mutex. -/
def wait (token : ℕ) : BusQueues :=
  if s.now ≥ a.deadline then s.setPhase worker a (.expired token)
  else if (s.turns a.queue).head? = some token then
    { s.setPhase worker a (.held token) with granted := s.granted ++ [(a.bus, token)] }
  else s.setPhase worker a (.asleep token)

def notifyAll (workers : List (ℕ × BusWorker)) (queue : ℕ) : List (ℕ × BusWorker) :=
  workers.map fun entry =>
    (entry.1, if entry.2.queue = queue then { entry.2 with phase := entry.2.phase.notified }
      else entry.2)

/-- `Drop for Turn`. -/
def drop (token : ℕ) : BusQueues :=
  { s with
    turns := Function.update s.turns a.queue ((s.turns a.queue).erase token)
    workers := mapInsert (notifyAll s.workers a.queue) worker { a with phase := .dropped } }

/-- One step of a worker, or of the clock. -/
def step : QueueEvent → Option BusQueues
  | .busQueue worker bus deadline =>
    if mapHas s.workers worker then none else some (s.busQueue worker bus deadline)
  | .enqueue worker =>
    (mapGet s.workers worker).bind fun a =>
      match a.phase with
      | .admitted => some (s.enqueue worker a)
      | _ => none
  | .wait worker =>
    (mapGet s.workers worker).bind fun a =>
      match a.phase with
      | .queued token => some (s.wait worker a token)
      | _ => none
  | .wake worker =>
    (mapGet s.workers worker).bind fun a =>
      match a.phase with
      | .asleep token => some (s.setPhase worker a (.queued token))
      | _ => none
  | .drop worker =>
    (mapGet s.workers worker).bind fun a =>
      match a.phase with
      | .queued token => some (s.drop worker a token)
      | .expired token => some (s.drop worker a token)
      | .held token => some (s.drop worker a token)
      | _ => none
  | .leave worker =>
    (mapGet s.workers worker).bind fun a =>
      match a.phase with
      | .dropped => some { s with workers := mapRemove s.workers worker }
      | _ => none
  | .tick => some { s with now := s.now + 1 }

end BusQueues

end Pkcs11rs.Model
