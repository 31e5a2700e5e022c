/-!
The broadcast of a shutdown. A subscriber that does not poll keeps only the last signal: it learns
how many it missed, and then receives that one.
-/

namespace Enclose

/-- For each subscriber ever given out the number of its pending signals, or `none` once dropped. -/
structure Shutdown where
  subscribers : List (Option Nat) := []
  deriving Repr, DecidableEq, Inhabited

namespace Shutdown

inductive Poll where
  | signal
  | empty
  | closed
  | lagged (missed : Nat)
  deriving Repr, DecidableEq, Inhabited

inductive Step where
  | subscribe
  | trigger
  | poll (subscriber : Nat)
  | drop (subscriber : Nat)
  deriving Repr, DecidableEq, Inhabited

inductive Answer where
  | subscriber (number : Nat)
  | triggered
  | polled (poll : Poll)
  | dropped (wasLive : Bool)
  | noSuchSubscriber
  deriving Repr, DecidableEq, Inhabited

def receiverCount (s : Shutdown) : Nat := (s.subscribers.filter Option.isSome).length

def pending? (s : Shutdown) (i : Nat) : Option Nat := (s.subscribers[i]?).join

def subscribe (s : Shutdown) : Shutdown := ⟨s.subscribers ++ [some 0]⟩

def trigger (s : Shutdown) : Shutdown := ⟨s.subscribers.map (·.map (· + 1))⟩

def put (s : Shutdown) (i : Nat) (entry : Option Nat) : Shutdown := ⟨s.subscribers.set i entry⟩

def Poll.ofPending : Nat → Poll × Nat
  | 0 => (.empty, 0)
  | 1 => (.signal, 0)
  | missed + 2 => (.lagged (missed + 1), 1)

def step (s : Shutdown) : Step → Answer × Shutdown
  | .subscribe => (.subscriber s.subscribers.length, s.subscribe)
  | .trigger => (.triggered, s.trigger)
  | .poll i =>
    match s.pending? i with
    | some p => (.polled (Poll.ofPending p).1, s.put i (some (Poll.ofPending p).2))
    | none => (.noSuchSubscriber, s)
  | .drop i =>
    match s.subscribers[i]? with
    | some entry => (.dropped entry.isSome, s.put i none)
    | none => (.noSuchSubscriber, s)

def run (s : Shutdown) : List Step → List (Answer × Nat)
  | [] => []
  | action :: rest =>
    ((s.step action).1, (s.step action).2.receiverCount) :: (s.step action).2.run rest

end Shutdown

end Enclose
