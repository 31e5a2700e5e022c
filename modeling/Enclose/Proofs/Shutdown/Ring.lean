import Enclose.Shutdown
import Mathlib.Data.Option.Basic

/-!
# The channel of one slot

A broadcast channel numbers what is sent through it. It keeps as much as it has slots, here the last
signal only, and each receiver has the number of the signal that it reads next; one whose signal is
no longer there learns how many are gone, and goes on with the one that is. What a shutdown keeps is
how far each receiver is behind, and with it everything that it answers (`run_eq`, `after_eq`).
-/

namespace Enclose.Shutdown

/-- The number of signals sent, and for each receiver ever given out the number of the signal that
it reads next, or `none` once dropped. -/
structure Ring where
  sent : Nat := 0
  receivers : List (Option Nat) := []
  deriving Repr, DecidableEq, Inhabited

namespace Ring

def next? (r : Ring) (i : Nat) : Option Nat := (r.receivers[i]?).join

def send (r : Ring) : Ring :=
  if r.receivers.any Option.isSome then { r with sent := r.sent + 1 } else r

def put (r : Ring) (i : Nat) (entry : Option Nat) : Ring :=
  { r with receivers := r.receivers.set i entry }

/-- What a receiver finds that reads a signal next, and the signal that it reads after that. Only the
last one sent is there. -/
def receive (sent next : Nat) : Poll × Nat :=
  if sent ≤ next then (.empty, next)
  else if next < sent - 1 then (.lagged (sent - 1 - next), sent - 1)
  else (.signal, next + 1)

def step (r : Ring) : Step → Answer × Ring
  | .subscribe =>
    (.subscriber r.receivers.length, { r with receivers := r.receivers ++ [some r.sent] })
  | .trigger => (.triggered, r.send)
  | .poll i =>
    match r.next? i with
    | some next => (.polled (receive r.sent next).1, r.put i (some (receive r.sent next).2))
    | none => (.noSuchSubscriber, r)
  | .drop i =>
    match r.receivers[i]? with
    | some entry => (.dropped entry.isSome, r.put i none)
    | none => (.noSuchSubscriber, r)

def receiverCount (r : Ring) : Nat := (r.receivers.filter Option.isSome).length

def run (r : Ring) : List Step → List (Answer × Nat)
  | [] => []
  | action :: rest =>
    ((r.step action).1, (r.step action).2.receiverCount) :: (r.step action).2.run rest

def after (r : Ring) (steps : List Step) : Ring :=
  steps.foldl (fun r action => (r.step action).2) r

def behind (r : Ring) : Shutdown := ⟨r.receivers.map fun entry => entry.map (r.sent - ·)⟩

def Sound (r : Ring) : Prop := ∀ next, some next ∈ r.receivers → next ≤ r.sent

variable {r : Ring}

theorem behind_pending? (r : Ring) (i : Nat) :
    r.behind.pending? i = (r.next? i).map (r.sent - ·) := by
  unfold pending? next? behind
  cases entry : r.receivers[i]? <;> simp [entry]

theorem behind_receiverCount (r : Ring) : r.behind.receiverCount = r.receiverCount := by
  simp [Shutdown.receiverCount, receiverCount, behind, List.filter_map, Function.comp_def]

theorem behind_put (r : Ring) (i : Nat) (entry : Option Nat) :
    (r.put i entry).behind = r.behind.put i (entry.map (r.sent - ·)) := by
  simp [behind, put, Shutdown.put, List.map_set]

theorem behind_send (sound : r.Sound) : r.send.behind = r.behind.trigger := by
  unfold send
  split
  case isTrue some =>
    simp only [behind, trigger, List.map_map, Shutdown.mk.injEq, List.map_inj_left]
    intro entry isIn
    cases entry with
    | none => rfl
    | some next =>
        have bound := sound next isIn
        simp only [Option.map_some, Function.comp_apply, Option.some.injEq]
        omega
  case isFalse none =>
    simp only [behind, trigger, List.map_map, Shutdown.mk.injEq, List.map_inj_left]
    intro entry isIn
    cases entry with
    | none => rfl
    | some next => exact absurd (List.any_eq_true.2 ⟨some next, isIn, rfl⟩) none

theorem sound_send (sound : r.Sound) : r.send.Sound := by
  unfold send
  split
  · exact fun next isIn => Nat.le_succ_of_le (sound next isIn)
  · exact sound

theorem receive_eq {sent next : Nat} (bound : next ≤ sent) :
    (receive sent next).1 = (Poll.ofPending (sent - next)).1 ∧
      sent - (receive sent next).2 = (Poll.ofPending (sent - next)).2 ∧
      (receive sent next).2 ≤ sent := by
  obtain ⟨missing, rfl⟩ := Nat.exists_eq_add_of_le bound
  rcases missing with _ | _ | missing
  case zero => simp [receive, Poll.ofPending]
  case succ.zero =>
      have late : ¬next + 1 ≤ next := by omega
      simp [receive, Poll.ofPending, late]
  case succ.succ =>
      have late : ¬next + (missing + 2) ≤ next := by omega
      have gone : next < next + (missing + 2) - 1 := by omega
      have pending : next + (missing + 2) - next = missing + 2 := by omega
      rw [receive, if_neg late, if_pos gone, pending]
      refine ⟨?_, ?_, ?_⟩
      · simp only [Poll.ofPending, Poll.lagged.injEq]
        omega
      · simp only [Poll.ofPending]
        omega
      · simp only
        omega

theorem sound_put (sound : r.Sound) (i : Nat) {entry : Option Nat}
    (bound : ∀ next, entry = some next → next ≤ r.sent) : (r.put i entry).Sound := by
  intro next isIn
  rcases List.mem_or_eq_of_mem_set isIn with old | new
  · exact sound next old
  · exact bound next new.symm

theorem step_behind (sound : r.Sound) (action : Step) :
    (r.behind.step action) = ((r.step action).1, (r.step action).2.behind) ∧
      (r.step action).2.Sound := by
  cases action with
  | subscribe =>
      refine ⟨?_, fun next isIn => ?_⟩
      · simp [step, Shutdown.step, behind, subscribe]
      · rcases List.mem_append.1 isIn with old | new
        · exact sound next old
        · simp only [List.mem_singleton, Option.some.injEq] at new
          exact Nat.le_of_eq new
  | trigger =>
      exact ⟨by rw [Shutdown.step, step, behind_send sound], sound_send sound⟩
  | poll i =>
      cases reads : r.next? i with
      | none => simp [step, Shutdown.step, behind_pending?, reads, sound]
      | some next =>
          have bound : next ≤ r.sent := by
            refine sound next (List.mem_of_getElem? (i := i) ?_)
            exact Option.join_eq_some_iff.1 reads
          obtain ⟨found, left, still⟩ := receive_eq bound
          refine ⟨?_, ?_⟩
          · simp [step, Shutdown.step, behind_pending?, reads, behind_put, found, left]
          · simp only [step, reads]
            refine sound_put sound i fun after isAfter => ?_
            obtain rfl := Option.some.inj isAfter
            exact still
  | drop i =>
      cases entry : r.receivers[i]? with
      | none => simp [step, Shutdown.step, behind, entry, sound]
      | some entry' =>
          refine ⟨?_, ?_⟩
          · simp only [Shutdown.step, step, behind_put, entry]
            simp [behind, entry]
          · simp only [step, entry]
            exact sound_put sound i fun next isNext => by cases isNext

theorem run_behind (sound : r.Sound) (steps : List Step) : r.behind.run steps = r.run steps := by
  induction steps generalizing r with
  | nil => rfl
  | cons action rest ih =>
      obtain ⟨same, stays⟩ := step_behind sound action
      rw [Shutdown.run, same, run, behind_receiverCount, ih stays]

theorem after_behind (sound : r.Sound) (steps : List Step) :
    steps.foldl (fun s action => (s.step action).2) r.behind = (r.after steps).behind := by
  induction steps generalizing r with
  | nil => rfl
  | cons action rest ih =>
      obtain ⟨same, stays⟩ := step_behind sound action
      rw [List.foldl_cons, same, ih stays, after, after, List.foldl_cons]

end Ring

def after (s : Shutdown) (steps : List Step) : Shutdown :=
  steps.foldl (fun s action => (s.step action).2) s

theorem Ring.sound_fresh : ({} : Ring).Sound := fun _ isIn => absurd isIn List.not_mem_nil

theorem run_eq (steps : List Step) : ({} : Shutdown).run steps = ({} : Ring).run steps :=
  Ring.run_behind Ring.sound_fresh steps

theorem after_eq (steps : List Step) :
    ({} : Shutdown).after steps = (({} : Ring).after steps).behind :=
  Ring.after_behind Ring.sound_fresh steps

end Enclose.Shutdown
