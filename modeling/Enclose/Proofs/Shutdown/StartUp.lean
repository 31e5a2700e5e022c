import Enclose.Proofs.Shutdown.Conservation

/-!
# Starting while a signal comes

At its start the service sets up a listener for signals, then builds the server, and then subscribes
the server to the shutdown; the listener triggers the shutdown when the first signal comes, and
ends. The two go on independently of each other. A trigger before the server has subscribed is lost:
the listener has ended, and the server waits for a signal that never comes. A trigger after it
reaches the server (`run_lost_iff`).
-/

namespace Enclose.StartUp

open Shutdown (Poll Answer)

inductive Service where
  | starting
  | listening
  | built
  | subscribed (subscriber : Nat)
  | serving (subscriber : Nat)
  | stopping
  deriving Repr, DecidableEq, Inhabited

def Service.subscriber? : Service → Option Nat
  | subscribed i | serving i => some i
  | starting | listening | built | stopping => none

inductive Listener where
  | absent
  | waiting
  | notified
  | ended
  deriving Repr, DecidableEq, Inhabited

structure World where
  service : Service := .starting
  listener : Listener := .absent
  shutdown : Shutdown := {}
  deriving Repr, DecidableEq, Inhabited

inductive Action where
  | listen
  | build
  | subscribe
  | serve
  | poll
  | signal
  | trigger
  deriving Repr, DecidableEq, Inhabited

/-- What the service, the listener and the one who sends signals can do. Signals that come after the
first one are ignored. Whatever a server receives makes it stop. -/
inductive Step : World → Action → World → Prop where
  | listen {w : World} : w.service = .starting → w.listener = .absent →
    Step w .listen { w with service := .listening, listener := .waiting }
  | build {w : World} : w.service = .listening → Step w .build { w with service := .built }
  | subscribe {w : World} {i : Nat} {shutdown : Shutdown} : w.service = .built →
    w.shutdown.step .subscribe = (.subscriber i, shutdown) →
    Step w .subscribe { w with service := .subscribed i, shutdown }
  | serve {w : World} {i : Nat} : w.service = .subscribed i →
    Step w .serve { w with service := .serving i }
  | wait {w : World} {i : Nat} {shutdown : Shutdown} : w.service = .serving i →
    w.shutdown.step (.poll i) = (.polled .empty, shutdown) → Step w .poll { w with shutdown }
  | stop {w : World} {i : Nat} {shutdown : Shutdown} {found : Poll} : w.service = .serving i →
    w.shutdown.step (.poll i) = (.polled found, shutdown) → found ≠ .empty →
    Step w .poll { w with service := .stopping, shutdown }
  | first {w : World} : w.listener = .waiting →
    Step w .signal { w with listener := .notified }
  | later {w : World} : w.listener = .notified ∨ w.listener = .ended → Step w .signal w
  | trigger {w : World} {shutdown : Shutdown} : w.listener = .notified →
    w.shutdown.step .trigger = (.triggered, shutdown) →
    Step w .trigger { w with listener := .ended, shutdown }

inductive Run : List Action → World → Prop where
  | start : Run [] {}
  | step {actions : List Action} {w w' : World} {action : Action} : Run actions w →
    Step w action w' → Run (actions ++ [action]) w'

def World.finds (w : World) (found : Poll) : Prop :=
  ∃ i, w.service.subscriber? = some i ∧ (w.shutdown.step (.poll i)).1 = .polled found

/-- The listener has triggered the shutdown and ended, and the server has nothing to receive. -/
def World.Lost (w : World) : Prop := w.listener = .ended ∧ w.finds .empty

inductive Situation (actions : List Action) (w : World) : Prop where
  | unsubscribed : .subscribe ∉ actions → (.trigger ∈ actions ↔ w.listener = .ended) →
    w.service.subscriber? = none → w.service ≠ .stopping → w.shutdown = {} → Situation actions w
  | quiet : .subscribe ∈ actions → .trigger ∉ actions → w.listener ≠ .ended →
    w.service.subscriber? = some 0 → w.shutdown = ⟨[some 0]⟩ → Situation actions w
  | lost : [.trigger, .subscribe].Sublist actions → ¬[.subscribe, .trigger].Sublist actions →
    w.listener = .ended → w.service.subscriber? = some 0 → w.shutdown = ⟨[some 0]⟩ →
    Situation actions w
  | told : [.subscribe, .trigger].Sublist actions → ¬[.trigger, .subscribe].Sublist actions →
    w.listener = .ended → w.service.subscriber? = some 0 → w.shutdown = ⟨[some 1]⟩ →
    Situation actions w
  | stopped : [.subscribe, .trigger].Sublist actions → ¬[.trigger, .subscribe].Sublist actions →
    w.listener = .ended → w.service = .stopping → Situation actions w

theorem pair_sublist_concat {α : Type} (x y a : α) (l : List α) :
    [x, y].Sublist (l ++ [a]) ↔ [x, y].Sublist l ∨ x ∈ l ∧ y = a := by
  constructor
  · intro sub
    obtain ⟨front, back, split, inFront, inBack⟩ := List.sublist_append_iff.1 sub
    rcases List.sublist_singleton.1 inBack with rfl | rfl
    · rw [List.append_nil] at split
      exact .inl (split ▸ inFront)
    · have split : [x] ++ [y] = front ++ [a] := split
      obtain ⟨rfl, same⟩ := List.append_inj' split rfl
      exact .inr ⟨List.singleton_sublist.1 inFront, List.singleton_inj.1 same⟩
  · rintro (sub | ⟨isIn, rfl⟩)
    · exact sub.trans (List.sublist_append_left l [a])
    · exact (List.singleton_sublist.2 isIn).append (List.Sublist.refl [y])

variable {actions : List Action} {w w' : World} {action : Action}

theorem Situation.concat_other (situation : Situation actions w) (noSubscribe : .subscribe ≠ action)
    (noTrigger : .trigger ≠ action) (listener : w'.listener = .ended ↔ w.listener = .ended)
    (subscriber : w'.service.subscriber? = w.service.subscriber?)
    (stopping : w'.service = .stopping ↔ w.service = .stopping)
    (shutdown : w'.shutdown = w.shutdown) :
    Situation (actions ++ [action]) w' := by
  have subscribed : .subscribe ∈ actions ++ [action] ↔ .subscribe ∈ actions := by
    simp [noSubscribe]
  have triggered : .trigger ∈ actions ++ [action] ↔ .trigger ∈ actions := by simp [noTrigger]
  have lost : [.trigger, .subscribe].Sublist (actions ++ [action]) ↔
      [.trigger, .subscribe].Sublist actions := by simp [pair_sublist_concat, noSubscribe]
  have told : [.subscribe, .trigger].Sublist (actions ++ [action]) ↔
      [.subscribe, .trigger].Sublist actions := by simp [pair_sublist_concat, noTrigger]
  cases situation with
  | unsubscribed none ended noServer running fresh =>
      exact .unsubscribed (subscribed.not.2 none) (triggered.trans (ended.trans listener.symm))
        (subscriber.trans noServer) (stopping.not.2 running) (shutdown.trans fresh)
  | quiet some none running server silent =>
      exact .quiet (subscribed.2 some) (triggered.not.2 none) (listener.not.2 running)
        (subscriber.trans server) (shutdown.trans silent)
  | lost late notEarly ended server silent =>
      exact .lost (lost.2 late) (told.not.2 notEarly) (listener.2 ended) (subscriber.trans server)
        (shutdown.trans silent)
  | told early notLate ended server pending =>
      exact .told (told.2 early) (lost.not.2 notLate) (listener.2 ended) (subscriber.trans server)
        (shutdown.trans pending)
  | stopped early notLate ended stopped =>
      exact .stopped (told.2 early) (lost.not.2 notLate) (listener.2 ended) (stopping.2 stopped)

theorem situation_subscribe (situation : Situation actions w) (built : w.service = .built)
    {i : Nat} {shutdown : Shutdown}
    (step : w.shutdown.step .subscribe = (.subscriber i, shutdown)) :
    Situation (actions ++ [.subscribe]) { w with service := .subscribed i, shutdown } := by
  cases situation with
  | unsubscribed none ended noServer running fresh =>
      rw [fresh] at step
      obtain ⟨rfl, rfl⟩ : 0 = i ∧ ({} : Shutdown).subscribe = shutdown := by
        simpa [Shutdown.step] using step
      -- Whether the trigger came before decides about all that follows.
      by_cases triggered : .trigger ∈ actions
      · refine .lost ?_ ?_ (ended.1 triggered) rfl rfl
        · exact (pair_sublist_concat ..).2 (.inr ⟨triggered, rfl⟩)
        · rw [pair_sublist_concat]
          rintro (sub | ⟨isIn, -⟩)
          · exact none (sub.subset List.mem_cons_self)
          · exact none isIn
      · exact .quiet (by simp) (by simpa using triggered) (ended.not.1 triggered) rfl rfl
  | quiet _ _ _ server => simp [built, Service.subscriber?] at server
  | lost _ _ _ server => simp [built, Service.subscriber?] at server
  | told _ _ _ server => simp [built, Service.subscriber?] at server
  | stopped _ _ _ stopped => simp [built] at stopped

theorem situation_trigger (situation : Situation actions w) (notified : w.listener = .notified)
    {shutdown : Shutdown} (step : w.shutdown.step .trigger = (.triggered, shutdown)) :
    Situation (actions ++ [.trigger]) { w with listener := .ended, shutdown } := by
  obtain rfl : w.shutdown.trigger = shutdown := by simpa [Shutdown.step] using step
  cases situation with
  | unsubscribed none ended noServer running fresh =>
      exact .unsubscribed (by simpa using none) (by simp) noServer running (by rw [fresh]; rfl)
  | quiet some none running server silent =>
      refine .told ?_ ?_ rfl server (by rw [silent]; rfl)
      · exact (pair_sublist_concat ..).2 (.inr ⟨some, rfl⟩)
      · rw [pair_sublist_concat]
        rintro (sub | ⟨-, same⟩)
        · exact none (sub.subset List.mem_cons_self)
        · cases same
  | lost _ _ ended => simp [notified] at ended
  | told _ _ ended => simp [notified] at ended
  | stopped _ _ ended => simp [notified] at ended

theorem situation_poll (situation : Situation actions w) {i : Nat}
    (serving : w.service = .serving i) {shutdown : Shutdown} {found : Poll}
    (step : w.shutdown.step (.poll i) = (.polled found, shutdown)) :
    (found = .empty → Situation (actions ++ [.poll]) { w with shutdown }) ∧
      (found ≠ .empty →
        Situation (actions ++ [.poll]) { w with service := .stopping, shutdown }) := by
  have own {j : Nat} (server : w.service.subscriber? = some j) : i = j := by
    rw [serving] at server
    exact Option.some.inj server
  have nothing (server : w.service.subscriber? = some 0) (silent : w.shutdown = ⟨[some 0]⟩) :
      found = .empty ∧ shutdown = w.shutdown := by
    obtain rfl := own server
    rw [silent] at step ⊢
    cases step
    exact ⟨rfl, rfl⟩
  have same (unchanged : shutdown = w.shutdown) :
      Situation (actions ++ [.poll]) { w with shutdown } :=
    situation.concat_other (by simp) (by simp) Iff.rfl rfl Iff.rfl unchanged
  cases situation with
  | unsubscribed none ended noServer => simp [serving, Service.subscriber?] at noServer
  | quiet some none running server silent =>
      obtain ⟨rfl, unchanged⟩ := nothing server silent
      exact ⟨fun _ => same unchanged, fun stops => absurd rfl stops⟩
  | lost late notEarly ended server silent =>
      obtain ⟨rfl, unchanged⟩ := nothing server silent
      exact ⟨fun _ => same unchanged, fun stops => absurd rfl stops⟩
  | told early notLate ended server pending =>
      obtain rfl := own server
      rw [pending] at step
      obtain rfl : .signal = found := by
        cases step
        rfl
      refine ⟨fun waits => Poll.noConfusion waits, fun _ => .stopped ?_ ?_ ended rfl⟩
      · simpa [pair_sublist_concat] using early
      · simpa [pair_sublist_concat] using notLate
  | stopped early notLate ended stopped => simp [serving] at stopped

theorem situation_step (situation : Situation actions w) (step : Step w action w') :
    Situation (actions ++ [action]) w' := by
  cases step with
  | listen starting absent =>
      exact situation.concat_other (by simp) (by simp) (by simp [absent]) (by rw [starting]; rfl)
        (by simp [starting]) rfl
  | build listening =>
      exact situation.concat_other (by simp) (by simp) Iff.rfl (by rw [listening]; rfl)
        (by simp [listening]) rfl
  | subscribe built step => exact situation_subscribe situation built step
  | serve subscribed =>
      exact situation.concat_other (by simp) (by simp) Iff.rfl (by rw [subscribed]; rfl)
        (by simp [subscribed]) rfl
  | wait serving step => exact (situation_poll situation serving step).1 rfl
  | stop serving step stops => exact (situation_poll situation serving step).2 stops
  | first waiting =>
      exact situation.concat_other (by simp) (by simp) (by simp [waiting]) rfl Iff.rfl rfl
  | later => exact situation.concat_other (by simp) (by simp) Iff.rfl rfl Iff.rfl rfl
  | trigger notified step => exact situation_trigger situation notified step

theorem situation_of_run {actions : List Action} {w : World} (run : Run actions w) :
    Situation actions w := by
  induction run with
  | start => exact .unsubscribed (by simp) (by simp) rfl (by simp) rfl
  | step _ step ih => exact situation_step ih step

theorem finds_of_eq {p : Nat} (server : w.service.subscriber? = some 0)
    (pending : w.shutdown = ⟨[some p]⟩) {found : Poll} :
    w.finds found ↔ (Poll.ofPending p).1 = found := by
  have step : (w.shutdown.step (.poll 0)).1 = .polled (Poll.ofPending p).1 := by
    rw [pending]
    rfl
  constructor
  · rintro ⟨i, own, finds⟩
    obtain rfl := Option.some.inj (server.symm.trans own)
    exact Answer.polled.inj (step.symm.trans finds)
  · rintro rfl
    exact ⟨0, server, step⟩

/-- A signal is lost exactly on a server that subscribes after the trigger, and it stays so whatever
is done then. A server that subscribes before the trigger receives the signal. -/
theorem run_lost_iff (run : Run actions w) :
    (w.Lost ↔ [.trigger, .subscribe].Sublist actions) ∧
    (∀ more w', Run (actions ++ more) w' → w.Lost → w'.Lost) ∧
    ([.subscribe, .trigger].Sublist actions → w.service = .stopping ∨ w.finds .signal) := by
  have lost {actions : List Action} {w : World} (run : Run actions w) :
      w.Lost ↔ [.trigger, .subscribe].Sublist actions := by
    cases situation_of_run run with
    | unsubscribed none ended noServer =>
        refine ⟨fun lost => ?_, fun late => absurd (late.subset (by simp)) none⟩
        obtain ⟨-, i, server, -⟩ := lost
        rw [noServer] at server
        cases server
    | quiet some none running =>
        exact ⟨fun lost => absurd lost.1 running, fun late => absurd (late.subset (by simp)) none⟩
    | lost late _ ended server silent =>
        exact ⟨fun _ => late, fun _ => ⟨ended, (finds_of_eq server silent).2 rfl⟩⟩
    | told early notLate ended server pending =>
        refine ⟨fun lost => ?_, fun late => absurd late notLate⟩
        cases (finds_of_eq server pending).1 lost.2
    | stopped early notLate ended stopped =>
        refine ⟨fun lost => ?_, fun late => absurd late notLate⟩
        obtain ⟨-, i, server, -⟩ := lost
        rw [stopped] at server
        cases server
  refine ⟨lost run, fun more w' further lostNow => ?_, fun early => ?_⟩
  · exact (lost further).2 (((lost run).1 lostNow).trans (List.sublist_append_left actions more))
  · cases situation_of_run run with
    | unsubscribed none => exact absurd (early.subset (by simp)) none
    | quiet _ none => exact absurd (early.subset (by simp)) none
    | lost _ notEarly => exact absurd early notEarly
    | told _ _ _ server pending => exact .inr ((finds_of_eq server pending).2 rfl)
    | stopped _ _ _ stopped => exact .inl stopped

theorem run_lost_of_earlySignal :
    ∃ w, Run [.listen, .signal, .trigger, .build, .subscribe, .serve] w ∧ w.Lost := by
  have listening := Run.step .start (.listen rfl rfl)
  have notified := listening.step (.first rfl)
  have triggered := notified.step (.trigger rfl rfl)
  have built := triggered.step (.build rfl)
  have subscribed := built.step (.subscribe rfl rfl)
  exact ⟨_, subscribed.step (.serve rfl), rfl, 0, rfl, rfl⟩

theorem run_lost_iff_of_laterSignal :
    ∃ w, Run [.listen, .build, .subscribe, .signal, .trigger] w ∧ ¬w.Lost ∧ w.finds .signal := by
  have listening := Run.step .start (.listen rfl rfl)
  have built := listening.step (.build rfl)
  have subscribed := built.step (.subscribe rfl rfl)
  have notified := subscribed.step (.first rfl)
  have triggered := notified.step (.trigger rfl rfl)
  obtain ⟨lost, -, received⟩ := run_lost_iff triggered
  refine ⟨_, triggered, fun isLost => absurd (lost.1 isLost) (by decide), ?_⟩
  rcases received (by decide) with stopping | finds
  · cases stopping
  · exact finds

end Enclose.StartUp
