import Enclose.Proofs.Shutdown.Ring
import Mathlib.Data.List.Infix
import Mathlib.Data.List.TakeWhile

/-!
# No signal is lost on a subscriber

Whatever is done with a shutdown, in whatever order, every signal sent since a subscriber came is
one that it received, one that it was told it missed, or one that is pending (`Accounted.balance`),
and the receivers counted are those given out and not dropped. Each is a property of the history,
that one more step preserves (`accounted_step`).
-/

namespace Enclose.Shutdown

abbrev Event := Step × Answer

def history (s : Shutdown) : List Step → List Event
  | [] => []
  | action :: rest => (action, (s.step action).1) :: (s.step action).2.history rest

/-! ## What a history tells -/

def given (h : List Event) : Nat := h.countP (·.1 = .subscribe)

def droppedCount (h : List Event) : Nat := h.countP (·.2 = .dropped true)

def since (i : Nat) (h : List Event) : List Event :=
  (h.dropWhile (·.2 != .subscriber i)).tail

def triggers (h : List Event) : Nat := h.countP (·.1 = .trigger)

def signals (i : Nat) (h : List Event) : Nat := h.count (.poll i, .polled .signal)

def missedIn (i : Nat) : Event → Nat
  | (.poll j, .polled (.lagged missed)) => if j = i then missed else 0
  | _ => 0

def missed (i : Nat) (h : List Event) : Nat := h.foldr (fun e n => missedIn i e + n) 0

def Live (i : Nat) (h : List Event) : Prop := i < given h ∧ (.drop i, .dropped true) ∉ h

/-! ## One step -/

section

variable (s : Shutdown) (i j : Nat)

theorem pending?_eq_some_iff {p : Nat} :
    s.pending? i = some p ↔ s.subscribers[i]? = some (some p) := by
  rw [pending?, Option.join_eq_some_iff]

theorem lt_of_pending? {s : Shutdown} {i p : Nat} (pending : s.pending? i = some p) :
    i < s.subscribers.length :=
  (List.getElem?_eq_some_iff.1 ((s.pending?_eq_some_iff i).1 pending)).1

theorem pending?_subscribe :
    s.subscribe.pending? i = if i = s.subscribers.length then some 0 else s.pending? i := by
  unfold pending? subscribe
  rcases Nat.lt_trichotomy i s.subscribers.length with old | new | beyond
  · rw [List.getElem?_append_left old, if_neg (Nat.ne_of_lt old)]
  · rw [if_pos new, new, List.getElem?_concat_length]
    rfl
  · have short : (s.subscribers ++ [some 0]).length ≤ i := by
      rw [List.length_append]
      exact beyond
    rw [List.getElem?_eq_none short, List.getElem?_eq_none (Nat.le_of_lt beyond),
      if_neg (Nat.ne_of_gt beyond)]

theorem pending?_trigger : s.trigger.pending? i = (s.pending? i).map (· + 1) := by
  unfold pending? trigger
  rw [List.getElem?_map]
  cases s.subscribers[i]? with
  | none => rfl
  | some entry => rfl

theorem pending?_put_ne (entry : Option Nat) (other : i ≠ j) :
    (s.put i entry).pending? j = s.pending? j := by
  rw [pending?, put, List.getElem?_set_ne other, pending?]

theorem pending?_put_eq (entry : Option Nat) (known : i < s.subscribers.length) :
    (s.put i entry).pending? i = entry := by
  rw [pending?, put, List.getElem?_set_self known]
  rfl

theorem poll_pending? (other : i ≠ j) : (s.step (.poll i)).2.pending? j = s.pending? j := by
  simp only [step]
  split
  · exact s.pending?_put_ne i j _ other
  · rfl

theorem drop_pending? (other : i ≠ j) : (s.step (.drop i)).2.pending? j = s.pending? j := by
  simp only [step]
  split
  · exact s.pending?_put_ne i j _ other
  · rfl

theorem receiverCount_eq : s.receiverCount = s.subscribers.countP Option.isSome := by
  rw [receiverCount, List.countP_eq_length_filter]

theorem trigger_of_receiverCount {s : Shutdown} (alone : s.receiverCount = 0) : s.trigger = s := by
  rw [receiverCount_eq, List.countP_eq_zero] at alone
  have same : s.subscribers.map (·.map (· + 1)) = s.subscribers := by
    refine (List.map_congr_left fun entry isIn => ?_).trans s.subscribers.map_id
    cases entry with
    | none => rfl
    | some p => exact absurd rfl (alone (some p) isIn)
  rw [trigger, same]

theorem poll_of_pending? {s : Shutdown} {i p : Nat} (pending : s.pending? i = some p) :
    ∃ found s', s.step (.poll i) = (.polled found, s') ∧
      (found = .empty ↔ p = 0) ∧ (found = .signal ↔ p = 1) ∧
      (∀ n, found = .lagged n ↔ p = n + 1 ∧ 2 ≤ p) ∧ found ≠ .closed ∧
      s'.pending? i = some (if p ≤ 1 then 0 else 1) := by
  refine ⟨(Poll.ofPending p).1, s.put i (some (Poll.ofPending p).2), by simp [step, pending], ?_⟩
  rw [s.pending?_put_eq i _ (lt_of_pending? pending)]
  rcases p with _ | _ | p
  · simp [Poll.ofPending]
  · simp [Poll.ofPending]
  · simp [Poll.ofPending]

end

/-- What happens in one step, other than that a step on no live subscriber changes nothing. -/
inductive Happens (s : Shutdown) : Event → Shutdown → Prop where
  | subscribe : Happens s (.subscribe, .subscriber s.subscribers.length) s.subscribe
  | trigger : Happens s (.trigger, .triggered) s.trigger
  | poll {i p : Nat} (pending : s.pending? i = some p) :
    Happens s (.poll i, .polled (Poll.ofPending p).1) (s.put i (some (Poll.ofPending p).2))
  | drop {i p : Nat} (pending : s.pending? i = some p) :
    Happens s (.drop i, .dropped true) (s.put i none)
  | pollNone (i : Nat) : Happens s (.poll i, .noSuchSubscriber) s
  | dropNone (i : Nat) (answer : Answer) (nothing : answer = .dropped false ∨
    answer = .noSuchSubscriber) : Happens s (.drop i, answer) s

theorem happens_step (s : Shutdown) (action : Step) :
    Happens s (action, (s.step action).1) (s.step action).2 := by
  cases action with
  | subscribe => exact .subscribe
  | trigger => exact .trigger
  | poll i =>
      simp only [step]
      split
      case h_1 p pending => exact .poll pending
      case h_2 => exact .pollNone i
  | drop i =>
      simp only [step]
      split
      case h_1 entry known =>
        cases entry with
        | some p => exact .drop ((s.pending?_eq_some_iff i).2 known)
        | none =>
            -- A second drop of the same subscriber changes nothing.
            have same : s.put i none = s := by
              obtain ⟨within, isNone⟩ := List.getElem?_eq_some_iff.1 known
              rw [put, ← isNone, List.set_getElem_self]
            rw [same]
            exact .dropNone i _ (.inl rfl)
      case h_2 => exact .dropNone i _ (.inr rfl)

theorem poll_ne_closed (p : Nat) : (Poll.ofPending p).1 ≠ .closed := by
  rcases p with _ | _ | p <;> simp [Poll.ofPending]

/-! ## The history of one more step -/

section

variable (h : List Event) (e : Event) (i : Nat)

theorem given_concat : given (h ++ [e]) = given h + if e.1 = .subscribe then 1 else 0 := by
  simp [given, List.countP_append, List.countP_singleton]

theorem droppedCount_concat :
    droppedCount (h ++ [e]) = droppedCount h + if e.2 = .dropped true then 1 else 0 := by
  simp [droppedCount, List.countP_append, List.countP_singleton]

theorem triggers_concat : triggers (h ++ [e]) = triggers h + if e.1 = .trigger then 1 else 0 := by
  simp [triggers, List.countP_append, List.countP_singleton]

theorem signals_concat :
    signals i (h ++ [e]) = signals i h + if e = (.poll i, .polled .signal) then 1 else 0 := by
  simp [signals, List.count_append, List.count_singleton]

theorem missed_concat : missed i (h ++ [e]) = missed i h + missedIn i e := by
  induction h with
  | nil => exact Nat.add_comm _ _
  | cons first rest ih =>
      rw [List.cons_append, missed, List.foldr_cons, ← missed, ih, ← Nat.add_assoc]
      rfl

theorem since_concat {h : List Event} {i : Nat} (announced : ∃ e ∈ h, e.2 = .subscriber i) :
    since i (h ++ [e]) = since i h ++ [e] := by
  have found : h.dropWhile (·.2 != .subscriber i) ≠ [] := by
    obtain ⟨e, isIn, names⟩ := announced
    rw [Ne, List.dropWhile_eq_nil_iff]
    exact fun all => by simpa [names] using all e isIn
  rw [since, List.dropWhile_append, List.isEmpty_eq_false_iff.2 found, if_neg Bool.false_ne_true,
    List.tail_append_of_ne_nil found, since]

theorem since_first {h : List Event} {i : Nat} (unannounced : ¬∃ e ∈ h, e.2 = .subscriber i)
    {e : Event} (names : e.2 = .subscriber i) : since i (h ++ [e]) = [] := by
  have skipped : h.dropWhile (·.2 != .subscriber i) = [] := by
    rw [List.dropWhile_eq_nil_iff]
    exact fun e isIn => bne_iff_ne.2 fun names => unannounced ⟨e, isIn, names⟩
  rw [since, List.dropWhile_append, skipped, List.isEmpty_nil, if_pos rfl,
    List.dropWhile_cons_of_neg (by simp [names]), List.tail_cons]

end

/-! ## The invariant -/

structure Accounted (s : Shutdown) (h : List Event) : Prop where
  length : s.subscribers.length = given h
  receivers : s.receiverCount + droppedCount h = given h
  announced : ∀ i, i < given h ↔ ∃ e ∈ h, e.2 = .subscriber i
  early : ∀ i, given h ≤ i →
    signals i h = 0 ∧ missed i h = 0 ∧ (.drop i, .dropped true) ∉ h
  live : ∀ i, (s.pending? i).isSome ↔ Live i h
  balance : ∀ i p, s.pending? i = some p →
    triggers (since i h) = signals i h + missed i h + p
  notClosed : ∀ e ∈ h, e.2 ≠ .polled .closed

theorem Accounted.known {s : Shutdown} {h : List Event} (accounted : Accounted s h) {i p : Nat}
    (pending : s.pending? i = some p) : i < given h :=
  accounted.length ▸ lt_of_pending? pending

theorem accounted_fresh : Accounted {} [] where
  length := rfl
  receivers := rfl
  announced := by simp [given]
  early := by simp [signals, missed]
  live := by simp [pending?, Live, given]
  balance := by simp [pending?]
  notClosed := by simp

variable {s s' : Shutdown} {h : List Event} {e : Event} {i : Nat}

theorem given_le (h : List Event) (e : Event) : given h ≤ given (h ++ [e]) := by
  rw [given_concat]
  exact Nat.le_add_right _ _

theorem length_subscribe (s : Shutdown) :
    s.subscribe.subscribers.length = s.subscribers.length + 1 := by
  simp [subscribe]

theorem length_trigger (s : Shutdown) :
    s.trigger.subscribers.length = s.subscribers.length := by
  simp [trigger]

theorem length_put (s : Shutdown) (i : Nat) (entry : Option Nat) :
    (s.put i entry).subscribers.length = s.subscribers.length := by
  simp [put]

theorem receiverCount_subscribe (s : Shutdown) :
    s.subscribe.receiverCount = s.receiverCount + 1 := by
  simp [receiverCount, subscribe]

theorem receiverCount_trigger (s : Shutdown) : s.trigger.receiverCount = s.receiverCount := by
  simp [receiverCount, trigger, List.filter_map, Function.comp_def]

theorem receiverCount_put {p : Nat} (pending : s.pending? i = some p) (entry : Option Nat) :
    (s.put i entry).receiverCount + 1 = s.receiverCount + if entry.isSome then 1 else 0 := by
  obtain ⟨within, isSome⟩ := List.getElem?_eq_some_iff.1 ((s.pending?_eq_some_iff i).1 pending)
  have counted : 0 < s.subscribers.countP Option.isSome :=
    List.countP_pos_iff.2 ⟨some p, isSome ▸ List.getElem_mem within, rfl⟩
  rw [receiverCount_eq, receiverCount_eq, put, List.countP_set within, isSome]
  simp only [Option.isSome_some, if_true]
  omega

theorem missedIn_poll_ne {i j : Nat} (other : j ≠ i) (answer : Answer) :
    missedIn i (.poll j, answer) = 0 := by
  cases answer with
  | polled found => cases found <;> simp [missedIn, other]
  | _ => rfl

theorem poll_accounts (i p : Nat) :
    (if (.poll i, .polled (Poll.ofPending p).1) = ((.poll i, .polled .signal) : Event) then 1
        else 0) +
      missedIn i (.poll i, .polled (Poll.ofPending p).1) + (Poll.ofPending p).2 = p := by
  rcases p with _ | _ | p <;> simp [Poll.ofPending, missedIn]

/-! ## What a step preserves -/

theorem Happens.length (happens : Happens s e s') (accounted : Accounted s h) :
    s'.subscribers.length = given (h ++ [e]) := by
  rw [given_concat, ← accounted.length]
  cases happens <;> simp [length_subscribe, length_trigger, length_put]

theorem Happens.receivers (happens : Happens s e s') (accounted : Accounted s h) :
    s'.receiverCount + droppedCount (h ++ [e]) = given (h ++ [e]) := by
  have before := accounted.receivers
  rw [given_concat, droppedCount_concat]
  cases happens with
  | subscribe =>
      simp [receiverCount_subscribe]
      omega
  | trigger => simpa [receiverCount_trigger] using before
  | @poll j p pending =>
      have count := receiverCount_put pending (some (Poll.ofPending p).2)
      simp at count ⊢
      omega
  | drop pending =>
      have count := receiverCount_put pending none
      simp at count ⊢
      omega
  | pollNone => simpa using before
  | dropNone i answer nothing => rcases nothing with rfl | rfl <;> simpa using before

theorem Happens.announced (happens : Happens s e s') (accounted : Accounted s h) (i : Nat) :
    i < given (h ++ [e]) ↔ ∃ e' ∈ h ++ [e], e'.2 = .subscriber i := by
  have before := accounted.announced i
  have split : (∃ e' ∈ h ++ [e], e'.2 = .subscriber i) ↔
      (∃ e' ∈ h, e'.2 = .subscriber i) ∨ e.2 = .subscriber i := by
    simp [or_and_right, exists_or]
  rw [split, ← before, given_concat]
  cases happens with
  | subscribe =>
      simp only [accounted.length, Answer.subscriber.injEq, if_true]
      omega
  | trigger => simp
  | poll => simp
  | drop => simp
  | pollNone => simp
  | dropNone i answer nothing => rcases nothing with rfl | rfl <;> simp

theorem Happens.early (happens : Happens s e s') (accounted : Accounted s h) (i : Nat)
    (beyond : given (h ++ [e]) ≤ i) :
    signals i (h ++ [e]) = 0 ∧ missed i (h ++ [e]) = 0 ∧ (.drop i, .dropped true) ∉ h ++ [e] := by
  have unknown := Nat.le_trans (given_le h e) beyond
  obtain ⟨noSignals, noneMissed, noDrop⟩ := accounted.early i unknown
  rw [signals_concat, missed_concat, noSignals, noneMissed, List.mem_append, List.mem_singleton]
  -- A subscriber that is polled or dropped in the step has been given out.
  cases happens with
  | subscribe => simp [missedIn, noDrop]
  | trigger => simp [missedIn, noDrop]
  | @poll j p pending =>
      have other : j ≠ i := Nat.ne_of_lt (Nat.lt_of_lt_of_le (accounted.known pending) unknown)
      simp [missedIn_poll_ne other, noDrop, other]
  | @drop j p pending =>
      have other : j ≠ i := Nat.ne_of_lt (Nat.lt_of_lt_of_le (accounted.known pending) unknown)
      simp [missedIn, noDrop, other.symm]
  | pollNone => simp [missedIn, noDrop]
  | dropNone i answer nothing => rcases nothing with rfl | rfl <;> simp [missedIn, noDrop]

structure Spares (s : Shutdown) (i : Nat) (e : Event) (s' : Shutdown) : Prop where
  noGift : e.1 = .subscribe → i ≠ s.subscribers.length
  noTrigger : e.1 ≠ .trigger
  noDrop : e ≠ (.drop i, .dropped true)
  noSignal : e ≠ (.poll i, .polled .signal)
  noneMissed : missedIn i e = 0
  same : s'.pending? i = s.pending? i

theorem Happens.pending? (happens : Happens s e s') (i : Nat) :
    (e = (.subscribe, .subscriber i) ∧ i = s.subscribers.length ∧ s'.pending? i = some 0) ∨
    (e = (.trigger, .triggered) ∧ s'.pending? i = (s.pending? i).map (· + 1)) ∨
    (∃ p, e = (.poll i, .polled (Poll.ofPending p).1) ∧ s.pending? i = some p ∧
      s'.pending? i = some (Poll.ofPending p).2) ∨
    (e = (.drop i, .dropped true) ∧ s'.pending? i = none) ∨
    s.Spares i e s' := by
  cases happens with
  | subscribe =>
      by_cases new : i = s.subscribers.length
      · exact .inl (by simp [pending?_subscribe, new])
      · refine .inr (.inr (.inr (.inr ?_)))
        constructor <;> simp [pending?_subscribe, new, missedIn]
  | trigger => exact .inr (.inl (by simp [pending?_trigger]))
  | @poll j p pending =>
      by_cases own : j = i
      · subst own
        exact .inr (.inr (.inl ⟨p, rfl, pending, s.pending?_put_eq j _ (lt_of_pending? pending)⟩))
      · refine .inr (.inr (.inr (.inr ?_)))
        constructor <;> simp [s.pending?_put_ne j i _ own, missedIn_poll_ne own, own]
  | @drop j p pending =>
      by_cases own : j = i
      · subst own
        exact .inr (.inr (.inr (.inl ⟨rfl, s.pending?_put_eq j _ (lt_of_pending? pending)⟩)))
      · refine .inr (.inr (.inr (.inr ?_)))
        constructor <;> simp [s.pending?_put_ne j i _ own, missedIn, own]
  | pollNone j =>
      refine .inr (.inr (.inr (.inr ?_)))
      constructor <;> simp [missedIn]
  | dropNone j answer nothing =>
      refine .inr (.inr (.inr (.inr ?_)))
      rcases nothing with rfl | rfl <;> constructor <;> simp [missedIn]

theorem Happens.live (happens : Happens s e s') (accounted : Accounted s h) (i : Nat) :
    (s'.pending? i).isSome ↔ Live i (h ++ [e]) := by
  have before := accounted.live i
  have split : Live i (h ++ [e]) ↔
      i < given (h ++ [e]) ∧ (.drop i, .dropped true) ∉ h ∧ e ≠ (.drop i, .dropped true) := by
    simp [Live, eq_comm]
  rw [split, given_concat]
  -- The cases are those of `Happens.pending?`: what the step means to subscriber `i`.
  obtain ⟨rfl, new, after⟩ | ⟨rfl, after⟩ | ⟨p, rfl, pending, after⟩ | ⟨rfl, after⟩ | spared :=
    happens.pending? i
  · rw [accounted.length] at new
    have noDrop := (accounted.early i (Nat.le_of_eq new.symm)).2.2
    simp [after, noDrop]
    omega
  · simpa [after, Live] using before
  · simpa [after, pending, Live] using before
  · simp [after]
  · have noGift := spared.noGift
    rw [accounted.length] at noGift
    rw [spared.same, before, Live]
    split
    case isTrue gift =>
      have other := noGift gift
      simp only [spared.noDrop, ne_eq, not_false_eq_true, and_true, and_congr_left_iff]
      omega
    case isFalse => simp [spared.noDrop]

theorem Happens.balance (happens : Happens s e s') (accounted : Accounted s h) (i p : Nat)
    (pending : s'.pending? i = some p) :
    triggers (since i (h ++ [e])) = signals i (h ++ [e]) + missed i (h ++ [e]) + p := by
  have announced {p : Nat} (was : s.pending? i = some p) : ∃ e ∈ h, e.2 = .subscriber i :=
    (accounted.announced i).1 (accounted.known was)
  rw [signals_concat, missed_concat]
  -- A new subscriber starts with empty sums. A trigger adds to what was sent and to what is
  -- pending, and a poll moves what is pending to what was received or missed.
  obtain ⟨rfl, new, after⟩ | ⟨rfl, after⟩ | ⟨q, rfl, was, after⟩ | ⟨rfl, after⟩ | spared :=
    happens.pending? i
  · rw [accounted.length] at new
    obtain ⟨noSignals, noneMissed, -⟩ := accounted.early i (Nat.le_of_eq new.symm)
    have unannounced : ¬∃ e ∈ h, e.2 = .subscriber i := fun announced =>
      absurd ((accounted.announced i).2 announced) (Nat.not_lt.2 (Nat.le_of_eq new.symm))
    obtain rfl := Option.some.inj (after.symm.trans pending)
    rw [since_first unannounced rfl, noSignals, noneMissed]
    simp [triggers, missedIn]
  · obtain ⟨q, was, rfl⟩ := Option.map_eq_some_iff.1 (after.symm.trans pending)
    have balance := accounted.balance i q was
    rw [since_concat _ (announced was), triggers_concat, balance]
    simp [missedIn]
    omega
  · have balance := accounted.balance i q was
    have polled := poll_accounts i q
    obtain rfl := Option.some.inj (after.symm.trans pending)
    rw [since_concat _ (announced was), triggers_concat, balance, if_neg (by simp)]
    omega
  · rw [after] at pending
    cases pending
  · rw [spared.same] at pending
    have balance := accounted.balance i p pending
    rw [since_concat _ (announced pending), triggers_concat, balance, if_neg spared.noTrigger,
      if_neg spared.noSignal, spared.noneMissed]
    omega

theorem Happens.notClosed (happens : Happens s e s') (accounted : Accounted s h) :
    ∀ e' ∈ h ++ [e], e'.2 ≠ .polled .closed := by
  rw [List.forall_mem_append, List.forall_mem_singleton]
  refine ⟨accounted.notClosed, ?_⟩
  cases happens with
  | @poll i p pending => exact fun closed => poll_ne_closed p (Answer.polled.inj closed)
  | dropNone i answer nothing => rcases nothing with rfl | rfl <;> simp
  | _ => simp

theorem accounted_step (accounted : Accounted s h) (happens : Happens s e s') :
    Accounted s' (h ++ [e]) where
  length := happens.length accounted
  receivers := happens.receivers accounted
  announced := happens.announced accounted
  early := happens.early accounted
  live := happens.live accounted
  balance := happens.balance accounted
  notClosed := happens.notClosed accounted

/-! ## Whole runs -/

theorem after_concat (s : Shutdown) (steps : List Step) (action : Step) :
    s.after (steps ++ [action]) = ((s.after steps).step action).2 := by
  rw [after, List.foldl_append]
  rfl

theorem history_concat (s : Shutdown) (steps : List Step) (action : Step) :
    s.history (steps ++ [action]) =
      s.history steps ++ [(action, ((s.after steps).step action).1)] := by
  induction steps generalizing s with
  | nil => rfl
  | cons first rest ih =>
      rw [List.cons_append, history, ih, history, List.cons_append]
      rfl

theorem run_concat (s : Shutdown) (steps : List Step) (action : Step) :
    s.run (steps ++ [action]) =
      s.run steps ++
        [(((s.after steps).step action).1, ((s.after steps).step action).2.receiverCount)] := by
  induction steps generalizing s with
  | nil => rfl
  | cons first rest ih =>
      rw [List.cons_append, run, ih, run, List.cons_append]
      rfl

theorem accounted_history (steps : List Step) :
    Accounted (({} : Shutdown).after steps) (({} : Shutdown).history steps) := by
  induction steps using List.reverseRecOn with
  | nil => exact accounted_fresh
  | append_singleton steps action ih =>
      rw [after_concat, history_concat]
      exact accounted_step ih (happens_step _ action)

theorem inits_tail_concat (h : List Event) (e : Event) :
    (h ++ [e]).inits.tail = h.inits.tail ++ [h ++ [e]] := by
  rw [List.inits_append]
  cases h <;> simp

theorem run_eq_history (steps : List Step) :
    ({} : Shutdown).run steps =
      List.zip ((({} : Shutdown).history steps).map Prod.snd)
        ((({} : Shutdown).history steps).inits.tail.map fun h => given h - droppedCount h) := by
  induction steps using List.reverseRecOn with
  | nil => rfl
  | append_singleton steps action ih =>
      have receivers := (accounted_history (steps ++ [action])).receivers
      rw [after_concat, history_concat] at receivers
      rw [run_concat, ih, history_concat, List.map_append, inits_tail_concat, List.map_append,
        List.zip_append (by simp), List.map_singleton, List.map_singleton, ← receivers,
        Nat.add_sub_cancel]
      rfl

/-- Whatever is done with a fresh shutdown: it answers as a channel of one slot does; the receivers
counted after each step are those given out and not dropped; of the signals sent since a live
subscriber came, it received some, learnt that it missed some, and the others are pending, which
its next poll tells; it is never told that the channel is closed; a step of one subscriber does not
touch what is pending for another, and a trigger without subscribers changes nothing. -/
theorem run_conserves (steps : List Step) :
    let s := ({} : Shutdown).after steps
    let h := ({} : Shutdown).history steps
    (({} : Shutdown).run steps = ({} : Ring).run steps ∧ s = (({} : Ring).after steps).behind) ∧
    (({} : Shutdown).run steps =
        List.zip (h.map Prod.snd) (h.inits.tail.map fun h => given h - droppedCount h) ∧
      s.receiverCount + droppedCount h = given h) ∧
    (∀ i, Live i h → ∃ p, s.pending? i = some p ∧
      triggers (since i h) = signals i h + missed i h + p ∧
      ∃ found s', s.step (.poll i) = (.polled found, s') ∧
        (found = .empty ↔ p = 0) ∧ (found = .signal ↔ p = 1) ∧
        (∀ n, found = .lagged n ↔ p = n + 1 ∧ 2 ≤ p) ∧ found ≠ .closed ∧
        s'.pending? i = some (if p ≤ 1 then 0 else 1)) ∧
    (∀ e ∈ h, e.2 ≠ .polled .closed) ∧
    (∀ i j, i ≠ j → (s.step (.poll i)).2.pending? j = s.pending? j ∧
      (s.step (.drop i)).2.pending? j = s.pending? j) ∧
    (s.receiverCount = 0 → s.step .trigger = (.triggered, s)) := by
  intro s h
  have accounted : Accounted s h := accounted_history steps
  refine ⟨⟨run_eq steps, after_eq steps⟩, ⟨run_eq_history steps, accounted.receivers⟩, ?_,
    accounted.notClosed, ?_, ?_⟩
  · intro i live
    obtain ⟨p, pending⟩ := Option.isSome_iff_exists.1 ((accounted.live i).2 live)
    exact ⟨p, pending, accounted.balance i p pending, poll_of_pending? pending⟩
  · exact fun i j other => ⟨s.poll_pending? i j other, s.drop_pending? i j other⟩
  · exact fun alone => by rw [step, trigger_of_receiverCount alone]

example :
    let steps : List Step := [.subscribe, .trigger, .subscribe, .trigger, .trigger, .trigger,
      .poll 1, .poll 1]
    let h := ({} : Shutdown).history steps
    (triggers (since 1 h), signals 1 h, missed 1 h) = (3, 1, 2) := by decide

end Enclose.Shutdown
