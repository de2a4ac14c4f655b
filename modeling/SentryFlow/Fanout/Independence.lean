import SentryFlow.Fanout.Accounting

set_option autoImplicit false

/-!
# Each output is independent of the other
-/

namespace SentryFlow.Fanout

variable {Ev : Type}

inductive Seen (Ev : Type)
  | dequeue (ev : Ev)
  | pop

def Label.seen (o : Output) : Label Ev → Option (Seen Ev)
  | .fanned ev _ => some (.dequeue ev)
  | .popped o' _ => if o' = o then some .pop else none
  | _ => none

structure View (Ev : Type) where
  queue : List Ev
  drop : UInt64
  pushed : List Ev

def View.see (v : View Ev) : Seen Ev → View Ev
  | .dequeue ev =>
    if v.queue.length < queueCapacity then ⟨v.queue ++ [ev], v.drop, v.pushed ++ [ev]⟩
    else ⟨v.queue, v.drop + 1, v.pushed⟩
  | .pop => ⟨v.queue.tail, v.drop, v.pushed⟩

def Pipeline.view (s : Pipeline Ev) (o : Output) (pushed : List Ev) : View Ev :=
  ⟨(s.out o).items, s.stats.drop o, pushed⟩

theorem view_step {s u : Pipeline Ev} {a : Action Ev} {l : Label Ev} (h : step s a = some (u, l))
    (o : Output) (p : List Ev) :
    u.view o (p ++ [l].filterMap (Label.pushed o)) =
      ([l].filterMap (Label.seen o)).foldl View.see (s.view o p) := by
  rcases step_cases h with ⟨ev, rfl, hg, hh, hst⟩ | hfan | ⟨o', ev, c, rfl, hitems, rfl⟩ | ⟨rfl, rfl⟩
  · have hout : u.out o = s.out o := by cases o <;> simp [Pipeline.out, hg, hh]
    simp [Pipeline.view, hout, hst, Label.pushed, Label.seen]
  · obtain ⟨ev, -, rfl, -, hout⟩ := fanOut_spec hfan
    have ho := hout o
    cases hroom : (s.out o).hasRoom
    · rw [sendOrDrop_of_full _ _ hroom, Prod.mk.injEq] at ho
      have hlen : ¬ (s.out o).items.length < queueCapacity := by
        simpa [BoundedChan.hasRoom] using hroom
      simp [Pipeline.view, View.see, Label.pushed, Label.seen, hroom, hlen, ho.1, ho.2]
    · obtain ⟨hitems, hdrop⟩ := sendOrDrop_of_hasRoom (s.stats.drop o) ev hroom
      rw [← ho] at hitems hdrop
      dsimp only at hitems hdrop
      have hlen : (s.out o).items.length < queueCapacity := by
        simpa [BoundedChan.hasRoom] using hroom
      simp [Pipeline.view, View.see, Label.pushed, Label.seen, hroom, hlen, hitems, hdrop]
  · rw [Pipeline.view, Pipeline.setOut_out]
    by_cases ho : o' = o
    · subst ho
      simp [Pipeline.view, View.see, Label.pushed, Label.seen, hitems]
    · simp [Pipeline.view, Label.pushed, Label.seen, ho]
  · simp [Pipeline.view, Label.pushed, Label.seen]

theorem view_run {s t : Pipeline Ev} {ls : List (Label Ev)} (hrun : Run s ls t) (o : Output) :
    t.view o (pushedEvents o ls) = (ls.filterMap (Label.seen o)).foldl View.see (s.view o []) := by
  induction hrun with
  | nil => rfl
  | snoc _ hstep ih =>
    rw [pushedEvents, List.filterMap_append, ← pushedEvents, view_step hstep, ih,
      List.filterMap_append, List.foldl_append]

theorem seen_of_no_pops (o : Output) (ls : List (Label Ev)) (h : poppedEvents o ls = []) :
    ls.filterMap (Label.seen o) = (dequeuedEvents ls).map Seen.dequeue := by
  induction ls with
  | nil => rfl
  | cons l ls ih =>
    have hl : l.popped? o = none ∧ poppedEvents o ls = [] := by
      rw [poppedEvents, List.filterMap_cons] at h
      cases hp : l.popped? o with
      | none => rw [hp] at h; exact ⟨rfl, h⟩
      | some ev => rw [hp] at h; cases h
    have ih := ih hl.2
    simp only [dequeuedEvents] at ih ⊢
    cases l with
    | popped o' ev =>
      have ho : o' ≠ o := fun ho => by simp [Label.popped?, ho] at hl
      simp [Label.seen, ho, Label.dequeued, ih]
    | _ => simp [Label.seen, Label.dequeued, ih]

theorem see_dequeues (xs : List Ev) (v : View Ev) (hv : v.queue.length ≤ queueCapacity) :
    let w := (xs.map Seen.dequeue).foldl View.see v
    w.queue = v.queue ++ xs.take (queueCapacity - v.queue.length) ∧
      w.drop.toNat = (v.drop.toNat + (v.queue.length + xs.length - queueCapacity)) % 2 ^ 64 := by
  induction xs generalizing v with
  | nil =>
    refine ⟨by simp, ?_⟩
    simp only [List.map_nil, List.foldl_nil, List.length_nil, Nat.add_zero]
    rw [Nat.sub_eq_zero_of_le hv, Nat.add_zero]
    exact (Nat.mod_eq_of_lt v.drop.toNat_lt_size).symm
  | cons x xs ih =>
    simp only [List.map_cons, List.foldl_cons, List.length_cons]
    by_cases hlt : v.queue.length < queueCapacity
    · have := ih ⟨v.queue ++ [x], v.drop, v.pushed ++ [x]⟩
        (by rw [List.length_append, List.length_singleton]; omega)
      simp only [View.see, hlt, if_true, List.length_append, List.length_singleton] at this ⊢
      obtain ⟨hq, hd⟩ := this
      refine ⟨?_, by
        rw [hd, show v.queue.length + 1 + xs.length = v.queue.length + (xs.length + 1) by omega]⟩
      rw [hq, List.append_assoc]
      have hk : queueCapacity - v.queue.length = (queueCapacity - (v.queue.length + 1)) + 1 := by
        omega
      rw [hk, List.take_succ_cons, List.singleton_append]
    · have := ih ⟨v.queue, v.drop + 1, v.pushed⟩ hv
      simp only [View.see, hlt, if_false] at this ⊢
      obtain ⟨hq, hd⟩ := this
      have hk : queueCapacity - v.queue.length = 0 := by omega
      refine ⟨by rw [hq, hk]; simp, ?_⟩
      rw [hd, toNat_add_one, Nat.mod_add_mod, show v.drop.toNat + 1 +
        (v.queue.length + xs.length - queueCapacity) =
        v.drop.toNat + (v.queue.length + (xs.length + 1) - queueCapacity) by omega]

/-- Never waiting on an output, dropping for `o` exactly when `o` is full, and `o`'s fate
depending on `o` alone: (1) the fan-out step is enabled whenever `ApiEvents` is non-empty,
whatever the outputs hold; (2) it drops for `o`, bumping `o`'s counter by one, iff `o` is
full, and otherwise appends the event to `o`; (3) two runs in which `o` sees the same
dequeued events and the same pops of `o`, in the same interleaving, from the same state of
`o`, push the same events onto `o` and leave it the same queue and drop counter; (4) with
`o` never drained, `k` queued events and `n` more dequeued, `o` holds `min cap (k + n)`
events (the first ones offered) and its counter grew by `k + n - cap` (0 if negative),
modulo `2 ^ 64`. -/
theorem fanout_never_waits_and_outputs_independent (o : Output) :
    (∀ s : Pipeline Ev, s.apiEvents.items ≠ [] → ∃ u l, step s .fanOut = some (u, l)) ∧
    (∀ (s u : Pipeline Ev) (l : Label Ev), step s .fanOut = some (u, l) →
      ∃ ev, s.apiEvents.items = ev :: u.apiEvents.items ∧
        (l.dropped o = true ↔ (s.out o).items.length = queueCapacity) ∧
        (u.stats.drop o = if (s.out o).items.length = queueCapacity then s.stats.drop o + 1
          else s.stats.drop o) ∧
        ((u.out o).items = if (s.out o).items.length = queueCapacity then (s.out o).items
          else (s.out o).items ++ [ev])) ∧
    (∀ (s s' t t' : Pipeline Ev) (ls ls' : List (Label Ev)), Run s ls t → Run s' ls' t' →
      (s.out o).items = (s'.out o).items → s.stats.drop o = s'.stats.drop o →
      ls.filterMap (Label.seen o) = ls'.filterMap (Label.seen o) →
      pushedEvents o ls = pushedEvents o ls' ∧ (t.out o).items = (t'.out o).items ∧
        t.stats.drop o = t'.stats.drop o) ∧
    (∀ (s t : Pipeline Ev) (ls : List (Label Ev)), Run s ls t → poppedEvents o ls = [] →
      (t.out o).items = (s.out o).items ++
          (dequeuedEvents ls).take (queueCapacity - (s.out o).items.length) ∧
        (t.out o).items.length =
          min queueCapacity ((s.out o).items.length + (dequeuedEvents ls).length) ∧
        (t.stats.drop o).toNat = ((s.stats.drop o).toNat +
          ((s.out o).items.length + (dequeuedEvents ls).length - queueCapacity)) % 2 ^ 64) := by
  refine ⟨fun s hs => ?_, fun s u l h => ?_, fun s s' t t' ls ls' hr hr' hq hd hseen => ?_,
    fun s t ls hr hpop => ?_⟩
  · obtain ⟨⟨u, l⟩, h⟩ := Option.isSome_iff_exists.mp (fanOut_enabled s hs)
    exact ⟨u, l, h⟩
  · obtain ⟨ev, happ, rfl, -, hout⟩ := fanOut_spec h
    refine ⟨ev, happ, ?_⟩
    have ho := hout o
    cases hroom : (s.out o).hasRoom
    · have hfull := BoundedChan.hasRoom_eq_false.mp hroom
      rw [sendOrDrop_of_full _ _ hroom, Prod.mk.injEq] at ho
      simp [Label.dropped, hroom, hfull, ho.1, ho.2]
    · have hfull : (s.out o).items.length ≠ queueCapacity := fun h' =>
        absurd (BoundedChan.hasRoom_eq_false.mpr h') (by simp [hroom])
      obtain ⟨hitems, hdrop⟩ := sendOrDrop_of_hasRoom (s.stats.drop o) ev hroom
      rw [← ho] at hitems hdrop
      simp only at hitems hdrop
      simp [Label.dropped, hroom, hfull, hitems, hdrop]
  · have h1 := view_run hr o
    have h2 := view_run hr' o
    rw [← hseen, show s'.view o [] = s.view o [] by simp [Pipeline.view, hq, hd], ← h1] at h2
    simp only [Pipeline.view, View.mk.injEq] at h2
    exact ⟨h2.2.2.symm, h2.1.symm, h2.2.1.symm⟩
  · have hv := view_run hr o
    rw [seen_of_no_pops o ls hpop] at hv
    obtain ⟨hq, hd⟩ := see_dequeues (dequeuedEvents ls) (s.view o []) (s.out o).bounded
    rw [← hv] at hq hd
    simp only [Pipeline.view] at hq hd
    refine ⟨hq, ?_, hd⟩
    have := (s.out o).bounded
    rw [hq, List.length_append, List.length_take]
    omega

end SentryFlow.Fanout
