import SentryFlow.Fanout.Model

set_option autoImplicit false

/-!
# What the fan-out's queues and counters account for
-/

namespace SentryFlow.Fanout

variable {Ev : Type}

namespace Label

def dequeued : Label Ev → Option Ev
  | .fanned ev _ => some ev
  | _ => none

def fate (o : Output) : Label Ev → Option (Ev × Bool)
  | .fanned ev sent => some (ev, sent o)
  | _ => none

def pushed (o : Output) : Label Ev → Option Ev
  | .fanned ev sent => if sent o then some ev else none
  | _ => none

def dropped (o : Output) : Label Ev → Bool
  | .fanned _ sent => !sent o
  | _ => false

def popped? (o : Output) : Label Ev → Option Ev
  | .popped o' ev => if o' = o then some ev else none
  | _ => none

end Label

def dequeuedEvents (ls : List (Label Ev)) : List Ev := ls.filterMap Label.dequeued

def pushedEvents (o : Output) (ls : List (Label Ev)) : List Ev := ls.filterMap (Label.pushed o)

def poppedEvents (o : Output) (ls : List (Label Ev)) : List Ev := ls.filterMap (Label.popped? o)

def droppedCount (o : Output) (ls : List (Label Ev)) : Nat := (ls.filter (Label.dropped o)).length

/-! ## Fates: every dequeued event is pushed or dropped, once -/

def fates (o : Output) (ls : List (Label Ev)) : List (Ev × Bool) := ls.filterMap (Label.fate o)

theorem fates_map_fst (o : Output) (ls : List (Label Ev)) :
    (fates o ls).map Prod.fst = dequeuedEvents ls := by
  induction ls with
  | nil => rfl
  | cons l ls ih => cases l <;> simp_all [fates, dequeuedEvents, Label.fate, Label.dequeued]

theorem fates_pushed (o : Output) (ls : List (Label Ev)) :
    ((fates o ls).filter (·.2)).map Prod.fst = pushedEvents o ls := by
  induction ls with
  | nil => rfl
  | cons l ls ih =>
    cases l with
    | fanned ev sent => cases h : sent o <;> simp_all [fates, pushedEvents, Label.fate, Label.pushed]
    | _ => simpa [fates, pushedEvents, Label.fate, Label.pushed] using ih

theorem fates_dropped (o : Output) (ls : List (Label Ev)) :
    ((fates o ls).map Prod.snd).count false = droppedCount o ls := by
  induction ls with
  | nil => rfl
  | cons l ls ih =>
    cases l with
    | fanned ev sent =>
      cases h : sent o <;> simp_all [fates, droppedCount, Label.fate, Label.dropped, List.filter_cons]
    | _ => simpa [fates, droppedCount, Label.fate, Label.dropped] using ih

theorem pushedEvents_sublist (o : Output) (ls : List (Label Ev)) :
    (pushedEvents o ls).Sublist (dequeuedEvents ls) := by
  rw [← fates_pushed, ← fates_map_fst]
  exact (List.filter_sublist _).map _

theorem dequeued_length_eq (o : Output) (ls : List (Label Ev)) :
    (dequeuedEvents ls).length = (pushedEvents o ls).length + droppedCount o ls := by
  induction ls with
  | nil => rfl
  | cons l ls ih =>
    cases l with
    | fanned ev sent =>
      cases h : sent o <;>
        simp_all [dequeuedEvents, pushedEvents, droppedCount, Label.dequeued, Label.pushed,
          Label.dropped, List.filter_cons] <;> omega
    | _ => simpa [dequeuedEvents, pushedEvents, droppedCount, Label.dequeued, Label.pushed,
          Label.dropped] using ih

/-! ## The invariant and its step lemma -/

/-- The counters and queues of `s` agree with the run `ls` that reached it. -/
def Accounted (ls : List (Label Ev)) (s : Pipeline Ev) : Prop :=
  s.stats.inCount.toNat = (dequeuedEvents ls).length ∧
    ∀ o, poppedEvents o ls ++ (s.out o).items = pushedEvents o ls ∧
      (s.stats.drop o).toNat = droppedCount o ls

theorem accounted_init : Accounted [] (init : Pipeline Ev) :=
  ⟨rfl, fun o => by cases o <;> exact ⟨rfl, rfl⟩⟩

theorem toNat_add_one (a : UInt64) : (a + 1).toNat = (a.toNat + 1) % 2 ^ 64 :=
  BitVec.toNat_add _ _

theorem toNat_add_one_of_lt {a : UInt64} {n : Nat} (ha : a.toNat = n) (h : n + 1 < 2 ^ 64) :
    (a + 1).toNat = n + 1 := by
  rw [toNat_add_one, ha, Nat.mod_eq_of_lt h]

theorem accounted_fanOut {ls : List (Label Ev)} {s u : Pipeline Ev} {l : Label Ev}
    (hs : Accounted ls s) (h : fanOut s = some (u, l))
    (hfew : (dequeuedEvents (ls ++ [l])).length < 2 ^ 64) : Accounted (ls ++ [l]) u := by
  obtain ⟨ev, -, rfl, hin, hout⟩ := fanOut_spec h
  have hD : (dequeuedEvents (ls ++ [.fanned ev fun o => (s.out o).hasRoom])).length =
      (dequeuedEvents ls).length + 1 := by simp [dequeuedEvents, Label.dequeued]
  refine ⟨by rw [hin, hD]; exact toNat_add_one_of_lt hs.1 (by omega), fun o => ?_⟩
  obtain ⟨hq, hd⟩ := hs.2 o
  have hle := dequeued_length_eq o ls
  have ho := hout o
  cases hroom : (s.out o).hasRoom
  · rw [sendOrDrop_of_full _ _ hroom, Prod.mk.injEq] at ho
    refine ⟨?_, ?_⟩
    · simpa [ho.1, poppedEvents, pushedEvents, Label.popped?, Label.pushed, hroom] using hq
    · rw [ho.2, toNat_add_one_of_lt hd (by omega)]
      simp [droppedCount, Label.dropped, hroom]
  · obtain ⟨hitems, hdrop⟩ := sendOrDrop_of_hasRoom (s.stats.drop o) ev hroom
    rw [← ho] at hitems hdrop
    dsimp only at hitems hdrop
    refine ⟨?_, ?_⟩
    · simp only [poppedEvents, pushedEvents, List.filterMap_append, Label.popped?,
        Label.pushed, hroom, List.filterMap_cons, List.filterMap_nil, if_true, List.append_nil]
      rw [hitems, ← List.append_assoc]
      exact congrArg (· ++ [ev]) hq
    · rw [hdrop, hd]
      simp [droppedCount, Label.dropped, hroom]

theorem accounted_step {ls : List (Label Ev)} {s u : Pipeline Ev} {a : Action Ev} {l : Label Ev}
    (hs : Accounted ls s) (h : step s a = some (u, l))
    (hfew : (dequeuedEvents (ls ++ [l])).length < 2 ^ 64) : Accounted (ls ++ [l]) u := by
  rcases step_cases h with ⟨ev, rfl, hg, hh, hst⟩ | hfan | ⟨o', ev, c, rfl, hitems, rfl⟩ | ⟨rfl, rfl⟩
  · have hout : ∀ o, u.out o = s.out o := fun o => by cases o <;> simp [Pipeline.out, hg, hh]
    refine ⟨?_, fun o => ?_⟩
    · simpa [hst, dequeuedEvents, Label.dequeued] using hs.1
    · simpa [hout, hst, poppedEvents, pushedEvents, droppedCount, Label.popped?, Label.pushed,
        Label.dropped] using hs.2 o
  · exact accounted_fanOut hs hfan hfew
  · refine ⟨by simpa [dequeuedEvents, Label.dequeued] using hs.1, fun o => ?_⟩
    obtain ⟨hq, hd⟩ := hs.2 o
    refine ⟨?_, by simpa [droppedCount, Label.dropped] using hd⟩
    rw [Pipeline.setOut_out]
    by_cases ho : o' = o
    · subst ho
      simpa [poppedEvents, pushedEvents, Label.popped?, Label.pushed, hitems] using hq
    · simpa [poppedEvents, pushedEvents, Label.popped?, Label.pushed, ho] using hq
  · refine ⟨by simpa [dequeuedEvents, Label.dequeued] using hs.1, fun o => ?_⟩
    simpa [poppedEvents, pushedEvents, droppedCount, Label.popped?, Label.pushed,
      Label.dropped] using hs.2 o

theorem dequeuedEvents_append_length (ls ls' : List (Label Ev)) :
    (dequeuedEvents ls).length ≤ (dequeuedEvents (ls ++ ls')).length := by
  simp [dequeuedEvents]

theorem accounted_run {s t : Pipeline Ev} {ls : List (Label Ev)} (hrun : Run s ls t)
    (hs : Accounted [] s) (hfew : (dequeuedEvents ls).length < 2 ^ 64) : Accounted ls t := by
  induction hrun with
  | nil => exact hs
  | snoc hrun hstep ih =>
    exact accounted_step (ih (lt_of_le_of_lt (dequeuedEvents_append_length _ _) hfew)) hstep hfew

/-- Over every run from `init` with fewer than `2 ^ 64` fan-out steps, for each output `o`:
what was ever pushed onto `o` (the popped events, then those still queued) is the dequeued
sequence `D` with some events left out, in order; each event of `D` has one fate, pushed or
counted once in `o`'s drop counter; `inCount = |D| = pushed + dropped`; and `o` stays within
its capacity. -/
theorem fanout_run_accounts {ls : List (Label Ev)} {s : Pipeline Ev} (hrun : Run init ls s)
    (hfew : (dequeuedEvents ls).length < 2 ^ 64) (o : Output) :
    poppedEvents o ls ++ (s.out o).items = pushedEvents o ls ∧
    (pushedEvents o ls).Sublist (dequeuedEvents ls) ∧
    (∃ fate : List Bool, fate.length = (dequeuedEvents ls).length ∧
      pushedEvents o ls = (((dequeuedEvents ls).zip fate).filter (·.2)).map Prod.fst ∧
      (s.stats.drop o).toNat = fate.count false) ∧
    s.stats.inCount.toNat = (dequeuedEvents ls).length ∧
    (dequeuedEvents ls).length = (pushedEvents o ls).length + (s.stats.drop o).toNat ∧
    (s.out o).items.length ≤ queueCapacity := by
  obtain ⟨hin, hout⟩ := accounted_run hrun accounted_init hfew
  obtain ⟨hq, hd⟩ := hout o
  have hzip : (dequeuedEvents ls).zip ((fates o ls).map Prod.snd) = fates o ls := by
    have := List.zip_unzip (fates o ls)
    rwa [List.unzip_fst, List.unzip_snd, fates_map_fst] at this
  refine ⟨hq, pushedEvents_sublist o ls,
    ⟨(fates o ls).map Prod.snd, by simp [← fates_map_fst o ls], ?_, ?_⟩, hin,
    by rw [hd]; exact dequeued_length_eq o ls, (s.out o).bounded⟩
  · rw [hzip, fates_pushed]
  · rw [hd, fates_dropped]

theorem fanout_run_accounts_after_one_event :
    let ls : List (Label Nat) := [.received 7, .fanned 7 fun o => ((init : Pipeline Nat).out o).hasRoom]
    ∃ s : Pipeline Nat, Run init ls s ∧
      (poppedEvents .grpc ls ++ (s.out .grpc).items = pushedEvents .grpc ls ∧
      (pushedEvents .grpc ls).Sublist (dequeuedEvents ls) ∧
      (∃ fate : List Bool, fate.length = (dequeuedEvents ls).length ∧
        pushedEvents .grpc ls = (((dequeuedEvents ls).zip fate).filter (·.2)).map Prod.fst ∧
        (s.stats.drop .grpc).toNat = fate.count false) ∧
      s.stats.inCount.toNat = (dequeuedEvents ls).length ∧
      (dequeuedEvents ls).length = (pushedEvents .grpc ls).length + (s.stats.drop .grpc).toNat ∧
      (s.out .grpc).items.length ≤ queueCapacity) :=
  have hrun := (Run.snoc (Run.snoc (Run.nil (s := init)) (l := .received 7) (a := .receive 7) rfl)
    (a := .fanOut) rfl : Run init ([] ++ [.received 7] ++
      [.fanned 7 fun o => ((init : Pipeline Nat).out o).hasRoom]) _)
  ⟨_, hrun, fanout_run_accounts hrun (by decide) .grpc⟩

end SentryFlow.Fanout
