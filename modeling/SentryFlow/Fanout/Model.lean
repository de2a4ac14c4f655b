import Mathlib.Data.List.Basic
import Mathlib.Algebra.Group.Nat.Basic

set_option autoImplicit false

/-!
# The fan-out stage as a step function

One iteration of `fanOutAPIEvents`, a receiver's push, an exporter's pop or a tick is one
step, labelled with what it did.
-/

namespace SentryFlow.Fanout

/-- The capacity `Manager.run` gives `ApiEvents`, `GrpcEvents` and `HttpEvents`. -/
def queueCapacity : Nat := 10240

structure BoundedChan (α : Type) (cap : Nat) where
  items : List α
  bounded : items.length ≤ cap

namespace BoundedChan

variable {α : Type} {cap : Nat}

def empty : BoundedChan α cap := ⟨[], Nat.zero_le cap⟩

def hasRoom (c : BoundedChan α cap) : Bool := decide (c.items.length < cap)

def trySend (c : BoundedChan α cap) (v : α) : Option (BoundedChan α cap) :=
  if h : c.items.length < cap then
    some ⟨c.items ++ [v], by rw [List.length_append, List.length_singleton]; omega⟩
  else none

def recv? : BoundedChan α cap → Option (α × BoundedChan α cap)
  | ⟨[], _⟩ => none
  | ⟨v :: vs, h⟩ => some (v, ⟨vs, Nat.le_of_succ_le h⟩)

theorem hasRoom_eq_false {c : BoundedChan α cap} : c.hasRoom = false ↔ c.items.length = cap := by
  have := c.bounded
  simp only [hasRoom, decide_eq_false_iff_not]
  omega

theorem trySend_of_hasRoom {c : BoundedChan α cap} (v : α) (h : c.hasRoom = true) :
    ∃ c', c.trySend v = some c' ∧ c'.items = c.items ++ [v] := by
  simp only [hasRoom, decide_eq_true_eq] at h
  exact ⟨_, dif_pos h, rfl⟩

theorem trySend_of_full {c : BoundedChan α cap} (v : α) (h : c.hasRoom = false) :
    c.trySend v = none := by
  simp only [hasRoom, decide_eq_false_iff_not] at h
  exact dif_neg h

theorem recv?_eq_some {c c' : BoundedChan α cap} {v : α} :
    c.recv? = some (v, c') ↔ c.items = v :: c'.items := by
  rcases c with ⟨_ | ⟨w, ws⟩, h⟩ <;> rcases c' with ⟨vs, h'⟩
  · simp [recv?]
  · simp only [recv?, Option.some.injEq, Prod.mk.injEq, mk.injEq, List.cons.injEq]

theorem recv?_isSome {c : BoundedChan α cap} (h : c.items ≠ []) : c.recv?.isSome := by
  rcases c with ⟨_ | ⟨w, ws⟩, _⟩
  · exact absurd rfl h
  · rfl

end BoundedChan

structure FanoutStats where
  inCount : UInt64
  grpcDrop : UInt64
  httpDrop : UInt64

inductive Output
  | grpc
  | http
  deriving DecidableEq, Repr

def FanoutStats.drop (st : FanoutStats) : Output → UInt64
  | .grpc => st.grpcDrop
  | .http => st.httpDrop

variable {Ev : Type}

structure Pipeline (Ev : Type) where
  apiEvents : BoundedChan Ev queueCapacity
  grpcEvents : BoundedChan Ev queueCapacity
  httpEvents : BoundedChan Ev queueCapacity
  stats : FanoutStats

namespace Pipeline

def out (s : Pipeline Ev) : Output → BoundedChan Ev queueCapacity
  | .grpc => s.grpcEvents
  | .http => s.httpEvents

def setOut (s : Pipeline Ev) : Output → BoundedChan Ev queueCapacity → Pipeline Ev
  | .grpc, c => { s with grpcEvents := c }
  | .http, c => { s with httpEvents := c }

@[simp] theorem setOut_stats (s : Pipeline Ev) (o : Output) (c : BoundedChan Ev queueCapacity) :
    (s.setOut o c).stats = s.stats := by
  cases o <;> rfl

theorem setOut_out (s : Pipeline Ev) (o o' : Output) (c : BoundedChan Ev queueCapacity) :
    (s.setOut o c).out o' = if o = o' then c else s.out o' := by
  cases o <;> cases o' <;> rfl

end Pipeline

/-- `select { case out <- ev: default: atomic.AddUint64(&drop, 1) }`, written once for both
outputs. -/
def sendOrDrop {cap : Nat} (out : BoundedChan Ev cap) (drop : UInt64) (ev : Ev) :
    BoundedChan Ev cap × UInt64 :=
  match out.trySend ev with
  | some out' => (out', drop)
  | none => (out, drop + 1)

theorem sendOrDrop_of_hasRoom {cap : Nat} {out : BoundedChan Ev cap} (drop : UInt64) (ev : Ev)
    (h : out.hasRoom = true) :
    (sendOrDrop out drop ev).1.items = out.items ++ [ev] ∧ (sendOrDrop out drop ev).2 = drop := by
  obtain ⟨c', hc, hitems⟩ := out.trySend_of_hasRoom ev h
  simp only [sendOrDrop, hc]
  exact ⟨hitems, trivial⟩

theorem sendOrDrop_of_full {cap : Nat} {out : BoundedChan Ev cap} (drop : UInt64) (ev : Ev)
    (h : out.hasRoom = false) : sendOrDrop out drop ev = (out, drop + 1) := by
  simp only [sendOrDrop, out.trySend_of_full ev h]

/-- What a step did, as far as the queues and counters can tell. `fanned ev sent` is one
event taken from `ApiEvents`, with `sent o` saying whether `o` accepted it. -/
inductive Label (Ev : Type)
  | received (ev : Ev)
  | fanned (ev : Ev) (sent : Output → Bool)
  | popped (o : Output) (ev : Ev)
  | ticked

inductive Action (Ev : Type)
  | receive (ev : Ev)
  | fanOut
  | pop (o : Output)
  | tick

/-- The `case ev, ok := <-in` branch with `in` open: count the event, then offer it to
`grpcOut` and to `httpOut`, each without waiting. -/
def fanOut (s : Pipeline Ev) : Option (Pipeline Ev × Label Ev) :=
  s.apiEvents.recv?.map fun (ev, api) =>
    let grpc := sendOrDrop s.grpcEvents s.stats.grpcDrop ev
    let http := sendOrDrop s.httpEvents s.stats.httpDrop ev
    ({ apiEvents := api, grpcEvents := grpc.1, httpEvents := http.1,
       stats := ⟨s.stats.inCount + 1, grpc.2, http.2⟩ },
     .fanned ev fun o => (s.out o).hasRoom)

/-- A receiver's push onto `ApiEvents`, the fan-out's iteration, an exporter's pop, or a tick
of the stats ticker (which only logs). `none` when the step cannot be taken now. -/
def step (s : Pipeline Ev) : Action Ev → Option (Pipeline Ev × Label Ev)
  | .receive ev => (s.apiEvents.trySend ev).map fun api => ({ s with apiEvents := api }, .received ev)
  | .fanOut => fanOut s
  | .pop o => (s.out o).recv?.map fun (ev, c) => (s.setOut o c, .popped o ev)
  | .tick => some (s, .ticked)

def init : Pipeline Ev := ⟨.empty, .empty, .empty, ⟨0, 0, 0⟩⟩

inductive Run (s : Pipeline Ev) : List (Label Ev) → Pipeline Ev → Prop
  | nil : Run s [] s
  | snoc {ls : List (Label Ev)} {t u : Pipeline Ev} {a : Action Ev} {l : Label Ev} :
      Run s ls t → step t a = some (u, l) → Run s (ls ++ [l]) u

/-! ## The one-step lemmas -/

theorem fanOut_spec {s u : Pipeline Ev} {l : Label Ev} (h : fanOut s = some (u, l)) :
    ∃ ev, s.apiEvents.items = ev :: u.apiEvents.items ∧
      l = .fanned ev (fun o => (s.out o).hasRoom) ∧
      u.stats.inCount = s.stats.inCount + 1 ∧
      ∀ o, (u.out o, u.stats.drop o) = sendOrDrop (s.out o) (s.stats.drop o) ev := by
  simp only [fanOut, Option.map_eq_some'] at h
  obtain ⟨⟨ev, api⟩, hrecv, hu⟩ := h
  cases hu
  refine ⟨ev, BoundedChan.recv?_eq_some.mp hrecv, rfl, rfl, fun o => ?_⟩
  cases o <;> rfl

theorem fanOut_enabled (s : Pipeline Ev) (h : s.apiEvents.items ≠ []) : (fanOut s).isSome := by
  simpa [fanOut] using BoundedChan.recv?_isSome h

theorem step_cases {s u : Pipeline Ev} {a : Action Ev} {l : Label Ev}
    (h : step s a = some (u, l)) :
    (∃ ev, l = .received ev ∧ u.grpcEvents = s.grpcEvents ∧ u.httpEvents = s.httpEvents ∧
      u.stats = s.stats) ∨
    fanOut s = some (u, l) ∨
    (∃ o ev c, l = .popped o ev ∧ (s.out o).items = ev :: c.items ∧ u = s.setOut o c) ∨
    (l = .ticked ∧ u = s) := by
  cases a with
  | receive ev =>
    simp only [step, Option.map_eq_some'] at h
    obtain ⟨api, -, hu⟩ := h
    cases hu
    exact .inl ⟨ev, rfl, rfl, rfl, rfl⟩
  | fanOut => exact .inr (.inl h)
  | pop o =>
    simp only [step, Option.map_eq_some'] at h
    obtain ⟨⟨ev, c⟩, hrecv, hu⟩ := h
    cases hu
    exact .inr (.inr (.inl ⟨o, ev, c, rfl, BoundedChan.recv?_eq_some.mp hrecv, rfl⟩))
  | tick =>
    cases h
    exact .inr (.inr (.inr ⟨rfl, rfl⟩))

end SentryFlow.Fanout
