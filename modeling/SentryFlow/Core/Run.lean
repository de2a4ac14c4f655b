import Mathlib.Data.List.Basic

set_option autoImplicit false

/-!
# `Manager.run`: the goroutines and the channels it closes

The goroutines counted in `Wg`, the `OnConfigChange` callback and the HTTP server's request
handlers (neither counted in `Wg`), the `select` loop, `Wg.Wait` and the four closes.
-/

namespace SentryFlow.Core

inductive Chan
  | apiEvents
  | grpcEvents
  | httpEvents
  | configChan
  deriving DecidableEq, Repr

/-- The goroutines `run` counts in `Wg`; each receiver carries its configuration's number. -/
inductive Task
  | httpServer
  | receiver (gen : Nat)
  | fanout
  | grpcExporter
  | httpExporter
  | grpcServer
  deriving DecidableEq, Repr

/-- The channels a goroutine of `Wg` sends on. The HTTP server's goroutine only serves; its
request handlers run on goroutines of `net/http`. -/
def Task.sendsOn : Task → Chan → Bool
  | .receiver _, .apiEvents => true
  | .fanout, .grpcEvents => true
  | .fanout, .httpEvents => true
  | _, _ => false

inductive Phase
  | running
  | draining
  | stopped
  deriving DecidableEq, Repr

structure RunState where
  phase : Phase
  wg : List Task
  gen : Nat
  /-- the `OnConfigChange` callbacks waiting in `m.configChan <- cfg` -/
  blocked : Nat
  closed : List Chan
  /-- the sends on a closed channel so far, each a `send on closed channel` panic -/
  panics : List Chan
  deriving DecidableEq, Repr

inductive Action
  /-- the configuration file changes and `config.New` loads it: the callback sends -/
  | fileChange
  | reload
  | reloadFails
  | send (t : Task) (c : Chan)
  /-- a request handler of the passive-ingestion server pushes onto `ApiEvents` -/
  | handle
  | exit (t : Task)
  | signal
  /-- `Wg.Wait()` returns and the four channels are closed -/
  | drained
  deriving DecidableEq, Repr

def init : RunState :=
  ⟨.running, [.httpServer, .receiver 0, .fanout, .grpcExporter, .httpExporter, .grpcServer], 0, 0,
    [], []⟩

/-- A send on an unbuffered channel that nobody receives waits; closing a channel with waiting
senders makes each of them panic, and so does a send on a closed channel. `stopServers`, which
decides when the handlers stop, is not in the source tree: a handler may run at any time. -/
def step (s : RunState) : Action → Option RunState
  | .fileChange =>
    if .configChan ∈ s.closed then some { s with panics := .configChan :: s.panics }
    else some { s with blocked := s.blocked + 1 }
  | .reload =>
    if s.phase = .running ∧ 0 < s.blocked then
      some { s with
        blocked := s.blocked - 1, gen := s.gen + 1, wg := s.wg ++ [.receiver (s.gen + 1)] }
    else none
  | .reloadFails =>
    if s.phase = .running ∧ 0 < s.blocked then
      some { s with blocked := s.blocked - 1, phase := .stopped }
    else none
  | .send t c =>
    if t ∈ s.wg ∧ t.sendsOn c = true then
      if c ∈ s.closed then some { s with panics := c :: s.panics } else some s
    else none
  | .handle =>
    if .apiEvents ∈ s.closed then some { s with panics := .apiEvents :: s.panics } else some s
  | .exit t => if t ∈ s.wg then some { s with wg := s.wg.erase t } else none
  | .signal => if s.phase = .running then some { s with phase := .draining } else none
  | .drained =>
    if s.phase = .draining ∧ s.wg = [] then
      some { s with
        phase := .stopped, closed := [.apiEvents, .grpcEvents, .httpEvents, .configChan],
        panics := List.replicate s.blocked .configChan ++ s.panics, blocked := 0 }
    else none

inductive Reach : RunState → Prop
  | init : Reach init
  | step {s t : RunState} {a : Action} : Reach s → step s a = some t → Reach t

def runActions (s : RunState) : List Action → Option RunState
  | [] => some s
  | a :: as => (step s a).bind fun t => runActions t as

theorem reach_runActions {s t : RunState} (hs : Reach s) :
    ∀ {as : List Action}, runActions s as = some t → Reach t := by
  intro as
  induction as generalizing s with
  | nil => intro h; cases h; exact hs
  | cons a as ih =>
    intro h
    simp only [runActions, Option.bind_eq_some] at h
    obtain ⟨u, hu, h⟩ := h
    exact ih (hs.step hu) h

structure Safe (s : RunState) : Prop where
  /-- a closed channel means `Wg` is empty and `run` has returned -/
  closed : s.closed ≠ [] → s.wg = [] ∧ s.phase = .stopped
  /-- only the callback and the handlers, which `Wg` does not count, send on a closed channel -/
  panics : ∀ c ∈ s.panics, c = .configChan ∨ c = .apiEvents
  /-- no receiver in `Wg` is of a configuration after the current one -/
  gens : ∀ g, .receiver g ∈ s.wg → g ≤ s.gen

theorem safe_init : Safe init where
  closed h := absurd rfl h
  panics _ h := nomatch h
  gens g h := by simp [init] at h; omega

theorem Safe.closed_of_running {s : RunState} (h : Safe s) (hr : s.phase = .running) :
    s.closed = [] := by
  by_contra hc
  exact Phase.noConfusion (hr.symm.trans (h.closed hc).2)

theorem safe_step {s t : RunState} {a : Action} (h : Safe s) (hst : step s a = some t) :
    Safe t := by
  cases a <;> simp only [step] at hst
  case fileChange | handle =>
    split_ifs at hst <;> cases hst <;> exact ⟨h.closed, by simpa using h.panics, h.gens⟩
  case reload =>
    split_ifs at hst with hr
    cases hst
    refine ⟨absurd (h.closed_of_running hr.1), h.panics, fun g hg => ?_⟩
    rcases List.mem_append.mp hg with hg | hg
    · exact (h.gens g hg).trans (Nat.le_succ _)
    · simp only [List.mem_singleton, Task.receiver.injEq] at hg
      exact hg.le
  case reloadFails =>
    split_ifs at hst with hr
    cases hst
    exact ⟨absurd (h.closed_of_running hr.1), h.panics, h.gens⟩
  case signal =>
    split_ifs at hst with hr
    cases hst
    exact ⟨absurd (h.closed_of_running hr), h.panics, h.gens⟩
  case send t c =>
    split_ifs at hst with ht hc <;> cases hst
    · exact absurd ((h.closed (List.ne_nil_of_mem hc)).1 ▸ ht.1) (List.not_mem_nil t)
    · exact h
  case exit t =>
    split_ifs at hst
    cases hst
    exact ⟨fun hc => ⟨by simp [(h.closed hc).1], (h.closed hc).2⟩, h.panics,
      fun g hg => h.gens g (List.mem_of_mem_erase hg)⟩
  case drained =>
    split_ifs at hst with hr
    cases hst
    refine ⟨fun _ => ⟨hr.2, rfl⟩, fun c hc => ?_, h.gens⟩
    rcases List.mem_append.mp hc with hc | hc
    · exact .inl (List.eq_of_mem_replicate hc)
    · exact h.panics c hc

theorem safe_of_reach {s : RunState} (h : Reach s) : Safe s := by
  induction h with
  | init => exact safe_init
  | step _ hst ih => exact safe_step ih hst

/-! ## The output queues -/

/-- In every interleaving, no goroutine of `Wg` can send on a closed channel: `run` closes them
only once `Wg` is empty, and nothing joins `Wg` after that. So `GrpcEvents` and `HttpEvents`,
which only the fan-out sends on, are never sent on once closed. -/
theorem no_send_on_closed_output_queue {s : RunState} (h : Reach s) :
    (∀ t ∈ s.wg, ∀ c, t.sendsOn c = true → c ∉ s.closed) ∧
      .grpcEvents ∉ s.panics ∧ .httpEvents ∉ s.panics := by
  have hs := safe_of_reach h
  refine ⟨fun t ht c _ hc => ?_, fun hp => ?_, fun hp => ?_⟩
  · exact List.not_mem_nil t ((hs.closed (List.ne_nil_of_mem hc)).1 ▸ ht)
  all_goals rcases hs.panics _ hp with h | h <;> cases h

theorem no_send_on_closed_output_queue_after_late_handler :
    Reach ⟨.stopped, [], 0, 0, [.apiEvents, .grpcEvents, .httpEvents, .configChan],
        [.apiEvents]⟩ ∧
      .grpcEvents ∉ [Chan.apiEvents] ∧ .httpEvents ∉ [Chan.apiEvents] := by
  have hr : Reach ⟨.stopped, [], 0, 0, [.apiEvents, .grpcEvents, .httpEvents, .configChan],
      [.apiEvents]⟩ :=
    @reach_runActions _ _ .init [.signal, .exit .httpServer, .exit (.receiver 0), .exit .fanout,
      .exit .grpcExporter, .exit .httpExporter, .exit .grpcServer, .drained, .handle] (by decide)
  exact ⟨hr, (no_send_on_closed_output_queue hr).2⟩

/-! ## `configChan` -/

/-- A configuration change while `run` waits in `Wg.Wait()` leaves the callback waiting in
its send on `configChan`, which nothing receives any more; `run` then closes `configChan`,
and the callback panics. A change after the close panics at once. -/
theorem send_on_closed_configChan :
    runActions init [.signal, .fileChange, .exit .httpServer, .exit (.receiver 0), .exit .fanout,
        .exit .grpcExporter, .exit .httpExporter, .exit .grpcServer, .drained] =
      some ⟨.stopped, [], 0, 0, [.apiEvents, .grpcEvents, .httpEvents, .configChan],
        [.configChan]⟩ ∧
    runActions init [.signal, .exit .httpServer, .exit (.receiver 0), .exit .fanout,
        .exit .grpcExporter, .exit .httpExporter, .exit .grpcServer, .drained, .fileChange] =
      some ⟨.stopped, [], 0, 0, [.apiEvents, .grpcEvents, .httpEvents, .configChan],
        [.configChan]⟩ :=
  ⟨by decide, by decide⟩

end SentryFlow.Core
