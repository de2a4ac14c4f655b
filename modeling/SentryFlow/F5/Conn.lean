import SentryFlow.F5.Outcomes
import Mathlib.Algebra.Order.Ring.Nat

set_option autoImplicit false

/-!
# One connection of the F5 receiver

`handleConn` over a `bufio.Scanner` with its default 64 KiB buffer.
-/

namespace SentryFlow.F5

open SentryFlow.Go

def maxScanTokenSize : Nat := 64 * 1024

def utf8Length (s : List Char) : Nat := (s.map Char.utf8Size).sum

def dropCR (s : List Char) : List Char := if s.getLast? = some '\r' then s.dropLast else s

/-- What `scanner.Scan()` and `scanner.Text()` yield from the newline-terminated `lines` of
a connection: each line without its `\r`, up to the first line that does not fit the buffer
with its newline; there `Scan` returns false. -/
def scanLines : List (List Char) → List (List Char)
  | [] => []
  | l :: ls => if utf8Length l + 1 ≤ maxScanTokenSize then dropCR l :: scanLines ls else []

def scanLoop : List (List Char) → List APIEvent × Option Panic
  | [] => ([], none)
  | line :: rest =>
    match parseF5LogLine line with
    | .error p => ([], some p)
    | .ok none => scanLoop rest
    | .ok (some ev) => ((scanLoop rest).1.cons ev, (scanLoop rest).2)

def handleConn (lines : List (List Char)) : List APIEvent × Option Panic :=
  scanLoop (scanLines lines)

/-! ## The scan -/

theorem scanLines_eq (lines : List (List Char)) :
    scanLines lines =
      (lines.takeWhile fun l => decide (utf8Length l < maxScanTokenSize)).map dropCR := by
  induction lines with
  | nil => rfl
  | cons l ls ih =>
    by_cases h : utf8Length l < maxScanTokenSize
    · rw [scanLines, if_pos (by omega), ih, List.takeWhile_cons_of_pos (by simpa using h)]
      rfl
    · rw [scanLines, if_neg (by omega), List.takeWhile_cons_of_neg (by simpa using h)]
      rfl

/-! ## The loop -/

theorem scanLoop_spec (ls : List (List Char)) :
    ∃ pre rest evs, ls = pre ++ rest ∧
      List.Forall₂ (fun l ev => parseF5LogLine l = .ok (some ev)) pre evs ∧
      (scanLoop ls).1 = evs ∧
      ((rest = [] ∧ (scanLoop ls).2 = none) ∨
        ∃ l rest' p, rest = l :: rest' ∧ parseF5LogLine l = .error p ∧
          (scanLoop ls).2 = some p) := by
  induction ls with
  | nil => exact ⟨[], [], [], rfl, .nil, rfl, .inl ⟨rfl, rfl⟩⟩
  | cons l ls ih =>
    obtain ⟨pre, rest, evs, rfl, hpre, hevs, hend⟩ := ih
    cases hp : parseF5LogLine l with
    | error p =>
      refine ⟨[], l :: (pre ++ rest), [], rfl, .nil, ?_, .inr ⟨l, _, p, rfl, hp, ?_⟩⟩ <;>
        simp [scanLoop, hp]
    | ok r =>
      cases r with
      | none => exact absurd hp (parseF5LogLine_ne_ok_none l)
      | some ev =>
        refine ⟨l :: pre, rest, ev :: evs, rfl, .cons hp hpre, ?_, ?_⟩
        · simp [scanLoop, hp, hevs]
        · simpa [scanLoop, hp] using hend

/-- What a connection delivers: the lines read are those before the first line of `64 KiB`
or more, each without a trailing `\r`; `handleConn` sends, in order, the event of each line
read up to the first one on which `parseF5LogLine` panics, and that panic ends it. -/
theorem handleConn_sends_until_panic (lines : List (List Char)) :
    ∃ pre rest evs,
      (lines.takeWhile fun l => decide (utf8Length l < maxScanTokenSize)).map dropCR =
        pre ++ rest ∧
      List.Forall₂ (fun l ev => parseF5LogLine l = .ok (some ev)) pre evs ∧
      (handleConn lines).1 = evs ∧
      ((rest = [] ∧ (handleConn lines).2 = none) ∨
        ∃ l rest' p, rest = l :: rest' ∧ parseF5LogLine l = .error p ∧
          (handleConn lines).2 = some p) := by
  rw [handleConn, scanLines_eq]
  exact scanLoop_spec _

theorem utf8Length_replicate (n : Nat) (c : Char) :
    utf8Length (List.replicate n c) = n * c.utf8Size := by
  induction n with
  | zero => simp [utf8Length]
  | succ n ih =>
    rw [List.replicate_succ, utf8Length, List.map_cons, List.sum_cons, ← utf8Length, ih,
      Nat.succ_mul, Nat.add_comm]

set_option maxRecDepth 10000 in
/-- No line after a line of `64 KiB` is ever read, and after an empty line the goroutine
panics before reaching the next one: whatever follows, a well-formed line included, is
lost. -/
theorem handleConn_loses_line_after_long_or_empty_line (rest : List (List Char)) :
    handleConn (List.replicate 65536 'a' :: rest) = ([], none) ∧
      handleConn ([] :: rest) = ([], some .nilLogger) ∧
      ∃ ev, parseF5LogLine (hslStart ++
        " https /a GET q 1.2.3.4 80 5.6.7.8 443 HTTP/1.1 200 1000 1050 ".toList ++ hslEnd) =
          .ok (some ev) := by
  refine ⟨?_, ?_, (parseF5LogLine_eq_some_iff _).mpr ⟨_, rfl, by decide, .inl rfl⟩⟩
  · rw [handleConn, scanLines, if_neg (by rw [utf8Length_replicate]; decide)]
    rfl
  · rw [handleConn, scanLines, if_pos (by decide)]
    rfl

end SentryFlow.F5
