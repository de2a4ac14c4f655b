import Mathlib.Data.List.Basic
import Mathlib.Algebra.Group.Nat.Basic
import Mathlib.Algebra.Group.Int

set_option autoImplicit false

/-!
# `strconv` and `fmt` on decimal integers

The receivers keep the value Go returns beside the error, so both are modelled.
-/

namespace SentryFlow.Go

inductive NumError
  | errSyntax
  | errRange
  deriving DecidableEq, Repr

def cutoff10 : Nat := (2 ^ 64 - 1) / 10 + 1

def digitValue (c : Char) : Nat := c.toNat - '0'.toNat

def parseUintLoop : List Char → Nat → Nat × Option NumError
  | [], n => (n, none)
  | c :: cs, n =>
    if !c.isDigit then (0, some .errSyntax)
    else if cutoff10 ≤ n then (2 ^ 64 - 1, some .errRange)
    else if 2 ^ 64 - 1 < n * 10 + digitValue c then (2 ^ 64 - 1, some .errRange)
    else parseUintLoop cs (n * 10 + digitValue c)

def parseUint (s : List Char) : Nat × Option NumError :=
  if s = [] then (0, some .errSyntax) else parseUintLoop s 0

def splitSign : List Char → Bool × List Char
  | [] => (false, [])
  | c :: r => if c = '+' then (false, r) else if c = '-' then (true, r) else (false, c :: r)

/-- `strconv.ParseInt(s, 10, 64)`: an optional sign, then `ParseUint` of the rest, clamped
to the `int64` range. -/
def parseInt (s : List Char) : BitVec 64 × Option NumError :=
  if s = [] then (0, some .errSyntax) else
  let (neg, body) := splitSign s
  let (un, err) := parseUint body
  if err = some .errSyntax then (0, some .errSyntax)
  else if !neg && 2 ^ 63 ≤ un then (BitVec.ofNat 64 (2 ^ 63 - 1), some .errRange)
  else if neg && 2 ^ 63 < un then (BitVec.ofInt 64 (-2 ^ 63), some .errRange)
  else (BitVec.ofInt 64 (if neg then -(un : Int) else un), none)

/-- `strconv.Atoi(s)`, which Go documents as `ParseInt(s, 10, 0)`: base 10, the width of
`int` (64 bits). -/
def atoi (s : List Char) : BitVec 64 × Option NumError := parseInt s

def decimalValue (ds : List Char) : Nat := ds.foldl (fun n c => n * 10 + digitValue c) 0

theorem foldl_digits_ge (ds : List Char) (n : Nat) :
    n ≤ ds.foldl (fun n c => n * 10 + digitValue c) n := by
  induction ds generalizing n with
  | nil => exact le_rfl
  | cons c ds ih => exact le_trans (by omega) (ih (n * 10 + digitValue c))

theorem parseUintLoop_digits (ds : List Char) (n : Nat) (hd : ∀ c ∈ ds, c.isDigit)
    (hv : ds.foldl (fun n c => n * 10 + digitValue c) n < 2 ^ 64) :
    parseUintLoop ds n = (ds.foldl (fun n c => n * 10 + digitValue c) n, none) := by
  induction ds generalizing n with
  | nil => rfl
  | cons c ds ih =>
    have hc := hd c (by simp)
    have hge := foldl_digits_ge ds (n * 10 + digitValue c)
    simp only [List.foldl_cons] at hv hge
    have hcut : ¬ cutoff10 ≤ n := by show ¬ (2 ^ 64 - 1) / 10 + 1 ≤ n; omega
    simp only [parseUintLoop, hc, Bool.not_true, hcut, if_false, List.foldl_cons]
    rw [if_neg (show ¬ 2 ^ 64 - 1 < n * 10 + digitValue c by omega)]
    exact ih _ (fun c' h' => hd c' (by simp [h'])) hv

theorem parseInt_digits (ds : List Char) (hne : ds ≠ []) (hd : ∀ c ∈ ds, c.isDigit)
    (hv : decimalValue ds < 2 ^ 63) :
    parseInt ds = (BitVec.ofNat 64 (decimalValue ds), none) := by
  obtain ⟨c, cs, rfl⟩ := List.exists_cons_of_ne_nil hne
  have hc := hd c (by simp)
  have hsign : c ≠ '+' ∧ c ≠ '-' := by
    constructor <;> (rintro rfl; revert hc; decide)
  have hu : parseUint (c :: cs) = (decimalValue (c :: cs), none) :=
    parseUintLoop_digits _ 0 hd (by rw [← decimalValue]; omega)
  simp only [parseInt, List.cons_ne_nil, if_false, splitSign, hsign.1, hsign.2, hu]
  simp only [reduceCtorEq, if_false, Bool.not_false, Bool.true_and, decide_eq_true_eq,
    Bool.false_and, not_le.mpr hv, Bool.false_eq_true]
  rfl

/-! ## `fmt.Sprintf("%d", i)` -/

/-- `fmt.Sprintf("%d", i)` for an `int`, as `fmtInteger` writes it in base 10: when `i` is
negative, a `-` and the digits of `-i` taken as a `uint64`; otherwise the digits of `i`. -/
def formatInt (i : BitVec 64) : List Char :=
  if i.toInt < 0 then '-' :: Nat.toDigits 10 (-i).toNat else Nat.toDigits 10 i.toNat

end SentryFlow.Go
