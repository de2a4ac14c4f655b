import Mathlib.Data.List.Infix
import Mathlib.Algebra.Group.Nat.Basic

set_option autoImplicit false

/-!
# The `strings` functions the receivers and exporters call

A Go string is the list of its characters.
-/

namespace SentryFlow.Go

/-- `strings.Index(s, sep)`: where `sep` first occurs in `s`; `none` is Go's `-1`. -/
def index : List Char → List Char → Option Nat
  | [], sep => if sep.isPrefixOf [] then some 0 else none
  | c :: s, sep => if sep.isPrefixOf (c :: s) then some 0 else (index s sep).map (· + 1)

def contains (s substr : List Char) : Bool := (index s substr).isSome

/-- `strings.SplitN(s, sep, n)` for `n ≥ 0` (Go's `genSplit`): cut at the first `n - 1`
occurrences of `sep`, leftmost first. -/
def splitN (s sep : List Char) : Nat → List (List Char)
  | 0 => []
  | 1 => [s]
  | n + 2 =>
    match index s sep with
    | none => [s]
    | some m => s.take m :: splitN (s.drop (m + sep.length)) sep (n + 1)

/-- `strings.Split(s, sep)`: `genSplit` with `Count(s, sep) + 1` pieces. A non-empty `sep`
occurs at most `s.length` times, so `s.length + 1` pieces cut at every occurrence too. -/
def split (s sep : List Char) : List (List Char) := splitN s sep (s.length + 1)

def join : List (List Char) → List Char → List Char
  | [], _ => []
  | [e], _ => e
  | e :: es, sep => e ++ sep ++ join es sep

def isSpace (c : Char) : Bool :=
  let n := c.toNat
  (9 ≤ n && n ≤ 13) || n == 32 || n == 0x85 || n == 0xA0 || n == 0x1680 ||
    (0x2000 ≤ n && n ≤ 0x200A) || n == 0x2028 || n == 0x2029 || n == 0x202F ||
    n == 0x205F || n == 0x3000

def trimSpace (s : List Char) : List Char :=
  ((s.dropWhile isSpace).reverse.dropWhile isSpace).reverse

def trim (s cutset : List Char) : List Char :=
  ((s.dropWhile (fun c => decide (c ∈ cutset))).reverse.dropWhile
    (fun c => decide (c ∈ cutset))).reverse

def hasPrefix (s pre : List Char) : Bool := pre.isPrefixOf s

/-- `strings.ToLower(s)`, as the prefix tests of the code read it. `Char.toLower` lowers only
`A` to `Z`; the other runes that Unicode lowers to an ASCII letter are `U+0130` (to `i`) and
`U+212A` (to `k`), so a test for a prefix without `i` and `k` reads the same either way. -/
def toLower (s : List Char) : List Char := s.map Char.toLower

/-! ## `index` -/

section Index

variable {s sep : List Char}

theorem index_eq_zero (h : sep <+: s) : index s sep = some 0 := by
  cases s <;> simp [index, List.isPrefixOf_iff_prefix.mpr h]

theorem index_cons_skip (c : Char) (h : ¬ sep <+: c :: s) :
    index (c :: s) sep = (index s sep).map (· + 1) := by
  simp [index, h]

theorem index_append (x y : List Char) (h : ∀ j < x.length, ¬ sep <+: (x ++ y).drop j) :
    index (x ++ y) sep = (index y sep).map (· + x.length) := by
  induction x with
  | nil => simp
  | cons c x ih =>
    rw [List.cons_append, index_cons_skip c (by simpa using h 0 (by simp)),
      ih fun j hj => by simpa using h (j + 1) (by simp; omega), Option.map_map]
    rfl

theorem index_spec {m : Nat} (h : index s sep = some m) :
    sep <+: s.drop m ∧ (∀ j < m, ¬ sep <+: s.drop j) ∧ m + sep.length ≤ s.length := by
  induction s generalizing m with
  | nil =>
    simp only [index] at h
    split at h
    · rename_i hp
      cases h
      have hp := List.isPrefixOf_iff_prefix.mp hp
      exact ⟨hp, by simp, by simp [List.prefix_nil.mp hp]⟩
    · cases h
  | cons c s ih =>
    simp only [index] at h
    split at h
    · rename_i hp
      cases h
      have hp := List.isPrefixOf_iff_prefix.mp hp
      exact ⟨hp, by simp, by simpa using hp.length_le⟩
    · rename_i hp
      obtain ⟨k, hk, rfl⟩ := Option.map_eq_some'.mp h
      obtain ⟨h1, h2, h3⟩ := ih hk
      refine ⟨by simpa using h1, fun j hj => ?_, by simp; omega⟩
      cases j with
      | zero => simpa [List.isPrefixOf_iff_prefix] using hp
      | succ j => simpa using h2 j (by omega)

theorem index_eq_none (h : index s sep = none) : ∀ j ≤ s.length, ¬ sep <+: s.drop j := by
  induction s with
  | nil =>
    simp only [index] at h
    split at h
    · cases h
    · rename_i hp
      intro j _
      simpa [List.isPrefixOf_iff_prefix] using hp
  | cons c s ih =>
    simp only [index] at h
    split at h
    · cases h
    · rename_i hp
      intro j hj
      cases j with
      | zero => simpa [List.isPrefixOf_iff_prefix] using hp
      | succ j => simpa using ih (Option.map_eq_none'.mp h) j (by simpa using hj)

theorem index_le {m : Nat} (h : index s sep = some m) : m + sep.length ≤ s.length :=
  (index_spec h).2.2

theorem index_append_eq_none {w : List Char} (h : index s sep = none) :
    index s (sep ++ w) = none := by
  cases hm : index s (sep ++ w) with
  | none => rfl
  | some m =>
    obtain ⟨hp, -, hle⟩ := index_spec hm
    exact absurd ((List.prefix_append sep w).trans hp)
      (index_eq_none h m (by simp only [List.length_append] at hle; omega))

theorem index_append_cons_of_none {x y : List Char} {c : Char} (hx : index x sep = none)
    (hc : c ∉ sep) : index (x ++ c :: y) sep = (index y sep).map (· + (x.length + 1)) := by
  have hnil : sep ≠ [] := by
    rintro rfl
    exact index_eq_none hx 0 (Nat.zero_le _) (List.nil_prefix)
  have hin : ∀ j < x.length, ¬ sep <+: (x ++ c :: y).drop j := by
    rintro j hj ⟨t, ht⟩
    rw [List.drop_append_of_le_length (by omega)] at ht
    rcases List.append_eq_append_iff.mp ht with ⟨a, hxa, -⟩ | ⟨a, rfl, hca⟩
    · exact index_eq_none hx j (by omega) ⟨a, hxa.symm⟩
    · cases a with
      | nil => exact index_eq_none hx j (by omega) ⟨[], by simp⟩
      | cons d a => exact hc (List.mem_append_right _ (by simp [(List.cons.inj hca).1]))
  have hc' : ¬ sep <+: c :: y := by
    rintro ⟨t, ht⟩
    cases sep with
    | nil => exact hnil rfl
    | cons d sep => exact hc (by simp [(List.cons.inj ht).1])
  rw [index_append x _ hin, index_cons_skip c hc', Option.map_map]
  congr 1
  funext m
  simp only [Function.comp_apply]
  omega

theorem index_singleton_of_not_mem {x y : List Char} {c : Char} (hx : c ∉ x) :
    index (x ++ c :: y) [c] = some x.length := by
  have hin : ∀ j < x.length, ¬ [c] <+: (x ++ c :: y).drop j := by
    rintro j hj ⟨t, ht⟩
    rw [List.drop_append_of_le_length (by omega)] at ht
    obtain ⟨d, r, hd⟩ := List.exists_cons_of_ne_nil
      (show x.drop j ≠ [] by simp only [ne_eq, List.drop_eq_nil_iff]; omega)
    rw [hd, List.singleton_append, List.cons_append, List.cons.injEq] at ht
    exact hx (ht.1 ▸ List.mem_of_mem_drop (by rw [hd]; exact List.mem_cons_self d r))
  rw [index_append x _ hin, index_eq_zero (show [c] <+: c :: y from ⟨y, rfl⟩)]
  simp

theorem eq_of_index {m : Nat} (h : index s sep = some m) :
    s = s.take m ++ sep ++ s.drop (m + sep.length) := by
  obtain ⟨⟨t, ht⟩, -, -⟩ := index_spec h
  have hd : s.drop (m + sep.length) = t := by
    rw [← List.drop_drop, ← ht, List.drop_left]
  rw [hd, List.append_assoc, ht, List.take_append_drop]

theorem index_eq_none_iff : index s sep = none ↔ ¬ sep <:+: s := by
  constructor
  · rintro h ⟨a, b, rfl⟩
    exact index_eq_none h a.length (by simp) ⟨b, by simp⟩
  · intro h
    cases hm : index s sep with
    | none => rfl
    | some m => exact absurd ((index_spec hm).1.isInfix.trans (List.drop_suffix m s).isInfix) h

/-- `sep` occurs in `p ++ sep` only at its end: in every text that starts with `p ++ sep`, the
first `sep` is the one after `p`. -/
def FirstAfter (p sep : List Char) : Prop := ∀ j < p.length, ¬ sep <+: (p ++ sep).drop j

instance (p sep : List Char) : Decidable (FirstAfter p sep) :=
  inferInstanceAs (Decidable (∀ j < p.length, ¬ sep <+: (p ++ sep).drop j))

theorem FirstAfter.of_append_left {pre x : List Char} (h : FirstAfter (pre ++ x) sep) :
    FirstAfter x sep := fun j hj hp => by
  refine h (pre.length + j) (by simp; omega) ?_
  rwa [List.append_assoc, List.drop_append]

theorem index_of_first {p t : List Char} (hs : s = p ++ sep ++ t) (hp : FirstAfter p sep) :
    index s sep = some p.length := by
  subst hs
  have hin : ∀ j < p.length, ¬ sep <+: (p ++ (sep ++ t)).drop j := fun j hj hpre => by
    rw [← List.append_assoc, List.drop_append_of_le_length (by simp; omega)] at hpre
    exact hp j hj (List.prefix_of_prefix_length_le hpre (List.prefix_append _ _) (by simp; omega))
  rw [List.append_assoc, index_append p _ hin, index_eq_zero ⟨t, rfl⟩]
  simp

end Index

/-! ## `splitN`, `split` and `join` -/

section Split

variable {sep : List Char}

theorem splitN_fuel (hsep : sep ≠ []) (n : Nat) (s : List Char) (k : Nat) (hs : s.length = n)
    (hk : n + 1 ≤ k) : splitN s sep k = split s sep := by
  induction n using Nat.strong_induction_on generalizing s k with
  | _ n ih =>
  rw [split]
  obtain ⟨k, rfl⟩ : ∃ j, k = j + 1 := ⟨k - 1, by omega⟩
  have hpos : 0 < sep.length := List.length_pos.mpr hsep
  cases k with
  | zero =>
    cases s with
    | nil => rfl
    | cons c s => simp at hs; omega
  | succ k =>
    cases s with
    | nil =>
      simp only [splitN]
      cases h : index [] sep with
      | none => rfl
      | some m => have := index_le h; simp only [List.length_nil] at this; omega
    | cons c s =>
      simp only [splitN, List.length_cons]
      cases h : index (c :: s) sep with
      | none => rfl
      | some m =>
        have hle := index_le h
        simp only [List.length_cons] at hle hs
        dsimp only
        have hlt : (List.drop (m + sep.length) (c :: s)).length < n := by
          simp only [List.length_drop, List.length_cons]; omega
        rw [ih _ hlt _ (k + 1) rfl (by simp only [List.length_drop, List.length_cons]; omega),
          ih _ hlt _ (s.length + 1) rfl (by simp only [List.length_drop, List.length_cons]; omega)]

theorem split_eq (hsep : sep ≠ []) (s : List Char) :
    split s sep = match index s sep with
      | none => [s]
      | some m => s.take m :: split (s.drop (m + sep.length)) sep := by
  have hpos : 0 < sep.length := List.length_pos.mpr hsep
  conv_lhs => rw [split]
  cases s with
  | nil =>
    simp only [List.length_nil, Nat.zero_add, splitN]
    cases h : index [] sep with
    | none => rfl
    | some m => have := index_le h; simp only [List.length_nil] at this; omega
  | cons c s =>
    simp only [List.length_cons, splitN]
    cases h : index (c :: s) sep with
    | none => rfl
    | some m =>
      have hle := index_le h
      simp only [List.length_cons] at hle
      dsimp only
      rw [splitN_fuel hsep _ _ _ rfl (by simp only [List.length_drop, List.length_cons]; omega)]

theorem split_ne_nil (hsep : sep ≠ []) (s : List Char) : split s sep ≠ [] := by
  rw [split_eq hsep]
  split <;> exact List.cons_ne_nil _ _

theorem split_of_index_none (hsep : sep ≠ []) {s : List Char} (h : index s sep = none) :
    split s sep = [s] := by
  rw [split_eq hsep, h]

theorem split_of_index_some (hsep : sep ≠ []) {s : List Char} {m : Nat}
    (h : index s sep = some m) :
    split s sep = s.take m :: split (s.drop (m + sep.length)) sep := by
  rw [split_eq hsep, h]

theorem join_split (hsep : sep ≠ []) (n : Nat) (s : List Char) (hs : s.length = n) :
    join (split s sep) sep = s := by
  induction n using Nat.strong_induction_on generalizing s with
  | _ n ih =>
  cases h : index s sep with
  | none => rw [split_of_index_none hsep h, join]
  | some m =>
    have hle := index_le h
    have hpos : 0 < sep.length := List.length_pos.mpr hsep
    rw [split_of_index_some hsep h]
    have hlt : (s.drop (m + sep.length)).length < n := by
      simp only [List.length_drop]; omega
    have hrest := ih _ hlt (s.drop (m + sep.length)) rfl
    cases hsplit : split (s.drop (m + sep.length)) sep with
    | nil => rw [split_eq hsep] at hsplit; split at hsplit <;> cases hsplit
    | cons p ps =>
      rw [hsplit] at hrest
      rw [join, hrest]
      · exact (eq_of_index h).symm
      · exact List.cons_ne_nil _ _

theorem index_foldr_cons {c : Char} {y : List Char} (hc : c ∉ sep) :
    ∀ (ws : List (List Char)), (∀ w ∈ ws, index w sep = none) →
      index (ws.foldr (fun w acc => w ++ c :: acc) y) sep =
        (index y sep).map (· + (ws.foldr (fun w acc => w ++ c :: acc) []).length)
  | [], _ => by simp
  | w :: ws, h => by
    rw [List.foldr_cons, index_append_cons_of_none (h w (List.mem_cons_self _ _)) hc,
      index_foldr_cons hc ws fun w' hw' => h w' (List.mem_cons_of_mem _ hw'), Option.map_map]
    congr 1
    funext m
    simp only [Function.comp_apply, List.foldr_cons, List.length_append, List.length_cons]
    omega

theorem foldr_cons_append {c : Char} (ws : List (List Char)) (y z : List Char) :
    ws.foldr (fun w acc => w ++ c :: acc) (y ++ z) =
      ws.foldr (fun w acc => w ++ c :: acc) y ++ z := by
  induction ws with
  | nil => rfl
  | cons w ws ih => simp [ih]

theorem split_foldr_cons {c : Char} (y : List Char) :
    ∀ (ws : List (List Char)), (∀ w ∈ ws, c ∉ w) →
      split (ws.foldr (fun w acc => w ++ c :: acc) y) [c] = ws ++ split y [c]
  | [], _ => rfl
  | w :: ws, h => by
    rw [List.foldr_cons, split_of_index_some (List.cons_ne_nil _ _)
      (index_singleton_of_not_mem (h w (List.mem_cons_self _ _))), List.take_left,
      show (w ++ c :: ws.foldr (fun w acc => w ++ c :: acc) y).drop (w.length + [c].length) =
        ws.foldr (fun w acc => w ++ c :: acc) y by simp,
      split_foldr_cons y ws fun w' hw' => h w' (List.mem_cons_of_mem _ hw')]
    rfl

theorem join_append_cons {c : Char} (y : List Char) :
    ∀ (ws : List (List Char)), ws ≠ [] →
      join ws [c] ++ c :: y = ws.foldr (fun w acc => w ++ c :: acc) y
  | [], h => absurd rfl h
  | [w], _ => rfl
  | w :: w' :: ws, _ => by
    rw [join, List.foldr_cons, ← join_append_cons y (w' :: ws) (List.cons_ne_nil _ _)]
    · simp
    · exact List.cons_ne_nil _ _

end Split

/-! ## Trimming -/

section Trim

theorem dropWhile_of_head {p : Char → Bool} {s : List Char} (h : ∀ c ∈ s.head?, p c = false) :
    s.dropWhile p = s := by
  cases s with
  | nil => rfl
  | cons c s => exact List.dropWhile_cons_of_neg (by simp [h c rfl])

theorem trimSpace_eq_self {s : List Char} (h1 : ∀ c ∈ s.head?, isSpace c = false)
    (h2 : ∀ c ∈ s.getLast?, isSpace c = false) : trimSpace s = s := by
  rw [trimSpace, dropWhile_of_head h1, dropWhile_of_head (by simpa using h2), List.reverse_reverse]

theorem trimSpace_cons_space (s : List Char) : trimSpace (' ' :: s) = trimSpace s := by
  simp [trimSpace, isSpace]

theorem trim_eq_self {s cutset : List Char} (h1 : ∀ c ∈ s.head?, c ∉ cutset)
    (h2 : ∀ c ∈ s.getLast?, c ∉ cutset) : trim s cutset = s := by
  rw [trim, @dropWhile_of_head _ s (by simpa using h1),
    dropWhile_of_head (by simpa using h2), List.reverse_reverse]

end Trim

end SentryFlow.Go
