import SentryFlow.F5.Parse

set_option autoImplicit false

/-!
# Tokens between `DELIM`s

A `Clean` word set between `DELIM`s cannot be read as part of a token.
-/

namespace SentryFlow.F5

open SentryFlow.Go

def delim : List Char := "__".toList

theorem delim_eq : delim = ['_', '_'] := rfl

def token (n : List Char) : List Char := delim ++ n ++ delim

def joinDelim (ws : List (List Char)) : List Char := join ws delim

theorem hslEnd_eq : hslEnd = token "HSL_END".toList := rfl
theorem reqhs_eq : reqhs = token "REQHS".toList := rfl
theorem reqhe_eq : reqhe = token "REQHE".toList := rfl
theorem hean_eq : hean = token "HEAN".toList := rfl
theorem heav_eq : heav = token "HEAV".toList := rfl
theorem resphs_eq : resphs = token "RESPHS".toList := rfl
theorem resphe_eq : resphe = token "RESPHE".toList := rfl
theorem reqps_eq : reqps = token "REQPS".toList := rfl
theorem reqpe_eq : reqpe = token "REQPE".toList := rfl

/-- A word that can stand between two `DELIM`s: no `DELIM` in it, no `_` at either end. -/
structure Clean (w : List Char) : Prop where
  no_delim : index w delim = none
  head_ne : w.head? ≠ some '_'
  getLast_ne : w.getLast? ≠ some '_'

instance (w : List Char) : Decidable (Clean w) :=
  decidable_of_iff (index w delim = none ∧ w.head? ≠ some '_' ∧ w.getLast? ≠ some '_')
    ⟨fun ⟨a, b, c⟩ => ⟨a, b, c⟩, fun ⟨a, b, c⟩ => ⟨a, b, c⟩⟩

theorem clean_nil : Clean [] := ⟨rfl, by simp, by simp⟩

theorem clean_of_forall_ne {w : List Char} (h : ∀ c ∈ w, c ≠ '_') : Clean w where
  no_delim := by
    cases hm : index w delim with
    | none => rfl
    | some m =>
      obtain ⟨⟨t, ht⟩, -, -⟩ := index_spec hm
      exact absurd rfl (h '_' (List.mem_of_mem_drop (by rw [← ht]; simp [delim_eq])))
  head_ne hh := h '_' (List.mem_of_mem_head? hh) rfl
  getLast_ne hl := h '_' (List.mem_of_mem_getLast? hl) rfl

/-! ## Clean words -/

section Clean

variable {p q x y : List Char}

theorem Clean.eq_nil_of_append (hq : Clean q) {a : List Char} (hqa : q = p ++ a)
    (h : delim ++ x = a ++ delim ++ y) : a = [] := by
  match a, h with
  | [], _ => rfl
  | [c], h =>
    cases (List.cons.inj h).1
    exact absurd (by simp [hqa]) hq.getLast_ne
  | c :: d :: a, h =>
    cases (List.cons.inj h).1
    cases (List.cons.inj (List.cons.inj h).2).1
    exact absurd ⟨a, by simp [hqa, delim]⟩
      (index_eq_none hq.no_delim p.length (by simp [hqa]))

theorem Clean.append_delim_inj (hp : Clean p) (hq : Clean q)
    (h : p ++ delim ++ x = q ++ delim ++ y) : p = q ∧ x = y := by
  simp only [List.append_assoc] at h
  rcases List.append_eq_append_iff.mp h with ⟨a, hqa, ha⟩ | ⟨a, hpa, ha⟩
  · cases hq.eq_nil_of_append hqa (by rw [ha, List.append_assoc])
    simp only [List.append_nil, List.nil_append, List.append_cancel_left_eq] at hqa ha
    exact ⟨hqa.symm, ha⟩
  · cases hp.eq_nil_of_append hpa (by rw [ha, List.append_assoc])
    simp only [List.append_nil, List.nil_append, List.append_cancel_left_eq] at hpa ha
    exact ⟨hpa, ha.symm⟩

theorem Clean.not_prefix_drop (hp : Clean p) {j : Nat} (hj : j < p.length) (t z : List Char) :
    ¬ (delim ++ t) <+: (p ++ '_' :: z).drop j := by
  rintro ⟨u, hu⟩
  rw [List.drop_append_of_le_length (by omega)] at hu
  obtain ⟨c, r, hd⟩ := List.exists_cons_of_ne_nil
    (show p.drop j ≠ [] by simp only [ne_eq, List.drop_eq_nil_iff]; omega)
  rw [hd] at hu
  cases (List.cons.inj hu).1
  cases r with
  | nil =>
    have hlast : p.getLast? = some '_' := by
      rw [← List.take_append_drop j p, hd, List.getLast?_append]; rfl
    exact hp.getLast_ne hlast
  | cons d r =>
    cases (List.cons.inj (List.cons.inj hu).2).1
    exact index_eq_none hp.no_delim j (by omega) ⟨r, by rw [hd]; rfl⟩

theorem Clean.eq_of_token_at {n : List Char} (hn : Clean n) (hq : Clean q) {z : List Char}
    (h : token n <+: delim ++ q ++ delim ++ z) : q = n := by
  obtain ⟨t, ht⟩ := h
  simp only [token, List.append_assoc, List.append_cancel_left_eq] at ht
  exact (hn.append_delim_inj hq (by simpa only [List.append_assoc] using ht)).1.symm

theorem Clean.not_token_prefix_tail {n : List Char} (hn : Clean n) (hn0 : n ≠ []) (hq : Clean q)
    (z : List Char) : ¬ token n <+: '_' :: (q ++ delim ++ z) := by
  rintro ⟨t, ht⟩
  simp only [token, delim_eq, List.append_assoc, List.cons_append, List.nil_append,
    List.cons.injEq, true_and] at ht
  cases q with
  | cons c q => exact hq.head_ne (by simp [← (List.cons.inj ht).1])
  | nil =>
    obtain ⟨c, n, rfl⟩ := List.exists_cons_of_ne_nil hn0
    simp only [List.nil_append, List.cons_append, List.cons.injEq] at ht
    exact hn.head_ne (by simp [ht.2.1])

end Clean

/-! ## Searching clean words joined by `DELIM` -/

section Search

variable {n : List Char}

theorem joinDelim_cons_cons (w w' : List Char) (ws : List (List Char)) :
    joinDelim (w :: w' :: ws) = w ++ delim ++ joinDelim (w' :: ws) := rfl

theorem joinDelim_append {ws ws' : List (List Char)} (h : ws ≠ []) (h' : ws' ≠ []) :
    joinDelim (ws ++ ws') = joinDelim ws ++ delim ++ joinDelim ws' := by
  induction ws with
  | nil => exact absurd rfl h
  | cons w ws ih =>
    cases ws with
    | nil =>
      obtain ⟨w', ws', rfl⟩ := List.exists_cons_of_ne_nil h'
      rfl
    | cons w₁ ws =>
      rw [List.cons_append, List.cons_append, joinDelim_cons_cons, ← List.cons_append,
        ih (List.cons_ne_nil _ _), joinDelim_cons_cons]
      simp only [List.append_assoc]

theorem joinDelim_token_eq (w : List Char) (ws : List (List Char)) (y : List Char) :
    ∃ z, joinDelim (w :: ws) ++ token n ++ y = w ++ delim ++ z := by
  cases ws with
  | nil => exact ⟨n ++ delim ++ y, by simp [joinDelim, join, token]⟩
  | cons w' ws => exact ⟨joinDelim (w' :: ws) ++ token n ++ y, by simp [joinDelim_cons_cons]⟩

/-- `strings.Index` of a token in clean words joined by `DELIM` and followed by the token:
no word after the first is the token's name, so the token found is the one after them. -/
theorem index_joinDelim_token (hn : Clean n) (hn0 : n ≠ []) :
    ∀ (ws : List (List Char)) (y : List Char), (∀ w ∈ ws, Clean w) → (∀ w ∈ ws.tail, w ≠ n) →
      index (joinDelim ws ++ token n ++ y) (token n) = some (joinDelim ws).length
  | [], y, _, _ => index_eq_zero ⟨y, rfl⟩
  | w :: ws, y, hc, ht => by
    obtain ⟨z, hz⟩ := joinDelim_token_eq w ws y
    have hw := hc w (List.mem_cons_self _ _)
    have hhead : ∀ j < w.length, ¬ token n <+: (w ++ delim ++ z).drop j := fun j hj => by
      simpa only [token, delim_eq, List.append_assoc, List.cons_append, List.nil_append] using
        hw.not_prefix_drop hj (n ++ delim) ('_' :: z)
    rw [hz, List.append_assoc, index_append w _ (by simpa only [List.append_assoc] using hhead)]
    cases ws with
    | nil =>
      simp only [joinDelim, join, token, List.append_assoc, List.append_cancel_left_eq] at hz
      rw [← hz, ← List.append_assoc, index_eq_zero ⟨y, by simp [token]⟩]
      simp [joinDelim, join]
    | cons q ws =>
      have hq := hc q (by simp)
      have hqn : q ≠ n := ht q (by simp)
      simp only [joinDelim_cons_cons, List.append_assoc, List.append_cancel_left_eq] at hz
      obtain ⟨z', hz'⟩ := joinDelim_token_eq q ws y
      have hzq : z = q ++ delim ++ z' := by rw [← hz, ← hz', List.append_assoc]
      have hrest := index_joinDelim_token hn hn0 (q :: ws) y (fun w hw => hc w (by simp [hw]))
        (fun w hw => ht w (by simp_all))
      rw [← hz, show delim = ['_', '_'] from rfl, List.cons_append, List.cons_append,
        List.nil_append, index_cons_skip,
        index_cons_skip, ← List.append_assoc, hrest]
      · simp [joinDelim_cons_cons, delim_eq]
        omega
      · rw [hz, hzq]
        exact hn.not_token_prefix_tail hn0 hq z'
      · rw [hz, hzq]
        exact fun h => hqn (hn.eq_of_token_at hq (by simpa [delim_eq] using h))

theorem index_joinDelim_eq_none (hn : Clean n) (hn0 : n ≠ []) {ws : List (List Char)}
    (hc : ∀ w ∈ ws, Clean w) (ht : ∀ w ∈ ws.tail, w ≠ n) :
    index (joinDelim ws) (token n) = none := by
  cases hm : index (joinDelim ws) (token n) with
  | none => rfl
  | some m =>
    obtain ⟨hp, -, hle⟩ := index_spec hm
    have hfirst := (index_spec (by simpa using index_joinDelim_token hn hn0 ws [] hc ht)).2.1
    refine absurd ?_ (hfirst m (by simp [token, delim_eq] at hle; omega))
    rw [List.drop_append_of_le_length (by omega)]
    exact hp.trans (List.prefix_append _ _)

/-- `strings.Split` by a token of groups of clean words joined by `DELIM` and then by the
token gives the groups back, when no word after the first of a group is the token's name. -/
theorem split_join_joinDelim (hn : Clean n) (hn0 : n ≠ []) :
    ∀ (wss : List (List (List Char))), wss ≠ [] →
      (∀ ws ∈ wss, (∀ w ∈ ws, Clean w) ∧ ∀ w ∈ ws.tail, w ≠ n) →
      split (join (wss.map joinDelim) (token n)) (token n) = wss.map joinDelim
  | [], h, _ => absurd rfl h
  | [ws], _, h => by
    have h := h ws (List.mem_singleton_self _)
    exact split_of_index_none (by simp [token, delim_eq]) (index_joinDelim_eq_none hn hn0 h.1 h.2)
  | ws :: ws' :: wss, _, h => by
    have hws := h ws (List.mem_cons_self _ _)
    have hidx : index (joinDelim ws ++ token n ++ join ((ws' :: wss).map joinDelim) (token n))
        (token n) = some (joinDelim ws).length :=
      index_joinDelim_token hn hn0 ws _ hws.1 hws.2
    rw [List.map_cons, List.map_cons, join, ← List.map_cons,
      split_of_index_some (by simp [token, delim_eq]) hidx, List.append_assoc, List.take_left,
      List.drop_append_eq_append_drop, List.drop_eq_nil_of_le (by simp), List.nil_append,
      Nat.add_sub_cancel_left, List.drop_left,
      split_join_joinDelim hn hn0 (ws' :: wss) (List.cons_ne_nil _ _)
        fun ws hw => h ws (List.mem_cons_of_mem _ hw)]
    exact List.cons_ne_nil _ _

end Search

end SentryFlow.F5
