import Mathlib.Data.List.Basic

set_option autoImplicit false

/-!
# `base64.StdEncoding`
-/

namespace SentryFlow.Go

def encodeChar (v : Nat) : Char :=
  if v < 26 then Char.ofNat (65 + v) else if v < 52 then Char.ofNat (71 + v)
  else if v < 62 then Char.ofNat (v - 4) else if v = 62 then '+' else '/'

def decodeChar (c : Char) : Option Nat :=
  let n := c.toNat
  if 65 ≤ n ∧ n ≤ 90 then some (n - 65)
  else if 97 ≤ n ∧ n ≤ 122 then some (n - 71)
  else if 48 ≤ n ∧ n ≤ 57 then some (n + 4)
  else if n = 43 then some 62 else if n = 47 then some 63 else none

def isNewline (c : Char) : Bool := c == '\n' || c == '\r'

def quantumBytes (vals : List Nat) : List UInt8 :=
  let v := vals.getD 0 0 * 262144 + vals.getD 1 0 * 4096 + vals.getD 2 0 * 64 + vals.getD 3 0
  [UInt8.ofNat (v / 65536), UInt8.ofNat (v / 256), UInt8.ofNat v].take (vals.length - 1)

/-- `Decode` inside a quantum that holds `vals`, with `out` decoded so far: the bytes it
returns and whether it reports a `CorruptInputError`. -/
def decodeFrom : List Char → List Nat → List UInt8 → List UInt8 × Bool
  | [], vals, out => (out, !vals.isEmpty)
  | c :: cs, vals, out =>
    match decodeChar c with
    | some v =>
      if vals.length = 3 then decodeFrom cs [] (out ++ quantumBytes (vals ++ [v]))
      else decodeFrom cs (vals ++ [v]) out
    | none =>
      if isNewline c then decodeFrom cs vals out
      else if c ≠ '=' then (out, true)
      else if vals.length < 2 then (out, true)
      else if vals.length = 2 then
        match cs.dropWhile isNewline with
        | '=' :: rest => (out ++ quantumBytes vals, !(rest.dropWhile isNewline).isEmpty)
        | _ => (out, true)
      else (out ++ quantumBytes vals, !(cs.dropWhile isNewline).isEmpty)

def decodeString (s : List Char) : List UInt8 × Bool := decodeFrom s [] []

def encodeToString : List UInt8 → List Char
  | [] => []
  | [a] =>
    let v := a.toNat * 65536
    [encodeChar (v / 262144), encodeChar (v / 4096 % 64), '=', '=']
  | [a, b] =>
    let v := a.toNat * 65536 + b.toNat * 256
    [encodeChar (v / 262144), encodeChar (v / 4096 % 64), encodeChar (v / 64 % 64), '=']
  | a :: b :: c :: rest =>
    let v := a.toNat * 65536 + b.toNat * 256 + c.toNat
    [encodeChar (v / 262144), encodeChar (v / 4096 % 64), encodeChar (v / 64 % 64),
      encodeChar (v % 64)] ++ encodeToString rest

/-! ## The round trip -/

theorem decodeChar_encodeChar : ∀ v < 64, decodeChar (encodeChar v) = some v := by
  decide

theorem decodeChar_pad : decodeChar '=' = none := rfl

theorem uint8_ofNat_eq {n : Nat} {a : UInt8} (h : n % 256 = a.toNat) : UInt8.ofNat n = a := by
  apply UInt8.toNat.inj
  show n % 256 = a.toNat
  exact h

theorem decodeFrom_value {v : Nat} (hv : v < 64) (cs : List Char) (vals : List Nat)
    (out : List UInt8) (h : vals.length ≠ 3) :
    decodeFrom (encodeChar v :: cs) vals out = decodeFrom cs (vals ++ [v]) out := by
  simp [decodeFrom, decodeChar_encodeChar v hv, h]

theorem decodeFrom_group (a b c : UInt8) (cs : List Char) (out : List UInt8) :
    let v := a.toNat * 65536 + b.toNat * 256 + c.toNat
    decodeFrom ([encodeChar (v / 262144), encodeChar (v / 4096 % 64), encodeChar (v / 64 % 64),
      encodeChar (v % 64)] ++ cs) [] out = decodeFrom cs [] (out ++ [a, b, c]) := by
  intro v
  have ha := a.toNat_lt_size
  have hb := b.toNat_lt_size
  have hc := c.toNat_lt_size
  have hv : v < 2 ^ 24 := by simp only [v]; simp only [UInt8.size] at *; omega
  simp only [List.cons_append, List.nil_append]
  rw [decodeFrom_value (by omega) _ _ _ (by simp), decodeFrom_value (by omega) _ _ _ (by simp),
    decodeFrom_value (by omega) _ _ _ (by simp)]
  simp only [decodeFrom, decodeChar_encodeChar (v % 64) (by omega), List.nil_append,
    List.singleton_append, List.cons_append, List.length_cons, List.length_nil, if_true]
  congr 2
  simp only [quantumBytes, List.getD_cons_zero, List.getD_cons_succ, List.length_cons,
    List.length_nil]
  simp only [UInt8.size] at *
  simp only [List.take, List.cons.injEq, and_true]
  refine ⟨uint8_ofNat_eq ?_, uint8_ofNat_eq ?_, uint8_ofNat_eq ?_⟩ <;> omega

theorem decodeFrom_encode (bs : List UInt8) (out : List UInt8) :
    decodeFrom (encodeToString bs) [] out = (out ++ bs, false) := by
  induction bs using encodeToString.induct generalizing out with
  | case1 => simp [encodeToString, decodeFrom]
  | case2 a =>
    have ha := a.toNat_lt_size
    simp only [UInt8.size] at ha
    simp only [encodeToString]
    rw [decodeFrom_value (by omega) _ _ _ (by simp), decodeFrom_value (by omega) _ _ _ (by simp)]
    simp [decodeFrom, decodeChar_pad, isNewline, quantumBytes]
    exact uint8_ofNat_eq (by omega)
  | case3 a b =>
    have ha := a.toNat_lt_size
    have hb := b.toNat_lt_size
    simp only [UInt8.size] at ha hb
    simp only [encodeToString]
    rw [decodeFrom_value (by omega) _ _ _ (by simp), decodeFrom_value (by omega) _ _ _ (by simp),
      decodeFrom_value (by omega) _ _ _ (by simp)]
    simp [decodeFrom, decodeChar_pad, isNewline, quantumBytes]
    exact ⟨uint8_ofNat_eq (by omega), uint8_ofNat_eq (by omega)⟩
  | case4 a b c rest ih =>
    simp only [encodeToString]
    rw [decodeFrom_group, ih, List.append_assoc]
    rfl

/-! ## What the encoder writes -/

theorem encodeToString_length_mod (bs : List UInt8) : (encodeToString bs).length % 4 = 0 := by
  induction bs using encodeToString.induct with
  | case4 a b c rest ih => simp only [encodeToString, List.length_append]; simp; omega
  | _ => simp [encodeToString]

theorem mem_encodeToString {bs : List UInt8} {c : Char} (h : c ∈ encodeToString bs) :
    c = '=' ∨ ∃ v < 64, c = encodeChar v := by
  induction bs using encodeToString.induct with
  | case1 => simp [encodeToString] at h
  | case2 a =>
    have ha := a.toNat_lt_size
    simp only [UInt8.size] at ha
    simp only [encodeToString, List.mem_cons, List.mem_singleton, List.not_mem_nil,
      or_false] at h
    rcases h with rfl | rfl | rfl | rfl
    exacts [.inr ⟨_, by omega, rfl⟩, .inr ⟨_, by omega, rfl⟩, .inl rfl, .inl rfl]
  | case3 a b =>
    have ha := a.toNat_lt_size
    have hb := b.toNat_lt_size
    simp only [UInt8.size] at ha hb
    simp only [encodeToString, List.mem_cons, List.mem_singleton, List.not_mem_nil,
      or_false] at h
    rcases h with rfl | rfl | rfl | rfl
    exacts [.inr ⟨_, by omega, rfl⟩, .inr ⟨_, by omega, rfl⟩, .inr ⟨_, by omega, rfl⟩, .inl rfl]
  | case4 a b c' rest ih =>
    have ha := a.toNat_lt_size
    have hb := b.toNat_lt_size
    have hc := c'.toNat_lt_size
    simp only [UInt8.size] at ha hb hc
    simp only [encodeToString, List.mem_append, List.mem_cons, List.mem_singleton,
      List.not_mem_nil, or_false] at h
    rcases h with (rfl | rfl | rfl | rfl) | h
    exacts [.inr ⟨_, by omega, rfl⟩, .inr ⟨_, by omega, rfl⟩, .inr ⟨_, by omega, rfl⟩,
      .inr ⟨_, by omega, rfl⟩, ih h]

/-- Go decodes what `EncodeToString` produced back to the same bytes, without error. -/
theorem decodeString_encodeToString (bs : List UInt8) :
    decodeString (encodeToString bs) = (bs, false) := by
  simpa using decodeFrom_encode bs []

end SentryFlow.Go
