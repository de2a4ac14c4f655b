import SentryFlow.Exporter.HttpClient

set_option autoImplicit false

/-!
# The request `send` makes for a webhook

`Header.Set` files each value under the canonical key, and Go varies the order of a `range`
loop over a map, so the header is fixed by the configuration only when no two keys share a
canonical form with different values.
-/

namespace SentryFlow.Exporter

open SentryFlow.Config

/-- The characters RFC 7230 allows in a token, as `validHeaderFieldByte` accepts them; every
other character, any non-ASCII one included, is not. -/
def isTokenChar (c : Char) : Bool :=
  c.isAlphanum || "!#$%&'*+-.^_|~".toList.contains c || c == Char.ofNat 96

def canonicalize : Bool → List Char → List Char
  | _, [] => []
  | upper, c :: cs => (if upper then c.toUpper else c.toLower) :: canonicalize (c == '-') cs

def canonicalMIMEHeaderKey (s : List Char) : List Char :=
  if s.all isTokenChar then canonicalize true s else s

/-- An `http.Header` that only `Set` writes: one value for each name, the latest first. -/
structure Header where
  entries : List (List Char × List Char)
  deriving DecidableEq, Repr

namespace Header

def get? (h : Header) (k : List Char) : Option (List Char) := h.entries.lookup k

def set (h : Header) (k v : List Char) : Header := ⟨(canonicalMIMEHeaderKey k, v) :: h.entries⟩

@[simp] theorem get?_set (h : Header) (k v k' : List Char) :
    (h.set k v).get? k' = if k' = canonicalMIMEHeaderKey k then some v else h.get? k' := by
  by_cases hk : k' = canonicalMIMEHeaderKey k
  · rw [if_pos hk, hk]
    exact List.lookup_cons_self
  · have hb : (k' == canonicalMIMEHeaderKey k) = false := by simpa using hk
    simp only [get?, set, List.lookup_cons, hb, if_neg hk]

end Header

def requestHeader (hs : List (String × String)) : Header :=
  hs.foldl (fun h kv => h.set kv.1.toList kv.2.toList)
    ((⟨[]⟩ : Header).set "Content-Type".toList "application/json".toList)

structure Request where
  method : String
  url : String
  header : Header
  body : List UInt8

/-- `(*Exporter).send(wh, event)` up to `e.client.Do(req)`: the request, or the error of
`http.NewRequest`, which is `newRequest` of the method (`GET` when empty) and the URL;
`marshal` is `protojson.Marshal`. -/
def send {Ev : Type} (marshal : Ev → List UInt8) (newRequest : String → String → Except String Unit)
    (wh : WebhookConfig) (ev : Ev) : Except String Request := do
  let method := if wh.method = "" then "GET" else wh.method
  newRequest method wh.url
  pure ⟨method, wh.url, requestHeader wh.headers, marshal ev⟩

/-! ## The last write wins -/

def filedUnder (k : List Char) (hs : List (String × String)) : List (String × String) :=
  hs.filter fun kv => canonicalMIMEHeaderKey kv.1.toList = k

theorem filedUnder_concat (k : List Char) (hs : List (String × String)) (kv : String × String) :
    filedUnder k (hs ++ [kv]) =
      filedUnder k hs ++ if canonicalMIMEHeaderKey kv.1.toList = k then [kv] else [] := by
  rw [filedUnder, filedUnder, List.filter_append, List.filter_singleton]
  by_cases h : canonicalMIMEHeaderKey kv.1.toList = k
  · rw [if_pos h, decide_eq_true h]
    rfl
  · rw [if_neg h, decide_eq_false h]
    rfl

theorem get?_requestHeader (hs : List (String × String)) (k : List Char) :
    (requestHeader hs).get? k = ((filedUnder k hs).getLast?.map (·.2.toList)).or
      (if k = "Content-Type".toList then some "application/json".toList else none) := by
  induction hs using List.reverseRecOn with
  | nil =>
    simp only [requestHeader, List.foldl_nil, Header.get?_set, filedUnder, List.filter_nil,
      List.getLast?_nil, Option.map_none', Option.none_or]
    rfl
  | append_singleton hs kv ih =>
    rw [requestHeader, List.foldl_append, List.foldl_cons, List.foldl_nil, ← requestHeader,
      Header.get?_set, filedUnder_concat]
    by_cases hk : k = canonicalMIMEHeaderKey kv.1.toList
    · simp [hk]
    · rw [if_neg hk, ih, if_neg (Ne.symm hk), List.append_nil]

theorem getLast?_map_eq_of_perm {α β : Type} {l l' : List α} (f : α → β) (hp : l'.Perm l)
    (hf : ∀ x ∈ l, ∀ y ∈ l, f x = f y) : l'.getLast?.map f = l.getLast?.map f := by
  cases hl : l.getLast? with
  | none =>
    rw [List.getLast?_eq_none_iff] at hl
    rw [hl, List.perm_nil] at hp
    rw [hp]
    rfl
  | some x =>
    cases hl' : l'.getLast? with
    | none =>
      rw [List.getLast?_eq_none_iff] at hl'
      rw [hl', List.nil_perm] at hp
      rw [hp] at hl
      cases hl
    | some y =>
      exact congrArg some (hf y (hp.subset (List.mem_of_getLast?_eq_some hl')) x
        (List.mem_of_getLast?_eq_some hl))

theorem get?_requestHeader_last {hs : List (String × String)} {a : String × String}
    (ha : a ∈ hs) : ∃ hs', hs'.Perm hs ∧
      (requestHeader hs').get? (canonicalMIMEHeaderKey a.1.toList) = some a.2.toList := by
  obtain ⟨s, t, rfl⟩ := List.append_of_mem ha
  refine ⟨s ++ t ++ [a], (List.perm_append_singleton a _).trans List.perm_middle.symm, ?_⟩
  rw [get?_requestHeader, filedUnder_concat, if_pos rfl, List.getLast?_append,
    List.getLast?_singleton]
  rfl

/-- The header of a webhook depends only on its configuration, not on the order the loop
visits its map, exactly when no two keys with one canonical form carry different values. -/
theorem requestHeader_perm_iff (hs : List (String × String)) :
    (∀ hs', hs'.Perm hs → ∀ k, (requestHeader hs').get? k = (requestHeader hs).get? k) ↔
      ∀ a ∈ hs, ∀ b ∈ hs,
        canonicalMIMEHeaderKey a.1.toList = canonicalMIMEHeaderKey b.1.toList → a.2 = b.2 := by
  constructor
  · intro h a ha b hb hab
    obtain ⟨la, hpa, hga⟩ := get?_requestHeader_last ha
    obtain ⟨lb, hpb, hgb⟩ := get?_requestHeader_last hb
    have e₁ := h la hpa (canonicalMIMEHeaderKey a.1.toList)
    have e₂ := h lb hpb (canonicalMIMEHeaderKey b.1.toList)
    rw [hga] at e₁
    rw [hgb] at e₂
    rw [hab, ← e₂] at e₁
    exact String.ext (Option.some.inj e₁)
  · intro h hs' hp k
    have hperm : (filedUnder k hs').Perm (filedUnder k hs) := hp.filter _
    rw [get?_requestHeader, get?_requestHeader, getLast?_map_eq_of_perm _ hperm fun x hx y hy => ?_]
    simp only [filedUnder, List.mem_filter, decide_eq_true_eq] at hx hy
    rw [h x hx.1 y hy.1 (hx.2.trans hy.2.symm)]

example : (requestHeader [("x-token", "a"), ("X-Token", "b")]).get? "X-Token".toList =
      some "b".toList ∧
    (requestHeader [("X-Token", "b"), ("x-token", "a")]).get? "X-Token".toList =
      some "a".toList := by
  decide

example : (requestHeader [("content-type", "text/plain")]).get? "Content-Type".toList =
    some "text/plain".toList := by
  decide

end SentryFlow.Exporter
