import SentryFlow.F5.Headers

set_option autoImplicit false

/-!
# The round trip of an HSL line

`encode` writes a line as the spec's grammar has it; `parseF5LogLine` reads it back.
-/

namespace SentryFlow.F5

open SentryFlow.Go

/-- Modelled from the spec: what one HSL line carries, each field as text. -/
structure HslLine where
  scheme : List Char
  path : List Char
  method : List Char
  query : List Char
  srcIP : List Char
  srcPort : List Char
  dstIP : List Char
  dstPort : List Char
  protocol : List Char
  status : List Char
  reqTime : List Char
  respTime : List Char
  reqHeaders : List (List Char × List Char)
  respHeaders : List (List Char × List Char)
  reqBody : List UInt8
  respBody : List UInt8

namespace HslLine

def fields (l : HslLine) : List (List Char) :=
  [l.scheme, l.path, l.method, l.query, l.srcIP, l.srcPort, l.dstIP, l.dstPort, l.protocol,
    l.status, l.reqTime, l.respTime]

def sections (l : HslLine) : List Char :=
  reqhs ++ encodeHeaders l.reqHeaders ++ reqhe ++ " ".toList ++
    resphs ++ encodeHeaders l.respHeaders ++ resphe ++ " ".toList ++
    reqps ++ encodeToString l.reqBody ++ reqpe ++ encodeToString l.respBody

end HslLine

/-- Modelled from the spec: the line, `HSL_START`, a space, the fields joined by spaces, a
space, the sections, `HSL_END`. -/
def encode (l : HslLine) : List Char :=
  hslStart ++ " ".toList ++ join l.fields " ".toList ++ " ".toList ++ l.sections ++ hslEnd

def FieldWord (f : List Char) : Prop :=
  f ≠ [] ∧ (∀ c ∈ f, isSpace c = false) ∧ index f delim = none

def Decimal (s : List Char) : Prop := s ≠ [] ∧ ∀ c ∈ s, c.isDigit

instance : DecidablePred FieldWord := fun _ => inferInstanceAs (Decidable (_ ∧ _ ∧ _))

instance : DecidablePred Decimal := fun _ => inferInstanceAs (Decidable (_ ∧ _))

def reqPseudo (l : HslLine) : List (List Char × List Char) :=
  [(":scheme".toList, l.scheme), (":path".toList, l.path), (":method".toList, l.method),
    (":query".toList, l.query)]

/-- Modelled from the spec: the lines the grammar describes. Fields are grammar words, ports
and times decimal numbers in range, header keys and values header words without a newline,
each map's keys distinct and none of them a pseudo-header the parser sets. -/
structure HslLine.Admissible (l : HslLine) : Prop where
  fields : ∀ f ∈ l.fields, FieldWord f
  ports : ∀ p ∈ [l.srcPort, l.dstPort], Decimal p ∧ decimalValue p ≤ 65535
  times : ∀ t ∈ [l.reqTime, l.respTime], Decimal t ∧ decimalValue t < 2 ^ 63
  words : ∀ kv ∈ l.reqHeaders ++ l.respHeaders,
    HeaderWord kv.1 ∧ HeaderWord kv.2 ∧ '\n' ∉ kv.1 ∧ '\n' ∉ kv.2
  reqKeys : (l.reqHeaders.map Prod.fst).Nodup ∧
    ∀ kv ∈ l.reqHeaders, kv.1 ∉ (reqPseudo l).map Prod.fst
  respKeys : (l.respHeaders.map Prod.fst).Nodup ∧ ∀ kv ∈ l.respHeaders, kv.1 ≠ ":status".toList

/-- No header key or value is `HSL_END` or the end token of its section, and no value is
`HEAN`: such a word ends the section, or the payload, early. A key `HEAN` is read back. -/
structure HslLine.TokenFree (l : HslLine) : Prop where
  reqKeys : ∀ kv ∈ l.reqHeaders, kv.1 ∉ ["HSL_END".toList, "REQHE".toList]
  reqValues : ∀ kv ∈ l.reqHeaders, kv.2 ∉ ["HSL_END".toList, "REQHE".toList, "HEAN".toList]
  respKeys : ∀ kv ∈ l.respHeaders, kv.1 ∉ ["HSL_END".toList, "RESPHE".toList]
  respValues : ∀ kv ∈ l.respHeaders, kv.2 ∉ ["HSL_END".toList, "RESPHE".toList, "HEAN".toList]

instance (l : HslLine) : Decidable l.Admissible :=
  decidable_of_iff (_ ∧ _ ∧ _ ∧ _ ∧ _ ∧ _)
    ⟨fun ⟨a, b, c, d, e, f⟩ => ⟨a, b, c, d, e, f⟩, fun ⟨a, b, c, d, e, f⟩ => ⟨a, b, c, d, e, f⟩⟩

instance (l : HslLine) : Decidable l.TokenFree :=
  decidable_of_iff (_ ∧ _ ∧ _ ∧ _)
    ⟨fun ⟨a, b, c, d⟩ => ⟨a, b, c, d⟩, fun ⟨a, b, c, d⟩ => ⟨a, b, c, d⟩⟩

/-! ## The line as words between `DELIM`s -/

namespace HslLine

def sectionWords (l : HslLine) : List (List Char) :=
  [[], "REQHS".toList] ++ headerWords l.reqHeaders ++
    ["REQHE".toList, " ".toList, "RESPHS".toList] ++ headerWords l.respHeaders ++
    ["RESPHE".toList, " ".toList, "REQPS".toList, encodeToString l.reqBody, "REQPE".toList,
      encodeToString l.respBody]

def bodies (l : HslLine) : List Char :=
  " ".toList ++ reqps ++ encodeToString l.reqBody ++ reqpe ++ encodeToString l.respBody

def afterReq (l : HslLine) : List Char :=
  " ".toList ++ resphs ++ encodeHeaders l.respHeaders ++ resphe ++ l.bodies

theorem sections_eq_joinDelim (l : HslLine) : l.sections = joinDelim l.sectionWords := by
  simp only [sectionWords, joinDelim_append, ne_eq, List.append_eq_nil, headerWords_ne_nil,
    List.cons_ne_nil, and_false, false_and, not_false_eq_true, ← encodeHeaders_eq]
  simp [sections, joinDelim, join, token, reqhs_eq, reqhe_eq, resphs_eq, resphe_eq, reqps_eq,
    reqpe_eq]

theorem sections_eq_req (l : HslLine) :
    l.sections = [] ++ reqhs ++ encodeHeaders l.reqHeaders ++ token "REQHE".toList ++ l.afterReq := by
  simp [sections, afterReq, bodies, reqhe_eq]

theorem afterReq_eq (l : HslLine) :
    l.afterReq = " ".toList ++ resphs ++ encodeHeaders l.respHeaders ++ token "RESPHE".toList ++
      l.bodies := by
  simp [afterReq, resphe_eq]

end HslLine

/-! ## Base64 words -/

theorem encodeChar_word : ∀ v < 64, encodeChar v ≠ '_' ∧ isSpace (encodeChar v) = false := by
  decide

theorem encodeToString_word {bs : List UInt8} {c : Char} (h : c ∈ encodeToString bs) :
    c ≠ '_' ∧ isSpace c = false := by
  rcases mem_encodeToString h with rfl | ⟨v, hv, rfl⟩
  exacts [by decide, encodeChar_word v hv]

theorem clean_encodeToString (bs : List UInt8) : Clean (encodeToString bs) :=
  clean_of_forall_ne fun _ h => (encodeToString_word h).1

theorem encodeToString_ne_name {bs : List UInt8} {n : List Char} (h : '_' ∈ n ∨ n.length = 5) :
    encodeToString bs ≠ n := by
  rintro rfl
  rcases h with h | h
  · exact (encodeToString_word h).1 rfl
  · have := encodeToString_length_mod bs
    omega

theorem trimSpace_encodeToString (bs : List UInt8) :
    trimSpace (encodeToString bs) = encodeToString bs :=
  trimSpace_eq_self (fun _ h => (encodeToString_word (List.mem_of_mem_head? h)).2)
    (fun _ h => (encodeToString_word (List.mem_of_mem_getLast? h)).2)

/-! ## Reading the line -/

section Read

variable {l : HslLine}

theorem HslLine.Admissible.reqWords (hl : l.Admissible) {kv : List Char × List Char}
    (h : kv ∈ l.reqHeaders) : HeaderWord kv.1 ∧ HeaderWord kv.2 :=
  ⟨(hl.words kv (List.mem_append_left _ h)).1, (hl.words kv (List.mem_append_left _ h)).2.1⟩

theorem HslLine.Admissible.respWords (hl : l.Admissible) {kv : List Char × List Char}
    (h : kv ∈ l.respHeaders) : HeaderWord kv.1 ∧ HeaderWord kv.2 :=
  ⟨(hl.words kv (List.mem_append_right _ h)).1, (hl.words kv (List.mem_append_right _ h)).2.1⟩

theorem sectionWords_spec (hl : l.Admissible) (ht : l.TokenFree) {w : List Char}
    (hw : w ∈ l.sectionWords) : Clean w ∧ w ≠ "HSL_END".toList := by
  have hhw : ∀ H : List (List Char × List Char),
      (∀ kv ∈ H, HeaderWord kv.1 ∧ HeaderWord kv.2) →
      (∀ kv ∈ H, kv.1 ≠ "HSL_END".toList ∧ kv.2 ≠ "HSL_END".toList) →
      w ∈ headerWords H → Clean w ∧ w ≠ "HSL_END".toList := fun H hc hn hw => by
    rcases mem_headerWords hw with rfl | rfl | rfl | ⟨kv, hkv, rfl | rfl⟩
    exacts [⟨clean_nil, by decide⟩, ⟨clean_heav_name, by decide⟩, ⟨clean_hean_name, by decide⟩,
      ⟨(hc kv hkv).1.clean, (hn kv hkv).1⟩, ⟨(hc kv hkv).2.clean, (hn kv hkv).2⟩]
  simp only [HslLine.sectionWords, List.mem_append, List.mem_cons, List.mem_singleton,
    List.not_mem_nil, or_false] at hw
  rcases hw with ((((rfl | rfl) | hw) | rfl | rfl | rfl) | hw) | rfl | rfl | rfl | rfl | rfl | rfl
  · exact ⟨clean_nil, by decide⟩
  · exact ⟨⟨rfl, by decide, by decide⟩, by decide⟩
  · exact hhw _ (fun _ h => hl.reqWords h)
      (fun kv h => ⟨fun e => ht.reqKeys kv h (by simp [e]),
        fun e => ht.reqValues kv h (by simp [e])⟩) hw
  · exact ⟨⟨rfl, by decide, by decide⟩, by decide⟩
  · exact ⟨⟨rfl, by decide, by decide⟩, by decide⟩
  · exact ⟨⟨rfl, by decide, by decide⟩, by decide⟩
  · exact hhw _ (fun _ h => hl.respWords h)
      (fun kv h => ⟨fun e => ht.respKeys kv h (by simp [e]),
        fun e => ht.respValues kv h (by simp [e])⟩) hw
  · exact ⟨⟨rfl, by decide, by decide⟩, by decide⟩
  · exact ⟨⟨rfl, by decide, by decide⟩, by decide⟩
  · exact ⟨⟨rfl, by decide, by decide⟩, by decide⟩
  · exact ⟨clean_encodeToString _, encodeToString_ne_name (.inl (by decide))⟩
  · exact ⟨⟨rfl, by decide, by decide⟩, by decide⟩
  · exact ⟨clean_encodeToString _, encodeToString_ne_name (.inl (by decide))⟩

theorem encode_eq (l : HslLine) :
    encode l = hslStart ++ ' ' :: l.fields.foldr (fun w acc => w ++ ' ' :: acc) l.sections ++
      hslEnd := by
  rw [← join_append_cons _ _ (by simp [HslLine.fields])]
  simp [encode]

theorem index_hslEnd_encode (hl : l.Admissible) (ht : l.TokenFree) :
    index (encode l) hslEnd =
      some (hslStart ++ ' ' :: l.fields.foldr (fun w acc => w ++ ' ' :: acc) l.sections).length := by
  have hsec : index (l.sections ++ hslEnd) hslEnd = some l.sections.length := by
    have h := index_joinDelim_token (show Clean "HSL_END".toList from ⟨rfl, by decide, by decide⟩)
      (by decide) l.sectionWords [] (fun w hw => (sectionWords_spec hl ht hw).1)
      (fun w hw => (sectionWords_spec hl ht (List.mem_of_mem_tail hw)).2)
    rwa [List.append_nil, ← hslEnd_eq, ← HslLine.sections_eq_joinDelim] at h
  rw [encode_eq, List.append_assoc, List.cons_append, ← foldr_cons_append,
    index_append_cons_of_none (by decide) (by decide),
    index_foldr_cons (by decide) l.fields (fun f hf => by
      rw [hslEnd_eq, token, List.append_assoc]
      exact index_append_eq_none (hl.fields f hf).2.2), hsec]
  have hlen : (l.fields.foldr (fun w acc => w ++ ' ' :: acc) l.sections).length =
      (l.fields.foldr (fun w acc => w ++ ' ' :: acc) []).length + l.sections.length := by
    rw [← List.length_append, ← foldr_cons_append, List.nil_append]
  simp [hlen]
  omega

theorem payloadParts_encode (hl : l.Admissible) (ht : l.TokenFree) :
    payloadParts (encode l) = .ok (some (l.fields ++ split l.sections [' '])) := by
  have hstart : index (encode l) hslStart = some 0 :=
    index_eq_zero (by rw [encode]; simp only [List.append_assoc]; exact List.prefix_append _ _)
  have hscheme := hl.fields l.scheme (by simp [HslLine.fields])
  have hlast : ∀ c ∈ l.sections.getLast?, isSpace c = false := by
    intro c hc
    rw [HslLine.sections, List.getLast?_append] at hc
    cases hb : (encodeToString l.respBody).getLast? with
    | none =>
      rw [hb, Option.none_or, List.getLast?_append, show reqpe.getLast? = some '_' from rfl,
        Option.or_some] at hc
      cases Option.some.inj hc
      rfl
    | some b =>
      rw [hb, Option.or_some] at hc
      cases Option.some.inj hc
      exact (encodeToString_word (List.mem_of_getLast?_eq_some hb)).2
  have htrim : trimSpace (l.fields.foldr (fun w acc => w ++ ' ' :: acc) l.sections) =
      l.fields.foldr (fun w acc => w ++ ' ' :: acc) l.sections := by
    obtain ⟨c, cs, hc⟩ := List.exists_cons_of_ne_nil hscheme.1
    refine trimSpace_eq_self (fun d hd => ?_) (fun d hd => ?_)
    · simp only [HslLine.fields, List.foldr_cons, hc, List.cons_append, List.head?_cons,
        Option.mem_def, Option.some.injEq] at hd
      exact hd ▸ hscheme.2.1 c (by simp [hc])
    · rw [← List.nil_append l.sections, foldr_cons_append, List.getLast?_append] at hd
      cases hs : l.sections.getLast? with
      | none => simp [HslLine.sections] at hs
      | some b =>
        rw [hs, Option.or_some] at hd
        cases Option.some.inj hd
        exact hlast _ hs
  simp only [payloadParts, hstart, index_hslEnd_encode hl ht]
  rw [if_neg (by simp), encode_eq, List.take_left, Nat.zero_add, List.drop_left,
    trimSpace_cons_space, htrim, split_foldr_cons]
  · rfl
  · intro f hf hsp
    exact absurd ((hl.fields f hf).2.1 ' ' hsp) (by decide)

theorem extractHeaders_req (hl : l.Admissible) (ht : l.TokenFree) :
    extractHeaders l.sections reqhs reqhe = (⟨l.reqHeaders.reverse⟩, l.afterReq) := by
  rw [HslLine.sections_eq_req, reqhe_eq]
  refine extractHeaders_encodeHeaders (by decide)
    (show Clean "REQHE".toList from ⟨rfl, by decide, by decide⟩) (by decide) (fun kv h => ?_)
    ⟨by decide, by decide⟩
  have hk := ht.reqKeys kv h
  have hv := ht.reqValues kv h
  simp only [List.mem_cons, List.not_mem_nil, or_false, not_or] at hk hv
  exact ⟨(hl.reqWords h).1, (hl.reqWords h).2, hk.2, hv.2.1, hv.2.2⟩

theorem extractHeaders_resp (hl : l.Admissible) (ht : l.TokenFree) :
    extractHeaders l.afterReq resphs resphe = (⟨l.respHeaders.reverse⟩, l.bodies) := by
  rw [HslLine.afterReq_eq, resphe_eq]
  refine extractHeaders_encodeHeaders (by decide)
    (show Clean "RESPHE".toList from ⟨rfl, by decide, by decide⟩) (by decide)
    (fun kv h => ?_) ⟨by decide, by decide⟩
  have hk := ht.respKeys kv h
  have hv := ht.respValues kv h
  simp only [List.mem_cons, List.not_mem_nil, or_false, not_or] at hk hv
  exact ⟨(hl.respWords h).1, (hl.respWords h).2, hk.2, hv.2.1, hv.2.2⟩

theorem requestBody_bodies : requestBody l.bodies = l.reqBody := by
  have hs : l.bodies = " ".toList ++ reqps ++
      (encodeToString l.reqBody ++ reqpe ++ encodeToString l.respBody) := by
    simp only [HslLine.bodies, List.append_assoc]
  have h2 : index (encodeToString l.reqBody ++ reqpe ++ encodeToString l.respBody) reqpe =
      some (encodeToString l.reqBody).length := by
    simpa [joinDelim, join, reqpe_eq] using index_joinDelim_token
      (show Clean "REQPE".toList from ⟨rfl, by decide, by decide⟩) (by decide)
      [encodeToString l.reqBody] (encodeToString l.respBody)
      (by simpa using clean_encodeToString l.reqBody) (by simp)
  have hdrop : l.bodies.drop (" ".toList.length + reqps.length) =
      encodeToString l.reqBody ++ reqpe ++ encodeToString l.respBody := by
    rw [hs, ← List.length_append, List.drop_left]
  simp only [requestBody, index_of_first hs (by decide), hdrop, h2]
  rw [List.append_assoc, List.take_left, trimSpace_encodeToString,
    decodeString_encodeToString]

theorem responseBody_bodies : responseBody l.bodies = .ok l.respBody := by
  have h : index l.bodies reqpe = some (" ".toList ++ reqps ++ encodeToString l.reqBody).length := by
    have hb : l.bodies = joinDelim [" ".toList, "REQPS".toList, encodeToString l.reqBody] ++
        token "REQPE".toList ++ encodeToString l.respBody := by
      simp [HslLine.bodies, joinDelim, join, reqps_eq, reqpe_eq, token]
    rw [hb, reqpe_eq, index_joinDelim_token
      (show Clean "REQPE".toList from ⟨rfl, by decide, by decide⟩) (by decide)]
    · simp [joinDelim, join, reqps_eq, token]
    · intro w hw
      simp only [List.mem_cons, List.mem_singleton, List.not_mem_nil, or_false] at hw
      rcases hw with rfl | rfl | rfl
      exacts [⟨rfl, by decide, by decide⟩, ⟨rfl, by decide, by decide⟩, clean_encodeToString _]
    · intro w hw
      simp only [List.tail_cons, List.mem_cons, List.mem_singleton, List.not_mem_nil,
        or_false] at hw
      rcases hw with rfl | rfl
      exacts [by decide, encodeToString_ne_name (.inr rfl)]
  have hdrop : l.bodies.drop ((" ".toList ++ reqps ++ encodeToString l.reqBody).length +
      reqpe.length) = encodeToString l.respBody := by
    rw [HslLine.bodies, ← List.length_append]
    exact List.drop_left _ _
  simp only [responseBody, h, hdrop, trimSpace_encodeToString, decodeString_encodeToString]
  rfl

end Read

theorem parseInt_decimal {s : List Char} (h : Decimal s) (hv : decimalValue s < 2 ^ 63) :
    parseInt s = (BitVec.ofNat 64 (decimalValue s), none) :=
  parseInt_digits s h.1 h.2 hv

/-- On every line the grammar describes whose header words are not the names of the tokens the
parser looks for after them, `parseF5LogLine` returns an event with the line's fields, header maps (with the
pseudo-headers the parser adds) and bodies; the latency is the `int64` difference of the
times times `1_000_000`. -/
theorem parseF5LogLine_encode (l : HslLine) (hl : l.Admissible) (ht : l.TokenFree) :
    ∃ ev, parseF5LogLine (encode l) = .ok (some ev) ∧
      ev.source = ⟨[], [], l.srcIP, BitVec.ofNat 32 (decimalValue l.srcPort)⟩ ∧
      ev.destination = ⟨[], [], l.dstIP, BitVec.ofNat 32 (decimalValue l.dstPort)⟩ ∧
      ev.protocol = l.protocol ∧
      (∀ k, ev.request.headers.get? k = (l.reqHeaders ++ reqPseudo l).lookup k) ∧
      (∀ k, ev.response.headers.get? k =
        (l.respHeaders ++ [(":status".toList, l.status)]).lookup k) ∧
      ev.request.body = l.reqBody ∧ ev.response.body = l.respBody ∧
      ev.metadata.timestamp = BitVec.ofNat 64 (decimalValue l.reqTime) ∧
      ev.response.backendLatencyInNanos = (BitVec.ofNat 64 (decimalValue l.respTime) -
        BitVec.ofNat 64 (decimalValue l.reqTime)) * 1000000#64 := by
  have hparts := payloadParts_encode hl ht
  have h11 : 11 < (l.fields ++ split l.sections [' ']).length := by
    have := List.length_pos.mpr (split_ne_nil (List.cons_ne_nil ' ' []) l.sections)
    simp only [HslLine.fields, List.length_append, List.length_cons, List.length_nil]
    omega
  have hjoin : join ((l.fields ++ split l.sections [' ']).drop 12) [' '] = l.sections := by
    rw [List.drop_left' (show l.fields.length = 12 from rfl),
      join_split (List.cons_ne_nil ' ' []) _ _ rfl]
  have hbody : bodyText (l.fields ++ split l.sections [' ']) = l.bodies := by
    rw [bodyText, hjoin, extractHeaders_req hl ht, extractHeaders_resp hl ht]
  have hev := parseF5LogLine_of_payloadParts hparts
  rw [parseParts_of_lt h11, hbody, responseBody_bodies, hjoin, extractHeaders_req hl ht,
    extractHeaders_resp hl ht, requestBody_bodies] at hev
  refine ⟨_, hev, ?_⟩
  have hport := hl.ports
  have htime := hl.times
  simp only [List.mem_cons, List.mem_singleton, List.not_mem_nil, or_false, forall_eq_or_imp,
    forall_eq] at hport htime
  simp only [HslLine.fields, List.cons_append, List.getElem_cons_succ, List.getElem_cons_zero,
    atoi, parseInt_decimal hport.1.1 (by omega), parseInt_decimal hport.2.1 (by omega),
    parseInt_decimal htime.1.1 htime.1.2, parseInt_decimal htime.2.1 htime.2.2,
    BitVec.truncate, BitVec.setWidth_ofNat_of_le (show 32 ≤ 64 by omega), true_and]
  have hnodup : ∀ H P : List (List Char × List Char), (H.map Prod.fst).Nodup →
      (P.map Prod.fst).Nodup → (∀ kv ∈ H, kv.1 ∉ P.map Prod.fst) →
      ((H ++ P).map Prod.fst).Nodup := fun H P hH hP hHP => by
    rw [List.map_append, List.Nodup, List.pairwise_append]
    refine ⟨hH, hP, fun a ha b hb hab => ?_⟩
    obtain ⟨kv, hkv, rfl⟩ := List.mem_map.mp ha
    exact hHP kv hkv (hab ▸ hb)
  refine ⟨fun k => ?_, fun k => ?_, trivial⟩
  · rw [← lookup_reverse (hnodup _ (reqPseudo l) hl.reqKeys.1 (show List.Nodup [":scheme".toList,
      ":path".toList, ":method".toList, ":query".toList] by decide) hl.reqKeys.2),
      List.reverse_append]
    rfl
  · rw [← lookup_reverse (hnodup _ [(":status".toList, l.status)] hl.respKeys.1
      (show List.Nodup [":status".toList] by decide)
      fun kv h hs => hl.respKeys.2 kv h (by simpa using hs)), List.reverse_append]
    rfl

theorem parseF5LogLine_encode_of_small_line :
    let l : HslLine := ⟨"https".toList, "/a".toList, "GET".toList, "q".toList, "1.2.3.4".toList,
      "80".toList, "5.6.7.8".toList, "443".toList, "HTTP/1.1".toList, "200".toList,
      "1000".toList, "1050".toList, [("HEAN".toList, "a b".toList)],
      [("server".toList, "x".toList)], [1, 2], [3]⟩
    l.Admissible ∧ l.TokenFree ∧ ∃ ev, parseF5LogLine (encode l) = .ok (some ev) ∧
      ev.request.body = [1, 2] ∧ ev.response.body = [3] := by
  intro l
  have hl : l.Admissible := by decide
  have ht : l.TokenFree := by decide
  obtain ⟨ev, hev, -, -, -, -, -, hreq, hresp, -⟩ := parseF5LogLine_encode l hl ht
  exact ⟨hl, ht, ev, hev, hreq, hresp⟩

set_option maxRecDepth 10000 in
/-- A response map whose first value is `RESPHE` and second `REQPE` keeps to the grammar,
yet its first value ends the response section early, and the `REQPE` after it is taken for
the start of the response body: the text there is not base64, and the decoding error is
logged through the nil package `logger`. -/
theorem parseF5LogLine_encode_panics_on_token_values :
    let l : HslLine := ⟨"https".toList, "/a".toList, "GET".toList, "q".toList, "1.2.3.4".toList,
      "80".toList, "5.6.7.8".toList, "443".toList, "HTTP/1.1".toList, "200".toList,
      "1000".toList, "1050".toList, [], [("a".toList, "RESPHE".toList),
      ("b".toList, "REQPE".toList)], [], []⟩
    l.Admissible ∧ parseF5LogLine (encode l) = .error .nilLogger :=
  ⟨by decide, rfl⟩

end SentryFlow.F5
