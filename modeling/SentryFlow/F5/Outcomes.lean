import SentryFlow.F5.Parse

set_option autoImplicit false

/-!
# What `parseF5LogLine` returns, and when it panics
-/

namespace SentryFlow.F5

open SentryFlow.Go

/-! ## Never nil -/

theorem payloadParts_ne_ok_none (line : List Char) : payloadParts line ≠ .ok none := by
  unfold payloadParts
  split
  · split <;> simp [throw, throwThe, MonadExceptOf.throw, Except.pure, pure]
  · exact fun h => nomatch h

theorem parseParts_error_of_le {parts : List (List Char)} (h : parts.length ≤ 11) :
    ∃ p, parseParts parts = .error p := by
  unfold parseParts
  split_ifs
  · exact ⟨_, rfl⟩
  · exact ⟨_, rfl⟩
  · exact ⟨_, rfl⟩

theorem map_some_ne_ok_none {α β : Type} (e : Except Panic α) (f : α → β) :
    (e.map fun a => some (f a)) ≠ .ok none := by
  cases e <;> nofun

theorem parseParts_ne_ok_none (parts : List (List Char)) : parseParts parts ≠ .ok none := by
  by_cases h : 11 < parts.length
  · rw [parseParts_of_lt h]
    exact map_some_ne_ok_none _ _
  · obtain ⟨p, hp⟩ := parseParts_error_of_le (by omega : parts.length ≤ 11)
    rw [hp]
    nofun

theorem parseF5LogLine_ne_ok_none (line : List Char) : parseF5LogLine line ≠ .ok none := by
  unfold parseF5LogLine
  cases h : payloadParts line with
  | error p => nofun
  | ok r =>
    cases r with
    | none => exact absurd h (payloadParts_ne_ok_none line)
    | some parts => exact parseParts_ne_ok_none parts

/-! ## When it returns an event -/

theorem lt_of_parseParts_eq_some {parts : List (List Char)} {ev : APIEvent}
    (h : parseParts parts = .ok (some ev)) : 11 < parts.length := by
  by_contra hle
  obtain ⟨p, hp⟩ := parseParts_error_of_le (by omega : parts.length ≤ 11)
  rw [hp] at h
  cases h

theorem parseParts_of_parseF5LogLine {line : List Char} {ev : APIEvent}
    {parts : List (List Char)} (hev : parseF5LogLine line = .ok (some ev))
    (hp : payloadParts line = .ok (some parts)) : parseParts parts = .ok (some ev) := by
  rw [parseF5LogLine, hp] at hev
  exact hev

theorem responseBody_ok_iff (rest : List Char) :
    (∃ body, responseBody rest = .ok body) ↔
      index rest reqpe = none ∨ ∃ idx, index rest reqpe = some idx ∧
        (decodeString (trimSpace (rest.drop (idx + reqpe.length)))).2 = false := by
  unfold responseBody
  split
  · rename_i hn
    exact ⟨fun _ => .inl hn, fun _ => ⟨_, rfl⟩⟩
  · rename_i idx hidx
    simp only [hidx, reduceCtorEq, Option.some.injEq, exists_eq_left', false_or]
    cases (decodeString (trimSpace (rest.drop (idx + reqpe.length)))).2
    · exact ⟨fun _ => rfl, fun _ => ⟨_, rfl⟩⟩
    · exact ⟨(fun ⟨_, h⟩ => nomatch h), nofun⟩

/-- The lines that yield an event: both sentinels, `HSL_END` not before the end of
`HSL_START`, at least twelve fields, and a response body that is absent or decodes. -/
theorem parseF5LogLine_eq_some_iff (line : List Char) :
    (∃ ev, parseF5LogLine line = .ok (some ev)) ↔
      ∃ parts, payloadParts line = .ok (some parts) ∧ 11 < parts.length ∧
        (index (bodyText parts) reqpe = none ∨ ∃ idx,
          index (bodyText parts) reqpe = some idx ∧
          (decodeString (trimSpace ((bodyText parts).drop (idx + reqpe.length)))).2 = false) := by
  constructor
  · rintro ⟨ev, hev⟩
    cases hp : payloadParts line with
    | error p => rw [parseF5LogLine, hp] at hev; cases hev
    | ok r =>
      cases r with
      | none => exact absurd hp (payloadParts_ne_ok_none line)
      | some parts =>
        have hpp := parseParts_of_parseF5LogLine hev hp
        have h11 := lt_of_parseParts_eq_some hpp
        refine ⟨parts, rfl, h11, (responseBody_ok_iff _).mp ?_⟩
        rw [parseParts_of_lt h11] at hpp
        cases hr : responseBody (bodyText parts) with
        | error p => rw [hr] at hpp; cases hpp
        | ok body => exact ⟨body, rfl⟩
  · rintro ⟨parts, hp, h11, hbody⟩
    obtain ⟨body, hb⟩ := (responseBody_ok_iff _).mpr hbody
    rw [parseF5LogLine_of_payloadParts hp, parseParts_of_lt h11, hb]
    exact ⟨_, rfl⟩

/-- Lines on which `parseF5LogLine` panics instead of returning nil: ten fields (the guard
is `len(parts) < 10` but `parts[10]` is read), eleven fields, no sentinel at all (the nil
package `logger`), `HSL_END` before `HSL_START` (the slice `line[start+len(HSL_START):end]`),
and a response body that is not base64 (the nil `logger` again). -/
theorem parseF5LogLine_panics :
    parseF5LogLine (hslStart ++ " a b c d e f g h i j ".toList ++ hslEnd) =
        .error (.indexRange 10 10) ∧
      parseF5LogLine (hslStart ++ " a b c d e f g h i j k ".toList ++ hslEnd) =
        .error (.indexRange 11 11) ∧
      parseF5LogLine [] = .error .nilLogger ∧
      parseF5LogLine (hslEnd ++ " ".toList ++ hslStart) = .error (.sliceBounds 95 0) ∧
      parseF5LogLine (hslStart ++ " a b c d e f g h i j k l __REQPE__! ".toList ++ hslEnd) =
        .error .nilLogger := by
  set_option maxRecDepth 20000 in
  exact ⟨rfl, rfl, rfl, rfl, rfl⟩

/-! ## The frame -/

theorem payloadParts_frame {pre payload post : List Char} (hs : FirstAfter pre hslStart)
    (he : FirstAfter (pre ++ hslStart ++ payload) hslEnd) :
    payloadParts (pre ++ hslStart ++ payload ++ hslEnd ++ post) =
      .ok (some (split (trimSpace payload) [' '])) := by
  have hline : pre ++ hslStart ++ payload ++ hslEnd ++ post =
      pre ++ hslStart ++ (payload ++ hslEnd ++ post) := by simp only [List.append_assoc]
  have hstop : (pre ++ hslStart ++ payload ++ hslEnd ++ post).take
      (pre ++ hslStart ++ payload).length = pre ++ hslStart ++ payload := by
    rw [List.append_assoc (pre ++ hslStart ++ payload), List.take_left]
  unfold payloadParts
  rw [index_of_first hline hs, index_of_first rfl he]
  dsimp only
  rw [hstop, List.drop_left' (List.length_append pre hslStart), if_neg]
  · rfl
  · simp only [List.length_append]
    omega

/-- F5 sends each HSL line inside a syslog record: the text before the first `HSL_START` and
after the first `HSL_END` changes nothing `parseF5LogLine` returns, event, nil or panic, as long
as neither sentinel occurs earlier. -/
theorem parseF5LogLine_frame {pre payload post : List Char} (hs : FirstAfter pre hslStart)
    (he : FirstAfter (pre ++ hslStart ++ payload) hslEnd) :
    parseF5LogLine (pre ++ hslStart ++ payload ++ hslEnd ++ post) =
      parseF5LogLine (hslStart ++ payload ++ hslEnd) := by
  have hbare := @payloadParts_frame [] payload [] (fun _ hj => absurd hj (Nat.not_lt_zero _))
    (FirstAfter.of_append_left (List.append_assoc pre hslStart payload ▸ he))
  simp only [List.nil_append, List.append_nil] at hbare
  rw [parseF5LogLine_of_payloadParts (payloadParts_frame hs he),
    parseF5LogLine_of_payloadParts hbare]

theorem parseF5LogLine_frame_syslog :
    FirstAfter "<134>1 bigip ".toList hslStart ∧
      FirstAfter ("<134>1 bigip ".toList ++ hslStart ++ " a ".toList) hslEnd ∧
      parseF5LogLine ("<134>1 bigip ".toList ++ hslStart ++ " a ".toList ++ hslEnd ++
          "\r".toList) = parseF5LogLine (hslStart ++ " a ".toList ++ hslEnd) := by
  have hs : FirstAfter "<134>1 bigip ".toList hslStart := by decide
  have he : FirstAfter ("<134>1 bigip ".toList ++ hslStart ++ " a ".toList) hslEnd := by decide
  exact ⟨hs, he, parseF5LogLine_frame hs he⟩

/-! ## The latency -/

theorem latency_toNat (treq tresp : BitVec 64) :
    (((tresp - treq) * 1000000#64).toNat : Int) =
      ((tresp.toInt - treq.toInt) * 1000000) % 2 ^ 64 := by
  rw [BitVec.toNat_mul, BitVec.toNat_sub, BitVec.toInt_eq_toNat_cond, BitVec.toInt_eq_toNat_cond]
  have ha := tresp.isLt
  have hb := treq.isLt
  simp only [BitVec.toNat_ofNat]
  split <;> split <;> omega

theorem backendLatency_of_parse {line : List Char} {ev : APIEvent} {parts : List (List Char)}
    (hev : parseF5LogLine line = .ok (some ev)) (hp : payloadParts line = .ok (some parts)) :
    ev.response.backendLatencyInNanos =
      ((parseInt (parts.getD 11 [])).1 - (parseInt (parts.getD 10 [])).1) * 1000000#64 := by
  have hpp := parseParts_of_parseF5LogLine hev hp
  have h11 := lt_of_parseParts_eq_some hpp
  rw [parseParts_of_lt h11] at hpp
  cases hr : responseBody (bodyText parts) with
  | error p => rw [hr] at hpp; cases hpp
  | ok body =>
    rw [hr] at hpp
    injection hpp with hpp
    injection hpp with hpp
    subst hpp
    simp only [List.getD_eq_getElem?_getD, List.getElem?_eq_getElem h11,
      List.getElem?_eq_getElem (show 10 < parts.length by omega), Option.getD_some]

/-- On every line that yields an event and whose request-time and response-time fields
parse as `int64` values `treq` and `tresp`, the latency is `(tresp - treq) * 1_000_000`
reduced modulo `2 ^ 64`; it is that integer exactly when the integer lies in `[0, 2 ^ 64)`. -/
theorem backendLatency_eq_mod {line : List Char} {ev : APIEvent}
    (hev : parseF5LogLine line = .ok (some ev)) {parts : List (List Char)}
    (hp : payloadParts line = .ok (some parts)) {sreq sresp : List Char}
    (hreq : parts[10]? = some sreq) (hresp : parts[11]? = some sresp) {treq tresp : BitVec 64}
    (htreq : parseInt sreq = (treq, none)) (htresp : parseInt sresp = (tresp, none)) :
    (ev.response.backendLatencyInNanos.toNat : Int) =
        ((tresp.toInt - treq.toInt) * 1000000) % 2 ^ 64 ∧
      ((ev.response.backendLatencyInNanos.toNat : Int) = (tresp.toInt - treq.toInt) * 1000000 ↔
        0 ≤ (tresp.toInt - treq.toInt) * 1000000 ∧
          (tresp.toInt - treq.toInt) * 1000000 < 2 ^ 64) := by
  have hl : ev.response.backendLatencyInNanos = (tresp - treq) * 1000000#64 := by
    rw [backendLatency_of_parse hev hp, List.getD_eq_getElem?_getD, List.getD_eq_getElem?_getD,
      hreq, hresp, Option.getD_some, Option.getD_some, htreq, htresp]
  rw [hl, latency_toNat]
  refine ⟨rfl, fun h => ?_, fun ⟨h0, h1⟩ => Int.emod_eq_of_lt h0 h1⟩
  rw [← h]
  constructor <;> omega

set_option maxRecDepth 10000 in
theorem backendLatency_of_ordered_times :
    let line := hslStart ++
      " https /a GET q 1.2.3.4 80 5.6.7.8 443 HTTP/1.1 200 1000 1050 ".toList ++ hslEnd
    ∃ ev, parseF5LogLine line = .ok (some ev) ∧
      ev.response.backendLatencyInNanos.toNat = 50000000 := by
  intro line
  have hp : payloadParts line = .ok (some (["https", "/a", "GET", "q", "1.2.3.4", "80",
      "5.6.7.8", "443", "HTTP/1.1", "200", "1000", "1050"].map String.toList)) := rfl
  obtain ⟨ev, hev⟩ := (parseF5LogLine_eq_some_iff line).mpr ⟨_, hp, by decide, .inl rfl⟩
  have hl := (@backendLatency_eq_mod line ev hev _ hp _ _ rfl rfl (1000#64) (1050#64) rfl
    rfl).2.mpr ⟨by decide, by decide⟩
  refine ⟨ev, hev, ?_⟩
  have : (1050#64).toInt - (1000#64).toInt = 50 := by decide
  omega

set_option maxRecDepth 10000 in
theorem backendLatency_wraps_on_reversed_times :
    let line := hslStart ++
      " https /a GET q 1.2.3.4 80 5.6.7.8 443 HTTP/1.1 200 1050 1000 ".toList ++ hslEnd
    ∃ ev parts, parseF5LogLine line = .ok (some ev) ∧ payloadParts line = .ok (some parts) ∧
      parts[10]? = some "1050".toList ∧ parts[11]? = some "1000".toList ∧
      parseInt "1050".toList = (1050#64, none) ∧ parseInt "1000".toList = (1000#64, none) ∧
      ev.response.backendLatencyInNanos.toNat = 2 ^ 64 - 50000000 ∧
      (ev.response.backendLatencyInNanos.toNat : Int) ≠
        ((1000#64).toInt - (1050#64).toInt) * 1000000 := by
  intro line
  have hp : payloadParts line = .ok (some (["https", "/a", "GET", "q", "1.2.3.4", "80",
      "5.6.7.8", "443", "HTTP/1.1", "200", "1050", "1000"].map String.toList)) := rfl
  obtain ⟨ev, hev⟩ := (parseF5LogLine_eq_some_iff line).mpr ⟨_, hp, by decide, .inl rfl⟩
  have hl : ev.response.backendLatencyInNanos.toNat = 2 ^ 64 - 50000000 := by
    rw [backendLatency_of_parse hev hp]
    decide
  refine ⟨ev, _, hev, hp, rfl, rfl, rfl, rfl, hl, ?_⟩
  have : ((1000#64).toInt - (1050#64).toInt) * 1000000 = -50000000 := by decide
  omega

end SentryFlow.F5
