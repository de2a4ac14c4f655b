import SentryFlow.F5.Tokens

set_option autoImplicit false

/-!
# Header sections

A header map travels as its entries `key ++ HEAV ++ value` joined by `HEAN`, between a start
and an end token.
-/

namespace SentryFlow.F5

open SentryFlow.Go

/-- Modelled from the spec: a header map as the line grammar writes it, each entry
`key ++ HEAV ++ value`, the entries joined by `HEAN`. -/
def encodeHeaders (H : List (List Char × List Char)) : List Char :=
  join (H.map fun kv => kv.1 ++ heav ++ kv.2) hean

structure HeaderWord (w : List Char) : Prop where
  clean : Clean w
  head_space : ∀ c ∈ w.head?, isSpace c = false
  getLast_space : ∀ c ∈ w.getLast?, isSpace c = false

instance (w : List Char) : Decidable (HeaderWord w) :=
  decidable_of_iff (Clean w ∧ (∀ c ∈ w.head?, isSpace c = false) ∧
      ∀ c ∈ w.getLast?, isSpace c = false)
    ⟨fun ⟨a, b, c⟩ => ⟨a, b, c⟩, fun ⟨a, b, c⟩ => ⟨a, b, c⟩⟩

def entryWords (kv : List Char × List Char) : List (List Char) := [kv.1, "HEAV".toList, kv.2]

def headerWords : List (List Char × List Char) → List (List Char)
  | [] => [[]]
  | [kv] => entryWords kv
  | kv :: kv' :: H => entryWords kv ++ "HEAN".toList :: headerWords (kv' :: H)

theorem clean_heav_name : Clean "HEAV".toList := ⟨rfl, by decide, by decide⟩
theorem clean_hean_name : Clean "HEAN".toList := ⟨rfl, by decide, by decide⟩

theorem entry_eq (kv : List Char × List Char) :
    kv.1 ++ heav ++ kv.2 = joinDelim (entryWords kv) := by
  simp [heav_eq, token, joinDelim, join, entryWords]

theorem headerWords_ne_nil (H : List (List Char × List Char)) : headerWords H ≠ [] := by
  match H with
  | [] | [_] | _ :: _ :: _ => simp [headerWords, entryWords]

theorem encodeHeaders_eq (H : List (List Char × List Char)) :
    encodeHeaders H = joinDelim (headerWords H) := by
  induction H using headerWords.induct with
  | case1 => rfl
  | case2 kv => exact entry_eq kv
  | case3 kv kv' H ih =>
    obtain ⟨w, ws, hw⟩ := List.exists_cons_of_ne_nil (headerWords_ne_nil (kv' :: H))
    rw [headerWords, joinDelim_append (by simp [entryWords]) (List.cons_ne_nil _ _), hw,
      joinDelim_cons_cons, ← hw, ← ih, ← entry_eq]
    simp [encodeHeaders, join, hean_eq, token]

theorem mem_headerWords {w : List Char} {H : List (List Char × List Char)}
    (h : w ∈ headerWords H) :
    w = [] ∨ w = "HEAV".toList ∨ w = "HEAN".toList ∨ ∃ kv ∈ H, w = kv.1 ∨ w = kv.2 := by
  induction H using headerWords.induct with
  | case1 => simp_all [headerWords]
  | case2 kv =>
    simp only [headerWords, entryWords, List.mem_cons, List.mem_singleton, List.not_mem_nil,
      or_false] at h
    rcases h with rfl | rfl | rfl
    · exact .inr (.inr (.inr ⟨kv, List.mem_singleton_self _, .inl rfl⟩))
    · exact .inr (.inl rfl)
    · exact .inr (.inr (.inr ⟨kv, List.mem_singleton_self _, .inr rfl⟩))
  | case3 kv kv' H ih =>
    simp only [headerWords, entryWords, List.cons_append, List.mem_cons, List.nil_append] at h
    rcases h with rfl | rfl | rfl | rfl | h
    · exact .inr (.inr (.inr ⟨kv, by simp⟩))
    · exact .inr (.inl rfl)
    · exact .inr (.inr (.inr ⟨kv, by simp⟩))
    · exact .inr (.inr (.inl rfl))
    · rcases ih h with h | h | h | ⟨kv'', hm, h⟩
      · exact .inl h
      · exact .inr (.inl h)
      · exact .inr (.inr (.inl h))
      · exact .inr (.inr (.inr ⟨kv'', List.mem_cons_of_mem _ hm, h⟩))

/-! ## Reading a section back -/

theorem addSection_entry (m : GoMap) (kv : List Char × List Char) (hk : HeaderWord kv.1)
    (hv : HeaderWord kv.2) : addSection m (kv.1 ++ heav ++ kv.2) = m.set kv.1 kv.2 := by
  have hidx : index (kv.1 ++ heav ++ kv.2) heav = some kv.1.length := by
    simpa [joinDelim, join, heav_eq] using
      index_joinDelim_token clean_heav_name (by decide) [kv.1] kv.2 (by simpa using hk.clean)
        (by simp)
  have htrim : ∀ w, HeaderWord w → trim (trimSpace w) "_".toList = w := fun w hw => by
    rw [trimSpace_eq_self hw.head_space hw.getLast_space]
    have hu : "_".toList = ['_'] := rfl
    exact trim_eq_self
      (fun c hc h => hw.clean.head_ne (by rw [hu, List.mem_singleton] at h; exact h ▸ hc))
      (fun c hc h => hw.clean.getLast_ne (by rw [hu, List.mem_singleton] at h; exact h ▸ hc))
  simp only [addSection, contains, hidx, Option.isSome_some, Bool.not_true, splitN,
    Bool.false_eq_true, if_false, List.take_left, List.drop_left', List.length_append]
  rw [List.append_assoc, List.take_left, htrim _ hk, htrim _ hv]

theorem foldl_addSection (H : List (List Char × List Char))
    (hH : ∀ kv ∈ H, HeaderWord kv.1 ∧ HeaderWord kv.2) (m : GoMap) :
    (H.map fun kv => kv.1 ++ heav ++ kv.2).foldl addSection m = ⟨H.reverse ++ m.entries⟩ := by
  induction H generalizing m with
  | nil => rfl
  | cons kv H ih =>
    have hkv := hH kv (List.mem_cons_self _ _)
    rw [List.map_cons, List.foldl_cons, addSection_entry m kv hkv.1 hkv.2,
      ih (fun kv' h => hH kv' (List.mem_cons_of_mem _ h))]
    simp [GoMap.set]

theorem split_encodeHeaders {H : List (List Char × List Char)} (hne : H ≠ [])
    (hH : ∀ kv ∈ H, HeaderWord kv.1 ∧ HeaderWord kv.2 ∧ kv.2 ≠ "HEAN".toList) :
    split (encodeHeaders H) hean = H.map fun kv => kv.1 ++ heav ++ kv.2 := by
  have h := split_join_joinDelim clean_hean_name (by decide) (H.map entryWords) (by simpa using hne)
    (by
      simp only [List.mem_map]
      rintro _ ⟨kv, hkv, rfl⟩
      have := hH kv hkv
      refine ⟨?_, ?_⟩
      · simp only [entryWords, List.mem_cons, List.mem_singleton, List.not_mem_nil, or_false]
        rintro w (rfl | rfl | rfl)
        exacts [this.1.clean, clean_heav_name, this.2.1.clean]
      · simp only [entryWords, List.tail_cons, List.mem_cons, List.mem_singleton,
          List.not_mem_nil, or_false]
        rintro w (rfl | rfl)
        exacts [by decide, this.2.2])
  simpa [encodeHeaders, List.map_map, Function.comp_def, ← hean_eq, ← entry_eq] using h

/-! ## The first start tag and the first end tag after it -/

section First

variable {s startTag endTag p t : List Char}

theorem extractHeaders_of_first_none (hs : s = p ++ startTag ++ t) (hp : FirstAfter p startTag)
    (h : index t endTag = none) : extractHeaders s startTag endTag = (.empty, s) := by
  have hdrop : s.drop (p.length + startTag.length) = t := by simp [hs, List.append_assoc]
  simp only [extractHeaders, index_of_first hs hp, hdrop, h]

theorem extractHeaders_of_first_some (hs : s = p ++ startTag ++ t) (hp : FirstAfter p startTag)
    {endIdx : Nat} (h : index t endTag = some endIdx) :
    extractHeaders s startTag endTag =
      ((split (t.take endIdx) hean).foldl addSection .empty, t.drop (endIdx + endTag.length)) := by
  have hdrop : s.drop (p.length + startTag.length) = t := by simp [hs, List.append_assoc]
  simp only [extractHeaders, index_of_first hs hp, hdrop, h]

end First

theorem extractHeaders_encodeHeaders {p startTag e q : List Char} {H : List (List Char × List Char)}
    (hp : FirstAfter p startTag) (he : Clean e) (he0 : e ≠ [])
    (hH : ∀ kv ∈ H, HeaderWord kv.1 ∧ HeaderWord kv.2 ∧ kv.1 ≠ e ∧ kv.2 ≠ e ∧
      kv.2 ≠ "HEAN".toList) (heH : e ≠ "HEAV".toList ∧ e ≠ "HEAN".toList) :
    extractHeaders (p ++ startTag ++ encodeHeaders H ++ token e ++ q) startTag (token e) =
      (⟨H.reverse⟩, q) := by
  have hend : index (encodeHeaders H ++ token e ++ q) (token e) =
      some (encodeHeaders H).length := by
    rw [encodeHeaders_eq]
    refine index_joinDelim_token he he0 _ q (fun w hw => ?_) (fun w hw => ?_)
    · rcases mem_headerWords hw with rfl | rfl | rfl | ⟨kv, hkv, rfl | rfl⟩
      exacts [clean_nil, clean_heav_name, clean_hean_name, (hH kv hkv).1.clean,
        (hH kv hkv).2.1.clean]
    · rcases mem_headerWords (List.mem_of_mem_tail hw) with rfl | rfl | rfl | ⟨kv, hkv, rfl | rfl⟩
      exacts [he0 ∘ Eq.symm, heH.1 ∘ Eq.symm, heH.2 ∘ Eq.symm, (hH kv hkv).2.2.1,
        (hH kv hkv).2.2.2.1]
  have hsplit : (split (encodeHeaders H) hean).foldl addSection .empty = ⟨H.reverse⟩ := by
    cases H with
    | nil => rfl
    | cons kv H =>
      rw [split_encodeHeaders (List.cons_ne_nil _ _) fun kv h => ⟨(hH kv h).1, (hH kv h).2.1,
        (hH kv h).2.2.2.2⟩, foldl_addSection _ (fun kv h => ⟨(hH kv h).1, (hH kv h).2.1⟩)]
      simp [GoMap.empty]
  have hs : p ++ startTag ++ encodeHeaders H ++ token e ++ q =
      p ++ startTag ++ (encodeHeaders H ++ token e ++ q) := by simp only [List.append_assoc]
  rw [extractHeaders_of_first_some hs hp hend, List.append_assoc, List.take_left, hsplit,
    List.drop_append, List.drop_left]

/-! ## Where the rest begins -/

theorem lookup_reverse {H : List (List Char × List Char)} (h : (H.map Prod.fst).Nodup)
    (k : List Char) : H.reverse.lookup k = H.lookup k := by
  induction H with
  | nil => rfl
  | cons kv H ih =>
    obtain ⟨k', v⟩ := kv
    rw [List.map_cons, List.nodup_cons] at h
    rw [List.reverse_cons, List.lookup_append, ih h.2]
    by_cases hk : k = k'
    · subst hk
      have hnone : H.lookup k = none :=
        List.lookup_eq_none_iff.mpr fun p hp => bne_iff_ne.mpr fun he =>
          h.1 (List.mem_map.mpr ⟨p, hp, he.symm⟩)
      simp only [List.lookup_cons, beq_self_eq_true, hnone, Option.none_or]
    · simp only [List.lookup_cons, beq_false_of_ne hk, List.lookup_nil, Option.or_none]

/-- For every text, `extractHeaders` of the request or response tags leaves the whole text
when the start tag is missing or no end tag follows it, and otherwise the text after the first
end tag after the first start tag. A section rendered from a map whose keys and values are
header words reads back as the map, with the text after its end tag, when its start tag is the
first one and no key or value is the end tag's name and no value is `HEAN`'s. -/
theorem extractHeaders_reads_first_section {startTag endTag : List Char}
    (htag : (startTag, endTag) ∈ [(reqhs, reqhe), (resphs, resphe)]) (s : List Char) :
    ((¬ startTag <:+: s) → (extractHeaders s startTag endTag).2 = s) ∧
    (∀ p t, s = p ++ startTag ++ t → FirstAfter p startTag →
      ((¬ endTag <:+: t) → (extractHeaders s startTag endTag).2 = s) ∧
      ∀ a b, t = a ++ endTag ++ b → FirstAfter a endTag →
        (extractHeaders s startTag endTag).2 = b) ∧
    ∀ p H q, s = p ++ startTag ++ encodeHeaders H ++ endTag ++ q → FirstAfter p startTag →
      (H.map Prod.fst).Nodup →
      (∀ kv ∈ H, HeaderWord kv.1 ∧ HeaderWord kv.2 ∧ token kv.1 ≠ endTag ∧
        token kv.2 ≠ endTag ∧ token kv.2 ≠ hean) →
      (∀ k, (extractHeaders s startTag endTag).1.get? k = H.lookup k) ∧
        (extractHeaders s startTag endTag).2 = q := by
  refine ⟨fun h => ?_, fun p t hs hp => ⟨fun h => ?_, fun a b ht ha => ?_⟩,
    fun p H q hs hp hnd hH => ?_⟩
  · simp only [extractHeaders, index_eq_none_iff.mpr h]
  · rw [extractHeaders_of_first_none hs hp (index_eq_none_iff.mpr h)]
  · rw [extractHeaders_of_first_some hs hp (index_of_first ht ha)]
    simp [ht, List.append_assoc]
  · have hend : ∃ e, endTag = token e ∧ Clean e ∧ e ≠ [] ∧
        (e ≠ "HEAV".toList ∧ e ≠ "HEAN".toList) := by
      simp only [List.mem_cons, Prod.mk.injEq, List.mem_singleton, List.not_mem_nil,
        or_false] at htag
      rcases htag with ⟨-, rfl⟩ | ⟨-, rfl⟩
      exacts [⟨_, reqhe_eq, by decide, by decide, by decide⟩,
        ⟨_, resphe_eq, by decide, by decide, by decide⟩]
    obtain ⟨e, rfl, he, he0, heH⟩ := hend
    subst hs
    have hwords : ∀ kv ∈ H, HeaderWord kv.1 ∧ HeaderWord kv.2 ∧ kv.1 ≠ e ∧ kv.2 ≠ e ∧
        kv.2 ≠ "HEAN".toList := fun kv hkv => by
      obtain ⟨hk, hv, hke, hve, hvn⟩ := hH kv hkv
      exact ⟨hk, hv, fun h => hke (h ▸ rfl), fun h => hve (h ▸ rfl),
        fun h => hvn (by rw [h, hean_eq])⟩
    rw [extractHeaders_encodeHeaders hp he he0 hwords heH]
    exact ⟨lookup_reverse hnd, rfl⟩

theorem extractHeaders_reads_request_section :
    (reqhs, reqhe) ∈ [(reqhs, reqhe), (resphs, resphe)] ∧
      (∀ k, (extractHeaders ("x".toList ++ reqhs ++ encodeHeaders [("a".toList, "b".toList)] ++
          reqhe ++ "y".toList) reqhs reqhe).1.get? k = [("a".toList, "b".toList)].lookup k) ∧
      (extractHeaders ("x".toList ++ reqhs ++ encodeHeaders [("a".toList, "b".toList)] ++
          reqhe ++ "y".toList) reqhs reqhe).2 = "y".toList :=
  ⟨by decide, (extractHeaders_reads_first_section (by decide) _).2.2 _ _ _ rfl (by decide)
    (by decide) (by decide)⟩

/-- Three sections of header words after a text without the start tag that do not read back:
the first `REQHS` overlaps `p = "__REQHS"` and the key becomes `REQHS__a`; a value `HEAN`
before another entry merges the two entries; a value `REQHE` ends the section early, and the
rest starts inside it. -/
theorem extractHeaders_misreads_clean_sections :
    (¬ reqhs <:+: "__REQHS".toList ∧ HeaderWord "a".toList ∧ HeaderWord "b".toList ∧
      (extractHeaders ("__REQHS".toList ++ reqhs ++ encodeHeaders [("a".toList, "b".toList)] ++
        reqhe) reqhs reqhe).1.get? "a".toList = none) ∧
    (HeaderWord "HEAN".toList ∧ HeaderWord "c".toList ∧
      (extractHeaders (reqhs ++ encodeHeaders [("a".toList, "HEAN".toList), ("b".toList,
        "c".toList)] ++ reqhe) reqhs reqhe).1.get? "a".toList = none) ∧
    (HeaderWord "REQHE".toList ∧
      (extractHeaders (reqhs ++ encodeHeaders [("a".toList, "REQHE".toList)] ++ reqhe) reqhs
        reqhe).1.get? "a".toList = none ∧
      (extractHeaders (reqhs ++ encodeHeaders [("a".toList, "REQHE".toList)] ++ reqhe) reqhs
        reqhe).2 = "REQHE__".toList) := by
  decide

end SentryFlow.F5
