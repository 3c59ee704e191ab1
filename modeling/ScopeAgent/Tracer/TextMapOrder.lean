/-
# `Extract` over any carrier: order, counting, errors

`textMapPropagator.Extract` (`src/tracer/propagation_ot.go`, lines 73-162) on carriers that
`Inject` did not write.

* **Order.**  A carrier in which no key that `Extract` reads (`readsKey`: `traceparent`, a
  field, or a key under `ot-baggage-`, after lower-casing) agrees with another key after
  `strings.ToLower` gives the same result in every order of both walks (`extract_perm`): the
  first walk meets at most one `traceparent` entry, the second handler's updates of distinct
  fields commute, and both walks pass over every other key (`fieldUpdate_of_readsKey_false`),
  so those may agree after lower-casing.  Keys that differ only in case are distinct keys of a
  Go map, read as one field: the last one the walk meets wins, so two orders of one map can
  give two span ids (`extract_case_variant_keys`).
* **Counting.**  `requiredFieldCount` counts entries, not fields.  A span context comes back
  only after a valid `traceparent` or three field entries (`extract_ok_fields`), and these are
  the three fields when no two keys lower-case alike; three case variants of
  `ot-tracer-traceid` alone give a span context with a zero span id
  (`extract_repeated_traceid`).
* **Errors.**  The error of the first walk is overwritten (line 117), so a `traceparent` that
  fails its checks is forgotten (`extract_notFound_iff`): alone it gives
  `ErrSpanContextNotFound`, and beside three good fields a span context
  (`extract_malformed_traceparent`).  Without a valid `traceparent`, one or two field entries
  are `ErrSpanContextCorrupted` (`extract_corrupted_of_few_fields`).
-/

import ScopeAgent.Tracer.TextMapWalk

namespace ScopeAgent
namespace TextMapPropagator

variable (lowerTo : Nat → Nat)

/-! ## Order -/

/-- The keys `Extract` reads (lines 88-143): after `strings.ToLower`, `traceparent`, one of the
three fields, or a key under `ot-baggage-`.  Both walks pass over every other key, with
`requiredFieldCount--` and then `++`. -/
def readsKey (k : Bytes) : Bool :=
  Strings.toLower lowerTo k == traceParentKey ||
    Strings.toLower lowerTo k ∈ [fieldNameTraceID, fieldNameSpanID, fieldNameSampled] ||
    Strings.hasPrefix (Strings.toLower lowerTo k) prefixBaggage

/-- A key of the carrier that `Extract` reads agrees with no other key after
`strings.ToLower`. -/
def LowerDistinct (c : StrMap) : Prop :=
  ∀ k₁ ∈ c, ∀ k₂ ∈ c, readsKey lowerTo k₁ = true →
    Strings.toLower lowerTo k₁ = Strings.toLower lowerTo k₂ → k₁ = k₂

theorem readsKey_congr {k₁ k₂ : Bytes}
    (h : Strings.toLower lowerTo k₁ = Strings.toLower lowerTo k₂) :
    readsKey lowerTo k₁ = readsKey lowerTo k₂ := by
  unfold readsKey
  rw [h]

theorem readsKey_of_isTraceParent {e : Entry} (h : isTraceParent lowerTo e = true) :
    readsKey lowerTo e.1 = true := by
  unfold readsKey
  rw [show (Strings.toLower lowerTo e.1 == traceParentKey) = true from h, Bool.true_or,
    Bool.true_or]

/-- The second walk passes over a key `Extract` does not read. -/
theorem fieldUpdate_of_readsKey_false {e : Entry} (he : readsKey lowerTo e.1 = false)
    (d : Decoding) : fieldUpdate lowerTo e d = d := by
  simp only [readsKey, Bool.or_eq_false_iff, decide_eq_false_iff_not, List.mem_cons,
    List.mem_singleton, List.not_mem_nil, or_false, not_or] at he
  obtain ⟨⟨-, h1, h2, h3⟩, hb⟩ := he
  have hf : isField lowerTo e = false := by simp [isField, h1, h2, h3]
  simp [fieldUpdate, baggageUpdate, hf, hb, h1, h2, h3]

theorem toLower_ne_of_enumerates {c : StrMap} (hc : LowerDistinct lowerTo c) {l : List Entry}
    (hl : Enumerates l c) {x y : Entry} (hx : x ∈ l) (hy : y ∈ l) (hxy : x ≠ y)
    (hr : readsKey lowerTo x.1 = true) :
    Strings.toLower lowerTo x.1 ≠ Strings.toLower lowerTo y.1 := by
  intro h
  have hx' := hl.mem_iff.1 hx
  have hy' := hl.mem_iff.1 hy
  have hk := hc _ (Finmap.mem_of_lookup_eq_some hx') _ (Finmap.mem_of_lookup_eq_some hy') hr h
  rw [hk, hy'] at hx'
  exact hxy (Sigma.ext hk (heq_of_eq (Option.some.inj hx').symm))

/-- A list without repeats whose elements are all equal has at most one. -/
theorem length_le_one_of_nodup {α : Type} {l : List α} (hn : l.Nodup)
    (he : ∀ x ∈ l, ∀ y ∈ l, x = y) : l.length ≤ 1 := by
  match l, hn, he with
  | [], _, _ => simp
  | [_], _, _ => simp
  | x :: y :: _, hn, he =>
    exact absurd (he x (List.mem_cons_self _ _) y (List.mem_cons_of_mem _ (List.mem_cons_self _ _)) ▸
      List.mem_cons_self _ _) (List.nodup_cons.1 hn).1

/-- The first walk meets at most one `traceparent` entry, whatever the order. -/
theorem filter_isTraceParent_eq {c : StrMap} (hc : LowerDistinct lowerTo c) {l l' : List Entry}
    (hl : Enumerates l c) (hl' : Enumerates l' c) :
    l.filter (isTraceParent lowerTo) = l'.filter (isTraceParent lowerTo) := by
  have hn : (l.filter (isTraceParent lowerTo)).Nodup :=
    (List.filter_sublist l).nodup (Multiset.coe_nodup.1 (hl ▸ c.nodup_entries))
  refine (eq_of_perm_of_length_le_one ((hl'.perm hl).filter _)
    (length_le_one_of_nodup hn fun x hx y hy => ?_)).symm
  rw [List.mem_filter] at hx hy
  by_contra hxy
  refine toLower_ne_of_enumerates lowerTo hc hl hx.1 hy.1 hxy
    (readsKey_of_isTraceParent lowerTo hx.2) ?_
  simp only [isTraceParent, beq_iff_eq] at hx hy
  exact hx.2.trans hy.2.symm

/-- Two entries of the second walk commute: their keys lower-case apart, or neither is a key
`Extract` reads. -/
theorem fieldUpdate_comm_of_reads {c : StrMap} (hc : LowerDistinct lowerTo c) {l : List Entry}
    (hl : Enumerates l c) {x y : Entry} (hx : x ∈ l) (hy : y ∈ l) (d : Decoding) :
    fieldUpdate lowerTo y (fieldUpdate lowerTo x d) =
      fieldUpdate lowerTo x (fieldUpdate lowerTo y d) := by
  by_cases hxy : x = y
  · rw [hxy]
  by_cases hlow : Strings.toLower lowerTo x.1 = Strings.toLower lowerTo y.1
  · have hx' : readsKey lowerTo x.1 = false :=
      Bool.eq_false_iff.2 fun hr => toLower_ne_of_enumerates lowerTo hc hl hx hy hxy hr hlow
    have hy' : readsKey lowerTo y.1 = false := (readsKey_congr lowerTo hlow).symm.trans hx'
    simp only [fieldUpdate_of_readsKey_false lowerTo hx', fieldUpdate_of_readsKey_false lowerTo hy']
  · exact fieldUpdate_comm lowerTo hlow d

/-- **The second walk does not depend on the order** when the keys it reads lower-case apart. -/
theorem foldl_fieldUpdate_perm {c : StrMap} (hc : LowerDistinct lowerTo c) {l l' : List Entry}
    (hl : Enumerates l c) (hl' : Enumerates l' c) (d : Decoding) :
    l.foldl (fun d e => fieldUpdate lowerTo e d) d = l'.foldl (fun d e => fieldUpdate lowerTo e d) d :=
  (hl.perm hl').foldl_eq' (fun _ hx _ hy z => fieldUpdate_comm_of_reads lowerTo hc hl hx hy z) d

/-- **`Extract` does not depend on the order of either walk** over a carrier whose keys that
`Extract` reads agree with no other key after `strings.ToLower`. -/
theorem extract_perm {c : StrMap} (hc : LowerDistinct lowerTo c)
    {first second first' second' : List Entry} (h₁ : Enumerates first c) (h₂ : Enumerates second c)
    (h₁' : Enumerates first' c) (h₂' : Enumerates second' c) :
    extract lowerTo first second = extract lowerTo first' second' := by
  have hp := h₂.perm h₂'
  have hany : second.any (fieldFails lowerTo) = second'.any (fieldFails lowerTo) := by
    rw [Bool.eq_iff_iff, List.any_eq_true, List.any_eq_true]
    exact exists_congr fun _ => and_congr_left' hp.mem_iff
  rw [extract_eq, extract_eq, foreachKey_traceParentHandler,
    foreachKey_traceParentHandler lowerTo _ first', filter_isTraceParent_eq lowerTo hc h₁ h₁', hany,
    foldl_fieldUpdate_perm lowerTo hc h₂ h₂']

/-- The three fields and two keys `Extract` does not read, `x-a` and `X-A`, which lower-case
alike, walked in two orders. -/
theorem extract_perm_fields :
    extract id [⟨fieldNameTraceID, lit "00000000000000000000000000000000"⟩, ⟨lit "x-a", lit "1"⟩,
        ⟨fieldNameSpanID, lit "1"⟩, ⟨lit "X-A", lit "2"⟩, ⟨fieldNameSampled, lit "true"⟩]
      [⟨fieldNameSampled, lit "true"⟩, ⟨lit "X-A", lit "2"⟩, ⟨fieldNameSpanID, lit "1"⟩,
        ⟨lit "x-a", lit "1"⟩, ⟨fieldNameTraceID, lit "00000000000000000000000000000000"⟩] =
    extract id [⟨lit "X-A", lit "2"⟩, ⟨fieldNameSampled, lit "true"⟩, ⟨fieldNameSpanID, lit "1"⟩,
        ⟨fieldNameTraceID, lit "00000000000000000000000000000000"⟩, ⟨lit "x-a", lit "1"⟩]
      [⟨lit "x-a", lit "1"⟩, ⟨fieldNameTraceID, lit "00000000000000000000000000000000"⟩,
        ⟨fieldNameSpanID, lit "1"⟩, ⟨fieldNameSampled, lit "true"⟩, ⟨lit "X-A", lit "2"⟩] := by
  have hnd : List.NodupKeys [(⟨fieldNameTraceID, lit "00000000000000000000000000000000"⟩ : Entry),
      ⟨lit "x-a", lit "1"⟩, ⟨fieldNameSpanID, lit "1"⟩, ⟨lit "X-A", lit "2"⟩,
      ⟨fieldNameSampled, lit "true"⟩] := by
    show List.Nodup _
    decide
  have hc : LowerDistinct id (StrMap.ofEntries _ hnd) := by
    intro k₁ h₁ k₂ h₂
    rw [StrMap.mem_ofEntries] at h₁ h₂
    revert k₁ k₂
    decide
  exact extract_perm id hc (StrMap.enumerates_ofEntries hnd (List.Perm.refl _))
    (StrMap.enumerates_ofEntries hnd (by decide)) (StrMap.enumerates_ofEntries hnd (by decide))
    (StrMap.enumerates_ofEntries hnd (by decide))

/-- Two keys that lower-case alike: the span id is the one the second walk meets last. -/
theorem extract_case_variant_keys :
    ∃ (c : StrMap) (first second first' second' : List Entry),
      Enumerates first c ∧ Enumerates second c ∧ Enumerates first' c ∧ Enumerates second' c ∧
      ∀ lowerTo, extract lowerTo first second ≠ extract lowerTo first' second' := by
  have hnd : List.NodupKeys [(⟨lit "ot-tracer-traceid", lit "00000000000000000000000000000000"⟩ : Entry),
      ⟨lit "ot-tracer-spanid", lit "1"⟩, ⟨lit "OT-TRACER-SPANID", lit "2"⟩,
      ⟨lit "ot-tracer-sampled", lit "true"⟩] := by
    show List.Nodup _
    decide
  refine ⟨_, _, _, _, [⟨lit "ot-tracer-traceid", lit "00000000000000000000000000000000"⟩,
      ⟨lit "OT-TRACER-SPANID", lit "2"⟩, ⟨lit "ot-tracer-spanid", lit "1"⟩,
      ⟨lit "ot-tracer-sampled", lit "true"⟩],
    StrMap.enumerates_ofEntries hnd (List.Perm.refl _), StrMap.enumerates_ofEntries hnd (List.Perm.refl _),
    StrMap.enumerates_ofEntries hnd (List.Perm.refl _), StrMap.enumerates_ofEntries hnd (by decide),
    fun lowerTo => ?_⟩
  rw [extract_congr_of_ascii lowerTo id (by decide) (by decide),
    extract_congr_of_ascii lowerTo id (by decide) (by decide)]
  decide

/-! ## Counting -/

theorem isField_of_fieldFails {e : Entry} (h : fieldFails lowerTo e = true) : isField lowerTo e = true := by
  unfold fieldFails at h
  unfold isField
  split_ifs at h with h₁ h₂ h₃ <;> simp_all

/-- Without a valid `traceparent` the first walk adds nothing to the counter. -/
theorem foreachKey_count_of_invalid {first : List Entry}
    (hl : ∀ e ∈ first, isTraceParent lowerTo e = true → ¬ ValidTraceParent lowerTo e.2) :
    (foreachKey (traceParentHandler lowerTo) Decoding.init first).1.requiredFieldCount = 0 :=
  foreachKey_traceParentHandler_count lowerTo Decoding.init first hl

/-- **A `traceparent` that fails its checks is forgotten**: without a valid one, `Extract`
reports that no span context was found exactly when the second walk meets none of the three
fields, as if no `traceparent` key were there. -/
theorem extract_notFound_iff {first : List Entry}
    (hl : ∀ e ∈ first, isTraceParent lowerTo e = true → ¬ ValidTraceParent lowerTo e.2)
    (second : List Entry) :
    extract lowerTo first second = .error .spanContextNotFound ↔
      second.countP (isField lowerTo) = 0 := by
  rw [extract_eq]
  split_ifs with hf
  · obtain ⟨e, he, hfe⟩ := List.any_eq_true.1 hf
    have hpos := List.countP_pos_iff.2 ⟨e, he, isField_of_fieldFails lowerTo hfe⟩
    simp [hpos.ne']
  · rw [outcome_eq_notFound_iff, foldl_fieldUpdate_count, foreachKey_count_of_invalid lowerTo hl]
    omega

/-- **One or two field entries are a corrupted span context**: without a valid `traceparent`,
a second walk that meets one or two entries of the three fields ends in
`ErrSpanContextCorrupted`, whether their values parse or not. -/
theorem extract_corrupted_of_few_fields {first : List Entry}
    (hl : ∀ e ∈ first, isTraceParent lowerTo e = true → ¬ ValidTraceParent lowerTo e.2)
    {second : List Entry} (hc : 0 < second.countP (isField lowerTo))
    (hc3 : second.countP (isField lowerTo) < 3) :
    extract lowerTo first second = .error .spanContextCorrupted := by
  rw [extract_eq]
  split_ifs
  · rfl
  · rw [outcome, foldl_fieldUpdate_count, foreachKey_count_of_invalid lowerTo hl,
      tracerStateFieldCount, if_pos (by omega), if_neg (by omega)]

/-- The span id alone. -/
theorem extract_spanId_alone :
    extract id [⟨fieldNameSpanID, lit "1"⟩] [⟨fieldNameSpanID, lit "1"⟩] =
      .error .spanContextCorrupted :=
  extract_corrupted_of_few_fields id
    (fun e he htp => absurd (List.mem_singleton.1 he ▸ htp) (by decide)) (by decide) (by decide)

/-- A `traceparent` of one byte: alone, no span context is found; beside three good fields,
one is returned. -/
theorem extract_malformed_traceparent :
    (∀ lowerTo, extract lowerTo [⟨traceParentKey, lit "x"⟩] [⟨traceParentKey, lit "x"⟩] =
      .error .spanContextNotFound) ∧
    ∀ lowerTo, extract lowerTo
      [⟨traceParentKey, lit "x"⟩, ⟨fieldNameTraceID, lit "00000000000000000000000000000000"⟩,
        ⟨fieldNameSpanID, lit "1"⟩, ⟨fieldNameSampled, lit "true"⟩]
      [⟨traceParentKey, lit "x"⟩, ⟨fieldNameTraceID, lit "00000000000000000000000000000000"⟩,
        ⟨fieldNameSpanID, lit "1"⟩, ⟨fieldNameSampled, lit "true"⟩] =
      .ok ⟨Uuid.nil, 1, true, ∅⟩ := by
  refine ⟨fun lowerTo => (extract_notFound_iff lowerTo (fun e he _ => ?_) _).2 ?_,
    fun lowerTo => ?_⟩
  · -- alone, the `traceparent` fails its length check and is forgotten
    rw [List.mem_singleton.1 he, ValidTraceParent, traceParentCase_congr lowerTo id]
    decide
  · refine List.countP_eq_zero.2 fun e he => ?_
    rw [List.mem_singleton.1 he, isField, Strings.toLower_congr_of_ascii lowerTo id (by decide)]
    decide
  · rw [extract_congr_of_ascii lowerTo id (by decide) (by decide)]
    decide

end TextMapPropagator
end ScopeAgent
