/-
# `Extract` after `Inject`, text carriers

What `textMapPropagator.Inject` writes into an empty `TextMapCarrier`, and what
`textMapPropagator.Extract` reads back from it.

`inject_entries` lists the carrier: the four state keys and one `ot-baggage-` key per
baggage entry, none overwriting another.  The `traceparent` value splits into the four parts
the first handler checks (`traceParentCase_inject`), so the first walk decodes the trace id,
the span id and the flag and adds 4 to the counter; each of the three fields parses and adds 1.

A carrier that keeps one encoding or both, with further keys that are not state keys, is
`carrierOf`; every order of it is walked the same way (`extract_carrierOf`), from which
`extract_inject` is the round trip of the ids and the flag, in every order of both walks.
`extract_inject_baggage` is the round trip of the baggage: it comes back with its keys
lower-cased (`Extract` lower-cases them, line 135; `Inject` does not, lines 66-68), so it is
the baggage itself when its keys are already lower case, and is not when one is upper case
(`extract_inject_baggage_upper`).
-/

import ScopeAgent.Tracer.TextMapWalk

namespace ScopeAgent
namespace TextMapPropagator

/-- The keys `Extract` looks for: `traceparent` and the three `ot-tracer-*` fields. -/
def stateKeys : List Bytes := [traceParentKey, fieldNameTraceID, fieldNameSpanID, fieldNameSampled]

/-- The trace id as `Inject` writes it: `strings.Replace(sc.TraceID.String(), "-", "", -1)`. -/
def traceIdOf (sc : SpanContext) : Bytes := Strings.removeAll sc.traceID.toString 45

/-- The four state entries `Inject` writes. -/
def injectedFields (sc : SpanContext) : List Entry :=
  [⟨fieldNameTraceID, traceIdOf sc⟩, ⟨fieldNameSpanID, Strconv.formatUint sc.spanID.toNat 16⟩,
    ⟨fieldNameSampled, Strconv.formatBool sc.sampled⟩,
    ⟨traceParentKey, traceParentValue (traceIdOf sc) sc.spanID sc.sampled⟩]

/-- The baggage entries `Inject` writes, one per entry of `bag`. -/
def injectedBaggage (bag : List Entry) : List Entry :=
  bag.map fun e => ⟨prefixBaggage ++ e.1, e.2⟩

theorem prefixBaggage_append_ne {k n : Bytes} (hn : n ∈ stateKeys) : prefixBaggage ++ k ≠ n := by
  intro h
  have hp : prefixBaggage <+: n := h ▸ List.prefix_append _ _
  rw [← List.isPrefixOf_iff_prefix] at hp
  simp only [stateKeys, List.mem_cons, List.mem_singleton, List.not_mem_nil, or_false] at hn
  rcases hn with rfl | rfl | rfl | rfl <;> exact absurd hp (by decide)

/-- Inserting the baggage keys one after the other adds one entry each. -/
theorem entries_foldl_insert_baggage (bag : List Entry) (hbag : bag.NodupKeys) (m : StrMap)
    (hm : ∀ e ∈ bag, prefixBaggage ++ e.1 ∉ m) :
    (bag.foldl (fun c e => c.insert (prefixBaggage ++ e.1) e.2) m).entries =
      m.entries + ↑(injectedBaggage bag) := by
  have hnd : (injectedBaggage bag).NodupKeys := by
    simpa only [List.NodupKeys, List.keys, injectedBaggage, List.map_map] using
      List.Nodup.map (List.append_right_injective prefixBaggage) hbag
  rw [← StrMap.entries_foldl_insert hnd (by simpa only [injectedBaggage, List.forall_mem_map] using hm),
    injectedBaggage, List.foldl_map]

/-- **What `Inject` writes into an empty carrier**: the four state entries and the baggage
entries, nothing overwritten. -/
theorem inject_entries (sc : SpanContext) {bag : List Entry} (hbag : Enumerates bag sc.baggage) :
    (inject sc bag ∅).entries = ↑(injectedFields sc ++ injectedBaggage bag) := by
  rw [inject, entries_foldl_insert_baggage bag hbag.nodupKeys]
  · rw [Finmap.insert_entries_of_neg, Finmap.insert_entries_of_neg, Finmap.insert_entries_of_neg,
      Finmap.insert_entries_of_neg, ← Multiset.coe_add]
    · exact congrArg (· + _) (Multiset.coe_eq_coe.2 (List.reverse_perm (injectedFields sc)))
    all_goals simp only [Finmap.mem_insert, Finmap.not_mem_empty, or_false, not_false_eq_true]
    all_goals decide
  · intro e _ hmem
    simp only [Finmap.mem_insert, Finmap.not_mem_empty, or_false] at hmem
    rcases hmem with h | h | h | h <;> exact prefixBaggage_append_ne (by simp [stateKeys]) h

/-! ## The `traceparent` value -/

variable (lowerTo : Nat → Nat)

theorem lit_dash : lit "-" = [45] := rfl

theorem digitByte_ne_dash : ∀ d < 36, Strconv.digitByte d ≠ 45 := by decide

theorem dash_not_mem_formatHex016 (n : Nat) : (45 : UInt8) ∉ Strconv.formatHex016 n := by
  intro h
  simp only [Strconv.formatHex016, Strconv.formatUint, List.mem_append, List.mem_replicate] at h
  rcases h with ⟨-, h⟩ | h
  · exact digitByte_ne_dash 0 (by omega) h.symm
  · split_ifs at h
    · exact digitByte_ne_dash 0 (by omega) (List.mem_singleton.1 h).symm
    · obtain ⟨d, hd, hd45⟩ := List.mem_map.1 h
      exact digitByte_ne_dash d ((Nat.digits_lt_base (by omega) (List.mem_reverse.1 hd)).trans (by omega)) hd45

theorem dash_not_mem_hexEncode (l : List UInt8) : (45 : UInt8) ∉ Uuid.hexEncode l := by
  simp only [Uuid.hexEncode, List.mem_flatMap, List.mem_cons, List.mem_singleton, List.not_mem_nil,
    or_false, not_exists, not_and]
  rintro b - (h | h)
  · exact (Uuid.hexDigit_ne_dash b).1 h.symm
  · exact (Uuid.hexDigit_ne_dash b).2 h.symm

theorem split_traceParentValue (u : Uuid.UUID) (s : UInt64) (b : Bool) :
    Strings.split (traceParentValue (Uuid.hexEncode u.bytes) s b) 45 =
      [lit "00", Uuid.hexEncode u.bytes, Strconv.formatHex016 s.toNat, if b then lit "01" else lit "00"] := by
  have h : traceParentValue (Uuid.hexEncode u.bytes) s b =
      [45].intercalate [lit "00", Uuid.hexEncode u.bytes, Strconv.formatHex016 s.toNat,
        if b then lit "01" else lit "00"] := by
    simp [traceParentValue, List.intercalate, lit_dash]
  rw [h, Strings.split]
  refine List.splitOn_intercalate _ _ ?_ (List.cons_ne_nil _ _)
  simp only [List.mem_cons, List.mem_singleton, List.not_mem_nil, or_false]
  rintro l (rfl | rfl | rfl | rfl)
  · decide
  · exact dash_not_mem_hexEncode _
  · exact dash_not_mem_formatHex016 _
  · cases b <;> decide

theorem traceParentCase_inject (d : Decoding) (u : Uuid.UUID) (s : UInt64) (b : Bool) :
    traceParentCase lowerTo d (traceParentValue (Uuid.hexEncode u.bytes) s b) =
      ({ d with
          traceID := u, spanID := s, sampled := b || d.sampled,
          requiredFieldCount := d.requiredFieldCount + 3 }, none) := by
  have hs : s.toNat < 2 ^ 64 := s.toNat_lt_size
  have hlen : (traceParentValue (Uuid.hexEncode u.bytes) s b).length = 55 := by
    cases b <;> simp [traceParentValue, Uuid.length_hexEncode, u.length_bytes,
      Strconv.formatHex016_length hs] <;> rfl
  have hid : UInt64.ofNat s.toNat = s := UInt64.toNat.inj (UInt64.toNat_ofNat_of_lt hs)
  rw [traceParentCase, if_neg (by omega), split_traceParentValue]
  have h01 : lit "00" ≠ lit "01" := by decide
  cases b <;> simp [h01, Uuid.parse_hexEncode, Strconv.parseUint_formatHex016 hs, Uuid.length_hexEncode,
    u.length_bytes, Strconv.formatHex016_length hs, hid]

/-! ## Carriers that keep one encoding or both -/

/-- Which of the two encodings a carrier keeps. -/
inductive Encoding
  /-- everything `Inject` writes -/
  | both
  /-- without the three `ot-tracer-*` keys: the `traceparent` field alone -/
  | composite
  /-- without `traceparent`: the three `ot-tracer-*` fields alone -/
  | discrete
  deriving DecidableEq

/-- Whether a carrier of this encoding keeps the key `k` that `Inject` wrote. -/
def Encoding.keeps : Encoding → Bytes → Bool
  | .both, _ => true
  | .composite, k => k ∉ [fieldNameTraceID, fieldNameSpanID, fieldNameSampled]
  | .discrete, k => k != traceParentKey

/-- What `Inject` writes, the keys the encoding drops removed, then the `extra` entries. -/
def carrierOf (enc : Encoding) (sc : SpanContext) (bag extra : List Entry) : List Entry :=
  (injectedFields sc ++ injectedBaggage bag).filter (fun e => enc.keeps e.1) ++ extra

theorem toLower_stateKey : ∀ k ∈ stateKeys, Strings.toLower lowerTo k = k := by
  simp only [stateKeys, List.mem_cons, List.mem_singleton, List.not_mem_nil, or_false]
  rintro k (rfl | rfl | rfl | rfl) <;> rw [Strings.toLower_of_ascii lowerTo (by decide)] <;> decide

@[simp] theorem toLower_traceParentKey : Strings.toLower lowerTo traceParentKey = traceParentKey :=
  toLower_stateKey lowerTo _ (by simp [stateKeys])
@[simp] theorem toLower_fieldNameTraceID : Strings.toLower lowerTo fieldNameTraceID = fieldNameTraceID :=
  toLower_stateKey lowerTo _ (by simp [stateKeys])
@[simp] theorem toLower_fieldNameSpanID : Strings.toLower lowerTo fieldNameSpanID = fieldNameSpanID :=
  toLower_stateKey lowerTo _ (by simp [stateKeys])
@[simp] theorem toLower_fieldNameSampled : Strings.toLower lowerTo fieldNameSampled = fieldNameSampled :=
  toLower_stateKey lowerTo _ (by simp [stateKeys])

theorem toLower_prefixBaggage_append (k : Bytes) :
    Strings.toLower lowerTo (prefixBaggage ++ k) = prefixBaggage ++ Strings.toLower lowerTo k := by
  rw [Strings.toLower_append lowerTo (by decide)]
  rfl

/-- No baggage key of `Inject` is a state key, after lower-casing. -/
theorem toLower_not_mem_stateKeys {bag : List Entry} {e : Entry} (he : e ∈ injectedBaggage bag) :
    Strings.toLower lowerTo e.1 ∉ stateKeys := by
  obtain ⟨e', -, rfl⟩ := List.mem_map.1 he
  rw [toLower_prefixBaggage_append]
  exact fun h => prefixBaggage_append_ne h rfl

theorem filter_carrierOf {enc : Encoding} {sc : SpanContext} {bag extra : List Entry}
    (hextra : ∀ e ∈ extra, Strings.toLower lowerTo e.1 ∉ stateKeys) {p : Entry → Bool}
    (hp : ∀ e : Entry, Strings.toLower lowerTo e.1 ∉ stateKeys → p e = false) :
    (carrierOf enc sc bag extra).filter p = (injectedFields sc).filter (fun e => enc.keeps e.1 && p e) := by
  have hbag : (injectedBaggage bag).filter (fun e => p e && enc.keeps e.1) = [] :=
    List.filter_eq_nil_iff.2 fun e he => by simp [hp e (toLower_not_mem_stateKeys lowerTo he)]
  have hext : extra.filter p = [] :=
    List.filter_eq_nil_iff.2 fun e he => by simp [hp e (hextra e he)]
  rw [carrierOf, List.filter_append, hext, List.append_nil, List.filter_filter, List.filter_append,
    hbag, List.append_nil]
  simp only [Bool.and_comm]

/-- The four state keys are distinct, each pair stated both ways for `simp`. -/
theorem stateKeys_ne :
    (traceParentKey ≠ fieldNameTraceID ∧ fieldNameTraceID ≠ traceParentKey) ∧
      (traceParentKey ≠ fieldNameSpanID ∧ fieldNameSpanID ≠ traceParentKey) ∧
      (traceParentKey ≠ fieldNameSampled ∧ fieldNameSampled ≠ traceParentKey) ∧
      (fieldNameTraceID ≠ fieldNameSpanID ∧ fieldNameSpanID ≠ fieldNameTraceID) ∧
      (fieldNameTraceID ≠ fieldNameSampled ∧ fieldNameSampled ≠ fieldNameTraceID) ∧
      (fieldNameSpanID ≠ fieldNameSampled ∧ fieldNameSampled ≠ fieldNameSpanID) := by
  decide

theorem traceIdOf_eq (sc : SpanContext) : traceIdOf sc = Uuid.hexEncode sc.traceID.bytes :=
  Uuid.removeAll_toString _

/-- The decoding after the first walk over `carrierOf`. -/
def firstWalk (enc : Encoding) (sc : SpanContext) : Decoding :=
  if enc = .discrete then Decoding.init else ⟨4, sc.traceID, sc.spanID, sc.sampled, ∅⟩

section Carrier

variable {enc : Encoding} {sc : SpanContext} {bag extra l : List Entry}

theorem filter_perm_carrierOf (hextra : ∀ e ∈ extra, Strings.toLower lowerTo e.1 ∉ stateKeys)
    (hl : l.Perm (carrierOf enc sc bag extra)) {p : Entry → Bool}
    (hp : ∀ e : Entry, Strings.toLower lowerTo e.1 ∉ stateKeys → p e = false)
    (hlen : ((injectedFields sc).filter (fun e => enc.keeps e.1 && p e)).length ≤ 1) :
    l.filter p = (injectedFields sc).filter (fun e => enc.keeps e.1 && p e) :=
  eq_of_perm_of_length_le_one (filter_carrierOf lowerTo hextra hp ▸ hl.filter p) hlen

theorem foreachKey_carrierOf (hextra : ∀ e ∈ extra, Strings.toLower lowerTo e.1 ∉ stateKeys)
    (hl : l.Perm (carrierOf enc sc bag extra)) :
    (foreachKey (traceParentHandler lowerTo) Decoding.init l).1 = firstWalk enc sc := by
  have hp : ∀ e : Entry, Strings.toLower lowerTo e.1 ∉ stateKeys → isTraceParent lowerTo e = false :=
    fun e he => by
      simp only [isTraceParent, beq_eq_false_iff_ne]
      exact fun h => he (h ▸ List.mem_cons_self _ _)
  rw [foreachKey_traceParentHandler, filter_perm_carrierOf lowerTo hextra hl hp
    (by cases enc <;> simp [injectedFields, Encoding.keeps, isTraceParent, stateKeys_ne])]
  cases enc <;> simp [injectedFields, Encoding.keeps, isTraceParent, stateKeys_ne, foreachKey,
    foreachKey_singleton_fst, traceParentHandler_of_eq, traceIdOf_eq, traceParentCase_inject,
    countAfter, firstWalk, Decoding.init]

theorem mem_carrierOf (hextra : ∀ e ∈ extra, Strings.toLower lowerTo e.1 ∉ stateKeys) {e : Entry}
    (he : e ∈ carrierOf enc sc bag extra) :
    e ∈ injectedFields sc ∨ Strings.toLower lowerTo e.1 ∉ stateKeys := by
  simp only [carrierOf, List.mem_append, List.mem_filter] at he
  rcases he with ⟨he | he, -⟩ | he
  · exact .inl he
  · exact .inr (toLower_not_mem_stateKeys lowerTo he)
  · exact .inr (hextra e he)

theorem decide_toLower_eq_of_not_mem {e : Entry} (he : Strings.toLower lowerTo e.1 ∉ stateKeys)
    {n : Bytes} (hn : n ∈ stateKeys) : decide (Strings.toLower lowerTo e.1 = n) = false :=
  decide_eq_false fun h => he (h ▸ hn)

theorem fieldFails_of_not_mem {e : Entry} (he : Strings.toLower lowerTo e.1 ∉ stateKeys) :
    fieldFails lowerTo e = false := by
  have hne : ∀ n ∈ stateKeys, Strings.toLower lowerTo e.1 ≠ n := fun n hn h => he (h ▸ hn)
  simp [fieldFails, hne, stateKeys]

theorem isField_of_not_mem {e : Entry} (he : Strings.toLower lowerTo e.1 ∉ stateKeys) :
    isField lowerTo e = false :=
  decide_eq_false fun h => he (List.mem_cons_of_mem _ h)

/-- Every field `Inject` writes parses. -/
theorem fieldFails_injectedFields : ∀ e ∈ injectedFields sc, fieldFails lowerTo e = false := by
  have hs : Strconv.parseUint (Strconv.formatUint sc.spanID.toNat 16) 16 64 = (sc.spanID.toNat, none) :=
    Strconv.parseUint_formatUint (by omega) (by omega) le_rfl sc.spanID.toNat_lt_size
  simp [injectedFields, fieldFails, stateKeys_ne, traceIdOf_eq, Uuid.parse_hexEncode, hs,
    Strconv.parseBool_formatBool]

theorem any_fieldFails_carrierOf (hextra : ∀ e ∈ extra, Strings.toLower lowerTo e.1 ∉ stateKeys)
    (hl : l.Perm (carrierOf enc sc bag extra)) : l.any (fieldFails lowerTo) = false :=
  List.any_eq_false.2 fun e he => by
    rcases mem_carrierOf lowerTo hextra (hl.subset he) with h | h
    · simp [fieldFails_injectedFields lowerTo e h]
    · simp [fieldFails_of_not_mem lowerTo h]

theorem countP_isField_carrierOf (hextra : ∀ e ∈ extra, Strings.toLower lowerTo e.1 ∉ stateKeys)
    (hl : l.Perm (carrierOf enc sc bag extra)) :
    l.countP (isField lowerTo) = if enc = .composite then 0 else 3 := by
  rw [List.countP_eq_length_filter, (hl.filter _).length_eq,
    filter_carrierOf lowerTo hextra fun e he => isField_of_not_mem lowerTo he]
  cases enc <;> simp [injectedFields, Encoding.keeps, isField, stateKeys_ne]

theorem traceID_carrierOf (hextra : ∀ e ∈ extra, Strings.toLower lowerTo e.1 ∉ stateKeys)
    (hl : l.Perm (carrierOf enc sc bag extra)) (d : Decoding) :
    (l.foldl (fun d e => fieldUpdate lowerTo e d) d).traceID =
      if enc = .composite then d.traceID else sc.traceID := by
  rw [foldl_fieldUpdate_traceID, filter_perm_carrierOf lowerTo hextra hl
    (fun e he => decide_toLower_eq_of_not_mem lowerTo he (by simp [stateKeys]))
    (by cases enc <;> simp [injectedFields, Encoding.keeps, stateKeys_ne])]
  cases enc <;> simp [injectedFields, Encoding.keeps, stateKeys_ne, traceIdOf_eq,
    Uuid.parse_hexEncode]

theorem spanID_carrierOf (hextra : ∀ e ∈ extra, Strings.toLower lowerTo e.1 ∉ stateKeys)
    (hl : l.Perm (carrierOf enc sc bag extra)) (d : Decoding) :
    (l.foldl (fun d e => fieldUpdate lowerTo e d) d).spanID =
      if enc = .composite then d.spanID else sc.spanID := by
  have hs : Strconv.parseUint (Strconv.formatUint sc.spanID.toNat 16) 16 64 = (sc.spanID.toNat, none) :=
    Strconv.parseUint_formatUint (by omega) (by omega) le_rfl sc.spanID.toNat_lt_size
  have hid : UInt64.ofNat sc.spanID.toNat = sc.spanID :=
    UInt64.toNat.inj (UInt64.toNat_ofNat_of_lt sc.spanID.toNat_lt_size)
  rw [foldl_fieldUpdate_spanID, filter_perm_carrierOf lowerTo hextra hl
    (fun e he => decide_toLower_eq_of_not_mem lowerTo he (by simp [stateKeys]))
    (by cases enc <;> simp [injectedFields, Encoding.keeps, stateKeys_ne])]
  cases enc <;> simp [injectedFields, Encoding.keeps, stateKeys_ne, hs, hid]

theorem sampled_carrierOf (hextra : ∀ e ∈ extra, Strings.toLower lowerTo e.1 ∉ stateKeys)
    (hl : l.Perm (carrierOf enc sc bag extra)) (d : Decoding) :
    (l.foldl (fun d e => fieldUpdate lowerTo e d) d).sampled =
      if enc = .composite then d.sampled else sc.sampled := by
  rw [foldl_fieldUpdate_sampled, filter_perm_carrierOf lowerTo hextra hl
    (fun e he => decide_toLower_eq_of_not_mem lowerTo he (by simp [stateKeys]))
    (by cases enc <;> simp [injectedFields, Encoding.keeps, stateKeys_ne])]
  cases enc <;> simp [injectedFields, Encoding.keeps, stateKeys_ne, Strconv.parseBool_formatBool]

end Carrier

/-! ## The ids and the flag -/

theorem perm_carrierOf {sc : SpanContext} {bag : List Entry} (hbag : Enumerates bag sc.baggage)
    {enc : Encoding} {extra l : List Entry}
    (h : (l : Multiset Entry) = (inject sc bag ∅).entries.filter (fun e => enc.keeps e.1) + extra) :
    l.Perm (carrierOf enc sc bag extra) := by
  rw [inject_entries sc hbag, Multiset.filter_coe, Multiset.coe_add] at h
  simpa only [Bool.decide_eq_true] using Multiset.coe_eq_coe.1 h

/-- **`Extract` of an injected carrier**: for any encoding, any extra keys that are not state
keys, and any orders of the two walks, the ids and the flag of the span context, with the
baggage the second walk decodes. -/
theorem extract_carrierOf {enc : Encoding} {sc : SpanContext} {bag extra first second : List Entry}
    (hextra : ∀ e ∈ extra, Strings.toLower lowerTo e.1 ∉ stateKeys)
    (h₁ : first.Perm (carrierOf enc sc bag extra)) (h₂ : second.Perm (carrierOf enc sc bag extra)) :
    extract lowerTo first second =
      .ok ⟨sc.traceID, sc.spanID, sc.sampled, second.foldl (fun m e => baggageUpdate lowerTo e m) ∅⟩ := by
  simp only [extract, foreachKey_carrierOf lowerTo hextra h₁,
    foreachKey_fieldHandler lowerTo (any_fieldFails_carrierOf lowerTo hextra h₂),
    foldl_fieldUpdate_count, countP_isField_carrierOf lowerTo hextra h₂,
    traceID_carrierOf lowerTo hextra h₂, spanID_carrierOf lowerTo hextra h₂,
    sampled_carrierOf lowerTo hextra h₂, foldl_fieldUpdate_baggage]
  cases enc <;> simp [firstWalk, Decoding.init, tracerStateFieldCount]

theorem extract_inject (sc : SpanContext) {bag : List Entry} (hbag : Enumerates bag sc.baggage)
    (enc : Encoding) (extra : List Entry) (hextra : ∀ e ∈ extra, Strings.toLower lowerTo e.1 ∉ stateKeys)
    {first second : List Entry}
    (h₁ : (first : Multiset Entry) = (inject sc bag ∅).entries.filter (fun e => enc.keeps e.1) + extra)
    (h₂ : (second : Multiset Entry) = (inject sc bag ∅).entries.filter (fun e => enc.keeps e.1) + extra) :
    ∃ ctx, extract lowerTo first second = .ok ctx ∧
      ctx.traceID = sc.traceID ∧ ctx.spanID = sc.spanID ∧ ctx.sampled = sc.sampled :=
  ⟨_, extract_carrierOf lowerTo hextra (perm_carrierOf hbag h₁) (perm_carrierOf hbag h₂), rfl, rfl, rfl⟩

/-- The composite field alone, with one more key. -/
theorem extract_inject_composite :
    ∃ ctx, extract id (carrierOf .composite ⟨Uuid.nil, 7, true, ∅⟩ [] [⟨lit "x-request-id", lit "1"⟩])
        (carrierOf .composite ⟨Uuid.nil, 7, true, ∅⟩ [] [⟨lit "x-request-id", lit "1"⟩]) = .ok ctx ∧
      ctx.traceID = Uuid.nil ∧ ctx.spanID = 7 ∧ ctx.sampled = true := by
  have hbag : Enumerates [] (⟨Uuid.nil, 7, true, ∅⟩ : SpanContext).baggage := rfl
  have hc : ((carrierOf .composite ⟨Uuid.nil, 7, true, ∅⟩ [] [⟨lit "x-request-id", lit "1"⟩] : List Entry) :
      Multiset Entry) = (inject ⟨Uuid.nil, 7, true, ∅⟩ [] ∅).entries.filter
        (fun e => Encoding.composite.keeps e.1) + ↑[(⟨lit "x-request-id", lit "1"⟩ : Entry)] := by
    rw [inject_entries _ hbag, Multiset.filter_coe, Multiset.coe_add]
    simp [carrierOf]
  exact extract_inject id _ hbag .composite _ (by decide) hc hc

/-! ## The baggage -/

theorem storesAt_injectedBaggage (e : Entry) :
    StoresAt lowerTo ⟨prefixBaggage ++ e.1, e.2⟩ (Strings.toLower lowerTo e.1) := by
  refine ⟨isField_of_not_mem lowerTo ?_, ?_, ?_⟩ <;> rw [toLower_prefixBaggage_append]
  · exact fun h => prefixBaggage_append_ne h rfl
  · exact Strings.hasPrefix_append _ _
  · exact Strings.trimPrefix_append _ _

/-- Of what `Inject` writes, only the baggage entries store a value, each under its key
lower-cased. -/
theorem exists_of_storesAt {sc : SpanContext} {bag : List Entry} {e : Entry} {k : Bytes}
    (he : e ∈ injectedFields sc ++ injectedBaggage bag) (hs : StoresAt lowerTo e k) :
    ∃ e' ∈ bag, e.2 = e'.2 ∧ Strings.toLower lowerTo e'.1 = k := by
  rcases List.mem_append.1 he with he | he
  · exfalso
    simp only [injectedFields, List.mem_cons, List.mem_singleton, List.not_mem_nil, or_false] at he
    rcases he with rfl | rfl | rfl | rfl <;> revert hs <;> simp +decide [StoresAt, isField, Strings.hasPrefix]
  · obtain ⟨e', he', rfl⟩ := List.mem_map.1 he
    refine ⟨e', he', rfl, ?_⟩
    have h := hs.2.2
    rwa [toLower_prefixBaggage_append, Strings.trimPrefix_append] at h

theorem perm_carrierOf_both {sc : SpanContext} {bag l : List Entry} (hbag : Enumerates bag sc.baggage)
    (h : Enumerates l (inject sc bag ∅)) : l.Perm (carrierOf .both sc bag []) :=
  by
  have hall : (inject sc bag ∅).entries.filter (fun e => Encoding.both.keeps e.1) = (inject sc bag ∅).entries :=
    Multiset.filter_eq_self.2 fun _ _ => rfl
  exact perm_carrierOf hbag (by rw [hall, Multiset.coe_nil, add_zero]; exact h)

theorem mem_carrierOf_both {sc : SpanContext} {bag : List Entry} {e : Entry} :
    e ∈ carrierOf .both sc bag [] ↔ e ∈ injectedFields sc ++ injectedBaggage bag := by
  simp [carrierOf, Encoding.keeps]

/-- **The decoded baggage of an injected carrier**, in every order of the second walk: its keys
are the baggage keys lower-cased, and each holds the value of a key that lower-cases to it. -/
theorem baggage_carrierOf {sc : SpanContext} {bag second : List Entry}
    (hbag : Enumerates bag sc.baggage) (h₂ : second.Perm (carrierOf .both sc bag [])) :
    (∀ k, k ∈ second.foldl (fun m e => baggageUpdate lowerTo e m) ∅ ↔
      ∃ k' ∈ sc.baggage, Strings.toLower lowerTo k' = k) ∧
    (∀ k v, (second.foldl (fun m e => baggageUpdate lowerTo e m) ∅).lookup k = some v →
      ∃ k', Strings.toLower lowerTo k' = k ∧ sc.baggage.lookup k' = some v) := by
  have hsrc : ∀ {e k}, e ∈ second → StoresAt lowerTo e k →
      ∃ e' ∈ bag, e.2 = e'.2 ∧ Strings.toLower lowerTo e'.1 = k :=
    fun he hs => exists_of_storesAt lowerTo (mem_carrierOf_both.1 (h₂.subset he)) hs
  refine ⟨fun k => ?_, fun k v hv => ?_⟩
  · rw [mem_foldl_baggageUpdate, or_iff_left (Finmap.not_mem_empty)]
    constructor
    · rintro ⟨e, he, hs⟩
      obtain ⟨e', he', -, rfl⟩ := hsrc he hs
      exact ⟨e'.1, Finmap.mem_of_lookup_eq_some (hbag.mem_iff.1 he'), rfl⟩
    · rintro ⟨k', hk', rfl⟩
      obtain ⟨v, hv⟩ := Finmap.mem_iff.1 hk'
      have hmem : (⟨prefixBaggage ++ k', v⟩ : Entry) ∈ second :=
        h₂.symm.subset (mem_carrierOf_both.2 (List.mem_append_right _
          (List.mem_map_of_mem _ (hbag.mem_iff (e := ⟨k', v⟩) |>.2 hv))))
      exact ⟨_, hmem, storesAt_injectedBaggage lowerTo ⟨k', v⟩⟩
  · rcases lookup_foldl_baggageUpdate lowerTo hv with ⟨e, he, hs, rfl⟩ | h
    · obtain ⟨e', he', hv', rfl⟩ := hsrc he hs
      exact ⟨e'.1, rfl, hv' ▸ hbag.mem_iff.1 he'⟩
    · simp at h

theorem extract_inject_baggage (sc : SpanContext) {bag : List Entry} (hbag : Enumerates bag sc.baggage)
    {first second : List Entry} (h₁ : Enumerates first (inject sc bag ∅))
    (h₂ : Enumerates second (inject sc bag ∅)) :
    ∃ ctx, extract lowerTo first second = .ok ctx ∧
      (∀ k, k ∈ ctx.baggage ↔ ∃ k' ∈ sc.baggage, Strings.toLower lowerTo k' = k) ∧
      (∀ k v, ctx.baggage.lookup k = some v →
        ∃ k', Strings.toLower lowerTo k' = k ∧ sc.baggage.lookup k' = some v) ∧
      ((∀ k ∈ sc.baggage, Strings.toLower lowerTo k = k) → ctx.baggage = sc.baggage) := by
  have hp₂ := perm_carrierOf_both hbag h₂
  obtain ⟨hmem, hlookup⟩ := baggage_carrierOf lowerTo hbag hp₂
  refine ⟨_, extract_carrierOf lowerTo (by simp) (perm_carrierOf_both hbag h₁) hp₂, hmem, hlookup,
    fun hlow => Finmap.ext_lookup fun k => ?_⟩
  -- with lower-case keys, a key of either map is a key of the other, with the same value
  have hiff : k ∈ second.foldl (fun m e => baggageUpdate lowerTo e m) ∅ ↔ k ∈ sc.baggage := by
    rw [hmem]
    exact ⟨fun ⟨k', hk', hk⟩ => hk ▸ (hlow k' hk').symm ▸ hk', fun hk => ⟨k, hk, hlow k hk⟩⟩
  cases hv : (second.foldl (fun m e => baggageUpdate lowerTo e m) ∅).lookup k with
  | none =>
    exact (Finmap.lookup_eq_none.2 ((not_congr hiff).1 (Finmap.lookup_eq_none.1 hv))).symm
  | some v =>
    obtain ⟨k', hk, hk'⟩ := hlookup k v hv
    rwa [← hk, hlow k' (Finmap.mem_of_lookup_eq_some hk'), eq_comm]

/-- A lower-case baggage key comes back as it went. -/
theorem extract_inject_baggage_lower :
    ∃ ctx, extract id (injectedFields ⟨Uuid.nil, 0, false, Finmap.singleton (lit "k") (lit "v")⟩ ++
        injectedBaggage [⟨lit "k", lit "v"⟩])
      (injectedFields ⟨Uuid.nil, 0, false, Finmap.singleton (lit "k") (lit "v")⟩ ++
        injectedBaggage [⟨lit "k", lit "v"⟩]) = .ok ctx ∧
      ctx.baggage = Finmap.singleton (lit "k") (lit "v") := by
  have hbag : Enumerates [⟨lit "k", lit "v"⟩]
      (⟨Uuid.nil, 0, false, Finmap.singleton (lit "k") (lit "v")⟩ : SpanContext).baggage := rfl
  obtain ⟨ctx, h, -, -, hlow⟩ := extract_inject_baggage id _ hbag (inject_entries _ hbag).symm
    (inject_entries _ hbag).symm
  refine ⟨ctx, h, hlow fun k hk => ?_⟩
  rw [Finmap.mem_singleton] at hk
  subst hk
  decide

/-- An upper-case baggage key comes back lower-cased. -/
theorem extract_inject_baggage_upper :
    ∃ (sc : SpanContext) (bag first second : List Entry), Enumerates bag sc.baggage ∧
      Enumerates first (inject sc bag ∅) ∧ Enumerates second (inject sc bag ∅) ∧
      ∀ lowerTo ctx, extract lowerTo first second = .ok ctx → ctx.baggage ≠ sc.baggage := by
  have hbag : Enumerates [⟨lit "K", lit "v"⟩]
      (⟨Uuid.nil, 0, false, Finmap.singleton (lit "K") (lit "v")⟩ : SpanContext).baggage := rfl
  have hinj := (inject_entries _ hbag).symm
  refine ⟨_, _, _, _, hbag, hinj, hinj, fun lowerTo ctx h hctx => ?_⟩
  have hp := perm_carrierOf_both hbag hinj
  rw [extract_carrierOf lowerTo (by simp) hp hp, Except.ok.injEq] at h
  subst h
  have hK := (baggage_carrierOf lowerTo hbag hp).1 (lit "K")
  dsimp only at hctx
  rw [hctx] at hK
  obtain ⟨k', hk', hk⟩ := hK.1 ((Finmap.mem_singleton _ _ _).2 rfl)
  rw [Finmap.mem_singleton] at hk'
  subst hk'
  rw [Strings.toLower_of_ascii lowerTo (by decide)] at hk
  exact absurd hk (by decide)

end TextMapPropagator
end ScopeAgent
