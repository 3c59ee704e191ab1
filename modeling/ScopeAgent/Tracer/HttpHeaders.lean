/-
# The span context across an HTTP hop

`doRoundTrip` (`src/instrumentation/nethttp/client.go`, lines 186-189) injects the client span's
context into the outgoing request, `Inject(sc, opentracing.HTTPHeaders,
HTTPHeadersCarrier(req.Header))`, unless `InjectSpanContext(false)` turned it off.  The tracer
hands the `HTTPHeaders` format to the text propagator, as it does `TextMap`; what differs is the
carrier.  `HTTPHeadersCarrier.Set` is `http.Header.Set`, which stores a one-value list under the
key's canonical form (`Textproto.canonicalMIMEHeaderKey`), replacing what that key held;
`ForeachKey` ranges over the header's keys in any order, and over each key's values.

So the receiving side's `Extract` does not read the keys `Inject` wrote: it reads
`Ot-Tracer-Traceid` for `ot-tracer-traceid`, and two baggage keys that differ in case only share
one header.  But `Extract` lowers every key before it compares it, and after `Inject` the header
holds each state entry under its canonical key and no other key that lowers to a state key
(`Stamped`, `stamped_injectHeader`).  A walk of the header is then, up to order and with the
state keys lowered back, a carrier `extract_carrierOf` reads (`Stamped.walk_perm`,
`extract_map_stateKeyOf`):

* **The ids and the flag cross the hop** (`extract_injectHeader`), whatever headers the request
  already had, provided the state keys among them, if any, are in canonical form (as an earlier
  `Inject` leaves them), and whatever orders the two walks of `Extract` take.
-/

import ScopeAgent.Go.Textproto
import ScopeAgent.Tracer.TextMapRoundTrip

namespace ScopeAgent
namespace TextMapPropagator

open Textproto (canonicalMIMEHeaderKey)

/-! ## `Inject` through any writer -/

/-- `textMapPropagator.Inject(sc, carrier)` on any `TextMapWriter`, `set` being its `Set`. -/
def injectInto {C : Type} (set : C → Bytes → Bytes → C) (sc : SpanContext) (bag : List Entry)
    (carrier : C) : C :=
  let traceId := Strings.removeAll sc.traceID.toString 45
  let carrier := set carrier fieldNameTraceID traceId
  let carrier := set carrier fieldNameSpanID (Strconv.formatUint sc.spanID.toNat 16)
  let carrier := set carrier fieldNameSampled (Strconv.formatBool sc.sampled)
  let carrier := set carrier traceParentKey (traceParentValue traceId sc.spanID sc.sampled)
  bag.foldl (fun c e => set c (prefixBaggage ++ e.1) e.2) carrier

/-- On a `TextMapCarrier` it is `inject`. -/
theorem inject_eq_injectInto (sc : SpanContext) (bag : List Entry) (carrier : StrMap) :
    inject sc bag carrier = injectInto (fun c k v => c.insert k v) sc bag carrier := rfl

/-- `Inject` sets the state entries, then the baggage entries. -/
theorem injectInto_eq_foldl {C : Type} (set : C → Bytes → Bytes → C) (sc : SpanContext)
    (bag : List Entry) (carrier : C) :
    injectInto set sc bag carrier =
      (injectedFields sc ++ injectedBaggage bag).foldl (fun c e => set c e.1 e.2) carrier := by
  rw [List.foldl_append, injectedBaggage, List.foldl_map]
  rfl

/-! ## `http.Header` as a carrier -/

/-- An `http.Header`, `map[string][]string`. -/
abbrev Header := Finmap fun _ : Bytes => List Bytes

/-- `HTTPHeadersCarrier.Set(key, val)`, that is `http.Header.Set`:
`h[CanonicalMIMEHeaderKey(key)] = []string{val}`. -/
def Header.set (h : Header) (k v : Bytes) : Header :=
  h.insert (canonicalMIMEHeaderKey k) [v]

/-- `HTTPHeadersCarrier.ForeachKey`: what it hands to the handler when `range` visits the
header's keys in the order of `kvs`, each key with each of its values in order. -/
def headerWalk (kvs : List (Σ _ : Bytes, List Bytes)) : List Entry :=
  kvs.flatMap fun kv => kv.2.map fun v => ⟨kv.1, v⟩

/-- `l` is what one `ForeachKey` over `h` hands to its handler. -/
def Header.Walks (h : Header) (l : List Entry) : Prop :=
  ∃ kvs : List (Σ _ : Bytes, List Bytes), (kvs : Multiset _) = h.entries ∧ l = headerWalk kvs

/-- `Inject` into `HTTPHeadersCarrier(h)`. -/
def injectHeader (sc : SpanContext) (bag : List Entry) (h : Header) : Header :=
  injectInto Header.set sc bag h

/-- Two walks of one header hand over the same entries. -/
theorem Header.Walks.perm {h : Header} {l l' : List Entry} (hl : h.Walks l) (hl' : h.Walks l') :
    l.Perm l' := by
  obtain ⟨kvs, hk, rfl⟩ := hl
  obtain ⟨kvs', hk', rfl⟩ := hl'
  exact (Multiset.coe_eq_coe.1 (hk.trans hk'.symm)).flatMap_right _

/-- Sets under other canonical keys leave a key's values alone. -/
theorem lookup_foldl_set_of_ne {k : Bytes} :
    ∀ {calls : List Entry}, (∀ e ∈ calls, canonicalMIMEHeaderKey e.1 ≠ k) →
      ∀ h : Header,
      (calls.foldl (fun h e => h.set e.1 e.2) h).lookup k = h.lookup k
  | [], _, _ => rfl
  | e :: calls, hne, h => by
    rw [List.forall_mem_cons] at hne
    rw [List.foldl_cons, lookup_foldl_set_of_ne hne.2, Header.set,
      Finmap.lookup_insert_of_ne _ (Ne.symm hne.1)]

/-- After sets under distinct canonical keys, each key holds the value set last. -/
theorem lookup_foldl_set {calls : List Entry}
    (hnd : (calls.map fun e => canonicalMIMEHeaderKey e.1).Nodup) (h : Header) {e : Entry}
    (he : e ∈ calls) :
    (calls.foldl (fun h e => h.set e.1 e.2) h).lookup (canonicalMIMEHeaderKey e.1) =
      some [e.2] := by
  induction calls generalizing h with
  | nil => nomatch he
  | cons a calls ih =>
    rw [List.map_cons, List.nodup_cons] at hnd
    rw [List.foldl_cons]
    rcases List.mem_cons.1 he with rfl | he
    · rw [lookup_foldl_set_of_ne fun e' he' heq =>
          hnd.1 (by rw [← heq]; exact List.mem_map_of_mem _ he'),
        Header.set, Finmap.lookup_insert]
    · exact ih hnd.2 _ he

/-! ## What `Inject` leaves in the header -/

variable (lowerTo : Nat → Nat)

/-- The keys of the state entries are the state keys. -/
theorem mem_stateKeys_of_mem_injectedFields {sc : SpanContext} {e : Entry}
    (he : e ∈ injectedFields sc) : e.1 ∈ stateKeys := by
  simp only [injectedFields, List.mem_cons, List.mem_singleton, List.not_mem_nil, or_false] at he
  rcases he with rfl | rfl | rfl | rfl <;> simp [stateKeys]

theorem toLower_canonicalMIMEHeaderKey_stateKey {k : Bytes} (hk : k ∈ stateKeys) :
    Strings.toLower lowerTo (canonicalMIMEHeaderKey k) = k := by
  rw [Textproto.toLower_canonicalMIMEHeaderKey, toLower_stateKey lowerTo k hk]

/-- A header in which every key that lowers to a state key is the canonical form of one. -/
def StateCanonical (h : Header) : Prop :=
  ∀ k ∈ h, Strings.toLower lowerTo k ∈ stateKeys → k ∈ stateKeys.map canonicalMIMEHeaderKey

/-- **What `Inject` leaves**: each state entry under its canonical key, and no other key that
lowers to a state key. -/
structure Stamped (sc : SpanContext) (h : Header) : Prop where
  lookup : ∀ e ∈ injectedFields sc, h.lookup (canonicalMIMEHeaderKey e.1) = some [e.2]
  canonical : StateCanonical lowerTo h

/-- A set under a state key, or under a key that lowers to none, keeps the state keys
canonical. -/
theorem StateCanonical.set {h : Header} (hh : StateCanonical lowerTo h) {k : Bytes}
    (hk : Strings.toLower lowerTo k ∈ stateKeys → k ∈ stateKeys) (v : Bytes) :
    StateCanonical lowerTo (h.set k v) := by
  intro k' hk' hs
  rcases Finmap.mem_insert.1 hk' with rfl | hk'
  · rw [Textproto.toLower_canonicalMIMEHeaderKey] at hs
    exact List.mem_map_of_mem _ (hk hs)
  · exact hh k' hk' hs

theorem StateCanonical.foldl_set {h : Header} (hh : StateCanonical lowerTo h) :
    ∀ {calls : List Entry},
      (∀ e ∈ calls, Strings.toLower lowerTo e.1 ∈ stateKeys → e.1 ∈ stateKeys) →
      StateCanonical lowerTo (calls.foldl (fun h e => h.set e.1 e.2) h)
  | [], _ => hh
  | e :: calls, hc => by
    rw [List.forall_mem_cons] at hc
    exact (hh.set lowerTo hc.1 e.2).foldl_set hc.2

/-- The four canonical state keys are distinct. -/
theorem nodup_canonical_injectedFields (sc : SpanContext) :
    ((injectedFields sc).map fun e => canonicalMIMEHeaderKey e.1).Nodup :=
  show ([fieldNameTraceID, fieldNameSpanID, fieldNameSampled, traceParentKey].map
    canonicalMIMEHeaderKey).Nodup by decide

/-- A baggage key's canonical form is never a state key's. -/
theorem canonical_baggage_ne {sc : SpanContext} {bag : List Entry} {e e' : Entry}
    (he : e ∈ injectedBaggage bag) (he' : e' ∈ injectedFields sc) :
    canonicalMIMEHeaderKey e.1 ≠ canonicalMIMEHeaderKey e'.1 := by
  intro heq
  have h := congrArg (Strings.toLower id) heq
  rw [Textproto.toLower_canonicalMIMEHeaderKey,
    toLower_canonicalMIMEHeaderKey_stateKey id (mem_stateKeys_of_mem_injectedFields he')] at h
  exact toLower_not_mem_stateKeys id he (h ▸ mem_stateKeys_of_mem_injectedFields he')

theorem stamped_injectHeader (sc : SpanContext) (bag : List Entry) {h₀ : Header}
    (hh₀ : StateCanonical lowerTo h₀) : Stamped lowerTo sc (injectHeader sc bag h₀) := by
  rw [injectHeader, injectInto_eq_foldl, List.foldl_append]
  refine ⟨fun e he => ?_, ?_⟩
  · rw [lookup_foldl_set_of_ne fun e' he' => canonical_baggage_ne he' he]
    exact lookup_foldl_set (nodup_canonical_injectedFields sc) h₀ he
  · rw [← List.foldl_append]
    refine hh₀.foldl_set lowerTo fun e he hs => ?_
    rcases List.mem_append.1 he with he | he
    · exact mem_stateKeys_of_mem_injectedFields he
    · exact absurd hs (toLower_not_mem_stateKeys lowerTo he)

/-! ## A walk of the header -/

/-- The entries a walk hands over for the state keys: each under its canonical key. -/
def stampedEntries (sc : SpanContext) : List Entry :=
  (injectedFields sc).map fun e => ⟨canonicalMIMEHeaderKey e.1, e.2⟩

/-- The key's entries of a header that holds the state entries under canonical keys. -/
def stampedKeys (sc : SpanContext) : List (Σ _ : Bytes, List Bytes) :=
  (injectedFields sc).map fun e => ⟨canonicalMIMEHeaderKey e.1, [e.2]⟩

/-- A key that lowers to a state key. -/
def lowersToStateKey (k : Bytes) : Bool := decide (Strings.toLower lowerTo k ∈ stateKeys)

/-- In a stamped header, the keys that lower to a state key and their values are the state
entries under canonical keys, in some order. -/
theorem Stamped.filter_perm {sc : SpanContext} {h : Header} (hs : Stamped lowerTo sc h)
    {kvs : List (Σ _ : Bytes, List Bytes)} (hk : (kvs : Multiset _) = h.entries) :
    (kvs.filter fun kv => lowersToStateKey lowerTo kv.1).Perm (stampedKeys sc) := by
  have hnd : kvs.Nodup := Multiset.coe_nodup.1 (hk ▸ h.nodup_entries)
  have hnd' : (stampedKeys sc).Nodup :=
    List.Nodup.of_map Sigma.fst (by simpa [stampedKeys] using nodup_canonical_injectedFields sc)
  refine (List.perm_ext_iff_of_nodup (hnd.filter _) hnd').2 fun kv => ?_
  rw [List.mem_filter, lowersToStateKey, decide_eq_true_iff, stampedKeys, List.mem_map]
  constructor
  · rintro ⟨hkv, hst⟩
    have hlook : h.lookup kv.1 = some kv.2 :=
      Finmap.lookup_eq_some_iff.2 (by rw [← hk]; exact Multiset.mem_coe.2 hkv)
    obtain ⟨k, hk', hkey⟩ :=
      List.mem_map.1 (hs.canonical kv.1 (Finmap.mem_of_lookup_eq_some hlook) hst)
    obtain ⟨e, he, rfl⟩ : ∃ e ∈ injectedFields sc, e.1 = k := by
      simp only [stateKeys, List.mem_cons, List.mem_singleton, List.not_mem_nil, or_false] at hk'
      rcases hk' with rfl | rfl | rfl | rfl <;> simp [injectedFields]
    refine ⟨e, he, ?_⟩
    obtain ⟨k', v'⟩ := kv
    dsimp only at hkey hlook ⊢
    subst hkey
    rw [hs.lookup e he, Option.some.injEq] at hlook
    rw [hlook]
  · rintro ⟨e, he, rfl⟩
    refine ⟨Multiset.mem_coe.1 (hk ▸ Finmap.lookup_eq_some_iff.1 (hs.lookup e he)), ?_⟩
    rw [toLower_canonicalMIMEHeaderKey_stateKey lowerTo (mem_stateKeys_of_mem_injectedFields he)]
    exact mem_stateKeys_of_mem_injectedFields he

/-- **A walk of a stamped header**: the state entries under canonical keys, and entries whose
keys lower to no state key, in some order. -/
theorem Stamped.walk_perm {sc : SpanContext} {h : Header} (hs : Stamped lowerTo sc h)
    {l : List Entry} (hl : h.Walks l) :
    ∃ rest, l.Perm (stampedEntries sc ++ rest) ∧
      ∀ e ∈ rest, Strings.toLower lowerTo e.1 ∉ stateKeys := by
  obtain ⟨kvs, hk, rfl⟩ := hl
  let p := fun kv : Σ _ : Bytes, List Bytes => lowersToStateKey lowerTo kv.1
  refine ⟨headerWalk (kvs.filter fun kv => !p kv), ?_, fun e he => ?_⟩
  · have hsplit := ((List.filter_append_perm p kvs).symm.flatMap_right fun kv =>
      kv.2.map fun v => (⟨kv.1, v⟩ : Entry))
    rw [List.flatMap_append] at hsplit
    exact hsplit.trans (((hs.filter_perm lowerTo hk).flatMap_right _).append_right _)
  · obtain ⟨kv, hkv, he⟩ := List.mem_flatMap.1 he
    obtain ⟨v, -, rfl⟩ := List.mem_map.1 he
    have hp := (List.mem_filter.1 hkv).2
    simpa [p, lowersToStateKey] using hp

/-! ## `Extract` of a walk -/

/-- The key a header entry has for `Extract`: the state key it lowers to, or itself. -/
def stateKeyOf (e : Entry) : Entry :=
  if Strings.toLower lowerTo e.1 ∈ stateKeys then ⟨Strings.toLower lowerTo e.1, e.2⟩ else e

theorem toLower_stateKeyOf (e : Entry) :
    Strings.toLower lowerTo (stateKeyOf lowerTo e).1 = Strings.toLower lowerTo e.1 ∧
      (stateKeyOf lowerTo e).2 = e.2 := by
  unfold stateKeyOf
  split_ifs with h
  · exact ⟨toLower_stateKey lowerTo _ h, rfl⟩
  · exact ⟨rfl, rfl⟩

/-- `ForeachKey` with a handler that cannot tell an entry from its image under `f`. -/
theorem foreachKey_map {handler : Decoding → Bytes → Bytes → Decoding × Option OTError}
    {f : Entry → Entry} (hf : ∀ e d, handler d (f e).1 (f e).2 = handler d e.1 e.2) :
    ∀ (l : List Entry) d, foreachKey handler d (l.map f) = foreachKey handler d l
  | [], _ => rfl
  | e :: l, d => by
    rw [List.map_cons, foreachKey, foreachKey, hf e d]
    rcases handler d e.1 e.2 with ⟨d', _ | err⟩
    · exact foreachKey_map hf l d'
    · rfl

/-- **`Extract` lowers every key it compares**, so it reads the state keys lowered back as it
reads the header's keys. -/
theorem extract_map_stateKeyOf (first second : List Entry) :
    extract lowerTo (first.map (stateKeyOf lowerTo)) (second.map (stateKeyOf lowerTo)) =
      extract lowerTo first second := by
  have h₁ : ∀ e d,
      traceParentHandler lowerTo d (stateKeyOf lowerTo e).1 (stateKeyOf lowerTo e).2 =
        traceParentHandler lowerTo d e.1 e.2 := fun e d => by
    simp only [traceParentHandler, toLower_stateKeyOf]
  have h₂ : ∀ e d, fieldHandler lowerTo d (stateKeyOf lowerTo e).1 (stateKeyOf lowerTo e).2 =
      fieldHandler lowerTo d e.1 e.2 := fun e d => by
    simp only [fieldHandler, fieldCase, toLower_stateKeyOf]
  simp only [extract, foreachKey_map h₁, foreachKey_map h₂]

theorem map_stateKeyOf_stampedEntries (sc : SpanContext) :
    (stampedEntries sc).map (stateKeyOf lowerTo) = injectedFields sc := by
  rw [stampedEntries, List.map_map]
  conv_rhs => rw [← List.map_id (injectedFields sc)]
  refine List.map_congr_left fun e he => ?_
  have hst := mem_stateKeys_of_mem_injectedFields he
  simp only [Function.comp, stateKeyOf, toLower_canonicalMIMEHeaderKey_stateKey lowerTo hst,
    if_pos hst, id]

theorem map_stateKeyOf_of_not_mem {rest : List Entry}
    (hrest : ∀ e ∈ rest, Strings.toLower lowerTo e.1 ∉ stateKeys) :
    rest.map (stateKeyOf lowerTo) = rest := by
  conv_rhs => rw [← List.map_id rest]
  exact List.map_congr_left fun e he => by simp only [stateKeyOf, if_neg (hrest e he), id]

/-- **The ids and the flag cross the HTTP hop.**  `Inject` into an `http.Header` through
`HTTPHeadersCarrier`, the request's own headers holding state keys, if any, in canonical form;
then `Extract` from the header, its two walks in any orders: the span context comes back with
the trace id, the span id and the sampled flag that were injected. -/
theorem extract_injectHeader (sc : SpanContext) (bag : List Entry) {h₀ : Header}
    (hh₀ : StateCanonical lowerTo h₀) {first second : List Entry}
    (h₁ : (injectHeader sc bag h₀).Walks first) (h₂ : (injectHeader sc bag h₀).Walks second) :
    ∃ ctx, extract lowerTo first second = .ok ctx ∧
      ctx.traceID = sc.traceID ∧ ctx.spanID = sc.spanID ∧ ctx.sampled = sc.sampled := by
  obtain ⟨rest, hperm, hrest⟩ :=
    (stamped_injectHeader lowerTo sc bag hh₀).walk_perm lowerTo h₁
  have hcarrier : carrierOf .both sc [] rest = injectedFields sc ++ rest := by
    simp [carrierOf, injectedBaggage, Encoding.keeps]
  have hF : (first.map (stateKeyOf lowerTo)).Perm (carrierOf .both sc [] rest) := by
    rw [hcarrier, ← map_stateKeyOf_stampedEntries lowerTo sc,
      ← map_stateKeyOf_of_not_mem lowerTo hrest, ← List.map_append]
    exact hperm.map _
  have hF₂ := ((h₂.perm h₁).map (stateKeyOf lowerTo)).trans hF
  exact ⟨_, (extract_map_stateKeyOf lowerTo first second).symm.trans
    (extract_carrierOf lowerTo hrest hF hF₂), rfl, rfl, rfl⟩

/-- A request with no headers of its own: `Extract` reads the injected ids from the header's
walk in the order its keys were set, last first. -/
theorem extract_injectHeader_fresh :
    StateCanonical id ∅ ∧
      (injectHeader ⟨Uuid.nil, 7, true, ∅⟩ [] ∅).Walks
        (headerWalk (stampedKeys ⟨Uuid.nil, 7, true, ∅⟩).reverse) ∧
      ∃ ctx, extract id (headerWalk (stampedKeys ⟨Uuid.nil, 7, true, ∅⟩).reverse)
          (headerWalk (stampedKeys ⟨Uuid.nil, 7, true, ∅⟩).reverse) = .ok ctx ∧
        ctx.traceID = Uuid.nil ∧ ctx.spanID = 7 ∧ ctx.sampled = true :=
  have h₀ : StateCanonical id ∅ := fun _ hk => absurd hk (Finmap.not_mem_empty)
  have hw : (injectHeader ⟨Uuid.nil, 7, true, ∅⟩ [] ∅).Walks
      (headerWalk (stampedKeys ⟨Uuid.nil, 7, true, ∅⟩).reverse) := ⟨_, rfl, rfl⟩
  ⟨h₀, hw, extract_injectHeader id _ [] h₀ hw hw⟩

end TextMapPropagator
end ScopeAgent
