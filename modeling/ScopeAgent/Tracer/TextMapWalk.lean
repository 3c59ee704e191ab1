/-
# What the two walks of `Extract` compute

Lemmas about `textMapPropagator.Extract`, one walk at a time, from which every theorem about
the text propagator is assembled.

* The first walk passes over every key that is not `traceparent` without a change
  (`traceParentHandler_of_ne`), so it is the walk over the `traceparent` entries alone
  (`foreachKey_filter`).  A `traceparent` value that fails a check stops it and leaves the
  counter where it was (`traceParentCase_count_of_fails`).
* The second handler refuses an entry exactly when it is one of the three fields and does
  not parse (`fieldFails`), whatever was decoded before; an entry it accepts updates the
  decoding by `fieldUpdate`.  So the second walk fails exactly when some entry fails, and
  otherwise is a fold of `fieldUpdate` (`foreachKey_fieldHandler`).  `fieldUpdate` writes each
  variable as a function of the entry alone, so two entries whose keys differ after
  lower-casing commute (`fieldUpdate_comm`), and each variable after a fold is the value of
  the last entry that writes it (`foldl_fieldUpdate_traceID` and the like).
* A key of the decoded baggage, and its value, come from an entry of the walk that stores it
  there (`mem_foldl_baggageUpdate`, `lookup_foldl_baggageUpdate`).
-/

import ScopeAgent.Tracer.TextMap

namespace ScopeAgent
namespace TextMapPropagator

variable (lowerTo : Nat → Nat)

/-! ## `ForeachKey` -/

/-- **An entry the handler passes over unchanged is as good as absent.** -/
theorem foreachKey_filter (h : Decoding → Bytes → Bytes → Decoding × Option OTError)
    (p : Entry → Bool) (hskip : ∀ e d, p e = false → h d e.1 e.2 = (d, none)) :
    ∀ (d : Decoding) (l : List Entry), foreachKey h d l = foreachKey h d (l.filter p)
  | _, [] => rfl
  | d, e :: l => by
    by_cases hp : p e = true
    · rw [List.filter_cons_of_pos hp, foreachKey, foreachKey]
      rcases h d e.1 e.2 with ⟨d', _ | err⟩
      · exact foreachKey_filter h p hskip d' l
      · rfl
    · rw [List.filter_cons_of_neg hp, foreachKey, hskip e d (by simpa using hp)]
      exact foreachKey_filter h p hskip d l

theorem foreachKey_singleton_fst (h : Decoding → Bytes → Bytes → Decoding × Option OTError)
    (d : Decoding) (e : Entry) : (foreachKey h d [e]).1 = (h d e.1 e.2).1 := by
  simp only [foreachKey]
  rcases h d e.1 e.2 with ⟨d', _ | err⟩ <;> rfl

/-- A permutation of a list of at most one element is that list. -/
theorem eq_of_perm_of_length_le_one {α : Type} {l l' : List α} (h : l.Perm l') (hl : l'.length ≤ 1) :
    l = l' := by
  match l', hl with
  | [], _ => exact List.perm_nil.1 h
  | [_], _ => exact List.perm_singleton.1 h

/-! ## The first walk: `traceparent` -/

/-- The entries the first handler reads: their key is `traceparent` after lower-casing. -/
def isTraceParent (e : Entry) : Bool := Strings.toLower lowerTo e.1 == traceParentKey

theorem traceParentHandler_of_ne {k : Bytes} (hk : Strings.toLower lowerTo k ≠ traceParentKey)
    (d : Decoding) (v : Bytes) : traceParentHandler lowerTo d k v = (d, none) := by
  simp [traceParentHandler, hk, countAfter]

theorem traceParentHandler_of_eq {k : Bytes} (hk : Strings.toLower lowerTo k = traceParentKey)
    (d : Decoding) (v : Bytes) :
    traceParentHandler lowerTo d k v = countAfter (traceParentCase lowerTo d v) := by
  simp [traceParentHandler, hk]

/-- The first walk is the walk over the `traceparent` entries. -/
theorem foreachKey_traceParentHandler (d : Decoding) (l : List Entry) :
    foreachKey (traceParentHandler lowerTo) d l =
      foreachKey (traceParentHandler lowerTo) d (l.filter (isTraceParent lowerTo)) :=
  foreachKey_filter _ _ (fun e d he => traceParentHandler_of_ne lowerTo
    (by simpa [isTraceParent] using he) d e.2) d l

/-- Whether a `traceparent` value fails its checks does not depend on what was decoded. -/
theorem traceParentCase_snd (d d' : Decoding) (v : Bytes) :
    (traceParentCase lowerTo d v).2 = (traceParentCase lowerTo d' v).2 := by
  unfold traceParentCase
  by_cases h55 : v.length < 55
  · rw [if_pos h55, if_pos h55]
  rw [if_neg h55, if_neg h55]
  generalize Strings.split v 45 = ps
  rcases ps with _ | ⟨p0, _ | ⟨p1, _ | ⟨p2, _ | ⟨p3, rest⟩⟩⟩⟩ <;> try rfl
  dsimp only
  by_cases hc : p0 ≠ lit "00" ∨ p1.length ≠ 32 ∨ p2.length ≠ 16
  · rw [if_pos hc, if_pos hc]
  rw [if_neg hc, if_neg hc]
  by_cases hu : (Uuid.parse lowerTo p1).2 = false
  · rw [if_pos hu, if_pos hu]
  rw [if_neg hu, if_neg hu]
  by_cases hs : (Strconv.parseUint p2 16 64).2.isSome
  · rw [if_pos hs, if_pos hs]
  rw [if_neg hs, if_neg hs]

/-- A `traceparent` value that passes every check of the first handler. -/
def ValidTraceParent (v : Bytes) : Prop := (traceParentCase lowerTo Decoding.init v).2 = none

/-- A failed `traceparent` check returns before `requiredFieldCount` is touched. -/
theorem traceParentCase_count_of_fails (d : Decoding) {v : Bytes}
    (hv : ¬ ValidTraceParent lowerTo v) :
    (traceParentCase lowerTo d v).1.requiredFieldCount = d.requiredFieldCount := by
  rw [ValidTraceParent, traceParentCase_snd lowerTo Decoding.init d] at hv
  revert hv
  unfold traceParentCase
  by_cases h55 : v.length < 55
  · exact fun _ => by rw [if_pos h55]
  rw [if_neg h55]
  generalize Strings.split v 45 = ps
  rcases ps with _ | ⟨p0, _ | ⟨p1, _ | ⟨p2, _ | ⟨p3, rest⟩⟩⟩⟩ <;> try exact fun _ => rfl
  dsimp only
  by_cases hc : p0 ≠ lit "00" ∨ p1.length ≠ 32 ∨ p2.length ≠ 16
  · exact fun _ => by rw [if_pos hc]
  by_cases hu : (Uuid.parse lowerTo p1).2 = false
  · exact fun _ => by rw [if_neg hc, if_pos hu]
  by_cases hs : (Strconv.parseUint p2 16 64).2.isSome
  · exact fun _ => by rw [if_neg hc, if_neg hu, if_pos hs]
  rw [if_neg hc, if_neg hu, if_neg hs]
  exact fun h => absurd rfl h

/-- **Without a valid `traceparent`, the first walk leaves the counter at its start.** -/
theorem foreachKey_traceParentHandler_count (d : Decoding) (l : List Entry)
    (hl : ∀ e ∈ l, isTraceParent lowerTo e = true → ¬ ValidTraceParent lowerTo e.2) :
    (foreachKey (traceParentHandler lowerTo) d l).1.requiredFieldCount = d.requiredFieldCount := by
  induction l generalizing d with
  | nil => rfl
  | cons e l ih =>
    have hl' := fun e' he' => hl e' (List.mem_cons_of_mem e he')
    by_cases he : isTraceParent lowerTo e = true
    · have hv := hl e (List.mem_cons_self e l) he
      have hfail : (traceParentCase lowerTo d e.2).2 ≠ none := by
        rwa [ValidTraceParent, traceParentCase_snd lowerTo Decoding.init d] at hv
      have hcount := traceParentCase_count_of_fails lowerTo d hv
      rw [foreachKey, traceParentHandler_of_eq lowerTo (by simpa [isTraceParent] using he)]
      rcases hcase : traceParentCase lowerTo d e.2 with ⟨d', _ | err⟩
      · simp [hcase] at hfail
      · simpa [hcase, countAfter] using hcount
    · rw [foreachKey, traceParentHandler_of_ne lowerTo (by simpa [isTraceParent] using he)]
      exact ih d hl'

/-! ## The second walk: the three fields and the baggage -/

theorem fieldNames_ne :
    fieldNameTraceID ≠ fieldNameSpanID ∧ fieldNameTraceID ≠ fieldNameSampled ∧
      fieldNameSpanID ≠ fieldNameSampled := by decide

/-- The entries the second handler counts: one of the three fields, after lower-casing. -/
def isField (e : Entry) : Bool :=
  Strings.toLower lowerTo e.1 ∈ [fieldNameTraceID, fieldNameSpanID, fieldNameSampled]

/-- An entry the second handler refuses: one of the three fields, its value not parsing. -/
def fieldFails (e : Entry) : Bool :=
  if Strings.toLower lowerTo e.1 = fieldNameTraceID then !(Uuid.parse lowerTo e.2).2
  else if Strings.toLower lowerTo e.1 = fieldNameSpanID then (Strconv.parseUint e.2 16 64).2.isSome
  else if Strings.toLower lowerTo e.1 = fieldNameSampled then (Strconv.parseBool e.2).2.isSome
  else false

/-- The decoded baggage after an entry: a key under `ot-baggage-` other than the three fields
stores its value under the rest of the lower-cased key. -/
def baggageUpdate (e : Entry) (m : StrMap) : StrMap :=
  if isField lowerTo e = false ∧ Strings.hasPrefix (Strings.toLower lowerTo e.1) prefixBaggage then
    m.insert (Strings.trimPrefix (Strings.toLower lowerTo e.1) prefixBaggage) e.2
  else m

/-- The decoding after an entry the second handler accepts, one variable at a time. -/
def fieldUpdate (e : Entry) (d : Decoding) : Decoding where
  requiredFieldCount := d.requiredFieldCount + if isField lowerTo e then 1 else 0
  traceID :=
    if Strings.toLower lowerTo e.1 = fieldNameTraceID then (Uuid.parse lowerTo e.2).1 else d.traceID
  spanID :=
    if Strings.toLower lowerTo e.1 = fieldNameSpanID then UInt64.ofNat (Strconv.parseUint e.2 16 64).1
    else d.spanID
  sampled :=
    if Strings.toLower lowerTo e.1 = fieldNameSampled then (Strconv.parseBool e.2).1 else d.sampled
  decodedBaggage := baggageUpdate lowerTo e d.decodedBaggage

/-- The second handler refuses an entry exactly when `fieldFails` says so. -/
theorem fieldHandler_snd (d : Decoding) (e : Entry) :
    (fieldHandler lowerTo d e.1 e.2).2 = if fieldFails lowerTo e then some .spanContextCorrupted else none := by
  unfold fieldHandler fieldCase fieldFails
  by_cases h1 : Strings.toLower lowerTo e.1 = fieldNameTraceID
  · rw [if_pos h1, if_pos h1]
    cases (Uuid.parse lowerTo e.2).2 <;> rfl
  by_cases h2 : Strings.toLower lowerTo e.1 = fieldNameSpanID
  · rw [if_neg h1, if_neg h1, if_pos h2, if_pos h2]
    cases (Strconv.parseUint e.2 16 64).2 <;> rfl
  by_cases h3 : Strings.toLower lowerTo e.1 = fieldNameSampled
  · rw [if_neg h1, if_neg h1, if_neg h2, if_neg h2, if_pos h3, if_pos h3]
    cases (Strconv.parseBool e.2).2 <;> rfl
  rw [if_neg h1, if_neg h1, if_neg h2, if_neg h2, if_neg h3, if_neg h3]
  rfl

/-- An entry the second handler accepts is `fieldUpdate`. -/
theorem fieldHandler_of_not_fails {e : Entry} (he : fieldFails lowerTo e = false) (d : Decoding) :
    fieldHandler lowerTo d e.1 e.2 = (fieldUpdate lowerTo e d, none) := by
  obtain ⟨h12, h13, h23⟩ := fieldNames_ne
  unfold fieldFails at he
  unfold fieldHandler fieldCase fieldUpdate baggageUpdate isField
  by_cases h1 : Strings.toLower lowerTo e.1 = fieldNameTraceID
  · have hp : (Uuid.parse lowerTo e.2).2 = true := by simpa [h1] using he
    simp [h1, hp, h12, h13, countAfter]
  by_cases h2 : Strings.toLower lowerTo e.1 = fieldNameSpanID
  · have hp : (Strconv.parseUint e.2 16 64).2 = none := by simpa [h1, h2] using he
    simp [h2, hp, h12.symm, h23, countAfter]
  by_cases h3 : Strings.toLower lowerTo e.1 = fieldNameSampled
  · have hp : (Strconv.parseBool e.2).2 = none := by simpa [h1, h2, h3] using he
    simp [h3, hp, h13.symm, h23.symm, countAfter]
  · by_cases hb : Strings.hasPrefix (Strings.toLower lowerTo e.1) prefixBaggage <;>
      simp [h1, h2, h3, hb, countAfter]

/-- **The second walk fails exactly when some entry fails**, whatever the order. -/
theorem foreachKey_fieldHandler_snd (d : Decoding) (l : List Entry) :
    (foreachKey (fieldHandler lowerTo) d l).2 =
      if l.any (fieldFails lowerTo) then some .spanContextCorrupted else none := by
  induction l generalizing d with
  | nil => rfl
  | cons e l ih =>
    by_cases he : fieldFails lowerTo e = true
    · have hsnd := fieldHandler_snd lowerTo d e
      rw [if_pos he] at hsnd
      rw [foreachKey]
      rcases hh : fieldHandler lowerTo d e.1 e.2 with ⟨d', _ | err⟩
      · simp [hh] at hsnd
      · simp_all
    · have he' : fieldFails lowerTo e = false := by simpa using he
      rw [foreachKey, fieldHandler_of_not_fails lowerTo he', List.any_cons, he', Bool.false_or]
      exact ih _

/-- **Without a failing entry the second walk is a fold of `fieldUpdate`.** -/
theorem foreachKey_fieldHandler {l : List Entry} (hl : l.any (fieldFails lowerTo) = false)
    (d : Decoding) :
    foreachKey (fieldHandler lowerTo) d l = (l.foldl (fun d e => fieldUpdate lowerTo e d) d, none) := by
  induction l generalizing d with
  | nil => rfl
  | cons e l ih =>
    simp only [List.any_cons, Bool.or_eq_false_iff] at hl
    rw [foreachKey, fieldHandler_of_not_fails lowerTo hl.1]
    exact ih hl.2 _

theorem baggageUpdate_comm {e₁ e₂ : Entry}
    (h : Strings.toLower lowerTo e₁.1 ≠ Strings.toLower lowerTo e₂.1) (m : StrMap) :
    baggageUpdate lowerTo e₂ (baggageUpdate lowerTo e₁ m) =
      baggageUpdate lowerTo e₁ (baggageUpdate lowerTo e₂ m) := by
  unfold baggageUpdate
  split_ifs with h₁ h₂
  · refine Finmap.insert_insert_of_ne _ fun ht => h ?_
    rw [Strings.eq_append_trimPrefix h₁.2, Strings.eq_append_trimPrefix h₂.2, ht]
  all_goals rfl

/-- **Entries whose keys differ after lower-casing commute.** -/
theorem fieldUpdate_comm {e₁ e₂ : Entry}
    (h : Strings.toLower lowerTo e₁.1 ≠ Strings.toLower lowerTo e₂.1) (d : Decoding) :
    fieldUpdate lowerTo e₂ (fieldUpdate lowerTo e₁ d) = fieldUpdate lowerTo e₁ (fieldUpdate lowerTo e₂ d) := by
  have hne : ∀ n, Strings.toLower lowerTo e₂.1 = n → ¬ Strings.toLower lowerTo e₁.1 = n :=
    fun n h₂ h₁ => h (h₁.trans h₂.symm)
  simp only [fieldUpdate, Decoding.mk.injEq]
  exact ⟨Int.add_right_comm _ _ _, ite_ite_comm _ _ _ _ (hne _), ite_ite_comm _ _ _ _ (hne _),
    ite_ite_comm _ _ _ _ (hne _), baggageUpdate_comm lowerTo h _⟩

/-- A variable that entries overwrite holds the value of the last entry that writes it. -/
theorem foldl_ite_eq_getLast {α β : Type} (p : α → Bool) (f : α → β) (t : β) (l : List α) :
    l.foldl (fun t e => if p e then f e else t) t = ((l.filter p).getLast?.map f).getD t := by
  induction l using List.reverseRecOn with
  | nil => rfl
  | append_singleton l e ih =>
    rw [List.foldl_append, ih, List.filter_append]
    by_cases he : p e = true
    · simp [he]
    · simp [he]

theorem foldl_fieldUpdate_traceID (l : List Entry) (d : Decoding) :
    (l.foldl (fun d e => fieldUpdate lowerTo e d) d).traceID =
      ((l.filter (fun e => Strings.toLower lowerTo e.1 = fieldNameTraceID)).getLast?.map
        (fun e => (Uuid.parse lowerTo e.2).1)).getD d.traceID := by
  rw [← foldl_ite_eq_getLast]
  exact (List.foldl_hom Decoding.traceID _ _ _ _ fun _ _ => by simp [fieldUpdate]).symm

theorem foldl_fieldUpdate_spanID (l : List Entry) (d : Decoding) :
    (l.foldl (fun d e => fieldUpdate lowerTo e d) d).spanID =
      ((l.filter (fun e => Strings.toLower lowerTo e.1 = fieldNameSpanID)).getLast?.map
        (fun e => UInt64.ofNat (Strconv.parseUint e.2 16 64).1)).getD d.spanID := by
  rw [← foldl_ite_eq_getLast]
  exact (List.foldl_hom Decoding.spanID _ _ _ _ fun _ _ => by simp [fieldUpdate]).symm

theorem foldl_fieldUpdate_sampled (l : List Entry) (d : Decoding) :
    (l.foldl (fun d e => fieldUpdate lowerTo e d) d).sampled =
      ((l.filter (fun e => Strings.toLower lowerTo e.1 = fieldNameSampled)).getLast?.map
        (fun e => (Strconv.parseBool e.2).1)).getD d.sampled := by
  rw [← foldl_ite_eq_getLast]
  exact (List.foldl_hom Decoding.sampled _ _ _ _ fun _ _ => by simp [fieldUpdate]).symm

/-- The counter after the second walk: one for each of the three fields read. -/
theorem foldl_fieldUpdate_count (l : List Entry) (d : Decoding) :
    (l.foldl (fun d e => fieldUpdate lowerTo e d) d).requiredFieldCount =
      d.requiredFieldCount + l.countP (isField lowerTo) := by
  induction l generalizing d with
  | nil => simp
  | cons e l ih =>
    rw [List.foldl_cons, ih, List.countP_cons]
    simp only [fieldUpdate]
    split_ifs <;> push_cast <;> omega

theorem foldl_fieldUpdate_baggage (l : List Entry) (d : Decoding) :
    (l.foldl (fun d e => fieldUpdate lowerTo e d) d).decodedBaggage =
      l.foldl (fun m e => baggageUpdate lowerTo e m) d.decodedBaggage :=
  (List.foldl_hom Decoding.decodedBaggage _ _ _ _ fun _ _ => rfl).symm

/-- The second handler stores the value of `e` in the decoded baggage under `k`. -/
def StoresAt (e : Entry) (k : Bytes) : Prop :=
  isField lowerTo e = false ∧ Strings.hasPrefix (Strings.toLower lowerTo e.1) prefixBaggage = true ∧
    Strings.trimPrefix (Strings.toLower lowerTo e.1) prefixBaggage = k

theorem mem_baggageUpdate (e : Entry) (m : StrMap) (k : Bytes) :
    k ∈ baggageUpdate lowerTo e m ↔ StoresAt lowerTo e k ∨ k ∈ m := by
  unfold baggageUpdate StoresAt
  split_ifs with h
  · simp [Finmap.mem_insert, h, eq_comm]
  · exact ⟨.inr, fun h' => h'.elim (fun hs => absurd ⟨hs.1, hs.2.1⟩ h) id⟩

theorem lookup_baggageUpdate {e : Entry} {m : StrMap} {k v : Bytes}
    (h : (baggageUpdate lowerTo e m).lookup k = some v) :
    StoresAt lowerTo e k ∧ e.2 = v ∨ m.lookup k = some v := by
  unfold baggageUpdate StoresAt at *
  split_ifs at h with hc
  · by_cases hk : k = Strings.trimPrefix (Strings.toLower lowerTo e.1) prefixBaggage
    · subst hk
      rw [Finmap.lookup_insert] at h
      exact .inl ⟨⟨hc.1, hc.2, rfl⟩, Option.some.inj h⟩
    · rw [Finmap.lookup_insert_of_ne _ hk] at h
      exact .inr h
  · exact .inr h

/-- A key of the decoded baggage is stored there by some entry of the walk. -/
theorem mem_foldl_baggageUpdate (l : List Entry) (m : StrMap) (k : Bytes) :
    k ∈ l.foldl (fun m e => baggageUpdate lowerTo e m) m ↔ (∃ e ∈ l, StoresAt lowerTo e k) ∨ k ∈ m := by
  induction l generalizing m with
  | nil => simp
  | cons e l ih =>
    rw [List.foldl_cons, ih, mem_baggageUpdate]
    simp only [List.mem_cons, or_and_right, exists_or, exists_eq_left, or_assoc, or_left_comm]

/-- A value of the decoded baggage is the value of an entry that stores it there. -/
theorem lookup_foldl_baggageUpdate {l : List Entry} {m : StrMap} {k v : Bytes}
    (h : (l.foldl (fun m e => baggageUpdate lowerTo e m) m).lookup k = some v) :
    (∃ e ∈ l, StoresAt lowerTo e k ∧ e.2 = v) ∨ m.lookup k = some v := by
  induction l generalizing m with
  | nil => exact .inr h
  | cons e l ih =>
    rcases ih h with ⟨e', he', hs⟩ | h'
    · exact .inl ⟨e', List.mem_cons_of_mem e he', hs⟩
    · rcases lookup_baggageUpdate lowerTo h' with hs | h''
      · exact .inl ⟨e, List.mem_cons_self e l, hs⟩
      · exact .inr h''

/-! ## `Extract`, walk by walk -/

/-- How `Extract` ends once the second walk has returned no error (lines 146-161). -/
def outcome (d : Decoding) : Except OTError SpanContext :=
  if d.requiredFieldCount < tracerStateFieldCount then
    if d.requiredFieldCount = 0 then .error .spanContextNotFound else .error .spanContextCorrupted
  else .ok ⟨d.traceID, d.spanID, d.sampled, d.decodedBaggage⟩

theorem outcome_eq_notFound_iff {d : Decoding} :
    outcome d = .error .spanContextNotFound ↔ d.requiredFieldCount = 0 := by
  unfold outcome tracerStateFieldCount
  split_ifs <;> simp_all
  omega

/-- **`Extract` is the first walk, then a failing entry or the fold of the second walk.** -/
theorem extract_eq (first second : List Entry) :
    extract lowerTo first second =
      if second.any (fieldFails lowerTo) then .error .spanContextCorrupted
      else outcome (second.foldl (fun d e => fieldUpdate lowerTo e d)
        (foreachKey (traceParentHandler lowerTo) Decoding.init first).1) := by
  simp only [extract]
  by_cases hf : second.any (fieldFails lowerTo) = true
  · have hsnd := foreachKey_fieldHandler_snd lowerTo
      (foreachKey (traceParentHandler lowerTo) Decoding.init first).1 second
    rw [if_pos hf] at hsnd ⊢
    generalize foreachKey (fieldHandler lowerTo) _ second = w at hsnd ⊢
    obtain ⟨d, _ | err⟩ := w
    · cases hsnd
    · cases hsnd
      rfl
  · rw [if_neg hf, foreachKey_fieldHandler lowerTo (Bool.eq_false_iff.2 hf)]
    rfl

/-! ## The case table

`unicode.ToLower` past ASCII is a parameter of the model.  `Extract` reads it only on the keys
and through `uuid.Parse`, which reads it only for a 45-byte value: on ASCII carriers it does not
matter (`extract_congr_of_ascii`). -/

theorem foreachKey_congr {h h' : Decoding → Bytes → Bytes → Decoding × Option OTError} :
    ∀ {l : List Entry}, (∀ e ∈ l, ∀ d, h d e.1 e.2 = h' d e.1 e.2) →
      ∀ d, foreachKey h d l = foreachKey h' d l
  | [], _, _ => rfl
  | e :: l, hl, d => by
    rw [foreachKey, foreachKey, hl e (List.mem_cons_self e l) d]
    rcases h' d e.1 e.2 with ⟨d', _ | err⟩
    · exact foreachKey_congr (fun e' he' => hl e' (List.mem_cons_of_mem e he')) d'
    · rfl

/-- The `traceparent` case parses the trace id only once it has 32 bytes. -/
theorem traceParentCase_congr (lowerTo' : Nat → Nat) (d : Decoding) (v : Bytes) :
    traceParentCase lowerTo d v = traceParentCase lowerTo' d v := by
  unfold traceParentCase
  by_cases h55 : v.length < 55
  · rw [if_pos h55, if_pos h55]
  rw [if_neg h55, if_neg h55]
  generalize Strings.split v 45 = ps
  rcases ps with _ | ⟨p0, _ | ⟨p1, _ | ⟨p2, _ | ⟨p3, rest⟩⟩⟩⟩ <;> try rfl
  dsimp only
  by_cases hc : p0 ≠ lit "00" ∨ p1.length ≠ 32 ∨ p2.length ≠ 16
  · rw [if_pos hc, if_pos hc]
  have h32 : p1.length = 32 := by omega
  rw [Uuid.parse_congr_of_length_ne lowerTo lowerTo' (by omega)]

theorem traceParentHandler_congr (lowerTo' : Nat → Nat) {k : Bytes} (hk : k.all isAscii = true)
    (d : Decoding) (v : Bytes) :
    traceParentHandler lowerTo d k v = traceParentHandler lowerTo' d k v := by
  simp only [traceParentHandler, Strings.toLower_congr_of_ascii lowerTo lowerTo' hk,
    traceParentCase_congr lowerTo lowerTo']

theorem fieldHandler_congr (lowerTo' : Nat → Nat) {k v : Bytes} (hk : k.all isAscii = true)
    (hv : v.all isAscii = true) (d : Decoding) :
    fieldHandler lowerTo d k v = fieldHandler lowerTo' d k v := by
  simp only [fieldHandler, fieldCase, Strings.toLower_congr_of_ascii lowerTo lowerTo' hk,
    Uuid.parse_congr_of_ascii lowerTo lowerTo' hv]

/-- **On ASCII carriers `Extract` does not depend on the case table.** -/
theorem extract_congr_of_ascii (lowerTo' : Nat → Nat) {first second : List Entry}
    (h₁ : ∀ e ∈ first, e.1.all isAscii = true)
    (h₂ : ∀ e ∈ second, e.1.all isAscii = true ∧ e.2.all isAscii = true) :
    extract lowerTo first second = extract lowerTo' first second := by
  simp only [extract,
    foreachKey_congr (fun e he d => traceParentHandler_congr lowerTo lowerTo' (h₁ e he) d e.2),
    foreachKey_congr (fun e he d => fieldHandler_congr lowerTo lowerTo' (h₂ e he).1 (h₂ e he).2 d)]

end TextMapPropagator
end ScopeAgent
