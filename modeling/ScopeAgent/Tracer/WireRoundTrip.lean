/-
# `Unmarshal` reads back what `Marshal` writes

Modelled from the spec, as `Tracer.Wire` is.  The payload `Marshal` writes is a run of
fields (`Field`): each `fixed64` field that is not zero, `sampled` when it is set, and one
`baggage_items` entry for each baggage item, in the order of the `range` over the map
(`marshal_eq_flatMap`).  One round of the `Unmarshal` loop reads one such field wherever it
stands and whatever follows it, and applies it to the state (`unmarshalLoop_field`); the
loop over a map entry reads its key and its value (`entryLoop_entryBody`).  By induction the
loop reads a whole run of fields in order (`unmarshalLoop_fields`).  The fields start from
`wire.TracerState{}`, a field left out is at its zero value, and the baggage items have
distinct keys, so `Unmarshal` gives back the state `Marshal` wrote (`unmarshal_marshal`)
whenever the payload is shorter than `2^63` bytes (a Go `int` holds its positions).
-/

import ScopeAgent.Tracer.Wire

namespace ScopeAgent
namespace Wire

open Proto

/-! ## Reading at a position -/

/-- What stands after `a`, when `a` stands at `i`. -/
theorem drop_add_length {d a rest : Bytes} {i : Nat} (h : d.drop i = a ++ rest) :
    d.drop (i + a.length) = rest := by
  rw [← List.drop_drop, h, List.drop_left]

theorem drop_add_one_of_cons {d rest : Bytes} {i : Nat} {b : UInt8} (h : d.drop i = b :: rest) :
    d.drop (i + 1) = rest :=
  drop_add_length (show d.drop i = [b] ++ rest from h)

theorem length_eq_of_drop {d r : Bytes} {i : Nat} (h : d.drop i = r) (hr : r ≠ []) :
    d.length = i + r.length := by
  have hl : r.length = d.length - i := h ▸ List.length_drop i d
  have hpos : 0 < r.length := List.length_pos.2 hr
  omega

/-- A tag byte below `0x80` is a varint of one byte. -/
theorem varintAt_tag {d rest : Bytes} {i : Nat} {b : UInt8} (h : d.drop i = b :: rest)
    (hb : b < 0x80) : varintAt d i = .ok (b.toNat, i + 1) := by
  have hb' : b.toNat < 128 := hb
  have hv : b.toNat * 2 ^ 0 % 2 ^ 64 = b.toNat := by
    rw [Nat.pow_zero, Nat.mul_one]
    exact Nat.mod_eq_of_lt (by omega)
  rw [varintAt, h, varintGo, if_neg (by omega), if_pos hb, hv]

/-- A varint reads back at any position. -/
theorem varintAt_of_drop {d rest : Bytes} {i v : Nat} (h : d.drop i = encodeVarint v ++ rest)
    (hv : v < 2 ^ 64) : varintAt d i = .ok (v, i + (encodeVarint v).length) := by
  have hg := varintGo_varintBytes rest v v 0 le_rfl (by rw [Nat.pow_zero, Nat.mul_one]; exact hv)
    (.inl rfl)
  rw [Nat.pow_zero, Nat.mul_one] at hg
  rw [varintAt, h, encodeVarint, hg]

/-! ## The fields `Marshal` writes -/

/-- One field `Marshal` writes. -/
inductive Field
  | traceIdHi (v : UInt64)
  | traceIdLo (v : UInt64)
  | spanId (v : UInt64)
  | sampled
  | baggageItem (e : Entry)

/-- The bytes of one field. -/
def Field.bytes : Field → Bytes
  | .traceIdHi v => 0x09 :: leBytes 8 v.toNat
  | .traceIdLo v => 0x11 :: leBytes 8 v.toNat
  | .spanId v => 0x19 :: leBytes 8 v.toNat
  | .sampled => [0x20, 0x01]
  | .baggageItem e => mapEntry e

/-- What reading a field does to the state: a `fixed64` field or `sampled` replaces the old
value, a map entry is inserted into `BaggageItems`. -/
def Field.apply : Field → TracerState → TracerState
  | .traceIdHi v, m => { m with traceIdHi := v }
  | .traceIdLo v, m => { m with traceIdLo := v }
  | .spanId v, m => { m with spanId := v }
  | .sampled, m => { m with sampled := true }
  | .baggageItem e, m => { m with baggageItems := m.baggageItems.insert e.1 e.2 }

/-- The fields `Marshal` writes for `m`, in order; `bag` is the order of the `range` over
the baggage. -/
def fields (m : TracerState) (bag : List Entry) : List Field :=
  (if m.traceIdHi ≠ 0 then [.traceIdHi m.traceIdHi] else []) ++
    (if m.traceIdLo ≠ 0 then [.traceIdLo m.traceIdLo] else []) ++
    (if m.spanId ≠ 0 then [.spanId m.spanId] else []) ++
    (if m.sampled then [.sampled] else []) ++ bag.map .baggageItem

theorem flatMap_ite_singleton (c : Prop) [Decidable c] (f : Field) :
    (if c then [f] else []).flatMap Field.bytes = if c then f.bytes else [] := by
  split_ifs <;> simp

theorem marshal_eq_flatMap (m : TracerState) (bag : List Entry) :
    marshal m bag = (fields m bag).flatMap Field.bytes := by
  simp only [marshal, fields, fixed64Field, List.flatMap_append, List.flatMap_map,
    flatMap_ite_singleton]
  rfl

theorem length_bytes_pos (f : Field) : 0 < f.bytes.length := by
  cases f <;> simp [Field.bytes, mapEntry]

theorem length_entryBody (e : Entry) :
    (entryBody e).length =
      (encodeVarint e.1.length).length + e.1.length + (encodeVarint e.2.length).length +
        e.2.length + 2 := by
  simp only [entryBody, List.length_append, List.length_cons]
  omega

/-! ## One round of the loop -/

/-- One round of the loop over a map entry on a length-delimited field numbered 1 (the key) or
2 (the value): its bytes replace the key or the value. -/
theorem entryLoop_lenField {d rest x : Bytes} {i post : Nat} {b : UInt8}
    (h : d.drop i = b :: (encodeVarint x.length ++ (x ++ rest))) (hb : b < 0x80)
    (hn : fieldNum b.toNat = 1 ∨ fieldNum b.toNat = 2) (hlen : d.length < 2 ^ 63)
    (hi : i < post) (fuel : Nat) (k v : Bytes) :
    entryLoop d post (fuel + 1) i k v =
      if fieldNum b.toNat = 1 then
        entryLoop d post fuel (i + 1 + (encodeVarint x.length).length + x.length) x v
      else entryLoop d post fuel (i + 1 + (encodeVarint x.length).length + x.length) k x := by
  have hd := length_eq_of_drop h (List.cons_ne_nil _ _)
  simp only [List.length_cons, List.length_append] at hd
  have h1 := drop_add_one_of_cons h
  rw [entryLoop, if_pos hi, varintAt_tag h hb]
  dsimp only
  rw [if_pos hn, varintAt_of_drop h1 (by omega)]
  dsimp only
  rw [if_neg (by omega), if_neg (by omega), drop_add_length h1, List.take_left' rfl]

/-- The loop over a map entry reads its key and then its value, and stops at its end. -/
theorem entryLoop_entryBody {d rest : Bytes} {j : Nat} (e : Entry)
    (h : d.drop j = entryBody e ++ rest) (hlen : d.length < 2 ^ 63) {fuel : Nat}
    (hfuel : 3 ≤ fuel) (k v : Bytes) :
    entryLoop d (j + (entryBody e).length) fuel j k v =
      .ok (j + (entryBody e).length, e.1, e.2) := by
  obtain ⟨fuel, rfl⟩ : ∃ f, fuel = f + 3 := ⟨fuel - 3, by omega⟩
  have hB := length_entryBody e
  have h0 : d.drop j = 0x0a :: (encodeVarint e.1.length ++ (e.1 ++ (0x12 ::
      (encodeVarint e.2.length ++ (e.2 ++ rest))))) := by
    rw [h]; simp only [entryBody, List.cons_append, List.append_assoc]
  have h2 := drop_add_length (drop_add_length (drop_add_one_of_cons h0))
  -- the key: tag `0x0a`, field 1
  rw [entryLoop_lenField h0 (by decide) (.inl (by decide)) hlen (by omega), if_pos (by decide)]
  -- the value: tag `0x12`, field 2
  rw [entryLoop_lenField h2 (by decide) (.inr (by decide)) hlen (by omega), if_neg (by decide)]
  -- the end of the entry
  rw [entryLoop, if_neg (by omega)]
  simp only [Except.ok.injEq, Prod.mk.injEq, and_true]
  omega

/-- One round of the loop on a `fixed64` field numbered 1 to 3. -/
theorem unmarshalLoop_fixed64 {d rest : Bytes} {i : Nat} {b : UInt8} {v : UInt64}
    (h : d.drop i = b :: (leBytes 8 v.toNat ++ rest)) (hb : b < 0x80) (hw : b.toNat % 8 = 1)
    (hn : fieldNum b.toNat = 1 ∨ fieldNum b.toNat = 2 ∨ fieldNum b.toNat = 3) (fuel : Nat)
    (m : TracerState) :
    unmarshalLoop d (fuel + 1) i m = unmarshalLoop d fuel (i + 9)
      (if fieldNum b.toNat = 1 then { m with traceIdHi := v }
        else if fieldNum b.toNat = 2 then { m with traceIdLo := v } else { m with spanId := v }) := by
  have hd := length_eq_of_drop h (List.cons_ne_nil _ _)
  simp only [List.length_cons, List.length_append, length_leBytes] at hd
  have hx : UInt64.ofNat (leValue (d.drop (i + 1))) = v := by
    have hv : v.toNat < 2 ^ 64 := v.toNat_lt_size
    rw [drop_add_one_of_cons h, leValue_leBytes, Nat.mod_eq_of_lt hv]
    exact UInt64.toNat.inj (UInt64.toNat_ofNat_of_lt v.toNat_lt_size)
  rw [unmarshalLoop, if_pos (by omega), varintAt_tag h hb]
  dsimp only
  rw [if_neg (by omega), if_neg (by omega), if_pos hn, if_neg (by omega), if_neg (by omega), hx]

/-- One round of the loop on the `sampled` field: tag `0x20` (field 4, wire type 0), then the
varint `1`. -/
theorem unmarshalLoop_sampled {d rest : Bytes} {i : Nat}
    (h : d.drop i = Field.sampled.bytes ++ rest) (fuel : Nat) (m : TracerState) :
    unmarshalLoop d (fuel + 1) i m =
      unmarshalLoop d fuel (i + Field.sampled.bytes.length) (Field.sampled.apply m) := by
  have h0 : d.drop i = 0x20 :: 0x01 :: rest := h
  have hd := length_eq_of_drop h0 (List.cons_ne_nil _ _)
  rw [unmarshalLoop, if_pos (by simp only [List.length_cons] at hd; omega),
    varintAt_tag h0 (by decide)]
  dsimp only
  rw [if_neg (by decide), if_neg (by decide), if_neg (by decide), if_pos (by decide),
    if_neg (by decide), varintAt_tag (drop_add_one_of_cons h0) (by decide)]
  rfl

/-- One round of the loop on a baggage entry: tag `0x2a` (field 5, wire type 2), then the
entry's length and the entry. -/
theorem unmarshalLoop_baggageItem {d rest : Bytes} {i : Nat} (e : Entry)
    (h : d.drop i = (Field.baggageItem e).bytes ++ rest) (hlen : d.length < 2 ^ 63) (fuel : Nat)
    (m : TracerState) :
    unmarshalLoop d (fuel + 1) i m = unmarshalLoop d fuel
      (i + (Field.baggageItem e).bytes.length) ((Field.baggageItem e).apply m) := by
  have h0 : d.drop i = 0x2a :: (encodeVarint (entryBody e).length ++ (entryBody e ++ rest)) := by
    rw [h]; simp only [Field.bytes, mapEntry, List.cons_append, List.append_assoc]
  have hd := length_eq_of_drop h0 (List.cons_ne_nil _ _)
  simp only [List.length_cons, List.length_append] at hd
  have h1 := drop_add_one_of_cons h0
  have hpos := length_varintBytes_pos (entryBody e).length (entryBody e).length
  have hf : i + (Field.baggageItem e).bytes.length =
      i + 1 + (encodeVarint (entryBody e).length).length + (entryBody e).length := by
    simp only [Field.bytes, mapEntry, List.length_cons, List.length_append]
    omega
  rw [unmarshalLoop, if_pos (by omega), varintAt_tag h0 (by decide)]
  dsimp only
  rw [if_neg (by decide), if_neg (by decide), if_neg (by decide), if_neg (by decide),
    if_pos (by decide), if_neg (by decide), varintAt_of_drop h1 (by omega)]
  dsimp only
  rw [if_neg (by omega), if_neg (by omega),
    entryLoop_entryBody e (drop_add_length h1) hlen (by rw [length_entryBody] at hd; omega), hf]
  rfl

/-- **One round of the loop reads one field**, wherever it stands and whatever follows it. -/
theorem unmarshalLoop_field {d rest : Bytes} {i : Nat} (f : Field)
    (h : d.drop i = f.bytes ++ rest) (hlen : d.length < 2 ^ 63) (fuel : Nat) (m : TracerState) :
    unmarshalLoop d (fuel + 1) i m = unmarshalLoop d fuel (i + f.bytes.length) (f.apply m) := by
  cases f with
  | traceIdHi v => exact unmarshalLoop_fixed64 h (by decide) (by decide) (by decide) fuel m
  | traceIdLo v => exact unmarshalLoop_fixed64 h (by decide) (by decide) (by decide) fuel m
  | spanId v => exact unmarshalLoop_fixed64 h (by decide) (by decide) (by decide) fuel m
  | sampled => exact unmarshalLoop_sampled h fuel m
  | baggageItem e => exact unmarshalLoop_baggageItem e h hlen fuel m

/-! ## The whole payload -/

/-- **The loop reads a run of fields in order**, one round each. -/
theorem unmarshalLoop_fields {d rest : Bytes} (hlen : d.length < 2 ^ 63) (fuel : Nat) :
    ∀ (fs : List Field) (i : Nat) (m : TracerState), d.drop i = fs.flatMap Field.bytes ++ rest →
      unmarshalLoop d (fuel + fs.length) i m =
        unmarshalLoop d fuel (i + (fs.flatMap Field.bytes).length)
          (fs.foldl (fun m f => f.apply m) m)
  | [], _, _, _ => rfl
  | f :: fs, i, m, h => by
    rw [List.flatMap_cons, List.append_assoc] at h
    rw [show fuel + (f :: fs).length = fuel + fs.length + 1 from rfl,
      unmarshalLoop_field f h hlen, unmarshalLoop_fields hlen fuel fs _ _ (drop_add_length h),
      List.flatMap_cons, List.length_append, Nat.add_assoc, List.foldl_cons]

theorem foldl_apply_baggageItem (bag : List Entry) (s : TracerState) :
    (bag.map Field.baggageItem).foldl (fun m f => f.apply m) s =
      { s with baggageItems := bag.foldl (fun c e => c.insert e.1 e.2) s.baggageItems } := by
  induction bag generalizing s with
  | nil => rfl
  | cons e bag ih => exact ih _

/-- Reading the fields `Marshal` writes into `wire.TracerState{}` gives back the state. -/
theorem foldl_apply_fields (m : TracerState) {bag : List Entry}
    (hbag : Enumerates bag m.baggageItems) :
    (fields m bag).foldl (fun m f => f.apply m) TracerState.empty = m := by
  obtain ⟨hi, lo, sp, sa, bi⟩ := m
  simp only [fields, List.foldl_append, foldl_apply_baggageItem]
  split_ifs <;> simp_all [Field.apply, TracerState.empty, hbag.foldl_insert]

theorem length_fields_le (m : TracerState) (bag : List Entry) :
    (fields m bag).length ≤ (marshal m bag).length := by
  rw [marshal_eq_flatMap]
  induction fields m bag with
  | nil => exact le_rfl
  | cons f fs ih =>
    rw [List.flatMap_cons, List.length_append, List.length_cons]
    have := length_bytes_pos f
    omega

/-- **`Unmarshal` reads back what `Marshal` writes**, for every state and every order of its
baggage, when the payload is shorter than `2^63` bytes. -/
theorem unmarshal_marshal (m : TracerState) {bag : List Entry}
    (hbag : Enumerates bag m.baggageItems) (hlen : (marshal m bag).length < 2 ^ 63) :
    unmarshal (marshal m bag) = .ok m := by
  have h : (marshal m bag).drop 0 = (fields m bag).flatMap Field.bytes ++ [] := by
    rw [List.drop_zero, List.append_nil, marshal_eq_flatMap]
  have hn := length_fields_le m bag
  rw [unmarshal, show (marshal m bag).length + 1 =
      (marshal m bag).length - (fields m bag).length + 1 + (fields m bag).length by omega,
    unmarshalLoop_fields hlen _ _ 0 _ h, ← marshal_eq_flatMap, Nat.zero_add, unmarshalLoop,
    if_neg (Nat.lt_irrefl _), if_neg (Nat.lt_irrefl _), foldl_apply_fields m hbag]

end Wire
end ScopeAgent
