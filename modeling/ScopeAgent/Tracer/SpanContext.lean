/-
# Span contexts, Go maps and the `opentracing` errors

`tracer.SpanContext` is `{TraceID uuid.UUID; SpanID uint64; Sampled bool; Baggage
map[string]string}`.  A Go `map[string]string` has no order: it is a finite map
(`Finmap`), and two maps are equal when they hold the same keys with the same values.  A
`range` over a map, and `TextMapCarrier.ForeachKey`, visit its entries in an order the
runtime picks anew each time: any list whose multiset of entries is the map's
(`Enumerates`).  Every theorem about a carrier below quantifies over such lists.

Of `opentracing-go`'s errors the propagators' `Extract` methods return two,
`ErrSpanContextNotFound` and `ErrSpanContextCorrupted`.
-/

import ScopeAgent.Go.Uuid
import Mathlib.Data.Finmap

namespace ScopeAgent

/-- A Go `map[string]string`. -/
abbrev StrMap := Finmap fun _ : Bytes => Bytes

/-- One key/value pair of a map or a carrier, as `ForeachKey` hands it to its handler. -/
abbrev Entry := Σ _ : Bytes, Bytes

/-- `l` is the order in which one `range` over `m` visits its entries. -/
def Enumerates (l : List Entry) (m : StrMap) : Prop := (l : Multiset Entry) = m.entries

theorem Enumerates.perm {l l' : List Entry} {m : StrMap} (h : Enumerates l m)
    (h' : Enumerates l' m) : l.Perm l' :=
  Quotient.exact (h.trans h'.symm)

/-- An entry is visited exactly when the map holds its value under its key. -/
theorem Enumerates.mem_iff {l : List Entry} {m : StrMap} (h : Enumerates l m) {e : Entry} :
    e ∈ l ↔ m.lookup e.1 = some e.2 := by
  rw [Finmap.lookup_eq_some_iff, ← h, Multiset.mem_coe]

/-- The map holding the entries of `l`, whose keys are distinct. -/
def StrMap.ofEntries (l : List Entry) (h : l.NodupKeys) : StrMap :=
  ⟨l, Multiset.coe_nodupKeys.2 h⟩

theorem StrMap.mem_ofEntries {l : List Entry} {h : l.NodupKeys} {k : Bytes} :
    k ∈ StrMap.ofEntries l h ↔ k ∈ l.keys :=
  Iff.rfl

/-- Every order of the entries of `l` enumerates the map they make. -/
theorem StrMap.enumerates_ofEntries {l l' : List Entry} (h : l.NodupKeys) (hp : l'.Perm l) :
    Enumerates l' (StrMap.ofEntries l h) :=
  Multiset.coe_eq_coe.2 hp

/-- The entries of a map, in one order a `range` may visit them. -/
theorem exists_enumerates (m : StrMap) : ∃ l, Enumerates l m := by
  obtain ⟨l, hl⟩ := Quot.exists_rep m.entries
  exact ⟨l, hl⟩

/-- A `range` visits each key once. -/
theorem Enumerates.nodupKeys {l : List Entry} {m : StrMap} (h : Enumerates l m) :
    l.NodupKeys := by
  rw [← Multiset.coe_nodupKeys, show (l : Multiset Entry) = m.entries from h]
  exact m.nodupKeys

/-- Inserting entries of distinct keys, none of them in `m`, one after the other adds one
entry each. -/
theorem StrMap.entries_foldl_insert {l : List Entry} (hl : l.NodupKeys) {m : StrMap}
    (hm : ∀ e ∈ l, e.1 ∉ m) :
    (l.foldl (fun c e => c.insert e.1 e.2) m).entries = m.entries + ↑l := by
  induction l generalizing m with
  | nil => simp
  | cons e l ih =>
    rw [List.nodupKeys_cons] at hl
    rw [List.foldl_cons, ih hl.2, Finmap.insert_entries_of_neg (hm e (List.mem_cons_self e l)),
      ← Multiset.cons_coe, Multiset.add_cons, Multiset.cons_add]
    intro e' he' hmem
    rcases Finmap.mem_insert.1 hmem with h | h
    · exact hl.1 (h ▸ List.mem_keys_of_mem he')
    · exact hm e' (List.mem_cons_of_mem e he') h

/-- Inserting the entries of a `range` over `m` into an empty map, in that order, gives
back `m`. -/
theorem Enumerates.foldl_insert {l : List Entry} {m : StrMap} (h : Enumerates l m) :
    l.foldl (fun c e => c.insert e.1 e.2) ∅ = m := by
  refine Finmap.ext ?_
  rw [StrMap.entries_foldl_insert h.nodupKeys (fun _ _ => Finmap.not_mem_empty)]
  exact (zero_add _).trans h

/-- `tracer.SpanContext`. -/
structure SpanContext where
  traceID : Uuid.UUID
  spanID : UInt64
  sampled : Bool
  baggage : StrMap
  deriving DecidableEq

/-- The errors of `opentracing-go` that `Extract` returns. -/
inductive OTError
  /-- `opentracing.ErrSpanContextNotFound` -/
  | spanContextNotFound
  /-- `opentracing.ErrSpanContextCorrupted` -/
  | spanContextCorrupted
  deriving DecidableEq, Repr

/-- What `Extract` returns, compared by value. -/
instance instDecidableEqExcept {ε α : Type} [DecidableEq ε] [DecidableEq α] :
    DecidableEq (Except ε α)
  | .error x, .error y =>
    if h : x = y then isTrue (h ▸ rfl) else isFalse fun e => h (Except.error.inj e)
  | .ok x, .ok y => if h : x = y then isTrue (h ▸ rfl) else isFalse fun e => h (Except.ok.inj e)
  | .error _, .ok _ => isFalse nofun
  | .ok _, .error _ => isFalse nofun

end ScopeAgent
