/-
# Go strings as bytes

A Go `string` is an immutable sequence of bytes, and `len(s)` counts bytes, so the model
writes strings as `List UInt8`.  String literals of the source are written `lit "..."`,
their UTF-8 encoding.  This file holds the byte-level pieces of package `strings` that the
propagators and the HTTP instrumentation call: `IndexByte`, `HasPrefix`, `TrimPrefix`,
`Split` on a one-byte separator and `Replace` of a one-byte string by nothing, and the ASCII
half of `strings.ToLower` (`lowerByte`).  The Unicode half is in `ScopeAgent.Go.Unicode`.

A fact about single bytes is proved once for all 256 of them: `forall_byte` reduces it to a
bounded statement about natural numbers that `decide` checks.
-/

import Mathlib.Data.List.Basic

namespace ScopeAgent

/-- A Go `string`: its bytes. -/
abbrev Bytes := List UInt8

/-- A string literal of the source, as the bytes of its UTF-8 encoding. -/
def lit (s : String) : Bytes := s.data.flatMap String.utf8EncodeChar

/-- A property of every byte follows from the property of `UInt8.ofNat n`, `n < 256`. -/
theorem forall_byte {P : UInt8 → Prop} (h : ∀ n < 256, P (UInt8.ofNat n)) (c : UInt8) : P c := by
  have hc : UInt8.ofNat c.toNat = c := UInt8.toNat.inj (UInt8.toNat_ofNat_of_lt c.toNat_lt_size)
  exact hc ▸ h c.toNat c.toNat_lt_size

/-- An ASCII byte, `c < utf8.RuneSelf`. -/
def isAscii (c : UInt8) : Bool := c < 0x80

/-- `'A' <= c && c <= 'Z'`. -/
def isUpperAscii (c : UInt8) : Bool := 65 ≤ c && c ≤ 90

/-- The ASCII branch of `strings.ToLower`: `c += 'a' - 'A'` on upper-case letters. -/
def lowerByte (c : UInt8) : UInt8 := if isUpperAscii c then c + 32 else c

/-- `lowerByte` keeps every byte that is not an upper-case letter. -/
theorem lowerByte_of_not_upper {c : UInt8} (h : isUpperAscii c = false) : lowerByte c = c := by
  simp [lowerByte, h]

namespace Strings

/-- `strings.IndexByte(s, c)`: the index of the first `c` in `s`, `none` for `-1`. -/
def indexByte (s : Bytes) (c : UInt8) : Option Nat := s.findIdx? (· == c)

/-- `strings.HasPrefix(s, prefix)`. -/
def hasPrefix (s pre : Bytes) : Bool := pre.isPrefixOf s

/-- `strings.TrimPrefix(s, prefix)`. -/
def trimPrefix (s pre : Bytes) : Bytes := if hasPrefix s pre then s.drop pre.length else s

/-- `strings.Split(s, sep)` for a one-byte `sep`: every piece between two separators, the
empty ones included. -/
def split (s : Bytes) (sep : UInt8) : List Bytes := s.splitOn sep

/-- `strings.Replace(s, old, "", -1)` for a one-byte `old`: every `old` removed. -/
def removeAll (s : Bytes) (old : UInt8) : Bytes := s.filter (· != old)

@[simp] theorem hasPrefix_append (pre s : Bytes) : hasPrefix (pre ++ s) pre = true := by
  simp [hasPrefix, List.isPrefixOf_iff_prefix]

@[simp] theorem trimPrefix_append (pre s : Bytes) : trimPrefix (pre ++ s) pre = s := by
  simp [trimPrefix]

/-- `IndexByte` finds the first `c`. -/
theorem indexByte_append_cons {a : Bytes} {c : UInt8} (h : c ∉ a) (b : Bytes) :
    indexByte (a ++ c :: b) c = some a.length := by
  simp only [indexByte, List.findIdx?_append, List.findIdx?_cons, beq_self_eq_true, if_true,
    Option.map_some']
  have hnone : ∀ x ∈ a, (x == c) = false := fun x hx => by
    simpa using fun hxc : x = c => h (hxc ▸ hx)
  rw [List.findIdx?_eq_none_iff.2 hnone, Nat.zero_add]
  rfl

/-- `IndexByte` finds `c` in a string that has one. -/
theorem isSome_indexByte {s : Bytes} {c : UInt8} : (indexByte s c).isSome = true ↔ c ∈ s := by
  simp [indexByte, List.findIdx?_isSome, List.any_eq_true]

/-- A string that has `c` is what stands before its first `c`, the `c`, and the rest. -/
theorem exists_eq_append_cons {s : Bytes} {c : UInt8} (h : c ∈ s) :
    ∃ t u, s = t ++ c :: u ∧ c ∉ t := by
  induction s with
  | nil => exact absurd h (List.not_mem_nil _)
  | cons x s ih =>
    by_cases hx : x = c
    · exact ⟨[], s, by rw [hx]; rfl, List.not_mem_nil _⟩
    · obtain ⟨t, u, rfl, ht⟩ := ih ((List.mem_cons.1 h).resolve_left (Ne.symm hx))
      exact ⟨x :: t, u, rfl, by simp [Ne.symm hx, ht]⟩

/-- `Split` of a string without the separator is the string alone. -/
theorem split_of_not_mem {s : Bytes} {c : UInt8} (h : c ∉ s) : split s c = [s] :=
  List.splitOnP_eq_single (· == c) _ fun x hx => by simpa using fun hxc : x = c => h (hxc ▸ hx)

/-- `Split` cuts at the first separator, then splits the rest. -/
theorem split_append_cons {a : Bytes} {c : UInt8} (h : c ∉ a) (b : Bytes) :
    split (a ++ c :: b) c = a :: split b c :=
  List.splitOnP_first (· == c) _ (fun x hx => by simpa using fun hxc : x = c => h (hxc ▸ hx))
    c (beq_self_eq_true c) b

/-- The first piece of `Split` does not look past the first separator. -/
theorem head?_split_append_cons (a : Bytes) (c : UInt8) (b : Bytes) :
    (split (a ++ c :: b) c).head? = (split a c).head? := by
  by_cases ha : c ∈ a
  · obtain ⟨t, u, rfl, ht⟩ := exists_eq_append_cons ha
    rw [List.append_assoc, List.cons_append, split_append_cons ht, split_append_cons ht]
    rfl
  · rw [split_append_cons ha, split_of_not_mem ha]
    rfl

/-- **The second piece of `Split(p + sep + f, sep)`**, for an `f` without the separator: `f`
when `p` has no separator, the second piece of `p` when it has one. -/
theorem split_append_cons_getElem?_one {p f : Bytes} {c : UInt8} (hf : c ∉ f) :
    (split (p ++ c :: f) c)[1]? = if c ∈ p then (split p c)[1]? else some f := by
  split_ifs with hp
  · obtain ⟨t, u, rfl, ht⟩ := exists_eq_append_cons hp
    rw [List.append_assoc, List.cons_append, split_append_cons ht, split_append_cons ht,
      List.getElem?_cons_succ, List.getElem?_cons_succ, ← List.head?_eq_getElem?,
      ← List.head?_eq_getElem?, head?_split_append_cons]
  · rw [split_append_cons hp, split_of_not_mem hf]
    rfl

/-- A string with the separator in it splits into two pieces at least. -/
theorem getElem?_one_split_of_mem {s : Bytes} {c : UInt8} (h : c ∈ s) :
    (split s c)[1]? = some ((split s c).getD 1 []) := by
  obtain ⟨t, u, rfl, ht⟩ := exists_eq_append_cons h
  rw [split_append_cons ht]
  cases hu : split u c with
  | nil => exact absurd hu (List.splitOnP_ne_nil _ _)
  | cons v vs => simp

/-- A string with `pre` as a prefix is `pre` followed by what `TrimPrefix` leaves. -/
theorem eq_append_trimPrefix {s pre : Bytes} (h : hasPrefix s pre = true) :
    s = pre ++ trimPrefix s pre := by
  rw [hasPrefix, List.isPrefixOf_iff_prefix] at h
  obtain ⟨t, rfl⟩ := h
  simp

end Strings

end ScopeAgent
