/-
# `strings.ToLower` on arbitrary bytes

`strings.ToLower(s)` lowers ASCII strings byte by byte and hands any other string to
`strings.Map(unicode.ToLower, s)`, which decodes `s` rune by rune
(`utf8.DecodeRuneInString`, an invalid byte decoding as `RuneError` of width 1) and writes
every mapped rune back (`utf8.EncodeRune`, a surrogate or out-of-range rune written as
`RuneError`).  A rune that `strings.Map` leaves unchanged is copied, which is the same bytes
as writing it again: the decoder accepts only shortest-form encodings.

`unicode.ToLower` lowers ASCII runes itself and looks every other rune up in
`unicode.CaseRanges`.  That table is not modelled: it is the parameter `lowerTo`, and every
result of the project holds for every table.

The lemma the propagator proofs use is `toLower_append`: an ASCII prefix is lowered byte by
byte whatever follows it, so `ToLower("ot-baggage-" + k)` is `"ot-baggage-" + ToLower(k)`.
-/

import ScopeAgent.Go.Bytes

namespace ScopeAgent

namespace Utf8

/-- `utf8.RuneError`, `U+FFFD`. -/
def runeError : Nat := 0xFFFD

/-- The `first` and `acceptRanges` tables of `unicode/utf8`: for the leading byte of a
multi-byte sequence, its width and the range its second byte must lie in. -/
def leading (b : UInt8) : Option (Nat × UInt8 × UInt8) :=
  if 0xC2 ≤ b ∧ b ≤ 0xDF then some (2, 0x80, 0xBF)
  else if b = 0xE0 then some (3, 0xA0, 0xBF)
  else if 0xE1 ≤ b ∧ b ≤ 0xEC then some (3, 0x80, 0xBF)
  else if b = 0xED then some (3, 0x80, 0x9F)
  else if 0xEE ≤ b ∧ b ≤ 0xEF then some (3, 0x80, 0xBF)
  else if b = 0xF0 then some (4, 0x90, 0xBF)
  else if 0xF1 ≤ b ∧ b ≤ 0xF3 then some (4, 0x80, 0xBF)
  else if b = 0xF4 then some (4, 0x80, 0x8F)
  else none

/-- A continuation byte, `locb <= b && b <= hicb`. -/
def isCont (b : UInt8) : Bool := 0x80 ≤ b && b ≤ 0xBF

/-- `utf8.DecodeRuneInString(s)`: the first rune of `s` and its width in bytes. -/
def decodeRune : Bytes → Nat × Nat
  | [] => (runeError, 0)
  | b0 :: s =>
    if b0 < 0x80 then (b0.toNat, 1) else
    match leading b0, s with
    | some (2, lo, hi), b1 :: _ =>
      if lo ≤ b1 ∧ b1 ≤ hi then (((b0.toNat &&& 0x1F) <<< 6) ||| (b1.toNat &&& 0x3F), 2)
      else (runeError, 1)
    | some (3, lo, hi), b1 :: b2 :: _ =>
      if lo ≤ b1 ∧ b1 ≤ hi ∧ isCont b2 then
        (((b0.toNat &&& 0x0F) <<< 12) ||| ((b1.toNat &&& 0x3F) <<< 6) ||| (b2.toNat &&& 0x3F), 3)
      else (runeError, 1)
    | some (4, lo, hi), b1 :: b2 :: b3 :: _ =>
      if lo ≤ b1 ∧ b1 ≤ hi ∧ isCont b2 ∧ isCont b3 then
        (((b0.toNat &&& 0x07) <<< 18) ||| ((b1.toNat &&& 0x3F) <<< 12) |||
          ((b2.toNat &&& 0x3F) <<< 6) ||| (b3.toNat &&& 0x3F), 4)
      else (runeError, 1)
    | _, _ => (runeError, 1)

theorem decodeRune_width_pos (b : UInt8) (s : Bytes) : 0 < (decodeRune (b :: s)).2 := by
  simp only [decodeRune]
  split_ifs
  · exact Nat.one_pos
  · split <;> (try split_ifs) <;> simp

/-- An ASCII byte decodes as itself. -/
theorem decodeRune_ascii {b : UInt8} (h : isAscii b = true) (s : Bytes) :
    decodeRune (b :: s) = (b.toNat, 1) := by
  simp only [isAscii, decide_eq_true_eq] at h
  simp [decodeRune, h]

/-- The runes of `s`, as `for _, r := range s` visits them. -/
def runes : Bytes → List Nat
  | [] => []
  | b :: t =>
    have := decodeRune_width_pos b t
    (decodeRune (b :: t)).1 :: runes ((b :: t).drop (decodeRune (b :: t)).2)
termination_by s => s.length
decreasing_by simp only [List.length_drop, List.length_cons]; omega

theorem runes_ascii_cons {b : UInt8} (h : isAscii b = true) (s : Bytes) :
    runes (b :: s) = b.toNat :: runes s := by
  rw [runes, decodeRune_ascii h]
  rfl

/-- The runes of an ASCII prefix are its bytes. -/
theorem runes_ascii_append {p : Bytes} (h : p.all isAscii = true) (s : Bytes) :
    runes (p ++ s) = p.map UInt8.toNat ++ runes s := by
  induction p with
  | nil => rfl
  | cons b p ih =>
    simp only [List.all_cons, Bool.and_eq_true] at h
    rw [List.cons_append, runes_ascii_cons h.1, ih h.2]
    rfl

/-- `utf8.EncodeRune`, as `strings.Builder.WriteRune` calls it. -/
def encodeRune (r : Nat) : Bytes :=
  if r ≤ 0x7F then [r.toUInt8]
  else if r ≤ 0x7FF then [(0xC0 ||| (r >>> 6)).toUInt8, (0x80 ||| (r &&& 0x3F)).toUInt8]
  else if 0x10FFFF < r ∨ (0xD800 ≤ r ∧ r ≤ 0xDFFF) then [0xEF, 0xBF, 0xBD]
  else if r ≤ 0xFFFF then
    [(0xE0 ||| (r >>> 12)).toUInt8, (0x80 ||| ((r >>> 6) &&& 0x3F)).toUInt8,
      (0x80 ||| (r &&& 0x3F)).toUInt8]
  else
    [(0xF0 ||| (r >>> 18)).toUInt8, (0x80 ||| ((r >>> 12) &&& 0x3F)).toUInt8,
      (0x80 ||| ((r >>> 6) &&& 0x3F)).toUInt8, (0x80 ||| (r &&& 0x3F)).toUInt8]

end Utf8

namespace Unicode

variable (lowerTo : Nat → Nat)

/-- `unicode.ToLower(r)`: ASCII letters directly, any other rune through the case table. -/
def toLower (r : Nat) : Nat :=
  if r ≤ 0x7F then (if 65 ≤ r ∧ r ≤ 90 then r + 32 else r) else lowerTo r

set_option maxRecDepth 4000 in
/-- Lowering the rune of an ASCII byte and encoding it again is `lowerByte`. -/
theorem encodeRune_toLower_ascii :
    ∀ b : UInt8, isAscii b = true → Utf8.encodeRune (toLower lowerTo b.toNat) = [lowerByte b] := by
  have key : ∀ b : UInt8, isAscii b = true →
      Utf8.encodeRune (if 65 ≤ b.toNat ∧ b.toNat ≤ 90 then b.toNat + 32 else b.toNat) =
        [lowerByte b] := forall_byte (by decide)
  intro b hb
  have hle : b.toNat ≤ 0x7F := by
    simp only [isAscii, decide_eq_true_eq] at hb
    exact Nat.le_of_lt_succ hb
  rw [toLower, if_pos hle]
  exact key b hb

end Unicode

namespace Strings

variable (lowerTo : Nat → Nat)

/-- `strings.Map(mapping, s)`: every rune of `s` written as `mapping` sends it. -/
def map (mapping : Nat → Nat) (s : Bytes) : Bytes :=
  (Utf8.runes s).flatMap fun r => Utf8.encodeRune (mapping r)

/-- `strings.ToLower(s)`: byte by byte on ASCII strings, `Map(unicode.ToLower, s)` on
the others. -/
def toLower (s : Bytes) : Bytes :=
  if s.all isAscii then (if s.any isUpperAscii then s.map lowerByte else s)
  else map (Unicode.toLower lowerTo) s

/-- On an ASCII string `strings.ToLower` is `lowerByte` on every byte. -/
theorem toLower_of_ascii {s : Bytes} (h : s.all isAscii = true) :
    toLower lowerTo s = s.map lowerByte := by
  rw [toLower, if_pos h]
  split
  · rfl
  · rename_i hu
    simp only [List.any_eq_true, not_exists, not_and, Bool.not_eq_true] at hu
    conv_lhs => rw [← List.map_id s]
    exact (List.map_congr_left fun c hc => (lowerByte_of_not_upper (hu c hc)).symm)

/-- **The case table is not read on ASCII strings.** -/
theorem toLower_congr_of_ascii (lowerTo' : Nat → Nat) {s : Bytes} (h : s.all isAscii = true) :
    toLower lowerTo s = toLower lowerTo' s := by
  rw [toLower_of_ascii lowerTo h, toLower_of_ascii lowerTo' h]

/-- `strings.Map(unicode.ToLower, ·)` on ASCII bytes is `lowerByte` on each. -/
theorem flatMap_encodeRune_toLower {p : Bytes} (hp : p.all isAscii = true) :
    (p.map UInt8.toNat).flatMap (fun r => Utf8.encodeRune (Unicode.toLower lowerTo r)) =
      p.map lowerByte := by
  induction p with
  | nil => rfl
  | cons b p ih =>
    simp only [List.all_cons, Bool.and_eq_true] at hp
    rw [List.map_cons, List.flatMap_cons, List.map_cons,
      Unicode.encodeRune_toLower_ascii lowerTo b hp.1, ih hp.2]
    rfl

/-- **An ASCII prefix is lowered byte by byte**, whatever bytes follow it. -/
theorem toLower_append {p : Bytes} (hp : p.all isAscii = true) (s : Bytes) :
    toLower lowerTo (p ++ s) = p.map lowerByte ++ toLower lowerTo s := by
  by_cases hs : s.all isAscii = true
  · rw [toLower_of_ascii lowerTo (by simp [hp, hs]), toLower_of_ascii lowerTo hs, List.map_append]
  · have hps : (p ++ s).all isAscii = false := by simp [hs]
    rw [toLower, if_neg (by simp [hps]), toLower, if_neg hs, map, map,
      Utf8.runes_ascii_append hp, List.flatMap_append, flatMap_encodeRune_toLower lowerTo hp]

end Strings

end ScopeAgent
