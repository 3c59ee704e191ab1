/-
# `github.com/google/uuid` v1.1.1: `UUID`, `String`, `Parse`

A `uuid.UUID` is a `[16]byte`, here a list of sixteen bytes that carries its length.
`String()` writes it as `xxxxxxxx-xxxx-xxxx-xxxx-xxxxxxxxxxxx` with `hex.Encode` (lower-case
digits); the text propagator strips the dashes.  `Parse(s)` accepts four lengths: 36 (the
dashed form), 45 (`urn:uuid:` and the dashed form, the prefix compared after
`strings.ToLower`), 38 (one byte, then the dashed form: the braces are not checked) and 32
(the sixteen hex pairs alone).  It fills the UUID pair by pair and returns what it has filled
when a pair is not hex: in the 32-digit form the bad pair's byte is written first
(`uuid[i], ok = xtob(...)`), in the dashed form it is not.  The error text is not modelled:
callers only test it against `nil`.

`parse_hexEncode` is the round trip of the text propagator: the 32 digits of `hex.Encode`
parse back to the UUID they came from.
-/

import ScopeAgent.Go.Unicode

namespace ScopeAgent
namespace Uuid

/-- `uuid.UUID`: sixteen bytes. -/
structure UUID where
  bytes : List UInt8
  length_bytes : bytes.length = 16
  deriving DecidableEq

/-- `uuid.Nil`, the zero UUID. -/
def nil : UUID := ⟨List.replicate 16 0, rfl⟩

/-- The UUID a parse returns after writing the bytes `l`: the rest of the array is zero. -/
def ofPrefix (l : List UInt8) : UUID :=
  ⟨(l ++ List.replicate 16 0).take 16, by simp⟩

theorem ofPrefix_bytes (u : UUID) : ofPrefix u.bytes = u := by
  have h := u.length_bytes
  cases u
  simp only [ofPrefix, UUID.mk.injEq]
  rw [List.take_append_of_le_length (by simp_all)]
  exact List.take_of_length_le (by simp_all)

/-- `"0123456789abcdef"[d]` for a nibble `d`. -/
def hexDigit (d : UInt8) : UInt8 := if d < 10 then 48 + d else 87 + d

/-- `hex.Encode`: two lower-case digits per byte, the high nibble first. -/
def hexEncode (l : List UInt8) : Bytes :=
  l.flatMap fun b => [hexDigit (b >>> 4), hexDigit (b &&& 0x0F)]

/-- `UUID.String()`, through `encodeHex`. -/
def UUID.toString (u : UUID) : Bytes :=
  hexEncode (u.bytes.take 4) ++ [45] ++ hexEncode ((u.bytes.drop 4).take 2) ++ [45] ++
    hexEncode ((u.bytes.drop 6).take 2) ++ [45] ++ hexEncode ((u.bytes.drop 8).take 2) ++ [45] ++
    hexEncode (u.bytes.drop 10)

/-- `xvalues[c]`: the value of a hex digit of either case, 255 for any other byte. -/
def xvalue (c : UInt8) : UInt8 :=
  if 48 ≤ c ∧ c ≤ 57 then c - 48
  else if 97 ≤ c ∧ c ≤ 102 then c - 87
  else if 65 ≤ c ∧ c ≤ 70 then c - 55
  else 255

/-- `xtob(x1, x2)`: the byte of a hex pair, and whether both are hex digits. -/
def xtob (x1 x2 : UInt8) : UInt8 × Bool :=
  ((xvalue x1 <<< 4) ||| xvalue x2, xvalue x1 != 255 && xvalue x2 != 255)

/-- The 32-digit branch of `Parse`: `uuid[i], ok = xtob(s[i*2], s[i*2+1])`, returning at
the first pair that is not hex, with its byte written. -/
def parseCompact : Bytes → List UInt8 × Bool
  | a :: b :: rest =>
    if (xtob a b).2 then ((xtob a b).1 :: (parseCompact rest).1, (parseCompact rest).2)
    else ([(xtob a b).1], false)
  | _ => ([], true)

/-- Where the sixteen hex pairs of the dashed form start. -/
def dashedOffsets : List Nat := [0, 2, 4, 6, 9, 11, 14, 16, 19, 21, 24, 26, 28, 30, 32, 34]

/-- The loop over `dashedOffsets`: `v, ok := xtob(s[x], s[x+1])`, returning at the first pair
that is not hex, without writing it. -/
def parseDashedAt (s : Bytes) : List Nat → List UInt8 × Bool
  | [] => ([], true)
  | x :: xs =>
    if (xtob (s.getD x 0) (s.getD (x + 1) 0)).2 then
      ((xtob (s.getD x 0) (s.getD (x + 1) 0)).1 :: (parseDashedAt s xs).1, (parseDashedAt s xs).2)
    else ([], false)

/-- The dashed form `xxxxxxxx-xxxx-xxxx-xxxx-xxxxxxxxxxxx`, at least 36 bytes. -/
def parseDashed (s : Bytes) : UUID × Bool :=
  if s.getD 8 0 ≠ 45 ∨ s.getD 13 0 ≠ 45 ∨ s.getD 18 0 ≠ 45 ∨ s.getD 23 0 ≠ 45 then (nil, false)
  else (ofPrefix (parseDashedAt s dashedOffsets).1, (parseDashedAt s dashedOffsets).2)

variable (lowerTo : Nat → Nat)

/-- `uuid.Parse(s)`: the UUID, and whether the error is `nil`. -/
def parse (s : Bytes) : UUID × Bool :=
  if s.length = 36 then parseDashed s
  else if s.length = 45 then
    if Strings.toLower lowerTo (s.take 9) ≠ lit "urn:uuid:" then (nil, false)
    else parseDashed (s.drop 9)
  else if s.length = 38 then parseDashed (s.drop 1)
  else if s.length = 32 then (ofPrefix (parseCompact s).1, (parseCompact s).2)
  else (nil, false)

/-- Only a 45-byte string reaches the case table, for its `urn:uuid:` prefix. -/
theorem parse_congr_of_length_ne (lowerTo' : Nat → Nat) {s : Bytes} (h : s.length ≠ 45) :
    parse lowerTo s = parse lowerTo' s := by
  simp [parse, h]

theorem parse_congr_of_ascii (lowerTo' : Nat → Nat) {s : Bytes} (h : s.all isAscii = true) :
    parse lowerTo s = parse lowerTo' s := by
  have ht : (s.take 9).all isAscii = true :=
    List.all_eq_true.2 fun c hc => List.all_eq_true.1 h c (List.mem_of_mem_take hc)
  simp only [parse, Strings.toLower_congr_of_ascii lowerTo lowerTo' ht]

set_option maxRecDepth 4000 in
/-- A byte is its two nibbles. -/
theorem byte_nibbles :
    ∀ b : UInt8, (b >>> 4) <<< 4 ||| b &&& 0x0F = b ∧ b >>> 4 < 16 ∧ b &&& 0x0F < 16 :=
  forall_byte (by decide)

set_option maxRecDepth 4000 in
/-- The digit of a nibble reads back, and is not a dash. -/
theorem hexDigit_nibble : ∀ n : UInt8, n < 16 → xvalue (hexDigit n) = n ∧ hexDigit n ≠ 45 :=
  forall_byte (by decide)

theorem xtob_hexDigit : ∀ b : UInt8, xtob (hexDigit (b >>> 4)) (hexDigit (b &&& 0x0F)) = (b, true) := by
  intro b
  obtain ⟨hb, hhi, hlo⟩ := byte_nibbles b
  have hne : ∀ n : UInt8, n < 16 → (n != 255) = true := fun n hn => by
    simp only [bne_iff_ne, ne_eq]
    rintro rfl
    exact absurd hn (by decide)
  rw [xtob, (hexDigit_nibble _ hhi).1, (hexDigit_nibble _ hlo).1, hb, hne _ hhi, hne _ hlo]
  rfl

theorem parseCompact_hexEncode (l : List UInt8) : parseCompact (hexEncode l) = (l, true) := by
  induction l with
  | nil => rfl
  | cons b l ih =>
    simp only [hexEncode, List.flatMap_cons, List.cons_append, List.nil_append] at ih ⊢
    rw [parseCompact, xtob_hexDigit, ih]
    rfl

theorem length_hexEncode (l : List UInt8) : (hexEncode l).length = 2 * l.length := by
  induction l with
  | nil => rfl
  | cons b l ih =>
    simp only [hexEncode, List.flatMap_cons, List.length_append, List.length_cons,
      List.length_nil] at ih ⊢
    omega

/-- **`Parse` reads `hex.Encode` back.** -/
theorem parse_hexEncode (u : UUID) : parse lowerTo (hexEncode u.bytes) = (u, true) := by
  have hlen : (hexEncode u.bytes).length = 32 := by rw [length_hexEncode, u.length_bytes]
  simp [parse, hlen, parseCompact_hexEncode, ofPrefix_bytes]

theorem hexDigit_ne_dash : ∀ b : UInt8, hexDigit (b >>> 4) ≠ 45 ∧ hexDigit (b &&& 0x0F) ≠ 45 :=
  fun b => ⟨(hexDigit_nibble _ (byte_nibbles b).2.1).2, (hexDigit_nibble _ (byte_nibbles b).2.2).2⟩

theorem hexEncode_append (a b : List UInt8) : hexEncode (a ++ b) = hexEncode a ++ hexEncode b :=
  List.flatMap_append ..

theorem removeAll_hexEncode (l : List UInt8) : Strings.removeAll (hexEncode l) 45 = hexEncode l := by
  simp only [Strings.removeAll, List.filter_eq_self, hexEncode, List.mem_flatMap]
  rintro c ⟨b, -, hc⟩
  simp only [List.mem_cons, List.mem_singleton, List.not_mem_nil, or_false] at hc
  rcases hc with rfl | rfl
  · simpa using (hexDigit_ne_dash b).1
  · simpa using (hexDigit_ne_dash b).2

/-- **`strings.Replace(u.String(), "-", "", -1)` is `hex.Encode(u[:])`**: the 32 lower-case
digits the text propagator writes for a trace id. -/
theorem removeAll_toString (u : UUID) : Strings.removeAll u.toString 45 = hexEncode u.bytes := by
  have hsplit : u.bytes = u.bytes.take 4 ++ (u.bytes.drop 4).take 2 ++ (u.bytes.drop 6).take 2 ++
      (u.bytes.drop 8).take 2 ++ u.bytes.drop 10 := by
    obtain ⟨l, hl⟩ := u
    simp only
    match l, hl with
    | [_, _, _, _, _, _, _, _, _, _, _, _, _, _, _, _], _ => rfl
  have hf := removeAll_hexEncode
  simp only [Strings.removeAll] at hf
  conv_rhs => rw [hsplit]
  simp only [UUID.toString, Strings.removeAll, List.filter_append, hf, hexEncode_append]
  simp

end Uuid
end ScopeAgent
