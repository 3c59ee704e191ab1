/-
# `textproto.CanonicalMIMEHeaderKey`

`http.Header.Set(key, value)` stores `value` under `textproto.CanonicalMIMEHeaderKey(key)`
(`net/textproto/reader.go`, Go 1.13).  A key with a byte that is not a `tchar` of RFC 7230 is
kept as it is; any other key has its first letter and every letter after a `-` upper-cased and
its other letters lower-cased.  The quick check of `CanonicalMIMEHeaderKey` returns the key
itself when it is already in that form, or when it meets an invalid byte before the first letter
to change; otherwise it calls `canonicalMIMEHeaderKey`, which scans the whole key first.  The
interning through `commonHeader` returns a string with the same bytes and is left out.

Either way only the case of ASCII letters changes (`canonicalMIMEHeaderKey_cases`), so
`strings.ToLower` sees no difference (`toLower_canonicalMIMEHeaderKey`).
-/

import ScopeAgent.Go.Unicode

namespace ScopeAgent
namespace Textproto

/-- `isTokenTable[c]`: `c` is a `tchar` of RFC 7230, a digit, a letter or one of
`! # $ % & ' * + - . ^ _ | ~` and the backquote. -/
def isTokenTable (c : UInt8) : Bool :=
  (48 ≤ c && c ≤ 57) || (65 ≤ c && c ≤ 90) || (97 ≤ c && c ≤ 122) ||
    c ∈ ([33, 35, 36, 37, 38, 39, 42, 43, 45, 46, 94, 95, 96, 124, 126] : List UInt8)

/-- `validHeaderFieldByte(b)`: `int(b) < len(isTokenTable) && isTokenTable[b]`. -/
def validHeaderFieldByte (c : UInt8) : Bool := c < 127 && isTokenTable c

/-- One byte of the canonicalizing loop: `c -= toLower` on a lower-case letter where `upper`,
`c += toLower` on an upper-case letter elsewhere. -/
def canonByte (upper : Bool) (c : UInt8) : UInt8 :=
  if upper && 97 ≤ c && c ≤ 122 then c - 32
  else if !upper && 65 ≤ c && c ≤ 90 then c + 32
  else c

/-- The canonicalizing loop of `canonicalMIMEHeaderKey`, `upper = c == '-'` for the next byte. -/
def canonLoop : Bool → Bytes → Bytes
  | _, [] => []
  | upper, c :: a => canonByte upper c :: canonLoop (canonByte upper c == 45) a

/-- `canonicalMIMEHeaderKey(a []byte)`: `a` unchanged if a byte of it is not valid, else the
canonicalizing loop from `upper = true`. -/
def canonicalMIMEHeaderKeyBytes (a : Bytes) : Bytes :=
  if a.all validHeaderFieldByte then canonLoop true a else a

/-- The quick check of `CanonicalMIMEHeaderKey(s)` from a byte on, `upper` as the byte before
left it. -/
def quickCheck (s : Bytes) : Bool → Bytes → Bytes
  | _, [] => s
  | upper, c :: rest =>
    if !validHeaderFieldByte c then s
    else if upper && 97 ≤ c && c ≤ 122 then canonicalMIMEHeaderKeyBytes s
    else if !upper && 65 ≤ c && c ≤ 90 then canonicalMIMEHeaderKeyBytes s
    else quickCheck s (c == 45) rest

/-- `textproto.CanonicalMIMEHeaderKey(s)`. -/
def canonicalMIMEHeaderKey (s : Bytes) : Bytes := quickCheck s true s

set_option maxRecDepth 4000 in
/-- The loop changes the case of a letter and nothing else. -/
theorem canonByte_spec : ∀ c : UInt8, ∀ upper : Bool,
    lowerByte (canonByte upper c) = lowerByte c ∧ isAscii (canonByte upper c) = isAscii c :=
  forall_byte (by decide)

theorem isAscii_of_valid : ∀ c : UInt8, validHeaderFieldByte c = true → isAscii c = true :=
  fun c h => by
    simp only [validHeaderFieldByte, Bool.and_eq_true, decide_eq_true_eq] at h
    have h127 : c.toNat < 127 := h.1
    exact decide_eq_true (show c.toNat < 128 by omega)

theorem map_lowerByte_canonLoop (upper : Bool) (a : Bytes) :
    (canonLoop upper a).map lowerByte = a.map lowerByte := by
  induction a generalizing upper with
  | nil => rfl
  | cons c a ih => rw [canonLoop, List.map_cons, List.map_cons, (canonByte_spec c upper).1, ih]

theorem all_isAscii_canonLoop (upper : Bool) (a : Bytes) :
    (canonLoop upper a).all isAscii = a.all isAscii := by
  induction a generalizing upper with
  | nil => rfl
  | cons c a ih => rw [canonLoop, List.all_cons, List.all_cons, (canonByte_spec c upper).2, ih]

/-- The quick check returns its key or hands it to `canonicalMIMEHeaderKey`. -/
theorem quickCheck_cases (s : Bytes) (upper : Bool) (t : Bytes) :
    quickCheck s upper t = s ∨ quickCheck s upper t = canonicalMIMEHeaderKeyBytes s := by
  induction t generalizing upper with
  | nil => exact .inl rfl
  | cons c t ih =>
    simp only [quickCheck]
    split_ifs
    · exact .inl rfl
    · exact .inr rfl
    · exact .inr rfl
    · exact ih _

/-- **Only the case of ASCII letters changes.** -/
theorem canonicalMIMEHeaderKey_cases (s : Bytes) :
    canonicalMIMEHeaderKey s = s ∨
      (s.all isAscii ∧ canonicalMIMEHeaderKey s = canonLoop true s) := by
  rcases quickCheck_cases s true s with h | h
  · exact .inl h
  · rw [canonicalMIMEHeaderKey, h, canonicalMIMEHeaderKeyBytes]
    split_ifs with hv
    · exact .inr ⟨List.all_eq_true.2 fun c hc => isAscii_of_valid c (List.all_eq_true.1 hv c hc),
        rfl⟩
    · exact .inl rfl

variable (lowerTo : Nat → Nat)

/-- **`strings.ToLower` does not see the canonical form.** -/
theorem toLower_canonicalMIMEHeaderKey (s : Bytes) :
    Strings.toLower lowerTo (canonicalMIMEHeaderKey s) = Strings.toLower lowerTo s := by
  rcases canonicalMIMEHeaderKey_cases s with h | ⟨ha, h⟩
  · rw [h]
  · rw [h, Strings.toLower_of_ascii lowerTo ha,
      Strings.toLower_of_ascii lowerTo ((all_isAscii_canonLoop true s).trans ha),
      map_lowerByte_canonLoop]

end Textproto
end ScopeAgent
