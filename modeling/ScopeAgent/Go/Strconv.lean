/-
# `strconv` and `fmt` on integers and booleans

`strconv.FormatUint(n, base)` writes the digits of `n` most significant first, lower-case
letters above 9 and `"0"` for zero; `fmt`'s `%016x` pads the base-16 digits with zeros to
sixteen.  `strconv.ParseUint(s, base, bitSize)` reads them back: it refuses the empty string
and any byte that is not a digit below `base` (`ErrSyntax`, value 0), and it refuses a value
above `1<<bitSize - 1` (`ErrRange`, value the maximum) as soon as the digits read so far
exceed it.  `ParseBool` accepts the twelve spellings of the Go source.

`parseUint_formatUint` and `parseUint_formatHex016` are the round trips the text propagator and
`connectStart` rest on: every value that fits is read back exactly, also after any number of
leading zeros.
-/

import ScopeAgent.Go.Bytes
import Mathlib.Data.Nat.Digits

namespace ScopeAgent
namespace Strconv

/-- The two reasons of a `*strconv.NumError`. -/
inductive NumError
  /-- `strconv.ErrSyntax` -/
  | errSyntax
  /-- `strconv.ErrRange` -/
  | errRange
  deriving DecidableEq, Repr

/-- The byte of digit `d < 36`: `"0123456789abcdefghijklmnopqrstuvwxyz"[d]`. -/
def digitByte (d : Nat) : UInt8 := if d < 10 then (48 + d).toUInt8 else (87 + d).toUInt8

/-- `strconv.FormatUint(n, base)`. -/
def formatUint (n base : Nat) : Bytes :=
  if n = 0 then [digitByte 0] else ((Nat.digits base n).reverse).map digitByte

/-- `fmt.Sprintf("%016x", n)`: the base-16 digits, zero-padded on the left to sixteen. -/
def formatHex016 (n : Nat) : Bytes :=
  let d := formatUint n 16
  List.replicate (16 - d.length) (digitByte 0) ++ d

/-- The value of a digit byte in `ParseUint`'s loop: `c - '0'` for a decimal digit,
`lower(c) - 'a' + 10` for a letter, where `lower(c) = c | ('x' - 'X')`. -/
def digitValue (c : UInt8) : Option Nat :=
  if 48 ≤ c ∧ c ≤ 57 then some (c.toNat - 48)
  else if 97 ≤ (c ||| 0x20) ∧ (c ||| 0x20) ≤ 122 then some ((c ||| 0x20).toNat - 87)
  else none

/-- `maxUint64/base + 1`: the smallest `n` with `n*base` past `maxUint64`. -/
def cutoff (base : Nat) : Nat := (2 ^ 64 - 1) / base + 1

/-- The digit loop of `ParseUint` from the accumulated value `n`. -/
def parseDigits (base maxVal : Nat) : Nat → Bytes → Nat × Option NumError
  | n, [] => (n, none)
  | n, c :: cs =>
    match digitValue c with
    | none => (0, some .errSyntax)
    | some d =>
      if base ≤ d then (0, some .errSyntax)
      else if cutoff base ≤ n then (maxVal, some .errRange)
      else if maxVal < n * base + d then (maxVal, some .errRange)
      else parseDigits base maxVal (n * base + d) cs

/-- `strconv.ParseUint(s, base, bitSize)` for `2 ≤ base ≤ 36` and `0 < bitSize ≤ 64`, the
only arguments the agent passes. -/
def parseUint (s : Bytes) (base bitSize : Nat) : Nat × Option NumError :=
  if s = [] then (0, some .errSyntax) else parseDigits base (2 ^ bitSize - 1) 0 s

/-- `strconv.FormatBool(b)`. -/
def formatBool (b : Bool) : Bytes := if b then lit "true" else lit "false"

/-- `strconv.ParseBool(str)`. -/
def parseBool (s : Bytes) : Bool × Option NumError :=
  if s ∈ [lit "1", lit "t", lit "T", lit "TRUE", lit "true", lit "True"] then (true, none)
  else if s ∈ [lit "0", lit "f", lit "F", lit "FALSE", lit "false", lit "False"] then (false, none)
  else (false, some .errSyntax)

theorem parseBool_formatBool (b : Bool) : parseBool (formatBool b) = (b, none) := by
  cases b <;> decide

theorem digitValue_digitByte : ∀ d < 36, digitValue (digitByte d) = some d := by
  decide

/-- One step of the accumulation `n = n*base + d`. -/
def step (base n d : Nat) : Nat := n * base + d

theorem le_foldl_step {base : Nat} (hb : 0 < base) (ds : List Nat) (n : Nat) :
    n ≤ ds.foldl (step base) n := by
  induction ds generalizing n with
  | nil => exact le_rfl
  | cons d ds ih =>
    refine le_trans ?_ (ih _)
    exact le_trans (Nat.le_mul_of_pos_right n hb) (Nat.le_add_right _ _)

/-- **The digit loop reads digits back.**  From any accumulated `n`, digits below `base`
whose value stays within `maxVal` are read without an error. -/
theorem parseDigits_map_digitByte {base maxVal : Nat} (hb : 1 < base) (hb36 : base ≤ 36)
    (hmax : maxVal < 2 ^ 64) (ds : List Nat) (hds : ∀ d ∈ ds, d < base) (n : Nat)
    (hfit : ds.foldl (step base) n ≤ maxVal) :
    parseDigits base maxVal n (ds.map digitByte) = (ds.foldl (step base) n, none) := by
  induction ds generalizing n with
  | nil => rfl
  | cons d ds ih =>
    have hd : d < base := hds d (List.mem_cons_self d ds)
    have hstep : n * base + d ≤ maxVal :=
      le_trans (le_foldl_step (by omega) ds _) hfit
    have hcut : n < cutoff base := by
      rw [cutoff, Nat.lt_succ_iff, Nat.le_div_iff_mul_le (by omega)]
      omega
    simp only [List.map_cons, parseDigits, digitValue_digitByte d (by omega),
      if_neg (Nat.not_le.2 hd), if_neg (Nat.not_le.2 hcut), if_neg (Nat.not_lt.2 hstep)]
    exact ih (fun e he => hds e (List.mem_cons_of_mem d he)) _ hfit

/-- The digits of `n`, most significant first, accumulate to `n`. -/
theorem foldl_step_digits (base n : Nat) :
    ((Nat.digits base n).reverse).foldl (step base) 0 = n := by
  rw [List.foldl_reverse]
  conv_rhs => rw [← Nat.ofDigits_digits base n, Nat.ofDigits_eq_foldr]
  congr 1
  funext x y
  simp only [step, Nat.cast_id]
  rw [Nat.add_comm, Nat.mul_comm]

theorem formatUint_ne_nil (n base : Nat) : formatUint n base ≠ [] := by
  unfold formatUint
  split_ifs with h0
  · simp
  · simpa using Nat.digits_ne_nil_iff_ne_zero.2 h0

/-- **`ParseUint(FormatUint(n, base), base, bitSize) = n`** for every `n` that fits. -/
theorem parseUint_formatUint {base bitSize n : Nat} (hb : 1 < base) (hb36 : base ≤ 36)
    (hbits : bitSize ≤ 64) (hn : n < 2 ^ bitSize) :
    parseUint (formatUint n base) base bitSize = (n, none) := by
  have hmax : 2 ^ bitSize - 1 < 2 ^ 64 :=
    lt_of_lt_of_le (Nat.sub_lt (Nat.two_pow_pos _) Nat.one_pos) (Nat.pow_le_pow_right (by omega) hbits)
  have hfit := parseDigits_map_digitByte hb hb36 hmax
  rw [parseUint, if_neg (formatUint_ne_nil n base)]
  by_cases h0 : n = 0
  · subst h0
    simpa [formatUint, step] using hfit [0] (by simp; omega) 0 (by simp [step])
  · have hd := hfit ((Nat.digits base n).reverse)
      (fun d hd => Nat.digits_lt_base hb (List.mem_reverse.1 hd)) 0
      (by rw [foldl_step_digits]; omega)
    rw [formatUint, if_neg h0]
    rwa [foldl_step_digits] at hd

/-- Leading zeros change nothing in the digit loop. -/
theorem parseDigits_zeros {base maxVal : Nat} (hb : 1 < base) (k : Nat) (s : Bytes) :
    parseDigits base maxVal 0 (List.replicate k (digitByte 0) ++ s) = parseDigits base maxVal 0 s := by
  induction k with
  | zero => rfl
  | succ k ih =>
    rw [List.replicate_succ, List.cons_append, parseDigits, digitValue_digitByte 0 (by omega)]
    simp only [if_neg (Nat.not_le.2 (by omega : 0 < base)), Nat.zero_mul, Nat.zero_add]
    rw [if_neg (by simp [cutoff]), if_neg (Nat.not_lt_zero _), ih]

/-- `%016x` is within sixteen digits for every `uint64`. -/
theorem formatUint_length_le {n : Nat} (hn : n < 2 ^ 64) : (formatUint n 16).length ≤ 16 := by
  unfold formatUint
  split_ifs with h0
  · simp
  · rw [List.length_map, List.length_reverse]
    have h := Nat.base_pow_length_digits_le 16 n (by omega) h0
    by_contra hlt
    have : 16 ^ 17 ≤ 16 ^ (Nat.digits 16 n).length := Nat.pow_le_pow_right (by omega) (by omega)
    omega

theorem formatHex016_length {n : Nat} (hn : n < 2 ^ 64) : (formatHex016 n).length = 16 := by
  have := formatUint_length_le hn
  simp only [formatHex016, List.length_append, List.length_replicate]
  omega

/-- **`ParseUint(Sprintf("%016x", n), 16, 64) = n`** for every `uint64`. -/
theorem parseUint_formatHex016 {n : Nat} (hn : n < 2 ^ 64) :
    parseUint (formatHex016 n) 16 64 = (n, none) := by
  have hne : formatHex016 n ≠ [] := fun h => by simpa [h] using formatHex016_length hn
  have hfmt := formatUint_ne_nil n 16
  have h : parseUint (formatUint n 16) 16 64 = (n, none) :=
    parseUint_formatUint (by omega) (by omega) le_rfl hn
  rw [parseUint, if_neg hfmt] at h
  rw [parseUint, if_neg hne, formatHex016, parseDigits_zeros (by omega), h]

/-- A byte that is no digit makes the digit loop fail, wherever it stands. -/
theorem parseDigits_of_mem {base maxVal : Nat} {c : UInt8} (hc : digitValue c = none) :
    ∀ {n : Nat} {s : Bytes}, c ∈ s → (parseDigits base maxVal n s).2 ≠ none
  | _, d :: s, h => by
    rcases List.mem_cons.1 h with rfl | h
    · simp [parseDigits, hc]
    · unfold parseDigits
      split
      · simp
      · split_ifs
        · simp
        · simp
        · simp
        · exact parseDigits_of_mem hc h

/-- **`ParseUint` refuses a string with a byte that is no digit.** -/
theorem parseUint_of_mem {s : Bytes} {c : UInt8} (hc : digitValue c = none) (h : c ∈ s)
    (base bitSize : Nat) : (parseUint s base bitSize).2 ≠ none := by
  rw [parseUint, if_neg (List.ne_nil_of_mem h)]
  exact parseDigits_of_mem hc h

end Strconv
end ScopeAgent
