/-
# `net.IP` as Go 1.13 parses, converts and prints it

The pieces of package `net` that the `connectStart` hook calls on the address the dialer
reports.  An `IP` is a byte slice: four bytes for IPv4, sixteen for IPv6 (IPv4 written as the
IPv4-in-IPv6 form `::ffff:a.b.c.d` by `IPv4`), nil (empty) for no address.

* `ParseIP` looks for the first `.` or `:` and parses dotted decimal (`parseIPv4`, with the
  decimal loop `dtoi`) or IPv6.  The IPv6 parser is not modelled: it is a parameter, and a
  string without `:` never reaches it.
* `To4`, `To16` and `Equal` compare the two forms; `Equal` of two nil addresses is true.
* `String` prints dotted decimal for an address with a four-byte form, and otherwise the
  sixteen bytes as eight groups of hex digits separated by `:`, the longest run of zero groups
  written `::`; nil prints `<nil>`.  `JoinHostPort` brackets a host with a colon.

Dotted decimal reads back (`parseIP_dotted`), and what `String` prints for an IPv6 address is
hex digits and colons, at least one of them a colon (`string_chars`, `colon_mem_string`).
-/

import ScopeAgent.Go.Strconv

namespace ScopeAgent
namespace Net

/-- `net.IP`. -/
abbrev IP := Bytes

/-- `v4InV6Prefix`: the first twelve bytes of an IPv4 address in sixteen-byte form. -/
def v4InV6Prefix : Bytes := [0, 0, 0, 0, 0, 0, 0, 0, 0, 0, 0xff, 0xff]

/-- `net.IPv4(a, b, c, d)`. -/
def ipv4 (a b c d : UInt8) : IP := v4InV6Prefix ++ [a, b, c, d]

/-- `isZeros(p)`. -/
def isZeros (p : Bytes) : Bool := p.all (· == 0)

/-- `ip.To4()`. -/
def IP.to4 (ip : IP) : IP :=
  if ip.length = 4 then ip
  else if ip.length = 16 ∧ isZeros (ip.take 10) ∧ ip.getD 10 0 = 0xff ∧ ip.getD 11 0 = 0xff then
    ip.drop 12
  else []

/-- `ip.To16()`. -/
def IP.to16 (ip : IP) : IP :=
  if ip.length = 4 then ipv4 (ip.getD 0 0) (ip.getD 1 0) (ip.getD 2 0) (ip.getD 3 0)
  else if ip.length = 16 then ip
  else []

/-- `ip.Equal(x)`. -/
def IP.equal (ip x : IP) : Bool :=
  if ip.length = x.length then ip == x
  else if ip.length = 4 ∧ x.length = 16 then x.take 12 == v4InV6Prefix && ip == x.drop 12
  else if ip.length = 16 ∧ x.length = 4 then ip.take 12 == v4InV6Prefix && ip.drop 12 == x
  else false

/-! ## Parsing -/

/-- `big`: the bound of `dtoi`. -/
def big : Nat := 0xFFFFFF

/-- `'0' <= c && c <= '9'`. -/
def isDigit (c : UInt8) : Bool := 48 ≤ c && c ≤ 57

/-- The loop of `dtoi(s)` from the value `n` after `i` digits: `n = n*10 + int(s[i]-'0'); if
n >= big {return big, i, false}`, until a byte that is not a digit. -/
def dtoiLoop : Nat → Nat → Bytes → Nat × Nat × Bool
  | n, i, [] => (n, i, true)
  | n, i, c :: s =>
    if isDigit c then
      if big ≤ n * 10 + (c.toNat - 48) then (big, i, false)
      else dtoiLoop (n * 10 + (c.toNat - 48)) (i + 1) s
    else (n, i, true)

/-- `dtoi(s)`: the decimal number at the start of `s`, the bytes it takes, and whether there
was one. -/
def dtoi (s : Bytes) : Nat × Nat × Bool :=
  match dtoiLoop 0 0 s with
  | (n, i, true) => if i = 0 then (0, 0, false) else (n, i, true)
  | r => r

/-- The loop of `parseIPv4(s)` with `k` of the four octets left: each but the first after a
`.`, each a decimal number at most `0xFF`.  The octets and the rest of `s`, `none` where
`parseIPv4` returns nil. -/
def parseOctets : Nat → Bytes → Option (List UInt8 × Bytes)
  | 0, s => some ([], s)
  | k + 1, s =>
    if s = [] then none
    else if k + 1 < 4 ∧ s.head? ≠ some 0x2e then none
    else
      let s := if k + 1 < 4 then s.drop 1 else s
      match dtoi s with
      | (n, c, ok) =>
        if ok = false ∨ 0xFF < n then none
        else
          match parseOctets k (s.drop c) with
          | none => none
          | some (p, s) => some (n.toUInt8 :: p, s)

/-- `parseIPv4(s)`: four octets and nothing after them. -/
def parseIPv4 (s : Bytes) : IP :=
  match parseOctets 4 s with
  | some ([a, b, c, d], []) => ipv4 a b c d
  | _ => []

/-- `net.ParseIP(s)`, with `parseIPv6` the IPv6 parser: by the first `.` or `:` of `s`. -/
def parseIP (parseIPv6 : Bytes → IP) (s : Bytes) : IP :=
  match s.find? (fun c => c == 0x2e || c == 0x3a) with
  | some c => if c = 0x2e then parseIPv4 s else parseIPv6 s
  | none => []

/-! ## Printing -/

/-- `hexDigit[v]`, `v < 16`. -/
def hexDigit (v : Nat) : UInt8 := Strconv.digitByte v

/-- `ubtoa(dst, start, v)`: the decimal digits of a byte. -/
def ubtoa (v : UInt8) : Bytes :=
  if v < 10 then [v + 48]
  else if v < 100 then [v / 10 + 48, v % 10 + 48]
  else [v / 100 + 48, v / 10 % 10 + 48, v % 10 + 48]

/-- Dotted decimal, as `String` prints a four-byte form. -/
def dotted (a b c d : UInt8) : Bytes :=
  ubtoa a ++ (0x2e :: (ubtoa b ++ (0x2e :: (ubtoa c ++ (0x2e :: ubtoa d)))))

/-- `hexString(b)`: two hex digits a byte. -/
def hexString (b : Bytes) : Bytes := b.flatMap fun c => [hexDigit (c.toNat / 16), hexDigit (c.toNat % 16)]

/-- `appendHex(dst, i)`: the hex digits of `i` without leading zeros, `0` for zero. -/
def appendHex (dst : Bytes) (i : Nat) : Bytes :=
  if i = 0 then dst ++ [hexDigit 0]
  else dst ++ ((List.range 8).reverse.filterMap fun j =>
    if 0 < i >>> (j * 4) then some (hexDigit (i >>> (j * 4) % 16)) else none)

/-- The sixteen-bit group at byte `i`: `uint32(p[i])<<8 | uint32(p[i+1])`. -/
def group (p : IP) (i : Nat) : Nat := (p.getD i 0).toNat * 256 + (p.getD (i + 1) 0).toNat

/-- The inner loop of the zero-run search: `for j < IPv6len && p[j] == 0 && p[j+1] == 0 {j +=
2}`. -/
def zeroRunEnd (p : IP) : Nat → Nat → Nat
  | 0, j => j
  | fuel + 1, j =>
    if j < 16 ∧ p.getD j 0 = 0 ∧ p.getD (j + 1) 0 = 0 then zeroRunEnd p fuel (j + 2) else j

/-- The search for the longest run of zero groups, from byte `i` with the best run `[e0, e1)`
so far: a longer run is kept and the search goes on after it.  Each round moves `i` by two at
least, so eight rounds are enough. -/
def longestZeroRun (p : IP) : Nat → Nat → Int × Int → Int × Int
  | 0, _, e => e
  | fuel + 1, i, (e0, e1) =>
    if i < 16 then
      let j := zeroRunEnd p 8 i
      if i < j ∧ e1 - e0 < (j : Int) - i then longestZeroRun p fuel (j + 2) (i, j)
      else longestZeroRun p fuel (i + 2) (e0, e1)
    else (e0, e1)

/-- The printing loop from byte `i`: `::` in place of the run `[e0, e1)`, `:` before every
other group but the first. -/
def printGroups (p : IP) (e0 e1 : Int) : Nat → Nat → Bytes → Bytes
  | 0, _, b => b
  | fuel + 1, i, b =>
    if i < 16 then
      if (i : Int) = e0 then
        if 16 ≤ e1.toNat then b ++ [0x3a, 0x3a]
        else printGroups p e0 e1 fuel (e1.toNat + 2) (appendHex (b ++ [0x3a, 0x3a]) (group p e1.toNat))
      else printGroups p e0 e1 fuel (i + 2) (appendHex (if 0 < i then b ++ [0x3a] else b) (group p i))
    else b

/-- `ip.String()`. -/
def IP.string (ip : IP) : Bytes :=
  if ip.length = 0 then lit "<nil>"
  else if (IP.to4 ip).length = 4 then
    dotted ((IP.to4 ip).getD 0 0) ((IP.to4 ip).getD 1 0) ((IP.to4 ip).getD 2 0) ((IP.to4 ip).getD 3 0)
  else if ip.length ≠ 16 then lit "?" ++ hexString ip
  else
    match longestZeroRun ip 8 0 (-1, -1) with
    | (e0, e1) =>
      if e1 - e0 ≤ 2 then printGroups ip (-1) (-1) 8 0 [] else printGroups ip e0 e1 8 0 []

/-- `(*IPAddr).String()` of an address with `ip` and `zone`: `ipEmptyString(a.IP)`, and
`%zone` when there is one. -/
def ipAddrString (ip : IP) (zone : Bytes) : Bytes :=
  let s := if ip.length = 0 then [] else IP.string ip
  if zone ≠ [] then s ++ lit "%" ++ zone else s

/-- `net.JoinHostPort(host, port)`: a host with a colon is bracketed. -/
def joinHostPort (host port : Bytes) : Bytes :=
  if (Strings.indexByte host 0x3a).isSome then lit "[" ++ host ++ lit "]:" ++ port
  else host ++ lit ":" ++ port

/-! ## Nil -/

@[simp] theorem to4_nil : IP.to4 [] = [] := rfl

@[simp] theorem equal_nil : IP.equal [] [] = true := rfl

@[simp] theorem string_nil : IP.string [] = lit "<nil>" := rfl

/-! ## Dotted decimal reads back -/

/-- The decimal loop stops at a byte that is not a digit. -/
theorem dtoiLoop_append {n i : Nat} {ds : Bytes} (h : (dtoiLoop n i ds).2.2 = true) {rest : Bytes}
    (hr : ∀ c ∈ rest.head?, isDigit c = false) : dtoiLoop n i (ds ++ rest) = dtoiLoop n i ds := by
  induction ds generalizing n i with
  | nil =>
    cases rest with
    | nil => rfl
    | cons c rest => simp [dtoiLoop, hr c rfl]
  | cons c ds ih =>
    by_cases hd : isDigit c = true
    · by_cases hbig : big ≤ n * 10 + (c.toNat - 48)
      · simp [dtoiLoop, hd, hbig] at h
      · simp only [List.cons_append, dtoiLoop, hd, hbig, if_true, if_false] at h ⊢
        exact ih h
    · simp [dtoiLoop, hd]

theorem isDigit_iff (c : UInt8) : isDigit c = true ↔ 48 ≤ c.toNat ∧ c.toNat ≤ 57 := by
  simp only [isDigit, Bool.and_eq_true, decide_eq_true_eq]
  rfl

/-- One digit of the decimal loop. -/
theorem dtoiLoop_digit {n i : Nat} {c : UInt8} (hc : 48 ≤ c.toNat ∧ c.toNat ≤ 57)
    (hn : n * 10 + (c.toNat - 48) < big) (s : Bytes) :
    dtoiLoop n i (c :: s) = dtoiLoop (n * 10 + (c.toNat - 48)) (i + 1) s := by
  rw [dtoiLoop, if_pos ((isDigit_iff c).2 hc), if_neg (by omega)]

/-- A decimal digit `x` written as the byte `x + '0'`. -/
theorem toNat_add_48 {x : UInt8} (hx : x.toNat < 10) : (x + 48).toNat = x.toNat + 48 := by
  have h : (x + 48).toNat = (x.toNat + 48) % 256 := rfl
  omega

/-- One digit byte `x + '0'` of the decimal loop. -/
theorem dtoiLoop_add_48 {n i : Nat} {x : UInt8} (hx : x.toNat < 10) (hn : n * 10 + x.toNat < big)
    (s : Bytes) : dtoiLoop n i ((x + 48) :: s) = dtoiLoop (n * 10 + x.toNat) (i + 1) s := by
  have h := toNat_add_48 hx
  rw [dtoiLoop_digit (by omega) (by omega), h, Nat.add_sub_cancel]

theorem isDigit_add_48 {x : UInt8} (hx : x.toNat < 10) : isDigit (x + 48) = true :=
  (isDigit_iff _).2 (by have := toNat_add_48 hx; omega)

/-- What `ubtoa` writes is one to three digits that the decimal loop reads back. -/
theorem ubtoa_spec (v : UInt8) :
    dtoiLoop 0 0 (ubtoa v) = (v.toNat, (ubtoa v).length, true) ∧ (ubtoa v).length ≠ 0 ∧
      (ubtoa v).all isDigit = true := by
  have hv : v.toNat < 256 := v.toNat_lt_size
  have hbig : big = 0xFFFFFF := rfl
  have hr : (v % 10).toNat = v.toNat % 10 := UInt8.toNat_mod v 10
  have hr10 : v.toNat % 10 < 10 := Nat.mod_lt _ (by decide)
  unfold ubtoa
  split_ifs with h10 h100
  · have h10' : v.toNat < 10 := h10
    refine ⟨?_, by simp, by simp [isDigit_add_48 h10']⟩
    rw [dtoiLoop_add_48 h10' (by omega), dtoiLoop]
    simp
  · have h100' : v.toNat < 100 := h100
    have hq : (v / 10).toNat = v.toNat / 10 := UInt8.toNat_div v 10
    have hq10 : v.toNat / 10 < 10 := by omega
    refine ⟨?_, by simp, by simp [isDigit_add_48 (hq ▸ hq10), isDigit_add_48 (hr ▸ hr10)]⟩
    rw [dtoiLoop_add_48 (hq ▸ hq10) (by omega), dtoiLoop_add_48 (hr ▸ hr10) (by omega), dtoiLoop,
      hq, hr]
    simp only [List.length_cons, List.length_nil, Prod.mk.injEq, and_true]
    omega
  · have hq : (v / 100).toNat = v.toNat / 100 := UInt8.toNat_div v 100
    have hq' : (v / 10 % 10).toNat = v.toNat / 10 % 10 := by
      rw [UInt8.toNat_mod, UInt8.toNat_div]
      rfl
    have hq10 : v.toNat / 100 < 10 := by omega
    have hq'10 : v.toNat / 10 % 10 < 10 := Nat.mod_lt _ (by decide)
    refine ⟨?_, by simp, by simp [isDigit_add_48 (hq ▸ hq10), isDigit_add_48 (hq' ▸ hq'10),
      isDigit_add_48 (hr ▸ hr10)]⟩
    rw [dtoiLoop_add_48 (hq ▸ hq10) (by omega), dtoiLoop_add_48 (hq' ▸ hq'10) (by omega),
      dtoiLoop_add_48 (hr ▸ hr10) (by omega), dtoiLoop, hq, hq', hr]
    simp only [List.length_cons, List.length_nil, Prod.mk.injEq, and_true]
    omega

/-- `dtoi` reads a byte's digits back, up to a `.` or the end. -/
theorem dtoi_ubtoa (v : UInt8) {rest : Bytes} (hr : ∀ c ∈ rest.head?, c = 0x2e) :
    dtoi (ubtoa v ++ rest) = (v.toNat, (ubtoa v).length, true) := by
  obtain ⟨hloop, hlen, -⟩ := ubtoa_spec v
  have hr' : ∀ c ∈ rest.head?, isDigit c = false := fun c hc => by rw [hr c hc]; rfl
  rw [dtoi, dtoiLoop_append (by rw [hloop]) hr', hloop]
  simp [hlen]

theorem toUInt8_toNat (v : UInt8) : v.toNat.toUInt8 = v :=
  UInt8.toNat.inj (UInt8.toNat_ofNat_of_lt v.toNat_lt_size)

theorem octet_fits (v : UInt8) : ¬ 0xFF < v.toNat := by
  have : v.toNat < 256 := v.toNat_lt_size
  omega

/-- The first octet of dotted decimal. -/
theorem parseOctets_first {k : Nat} (hk : ¬ k + 1 < 4) (v : UInt8) (rest : Bytes)
    (hr : ∀ c ∈ rest.head?, c = 0x2e) :
    parseOctets (k + 1) (ubtoa v ++ rest) = (parseOctets k rest).map fun (p, s) => (v :: p, s) := by
  have hne : ubtoa v ++ rest ≠ [] := fun h => (ubtoa_spec v).2.1 (by rw [(List.append_eq_nil.1 h).1]; rfl)
  simp only [parseOctets, hne, hk, false_and, if_false, dtoi_ubtoa v hr, octet_fits,
    Bool.true_eq_false, or_self, List.drop_left, toUInt8_toNat]
  cases parseOctets k rest <;> rfl

/-- Each later octet, after its `.`. -/
theorem parseOctets_dot {k : Nat} (hk : k + 1 < 4) (v : UInt8) (rest : Bytes)
    (hr : ∀ c ∈ rest.head?, c = 0x2e) :
    parseOctets (k + 1) (0x2e :: (ubtoa v ++ rest)) = (parseOctets k rest).map fun (p, s) => (v :: p, s) := by
  simp only [parseOctets, reduceCtorEq, if_false, hk, true_and, List.head?_cons, ne_eq,
    not_true_eq_false, if_true, List.drop_one, List.tail_cons, dtoi_ubtoa v hr, octet_fits,
    Bool.true_eq_false, or_self, List.drop_left, toUInt8_toNat]
  cases parseOctets k rest <;> rfl

/-- **Dotted decimal reads back**: `parseIPv4(a.b.c.d) = IPv4(a, b, c, d)`. -/
theorem parseIPv4_dotted (a b c d : UInt8) : parseIPv4 (dotted a b c d) = ipv4 a b c d := by
  have h4 : parseOctets 1 (0x2e :: ubtoa d) = some ([d], []) := by
    simpa using parseOctets_dot (k := 0) (by omega) d [] (by simp)
  rw [parseIPv4, dotted, parseOctets_first (k := 3) (by omega) a _ (by simp),
    parseOctets_dot (by omega) b _ (by simp), parseOctets_dot (by omega) c _ (by simp), h4]
  rfl

/-- Dotted decimal is digits and dots. -/
theorem dotted_chars (a b c d : UInt8) : ∀ x ∈ dotted a b c d, isDigit x = true ∨ x = 0x2e := by
  have hdig : ∀ v : UInt8, ∀ x ∈ ubtoa v, isDigit x = true := fun v =>
    List.all_eq_true.1 (ubtoa_spec v).2.2
  simp only [dotted, List.forall_mem_append, List.forall_mem_cons]
  exact ⟨fun x hx => .inl (hdig a x hx), .inr trivial, fun x hx => .inl (hdig b x hx), .inr trivial,
    fun x hx => .inl (hdig c x hx), .inr trivial, fun x hx => .inl (hdig d x hx)⟩

/-- `ParseIP` of dotted decimal is the address, whatever the IPv6 parser. -/
theorem parseIP_dotted (parseIPv6 : Bytes → IP) (a b c d : UInt8) :
    parseIP parseIPv6 (dotted a b c d) = ipv4 a b c d := by
  have hdig : ∀ x ∈ ubtoa a, (x == 0x2e || x == 0x3a) = false := fun x hx => by
    have h := (isDigit_iff x).1 (List.all_eq_true.1 (ubtoa_spec a).2.2 x hx)
    have h46 : x ≠ 0x2e := fun he => by rw [he] at h; exact absurd h.1 (by decide)
    have h58 : x ≠ 0x3a := fun he => by rw [he] at h; exact absurd h.2 (by decide)
    simp [h46, h58]
  rw [parseIP, dotted, List.find?_append, List.find?_eq_none.2 fun x hx => by simp [hdig x hx]]
  simp only [Option.none_or, List.find?_cons, beq_self_eq_true, Bool.true_or, if_true]
  exact parseIPv4_dotted a b c d

/-- Dotted decimal has no colon. -/
theorem colon_not_mem_dotted (a b c d : UInt8) : 0x3a ∉ dotted a b c d := fun h => by
  rcases dotted_chars a b c d _ h with h | h
  · exact absurd ((isDigit_iff _).1 h).2 (by decide)
  · exact absurd h (by decide)

@[simp] theorem to4_ipv4 (a b c d : UInt8) : IP.to4 (ipv4 a b c d) = [a, b, c, d] := rfl

@[simp] theorem equal_ipv4_to4 (a b c d : UInt8) : IP.equal (ipv4 a b c d) [a, b, c, d] = true := by
  simp [IP.equal, ipv4, v4InV6Prefix]

/-- An address with a four-byte form prints as dotted decimal. -/
theorem string_of_to4 {ip : IP} {a b c d : UInt8} (h : IP.to4 ip = [a, b, c, d]) :
    IP.string ip = dotted a b c d := by
  have hne : ip.length ≠ 0 := fun h0 => by
    rw [List.length_eq_zero.1 h0, to4_nil] at h
    exact List.cons_ne_nil _ _ h.symm
  simp [IP.string, hne, h]

/-! ## What `String` prints for IPv6 -/

/-- A byte `String` may print for an IPv6 address: a hex digit or `:`. -/
def isHexOrColon (c : UInt8) : Bool := c = 0x3a || (List.range 16).any fun v => c = hexDigit v

theorem appendHex_chars {dst : Bytes} (h : ∀ c ∈ dst, isHexOrColon c = true) (i : Nat) :
    ∀ c ∈ appendHex dst i, isHexOrColon c = true := by
  have hdig : ∀ v < 16, isHexOrColon (hexDigit v) = true := by decide
  unfold appendHex
  split_ifs
  · intro c hc
    rcases List.mem_append.1 hc with hc | hc
    · exact h c hc
    · rw [List.mem_singleton.1 hc]
      exact hdig 0 (by omega)
  · simp only [List.mem_append, List.mem_filterMap, List.mem_reverse, List.mem_range]
    rintro c (hc | ⟨j, -, hj⟩)
    · exact h c hc
    · split_ifs at hj
      cases hj
      exact hdig _ (Nat.mod_lt _ (by omega))

theorem appendHex_mem {dst : Bytes} {c : UInt8} (h : c ∈ dst) (i : Nat) : c ∈ appendHex dst i := by
  unfold appendHex
  split_ifs <;> exact List.mem_append_left _ h

theorem chars_append_colons {b : Bytes} (h : ∀ c ∈ b, isHexOrColon c = true) (k : Nat) :
    ∀ c ∈ b ++ List.replicate k 0x3a, isHexOrColon c = true := by
  intro c hc
  rcases List.mem_append.1 hc with hc | hc
  · exact h c hc
  · rw [List.eq_of_mem_replicate hc]
    rfl

/-- The printing loop writes hex digits and colons. -/
theorem printGroups_chars (p : IP) (e0 e1 : Int) :
    ∀ (fuel i : Nat) (b : Bytes), (∀ c ∈ b, isHexOrColon c = true) →
      ∀ c ∈ printGroups p e0 e1 fuel i b, isHexOrColon c = true
  | 0, _, _, h => h
  | fuel + 1, i, b, h => by
    have hcolon : ∀ c ∈ b ++ [0x3a], isHexOrColon c = true := chars_append_colons h 1
    have hcolons : ∀ c ∈ b ++ [0x3a, 0x3a], isHexOrColon c = true := chars_append_colons h 2
    unfold printGroups
    split_ifs with h16
    · exact hcolons
    · exact printGroups_chars p e0 e1 fuel _ _ (appendHex_chars hcolons _)
    · exact printGroups_chars p e0 e1 fuel _ _ (appendHex_chars hcolon _)
    · exact printGroups_chars p e0 e1 fuel _ _ (appendHex_chars h _)
    · exact h

/-- The printing loop keeps what it was given. -/
theorem mem_printGroups (p : IP) (e0 e1 : Int) {c : UInt8} :
    ∀ (fuel i : Nat) (b : Bytes), c ∈ b → c ∈ printGroups p e0 e1 fuel i b
  | 0, _, _, h => h
  | fuel + 1, i, b, h => by
    unfold printGroups
    split_ifs
    · exact List.mem_append_left _ h
    · exact mem_printGroups p e0 e1 fuel _ _ (appendHex_mem (List.mem_append_left _ h) _)
    · exact mem_printGroups p e0 e1 fuel _ _ (appendHex_mem (List.mem_append_left _ h) _)
    · exact mem_printGroups p e0 e1 fuel _ _ (appendHex_mem h _)
    · exact h

/-- The printing loop over sixteen bytes writes a colon, by the second group at the latest. -/
theorem colon_mem_printGroups (p : IP) (e0 e1 : Int) (fuel : Nat) :
    0x3a ∈ printGroups p e0 e1 (fuel + 2) 0 [] := by
  have hc : (0x3a : UInt8) ∈ [0x3a, 0x3a] := List.mem_cons_self _ _
  rw [printGroups, if_pos (by omega : 0 < 16)]
  by_cases h0 : ((0 : Nat) : Int) = e0
  · rw [if_pos h0]
    split_ifs
    · exact List.mem_append_right _ hc
    · exact mem_printGroups p e0 e1 _ _ _ (appendHex_mem (List.mem_append_right _ hc) _)
  · rw [if_neg h0, if_neg (lt_irrefl 0), printGroups, if_pos (by omega : 2 < 16)]
    by_cases h2 : ((2 : Nat) : Int) = e0
    · rw [if_pos h2]
      split_ifs
      · exact List.mem_append_right _ hc
      · exact mem_printGroups p e0 e1 _ _ _ (appendHex_mem (List.mem_append_right _ hc) _)
    · rw [if_neg h2, if_pos (by omega : 0 < 2)]
      exact mem_printGroups p e0 e1 _ _ _
        (appendHex_mem (List.mem_append_right _ (List.mem_singleton_self _)) _)

/-- An IPv6 address: sixteen bytes with no four-byte form. -/
structure IsIPv6 (ip : IP) : Prop where
  length_eq : ip.length = 16
  to4_eq : IP.to4 ip = []

/-- What `String` prints for an IPv6 address goes through the printing loop. -/
theorem string_of_isIPv6 {ip : IP} (h : IsIPv6 ip) :
    ∃ e0 e1, IP.string ip = printGroups ip e0 e1 8 0 [] := by
  rw [IP.string, if_neg (by rw [h.length_eq]; omega), if_neg (by rw [h.to4_eq]; decide),
    if_neg (by rw [h.length_eq]; decide)]
  split
  split_ifs
  · exact ⟨_, _, rfl⟩
  · exact ⟨_, _, rfl⟩

/-- **What `String` prints for an IPv6 address is hex digits and colons.** -/
theorem string_chars {ip : IP} (h : IsIPv6 ip) : ∀ c ∈ IP.string ip, isHexOrColon c = true := by
  obtain ⟨e0, e1, he⟩ := string_of_isIPv6 h
  rw [he]
  exact printGroups_chars ip e0 e1 8 0 [] (fun _ h => absurd h (List.not_mem_nil _))

/-- **What `String` prints for an IPv6 address has a colon.** -/
theorem colon_mem_string {ip : IP} (h : IsIPv6 ip) : 0x3a ∈ IP.string ip := by
  obtain ⟨e0, e1, he⟩ := string_of_isIPv6 h
  rw [he]
  exact colon_mem_printGroups ip e0 e1 6

example : IP.string [0x20, 0x01, 0x0d, 0xb8, 0, 0, 0, 0, 0, 0, 0, 0, 0, 0, 0, 1] = lit "2001:db8::1" := by
  decide

end Net
end ScopeAgent
