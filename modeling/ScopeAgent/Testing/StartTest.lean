/-
# The name and suite of a test span

`StartTestFromCaller` (`src/instrumentation/testing/testing.go`, lines 61-112) and
`StartBenchmark` (lines 191-254) name the span after `t.Name()` and tag it with the suite the
test belongs to.  The suite is read off the runtime name of the function the pc lies in,
`runtime.FuncForPC(pc).Name()`, an import path, a dot and the function's name: the function
name `funcName` is the test name up to its first `/` (a sub-test `TestF/case` runs in `TestF`),
and the suite is what stands before the byte before its last occurrence,
`funcFullName[:strings.LastIndex(funcFullName, funcName)-1]`.  An index below 1 is replaced by
the runtime name's length, and a runtime name that is empty then slices at `-1` and panics.
`ast.GetFuncSourceForName` is not in the source: `testCode` is a parameter.

* **The suite is the import path** (`startTags_suite`): for every import path and every test
  or sub-test name, even when the import path itself contains the function's name, since the
  last occurrence of a name in `P.F` is the `F` at its end (`lastIndex_append`).
-/

import ScopeAgent.Go.Bytes

namespace ScopeAgent

namespace Strings

/-- `strings.LastIndex(s, substr)` from byte `i` of `s` on, `t` being the rest of `s` and
`acc` the last match before `i`. -/
def lastIndexLoop (sub : Bytes) (i : Nat) (acc : Option Nat) : Bytes → Option Nat
  | [] => if sub.isPrefixOf [] then some i else acc
  | c :: t => lastIndexLoop sub (i + 1) (if sub.isPrefixOf (c :: t) then some i else acc) t

/-- `strings.LastIndex(s, substr)`: where the last occurrence of `substr` in `s` starts, `none`
for `-1`. -/
def lastIndex (s sub : Bytes) : Option Nat := lastIndexLoop sub 0 none s

/-- No occurrence starts where fewer bytes than `sub` are left. -/
theorem lastIndexLoop_of_length_lt {sub : Bytes} :
    ∀ {t : Bytes}, t.length < sub.length → ∀ i acc, lastIndexLoop sub i acc t = acc
  | [], h, _, _ => by
    rw [lastIndexLoop, if_neg]
    exact fun hp => absurd (List.IsPrefix.length_le (List.isPrefixOf_iff_prefix.1 hp)) (by omega)
  | c :: t, h, i, acc => by
    rw [lastIndexLoop, if_neg, lastIndexLoop_of_length_lt (by simp at h; omega)]
    exact fun hp => absurd (List.IsPrefix.length_le (List.isPrefixOf_iff_prefix.1 hp)) (by omega)

theorem lastIndexLoop_append (sub : Bytes) :
    ∀ (p : Bytes) (i : Nat) (acc : Option Nat),
      lastIndexLoop sub i acc (p ++ sub) = some (i + p.length)
  | [], i, acc => by
    cases sub with
    | nil => simp [lastIndexLoop]
    | cons c t =>
      rw [List.nil_append, lastIndexLoop,
        if_pos (List.isPrefixOf_iff_prefix.2 (List.prefix_refl _)),
        lastIndexLoop_of_length_lt (by simp)]
      rfl
  | c :: p, i, acc => by
    rw [List.cons_append, lastIndexLoop, lastIndexLoop_append sub p, List.length_cons]
    congr 1
    omega

/-- **The last occurrence of a suffix is the suffix.** -/
theorem lastIndex_append (p sub : Bytes) : lastIndex (p ++ sub) sub = some p.length := by
  rw [lastIndex, lastIndexLoop_append, Nat.zero_add]

end Strings

namespace Testing

/-- `funcName`: `t.Name()` up to its first `/`, the test function a sub-test runs in. -/
def funcNameOf (fullTestName : Bytes) : Bytes :=
  match Strings.indexByte fullTestName 47 with
  | some i => fullTestName.take i
  | none => fullTestName

/-- `packageName := funcFullName[:funcNameIndex-1]`, `funcNameIndex` being
`strings.LastIndex(funcFullName, funcName)`, or `len(funcFullName)` where that is below 1;
`none` where the slice bound is `-1`, a panic. -/
def packageNameOf (funcFullName funcName : Bytes) : Option Bytes :=
  let funcNameIndex :=
    match Strings.lastIndex funcFullName funcName with
    | some i => if i < 1 then funcFullName.length else i
    | none => funcFullName.length
  if funcNameIndex = 0 then none else some (funcFullName.take (funcNameIndex - 1))

/-- The tags of the span `StartTestFromCaller` and `StartBenchmark` start, the second adding
`test.type`; `none` where `packageName` panics. -/
def startTags (benchmark : Bool) (fullTestName funcFullName testCode : Bytes) :
    Option (List (Bytes × Bytes)) :=
  (packageNameOf funcFullName (funcNameOf fullTestName)).map fun packageName =>
    [(lit "span.kind", lit "test"), (lit "test.name", fullTestName),
      (lit "test.suite", packageName), (lit "test.code", testCode),
      (lit "test.framework", lit "testing"), (lit "test.language", lit "go")] ++
    if benchmark then [(lit "test.type", lit "benchmark")] else []

/-- `StartTestFromCaller(t, pc)`: the tags of the test span. -/
def startTestFromCaller (fullTestName funcFullName testCode : Bytes) :
    Option (List (Bytes × Bytes)) :=
  startTags false fullTestName funcFullName testCode

/-- `StartBenchmark(b, pc, benchFunc)`: the tags of the benchmark span, where it starts one.
Left out is what comes before them and reads none of their inputs: where the `"*"`
sub-benchmark does not run (a `-test.bench` pattern filters it out), `bChild` stays `nil` and
`extractBenchmarkResult` panics in `FieldByName`; where `testing.B` has no `result` field, it
fails and `StartBenchmark` returns with no span (lines 200-204). -/
def startBenchmark (fullTestName funcFullName testCode : Bytes) : Option (List (Bytes × Bytes)) :=
  startTags true fullTestName funcFullName testCode

/-- The runtime name `P.F` gives the package `P`. -/
theorem packageNameOf_qualified (P F : Bytes) : packageNameOf (P ++ lit "." ++ F) F = some P := by
  have hlen : (P ++ lit ".").length = P.length + 1 := by rw [List.length_append]; rfl
  simp only [packageNameOf, Strings.lastIndex_append, hlen]
  have h1 : ¬(P.length + 1 < 1) := by omega
  rw [if_neg h1, if_neg (Nat.succ_ne_zero _), Nat.add_sub_cancel, List.append_assoc,
    List.take_left' rfl]

/-- **A test's suite is its package's import path.**  For every import path `P` and every test
or sub-test name, a test or benchmark whose pc lies in the function `P.F`, `F` the test name
before its first `/`, gets the tag `test.suite` = `P`. -/
theorem startTags_suite (benchmark : Bool) (P fullTestName testCode : Bytes) :
    (startTags benchmark fullTestName (P ++ lit "." ++ funcNameOf fullTestName) testCode).map
      (·.lookup (lit "test.suite")) = some (some P) := by
  rw [startTags, packageNameOf_qualified]
  rfl

end Testing
end ScopeAgent
