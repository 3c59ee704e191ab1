/-
# Where a function's source is

`ast.GetFuncSource` (`src/ast/sources.go`, lines 36-86) finds the source boundaries of the
function running at a program counter.  `runtime.FuncForPC` gives the function's name and
file; under the package's `mutex` the file is parsed once with `go/parser` and every function
declaration with a body is stored in a per-file map under its name (lines 40-81); after the
`Unlock` the name is cut at `.` and its second piece looked up in that map (lines 83-85).

What the call reads outside the package is a parameter (`Env`): the runtime's name and file
for each program counter, and what `parser.ParseFile` makes of each file, a syntax tree whose
positions are valid (`ParsedFile`) or an error.

* Every file map in the cache is the one the file's parse builds (`Cached`), and a call that
  finds or builds it answers as the cache-free `funcSource` does (`getFuncSource_eq_funcSource`):
  the first call for a file and every later one read the same map.
* The key is the second `.`-separated piece of `P + "." + F` (`Split` of the name): `F` when
  the import path `P` has no `.` (`getFuncSource_plain_path`), otherwise the second piece of
  `P` itself (`getFuncSource_dotted_path`).  For this repository's own packages, under
  `go.undefinedlabs.com`, that piece is `undefinedlabs`.
* When the file does not parse, line 50 returns `nil` with the mutex still held
  (`getFuncSource_parse_error`); `ScopeAgent.Ast.Goroutines` follows the other goroutines.
-/

import ScopeAgent.Go.Bytes

namespace ScopeAgent
namespace Ast

open Strings

/-! ## The syntax tree, as the loop reads it -/

/-- `CodePos`. -/
structure CodePos where
  line : Nat
  column : Nat
  deriving DecidableEq, Repr

/-- `MethodCodeBoundaries`. -/
structure MethodCodeBoundaries where
  package : Bytes
  name : Bytes
  file : Bytes
  start : CodePos
  /-- `End` -/
  endPos : CodePos
  deriving DecidableEq, Repr

/-- `token.Pos`: an offset in the file set, `token.NoPos` being `0`. -/
abbrev Pos := Nat

/-- `token.Pos.IsValid`. -/
def Pos.isValid (p : Pos) : Bool := p != 0

/-- What the loop reads of an `*ast.FuncDecl`: `Name.String()`, `Pos()`, and `Body.End()` when
`Body != nil`. -/
structure FuncDecl where
  name : Bytes
  pos : Pos
  bodyEnd : Option Pos
  deriving DecidableEq, Repr

/-- A declaration of `f.Decls`: a function or a method, or a `*ast.GenDecl`. -/
inductive Decl
  | func (d : FuncDecl)
  | gen
  deriving DecidableEq, Repr

/-- A file that `parser.ParseFile(fSet, mFile, nil, 0)` parses: the package name
`f.Name.String()`, the declarations, and `fSet.PositionFor(·, true)` as a line and a column.
The parser gives every function it builds valid positions. -/
structure ParsedFile where
  packageName : Bytes
  decls : List Decl
  positionFor : Pos → CodePos
  valid : ∀ d, Decl.func d ∈ decls → Pos.isValid d.pos ∧ ∀ e ∈ d.bodyEnd, Pos.isValid e

/-- What `GetFuncSource` reads outside its package. -/
structure Env where
  /-- `runtime.FuncForPC(pc).Name()` -/
  funcName : Nat → Bytes
  /-- the file of `runtime.FuncForPC(pc).FileLine(pc)` -/
  funcFile : Nat → Bytes
  /-- `parser.ParseFile`; `none` when it returns an error (a missing, unreadable or invalid
  file) -/
  parseFile : Bytes → Option ParsedFile

/-! ## The cache -/

/-- A file's `map[string]*MethodCodeBoundaries`; a missing name reads as `nil`. -/
abbrev FileCodes := Bytes → Option MethodCodeBoundaries

/-- `methodCodes`; a missing file reads as `nil`.  A nil `methodCodes` reads as an empty map,
so the `make` of lines 41-43 changes no read. -/
abbrev MethodCodes := Bytes → Option FileCodes

/-- One round of the loop over `f.Decls` (lines 55-78): a function declaration with a body and
valid positions is stored under its name. -/
def addDecl (mFile packageName : Bytes) (positionFor : Pos → CodePos) (m : FileCodes) :
    Decl → FileCodes
  | .func fDecl =>
    match fDecl.bodyEnd with
    | some bEnd =>
      if Pos.isValid fDecl.pos && Pos.isValid bEnd then
        Function.update m fDecl.name
          (some ⟨packageName, fDecl.name, mFile, positionFor fDecl.pos, positionFor bEnd⟩)
      else m
    | none => m
  | .gen => m

/-- The file's map after the loop (lines 53-79), from the empty map of line 45. -/
def fileCodes (mFile : Bytes) (f : ParsedFile) : FileCodes :=
  f.decls.foldl (addDecl mFile f.packageName f.positionFor) fun _ => none

/-- Lines 44-51 and 53-79, under the lock: the file's map, built on the first call for the
file.  `false` when `ParseFile` fails: line 50 returns there, the empty map of line 45 left in
place. -/
def fill (env : Env) (mFile : Bytes) (mc : MethodCodes) : MethodCodes × Bool :=
  match mc mFile with
  | some _ => (mc, true)
  | none =>
    let mc := Function.update mc mFile (some fun _ => none)
    match env.parseFile mFile with
    | none => (mc, false)
    | some f => (Function.update mc mFile (some (fileCodes mFile f)), true)

/-- How a call of `GetFuncSource` ends. -/
inductive Outcome
  /-- `mutex.Lock()` does not return -/
  | blocks
  /-- `funcNameParts[1]` is out of range -/
  | panics
  /-- the call returns `r` -/
  | returns (r : Option MethodCodeBoundaries)
  deriving DecidableEq, Repr

/-- `.` -/
abbrev dot : UInt8 := 0x2e

/-- Lines 83-85, after the `Unlock`: the second `.`-separated piece of the function's name,
looked up in the file's map. -/
def lookup (env : Env) (mc : MethodCodes) (pc : Nat) : Outcome :=
  match (split (env.funcName pc) dot)[1]? with
  | none => .panics
  | some name => .returns ((mc (env.funcFile pc)).bind fun m => m name)

/-- The package's state: `methodCodes`, and whether `mutex` is held. -/
structure State where
  methodCodes : MethodCodes
  locked : Bool

/-- The state before the first call. -/
def State.init : State := ⟨fun _ => none, false⟩

/-- `GetFuncSource(pc)`, with no other goroutine running: a held mutex blocks it; a parse
error returns `nil` with the mutex held; otherwise the mutex is released and the name looked
up. -/
def getFuncSource (env : Env) (s : State) (pc : Nat) : Outcome × State :=
  if s.locked then (.blocks, s)
  else
    match fill env (env.funcFile pc) s.methodCodes with
    | (mc, false) => (.returns none, ⟨mc, true⟩)
    | (mc, true) => (lookup env mc pc, ⟨mc, false⟩)

/-- Calls of `GetFuncSource` one after the other. -/
def calls (env : Env) (s : State) (pcs : List Nat) : State :=
  pcs.foldl (fun s pc => (getFuncSource env s pc).2) s

@[simp]
theorem calls_nil (env : Env) (s : State) : calls env s [] = s := rfl

@[simp]
theorem calls_cons (env : Env) (s : State) (pc : Nat) (pcs : List Nat) :
    calls env s (pc :: pcs) = calls env (getFuncSource env s pc).2 pcs := rfl

/-! ## The map a file's declarations make -/

section Loop

variable {mFile packageName : Bytes} {positionFor : Pos → CodePos}

/-- A declaration that is no function named `k` leaves the entry for `k`. -/
theorem addDecl_apply_of_ne {m : FileCodes} {x : Decl} {k : Bytes}
    (h : ∀ fd, x = .func fd → fd.name ≠ k) :
    addDecl mFile packageName positionFor m x k = m k := by
  cases x with
  | gen => rfl
  | func fd =>
    obtain ⟨name, pos, _ | e⟩ := fd
    · rfl
    · dsimp only [addDecl]
      split_ifs
      · exact Function.update_noteq (h _ rfl).symm _ _
      · rfl

theorem foldl_addDecl_apply_of_ne {decls : List Decl} {k : Bytes}
    (h : ∀ x ∈ decls, ∀ fd, x = .func fd → fd.name ≠ k) (m : FileCodes) :
    decls.foldl (addDecl mFile packageName positionFor) m k = m k := by
  induction decls generalizing m with
  | nil => rfl
  | cons x decls ih =>
    rw [List.forall_mem_cons] at h
    rw [List.foldl_cons, ih h.2, addDecl_apply_of_ne h.1]

/-- The only function named `d.name` among the declarations is stored under its name, with its
package, file and positions. -/
theorem foldl_addDecl_unique {decls : List Decl} {d : FuncDecl} (hd : Decl.func d ∈ decls)
    {e : Pos} (hbody : d.bodyEnd = some e) (hvalid : (Pos.isValid d.pos && Pos.isValid e) = true)
    (huniq : ∀ d', Decl.func d' ∈ decls → d'.name = d.name → d' = d) (m : FileCodes) :
    decls.foldl (addDecl mFile packageName positionFor) m d.name =
      some ⟨packageName, d.name, mFile, positionFor d.pos, positionFor e⟩ := by
  induction decls generalizing m with
  | nil => nomatch hd
  | cons x decls ih =>
    rw [List.foldl_cons]
    by_cases hrest : Decl.func d ∈ decls
    · exact ih hrest (fun d' h => huniq d' (List.mem_cons_of_mem x h)) _
    · obtain rfl : Decl.func d = x := (List.mem_cons.1 hd).resolve_right hrest
      have hne : ∀ y ∈ decls, ∀ fd, y = .func fd → fd.name ≠ d.name := by
        rintro y hy fd rfl hname
        exact hrest (huniq fd (List.mem_cons_of_mem _ hy) hname ▸ hy)
      rw [foldl_addDecl_apply_of_ne hne, addDecl, hbody]
      dsimp only
      rw [if_pos hvalid, Function.update_same]

end Loop

/-- **A function with a body, the only one of its name in a file that parses**, is stored under
its name. -/
theorem fileCodes_unique {mFile : Bytes} {f : ParsedFile} {d : FuncDecl}
    (hd : Decl.func d ∈ f.decls) {e : Pos} (hbody : d.bodyEnd = some e)
    (huniq : ∀ d', Decl.func d' ∈ f.decls → d'.name = d.name → d' = d) :
    fileCodes mFile f d.name =
      some ⟨f.packageName, d.name, mFile, f.positionFor d.pos, f.positionFor e⟩ := by
  have hvalid := f.valid d hd
  exact foldl_addDecl_unique hd hbody (by rw [hvalid.1, hvalid.2 e hbody]; rfl) huniq _

/-! ## The cache agrees with the parse -/

/-- The map the parse of `file` builds; the empty map of line 45 when the parse fails. -/
def parsedCodes (env : Env) (file : Bytes) : FileCodes :=
  match env.parseFile file with
  | some f => fileCodes file f
  | none => fun _ => none

theorem parsedCodes_of_parseFile {env : Env} {file : Bytes} {f : ParsedFile}
    (h : env.parseFile file = some f) : parsedCodes env file = fileCodes file f := by
  rw [parsedCodes, h]

/-- Every file map in the cache is the one the file's parse builds. -/
def Cached (env : Env) (mc : MethodCodes) : Prop :=
  ∀ file m, mc file = some m → m = parsedCodes env file

theorem cached_init (env : Env) : Cached env State.init.methodCodes :=
  fun _ _ h => nomatch h

/-- Storing a file's parse keeps the cache agreeing with the parse. -/
theorem Cached.update {env : Env} {mc : MethodCodes} (hc : Cached env mc) (file : Bytes) :
    Cached env (Function.update mc file (some (parsedCodes env file))) := by
  intro file' m h
  by_cases hf : file' = file
  · subst hf
    rw [Function.update_same] at h
    exact (Option.some.inj h).symm
  · rw [Function.update_noteq hf] at h
    exact hc file' m h

/-- `fill` stores the parse's map, and fails only on a file neither cached nor parsed. -/
theorem fill_eq {env : Env} {mc : MethodCodes} (hc : Cached env mc) (file : Bytes) :
    fill env file mc = (Function.update mc file (some (parsedCodes env file)),
      (mc file).isSome || (env.parseFile file).isSome) := by
  unfold fill
  cases hm : mc file with
  | some m =>
    rw [← hc file m hm, ← hm, Function.update_eq_self, hm]
    rfl
  | none =>
    dsimp only
    cases hp : env.parseFile file with
    | none => rw [parsedCodes, hp]; rfl
    | some f =>
      rw [parsedCodes_of_parseFile hp]
      dsimp only
      rw [Function.update_idem]
      rfl

/-- **What a call answers**, read from the parse with no cache: the second `.`-separated piece
of the function's name, looked up in the map its file's parse builds. -/
def funcSource (env : Env) (pc : Nat) : Outcome :=
  match (split (env.funcName pc) dot)[1]? with
  | none => .panics
  | some name => .returns (parsedCodes env (env.funcFile pc) name)

theorem funcSource_of_key {env : Env} {pc : Nat} {k : Bytes}
    (h : (split (env.funcName pc) dot)[1]? = some k) :
    funcSource env pc = .returns (parsedCodes env (env.funcFile pc) k) := by
  rw [funcSource, h]

theorem lookup_update (env : Env) (mc : MethodCodes) (pc : Nat) :
    lookup env (Function.update mc (env.funcFile pc) (some (parsedCodes env (env.funcFile pc))))
      pc = funcSource env pc := by
  simp only [lookup, funcSource, Function.update_same, Option.some_bind]

/-- **A call that finds or builds its file's map** answers as `funcSource`, releases the mutex
and leaves the cache agreeing with the parse. -/
theorem getFuncSource_eq_funcSource {env : Env} {s : State} (hc : Cached env s.methodCodes)
    (hfree : s.locked = false) {pc : Nat}
    (hok : ((s.methodCodes (env.funcFile pc)).isSome ||
      (env.parseFile (env.funcFile pc)).isSome) = true) :
    getFuncSource env s pc = (funcSource env pc,
      ⟨Function.update s.methodCodes (env.funcFile pc) (some (parsedCodes env (env.funcFile pc))),
        false⟩) := by
  rw [getFuncSource, if_neg (by rw [hfree]; decide), fill_eq hc, hok]
  dsimp only
  rw [lookup_update]

/-- **A call whose file is neither cached nor parses** returns `nil` at line 50 with the mutex
held; the file's map is left empty. -/
theorem getFuncSource_parse_error {env : Env} {s : State} (hfree : s.locked = false) {pc : Nat}
    (hnew : s.methodCodes (env.funcFile pc) = none)
    (hparse : env.parseFile (env.funcFile pc) = none) :
    getFuncSource env s pc =
      (.returns none,
        ⟨Function.update s.methodCodes (env.funcFile pc) (some fun _ => none), true⟩) := by
  rw [getFuncSource, if_neg (by rw [hfree]; decide), fill, hnew]
  dsimp only
  rw [hparse]

/-- After calls whose files all parse the mutex is free and the cache agrees with the parse. -/
theorem calls_cached {env : Env} {s : State} (hc : Cached env s.methodCodes)
    (hfree : s.locked = false) {pcs : List Nat}
    (hpcs : ∀ q ∈ pcs, (env.parseFile (env.funcFile q)).isSome) :
    Cached env (calls env s pcs).methodCodes ∧ (calls env s pcs).locked = false := by
  induction pcs generalizing s with
  | nil => exact ⟨hc, hfree⟩
  | cons q pcs ih =>
    rw [List.forall_mem_cons] at hpcs
    rw [calls_cons, getFuncSource_eq_funcSource hc hfree (by rw [hpcs.1, Bool.or_true])]
    exact ih (hc.update _) rfl hpcs.2

/-! ## The key a call looks up -/

/-- After calls on files that parse, a call whose name has second piece `k` and whose file
parses returns what the file's map holds under `k`. -/
theorem getFuncSource_calls_of_key {env : Env} {pcs : List Nat}
    (hpcs : ∀ q ∈ pcs, (env.parseFile (env.funcFile q)).isSome) {pc : Nat} {k : Bytes}
    (hkey : (split (env.funcName pc) dot)[1]? = some k) {f : ParsedFile}
    (hparse : env.parseFile (env.funcFile pc) = some f) :
    (getFuncSource env (calls env State.init pcs) pc).1 =
      .returns (fileCodes (env.funcFile pc) f k) := by
  obtain ⟨hc, hfree⟩ := calls_cached (cached_init env) rfl hpcs
  rw [getFuncSource_eq_funcSource hc hfree (by rw [hparse, Option.isSome_some, Bool.or_true]),
    funcSource_of_key hkey, parsedCodes_of_parseFile hparse]

/-- **For an import path without a `.`** a call, the first for the file or one served from the
cache after calls on files that parse, returns the boundaries of the function `F` the program
counter is in, when `F` has a body and no other function of its file has its name. -/
theorem getFuncSource_plain_path (env : Env) (pcs : List Nat)
    (hpcs : ∀ q ∈ pcs, (env.parseFile (env.funcFile q)).isSome) {pc : Nat} {P F : Bytes}
    (hname : env.funcName pc = P ++ dot :: F) (hP : dot ∉ P) (hF : dot ∉ F) {f : ParsedFile}
    (hparse : env.parseFile (env.funcFile pc) = some f) {d : FuncDecl}
    (hd : Decl.func d ∈ f.decls) (hdF : d.name = F) {e : Pos} (hbody : d.bodyEnd = some e)
    (huniq : ∀ d', Decl.func d' ∈ f.decls → d'.name = F → d' = d) :
    (getFuncSource env (calls env State.init pcs) pc).1 =
      .returns
        (some ⟨f.packageName, F, env.funcFile pc, f.positionFor d.pos, f.positionFor e⟩) := by
  have hkey : (split (env.funcName pc) dot)[1]? = some F := by
    rw [hname, split_append_cons_getElem?_one hF, if_neg hP]
  rw [getFuncSource_calls_of_key hpcs hkey hparse, ← hdF,
    fileCodes_unique hd hbody fun d' h hn => huniq d' h (hn.trans hdF)]

/-- **For an import path with a `.`** the key is the second piece of the import path, not the
function's name: the call returns what the file's map holds under that piece. -/
theorem getFuncSource_dotted_path (env : Env) (pcs : List Nat)
    (hpcs : ∀ q ∈ pcs, (env.parseFile (env.funcFile q)).isSome) {pc : Nat} {P F : Bytes}
    (hname : env.funcName pc = P ++ dot :: F) (hP : dot ∈ P) (hF : dot ∉ F) {f : ParsedFile}
    (hparse : env.parseFile (env.funcFile pc) = some f) :
    (getFuncSource env (calls env State.init pcs) pc).1 =
      .returns (fileCodes (env.funcFile pc) f ((split P dot).getD 1 [])) :=
  getFuncSource_calls_of_key hpcs
    (by rw [hname, split_append_cons_getElem?_one hF, if_pos hP, getElem?_one_split_of_mem hP])
    hparse

/-- `src/ast/sources.go` as `ParseFile` reads it: the `import`, `var` and two `type`
declarations, then `GetFuncSourceFromCaller` (lines 30-33) and `GetFuncSource` (lines 36-86).
A position is `1000 * line + column`. -/
def sourcesGo : ParsedFile where
  packageName := lit "ast"
  decls := [.gen, .gen, .gen, .gen, .func ⟨lit "GetFuncSourceFromCaller", 30001, some 33002⟩,
    .func ⟨lit "GetFuncSource", 36001, some 86002⟩]
  positionFor p := ⟨p / 1000, p % 1000⟩
  valid := by
    intro d hd
    simp only [List.mem_cons, Decl.func.injEq, reduceCtorEq, List.mem_singleton,
      List.mem_nil_iff, or_false, false_or] at hd
    rcases hd with rfl | rfl <;> simp [Pos.isValid]

/-- A program counter inside `GetFuncSource`, in this repository's module
`go.undefinedlabs.com/scopeagent`. -/
def selfEnv : Env where
  funcName _ := lit "go.undefinedlabs.com/scopeagent/ast" ++ dot :: lit "GetFuncSource"
  funcFile _ := lit "ast/sources.go"
  parseFile _ := some sourcesGo

theorem getFuncSource_self :
    (getFuncSource selfEnv State.init 0).1 = .returns none ∧
      fileCodes (lit "ast/sources.go") sourcesGo (lit "GetFuncSource") =
        some ⟨lit "ast", lit "GetFuncSource", lit "ast/sources.go", ⟨36, 1⟩, ⟨86, 2⟩⟩ :=
  ⟨(getFuncSource_dotted_path selfEnv [] (fun _ h => nomatch h) rfl (by decide) (by decide)
    rfl).trans (by decide), by decide⟩

/-- The same function in a module whose path has no `.`. -/
def plainEnv : Env where
  funcName _ := lit "scopeagent/ast" ++ dot :: lit "GetFuncSource"
  funcFile _ := lit "ast/sources.go"
  parseFile _ := some sourcesGo

theorem sourcesGo_unique (d : FuncDecl) (hd : Decl.func d ∈ sourcesGo.decls)
    (hn : d.name = lit "GetFuncSource") : d = ⟨lit "GetFuncSource", 36001, some 86002⟩ := by
  simp only [sourcesGo, List.mem_cons, Decl.func.injEq, reduceCtorEq, List.mem_singleton,
    List.mem_nil_iff, or_false, false_or] at hd
  rcases hd with rfl | rfl
  · exact absurd hn (by decide)
  · rfl

theorem getFuncSource_plain :
    (getFuncSource plainEnv State.init 0).1 =
      .returns (some ⟨lit "ast", lit "GetFuncSource", lit "ast/sources.go", ⟨36, 1⟩, ⟨86, 2⟩⟩) :=
  getFuncSource_plain_path plainEnv [] (fun _ h => nomatch h) rfl (by decide) (by decide) rfl
    (by decide) rfl
    (rfl : (⟨lit "GetFuncSource", 36001, some 86002⟩ : FuncDecl).bodyEnd = some 86002)
    sourcesGo_unique

end Ast
end ScopeAgent
