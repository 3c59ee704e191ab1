/-
# Goroutines calling `GetFuncSource`

Any goroutine may call `GetFuncSource`; the package's `mutex` orders the calls.  `Lock`
(line 40) waits while another goroutine holds the mutex, and `Unlock` (line 81) is the only
place that releases it.  The `return nil` of line 50, taken when `parser.ParseFile` fails,
comes before it.

Each goroutine stands at one point of a call (`Phase`), and a schedule is any list of events:
a goroutine starts a call, or one goroutine makes its next step (`Sys.handle`, `Sys.run`).
The read of line 85 comes after the `Unlock` and is taken here as one step.

* An event changes no other goroutine's phase (`handle_goroutines_of_ne`), and a goroutine in
  lines 41-81 is the only one there and holds the mutex (`Sys.Exclusive`, kept by every event:
  `Sys.Exclusive.run`).
* A call run with no other goroutine scheduled is the sequential call of
  `ScopeAgent.Ast.Sources` (`run_soloCall`).
* When the mutex is held and no goroutine is in lines 41-81 (`Sys.Stuck`), no event releases
  it (`Sys.Stuck.handle`), and a goroutine waiting at `Lock` waits for ever
  (`Sys.Stuck.run_locking`).  The call whose file does not parse leaves the system there:
  every later call blocks at `Lock` over every later schedule
  (`getFuncSource_parse_error_deadlock`).
-/

import ScopeAgent.Ast.Sources

namespace ScopeAgent
namespace Ast

/-! ## Goroutines and events -/

/-- Where a goroutine stands in a call of `GetFuncSource(pc)`. -/
inductive Phase
  /-- in no call yet -/
  | idle
  /-- at `mutex.Lock()` (line 40) -/
  | locking (pc : Nat)
  /-- holding the mutex, in lines 41-81 -/
  | holding (pc : Nat)
  /-- past `mutex.Unlock()`, at lines 83-85 -/
  | reading (pc : Nat)
  /-- returned `r` -/
  | returned (r : Option MethodCodeBoundaries)
  /-- panicked at line 85 -/
  | panicked
  deriving DecidableEq, Repr

/-- A goroutine that is in no call can start one. -/
def Phase.free : Phase → Bool
  | .idle => true
  | .returned _ => true
  | _ => false

/-- Where a goroutine stands after a call of `GetFuncSource(pc)` that ended as `o`. -/
def Outcome.toPhase (pc : Nat) : Outcome → Phase
  | .blocks => .locking pc
  | .panics => .panicked
  | .returns r => .returned r

/-- The package's state and every goroutine's phase. -/
structure Sys where
  methodCodes : MethodCodes
  locked : Bool
  goroutines : Nat → Phase

/-- No call made yet. -/
def Sys.init : Sys := ⟨fun _ => none, false, fun _ => .idle⟩

/-- What the scheduler does next. -/
inductive Event
  /-- goroutine `g` calls `GetFuncSource(pc)` -/
  | call (g pc : Nat)
  /-- goroutine `g` makes its next step -/
  | step (g : Nat)
  deriving DecidableEq, Repr

/-- The goroutine an event moves. -/
def Event.actor : Event → Nat
  | .call g _ => g
  | .step g => g

/-- The next step of goroutine `g`: `Lock` waits while the mutex is held; lines 41-81 either
return at line 50 with the mutex held or release it; lines 83-85 read the map. -/
def Sys.step (env : Env) (s : Sys) (g : Nat) : Sys :=
  match s.goroutines g with
  | .locking pc =>
    if s.locked then s else ⟨s.methodCodes, true, Function.update s.goroutines g (.holding pc)⟩
  | .holding pc =>
    match fill env (env.funcFile pc) s.methodCodes with
    | (mc, false) => ⟨mc, s.locked, Function.update s.goroutines g (.returned none)⟩
    | (mc, true) => ⟨mc, false, Function.update s.goroutines g (.reading pc)⟩
  | .reading pc =>
    ⟨s.methodCodes, s.locked,
      Function.update s.goroutines g ((lookup env s.methodCodes pc).toPhase pc)⟩
  | _ => s

/-- One event; a goroutine already in a call does not start another. -/
def Sys.handle (env : Env) (s : Sys) : Event → Sys
  | .call g pc =>
    if (s.goroutines g).free then
      ⟨s.methodCodes, s.locked, Function.update s.goroutines g (.locking pc)⟩
    else s
  | .step g => s.step env g

/-- A schedule of events. -/
def Sys.run (env : Env) (s : Sys) (evs : List Event) : Sys := evs.foldl (Sys.handle env) s

@[simp]
theorem Sys.run_nil (env : Env) (s : Sys) : s.run env [] = s := rfl

@[simp]
theorem Sys.run_cons (env : Env) (s : Sys) (e : Event) (evs : List Event) :
    s.run env (e :: evs) = (s.handle env e).run env evs := rfl

theorem Sys.run_append (env : Env) (s : Sys) (evs evs' : List Event) :
    s.run env (evs ++ evs') = (s.run env evs).run env evs' :=
  List.foldl_append _ _ _ _

/-! ## What an event leaves alone -/

theorem Outcome.toPhase_ne_holding (o : Outcome) (pc pc' : Nat) :
    o.toPhase pc ≠ .holding pc' := by
  cases o <;> nofun

/-- A goroutine in lines 41-81 after one goroutine moved to another phase was there before. -/
theorem eq_holding_of_update {f : Nat → Phase} {g h pc : Nat} {p : Phase}
    (hp : ∀ pc, p ≠ .holding pc) (hh : Function.update f g p h = .holding pc) :
    h ≠ g ∧ f h = .holding pc := by
  by_cases hhg : h = g
  · subst hhg
    rw [Function.update_same] at hh
    exact absurd hh (hp pc)
  · rw [Function.update_noteq hhg] at hh
    exact ⟨hhg, hh⟩

theorem handle_call_of_free (env : Env) {s : Sys} {g : Nat} (hg : (s.goroutines g).free = true)
    (pc : Nat) :
    s.handle env (.call g pc) =
      ⟨s.methodCodes, s.locked, Function.update s.goroutines g (.locking pc)⟩ := by
  rw [Sys.handle, if_pos hg]

/-- **An event moves its own goroutine only.** -/
theorem handle_goroutines_of_ne (env : Env) (s : Sys) {e : Event} {h : Nat} (hne : h ≠ e.actor) :
    (s.handle env e).goroutines h = s.goroutines h := by
  cases e with
  | call g pc =>
    simp only [Sys.handle]
    split_ifs
    · exact Function.update_noteq hne _ _
    · rfl
  | step g =>
    simp only [Sys.handle, Sys.step]
    split
    · split_ifs
      · rfl
      · exact Function.update_noteq hne _ _
    · split <;> exact Function.update_noteq hne _ _
    · exact Function.update_noteq hne _ _
    · rfl

/-! ## Mutual exclusion -/

/-- **Mutual exclusion**: a goroutine in lines 41-81 holds the mutex and is the only one
there. -/
def Sys.Exclusive (s : Sys) : Prop :=
  ∀ g pc, s.goroutines g = .holding pc →
    s.locked = true ∧ ∀ h pc', s.goroutines h = .holding pc' → h = g

theorem exclusive_init : Sys.init.Exclusive := fun _ _ h => nomatch h

/-- With the mutex free no goroutine is in lines 41-81. -/
theorem Sys.Exclusive.not_holding {s : Sys} (hs : s.Exclusive) (hfree : s.locked = false)
    (g pc : Nat) : s.goroutines g ≠ .holding pc :=
  fun hg => Bool.false_ne_true (hfree.symm.trans (hs g pc hg).1)

/-- Moving a goroutine to a phase outside lines 41-81 keeps mutual exclusion, when the mutex is
released only by the goroutine that held it. -/
theorem Sys.Exclusive.update {s : Sys} (hs : s.Exclusive) (g : Nat) (p : Phase)
    (hp : ∀ pc, p ≠ .holding pc) (mc : MethodCodes) {locked : Bool}
    (hl : locked = s.locked ∨ ∀ h pc, s.goroutines h = .holding pc → h = g) :
    Sys.Exclusive ⟨mc, locked, Function.update s.goroutines g p⟩ := by
  intro h pc hh
  obtain ⟨hhg, hh⟩ := eq_holding_of_update hp hh
  obtain ⟨hlk, huniq⟩ := hs h pc hh
  refine ⟨?_, fun h' pc' hh' => huniq h' pc' (eq_holding_of_update hp hh').2⟩
  rcases hl with rfl | hl
  · exact hlk
  · exact absurd (hl h pc hh) hhg

/-- Taking a free mutex keeps mutual exclusion. -/
theorem Sys.Exclusive.acquire {s : Sys} (hs : s.Exclusive) (hfree : s.locked = false)
    (g pc : Nat) :
    Sys.Exclusive ⟨s.methodCodes, true, Function.update s.goroutines g (.holding pc)⟩ := by
  have hold : ∀ h pc', Function.update s.goroutines g (.holding pc) h = .holding pc' →
      h = g := by
    intro h pc' hh
    by_contra hhg
    rw [Function.update_noteq hhg] at hh
    exact hs.not_holding hfree h pc' hh
  intro h pc' hh
  exact ⟨rfl, fun h' pc'' hh' => (hold h' pc'' hh').trans (hold h pc' hh).symm⟩

/-- **Every event keeps mutual exclusion.** -/
theorem Sys.Exclusive.handle {s : Sys} (hs : s.Exclusive) (env : Env) (e : Event) :
    (s.handle env e).Exclusive := by
  cases e with
  | call g pc =>
    simp only [Sys.handle]
    split_ifs
    · exact hs.update g (.locking pc) (fun _ => nofun) _ (.inl rfl)
    · exact hs
  | step g =>
    simp only [Sys.handle, Sys.step]
    split
    next pc _ =>
      split_ifs with hl
      · exact hs
      · exact hs.acquire (Bool.not_eq_true _ ▸ hl) g pc
    next pc hg =>
      split
      · exact hs.update g (.returned none) (fun _ => nofun) _ (.inl rfl)
      · exact hs.update g (.reading pc) (fun _ => nofun) _ (.inr (hs g pc hg).2)
    next pc _ => exact hs.update g _ (Outcome.toPhase_ne_holding _ _) _ (.inl rfl)
    next => exact hs

theorem Sys.Exclusive.run {s : Sys} (hs : s.Exclusive) (env : Env) (evs : List Event) :
    (s.run env evs).Exclusive := by
  induction evs generalizing s with
  | nil => exact hs
  | cons e evs ih => exact ih (hs.handle env e)

/-! ## A call run alone -/

/-- A call of goroutine `g` run to its end with no other goroutine scheduled: the call, the
`Lock`, lines 41-81 and lines 83-85. -/
def soloCall (g pc : Nat) : List Event := [.call g pc, .step g, .step g, .step g]

/-- **A call run alone is the sequential call**: the cache and the mutex end as
`getFuncSource` leaves them, the goroutine where its outcome puts it, and no other goroutine
moves. -/
theorem run_soloCall (env : Env) {s : Sys} {g : Nat} (hg : (s.goroutines g).free = true)
    (pc : Nat) :
    s.run env (soloCall g pc) =
      ⟨(getFuncSource env ⟨s.methodCodes, s.locked⟩ pc).2.methodCodes,
        (getFuncSource env ⟨s.methodCodes, s.locked⟩ pc).2.locked,
        Function.update s.goroutines g
          ((getFuncSource env ⟨s.methodCodes, s.locked⟩ pc).1.toPhase pc)⟩ := by
  obtain ⟨mc, locked, G⟩ := s
  dsimp only at hg
  cases locked with
  | true =>
    simp only [soloCall, Sys.run_cons, Sys.run_nil, Sys.handle, hg, Sys.step, ↓reduceIte,
      Function.update_same]
    rfl
  | false =>
    simp only [soloCall, Sys.run_cons, Sys.run_nil, Sys.handle, hg, Sys.step, ↓reduceIte,
      Bool.false_eq_true, Function.update_same, getFuncSource]
    rcases fill env (env.funcFile pc) mc with ⟨mc', _ | _⟩ <;>
      simp only [Function.update_same, Function.update_idem, Bool.false_eq_true, ↓reduceIte,
        Outcome.toPhase]

/-! ## A lost mutex -/

/-- **The mutex is lost**: it is held and no goroutine is in lines 41-81, where the only
`Unlock` is. -/
def Sys.Stuck (s : Sys) : Prop := s.locked = true ∧ ∀ g pc, s.goroutines g ≠ .holding pc

theorem Sys.Stuck.update {s : Sys} (hs : s.Stuck) (g : Nat) (p : Phase)
    (hp : ∀ pc, p ≠ .holding pc) (mc : MethodCodes) :
    Sys.Stuck ⟨mc, s.locked, Function.update s.goroutines g p⟩ :=
  ⟨hs.1, fun h pc hh => hs.2 h pc (eq_holding_of_update hp hh).2⟩

/-- **No event releases a lost mutex.** -/
theorem Sys.Stuck.handle {s : Sys} (hs : s.Stuck) (env : Env) (e : Event) :
    (s.handle env e).Stuck := by
  cases e with
  | call g pc =>
    simp only [Sys.handle]
    split_ifs
    · exact hs.update g (.locking pc) (fun _ => nofun) _
    · exact hs
  | step g =>
    simp only [Sys.handle, Sys.step]
    split
    next => rw [if_pos hs.1]; exact hs
    next pc hg => exact absurd hg (hs.2 g pc)
    next pc _ => exact hs.update g _ (Outcome.toPhase_ne_holding _ _) _
    next => exact hs

/-- **A goroutine waiting at `Lock` for a lost mutex waits through every event.** -/
theorem Sys.Stuck.handle_locking {s : Sys} (hs : s.Stuck) (env : Env) (e : Event) {h pc : Nat}
    (hh : s.goroutines h = .locking pc) : (s.handle env e).goroutines h = .locking pc := by
  by_cases hne : h = e.actor
  · cases e with
    | call g pc' =>
      obtain rfl : h = g := hne
      rw [Sys.handle, if_neg (by rw [hh]; exact Bool.false_ne_true), hh]
    | step g =>
      obtain rfl : h = g := hne
      rw [Sys.handle, Sys.step, hh]
      dsimp only
      rw [if_pos hs.1, hh]
  · rw [handle_goroutines_of_ne env s hne, hh]

theorem Sys.Stuck.run {s : Sys} (hs : s.Stuck) (env : Env) (evs : List Event) :
    (s.run env evs).Stuck := by
  induction evs generalizing s with
  | nil => exact hs
  | cons e evs ih => exact ih (hs.handle env e)

theorem Sys.Stuck.run_locking {s : Sys} (hs : s.Stuck) (env : Env) (evs : List Event)
    {h pc : Nat} (hh : s.goroutines h = .locking pc) :
    (s.run env evs).goroutines h = .locking pc := by
  induction evs generalizing s with
  | nil => exact hh
  | cons e evs ih => exact ih (hs.handle env e) (hs.handle_locking env e hh)

/-- **A call whose file does not parse loses the mutex.**  From a reachable state with the
mutex free, a call of `g`, run alone, on a file that is not cached and does not parse returns
`nil`; after it, whatever events come, a goroutine that calls `GetFuncSource` stays at `Lock`
whatever runs next. -/
theorem getFuncSource_parse_error_deadlock (env : Env) (evs₀ : List Event) (g pc : Nat)
    (hfree : (Sys.init.run env evs₀).locked = false)
    (hg : ((Sys.init.run env evs₀).goroutines g).free = true)
    (hnew : (Sys.init.run env evs₀).methodCodes (env.funcFile pc) = none)
    (hparse : env.parseFile (env.funcFile pc) = none) (evs : List Event) (h : Nat)
    (hh : ((Sys.init.run env (evs₀ ++ soloCall g pc ++ evs)).goroutines h).free = true)
    (pc' : Nat) (evs' : List Event) :
    (Sys.init.run env (evs₀ ++ soloCall g pc)).goroutines g = .returned none ∧
      (Sys.init.run env (evs₀ ++ soloCall g pc ++ evs ++ .call h pc' :: evs')).goroutines h =
        .locking pc' := by
  simp only [Sys.run_append, Sys.run_cons] at hh ⊢
  set s₀ := Sys.init.run env evs₀
  have hs₁ : s₀.run env (soloCall g pc) =
      ⟨Function.update s₀.methodCodes (env.funcFile pc) (some fun _ => none), true,
        Function.update s₀.goroutines g (.returned none)⟩ := by
    rw [run_soloCall env hg, getFuncSource_parse_error hfree hnew hparse]
    rfl
  have hstuck : (s₀.run env (soloCall g pc)).Stuck := by
    rw [hs₁]
    refine ⟨rfl, fun h' pc'' hh' => (exclusive_init.run env evs₀).not_holding hfree h' pc'' ?_⟩
    have hp : ∀ pc, Phase.returned none ≠ .holding pc := fun _ => nofun
    exact (eq_holding_of_update hp hh').2
  refine ⟨by rw [hs₁]; exact Function.update_same _ _ _, ?_⟩
  refine ((hstuck.run env evs).handle env _).run_locking env evs' ?_
  rw [handle_call_of_free env hh]
  exact Function.update_same _ _ _

/-- A program whose source files are not where the runtime says: every parse fails. -/
def missingEnv : Env := ⟨fun _ => lit "main.main", fun _ => lit "main.go", fun _ => none⟩

theorem getFuncSource_missing_file :
    (Sys.init.run missingEnv ([] ++ soloCall 0 0)).goroutines 0 = .returned none ∧
      (Sys.init.run missingEnv
        ([] ++ soloCall 0 0 ++ [] ++ [.call 1 0, .step 1, .step 1])).goroutines 1 = .locking 0 :=
  getFuncSource_parse_error_deadlock missingEnv [] 0 0 rfl rfl rfl rfl [] 1 rfl 0 [.step 1, .step 1]

end Ast
end ScopeAgent
