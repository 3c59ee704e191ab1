/-
# Sub-tests and the patch of `testing.T.Run`

`Init` (`src/instrumentation/testing/init.go`, lines 64-85) patches `testing.T.Run` with
`mpatch`, unless `SCOPE_DISABLE_MONKEY_PATCHING` is set to a non-empty value, so that sub-tests
are instrumented.  The patched `Run` takes the patch out (`runPatch.Unpatch()`, line 73), defers
putting it back (line 74), and calls the original `t.Run` with a function that first puts the
patch back (line 76) and then starts the sub-test's span.  The original `t.Run` runs the
sub-test in a new goroutine and blocks until it returns or calls `t.Parallel()`; a parallel
sub-test goes on only once its parent's test function has returned.  A call of `t.Run` goes to
the patched `Run` or to the original one as the patch stands when it is made, and the patch is
one flag for every goroutine (`Sys.patched`).

Each goroutine stands at one point (`Phase`), and a schedule is any list of events: a test
function calls `t.Run`, calls `t.Parallel()` or returns, or a goroutine makes its next step
(`Sys.handle`, `Sys.run`).  `Sys.subtests` records every sub-test started and whether the
patched `Run` started it.  Goroutine `0` is a running test function.

* Without `t.Parallel()`, at most one goroutine can move, and the patch is out only between an
  `Unpatch` and the `Patch` of the sub-test it starts (`Sys.Seq`, kept by every other event:
  `Sys.Seq.run`).  So every sub-test is instrumented (`run_subtests_instrumented`).
* Two tests that run at once, as parallel sub-tests do once their parent has returned, share
  the flag: from every reachable state with two running tests, one's `Unpatch` sends the
  other's call to the original `Run` (`Sys.Fresh.unpatch`), which starts its sub-test
  uninstrumented (`run_concurrent_uninstrumented`).
-/

import ScopeAgent.Go.Bytes

namespace ScopeAgent
namespace Testing

/-- `!set || envDMPatch == ""` for `SCOPE_DISABLE_MONKEY_PATCHING` (line 64): whether `Init`
patches `T.Run`. -/
def monkeyPatching (lookupEnv : Bytes → Option Bytes) : Bool :=
  match lookupEnv (lit "SCOPE_DISABLE_MONKEY_PATCHING") with
  | none => true
  | some v => v.isEmpty

/-! ## Goroutines and events -/

/-- Where a goroutine of the test binary stands. -/
inductive Phase
  /-- not started -/
  | unborn
  /-- running its test function -/
  | body
  /-- at a call of `t.Run` -/
  | calling
  /-- in the patched `Run`, at `runPatch.Unpatch()` (line 73) -/
  | unpatching
  /-- in the patched `Run`, calling the original `t.Run` (line 75) -/
  | starting
  /-- in the original `t.Run`, blocked on the sub-test `c`; `patchedRun` when the patched `Run`
  called it -/
  | waiting (patchedRun : Bool) (c : Nat)
  /-- the original `t.Run` returned to the patched one: at the deferred `runPatch.Patch()` -/
  | repatching
  /-- a sub-test the patched `Run` started, at `_ = runPatch.Patch()` (line 76) -/
  | childPatching
  /-- its test function returned -/
  | done
  deriving DecidableEq, Repr

/-- The patch, every goroutine's phase, which tests called `t.Parallel()`, each sub-test's
parent, the goroutine the next sub-test gets, and the sub-tests started with whether the
patched `Run` started them (what the instrumentation records, not state of the program). -/
structure Sys where
  patched : Bool
  goroutines : Nat → Phase
  parallel : Nat → Bool
  parentOf : Nat → Nat
  next : Nat
  subtests : List (Nat × Bool)

/-- One test function running, `T.Run` patched or not. -/
def Sys.init (patched : Bool) : Sys :=
  ⟨patched, fun g => if g = 0 then .body else .unborn, fun _ => false, fun _ => 0, 1, []⟩

/-- `g` runs its test function, and is not a parallel test waiting for its parent's function
to return. -/
def Sys.active (s : Sys) (g : Nat) : Bool :=
  s.goroutines g == .body && (!s.parallel g || s.goroutines (s.parentOf g) == .done)

/-- Goroutine `g` moves to `p`. -/
def Sys.move (s : Sys) (g : Nat) (p : Phase) : Sys :=
  { s with goroutines := Function.update s.goroutines g p }

/-- The original `t.Run` called by `g`: the sub-test gets the next goroutine, which starts at
`p`, and `g` blocks on it. -/
def Sys.spawn (s : Sys) (g : Nat) (p : Phase) (patchedRun : Bool) : Sys :=
  { s with
    goroutines :=
      Function.update (Function.update s.goroutines s.next p) g (.waiting patchedRun s.next)
    parentOf := Function.update s.parentOf s.next g
    next := s.next + 1
    subtests := s.subtests ++ [(s.next, patchedRun)] }

/-- The next step of goroutine `g`.  A call of `t.Run` goes to the patched `Run` while the
patch is in, to the original `t.Run` otherwise, which starts the sub-test's function itself. -/
def Sys.step (s : Sys) (g : Nat) : Sys :=
  match s.goroutines g with
  | .calling => if s.patched then s.move g .unpatching else s.spawn g .body false
  | .unpatching => { s.move g .starting with patched := false }
  | .starting => s.spawn g .childPatching true
  | .waiting patchedRun c =>
    if s.goroutines c = .done ∨ s.parallel c = true then
      s.move g (if patchedRun then .repatching else .body)
    else s
  | .repatching => { s.move g .body with patched := true }
  | .childPatching => { s.move g .body with patched := true }
  | _ => s

/-- What the scheduler does next. -/
inductive Event
  /-- the test function of `g` calls `t.Run` -/
  | call (g : Nat)
  /-- goroutine `g` makes its next step -/
  | step (g : Nat)
  /-- the test function of `g` calls `t.Parallel()` -/
  | parallel (g : Nat)
  /-- the test function of `g` returns -/
  | finish (g : Nat)
  deriving DecidableEq, Repr

def Event.isParallel : Event → Bool
  | .parallel _ => true
  | _ => false

/-- One event; only a test function that runs calls or returns. -/
def Sys.handle (s : Sys) : Event → Sys
  | .call g => if s.active g then s.move g .calling else s
  | .step g => s.step g
  | .parallel g => if s.active g then { s with parallel := Function.update s.parallel g true } else s
  | .finish g => if s.active g then s.move g .done else s

/-- A schedule of events. -/
def Sys.run (s : Sys) (evs : List Event) : Sys := evs.foldl Sys.handle s

@[simp]
theorem Sys.run_nil (s : Sys) : s.run [] = s := rfl

@[simp]
theorem Sys.run_cons (s : Sys) (e : Event) (evs : List Event) :
    s.run (e :: evs) = (s.handle e).run evs := rfl

section Effects

variable {s : Sys} {g : Nat} {p : Phase} {b : Bool}

@[simp]
theorem Sys.move_goroutines_self : (s.move g p).goroutines g = p := Function.update_same _ _ _

@[simp]
theorem Sys.move_patched : (s.move g p).patched = s.patched := rfl

@[simp]
theorem Sys.move_parallel : (s.move g p).parallel = s.parallel := rfl

@[simp]
theorem Sys.spawn_parallel : (s.spawn g p b).parallel = s.parallel := rfl

@[simp]
theorem Sys.spawn_goroutines_self : (s.spawn g p b).goroutines g = .waiting b s.next :=
  Function.update_same _ _ _

theorem Sys.spawn_goroutines_next (hg : g ≠ s.next) : (s.spawn g p b).goroutines s.next = p := by
  simp only [Sys.spawn, Function.update_noteq hg.symm, Function.update_same]

/-- `spawn` moves `g` and the goroutine `next` only. -/
theorem Sys.spawn_goroutines_of_ne {k : Nat} (hkg : k ≠ g) (hkn : k ≠ s.next) :
    (s.spawn g p b).goroutines k = s.goroutines k := by
  simp only [Sys.spawn, Function.update_noteq hkg, Function.update_noteq hkn]

end Effects

/-! ## One test at a time -/

/-- The phases in which a goroutine runs: not unborn, not blocked, not finished. -/
def Phase.running : Phase → Bool
  | .body | .calling | .unpatching | .starting | .repatching | .childPatching => true
  | _ => false

theorem Phase.ne_done_of_running {p : Phase} (hp : p.running = true) : p ≠ .done := by
  rintro rfl
  exact Bool.false_ne_true hp

theorem Phase.ne_waiting_of_running {p : Phase} (hp : p.running = true) (b : Bool) (c : Nat) :
    p ≠ .waiting b c := by
  rintro rfl
  exact Bool.false_ne_true hp

/-- `g` can move: it runs, or it is blocked in `t.Run` on a sub-test that has returned. -/
def Runnable (G : Nat → Phase) (g : Nat) : Prop :=
  (G g).running = true ∨ ∃ b c, G g = .waiting b c ∧ G c = .done

/-- A goroutine that can move and moves on to a running phase: the others can move as
before. -/
theorem runnable_update {G : Nat → Phase} {g : Nat} {p : Phase} (hg : G g ≠ .done)
    (hgr : Runnable G g) (hp : p.running = true) (h : Nat) :
    Runnable (Function.update G g p) h ↔ Runnable G h := by
  by_cases hhg : h = g
  · subst hhg
    exact iff_of_true (Or.inl (by rw [Function.update_same]; exact hp)) hgr
  · have hc : ∀ c, Function.update G g p c = .done ↔ G c = .done := fun c => by
      by_cases hcg : c = g
      · subst hcg
        simp only [Function.update_same, Phase.ne_done_of_running hp, hg]
      · rw [Function.update_noteq hcg]
    simp only [Runnable, Function.update_noteq hhg, hc]

/-- **One test at a time**: no test is parallel, at most one goroutine can move, a blocked
`t.Run` waits on its own sub-test, and the patch is out only while a patched `Run` is between
its `Unpatch` and the `Patch` of the sub-test it starts. -/
structure Sys.Seq (s : Sys) : Prop where
  noParallel : ∀ g, s.parallel g = false
  fresh : ∀ g, s.next ≤ g → s.goroutines g = .unborn
  waiting : ∀ g b c, s.goroutines g = .waiting b c → s.parentOf c = g ∧ c < s.next
  unique : ∀ g h, Runnable s.goroutines g → Runnable s.goroutines h → g = h
  unpatched : s.patched = false →
    ∃ g, s.goroutines g = .starting ∨ s.goroutines g = .childPatching
  instrumented : ∀ x ∈ s.subtests, x.2 = true

section Seq

variable {s : Sys} {g : Nat}

theorem Sys.Seq.lt_next (hs : s.Seq) (hgr : Runnable s.goroutines g) : g < s.next := by
  refine Nat.lt_of_not_le fun hle => ?_
  rcases hgr with hr | ⟨b, c, hw, -⟩ <;> rw [hs.fresh g hle] at *
  · exact Bool.false_ne_true hr
  · nomatch hw

/-- The goroutine that can move is the only one; so the patch is in unless that goroutine is
between an `Unpatch` and the `Patch` after it. -/
theorem Sys.Seq.patched (hs : s.Seq) (hgr : Runnable s.goroutines g)
    (hg : s.goroutines g ≠ .starting ∧ s.goroutines g ≠ .childPatching) :
    s.patched = true := by
  by_contra hp
  obtain ⟨w, hw⟩ := hs.unpatched (Bool.eq_false_iff.2 hp)
  have hwr : Runnable s.goroutines w := .inl (by rcases hw with hw | hw <;> rw [hw] <;> rfl)
  rw [hs.unique g w hgr hwr] at hg
  rcases hw with hw | hw
  · exact hg.1 hw
  · exact hg.2 hw

/-- A goroutine that can move moves on to a running phase, the patch set to `b`. -/
theorem Sys.Seq.move (hs : s.Seq) (hgr : Runnable s.goroutines g) (hgd : s.goroutines g ≠ .done)
    {p : Phase} (hp : p.running = true) (b : Bool)
    (hb : b = false → ∃ w, Function.update s.goroutines g p w = .starting ∨
      Function.update s.goroutines g p w = .childPatching) :
    Sys.Seq
      ⟨b, Function.update s.goroutines g p, s.parallel, s.parentOf, s.next, s.subtests⟩ where
  noParallel := hs.noParallel
  fresh k hk := by
    dsimp only at hk ⊢
    rw [Function.update_noteq (by have := hs.lt_next hgr; omega)]
    exact hs.fresh k hk
  waiting h b c hh := by
    dsimp only at hh ⊢
    by_cases hhg : h = g
    · subst hhg
      rw [Function.update_same] at hh
      exact absurd hh (Phase.ne_waiting_of_running hp b c)
    · rw [Function.update_noteq hhg] at hh
      exact hs.waiting h b c hh
  unique h h' hh hh' := hs.unique h h' ((runnable_update hgd hgr hp h).1 hh)
    ((runnable_update hgd hgr hp h').1 hh')
  unpatched := hb
  instrumented := hs.instrumented

/-- A test function that can move returns: only its parent's `t.Run`, blocked on it, can move
after it. -/
theorem Sys.Seq.finish (hs : s.Seq) (hg : s.goroutines g = .body) :
    Sys.Seq ⟨s.patched, Function.update s.goroutines g .done, s.parallel, s.parentOf, s.next,
      s.subtests⟩ := by
  have hgr : Runnable s.goroutines g := Or.inl (by rw [hg]; rfl)
  have parent : ∀ h, Runnable (Function.update s.goroutines g .done) h → s.parentOf g = h := by
    intro h hh
    have hhg : h ≠ g := by
      rintro rfl
      rcases hh with hh | ⟨b, c, hh, -⟩ <;> rw [Function.update_same] at hh
      · exact Bool.false_ne_true hh
      · nomatch hh
    rw [Runnable, Function.update_noteq hhg] at hh
    rcases hh with hh | ⟨b, c, hw, hc⟩
    · exact absurd (hs.unique h g (.inl hh) hgr) hhg
    · by_cases hcg : c = g
      · subst hcg
        exact (hs.waiting h b c hw).1
      · rw [Function.update_noteq hcg] at hc
        exact absurd (hs.unique h g (.inr ⟨b, c, hw, hc⟩) hgr) hhg
  refine ⟨hs.noParallel, fun k hk => ?_, fun h b c hh => ?_,
    fun h h' hh hh' => (parent h hh).symm.trans (parent h' hh'), fun hp => ?_, hs.instrumented⟩
  · dsimp only at hk ⊢
    rw [Function.update_noteq (by have := hs.lt_next hgr; omega)]
    exact hs.fresh k hk
  · dsimp only at hh ⊢
    have hhg : h ≠ g := by
      rintro rfl
      rw [Function.update_same] at hh
      nomatch hh
    rw [Function.update_noteq hhg] at hh
    exact hs.waiting h b c hh
  · exact absurd (hs.patched hgr (by rw [hg]; exact ⟨nofun, nofun⟩)) (by rw [hp]; nofun)

/-- The patched `Run` of the goroutine that can move calls the original `t.Run`: the sub-test,
at its `Patch`, is the goroutine that can move. -/
theorem Sys.Seq.spawn (hs : s.Seq) (hg : s.goroutines g = .starting) :
    (s.spawn g .childPatching true).Seq := by
  have hgr : Runnable s.goroutines g := Or.inl (by rw [hg]; rfl)
  have hgn : g ≠ s.next := Nat.ne_of_lt (hs.lt_next hgr)
  have hnext := Sys.spawn_goroutines_next (p := .childPatching) (b := true) hgn
  -- `g` now waits on its sub-test, which has not returned; any other goroutine that can move
  -- could move before, so it is `g`
  have only : ∀ h, Runnable (s.spawn g .childPatching true).goroutines h → h = s.next := by
    intro h hh
    by_contra hhn
    have hhg : h ≠ g := by
      rintro rfl
      rcases hh with hh | ⟨b, c, hh, hc⟩
      · rw [Sys.spawn_goroutines_self] at hh
        exact Bool.false_ne_true hh
      · rw [Sys.spawn_goroutines_self, Phase.waiting.injEq] at hh
        rw [← hh.2, hnext] at hc
        nomatch hc
    refine hhg (hs.unique h g ?_ hgr)
    rw [Runnable, Sys.spawn_goroutines_of_ne hhg hhn] at hh
    rcases hh with hh | ⟨b, c, hw, hc⟩
    · exact .inl hh
    · refine .inr ⟨b, c, hw, ?_⟩
      by_cases hcg : c = g
      · rw [hcg, Sys.spawn_goroutines_self] at hc
        nomatch hc
      by_cases hcn : c = s.next
      · rw [hcn, hnext] at hc
        nomatch hc
      rwa [Sys.spawn_goroutines_of_ne hcg hcn] at hc
  refine ⟨hs.noParallel, fun k hk => ?_, fun h b c hh => ?_,
    fun h h' hh hh' => (only h hh).trans (only h' hh').symm, fun _ => ⟨s.next, .inr hnext⟩,
    fun x hx => ?_⟩
  · have hk' : s.next < k := hk
    rw [Sys.spawn_goroutines_of_ne (by have := hs.lt_next hgr; omega) (by omega)]
    exact hs.fresh k (by omega)
  · by_cases hhg : h = g
    · rw [hhg, Sys.spawn_goroutines_self, Phase.waiting.injEq] at hh
      obtain ⟨-, rfl⟩ := hh
      exact ⟨hhg ▸ Function.update_same _ _ _, Nat.lt_succ_self _⟩
    by_cases hhn : h = s.next
    · rw [hhn, hnext] at hh
      nomatch hh
    rw [Sys.spawn_goroutines_of_ne hhg hhn] at hh
    obtain ⟨hp, hc⟩ := hs.waiting h b c hh
    exact ⟨(Function.update_noteq (Nat.ne_of_lt hc) _ _).trans hp, Nat.lt_succ_of_lt hc⟩
  · rcases List.mem_append.1 hx with hx | hx
    · exact hs.instrumented x hx
    · rw [List.mem_singleton.1 hx]

theorem Sys.active_body (h : s.active g = true) : s.goroutines g = .body := by
  simp only [Sys.active, Bool.and_eq_true, beq_iff_eq] at h
  exact h.1

/-- **Every event but `t.Parallel()` keeps one test at a time.** -/
theorem Sys.Seq.handle (hs : s.Seq) {e : Event} (he : e.isParallel = false) :
    (s.handle e).Seq := by
  cases e with
  | call g =>
    simp only [Sys.handle]
    split_ifs with ha
    · have hg := Sys.active_body ha
      have hgr : Runnable s.goroutines g := Or.inl (by rw [hg]; rfl)
      have hp := hs.patched hgr (by rw [hg]; exact ⟨nofun, nofun⟩)
      exact hs.move hgr (by rw [hg]; nofun) (p := .calling) rfl s.patched
        (fun h => absurd (h.symm.trans hp) nofun)
    · exact hs
  | step g =>
    simp only [Sys.handle, Sys.step]
    split
    next hg =>
      have hgr : Runnable s.goroutines g := Or.inl (by rw [hg]; rfl)
      have hp := hs.patched hgr (by rw [hg]; exact ⟨nofun, nofun⟩)
      rw [if_pos hp]
      exact hs.move hgr (by rw [hg]; nofun) (p := .unpatching) rfl s.patched
        (fun h => absurd (h.symm.trans hp) nofun)
    next hg =>
      exact hs.move (Or.inl (by rw [hg]; rfl)) (by rw [hg]; nofun) (p := .starting) rfl false
        (fun _ => ⟨g, .inl (Function.update_same _ _ _)⟩)
    next hg => exact hs.spawn hg
    next b c hg =>
      by_cases hc : s.goroutines c = .done ∨ s.parallel c = true
      · rw [if_pos hc]
        have hcd : s.goroutines c = .done := hc.resolve_right (by rw [hs.noParallel c]; nofun)
        have hgr : Runnable s.goroutines g := Or.inr ⟨b, c, hg, hcd⟩
        have hp := hs.patched hgr (by rw [hg]; exact ⟨nofun, nofun⟩)
        exact hs.move hgr (by rw [hg]; nofun) (by cases b <;> rfl) s.patched
          (fun h => absurd (h.symm.trans hp) nofun)
      · rw [if_neg hc]
        exact hs
    next hg =>
      exact hs.move (Or.inl (by rw [hg]; rfl)) (by rw [hg]; nofun) (p := .body) rfl true nofun
    next hg =>
      exact hs.move (Or.inl (by rw [hg]; rfl)) (by rw [hg]; nofun) (p := .body) rfl true nofun
    next => exact hs
  | parallel g => nomatch he
  | finish g =>
    simp only [Sys.handle]
    split_ifs with ha
    · exact hs.finish (Sys.active_body ha)
    · exact hs

theorem Sys.Seq.init : (Sys.init true).Seq where
  noParallel _ := rfl
  fresh g hg := by
    simp only [Sys.init] at hg ⊢
    rw [if_neg (by omega)]
  waiting g b c hg := by
    simp only [Sys.init] at hg
    split_ifs at hg
  unique g h hg hh := by
    have zero : ∀ k, Runnable (Sys.init true).goroutines k → k = 0 := fun k hk => by
      by_contra hk0
      simp only [Runnable, Sys.init, if_neg hk0] at hk
      rcases hk with hk | ⟨b, c, hk, -⟩
      · exact Bool.false_ne_true hk
      · nomatch hk
    exact (zero g hg).trans (zero h hh).symm
  unpatched := nofun
  instrumented := nofun

theorem Sys.Seq.run (hs : s.Seq) {evs : List Event} (hevs : ∀ e ∈ evs, e.isParallel = false) :
    (s.run evs).Seq := by
  induction evs generalizing s with
  | nil => exact hs
  | cons e evs ih =>
    rw [List.forall_mem_cons] at hevs
    exact ih (hs.handle hevs.1) hevs.2

end Seq

/-- **Without parallel tests every sub-test is instrumented.**  With `T.Run` patched (the
environment does not set `SCOPE_DISABLE_MONKEY_PATCHING`), under every schedule in which no test
calls `t.Parallel()`, every sub-test started goes through the patched `Run`. -/
theorem run_subtests_instrumented (lookupEnv : Bytes → Option Bytes)
    (henv : monkeyPatching lookupEnv = true) (evs : List Event)
    (hevs : ∀ e ∈ evs, e.isParallel = false) :
    ∀ x ∈ ((Sys.init (monkeyPatching lookupEnv)).run evs).subtests, x.2 = true := by
  rw [henv]
  exact (Sys.Seq.init.run hevs).instrumented

/-- With `SCOPE_DISABLE_MONKEY_PATCHING` unset, a test runs a sub-test to its end. -/
theorem run_subtests_instrumented_unset :
    monkeyPatching (fun _ => none) = true ∧
      (∀ e ∈ [Event.call 0, .step 0, .step 0, .step 0, .step 1, .step 0, .finish 1, .step 0,
        .step 0], e.isParallel = false) ∧
      ∀ x ∈ ((Sys.init (monkeyPatching fun _ => none)).run [.call 0, .step 0, .step 0, .step 0,
        .step 1, .step 0, .finish 1, .step 0, .step 0]).subtests, x.2 = true :=
  ⟨rfl, by decide, run_subtests_instrumented (fun _ => none) rfl _ (by decide)⟩

/-! ## Two tests at once -/

/-- The goroutines from `next` on are not started, nor parallel. -/
def Sys.Fresh (s : Sys) : Prop :=
  ∀ g, s.next ≤ g → s.goroutines g = .unborn ∧ s.parallel g = false

section Fresh

variable {s : Sys} {g : Nat}

theorem Sys.Fresh.lt_next (hs : s.Fresh) (hg : s.goroutines g ≠ .unborn) : g < s.next :=
  Nat.lt_of_not_le fun hle => hg (hs g hle).1

theorem Sys.Fresh.move (hs : s.Fresh) (hg : s.goroutines g ≠ .unborn) (p : Phase) (b : Bool) :
    Sys.Fresh
      ⟨b, Function.update s.goroutines g p, s.parallel, s.parentOf, s.next, s.subtests⟩ :=
  fun k hk => by
    dsimp only at hk ⊢
    rw [Function.update_noteq (by have := hs.lt_next hg; omega)]
    exact hs k hk

theorem Sys.Fresh.spawn (hs : s.Fresh) (hg : s.goroutines g ≠ .unborn) (p : Phase) (b : Bool) :
    (s.spawn g p b).Fresh := fun k hk => by
  have hk' : s.next < k := hk
  have hkg : k ≠ g := by have := hs.lt_next hg; omega
  rw [Sys.spawn_goroutines_of_ne hkg (Nat.ne_of_gt hk'), Sys.spawn_parallel]
  exact hs k (Nat.le_of_lt hk')

theorem Sys.Fresh.handle (hs : s.Fresh) (e : Event) : (s.handle e).Fresh := by
  cases e with
  | call g =>
    simp only [Sys.handle]
    split_ifs with ha
    · exact hs.move (by rw [Sys.active_body ha]; nofun) .calling s.patched
    · exact hs
  | step g =>
    simp only [Sys.handle, Sys.step]
    split
    next hg =>
      split_ifs
      · exact hs.move (by rw [hg]; nofun) .unpatching s.patched
      · exact hs.spawn (by rw [hg]; nofun) .body false
    next hg => exact hs.move (by rw [hg]; nofun) .starting false
    next hg => exact hs.spawn (by rw [hg]; nofun) .childPatching true
    next b c hg =>
      split
      · exact hs.move (by rw [hg]; nofun) _ s.patched
      · exact hs
    next hg => exact hs.move (by rw [hg]; nofun) .body true
    next hg => exact hs.move (by rw [hg]; nofun) .body true
    next => exact hs
  | parallel g =>
    simp only [Sys.handle]
    split_ifs with ha
    · intro k hk
      dsimp only at hk
      have hlt := hs.lt_next (g := g) (by rw [Sys.active_body ha]; nofun)
      refine ⟨(hs k hk).1, ?_⟩
      dsimp only
      rw [Function.update_noteq (by omega)]
      exact (hs k hk).2
    · exact hs
  | finish g =>
    simp only [Sys.handle]
    split_ifs with ha
    · exact hs.move (by rw [Sys.active_body ha]; nofun) .done s.patched
    · exact hs

theorem Sys.Fresh.init (patched : Bool) : (Sys.init patched).Fresh := fun g hg => by
  have hg1 : 1 ≤ g := hg
  exact ⟨if_neg (by omega), rfl⟩

theorem Sys.Fresh.run (hs : s.Fresh) (evs : List Event) : (s.run evs).Fresh := by
  induction evs generalizing s with
  | nil => exact hs
  | cons e evs ih => exact ih (hs.handle e)

end Fresh

theorem Sys.active_iff {s : Sys} {g : Nat} : s.active g = true ↔
    s.goroutines g = .body ∧ (s.parallel g = false ∨ s.goroutines (s.parentOf g) = .done) := by
  simp only [Sys.active, Bool.and_eq_true, beq_iff_eq, Bool.or_eq_true, Bool.not_eq_true']

theorem Sys.run_append (s : Sys) (evs evs' : List Event) :
    s.run (evs ++ evs') = (s.run evs).run evs' :=
  List.foldl_append _ _ _ _

/-- A call of `t.Run` while the patch is out goes to the original `t.Run`, which starts the
sub-test uninstrumented. -/
theorem Sys.call_step_unpatched {s : Sys} {h : Nat} (ha : s.active h = true)
    (hp : s.patched = false) :
    (s.run [.call h, .step h]).subtests = s.subtests ++ [(s.next, false)] := by
  simp only [Sys.run_cons, Sys.run_nil, Sys.handle, if_pos ha, Sys.step, Sys.move,
    Function.update_same, hp]
  rfl

/-- Events that move only `g` and the goroutine `next` keep every other test function that runs
running. -/
theorem Sys.Fresh.active_frame {s t : Sys} {g h : Nat} (hs : s.Fresh)
    (hgd : s.goroutines g ≠ .done) (hh : s.active h = true) (hgh : g ≠ h)
    (hG : ∀ k, k ≠ g → k ≠ s.next → t.goroutines k = s.goroutines k)
    (hP : t.parallel = s.parallel) (hpar : ∀ k, k ≠ s.next → t.parentOf k = s.parentOf k) :
    t.active h = true := by
  obtain ⟨hhb, hhp⟩ := Sys.active_iff.1 hh
  have hhn : h ≠ s.next := Nat.ne_of_lt (hs.lt_next (by rw [hhb]; nofun))
  rw [Sys.active_iff, hG h hgh.symm hhn, hP, hpar h hhn]
  refine ⟨hhb, hhp.imp_right fun hd => ?_⟩
  have hpg : s.parentOf h ≠ g := fun he => hgd (he ▸ hd)
  have hpn : s.parentOf h ≠ s.next := fun he => by
    have hu := (hs s.next (le_refl _)).1
    rw [← he, hd] at hu
    nomatch hu
  rw [hG _ hpg hpn, hd]

/-- A test function's call of `t.Run` and its next two steps leave the patch out: the patched
`Run` took it out, or the call went to the original `t.Run` with the patch already out.  Every
other test function that runs still runs. -/
theorem Sys.Fresh.unpatch {s : Sys} {g h : Nat} (hs : s.Fresh) (hgh : g ≠ h)
    (hg : s.active g = true) (hh : s.active h = true) :
    (s.run [.call g, .step g, .step g]).patched = false ∧
      (s.run [.call g, .step g, .step g]).active h = true := by
  have hgb := Sys.active_body hg
  have hgn : g ≠ s.next := Nat.ne_of_lt (hs.lt_next (by rw [hgb]; nofun))
  have hgd : s.goroutines g ≠ .done := by rw [hgb]; nofun
  cases hp : s.patched
  · -- the original `t.Run` starts the sub-test, which has not returned: `g` stays blocked
    have hrun : s.run [.call g, .step g, .step g] = (s.move g .calling).spawn g .body false := by
      simp only [Sys.run_cons, Sys.run_nil, Sys.handle, if_pos hg, Sys.step,
        Sys.move_goroutines_self, Sys.spawn_goroutines_self,
        Sys.spawn_goroutines_next (s := s.move g .calling) hgn, Sys.move_parallel,
        Sys.spawn_parallel, Sys.move_patched, hp, (hs (s.move g .calling).next (le_refl _)).2,
        Bool.false_eq_true, reduceCtorEq, or_self, ↓reduceIte]
    rw [hrun]
    exact ⟨hp, hs.active_frame hgd hh hgh
      (fun k hkg hkn => (Sys.spawn_goroutines_of_ne (s := s.move g .calling) hkg hkn).trans
        (Function.update_noteq hkg _ _)) rfl
      (fun k hkn => by simp only [Sys.spawn, Sys.move, Function.update_noteq hkn])⟩
  · -- the patched `Run` takes the patch out
    have hrun : s.run [.call g, .step g, .step g] =
        { ((s.move g .calling).move g .unpatching).move g .starting with patched := false } := by
      simp only [Sys.run_cons, Sys.run_nil, Sys.handle, if_pos hg, Sys.step,
        Sys.move_goroutines_self, Sys.move_patched, hp, ↓reduceIte]
    rw [hrun]
    exact ⟨rfl, hs.active_frame hgd hh hgh
      (fun k hkg _ => by simp only [Sys.move, Function.update_noteq hkg]) rfl (fun _ _ => rfl)⟩

/-- **Two tests at once can lose a sub-test's instrumentation.**  From every reachable state in
which two test functions run, as two parallel sub-tests do once their parent has returned:
when one calls `t.Run` and takes the patch out before the other calls `t.Run`, the second call
goes to the original `t.Run`, which starts its sub-test uninstrumented, whether the patch was in
or not. -/
theorem run_concurrent_uninstrumented (patched : Bool) (evs : List Event) {g h : Nat}
    (hgh : g ≠ h) (hg : ((Sys.init patched).run evs).active g = true)
    (hh : ((Sys.init patched).run evs).active h = true) :
    ∃ c, (((Sys.init patched).run evs).run
      [.call g, .step g, .step g, .call h, .step h]).subtests.getLast? = some (c, false) := by
  have hs := (Sys.Fresh.init patched).run evs
  generalize (Sys.init patched).run evs = s at hs hg hh ⊢
  obtain ⟨hp, ha⟩ := hs.unpatch hgh hg hh
  rw [show [Event.call g, .step g, .step g, .call h, .step h] =
      [.call g, .step g, .step g] ++ [.call h, .step h] from rfl, Sys.run_append,
    Sys.call_step_unpatched ha hp]
  exact ⟨_, List.getLast?_concat _⟩

/-- Test `0` starts the sub-tests `1` and `2`, each calls `t.Parallel()`, and test `0` returns:
both run, and the second `t.Run` of the two starts sub-test `3` uninstrumented. -/
theorem run_concurrent_parallel_subtests :
    (1 : Nat) ≠ 2 ∧
      ((Sys.init true).run [.call 0, .step 0, .step 0, .step 0, .step 1, .parallel 1, .step 0,
        .step 0, .call 0, .step 0, .step 0, .step 0, .step 2, .parallel 2, .step 0, .step 0,
        .finish 0]).active 1 = true ∧
      ((Sys.init true).run [.call 0, .step 0, .step 0, .step 0, .step 1, .parallel 1, .step 0,
        .step 0, .call 0, .step 0, .step 0, .step 0, .step 2, .parallel 2, .step 0, .step 0,
        .finish 0]).active 2 = true ∧
      ∃ c, (((Sys.init true).run [.call 0, .step 0, .step 0, .step 0, .step 1, .parallel 1,
        .step 0, .step 0, .call 0, .step 0, .step 0, .step 0, .step 2, .parallel 2, .step 0,
        .step 0, .finish 0]).run [.call 1, .step 1, .step 1, .call 2, .step 2]).subtests.getLast? =
        some (c, false) :=
  ⟨by decide, rfl, rfl, run_concurrent_uninstrumented true _ (by decide) rfl rfl⟩

end Testing
end ScopeAgent
