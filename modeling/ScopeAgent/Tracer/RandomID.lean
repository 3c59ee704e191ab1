/-
# The span id generator

`randomID` and `randomID2` (`src/tracer/propagation_ot.go`, lines 296-306; the copy at lines
254-264 differs only in its seed) draw from one `math/rand` generator, `seededIDGen`, shared by
every goroutine.  "The golang rand generators are *not* intrinsically thread-safe": a draw,
`rngSource.Uint64`, reads the source's state and then writes the next one, so two draws that
overlap can read the same state, hand out the same id and lose a step.  `seededIDLock` is held
around the draws and released by the deferred `Unlock` as the call returns.

The source is a parameter, its `Uint64` step from a state to a value and the next state
(`Source`); `Int63` keeps the low 63 bits of the value.  The ids the source gives from its seed
state, one draw after another, are `draws`, and the calls made one after another with no other
goroutine running are `seqCalls`: they hand out the stream's draws in order (`seqCalls_eq`).

* A call run alone is the sequential call (`run_soloCall_seqCall`).
* Under every schedule of calls from any goroutines, at most one goroutine is between `Lock`
  and `Unlock`, the state its draw read is still the source's state, and its ids are the draws
  from where the returned calls left the source (`Gen.Inv`, kept by every event:
  `Gen.Inv.run`).  So the calls are linearizable: made one after another in the order they
  released the lock, they return what each returned (`run_linearizable`), and the ids handed
  out are the stream's first draws, none lost and none handed out twice (`run_ids_draws`).
-/

import Mathlib.Algebra.BigOperators.Group.List
import Mathlib.Algebra.Order.Ring.Nat

namespace ScopeAgent
namespace RandomID

variable {σ : Type}

/-! ## The source and its stream -/

/-- `rngSource.Uint64`: from a state, the value drawn and the next state. -/
abbrev Source (σ : Type) := σ → UInt64 × σ

/-- `rngMask`, `1<<63 - 1`. -/
def rngMask : UInt64 := 0x7FFFFFFFFFFFFFFF

/-- `uint64(seededIDGen.Int63())` from the value `Uint64` drew: `int64(rng.Uint64() & rngMask)`. -/
def int63 (x : UInt64) : UInt64 := x &&& rngMask

/-- The source's state after `n` draws from `s₀`. -/
def stream (src : Source σ) (s₀ : σ) : Nat → σ
  | 0 => s₀
  | n + 1 => (src (stream src s₀ n)).2

/-- The first `n` ids the source gives from `s₀`, in order. -/
def draws (src : Source σ) (s₀ : σ) : Nat → List UInt64
  | 0 => []
  | n + 1 => draws src s₀ n ++ [int63 (src (stream src s₀ n)).1]

/-! ## The calls one after another -/

/-- The function a goroutine calls. -/
inductive Kind
  /-- `randomID` -/
  | one
  /-- `randomID2` -/
  | two
  deriving DecidableEq, Repr

/-- How many ids the call draws. -/
def Kind.count : Kind → Nat
  | .one => 1
  | .two => 2

/-- `randomID()` with no other goroutine running: one draw. -/
def randomID (src : Source σ) (s : σ) : UInt64 × σ :=
  (int63 (src s).1, (src s).2)

/-- `randomID2()` with no other goroutine running: two draws, in order. -/
def randomID2 (src : Source σ) (s : σ) : (UInt64 × UInt64) × σ :=
  let (a, s) := randomID src s
  let (b, s) := randomID src s
  ((a, b), s)

/-- The sequential call of `randomID` or `randomID2`: the ids it returns and the source's next
state. -/
def seqCall (src : Source σ) : Kind → σ → List UInt64 × σ
  | .one, s => ([(randomID src s).1], (randomID src s).2)
  | .two, s => ([(randomID2 src s).1.1, (randomID2 src s).1.2], (randomID2 src s).2)

/-- The calls `ks` made one after another from state `s`: the ids each returned, in order, and
the source's state after them. -/
def seqCalls (src : Source σ) (ks : List Kind) (s : σ) : List (List UInt64) × σ :=
  ks.foldl (fun acc k => (acc.1 ++ [(seqCall src k acc.2).1], (seqCall src k acc.2).2)) ([], s)

theorem seqCalls_append_singleton (src : Source σ) (ks : List Kind) (k : Kind) (s : σ) :
    seqCalls src (ks ++ [k]) s =
      ((seqCalls src ks s).1 ++ [(seqCall src k (seqCalls src ks s).2).1],
        (seqCall src k (seqCalls src ks s).2).2) := by
  rw [seqCalls, List.foldl_append]
  rfl

theorem stream_add (src : Source σ) (s : σ) (m n : Nat) :
    stream src s (m + n) = stream src (stream src s m) n := by
  induction n with
  | zero => rfl
  | succ n ih => exact congrArg (fun t => (src t).2) ih

theorem draws_add (src : Source σ) (s : σ) (m n : Nat) :
    draws src s (m + n) = draws src s m ++ draws src (stream src s m) n := by
  induction n with
  | zero => exact (List.append_nil _).symm
  | succ n ih => rw [← Nat.add_assoc, draws, ih, stream_add, List.append_assoc]; rfl

/-- A call draws the next `count` ids of the stream. -/
theorem seqCall_eq (src : Source σ) (k : Kind) (s : σ) :
    seqCall src k s = (draws src s k.count, stream src s k.count) := by
  cases k <;> rfl

/-- **Calls one after another hand out the stream's draws in order**, each draw once. -/
theorem seqCalls_eq (src : Source σ) (ks : List Kind) (s : σ) :
    (seqCalls src ks s).1.flatten = draws src s (ks.map Kind.count).sum ∧
      (seqCalls src ks s).2 = stream src s (ks.map Kind.count).sum := by
  induction ks using List.reverseRecOn with
  | nil => exact ⟨rfl, rfl⟩
  | append_singleton ks k ih =>
    rw [seqCalls_append_singleton, seqCall_eq, ih.2, List.map_append, List.sum_append,
      List.map_singleton, List.sum_singleton, List.flatten_append, ih.1, draws_add, stream_add]
    exact ⟨by rw [List.flatten_singleton], rfl⟩

theorem int63_lt (x : UInt64) : (int63 x).toNat < 2 ^ 63 := by
  have h : (int63 x).toNat = x.toNat % 2 ^ 63 := by
    rw [int63, UInt64.and_toNat]
    exact Nat.and_pow_two_sub_one_eq_mod x.toNat 63
  rw [h]
  exact Nat.mod_lt _ (Nat.two_pow_pos 63)

theorem lt_of_mem_draws {src : Source σ} {s : σ} {n : Nat} {x : UInt64}
    (hx : x ∈ draws src s n) : x.toNat < 2 ^ 63 := by
  induction n with
  | zero => nomatch hx
  | succ n ih =>
    rcases List.mem_append.1 hx with hx | hx
    · exact ih hx
    · rw [List.mem_singleton.1 hx]
      exact int63_lt _

/-! ## Goroutines drawing ids -/

/-- Where a goroutine stands in a call. -/
inductive Phase (σ : Type)
  /-- in no call yet -/
  | idle
  /-- at `seededIDLock.Lock()` -/
  | locking (k : Kind)
  /-- holding the lock, with the ids drawn so far and the state the draw under way has read -/
  | holding (k : Kind) (got : List UInt64) (snap : Option σ)
  /-- returned `ids` -/
  | returned (k : Kind) (ids : List UInt64)

/-- A goroutine in no call can start one. -/
def Phase.free : Phase σ → Bool
  | .idle => true
  | .returned _ _ => true
  | _ => false

/-- The source's state, `seededIDLock`, every goroutine's phase, and the calls that have
returned, in the order they released the lock, with the ids each returned (what the callers have
received, not state of the program). -/
structure Gen (σ : Type) where
  state : σ
  locked : Bool
  goroutines : Nat → Phase σ
  log : List (Kind × List UInt64)

/-- The seed state, before any call. -/
def Gen.init (s₀ : σ) : Gen σ := ⟨s₀, false, fun _ => .idle, []⟩

/-- What the scheduler does next. -/
inductive Event
  /-- goroutine `g` calls `randomID` or `randomID2` -/
  | call (g : Nat) (k : Kind)
  /-- goroutine `g` makes its next step -/
  | step (g : Nat)
  deriving DecidableEq, Repr

/-- The next step of goroutine `g`: `Lock` waits while the lock is held; a draw reads the
source's state, then writes the next state and keeps the id; after the last draw the deferred
`Unlock` runs and the call returns its ids. -/
def Gen.step (src : Source σ) (s : Gen σ) (g : Nat) : Gen σ :=
  match s.goroutines g with
  | .locking k =>
    if s.locked then s
    else ⟨s.state, true, Function.update s.goroutines g (.holding k [] none), s.log⟩
  | .holding k got none =>
    if got.length < k.count then
      ⟨s.state, s.locked, Function.update s.goroutines g (.holding k got (some s.state)), s.log⟩
    else ⟨s.state, false, Function.update s.goroutines g (.returned k got), s.log ++ [(k, got)]⟩
  | .holding k got (some st) =>
    ⟨(src st).2, s.locked,
      Function.update s.goroutines g (.holding k (got ++ [int63 (src st).1]) none), s.log⟩
  | _ => s

/-- One event; a goroutine already in a call does not start another. -/
def Gen.handle (src : Source σ) (s : Gen σ) : Event → Gen σ
  | .call g k =>
    if (s.goroutines g).free then
      ⟨s.state, s.locked, Function.update s.goroutines g (.locking k), s.log⟩
    else s
  | .step g => s.step src g

/-- A schedule of events. -/
def Gen.run (src : Source σ) (s : Gen σ) (evs : List Event) : Gen σ :=
  evs.foldl (Gen.handle src) s

@[simp]
theorem Gen.run_nil (src : Source σ) (s : Gen σ) : s.run src [] = s := rfl

@[simp]
theorem Gen.run_cons (src : Source σ) (s : Gen σ) (e : Event) (evs : List Event) :
    s.run src (e :: evs) = (s.handle src e).run src evs := rfl

/-! ## Mutual exclusion -/

/-- Between `Lock` and `Unlock`. -/
def Phase.isHolding : Phase σ → Bool
  | .holding _ _ _ => true
  | _ => false

/-- **Mutual exclusion**: a goroutine between `Lock` and `Unlock` holds the lock and is the only
one there. -/
def Exclusive (locked : Bool) (G : Nat → Phase σ) : Prop :=
  ∀ g, (G g).isHolding → locked = true ∧ ∀ h, (G h).isHolding → h = g

theorem isHolding_update {G : Nat → Phase σ} {g h : Nat} {p : Phase σ}
    (hh : (Function.update G g p h).isHolding) :
    (h = g ∧ p.isHolding) ∨ (h ≠ g ∧ (G h).isHolding) := by
  rw [Function.update_apply] at hh
  split_ifs at hh with hhg
  · exact .inl ⟨hhg, hh⟩
  · exact .inr ⟨hhg, hh⟩

/-- Fewer goroutines between `Lock` and `Unlock` keep mutual exclusion. -/
theorem Exclusive.mono {locked : Bool} {G G' : Nat → Phase σ} (hG : Exclusive locked G)
    (hG' : ∀ h, (G' h).isHolding → (G h).isHolding) : Exclusive locked G' :=
  fun g hg => ⟨(hG g (hG' g hg)).1, fun h hh => (hG g (hG' g hg)).2 h (hG' h hh)⟩

/-- With one goroutine at most between `Lock` and `Unlock`, holding the lock. -/
theorem exclusive_of_only {G : Nat → Phase σ} {g : Nat} (hG : ∀ h, (G h).isHolding → h = g) :
    Exclusive true G :=
  fun g' hg' => ⟨rfl, fun h hh => (hG h hh).trans (hG g' hg').symm⟩

/-! ## The invariant -/

section Inv

variable (src : Source σ) (s₀ : σ)

/-- The calls that have returned, made one after another from the seed, return what they
returned and leave the source at `t`. -/
def Replays (s : Gen σ) (t : σ) : Prop :=
  seqCalls src (s.log.map Prod.fst) s₀ = (s.log.map Prod.snd, t)

/-- What a goroutine's phase says of the generator.  The holder's ids are the draws from where
the returned calls left the source, which is at the state after them, and the state its draw
under way read is still the source's; a call that returned is in the log. -/
def Gen.Holds (s : Gen σ) : Phase σ → Prop
  | .holding k got snap =>
    (∃ t, Replays src s₀ s t ∧ s.state = stream src t got.length ∧
      got = draws src t got.length) ∧
    (∀ st ∈ snap, st = s.state ∧ got.length < k.count) ∧ got.length ≤ k.count
  | .returned k ids => (k, ids) ∈ s.log
  | _ => True

/-- **What every schedule keeps.** -/
structure Gen.Inv (s : Gen σ) : Prop where
  exclusive : Exclusive s.locked s.goroutines
  holds : ∀ g, s.Holds src s₀ (s.goroutines g)
  /-- with the lock free, no draw has been made past the returned calls -/
  free : s.locked = false → Replays src s₀ s s.state
  replays : ∃ t, Replays src s₀ s t

/-! ## Every event keeps it -/

variable {src s₀}

theorem Gen.Inv.locked {s : Gen σ} (hs : s.Inv src s₀) {g : Nat}
    (hg : (s.goroutines g).isHolding) : s.locked = true :=
  (hs.exclusive g hg).1

/-- The holder is the only goroutine between `Lock` and `Unlock`. -/
theorem Gen.Inv.not_holding {s : Gen σ} (hs : s.Inv src s₀) {g h : Nat}
    (hg : (s.goroutines g).isHolding) (hne : h ≠ g) : (s.goroutines h).isHolding = false :=
  Bool.eq_false_iff.2 fun hh => hne ((hs.exclusive g hg).2 h hh)

/-- A goroutine's condition after goroutine `g` moved to `p`. -/
theorem holds_update {s : Gen σ} {G : Nat → Phase σ} {g : Nat} {p : Phase σ}
    (hp : s.Holds src s₀ p) (hG : ∀ h, h ≠ g → s.Holds src s₀ (G h)) (h : Nat) :
    s.Holds src s₀ (Function.update G g p h) := by
  rw [Function.update_apply]
  split_ifs with hhg
  · exact hp
  · exact hG h hhg

/-- A phase outside `Lock`..`Unlock` says nothing of the source's state, and stays true as more
calls return. -/
theorem Gen.Holds.grow {s s' : Gen σ} {q : Phase σ} (hs : s.Holds src s₀ q)
    (hq : q.isHolding = false) (h : s.log <+: s'.log) : s'.Holds src s₀ q := by
  cases q with
  | holding => nomatch hq
  | returned k ids => exact h.subset hs
  | _ => trivial

theorem Gen.Inv.call {s : Gen σ} (hs : s.Inv src s₀) (g : Nat) (k : Kind) :
    Gen.Inv src s₀
      ⟨s.state, s.locked, Function.update s.goroutines g (.locking k), s.log⟩ where
  exclusive := hs.exclusive.mono fun h hh => by
    rcases isHolding_update hh with ⟨-, hp⟩ | ⟨-, hh⟩
    · nomatch hp
    · exact hh
  holds := holds_update trivial fun h _ => hs.holds h
  free := hs.free
  replays := hs.replays

/-- `Lock` on a free lock. -/
theorem Gen.Inv.acquire {s : Gen σ} (hs : s.Inv src s₀) (hl : s.locked = false) (g : Nat)
    (k : Kind) :
    Gen.Inv src s₀
      ⟨s.state, true, Function.update s.goroutines g (.holding k [] none), s.log⟩ where
  exclusive := exclusive_of_only fun h hh => by
    rcases isHolding_update hh with ⟨rfl, -⟩ | ⟨-, hh⟩
    · rfl
    · exact absurd (hs.locked hh) (by rw [hl]; exact Bool.false_ne_true)
  holds := holds_update ⟨⟨s.state, hs.free hl, rfl, rfl⟩, nofun, Nat.zero_le _⟩
    fun h _ => hs.holds h
  free := nofun
  replays := hs.replays

/-- The holder reads the source's state for its next draw. -/
theorem Gen.Inv.read {s : Gen σ} (hs : s.Inv src s₀) {g : Nat} {k : Kind} {got : List UInt64}
    (hg : s.goroutines g = .holding k got none) (hlt : got.length < k.count) :
    Gen.Inv src s₀ ⟨s.state, s.locked,
      Function.update s.goroutines g (.holding k got (some s.state)), s.log⟩ := by
  have hgs := hs.holds g
  rw [hg] at hgs
  refine ⟨hs.exclusive.mono fun h hh => ?_,
    holds_update ⟨hgs.1, fun st hst => ⟨(Option.some.inj hst).symm, hlt⟩, hgs.2.2⟩
      fun h _ => hs.holds h, hs.free, hs.replays⟩
  rcases isHolding_update hh with ⟨rfl, -⟩ | ⟨-, hh⟩
  · rw [hg]; rfl
  · exact hh

/-- The holder's draw writes the source's next state and keeps the id. -/
theorem Gen.Inv.write {s : Gen σ} (hs : s.Inv src s₀) {g : Nat} {k : Kind} {got : List UInt64}
    {st : σ} (hg : s.goroutines g = .holding k got (some st)) :
    Gen.Inv src s₀ ⟨(src st).2, s.locked,
      Function.update s.goroutines g (.holding k (got ++ [int63 (src st).1]) none), s.log⟩ := by
  have hgh : (s.goroutines g).isHolding := by rw [hg]; rfl
  have hgs := hs.holds g
  rw [hg] at hgs
  obtain ⟨⟨t, ht, hst, hgot⟩, hsnap, -⟩ := hgs
  obtain ⟨rfl, hlt⟩ := hsnap st rfl
  have hdrawn : ∃ t, Replays src s₀ s t ∧ (src s.state).2 = stream src t (got.length + 1) ∧
      got ++ [int63 (src s.state).1] = draws src t (got.length + 1) :=
    ⟨t, ht, by rw [hst]; rfl, by rw [draws, ← hst, ← hgot]⟩
  refine ⟨hs.exclusive.mono fun h hh => ?_,
    holds_update ⟨by simpa only [List.length_append, List.length_singleton] using hdrawn, nofun,
        by rw [List.length_append]; exact hlt⟩
      fun h hne => (hs.holds h).grow (hs.not_holding hgh hne) (List.prefix_refl _),
    fun hl => absurd (hs.locked hgh) (by rw [hl]; exact Bool.false_ne_true), hs.replays⟩
  rcases isHolding_update hh with ⟨rfl, -⟩ | ⟨-, hh⟩
  · exact hgh
  · exact hh

/-- The deferred `Unlock` after the last draw: the call returns its ids. -/
theorem Gen.Inv.release {s : Gen σ} (hs : s.Inv src s₀) {g : Nat} {k : Kind}
    {got : List UInt64} (hg : s.goroutines g = .holding k got none)
    (hlt : ¬got.length < k.count) :
    Gen.Inv src s₀ ⟨s.state, false, Function.update s.goroutines g (.returned k got),
      s.log ++ [(k, got)]⟩ := by
  have hgh : (s.goroutines g).isHolding := by rw [hg]; rfl
  have hgs := hs.holds g
  rw [hg] at hgs
  obtain ⟨⟨t, ht, hst, hgot⟩, -, hle⟩ := hgs
  have hcount : got.length = k.count := by omega
  have hrep : Replays src s₀ ⟨s.state, false, Function.update s.goroutines g (.returned k got),
      s.log ++ [(k, got)]⟩ s.state := by
    simp only [Replays, List.map_append, List.map_singleton, seqCalls_append_singleton]
    rw [ht, seqCall_eq, ← hcount, ← hst, ← hgot]
  refine ⟨fun h hh => ?_,
    holds_update (List.mem_append_right _ (List.mem_singleton_self _))
      fun h hne => (hs.holds h).grow (hs.not_holding hgh hne) (List.prefix_append _ _),
    fun _ => hrep, ⟨_, hrep⟩⟩
  rcases isHolding_update hh with ⟨-, hp⟩ | ⟨hne, hh⟩
  · nomatch hp
  · exact absurd hh (by rw [hs.not_holding hgh hne]; exact Bool.false_ne_true)

/-- **Every event keeps the invariant.** -/
theorem Gen.Inv.handle {s : Gen σ} (hs : s.Inv src s₀) (e : Event) :
    (s.handle src e).Inv src s₀ := by
  cases e with
  | call g k =>
    simp only [Gen.handle]
    split_ifs
    · exact hs.call g k
    · exact hs
  | step g =>
    simp only [Gen.handle, Gen.step]
    split
    next k _ =>
      split_ifs with hl
      · exact hs
      · exact hs.acquire (Bool.eq_false_iff.2 hl) g k
    next k got hg =>
      split_ifs with hlt
      · exact hs.read hg hlt
      · exact hs.release hg hlt
    next k got st hg => exact hs.write hg
    next => exact hs

theorem Gen.Inv.init : (Gen.init s₀).Inv src s₀ where
  exclusive := nofun
  holds := fun _ => trivial
  free := fun _ => rfl
  replays := ⟨s₀, rfl⟩

theorem Gen.Inv.run {s : Gen σ} (hs : s.Inv src s₀) (evs : List Event) :
    (s.run src evs).Inv src s₀ := by
  induction evs generalizing s with
  | nil => exact hs
  | cons e evs ih => exact ih (hs.handle e)

end Inv

/-- **Concurrent calls are linearizable.**  Under every schedule of calls of `randomID` and
`randomID2` from any goroutines, the calls that have returned, made one after another in the
order they released the lock, return the ids each returned; with the lock free, they leave the
source in the state it is in; and a goroutine's returned call is one of them. -/
theorem run_linearizable (src : Source σ) (s₀ : σ) (evs : List Event) :
    let s := (Gen.init s₀).run src evs
    (seqCalls src (s.log.map Prod.fst) s₀).1 = s.log.map Prod.snd ∧
      (s.locked = false → (seqCalls src (s.log.map Prod.fst) s₀).2 = s.state) ∧
      ∀ g k ids, s.goroutines g = .returned k ids → (k, ids) ∈ s.log := by
  have hs := (Gen.Inv.init : (Gen.init s₀).Inv src s₀).run evs
  obtain ⟨t, ht⟩ := hs.replays
  refine ⟨by rw [ht], fun hl => by rw [hs.free hl], fun g k ids hg => ?_⟩
  have hret := hs.holds g
  rwa [hg] at hret

/-- **No draw is lost or handed out twice.**  Under every schedule, the ids the returned calls
received, in the order they released the lock, are the stream's first draws from the seed, as
many as the calls draw; and every id is below `2^63`. -/
theorem run_ids_draws (src : Source σ) (s₀ : σ) (evs : List Event) :
    let s := (Gen.init s₀).run src evs
    (s.log.map Prod.snd).flatten = draws src s₀ (s.log.map (·.1.count)).sum ∧
      ∀ x ∈ (s.log.map Prod.snd).flatten, x.toNat < 2 ^ 63 := by
  obtain ⟨t, ht⟩ := ((Gen.Inv.init : (Gen.init s₀).Inv src s₀).run evs).replays
  have hflat := (seqCalls_eq src (((Gen.init s₀).run src evs).log.map Prod.fst) s₀).1
  rw [ht, List.map_map] at hflat
  exact ⟨hflat, fun x hx => lt_of_mem_draws (hflat ▸ hx)⟩

/-! ## A call run alone -/

/-- A call of goroutine `g` run to its end with no other goroutine scheduled: the call, `Lock`,
a read and a write for each draw, and the deferred `Unlock`. -/
def soloCall (g : Nat) : Kind → List Event
  | .one => [.call g .one, .step g, .step g, .step g, .step g]
  | .two => [.call g .two, .step g, .step g, .step g, .step g, .step g, .step g]

/-- **A call run alone is the sequential call**: with the lock free, a call of `randomID` or
`randomID2` that no other goroutine interrupts returns what the sequential function returns and
leaves the source where it leaves it. -/
theorem run_soloCall_seqCall (src : Source σ) {s : Gen σ} {g : Nat}
    (hg : (s.goroutines g).free = true) (hl : s.locked = false) (k : Kind) :
    s.run src (soloCall g k) =
      ⟨(seqCall src k s.state).2, false,
        Function.update s.goroutines g (.returned k (seqCall src k s.state).1),
        s.log ++ [(k, (seqCall src k s.state).1)]⟩ := by
  obtain ⟨st, locked, G, log⟩ := s
  dsimp only at hg hl
  subst hl
  cases k <;> simp [soloCall, Gen.handle, Gen.step, hg, Kind.count, seqCall, randomID2, randomID]

/-- With a source whose value is its state, counting up from 7, a lone `randomID2` returns 7
and 8. -/
example :
    ((Gen.init 7).run (fun n : Nat => (n.toUInt64, n + 1)) (soloCall 0 .two)).log =
      [(.two, [7, 8])] := by
  rw [run_soloCall_seqCall _ (s := Gen.init 7) (g := 0) rfl rfl .two]
  rfl

end RandomID
end ScopeAgent
