/-
# Readers that end with a result: bodies, `bytes.Reader`, `io.MultiReader`

A response body yields its bytes and then a terminal result, `io.EOF` or another error,
which every later `Read` repeats; how many bytes each `Read` returns, and whether the terminal
result comes with the last of them, is the body's choice (`Body`).  `bytes.NewReader` serves
a slice and then `io.EOF` (`BytesReader`).  `io.MultiReader` reads its readers one after the
other, drops a reader at its `io.EOF`, and reports `io.EOF` only after the last one
(`multiRead`).

A caller that reads until the first error (`drain`) gets exactly the bytes of a reader and
its terminal result when every read returns the next bytes, makes progress unless it reports
an error, and reports only the terminal result after the last byte (`Honest`,
`drain_of_honest`).  A body is such a reader (`honest_body`), and so is a `bytes.Reader`
spliced in front of a body by `io.MultiReader` (`honest_multiRead`).
-/

import ScopeAgent.Go.Bytes
import Mathlib.Data.List.Basic

namespace ScopeAgent
namespace Io

/-- The result a read ends with: `io.EOF`, or another error (named by a number). -/
inductive ReadError
  | eof
  | other (code : Nat)
  deriving DecidableEq, Repr

/-- A body that yields `rest` and then `term`; `sizes` gives, for each coming read, how many
bytes it returns (clamped to what is asked and what is left, at least one) and whether the
terminal result comes with the last bytes. -/
structure Body where
  rest : Bytes
  sizes : List (Nat × Bool)
  term : ReadError
  deriving DecidableEq, Repr

/-- `body.Read(p)` with `len(p) = n`. -/
def Body.read (b : Body) (n : Nat) : Bytes × Option ReadError × Body :=
  if b.rest = [] then ([], some b.term, b)
  else if n = 0 then ([], none, b)
  else
    let k := max 1 (min (b.sizes.headD (n, false)).1 (min n b.rest.length))
    let err := if (b.sizes.headD (n, false)).2 ∧ k = b.rest.length then some b.term else none
    (b.rest.take k, err, ⟨b.rest.drop k, b.sizes.tail, b.term⟩)

/-- `bytes.Reader` over `s`, at offset `i`. -/
structure BytesReader where
  s : Bytes
  i : Nat
  deriving DecidableEq, Repr

/-- `(*bytes.Reader).Read(b)`: `if r.i >= len(r.s) {return 0, io.EOF}`, then
`n = copy(b, r.s[r.i:]); r.i += n`. -/
def BytesReader.read (r : BytesReader) (n : Nat) : Bytes × Option ReadError × BytesReader :=
  if r.s.length ≤ r.i then ([], some .eof, r)
  else ((r.s.drop r.i).take n, none, ⟨r.s, r.i + min n (r.s.length - r.i)⟩)

/-- A reader inside an `io.MultiReader`. -/
inductive Source
  | bytes (r : BytesReader)
  | body (b : Body)
  deriving DecidableEq, Repr

def Source.read : Source → Nat → Bytes × Option ReadError × Source
  | .bytes r, n => match r.read n with | (got, err, r) => (got, err, .bytes r)
  | .body b, n => match b.read n with | (got, err, b) => (got, err, .body b)

/-- `(*multiReader).Read(p)`: read the first reader; at its `io.EOF` drop it, and go on to
the next unless the read returned bytes; `io.EOF` with bytes becomes `nil` while readers
remain; no reader left is `(0, io.EOF)`. -/
def multiRead : List Source → Nat → Bytes × Option ReadError × List Source
  | [], _ => ([], some .eof, [])
  | r :: rs, n =>
    match r.read n with
    | (got, err, r') =>
      if err = some .eof then
        if 0 < got.length then (got, if rs = [] then some .eof else none, rs)
        else multiRead rs n
      else (got, err, r' :: rs)

/-- A caller reading until the first error, with buffers of the sizes `cs` in turn (then of
one byte): the bytes it gets and the error it stops at.  `fuel` bounds the reads. -/
def drain {σ : Type} (read : σ → Nat → Bytes × Option ReadError × σ) :
    (fuel : Nat) → List Nat → σ → Bytes × Option ReadError
  | 0, _, _ => ([], none)
  | fuel + 1, cs, r =>
    match read r (cs.headD 1) with
    | (got, some e, _) => (got, some e)
    | (got, none, r') =>
      match drain read fuel cs.tail r' with
      | (more, e) => (got ++ more, e)

/-- One read of `n` bytes from `r` is honest for a reader that serves `content r` and then
`term r`, on the states where `inv` holds: it keeps `inv`, returns the next bytes of the
content, keeps the terminal result, makes progress unless it reports an error, and reports
only the terminal result, after the last byte. -/
def HonestRead {σ : Type} (read : σ → Nat → Bytes × Option ReadError × σ) (content : σ → Bytes)
    (term : σ → ReadError) (inv : σ → Prop) (r : σ) (n : Nat) : Prop :=
  inv (read r n).2.2 ∧ content r = (read r n).1 ++ content (read r n).2.2 ∧
    term (read r n).2.2 = term r ∧
    ((read r n).2.1 = none → (read r n).1 ≠ []) ∧
    (∀ e, (read r n).2.1 = some e → e = term r ∧ content (read r n).2.2 = [])

/-- Every read of `n > 0` bytes from a state where `inv` holds is honest. -/
def Honest {σ : Type} (read : σ → Nat → Bytes × Option ReadError × σ) (content : σ → Bytes)
    (term : σ → ReadError) (inv : σ → Prop) : Prop :=
  ∀ r n, inv r → 0 < n → HonestRead read content term inv r n

/-- **Reading until the first error gets the content and the terminal result**, whatever the
sizes of the caller's buffers. -/
theorem drain_of_honest {σ : Type} {read : σ → Nat → Bytes × Option ReadError × σ}
    {content : σ → Bytes} {term : σ → ReadError} {inv : σ → Prop}
    (h : Honest read content term inv) :
    ∀ (fuel : Nat) (cs : List Nat) (r : σ), inv r → (∀ c ∈ cs, 0 < c) →
      (content r).length < fuel → drain read fuel cs r = (content r, some (term r))
  | 0, _, _, _, _, hf => absurd hf (Nat.not_lt_zero _)
  | fuel + 1, cs, r, hr, hcs, hf => by
    have hn : 0 < cs.headD 1 := by
      cases cs with
      | nil => exact Nat.one_pos
      | cons c cs => exact hcs c (List.mem_cons_self c cs)
    obtain ⟨hinv, hcontent, hterm, hprog, herr⟩ := h r _ hr hn
    rw [drain]
    rcases hread : read r (cs.headD 1) with ⟨got, _ | e, r'⟩
    · rw [hread] at hinv hcontent hterm hprog
      have hgot : got ≠ [] := hprog rfl
      have hlen : (content r').length < fuel := by
        have h1 : (content r).length = got.length + (content r').length := by
          rw [hcontent, List.length_append]
        have h2 := List.length_pos.2 hgot
        omega
      have hcs' : ∀ c ∈ cs.tail, 0 < c := fun c hc => hcs c (List.mem_of_mem_tail hc)
      simp only [drain_of_honest h fuel cs.tail r' hinv hcs' hlen, hterm, ← hcontent]
    · rw [hread] at hcontent herr
      obtain ⟨rfl, hnil⟩ := herr e rfl
      simp only [hcontent, hnil, List.append_nil]

/-! ## Bodies -/

/-- Whatever the buffer, a read of a body returns its next bytes and keeps its terminal
result. -/
theorem Body.read_split (b : Body) (n : Nat) :
    b.rest = (b.read n).1 ++ (b.read n).2.2.rest ∧ (b.read n).2.2.term = b.term := by
  unfold Body.read
  split_ifs <;> exact ⟨by simp [List.take_append_drop], rfl⟩

/-- **A body serves its bytes, then its terminal result.** -/
theorem honest_body : Honest Body.read Body.rest Body.term fun _ => True := by
  intro b n _ hn
  obtain ⟨hc, ht⟩ := b.read_split n
  refine ⟨trivial, hc, ht, ?_, ?_⟩ <;> unfold Body.read <;> by_cases hb : b.rest = []
  · simp [hb]
  · have hpos : 0 < b.rest.length := List.length_pos.2 hb
    simp only [if_neg hb, if_neg (Nat.pos_iff_ne_zero.1 hn)]
    exact fun _ => List.ne_nil_of_length_pos (by simp only [List.length_take]; omega)
  · simp [hb]
  · simp only [if_neg hb, if_neg (Nat.pos_iff_ne_zero.1 hn)]
    intro e he
    split_ifs at he with hk
    exact ⟨(Option.some.inj he).symm, List.drop_eq_nil_of_le (by omega)⟩

/-! ## A `bytes.Reader` spliced in front of a body -/

/-- The bytes a reader of an `io.MultiReader` has left. -/
def Source.content : Source → Bytes
  | .bytes r => r.s.drop r.i
  | .body b => b.rest

/-- The bytes an `io.MultiReader` has left: those of its readers, in order. -/
def spliceContent (rs : List Source) : Bytes := rs.flatMap Source.content

/-- Its terminal result: that of its last reader when it is a body, `io.EOF` otherwise. -/
def spliceTerm (rs : List Source) : ReadError :=
  match rs.getLast? with
  | some (.body b) => b.term
  | _ => .eof

/-- The readers of `io.MultiReader(bytes.NewReader(chunk), body)` as reads go on: the
`bytes.Reader` and the body, the body alone once the chunk is read, none once the body has
ended with `io.EOF`. -/
def Spliced (rs : List Source) : Prop :=
  rs = [] ∨ (∃ b, rs = [.body b]) ∨ (∃ r b, rs = [.bytes r, .body b])

/-- A read of the body alone: as the body reads, the body dropped at its `io.EOF`. -/
theorem multiRead_body (b : Body) (n : Nat) :
    multiRead [.body b] n =
      if (b.read n).2.1 = some .eof then ((b.read n).1, some .eof, [])
      else ((b.read n).1, (b.read n).2.1, [.body (b.read n).2.2]) := by
  rcases h : b.read n with ⟨got, err, b'⟩
  simp only [multiRead, Source.read, h]
  split_ifs with he hg <;> simp_all [multiRead]

theorem honestRead_multiRead_body (b : Body) {n : Nat} (hn : 0 < n) :
    HonestRead multiRead spliceContent spliceTerm Spliced [.body b] n := by
  obtain ⟨-, hc, ht, hp, he⟩ := honest_body b n trivial hn
  unfold HonestRead
  rw [multiRead_body]
  split_ifs with heof
  · obtain ⟨hterm, hnil⟩ := he _ heof
    simp only [spliceContent, spliceTerm, List.flatMap_cons, List.flatMap_nil, Source.content,
      List.append_nil, List.getLast?_singleton, List.getLast?_nil] at hc ⊢
    exact ⟨.inl rfl, by rw [hc, hnil, List.append_nil], hterm, fun h => absurd h (by simp),
      fun e h => ⟨(Option.some.inj h) ▸ hterm, trivial⟩⟩
  · simp only [spliceContent, spliceTerm, List.flatMap_cons, List.flatMap_nil, Source.content,
      List.append_nil, List.getLast?_singleton] at hc ⊢
    exact ⟨.inr (.inl ⟨_, rfl⟩), hc, ht, hp, he⟩

/-- What a `bytes.Reader` that has bytes left reads, followed by what it has left after, is
what it had left. -/
theorem take_append_drop_min (l : Bytes) (n : Nat) : l.take n ++ l.drop (min n l.length) = l := by
  rcases le_total n l.length with h | h
  · rw [min_eq_left h, List.take_append_drop]
  · rw [min_eq_right h, List.take_of_length_le h, List.drop_length, List.append_nil]

/-- **A `bytes.Reader` spliced in front of a body serves the chunk, then the body's bytes and
its terminal result.** -/
theorem honest_multiRead : Honest multiRead spliceContent spliceTerm Spliced := by
  intro rs n hrs hn
  rcases hrs with rfl | ⟨b, rfl⟩ | ⟨r, b, rfl⟩
  · simp [HonestRead, multiRead, Spliced, spliceContent, spliceTerm]
  · exact honestRead_multiRead_body b hn
  · by_cases hr : r.s.length ≤ r.i
    · have hread : multiRead [.bytes r, .body b] n = multiRead [.body b] n := by
        simp [multiRead, Source.read, BytesReader.read, hr]
      have hcs : spliceContent [.bytes r, .body b] = spliceContent [.body b] := by
        simp [spliceContent, Source.content, List.drop_eq_nil_of_le hr]
      have hts : spliceTerm [.bytes r, .body b] = spliceTerm [.body b] := rfl
      unfold HonestRead
      rw [hread, hcs, hts]
      exact honestRead_multiRead_body b hn
    · have hpos : 0 < (r.s.drop r.i).length := by simp only [List.length_drop]; omega
      have hread : multiRead [.bytes r, .body b] n =
          ((r.s.drop r.i).take n, none, [.bytes ⟨r.s, r.i + min n (r.s.length - r.i)⟩, .body b]) := by
        simp [multiRead, Source.read, BytesReader.read, hr]
      unfold HonestRead
      rw [hread]
      refine ⟨.inr (.inr ⟨_, _, rfl⟩), ?_, rfl, fun _ => ?_, fun e he => absurd he (by simp)⟩
      · simp only [spliceContent, List.flatMap_cons, List.flatMap_nil, Source.content,
          List.append_nil, ← List.append_assoc, ← List.drop_drop, ← List.length_drop r.i r.s,
          take_append_drop_min]
      · exact List.ne_nil_of_length_pos (by simp only [List.length_take]; omega)

end Io
end ScopeAgent
